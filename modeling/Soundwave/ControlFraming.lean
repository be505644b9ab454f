import Soundwave.ControlMessages
import Soundwave.TransitionRuns

/-!
# Framing of the control stream

Model of `ControlWriter` and `ControlReader` in `crates/transport/src/control.rs`
and of the two `select!` loops that call `receive`: `connected_loop` on the
client and `process_control_messages` on the server.

`receive` consists of two `read_exact` calls, and its progress lives in the
future.  A poll takes what has arrived off the stream, up to what the current
`read_exact` still needs.  When another branch of the `select!` completes, the
future is dropped together with the bytes it has taken, and the next iteration
starts a new one.

The codec of the messages is a parameter: all that is used of it is that
decoding undoes encoding for the messages that are sent.
-/

namespace Soundwave

/-- `MAX_CONTROL_MESSAGE_BYTES`. -/
def maxControlMessageBytes : Nat := 4 * 1024

/-- The errors of `ControlWriter::send` and `ControlReader::receive` that do not
come from the stream itself. -/
inductive TransportError where
  | controlMessageTooLarge (actual maximum : Nat)
  | undecodable
deriving DecidableEq

section Frames

variable (encode : ControlMessage → List UInt8)

/-- The bytes that `send` writes: the length in network byte order, then the
encoded message. -/
def frame (message : ControlMessage) : List UInt8 :=
  beBytes 2 (encode message).length ++ encode message

/-- `ControlWriter::send`. -/
def sendControl (message : ControlMessage) : Except TransportError (List UInt8) :=
  if maxControlMessageBytes < (encode message).length then
    .error (.controlMessageTooLarge (encode message).length maxControlMessageBytes)
  else
    .ok (frame encode message)

/-- The byte stream of a list of messages sent one after another. -/
def sendAll : List ControlMessage → Except TransportError (List UInt8)
  | [] => .ok []
  | message :: messages => do
      let first ← sendControl encode message
      let rest ← sendAll messages
      return first ++ rest

theorem sendAll_eq
    {messages : List ControlMessage}
    (h : ∀ m ∈ messages, (encode m).length ≤ maxControlMessageBytes) :
    sendAll encode messages = .ok (messages.flatMap (frame encode)) := by
  induction messages with
  | nil =>
      rfl
  | cons m messages ih =>
      have hm : ¬ maxControlMessageBytes < (encode m).length :=
        Nat.not_lt.mpr (h m List.mem_cons_self)
      have hrest := ih (fun q hq => h q (List.mem_cons_of_mem _ hq))
      simp only [sendAll, sendControl, hm, if_false, hrest, List.flatMap_cons]
      rfl

end Frames

/-- Progress of a pending `receive`. -/
inductive Receiving where
  | length (got : List UInt8)
  | body (len : Nat) (got : List UInt8)
deriving DecidableEq

/-- Outcome of polling `receive`. -/
inductive ReceivePoll where
  | pending (future : Receiving)
  | ready (result : Except TransportError ControlMessage)

/-- The bytes a pending `receive` has taken off the stream. -/
def Receiving.taken : Receiving → List UInt8
  | .length got => got
  | .body len got => beBytes 2 len ++ got

section Polling

variable (decode : List UInt8 → Option ControlMessage)

/-- Polling the second `read_exact` of `receive` and what follows it. -/
def pollBody (len : Nat) (got available : List UInt8) : ReceivePoll × List UInt8 :=
  let got' := got ++ available.take (len - got.length)
  let rest := available.drop (len - got.length)
  if got'.length < len then
    (.pending (.body len got'), rest)
  else
    match decode got' with
    | some message => (.ready (.ok message), rest)
    | none => (.ready (.error .undecodable), rest)

/-- Polling `receive` with the bytes that have arrived, and the bytes it leaves. -/
def pollReceive : Receiving → List UInt8 → ReceivePoll × List UInt8
  | .body len got, available => pollBody decode len got available
  | .length got, available =>
      let got' := got ++ available.take (2 - got.length)
      let rest := available.drop (2 - got.length)
      if got'.length < 2 then
        (.pending (.length got'), rest)
      else
        let len := beValue got'
        if maxControlMessageBytes < len then
          (.ready (.error (.controlMessageTooLarge len maxControlMessageBytes)), rest)
        else
          pollBody decode len [] rest

end Polling

/-- A `select!` loop around `receive`.  `inFlight` are the bytes that have not
arrived, `buffered` those that have arrived and were not taken. -/
structure ControlLoop where
  inFlight : List UInt8
  buffered : List UInt8
  pending : Receiving
  received : List ControlMessage
  error : Option TransportError
  finished : Bool

/-- What can happen next: bytes arrive, the branch of `receive` is polled (and
the handler of a message it returns may leave the loop), or another branch
completes. -/
inductive ControlEvent where
  | arrive (count : Nat)
  | poll (leaves : Bool)
  | otherBranch
deriving DecidableEq

namespace ControlLoop

section Steps

variable (decode : List UInt8 → Option ControlMessage)

/-- The loop at its start, with a byte stream to come. -/
def start (stream : List UInt8) : ControlLoop where
  inFlight := stream
  buffered := []
  pending := .length []
  received := []
  error := none
  finished := false

/-- One step of the loop. -/
def step (s : ControlLoop) : ControlEvent → ControlLoop
  | .arrive count =>
      { s with
          inFlight := s.inFlight.drop count
          buffered := s.buffered ++ s.inFlight.take count }
  | .poll leaves =>
      if s.finished then
        s
      else
        match pollReceive decode s.pending s.buffered with
        | (.pending future, rest) => { s with pending := future, buffered := rest }
        | (.ready (.ok message), rest) =>
            { s with
                pending := .length []
                buffered := rest
                received := s.received ++ [message]
                finished := leaves }
        | (.ready (.error e), rest) =>
            { s with buffered := rest, error := some e, finished := true }
  | .otherBranch =>
      if s.finished then s else { s with pending := .length [] }

/-- Let everything arrive and give the reader one turn for each message sent. -/
def complete (s : ControlLoop) (messages : List ControlMessage) : ControlLoop :=
  run (step decode) s
    (.arrive s.inFlight.length :: List.replicate messages.length (.poll false))

/-- No error, nothing but the messages sent, and all of them if the loop goes on. -/
structure Delivers (messages : List ControlMessage) (s : ControlLoop) : Prop where
  no_error : s.error = none
  in_order : s.received <+: messages
  all : s.finished = false → (s.complete decode messages).received = messages

end Steps

end ControlLoop

section Synchrony

variable {encode : ControlMessage → List UInt8} {decode : List UInt8 → Option ControlMessage}

/-- One `read_exact` on a stream that goes on with `word`, of which it has taken `got`: all
that has arrived is still too short, or `word` is complete. -/
theorem readExact_spec {word got available later more : List UInt8}
    (hgot : got.length ≤ word.length)
    (hstream : got ++ (available ++ later) = word ++ more) :
    (available.take (word.length - got.length) = available ∧
        available.drop (word.length - got.length) = [] ∧
        (got ++ available).length < word.length) ∨
      (got ++ available.take (word.length - got.length) = word ∧
        available.drop (word.length - got.length) ++ later = more) := by
  by_cases hshort : got.length + available.length < word.length
  · left
    rw [List.length_append]
    exact ⟨List.take_of_length_le (by omega), List.drop_of_length_le (by omega), hshort⟩
  · right
    have hsplit := List.take_append_drop (word.length - got.length) available
    have hlen : (got ++ available.take (word.length - got.length)).length = word.length := by
      rw [List.length_append, List.length_take]
      omega
    have hboth : (got ++ available.take (word.length - got.length)) ++
        (available.drop (word.length - got.length) ++ later) = word ++ more := by
      rw [← hstream]
      conv_rhs => rw [← hsplit]
      simp only [List.append_assoc]
    exact List.append_inj hboth hlen

theorem pollBody_spec
    {message : ControlMessage} {got available later more : List UInt8}
    (hround : decode (encode message) = some message)
    (hgot : got.length ≤ (encode message).length)
    (hstream : got ++ (available ++ later) = encode message ++ more) :
    (pollBody decode (encode message).length got available =
        (.pending (.body (encode message).length (got ++ available)), []) ∧
      (got ++ available).length < (encode message).length) ∨
    ∃ rest, pollBody decode (encode message).length got available =
        (.ready (.ok message), rest) ∧ rest ++ later = more := by
  rcases readExact_spec hgot hstream with ⟨htake, hdrop, hlen⟩ | ⟨hgot', hrest⟩
  · left
    refine ⟨?_, hlen⟩
    simp only [pollBody, htake, hdrop, hlen, if_true]
  · right
    refine ⟨available.drop ((encode message).length - got.length), ?_, hrest⟩
    simp only [pollBody, hgot', Nat.lt_irrefl, if_false, hround]

/-- A pending `receive` that has taken a proper part of a frame. -/
structure PartOf (encode : ControlMessage → List UInt8) (message : ControlMessage)
    (future : Receiving) : Prop where
  short : future.taken.length < (frame encode message).length
  length : ∀ got, future = .length got → got.length < 2
  body : ∀ len got, future = .body len got → len = (encode message).length

theorem length_frame (encode : ControlMessage → List UInt8) (message : ControlMessage) :
    (frame encode message).length = 2 + (encode message).length := by
  rw [frame, List.length_append, length_beBytes]

theorem PartOf.of_body {message : ControlMessage} {got : List UInt8}
    (h : got.length < (encode message).length) :
    PartOf encode message (.body (encode message).length got) where
  short := by
    rw [Receiving.taken, List.length_append, length_beBytes, length_frame]
    omega
  length := fun _ heq => by cases heq
  body := fun _ _ heq => by
    cases heq
    rfl

theorem PartOf.of_length {message : ControlMessage} {got : List UInt8} (h : got.length < 2) :
    PartOf encode message (.length got) where
  short := by
    rw [Receiving.taken, length_frame]
    omega
  length := fun _ heq => by
    cases heq
    exact h
  body := fun _ _ heq => by cases heq

/-- **Polling without a drop.**  On a stream that continues with a frame, the
poll waits with a larger part of it or returns its message. -/
theorem pollReceive_spec
    {message : ControlMessage} {future : Receiving} {available later more : List UInt8}
    (hround : decode (encode message) = some message)
    (hsize : (encode message).length ≤ maxControlMessageBytes)
    (hpart : PartOf encode message future)
    (hstream : future.taken ++ (available ++ later) = frame encode message ++ more) :
    (∃ future', pollReceive decode future available = (.pending future', []) ∧
      PartOf encode message future' ∧ future'.taken = future.taken ++ available) ∨
    ∃ rest, pollReceive decode future available = (.ready (.ok message), rest) ∧
      rest ++ later = more := by
  have hmax : maxControlMessageBytes = 4096 := rfl
  cases future with
  | body len got =>
      obtain rfl := hpart.body len got rfl
      have hshort := hpart.short
      rw [Receiving.taken, List.length_append, length_beBytes, length_frame] at hshort
      have hbody : got ++ (available ++ later) = encode message ++ more := by
        simp only [Receiving.taken, frame, List.append_assoc] at hstream
        exact List.append_cancel_left hstream
      rcases pollBody_spec hround (by omega) hbody with ⟨hpoll, hless⟩ | hready
      · refine Or.inl ⟨_, hpoll, .of_body hless, ?_⟩
        simp only [Receiving.taken, List.append_assoc]
      · exact Or.inr hready
  | length got =>
      have hgot := hpart.length got rfl
      let word := beBytes 2 (encode message).length
      have hword : word.length = 2 := length_beBytes 2 _
      have hstream' : got ++ (available ++ later) = word ++ (encode message ++ more) := by
        rw [← List.append_assoc word]
        exact hstream
      rcases readExact_spec (by omega) hstream' with ⟨htake, hdrop, hlen⟩ | ⟨hgot', hbody⟩
      · rw [hword] at htake hdrop hlen
        refine Or.inl ⟨.length (got ++ available), ?_, .of_length hlen, rfl⟩
        simp only [pollReceive, htake, hdrop, hlen, if_true]
      · rw [hword] at hgot' hbody
        have hvalue : beValue word = (encode message).length :=
          beValue_beBytes 2 _ (by omega)
        have htwo : ¬ word.length < 2 := by omega
        have hpoll : pollReceive decode (.length got) available =
            pollBody decode (encode message).length [] (available.drop (2 - got.length)) := by
          simp only [pollReceive, hgot', htwo, if_false, hvalue, Nat.not_lt.mpr hsize]
        rw [hpoll]
        have hstart : [] ++ (available.drop (2 - got.length) ++ later) =
            encode message ++ more := hbody
        rcases pollBody_spec hround (Nat.zero_le _) hstart with ⟨hpending, hless⟩ | hready
        · refine Or.inl ⟨_, hpending, .of_body hless, ?_⟩
          have hsplit := List.take_append_drop (2 - got.length) available
          calc word ++ ([] ++ available.drop (2 - got.length))
              = (got ++ available.take (2 - got.length)) ++ available.drop (2 - got.length) := by
                rw [hgot', List.nil_append]
            _ = got ++ available := by rw [List.append_assoc, hsplit]
        · exact Or.inr hready

theorem partOf_fresh (encode : ControlMessage → List UInt8) (message : ControlMessage) :
    PartOf encode message (.length []) :=
  .of_length Nat.zero_lt_two

namespace ControlLoop

/-- The reader stands in the frame of the first message of `rest`, and the bytes
it has taken together with those to come are the frames of `rest`. -/
structure InSync
    (encode : ControlMessage → List UInt8) (messages : List ControlMessage)
    (s : ControlLoop) (rest : List ControlMessage) : Prop where
  no_error : s.error = none
  split : s.received ++ rest = messages
  stream : s.finished = false →
    s.pending.taken ++ (s.buffered ++ s.inFlight) = rest.flatMap (frame encode)
  part : s.finished = false → ∀ m ms, rest = m :: ms → PartOf encode m s.pending

theorem inSync_start
    (encode : ControlMessage → List UInt8) (messages : List ControlMessage) :
    InSync encode messages (start (messages.flatMap (frame encode))) messages := by
  refine ⟨rfl, rfl, ?_, ?_⟩
  · intro _
    rfl
  · intro _ m ms _
    exact partOf_fresh encode m

/-- Once all messages were returned, nothing is left to take. -/
theorem inSync_nil
    {messages : List ControlMessage} {s : ControlLoop}
    (h : InSync encode messages s []) (hopen : s.finished = false) :
    s.pending = .length [] ∧ s.buffered = [] ∧ s.inFlight = [] := by
  have hstream := h.stream hopen
  rw [List.flatMap_nil, List.append_eq_nil_iff, List.append_eq_nil_iff] at hstream
  refine ⟨?_, hstream.2⟩
  cases hpending : s.pending with
  | length got =>
      rw [hpending] at hstream
      have hnil : got = [] := hstream.1
      rw [hnil]
  | body len got =>
      rw [hpending] at hstream
      have hlen := congrArg List.length hstream.1
      simp [Receiving.taken] at hlen

/-- A poll with everything arrived returns the next message. -/
theorem step_poll_cons
    {messages ms : List ControlMessage} {m : ControlMessage} {s : ControlLoop}
    (hround : decode (encode m) = some m)
    (hsize : (encode m).length ≤ maxControlMessageBytes)
    (h : InSync encode messages s (m :: ms)) (hopen : s.finished = false) (leaves : Bool) :
    (∃ future, s.step decode (.poll leaves) =
        { s with pending := future, buffered := [] } ∧
      PartOf encode m future ∧ future.taken = s.pending.taken ++ s.buffered) ∨
    ∃ rest, s.step decode (.poll leaves) =
        { s with
            pending := .length []
            buffered := rest
            received := s.received ++ [m]
            finished := leaves } ∧
      rest ++ s.inFlight = ms.flatMap (frame encode) := by
  have hstream := h.stream hopen
  rw [List.flatMap_cons] at hstream
  rcases pollReceive_spec hround hsize (h.part hopen m ms rfl) hstream with
    ⟨future, hpoll, hpart, htaken⟩ | ⟨rest, hpoll, hrest⟩
  · left
    refine ⟨future, ?_, hpart, htaken⟩
    simp only [step, hopen, Bool.false_eq_true, if_false, hpoll]
  · right
    refine ⟨rest, ?_, hrest⟩
    simp only [step, hopen, Bool.false_eq_true, if_false, hpoll]

theorem step_poll_nil
    {messages : List ControlMessage} {s : ControlLoop}
    (h : InSync encode messages s []) (hopen : s.finished = false) (leaves : Bool) :
    s.step decode (.poll leaves) = s := by
  obtain ⟨hpending, hbuffered, hflight⟩ := inSync_nil h hopen
  obtain ⟨inFlight, buffered, pending, received, error, finished⟩ := s
  simp only at hpending hbuffered hflight hopen
  subst hpending hbuffered hflight hopen
  simp [step, pollReceive]

/-- **Step lemma.**  Every step keeps the reader in sync, as long as no other
branch completes in the middle of a frame. -/
theorem inSync_step
    {messages : List ControlMessage}
    (hround : ∀ m ∈ messages, decode (encode m) = some m)
    (hsize : ∀ m ∈ messages, (encode m).length ≤ maxControlMessageBytes)
    {s : ControlLoop} {e : ControlEvent}
    (h : ∃ rest, InSync encode messages s rest)
    (hok : e = .otherBranch → s.pending = .length []) :
    ∃ rest, InSync encode messages (s.step decode e) rest := by
  obtain ⟨rest, h⟩ := h
  cases e with
  | arrive count =>
      refine ⟨rest, h.no_error, h.split, ?_, h.part⟩
      intro hopen
      have hstream := h.stream hopen
      simp only [step, List.append_assoc, List.take_append_drop]
      exact hstream
  | otherBranch =>
      have hpending := hok rfl
      have hsame : s.step decode .otherBranch = s := by
        obtain ⟨inFlight, buffered, pending, received, error, finished⟩ := s
        simp only at hpending
        subst hpending
        cases finished <;> rfl
      rw [hsame]
      exact ⟨rest, h⟩
  | poll leaves =>
      cases hopen : s.finished with
      | true =>
          have hsame : s.step decode (.poll leaves) = s := by
            simp only [step, hopen, if_true]
          rw [hsame]
          exact ⟨rest, h⟩
      | false =>
          cases rest with
          | nil =>
              rw [step_poll_nil h hopen leaves]
              exact ⟨[], h⟩
          | cons m ms =>
              have hm : m ∈ messages := by
                rw [← h.split]
                exact List.mem_append_right _ List.mem_cons_self
              have hstream := h.stream hopen
              rcases step_poll_cons (hround m hm) (hsize m hm) h hopen leaves with
                ⟨future, hstep, hpart, htaken⟩ | ⟨rest, hstep, hrest⟩
              · refine ⟨m :: ms, ?_⟩
                rw [hstep]
                refine ⟨h.no_error, h.split, ?_, ?_⟩
                · intro _
                  simp only [htaken, List.nil_append, List.append_assoc]
                  exact hstream
                · intro _ m' ms' heq
                  cases heq
                  exact hpart
              · refine ⟨ms, ?_⟩
                rw [hstep]
                refine ⟨h.no_error, ?_, ?_, ?_⟩
                · simp only [List.append_assoc, List.singleton_append]
                  exact h.split
                · intro _
                  exact hrest
                · intro _ m' ms' _
                  exact partOf_fresh encode m'

/-- With everything arrived, every poll returns the next message. -/
theorem run_polls
    {messages : List ControlMessage}
    (hround : ∀ m ∈ messages, decode (encode m) = some m)
    (hsize : ∀ m ∈ messages, (encode m).length ≤ maxControlMessageBytes)
    (count : Nat) {s : ControlLoop} {rest : List ControlMessage}
    (h : InSync encode messages s rest) (hopen : s.finished = false)
    (harrived : s.inFlight = []) (hcount : rest.length ≤ count) :
    (run (step decode) s (List.replicate count (.poll false))).received = messages := by
  induction count generalizing s rest with
  | zero =>
      have hnil : rest = [] := List.eq_nil_of_length_eq_zero (Nat.le_zero.mp hcount)
      have hsplit := h.split
      rw [hnil, List.append_nil] at hsplit
      exact hsplit
  | succ count ih =>
      rw [List.replicate_succ, run_cons]
      cases rest with
      | nil =>
          rw [step_poll_nil h hopen false]
          exact ih h hopen harrived (Nat.zero_le _)
      | cons m ms =>
          have hm : m ∈ messages := by
            rw [← h.split]
            exact List.mem_append_right _ List.mem_cons_self
          have hstream := h.stream hopen
          rcases step_poll_cons (hround m hm) (hsize m hm) h hopen false with
            ⟨future, hstep, hpart, htaken⟩ | ⟨rest, hstep, hrest⟩
          · have hlen := congrArg List.length hstream
            have hshort := hpart.short
            rw [htaken] at hshort
            simp only [harrived, List.append_nil, List.flatMap_cons, List.length_append]
              at hlen hshort
            omega
          · have hnext : InSync encode messages (s.step decode (.poll false)) ms := by
              rw [hstep]
              refine ⟨h.no_error, ?_, fun _ => hrest, fun _ m' ms' _ => partOf_fresh encode m'⟩
              simp only [List.append_assoc, List.singleton_append]
              exact h.split
            apply ih hnext
            · rw [hstep]
            · rw [hstep]
              exact harrived
            · exact Nat.le_of_succ_le_succ hcount

theorem delivers_of_inSync
    {messages : List ControlMessage}
    (hround : ∀ m ∈ messages, decode (encode m) = some m)
    (hsize : ∀ m ∈ messages, (encode m).length ≤ maxControlMessageBytes)
    {s : ControlLoop} {rest : List ControlMessage}
    (h : InSync encode messages s rest) :
    s.Delivers decode messages := by
  refine ⟨h.no_error, ⟨rest, h.split⟩, ?_⟩
  intro hopen
  have harrived : InSync encode messages (s.step decode (.arrive s.inFlight.length)) rest := by
    refine ⟨h.no_error, h.split, ?_, h.part⟩
    intro _
    simp only [step, List.drop_length, List.take_length, List.append_nil]
    exact h.stream hopen
  have hcount : rest.length ≤ messages.length := by
    rw [← h.split, List.length_append]
    omega
  simp only [complete, run_cons]
  exact run_polls hround hsize messages.length harrived hopen (by simp [step]) hcount

/-- **Framing under select.**  In every run in which the other branches complete
only while the pending `receive` has taken nothing, exactly the messages sent
are returned, however the stream is split. -/
theorem delivers_of_whole_frames
    (encode : ControlMessage → List UInt8) (decode : List UInt8 → Option ControlMessage)
    (messages : List ControlMessage)
    (hround : ∀ m ∈ messages, decode (encode m) = some m)
    (hsize : ∀ m ∈ messages, (encode m).length ≤ maxControlMessageBytes)
    (es : List ControlEvent)
    (hes : Along (step decode) (fun s e => e = .otherBranch → s.pending = .length [])
      (start (messages.flatMap (frame encode))) es) :
    sendAll encode messages = .ok (messages.flatMap (frame encode)) ∧
      (run (step decode) (start (messages.flatMap (frame encode))) es).Delivers
        decode messages := by
  refine ⟨sendAll_eq encode hsize, ?_⟩
  obtain ⟨rest, h⟩ := run_invariant
    (fun s => ∃ rest, InSync encode messages s rest)
    (fun s e h hok => inSync_step hround hsize h hok)
    ⟨messages, inSync_start encode messages⟩ hes
  exact delivers_of_inSync hround hsize h

/-- Two notices whose frames arrive in odd pieces; the timer fires in between. -/
theorem delivers_of_whole_frames_two_notices :
    sendAll ControlMessage.encode [.audioIdle 300, .stop] = .ok [0, 3, 5, 172, 2, 0, 1, 3] ∧
      Along (step ControlMessage.decode) (fun s e => e = .otherBranch → s.pending = .length [])
        (start [0, 3, 5, 172, 2, 0, 1, 3])
        [.arrive 1, .poll false, .arrive 3, .poll false, .arrive 2, .poll false, .otherBranch,
          .arrive 2] ∧
      (run (step ControlMessage.decode) (start [0, 3, 5, 172, 2, 0, 1, 3])
        [.arrive 1, .poll false, .arrive 3, .poll false, .arrive 2, .poll false, .otherBranch,
          .arrive 2]).Delivers ControlMessage.decode [.audioIdle 300, .stop] := by
  have hframes : [.audioIdle 300, .stop].flatMap (frame ControlMessage.encode) =
      [0, 3, 5, 172, 2, 0, 1, 3] := by
    decide
  have halong : Along (step ControlMessage.decode)
      (fun s e => e = .otherBranch → s.pending = .length [])
      (start ([.audioIdle 300, .stop].flatMap (frame ControlMessage.encode)))
      [.arrive 1, .poll false, .arrive 3, .poll false, .arrive 2, .poll false, .otherBranch,
        .arrive 2] := by
    decide
  have h := delivers_of_whole_frames ControlMessage.encode ControlMessage.decode
    [.audioIdle 300, .stop] (by decide) (by decide) _ halong
  rw [hframes] at h halong
  exact ⟨h.1, halong, h.2⟩

/-- **A dropped `receive` loses its bytes.**  One message; the datagram branch
completes when the length and one byte of the body were taken.  The new
`receive` then reads the middle of the body as a length and fails. -/
theorem dropped_receive_breaks_framing :
    sendAll ControlMessage.encode [.setVolume 300 5 .user] = .ok [0, 5, 7, 172, 2, 5, 0] ∧
      (run (step ControlMessage.decode) (start [0, 5, 7, 172, 2, 5, 0])
        [.arrive 3, .poll false, .otherBranch, .arrive 4, .poll false]).error =
          some (.controlMessageTooLarge 44034 4096) ∧
      ¬ (run (step ControlMessage.decode) (start [0, 5, 7, 172, 2, 5, 0])
        [.arrive 3, .poll false, .otherBranch, .arrive 4, .poll false]).Delivers
          ControlMessage.decode [.setVolume 300 5 .user] := by
  have herror : (run (step ControlMessage.decode) (start [0, 5, 7, 172, 2, 5, 0])
      [.arrive 3, .poll false, .otherBranch, .arrive 4, .poll false]).error =
        some (.controlMessageTooLarge 44034 4096) := by
    decide
  refine ⟨by decide, herror, ?_⟩
  intro h
  have hnone := h.no_error
  rw [herror] at hnone
  cases hnone

end ControlLoop

end Synchrony

end Soundwave

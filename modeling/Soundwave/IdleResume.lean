import Soundwave.ReceiverPipeline
import Soundwave.TransitionRuns

/-!
# Idle notices and resumed audio

Model of the audio part of `connected_loop` in
`android/app/src/main/rust/src/client.rs`, together with a server that numbers
its packets consecutively and announces idle periods.  Packets and notices
travel on two channels; each is FIFO, and either may lag behind the other.

The server's side of the state is the log of everything sent.  A position is an
index into that log, a sequence number is its serial number, and an idle notice
carries the position of the next unsent packet.
-/

namespace Soundwave

/-- The variables of `connected_loop` that audio and idle notices touch;
`idleArmed` says that `idle_deadline` is set. -/
structure ClientLoop where
  pipeline : ReceiverPipeline
  newestSequence : Option UInt32
  idleBoundary : Option UInt32
  idleArmed : Bool
  audioActive : Bool

namespace ClientLoop

section Branches

/-- The loop before its first iteration. -/
def start (pipeline : ReceiverPipeline) : ClientLoop where
  pipeline := pipeline
  newestSequence := none
  idleBoundary := none
  idleArmed := false
  audioActive := false

/-- The boundary at which an arriving packet resumes playback, if it does. -/
def resumesAt (c : ClientLoop) (packet : AudioPacket) : Option UInt32 :=
  match c.idleBoundary with
  | some boundary => if isBefore packet.sequence boundary then none else some boundary
  | none => none

/-- First half of the datagram branch: resume at a reached boundary. -/
def resumed (c : ClientLoop) (packet : AudioPacket) : ClientLoop :=
  match c.resumesAt packet with
  | some boundary =>
      { c with
          pipeline := c.pipeline.resume boundary
          idleBoundary := none
          idleArmed := false }
  | none => c

/-- Second half of the datagram branch: handle the packet. -/
def handled (c : ClientLoop) (packet : AudioPacket) : ClientLoop :=
  let (pipeline, ok) := c.pipeline.handlePacket packet
  if ok then
    { c with
        pipeline := pipeline
        newestSequence :=
          match c.newestSequence with
          | some newest =>
              if isBefore packet.sequence newest then some newest else some packet.sequence
          | none => some packet.sequence
        audioActive := if c.idleBoundary.isNone then true else c.audioActive }
  else
    { c with pipeline := pipeline }

/-- The datagram branch. -/
def onPacket (c : ClientLoop) (packet : AudioPacket) : ClientLoop :=
  (c.resumed packet).handled packet

/-- The branch for `ControlMessage::AudioIdle`. -/
def onAudioIdle (c : ClientLoop) (nextSequence : UInt32) : ClientLoop :=
  let ahead :=
    match c.newestSequence with
    | some newest => isBefore newest nextSequence
    | none => true
  if ahead then
    { c with idleBoundary := some nextSequence, idleArmed := true }
  else
    c

/-- The branch of the idle timer, enabled only while the deadline is set. -/
def onIdleTimer (c : ClientLoop) : ClientLoop :=
  if c.idleArmed then
    { c with idleArmed := false, audioActive := false }
  else
    c

/-- A packet never switches the audio off. -/
theorem onPacket_audioActive (c : ClientLoop) (packet : AudioPacket)
    (hon : c.audioActive = true) : (c.onPacket packet).audioActive = true := by
  have hresumed : (c.resumed packet).audioActive = true := by
    rw [resumed]
    cases c.resumesAt packet with
    | none =>
        exact hon
    | some boundary =>
        exact hon
  simp only [onPacket, handled]
  split_ifs
  · rfl
  · exact hresumed
  · exact hresumed

end Branches

end ClientLoop

/-- What happened to the packets that went through the jitter buffer. -/
inductive PlaybackEntry where
  | output (o : JitterOutput)
  | omitted (packets : SortedMap UInt32 AudioPacket) (targetPackets : Nat)

/-- Server, channels and client.  `sent`, `delivered` and `history` are logs: all
packets sent, the boundaries of all delivered notices, and what the jitter buffer
put out or dropped at a resume. -/
structure IdleSystem where
  client : ClientLoop
  sent : List AudioPacket
  handled : Nat
  notices : List Nat
  delivered : List Nat
  history : List PlaybackEntry

/-- What can happen next. -/
inductive IdleEvent where
  | sendPacket (timestamp : UInt64) (payload : List UInt8)
  | sendIdle
  | deliverPacket
  | deliverIdle
  | idleTimer
  | readRing (len : Nat)
  | clearRing

namespace IdleSystem

section Steps

/-- A freshly set up connection. -/
def start (pipeline : ReceiverPipeline) : IdleSystem where
  client := .start pipeline
  sent := []
  handled := 0
  notices := []
  delivered := []
  history := []

/-- What a resume drops. -/
def dropped (c : ClientLoop) (packet : AudioPacket) : List PlaybackEntry :=
  match c.resumesAt packet with
  | some _ => [.omitted c.pipeline.jitter.packets c.pipeline.jitter.targetPackets]
  | none => []

/-- One step of the server, a channel, the client or the playback thread. -/
def step (s : IdleSystem) : IdleEvent → IdleSystem
  | .sendPacket timestamp payload =>
      { s with
          sent := s.sent ++
            [{ sequence := serial s.sent.length, timestamp := timestamp, payload := payload }] }
  | .sendIdle => { s with notices := s.notices ++ [s.sent.length] }
  | .deliverPacket =>
      match s.sent[s.handled]? with
      | none => s
      | some packet =>
          { s with
              client := s.client.onPacket packet
              handled := s.handled + 1
              history := s.history ++ dropped s.client packet ++
                ((s.client.resumed packet).pipeline.emitted packet).map PlaybackEntry.output }
  | .deliverIdle =>
      match s.notices with
      | [] => s
      | n :: notices =>
          { s with
              client := s.client.onAudioIdle (serial n)
              notices := notices
              delivered := s.delivered ++ [n] }
  | .idleTimer => { s with client := s.client.onIdleTimer }
  | .readRing len =>
      { s with
          client := { s.client with
            pipeline := { s.client.pipeline with
              ring := (s.client.pipeline.ring.readInto len).2.2 } } }
  | .clearRing =>
      { s with
          client := { s.client with
            pipeline := { s.client.pipeline with ring := s.client.pipeline.ring.clear } } }

/-- Fewer than `2 ^ 31` packets are in flight: neither channel lags behind the
server by more. -/
def FewInFlight (s : IdleSystem) : Prop :=
  s.sent.length < s.handled + 2 ^ 31 ∧ ∀ n ∈ s.notices, s.sent.length < n + 2 ^ 31

/-- The server sends packets of the agreed size. -/
def WellSized (samplesPerPacket : Nat) : IdleEvent → Prop
  | .sendPacket _ payload => payload.length = samplesPerPacket * 2
  | _ => True

/-- The side condition of a run. -/
def Admissible (samplesPerPacket : Nat) (s : IdleSystem) (e : IdleEvent) : Prop :=
  s.FewInFlight ∧ WellSized samplesPerPacket e

end Steps

section Histories

/-- The history reads the packets off one after the other: an output is the next
packet as audio, an omission skips exactly the packets that were buffered, fewer
than the target.  `rest` is what has not been read. -/
def Reads : List PlaybackEntry → List AudioPacket → List AudioPacket → Prop
  | [], packets, rest => packets = rest
  | .output o :: history, packets, rest =>
      ∃ q tail, o = .audio q ∧ packets = q :: tail ∧ Reads history tail rest
  | .omitted buffered target :: history, packets, rest =>
      ∃ skipped tail, packets = skipped ++ tail ∧ Holds buffered skipped ∧
        skipped.length < target ∧ Reads history tail rest

theorem reads_append
    {history history' : List PlaybackEntry} {packets mid rest : List AudioPacket}
    (h : Reads history packets mid) (h' : Reads history' mid rest) :
    Reads (history ++ history') packets rest := by
  induction history generalizing packets with
  | nil =>
      have heq : packets = mid := h
      rw [heq]
      exact h'
  | cons entry history ih =>
      cases entry with
      | output o =>
          obtain ⟨q, tail, ho, hpackets, htail⟩ := h
          exact ⟨q, tail, ho, hpackets, ih htail⟩
      | omitted buffered target =>
          obtain ⟨skipped, tail, hpackets, hholds, hlt, htail⟩ := h
          exact ⟨skipped, tail, hpackets, hholds, hlt, ih htail⟩

/-- Packets that arrive later are left unread. -/
theorem reads_more
    {history : List PlaybackEntry} {packets rest : List AudioPacket}
    (h : Reads history packets rest) (more : List AudioPacket) :
    Reads history (packets ++ more) (rest ++ more) := by
  induction history generalizing packets with
  | nil =>
      have heq : packets = rest := h
      rw [heq]
      rfl
  | cons entry history ih =>
      cases entry with
      | output o =>
          obtain ⟨q, tail, ho, hpackets, htail⟩ := h
          exact ⟨q, tail ++ more, ho, by rw [hpackets, List.cons_append], ih htail⟩
      | omitted buffered target =>
          obtain ⟨skipped, tail, hpackets, hholds, hlt, htail⟩ := h
          exact ⟨skipped, tail ++ more, by rw [hpackets, List.append_assoc], hholds, hlt,
            ih htail⟩

theorem reads_heard (heard rest : List AudioPacket) :
    Reads ((heard.map JitterOutput.audio).map PlaybackEntry.output) (heard ++ rest) rest := by
  induction heard with
  | nil =>
      rfl
  | cons p heard ih =>
      exact ⟨p, heard ++ rest, rfl, rfl, ih⟩

end Histories

section Synchrony

/-- Client, channels and server agree: the pipeline holds back the packets `ps`
up to the last handled one, a pending boundary lies at or beyond the next
packet, and the history accounts for all packets handled. -/
structure Synced
    (samplesPerPacket : Nat) (s : IdleSystem) (first : Nat) (ps : List AudioPacket) :
    Prop where
  numbered : Numbered 0 s.sent
  sized : ∀ packet ∈ s.sent, packet.payload.length = samplesPerPacket * 2
  handled_le : s.handled ≤ s.sent.length
  pipeline : s.client.pipeline.InOrder samplesPerPacket first ps
  position : first + ps.length = s.handled
  newest : (s.handled = 0 ∧ s.client.newestSequence = none) ∨
    ∃ last, s.handled = last + 1 ∧ s.client.newestSequence = some (serial last)
  boundary : ∀ b, s.client.idleBoundary = some b →
    ∃ n ∈ s.delivered, b = serial n ∧ s.handled ≤ n ∧ n ≤ s.sent.length
  armed : s.client.idleArmed = true → s.client.idleBoundary ≠ none
  notices : ∀ n ∈ s.notices, n ≤ s.sent.length
  history : Reads s.history (s.sent.take s.handled) ps

theorem numbered_getElem?
    {first i : Nat} {ps : List AudioPacket} {p : AudioPacket}
    (h : Numbered first ps) (hi : ps[i]? = some p) :
    p.sequence = serial (first + i) := by
  induction ps generalizing first i with
  | nil =>
      simp at hi
  | cons q ps ih =>
      cases i with
      | zero =>
          rw [List.getElem?_cons_zero, Option.some.injEq] at hi
          rw [← hi]
          exact h.1
      | succ i =>
          rw [List.getElem?_cons_succ] at hi
          rw [ih h.2 hi]
          congr 1
          omega

/-- The next packet of the datagram channel. -/
theorem next_packet
    {samplesPerPacket : Nat} {s : IdleSystem} {first : Nat} {ps : List AudioPacket}
    (h : Synced samplesPerPacket s first ps) {packet : AudioPacket}
    (hnext : s.sent[s.handled]? = some packet) :
    packet.sequence = serial s.handled ∧
      packet.payload.length = samplesPerPacket * 2 ∧
      s.handled < s.sent.length ∧
      s.sent.take (s.handled + 1) = s.sent.take s.handled ++ [packet] := by
  obtain ⟨hlt, hget⟩ := List.getElem?_eq_some_iff.mp hnext
  refine ⟨?_, ?_, hlt, ?_⟩
  · have hseq := numbered_getElem? h.numbered hnext
    rwa [Nat.zero_add] at hseq
  · exact h.sized packet (List.mem_of_getElem? hnext)
  · rw [List.take_add_one, hnext]
    rfl

/-- A boundary is reached exactly by the packet that it names. -/
theorem resumesAt_iff
    {samplesPerPacket : Nat} {s : IdleSystem} {first : Nat} {ps : List AudioPacket}
    (h : Synced samplesPerPacket s first ps) (hfew : s.FewInFlight)
    {packet : AudioPacket} (hseq : packet.sequence = serial s.handled) :
    (s.client.resumesAt packet = some (serial s.handled)) ∨
      (s.client.resumesAt packet = none ∧
        ∀ b, s.client.idleBoundary = some b →
          ∃ n ∈ s.delivered, b = serial n ∧ s.handled < n ∧ n ≤ s.sent.length) := by
  cases hboundary : s.client.idleBoundary with
  | none =>
      right
      refine ⟨by simp [ClientLoop.resumesAt, hboundary], ?_⟩
      intro b hb
      cases hb
  | some b =>
      obtain ⟨n, hn, rfl, hle, hsent⟩ := h.boundary b hboundary
      have hfew' := hfew.1
      rcases Nat.eq_or_lt_of_le hle with heq | hlt
      · left
        have hbefore : isBefore packet.sequence (serial n) = false := by
          rw [hseq]
          exact isBefore_serial_of_le (by omega) (by omega)
        simp [ClientLoop.resumesAt, hboundary, hbefore, heq]
      · right
        have hbefore : isBefore packet.sequence (serial n) = true := by
          rw [hseq]
          exact isBefore_serial_of_lt hlt (by omega)
        refine ⟨by simp [ClientLoop.resumesAt, hboundary, hbefore], ?_⟩
        intro b' hb'
        rw [← Option.some.inj hb']
        exact ⟨n, hn, rfl, hlt, hsent⟩

/-- State of the loop between the two halves of the datagram branch. -/
theorem synced_resumed
    {samplesPerPacket : Nat} {s : IdleSystem} {first : Nat} {ps : List AudioPacket}
    (h : Synced samplesPerPacket s first ps) (hfew : s.FewInFlight)
    {packet : AudioPacket} (hseq : packet.sequence = serial s.handled) :
    ∃ first' ps',
      (s.client.resumed packet).pipeline.InOrder samplesPerPacket first' ps' ∧
      first' + ps'.length = s.handled ∧
      Reads (s.history ++ dropped s.client packet) (s.sent.take s.handled) ps' ∧
      (s.client.resumed packet).newestSequence = s.client.newestSequence ∧
      (∀ b, (s.client.resumed packet).idleBoundary = some b →
        ∃ n ∈ s.delivered, b = serial n ∧ s.handled < n ∧ n ≤ s.sent.length) ∧
      ((s.client.resumed packet).idleArmed = true →
        (s.client.resumed packet).idleBoundary ≠ none) := by
  rcases resumesAt_iff h hfew hseq with hat | ⟨hat, hbeyond⟩
  · refine ⟨s.handled, [], ?_, by simp, ?_, ?_, ?_, ?_⟩
    · simp only [ClientLoop.resumed, hat]
      exact ReceiverPipeline.inOrder_resume h.pipeline s.handled
    · apply reads_append h.history
      simp only [dropped, hat]
      exact ⟨ps, [], by simp, h.pipeline.waiting.holds, h.pipeline.below, rfl⟩
    · simp only [ClientLoop.resumed, hat]
    · intro b hb
      simp only [ClientLoop.resumed, hat] at hb
      cases hb
    · intro harmed
      simp only [ClientLoop.resumed, hat] at harmed
      cases harmed
  · have hsame : s.client.resumed packet = s.client := by
      simp only [ClientLoop.resumed, hat]
    rw [hsame]
    refine ⟨first, ps, h.pipeline, h.position, ?_, rfl, hbeyond, h.armed⟩
    simp only [dropped, hat, List.append_nil]
    exact h.history

theorem handled_eq
    {c : ClientLoop} {packet : AudioPacket} (hok : (c.pipeline.handlePacket packet).2 = true) :
    c.handled packet =
      { c with
          pipeline := (c.pipeline.handlePacket packet).1
          newestSequence :=
            match c.newestSequence with
            | some newest =>
                if isBefore packet.sequence newest then some newest else some packet.sequence
            | none => some packet.sequence
          audioActive := if c.idleBoundary.isNone then true else c.audioActive } := by
  simp only [ClientLoop.handled, hok, if_true]

/-- Delivering the next packet. -/
theorem synced_deliverPacket
    {samplesPerPacket : Nat} {s : IdleSystem} {first : Nat} {ps : List AudioPacket}
    (h : Synced samplesPerPacket s first ps) (hfew : s.FewInFlight) :
    ∃ first' ps', Synced samplesPerPacket (s.step .deliverPacket) first' ps' := by
  cases hnext : s.sent[s.handled]? with
  | none =>
      refine ⟨first, ps, ?_⟩
      simp only [step, hnext]
      exact h
  | some packet =>
      obtain ⟨hseq, hsize, hlt, htake⟩ := next_packet h hnext
      obtain ⟨first', ps', hpipeline, hposition, hreads, hnewest, hboundary, harmed⟩ :=
        synced_resumed h hfew hseq
      rw [← hposition] at hseq
      obtain ⟨heard, rest, hok, hemitted, hsplit, hinOrder⟩ :=
        ReceiverPipeline.handlePacket_inOrder hpipeline hseq hsize
      have hlength : heard.length + rest.length = ps'.length + 1 := by
        have := congrArg List.length hsplit
        simpa using this
      refine ⟨first' + heard.length, rest, ?_⟩
      simp only [step, hnext, ClientLoop.onPacket, handled_eq hok]
      refine ⟨h.numbered, h.sized, hlt, hinOrder, ?_, ?_, ?_, harmed, h.notices, ?_⟩
      · simp only
        omega
      · right
        refine ⟨s.handled, rfl, ?_⟩
        rw [hposition] at hseq
        simp only [hnewest]
        rcases h.newest with ⟨_, hnone⟩ | ⟨last, hlast, hsome⟩
        · simp only [hnone, hseq]
        · have hbefore : isBefore packet.sequence (serial last) = false := by
            rw [hseq]
            exact isBefore_serial_of_le (by omega) (by omega)
          rw [hseq] at hbefore
          simp only [hsome, hseq, hbefore, Bool.false_eq_true, if_false]
      · intro b hb
        obtain ⟨n, hn, hbn, hbeyond, hsent⟩ := hboundary b hb
        exact ⟨n, hn, hbn, hbeyond, hsent⟩
      · rw [htake, hemitted]
        have hmore := reads_more hreads [packet]
        rw [← hsplit] at hmore
        exact reads_append hmore (reads_heard heard rest)

/-- Delivering the next idle notice. -/
theorem synced_deliverIdle
    {samplesPerPacket : Nat} {s : IdleSystem} {first : Nat} {ps : List AudioPacket}
    (h : Synced samplesPerPacket s first ps) (hfew : s.FewInFlight) :
    Synced samplesPerPacket (s.step .deliverIdle) first ps := by
  cases hnotices : s.notices with
  | nil =>
      simp only [step, hnotices]
      exact h
  | cons n notices =>
      have hn : n ∈ s.notices := by
        rw [hnotices]
        exact List.mem_cons_self
      have hnsent := h.notices n hn
      have hnfew := hfew.2 n hn
      have hfew' := hfew.1
      have hhandled := h.handled_le
      have hold : ∀ b, s.client.idleBoundary = some b →
          ∃ m ∈ s.delivered ++ [n], b = serial m ∧ s.handled ≤ m ∧ m ≤ s.sent.length := by
        intro b hb
        obtain ⟨m, hm, hrest⟩ := h.boundary b hb
        exact ⟨m, List.mem_append_left _ hm, hrest⟩
      have hrest : ∀ m ∈ notices, m ≤ s.sent.length := by
        intro m hm
        apply h.notices m
        rw [hnotices]
        exact List.mem_cons_of_mem _ hm
      have haccept : s.handled ≤ n →
          Synced samplesPerPacket
            { s with
                client := { s.client with idleBoundary := some (serial n), idleArmed := true }
                notices := notices
                delivered := s.delivered ++ [n] } first ps := by
        intro hle
        refine ⟨h.numbered, h.sized, h.handled_le, h.pipeline, h.position, h.newest, ?_, ?_,
          hrest, h.history⟩
        · intro b hb
          exact ⟨n, by simp, (Option.some.inj hb).symm, hle, hnsent⟩
        · intro _ hb
          cases hb
      have hstep : s.step .deliverIdle =
          { s with
              client := s.client.onAudioIdle (serial n)
              notices := notices
              delivered := s.delivered ++ [n] } := by
        simp only [step, hnotices]
      rw [hstep]
      rcases h.newest with ⟨hzero, hnone⟩ | ⟨last, hlast, hsome⟩
      · have hidle : s.client.onAudioIdle (serial n) =
            { s.client with idleBoundary := some (serial n), idleArmed := true } := by
          simp [ClientLoop.onAudioIdle, hnone]
        rw [hidle]
        exact haccept (by omega)
      · by_cases hstale : n ≤ last
        · have hbefore : isBefore (serial last) (serial n) = false :=
            isBefore_serial_of_le hstale (by omega)
          have hidle : s.client.onAudioIdle (serial n) = s.client := by
            simp [ClientLoop.onAudioIdle, hsome, hbefore]
          rw [hidle]
          exact ⟨h.numbered, h.sized, h.handled_le, h.pipeline, h.position, h.newest, hold,
            h.armed, hrest, h.history⟩
        · have hbefore : isBefore (serial last) (serial n) = true :=
            isBefore_serial_of_lt (by omega) (by omega)
          have hidle : s.client.onAudioIdle (serial n) =
              { s.client with idleBoundary := some (serial n), idleArmed := true } := by
            simp [ClientLoop.onAudioIdle, hsome, hbefore]
          rw [hidle]
          exact haccept (by omega)

/-- The playback thread and the calibration tone only touch the ring. -/
theorem synced_of_ring
    {samplesPerPacket : Nat} {s : IdleSystem} {first : Nat} {ps : List AudioPacket}
    (h : Synced samplesPerPacket s first ps) (ring : PcmRingBuffer Int16) :
    Synced samplesPerPacket
      { s with
          client := { s.client with pipeline := { s.client.pipeline with ring := ring } } }
      first ps := by
  obtain ⟨h₁, h₂, h₃, h₄, h₅, h₆, h₇, h₈, h₉, h₁₀⟩ := h
  exact ⟨h₁, h₂, h₃, ReceiverPipeline.inOrder_of_ring h₄ ring, h₅, h₆, h₇, h₈, h₉, h₁₀⟩

/-- **Step lemma.** -/
theorem synced_step
    {samplesPerPacket : Nat} {s : IdleSystem} {e : IdleEvent}
    (h : ∃ first ps, Synced samplesPerPacket s first ps)
    (hok : Admissible samplesPerPacket s e) :
    ∃ first ps, Synced samplesPerPacket (s.step e) first ps := by
  obtain ⟨first, ps, h⟩ := h
  cases e with
  | sendPacket timestamp payload =>
      have hsize : payload.length = samplesPerPacket * 2 := hok.2
      refine ⟨first, ps, ?_, ?_, ?_, h.pipeline, h.position, h.newest, ?_, h.armed, ?_, ?_⟩
      · exact numbered_concat h.numbered (by rw [Nat.zero_add])
      · intro packet hpacket
        rcases List.mem_append.mp hpacket with hpacket | hpacket
        · exact h.sized packet hpacket
        · rw [List.mem_singleton.mp hpacket]
          exact hsize
      · have := h.handled_le
        simp only [step, List.length_append, List.length_singleton]
        omega
      · intro b hb
        obtain ⟨n, hn, hbn, hle, hsent⟩ := h.boundary b hb
        refine ⟨n, hn, hbn, hle, ?_⟩
        simp only [step, List.length_append, List.length_singleton]
        omega
      · intro n hn
        have := h.notices n hn
        simp only [step, List.length_append, List.length_singleton]
        omega
      · have htake : (s.step (.sendPacket timestamp payload)).sent.take s.handled =
            s.sent.take s.handled := by
          simp only [step]
          exact List.take_append_of_le_length h.handled_le
        have hreads := h.history
        rw [← htake] at hreads
        exact hreads
  | sendIdle =>
      refine ⟨first, ps, h.numbered, h.sized, h.handled_le, h.pipeline, h.position, h.newest,
        h.boundary, h.armed, ?_, h.history⟩
      intro n hn
      rcases List.mem_append.mp hn with hn | hn
      · exact h.notices n hn
      · rw [List.mem_singleton.mp hn]
        exact le_refl _
  | deliverPacket =>
      exact synced_deliverPacket h hok.1
  | deliverIdle =>
      exact ⟨first, ps, synced_deliverIdle h hok.1⟩
  | idleTimer =>
      refine ⟨first, ps, ?_⟩
      cases harmed : s.client.idleArmed with
      | true =>
          simp only [step, ClientLoop.onIdleTimer, harmed, if_true]
          refine ⟨h.numbered, h.sized, h.handled_le, h.pipeline, h.position, h.newest,
            h.boundary, ?_, h.notices, h.history⟩
          intro hfalse
          cases hfalse
      | false =>
          simp only [step, ClientLoop.onIdleTimer, harmed, Bool.false_eq_true, if_false]
          exact h
  | readRing len =>
      exact ⟨first, ps, synced_of_ring h _⟩
  | clearRing =>
      exact ⟨first, ps, synced_of_ring h _⟩

end Synchrony

section Results

/-- Only the timer switches the audio off, and only while it is armed. -/
theorem audioOff_of_step {s : IdleSystem} {e : IdleEvent} (hon : s.client.audioActive = true)
    (hoff : (s.step e).client.audioActive = false) :
    e = .idleTimer ∧ s.client.idleArmed = true := by
  have hstays : (s.step e).client.audioActive = s.client.audioActive →
      e = .idleTimer ∧ s.client.idleArmed = true := by
    intro hsame
    rw [hsame, hon] at hoff
    cases hoff
  cases e with
  | sendPacket timestamp payload =>
      exact hstays rfl
  | sendIdle =>
      exact hstays rfl
  | deliverPacket =>
      simp only [step] at hoff hstays
      cases hnext : s.sent[s.handled]? with
      | none =>
          simp only [hnext] at hstays
          exact hstays trivial
      | some packet =>
          simp only [hnext] at hoff hstays
          exact hstays ((ClientLoop.onPacket_audioActive s.client packet hon).trans hon.symm)
  | deliverIdle =>
      simp only [step] at hstays
      cases hnotices : s.notices with
      | nil =>
          simp only [hnotices] at hstays
          exact hstays trivial
      | cons n notices =>
          simp only [hnotices, ClientLoop.onAudioIdle] at hstays
          exact hstays (by split_ifs <;> rfl)
  | idleTimer =>
      by_cases harmed : s.client.idleArmed = true
      · exact ⟨rfl, harmed⟩
      · exact hstays (by simp only [step, ClientLoop.onIdleTimer, if_neg harmed])
  | readRing len =>
      exact hstays rfl
  | clearRing =>
      exact hstays rfl

/-- What holds in every state of the connection. -/
structure IdleSafe (s : IdleSystem) : Prop where
  none_lost : s.client.pipeline.jitter.lostPackets = 0
  none_late : s.client.pipeline.jitter.latePackets = 0
  playback : ∃ waiting, Reads s.history (s.sent.take s.handled) waiting ∧
    Holds s.client.pipeline.jitter.packets waiting
  timer : s.client.idleArmed = true →
    ∃ n ∈ s.delivered, s.client.idleBoundary = some (serial n) ∧ s.handled ≤ n
  switched_off : ∀ e, s.client.audioActive = true → (s.step e).client.audioActive = false →
    e = .idleTimer ∧ s.client.idleArmed = true ∧
      ∃ n ∈ s.delivered, s.client.idleBoundary = some (serial n) ∧ s.handled ≤ n
  active : s.FewInFlight → ∀ packet, s.sent[s.handled]? = some packet →
    (s.step .deliverPacket).client.audioActive = true ∨ ∃ n ∈ s.delivered, s.handled < n

/-- The boundary of an armed timer lies beyond every handled packet. -/
theorem Synced.timer_ahead {samplesPerPacket : Nat} {s : IdleSystem} {first : Nat}
    {ps : List AudioPacket} (h : Synced samplesPerPacket s first ps)
    (harmed : s.client.idleArmed = true) :
    ∃ n ∈ s.delivered, s.client.idleBoundary = some (serial n) ∧ s.handled ≤ n := by
  obtain ⟨b, hb⟩ := Option.ne_none_iff_exists'.mp (h.armed harmed)
  obtain ⟨n, hn, rfl, hle, _⟩ := h.boundary b hb
  exact ⟨n, hn, hb, hle⟩

theorem idleSafe_of_synced
    {samplesPerPacket : Nat} {s : IdleSystem} {first : Nat} {ps : List AudioPacket}
    (h : Synced samplesPerPacket s first ps) : s.IdleSafe where
  none_lost := h.pipeline.lost
  none_late := h.pipeline.late
  playback := ⟨ps, h.history, h.pipeline.waiting.holds⟩
  timer := h.timer_ahead
  switched_off := by
    intro e hon hoff
    obtain ⟨he, harmed⟩ := audioOff_of_step hon hoff
    exact ⟨he, harmed, h.timer_ahead harmed⟩
  active := by
    intro hfew packet hnext
    obtain ⟨hseq, hsize, _, _⟩ := next_packet h hnext
    obtain ⟨first', ps', hpipeline, hposition, _, _, hboundary, _⟩ :=
      synced_resumed h hfew hseq
    rw [← hposition] at hseq
    obtain ⟨_, _, hok, _, _, _⟩ :=
      ReceiverPipeline.handlePacket_inOrder hpipeline hseq hsize
    simp only [step, hnext, ClientLoop.onPacket, handled_eq hok]
    cases hb : (s.client.resumed packet).idleBoundary with
    | none =>
        exact Or.inl rfl
    | some b =>
        obtain ⟨n, hn, _, hlt, _⟩ := hboundary b hb
        exact Or.inr ⟨n, hn, hlt⟩

/-- **Idle and resume across two channels.**  In every run in which fewer than
`2 ^ 31` packets are in flight, nothing is lost, late or concealed, the history
reads off the sent packets in order, nothing but the armed timer switches the audio
off, and only beyond every handled packet, and a handled packet turns the audio on
unless a notice beyond it was delivered. -/
theorem idle_runs_are_safe
    {stream : StreamInfo} {ring : PcmRingBuffer Int16} {counters : StreamCounters}
    {p : ReceiverPipeline} (hnew : ReceiverPipeline.new stream ring counters = .ok p)
    (es : List IdleEvent)
    (hes : Along step
      (Admissible (sampleRate * stream.frameDurationMs.toNat / 1000 * channels)) (start p) es) :
    (run step (start p) es).IdleSafe := by
  have hstart : ∃ first ps, Synced
      (sampleRate * stream.frameDurationMs.toNat / 1000 * channels) (start p) first ps := by
    refine ⟨0, [], trivial, ?_, le_refl _, ReceiverPipeline.inOrder_new hnew 0, rfl,
      Or.inl ⟨rfl, rfl⟩, ?_, ?_, ?_, rfl⟩
    · exact fun packet hpacket => absurd hpacket List.not_mem_nil
    · intro b hb
      cases hb
    · intro harmed
      cases harmed
    · exact fun n hn => absurd hn List.not_mem_nil
  obtain ⟨first, ps, h⟩ := run_invariant
    (fun s => ∃ first ps, Synced
      (sampleRate * stream.frameDurationMs.toNat / 1000 * channels) s first ps)
    (fun s e h hok => synced_step h hok) hstart hes
  exact idleSafe_of_synced h

/-- A notice that overtakes the packet before it, and audio after the pause. -/
theorem idle_runs_are_safe_after_pause :
    ∃ p, ReceiverPipeline.new ⟨48000, 2, .i16Le, 1⟩ (.new 48000) ⟨0, 0, 0, 0⟩ = .ok p ∧
      Along step (Admissible 96) (start p)
        [.sendPacket 0 (List.replicate 192 1), .sendIdle, .deliverIdle, .deliverPacket,
          .idleTimer, .sendPacket 48 (List.replicate 192 2), .deliverPacket] ∧
      (run step (start p)
        [.sendPacket 0 (List.replicate 192 1), .sendIdle, .deliverIdle, .deliverPacket,
          .idleTimer, .sendPacket 48 (List.replicate 192 2), .deliverPacket]).IdleSafe := by
  have hrun : ∀ p, ∀ a b : List UInt8, a.length = 192 → b.length = 192 →
      Along step (Admissible 96) (start p)
        [.sendPacket 0 a, .sendIdle, .deliverIdle, .deliverPacket, .idleTimer,
          .sendPacket 48 b, .deliverPacket] := by
    intro p a b ha hb
    simp [Along, Admissible, FewInFlight, WellSized, step, start, ha, hb]
  obtain ⟨p, hp⟩ : ∃ p, ReceiverPipeline.new ⟨48000, 2, .i16Le, 1⟩ (.new 48000) ⟨0, 0, 0, 0⟩ =
      .ok p := ⟨_, rfl⟩
  have hlong := hrun p (List.replicate 192 1) (List.replicate 192 2)
    List.length_replicate List.length_replicate
  exact ⟨p, hp, hlong, idle_runs_are_safe hp _ hlong⟩

end Results

end IdleSystem

end Soundwave

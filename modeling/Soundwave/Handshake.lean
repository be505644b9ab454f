import Soundwave.Packetizer
import Soundwave.ReceiverPipeline
import Soundwave.TransitionRuns

/-!
# The handshake

Model of `perform_handshake` and `choose_packet_duration_ms` in
`windows-server/src/network/server.rs`, of the beginning of `connected_loop` with
`expect_hello`, `expect_stream_info` and `expect_start` in
`android/app/src/main/rust/src/client.rs`, and of `new` and `max_payload_len` of
`DatagramSender` in `crates/transport/src/datagram.rs`.

The two sides exchange control messages over FIFO streams.  The client says hello and
then insists on three messages in order; the server answers a hello of its own version
with the three messages, of which the second announces the packet duration it has
chosen for the datagram limit of the connection.  Either side may fail at any moment.

What holds for every order of their steps is that they agree: a connected client has
set up its pipeline for the very duration that the server streams with, so that every
packet of this duration fits into a datagram and passes the client's size check.
-/

namespace Soundwave

/-- `PROTOCOL_VERSION`. -/
def protocolVersion : Nat := 8

section Datagrams

/-- The errors of `DatagramSender`. -/
inductive DatagramError where
  | quinn
  | datagramUnsupported
  | datagramTooLarge (actual maximum : Nat)
deriving DecidableEq

namespace DatagramSender

/-- `DatagramSender::new`, by what `max_datagram_size` returns. -/
def new (maxDatagramSize : Option Nat) : Except DatagramError Unit :=
  if maxDatagramSize.isNone then .error .datagramUnsupported else .ok ()

/-- `max_payload_len`. -/
def maxPayloadLen (maxDatagramSize : Option Nat) : Nat :=
  maxDatagramSize.getD 0 - audioPacketHeaderLen

end DatagramSender

/-- `choose_packet_duration_ms`; the error names the payload that is permitted and the
one that is required. -/
def choosePacketDurationMs (maxPayloadBytes : Nat) : Except (Nat × Nat) UInt8 :=
  match Packetizer.durations.find? (fun d => decide (samplesPerPacket d * 2 ≤ maxPayloadBytes)) with
  | some durationMs => .ok durationMs
  | none => .error (maxPayloadBytes, samplesPerPacket 1 * 2)

/-- The longest packet duration whose packets fit. -/
structure LongestFitting (maxPayloadBytes : Nat) (durationMs : UInt8) : Prop where
  possible : durationMs ∈ Packetizer.durations
  fits : samplesPerPacket durationMs * 2 ≤ maxPayloadBytes
  longest : ∀ d ∈ Packetizer.durations, samplesPerPacket d * 2 ≤ maxPayloadBytes → d ≤ durationMs

theorem choosePacketDurationMs_ok {maxPayloadBytes : Nat} {durationMs : UInt8}
    (h : choosePacketDurationMs maxPayloadBytes = .ok durationMs) :
    LongestFitting maxPayloadBytes durationMs := by
  rw [choosePacketDurationMs] at h
  split at h
  · rename_i found hfound
    cases h
    obtain ⟨hfits, before, after, hsplit, hbefore⟩ := List.find?_eq_some_iff_append.mp hfound
    have hmem : durationMs ∈ Packetizer.durations := List.mem_of_find?_eq_some hfound
    refine ⟨hmem, by simpa using hfits, ?_⟩
    intro d hd hsize
    have hsorted : List.Pairwise (fun a b => b ≤ a) Packetizer.durations := by decide
    rw [hsplit] at hd hsorted
    rcases List.mem_append.mp hd with hearlier | hlater
    · have hnot := hbefore d hearlier
      simp only [hsize, decide_true, Bool.not_true] at hnot
      cases hnot
    · rcases List.mem_cons.mp hlater with rfl | hlater
      · exact Nat.le_refl _
      · exact (List.pairwise_cons.mp (List.pairwise_append.mp hsorted).2.1).1 d hlater
  · cases h

theorem choosePacketDurationMs_error {maxPayloadBytes : Nat} {error : Nat × Nat}
    (h : choosePacketDurationMs maxPayloadBytes = .error error) :
    maxPayloadBytes < samplesPerPacket 1 * 2 := by
  rw [choosePacketDurationMs] at h
  split at h
  · cases h
  · rename_i hnone
    have hone := List.find?_eq_none.mp hnone 1 (by decide)
    simpa using hone

end Datagrams

section Model

/-- The reasons for which a side gives up. -/
inductive HandshakeFailure where
  | unsupportedVersion (version : Nat)
  | expectedHello (message : ControlMessage)
  | expectedStreamInfo (message : ControlMessage)
  | expectedStart (message : ControlMessage)
  | unsupportedStream (reason : UnsupportedStream)
  | datagramUnsupported
  | payloadTooSmall (permitted required : Nat)
  | disconnected
deriving DecidableEq

/-- Where the client stands between `open_bi` and its main loop. -/
inductive ClientPhase where
  | opening
  | helloExpected
  | streamInfoExpected
  | startExpected (stream : StreamInfo)
  | connected (pipeline : ReceiverPipeline)
  | failed (failure : HandshakeFailure)

/-- The client is reading messages of the handshake. -/
def ClientPhase.expects : ClientPhase → Bool
  | .helloExpected | .streamInfoExpected | .startExpected _ => true
  | _ => false

/-- Where the server stands in `perform_handshake`; `streaming` is behind it. -/
inductive ServerPhase where
  | accepting
  | replying (remaining : List ControlMessage)
  | streaming
  | failed (failure : HandshakeFailure)

/-- The stream that the server announces. -/
def announced (frameDurationMs : UInt8) : StreamInfo where
  sampleRate := sampleRate
  channels := UInt8.ofNat channels
  sampleFormat := .i16Le
  frameDurationMs := frameDurationMs

/-- What the server answers to a hello. -/
def replies (frameDurationMs : UInt8) : List ControlMessage :=
  [ControlMessage.hello protocolVersion, ControlMessage.streamInfo (announced frameDurationMs),
    ControlMessage.start]

/-- Both sides and the two directions of the control stream.  `chosen` is the duration
that the server has chosen and `permitted` the payload it was chosen for; `heard` is the
log of the messages that the client has read. -/
structure Handshake where
  client : ClientPhase
  server : ServerPhase
  toServer : List ControlMessage
  toClient : List ControlMessage
  chosen : Option UInt8
  permitted : Nat
  heard : List ControlMessage

/-- What can happen next.  A read of the server looks at `max_datagram_size` twice, one
of the client once.  `serverSends` is any later use of the control stream. -/
inductive HandshakeEvent where
  | clientOpens
  | serverReads (supported permitted : Option Nat)
  | serverWrites
  | clientReads (supported : Option Nat)
  | serverSends (message : ControlMessage)
  | clientDisconnects
  | serverDisconnects

namespace Handshake

/-- Before the client has opened its stream. -/
def start : Handshake where
  client := .opening
  server := .accepting
  toServer := []
  toClient := []
  chosen := none
  permitted := 0
  heard := []

/-- `perform_handshake` from the hello to the choice of the duration. -/
def serverRead (s : Handshake) (message : ControlMessage) (supported permitted : Option Nat) :
    Handshake :=
  match message with
  | .hello version =>
      if version = protocolVersion then
        match DatagramSender.new supported with
        | .error _ => { s with server := .failed .datagramUnsupported }
        | .ok () =>
            match choosePacketDurationMs (DatagramSender.maxPayloadLen permitted) with
            | .error (allowed, required) =>
                { s with server := .failed (.payloadTooSmall allowed required) }
            | .ok frameDurationMs =>
                { s with
                    server := .replying (replies frameDurationMs)
                    chosen := some frameDurationMs
                    permitted := DatagramSender.maxPayloadLen permitted }
      else
        { s with server := .failed (.unsupportedVersion version) }
  | message => { s with server := .failed (.expectedHello message) }

/-- `expect_hello`, `expect_stream_info` and `expect_start`, with what `connected_loop`
does behind them. -/
def clientRead (ring : PcmRingBuffer Int16) (counters : StreamCounters) (supported : Option Nat)
    (message : ControlMessage) : ClientPhase → ClientPhase
  | .helloExpected =>
      match message with
      | .hello version =>
          if version = protocolVersion then .streamInfoExpected
          else .failed (.unsupportedVersion version)
      | message => .failed (.expectedHello message)
  | .streamInfoExpected =>
      match message with
      | .streamInfo stream => .startExpected stream
      | message => .failed (.expectedStreamInfo message)
  | .startExpected stream =>
      match message with
      | .start =>
          match ReceiverPipeline.new stream ring counters with
          | .error reason => .failed (.unsupportedStream reason)
          | .ok pipeline =>
              match DatagramSender.new supported with
              | .error _ => .failed .datagramUnsupported
              | .ok () => .connected pipeline
      | message => .failed (.expectedStart message)
  | phase => phase

/-- One event; an event that is not possible changes nothing. -/
def step (ring : PcmRingBuffer Int16) (counters : StreamCounters) (s : Handshake) :
    HandshakeEvent → Handshake
  | .clientOpens =>
      match s.client with
      | .opening =>
          { s with
              client := .helloExpected
              toServer := s.toServer ++ [ControlMessage.hello protocolVersion] }
      | _ => s
  | .serverReads supported permitted =>
      match s.server, s.toServer with
      | .accepting, message :: rest =>
          { s with toServer := rest }.serverRead message supported permitted
      | _, _ => s
  | .serverWrites =>
      match s.server with
      | .replying (message :: remaining) =>
          { s with
              server := if remaining.isEmpty then .streaming else .replying remaining
              toClient := s.toClient ++ [message] }
      | _ => s
  | .clientReads supported =>
      match s.toClient with
      | message :: rest =>
          if s.client.expects then
            { s with
                client := clientRead ring counters supported message s.client
                toClient := rest
                heard := s.heard ++ [message] }
          else
            s
      | [] => s
  | .serverSends message =>
      match s.server with
      | .streaming => { s with toClient := s.toClient ++ [message] }
      | _ => s
  | .clientDisconnects => { s with client := .failed .disconnected }
  | .serverDisconnects => { s with server := .failed .disconnected }

/-- What a step can do, one constructor per branch that changes something. -/
inductive Moves (ring : PcmRingBuffer Int16) (counters : StreamCounters) (s : Handshake) :
    HandshakeEvent → Handshake → Prop
  | stays {e : HandshakeEvent} : Moves ring counters s e s
  | opens (hclient : s.client = .opening) :
      Moves ring counters s .clientOpens
        { s with
            client := .helloExpected
            toServer := s.toServer ++ [ControlMessage.hello protocolVersion] }
  | serverReads {supported permitted : Option Nat} {message : ControlMessage}
      {rest : List ControlMessage} (hserver : s.server = .accepting)
      (hmessage : s.toServer = message :: rest) :
      Moves ring counters s (.serverReads supported permitted)
        ({ s with toServer := rest }.serverRead message supported permitted)
  | serverWrites {message : ControlMessage} {remaining : List ControlMessage}
      (hserver : s.server = .replying (message :: remaining)) :
      Moves ring counters s .serverWrites
        { s with
            server := if remaining.isEmpty then .streaming else .replying remaining
            toClient := s.toClient ++ [message] }
  | clientReads {supported : Option Nat} {message : ControlMessage} {rest : List ControlMessage}
      (hexpects : s.client.expects = true) (hmessage : s.toClient = message :: rest) :
      Moves ring counters s (.clientReads supported)
        { s with
            client := clientRead ring counters supported message s.client
            toClient := rest
            heard := s.heard ++ [message] }
  | serverSends {message : ControlMessage} (hserver : s.server = .streaming) :
      Moves ring counters s (.serverSends message) { s with toClient := s.toClient ++ [message] }
  | clientDisconnects :
      Moves ring counters s .clientDisconnects { s with client := .failed .disconnected }
  | serverDisconnects :
      Moves ring counters s .serverDisconnects { s with server := .failed .disconnected }

theorem step_moves (ring : PcmRingBuffer Int16) (counters : StreamCounters) (s : Handshake)
    (e : HandshakeEvent) : Moves ring counters s e (s.step ring counters e) := by
  cases e with
  | clientOpens =>
      simp only [step]
      split
      · exact Moves.opens ‹_›
      · exact Moves.stays
  | serverReads supported permitted =>
      simp only [step]
      split
      · exact Moves.serverReads ‹_› ‹_›
      · exact Moves.stays
  | serverWrites =>
      simp only [step]
      split
      · exact Moves.serverWrites ‹_›
      · exact Moves.stays
  | clientReads supported =>
      simp only [step]
      split
      · split_ifs with hexpects
        · exact Moves.clientReads hexpects ‹_›
        · exact Moves.stays
      · exact Moves.stays
  | serverSends message =>
      cases hserver : s.server with
      | streaming =>
          simp only [step, hserver]
          rw [← hserver]
          exact Moves.serverSends hserver
      | accepting =>
          simp only [step, hserver]
          exact Moves.stays
      | replying remaining =>
          simp only [step, hserver]
          exact Moves.stays
      | failed failure =>
          simp only [step, hserver]
          exact Moves.stays
  | clientDisconnects => exact Moves.clientDisconnects
  | serverDisconnects => exact Moves.serverDisconnects

end Handshake

end Model

namespace Handshake

section Agreement

variable (ring : PcmRingBuffer Int16) (counters : StreamCounters)

/-- Where a client stands that has read `count` replies of a server with this duration. -/
def ClientAt (frameDurationMs : UInt8) : ClientPhase → Nat → Prop
  | .opening, _ => False
  | .helloExpected, count => count = 0
  | .streamInfoExpected, count => count = 1
  | .startExpected stream, count => count = 2 ∧ stream = announced frameDurationMs
  | .connected pipeline, count =>
      count = 3 ∧
        ReceiverPipeline.new (announced frameDurationMs) ring counters = .ok pipeline
  | .failed failure, _ => failure = .disconnected ∨ failure = .datagramUnsupported

/-- The server has not chosen a duration. -/
structure Before (s : Handshake) : Prop where
  heard : s.heard = []
  toClient : s.toClient = []
  client : s.client = .opening ∧ s.toServer = [] ∨ s.client = .helloExpected ∨
    s.client = .failed .disconnected
  toServer : s.server = .accepting →
    s.toServer = [] ∧ s.client ≠ .helloExpected ∨
      s.toServer = [ControlMessage.hello protocolVersion]
  server : s.server = .accepting ∨ s.server = .failed .disconnected ∨
    s.server = .failed .datagramUnsupported ∨
    ∃ permitted, permitted < samplesPerPacket 1 * 2 ∧
      s.server = .failed (.payloadTooSmall permitted (samplesPerPacket 1 * 2))

/-- The server has chosen a duration.  Messages behind the replies are `later`. -/
structure Behind (frameDurationMs : UInt8) (s : Handshake) : Prop where
  fitting : LongestFitting s.permitted frameDurationMs
  client : ClientAt ring counters frameDurationMs s.client s.heard.length
  script : ∃ later, s.heard ++ s.toClient <+: replies frameDurationMs ++ later
  server : (∃ remaining, s.server = .replying remaining ∧ remaining ≠ [] ∧
      s.heard ++ s.toClient ++ remaining = replies frameDurationMs) ∨
    (s.server = .streaming ∧ replies frameDurationMs <+: s.heard ++ s.toClient) ∨
    s.server = .failed .disconnected

/-- The invariant of the handshake. -/
def Agreeing (s : Handshake) : Prop :=
  s.chosen = none ∧ s.Before ∨
    ∃ frameDurationMs, s.chosen = some frameDurationMs ∧ Behind ring counters frameDurationMs s

variable {ring counters}

/-- The client accepts every stream that a server of its version announces. -/
theorem new_announced (ring : PcmRingBuffer Int16) (counters : StreamCounters)
    {frameDurationMs : UInt8} (h : frameDurationMs ∈ Packetizer.durations) :
    ∃ pipeline, ReceiverPipeline.new (announced frameDurationMs) ring counters = .ok pipeline := by
  simp only [Packetizer.durations, List.mem_cons, List.not_mem_nil, or_false] at h
  rcases h with rfl | rfl | rfl | rfl | rfl
  · exact ⟨_, rfl⟩
  · exact ⟨_, rfl⟩
  · exact ⟨_, rfl⟩
  · exact ⟨_, rfl⟩
  · exact ⟨_, rfl⟩

theorem start_agreeing : Agreeing ring counters start :=
  Or.inl ⟨rfl, rfl, rfl, Or.inl ⟨rfl, rfl⟩, fun _ => Or.inl ⟨rfl, fun h => by cases h⟩, Or.inl rfl⟩

/-- The next message of the script. -/
theorem next_reply {frameDurationMs : UInt8} {heard rest later : List ControlMessage}
    {message : ControlMessage} (h : heard ++ message :: rest <+: replies frameDurationMs ++ later)
    (hcount : heard.length < 3) :
    (replies frameDurationMs)[heard.length]? = some message := by
  obtain ⟨more, hmore⟩ := h
  have hget : (replies frameDurationMs ++ later)[heard.length]? = some message := by
    rw [← hmore, List.append_assoc, List.getElem?_append_right (Nat.le_refl _), Nat.sub_self]
    rfl
  rwa [List.getElem?_append_left hcount] at hget

/-- Reading the next message of the script. -/
theorem clientRead_script {frameDurationMs : UInt8}
    (hduration : frameDurationMs ∈ Packetizer.durations) {phase : ClientPhase}
    {heard : List ControlMessage} {message : ControlMessage} (hexpects : phase.expects = true)
    (h : ClientAt ring counters frameDurationMs phase heard.length)
    (hnext : heard.length < 3 → (replies frameDurationMs)[heard.length]? = some message)
    (supported : Option Nat) :
    ClientAt ring counters frameDurationMs (clientRead ring counters supported message phase)
      (heard ++ [message]).length := by
  rw [List.length_append, List.length_singleton]
  cases phase with
  | opening =>
      cases hexpects
  | connected pipeline =>
      cases hexpects
  | failed failure =>
      cases hexpects
  | helloExpected =>
      have hcount : heard.length = 0 := h
      have hmessage := hnext (by omega)
      rw [hcount] at hmessage ⊢
      cases hmessage
      rfl
  | streamInfoExpected =>
      have hcount : heard.length = 1 := h
      have hmessage := hnext (by omega)
      rw [hcount] at hmessage ⊢
      cases hmessage
      exact ⟨rfl, rfl⟩
  | startExpected stream =>
      obtain ⟨hcount, hstream⟩ := h
      have hmessage := hnext (by omega)
      rw [hcount] at hmessage ⊢
      cases hmessage
      obtain ⟨pipeline, hpipeline⟩ := new_announced ring counters hduration
      rw [hstream]
      simp only [clientRead, hpipeline, DatagramSender.new]
      cases supported with
      | none =>
          exact Or.inr rfl
      | some limit =>
          exact ⟨rfl, hpipeline⟩

theorem serverRead_agreeing {s : Handshake} {message : ControlMessage}
    {rest : List ControlMessage} (h : s.Before) (hchosen : s.chosen = none)
    (haccepting : s.server = .accepting) (hmessage : s.toServer = message :: rest)
    (supported permitted : Option Nat) :
    Agreeing ring counters
      ({ s with toServer := rest }.serverRead message supported permitted) := by
  obtain ⟨hheard, htoClient, hclient, htoServer, _⟩ := h
  have hhello : message = ControlMessage.hello protocolVersion := by
    rcases htoServer haccepting with ⟨hnone, _⟩ | hasked
    · rw [hnone] at hmessage
      cases hmessage
    · rw [hasked] at hmessage
      exact (List.cons.inj hmessage).1.symm
  have hopened : s.client = .helloExpected ∨ s.client = .failed .disconnected := by
    rcases hclient with ⟨_, hnone⟩ | hopened
    · rw [hnone] at hmessage
      cases hmessage
    · exact hopened
  have hgone : ∀ failure, ServerPhase.failed failure = .accepting →
      rest = [] ∧ s.client ≠ .helloExpected ∨
        rest = [ControlMessage.hello protocolVersion] := fun _ heq => by cases heq
  rw [hhello]
  simp only [serverRead, if_true]
  cases hsupported : DatagramSender.new supported with
  | error error =>
      exact Or.inl ⟨hchosen, hheard, htoClient, Or.inr hopened, hgone _,
        Or.inr (Or.inr (Or.inl rfl))⟩
  | ok supportedAt =>
      cases hduration : choosePacketDurationMs (DatagramSender.maxPayloadLen permitted) with
      | error error =>
          have hsmall := choosePacketDurationMs_error hduration
          rw [choosePacketDurationMs] at hduration
          split at hduration
          · cases hduration
          · cases hduration
            exact Or.inl ⟨hchosen, hheard, htoClient, Or.inr hopened, hgone _,
              Or.inr (Or.inr (Or.inr ⟨_, hsmall, rfl⟩))⟩
      | ok frameDurationMs =>
          dsimp only
          have hempty : s.heard ++ s.toClient = [] := by rw [hheard, htoClient]; rfl
          refine Or.inr ⟨frameDurationMs, rfl, choosePacketDurationMs_ok hduration, ?_,
            ⟨[], ?_⟩, Or.inl ⟨_, rfl, (fun heq => by cases heq), ?_⟩⟩
          · rcases hopened with hclient | hclient
            · simp only [hclient, hheard]
              rfl
            · simp only [hclient]
              exact Or.inl rfl
          · simp only [hempty]
            exact List.nil_prefix
          · simp only [hempty, List.nil_append]

theorem serverWrite_agreeing {s : Handshake} {frameDurationMs : UInt8} {message : ControlMessage}
    {remaining : List ControlMessage} (h : Behind ring counters frameDurationMs s)
    (hserver : s.server = .replying (message :: remaining)) :
    Behind ring counters frameDurationMs
      { s with
          server := if remaining.isEmpty then .streaming else .replying remaining
          toClient := s.toClient ++ [message] } := by
  obtain ⟨hfitting, hclient, _, hphase⟩ := h
  rw [hserver] at hphase
  rcases hphase with ⟨remaining', heq, _, hscript⟩ | ⟨heq, _⟩ | heq
  · cases heq
    have hwritten :
        s.heard ++ (s.toClient ++ [message]) ++ remaining = replies frameDurationMs := by
      rw [← hscript]
      simp only [List.append_assoc, List.singleton_append]
    refine ⟨hfitting, hclient, ⟨[], ?_⟩, ?_⟩
    · rw [List.append_nil]
      exact ⟨remaining, hwritten⟩
    · cases remaining with
      | nil =>
          refine Or.inr (Or.inl ⟨rfl, ?_⟩)
          rw [← hwritten, List.append_nil]
      | cons next remaining =>
          exact Or.inl ⟨_, rfl, (fun heq => by cases heq), hwritten⟩
  · cases heq
  · cases heq

theorem clientRead_agreeing {s : Handshake} {frameDurationMs : UInt8} {message : ControlMessage}
    {rest : List ControlMessage} (h : Behind ring counters frameDurationMs s)
    (hexpects : s.client.expects = true) (hmessage : s.toClient = message :: rest)
    (supported : Option Nat) :
    Behind ring counters frameDurationMs
      { s with
          client := clientRead ring counters supported message s.client
          toClient := rest
          heard := s.heard ++ [message] } := by
  obtain ⟨hfitting, hclient, ⟨later, hscript⟩, hphase⟩ := h
  have hmoved : s.heard ++ [message] ++ rest = s.heard ++ s.toClient := by
    rw [hmessage, List.append_assoc, List.singleton_append]
  rw [hmessage] at hscript
  refine ⟨hfitting, ?_, ⟨later, ?_⟩, ?_⟩
  · exact clientRead_script hfitting.possible hexpects hclient (next_reply hscript) supported
  · rw [hmoved, hmessage]
    exact hscript
  · rw [hmoved]
    exact hphase

theorem serverSend_agreeing {s : Handshake} {frameDurationMs : UInt8}
    (h : Behind ring counters frameDurationMs s) (hserver : s.server = .streaming)
    (message : ControlMessage) :
    Behind ring counters frameDurationMs { s with toClient := s.toClient ++ [message] } := by
  obtain ⟨hfitting, hclient, _, hphase⟩ := h
  rw [hserver] at hphase
  rcases hphase with ⟨_, heq, _⟩ | ⟨_, later, hscript⟩ | heq
  · cases heq
  · have hsent : s.heard ++ (s.toClient ++ [message]) =
        replies frameDurationMs ++ (later ++ [message]) := by
      rw [← List.append_assoc, ← hscript, List.append_assoc]
    exact ⟨hfitting, hclient, ⟨later ++ [message], [], by rw [List.append_nil, hsent]⟩,
      Or.inr (Or.inl ⟨hserver, later ++ [message], hsent.symm⟩)⟩
  · cases heq

/-- **Step lemma.** -/
theorem step_agreeing {s s' : Handshake} {e : HandshakeEvent} (h : Agreeing ring counters s)
    (hmoves : Moves ring counters s e s') : Agreeing ring counters s' := by
  cases hmoves with
  | stays =>
      exact h
  | opens hopening =>
      rcases h with ⟨hchosen, hbefore⟩ | ⟨frameDurationMs, _, hbehind⟩
      · obtain ⟨hheard, htoClient, hclient, _, hserver⟩ := hbefore
        have hnone : s.toServer = [] := by
          rcases hclient with ⟨_, hnone⟩ | hopened | hopened
          · exact hnone
          · rw [hopening] at hopened
            cases hopened
          · rw [hopening] at hopened
            cases hopened
        simp only [hnone, List.nil_append]
        exact Or.inl ⟨hchosen, hheard, htoClient, Or.inr (Or.inl rfl), fun _ => Or.inr rfl, hserver⟩
      · have hat := hbehind.client
        rw [hopening] at hat
        cases hat
  | serverReads haccepting hmessage =>
      rcases h with ⟨hchosen, hbefore⟩ | ⟨frameDurationMs, _, hbehind⟩
      · exact serverRead_agreeing hbefore hchosen haccepting hmessage _ _
      · rcases hbehind.server with ⟨_, heq, _⟩ | ⟨heq, _⟩ | heq
        all_goals
          rw [haccepting] at heq
          cases heq
  | serverWrites hreplying =>
      rcases h with ⟨_, hbefore⟩ | ⟨frameDurationMs, hchosen, hbehind⟩
      · rcases hbefore.server with heq | heq | heq | ⟨_, _, heq⟩
        all_goals
          rw [hreplying] at heq
          cases heq
      · exact Or.inr ⟨frameDurationMs, hchosen, serverWrite_agreeing hbehind hreplying⟩
  | clientReads hexpects hmessage =>
      rcases h with ⟨_, hbefore⟩ | ⟨frameDurationMs, hchosen, hbehind⟩
      · rw [hbefore.toClient] at hmessage
        cases hmessage
      · exact Or.inr ⟨frameDurationMs, hchosen, clientRead_agreeing hbehind hexpects hmessage _⟩
  | serverSends hstreaming =>
      rcases h with ⟨_, hbefore⟩ | ⟨frameDurationMs, hchosen, hbehind⟩
      · rcases hbefore.server with heq | heq | heq | ⟨_, _, heq⟩
        all_goals
          rw [hstreaming] at heq
          cases heq
      · exact Or.inr ⟨frameDurationMs, hchosen, serverSend_agreeing hbehind hstreaming _⟩
  | clientDisconnects =>
      rcases h with ⟨hchosen, hbefore⟩ | ⟨frameDurationMs, hchosen, hbehind⟩
      · obtain ⟨hheard, htoClient, _, htoServer, hserver⟩ := hbefore
        refine Or.inl
          ⟨hchosen, hheard, htoClient, Or.inr (Or.inr rfl), fun haccepting => ?_, hserver⟩
        rcases htoServer haccepting with ⟨hnone, _⟩ | hasked
        · exact Or.inl ⟨hnone, fun heq => by cases heq⟩
        · exact Or.inr hasked
      · obtain ⟨hfitting, _, hscript, hserver⟩ := hbehind
        exact Or.inr ⟨frameDurationMs, hchosen, hfitting, Or.inl rfl, hscript, hserver⟩
  | serverDisconnects =>
      rcases h with ⟨hchosen, hbefore⟩ | ⟨frameDurationMs, hchosen, hbehind⟩
      · obtain ⟨hheard, htoClient, hclient, _, _⟩ := hbefore
        exact Or.inl ⟨hchosen, hheard, htoClient, hclient, (fun heq => by cases heq),
          Or.inr (Or.inl rfl)⟩
      · obtain ⟨hfitting, hclient, hscript, _⟩ := hbehind
        exact Or.inr ⟨frameDurationMs, hchosen, hfitting, hclient, hscript, Or.inr (Or.inr rfl)⟩

/-- What the two sides can rely on. -/
structure Agreement (ring : PcmRingBuffer Int16) (counters : StreamCounters) (s : Handshake) :
    Prop where
  connected : ∀ pipeline, s.client = .connected pipeline →
    ∃ frameDurationMs, s.chosen = some frameDurationMs ∧ s.heard = replies frameDurationMs ∧
      ReceiverPipeline.new (announced frameDurationMs) ring counters = .ok pipeline ∧
      pipeline.expectedPacketBytes = samplesPerPacket frameDurationMs * 2
  streaming : s.server = .streaming →
    ∃ frameDurationMs, s.chosen = some frameDurationMs ∧
      replies frameDurationMs <+: s.heard ++ s.toClient
  chosen : ∀ frameDurationMs, s.chosen = some frameDurationMs →
    LongestFitting s.permitted frameDurationMs
  clientFailure : ∀ failure, s.client = .failed failure →
    failure = .disconnected ∨ failure = .datagramUnsupported
  serverFailure : ∀ failure, s.server = .failed failure →
    failure = .disconnected ∨ failure = .datagramUnsupported ∨
      ∃ permitted, permitted < 192 ∧ failure = .payloadTooSmall permitted 192

/-- The client expects the bytes that the packetizer of this duration puts into a packet. -/
theorem expectedPacketBytes_announced {frameDurationMs : UInt8} {pipeline : ReceiverPipeline}
    (h : ReceiverPipeline.new (announced frameDurationMs) ring counters = .ok pipeline) :
    pipeline.expectedPacketBytes = samplesPerPacket frameDurationMs * 2 :=
  (ReceiverPipeline.inOrder_new h 0).bytes

theorem agreement_of_agreeing {s : Handshake} (h : Agreeing ring counters s) :
    Agreement ring counters s := by
  rcases h with ⟨hchosen, hbefore⟩ | ⟨frameDurationMs, hchosen, hbehind⟩
  · obtain ⟨_, _, hclient, _, hserver⟩ := hbefore
    refine ⟨fun pipeline heq => ?_, fun heq => ?_, fun d heq => ?_, fun failure heq => ?_,
      fun failure heq => ?_⟩
    · rcases hclient with ⟨hclient, _⟩ | hclient | hclient
      all_goals
        rw [hclient] at heq
        cases heq
    · rcases hserver with hserver | hserver | hserver | ⟨_, _, hserver⟩
      all_goals
        rw [hserver] at heq
        cases heq
    · rw [hchosen] at heq
      cases heq
    · rcases hclient with ⟨hclient, _⟩ | hclient | hclient
      all_goals
        rw [hclient] at heq
        cases heq
      exact Or.inl rfl
    · rcases hserver with hserver | hserver | hserver | ⟨permitted, hsmall, hserver⟩
      all_goals
        rw [hserver] at heq
        cases heq
      · exact Or.inl rfl
      · exact Or.inr (Or.inl rfl)
      · exact Or.inr (Or.inr ⟨permitted, hsmall, rfl⟩)
  · obtain ⟨hfitting, hclient, ⟨later, hscript⟩, hserver⟩ := hbehind
    refine ⟨fun pipeline heq => ?_, fun heq => ?_, fun d heq => ?_, fun failure heq => ?_,
      fun failure heq => ?_⟩
    · rw [heq] at hclient
      obtain ⟨hcount, hpipeline⟩ := hclient
      have hheard : s.heard <+: replies frameDurationMs ++ later :=
        (List.prefix_append _ _).trans hscript
      have hall : s.heard = replies frameDurationMs := by
        rw [List.prefix_iff_eq_take.mp hheard, hcount]
        rfl
      exact ⟨frameDurationMs, hchosen, hall, hpipeline, expectedPacketBytes_announced hpipeline⟩
    · rcases hserver with ⟨_, hserver, _⟩ | ⟨_, hwritten⟩ | hserver
      · rw [hserver] at heq
        cases heq
      · exact ⟨frameDurationMs, hchosen, hwritten⟩
      · rw [hserver] at heq
        cases heq
    · rw [hchosen] at heq
      cases heq
      exact hfitting
    · rw [heq] at hclient
      exact hclient
    · rcases hserver with ⟨_, hserver, _⟩ | ⟨hserver, _⟩ | hserver
      all_goals
        rw [hserver] at heq
        cases heq
      exact Or.inl rfl

end Agreement

/-- **The two sides agree.**  In every run a connected client has read exactly the three
replies of the server and has set up its pipeline for the chosen duration, the longest
one whose packets fit; and whoever fails does so because of the connection or its
datagram limit, never over a message. -/
theorem handshake_agrees (ring : PcmRingBuffer Int16) (counters : StreamCounters)
    (es : List HandshakeEvent) :
    Agreement ring counters (run (step ring counters) start es) :=
  agreement_of_agreeing
    (run_preserves (Agreeing ring counters)
      (fun s e h => step_agreeing h (step_moves ring counters s e)) start_agreeing es)

section Completion

variable {ring : PcmRingBuffer Int16} {counters : StreamCounters}

/-- Steps of the handshake that a client has still to take. -/
def clientLeft : ClientPhase → Nat
  | .opening => 4
  | .helloExpected => 3
  | .streamInfoExpected => 2
  | .startExpected _ => 1
  | .connected _ | .failed _ => 0

/-- Steps of the handshake that a server has still to take. -/
def serverLeft : ServerPhase → Nat
  | .accepting => 4
  | .replying remaining => remaining.length
  | .streaming | .failed _ => 0

/-- Steps of the handshake that are left. -/
def left (s : Handshake) : Nat :=
  clientLeft s.client + serverLeft s.server

/-- Nobody disconnects, and the connection permits packets of one millisecond. -/
def Undisturbed : HandshakeEvent → Prop
  | .serverReads supported permitted =>
      supported.isSome = true ∧ 192 ≤ DatagramSender.maxPayloadLen permitted
  | .clientReads supported => supported.isSome = true
  | .clientDisconnects | .serverDisconnects => False
  | _ => True

/-- Neither side has failed. -/
structure Running (s : Handshake) : Prop where
  client : ∀ failure, s.client ≠ .failed failure
  server : ∀ failure, s.server ≠ .failed failure

theorem clientRead_undisturbed {frameDurationMs : UInt8}
    (hduration : frameDurationMs ∈ Packetizer.durations) {phase : ClientPhase} {count : Nat}
    {message : ControlMessage} (hexpects : phase.expects = true)
    (h : ClientAt ring counters frameDurationMs phase count)
    (hnext : count < 3 → (replies frameDurationMs)[count]? = some message)
    {supported : Option Nat} (hsupported : supported.isSome = true) :
    (∀ failure, clientRead ring counters supported message phase ≠ .failed failure) ∧
      clientLeft (clientRead ring counters supported message phase) + 1 = clientLeft phase := by
  cases phase with
  | opening =>
      cases hexpects
  | connected pipeline =>
      cases hexpects
  | failed failure =>
      cases hexpects
  | helloExpected =>
      have hcount : count = 0 := h
      have hmessage := hnext (by omega)
      rw [hcount] at hmessage
      cases hmessage
      exact ⟨fun _ heq => (by cases heq), rfl⟩
  | streamInfoExpected =>
      have hcount : count = 1 := h
      have hmessage := hnext (by omega)
      rw [hcount] at hmessage
      cases hmessage
      exact ⟨fun _ heq => (by cases heq), rfl⟩
  | startExpected stream =>
      obtain ⟨hcount, hstream⟩ := h
      have hmessage := hnext (by omega)
      rw [hcount] at hmessage
      cases hmessage
      obtain ⟨pipeline, hpipeline⟩ := new_announced ring counters hduration
      obtain ⟨limit, rfl⟩ := Option.isSome_iff_exists.mp hsupported
      have hread : clientRead ring counters (some limit) .start (.startExpected stream) =
          .connected pipeline := by
        rw [hstream]
        simp only [clientRead, hpipeline, DatagramSender.new]
        rfl
      rw [hread]
      exact ⟨fun _ heq => (by cases heq), rfl⟩

/-- A hello on an undisturbed connection is answered. -/
theorem serverRead_undisturbed (s : Handshake) {supported permitted : Option Nat}
    (h : Undisturbed (.serverReads supported permitted)) :
    ∃ frameDurationMs,
      s.serverRead (ControlMessage.hello protocolVersion) supported permitted =
        { s with
            server := .replying (replies frameDurationMs)
            chosen := some frameDurationMs
            permitted := DatagramSender.maxPayloadLen permitted } := by
  obtain ⟨hsupported, hpermitted⟩ := h
  obtain ⟨limit, rfl⟩ := Option.isSome_iff_exists.mp hsupported
  cases hduration : choosePacketDurationMs (DatagramSender.maxPayloadLen permitted) with
  | error error =>
      have hsmall := choosePacketDurationMs_error hduration
      have hone : samplesPerPacket 1 * 2 = 192 := rfl
      omega
  | ok frameDurationMs =>
      refine ⟨frameDurationMs, ?_⟩
      simp only [serverRead, if_true, DatagramSender.new, hduration]
      rfl

/-- While the server waits for a hello, nothing but the hello of the client is underway. -/
theorem hello_of_accepting {s : Handshake} {message : ControlMessage}
    {rest : List ControlMessage} (h : Agreeing ring counters s) (haccepting : s.server = .accepting)
    (hmessage : s.toServer = message :: rest) :
    message = ControlMessage.hello protocolVersion := by
  rcases h with ⟨_, hbefore⟩ | ⟨_, _, hbehind⟩
  · rcases hbefore.toServer haccepting with ⟨hnone, _⟩ | hasked
    · rw [hnone] at hmessage
      cases hmessage
    · rw [hasked] at hmessage
      exact (List.cons.inj hmessage).1.symm
  · rcases hbehind.server with ⟨_, heq, _⟩ | ⟨heq, _⟩ | heq
    all_goals
      rw [haccepting] at heq
      cases heq

/-- What an undisturbed event does to a running handshake: it keeps running, and either
one step less is left or nothing that matters has happened. -/
theorem step_undisturbed {s s' : Handshake} {e : HandshakeEvent} (h : Agreeing ring counters s)
    (hrunning : Running s) (he : Undisturbed e) (hmoves : Moves ring counters s e s') :
    Running s' ∧ (s'.left = s.left ∨ s'.left + 1 = s.left) := by
  cases hmoves with
  | stays =>
      exact ⟨hrunning, Or.inl rfl⟩
  | opens hopening =>
      refine ⟨⟨fun _ heq => (by cases heq), hrunning.server⟩, Or.inr ?_⟩
      simp only [left, hopening, clientLeft]
      omega
  | serverReads haccepting hmessage =>
      rw [hello_of_accepting h haccepting hmessage]
      obtain ⟨frameDurationMs, hread⟩ := serverRead_undisturbed { s with toServer := _ } he
      rw [hread]
      refine ⟨⟨hrunning.client, fun _ heq => (by cases heq)⟩, Or.inr ?_⟩
      simp only [left, haccepting, serverLeft, replies, List.length_cons, List.length_nil]
  | @serverWrites message remaining hreplying =>
      refine ⟨⟨hrunning.client, fun failure heq => ?_⟩, Or.inr ?_⟩
      · dsimp only at heq
        split_ifs at heq
      · cases remaining with
        | nil =>
            simp only [left, hreplying, serverLeft, List.isEmpty_nil, if_true,
              List.length_singleton]
        | cons next remaining =>
            simp only [left, hreplying, serverLeft, List.isEmpty_cons, Bool.false_eq_true, if_false,
              List.length_cons]
            omega
  | @clientReads supported message rest hexpects hmessage =>
      rcases h with ⟨_, hbefore⟩ | ⟨frameDurationMs, _, hbehind⟩
      · rw [hbefore.toClient] at hmessage
        cases hmessage
      · obtain ⟨later, hscript⟩ := hbehind.script
        rw [hmessage] at hscript
        obtain ⟨hfailed, hless⟩ := clientRead_undisturbed hbehind.fitting.possible
          hexpects hbehind.client (next_reply hscript) he
        refine ⟨⟨hfailed, hrunning.server⟩, Or.inr ?_⟩
        simp only [left]
        omega
  | serverSends hstreaming =>
      exact ⟨⟨hrunning.client, hrunning.server⟩, Or.inl rfl⟩
  | clientDisconnects =>
      exact he.elim
  | serverDisconnects =>
      exact he.elim

theorem run_undisturbed (ring : PcmRingBuffer Int16) (counters : StreamCounters)
    {es : List HandshakeEvent} (h : ∀ e ∈ es, Undisturbed e) :
    Agreeing ring counters (run (step ring counters) start es) ∧
      Running (run (step ring counters) start es) := by
  have halong : Along (step ring counters) (fun _ e => Undisturbed e) start es := along_of_forall h
  refine run_invariant (fun s => Agreeing ring counters s ∧ Running s) ?_
    ⟨start_agreeing, fun _ heq => (by cases heq), fun _ heq => (by cases heq)⟩ halong
  intro s e ⟨hagreeing, hrunning⟩ he
  have hmoves := step_moves ring counters s e
  exact ⟨step_agreeing hagreeing hmoves, (step_undisturbed hagreeing hrunning he hmoves).1⟩

/-- Nothing is left to do only behind the handshake. -/
theorem finished_of_left {s : Handshake} (h : Agreeing ring counters s) (hrunning : Running s)
    (hleft : s.left = 0) :
    (∃ pipeline, s.client = .connected pipeline) ∧ s.server = .streaming := by
  rw [left, Nat.add_eq_zero_iff] at hleft
  obtain ⟨hclient, hserver⟩ := hleft
  constructor
  · cases hphase : s.client with
    | connected pipeline => exact ⟨pipeline, rfl⟩
    | failed failure => exact absurd hphase (hrunning.client failure)
    | opening =>
        rw [hphase] at hclient
        cases hclient
    | helloExpected =>
        rw [hphase] at hclient
        cases hclient
    | streamInfoExpected =>
        rw [hphase] at hclient
        cases hclient
    | startExpected stream =>
        rw [hphase] at hclient
        cases hclient
  · rcases h with ⟨_, hbefore⟩ | ⟨frameDurationMs, _, hbehind⟩
    · rcases hbefore.server with heq | heq | heq | ⟨_, _, heq⟩
      · rw [heq] at hserver
        cases hserver
      all_goals exact absurd heq (hrunning.server _)
    · rcases hbehind.server with ⟨remaining, heq, hsome, _⟩ | ⟨heq, _⟩ | heq
      · rw [heq] at hserver
        exact absurd (List.eq_nil_of_length_eq_zero hserver) hsome
      · exact heq
      · exact absurd heq (hrunning.server _)

/-- As long as something is left to do, one of the two sides can do it. -/
theorem progress {s : Handshake} (h : Agreeing ring counters s) (hrunning : Running s)
    (hleft : s.left ≠ 0) {supported permitted supported' : Option Nat}
    (hserver : Undisturbed (.serverReads supported permitted))
    (hclient : Undisturbed (.clientReads supported')) :
    ∃ e ∈ [HandshakeEvent.clientOpens, .serverReads supported permitted, .serverWrites,
        .clientReads supported'],
      (s.step ring counters e).left + 1 = s.left := by
  rcases h with ⟨_, hbefore⟩ | ⟨frameDurationMs, _, hbehind⟩
  · rcases hbefore.client with ⟨hopening, _⟩ | hwaiting | hfailed
    · refine ⟨.clientOpens, by simp, ?_⟩
      simp only [step, hopening, left, clientLeft]
      omega
    · have haccepting : s.server = .accepting := by
        rcases hbefore.server with heq | heq | heq | ⟨_, _, heq⟩
        · exact heq
        all_goals exact absurd heq (hrunning.server _)
      have hasked : s.toServer = [ControlMessage.hello protocolVersion] := by
        rcases hbefore.toServer haccepting with ⟨_, hnot⟩ | hasked
        · exact absurd hwaiting hnot
        · exact hasked
      obtain ⟨frameDurationMs, hread⟩ := serverRead_undisturbed { s with toServer := [] } hserver
      refine ⟨.serverReads supported permitted, by simp, ?_⟩
      simp only [step, haccepting, hasked] at hread ⊢
      rw [hread]
      simp only [left, haccepting, serverLeft, replies, List.length_cons, List.length_nil]
    · exact absurd hfailed (hrunning.client _)
  · rcases hbehind.server with ⟨remaining, hreplying, hsome, _⟩ | ⟨hstreaming, hwritten⟩ | hfailed
    · obtain ⟨message, remaining, rfl⟩ := List.exists_cons_of_ne_nil hsome
      refine ⟨.serverWrites, by simp, ?_⟩
      simp only [step, hreplying]
      cases remaining with
      | nil =>
          simp only [left, hreplying, serverLeft, List.isEmpty_nil, if_true, List.length_singleton]
      | cons next remaining =>
          simp only [left, hreplying, serverLeft, List.isEmpty_cons, Bool.false_eq_true, if_false,
            List.length_cons]
          omega
    · -- everything is written, so the client has something left to read
      have hreads : s.client.expects = true ∧ s.heard.length < 3 := by
        have hat := hbehind.client
        simp only [left, hstreaming, serverLeft, Nat.add_zero] at hleft
        cases hphase : s.client with
        | opening =>
            rw [hphase] at hat
            exact hat.elim
        | failed failure => exact absurd hphase (hrunning.client failure)
        | connected pipeline =>
            rw [hphase] at hleft
            exact absurd rfl hleft
        | helloExpected =>
            rw [hphase] at hat
            have hcount : s.heard.length = 0 := hat
            exact ⟨rfl, by omega⟩
        | streamInfoExpected =>
            rw [hphase] at hat
            have hcount : s.heard.length = 1 := hat
            exact ⟨rfl, by omega⟩
        | startExpected stream =>
            rw [hphase] at hat
            have hcount : s.heard.length = 2 := hat.1
            exact ⟨rfl, by omega⟩
      obtain ⟨hexpects, hcount⟩ := hreads
      cases hmessage : s.toClient with
      | nil =>
          have hlength := hwritten.length_le
          rw [hmessage, List.append_nil] at hlength
          have hthree : (replies frameDurationMs).length = 3 := rfl
          omega
      | cons message rest =>
          obtain ⟨later, hscript⟩ := hbehind.script
          rw [hmessage] at hscript
          obtain ⟨_, hless⟩ := clientRead_undisturbed hbehind.fitting.possible hexpects
            hbehind.client (next_reply hscript) hclient
          refine ⟨.clientReads supported', by simp, ?_⟩
          simp only [step, hmessage, hexpects, if_true, left]
          omega
    · exact absurd hfailed (hrunning.server _)

end Completion

/-- **The handshake completes.**  On a connection that lasts and permits packets of one
millisecond, no order of the steps gets stuck or goes back: of the eight steps one less
is left whenever a side does what it can, some side always can, and when none is left
the client is connected and the server streams. -/
theorem handshake_completes (ring : PcmRingBuffer Int16) (counters : StreamCounters)
    {es : List HandshakeEvent} (h : ∀ e ∈ es, Undisturbed e) :
    ((run (step ring counters) start es).left = 0 →
        (∃ pipeline, (run (step ring counters) start es).client = .connected pipeline) ∧
          (run (step ring counters) start es).server = .streaming) ∧
      ((run (step ring counters) start es).left ≠ 0 →
        ∀ supported permitted supported', Undisturbed (.serverReads supported permitted) →
          Undisturbed (.clientReads supported') →
          ∃ e ∈ [HandshakeEvent.clientOpens, .serverReads supported permitted, .serverWrites,
              .clientReads supported'],
            (run (step ring counters) start (es ++ [e])).left + 1 =
              (run (step ring counters) start es).left) ∧
      (∀ e, Undisturbed e →
        (run (step ring counters) start (es ++ [e])).left ≤
          (run (step ring counters) start es).left) ∧
      start.left = 8 := by
  obtain ⟨hagreeing, hrunning⟩ := run_undisturbed ring counters h
  refine ⟨finished_of_left hagreeing hrunning, ?_, ?_, rfl⟩
  · intro hleft supported permitted supported' hserver hclient
    obtain ⟨e, hmem, hless⟩ := progress hagreeing hrunning hleft hserver hclient
    refine ⟨e, hmem, ?_⟩
    rw [run_concat]
    exact hless
  · intro e he
    rw [run_concat]
    obtain ⟨_, hless⟩ := step_undisturbed hagreeing hrunning he (step_moves ring counters _ e)
    omega

/-- A handshake over a path of 1200 bytes: the client reads while the server writes. -/
def constrainedHandshake : List HandshakeEvent :=
  [.clientOpens, .serverReads (some 1200) (some 1200), .serverWrites, .clientReads (some 1200),
    .serverWrites, .serverWrites, .clientReads (some 1200), .clientReads (some 1200)]

theorem handshake_completes_constrained :
    ((run (step (PcmRingBuffer.new 9600) ⟨0, 0, 0, 0⟩) start constrainedHandshake).chosen =
        some 5) ∧
      (run (step (PcmRingBuffer.new 9600) ⟨0, 0, 0, 0⟩) start constrainedHandshake).server =
        .streaming := by
  have hundisturbed : ∀ e ∈ constrainedHandshake, Undisturbed e := by
    intro e he
    simp only [constrainedHandshake, List.mem_cons, List.not_mem_nil, or_false] at he
    rcases he with rfl | rfl | rfl | rfl | rfl | rfl | rfl | rfl
    all_goals first
      | exact trivial
      | exact ⟨rfl, by decide⟩
      | exact rfl
  have hcompletes :=
    handshake_completes (PcmRingBuffer.new 9600) ⟨0, 0, 0, 0⟩ hundisturbed
  exact ⟨rfl, (hcompletes.1 rfl).2⟩

end Handshake

end Soundwave

import Soundwave.Handshake
import Soundwave.SenderLoop

/-!
# The sender task and the client together

The sender task, the two channels and the client, put together for a connection that
loses no packet and delivers packets in the order in which they were sent, as
`IdleSystem` does; a network that swaps two datagrams is not one of these.  What a round
of the sender writes to the channels is read off its log; the channels and the client are
those of `IdleSystem`, which knows the server only as something that numbers its packets
and announces idle periods.

That the real sender is such a server is the content of `Linked`: the packets and the
notices underway are the ones it has built.  The guarantees of the abstract system then
hold for it, and they speak about captured audio.
-/

namespace Soundwave

/-- The sender task, and the rest of the connection. -/
structure LiveStream where
  sender : SenderTask
  link : IdleSystem

/-- What can happen next. -/
inductive LiveEvent where
  | round (r : SenderRound)
  | deliverPacket
  | deliverIdle
  | idleTimer
  | readRing (len : Nat)
  | clearRing

namespace LiveStream

section Model

/-- A connection whose client has set up this pipeline. -/
def start (frameDurationMs : UInt8) (pipeline : ReceiverPipeline) : LiveStream where
  sender := .start frameDurationMs
  link := .start pipeline

/-- A packet on its way. -/
def sendPacket (packet : AudioPacket) : IdleEvent :=
  .sendPacket packet.timestamp packet.payload

/-- What a round writes to the channels: the packets it has built, or a notice. -/
def written (t t' : SenderTask) : List IdleEvent :=
  (t'.log.built.drop t.log.built.length).map sendPacket ++
    (t'.positions.drop t.positions.length).map (fun _ => IdleEvent.sendIdle)

/-- One step of the sender, a channel, the client or the playback thread. -/
def step (s : LiveStream) : LiveEvent → LiveStream
  | .round r =>
      { sender := s.sender.step r
        link := run IdleSystem.step s.link (written s.sender (s.sender.step r)) }
  | .deliverPacket => { s with link := s.link.step .deliverPacket }
  | .deliverIdle => { s with link := s.link.step .deliverIdle }
  | .idleTimer => { s with link := s.link.step .idleTimer }
  | .readRing len => { s with link := s.link.step (.readRing len) }
  | .clearRing => { s with link := s.link.step .clearRing }

/-- No packet of the round is dropped by a full queue or refused. -/
def Lossless : SenderRound → Prop
  | .received _ _ _ _ outcomes => ∀ outcome ∈ outcomes, outcome = .sent ∨ outcome = .gateClosed
  | _ => True

/-- The side condition of a run: the blocks are those of the stream, nothing is lost, and
fewer than `2 ^ 31` packets are in flight. -/
def Admissible (S : Nat → Int16) (s : LiveStream) : LiveEvent → Prop
  | .round r =>
      SenderTask.FromStream S r ∧ Lossless r ∧ (s.step (.round r)).link.FewInFlight
  | _ => s.link.FewInFlight

end Model

section Link

variable {S : Nat → Int16} {duration : UInt8}

/-- The channels carry what the sender has built. -/
structure Linked (s : LiveStream) : Prop where
  packets : s.link.sent = s.sender.log.built
  notices : s.link.delivered ++ s.link.notices = s.sender.positions

/-- What sending packets and then notices does to a connection. -/
theorem run_sends (l : IdleSystem) {packets : List AudioPacket}
    (hnumbered : Numbered l.sent.length packets) :
    run IdleSystem.step l (packets.map sendPacket) =
      { l with sent := l.sent ++ packets } := by
  induction packets generalizing l with
  | nil =>
      simp
  | cons packet packets ih =>
      obtain ⟨hfirst, hrest⟩ := hnumbered
      have hpacket :
          AudioPacket.mk (serial l.sent.length) packet.timestamp packet.payload = packet := by
        rw [← hfirst]
      have hstep : l.step (sendPacket packet) = { l with sent := l.sent ++ [packet] } := by
        simp only [sendPacket, IdleSystem.step, hpacket]
      rw [List.map_cons, run_cons, hstep, ih]
      · simp only [List.append_assoc, List.singleton_append]
      · rw [List.length_append, List.length_singleton]
        exact hrest

/-- What sending a notice does. -/
theorem run_notice (l : IdleSystem) :
    run IdleSystem.step l [IdleEvent.sendIdle] =
      { l with notices := l.notices ++ [l.sent.length] } := rfl

theorem numbered_behind {first : Nat} {ps qs : List AudioPacket} (h : Numbered first (ps ++ qs)) :
    Numbered (first + ps.length) qs := by
  induction ps generalizing first with
  | nil =>
      exact h
  | cons p ps ih =>
      have hrest := ih h.2
      rw [Nat.add_right_comm] at hrest
      exact hrest

/-- A round either builds packets or announces that the sender is idle. -/
theorem step_writes (t : SenderTask) (r : SenderRound) :
    (∃ packets, (t.step r).log.built = t.log.built ++ packets ∧
        (t.step r).positions = t.positions) ∨
      ((t.step r).log.built = t.log.built ∧
        (t.step r).positions = t.positions ++ [t.log.built.length]) := by
  have hnothing : ∃ packets, t.log.built = t.log.built ++ packets ∧ t.positions = t.positions :=
    ⟨[], (List.append_nil _).symm, rfl⟩
  rcases t.step_does r with ⟨_, hover⟩ | ⟨_, hdoes⟩
  · rw [hover]
    exact Or.inl hnothing
  · generalize t.step r = t' at hdoes
    cases hdoes with
    | nothing => exact Or.inl hnothing
    | ends => exact Or.inl hnothing
    | skips => exact Or.inl hnothing
    | staysIdle => exact Or.inl hnothing
    | staysClosed => exact Or.inl hnothing
    | @fallsIdle _ _ controls =>
        cases controls with
        | true => exact Or.inr ⟨rfl, rfl⟩
        | false => exact Or.inl hnothing
    | sends => exact Or.inl ⟨_, rfl, rfl⟩

/-- What a round of the sender is for the rest of the connection. -/
theorem round_link {s : LiveStream} (h : s.Linked) {r : SenderRound}
    (hnumbered : Numbered 0 (s.sender.step r).log.built) :
    (∃ packets, (s.sender.step r).log.built = s.sender.log.built ++ packets ∧
        (s.sender.step r).positions = s.sender.positions ∧
        Numbered s.link.sent.length packets ∧
        (s.step (.round r)).link = { s.link with sent := s.link.sent ++ packets }) ∨
      ((s.sender.step r).log.built = s.sender.log.built ∧
        (s.sender.step r).positions = s.sender.positions ++ [s.sender.log.built.length] ∧
        (s.step (.round r)).link =
          { s.link with notices := s.link.notices ++ [s.link.sent.length] }) := by
  rcases step_writes s.sender r with ⟨packets, hbuilt, hpositions⟩ | ⟨hbuilt, hpositions⟩
  · have hbehind : Numbered s.link.sent.length packets := by
      rw [hbuilt] at hnumbered
      have hrest := numbered_behind hnumbered
      rwa [Nat.zero_add, ← h.packets] at hrest
    have hwritten : written s.sender (s.sender.step r) = packets.map sendPacket := by
      rw [written, hbuilt, hpositions, List.drop_left, List.drop_length, List.map_nil,
        List.append_nil]
    refine Or.inl ⟨packets, hbuilt, hpositions, hbehind, ?_⟩
    simp only [step, hwritten]
    exact run_sends s.link hbehind
  · have hwritten : written s.sender (s.sender.step r) = [IdleEvent.sendIdle] := by
      rw [written, hbuilt, hpositions, List.drop_length, List.drop_left]
      rfl
    refine Or.inr ⟨hbuilt, hpositions, ?_⟩
    simp only [step, hwritten]
    exact run_notice s.link

/-- The rounds of the sender are steps of the abstract server. -/
theorem round_linked {s : LiveStream} (h : s.Linked) {r : SenderRound}
    (hnumbered : Numbered 0 (s.sender.step r).log.built) : (s.step (.round r)).Linked := by
  rcases round_link h hnumbered with ⟨packets, hbuilt, hpositions, _, hlink⟩ |
    ⟨hbuilt, hpositions, hlink⟩
  · refine ⟨?_, ?_⟩
    · rw [hlink, h.packets]
      exact hbuilt.symm
    · rw [hlink]
      exact h.notices.trans hpositions.symm
  · refine ⟨?_, ?_⟩
    · rw [hlink, h.packets]
      exact hbuilt.symm
    · rw [hlink, ← List.append_assoc, h.notices, h.packets]
      exact hpositions.symm

end Link

section Safety

variable {S : Nat → Int16} {duration : UInt8} {samplesPerPacket : Nat}

/-- Synchrony survives the sending of several packets. -/
theorem synced_sends {l : IdleSystem} {packets : List AudioPacket}
    (h : ∃ first ps, IdleSystem.Synced samplesPerPacket l first ps)
    (hnumbered : Numbered l.sent.length packets)
    (hsized : ∀ packet ∈ packets, packet.payload.length = samplesPerPacket * 2)
    (hfew : IdleSystem.FewInFlight { l with sent := l.sent ++ packets }) :
    ∃ first ps,
      IdleSystem.Synced samplesPerPacket { l with sent := l.sent ++ packets } first ps := by
  induction packets generalizing l with
  | nil =>
      simpa using h
  | cons packet packets ih =>
      obtain ⟨hfirst, hrest⟩ := hnumbered
      have hpacket :
          AudioPacket.mk (serial l.sent.length) packet.timestamp packet.payload = packet := by
        rw [← hfirst]
      have hstep : l.step (sendPacket packet) = { l with sent := l.sent ++ [packet] } := by
        simp only [sendPacket, IdleSystem.step, hpacket]
      have hbefore : l.FewInFlight := by
        obtain ⟨hpackets, hnotices⟩ := hfew
        simp only [List.length_append] at hpackets hnotices
        refine ⟨by omega, fun n hn => ?_⟩
        have := hnotices n hn
        omega
      have hnext := IdleSystem.synced_step (e := sendPacket packet) h
        ⟨hbefore, hsized packet List.mem_cons_self⟩
      rw [hstep] at hnext
      have hmore : l.sent ++ packet :: packets = l.sent ++ [packet] ++ packets := by simp
      rw [hmore] at hfew ⊢
      refine ih hnext ?_ (fun p hp => hsized p (List.mem_cons_of_mem _ hp)) hfew
      rw [List.length_append, List.length_singleton]
      exact hrest

theorem synced_notice {l : IdleSystem}
    (h : ∃ first ps, IdleSystem.Synced samplesPerPacket l first ps)
    (hfew : IdleSystem.FewInFlight { l with notices := l.notices ++ [l.sent.length] }) :
    ∃ first ps, IdleSystem.Synced samplesPerPacket
      { l with notices := l.notices ++ [l.sent.length] } first ps :=
  IdleSystem.synced_step (e := .sendIdle) h
    ⟨⟨hfew.1, fun n hn => hfew.2 n (List.mem_append_left _ hn)⟩, trivial⟩

/-- Nothing was dropped or refused so far. -/
def NoLoss (t : SenderTask) : Prop :=
  t.counters.packetsDropped = 0 ∧ t.ended ≠ some .failed

theorem mem_met {outcomes : List Packetizer.SendOutcome} {count : Nat}
    {outcome : Packetizer.SendOutcome} (h : outcome ∈ Packetizer.met outcomes count) :
    outcome ∈ outcomes ∨ outcome = .sent := by
  induction count generalizing outcomes with
  | zero =>
      cases h
  | succ count ih =>
      rcases List.mem_cons.mp h with rfl | h
      · cases outcomes with
        | nil => exact Or.inr rfl
        | cons outcome outcomes => exact Or.inl List.mem_cons_self
      · rcases ih h with hmem | hsent
        · exact Or.inl (List.mem_of_mem_tail hmem)
        · exact Or.inr hsent

theorem step_noLoss {t : SenderTask} (h : NoLoss t) {r : SenderRound} (hr : Lossless r) :
    NoLoss (t.step r) := by
  obtain ⟨hdropped, hended⟩ := h
  rcases t.step_does r with ⟨_, hover⟩ | ⟨hrunning, hdoes⟩
  · rw [hover]
    exact ⟨hdropped, hended⟩
  · generalize t.step r = t' at hdoes
    cases hdoes with
    | nothing => exact ⟨hdropped, hended⟩
    | ends => exact ⟨hdropped, fun heq => by cases heq⟩
    | skips => exact ⟨hdropped, hended⟩
    | staysIdle => exact ⟨hdropped, hended⟩
    | staysClosed => exact ⟨hdropped, hended⟩
    | @fallsIdle _ _ controls =>
        cases controls with
        | true => exact ⟨hdropped, hended⟩
        | false => exact ⟨hdropped, fun heq => by cases heq⟩
    | @sends block _ _ sendEnabled outcomes _ hnow =>
        have hmet : ∀ count, ∀ outcome ∈ Packetizer.met outcomes count,
            outcome = .sent ∨ outcome = .gateClosed := by
          intro count outcome houtcome
          rcases mem_met houtcome with hmem | hsent
          · exact hr outcome hmem
          · exact Or.inl hsent
        have hnone : ∀ count, Packetizer.SendOutcome.dropped ∉ Packetizer.met outcomes count := by
          intro count hmem
          rcases hmet count _ hmem with heq | heq
          · cases heq
          · cases heq
        have hfailed : ∀ count, Packetizer.SendOutcome.failed ∉ Packetizer.met outcomes count := by
          intro count hmem
          rcases hmet count _ hmem with heq | heq
          · cases heq
          · cases heq
        refine ⟨?_, ?_⟩
        · simp only [SenderTask.sendBlock, hdropped, List.count_eq_zero.mpr (hnone _)]
        · simp only [SenderTask.sendBlock, hfailed, if_false]
          exact fun heq => by cases heq

/-- The invariant of a live stream. -/
structure LiveOk (S : Nat → Int16) (duration : UInt8) (s : LiveStream) : Prop where
  sound : SenderTask.Sound S duration s.sender
  announced : SenderTask.Announced s.sender
  noLoss : NoLoss s.sender
  linked : s.Linked
  synced : ∃ first ps,
    IdleSystem.Synced (Soundwave.samplesPerPacket duration) s.link first ps

theorem sized_of_sound {t : SenderTask} (h : SenderTask.Sound S duration t) :
    ∀ packet ∈ t.log.built, packet.payload.length = Soundwave.samplesPerPacket duration * 2 := by
  intro packet hpacket
  obtain ⟨samples, hpayload, hsize, _⟩ := h.packet hpacket
  rw [hpayload, length_encodePcmLe, hsize, Nat.mul_comm]

theorem round_liveOk (hduration : duration ∈ Packetizer.durations) {s : LiveStream}
    (h : LiveOk S duration s) {r : SenderRound} (hr : Admissible S s (.round r)) :
    LiveOk S duration (s.step (.round r)) := by
  obtain ⟨hsound, hannounced, hnoLoss, hlinked, hsynced⟩ := h
  obtain ⟨hstream, hlossless, hfew⟩ := hr
  have hsound' := SenderTask.step_sound hduration hsound hstream
  have hlinked' := round_linked hlinked hsound'.log.numbered
  refine ⟨hsound', SenderTask.step_announced hannounced r, step_noLoss hnoLoss hlossless,
    hlinked', ?_⟩
  rcases round_link hlinked hsound'.log.numbered with ⟨packets, hbuilt, _, hnumbered, hlink⟩ |
    ⟨_, _, hlink⟩
  · rw [hlink] at hfew ⊢
    refine synced_sends hsynced hnumbered (fun packet hpacket => ?_) hfew
    refine sized_of_sound hsound' packet ?_
    rw [hbuilt]
    exact List.mem_append_right _ hpacket
  · rw [hlink] at hfew ⊢
    exact synced_notice hsynced hfew

/-- The other steps leave what was sent alone. -/
theorem link_linked {s : LiveStream} (h : s.Linked) {e : IdleEvent}
    (he : e = .deliverPacket ∨ e = .deliverIdle ∨ e = .idleTimer ∨ (∃ len, e = .readRing len) ∨
      e = .clearRing) :
    Linked { s with link := s.link.step e } := by
  have hsame : (s.link.step e).sent = s.link.sent ∧
      (s.link.step e).delivered ++ (s.link.step e).notices =
        s.link.delivered ++ s.link.notices := by
    rcases he with rfl | rfl | rfl | ⟨len, rfl⟩ | rfl
    · simp only [IdleSystem.step]
      split
      · exact ⟨rfl, rfl⟩
      · exact ⟨rfl, rfl⟩
    · cases hnotices : s.link.notices with
      | nil => simp only [IdleSystem.step, hnotices, and_self]
      | cons n notices =>
          simp only [IdleSystem.step, hnotices, List.append_assoc, List.singleton_append, and_self]
    · exact ⟨rfl, rfl⟩
    · exact ⟨rfl, rfl⟩
    · exact ⟨rfl, rfl⟩
  exact ⟨hsame.1.trans h.packets, hsame.2.trans h.notices⟩

/-- **Step lemma.** -/
theorem step_liveOk (hduration : duration ∈ Packetizer.durations) {s : LiveStream}
    (h : LiveOk S duration s) {e : LiveEvent} (he : Admissible S s e) :
    LiveOk S duration (s.step e) := by
  have hlink : ∀ e', Linked { s with link := s.link.step e' } →
      IdleSystem.Admissible (Soundwave.samplesPerPacket duration) s.link e' →
      LiveOk S duration { s with link := s.link.step e' } :=
    fun e' hlinked hadmissible => ⟨h.sound, h.announced, h.noLoss, hlinked,
      IdleSystem.synced_step h.synced hadmissible⟩
  cases e with
  | round r =>
      exact round_liveOk hduration h he
  | deliverPacket =>
      exact hlink _ (link_linked h.linked (by simp)) ⟨he, trivial⟩
  | deliverIdle =>
      exact hlink _ (link_linked h.linked (by simp)) ⟨he, trivial⟩
  | idleTimer =>
      exact hlink _ (link_linked h.linked (by simp)) ⟨he, trivial⟩
  | readRing len =>
      exact hlink _ (link_linked h.linked (by simp)) ⟨he, trivial⟩
  | clearRing =>
      exact hlink _ (link_linked h.linked (by simp)) ⟨he, trivial⟩

theorem start_liveOk (S : Nat → Int16) (duration : UInt8) {pipeline : ReceiverPipeline}
    (hpipeline : pipeline.InOrder (Soundwave.samplesPerPacket duration) 0 []) :
    LiveOk S duration (start duration pipeline) where
  sound := SenderTask.start_sound S duration
  announced := SenderTask.start_announced duration
  noLoss := ⟨rfl, fun heq => by cases heq⟩
  linked := ⟨rfl, rfl⟩
  synced := by
    refine ⟨0, [], trivial, fun _ hpacket => (by cases hpacket), Nat.le_refl _, hpipeline, rfl,
      Or.inl ⟨rfl, rfl⟩, fun _ hb => (by cases hb), fun harmed => (by cases harmed),
      fun _ hn => (by cases hn), rfl⟩

end Safety

/-- What the two ends of a live stream can rely on. -/
structure LiveSafe (S : Nat → Int16) (duration : UInt8) (s : LiveStream) : Prop where
  safe : s.link.IdleSafe
  packets : s.link.sent = s.sender.log.built
  notices : (s.link.delivered ++ s.link.notices).map serial = s.sender.notices
  audio : ∀ packet ∈ s.link.sent, ∃ samples, packet.payload = encodePcmLe samples ∧
    samples.length = samplesPerPacket duration ∧ Packetizer.Carries S packet.timestamp samples
  counted : s.sender.counters.packetsSent = s.link.sent.length
  announced : s.sender.ended = none → s.sender.silence.idle = true →
    (s.link.delivered ++ s.link.notices).getLast? = some s.link.sent.length

/-- **The sender and the client of an agreed stream.**  With a client that has set up its
pipeline for the announced duration, and as long as the network delivers every packet in
the order of sending and fewer than `2 ^ 31` packets are in flight: in whatever order
sender, client and channels take their steps, nothing is late or concealed, what is played
is read off the packets that the sender has built, in order, and each of them is captured
audio.  The notices underway are those of the sender, and the last one of an idle sender
names its next packet. -/
theorem live_stream_is_safe {duration : UInt8} (hduration : duration ∈ Packetizer.durations)
    (S : Nat → Int16) {ring : PcmRingBuffer Int16} {counters : StreamCounters}
    {pipeline : ReceiverPipeline}
    (hnew : ReceiverPipeline.new (announced duration) ring counters = .ok pipeline)
    {es : List LiveEvent} (hes : Along step (Admissible S) (start duration pipeline) es) :
    LiveSafe S duration (run step (start duration pipeline) es) := by
  have hstart := start_liveOk S duration (ReceiverPipeline.inOrder_new hnew 0)
  obtain ⟨hsound, hannounced, hnoLoss, hlinked, first, ps, hsynced⟩ :=
    run_invariant (LiveOk S duration) (fun _ _ h he => step_liveOk hduration h he) hstart hes
  refine ⟨IdleSystem.idleSafe_of_synced hsynced, hlinked.packets, ?_, ?_, ?_, ?_⟩
  · rw [hlinked.notices, hsound.notices]
  · intro packet hpacket
    rw [hlinked.packets] at hpacket
    exact hsound.packet hpacket
  · obtain ⟨hdropped, hended⟩ := hnoLoss
    have hcounted := hsound.counted
    rw [hdropped, if_neg hended, Nat.add_zero] at hcounted
    rw [hlinked.packets]
    exact hcounted
  · intro hrunning hidle
    rw [hlinked.notices, hlinked.packets]
    exact (hannounced hrunning hidle).1

/-- As long as a stream is short, little is in flight. -/
theorem fewInFlight_of_short {s : LiveStream} (h : s.Linked)
    (hshort : s.sender.log.built.length < 2 ^ 31) : s.link.FewInFlight := by
  rw [← h.packets] at hshort
  exact ⟨by omega, fun _ _ => by omega⟩

/-- A round, the gate closing behind it, and both reaching the client. -/
def pausedEvents (r : SenderRound) : List LiveEvent :=
  [.round r, .deliverPacket, .round (.gateClosed true), .deliverIdle]

theorem pausedEvents_admissible {S : Nat → Int16} {duration : UInt8}
    (hduration : duration ∈ Packetizer.durations) (pipeline : ReceiverPipeline) {r : SenderRound}
    (hr : SenderTask.FromStream S r) (hlossless : Lossless r)
    (hshort : (((SenderTask.start duration).step r).step (.gateClosed true)).log.built.length <
      2 ^ 31) :
    Along step (Admissible S) (start duration pipeline) (pausedEvents r) := by
  have hsent := SenderTask.step_sound hduration (SenderTask.start_sound S duration) hr
  have hclosed := SenderTask.step_sound hduration hsent (r := .gateClosed true) trivial
  have hfirst : ((SenderTask.start duration).step r).log.built.length < 2 ^ 31 := by
    refine Nat.lt_of_le_of_lt ?_ hshort
    rcases step_writes ((SenderTask.start duration).step r) (.gateClosed true) with
      ⟨packets, hbuilt, _⟩ | ⟨hbuilt, _⟩
    · rw [hbuilt, List.length_append]
      exact Nat.le_add_right _ _
    · exact Nat.le_of_eq (congrArg List.length hbuilt.symm)
  have hround : Linked ((start duration pipeline).step (.round r)) :=
    round_linked ⟨rfl, rfl⟩ hsent.log.numbered
  have hdelivered : Linked (((start duration pipeline).step (.round r)).step .deliverPacket) :=
    link_linked hround (by simp)
  have hpaused : Linked ((((start duration pipeline).step (.round r)).step .deliverPacket).step
      (.round (.gateClosed true))) :=
    round_linked hdelivered hclosed.log.numbered
  exact ⟨⟨hr, hlossless, fewInFlight_of_short hround hfirst⟩, fewInFlight_of_short hround hfirst,
    ⟨trivial, trivial, fewInFlight_of_short hpaused hshort⟩, fewInFlight_of_short hpaused hshort,
    trivial⟩

/-- One block of 10 ms and the end of the stream. -/
theorem live_stream_is_safe_paused :
    ∃ pipeline,
      ReceiverPipeline.new (announced 10) (.new 48000) ⟨0, 0, 0, 0⟩ = .ok pipeline ∧
        LiveSafe Int16.ofNat 10 (run step (start 10 pipeline) (pausedEvents
          (.received (.item (Packetizer.streamBlock Int16.ofNat 0)) true true true []))) := by
  obtain ⟨pipeline, hnew⟩ : ∃ pipeline,
      ReceiverPipeline.new (announced 10) (.new 48000) ⟨0, 0, 0, 0⟩ = .ok pipeline := ⟨_, rfl⟩
  have hadmissible := pausedEvents_admissible (S := Int16.ofNat)
    (show (10 : UInt8) ∈ Packetizer.durations by decide) pipeline
    (r := .received (.item (Packetizer.streamBlock Int16.ofNat 0)) true true true [])
    ⟨Packetizer.streamBlock_carries _ _, by decide⟩ (fun _ h => by cases h) (by decide +kernel)
  exact ⟨pipeline, hnew, live_stream_is_safe (by decide) Int16.ofNat hnew hadmissible⟩

end LiveStream

end Soundwave

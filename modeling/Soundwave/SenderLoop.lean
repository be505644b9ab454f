import Soundwave.BoundedChannels
import Soundwave.IdleResume
import Soundwave.PacketAudio
import Soundwave.SilenceDetector

/-!
# The sender task

Model of the loop of `spawn_datagram_sender` in `windows-server/src/network/server.rs`.
A round either finds the transmission gate closed or takes what the broadcast channel
has for this receiver: a block, the news that blocks were missed, or nothing.  The
silence detector decides whether a block is sent; when it falls idle, the pending tail
is dropped and the phone is told the next sequence number.

The environment is in the rounds: what the gate and the playback flag say whenever they
are looked at, whether the control channel is still open, and how `send_block` fares.
-/

namespace Soundwave

section Model

/-- `StreamCounters` of the server. -/
structure SenderCounters where
  packetsSent : Nat
  packetsDropped : Nat
  blocksSkipped : Nat
deriving DecidableEq

/-- How the loop ends: `Ok(())`, or an error that also cancels the session. -/
inductive SenderEnd where
  | finished
  | failed
deriving DecidableEq

/-- The variables of the loop.  `notices` is the log of the `AudioIdle` messages put on
the control channel, `positions` how many packets had been built before each of them. -/
structure SenderTask where
  log : Packetizer.SenderLog
  silence : SilenceDetector
  counters : SenderCounters
  ended : Option SenderEnd
  notices : List UInt32
  positions : List Nat

/-- What a round of the loop meets.  `enabled` is what gate and playback flag say when
the block is looked at, `sendEnabled` what the gate says at the beginning of
`send_block`, `controls` whether the control channel is open. -/
inductive SenderRound where
  | stopped
  | gateClosed (controls : Bool)
  | received (reception : Reception PcmBlock) (enabled controls sendEnabled : Bool)
      (outcomes : List Packetizer.SendOutcome)
  | captureClosed

/-- How many blocks the round reports as missed. -/
def SenderRound.missed : SenderRound → Nat
  | .received reception _ _ _ _ => Reception.missed [reception]
  | _ => 0

namespace SenderTask

/-- The task before its first round. -/
def start (frameDurationMs : UInt8) : SenderTask where
  log := .start frameDurationMs
  silence := .new
  counters := ⟨0, 0, 0⟩
  ended := none
  notices := []
  positions := []

/-- `packetizer.pending_tail = None`. -/
def clearTail (t : SenderTask) : SenderTask :=
  { t with log := t.log.step .clearTail }

/-- `report_idle`; the loop ends if the control channel is closed. -/
def reportIdle (t : SenderTask) (controls : Bool) : SenderTask :=
  if controls then
    { t with
        notices := t.notices ++ [t.log.packetizer.sequence]
        positions := t.positions ++ [t.log.built.length] }
  else
    { t with ended := some .finished }

/-- `send_block` with its counters; the loop ends with the error that it returns. -/
def sendBlock (t : SenderTask) (block : PcmBlock) (sendEnabled : Bool)
    (outcomes : List Packetizer.SendOutcome) : SenderTask :=
  let passed := (t.log.packetizer.sendBlockThrough block sendEnabled outcomes).2.2
  let met := Packetizer.met outcomes passed.length
  { t with
      log := t.log.step (.block block sendEnabled outcomes)
      counters := { t.counters with
        packetsSent := t.counters.packetsSent + met.count .sent
        packetsDropped := t.counters.packetsDropped + met.count .dropped }
      ended := if Packetizer.SendOutcome.failed ∈ met then some .failed else none }

/-- The branch for a captured block. -/
def onBlock (t : SenderTask) (block : PcmBlock) (enabled controls sendEnabled : Bool)
    (outcomes : List Packetizer.SendOutcome) : SenderTask :=
  let (silence, send, becameIdle) := t.silence.update
    { timestamp := block.timestamp, silent := block.samples.all (· == 0), enabled := enabled }
  let t := { t with silence := silence }
  let t := if becameIdle then t.clearTail.reportIdle controls else t
  if t.ended.isSome || !send then t else t.sendBlock block sendEnabled outcomes

/-- One round of a loop that has not ended. -/
def round (t : SenderTask) : SenderRound → SenderTask
  | .stopped => { t with ended := some .finished }
  | .gateClosed controls =>
      let (silence, _, becameIdle) :=
        t.silence.update { timestamp := 0, silent := true, enabled := false }
      let t := { t with silence := silence }.clearTail
      if becameIdle then t.reportIdle controls else t
  | .received (.item block) enabled controls sendEnabled outcomes =>
      t.onBlock block enabled controls sendEnabled outcomes
  | .received (.lagged missed) _ _ _ _ =>
      { t with
          counters := { t.counters with blocksSkipped := t.counters.blocksSkipped + missed } }
        |>.clearTail
  | .received .empty _ _ _ _ => t
  | .captureClosed => { t with ended := some .finished }

/-- One round; behind the loop nothing happens any more. -/
def step (t : SenderTask) (r : SenderRound) : SenderTask :=
  if t.ended.isSome then t else t.round r

/-- What a round can do to a task that has not ended. -/
inductive Does (t : SenderTask) : SenderRound → SenderTask → Prop
  | nothing {r : SenderRound} : Does t r t
  | ends {r : SenderRound} : Does t r { t with ended := some .finished }
  | skips {missed : Nat} {enabled controls sendEnabled : Bool}
      {outcomes : List Packetizer.SendOutcome} :
      Does t (.received (.lagged missed) enabled controls sendEnabled outcomes)
        { t with
            counters := { t.counters with blocksSkipped := t.counters.blocksSkipped + missed }
          : SenderTask }.clearTail
  | staysIdle {r : SenderRound} {silence : SilenceDetector} (hbefore : t.silence.idle = true)
      (hnow : silence.idle = true) : Does t r { t with silence := silence }
  | staysClosed {r : SenderRound} {silence : SilenceDetector} (hbefore : t.silence.idle = true)
      (hnow : silence.idle = true) : Does t r { t with silence := silence : SenderTask }.clearTail
  | fallsIdle {r : SenderRound} {silence : SilenceDetector} {controls : Bool}
      (hnow : silence.idle = true) :
      Does t r ({ t with silence := silence : SenderTask }.clearTail.reportIdle controls)
  | sends {block : PcmBlock} {enabled controls sendEnabled : Bool}
      {outcomes : List Packetizer.SendOutcome} {silence : SilenceDetector}
      (hnow : silence.idle = false) :
      Does t (.received (.item block) enabled controls sendEnabled outcomes)
        ({ t with silence := silence : SenderTask }.sendBlock block sendEnabled outcomes)

theorem onBlock_does {t : SenderTask} (hended : t.ended = none) (block : PcmBlock)
    (enabled controls sendEnabled : Bool) (outcomes : List Packetizer.SendOutcome) :
    Does t (.received (.item block) enabled controls sendEnabled outcomes)
      (t.onBlock block enabled controls sendEnabled outcomes) := by
  obtain ⟨silence, hsilence⟩ : ∃ silence, t.silence.next
      { timestamp := block.timestamp, silent := block.samples.all (· == 0), enabled := enabled } =
        silence := ⟨_, rfl⟩
  cases hnow : silence.idle with
  | false =>
      simp only [onBlock, SilenceDetector.update, hsilence, hnow, Bool.false_and,
        Bool.false_eq_true, if_false, hended, Option.isSome_none, Bool.not_false, Bool.not_true,
        Bool.or_self]
      exact Does.sends hnow
  | true =>
      cases hbefore : t.silence.idle with
      | false =>
          simp only [onBlock, SilenceDetector.update, hsilence, hnow, hbefore, Bool.not_false,
            Bool.and_self, if_true, Bool.not_true, Bool.or_true]
          exact Does.fallsIdle hnow
      | true =>
          simp only [onBlock, SilenceDetector.update, hsilence, hnow, hbefore, Bool.not_true,
            Bool.and_false, Bool.false_eq_true, if_false, Bool.not_false, Bool.or_true, if_true]
          exact Does.staysIdle hbefore hnow

/-- Every round of a task that has not ended does one of these. -/
theorem round_does {t : SenderTask} (hended : t.ended = none) (r : SenderRound) :
    Does t r (t.round r) := by
  cases r with
  | stopped =>
      exact Does.ends
  | captureClosed =>
      exact Does.ends
  | gateClosed controls =>
      have hnow : (t.silence.next { timestamp := 0, silent := true, enabled := false }).idle =
          true := rfl
      simp only [round, SilenceDetector.update, hnow, Bool.true_and]
      cases hbefore : t.silence.idle with
      | false =>
          exact Does.fallsIdle hnow
      | true =>
          exact Does.staysClosed hbefore hnow
  | received reception enabled controls sendEnabled outcomes =>
      cases reception with
      | item block =>
          exact onBlock_does hended block enabled controls sendEnabled outcomes
      | lagged missed =>
          exact Does.skips
      | empty =>
          exact Does.nothing

theorem step_does (t : SenderTask) (r : SenderRound) :
    (t.ended.isSome = true ∧ t.step r = t) ∨ (t.ended = none ∧ Does t r (t.step r)) := by
  cases hended : t.ended with
  | some ending =>
      refine Or.inl ⟨rfl, ?_⟩
      simp only [step, hended, Option.isSome_some, if_true]
  | none =>
      refine Or.inr ⟨rfl, ?_⟩
      simp only [step, hended, Option.isSome_none, Bool.false_eq_true, if_false]
      exact round_does hended r

end SenderTask

end Model

namespace SenderTask

section Invariant

variable {S : Nat → Int16} {duration : UInt8}

/-- The log of a sender: its packets carry the stream, each is accounted for, and the
notices name positions in the order of the packets. -/
structure Sound (S : Nat → Int16) (duration : UInt8) (t : SenderTask) : Prop where
  log : Packetizer.SenderOk S duration t.log
  made : ∀ packet ∈ t.log.built, ∃ c ∈ t.log.passed,
    packet.timestamp = c.1 ∧ packet.payload = encodePcmLe c.2
  counted : t.counters.packetsSent + t.counters.packetsDropped +
    (if t.ended = some .failed then 1 else 0) = t.log.built.length
  notices : t.notices = t.positions.map serial
  sorted : t.positions.Pairwise (· ≤ ·)
  bounded : ∀ n ∈ t.positions, n ≤ t.log.built.length

/-- A sender that is idle has told the phone which packet it will build next, and no
samples wait for a later block. -/
def Announced (t : SenderTask) : Prop :=
  t.ended = none → t.silence.idle = true →
    t.positions.getLast? = some t.log.built.length ∧ t.log.packetizer.pendingTail = none

/-- The block of a round is part of the stream. -/
def FromStream (S : Nat → Int16) : SenderRound → Prop
  | .received (.item block) _ _ _ _ =>
      Packetizer.Carries S block.timestamp block.samples ∧ block.timestamp.toNat < 2 ^ 64 - 480
  | _ => True

theorem start_sound (S : Nat → Int16) (duration : UInt8) : Sound S duration (start duration) where
  log := Packetizer.start_senderOk S duration
  made := fun _ hpacket => by cases hpacket
  counted := rfl
  notices := rfl
  sorted := List.Pairwise.nil
  bounded := fun _ hn => by cases hn

theorem clearTail_sound (hduration : duration ∈ Packetizer.durations) {t : SenderTask}
    (h : Sound S duration t) : Sound S duration t.clearTail where
  log := Packetizer.step_senderOk hduration h.log (e := .clearTail) trivial
  made := h.made
  counted := h.counted
  notices := h.notices
  sorted := h.sorted
  bounded := h.bounded

theorem reportIdle_sound {t : SenderTask} (h : Sound S duration t) (hended : t.ended = none)
    (controls : Bool) : Sound S duration (t.reportIdle controls) := by
  obtain ⟨hlog, hmade, hcounted, hnotices, hsorted, hbounded⟩ := h
  cases controls with
  | true =>
      refine ⟨hlog, hmade, hcounted, ?_, ?_, ?_⟩
      · simp only [reportIdle, if_true, hnotices, List.map_append, List.map_singleton,
          hlog.sequence]
      · refine List.pairwise_append.mpr ⟨hsorted, List.pairwise_singleton _ _, ?_⟩
        intro n hn m hm
        rw [List.mem_singleton.mp hm]
        exact hbounded n hn
      · intro n hn
        rcases List.mem_append.mp hn with hn | hn
        · exact hbounded n hn
        · rw [List.mem_singleton.mp hn]
          exact Nat.le_refl _
  | false =>
      refine ⟨hlog, hmade, ?_, hnotices, hsorted, hbounded⟩
      rw [hended] at hcounted
      exact hcounted

theorem sendBlock_sound (hduration : duration ∈ Packetizer.durations) {t : SenderTask}
    (h : Sound S duration t) (hended : t.ended = none) {block : PcmBlock}
    (hblock : Packetizer.Carries S block.timestamp block.samples ∧
      block.timestamp.toNat < 2 ^ 64 - 480)
    (sendEnabled : Bool) (outcomes : List Packetizer.SendOutcome) :
    Sound S duration (t.sendBlock block sendEnabled outcomes) := by
  obtain ⟨hlog, hmade, hcounted, hnotices, hsorted, hbounded⟩ := h
  obtain ⟨hnew, hcount⟩ :=
    Packetizer.sendBlockThrough_built t.log.packetizer block sendEnabled outcomes
  have hbuilt : (t.sendBlock block sendEnabled outcomes).log.built.length =
      t.log.built.length +
        (t.log.packetizer.sendBlockThrough block sendEnabled outcomes).2.1.length :=
    List.length_append
  refine ⟨Packetizer.step_senderOk hduration hlog (e := .block block sendEnabled outcomes) hblock,
    ?_, ?_, hnotices, hsorted, ?_⟩
  · intro packet hpacket
    rcases List.mem_append.mp hpacket with hold | hpacket
    · obtain ⟨c, hc, hsame⟩ := hmade packet hold
      exact ⟨c, List.mem_append_left _ hc, hsame⟩
    · obtain ⟨c, hc, hsame⟩ := hnew packet hpacket
      exact ⟨c, List.mem_append_right _ hc, hsame⟩
  · rw [hended, if_neg (by simp), Nat.add_zero] at hcounted
    rw [hbuilt, hcount, ← hcounted]
    simp only [sendBlock]
    by_cases hfailed : Packetizer.SendOutcome.failed ∈ Packetizer.met outcomes
        (t.log.packetizer.sendBlockThrough block sendEnabled outcomes).2.2.length
    · simp only [hfailed, if_true]
      omega
    · simp only [hfailed, if_false, reduceCtorEq]
      omega
  · intro n hn
    have hle := hbounded n hn
    omega

/-- **Step lemma.** -/
theorem does_sound (hduration : duration ∈ Packetizer.durations) {t t' : SenderTask}
    (h : Sound S duration t) (hended : t.ended = none) {r : SenderRound} (hr : FromStream S r)
    (hdoes : Does t r t') : Sound S duration t' := by
  obtain ⟨hlog, hmade, hcounted, hnotices, hsorted, hbounded⟩ := h
  have hsilence : ∀ silence, Sound S duration { t with silence := silence } :=
    fun silence => ⟨hlog, hmade, hcounted, hnotices, hsorted, hbounded⟩
  cases hdoes with
  | nothing =>
      exact ⟨hlog, hmade, hcounted, hnotices, hsorted, hbounded⟩
  | ends =>
      rw [hended] at hcounted
      exact ⟨hlog, hmade, hcounted, hnotices, hsorted, hbounded⟩
  | skips =>
      refine clearTail_sound hduration ⟨hlog, hmade, ?_, hnotices, hsorted, hbounded⟩
      exact hcounted
  | staysIdle =>
      exact hsilence _
  | staysClosed =>
      exact clearTail_sound hduration (hsilence _)
  | fallsIdle =>
      exact reportIdle_sound (clearTail_sound hduration (hsilence _)) hended _
  | @sends _ _ _ _ _ silence =>
      exact sendBlock_sound hduration (hsilence silence) hended hr _ _

theorem step_sound (hduration : duration ∈ Packetizer.durations) {t : SenderTask}
    (h : Sound S duration t) {r : SenderRound} (hr : FromStream S r) :
    Sound S duration (t.step r) := by
  rcases step_does t r with ⟨_, hover⟩ | ⟨hended, hdoes⟩
  · rw [hover]
    exact h
  · exact does_sound hduration h hended hr hdoes

/-- While the task is idle, the phone knows which packet comes next. -/
theorem does_announced {t t' : SenderTask} (h : Announced t) {r : SenderRound}
    (hdoes : Does t r t') : Announced t' := by
  cases hdoes with
  | nothing =>
      exact h
  | ends =>
      exact fun hrunning => by cases hrunning
  | skips =>
      exact fun hrunning hidle => ⟨(h hrunning hidle).1, rfl⟩
  | staysIdle hbefore =>
      exact fun hrunning _ => h hrunning hbefore
  | staysClosed hbefore =>
      exact fun hrunning _ => ⟨(h hrunning hbefore).1, rfl⟩
  | @fallsIdle _ silence controls hnow =>
      intro hrunning _
      cases controls with
      | false =>
          cases hrunning
      | true =>
          exact ⟨List.getLast?_concat, rfl⟩
  | sends hnow =>
      intro _ hidle
      have hboth : false = true := hnow.symm.trans hidle
      cases hboth

theorem step_announced {t : SenderTask} (h : Announced t) (r : SenderRound) :
    Announced (t.step r) := by
  rcases step_does t r with ⟨_, hover⟩ | ⟨_, hdoes⟩
  · rw [hover]
    exact h
  · exact does_announced h hdoes

theorem reportIdle_skipped (t : SenderTask) (controls : Bool) :
    (t.reportIdle controls).counters.blocksSkipped = t.counters.blocksSkipped := by
  cases controls with
  | true => rfl
  | false => rfl

/-- A round adds the blocks it reports as missed to their counter. -/
theorem step_skipped {t : SenderTask} (hended : t.ended = none) (r : SenderRound) :
    (t.step r).counters.blocksSkipped = t.counters.blocksSkipped + r.missed := by
  have hround : t.step r = t.round r := by
    simp only [step, hended, Option.isSome_none, Bool.false_eq_true, if_false]
  rw [hround]
  cases r with
  | stopped => rfl
  | captureClosed => rfl
  | gateClosed controls =>
      have hdoes := round_does hended (.gateClosed controls)
      generalize t.round (.gateClosed controls) = t' at hdoes
      cases hdoes with
      | nothing => rfl
      | ends => rfl
      | staysIdle => rfl
      | staysClosed => rfl
      | fallsIdle => exact reportIdle_skipped _ _
  | received reception enabled controls sendEnabled outcomes =>
      cases reception with
      | item block =>
          have hdoes := onBlock_does hended block enabled controls sendEnabled outcomes
          simp only [round]
          generalize t.onBlock block enabled controls sendEnabled outcomes = t' at hdoes
          cases hdoes with
          | nothing => rfl
          | ends => rfl
          | staysIdle => rfl
          | staysClosed => rfl
          | fallsIdle => exact reportIdle_skipped _ _
          | sends => rfl
      | lagged missed => rfl
      | empty => rfl

theorem start_announced (duration : UInt8) : Announced (start duration) :=
  fun _ hidle => by cases hidle

/-- Every packet has the size of the duration and the audio of its time stamp. -/
theorem Sound.packet {t : SenderTask} (h : Sound S duration t) {packet : AudioPacket}
    (hpacket : packet ∈ t.log.built) :
    ∃ samples, packet.payload = encodePcmLe samples ∧
      samples.length = samplesPerPacket duration ∧
      Packetizer.Carries S packet.timestamp samples := by
  obtain ⟨c, hc, hstamp, hpayload⟩ := h.made packet hpacket
  obtain ⟨hsize, hcarries⟩ := h.log.passed c hc
  refine ⟨c.2, hpayload, hsize, ?_⟩
  rw [hstamp]
  exact hcarries

/-- What the rest of the system can rely on. -/
structure Accountable (S : Nat → Int16) (duration : UInt8) (t : SenderTask) : Prop where
  packets : ∀ packet ∈ t.log.built, ∃ samples, packet.payload = encodePcmLe samples ∧
    samples.length = samplesPerPacket duration ∧ Packetizer.Carries S packet.timestamp samples
  numbered : Numbered 0 t.log.built
  counted : t.counters.packetsSent + t.counters.packetsDropped +
    (if t.ended = some .failed then 1 else 0) = t.log.built.length
  notices : t.notices = t.positions.map serial
  sorted : t.positions.Pairwise (· ≤ ·)
  announced : Announced t

end Invariant

/-- **What a sender task does over its whole life.**  Whatever blocks of the stream it
receives or misses, while their time stamps are below `2 ^ 64 - 480`, however gate, playback
flag, queue and control channel behave: its packets are numbered without a gap, each with
the audio of its time stamp, and each is counted as sent or dropped, but for one that ends
the task.  Every idle notice names the packet that is built next, and as long as the task
is idle the last notice still does. -/
theorem sender_is_accountable {duration : UInt8} (hduration : duration ∈ Packetizer.durations)
    (S : Nat → Int16) {rs : List SenderRound} (hrs : ∀ r ∈ rs, FromStream S r) :
    Accountable S duration (run step (start duration) rs) := by
  have hsound : Sound S duration (run step (start duration) rs) :=
    run_invariant (Sound S duration) (fun _ _ h hr => step_sound hduration h hr)
      (start_sound S duration) (along_of_forall hrs)
  have hannounced : Announced (run step (start duration) rs) :=
    run_preserves Announced (fun _ r h => step_announced h r) (start_announced duration) rs
  exact ⟨fun _ hpacket => hsound.packet hpacket, hsound.log.numbered, hsound.counted,
    hsound.notices, hsound.sorted, hannounced⟩

/-- Packets of 4 ms: a block of which one packet is dropped by a full queue, two missed
blocks, one that the gate cuts off, and the gate closing for good. -/
def unevenRounds : List SenderRound :=
  [.received (.item (Packetizer.streamBlock Int16.ofNat 0)) true true true [.sent, .dropped],
    .received (.lagged 2) true true true [],
    .received (.item (Packetizer.streamBlock Int16.ofNat 1440)) true true true [.gateClosed],
    .gateClosed true]

theorem sender_is_accountable_uneven :
    Accountable Int16.ofNat 4 (run step (start 4) unevenRounds) := by
  have hduration : (4 : UInt8) ∈ Packetizer.durations := by decide
  have hrounds : ∀ r ∈ unevenRounds, FromStream Int16.ofNat r := by
    intro r hr
    simp only [unevenRounds, List.mem_cons, List.not_mem_nil, or_false] at hr
    rcases hr with rfl | rfl | rfl | rfl
    · exact ⟨Packetizer.streamBlock_carries _ _, by decide⟩
    · exact trivial
    · exact ⟨Packetizer.streamBlock_carries _ _, by decide⟩
    · exact trivial
  exact sender_is_accountable hduration Int16.ofNat hrounds

end SenderTask

end Soundwave

import Soundwave.JitterLatency
import Soundwave.PcmRingThreads
import Soundwave.ReceiverPipeline

/-!
# The adaptive jitter target

The network task calls `handle_packet` and `resume` of the pipeline while the playback
thread reads from the ring.  A call is cut at its operations on the ring, and each write
goes through `push_latest` as in `RingThreads`, so that a read may run between any two of
them.

The log of the finished calls says how many packets of the right size there were since the
target was last at rest, and which underruns had been seen.  The cooldown of the pipeline
is compared with it.
-/

namespace Soundwave

/-- Where the network task stands in a call of the pipeline. -/
inductive StreamCall where
  | idle
  | packet (inFlight : ReceiverPipeline.InFlight) (left : List JitterOutput) (underruns : Nat)
  | clear
  | beginBuffering
  | rest
deriving DecidableEq

/-- A finished call: `resume` with the underruns it has read, a packet of a wrong size, or a
packet with the underruns that were read for it and whether the target has grown. -/
inductive StreamRecord where
  | resumed (underruns : Nat)
  | refused
  | packet (underruns : Nat) (grown : Bool)
deriving DecidableEq

/-- The pipeline with its two threads, and the finished calls, the latest first. -/
structure StreamThreads where
  pipeline : ReceiverPipeline
  call : StreamCall
  producer : Producer Int16
  reader : Reader Int16
  log : List StreamRecord

/-- The network task begins a call or goes on with it; the playback thread begins a read or
goes on with it. -/
inductive StreamEvent where
  | packet (packet : AudioPacket)
  | resume (nextSequence : UInt32)
  | network
  | read (length : Nat)
  | playback

namespace StreamThreads

section Steps

/-- A pipeline that `ReceiverPipeline::new` has built. -/
def start (p : ReceiverPipeline) : StreamThreads where
  pipeline := p
  call := .idle
  producer := .idle
  reader := .idle
  log := []

/-- The threads at the ring. -/
def threads (s : StreamThreads) : RingThreads Int16 where
  ring := s.pipeline.ring
  producer := s.producer
  reader := s.reader
  reads := []
  evicted := 0
  padded := 0

/-- One step of a thread at the ring. -/
def ringStep (s : StreamThreads) (e : RingEvent Int16) : StreamThreads :=
  let t := s.threads.step e
  { s with
      pipeline := { s.pipeline with ring := t.ring }
      producer := t.producer
      reader := t.reader }

/-- `handle_packet` up to its first write. -/
def beginPacket (s : StreamThreads) (packet : AudioPacket) : StreamThreads :=
  match s.pipeline.accept packet with
  | (p, none) => { s with pipeline := p, log := .refused :: s.log }
  | (p, some inFlight) =>
      { s with pipeline := p, call := .packet inFlight inFlight.outputs s.pipeline.ring.underruns }

/-- `handle_packet` behind its last write. -/
def endPacket (s : StreamThreads) (inFlight : ReceiverPipeline.InFlight) (underruns : Nat) :
    StreamThreads :=
  let p := s.pipeline.settle inFlight
  { s with
      pipeline := p
      call := .idle
      log := .packet underruns
        (decide (s.pipeline.jitter.targetPackets < p.jitter.targetPackets)) :: s.log }

/-- The next operation of the network task. -/
def networkStep (s : StreamThreads) : StreamThreads :=
  match s.call with
  | .idle => s
  | .packet inFlight left underruns =>
      match s.producer, left with
      | .idle, [] => s.endPacket inFlight underruns
      | .idle, output :: left =>
          { (s.ringStep (.write (s.pipeline.samplesOf output))) with
              call := .packet inFlight left underruns }
      | _, _ => s.ringStep .producer
  | .clear =>
      let (oldest, ring) := s.pipeline.ring.pop
      { s with
          pipeline := { s.pipeline with ring := ring }
          call := if oldest.isSome then .clear else .beginBuffering }
  | .beginBuffering =>
      { s with
          pipeline := { s.pipeline with ring := s.pipeline.ring.beginBuffering }
          call := .rest }
  | .rest =>
      { s with
          pipeline :=
            { s.pipeline with
                lastUnderruns := s.pipeline.ring.underruns
                adaptationCooldownPackets := s.pipeline.cooldownAfterAdjustmentPackets }
          call := .idle
          log := .resumed s.pipeline.ring.underruns :: s.log }

/-- One step of either thread; a call begins only when the last one has ended. -/
def step (s : StreamThreads) : StreamEvent → StreamThreads
  | .packet packet =>
      match s.call with
      | .idle => s.beginPacket packet
      | _ => s
  | .resume nextSequence =>
      match s.call with
      | .idle =>
          { s with
              pipeline := { s.pipeline with jitter := s.pipeline.jitter.restart nextSequence }
              call := .clear }
      | _ => s
  | .network => s.networkStep
  | .read length => s.ringStep (.read length)
  | .playback => s.ringStep .reader

/-- The jitter target. -/
def target (s : StreamThreads) : Nat := s.pipeline.jitter.targetPackets

end Steps

end StreamThreads

namespace StreamRecord

/-- How many packets of the right size have been handled since the stream began, was last
resumed, or the target last grew. -/
def sizedSince : List StreamRecord → Nat
  | [] => 0
  | .resumed _ :: _ => 0
  | .refused :: log => sizedSince log
  | .packet _ grown :: log => if grown then 0 else sizedSince log + 1

/-- The underruns that were read last; `first` were there when the stream began. -/
def seenUnderruns (first : Nat) : List StreamRecord → Nat
  | [] => first
  | .resumed underruns :: _ => underruns
  | .refused :: log => seenUnderruns first log
  | .packet underruns _ :: _ => underruns

end StreamRecord

section Frames

theorem JitterBuffer.drainLoop_target (fuel : Nat) (b : JitterBuffer) :
    (drainLoop fuel b).1.targetPackets = b.targetPackets := by
  induction fuel generalizing b with
  | zero => rfl
  | succ fuel ih =>
      rw [drainLoop]
      cases hstep : b.drainStep with
      | none => rfl
      | some result =>
          obtain ⟨move, b'⟩ := result
          exact (ih b').trans (drainStep_frame hstep).1

theorem JitterBuffer.push_target (b : JitterBuffer) (packet : AudioPacket) :
    (b.push packet).1.targetPackets = b.targetPackets := by
  cases h : b.accepts packet with
  | true =>
      rw [push_of_accepts h, drain]
      split_ifs with hgate
      · rfl
      · exact drainLoop_target _ _
  | false =>
      obtain ⟨late, hpush⟩ := push_of_not_accepts h
      rw [hpush]
      rfl

/-- The threads at the ring leave the playback target alone. -/
theorem RingThreads.playbackTarget_step {α : Type} (t : RingThreads α) (e : RingEvent α) :
    (t.step e).ring.playbackTargetSamples = t.ring.playbackTargetSamples := by
  cases e with
  | write samples =>
      rw [step]
      cases t.producer <;> rfl
  | producer =>
      simp only [step, producerStep]
      cases t.producer with
      | idle => rfl
      | push sample rest =>
          simp only [PcmRingBuffer.push]
          split_ifs <;> rfl
      | evict sample rest => rfl
      | retry sample rest =>
          simp only [PcmRingBuffer.push]
          split_ifs <;> rfl
  | read length =>
      rw [step]
      cases t.reader <;> rfl
  | reader =>
      simp only [step, readerStep]
      cases t.reader with
      | idle => rfl
      | gate length =>
          simp only [PcmRingBuffer.readGate]
          split_ifs <;> rfl
      | pop length slots =>
          simp only [PcmRingBuffer.pop, PcmRingBuffer.noteUnderrun]
          split_ifs <;> rfl

end Frames

section Settling

namespace ReceiverPipeline

/-- What the accounting leaves alone. -/
theorem settle_frame (p : ReceiverPipeline) (inFlight : InFlight) :
    (p.settle inFlight).samplesPerPacket = p.samplesPerPacket ∧
      (p.settle inFlight).frameDurationMs = p.frameDurationMs ∧
      (p.settle inFlight).maximumTargetPackets = p.maximumTargetPackets ∧
      (p.settle inFlight).cooldownAfterAdjustmentPackets = p.cooldownAfterAdjustmentPackets ∧
      (p.settle inFlight).lastUnderruns = p.lastUnderruns ∧
      (p.settle inFlight).ring.capacity = p.ring.capacity := by
  simp only [settle, adjustJitterAfterStutter]
  split_ifs
  · exact ⟨rfl, rfl, rfl, rfl, rfl, rfl⟩
  · exact ⟨rfl, rfl, rfl, rfl, rfl, rfl⟩
  · exact ⟨rfl, rfl, rfl, rfl, rfl, rfl⟩
  · exact ⟨rfl, rfl, rfl, rfl, rfl, rfl⟩

/-- Either the target stays and the cooldown goes on, or the cooldown is over, there was a
stutter, and the target, the ring and the published figure are raised together. -/
theorem settle_cases {p : ReceiverPipeline} (hmaximum : max p.maximumTargetPackets 1 ≤ u64Max)
    (inFlight : InFlight) :
    ((p.settle inFlight).jitter.targetPackets = p.jitter.targetPackets ∧
        (p.settle inFlight).ring = p.ring ∧
        (p.settle inFlight).state.jitterBufferMs = p.state.jitterBufferMs ∧
        p.adaptationCooldownPackets ≤ (p.settle inFlight).adaptationCooldownPackets + 1) ∨
      (p.adaptationCooldownPackets = 0 ∧
        (inFlight.underrunDetected = true ∨ inFlight.lateBefore < p.jitter.latePackets) ∧
        p.jitter.targetPackets ≤ (p.settle inFlight).jitter.targetPackets ∧
        (p.settle inFlight).jitter.targetPackets ≤ max p.maximumTargetPackets 1 ∧
        (p.settle inFlight).adaptationCooldownPackets = p.cooldownAfterAdjustmentPackets ∧
        (p.settle inFlight).ring =
          p.ring.setPlaybackTarget
            ((p.settle inFlight).jitter.targetPackets * p.samplesPerPacket) ∧
        (p.settle inFlight).state.jitterBufferMs =
          p.frameDurationMs * (p.settle inFlight).jitter.targetPackets) := by
  simp only [settle, adjustJitterAfterStutter]
  split_ifs with hcooldown hstutter hincreased
  · exact .inl ⟨rfl, rfl, rfl, by simp only; omega⟩
  · right
    simp only [JitterBuffer.increaseTarget] at hincreased ⊢
    split_ifs at hincreased ⊢ with hmax
    have hdetected := hstutter.1
    simp only [Bool.or_eq_true, decide_eq_true_eq] at hdetected
    refine ⟨by omega, hdetected, ?_, ?_, trivial, trivial, trivial⟩
    · simp only [saturatingAdd]
      omega
    · exact min_le_right _ _
  · left
    simp only [JitterBuffer.increaseTarget] at hincreased ⊢
    split_ifs at hincreased ⊢ with hmax
    · exact ⟨rfl, trivial, trivial, Nat.le_succ _⟩
    · exact absurd rfl hincreased
  · exact .inl ⟨rfl, rfl, rfl, Nat.le_succ _⟩

end ReceiverPipeline

end Settling

section Tuning

/-- The pipeline `p`, which comes from `p₀`, has its target within the limit, the ring and
the published figure at the target, and a cooldown that the log accounts for. -/
structure Tuned (p₀ p : ReceiverPipeline) (log : List StreamRecord) : Prop where
  samples : p.samplesPerPacket = p₀.samplesPerPacket
  duration : p.frameDurationMs = p₀.frameDurationMs
  maximum : p.maximumTargetPackets = p₀.maximumTargetPackets
  length : p.cooldownAfterAdjustmentPackets = p₀.cooldownAfterAdjustmentPackets
  capacity : p.ring.capacity = p₀.ring.capacity
  below : p.jitter.targetPackets ≤ max p.maximumTargetPackets 1
  published : p.state.jitterBufferMs = p.frameDurationMs * p.jitter.targetPackets
  gate : p.ring.playbackTargetSamples =
    min p.ring.capacity (p.jitter.targetPackets * p.samplesPerPacket)
  cooldown : p.cooldownAfterAdjustmentPackets ≤
    p.adaptationCooldownPackets + StreamRecord.sizedSince log

namespace Tuned

variable {p₀ p : ReceiverPipeline} {log : List StreamRecord}

theorem ringStep (h : Tuned p₀ p log) {ring : PcmRingBuffer Int16}
    (hcapacity : ring.capacity = p.ring.capacity)
    (htarget : ring.playbackTargetSamples = p.ring.playbackTargetSamples) :
    Tuned p₀ { p with ring := ring } log where
  samples := h.samples
  duration := h.duration
  maximum := h.maximum
  length := h.length
  capacity := hcapacity.trans h.capacity
  below := h.below
  published := h.published
  gate := by
    rw [htarget, h.gate, hcapacity]
  cooldown := h.cooldown

theorem restart (h : Tuned p₀ p log) (nextSequence : UInt32) :
    Tuned p₀ { p with jitter := p.jitter.restart nextSequence } log where
  samples := h.samples
  duration := h.duration
  maximum := h.maximum
  length := h.length
  capacity := h.capacity
  below := h.below
  published := h.published
  gate := h.gate
  cooldown := h.cooldown

theorem rested (h : Tuned p₀ p log) (underruns seen : Nat) :
    Tuned p₀
      { p with
          lastUnderruns := underruns
          adaptationCooldownPackets := p.cooldownAfterAdjustmentPackets }
      (.resumed seen :: log) where
  samples := h.samples
  duration := h.duration
  maximum := h.maximum
  length := h.length
  capacity := h.capacity
  below := h.below
  published := h.published
  gate := h.gate
  cooldown := Nat.le_refl _

theorem accept (h : Tuned p₀ p log) (packet : AudioPacket) :
    Tuned p₀ (p.accept packet).1 log := by
  rw [ReceiverPipeline.accept]
  split_ifs
  · exact ⟨h.samples, h.duration, h.maximum, h.length, h.capacity, h.below, h.published, h.gate,
      h.cooldown⟩
  · have htarget := p.jitter.push_target packet
    refine ⟨h.samples, h.duration, h.maximum, h.length, h.capacity, ?_, ?_, ?_, h.cooldown⟩
    · exact htarget.trans_le h.below
    · simp only [htarget]
      exact h.published
    · simp only [htarget]
      exact h.gate

theorem refused (h : Tuned p₀ p log) : Tuned p₀ p (.refused :: log) :=
  ⟨h.samples, h.duration, h.maximum, h.length, h.capacity, h.below, h.published, h.gate,
    h.cooldown⟩

theorem settle (h : Tuned p₀ p log) (hmaximum : max p₀.maximumTargetPackets 1 ≤ u64Max)
    (inFlight : ReceiverPipeline.InFlight) (underruns : Nat) :
    Tuned p₀ (p.settle inFlight)
      (.packet underruns
        (decide (p.jitter.targetPackets < (p.settle inFlight).jitter.targetPackets)) :: log) := by
  have hlimit : max p.maximumTargetPackets 1 ≤ u64Max := by
    rw [h.maximum]
    exact hmaximum
  obtain ⟨hsamples, hduration, hmax, hlength, _, hcapacity⟩ := p.settle_frame inFlight
  rcases ReceiverPipeline.settle_cases hlimit inFlight with
    ⟨htarget, hring, hfigure, hcooldown⟩ | ⟨hover, _, _, hbelow, hcooldown, hring, hfigure⟩
  · refine ⟨hsamples.trans h.samples, hduration.trans h.duration, hmax.trans h.maximum,
      hlength.trans h.length, hcapacity.trans h.capacity, ?_, ?_, ?_, ?_⟩
    · rw [htarget, hmax]
      exact h.below
    · rw [hfigure, hduration, htarget]
      exact h.published
    · rw [hring, htarget, hsamples]
      exact h.gate
    · have hsum := h.cooldown
      have hsame : ¬ p.jitter.targetPackets < (p.settle inFlight).jitter.targetPackets := by
        rw [htarget]
        exact Nat.lt_irrefl _
      rw [hlength, decide_eq_false hsame, StreamRecord.sizedSince]
      simp only [Bool.false_eq_true, if_false]
      omega
  · refine ⟨hsamples.trans h.samples, hduration.trans h.duration, hmax.trans h.maximum,
      hlength.trans h.length, hcapacity.trans h.capacity, ?_, ?_, ?_, ?_⟩
    · rw [hmax]
      exact hbelow
    · rw [hfigure, hduration]
    · rw [hring, hsamples, PcmRingBuffer.setPlaybackTarget, Nat.min_comm]
    · rw [hlength, hcooldown]
      exact Nat.le_add_right _ _

end Tuned

end Tuning

namespace StreamThreads

section Runs

/-- The pipeline remembers the underruns that the log has seen, and a call in progress
compares with them. -/
def Seen (first : Nat) (s : StreamThreads) : Prop :=
  match s.call with
  | .packet inFlight _ underruns =>
      s.pipeline.lastUnderruns = underruns ∧
        inFlight.underrunDetected = decide (StreamRecord.seenUnderruns first s.log < underruns)
  | _ => s.pipeline.lastUnderruns = StreamRecord.seenUnderruns first s.log

/-- The invariant of both threads. -/
structure Adapting (p₀ : ReceiverPipeline) (s : StreamThreads) : Prop where
  tuned : Tuned p₀ s.pipeline s.log
  seen : s.Seen p₀.lastUnderruns

variable {p₀ : ReceiverPipeline} {s : StreamThreads}

theorem adapting_ringStep (h : Adapting p₀ s) (e : RingEvent Int16) :
    Adapting p₀ (s.ringStep e) where
  tuned := h.tuned.ringStep (s.threads.capacity_step e) (s.threads.playbackTarget_step e)
  seen := h.seen

theorem adapting_beginPacket (h : Adapting p₀ s) (hidle : s.call = .idle) (packet : AudioPacket) :
    Adapting p₀ (s.beginPacket packet) := by
  have haccept := h.tuned.accept packet
  have hseen := h.seen
  simp only [Seen, hidle] at hseen
  rw [beginPacket]
  by_cases hsize : packet.payload.length = s.pipeline.expectedPacketBytes
  · rw [ReceiverPipeline.accept_of_size hsize rfl] at haccept ⊢
    exact ⟨haccept, rfl, by rw [hseen]⟩
  · have hrefused : s.pipeline.accept packet =
        ({ s.pipeline with
            state := { s.pipeline.state with
              receivedPackets := s.pipeline.state.receivedPackets + 1 } }, none) := by
      rw [ReceiverPipeline.accept, if_pos hsize]
    rw [hrefused] at haccept ⊢
    refine ⟨haccept.refused, ?_⟩
    simp only [Seen, hidle, StreamRecord.seenUnderruns]
    exact hseen

theorem adapting_networkStep (hmaximum : max p₀.maximumTargetPackets 1 ≤ u64Max)
    (h : Adapting p₀ s) : Adapting p₀ s.networkStep := by
  have hseen := h.seen
  cases hcall : s.call with
  | idle =>
      simp only [networkStep, hcall]
      exact h
  | packet inFlight left underruns =>
      simp only [Seen, hcall] at hseen
      cases hproducer : s.producer with
      | idle =>
          cases left with
          | nil =>
              simp only [networkStep, hcall, hproducer]
              refine ⟨h.tuned.settle hmaximum inFlight underruns, ?_⟩
              exact (s.pipeline.settle_frame inFlight).2.2.2.2.1.trans hseen.1
          | cons output left =>
              simp only [networkStep, hcall, hproducer]
              exact ⟨(adapting_ringStep h _).tuned, hseen⟩
      | push sample rest =>
          simp only [networkStep, hcall, hproducer]
          exact adapting_ringStep h .producer
      | evict sample rest =>
          simp only [networkStep, hcall, hproducer]
          exact adapting_ringStep h .producer
      | retry sample rest =>
          simp only [networkStep, hcall, hproducer]
          exact adapting_ringStep h .producer
  | clear =>
      simp only [Seen, hcall] at hseen
      simp only [networkStep, hcall]
      refine ⟨h.tuned.ringStep rfl rfl, ?_⟩
      cases s.pipeline.ring.pop.1.isSome with
      | true => exact hseen
      | false => exact hseen
  | beginBuffering =>
      simp only [Seen, hcall] at hseen
      simp only [networkStep, hcall]
      exact ⟨h.tuned.ringStep rfl rfl, hseen⟩
  | rest =>
      simp only [networkStep, hcall]
      exact ⟨h.tuned.rested _ _, rfl⟩

theorem adapting_step (hmaximum : max p₀.maximumTargetPackets 1 ≤ u64Max) (h : Adapting p₀ s)
    (e : StreamEvent) : Adapting p₀ (s.step e) := by
  cases e with
  | packet packet =>
      cases hcall : s.call with
      | idle =>
          simp only [step, hcall]
          exact adapting_beginPacket h hcall packet
      | packet inFlight left underruns =>
          simp only [step, hcall]
          exact h
      | clear =>
          simp only [step, hcall]
          exact h
      | beginBuffering =>
          simp only [step, hcall]
          exact h
      | rest =>
          simp only [step, hcall]
          exact h
  | resume nextSequence =>
      cases hcall : s.call with
      | idle =>
          have hseen := h.seen
          simp only [Seen, hcall] at hseen
          simp only [step, hcall]
          exact ⟨h.tuned.restart nextSequence, hseen⟩
      | packet inFlight left underruns =>
          simp only [step, hcall]
          exact h
      | clear =>
          simp only [step, hcall]
          exact h
      | beginBuffering =>
          simp only [step, hcall]
          exact h
      | rest =>
          simp only [step, hcall]
          exact h
  | network =>
      exact adapting_networkStep hmaximum h
  | read length =>
      exact adapting_ringStep h _
  | playback =>
      exact adapting_ringStep h _

/-- Only the end of `handle_packet` changes the target. -/
theorem step_target (s : StreamThreads) (e : StreamEvent) :
    (s.step e).target = s.target ∨
      ∃ inFlight underruns, e = .network ∧ s.call = .packet inFlight [] underruns ∧
        s.step e = s.endPacket inFlight underruns := by
  cases e with
  | packet packet =>
      left
      cases hcall : s.call with
      | idle =>
          simp only [step, hcall, beginPacket, target]
          by_cases hsize : packet.payload.length = s.pipeline.expectedPacketBytes
          · rw [ReceiverPipeline.accept_of_size hsize rfl]
            exact s.pipeline.jitter.push_target packet
          · rw [ReceiverPipeline.accept, if_pos hsize]
      | packet inFlight left underruns => simp only [step, hcall]
      | clear => simp only [step, hcall]
      | beginBuffering => simp only [step, hcall]
      | rest => simp only [step, hcall]
  | resume nextSequence =>
      left
      cases hcall : s.call with
      | idle =>
          simp only [step, hcall]
          rfl
      | packet inFlight left underruns => simp only [step, hcall]
      | clear => simp only [step, hcall]
      | beginBuffering => simp only [step, hcall]
      | rest => simp only [step, hcall]
  | network =>
      cases hcall : s.call with
      | idle =>
          left
          simp only [step, networkStep, hcall]
      | packet inFlight left underruns =>
          cases hproducer : s.producer with
          | idle =>
              cases left with
              | nil =>
                  right
                  refine ⟨inFlight, underruns, rfl, rfl, ?_⟩
                  simp only [step, networkStep, hcall, hproducer]
              | cons output left =>
                  left
                  simp only [step, networkStep, hcall, hproducer]
                  rfl
          | push sample rest =>
              left
              simp only [step, networkStep, hcall, hproducer]
              rfl
          | evict sample rest =>
              left
              simp only [step, networkStep, hcall, hproducer]
              rfl
          | retry sample rest =>
              left
              simp only [step, networkStep, hcall, hproducer]
              rfl
      | clear =>
          left
          simp only [step, networkStep, hcall]
          rfl
      | beginBuffering =>
          left
          simp only [step, networkStep, hcall]
          rfl
      | rest =>
          left
          simp only [step, networkStep, hcall]
          rfl
  | read length => exact .inl rfl
  | playback => exact .inl rfl

end Runs

end StreamThreads

section Target

/-- A duration in packets, rounded up. -/
def packetsFor (durationMs frameDurationMs : Nat) : Nat :=
  (durationMs + frameDurationMs - 1) / frameDurationMs

theorem packetsForDuration_ok {durationMs packets : Nat} {frameDurationMs : UInt8}
    (hpositive : 0 < durationMs)
    (h : packetsForDuration durationMs frameDurationMs = .ok packets) :
    0 < frameDurationMs.toNat ∧ packets = packetsFor durationMs frameDurationMs.toNat := by
  rw [packetsForDuration] at h
  split_ifs at h with hzero
  have hframe : 0 < frameDurationMs.toNat := Nat.pos_of_ne_zero hzero
  have hone : 1 ≤ (durationMs + frameDurationMs.toNat - 1) / frameDurationMs.toNat :=
    (Nat.le_div_iff_mul_le hframe).mpr (by omega)
  refine ⟨hframe, ?_⟩
  rw [← Except.ok.inj h, packetsFor]
  exact Nat.max_eq_left hone

/-- What `ReceiverPipeline::new` sets. -/
theorem ReceiverPipeline.new_ok {stream : StreamInfo} {ring : PcmRingBuffer Int16}
    {state : StreamCounters} {p : ReceiverPipeline} (h : new stream ring state = .ok p) :
    0 < stream.frameDurationMs.toNat ∧
      p.frameDurationMs = stream.frameDurationMs.toNat ∧
      p.samplesPerPacket =
        Soundwave.sampleRate * stream.frameDurationMs.toNat / 1000 * Soundwave.channels ∧
      p.maximumTargetPackets = packetsFor maxJitterBufferMs stream.frameDurationMs.toNat ∧
      p.cooldownAfterAdjustmentPackets =
        packetsFor adaptationCooldownMs stream.frameDurationMs.toNat ∧
      p.adaptationCooldownPackets = p.cooldownAfterAdjustmentPackets ∧
      p.lastUnderruns = ring.underruns ∧
      p.jitter.targetPackets =
        max (packetsFor initialJitterBufferMs stream.frameDurationMs.toNat) 1 ∧
      p.ring =
        (ring.setPlaybackTarget
          (packetsFor initialJitterBufferMs stream.frameDurationMs.toNat *
            p.samplesPerPacket)).beginBuffering ∧
      p.state.jitterBufferMs = stream.frameDurationMs.toNat *
        packetsFor initialJitterBufferMs stream.frameDurationMs.toNat := by
  rw [new] at h
  simp only [bind, Except.bind, pure, Except.pure, throw, throwThe, MonadExceptOf.throw] at h
  split_ifs at h
  cases htarget : packetsForDuration initialJitterBufferMs stream.frameDurationMs with
  | error error =>
      simp [htarget] at h
  | ok target =>
      cases hadjustment : packetsForDuration jitterBufferStepMs stream.frameDurationMs with
      | error error =>
          simp [htarget, hadjustment] at h
      | ok adjustment =>
          cases hmaximum : packetsForDuration maxJitterBufferMs stream.frameDurationMs with
          | error error =>
              simp [htarget, hadjustment, hmaximum] at h
          | ok maximum =>
              cases hcooldown : packetsForDuration adaptationCooldownMs stream.frameDurationMs with
              | error error =>
                  simp [htarget, hadjustment, hmaximum, hcooldown] at h
              | ok cooldown =>
                  simp only [htarget, hadjustment, hmaximum, hcooldown, Except.ok.injEq] at h
                  obtain ⟨hframe, rfl⟩ := packetsForDuration_ok (by decide) htarget
                  obtain ⟨_, rfl⟩ := packetsForDuration_ok (by decide) hmaximum
                  obtain ⟨_, rfl⟩ := packetsForDuration_ok (by decide) hcooldown
                  subst h
                  exact ⟨hframe, rfl, rfl, rfl, rfl, rfl, rfl, rfl, rfl, rfl⟩

theorem packetsFor_pos {frameDurationMs : Nat} (hframe : 0 < frameDurationMs) {durationMs : Nat}
    (hduration : 0 < durationMs) : 0 < packetsFor durationMs frameDurationMs :=
  (Nat.le_div_iff_mul_le hframe).mpr (by omega)

theorem packetsFor_le {frameDurationMs : Nat} (hframe : 0 < frameDurationMs) {durationMs : Nat}
    (hduration : 0 < durationMs) : packetsFor durationMs frameDurationMs ≤ durationMs := by
  rw [packetsFor, Nat.div_le_iff_le_mul_add_pred hframe]
  have hmul : durationMs ≤ frameDurationMs * durationMs := Nat.le_mul_of_pos_left _ hframe
  omega

theorem packetsFor_mono {a b frameDurationMs : Nat} (h : a ≤ b) :
    packetsFor a frameDurationMs ≤ packetsFor b frameDurationMs :=
  Nat.div_le_div_right (by omega)

namespace StreamThreads

theorem adapting_start {stream : StreamInfo} {ring : PcmRingBuffer Int16}
    {state : StreamCounters} {p : ReceiverPipeline}
    (hnew : ReceiverPipeline.new stream ring state = .ok p) : Adapting p (start p) := by
  obtain ⟨hframe, hduration, _, hmaximum, _, hcooldown, _, htarget, hring, hfigure⟩ :=
    ReceiverPipeline.new_ok hnew
  have hpositive : 0 < packetsFor initialJitterBufferMs stream.frameDurationMs.toNat :=
    packetsFor_pos hframe (by decide)
  have hsame : p.jitter.targetPackets =
      packetsFor initialJitterBufferMs stream.frameDurationMs.toNat := by
    rw [htarget]
    exact Nat.max_eq_left hpositive
  refine ⟨⟨rfl, rfl, rfl, rfl, rfl, ?_, ?_, ?_, ?_⟩, rfl⟩
  · rw [start, hsame, hmaximum]
    exact (packetsFor_mono (by decide)).trans (Nat.le_max_left _ _)
  · rw [start, hfigure, hduration, hsame]
  · simp only [start]
    rw [hsame, hring]
    exact Nat.min_comm _ _
  · simp only [start, hcooldown]
    exact Nat.le_add_right _ _

/-- **The jitter target.**  It starts at twenty milliseconds, does not fall, stays within a
hundred, and grows only at the end of a packet, a second after it was last at rest and on a
new underrun or late packet; the published figure and the ring follow it. -/
theorem jitter_target_adapts {stream : StreamInfo} {ring : PcmRingBuffer Int16}
    {state : StreamCounters} {p : ReceiverPipeline}
    (hnew : ReceiverPipeline.new stream ring state = .ok p) (es : List StreamEvent)
    (e : StreamEvent) :
    let frame := stream.frameDurationMs.toNat
    let s := run step (start p) es
    (start p).target = packetsFor initialJitterBufferMs frame ∧
      s.target ≤ (s.step e).target ∧
      s.target ≤ packetsFor maxJitterBufferMs frame ∧
      (s.target < (s.step e).target →
        ∃ inFlight underruns, e = .network ∧ s.call = .packet inFlight [] underruns ∧
          packetsFor adaptationCooldownMs frame ≤ StreamRecord.sizedSince s.log ∧
          (StreamRecord.seenUnderruns ring.underruns s.log < underruns ∨
            inFlight.lateBefore < s.pipeline.jitter.latePackets)) ∧
      s.pipeline.state.jitterBufferMs = frame * s.target ∧
      s.pipeline.ring.playbackTargetSamples =
        min ring.capacity
          (s.target * (Soundwave.sampleRate * frame / 1000 * Soundwave.channels)) := by
  obtain ⟨hframe, hduration, hsamples, hmaximum, hlength, hcooldown, hseen, htarget, hring, _⟩ :=
    ReceiverPipeline.new_ok hnew
  have hinitial : 0 < packetsFor initialJitterBufferMs stream.frameDurationMs.toNat :=
    packetsFor_pos hframe (by decide)
  have hhundred : 0 < packetsFor maxJitterBufferMs stream.frameDurationMs.toNat :=
    packetsFor_pos hframe (by decide)
  have hlimit : max p.maximumTargetPackets 1 ≤ u64Max := by
    have hle : packetsFor maxJitterBufferMs stream.frameDurationMs.toNat ≤ maxJitterBufferMs :=
      packetsFor_le hframe (by decide)
    have hbound : maxJitterBufferMs ≤ u64Max := by decide
    rw [hmaximum]
    omega
  intro frame s
  have h : Adapting p s := run_preserves (Adapting p) (fun _ e h => adapting_step hlimit h e)
    (adapting_start hnew) es
  have hgrowth : s.target ≤ (s.step e).target ∧
      (s.target < (s.step e).target →
        ∃ inFlight underruns, e = .network ∧ s.call = .packet inFlight [] underruns ∧
          packetsFor adaptationCooldownMs frame ≤ StreamRecord.sizedSince s.log ∧
          (StreamRecord.seenUnderruns ring.underruns s.log < underruns ∨
            inFlight.lateBefore < s.pipeline.jitter.latePackets)) := by
    rcases s.step_target e with hsame | ⟨inFlight, underruns, he, hcall, hend⟩
    · rw [hsame]
      exact ⟨Nat.le_refl _, fun hgrown => absurd hgrown (Nat.lt_irrefl _)⟩
    · have hlimit' : max s.pipeline.maximumTargetPackets 1 ≤ u64Max := by
        rw [h.tuned.maximum]
        exact hlimit
      have hafter : (s.step e).target = (s.pipeline.settle inFlight).jitter.targetPackets := by
        rw [hend]
        rfl
      have hdetected := h.seen
      simp only [Seen, hcall, hseen] at hdetected
      rw [hafter]
      rcases ReceiverPipeline.settle_cases hlimit' inFlight with
        ⟨hkept, _⟩ | ⟨hover, hstutter, hraised, _⟩
      · rw [hkept]
        exact ⟨Nat.le_refl _, fun hgrown => absurd hgrown (Nat.lt_irrefl _)⟩
      · refine ⟨hraised, fun _ => ⟨inFlight, underruns, he, hcall, ?_, ?_⟩⟩
        · have hsum := h.tuned.cooldown
          rw [h.tuned.length, hlength, hover, Nat.zero_add] at hsum
          exact hsum
        · rw [hdetected.2, decide_eq_true_iff] at hstutter
          exact hstutter
  have hbelow : s.target ≤ packetsFor maxJitterBufferMs frame := by
    have hmax := h.tuned.below
    rw [h.tuned.maximum, hmaximum, Nat.max_eq_left hhundred] at hmax
    exact hmax
  have hgate := h.tuned.gate
  rw [h.tuned.capacity, h.tuned.samples, hsamples, hring] at hgate
  have hpublished := h.tuned.published
  rw [h.tuned.duration, hduration] at hpublished
  exact
    ⟨htarget.trans (Nat.max_eq_left hinitial), hgrowth.1, hbelow, hgrowth.2, hpublished, hgate⟩

/-- A stream of ten milliseconds a packet. -/
def tenMilliseconds : StreamInfo where
  sampleRate := 48000
  channels := 2
  sampleFormat := .i16Le
  frameDurationMs := 10

/-- A packet of that stream. -/
def tenMillisecondPacket (sequence : UInt32) : AudioPacket where
  sequence := sequence
  timestamp := 0
  payload := List.replicate 1920 0

/-- Two packets start the playback; then the first one arrives again and again. -/
def repeatedPackets : List StreamEvent :=
  [.packet (tenMillisecondPacket 0), .network, .packet (tenMillisecondPacket 1)] ++
    List.replicate 1924 .network ++
    (List.replicate 98 [StreamEvent.packet (tenMillisecondPacket 0), .network]).flatten ++
    [.packet (tenMillisecondPacket 0)]

set_option maxRecDepth 20000 in
/-- The target grows with the last of them, a second after the stream began. -/
theorem repeated_packets_raise_target :
    (ReceiverPipeline.new tenMilliseconds (PcmRingBuffer.new 9600) ⟨0, 0, 0, 0⟩).toOption.map
      (fun p => ((run step (start p) repeatedPackets).target,
        ((run step (start p) repeatedPackets).step .network).target)) = some (2, 3) := by
  decide +kernel

theorem jitter_target_adapts_ten :
    ∃ p,
      ReceiverPipeline.new tenMilliseconds (PcmRingBuffer.new 9600) ⟨0, 0, 0, 0⟩ = .ok p ∧
      let frame := tenMilliseconds.frameDurationMs.toNat
      let s := run step (start p) repeatedPackets
      (s.target = 2 ∧ (s.step .network).target = 3) ∧
        (start p).target = packetsFor initialJitterBufferMs frame ∧
        s.target ≤ (s.step .network).target ∧
        s.target ≤ packetsFor maxJitterBufferMs frame ∧
        (∃ inFlight underruns,
          StreamEvent.network = .network ∧ s.call = .packet inFlight [] underruns ∧
          packetsFor adaptationCooldownMs frame ≤ StreamRecord.sizedSince s.log ∧
          (StreamRecord.seenUnderruns 0 s.log < underruns ∨
            inFlight.lateBefore < s.pipeline.jitter.latePackets)) ∧
        s.pipeline.state.jitterBufferMs = frame * s.target ∧
        s.pipeline.ring.playbackTargetSamples =
          min 9600 (s.target * (Soundwave.sampleRate * frame / 1000 * Soundwave.channels)) := by
  have hraise := repeated_packets_raise_target
  cases hnew : ReceiverPipeline.new tenMilliseconds (PcmRingBuffer.new 9600) ⟨0, 0, 0, 0⟩ with
  | error error => cases hnew
  | ok p =>
      simp only [hnew, Except.toOption, Option.map_some, Option.some.injEq, Prod.mk.injEq]
        at hraise
      obtain ⟨hbefore, hafter⟩ := hraise
      obtain ⟨hstart, hkept, hbelow, hgrown, hrest⟩ :=
        jitter_target_adapts hnew repeatedPackets .network
      refine ⟨p, rfl, ⟨hbefore, hafter⟩, hstart, hkept, hbelow, hgrown ?_, hrest⟩
      rw [hbefore, hafter]
      exact Nat.lt_succ_self 2

end StreamThreads

end Target

end Soundwave

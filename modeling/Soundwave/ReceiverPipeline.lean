import Soundwave.ControlMessages
import Soundwave.InOrderDelivery
import Soundwave.PcmRing

/-!
# The receiver pipeline

Model of `android/app/src/main/rust/src/receiver.rs`: a packet of the expected
size goes through the jitter buffer, what comes out is written into the PCM
ring, and a stutter may raise the jitter target.

`handle_packet` is cut at the places where another thread can touch the ring:
`accept` runs up to the first ring write, `write` performs the writes and
`settle` the accounting behind them.  `handlePacket` is their composition.
-/

namespace Soundwave

/-- `INITIAL_JITTER_BUFFER_MS`. -/
def initialJitterBufferMs : Nat := 20

/-- `JITTER_BUFFER_STEP_MS`. -/
def jitterBufferStepMs : Nat := 10

/-- `ADAPTATION_COOLDOWN_MS`. -/
def adaptationCooldownMs : Nat := 1000

/-- `MAX_JITTER_BUFFER_MS`. -/
def maxJitterBufferMs : Nat := 100

/-- The reasons for which `ReceiverPipeline::new` refuses a stream. -/
inductive UnsupportedStream where
  | format (stream : StreamInfo)
  | frameSizeOverflow
  | unalignedFrame
  | zeroFrameDuration
deriving DecidableEq

/-- The counters of `SharedState` that the pipeline writes. -/
structure StreamCounters where
  receivedPackets : Nat
  lostPackets : Nat
  latePackets : Nat
  jitterBufferMs : Nat
deriving DecidableEq

/-- `ReceiverPipeline`. -/
structure ReceiverPipeline where
  jitter : JitterBuffer
  ring : PcmRingBuffer Int16
  state : StreamCounters
  expectedPacketBytes : Nat
  samplesPerPacket : Nat
  frameDurationMs : Nat
  adjustmentPackets : Nat
  maximumTargetPackets : Nat
  adaptationCooldownPackets : Nat
  cooldownAfterAdjustmentPackets : Nat
  lastUnderruns : Nat

/-- `packets_for_duration`. -/
def packetsForDuration (durationMs : Nat) (frameDurationMs : UInt8) :
    Except UnsupportedStream Nat :=
  if frameDurationMs.toNat = 0 then
    .error .zeroFrameDuration
  else
    .ok (max ((durationMs + frameDurationMs.toNat - 1) / frameDurationMs.toNat) 1)

namespace ReceiverPipeline

section Operations

/-- `ReceiverPipeline::new`. -/
def new (stream : StreamInfo) (ring : PcmRingBuffer Int16) (state : StreamCounters) :
    Except UnsupportedStream ReceiverPipeline := do
  if stream.sampleRate ≠ Soundwave.sampleRate ∨ stream.channels.toNat ≠ Soundwave.channels ∨
      stream.sampleFormat ≠ .i16Le ∨ stream.frameDurationMs = 0 then
    throw (.format stream)
  let samplesPerChannel := Soundwave.sampleRate * stream.frameDurationMs.toNat
  if u64Max < samplesPerChannel then
    throw .frameSizeOverflow
  if samplesPerChannel % 1000 ≠ 0 then
    throw .unalignedFrame
  let samplesPerPacket := samplesPerChannel / 1000 * Soundwave.channels
  let targetPackets ← packetsForDuration initialJitterBufferMs stream.frameDurationMs
  let adjustmentPackets ← packetsForDuration jitterBufferStepMs stream.frameDurationMs
  let maximumTargetPackets ← packetsForDuration maxJitterBufferMs stream.frameDurationMs
  let cooldown ← packetsForDuration adaptationCooldownMs stream.frameDurationMs
  let frameDurationMs := stream.frameDurationMs.toNat
  let ring := (ring.setPlaybackTarget (targetPackets * samplesPerPacket)).beginBuffering
  return {
    jitter := JitterBuffer.new targetPackets
    ring := ring
    state := { state with jitterBufferMs := frameDurationMs * targetPackets }
    expectedPacketBytes := samplesPerPacket * 2
    samplesPerPacket := samplesPerPacket
    frameDurationMs := frameDurationMs
    adjustmentPackets := adjustmentPackets
    maximumTargetPackets := maximumTargetPackets
    adaptationCooldownPackets := cooldown
    cooldownAfterAdjustmentPackets := cooldown
    lastUnderruns := ring.underruns }

/-- `ReceiverPipeline::resume`. -/
def resume (p : ReceiverPipeline) (nextSequence : UInt32) : ReceiverPipeline :=
  let ring := p.ring.clear.beginBuffering
  { p with
      jitter := p.jitter.restart nextSequence
      ring := ring
      lastUnderruns := ring.underruns
      adaptationCooldownPackets := p.cooldownAfterAdjustmentPackets }

/-- What `handle_packet` keeps in local variables across the ring writes. -/
structure InFlight where
  outputs : List JitterOutput
  underrunDetected : Bool
  lostBefore : Nat
  lateBefore : Nat
deriving DecidableEq

/-- `handle_packet` up to its ring writes; `none` when the size check fails. -/
def accept (p : ReceiverPipeline) (packet : AudioPacket) :
    ReceiverPipeline × Option InFlight :=
  let p := { p with state := { p.state with receivedPackets := p.state.receivedPackets + 1 } }
  if packet.payload.length ≠ p.expectedPacketBytes then
    (p, none)
  else
    let underruns := p.ring.underruns
    let (jitter, outputs) := p.jitter.push packet
    ({ p with lastUnderruns := underruns, jitter := jitter },
      some
        { outputs := outputs
          underrunDetected := decide (p.lastUnderruns < underruns)
          lostBefore := p.jitter.lostPackets
          lateBefore := p.jitter.latePackets })

/-- The samples written into the ring for one item of the jitter buffer. -/
def samplesOf (p : ReceiverPipeline) : JitterOutput → List Int16
  | .audio packet => decodePcmLe packet.payload
  | .silence => List.replicate p.samplesPerPacket 0

/-- One round of the output loop. -/
def write (p : ReceiverPipeline) : JitterOutput → ReceiverPipeline
  | .audio packet => { p with ring := p.ring.writePcmLe packet.payload }
  | .silence => { p with ring := p.ring.writeSilence 0 p.samplesPerPacket }

/-- `adjust_jitter_after_stutter`. -/
def adjustJitterAfterStutter (p : ReceiverPipeline) (stutterDetected : Bool) :
    ReceiverPipeline :=
  if 0 < p.adaptationCooldownPackets then
    { p with adaptationCooldownPackets := p.adaptationCooldownPackets - 1 }
  else if stutterDetected = true ∧ p.jitter.started = true then
    let (jitter, increased) :=
      p.jitter.increaseTarget p.adjustmentPackets p.maximumTargetPackets
    if increased then
      { p with
          jitter := jitter
          adaptationCooldownPackets := p.cooldownAfterAdjustmentPackets
          ring := p.ring.setPlaybackTarget (jitter.targetPackets * p.samplesPerPacket)
          state := { p.state with jitterBufferMs := p.frameDurationMs * jitter.targetPackets } }
    else
      { p with jitter := jitter }
  else
    p

/-- `handle_packet` behind its ring writes. -/
def settle (p : ReceiverPipeline) (inFlight : InFlight) : ReceiverPipeline :=
  let p :=
    { p with
        state := { p.state with
          lostPackets := p.state.lostPackets + (p.jitter.lostPackets - inFlight.lostBefore)
          latePackets := p.state.latePackets + (p.jitter.latePackets - inFlight.lateBefore) } }
  p.adjustJitterAfterStutter
    (inFlight.underrunDetected || decide (inFlight.lateBefore < p.jitter.latePackets))

/-- `ReceiverPipeline::handle_packet`. -/
def handlePacket (p : ReceiverPipeline) (packet : AudioPacket) : ReceiverPipeline × Bool :=
  match p.accept packet with
  | (p, none) => (p, false)
  | (p, some inFlight) => ((inFlight.outputs.foldl write p).settle inFlight, true)

@[simp] theorem accept_ring (p : ReceiverPipeline) (packet : AudioPacket) :
    (p.accept packet).1.ring = p.ring := by
  rw [accept]
  dsimp only
  split_ifs
  · rfl
  · rfl

/-- Adjusting the target leaves the samples of the ring alone. -/
theorem adjustJitterAfterStutter_ring (p : ReceiverPipeline) (stutterDetected : Bool) :
    (p.adjustJitterAfterStutter stutterDetected).ring.capacity = p.ring.capacity ∧
      (p.adjustJitterAfterStutter stutterDetected).ring.queue = p.ring.queue := by
  rw [adjustJitterAfterStutter]
  split_ifs
  · exact ⟨rfl, rfl⟩
  · dsimp only
    split_ifs
    · exact ⟨rfl, rfl⟩
    · exact ⟨rfl, rfl⟩
  · exact ⟨rfl, rfl⟩

theorem settle_ring (p : ReceiverPipeline) (inFlight : InFlight) :
    (p.settle inFlight).ring.capacity = p.ring.capacity ∧
      (p.settle inFlight).ring.queue = p.ring.queue :=
  adjustJitterAfterStutter_ring _ _

end Operations

section InOrder

/-- The pipeline of a stream of `samplesPerPacket` samples per packet holds back
the packets `ps`, the first of them at position `first`, and nothing was ever
lost or late. -/
structure InOrder
    (samplesPerPacket : Nat) (p : ReceiverPipeline) (first : Nat) (ps : List AudioPacket) :
    Prop where
  waiting : p.jitter.Waiting first ps
  started : p.jitter.started = true → ps = []
  below : ps.length < p.jitter.targetPackets
  target : p.jitter.targetPackets ≤ maxJitterBufferMs
  maximum : p.maximumTargetPackets ≤ maxJitterBufferMs
  lost : p.jitter.lostPackets = 0
  late : p.jitter.latePackets = 0
  samples : p.samplesPerPacket = samplesPerPacket
  bytes : p.expectedPacketBytes = samplesPerPacket * 2

theorem accept_of_size
    {p : ReceiverPipeline} {packet : AudioPacket}
    (hsize : packet.payload.length = p.expectedPacketBytes)
    {jitter : JitterBuffer} {outputs : List JitterOutput}
    (hpush : p.jitter.push packet = (jitter, outputs)) :
    p.accept packet =
      ({ p with
          state := { p.state with receivedPackets := p.state.receivedPackets + 1 }
          lastUnderruns := p.ring.underruns
          jitter := jitter },
        some
          { outputs := outputs
            underrunDetected := decide (p.lastUnderruns < p.ring.underruns)
            lostBefore := p.jitter.lostPackets
            lateBefore := p.jitter.latePackets }) := by
  simp only [accept, hsize, ne_eq, not_true_eq_false, if_false, hpush]

theorem packetsForDuration_le
    {durationMs packets : Nat} {frameDurationMs : UInt8}
    (hpos : 0 < durationMs)
    (h : packetsForDuration durationMs frameDurationMs = .ok packets) :
    0 < packets ∧ packets ≤ durationMs := by
  unfold packetsForDuration at h
  split_ifs at h with hzero
  have heq := Except.ok.inj h
  have hle : (durationMs + frameDurationMs.toNat - 1) / frameDurationMs.toNat ≤ durationMs := by
    rw [Nat.div_le_iff_le_mul_add_pred (by omega)]
    have hmul : durationMs ≤ frameDurationMs.toNat * durationMs :=
      Nat.le_mul_of_pos_left _ (by omega)
    omega
  omega

/-- A pipeline that `new` builds is ready for the first packet, at whatever
position the stream starts. -/
theorem inOrder_new
    {stream : StreamInfo} {ring : PcmRingBuffer Int16} {state : StreamCounters}
    {p : ReceiverPipeline} (h : new stream ring state = .ok p) (first : Nat) :
    InOrder (Soundwave.sampleRate * stream.frameDurationMs.toNat / 1000 * Soundwave.channels)
      p first [] := by
  unfold new at h
  simp only [bind, Except.bind, pure, Except.pure, throw, throwThe, MonadExceptOf.throw] at h
  split_ifs at h
  cases htarget : packetsForDuration initialJitterBufferMs stream.frameDurationMs with
  | error e =>
      simp [htarget] at h
  | ok target =>
      cases hadjust : packetsForDuration jitterBufferStepMs stream.frameDurationMs with
      | error e =>
          simp [htarget, hadjust] at h
      | ok adjustment =>
          cases hmax : packetsForDuration maxJitterBufferMs stream.frameDurationMs with
          | error e =>
              simp [htarget, hadjust, hmax] at h
          | ok maximum =>
              cases hcool : packetsForDuration adaptationCooldownMs stream.frameDurationMs with
              | error e =>
                  simp [htarget, hadjust, hmax, hcool] at h
              | ok cooldown =>
                  simp only [htarget, hadjust, hmax, hcool, Except.ok.injEq] at h
                  obtain ⟨hpos, hle⟩ := packetsForDuration_le (by decide) htarget
                  obtain ⟨_, hmaxle⟩ := packetsForDuration_le (by decide) hmax
                  have hinitial : initialJitterBufferMs ≤ maxJitterBufferMs := by decide
                  subst h
                  refine ⟨JitterBuffer.waiting_new target first, fun _ => rfl, ?_, ?_, hmaxle,
                    rfl, rfl, rfl, rfl⟩
                  · simp only [JitterBuffer.new, List.length_nil]
                    omega
                  · simp only [JitterBuffer.new]
                    omega

/-- A restart at the next packet forgets what was held back. -/
theorem inOrder_resume
    {samplesPerPacket : Nat} {p : ReceiverPipeline} {first : Nat} {ps : List AudioPacket}
    (h : InOrder samplesPerPacket p first ps) (next : Nat) :
    InOrder samplesPerPacket (p.resume (serial next)) next [] := by
  obtain ⟨_, _, hbelow, htarget, hmaximum, hlost, hlate, hsamples, hbytes⟩ := h
  refine ⟨JitterBuffer.waiting_restart p.jitter next, fun _ => rfl, ?_, htarget, hmaximum,
    hlost, hlate, hsamples, hbytes⟩
  simp only [resume, JitterBuffer.restart, List.length_nil]
  omega

/-- The next packet passes the size check.  What the jitter buffer then emits
are packets held back so far, in order and without silence. -/
theorem accept_inOrder
    {samplesPerPacket : Nat} {p : ReceiverPipeline} {first : Nat} {ps : List AudioPacket}
    {packet : AudioPacket}
    (h : InOrder samplesPerPacket p first ps)
    (hseq : packet.sequence = serial (first + ps.length))
    (hsize : packet.payload.length = samplesPerPacket * 2) :
    ∃ (inFlight : InFlight) (heard rest : List AudioPacket),
      (p.accept packet).2 = some inFlight ∧
      inFlight.outputs = heard.map JitterOutput.audio ∧
      inFlight.lostBefore = 0 ∧ inFlight.lateBefore = 0 ∧
      heard ++ rest = ps ++ [packet] ∧
      InOrder samplesPerPacket (p.accept packet).1 (first + heard.length) rest := by
  have hbelow := h.below
  have htarget := h.target
  have hms : maxJitterBufferMs = 100 := rfl
  obtain ⟨jitter, hsame, hcase⟩ :=
    JitterBuffer.push_inOrder h.waiting hseq (by omega)
  have hcheck : packet.payload.length = p.expectedPacketBytes := hsize.trans h.bytes.symm
  rcases hcase with ⟨hpush, hwaiting, hstarted, hroom⟩ | ⟨hpush, hwaiting, hstarted⟩
  · rw [accept_of_size hcheck hpush]
    refine ⟨_, [], ps ++ [packet], rfl, rfl, h.lost, h.late, rfl, ?_⟩
    refine ⟨hwaiting, ?_, ?_, ?_, h.maximum, ?_, ?_, h.samples, h.bytes⟩
    · intro hs
      rw [hstarted] at hs
      cases hs
    · simp only [List.length_append, List.length_singleton, hsame.target]
      exact hroom
    · simp only [hsame.target]
      exact h.target
    · exact hsame.lost.trans h.lost
    · exact hsame.late.trans h.late
  · rw [accept_of_size hcheck hpush]
    refine ⟨_, ps ++ [packet], [], rfl, rfl, h.lost, h.late, by simp, ?_⟩
    refine ⟨?_, fun _ => rfl, ?_, ?_, h.maximum, ?_, ?_, h.samples, h.bytes⟩
    · simpa [Nat.add_assoc] using hwaiting
    · simp only [List.length_nil, hsame.target]
      omega
    · simp only [hsame.target]
      exact h.target
    · exact hsame.lost.trans h.lost
    · exact hsame.late.trans h.late

/-- Only the ring differs. -/
theorem inOrder_of_ring
    {samplesPerPacket : Nat} {p : ReceiverPipeline} {first : Nat} {ps : List AudioPacket}
    (h : InOrder samplesPerPacket p first ps) (ring : PcmRingBuffer Int16) :
    InOrder samplesPerPacket { p with ring := ring } first ps := by
  obtain ⟨h₁, h₂, h₃, h₄, h₅, h₆, h₇, h₈, h₉⟩ := h
  exact ⟨h₁, h₂, h₃, h₄, h₅, h₆, h₇, h₈, h₉⟩

theorem inOrder_writes
    {samplesPerPacket : Nat} {p : ReceiverPipeline} {first : Nat} {ps : List AudioPacket}
    (h : InOrder samplesPerPacket p first ps) (outputs : List JitterOutput) :
    InOrder samplesPerPacket (outputs.foldl write p) first ps := by
  induction outputs generalizing p with
  | nil =>
      exact h
  | cons o outputs ih =>
      rw [List.foldl_cons]
      cases o with
      | audio packet =>
          exact ih (inOrder_of_ring h _)
      | silence =>
          exact ih (inOrder_of_ring h _)

/-- Raising the target re-arms the start gate only while nothing is held
back. -/
theorem inOrder_settle
    {samplesPerPacket : Nat} {p : ReceiverPipeline} {first : Nat} {ps : List AudioPacket}
    (h : InOrder samplesPerPacket p first ps) (inFlight : InFlight) :
    InOrder samplesPerPacket (p.settle inFlight) first ps := by
  obtain ⟨hwaiting, hstarted, hbelow, htarget, hmaximum, hlost, hlate, hsamples, hbytes⟩ := h
  have hms : maxJitterBufferMs = 100 := rfl
  simp only [settle, adjustJitterAfterStutter]
  split_ifs with hcool hstutter hincreased
  · exact ⟨hwaiting, hstarted, hbelow, htarget, hmaximum, hlost, hlate, hsamples, hbytes⟩
  · simp only [JitterBuffer.increaseTarget] at hincreased ⊢
    split_ifs at hincreased ⊢ with hmax
    refine ⟨JitterBuffer.waiting_of_same hwaiting rfl rfl, ?_, ?_, ?_, hmaximum, hlost, hlate,
      hsamples, hbytes⟩
    · intro hs
      cases hs
    · have hfresh := hstarted hstutter.2
      simp only [hfresh, List.length_nil, saturatingAdd, u64Max]
      omega
    · simp only
      omega
  · simp only [JitterBuffer.increaseTarget] at hincreased ⊢
    split_ifs at hincreased ⊢ with hmax
    · exact ⟨hwaiting, hstarted, hbelow, htarget, hmaximum, hlost, hlate, hsamples, hbytes⟩
    · exact absurd rfl hincreased
  · exact ⟨hwaiting, hstarted, hbelow, htarget, hmaximum, hlost, hlate, hsamples, hbytes⟩

/-- What the jitter buffer emits while a packet is handled. -/
def emitted (p : ReceiverPipeline) (packet : AudioPacket) : List JitterOutput :=
  match (p.accept packet).2 with
  | some inFlight => inFlight.outputs
  | none => []

/-- **Handling the next packet** emits packets held back so far, in order. -/
theorem handlePacket_inOrder
    {samplesPerPacket : Nat} {p : ReceiverPipeline} {first : Nat} {ps : List AudioPacket}
    {packet : AudioPacket}
    (h : InOrder samplesPerPacket p first ps)
    (hseq : packet.sequence = serial (first + ps.length))
    (hsize : packet.payload.length = samplesPerPacket * 2) :
    ∃ heard rest : List AudioPacket,
      (p.handlePacket packet).2 = true ∧
      p.emitted packet = heard.map JitterOutput.audio ∧
      heard ++ rest = ps ++ [packet] ∧
      InOrder samplesPerPacket (p.handlePacket packet).1 (first + heard.length) rest := by
  obtain ⟨inFlight, heard, rest, haccept, houtputs, _, _, hsplit, hinOrder⟩ :=
    accept_inOrder h hseq hsize
  have hpair : p.accept packet = ((p.accept packet).1, some inFlight) := Prod.ext rfl haccept
  have hhandle : p.handlePacket packet =
      ((inFlight.outputs.foldl write (p.accept packet).1).settle inFlight, true) := by
    simp only [handlePacket]
    rw [hpair]
  refine ⟨heard, rest, ?_, ?_, hsplit, ?_⟩
  · rw [hhandle]
  · simp only [emitted, haccept, houtputs]
  · rw [hhandle]
    exact inOrder_settle (inOrder_writes hinOrder _) inFlight

end InOrder

end ReceiverPipeline

end Soundwave

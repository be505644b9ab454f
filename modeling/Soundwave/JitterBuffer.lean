import Mathlib.Data.List.MinMax
import Soundwave.AudioPackets
import Soundwave.SerialNumbers
import Soundwave.SortedMap

/-!
# The jitter buffer

Model of `android/app/src/main/rust/src/jitter.rs`.  Packets wait in an ordered
map keyed by their raw sequence number.  Draining emits the packet at the
expected sequence, conceals a missing one by silence, or skips a gap that is
too wide to wait for.

One iteration of the draining loop is `drainStep`; the loop itself runs on a
fuel that is proved to be sufficient, so that it always ends at one of the two
`break`s of the source.
-/

namespace Soundwave

/-- One item ready to enter the PCM ring (`JitterOutput`). -/
inductive JitterOutput where
  | audio (packet : AudioPacket)
  | silence
deriving DecidableEq

/-- State of `JitterBuffer`. -/
structure JitterBuffer where
  expectedSequence : Option UInt32
  packets : SortedMap UInt32 AudioPacket
  targetPackets : Nat
  maxPackets : Nat
  started : Bool
  lostPackets : Nat
  latePackets : Nat

/-- Which branch one iteration of the draining loop takes. -/
inductive DrainMove where
  | emit (packet : AudioPacket)
  | conceal
  | skip (missing maxPackets : Nat)
deriving DecidableEq

namespace DrainMove

/-- What the iteration appends to the output. -/
def output : DrainMove → List JitterOutput
  | emit packet => [.audio packet]
  | conceal => [.silence]
  | skip _ _ => []

/-- How far the iteration moves the expected sequence. -/
def width : DrainMove → Nat
  | emit _ => 1
  | conceal => 1
  | skip missing _ => missing

end DrainMove

namespace JitterBuffer

section Operations

/-- `JitterBuffer::new`. -/
def new (targetPackets : Nat) : JitterBuffer where
  expectedSequence := none
  packets := .empty
  targetPackets := max targetPackets 1
  maxPackets := max (saturatingMul (max targetPackets 1) 3) 4
  started := false
  lostPackets := 0
  latePackets := 0

/-- `JitterBuffer::restart`. -/
def restart (b : JitterBuffer) (nextSequence : UInt32) : JitterBuffer :=
  { b with packets := .empty, expectedSequence := some nextSequence, started := false }

/-- `JitterBuffer::increase_target`. -/
def increaseTarget (b : JitterBuffer) (additionalPackets maximumPackets : Nat) :
    JitterBuffer × Bool :=
  let maximumPackets := max maximumPackets 1
  if maximumPackets ≤ b.targetPackets then
    (b, false)
  else
    let target := min (saturatingAdd b.targetPackets (max additionalPackets 1)) maximumPackets
    ({ b with
        targetPackets := target
        maxPackets := max (saturatingMul target 3) 4
        started := false }, true)

/-- `next_buffered_sequence`: the nearest buffered sequence ahead of `expected`. -/
def nextBufferedSequence (b : JitterBuffer) (expected : UInt32) : Option UInt32 :=
  (b.packets.keys.filter (fun sequence => isAfter sequence expected)).argmin
    (fun sequence => (sequence - expected).toNat)

/-- One iteration of the loop of `drain_ready`; `none` is a `break` or the end
of the `while let`. -/
def drainStep (b : JitterBuffer) : Option (DrainMove × JitterBuffer) :=
  match b.expectedSequence with
  | none => none
  | some expected =>
      match b.packets.get? expected with
      | some packet =>
          some (.emit packet,
            { b with
                packets := b.packets.erase expected
                expectedSequence := some (expected + 1) })
      | none =>
          match b.nextBufferedSequence expected with
          | none => none
          | some nextSequence =>
              let missing := (nextSequence - expected).toNat
              if b.maxPackets < missing then
                some (.skip missing b.maxPackets,
                  { b with
                      lostPackets := saturatingAdd b.lostPackets missing
                      expectedSequence := some nextSequence })
              else if b.packets.size < b.targetPackets ∧ b.packets.size < b.maxPackets then
                none
              else
                some (.conceal,
                  { b with
                      expectedSequence := some (expected + 1)
                      lostPackets := saturatingAdd b.lostPackets 1 })

/-- The loop of `drain_ready`, with the branches its iterations took. -/
def drainLoop : Nat → JitterBuffer → JitterBuffer × List DrainMove
  | 0, b => (b, [])
  | fuel + 1, b =>
      match b.drainStep with
      | none => (b, [])
      | some (move, b') =>
          let rest := drainLoop fuel b'
          (rest.1, move :: rest.2)

/-- A bound on the number of iterations: between two emissions there is at most
one skip or at most `maxPackets` concealments. -/
def drainFuel (b : JitterBuffer) : Nat :=
  (b.packets.size + 1) * (b.maxPackets + 2)

/-- The start gate of `drain_ready` followed by its loop. -/
def drain (b : JitterBuffer) : JitterBuffer × List DrainMove :=
  if b.started = false ∧ b.packets.size < b.targetPackets then
    (b, [])
  else
    drainLoop b.drainFuel { b with started := true }

/-- `drain_ready`. -/
def drainReady (b : JitterBuffer) : JitterBuffer × List JitterOutput :=
  (b.drain.1, b.drain.2.flatMap DrainMove.output)

/-- `JitterBuffer::push`. -/
def push (b : JitterBuffer) (packet : AudioPacket) : JitterBuffer × List JitterOutput :=
  let expected := b.expectedSequence.getD packet.sequence
  let b := { b with expectedSequence := some expected }
  if b.packets.contains packet.sequence then
    (b, [])
  else if isBefore packet.sequence expected then
    ({ b with latePackets := saturatingAdd b.latePackets 1 }, [])
  else
    drainReady { b with packets := b.packets.insert packet.sequence packet }

end Operations

section Pushing

/-- Neither a duplicate of a buffered packet nor too late: `push` inserts it. -/
def accepts (b : JitterBuffer) (packet : AudioPacket) : Bool :=
  !b.packets.contains packet.sequence &&
    !isBefore packet.sequence (b.expectedSequence.getD packet.sequence)

/-- The buffer with the expected sequence set by a first packet. -/
def opened (b : JitterBuffer) (packet : AudioPacket) : JitterBuffer :=
  { b with expectedSequence := some (b.expectedSequence.getD packet.sequence) }

/-- The buffer right after the insertion made by `push`. -/
def withPacket (b : JitterBuffer) (packet : AudioPacket) : JitterBuffer :=
  { b.opened packet with packets := b.packets.insert packet.sequence packet }

/-- The branches taken by the draining loop inside `push`. -/
def pushMoves (b : JitterBuffer) (packet : AudioPacket) : List DrainMove :=
  if b.accepts packet then (b.withPacket packet).drain.2 else []

theorem push_of_accepts
    {b : JitterBuffer} {packet : AudioPacket} (h : b.accepts packet = true) :
    b.push packet =
      ((b.withPacket packet).drain.1, (b.pushMoves packet).flatMap DrainMove.output) := by
  have hmoves : b.pushMoves packet = (b.withPacket packet).drain.2 := if_pos h
  unfold accepts at h
  rw [Bool.and_eq_true, Bool.not_eq_true', Bool.not_eq_true'] at h
  rw [hmoves]
  simp only [push, h.1, h.2, Bool.false_eq_true, if_false]
  rfl

/-- A packet that is not accepted changes nothing but the late counter. -/
theorem push_of_not_accepts
    {b : JitterBuffer} {packet : AudioPacket} (h : b.accepts packet = false) :
    ∃ late, b.push packet = ({ b.opened packet with latePackets := late }, []) := by
  unfold accepts at h
  simp only [push]
  split_ifs with hcontains hbefore
  · exact ⟨b.latePackets, rfl⟩
  · exact ⟨saturatingAdd b.latePackets 1, rfl⟩
  · simp [hcontains, hbefore] at h

end Pushing

section DrainSteps

/-- The nearest buffered sequence is buffered, ahead, and no other one ahead is
nearer. -/
theorem nextBufferedSequence_spec
    {b : JitterBuffer} {expected next : UInt32}
    (h : b.nextBufferedSequence expected = some next) :
    next ∈ b.packets.keys ∧ isAfter next expected = true ∧
      ∀ k, k ∈ b.packets.keys → isAfter k expected = true →
        (next - expected).toNat ≤ (k - expected).toNat := by
  unfold nextBufferedSequence at h
  have hmem := List.argmin_mem h
  rw [List.mem_filter] at hmem
  refine ⟨hmem.1, hmem.2, ?_⟩
  intro k hk hafter
  have hk' : k ∈ b.packets.keys.filter (fun sequence => isAfter sequence expected) :=
    List.mem_filter.mpr ⟨hk, hafter⟩
  exact List.le_of_mem_argmin (f := fun sequence => (sequence - expected).toNat) hk' h

theorem nextBufferedSequence_eq_none
    {b : JitterBuffer} {expected : UInt32}
    (h : b.nextBufferedSequence expected = none) :
    ∀ k, k ∈ b.packets.keys → isAfter k expected = false := by
  unfold nextBufferedSequence at h
  rw [List.argmin_eq_none, List.filter_eq_nil_iff] at h
  intro k hk
  exact Bool.eq_false_iff.mpr (h k hk)

theorem nextBufferedSequence_isSome
    {b : JitterBuffer} {expected k : UInt32}
    (hk : k ∈ b.packets.keys) (hafter : isAfter k expected = true) :
    ∃ next, b.nextBufferedSequence expected = some next := by
  cases h : b.nextBufferedSequence expected with
  | none =>
      have := nextBufferedSequence_eq_none h k hk
      rw [hafter] at this
      cases this
  | some next =>
      exact ⟨next, rfl⟩

/-- Everything one iteration can do. -/
theorem drainStep_cases
    {b b' : JitterBuffer} {move : DrainMove}
    (h : b.drainStep = some (move, b')) :
    ∃ expected, b.expectedSequence = some expected ∧
      ((∃ packet, b.packets.get? expected = some packet ∧
          move = .emit packet ∧
          b' = { b with
                  packets := b.packets.erase expected
                  expectedSequence := some (expected + 1) }) ∨
        (∃ next, b.packets.get? expected = none ∧
          b.nextBufferedSequence expected = some next ∧
          b.maxPackets < (next - expected).toNat ∧
          move = .skip (next - expected).toNat b.maxPackets ∧
          b' = { b with
                  lostPackets := saturatingAdd b.lostPackets (next - expected).toNat
                  expectedSequence := some next }) ∨
        (∃ next, b.packets.get? expected = none ∧
          b.nextBufferedSequence expected = some next ∧
          (next - expected).toNat ≤ b.maxPackets ∧
          move = .conceal ∧
          b' = { b with
                  expectedSequence := some (expected + 1)
                  lostPackets := saturatingAdd b.lostPackets 1 })) := by
  unfold drainStep at h
  cases hexp : b.expectedSequence with
  | none =>
      simp [hexp] at h
  | some expected =>
      refine ⟨expected, rfl, ?_⟩
      simp only [hexp] at h
      cases hget : b.packets.get? expected with
      | some packet =>
          simp only [hget, Option.some.injEq, Prod.mk.injEq] at h
          exact Or.inl ⟨packet, rfl, h.1.symm, h.2.symm⟩
      | none =>
          simp only [hget] at h
          cases hnext : b.nextBufferedSequence expected with
          | none =>
              simp [hnext] at h
          | some next =>
              simp only [hnext] at h
              split_ifs at h with hwide hwait
              · simp only [Option.some.injEq, Prod.mk.injEq] at h
                exact Or.inr (Or.inl ⟨next, rfl, rfl, hwide, h.1.symm, h.2.symm⟩)
              · simp only [Option.some.injEq, Prod.mk.injEq] at h
                exact Or.inr (Or.inr ⟨next, rfl, rfl, Nat.le_of_not_lt hwide,
                  h.1.symm, h.2.symm⟩)

end DrainSteps

section DrainTermination

/-- Iterations still possible before the next emission. -/
def drainPending (b : JitterBuffer) : Nat :=
  match b.expectedSequence with
  | none => 0
  | some expected =>
      if b.packets.contains expected then
        0
      else
        match b.nextBufferedSequence expected with
        | none => 0
        | some next => min (next - expected).toNat (b.maxPackets + 1)

/-- Iterations still possible. -/
def drainMeasure (b : JitterBuffer) : Nat :=
  b.packets.size * (b.maxPackets + 2) + b.drainPending

theorem drainPending_le (b : JitterBuffer) : b.drainPending ≤ b.maxPackets + 1 := by
  unfold drainPending
  split
  · omega
  · split_ifs
    · omega
    · split
      · omega
      · exact Nat.min_le_right _ _

theorem size_erase_lt
    {b : JitterBuffer} {sequence : UInt32} {packet : AudioPacket}
    (h : b.packets.get? sequence = some packet) :
    (b.packets.erase sequence).size < b.packets.size := by
  have := SortedMap.size_erase_of_get?_eq_some h
  omega

/-- Concealing brings the nearest buffered packet one step closer. -/
theorem drainPending_conceal
    {b : JitterBuffer} {expected next : UInt32}
    (hnext : b.nextBufferedSequence expected = some next)
    (b' : JitterBuffer)
    (hpackets : b'.packets = b.packets)
    (hexpected : b'.expectedSequence = some (expected + 1)) :
    b'.drainPending ≤ (next - expected).toNat - 1 := by
  obtain ⟨hmem, hafter, hmin⟩ := nextBufferedSequence_spec hnext
  rw [isAfter_eq_true_iff] at hafter
  have hstep := toNat_sub_add_one hafter.1
  unfold drainPending
  rw [hexpected]
  simp only
  split_ifs with hcontains
  · omega
  · have hne : next ≠ expected + 1 := by
      rintro rfl
      rw [← SortedMap.mem_keys_iff, hpackets] at hcontains
      exact hcontains hmem
    have hpos : 0 < (next - (expected + 1)).toNat := by
      rw [Nat.pos_iff_ne_zero]
      intro hzero
      exact hne (eq_of_toNat_sub_eq_zero hzero)
    have hafter' : isAfter next (expected + 1) = true := by
      rw [isAfter_eq_true_iff]
      omega
    have hmem' : next ∈ b'.packets.keys := by
      rw [hpackets]
      exact hmem
    obtain ⟨next', hnext'⟩ := nextBufferedSequence_isSome hmem' hafter'
    obtain ⟨_, _, hmin'⟩ := nextBufferedSequence_spec hnext'
    have := hmin' next hmem' hafter'
    simp only [hnext']
    omega

/-- Every iteration uses up some of the measure. -/
theorem drainStep_decreases
    {b b' : JitterBuffer} {move : DrainMove}
    (h : b.drainStep = some (move, b')) :
    b'.drainMeasure < b.drainMeasure := by
  obtain ⟨expected, hexp, hcase⟩ := drainStep_cases h
  have hpending : b.packets.get? expected = none → ∀ next,
      b.nextBufferedSequence expected = some next →
        b.drainPending = min (next - expected).toNat (b.maxPackets + 1) := by
    intro hget next hnext
    have hcontains : b.packets.contains expected = false :=
      (SortedMap.contains_eq_false_iff _ _).mpr hget
    simp [drainPending, hexp, hcontains, hnext]
  rcases hcase with ⟨packet, hget, rfl, hb'⟩ | ⟨next, hget, hnext, hwide, rfl, hb'⟩ |
      ⟨next, hget, hnext, hnear, rfl, hb'⟩
  · have hsize := size_erase_lt hget
    have hle := drainPending_le b'
    have hpackets : b'.packets.size = (b.packets.erase expected).size := by rw [hb']
    have hmax : b'.maxPackets = b.maxPackets := by rw [hb']
    unfold drainMeasure
    rw [hmax] at hle ⊢
    rw [hpackets]
    calc
      (b.packets.erase expected).size * (b.maxPackets + 2) + b'.drainPending
          < ((b.packets.erase expected).size + 1) * (b.maxPackets + 2) := by
            rw [Nat.add_mul]
            omega
      _ ≤ b.packets.size * (b.maxPackets + 2) := Nat.mul_le_mul_right _ hsize
      _ ≤ b.packets.size * (b.maxPackets + 2) + b.drainPending := Nat.le_add_right _ _
  · obtain ⟨hmem, _, _⟩ := nextBufferedSequence_spec hnext
    have hcontains : b.packets.contains next = true :=
      (SortedMap.mem_keys_iff _ _).mp hmem
    have hzero : b'.drainPending = 0 := by
      simp [drainPending, hb', hcontains]
    have hold := hpending hget next hnext
    unfold drainMeasure
    rw [hzero, hold, hb']
    simp only
    omega
  · have hcloser := drainPending_conceal hnext b' (by rw [hb']) (by rw [hb'])
    have hold := hpending hget next hnext
    obtain ⟨_, hafter, _⟩ := nextBufferedSequence_spec hnext
    rw [isAfter_eq_true_iff] at hafter
    have hpackets : b'.packets = b.packets := by rw [hb']
    have hmax : b'.maxPackets = b.maxPackets := by rw [hb']
    unfold drainMeasure
    rw [hold, hpackets, hmax]
    omega

/-- With more fuel than the measure, the loop ends at a `break`. -/
theorem drainLoop_settled
    (fuel : Nat) (b : JitterBuffer) (hfuel : b.drainMeasure < fuel) :
    (drainLoop fuel b).1.drainStep = none := by
  induction fuel generalizing b with
  | zero =>
      omega
  | succ fuel ih =>
      unfold drainLoop
      cases hstep : b.drainStep with
      | none =>
          simpa using hstep
      | some result =>
          obtain ⟨move, b'⟩ := result
          have hlt := drainStep_decreases hstep
          exact ih b' (by omega)

/-- **Draining ends by itself.**  The loop of `drain_ready` stops because one of
its exits is reached, never because the model's fuel runs out. -/
theorem drain_settled
    (b : JitterBuffer)
    (h : ¬ (b.started = false ∧ b.packets.size < b.targetPackets)) :
    b.drain.1.drainStep = none := by
  unfold drain
  rw [if_neg h]
  apply drainLoop_settled
  have hle := drainPending_le { b with started := true }
  unfold drainMeasure drainFuel
  rw [Nat.add_mul]
  simp only at hle ⊢
  omega

end DrainTermination

end JitterBuffer

end Soundwave

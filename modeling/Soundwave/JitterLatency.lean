import Soundwave.JitterBuffer
import Soundwave.TransitionRuns

/-!
# Bounded latency of the jitter buffer

Between two calls fewer than `targetPackets` packets wait, whatever sequence
numbers arrive and however often the buffer is restarted or its target raised.
This rests on all waiting packets lying ahead of the expected sequence: when the
draining loop stops, either nothing is left or less than the target is.

A packet that arrives makes at most `targetPackets` packets wait, so that silence
is only inserted before the first of them leaves.  The output of a push is
therefore a run of silence followed by a run of audio.
-/

namespace Soundwave

/-- A call of one of the operations that change a jitter buffer. -/
inductive JitterCall where
  | push (packet : AudioPacket)
  | restart (nextSequence : UInt32)
  | increaseTarget (additionalPackets maximumPackets : Nat)

namespace JitterBuffer

/-- The buffer after a call. -/
def perform (b : JitterBuffer) : JitterCall → JitterBuffer
  | .push packet => (b.push packet).1
  | .restart nextSequence => b.restart nextSequence
  | .increaseTarget additional maximum => (b.increaseTarget additional maximum).1

section Ahead

/-- Every waiting packet lies ahead of the expected sequence, or at it. -/
def Ahead (b : JitterBuffer) : Prop :=
  ∀ expected, b.expectedSequence = some expected →
    ∀ k ∈ b.packets.keys, (k - expected).toNat < 2 ^ 31

/-- From the nearer of two sequences ahead of `r` the way to the other is shorter. -/
theorem toNat_sub_le {k n r : UInt32} (h : (n - r).toNat ≤ (k - r).toNat) :
    (k - n).toNat ≤ (k - r).toNat := by
  rw [UInt32.toNat_sub] at h ⊢
  rw [UInt32.toNat_sub] at h ⊢
  have hk := k.toNat_lt
  have hn := n.toNat_lt
  have hr := r.toNat_lt
  omega

theorem toNat_sub_pos_of_ne {k r : UInt32} (h : k ≠ r) : 0 < (k - r).toNat := by
  rw [Nat.pos_iff_ne_zero]
  intro hzero
  exact h (eq_of_toNat_sub_eq_zero hzero)

theorem ne_of_get?_eq_none {b : JitterBuffer} {expected k : UInt32}
    (hget : b.packets.get? expected = none) (hk : k ∈ b.packets.keys) : k ≠ expected := by
  rintro rfl
  rw [SortedMap.mem_keys_iff, SortedMap.contains_eq_true_iff, hget] at hk
  obtain ⟨_, hv⟩ := hk
  cases hv

/-- An iteration of the draining loop leaves all waiting packets ahead. -/
theorem Ahead.drainStep {b b' : JitterBuffer} {move : DrainMove} (h : b.Ahead)
    (hstep : b.drainStep = some (move, b')) : b'.Ahead := by
  obtain ⟨expected, hexp, hcase⟩ := drainStep_cases hstep
  have hahead := h expected hexp
  rcases hcase with ⟨packet, hget, rfl, rfl⟩ | ⟨next, hget, hnext, hwide, rfl, rfl⟩ |
      ⟨next, hget, hnext, hnear, rfl, rfl⟩
  · intro e he k hk
    cases he
    rw [SortedMap.keys_erase, List.mem_filter, decide_eq_true_eq] at hk
    rw [toNat_sub_add_one (toNat_sub_pos_of_ne hk.2)]
    exact lt_of_le_of_lt (Nat.sub_le _ _) (hahead k hk.1)
  · intro e he k hk
    cases he
    have hne := ne_of_get?_eq_none hget hk
    obtain ⟨_, _, hnearest⟩ := nextBufferedSequence_spec hnext
    have hafter : isAfter k expected = true :=
      (isAfter_eq_true_iff k expected).mpr ⟨toNat_sub_pos_of_ne hne, hahead k hk⟩
    exact lt_of_le_of_lt (toNat_sub_le (hnearest k hk hafter)) (hahead k hk)
  · intro e he k hk
    cases he
    have hne := ne_of_get?_eq_none hget hk
    rw [toNat_sub_add_one (toNat_sub_pos_of_ne hne)]
    exact lt_of_le_of_lt (Nat.sub_le _ _) (hahead k hk)

/-- An iteration changes neither limit and adds no packet. -/
theorem drainStep_frame {b b' : JitterBuffer} {move : DrainMove}
    (hstep : b.drainStep = some (move, b')) :
    b'.targetPackets = b.targetPackets ∧ b'.maxPackets = b.maxPackets ∧
      b'.packets.size ≤ b.packets.size := by
  obtain ⟨expected, _, hcase⟩ := drainStep_cases hstep
  rcases hcase with ⟨packet, hget, rfl, rfl⟩ | ⟨next, _, _, _, rfl, rfl⟩ |
      ⟨next, _, _, _, rfl, rfl⟩
  · exact ⟨rfl, rfl, (size_erase_lt hget).le⟩
  · exact ⟨rfl, rfl, le_rfl⟩
  · exact ⟨rfl, rfl, le_rfl⟩

/-- Silence is inserted only for a full buffer. -/
theorem drainStep_conceal_full {b b' : JitterBuffer}
    (hstep : b.drainStep = some (.conceal, b')) :
    ¬ (b.packets.size < b.targetPackets ∧ b.packets.size < b.maxPackets) := by
  rw [drainStep] at hstep
  split at hstep
  · cases hstep
  · split at hstep
    · cases hstep
    · split at hstep
      · cases hstep
      · simp only at hstep
        split_ifs at hstep with hwide hwait
        · cases hstep
        · exact hwait

/-- Where the loop stops with packets left, fewer than the target wait. -/
theorem size_lt_of_settled {b : JitterBuffer} (hahead : b.Ahead) (htarget : 0 < b.targetPackets)
    (hopened : b.expectedSequence ≠ none) (hsettled : b.drainStep = none) :
    b.packets.size < b.targetPackets := by
  rw [drainStep] at hsettled
  split at hsettled
  · rename_i hnone
    exact absurd hnone hopened
  · rename_i expected hexp
    split at hsettled
    · cases hsettled
    · rename_i hget
      split at hsettled
      · rename_i hnext
        have hnone : b.packets.keys = [] := by
          rw [List.eq_nil_iff_forall_not_mem]
          intro k hk
          have hbehind := nextBufferedSequence_eq_none hnext k hk
          have hne := ne_of_get?_eq_none hget hk
          have hafter : isAfter k expected = true :=
            (isAfter_eq_true_iff k expected).mpr
              ⟨toNat_sub_pos_of_ne hne, hahead expected hexp k hk⟩
          rw [hafter] at hbehind
          cases hbehind
        have hsize : b.packets.size = 0 := by
          rw [SortedMap.size, ← List.length_map (f := Prod.fst)]
          exact congrArg List.length hnone
        rw [hsize]
        exact htarget
      · simp only at hsettled
        split_ifs at hsettled with hwide hwait
        exact hwait.1

end Ahead

section Outputs

/-- Silence followed by audio. -/
def SilenceThenAudio (output : List JitterOutput) (silences packets : Nat) : Prop :=
  ∃ (s : Nat) (audio : List AudioPacket),
    output = List.replicate s .silence ++ audio.map .audio ∧ s ≤ silences ∧
      audio.length ≤ packets

/-- Below the target the draining loop inserts no silence. -/
theorem drainLoop_below_target (fuel : Nat) (b : JitterBuffer)
    (hmax : b.targetPackets ≤ b.maxPackets) (hbelow : b.packets.size < b.targetPackets) :
    SilenceThenAudio ((drainLoop fuel b).2.flatMap DrainMove.output) 0 b.packets.size := by
  induction fuel generalizing b with
  | zero =>
      exact ⟨0, [], rfl, le_rfl, Nat.zero_le _⟩
  | succ fuel ih =>
      rw [drainLoop]
      cases hstep : b.drainStep with
      | none =>
          exact ⟨0, [], rfl, le_rfl, Nat.zero_le _⟩
      | some result =>
          obtain ⟨move, b'⟩ := result
          obtain ⟨htarget, hmax', hsize⟩ := drainStep_frame hstep
          have hrest := ih b' (by omega) (by omega)
          obtain ⟨s, audio, houtput, hs, haudio⟩ := hrest
          obtain ⟨expected, _, hcase⟩ := drainStep_cases hstep
          rcases hcase with ⟨packet, hget, rfl, rfl⟩ | ⟨next, _, _, _, rfl, rfl⟩ |
              ⟨next, _, _, _, rfl, _⟩
          · have hlt := size_erase_lt hget
            refine ⟨0, packet :: audio, ?_, le_rfl, ?_⟩
            · simp only [List.flatMap_cons, DrainMove.output, houtput, Nat.le_zero.mp hs]
              rfl
            · rw [List.length_cons]
              exact lt_of_le_of_lt haudio hlt
          · exact ⟨s, audio, houtput, hs, haudio⟩
          · exact absurd ⟨hbelow, lt_of_lt_of_le hbelow hmax⟩ (drainStep_conceal_full hstep)

/-- At the target the loop inserts silence up to the next packet, and only before
anything leaves the buffer. -/
theorem drainLoop_at_target (fuel : Nat) (b : JitterBuffer)
    (hmax : b.targetPackets ≤ b.maxPackets) (hsize : b.packets.size ≤ b.targetPackets) :
    SilenceThenAudio ((drainLoop fuel b).2.flatMap DrainMove.output)
      (min b.drainPending b.maxPackets) b.packets.size := by
  induction fuel generalizing b with
  | zero =>
      exact ⟨0, [], rfl, Nat.zero_le _, Nat.zero_le _⟩
  | succ fuel ih =>
      rw [drainLoop]
      cases hstep : b.drainStep with
      | none =>
          exact ⟨0, [], rfl, Nat.zero_le _, Nat.zero_le _⟩
      | some result =>
          obtain ⟨move, b'⟩ := result
          obtain ⟨htarget, hmax', hsize'⟩ := drainStep_frame hstep
          obtain ⟨expected, hexp, hcase⟩ := drainStep_cases hstep
          rcases hcase with ⟨packet, hget, rfl, hb'⟩ | ⟨next, hget, hnext, hwide, rfl, hb'⟩ |
              ⟨next, hget, hnext, hnear, rfl, hb'⟩
          · -- one packet has left, so less than the target remains
            have hlt : b'.packets.size < b.packets.size := by
              rw [hb']
              exact size_erase_lt hget
            obtain ⟨s, audio, houtput, hs, haudio⟩ :=
              drainLoop_below_target fuel b' (by omega) (by omega)
            refine ⟨0, packet :: audio, ?_, Nat.zero_le _, ?_⟩
            · simp only [List.flatMap_cons, DrainMove.output, houtput, Nat.le_zero.mp hs]
              rfl
            · rw [List.length_cons]
              exact lt_of_le_of_lt haudio hlt
          · -- the next packet is at the expected sequence now
            obtain ⟨hmem, _, _⟩ := nextBufferedSequence_spec hnext
            have hcontains : b.packets.contains next = true :=
              (SortedMap.mem_keys_iff _ _).mp hmem
            have hpending : b'.drainPending = 0 := by
              simp [drainPending, hb', hcontains]
            obtain ⟨s, audio, houtput, hs, haudio⟩ := ih b' (by omega) (by omega)
            rw [hpending] at hs
            refine ⟨s, audio, houtput, ?_, haudio.trans hsize'⟩
            omega
          · have hcloser := drainPending_conceal hnext b' (by rw [hb']) (by rw [hb'])
            have hpending : b.drainPending = min (next - expected).toNat (b.maxPackets + 1) := by
              have hcontains : b.packets.contains expected = false :=
                (SortedMap.contains_eq_false_iff _ _).mpr hget
              simp [drainPending, hexp, hcontains, hnext]
            have hahead : 0 < (next - expected).toNat := by
              obtain ⟨_, hafter, _⟩ := nextBufferedSequence_spec hnext
              exact ((isAfter_eq_true_iff _ _).mp hafter).1
            obtain ⟨s, audio, houtput, hs, haudio⟩ := ih b' (by omega) (by omega)
            refine ⟨s + 1, audio, ?_, ?_, haudio.trans hsize'⟩
            · simp only [List.flatMap_cons, DrainMove.output, houtput]
              rfl
            · omega

end Outputs

section Runs

/-- The invariant between two calls. -/
structure Bounded (b : JitterBuffer) : Prop where
  few : b.packets.size < b.targetPackets
  target_le : b.targetPackets ≤ u64Max
  target_le_max : b.targetPackets ≤ b.maxPackets
  ahead : b.Ahead
  unopened : b.expectedSequence = none → b.packets.keys = []

theorem target_le_saturatingMul {target : Nat} (h : target ≤ u64Max) :
    target ≤ max (saturatingMul target 3) 4 := by
  rw [saturatingMul]
  omega

theorem bounded_new {target : Nat} (h : target ≤ u64Max) : (new target).Bounded where
  few := Nat.lt_of_lt_of_le Nat.zero_lt_one (Nat.le_max_right target 1)
  target_le := by
    have hone : 1 ≤ u64Max := by decide
    exact max_le h hone
  target_le_max := by
    have hone : 1 ≤ u64Max := by decide
    exact target_le_saturatingMul (max_le h hone)
  ahead := by
    intro expected hexp
    cases hexp
  unopened := fun _ => rfl

theorem Bounded.restart {b : JitterBuffer} (h : b.Bounded) (next : UInt32) :
    (b.restart next).Bounded where
  few := Nat.lt_of_le_of_lt (Nat.zero_le _) h.few
  target_le := h.target_le
  target_le_max := h.target_le_max
  ahead := by
    intro expected _ k hk
    cases hk
  unopened := fun _ => rfl

theorem Bounded.increaseTarget {b : JitterBuffer} (h : b.Bounded) (additional maximum : Nat) :
    (b.increaseTarget additional maximum).1.Bounded := by
  simp only [JitterBuffer.increaseTarget]
  split_ifs with hlarge
  · exact h
  · have hle := h.target_le
    have hfew := h.few
    have hraised : b.targetPackets ≤
        min (saturatingAdd b.targetPackets (max additional 1)) (max maximum 1) := by
      rw [saturatingAdd]
      omega
    have hlimit : min (saturatingAdd b.targetPackets (max additional 1)) (max maximum 1) ≤
        u64Max := by
      rw [saturatingAdd]
      omega
    exact ⟨lt_of_lt_of_le hfew hraised, hlimit, target_le_saturatingMul hlimit, h.ahead,
      h.unopened⟩

/-- What the whole loop keeps. -/
theorem drainLoop_frame (fuel : Nat) {b : JitterBuffer} (hahead : b.Ahead)
    (hopened : b.expectedSequence ≠ none) :
    (drainLoop fuel b).1.Ahead ∧ (drainLoop fuel b).1.targetPackets = b.targetPackets ∧
      (drainLoop fuel b).1.maxPackets = b.maxPackets ∧
      (drainLoop fuel b).1.expectedSequence ≠ none := by
  induction fuel generalizing b with
  | zero =>
      exact ⟨hahead, rfl, rfl, hopened⟩
  | succ fuel ih =>
      rw [drainLoop]
      cases hstep : b.drainStep with
      | none =>
          exact ⟨hahead, rfl, rfl, hopened⟩
      | some result =>
          obtain ⟨move, b'⟩ := result
          obtain ⟨htarget, hmax, _⟩ := drainStep_frame hstep
          have hopened' : b'.expectedSequence ≠ none := by
            obtain ⟨expected, _, hcase⟩ := drainStep_cases hstep
            rcases hcase with ⟨packet, _, _, rfl⟩ | ⟨next, _, _, _, _, rfl⟩ |
                ⟨next, _, _, _, _, rfl⟩
            · simp
            · simp
            · simp
          obtain ⟨hahead', htarget', hmax', hlast⟩ := ih (hahead.drainStep hstep) hopened'
          exact ⟨hahead', htarget'.trans htarget, hmax'.trans hmax, hlast⟩

/-- Draining a buffer with at most the target keeps its packets ahead, leaves fewer
than the target, and yields silence followed by audio. -/
theorem drain_bounded {b : JitterBuffer} (hahead : b.Ahead) (htarget : 0 < b.targetPackets)
    (hmax : b.targetPackets ≤ b.maxPackets) (hlimit : b.targetPackets ≤ u64Max)
    (hopened : b.expectedSequence ≠ none) (hsize : b.packets.size ≤ b.targetPackets) :
    b.drain.1.Bounded ∧
      SilenceThenAudio (b.drain.2.flatMap DrainMove.output) b.maxPackets b.targetPackets := by
  by_cases hgate : b.started = false ∧ b.packets.size < b.targetPackets
  · rw [drain, if_pos hgate]
    exact ⟨⟨hgate.2, hlimit, hmax, hahead, fun hnone => absurd hnone hopened⟩,
      0, [], rfl, Nat.zero_le _, Nat.zero_le _⟩
  · have hsettled := drain_settled b hgate
    rw [drain, if_neg hgate] at hsettled ⊢
    have hstart : ({ b with started := true } : JitterBuffer).Ahead := hahead
    obtain ⟨hahead', htarget', hmax', hopened'⟩ := drainLoop_frame b.drainFuel hstart hopened
    have hfew := size_lt_of_settled hahead' (lt_of_lt_of_eq htarget htarget'.symm) hopened' hsettled
    obtain ⟨s, audio, houtput, hs, haudio⟩ :=
      drainLoop_at_target b.drainFuel { b with started := true } hmax hsize
    refine ⟨⟨hfew, ?_, ?_, hahead', fun hnone => absurd hnone hopened'⟩, s, audio, houtput,
      hs.trans (min_le_right _ _), haudio.trans hsize⟩
    · rw [htarget']
      exact hlimit
    · rw [htarget', hmax']
      exact hmax

/-- **One push.** -/
theorem Bounded.push {b : JitterBuffer} (h : b.Bounded) (packet : AudioPacket) :
    (b.push packet).1.Bounded ∧
      SilenceThenAudio (b.push packet).2 b.maxPackets b.targetPackets := by
  have hahead : (b.opened packet).Ahead := by
    intro expected hexp k hk
    cases hold : b.expectedSequence with
    | none =>
        have hkeys : k ∈ b.packets.keys := hk
        rw [h.unopened hold] at hkeys
        cases hkeys
    | some e =>
        rw [opened, hold, Option.getD_some] at hexp
        cases hexp
        exact h.ahead _ hold k hk
  cases haccepts : b.accepts packet with
  | false =>
      obtain ⟨late, heq⟩ := push_of_not_accepts haccepts
      rw [heq]
      exact ⟨⟨h.few, h.target_le, h.target_le_max, hahead, fun hnone => by cases hnone⟩,
        0, [], rfl, Nat.zero_le _, Nat.zero_le _⟩
  | true =>
      have hfresh : b.packets.get? packet.sequence = none ∧
          isBefore packet.sequence (b.expectedSequence.getD packet.sequence) = false := by
        rw [accepts, Bool.and_eq_true, Bool.not_eq_true', Bool.not_eq_true'] at haccepts
        exact ⟨(SortedMap.contains_eq_false_iff _ _).mp haccepts.1, haccepts.2⟩
      have hinserted : (b.withPacket packet).Ahead := by
        intro expected hexp k hk
        rw [SortedMap.mem_keys_iff, SortedMap.contains_eq_true_iff] at hk
        obtain ⟨v, hv⟩ := hk
        simp only [withPacket, SortedMap.get?_insert] at hv
        split_ifs at hv with hk
        · cases hexp
          rw [hk]
          have hbefore := hfresh.2
          rw [Bool.eq_false_iff, ne_eq, isBefore_eq_true_iff, not_le] at hbefore
          exact hbefore
        · refine hahead expected hexp k ?_
          rw [SortedMap.mem_keys_iff, SortedMap.contains_eq_true_iff]
          exact ⟨v, hv⟩
      have hsize : (b.withPacket packet).packets.size ≤ b.targetPackets := by
        have hone := SortedMap.size_insert_of_get?_eq_none packet hfresh.1
        have hfew := h.few
        simp only [withPacket]
        omega
      rw [push_of_accepts haccepts, pushMoves, if_pos haccepts]
      exact drain_bounded hinserted (Nat.lt_of_le_of_lt (Nat.zero_le _) h.few) h.target_le_max
        h.target_le (by simp [withPacket, opened]) hsize

theorem Bounded.perform {b : JitterBuffer} (h : b.Bounded) (call : JitterCall) :
    (b.perform call).Bounded := by
  cases call with
  | push packet =>
      exact (h.push packet).1
  | restart next =>
      exact h.restart next
  | increaseTarget additional maximum =>
      exact h.increaseTarget additional maximum

/-- One iteration of the draining loop leads from `b` to `b'`. -/
def Drains (b' b : JitterBuffer) : Prop :=
  ∃ move, b.drainStep = some (move, b')

/-- **The draining loop ends**, wherever it starts. -/
theorem drains_wellFounded : WellFounded Drains := by
  refine Subrelation.wf ?_ (measure drainMeasure).wf
  rintro b' b ⟨move, hstep⟩
  exact drainStep_decreases hstep

/-- **Bounded latency.**  After every run of calls fewer than the target wait; the
draining loop ends on the buffer, also with one more packet; and the next push
yields at most `maxPackets` silences followed by at most `targetPackets` packets. -/
theorem latency_is_bounded (target : Nat) (htarget : target ≤ u64Max) (calls : List JitterCall) :
    let b := run perform (new target) calls
    b.packets.size < b.targetPackets ∧
      Acc Drains b ∧
      ∀ packet,
        Acc Drains (b.withPacket packet) ∧
        (¬ ((b.withPacket packet).started = false ∧
            (b.withPacket packet).packets.size < (b.withPacket packet).targetPackets) →
          (b.withPacket packet).drain.1.drainStep = none) ∧
        ∃ (silences : Nat) (audio : List AudioPacket),
          (b.push packet).2 = List.replicate silences .silence ++ audio.map .audio ∧
            silences ≤ b.maxPackets ∧ audio.length ≤ b.targetPackets := by
  intro b
  have hb : b.Bounded :=
    run_preserves Bounded (fun b call h => h.perform call) (bounded_new htarget) calls
  refine ⟨hb.few, drains_wellFounded.apply b, fun packet => ?_⟩
  exact ⟨drains_wellFounded.apply _, drain_settled _, (hb.push packet).2⟩

/-- Packets before and after a restart with a gap: two wait, and the next one lets
all of them out behind the silence for what is missing. -/
theorem latency_is_bounded_after_restart :
    let b := run perform (new 2) [.push ⟨5, 0, [1]⟩, .push ⟨6, 0, [2]⟩, .push ⟨9, 0, [3]⟩,
      .restart 20, .push ⟨22, 0, [4]⟩, .increaseTarget 1 8, .push ⟨23, 0, [5]⟩]
    b.packets.size = 2 ∧ b.targetPackets = 3 ∧ b.packets.size < b.targetPackets ∧ Acc Drains b ∧
      (b.push ⟨24, 0, [6]⟩).2 = [.silence, .silence, .audio ⟨22, 0, [4]⟩, .audio ⟨23, 0, [5]⟩,
        .audio ⟨24, 0, [6]⟩] ∧
      ∃ (silences : Nat) (audio : List AudioPacket),
        (b.push ⟨24, 0, [6]⟩).2 = List.replicate silences .silence ++ audio.map .audio ∧
          silences ≤ b.maxPackets ∧ audio.length ≤ b.targetPackets := by
  have h := latency_is_bounded 2 (by decide) [.push ⟨5, 0, [1]⟩, .push ⟨6, 0, [2]⟩,
    .push ⟨9, 0, [3]⟩, .restart 20, .push ⟨22, 0, [4]⟩, .increaseTarget 1 8, .push ⟨23, 0, [5]⟩]
  exact ⟨by decide +kernel, by decide +kernel, h.1, h.2.1, by decide +kernel,
    (h.2.2 ⟨24, 0, [6]⟩).2.2⟩

end Runs

end JitterBuffer

end Soundwave

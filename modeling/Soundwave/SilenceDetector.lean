import Mathlib.Data.List.Basic
import Mathlib.Tactic.Common

/-!
# The silence detector

Model of `windows-server/src/network/silence.rs`.  The detector sees every captured
block, with its timestamp in samples, whether it is silent and whether its receiver is
enabled, and decides which blocks are sent and when the receiver is told that the
stream is idle.

Its two fields summarise the whole history.  `sent_iff` says what they stand for: an
enabled block is sent if it is audible, and otherwise if the stretch of silence that it
is part of began behind a sent block, or with the first one, and has been shorter than
300 ms throughout.
-/

namespace Soundwave

/-- The arguments of one call of `SilenceDetector::update`. -/
structure SilenceUpdate where
  timestamp : UInt64
  silent : Bool
  enabled : Bool
deriving DecidableEq

namespace SilenceUpdate

/-- Silence while the receiver is enabled. -/
def Quiet (u : SilenceUpdate) : Prop :=
  u.enabled = true ∧ u.silent = true

instance (u : SilenceUpdate) : Decidable u.Quiet :=
  inferInstanceAs (Decidable (u.enabled = true ∧ u.silent = true))

end SilenceUpdate

/-- `SilenceDetector`. -/
structure SilenceDetector where
  silentSince : Option UInt64
  idle : Bool
deriving DecidableEq

namespace SilenceDetector

section Model

/-- `SilenceDetector::new`. -/
def new : SilenceDetector where
  silentSince := none
  idle := false

/-- `SAMPLE_RATE * 300 / 1_000`. -/
def grace : UInt64 := 48000 * 300 / 1000

/-- The state after `SilenceDetector::update`. -/
def next (d : SilenceDetector) (u : SilenceUpdate) : SilenceDetector :=
  if u.enabled = false then
    { silentSince := none, idle := true }
  else if u.silent then
    let since := d.silentSince.getD u.timestamp
    { silentSince := some since, idle := d.idle || decide (grace ≤ u.timestamp - since) }
  else
    { silentSince := none, idle := false }

/-- `SilenceDetector::update`: the new state, whether the block is sent, and whether the
receiver has just become idle. -/
def update (d : SilenceDetector) (u : SilenceUpdate) : SilenceDetector × Bool × Bool :=
  (d.next u, !(d.next u).idle, (d.next u).idle && !d.idle)

/-- The detector before update `i` of a sequence. -/
def before (us : List SilenceUpdate) (i : Nat) : SilenceDetector :=
  (us.take i).foldl next new

/-- The results of all updates of a sequence. -/
def outputs (d : SilenceDetector) : List SilenceUpdate → List (Bool × Bool)
  | [] => []
  | u :: us => (d.update u).2 :: outputs (d.update u).1 us

end Model

section History

/-- `k` is the first update of the maximal run of quiet updates that ends with `i`. -/
structure RunStart (us : List SilenceUpdate) (k i : Nat) : Prop where
  le : k ≤ i
  quiet : ∀ m (_ : m < us.length), k ≤ m → m ≤ i → us[m].Quiet
  first : ∀ m (_ : m < us.length), m + 1 = k → ¬ us[m].Quiet

/-- Update `i` is silent, and the run of silence that it ends has not suppressed anything:
it does not follow a disabled update, and it has been short throughout. -/
def InGrace (us : List SilenceUpdate) (i : Nat) : Prop :=
  ∃ k, ∃ _ : k < us.length, RunStart us k i ∧
    (k = 0 ∨ us[k - 1].enabled = true) ∧
    ∀ m (_ : m < us.length), k ≤ m → m ≤ i → us[m].timestamp - us[k].timestamp < grace

variable {us : List SilenceUpdate}

theorem RunStart.unique {k k' i : Nat} (hi : i < us.length) (h : RunStart us k i)
    (h' : RunStart us k' i) : k = k' := by
  have hle : ∀ {a b : Nat}, RunStart us a i → RunStart us b i → a ≤ b := by
    intro a b ha hb
    by_contra hlt
    obtain ⟨m, rfl⟩ : ∃ m, a = m + 1 := ⟨a - 1, by omega⟩
    have hm : m < us.length := by have := ha.le; omega
    exact ha.first m hm rfl (hb.quiet m hm (by omega) (by have := ha.le; omega))
  exact Nat.le_antisymm (hle h h') (hle h' h)

theorem before_succ {i : Nat} (hi : i < us.length) :
    before us (i + 1) = (before us i).next us[i] := by
  rw [before, before, List.take_add_one, List.getElem?_eq_getElem hi, List.foldl_append]
  rfl

/-- What the detector knows after a quiet update `i`, whose run began with `k`. -/
structure Knows (us : List SilenceUpdate) (d : SilenceDetector) (k i : Nat)
    (hk : k < us.length) : Prop where
  start : RunStart us k i
  since : d.silentSince = some us[k].timestamp
  idle : d.idle = true ↔
    (k ≠ 0 ∧ us[k - 1].enabled = false) ∨
      ∃ m, ∃ _ : m < us.length, k ≤ m ∧ m ≤ i ∧ grace ≤ us[m].timestamp - us[k].timestamp

theorem next_of_disabled (d : SilenceDetector) {u : SilenceUpdate} (h : u.enabled = false) :
    d.next u = { silentSince := none, idle := true } := by
  rw [next, if_pos h]

theorem next_of_audible (d : SilenceDetector) {u : SilenceUpdate} (h : u.enabled = true)
    (hsilent : u.silent = false) : d.next u = { silentSince := none, idle := false } := by
  simp [next, h, hsilent]

theorem next_of_quiet (d : SilenceDetector) {u : SilenceUpdate} (h : u.Quiet) :
    d.next u =
      { silentSince := some (d.silentSince.getD u.timestamp)
        idle := d.idle || decide (grace ≤ u.timestamp - d.silentSince.getD u.timestamp) } := by
  simp [next, h.1, h.2]

theorem not_grace_le_self (t : UInt64) : ¬ grace ≤ t - t := by
  rw [UInt64.sub_self]
  decide

/-- A run of silence begins: the detector has forgotten the previous one. -/
theorem knows_of_first {i : Nat} (hi : i < us.length) (hquiet : us[i].Quiet)
    {d : SilenceDetector} (hsince : d.silentSince = none)
    (hfirst : ∀ m (_ : m < us.length), m + 1 = i → ¬ us[m].Quiet)
    (hidle : d.idle = true ↔ i ≠ 0 ∧ us[i - 1].enabled = false) :
    Knows us (d.next us[i]) i i hi := by
  rw [next_of_quiet d hquiet, hsince]
  refine ⟨⟨Nat.le_refl i, ?_, hfirst⟩, rfl, ?_⟩
  · intro m hm hle hle'
    obtain rfl : m = i := Nat.le_antisymm hle' hle
    exact hquiet
  · simp only [Option.getD_none, decide_eq_false (not_grace_le_self _), Bool.or_false, hidle]
    constructor
    · exact Or.inl
    · rintro (h | ⟨m, hm, hle, hle', hlong⟩)
      · exact h
      · obtain rfl : m = i := Nat.le_antisymm hle' hle
        exact absurd hlong (not_grace_le_self _)

/-- A run of silence goes on. -/
theorem Knows.next {d : SilenceDetector} {k j : Nat} {hk : k < us.length}
    (h : Knows us d k j hk) (hj : j + 1 < us.length) (hquiet : us[j + 1].Quiet) :
    Knows us (d.next us[j + 1]) k (j + 1) hk := by
  rw [next_of_quiet d hquiet, h.since]
  refine ⟨⟨Nat.le_succ_of_le h.start.le, ?_, h.start.first⟩, rfl, ?_⟩
  · intro m hm hle hle'
    rcases Nat.lt_or_ge j m with hlt | hge
    · obtain rfl : m = j + 1 := by omega
      exact hquiet
    · exact h.start.quiet m hm hle hge
  · simp only [Option.getD_some, Bool.or_eq_true, decide_eq_true_eq, h.idle]
    constructor
    · rintro ((hafter | ⟨m, hm, hle, hle', hlong⟩) | hlong)
      · exact Or.inl hafter
      · exact Or.inr ⟨m, hm, hle, Nat.le_succ_of_le hle', hlong⟩
      · exact Or.inr ⟨j + 1, hj, Nat.le_succ_of_le h.start.le, Nat.le_refl _, hlong⟩
    · rintro (hafter | ⟨m, hm, hle, hle', hlong⟩)
      · exact Or.inl (Or.inl hafter)
      · rcases Nat.lt_or_ge j m with hlt | hge
        · obtain rfl : m = j + 1 := by omega
          exact Or.inr hlong
        · exact Or.inl (Or.inr ⟨m, hm, hle, hge, hlong⟩)

/-- After a quiet update the detector knows its run. -/
theorem exists_knows (i : Nat) (hi : i < us.length) (hquiet : us[i].Quiet) :
    ∃ k, ∃ hk : k < us.length, Knows us (before us (i + 1)) k i hk := by
  induction i with
  | zero =>
      refine ⟨0, hi, ?_⟩
      rw [before_succ hi]
      exact knows_of_first hi hquiet rfl (fun m _ hm => by omega)
        ⟨(fun h => nomatch h), fun h => absurd rfl h.1⟩
  | succ j ih =>
      have hj : j < us.length := Nat.lt_of_succ_lt hi
      by_cases hlast : us[j].Quiet
      · obtain ⟨k, hk, hknows⟩ := ih hj hlast
        refine ⟨k, hk, ?_⟩
        rw [before_succ hi]
        exact hknows.next hi hquiet
      · refine ⟨j + 1, hi, ?_⟩
        have hfirst : ∀ m (_ : m < us.length), m + 1 = j + 1 → ¬ us[m].Quiet := by
          intro m _ hm
          obtain rfl : m = j := by omega
          exact hlast
        rw [before_succ hi, before_succ hj]
        cases henabled : us[j].enabled with
        | false =>
            rw [next_of_disabled _ henabled]
            exact knows_of_first hi hquiet rfl hfirst
              ⟨fun _ => ⟨Nat.succ_ne_zero j, henabled⟩, fun _ => rfl⟩
        | true =>
            have hsilent : us[j].silent = false := by
              by_contra hsilent
              exact hlast ⟨henabled, by simpa using hsilent⟩
            rw [next_of_audible _ henabled hsilent]
            refine knows_of_first hi hquiet rfl hfirst ⟨(fun h => nomatch h), fun h => ?_⟩
            have hlater := h.2
            simp only [Nat.add_sub_cancel] at hlater
            rw [henabled] at hlater
            cases hlater

/-- **What the latch stands for.** -/
theorem idle_before_succ_iff (i : Nat) (hi : i < us.length) :
    (before us (i + 1)).idle = false ↔
      us[i].enabled = true ∧ (us[i].silent = false ∨ InGrace us i) := by
  cases henabled : us[i].enabled with
  | false =>
      rw [before_succ hi, next_of_disabled _ henabled]
      simp
  | true =>
      cases hsilent : us[i].silent with
      | false =>
          rw [before_succ hi, next_of_audible _ henabled hsilent]
          simp
      | true =>
          obtain ⟨k, hk, hknows⟩ := exists_knows i hi ⟨henabled, hsilent⟩
          rw [← Bool.not_eq_true, hknows.idle]
          simp only [true_and, Bool.true_eq_false, false_or]
          constructor
          · intro h
            refine ⟨k, hk, hknows.start, ?_, ?_⟩
            · by_cases hzero : k = 0
              · exact Or.inl hzero
              · refine Or.inr ?_
                by_contra hdisabled
                exact h (Or.inl ⟨hzero, by simpa using hdisabled⟩)
            · intro m hm hle hle'
              by_contra hlong
              exact h (Or.inr ⟨m, hm, hle, hle', UInt64.not_lt.mp hlong⟩)
          · rintro ⟨k', hk', hstart, hafter, hshort⟩
            obtain rfl := hstart.unique hi hknows.start
            rintro (⟨hzero, hdisabled⟩ | ⟨m, hm, hle, hle', hlong⟩)
            · rcases hafter with hafter | hafter
              · exact hzero hafter
              · rw [hdisabled] at hafter
                cases hafter
            · exact absurd (hshort m hm hle hle') (UInt64.not_lt.mpr hlong)

theorem outputs_length (d : SilenceDetector) (us : List SilenceUpdate) :
    (outputs d us).length = us.length := by
  induction us generalizing d with
  | nil => rfl
  | cons u us ih => rw [outputs, List.length_cons, List.length_cons, ih]

theorem outputs_getElem (d : SilenceDetector) (us : List SilenceUpdate) (i : Nat)
    (hi : i < us.length) (ho : i < (outputs d us).length) :
    (outputs d us)[i] = (((us.take i).foldl next d).update us[i]).2 := by
  induction us generalizing d i with
  | nil => cases hi
  | cons u us ih =>
      cases i with
      | zero => rfl
      | succ i =>
          simp only [outputs, List.getElem_cons_succ, List.take_succ_cons, List.foldl_cons]
          exact ih _ i (Nat.lt_of_succ_lt_succ hi) _

end History

/-- **The history law.**  Update `i` of a sequence is sent if and only if it is enabled, and
it is audible or part of a run of silence that has suppressed nothing; and the idle notice
is raised exactly by the updates that are not sent and are first or follow a sent one. -/
theorem outputs_follow_history (us : List SilenceUpdate) (i : Nat) (hi : i < us.length) :
    ∃ sent becameIdle, (outputs new us)[i]? = some (sent, becameIdle) ∧
      (sent = true ↔ us[i].enabled = true ∧
        (us[i].silent = false ∨
          ∃ k, ∃ _ : k < us.length, RunStart us k i ∧
            (k = 0 ∨ us[k - 1].enabled = true) ∧
            ∀ m (_ : m < us.length), k ≤ m → m ≤ i →
              us[m].timestamp - us[k].timestamp < 14400)) ∧
      (becameIdle = true ↔ sent = false ∧
        (i = 0 ∨ ∃ previous, (outputs new us)[i - 1]? = some (true, previous))) := by
  have ho : ∀ j, j < us.length → j < (outputs new us).length := by
    intro j hj
    rw [outputs_length]
    exact hj
  have hget : ∀ j (hj : j < us.length), (outputs new us)[j]? =
      some (!(before us (j + 1)).idle, (before us (j + 1)).idle && !(before us j).idle) := by
    intro j hj
    rw [List.getElem?_eq_getElem (ho j hj), outputs_getElem new us j hj (ho j hj), before_succ hj]
    rfl
  refine ⟨_, _, hget i hi, ?_, ?_⟩
  · rw [Bool.not_eq_true', idle_before_succ_iff i hi]
    rfl
  · rw [Bool.and_eq_true, Bool.not_eq_false', Bool.not_eq_true']
    refine and_congr_right (fun _ => ?_)
    cases i with
    | zero =>
        exact ⟨fun _ => Or.inl rfl, fun _ => rfl⟩
    | succ j =>
        have hj : j < us.length := Nat.lt_of_succ_lt hi
        rw [Nat.add_sub_cancel, hget j hj]
        simp

/-- An audible block, and then silence for 300 ms. -/
def fallsSilent : List SilenceUpdate :=
  [⟨0, false, true⟩, ⟨480, true, true⟩, ⟨14880, true, true⟩]

theorem outputs_follow_history_fallsSilent :
    (outputs new fallsSilent)[2]? = some (false, true) ∧ ¬ InGrace fallsSilent 2 := by
  have hoff : (outputs new fallsSilent)[2]? = some (false, true) := by decide
  obtain ⟨sent, becameIdle, hget, hsent, _⟩ := outputs_follow_history fallsSilent 2 (by decide)
  rw [hoff] at hget
  cases hget
  exact ⟨hoff, fun h => Bool.false_ne_true (hsent.mpr ⟨rfl, Or.inr h⟩)⟩

end SilenceDetector

end Soundwave

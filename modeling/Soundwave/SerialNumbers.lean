import Mathlib.Tactic

/-!
# Fixed-width counters

Saturating 64-bit counters, and 32-bit serial numbers.  Sequence numbers live
on a circle of `2 ^ 32` values.  A position is a natural number, its serial
number is the residue.  As long as two positions are less than `2 ^ 32` apart,
the wrapped difference of their serial numbers is their true distance, and
comparing it with half the circle tells which of the two comes first.
-/

namespace Soundwave

section Saturation

/-- `u64::MAX`, which is also `usize::MAX` on the supported 64-bit targets. -/
def u64Max : Nat := 2 ^ 64 - 1

/-- `saturating_add`. -/
def saturatingAdd (a b : Nat) : Nat :=
  min (a + b) u64Max

/-- `saturating_mul`. -/
def saturatingMul (a b : Nat) : Nat :=
  min (a * b) u64Max

end Saturation

section SerialNumbers

/-- Serial number of a position. -/
def serial (position : Nat) : UInt32 :=
  UInt32.ofNat position

/-- Serial numbers in the order of their values. -/
instance instLinearOrderUInt32 : LinearOrder UInt32 where
  le := (· ≤ ·)
  lt := (· < ·)
  le_refl := UInt32.le_refl
  le_trans := fun _ _ _ => UInt32.le_trans
  le_antisymm := fun _ _ => UInt32.le_antisymm
  le_total := UInt32.le_total
  lt_iff_le_not_ge := by
    intro a b
    rw [UInt32.lt_iff_toNat_lt, UInt32.le_iff_toNat_le, UInt32.le_iff_toNat_le]
    omega
  toDecidableLE := inferInstance
  toDecidableEq := inferInstance
  toDecidableLT := inferInstance

@[simp] theorem toNat_serial (position : Nat) :
    (serial position).toNat = position % 2 ^ 32 := by
  simp [serial]

theorem serial_succ (position : Nat) : serial position + 1 = serial (position + 1) := by
  rw [← UInt32.toNat_inj, UInt32.toNat_add]
  simp

theorem serial_add_toNat_sub (position : Nat) (s : UInt32) :
    serial (position + (s - serial position).toNat) = s := by
  rw [← UInt32.toNat_inj, toNat_serial, UInt32.toNat_sub, toNat_serial]
  have := s.toNat_lt
  omega

/-- Going forward by less than a full turn. -/
theorem toNat_serial_sub_of_le {p q : Nat} (hle : q ≤ p) (hlt : p < q + 2 ^ 32) :
    (serial p - serial q).toNat = p - q := by
  rw [UInt32.toNat_sub, toNat_serial, toNat_serial]
  omega

/-- Going backward by less than a full turn. -/
theorem toNat_serial_sub_of_lt {p q : Nat} (hlt : p < q) (hle : q ≤ p + 2 ^ 32) :
    (serial p - serial q).toNat = (2 ^ 32 - (q - p)) % 2 ^ 32 := by
  rw [UInt32.toNat_sub, toNat_serial, toNat_serial]
  omega

/-- Positions less than a full turn apart have equal serial numbers only if
they are equal. -/
theorem serial_inj {p q : Nat} (hpq : p < q + 2 ^ 32) (hqp : q < p + 2 ^ 32)
    (h : serial p = serial q) : p = q := by
  have hmod : p % 2 ^ 32 = q % 2 ^ 32 := by
    rw [← toNat_serial, ← toNat_serial, h]
  omega

/-- Moving the reference one step forward shortens the way by one. -/
theorem toNat_sub_add_one {s r : UInt32} (h : 0 < (s - r).toNat) :
    (s - (r + 1)).toNat = (s - r).toNat - 1 := by
  rw [UInt32.toNat_sub] at h
  rw [UInt32.toNat_sub, UInt32.toNat_sub, UInt32.toNat_add]
  have hs := s.toNat_lt
  have hr := r.toNat_lt
  have hone : (1 : UInt32).toNat = 1 := rfl
  rw [hone]
  omega

theorem eq_of_toNat_sub_eq_zero {s r : UInt32} (h : (s - r).toNat = 0) : s = r := by
  rw [UInt32.toNat_sub] at h
  apply UInt32.toNat_inj.mp
  have hs := s.toNat_lt
  have hr := r.toNat_lt
  omega

/-- Half a turn or more, measured forward, reads as lying behind. -/
def isBefore (sequence reference : UInt32) : Bool :=
  (sequence - reference) != 0 && (2 ^ 31 : Nat) ≤ (sequence - reference).toNat

/-- Less than half a turn, measured forward, reads as lying ahead. -/
def isAfter (sequence reference : UInt32) : Bool :=
  (sequence - reference) != 0 && (sequence - reference).toNat < (2 ^ 31 : Nat)

theorem isBefore_eq_true_iff (s r : UInt32) :
    isBefore s r = true ↔ 2 ^ 31 ≤ (s - r).toNat := by
  unfold isBefore
  rw [Bool.and_eq_true, decide_eq_true_eq, bne_iff_ne]
  constructor
  · exact fun h => h.2
  · intro h
    refine ⟨?_, h⟩
    intro hzero
    rw [hzero] at h
    simp at h

theorem isAfter_eq_true_iff (s r : UInt32) :
    isAfter s r = true ↔ 0 < (s - r).toNat ∧ (s - r).toNat < 2 ^ 31 := by
  unfold isAfter
  rw [Bool.and_eq_true, decide_eq_true_eq, bne_iff_ne, ne_eq, ← UInt32.toNat_inj]
  have hzero : (0 : UInt32).toNat = 0 := rfl
  rw [hzero]
  omega

theorem isBefore_serial_of_le {p q : Nat} (hle : q ≤ p) (hlt : p < q + 2 ^ 31) :
    isBefore (serial p) (serial q) = false := by
  rw [Bool.eq_false_iff, ne_eq, isBefore_eq_true_iff, toNat_serial_sub_of_le hle (by omega)]
  omega

theorem isBefore_serial_of_lt {p q : Nat} (hlt : p < q) (hle : q ≤ p + 2 ^ 31) :
    isBefore (serial p) (serial q) = true := by
  rw [isBefore_eq_true_iff, toNat_serial_sub_of_lt hlt (by omega)]
  omega

end SerialNumbers

end Soundwave

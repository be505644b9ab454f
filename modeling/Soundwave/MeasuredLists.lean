import Mathlib.Data.List.Basic
import Mathlib.Algebra.Order.Ring.Nat
import Mathlib.Tactic.Common

/-!
# Lists whose elements have sizes

A list is measured by the sizes of its elements, for instance a text by the bytes
that its characters take.  An offset is a boundary of the list if a front part has
that measure; a range of offsets lies within the list if both ends are boundaries and
in order.  Cutting at other offsets fails.

With a second measure, `seek` leads from an offset in the first to one in the second:
to the end of the shortest front part that reaches it.
-/

namespace Soundwave

universe u

section MeasuredLists

variable {α : Type u}

/-- The measure of a list. -/
def extent (size : α → Nat) (l : List α) : Nat :=
  (l.map size).sum

@[simp] theorem extent_nil (size : α → Nat) : extent size [] = 0 := rfl

@[simp] theorem extent_cons (size : α → Nat) (a : α) (l : List α) :
    extent size (a :: l) = size a + extent size l := rfl

@[simp] theorem extent_append (size : α → Nat) (l m : List α) :
    extent size (l ++ m) = extent size l + extent size m := by
  simp [extent]

theorem eq_nil_of_extent {size : α → Nat} (hpos : ∀ a, 0 < size a) {l : List α}
    (h : extent size l = 0) : l = [] := by
  cases l with
  | nil =>
      rfl
  | cons a l =>
      have ha := hpos a
      rw [extent_cons] at h
      omega

/-- A range of offsets. -/
structure Span where
  start : Nat
  stop : Nat
deriving DecidableEq

/-- A front part of the list ends at this offset. -/
def Boundary (size : α → Nat) (l : List α) (n : Nat) : Prop :=
  ∃ front rest, l = front ++ rest ∧ extent size front = n

/-- Both ends of the range are boundaries, in order. -/
structure Span.Within (size : α → Nat) (l : List α) (r : Span) : Prop where
  ordered : r.start ≤ r.stop
  start : Boundary size l r.start
  stop : Boundary size l r.stop

/-- The range that has `middle` after `front`. -/
def Span.around (size : α → Nat) (front middle : List α) : Span where
  start := extent size front
  stop := extent size front + extent size middle

/-- The empty range after a front part. -/
theorem Span.within_caret (size : α → Nat) (front rest : List α) :
    Span.Within size (front ++ rest) ⟨extent size front, extent size front⟩ where
  ordered := Nat.le_refl _
  start := ⟨front, rest, rfl, rfl⟩
  stop := ⟨front, rest, rfl, rfl⟩

theorem Span.within_around (size : α → Nat) (front middle rest : List α) :
    (Span.around size front middle).Within size (front ++ middle ++ rest) where
  ordered := Nat.le_add_right _ _
  start := ⟨front, middle ++ rest, List.append_assoc front middle rest, rfl⟩
  stop := ⟨front ++ middle, rest, rfl, extent_append size front middle⟩

/-- **A range within the list parts it in three.** -/
theorem Span.Within.split {size : α → Nat} (hpos : ∀ a, 0 < size a) {l : List α} {r : Span}
    (h : r.Within size l) :
    ∃ front middle rest, l = front ++ middle ++ rest ∧ r = Span.around size front middle := by
  obtain ⟨start, stop⟩ := r
  obtain ⟨hordered, ⟨front, back, hl, hstart⟩, ⟨front', rest, hl', hstop⟩⟩ := h
  simp only at hordered hstart hstop
  rw [hl] at hl'
  rcases List.append_eq_append_iff.mp hl' with ⟨middle, rfl, hback⟩ | ⟨middle, rfl, hback⟩
  · refine ⟨front, middle, rest, ?_, ?_⟩
    · rw [hl, hback, List.append_assoc]
    · rw [extent_append] at hstop
      rw [Span.around, ← hstart, ← hstop]
  · -- The end is not before the start, so nothing lies between.
    rw [extent_append] at hstart
    obtain rfl := eq_nil_of_extent hpos (l := middle) (by omega)
    refine ⟨front', [], rest, ?_, ?_⟩
    · rw [hl, hback]
      rfl
    · rw [Span.around, ← hstart, ← hstop]
      rfl

end MeasuredLists

section Cutting

variable {α : Type u}

/-- The parts before and after an offset, if it is a boundary. -/
def cut (size : α → Nat) : List α → Nat → Option (List α × List α)
  | [], n => if n = 0 then some ([], []) else none
  | a :: l, n =>
      if n = 0 then
        some ([], a :: l)
      else if size a ≤ n then
        (cut size l (n - size a)).map (fun parts => (a :: parts.1, parts.2))
      else
        none

theorem cut_append {size : α → Nat} (hpos : ∀ a, 0 < size a) (front rest : List α) :
    cut size (front ++ rest) (extent size front) = some (front, rest) := by
  induction front with
  | nil =>
      cases rest with
      | nil =>
          rfl
      | cons a rest =>
          rfl
  | cons a front ih =>
      have ha := hpos a
      have hne : size a + extent size front ≠ 0 := by omega
      rw [List.cons_append, extent_cons, cut, if_neg hne, if_pos (Nat.le_add_right _ _),
        Nat.add_sub_cancel_left, ih]
      rfl

theorem Boundary.cut {size : α → Nat} (hpos : ∀ a, 0 < size a) {l : List α} {n : Nat}
    (h : Boundary size l n) :
    ∃ front rest, l = front ++ rest ∧ n = extent size front ∧
      Soundwave.cut size l n = some (front, rest) := by
  obtain ⟨front, rest, rfl, rfl⟩ := h
  exact ⟨front, rest, rfl, rfl, cut_append hpos front rest⟩

/-- One element back from a boundary. -/
theorem boundary_dropLast (size : α → Nat) (front rest : List α) :
    Boundary size (front ++ rest) (extent size front.dropLast) ∧
      extent size front.dropLast ≤ extent size front := by
  obtain ⟨last, hlast⟩ := List.dropLast_prefix front
  refine ⟨⟨front.dropLast, last ++ rest, ?_, rfl⟩, ?_⟩
  · rw [← List.append_assoc, hlast]
  · have hextent := congrArg (extent size) hlast
    rw [extent_append] at hextent
    omega

/-- One element on from a boundary. -/
theorem boundary_head (size : α → Nat) (front rest : List α) :
    Boundary size (front ++ rest)
        (rest.head?.elim (extent size front) (fun a => extent size front + size a)) ∧
      extent size front ≤
        rest.head?.elim (extent size front) (fun a => extent size front + size a) := by
  cases rest with
  | nil =>
      exact ⟨⟨front, [], rfl, rfl⟩, Nat.le_refl _⟩
  | cons a rest =>
      refine ⟨⟨front ++ [a], rest, ?_, ?_⟩, Nat.le_add_right _ _⟩
      · rw [List.append_assoc]
        rfl
      · rw [extent_append, extent_cons, extent_nil, Nat.add_zero]
        rfl

/-- The part of a list in a range. -/
def slice (size : α → Nat) (l : List α) (r : Span) : Option (List α) :=
  if r.start ≤ r.stop then
    (cut size l r.start).bind (fun outer =>
      (cut size outer.2 (r.stop - r.start)).map Prod.fst)
  else
    none

/-- The list with the part in a range replaced. -/
def replaceRange (size : α → Nat) (l : List α) (r : Span) (new : List α) : Option (List α) :=
  if r.start ≤ r.stop then
    (cut size l r.start).bind (fun outer =>
      (cut size outer.2 (r.stop - r.start)).map (fun inner => outer.1 ++ new ++ inner.2))
  else
    none

section Around

variable {size : α → Nat} (hpos : ∀ a, 0 < size a) (front middle rest : List α)
include hpos

theorem cut_start :
    cut size (front ++ middle ++ rest) (Span.around size front middle).start =
      some (front, middle ++ rest) := by
  rw [List.append_assoc]
  exact cut_append hpos front (middle ++ rest)

theorem cut_stop :
    cut size (front ++ middle ++ rest) (Span.around size front middle).stop =
      some (front ++ middle, rest) := by
  rw [Span.around, ← extent_append]
  exact cut_append hpos (front ++ middle) rest

theorem slice_around :
    slice size (front ++ middle ++ rest) (Span.around size front middle) = some middle := by
  have hlength : (Span.around size front middle).stop - (Span.around size front middle).start =
      extent size middle := Nat.add_sub_cancel_left _ _
  rw [slice, if_pos (Span.within_around size front middle rest).ordered,
    cut_start hpos front middle rest, Option.bind_some, hlength, cut_append hpos]
  rfl

theorem replaceRange_around (new : List α) :
    replaceRange size (front ++ middle ++ rest) (Span.around size front middle) new =
      some (front ++ new ++ rest) := by
  have hlength : (Span.around size front middle).stop - (Span.around size front middle).start =
      extent size middle := Nat.add_sub_cancel_left _ _
  rw [replaceRange, if_pos (Span.within_around size front middle rest).ordered,
    cut_start hpos front middle rest, Option.bind_some, hlength, cut_append hpos]
  rfl

end Around

end Cutting

section Seeking

variable {α : Type u}

/-- Where the shortest front part ends, in the second measure, that reaches `n` in the
first. -/
def seek (first second : α → Nat) : List α → Nat → Nat
  | [], _ => 0
  | a :: l, n => if n = 0 then 0 else second a + seek first second l (n - first a)

/-- It is a boundary. -/
theorem seek_boundary (first second : α → Nat) (l : List α) (n : Nat) :
    Boundary second l (seek first second l n) := by
  induction l generalizing n with
  | nil =>
      exact ⟨[], [], rfl, rfl⟩
  | cons a l ih =>
      rw [seek]
      split_ifs
      · exact ⟨[], a :: l, rfl, rfl⟩
      · obtain ⟨front, rest, hl, hextent⟩ := ih (n - first a)
        refine ⟨a :: front, rest, ?_, ?_⟩
        · rw [List.cons_append, ← hl]
        · rw [extent_cons, hextent]

theorem seek_mono (first second : α → Nat) (l : List α) {m n : Nat} (h : m ≤ n) :
    seek first second l m ≤ seek first second l n := by
  induction l generalizing m n with
  | nil =>
      exact Nat.le_refl 0
  | cons a l ih =>
      rw [seek, seek]
      split_ifs with hm hn
      · exact Nat.le_refl 0
      · exact Nat.zero_le _
      · omega
      · exact Nat.add_le_add_left (ih (by omega)) _

/-- **Boundaries are found again.** -/
theorem seek_extent {first : α → Nat} (hpos : ∀ a, 0 < first a) (second : α → Nat)
    (front rest : List α) :
    seek first second (front ++ rest) (extent first front) = extent second front := by
  induction front with
  | nil =>
      cases rest with
      | nil =>
          rfl
      | cons a rest =>
          rfl
  | cons a front ih =>
      have ha := hpos a
      have hne : first a + extent first front ≠ 0 := by omega
      rw [List.cons_append, extent_cons, seek, if_neg hne, Nat.add_sub_cancel_left, ih,
        extent_cons]

/-- Ordered offsets lead to a range within the list. -/
theorem seek_within (first second : α → Nat) (l : List α) {r : Span} (h : r.start ≤ r.stop) :
    Span.Within second l ⟨seek first second l r.start, seek first second l r.stop⟩ where
  ordered := seek_mono first second l h
  start := seek_boundary first second l r.start
  stop := seek_boundary first second l r.stop

end Seeking

end Soundwave

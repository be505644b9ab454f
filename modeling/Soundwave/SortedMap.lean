import Mathlib.Order.Lattice
import Mathlib.Data.List.Basic

/-!
# Finite maps kept in key order

A finite map is a list of entries whose keys increase strictly.  The order is
a field of the structure, so every map that can be built iterates its entries
in key order and holds each key at most once.  A map to `Unit` serves as a
finite ordered set.

The operations are the usual ones of an ordered map: look up, insert or
replace, remove, update every value, keep the entries that pass a test, and
drop the first entry.  Each of them has one lemma that says what a later look
up returns; proofs about programs use these and never unfold the list.
-/

namespace Soundwave

universe u v w

/-- A finite map whose entries are listed in strictly increasing key order. -/
structure SortedMap (κ : Type u) (ν : Type v) [LinearOrder κ] where
  entries : List (κ × ν)
  sorted : (entries.map Prod.fst).Pairwise (· < ·)
deriving DecidableEq

namespace SortedMap

section Entries

variable {κ : Type u} {ν : Type v} [LinearOrder κ]

/-- Insert an entry into an ordered list, replacing an equal key. -/
def insertEntry (k : κ) (v : ν) : List (κ × ν) → List (κ × ν)
  | [] => [(k, v)]
  | e :: l =>
      if k < e.1 then
        (k, v) :: e :: l
      else if k = e.1 then
        (k, v) :: l
      else
        e :: insertEntry k v l

theorem mem_keys_insertEntry
    (k : κ) (v : ν) (l : List (κ × ν)) (x : κ) :
    x ∈ (insertEntry k v l).map Prod.fst → x = k ∨ x ∈ l.map Prod.fst := by
  induction l with
  | nil =>
      simp [insertEntry]
  | cons e l ih =>
      unfold insertEntry
      split_ifs with h₁ h₂
      · simp
      · intro hx
        simp only [List.map_cons, List.mem_cons] at hx ⊢
        tauto
      · intro hx
        simp only [List.map_cons, List.mem_cons] at hx ⊢
        rcases hx with hx | hx
        · exact Or.inr (Or.inl hx)
        · rcases ih hx with hx | hx
          · exact Or.inl hx
          · exact Or.inr (Or.inr hx)

theorem insertEntry_sorted
    (k : κ) (v : ν) (l : List (κ × ν))
    (hl : (l.map Prod.fst).Pairwise (· < ·)) :
    ((insertEntry k v l).map Prod.fst).Pairwise (· < ·) := by
  induction l with
  | nil =>
      simp [insertEntry]
  | cons e l ih =>
      rw [List.map_cons, List.pairwise_cons] at hl
      obtain ⟨hhead, htail⟩ := hl
      unfold insertEntry
      split_ifs with h₁ h₂
      · simp only [List.map_cons, List.pairwise_cons, List.mem_cons]
        refine ⟨?_, hhead, htail⟩
        rintro x (rfl | hx)
        · exact h₁
        · exact lt_trans h₁ (hhead x hx)
      · subst h₂
        rw [List.map_cons, List.pairwise_cons]
        exact ⟨hhead, htail⟩
      · simp only [List.map_cons, List.pairwise_cons]
        refine ⟨?_, ih htail⟩
        intro x hx
        rcases mem_keys_insertEntry k v l x hx with rfl | hx
        · exact lt_of_le_of_ne (not_lt.mp h₁) (Ne.symm h₂)
        · exact hhead x hx

theorem mem_insertEntry
    (k : κ) (v : ν) (l : List (κ × ν))
    (hl : (l.map Prod.fst).Pairwise (· < ·)) (e : κ × ν) :
    e ∈ insertEntry k v l ↔ e = (k, v) ∨ (e ∈ l ∧ e.1 ≠ k) := by
  induction l with
  | nil =>
      simp [insertEntry]
  | cons d l ih =>
      rw [List.map_cons, List.pairwise_cons] at hl
      obtain ⟨hhead, htail⟩ := hl
      have hlater : ∀ x, x ∈ l → d.1 < x.1 := fun x hx =>
        hhead x.1 (List.mem_map_of_mem hx)
      unfold insertEntry
      split_ifs with h₁ h₂
      · have hne : ∀ x, x ∈ d :: l → x.1 ≠ k := by
          intro x hx
          rcases List.mem_cons.mp hx with rfl | hx
          · exact ne_of_gt h₁
          · exact ne_of_gt (lt_trans h₁ (hlater x hx))
        rw [List.mem_cons]
        constructor
        · rintro (rfl | hx)
          · exact Or.inl rfl
          · exact Or.inr ⟨hx, hne e hx⟩
        · rintro (rfl | ⟨hx, _⟩)
          · exact Or.inl rfl
          · exact Or.inr hx
      · rw [List.mem_cons, List.mem_cons]
        constructor
        · rintro (rfl | hx)
          · exact Or.inl rfl
          · exact Or.inr ⟨Or.inr hx, by rw [h₂]; exact ne_of_gt (hlater e hx)⟩
        · rintro (rfl | ⟨rfl | hx, hk⟩)
          · exact Or.inl rfl
          · exact absurd h₂.symm hk
          · exact Or.inr hx
      · rw [List.mem_cons, ih htail, List.mem_cons]
        constructor
        · rintro (rfl | rfl | ⟨hx, hk⟩)
          · exact Or.inr ⟨Or.inl rfl, Ne.symm h₂⟩
          · exact Or.inl rfl
          · exact Or.inr ⟨Or.inr hx, hk⟩
        · rintro (rfl | ⟨rfl | hx, hk⟩)
          · exact Or.inr (Or.inl rfl)
          · exact Or.inl rfl
          · exact Or.inr (Or.inr ⟨hx, hk⟩)

theorem length_insertEntry_of_not_mem
    (k : κ) (v : ν) (l : List (κ × ν))
    (hk : k ∉ l.map Prod.fst) :
    (insertEntry k v l).length = l.length + 1 := by
  induction l with
  | nil =>
      simp [insertEntry]
  | cons d l ih =>
      simp only [List.map_cons, List.mem_cons, not_or] at hk
      unfold insertEntry
      split_ifs with h₁ h₂
      · simp
      · exact absurd h₂ hk.1
      · simp [ih hk.2]

theorem length_filter_of_mem_keys
    (k : κ) (l : List (κ × ν))
    (hl : (l.map Prod.fst).Pairwise (· < ·)) (hk : k ∈ l.map Prod.fst) :
    (l.filter (fun e => !decide (e.1 = k))).length + 1 = l.length := by
  induction l with
  | nil =>
      simp at hk
  | cons d l ih =>
      rw [List.map_cons, List.pairwise_cons] at hl
      rw [List.map_cons, List.mem_cons] at hk
      by_cases hd : d.1 = k
      · have hrest : l.filter (fun e => !decide (e.1 = k)) = l := by
          rw [List.filter_eq_self]
          intro e he
          have hlt := hl.1 e.1 (List.mem_map_of_mem he)
          rw [hd] at hlt
          simpa using ne_of_gt hlt
        rw [List.filter_cons_of_neg (by simp [hd]), hrest, List.length_cons]
      · have hk' : k ∈ l.map Prod.fst := by
          rcases hk with hk | hk
          · exact absurd hk.symm hd
          · exact hk
        rw [List.filter_cons_of_pos (by simp [hd]), List.length_cons, List.length_cons,
          ih hl.2 hk']

end Entries

section Operations

variable {κ : Type u} {ν : Type v} [LinearOrder κ]

/-- The map with no entry. -/
def empty : SortedMap κ ν where
  entries := []
  sorted := by simp

instance : Inhabited (SortedMap κ ν) := ⟨empty⟩

/-- The value stored under a key. -/
def get? (m : SortedMap κ ν) (k : κ) : Option ν :=
  (m.entries.find? (fun e => e.1 = k)).map Prod.snd

/-- Whether a key is present. -/
def contains (m : SortedMap κ ν) (k : κ) : Bool :=
  (m.get? k).isSome

/-- Number of entries. -/
def size (m : SortedMap κ ν) : Nat :=
  m.entries.length

/-- The keys in increasing order. -/
def keys (m : SortedMap κ ν) : List κ :=
  m.entries.map Prod.fst

/-- Store a value under a key, replacing an older one. -/
def insert (m : SortedMap κ ν) (k : κ) (v : ν) : SortedMap κ ν where
  entries := insertEntry k v m.entries
  sorted := insertEntry_sorted k v m.entries m.sorted

/-- Keep the entries that pass a test. -/
def filter (m : SortedMap κ ν) (p : κ → ν → Bool) : SortedMap κ ν where
  entries := m.entries.filter (fun e => p e.1 e.2)
  sorted := by
    refine List.Pairwise.sublist ?_ m.sorted
    exact List.Sublist.map Prod.fst List.filter_sublist

/-- Remove a key. -/
def erase (m : SortedMap κ ν) (k : κ) : SortedMap κ ν :=
  m.filter (fun k' _ => !decide (k' = k))

/-- Update every value. -/
def mapValues {μ : Type w} (m : SortedMap κ ν) (f : κ → ν → μ) : SortedMap κ μ where
  entries := m.entries.map (fun e => (e.1, f e.1 e.2))
  sorted := by
    have h : (m.entries.map (fun e => (e.1, f e.1 e.2))).map Prod.fst =
        m.entries.map Prod.fst := by
      simp
    rw [h]
    exact m.sorted

/-- Update the value stored under one key. -/
def modify (m : SortedMap κ ν) (k : κ) (f : ν → ν) : SortedMap κ ν :=
  m.mapValues (fun k' v => if k' = k then f v else v)

/-- Drop the entry with the least key. -/
def popFirst (m : SortedMap κ ν) : SortedMap κ ν where
  entries := m.entries.tail
  sorted := by
    rw [List.map_tail]
    exact m.sorted.tail

end Operations

section Lookup

variable {κ : Type u} {ν : Type v} [LinearOrder κ]

theorem get?_eq_some_iff (m : SortedMap κ ν) (k : κ) (v : ν) :
    m.get? k = some v ↔ (k, v) ∈ m.entries := by
  obtain ⟨l, hl⟩ := m
  unfold get?
  induction l with
  | nil =>
      simp
  | cons e l ih =>
      rw [List.map_cons, List.pairwise_cons] at hl
      obtain ⟨hhead, htail⟩ := hl
      by_cases hk : e.1 = k
      · have hnot : ∀ v', (k, v') ∉ l := by
          intro v' hmem
          have hlt := hhead k (List.mem_map_of_mem hmem)
          exact absurd hk (ne_of_lt hlt)
        simp only [List.find?_cons, hk, decide_true, Option.map_some, List.mem_cons,
          hnot v, or_false, Option.some.injEq]
        constructor
        · intro h
          exact Prod.ext hk.symm h.symm
        · intro h
          rw [← h]
      · have hne : (k, v) ≠ e := fun h => hk (by rw [← h])
        simp only [List.find?_cons, hk, decide_false, List.mem_cons, hne, false_or]
        exact ih htail

theorem get?_eq_none_iff (m : SortedMap κ ν) (k : κ) :
    m.get? k = none ↔ k ∉ m.entries.map Prod.fst := by
  rw [Option.eq_none_iff_forall_ne_some]
  constructor
  · intro h hmem
    obtain ⟨e, he, rfl⟩ := List.mem_map.mp hmem
    exact h e.2 ((get?_eq_some_iff m e.1 e.2).mpr he)
  · intro h v hv
    exact h (List.mem_map_of_mem ((get?_eq_some_iff m k v).mp hv))

@[simp] theorem get?_empty (k : κ) : (empty : SortedMap κ ν).get? k = none := rfl

theorem get?_insert (m : SortedMap κ ν) (k : κ) (v : ν) (k' : κ) :
    (m.insert k v).get? k' = if k' = k then some v else m.get? k' := by
  apply Option.ext
  intro w
  rw [get?_eq_some_iff]
  show (k', w) ∈ insertEntry k v m.entries ↔ _
  rw [mem_insertEntry k v m.entries m.sorted]
  by_cases h : k' = k
  · subst h
    simp [eq_comm]
  · rw [if_neg h, get?_eq_some_iff]
    simp [h]

@[simp] theorem get?_insert_self (m : SortedMap κ ν) (k : κ) (v : ν) :
    (m.insert k v).get? k = some v := by
  rw [get?_insert, if_pos rfl]

theorem get?_insert_ne (m : SortedMap κ ν) {k k' : κ} (v : ν) (h : k' ≠ k) :
    (m.insert k v).get? k' = m.get? k' := by
  rw [get?_insert, if_neg h]

theorem get?_filter (m : SortedMap κ ν) (p : κ → ν → Bool) (k : κ) :
    (m.filter p).get? k = (m.get? k).filter (p k) := by
  apply Option.ext
  intro v
  rw [get?_eq_some_iff]
  show (k, v) ∈ m.entries.filter _ ↔ _
  rw [List.mem_filter, Option.filter_eq_some_iff, get?_eq_some_iff]

theorem get?_erase (m : SortedMap κ ν) (k k' : κ) :
    (m.erase k).get? k' = if k' = k then none else m.get? k' := by
  unfold erase
  rw [get?_filter]
  by_cases h : k' = k
  · rw [if_pos h]
    cases m.get? k' with
    | none => rfl
    | some v => simp [h]
  · rw [if_neg h]
    cases m.get? k' with
    | none => rfl
    | some v => simp [h]

@[simp] theorem get?_erase_self (m : SortedMap κ ν) (k : κ) :
    (m.erase k).get? k = none := by
  rw [get?_erase, if_pos rfl]

theorem size_insert_of_get?_eq_none
    {m : SortedMap κ ν} {k : κ} (v : ν) (h : m.get? k = none) :
    (m.insert k v).size = m.size + 1 :=
  length_insertEntry_of_not_mem k v m.entries ((get?_eq_none_iff m k).mp h)

theorem size_erase_of_get?_eq_some
    {m : SortedMap κ ν} {k : κ} {v : ν} (h : m.get? k = some v) :
    (m.erase k).size + 1 = m.size :=
  length_filter_of_mem_keys k m.entries m.sorted
    (List.mem_map_of_mem ((get?_eq_some_iff m k v).mp h))

theorem get?_mapValues {μ : Type w} (m : SortedMap κ ν) (f : κ → ν → μ) (k : κ) :
    (m.mapValues f).get? k = (m.get? k).map (f k) := by
  apply Option.ext
  intro v
  rw [get?_eq_some_iff]
  show (k, v) ∈ m.entries.map _ ↔ _
  rw [List.mem_map, Option.map_eq_some_iff]
  constructor
  · rintro ⟨e, he, heq⟩
    obtain ⟨rfl, rfl⟩ := Prod.mk.inj heq
    exact ⟨e.2, (get?_eq_some_iff m e.1 e.2).mpr he, rfl⟩
  · rintro ⟨v', hv', rfl⟩
    exact ⟨(k, v'), (get?_eq_some_iff m k v').mp hv', rfl⟩

theorem get?_modify (m : SortedMap κ ν) (k : κ) (f : ν → ν) (k' : κ) :
    (m.modify k f).get? k' = if k' = k then (m.get? k').map f else m.get? k' := by
  unfold modify
  rw [get?_mapValues]
  by_cases h : k' = k
  · simp [h]
  · simp [h]

@[simp] theorem keys_mapValues {μ : Type w} (m : SortedMap κ ν) (f : κ → ν → μ) :
    (m.mapValues f).keys = m.keys := by
  simp [keys, mapValues]

@[simp] theorem keys_modify (m : SortedMap κ ν) (k : κ) (f : ν → ν) :
    (m.modify k f).keys = m.keys := by
  simp [modify]

theorem mem_keys_iff (m : SortedMap κ ν) (k : κ) :
    k ∈ m.keys ↔ m.contains k = true := by
  unfold contains keys
  rw [← not_iff_not, Bool.not_eq_true, Option.isSome_eq_false_iff, Option.isNone_iff_eq_none,
    get?_eq_none_iff]

theorem contains_eq_true_iff (m : SortedMap κ ν) (k : κ) :
    m.contains k = true ↔ ∃ v, m.get? k = some v := by
  unfold contains
  rw [Option.isSome_iff_exists]

theorem contains_eq_false_iff (m : SortedMap κ ν) (k : κ) :
    m.contains k = false ↔ m.get? k = none := by
  unfold contains
  rw [Option.isSome_eq_false_iff, Option.isNone_iff_eq_none]

end Lookup

section Rebuilding

variable {κ : Type u} {ν : Type v} [LinearOrder κ]

/-- The map with the given entries, later ones winning. -/
def ofEntries (entries : List (κ × ν)) : SortedMap κ ν :=
  entries.foldl (fun m e => m.insert e.1 e.2) empty

theorem length_insertEntry_le (k : κ) (v : ν) (l : List (κ × ν)) :
    (insertEntry k v l).length ≤ l.length + 1 := by
  induction l with
  | nil =>
      exact Nat.le_refl 1
  | cons e l ih =>
      rw [insertEntry]
      split_ifs
      · exact Nat.le_refl _
      · exact Nat.le_succ _
      · exact Nat.succ_le_succ ih

/-- The entries of such a map are among the given ones, and no more of them. -/
theorem entries_ofEntries (entries : List (κ × ν)) :
    (∀ e ∈ (ofEntries entries).entries, e ∈ entries) ∧
      (ofEntries entries).entries.length ≤ entries.length := by
  suffices h : ∀ m : SortedMap κ ν,
      (∀ e ∈ (entries.foldl (fun m e => m.insert e.1 e.2) m).entries,
        e ∈ m.entries ∨ e ∈ entries) ∧
      (entries.foldl (fun m e => m.insert e.1 e.2) m).entries.length ≤
        m.entries.length + entries.length by
    obtain ⟨hmem, hlength⟩ := h empty
    exact ⟨fun e he => (hmem e he).resolve_left List.not_mem_nil,
      hlength.trans_eq (Nat.zero_add _)⟩
  induction entries with
  | nil =>
      exact fun m => ⟨fun e he => Or.inl he, Nat.le_refl _⟩
  | cons d entries ih =>
      intro m
      obtain ⟨hmem, hlength⟩ := ih (m.insert d.1 d.2)
      refine ⟨fun e he => ?_, ?_⟩
      · rcases hmem e he with he | he
        · rcases (mem_insertEntry d.1 d.2 m.entries m.sorted e).mp he with rfl | ⟨he, _⟩
          · exact Or.inr List.mem_cons_self
          · exact Or.inl he
        · exact Or.inr (List.mem_cons_of_mem _ he)
      · have hinsert : (m.insert d.1 d.2).entries.length ≤ m.entries.length + 1 :=
          length_insertEntry_le d.1 d.2 m.entries
        rw [List.foldl_cons, List.length_cons]
        omega

theorem insertEntry_of_greater (k : κ) (v : ν) (l : List (κ × ν)) (h : ∀ e ∈ l, e.1 < k) :
    insertEntry k v l = l ++ [(k, v)] := by
  induction l with
  | nil =>
      rfl
  | cons e l ih =>
      have hlt := h e List.mem_cons_self
      rw [insertEntry, if_neg (not_lt.mpr hlt.le), if_neg (ne_of_gt hlt),
        ih (fun x hx => h x (List.mem_cons_of_mem _ hx))]
      rfl

/-- Inserting ascending entries above all present ones appends them. -/
theorem foldl_insert_entries (l : List (κ × ν)) (m : SortedMap κ ν)
    (hl : (l.map Prod.fst).Pairwise (· < ·))
    (habove : ∀ x ∈ m.entries, ∀ y ∈ l, x.1 < y.1) :
    (l.foldl (fun m e => m.insert e.1 e.2) m).entries = m.entries ++ l := by
  induction l generalizing m with
  | nil =>
      simp
  | cons e l ih =>
      rw [List.map_cons, List.pairwise_cons] at hl
      have hentries : (m.insert e.1 e.2).entries = m.entries ++ [e] :=
        insertEntry_of_greater e.1 e.2 m.entries
          (fun x hx => habove x hx e List.mem_cons_self)
      rw [List.foldl_cons, ih (m.insert e.1 e.2) hl.2, hentries, List.append_assoc]
      · rfl
      · intro x hx y hy
        rw [hentries] at hx
        rcases List.mem_append.mp hx with hx | hx
        · exact habove x hx y (List.mem_cons_of_mem _ hy)
        · rw [List.mem_singleton.mp hx]
          exact hl.1 y.1 (List.mem_map_of_mem hy)

theorem keys_insert_of_greater (m : SortedMap κ ν) (k : κ) (v : ν) (h : ∀ x ∈ m.keys, x < k) :
    (m.insert k v).keys = m.keys ++ [k] := by
  have hentries : (m.insert k v).entries = m.entries ++ [(k, v)] :=
    insertEntry_of_greater k v m.entries (fun e he => h e.1 (List.mem_map_of_mem he))
  rw [keys, hentries, List.map_append]
  rfl

/-- What is left without the first entry was there before. -/
theorem get?_of_popFirst {m : SortedMap κ ν} {k : κ} {v : ν} (h : m.popFirst.get? k = some v) :
    m.get? k = some v := by
  rw [get?_eq_some_iff] at h ⊢
  exact List.mem_of_mem_tail h

theorem keys_popFirst (m : SortedMap κ ν) : m.popFirst.keys = m.keys.tail := by
  rw [keys, keys, ← List.map_tail]
  rfl

theorem keys_erase (m : SortedMap κ ν) (k : κ) :
    (m.erase k).keys = m.keys.filter (· ≠ k) := by
  rw [keys, keys, List.filter_map, erase, filter]
  congr 1
  apply List.filter_congr
  simp

/-- A map is rebuilt from its entries. -/
theorem ofEntries_entries (m : SortedMap κ ν) : ofEntries m.entries = m := by
  have h := foldl_insert_entries m.entries empty m.sorted
    (fun x hx => absurd hx List.not_mem_nil)
  obtain ⟨entries, sorted⟩ := m
  rw [SortedMap.mk.injEq]
  exact h

end Rebuilding

end SortedMap

end Soundwave

import Soundwave.MeasuredLists
import Soundwave.TransitionRuns

/-!
# The field for the profile name

`NameInput` of `windows-server/src/ui/name_input.rs`: a text of at most 80 characters,
the selected range and the range that an input method has marked.  Texts are lists of
characters, and the ranges are in the bytes of UTF-8; an input method counts in units
of UTF-16.  Where the program would panic, a function here has no result.

`usize` has 64 bits.  The sum of two of them wraps around, or panics if the build has
overflow checks.  Such sums of numbers that an input method chose occur in one place,
`replace_and_mark_text_in_range`; all others are offsets into the text.

The layout of the line and the mouse are not modelled.
-/

namespace Soundwave

section Model

/-- `len_utf16`. -/
def lenUtf16 (c : Char) : Nat :=
  if c.toNat < 0x10000 then 1 else 2

/-- `is_control`. -/
def isControl (c : Char) : Bool :=
  c.toNat < 0x20 || (0x7F ≤ c.toNat && c.toNat ≤ 0x9F)

/-- `a + b` for `usize`, in a build with or without overflow checks. -/
def usizeAdd (checked : Bool) (a b : Nat) : Option Nat :=
  if a + b < 2 ^ 64 then some (a + b) else if checked then none else some ((a + b) % 2 ^ 64)

/-- A range of `usize` whose start does not exceed its end. -/
structure Utf16Range where
  start : Nat
  stop : Nat
  ordered : start ≤ stop
  bounded : stop < 2 ^ 64
deriving DecidableEq

/-- `NameInput`. -/
structure NameInput where
  text : List Char
  selection : Span
  marked : Option Span
deriving DecidableEq

namespace NameInput

/-- `set`. -/
def set (_input : NameInput) (text : List Char) : NameInput where
  text := text
  selection := ⟨extent Char.utf8Size text, extent Char.utf8Size text⟩
  marked := none

/-- `new`. -/
def new : NameInput where
  text := []
  selection := ⟨0, 0⟩
  marked := none

/-- The loop of `utf8` over `char_indices`. -/
def utf8From (offset : Nat) : Nat → Nat → List Char → Nat
  | _, index, [] => index
  | units, index, c :: rest =>
      if offset ≤ units then
        index
      else
        utf8From offset (units + lenUtf16 c) (index + c.utf8Size) rest

/-- `utf8`. -/
def utf8 (input : NameInput) (offset : Nat) : Nat :=
  utf8From offset 0 0 input.text

/-- `bytes`. -/
def bytes (input : NameInput) (range : Span) : Span where
  start := input.utf8 range.start
  stop := input.utf8 range.stop

/-- `text[..offset]` and `text[offset..]`. -/
def splitAt (input : NameInput) (offset : Nat) : Option (List Char × List Char) :=
  cut Char.utf8Size input.text offset

/-- `units`. -/
def units (input : NameInput) (range : Span) : Option Span := do
  let (front, _) ← input.splitAt range.start
  let (back, _) ← input.splitAt range.stop
  some ⟨extent lenUtf16 front, extent lenUtf16 back⟩

/-- `text_for_range`: the text, and the range that it has. -/
def textForRange (input : NameInput) (range : Utf16Range) : Option (Span × List Char) := do
  let range := input.bytes ⟨range.start, range.stop⟩
  let actual ← input.units range
  let text ← slice Char.utf8Size input.text range
  some (actual, text)

/-- `selected_text_range`. -/
def selectedTextRange (input : NameInput) : Option Span :=
  input.units input.selection

/-- `marked_text_range`. -/
def markedTextRange (input : NameInput) : Option (Option Span) :=
  match input.marked with
  | none => some none
  | some range => (input.units range).map some

/-- `unmark_text`. -/
def unmarkText (input : NameInput) : NameInput :=
  { input with marked := none }

/-- The range that a text replaces: the given one, the marked one, or the selection. -/
def target (input : NameInput) (range : Option Utf16Range) : Span :=
  ((range.map (fun range => input.bytes ⟨range.start, range.stop⟩)).or input.marked).getD
    input.selection

/-- `replace_text_in_range`. -/
def replaceTextInRange (input : NameInput) (range : Option Utf16Range) (text : List Char) :
    Option NameInput := do
  let range := input.target range
  let text := text.filter (fun c => !isControl c)
  let (front, _) ← input.splitAt range.start
  let (_, back) ← input.splitAt range.stop
  if 80 < front.length + text.length + back.length then
    some input
  else do
    let replaced ← replaceRange Char.utf8Size input.text range text
    let offset := range.start + extent Char.utf8Size text
    some
      { text := replaced
        selection := ⟨offset, offset⟩
        marked := none }

/-- `replace_and_mark_text_in_range`. -/
def replaceAndMarkTextInRange (checked : Bool) (input : NameInput) (range : Option Utf16Range)
    (text : List Char) (selected : Option Utf16Range) : Option NameInput := do
  let start := (input.target range).start
  let input ← input.replaceTextInRange range text
  let stop := input.selection.stop
  let input := if start < stop then { input with marked := some ⟨start, stop⟩ } else input
  match selected with
  | none => some input
  | some selected => do
      let (front, _) ← input.splitAt start
      let before := extent lenUtf16 front
      let first ← usizeAdd checked before selected.start
      let last ← usizeAdd checked before selected.stop
      some { input with selection := input.bytes ⟨first, last⟩ }

/-- `a` with control. -/
def selectAll (input : NameInput) : NameInput :=
  { input with selection := ⟨0, extent Char.utf8Size input.text⟩ }

/-- `v` with control. -/
def paste (input : NameInput) (clipboard : Option (List Char)) : Option NameInput :=
  match clipboard with
  | some text => input.replaceTextInRange none text
  | none => some input

/-- `c` with control: the text for the clipboard. -/
def copy (input : NameInput) : Option (List Char) :=
  slice Char.utf8Size input.text input.selection

/-- `backspace`. -/
def backspace (input : NameInput) : Option NameInput := do
  if input.selection.start < input.selection.stop then
    input.replaceTextInRange none []
  else do
    let stop := input.selection.stop
    let (front, _) ← input.splitAt stop
    let start := extent Char.utf8Size front.dropLast
    { input with selection := ⟨start, stop⟩ }.replaceTextInRange none []

/-- `delete`. -/
def delete (input : NameInput) : Option NameInput := do
  if input.selection.start < input.selection.stop then
    input.replaceTextInRange none []
  else do
    let stop := input.selection.stop
    let (_, rest) ← input.splitAt stop
    let stop := rest.head?.elim stop (fun c => stop + c.utf8Size)
    { input with selection := ⟨input.selection.start, stop⟩ }.replaceTextInRange none []

/-- `left`. -/
def left (input : NameInput) : Option NameInput := do
  let (front, _) ← input.splitAt input.selection.start
  let offset := extent Char.utf8Size front.dropLast
  some { input with selection := ⟨offset, offset⟩ }

/-- `right`. -/
def right (input : NameInput) : Option NameInput := do
  let stop := input.selection.stop
  let (_, rest) ← input.splitAt stop
  let offset := rest.head?.elim stop (fun c => stop + c.utf8Size)
  some { input with selection := ⟨offset, offset⟩ }

end NameInput

/-- What an input method calls, and the keys. -/
inductive InputEvent where
  | textForRange (range : Utf16Range)
  | selectedTextRange
  | markedTextRange
  | unmarkText
  | replaceTextInRange (range : Option Utf16Range) (text : List Char)
  | replaceAndMarkTextInRange (range : Option Utf16Range) (text : List Char)
      (selected : Option Utf16Range)
  | selectAll
  | copy
  | paste (clipboard : Option (List Char))
  | backspace
  | delete
  | left
  | right
  | home
  | «end»

/-- The ranges of `replace_and_mark_text_in_range` if it selects in the new text. -/
def InputEvent.marking : InputEvent → Option (Option Utf16Range × Utf16Range)
  | .replaceAndMarkTextInRange range _ (some selected) => some (range, selected)
  | _ => none

namespace NameInput

/-- An event. -/
def perform (checked : Bool) (input : NameInput) : InputEvent → Option NameInput
  | .textForRange range => (input.textForRange range).map (fun _ => input)
  | .selectedTextRange => input.selectedTextRange.map (fun _ => input)
  | .markedTextRange => input.markedTextRange.map (fun _ => input)
  | .unmarkText => some input.unmarkText
  | .replaceTextInRange range text => input.replaceTextInRange range text
  | .replaceAndMarkTextInRange range text selected =>
      input.replaceAndMarkTextInRange checked range text selected
  | .selectAll => some input.selectAll
  | .copy => input.copy.map (fun _ => input)
  | .paste clipboard => input.paste clipboard
  | .backspace => input.backspace
  | .delete => input.delete
  | .left => input.left
  | .right => input.right
  | .home => some { input with selection := ⟨0, 0⟩ }
  | .end =>
      some { input with
        selection := ⟨extent Char.utf8Size input.text, extent Char.utf8Size input.text⟩ }

/-- A step, where nothing follows a panic. -/
def step (checked : Bool) (input : Option NameInput) (e : InputEvent) : Option NameInput :=
  input.bind (fun input => input.perform checked e)

end NameInput

end Model

section Offsets

theorem lenUtf16_pos (c : Char) : 0 < lenUtf16 c := by
  rw [lenUtf16]
  split_ifs
  · exact Nat.one_pos
  · exact Nat.two_pos

namespace NameInput

theorem utf8From_eq (offset units index : Nat) (l : List Char) :
    utf8From offset units index l = index + seek lenUtf16 Char.utf8Size l (offset - units) := by
  induction l generalizing units index with
  | nil =>
      rfl
  | cons c l ih =>
      rw [utf8From, seek]
      by_cases hunits : offset ≤ units
      · rw [if_pos hunits, if_pos (Nat.sub_eq_zero_of_le hunits), Nat.add_zero]
      · rw [if_neg hunits, if_neg (by omega), ih, Nat.sub_sub, Nat.add_assoc]

variable {input : NameInput}

/-- Ordered offsets of an input method lead to a range within the text. -/
theorem bytes_within (input : NameInput) {range : Span} (h : range.start ≤ range.stop) :
    (input.bytes range).Within Char.utf8Size input.text := by
  rw [bytes, utf8, utf8, utf8From_eq, utf8From_eq]
  simp only [Nat.zero_add, Nat.sub_zero]
  exact seek_within lenUtf16 Char.utf8Size input.text h

theorem units_around {front middle rest : List Char}
    (htext : input.text = front ++ middle ++ rest) :
    input.units (Span.around Char.utf8Size front middle) =
      some (Span.around lenUtf16 front middle) := by
  rw [units, splitAt, splitAt, htext, cut_start Char.utf8Size_pos, cut_stop Char.utf8Size_pos]
  simp only [bind, Option.bind, extent_append]
  rfl

/-- **Ranges within the text survive the way to UTF-16 and back.** -/
theorem bytes_units {range : Span} (h : range.Within Char.utf8Size input.text) :
    ∃ units, input.units range = some units ∧ input.bytes units = range := by
  obtain ⟨front, middle, rest, htext, rfl⟩ := h.split Char.utf8Size_pos
  refine ⟨_, units_around htext, ?_⟩
  have hfront := seek_extent lenUtf16_pos Char.utf8Size front (middle ++ rest)
  have hback := seek_extent lenUtf16_pos Char.utf8Size (front ++ middle) rest
  rw [extent_append, extent_append] at hback
  rw [← List.append_assoc] at hfront
  rw [bytes, utf8, utf8, utf8From_eq, utf8From_eq, htext]
  simp only [Nat.zero_add, Nat.sub_zero, Span.around, hfront, hback]

theorem slice_within {range : Span} (h : range.Within Char.utf8Size input.text) :
    ∃ text, slice Char.utf8Size input.text range = some text := by
  obtain ⟨front, middle, rest, htext, rfl⟩ := h.split Char.utf8Size_pos
  rw [htext]
  exact ⟨middle, slice_around Char.utf8Size_pos front middle rest⟩

end NameInput

end Offsets

section Invariant

namespace NameInput

/-- The text is short, and both ranges are within it. -/
structure Valid (input : NameInput) : Prop where
  short : input.text.length ≤ 80
  selection : input.selection.Within Char.utf8Size input.text
  marked : ∀ range, input.marked = some range → range.Within Char.utf8Size input.text

variable {input : NameInput}

theorem set_valid (input : NameInput) {text : List Char} (h : text.length ≤ 80) :
    (input.set text).Valid := by
  refine ⟨h, ?_, fun range hrange => by cases hrange⟩
  have hcaret := Span.within_caret Char.utf8Size text []
  rw [List.append_nil] at hcaret
  exact hcaret

theorem Valid.select (h : input.Valid) {range : Span}
    (hrange : range.Within Char.utf8Size input.text) : { input with selection := range }.Valid :=
  ⟨h.short, hrange, h.marked⟩

theorem Valid.target (h : input.Valid) (range : Option Utf16Range) :
    (input.target range).Within Char.utf8Size input.text := by
  rw [NameInput.target]
  cases range with
  | some range =>
      exact input.bytes_within range.ordered
  | none =>
      cases hmarked : input.marked with
      | some range =>
          exact h.marked range hmarked
      | none =>
          exact h.selection

/-- The text after a replacement, with the caret behind what is new. -/
def replaced (front new rest : List Char) : NameInput where
  text := front ++ new ++ rest
  selection := ⟨extent Char.utf8Size (front ++ new), extent Char.utf8Size (front ++ new)⟩
  marked := none

/-- **What `replace_text_in_range` does.** -/
theorem Valid.replaceTextInRange (h : input.Valid) (range : Option Utf16Range) (text : List Char) :
    ∃ front middle rest, input.text = front ++ middle ++ rest ∧
      input.target range = Span.around Char.utf8Size front middle ∧
      input.replaceTextInRange range text =
        some (if 80 < front.length + (text.filter (fun c => !isControl c)).length + rest.length then
          input
        else
          replaced front (text.filter (fun c => !isControl c)) rest) := by
  obtain ⟨front, middle, rest, htext, htarget⟩ := (h.target range).split Char.utf8Size_pos
  refine ⟨front, middle, rest, htext, htarget, ?_⟩
  rw [NameInput.replaceTextInRange, htarget, splitAt, splitAt, htext,
    cut_start Char.utf8Size_pos, cut_stop Char.utf8Size_pos,
    replaceRange_around Char.utf8Size_pos]
  simp only [bind, Option.bind]
  split_ifs
  · rfl
  · simp only [replaced, extent_append, Span.around]

theorem replaced_valid {front new rest : List Char}
    (h : front.length + new.length + rest.length ≤ 80) : (replaced front new rest).Valid := by
  refine ⟨?_, Span.within_caret Char.utf8Size (front ++ new) rest, fun range hrange => by
    cases hrange⟩
  rw [replaced, List.length_append, List.length_append]
  exact h

/-- A replacement gives a valid field, whose text begins as before. -/
theorem Valid.replaceTextInRange_valid (h : input.Valid) (range : Option Utf16Range)
    (text : List Char) :
    ∃ front back back' next, input.text = front ++ back ∧
      (input.target range).start = extent Char.utf8Size front ∧
      input.replaceTextInRange range text = some next ∧ next.Valid ∧
      next.text = front ++ back' := by
  obtain ⟨front, middle, rest, htext, htarget, hreplaced⟩ := h.replaceTextInRange range text
  have hsplit : input.text = front ++ (middle ++ rest) := by
    rw [htext, List.append_assoc]
  have hstart : (input.target range).start = extent Char.utf8Size front := by
    rw [htarget]
    rfl
  split_ifs at hreplaced with hlong
  · exact ⟨front, _, _, input, hsplit, hstart, hreplaced, h, hsplit⟩
  · exact ⟨front, _, _, _, hsplit, hstart, hreplaced, replaced_valid (by omega),
      List.append_assoc front _ rest⟩

/-- Marking the text between a boundary and the end of the selection. -/
theorem Valid.mark (h : input.Valid) {start : Nat}
    (hstart : Boundary Char.utf8Size input.text start) :
    (if start < input.selection.stop then
      { input with marked := some ⟨start, input.selection.stop⟩ } else input).Valid := by
  split_ifs with hlt
  · refine ⟨h.short, h.selection, ?_⟩
    intro range hrange
    cases hrange
    exact ⟨hlt.le, hstart, h.selection.stop⟩
  · exact h

theorem mark_text (input : NameInput) (start : Nat) :
    (if start < input.selection.stop then
      { input with marked := some ⟨start, input.selection.stop⟩ } else input).text =
      input.text := by
  split_ifs
  · rfl
  · rfl

/-- No sum of `replace_and_mark_text_in_range` exceeds a `usize`: that of the units
before the replaced text and the end of the selected range. -/
def Fits (input : NameInput) (e : InputEvent) : Prop :=
  ∀ marking ∈ e.marking, ∀ parts ∈ input.splitAt (input.target marking.1).start,
    extent lenUtf16 parts.1 + marking.2.stop < 2 ^ 64

instance (input : NameInput) (e : InputEvent) : Decidable (input.Fits e) :=
  inferInstanceAs (Decidable (∀ marking ∈ e.marking, ∀ parts ∈ _, _))

theorem usizeAdd_of_lt {a b : Nat} (checked : Bool) (h : a + b < 2 ^ 64) :
    usizeAdd checked a b = some (a + b) := by
  rw [usizeAdd, if_pos h]

/-- **What `replace_and_mark_text_in_range` does**, after the text is in place. -/
theorem Valid.replaceAndMark (h : input.Valid) (range : Option Utf16Range) (text : List Char) :
    ∃ front back marked, input.splitAt (input.target range).start = some (front, back) ∧
      Valid marked ∧
      (∀ checked, input.replaceAndMarkTextInRange checked range text none = some marked) ∧
      ∀ checked selected, input.replaceAndMarkTextInRange checked range text (some selected) =
        (usizeAdd checked (extent lenUtf16 front) selected.start).bind (fun first =>
          (usizeAdd checked (extent lenUtf16 front) selected.stop).bind (fun last =>
            some { marked with selection := marked.bytes ⟨first, last⟩ })) := by
  obtain ⟨front, back, back', next, htext, hstart, hreplaced, hvalid, hnext⟩ :=
    h.replaceTextInRange_valid range text
  have hboundary : Boundary Char.utf8Size next.text (extent Char.utf8Size front) :=
    ⟨front, back', hnext, rfl⟩
  have hmarked := hvalid.mark hboundary
  have hmarkedText := next.mark_text (extent Char.utf8Size front)
  refine ⟨front, back, _, ?_, hmarked, ?_, ?_⟩
  · rw [splitAt, htext, hstart, cut_append Char.utf8Size_pos]
  · intro checked
    rw [NameInput.replaceAndMarkTextInRange, hreplaced, hstart]
    rfl
  · intro checked selected
    rw [NameInput.replaceAndMarkTextInRange, hreplaced, hstart]
    simp only [bind, Option.bind]
    generalize (if extent Char.utf8Size front < next.selection.stop then
      { next with marked := some ⟨extent Char.utf8Size front, next.selection.stop⟩ }
      else next) = marked at hmarkedText
    have hcut : marked.splitAt (extent Char.utf8Size front) = some (front, back') := by
      rw [splitAt, hmarkedText, hnext, cut_append Char.utf8Size_pos]
    simp only [hcut]

theorem Valid.replaceAndMark_valid (h : input.Valid) (checked : Bool) (range : Option Utf16Range)
    (text : List Char) (selected : Option Utf16Range)
    (hfits : input.Fits (.replaceAndMarkTextInRange range text selected)) :
    ∃ next, input.replaceAndMarkTextInRange checked range text selected = some next ∧
      next.Valid := by
  obtain ⟨front, back, marked, hsplit, hmarked, hnone, hsome⟩ := h.replaceAndMark range text
  cases selected with
  | none =>
      exact ⟨marked, hnone checked, hmarked⟩
  | some selected =>
      have hordered := Nat.add_le_add_left selected.ordered (extent lenUtf16 front)
      have hrange : (marked.bytes ⟨extent lenUtf16 front + selected.start,
          extent lenUtf16 front + selected.stop⟩).Within Char.utf8Size marked.text :=
        marked.bytes_within hordered
      have hstop : extent lenUtf16 front + selected.stop < 2 ^ 64 :=
        hfits (range, selected) rfl (front, back) hsplit
      have hstart := lt_of_le_of_lt hordered hstop
      refine ⟨_, ?_, hmarked.select hrange⟩
      rw [hsome, usizeAdd_of_lt checked hstart, usizeAdd_of_lt checked hstop]
      rfl

theorem Valid.replace (h : input.Valid) (text : List Char) :
    ∃ next, input.replaceTextInRange none text = some next ∧ next.Valid := by
  obtain ⟨_, _, _, next, _, _, hnext, hvalid, _⟩ := h.replaceTextInRange_valid none text
  exact ⟨next, hnext, hvalid⟩

theorem Valid.backspace (h : input.Valid) :
    ∃ next, input.backspace = some next ∧ next.Valid := by
  rw [NameInput.backspace]
  split_ifs with hselected
  · exact h.replace []
  · obtain ⟨front, rest, htext, hstop, hcut⟩ := h.selection.stop.cut Char.utf8Size_pos
    obtain ⟨hboundary, hle⟩ := boundary_dropLast Char.utf8Size front rest
    rw [← htext] at hboundary
    have hrange : Span.Within Char.utf8Size input.text
        ⟨extent Char.utf8Size front.dropLast, input.selection.stop⟩ :=
      ⟨hle.trans_eq hstop.symm, hboundary, h.selection.stop⟩
    simp only [splitAt, hcut, bind, Option.bind]
    exact (h.select hrange).replace []

theorem Valid.delete (h : input.Valid) :
    ∃ next, input.delete = some next ∧ next.Valid := by
  rw [NameInput.delete]
  split_ifs with hselected
  · exact h.replace []
  · obtain ⟨front, rest, htext, hstop, hcut⟩ := h.selection.stop.cut Char.utf8Size_pos
    obtain ⟨hboundary, hle⟩ := boundary_head Char.utf8Size front rest
    rw [← htext, ← hstop] at hboundary
    rw [← hstop] at hle
    have hrange : Span.Within Char.utf8Size input.text ⟨input.selection.start,
        rest.head?.elim input.selection.stop (fun c => input.selection.stop + c.utf8Size)⟩ :=
      ⟨h.selection.ordered.trans hle, h.selection.start, hboundary⟩
    simp only [splitAt, hcut, bind, Option.bind]
    exact (h.select hrange).replace []

theorem Valid.left (h : input.Valid) : ∃ next, input.left = some next ∧ next.Valid := by
  obtain ⟨front, rest, htext, _, hcut⟩ := h.selection.start.cut Char.utf8Size_pos
  obtain ⟨hboundary, _⟩ := boundary_dropLast Char.utf8Size front rest
  rw [← htext] at hboundary
  simp only [NameInput.left, splitAt, hcut, bind, Option.bind]
  exact ⟨_, rfl, h.select ⟨Nat.le_refl _, hboundary, hboundary⟩⟩

theorem Valid.right (h : input.Valid) : ∃ next, input.right = some next ∧ next.Valid := by
  obtain ⟨front, rest, htext, hstop, hcut⟩ := h.selection.stop.cut Char.utf8Size_pos
  obtain ⟨hboundary, _⟩ := boundary_head Char.utf8Size front rest
  rw [← htext, ← hstop] at hboundary
  simp only [NameInput.right, splitAt, hcut, bind, Option.bind]
  exact ⟨_, rfl, h.select ⟨Nat.le_refl _, hboundary, hboundary⟩⟩

theorem boundary_zero (l : List Char) : Boundary Char.utf8Size l 0 :=
  ⟨[], l, rfl, rfl⟩

theorem boundary_end (l : List Char) : Boundary Char.utf8Size l (extent Char.utf8Size l) :=
  ⟨l, [], (List.append_nil l).symm, rfl⟩

/-- **Every event that fits keeps the field valid**, and does not panic. -/
theorem Valid.perform (h : input.Valid) (checked : Bool) {e : InputEvent} (hfits : input.Fits e) :
    ∃ next, input.perform checked e = some next ∧ next.Valid := by
  cases e with
  | textForRange range =>
      have hwithin : (input.bytes ⟨range.start, range.stop⟩).Within Char.utf8Size input.text :=
        input.bytes_within range.ordered
      obtain ⟨actual, hactual, _⟩ := bytes_units hwithin
      obtain ⟨text, htext⟩ := slice_within hwithin
      refine ⟨input, ?_, h⟩
      simp only [NameInput.perform, textForRange, hactual, htext, bind, Option.bind]
      rfl
  | selectedTextRange =>
      obtain ⟨units, hunits, _⟩ := bytes_units h.selection
      refine ⟨input, ?_, h⟩
      rw [NameInput.perform, selectedTextRange, hunits, Option.map_some]
  | markedTextRange =>
      refine ⟨input, ?_, h⟩
      rw [NameInput.perform, markedTextRange]
      cases hmarked : input.marked with
      | none =>
          rfl
      | some range =>
          obtain ⟨units, hunits, _⟩ := bytes_units (h.marked range hmarked)
          simp only [hunits, Option.map_some]
  | unmarkText =>
      exact ⟨_, rfl, h.short, h.selection, fun range hrange => by cases hrange⟩
  | replaceTextInRange range text =>
      obtain ⟨_, _, _, next, _, _, hnext, hvalid, _⟩ := h.replaceTextInRange_valid range text
      exact ⟨next, hnext, hvalid⟩
  | replaceAndMarkTextInRange range text selected =>
      exact h.replaceAndMark_valid checked range text selected hfits
  | selectAll =>
      exact ⟨_, rfl, h.select ⟨Nat.zero_le _, boundary_zero _, boundary_end _⟩⟩
  | copy =>
      obtain ⟨text, htext⟩ := slice_within h.selection
      refine ⟨input, ?_, h⟩
      rw [NameInput.perform, copy, htext, Option.map_some]
  | paste clipboard =>
      cases clipboard with
      | none =>
          exact ⟨input, rfl, h⟩
      | some text =>
          exact h.replace text
  | backspace =>
      exact h.backspace
  | delete =>
      exact h.delete
  | left =>
      exact h.left
  | right =>
      exact h.right
  | home =>
      exact ⟨_, rfl, h.select ⟨Nat.le_refl _, boundary_zero _, boundary_zero _⟩⟩
  | «end» =>
      exact ⟨_, rfl, h.select ⟨Nat.le_refl _, boundary_end _, boundary_end _⟩⟩

/-- **A build with overflow checks panics** at an event that does not fit. -/
theorem Valid.perform_panics (h : input.Valid) {e : InputEvent} (hfits : ¬ input.Fits e) :
    input.perform true e = none := by
  rw [Fits] at hfits
  push Not at hfits
  obtain ⟨⟨range, selected⟩, hmarking, parts, hparts, hsum⟩ := hfits
  cases e with
  | replaceAndMarkTextInRange range' text selected' =>
      cases selected' with
      | none =>
          cases hmarking
      | some selected' =>
          cases hmarking
          obtain ⟨front, back, marked, hsplit, _, _, hsome⟩ := h.replaceAndMark range text
          rw [hsplit] at hparts
          cases hparts
          have hstop : usizeAdd true (extent lenUtf16 front) selected.stop = none := by
            rw [usizeAdd, if_neg (Nat.not_lt.mpr hsum), if_pos rfl]
          rw [NameInput.perform, hsome, hstop]
          cases usizeAdd true (extent lenUtf16 front) selected.start with
          | none =>
              rfl
          | some first =>
              rfl
  | _ => cases hmarking

/-- The events fit as long as there is no panic. -/
def FitsIn (state : Option NameInput) (e : InputEvent) : Prop :=
  ∀ input ∈ state, input.Fits e

instance (state : Option NameInput) (e : InputEvent) : Decidable (FitsIn state e) :=
  inferInstanceAs (Decidable (∀ input ∈ state, input.Fits e))

/-- Nothing follows a panic. -/
theorem run_none (checked : Bool) (es : List InputEvent) : run (step checked) none es = none :=
  run_preserves (fun state => state = none) (fun state e hstate => by rw [hstate]; rfl) rfl es

/-- A valid field that fits, and then a run. -/
theorem Valid.run_fits (h : input.Valid) (checked : Bool) {es : List InputEvent}
    (hes : Along (step checked) FitsIn (some input) es) :
    ∃ last, run (step checked) (some input) es = some last ∧ last.Valid := by
  refine run_invariant (fun state => ∃ last, state = some last ∧ Valid last) ?_ ⟨input, rfl, h⟩ hes
  rintro state e ⟨last, rfl, hlast⟩ hfits
  exact hlast.perform checked (hfits last rfl)

/-- A run with overflow checks ends in a panic if an event does not fit. -/
theorem Valid.run_panics (h : input.Valid) {es : List InputEvent}
    (hes : ¬ Along (step true) FitsIn (some input) es) :
    run (step true) (some input) es = none := by
  induction es generalizing input with
  | nil =>
      exact absurd trivial hes
  | cons e es ih =>
      rw [run_cons]
      by_cases hfits : input.Fits e
      · obtain ⟨next, hnext, hvalid⟩ := h.perform true hfits
        have hstep : step true (some input) e = some next := hnext
        rw [hstep]
        apply ih hvalid
        intro hmore
        apply hes
        refine ⟨fun other hother => ?_, hstep ▸ hmore⟩
        cases hother
        exact hfits
      · have hstep : step true (some input) e = none := h.perform_panics hfits
        rw [hstep, run_none]

end NameInput

end Invariant

section Runs

namespace NameInput

/-- **The ranges of the name field stay valid** as long as no sum of offsets exceeds a
`usize`: then nothing panics, and in every state that is reached the text is short, both
ranges are within it, and every range within it survives the way to UTF-16 and back.
With overflow checks every other run panics. -/
theorem name_input_stays_valid {initial : List Char} (hinitial : initial.length ≤ 80)
    (checked : Bool) (before after : List InputEvent) :
    (Along (step checked) FitsIn (some (new.set initial)) (before ++ after) →
      ∃ input, run (step checked) (some (new.set initial)) before = some input ∧ input.Valid ∧
        ∀ range : Span, range.Within Char.utf8Size input.text →
          ∃ units, input.units range = some units ∧ input.bytes units = range) ∧
      (¬ Along (step true) FitsIn (some (new.set initial)) (before ++ after) →
        run (step true) (some (new.set initial)) (before ++ after) = none) := by
  have hvalid := new.set_valid hinitial
  refine ⟨?_, fun hes => hvalid.run_panics hes⟩
  intro hes
  obtain ⟨input, hinput, hlast⟩ :=
    hvalid.run_fits checked ((along_append (step checked) FitsIn _ before after).mp hes).1
  exact ⟨input, hinput, hlast, fun range hrange => bytes_units hrange⟩

/-- An input method marks two characters outside the basic plane and selects the second,
which the keys then delete. -/
def composing : List InputEvent :=
  [.replaceAndMarkTextInRange none ['😀', '😁'] (some ⟨2, 4, by decide, by decide⟩),
    .textForRange ⟨1, 3, by decide, by decide⟩, .unmarkText, .delete, .left, .backspace]

theorem name_input_stays_valid_composing :
    ∃ input, run (step false) (some (new.set ['房', '间'])) composing = some input ∧
      input.Valid := by
  have hfits : Along (step false) FitsIn (some (new.set ['房', '间'])) (composing ++ []) := by
    decide +kernel
  obtain ⟨input, hinput, hvalid, _⟩ :=
    (name_input_stays_valid (by decide) false composing []).1 hfits
  exact ⟨input, hinput, hvalid⟩

/-- An input method marks no text and selects up to the greatest offset. -/
def overlong : InputEvent :=
  .replaceAndMarkTextInRange none [] (some ⟨0, 2 ^ 64 - 1, by decide, by decide⟩)

/-- The end of the selection wraps around, and copying it panics; with overflow checks
the sum does. -/
theorem overlong_selection_wraps :
    (∃ input, run (step false) (some (new.set ['a', 'b'])) [overlong] = some input ∧
      ¬ input.Valid) ∧
    run (step false) (some (new.set ['a', 'b'])) [overlong, .copy] = none ∧
    run (step true) (some (new.set ['a', 'b'])) [overlong] = none := by
  refine ⟨⟨⟨['a', 'b'], ⟨2, 1⟩, none⟩, by decide +kernel, ?_⟩, by decide +kernel,
    by decide +kernel⟩
  intro hvalid
  exact absurd hvalid.selection.ordered (by decide)

end NameInput

end Runs

end Soundwave

import Mathlib.Data.List.Forall2
import Soundwave.CanonicalPairing

/-!
# The two checks of a fingerprint

The form of the app checks a fingerprint with `PairingPayload.isValidFingerprint` before it
stores it and passes it to `parse_fingerprint`.  The first drops colons, hyphens and all
white space, over the code units of UTF-16; the second drops colons, hyphens and four
characters, and looks at the bytes of UTF-8.
-/

namespace Soundwave

/-- The code units of a character in UTF-16. -/
def utf16Units (c : Char) : List UInt16 :=
  if c.toNat < 0x10000 then
    [UInt16.ofNat c.toNat]
  else
    [UInt16.ofNat (0xD800 + (c.toNat - 0x10000) / 0x400),
      UInt16.ofNat (0xDC00 + (c.toNat - 0x10000) % 0x400)]

/-- `format_fingerprint`. -/
def formatFingerprint (fingerprint : Fingerprint) : List Char :=
  [':'].intercalate (fingerprint.bytes.map hexByte)

namespace PairingPayload

/-- `Char.isWhitespace`: the white space and the space characters of Java. -/
def isWhitespace (code : Nat) : Bool :=
  (0x0009 ≤ code && code ≤ 0x000D) || (0x001C ≤ code && code ≤ 0x0020) || code = 0x00A0 ||
    code = 0x1680 || (0x2000 ≤ code && code ≤ 0x200A) || code = 0x2028 || code = 0x2029 ||
    code = 0x202F || code = 0x205F || code = 0x3000

/-- `[0-9A-Fa-f]`, for a code unit. -/
def isHexUnit (unit : UInt16) : Bool :=
  (48 ≤ unit && unit ≤ 57) || (65 ≤ unit && unit ≤ 70) || (97 ≤ unit && unit ≤ 102)

/-- `isValidFingerprint`, with `isValidCompactFingerprint` for code units. -/
def isValidFingerprint (fingerprint : List UInt16) : Bool :=
  let compact :=
    fingerprint.filter (fun unit => !(unit = 58 || unit = 45 || isWhitespace unit.toNat))
  compact.length = 64 && compact.all isHexUnit

/-- The characters that `isValidFingerprint` drops. -/
def isFormSeparator (c : Char) : Bool :=
  c = ':' || c = '-' || isWhitespace c.toNat

section Encodings

/-- An encoding that keeps hexadecimal digits apart from all other characters. -/
structure KeepsHex {β : Type} (encode : Char → List β) (isHex : β → Bool) : Prop where
  all : ∀ c, (encode c).all isHex = isHexDigit c
  single : ∀ c, isHexDigit c = true → (encode c).length = 1

/-- Sixty-four digits are counted alike in any such encoding. -/
theorem KeepsHex.sixtyFour_iff {β : Type} {encode : Char → List β} {isHex : β → Bool}
    (h : KeepsHex encode isHex) (l : List Char) :
    ((l.flatMap encode).length = 64 ∧ (l.flatMap encode).all isHex = true) ↔
      (l.length = 64 ∧ ∀ c ∈ l, isHexDigit c = true) := by
  have hall : (l.flatMap encode).all isHex = true ↔ ∀ c ∈ l, isHexDigit c = true := by
    rw [List.all_flatMap, List.all_eq_true]
    exact forall_congr' fun c => imp_congr_right fun _ => by rw [h.all c]
  have hlength : (∀ c ∈ l, isHexDigit c = true) → (l.flatMap encode).length = l.length := by
    intro hhex
    rw [List.length_flatMap, List.map_congr_left (fun c hc => h.single c (hhex c hc)),
      List.map_const', List.sum_replicate]
    simp
  rw [hall]
  exact and_congr_left fun hhex => by rw [hlength hhex]

/-- The codes of the hexadecimal digits. -/
def IsHexCode (n : Nat) : Prop :=
  (48 ≤ n ∧ n ≤ 57) ∨ (65 ≤ n ∧ n ≤ 70) ∨ (97 ≤ n ∧ n ≤ 102)

theorem isHexDigit_iff (c : Char) : isHexDigit c = true ↔ IsHexCode c.toNat := by
  have hval : c.val.toNat = c.toNat := rfl
  have hzero : ('0' : Char).val.toNat = 48 := rfl
  have hnine : ('9' : Char).val.toNat = 57 := rfl
  have hA : ('A' : Char).val.toNat = 65 := rfl
  have hF : ('F' : Char).val.toNat = 70 := rfl
  have ha : ('a' : Char).val.toNat = 97 := rfl
  have hf : ('f' : Char).val.toNat = 102 := rfl
  simp only [isHexDigit, Bool.or_eq_true, Bool.and_eq_true, decide_eq_true_eq, Char.isDigit,
    Char.le_def, UInt32.le_iff_toNat_le, IsHexCode, ge_iff_le]
  omega

theorem isHexUnit_iff (unit : UInt16) : isHexUnit unit = true ↔ IsHexCode unit.toNat := by
  simp only [isHexUnit, Bool.or_eq_true, Bool.and_eq_true, decide_eq_true_eq,
    UInt16.le_iff_toNat_le, IsHexCode, or_assoc]
  rfl

/-- A hexadecimal digit, for a byte. -/
def isHexByte (byte : UInt8) : Bool := (hexNibble byte).isSome

theorem isHexByte_iff (byte : UInt8) : isHexByte byte = true ↔ IsHexCode byte.toNat := by
  have h48 : (48 : UInt8).toNat = 48 := rfl
  have h57 : (57 : UInt8).toNat = 57 := rfl
  have h97 : (97 : UInt8).toNat = 97 := rfl
  have h102 : (102 : UInt8).toNat = 102 := rfl
  have h65 : (65 : UInt8).toNat = 65 := rfl
  have h70 : (70 : UInt8).toNat = 70 := rfl
  rw [isHexByte, hexNibble, IsHexCode]
  simp only [UInt8.le_iff_toNat_le]
  split_ifs with hdigit hlower hupper
  · exact iff_of_true rfl (.inl (by omega))
  · exact iff_of_true rfl (.inr (.inr (by omega)))
  · exact iff_of_true rfl (.inr (.inl (by omega)))
  · exact iff_of_false Bool.false_ne_true (by omega)

theorem keepsHex_utf16 : KeepsHex utf16Units isHexUnit where
  all := by
    intro c
    rw [Bool.eq_iff_iff, isHexDigit_iff]
    by_cases hbasic : c.toNat < 0x10000
    · rw [utf16Units, if_pos hbasic, List.all_cons, List.all_nil, Bool.and_true, isHexUnit_iff,
        UInt16.toNat_ofNat', Nat.mod_eq_of_lt hbasic]
    · have hsurrogate :
          isHexUnit (UInt16.ofNat (0xD800 + (c.toNat - 0x10000) / 0x400)) = false := by
        have hvalid : c.toNat < 0xD800 ∨ 0xDFFF < c.toNat ∧ c.toNat < 0x110000 := c.valid
        rw [Bool.eq_false_iff, ne_eq, isHexUnit_iff, UInt16.toNat_ofNat', IsHexCode]
        omega
      rw [utf16Units, if_neg hbasic, List.all_cons, hsurrogate, Bool.false_and, IsHexCode]
      exact iff_of_false Bool.false_ne_true (by omega)
  single := by
    intro c hc
    have hlt := toNat_of_isHexDigit hc
    rw [utf16Units, if_pos (by omega)]
    rfl

theorem utf8EncodeChar_of_lt {c : Char} (h : c.toNat < 128) :
    String.utf8EncodeChar c = [UInt8.ofNat c.toNat] := by
  have hle : c.val.toNat ≤ 0x7f := Nat.le_of_lt_succ h
  simp only [String.utf8EncodeChar, hle, if_true]
  rfl

/-- Outside of ASCII, the first byte has its highest bits set. -/
theorem utf8EncodeChar_head {c : Char} (h : 128 ≤ c.toNat) :
    ∃ byte rest, String.utf8EncodeChar c = byte :: rest ∧ 128 ≤ byte.toNat := by
  have hval : c.val.toNat = c.toNat := rfl
  rw [String.utf8EncodeChar]
  split_ifs
  · omega
  · exact ⟨_, _, rfl, by rw [UInt8.toNat_ofNat']; omega⟩
  · exact ⟨_, _, rfl, by rw [UInt8.toNat_ofNat']; omega⟩
  · exact ⟨_, _, rfl, by rw [UInt8.toNat_ofNat']; omega⟩

theorem keepsHex_utf8 : KeepsHex String.utf8EncodeChar isHexByte where
  all := by
    intro c
    rw [Bool.eq_iff_iff, isHexDigit_iff]
    by_cases hascii : c.toNat < 128
    · rw [utf8EncodeChar_of_lt hascii, List.all_cons, List.all_nil, Bool.and_true, isHexByte_iff,
        UInt8.toNat_ofNat', Nat.mod_eq_of_lt (by omega)]
    · obtain ⟨byte, rest, hencode, hhigh⟩ := utf8EncodeChar_head (Nat.not_lt.mp hascii)
      have hbyte : isHexByte byte = false := by
        rw [Bool.eq_false_iff, ne_eq, isHexByte_iff, IsHexCode]
        omega
      rw [hencode, List.all_cons, hbyte, Bool.false_and, IsHexCode]
      exact iff_of_false Bool.false_ne_true (by omega)
  single := by
    intro c hc
    rw [utf8EncodeChar_of_lt (toNat_of_isHexDigit hc)]
    rfl

end Encodings

section Checks

theorem isFormSeparator_eq (c : Char) :
    isFormSeparator c = (c.toNat = 58 || c.toNat = 45 || isWhitespace c.toNat) := by
  have hcolon : c = ':' ↔ c.toNat = 58 := Char.toNat_inj.symm
  have hhyphen : c = '-' ↔ c.toNat = 45 := Char.toNat_inj.symm
  rw [isFormSeparator, decide_eq_decide.mpr hcolon, decide_eq_decide.mpr hhyphen]

/-- A surrogate is not dropped. -/
theorem not_dropped_of_surrogate {n : Nat} (hlower : 0xD800 ≤ n) :
    (n = 58 || n = 45 || isWhitespace n) = false := by
  rw [Bool.eq_false_iff]
  simp only [isWhitespace, ne_eq, Bool.or_eq_true, Bool.and_eq_true, decide_eq_true_eq]
  omega

/-- The form keeps or drops the code units of a character together. -/
theorem filter_utf16Units (c : Char) :
    (utf16Units c).filter (fun unit => !(unit = 58 || unit = 45 || isWhitespace unit.toNat)) =
      if isFormSeparator c then [] else utf16Units c := by
  have hunit : ∀ unit : UInt16, (unit = 58 || unit = 45 || isWhitespace unit.toNat) =
      (unit.toNat = 58 || unit.toNat = 45 || isWhitespace unit.toNat) := by
    intro unit
    have hcolon : unit = 58 ↔ unit.toNat = 58 := UInt16.toNat_inj.symm
    have hhyphen : unit = 45 ↔ unit.toNat = 45 := UInt16.toNat_inj.symm
    rw [decide_eq_decide.mpr hcolon, decide_eq_decide.mpr hhyphen]
  simp only [hunit, isFormSeparator_eq]
  by_cases hbasic : c.toNat < 0x10000
  · have hsame : (UInt16.ofNat c.toNat).toNat = c.toNat := by
      rw [UInt16.toNat_ofNat', Nat.mod_eq_of_lt hbasic]
    rw [utf16Units, if_pos hbasic, List.filter_singleton, hsame]
    cases (c.toNat = 58 || c.toNat = 45 || isWhitespace c.toNat : Bool) with
    | true => rfl
    | false => rfl
  · have hvalid : c.toNat < 0xD800 ∨ 0xDFFF < c.toNat ∧ c.toNat < 0x110000 := c.valid
    have hhigh := @not_dropped_of_surrogate
      (UInt16.ofNat (0xD800 + (c.toNat - 0x10000) / 0x400)).toNat
      (by rw [UInt16.toNat_ofNat']; omega)
    have hlow := @not_dropped_of_surrogate
      (UInt16.ofNat (0xDC00 + (c.toNat - 0x10000) % 0x400)).toNat
      (by rw [UInt16.toNat_ofNat']; omega)
    rw [utf16Units, if_neg hbasic, not_dropped_of_surrogate (n := c.toNat) (by omega),
      List.filter_cons, List.filter_singleton, hhigh, hlow]
    simp only [Bool.not_false, if_true, Bool.false_eq_true, if_false, cond_true]

/-- The check of the form, by characters. -/
theorem isValidFingerprint_iff (s : List Char) :
    isValidFingerprint (s.flatMap utf16Units) = true ↔
      (s.filter (fun c => !isFormSeparator c)).length = 64 ∧
        ∀ c ∈ s.filter (fun c => !isFormSeparator c), isHexDigit c = true := by
  have hcompact : (s.flatMap utf16Units).filter
      (fun unit => !(unit = 58 || unit = 45 || isWhitespace unit.toNat)) =
        (s.filter (fun c => !isFormSeparator c)).flatMap utf16Units := by
    induction s with
    | nil => rfl
    | cons c s ih =>
        rw [List.flatMap_cons, List.filter_append, filter_utf16Units, ih, List.filter_cons]
        cases isFormSeparator c with
        | true => rfl
        | false => rfl
  rw [← keepsHex_utf16.sixtyFour_iff, ← hcompact, isValidFingerprint, Bool.and_eq_true,
    decide_eq_true_eq]

/-- The loop over the pairs succeeds on hexadecimal digits only. -/
theorem parsePairs_isSome_iff {n : Nat} {l : List UInt8} (hlength : l.length = 2 * n) :
    (∃ bytes, parsePairs l = some bytes) ↔ l.all isHexByte = true := by
  induction n generalizing l with
  | zero =>
      obtain rfl := List.length_eq_zero_iff.mp hlength
      exact iff_of_true ⟨[], rfl⟩ rfl
  | succ n ih =>
      match l, hlength with
      | high :: low :: rest, hlength =>
          have hrest : rest.length = 2 * n := by
            rw [List.length_cons, List.length_cons] at hlength
            omega
          rw [List.all_cons, List.all_cons, Bool.and_eq_true, Bool.and_eq_true, ← ih hrest,
            isHexByte, isHexByte, Option.isSome_iff_exists, Option.isSome_iff_exists, parsePairs]
          constructor
          · rintro ⟨bytes, hbytes⟩
            simp only [Option.bind_eq_bind, Option.bind_eq_some_iff] at hbytes
            obtain ⟨a, ha, b, hb, c, hc, _⟩ := hbytes
            exact ⟨⟨a, ha⟩, ⟨b, hb⟩, ⟨c, hc⟩⟩
          · rintro ⟨⟨a, ha⟩, ⟨b, hb⟩, ⟨c, hc⟩⟩
            rw [ha, hb, hc]
            exact ⟨_, rfl⟩

/-- The check of `parse_fingerprint`, by characters. -/
theorem parseFingerprint_isOk_iff (s : List Char) :
    (∃ bytes, parseFingerprint s = .ok bytes) ↔
      (s.filter (fun c => !isSeparator c)).length = 64 ∧
        ∀ c ∈ s.filter (fun c => !isSeparator c), isHexDigit c = true := by
  rw [← keepsHex_utf8.sixtyFour_iff, parseFingerprint]
  generalize (s.filter (fun c => !isSeparator c)).flatMap String.utf8EncodeChar = compact
  by_cases hlength : compact.length = 64
  · rw [if_neg (not_not.mpr hlength), ← parsePairs_isSome_iff (n := 32) hlength]
    cases parsePairs compact with
    | none => simp
    | some bytes => simp [hlength]
  · rw [if_pos hlength]
    exact iff_of_false (by rintro ⟨bytes, hbytes⟩; cases hbytes) (fun h => hlength h.1)

end Checks

section Spellings

/-- `spelled` is `text` with other letter case, and with separators inserted and removed. -/
inductive Respelled : List Char → List Char → Prop where
  | nil : Respelled [] []
  | letter {c d : Char} {text spelled : List Char} :
      c.toUpper = d.toUpper → Respelled text spelled → Respelled (c :: text) (d :: spelled)
  | remove {c : Char} {text spelled : List Char} :
      isFormSeparator c = true → Respelled text spelled → Respelled (c :: text) spelled
  | insert {d : Char} {text spelled : List Char} :
      isFormSeparator d = true → Respelled text spelled → Respelled text (d :: spelled)

/-- A property that upper case does not change is decided by the ASCII characters. -/
theorem toUpper_cases {P : Char → Prop} {c : Char} (hsame : c.toUpper = c → P c)
    (hascii : ∀ n < 128, P (Char.ofNat n)) : P c := by
  by_cases hlower : ('a' : Char).val ≤ c.val ∧ c.val ≤ ('z' : Char).val
  · have hz : ('z' : Char).val.toNat = 122 := rfl
    have hval : c.val.toNat = c.toNat := rfl
    have hlt : c.toNat < 128 := by
      rw [UInt32.le_iff_toNat_le, UInt32.le_iff_toNat_le] at hlower
      omega
    rw [← Char.ofNat_toNat c]
    exact hascii c.toNat hlt
  · exact hsame (dif_neg hlower)

/-- Letters are no separators. -/
theorem isFormSeparator_toUpper (c : Char) : isFormSeparator c.toUpper = isFormSeparator c :=
  toUpper_cases (P := fun c => isFormSeparator c.toUpper = isFormSeparator c)
    (fun hsame => congrArg isFormSeparator hsame) (by decide)

theorem Respelled.digits {text spelled : List Char} (h : Respelled text spelled) :
    (text.filter (fun c => !isFormSeparator c)).map Char.toUpper =
      (spelled.filter (fun c => !isFormSeparator c)).map Char.toUpper := by
  induction h with
  | nil => rfl
  | @letter c d text spelled hcase _ ih =>
      have hsame : isFormSeparator c = isFormSeparator d := by
        rw [← isFormSeparator_toUpper, hcase, isFormSeparator_toUpper]
      rw [List.filter_cons, List.filter_cons, hsame]
      cases isFormSeparator d with
      | true => exact ih
      | false =>
          simp only [Bool.not_false, if_true, List.map_cons]
          rw [hcase, ih]
  | remove hseparator _ ih =>
      rw [List.filter_cons, hseparator]
      exact ih
  | insert hseparator _ ih =>
      rw [List.filter_cons, hseparator]
      exact ih

theorem hexNibble_toUpper {c : Char} (h : isHexDigit c = true) :
    hexNibble (UInt8.ofNat c.toUpper.toNat) = hexNibble (UInt8.ofNat c.toNat) :=
  forall_isHexDigit
    (P := fun c => hexNibble (UInt8.ofNat c.toUpper.toNat) = hexNibble (UInt8.ofNat c.toNat))
    (by decide) h

theorem isHexDigit_of_toUpper {c : Char} (h : isHexDigit c.toUpper = true) : isHexDigit c = true :=
  toUpper_cases (P := fun c => isHexDigit c.toUpper = true → isHexDigit c = true)
    (fun hsame h => hsame ▸ h) (by decide) h

/-- The loop over the pairs reads the bytes whose digits these are, in either case. -/
theorem parsePairs_of_digits {kept : List Char} {bytes : List UInt8}
    (hhex : ∀ c ∈ kept, isHexDigit c = true)
    (h : kept.map Char.toUpper = bytes.flatMap hexByte) :
    parsePairs (kept.flatMap String.utf8EncodeChar) = some bytes := by
  induction bytes generalizing kept with
  | nil =>
      obtain rfl := List.map_eq_nil_iff.mp h
      rfl
  | cons byte bytes ih =>
      have hlt := byte.toNat_lt
      rw [List.flatMap_cons, hexByte, List.cons_append, List.cons_append, List.nil_append] at h
      obtain ⟨high, kept, rfl, hhigh, h⟩ := List.map_eq_cons_iff.mp h
      obtain ⟨low, kept, rfl, hlow, h⟩ := List.map_eq_cons_iff.mp h
      have hhexHigh := hhex high (by simp)
      have hhexLow := hhex low (by simp)
      have hfirst : hexNibble (UInt8.ofNat high.toNat) = some (UInt8.ofNat (byte.toNat / 16)) := by
        rw [← hexNibble_toUpper hhexHigh, hhigh, hexNibble_hexDigit _ (by omega)]
      have hsecond : hexNibble (UInt8.ofNat low.toNat) = some (UInt8.ofNat (byte.toNat % 16)) := by
        rw [← hexNibble_toUpper hhexLow, hlow, hexNibble_hexDigit _ (by omega)]
      have hrest := ih (fun c hc => hhex c (by simp [hc])) h
      rw [List.flatMap_cons, List.flatMap_cons,
        utf8EncodeChar_of_lt (toNat_of_isHexDigit hhexHigh),
        utf8EncodeChar_of_lt (toNat_of_isHexDigit hhexLow), List.cons_append, List.cons_append,
        List.nil_append, List.nil_append, parsePairs, hfirst, hsecond, hrest]
      simp [nibbles_join byte]

theorem isHexDigit_of_mem_hexText {fingerprint : Fingerprint} {c : Char}
    (hc : c ∈ hexText fingerprint) : isHexDigit c = true :=
  ((isValidCompactFingerprint_iff _).mp (isValidCompactFingerprint_hexText fingerprint)).2 c hc

/-- A text whose digits are those of a fingerprint is read as this fingerprint. -/
theorem parseFingerprint_of_digits {s : List Char} {fingerprint : Fingerprint}
    (h : (s.filter (fun c => !isSeparator c)).map Char.toUpper = hexText fingerprint) :
    parseFingerprint s = .ok fingerprint.bytes := by
  have hhex : ∀ c ∈ s.filter (fun c => !isSeparator c), isHexDigit c = true := by
    intro c hc
    apply isHexDigit_of_toUpper
    have hupper : c.toUpper ∈ hexText fingerprint := by
      rw [← h]
      exact List.mem_map_of_mem hc
    exact isHexDigit_of_mem_hexText hupper
  have hlength : (s.filter (fun c => !isSeparator c)).length = 64 := by
    rw [← length_hexText fingerprint, ← h, List.length_map]
  have hbytes := ((keepsHex_utf8.sixtyFour_iff _).mpr ⟨hlength, hhex⟩).1
  rw [parseFingerprint, hbytes, parsePairs_of_digits hhex h]
  rfl

end Spellings

section Agreement

/-- Sixty-four digits, and what the form drops. -/
def SixtyFourDigits (s : List Char) : Prop :=
  s.countP isHexDigit = 64 ∧ ∀ c ∈ s, isHexDigit c = true ∨ isFormSeparator c = true

/-- White space other than the blank, the tab, the carriage return and the line feed. -/
def HasOtherWhitespace (s : List Char) : Prop :=
  ∃ c ∈ s, isWhitespace c.toNat = true ∧ isSeparator c = false

/-- If the digits are no separators, then a text keeps sixty-four digits exactly if it has
as many and everything else is dropped. -/
theorem kept_iff {separator : Char → Bool}
    (hdigit : ∀ c, isHexDigit c = true → separator c = false) (s : List Char) :
    ((s.filter (fun c => !separator c)).length = 64 ∧
        ∀ c ∈ s.filter (fun c => !separator c), isHexDigit c = true) ↔
      (s.countP isHexDigit = 64 ∧ ∀ c ∈ s, isHexDigit c = true ∨ separator c = true) := by
  have hall : (∀ c ∈ s.filter (fun c => !separator c), isHexDigit c = true) ↔
      ∀ c ∈ s, isHexDigit c = true ∨ separator c = true := by
    constructor
    · intro h c hc
      cases hseparator : separator c with
      | true => exact .inr rfl
      | false => exact .inl (h c (List.mem_filter.mpr ⟨hc, by rw [hseparator]; rfl⟩))
    · intro h c hc
      obtain ⟨hc, hkept⟩ := List.mem_filter.mp hc
      refine (h c hc).resolve_right fun hseparator => ?_
      rw [hseparator] at hkept
      cases hkept
  rw [hall]
  refine and_congr_left fun h => ?_
  have hsame : s.filter (fun c => !separator c) = s.filter isHexDigit := by
    refine List.filter_congr fun c hc => ?_
    rcases h c hc with hhex | hseparator
    · rw [hhex, hdigit c hhex]
      rfl
    · rw [hseparator]
      cases hhex : isHexDigit c with
      | false => rfl
      | true =>
          rw [hdigit c hhex] at hseparator
          cases hseparator
  rw [hsame, List.countP_eq_length_filter]

theorem not_isFormSeparator {c : Char} (h : isHexDigit c = true) : isFormSeparator c = false :=
  forall_isHexDigit (P := fun c => isFormSeparator c = false) (by decide) h

theorem not_isSeparator {c : Char} (h : isHexDigit c = true) : isSeparator c = false :=
  forall_isHexDigit (P := fun c => isSeparator c = false) (by decide) h

/-- The form drops what `parse_fingerprint` drops, and the other white space. -/
theorem isFormSeparator_iff (c : Char) :
    isFormSeparator c = true ↔
      isSeparator c = true ∨ isWhitespace c.toNat = true ∧ isSeparator c = false := by
  cases hseparator : isSeparator c with
  | true =>
      have hdropped : isFormSeparator c = true := by
        simp only [isSeparator, Bool.or_eq_true, decide_eq_true_eq] at hseparator
        rcases hseparator with ((((rfl | rfl) | rfl) | rfl) | rfl) | rfl <;> decide
      exact iff_of_true hdropped (.inl rfl)
  | false =>
      simp only [isSeparator, Bool.or_eq_false_iff] at hseparator
      simp only [isFormSeparator, hseparator, Bool.false_or, Bool.false_eq_true, false_or, and_true]

/-- The form accepts what `parse_fingerprint` accepts, and more only by other white space. -/
theorem checks_agree_iff (s : List Char) :
    (isValidFingerprint (s.flatMap utf16Units) = true ↔ ∃ bytes, parseFingerprint s = .ok bytes) ↔
      ¬ (SixtyFourDigits s ∧ HasOtherWhitespace s) := by
  rw [isValidFingerprint_iff, parseFingerprint_isOk_iff, kept_iff (fun _ => not_isFormSeparator),
    kept_iff (fun _ => not_isSeparator)]
  constructor
  · rintro hagree ⟨hdigits, c, hc, hwhite, hkept⟩
    have hdropped := (isFormSeparator_iff c).mpr (.inr ⟨hwhite, hkept⟩)
    rcases (hagree.mp hdigits).2 c hc with hhex | hseparator
    · rw [not_isFormSeparator hhex] at hdropped
      cases hdropped
    · rw [hkept] at hseparator
      cases hseparator
  · intro hrefused
    refine and_congr_right fun hcount => ⟨fun h c hc => ?_, fun h c hc => ?_⟩
    · refine (h c hc).imp_right fun hdropped => ?_
      refine ((isFormSeparator_iff c).mp hdropped).resolve_right fun hother => ?_
      exact hrefused ⟨⟨hcount, h⟩, c, hc, hother⟩
    · exact (h c hc).imp_right fun hseparator => (isFormSeparator_iff c).mpr (.inl hseparator)

theorem filter_formatFingerprint (fingerprint : Fingerprint) :
    ((formatFingerprint fingerprint).filter (fun c => !isFormSeparator c)).map Char.toUpper =
      hexText fingerprint := by
  have hkept :
      (hexText fingerprint).filter (fun c => !isFormSeparator c) = hexText fingerprint := by
    rw [List.filter_eq_self]
    intro c hc
    rw [not_isFormSeparator (isHexDigit_of_mem_hexText hc)]
    rfl
  have hjoin : (fingerprint.bytes.map hexByte).flatten = hexText fingerprint := by
    rw [hexText, List.flatMap_def]
  rw [formatFingerprint, filter_intercalate (by decide), ← List.filter_flatten, hjoin, hkept,
    map_toUpper_hexText]

/-- A fingerprint in another spelling is read back exactly if the spelling has no other white
space. -/
theorem parseFingerprint_respelled_iff {fingerprint : Fingerprint} {spelled : List Char}
    (h : Respelled (formatFingerprint fingerprint) spelled) :
    parseFingerprint spelled = .ok fingerprint.bytes ↔ ¬ HasOtherWhitespace spelled := by
  constructor
  · rintro hparsed ⟨c, hc, hwhite, hkept⟩
    have hdropped := (isFormSeparator_iff c).mpr (.inr ⟨hwhite, hkept⟩)
    have hhex := ((parseFingerprint_isOk_iff spelled).mp ⟨_, hparsed⟩).2 c
      (List.mem_filter.mpr ⟨hc, by rw [hkept]; rfl⟩)
    rw [not_isFormSeparator hhex] at hdropped
    cases hdropped
  · intro hnone
    apply parseFingerprint_of_digits
    rw [← filter_formatFingerprint, h.digits]
    congr 1
    refine List.filter_congr fun c hc => ?_
    congr 1
    rw [Bool.eq_iff_iff, isFormSeparator_iff]
    exact ⟨.inl, fun hdropped => hdropped.resolve_right fun hother => hnone ⟨c, hc, hother⟩⟩

/-- **Where the two checks agree, and which spellings of a fingerprint are read back.** -/
theorem fingerprint_checks_agree_iff (s : List Char) {fingerprint : Fingerprint}
    {spelled : List Char} (h : Respelled (formatFingerprint fingerprint) spelled) :
    ((isValidFingerprint (s.flatMap utf16Units) = true ↔
          ∃ bytes, parseFingerprint s = .ok bytes) ↔
        ¬ (SixtyFourDigits s ∧ HasOtherWhitespace s)) ∧
      (parseFingerprint spelled = .ok fingerprint.bytes ↔ ¬ HasOtherWhitespace spelled) :=
  ⟨checks_agree_iff s, parseFingerprint_respelled_iff h⟩

theorem Respelled.refl (text : List Char) : Respelled text text := by
  induction text with
  | nil => exact .nil
  | cons c text ih => exact .letter rfl ih

/-- Two lines of digits that a no-break space joins. -/
def joinedLines : List Char :=
  List.replicate 32 'A' ++ Char.ofNat 0xA0 :: List.replicate 32 'A'

theorem fingerprint_checks_agree_iff_blank :
    ((isValidFingerprint (joinedLines.flatMap utf16Units) = true ↔
          ∃ bytes, parseFingerprint joinedLines = .ok bytes) ↔
        ¬ (SixtyFourDigits joinedLines ∧ HasOtherWhitespace joinedLines)) ∧
      (parseFingerprint (' ' :: formatFingerprint (constantFingerprint 0xAB)) =
          .ok (constantFingerprint 0xAB).bytes ↔
        ¬ HasOtherWhitespace (' ' :: formatFingerprint (constantFingerprint 0xAB))) :=
  fingerprint_checks_agree_iff joinedLines (.insert rfl (.refl _))

/-- The form accepts the two lines, and `parse_fingerprint` refuses them. -/
theorem joinedLines_refused :
    isValidFingerprint (joinedLines.flatMap utf16Units) = true ∧
      ¬ ∃ bytes, parseFingerprint joinedLines = .ok bytes := by
  constructor
  · rw [isValidFingerprint_iff]
    exact ⟨by decide, List.all_eq_true.mp (by decide)⟩
  · rw [parseFingerprint_isOk_iff]
    exact fun h => absurd h.1 (by decide)

end Agreement

end PairingPayload

end Soundwave

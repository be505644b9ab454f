import Mathlib.Data.List.Induction
import Soundwave.PairingUri

/-!
# Canonical pairing payloads

`PairingPayload.parse` takes the payload apart with a chain of small checks.  Together they
leave one spelling of a host and a port, and of a fingerprint only the case of its letters.
-/

namespace Soundwave

namespace PairingPayload

section Decimals

/-- A digit is `digitChar` of its value. -/
theorem digitChar_of_isDigit {c : Char} (h : c.isDigit = true) :
    c.toNat - '0'.toNat < 10 ∧ Nat.digitChar (c.toNat - '0'.toNat) = c := by
  simp only [Char.isDigit, Bool.and_eq_true, decide_eq_true_eq, UInt32.le_iff_toNat_le] at h
  have hzero : '0'.toNat = 48 := rfl
  have hlower : 48 ≤ c.toNat := h.1
  have hupper : c.toNat ≤ 57 := h.2
  have hvalue : c.toNat - '0'.toNat < 10 := by omega
  have hnat : (Nat.digitChar (c.toNat - '0'.toNat)).toNat = c.toNat := by
    rw [Nat.toNat_digitChar_of_lt_ten hvalue]
    omega
  exact ⟨hvalue, Char.toNat_inj.mp hnat⟩

/-- The value of a text without a leading zero is positive. -/
theorem ofDigitChars_pos {c : Char} {rest : List Char} (hc : c.isDigit = true) (hzero : c ≠ '0') :
    0 < Nat.ofDigitChars 10 (c :: rest) 0 := by
  obtain ⟨_, hchar⟩ := digitChar_of_isDigit hc
  have hpositive : 0 < c.toNat - '0'.toNat := by
    refine Nat.pos_of_ne_zero fun hvalue => hzero ?_
    rw [← hchar, hvalue]
    rfl
  have hpow : 0 < 10 ^ rest.length := Nat.pow_pos (by decide)
  rw [Nat.ofDigitChars_cons, Nat.ofDigitChars_eq_ofDigitChars_zero, Nat.mul_zero, Nat.zero_add]
  exact Nat.add_pos_left (Nat.mul_pos hpow hpositive) _

/-- A text of digits without a leading zero is the decimal of its value. -/
theorem toDigits_ofDigitChars {l : List Char} (hne : l ≠ []) (hdigits : ∀ c ∈ l, c.isDigit = true)
    (hzero : l.length = 1 ∨ ['0'].isPrefixOf l = false) :
    Nat.toDigits 10 (Nat.ofDigitChars 10 l 0) = l := by
  induction l using List.reverseRecOn with
  | nil => exact absurd rfl hne
  | append_singleton l c ih =>
      obtain ⟨hvalue, hchar⟩ :=
        digitChar_of_isDigit (hdigits c (List.mem_append_right _ (List.mem_singleton_self c)))
      have hlast : ∀ start, Nat.ofDigitChars 10 [c] start = 10 * start + (c.toNat - '0'.toNat) := by
        intro start
        rw [Nat.ofDigitChars_cons, Nat.ofDigitChars_nil]
      rw [Nat.ofDigitChars_append, hlast]
      cases l with
      | nil =>
          rw [Nat.ofDigitChars_nil, Nat.mul_zero, Nat.zero_add, Nat.toDigits_of_lt_base hvalue,
            hchar]
          rfl
      | cons first rest =>
          have hfirst : first ≠ '0' := by
            rintro rfl
            rcases hzero with hlength | hinitial
            · simp at hlength
            · simp [List.isPrefixOf] at hinitial
          have hpositive : 0 < Nat.ofDigitChars 10 (first :: rest) 0 :=
            ofDigitChars_pos (hdigits first (by simp)) hfirst
          have hrest : Nat.toDigits 10 (Nat.ofDigitChars 10 (first :: rest) 0) = first :: rest := by
            refine ih (List.cons_ne_nil _ _)
              (fun d hd => hdigits d (List.mem_append_left _ hd)) (.inr ?_)
            simp [List.isPrefixOf, hfirst.symm]
          rw [← Nat.toDigits_append_toDigits (by decide) hpositive hvalue, hrest,
            Nat.toDigits_of_lt_base hvalue, hchar]

/-- `toIntOrNull` of digits. -/
theorem toIntOrNull_of_digits {l : List Char} {n : Int} (hdigits : ∀ c ∈ l, c.isDigit = true)
    (h : toIntOrNull l = some n) : n = Nat.ofDigitChars 10 l 0 := by
  have hfirst : ∀ c rest, c.isDigit = false → l ≠ c :: rest := by
    rintro c rest hc rfl
    rw [hdigits c List.mem_cons_self] at hc
    cases hc
  rw [toIntOrNull] at h
  · simp only [Bool.false_eq_true, if_false] at h
    split_ifs at h
    exact (Option.some.inj h).symm
  · exact fun rest => hfirst '-' rest (by decide)
  · exact fun rest => hfirst '+' rest (by decide)

end Decimals

section Fields

/-- What `octetValue` accepts is the decimal of a byte. -/
theorem octetValue_eq_some {octet : List Char} {value : Int} (h : octetValue octet = some value) :
    ∃ byte : UInt8, octet = Nat.toDigits 10 byte.toNat := by
  rw [octetValue] at h
  split_ifs at h with hrefused
  simp only [Bool.or_eq_true, not_or, Bool.not_eq_true, Bool.and_eq_false_iff,
    decide_eq_false_iff_not, List.any_eq_false, List.isEmpty_eq_false_iff] at hrefused
  obtain ⟨⟨⟨hne, _⟩, hzero⟩, hany⟩ := hrefused
  obtain ⟨hnumber, hrange⟩ := Option.filter_eq_some_iff.mp h
  have hdigits : ∀ c ∈ octet, c.isDigit = true := by
    intro c hc
    simpa using hany c hc
  have hpositive := List.length_pos_iff.mpr hne
  have hleading : octet.length = 1 ∨ ['0'].isPrefixOf octet = false :=
    hzero.imp (fun hshort => by omega) id
  have hvalue := toIntOrNull_of_digits hdigits hnumber
  simp only [Bool.and_eq_true, decide_eq_true_eq] at hrange
  have hlt : Nat.ofDigitChars 10 octet 0 < 256 := by omega
  refine ⟨UInt8.ofNat (Nat.ofDigitChars 10 octet 0), ?_⟩
  rw [UInt8.toNat_ofNat', Nat.mod_eq_of_lt hlt, toDigits_ofDigitChars hne hdigits hleading]

/-- A host that `isValidHost` accepts is the text of an address. -/
theorem isValidHost_eq_true {host : List Char} (h : isValidHost host = true) :
    ∃ address : Ipv4Addr, host = address.text := by
  rw [isValidHost] at h
  by_cases hfour : (host.splitOn '.').length ≠ 4
  · rw [if_pos hfour] at h
    cases h
  · rw [not_not] at hfour
    rw [if_neg (not_not.mpr hfour)] at h
    have hjoined := @List.intercalate_splitOn _ host _ _ '.'
    obtain ⟨first, second, third, fourth, hsplit⟩ := List.length_eq_four.mp hfour
    rw [hsplit] at h hjoined
    cases hvalues : [first, second, third, fourth].mapM octetValue with
    | none =>
        rw [hvalues] at h
        cases h
    | some values =>
        simp only [List.mapM_cons, List.mapM_nil, Option.pure_def, Option.bind_eq_bind,
          Option.bind_eq_some_iff] at hvalues
        obtain ⟨_, hfirst, _, ⟨_, hsecond, _, ⟨_, hthird, _, ⟨_, hfourth, _⟩, _⟩, _⟩, _⟩ := hvalues
        obtain ⟨a, rfl⟩ := octetValue_eq_some hfirst
        obtain ⟨b, rfl⟩ := octetValue_eq_some hsecond
        obtain ⟨c, rfl⟩ := octetValue_eq_some hthird
        obtain ⟨d, rfl⟩ := octetValue_eq_some hfourth
        exact ⟨⟨a, b, c, d⟩, hjoined.symm⟩

/-- A port that is accepted is the decimal of its value. -/
theorem isCanonicalPort_eq_true {port : List Char} {n : Int} (h : isCanonicalPort port = true)
    (hnumber : toIntOrNull port = some n) : port = Nat.toDigits 10 n.toNat := by
  simp only [isCanonicalPort, Bool.and_eq_true, Bool.not_eq_true', Bool.or_eq_true,
    decide_eq_true_eq, List.isEmpty_eq_false_iff, List.all_eq_true] at h
  obtain ⟨⟨hne, hdigits⟩, hzero⟩ := h
  rw [toIntOrNull_of_digits hdigits hnumber, Int.toNat_natCast,
    toDigits_ofDigitChars hne hdigits hzero]

theorem afterPrefix_eq_some {start text rest : List Char}
    (h : afterPrefix start text = some rest) : text = start ++ rest := by
  rw [afterPrefix] at h
  split_ifs at h with hstarts
  obtain ⟨tail, rfl⟩ := List.isPrefixOf_iff_prefix.mp hstarts
  rw [List.drop_left] at h
  rw [Option.some.inj h]

end Fields

section Payloads

/-- A hexadecimal digit of either case. -/
def isHexDigit (c : Char) : Bool :=
  c.isDigit || ('A' ≤ c && c ≤ 'F') || ('a' ≤ c && c ≤ 'f')

theorem isValidCompactFingerprint_iff (l : List Char) :
    isValidCompactFingerprint l = true ↔ l.length = 64 ∧ ∀ c ∈ l, isHexDigit c = true := by
  rw [isValidCompactFingerprint, Bool.and_eq_true, decide_eq_true_eq, List.all_eq_true]
  rfl

/-- The payload with the host and the port of `details` and with the digits `digits`. -/
def payloadOf (details : PairingDetails) (digits : List Char) : List Char :=
  "soundwave://pair/v1?host=".toList ++ details.host ++ "&port=".toList ++
    Nat.toDigits 10 details.port.toNat ++ "&fp=".toList ++ digits

/-- `payload` is the canonical payload for `details`; `digits` are those of its
fingerprint. -/
structure Canonical (payload : List Char) (details : PairingDetails) (digits : List Char) :
    Prop where
  payload : payload = payloadOf details digits
  host : ∃ address : Ipv4Addr, details.host = address.text
  port : 1 ≤ details.port ∧ details.port ≤ 65535
  length : digits.length = 64
  hex : ∀ c ∈ digits, isHexDigit c = true
  fingerprint : digits.map Char.toUpper = details.fingerprint.filter (fun c => c ≠ ':')

theorem toNat_of_isHexDigit {c : Char} (h : isHexDigit c = true) : c.toNat < 128 := by
  simp only [isHexDigit, Bool.or_eq_true, Bool.and_eq_true, decide_eq_true_eq, Char.isDigit,
    Char.le_def, UInt32.le_iff_toNat_le] at h
  have hval : c.val.toNat = c.toNat := rfl
  have hnine : ('9' : Char).val.toNat = 57 := rfl
  have hF : ('F' : Char).val.toNat = 70 := rfl
  have hf : ('f' : Char).val.toNat = 102 := rfl
  omega

/-- A property of hexadecimal digits is decided by the ASCII characters. -/
theorem forall_isHexDigit {P : Char → Prop}
    (h : ∀ n < 128, isHexDigit (Char.ofNat n) = true → P (Char.ofNat n)) {c : Char}
    (hc : isHexDigit c = true) : P c := by
  have hsame : Char.ofNat c.toNat = c := Char.ofNat_toNat c
  rw [← hsame] at hc ⊢
  exact h c.toNat (toNat_of_isHexDigit (hsame ▸ hc)) hc

theorem toUpper_ne_colon {c : Char} (h : isHexDigit c = true) : c.toUpper ≠ ':' :=
  forall_isHexDigit (P := fun c => c.toUpper ≠ ':') (by decide) h

/-- Without the colons, `joinToString` gives the digits back. -/
theorem filter_chunks {digits : List Char} (hlength : digits.length = 64)
    (hhex : ∀ c ∈ digits, isHexDigit c = true) :
    ([':'].intercalate (chunks 2 (digits.map Char.toUpper))).filter (fun c => c ≠ ':') =
      digits.map Char.toUpper := by
  have hsize : (digits.map Char.toUpper).length = 32 * 2 := by
    rw [List.length_map, hlength]
  obtain ⟨hflatten, _⟩ := Packetizer.chunks_of_length (by decide) hsize
  have hkept : (digits.map Char.toUpper).filter (fun c => c ≠ ':') = digits.map Char.toUpper := by
    rw [List.filter_eq_self]
    intro c hc
    obtain ⟨d, hd, rfl⟩ := List.mem_map.mp hc
    exact decide_eq_true (toUpper_ne_colon (hhex d hd))
  rw [filter_intercalate (by decide), ← List.filter_flatten, hflatten, hkept]

/-- What `parse` accepts is canonical. -/
theorem parse_eq_some {payload : List Char} {details : PairingDetails}
    (h : parse payload = some details) : ∃ digits, Canonical payload details digits := by
  rw [parse] at h
  split_ifs at h
  · cases h
  rw [Option.bind_eq_bind, Option.bind_eq_some_iff] at h
  obtain ⟨query, hquery, h⟩ := h
  split_ifs at h
  · cases h
  have hjoined := @List.intercalate_splitOn _ query _ _ '&'
  split at h
  · rename_i first second third hsplit
    rw [hsplit] at hjoined
    simp only [Option.bind_eq_bind, Option.bind_eq_some_iff] at h
    obtain ⟨host, hhost, portText, hport, digits, hdigits, port, hnumber, h⟩ := h
    split_ifs at h with hvalid
    simp only [Bool.and_eq_true, decide_eq_true_eq] at hvalid
    obtain ⟨⟨⟨⟨hvalidHost, hcanonical⟩, hlower⟩, hupper⟩, hcompact⟩ := hvalid
    obtain ⟨hlength, hhex⟩ := (isValidCompactFingerprint_iff digits).mp hcompact
    obtain rfl := Option.some.inj h
    have hpayload := afterPrefix_eq_some hquery
    rw [← hjoined, afterPrefix_eq_some hhost, afterPrefix_eq_some hport,
      afterPrefix_eq_some hdigits, ← uri_parts,
      isCanonicalPort_eq_true hcanonical hnumber] at hpayload
    exact
      ⟨digits,
        { payload := hpayload
          host := isValidHost_eq_true hvalidHost
          port := ⟨hlower, hupper⟩
          length := hlength
          hex := hhex
          fingerprint := (filter_chunks hlength hhex).symm }⟩
  · cases h

/-- **Only canonical payloads are accepted**, and payloads with the same result differ in the
case of the digits of the fingerprint at most. -/
theorem parse_accepts_only_canonical {payload : List Char} {details : PairingDetails}
    (h : parse payload = some details) :
    ∃ digits, Canonical payload details digits ∧
      ∀ other, parse other = some details →
        ∃ otherDigits, Canonical other details otherDigits ∧
          otherDigits.map Char.toUpper = digits.map Char.toUpper := by
  obtain ⟨digits, hdigits⟩ := parse_eq_some h
  refine ⟨digits, hdigits, ?_⟩
  intro other hother
  obtain ⟨otherDigits, hotherDigits⟩ := parse_eq_some hother
  exact ⟨otherDigits, hotherDigits, hotherDigits.fingerprint.trans hdigits.fingerprint.symm⟩

theorem parse_accepts_only_canonical_lan :
    ∃ digits,
      Canonical (encodePairingUri ⟨192, 168, 1, 42⟩ 48400 (constantFingerprint 0xAB))
        { host := "192.168.1.42".toList
          port := 48400
          fingerprint := [':'].intercalate (List.replicate 32 "AB".toList) } digits ∧
      ∀ other,
        parse other =
            some
              { host := "192.168.1.42".toList
                port := 48400
                fingerprint := [':'].intercalate (List.replicate 32 "AB".toList) } →
          ∃ otherDigits,
            Canonical other
              { host := "192.168.1.42".toList
                port := 48400
                fingerprint := [':'].intercalate (List.replicate 32 "AB".toList) } otherDigits ∧
            otherDigits.map Char.toUpper = digits.map Char.toUpper := by
  have hvalid : isValidHost (Ipv4Addr.text ⟨192, 168, 1, 42⟩) = true := by decide
  have hport : (48400 : UInt16) ≠ 0 := by decide
  have hparsed := parse_encodePairingUri ⟨192, 168, 1, 42⟩ hport (constantFingerprint 0xAB)
  rw [if_pos hvalid] at hparsed
  exact parse_accepts_only_canonical hparsed

end Payloads

end PairingPayload

end Soundwave

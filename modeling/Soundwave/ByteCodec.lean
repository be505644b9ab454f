import Mathlib.Tactic

/-!
# Byte-level encodings

Two general tools for wire formats.

* Big-endian words of a fixed width: `beBytes` writes the low bytes of a
  number, `beValue` reads them back, and each undoes the other.
* Self-delimiting codecs.  A `Codec α` carries an encoder, a decoder that
  returns the unread bytes, the values that the layout has room for, and two
  laws: the decoder undoes the encoder for these in front of any further
  bytes, and yields nothing else.  Codecs of parts are composed by rewriting
  with the first and by taking the decoder apart for the second.
-/

namespace Soundwave

universe u

section BigEndian

/-- The `width` low bytes of a number, most significant byte first. -/
def beBytes : (width : Nat) → Nat → List UInt8
  | 0, _ => []
  | width + 1, n => beBytes width (n / 256) ++ [UInt8.ofNat (n % 256)]

/-- The number written by big-endian bytes. -/
def beValue (bytes : List UInt8) : Nat :=
  bytes.foldl (fun value byte => value * 256 + byte.toNat) 0

@[simp] theorem length_beBytes (width n : Nat) : (beBytes width n).length = width := by
  induction width generalizing n with
  | zero =>
      rfl
  | succ width ih =>
      simp [beBytes, ih]

theorem beValue_concat (bytes : List UInt8) (byte : UInt8) :
    beValue (bytes ++ [byte]) = beValue bytes * 256 + byte.toNat := by
  simp [beValue]

theorem beValue_beBytes (width n : Nat) (h : n < 256 ^ width) :
    beValue (beBytes width n) = n := by
  induction width generalizing n with
  | zero =>
      have hzero : n = 0 := by
        simpa using h
      subst hzero
      rfl
  | succ width ih =>
      have hdiv : n / 256 < 256 ^ width := by
        rw [Nat.div_lt_iff_lt_mul (by decide)]
        rw [pow_succ] at h
        exact h
      have hlow : (UInt8.ofNat (n % 256)).toNat = n % 256 := by
        rw [UInt8.toNat_ofNat']
        omega
      rw [beBytes, beValue_concat, ih (n / 256) hdiv, hlow]
      omega

end BigEndian

/-- An encoder and a decoder with its round trip: the decoder reads back a value that
is in range and leaves exactly the bytes that follow it, and yields no other values. -/
structure Codec (α : Type u) where
  encode : α → List UInt8
  decode : List UInt8 → Option (α × List UInt8)
  InRange : α → Prop
  [decidableInRange : DecidablePred InRange]
  decode_encode : ∀ (a : α) (rest : List UInt8), InRange a →
    decode (encode a ++ rest) = some (a, rest)
  inRange_of_decode : ∀ (bytes : List UInt8) (a : α) (rest : List UInt8),
    decode bytes = some (a, rest) → InRange a

namespace Codec

attribute [simp] Codec.decode_encode

instance {α : Type u} (c : Codec α) : DecidablePred c.InRange :=
  c.decidableInRange

/-- A single byte, as it is. -/
def byte : Codec UInt8 where
  encode b := [b]
  decode
    | b :: rest => some (b, rest)
    | [] => none
  InRange _ := True
  decode_encode := by
    intro b rest _
    rfl
  inRange_of_decode := fun _ _ _ _ => trivial

@[simp] theorem inRange_byte (b : UInt8) : byte.InRange b := trivial

/-- A Boolean as the byte zero or one; other bytes are refused. -/
def bool : Codec Bool where
  encode b := [if b then 1 else 0]
  decode
    | b :: rest => if b = 0 then some (false, rest) else if b = 1 then some (true, rest) else none
    | [] => none
  InRange _ := True
  decode_encode := by
    intro b rest _
    cases b <;> rfl
  inRange_of_decode := fun _ _ _ _ => trivial

@[simp] theorem inRange_bool (b : Bool) : bool.InRange b := trivial

/-- Base-128 groups, least significant first, with a continuation bit on all
but the last.  `fuel` bounds the number of groups. -/
def varintBytes : (fuel : Nat) → Nat → List UInt8
  | 0, n => [UInt8.ofNat n]
  | fuel + 1, n =>
      if n < 128 then
        [UInt8.ofNat n]
      else
        UInt8.ofNat (n % 128 + 128) :: varintBytes fuel (n / 128)

/-- A width of integers: some full base-128 groups, and the bits of a last one. -/
structure VarintWidth where
  full : Nat
  lastBits : Nat
  lastBits_le : lastBits ≤ 7

namespace VarintWidth

/-- The bits of an integer. -/
def bits (width : VarintWidth) : Nat := 7 * width.full + width.lastBits

def u16 : VarintWidth := ⟨2, 2, by decide⟩

def u32 : VarintWidth := ⟨4, 4, by decide⟩

def u64 : VarintWidth := ⟨9, 1, by decide⟩

end VarintWidth

/-- Read base-128 groups up to the first byte without the continuation bit.  At most
`groups` bytes are read, and the last of so many has `lastBits` bits. -/
def readVarint (lastBits : Nat) : (groups : Nat) → List UInt8 → Option (Nat × List UInt8)
  | 0, _ => none
  | _ + 1, [] => none
  | groups + 1, b :: rest =>
      if b.toNat < 128 then
        if groups = 0 ∧ 2 ^ lastBits - 1 < b.toNat then none else some (b.toNat, rest)
      else
        (readVarint lastBits groups rest).map (fun p => (b.toNat - 128 + 128 * p.1, p.2))

theorem readVarint_varintBytes {lastBits : Nat} (hlast : lastBits ≤ 7) (groups fuel n : Nat)
    (hfuel : n < 128 ^ (fuel + 1)) (hn : n < 2 ^ (7 * groups + lastBits)) (rest : List UInt8) :
    readVarint lastBits (groups + 1) (varintBytes fuel n ++ rest) = some (n, rest) := by
  induction groups generalizing fuel n with
  | zero =>
      have hsmall : n < 128 :=
        Nat.lt_of_lt_of_le (by simpa using hn) (Nat.pow_le_pow_right (n := 2) (by decide) hlast)
      have hb : (UInt8.ofNat n).toNat = n := by
        rw [UInt8.toNat_ofNat']
        omega
      have hbytes : varintBytes fuel n = [UInt8.ofNat n] := by
        cases fuel with
        | zero => rfl
        | succ fuel => rw [varintBytes, if_pos hsmall]
      have hroom : ¬(0 = 0 ∧ 2 ^ lastBits - 1 < n) := by
        have hbits : n < 2 ^ lastBits := by simpa using hn
        omega
      rw [hbytes, List.singleton_append, readVarint, hb, if_pos hsmall, if_neg hroom]
  | succ groups ih =>
      by_cases hsmall : n < 128
      · have hb : (UInt8.ofNat n).toNat = n := by
          rw [UInt8.toNat_ofNat']
          omega
        have hbytes : varintBytes fuel n = [UInt8.ofNat n] := by
          cases fuel with
          | zero => rfl
          | succ fuel => rw [varintBytes, if_pos hsmall]
        rw [hbytes, List.singleton_append, readVarint, hb, if_pos hsmall,
          if_neg fun h => Nat.succ_ne_zero groups h.1]
      · cases fuel with
        | zero => exact absurd (by simpa using hfuel) hsmall
        | succ fuel =>
            have hb : (UInt8.ofNat (n % 128 + 128)).toNat = n % 128 + 128 := by
              rw [UInt8.toNat_ofNat']
              omega
            have hdiv : n / 128 < 128 ^ (fuel + 1) := by
              rw [Nat.div_lt_iff_lt_mul (by decide), ← pow_succ]
              exact hfuel
            have hrest : n / 128 < 2 ^ (7 * groups + lastBits) := by
              rw [Nat.div_lt_iff_lt_mul (by decide)]
              calc n < 2 ^ (7 * (groups + 1) + lastBits) := hn
                _ = 2 ^ (7 * groups + lastBits) * 128 := by
                  rw [show 7 * (groups + 1) + lastBits = 7 * groups + lastBits + 7 by omega,
                    Nat.pow_add]
            have hbig : ¬ n % 128 + 128 < 128 := by
              omega
            simp only [varintBytes, hsmall, if_false, List.cons_append]
            rw [readVarint, hb, if_neg hbig, ih fuel (n / 128) hdiv hrest]
            simp only [Option.map_some, Option.some.injEq, Prod.mk.injEq, and_true]
            omega

/-- What is read has the bits of the groups. -/
theorem readVarint_lt {lastBits : Nat} {groups : Nat} {bytes rest : List UInt8} {n : Nat}
    (h : readVarint lastBits (groups + 1) bytes = some (n, rest)) :
    n < 2 ^ (7 * groups + lastBits) := by
  induction groups generalizing bytes n with
  | zero =>
      cases bytes with
      | nil => cases h
      | cons b bytes =>
          rw [readVarint] at h
          split_ifs at h with hsmall hbig
          · cases h
            have hpos : 0 < 2 ^ lastBits := Nat.two_pow_pos lastBits
            rw [Nat.mul_zero, Nat.zero_add]
            omega
          · rw [readVarint] at h
            cases h
  | succ groups ih =>
      cases bytes with
      | nil => cases h
      | cons b bytes =>
          have hb := b.toNat_lt
          have hpow : 2 ^ (7 * (groups + 1) + lastBits) = 128 * 2 ^ (7 * groups + lastBits) := by
            rw [show 7 * (groups + 1) + lastBits = 7 + (7 * groups + lastBits) by omega,
              Nat.pow_add]
          rw [readVarint] at h
          by_cases hsmall : b.toNat < 128
          · rw [if_pos hsmall, if_neg fun h => Nat.succ_ne_zero groups h.1] at h
            cases h
            have hpos := Nat.two_pow_pos (7 * groups + lastBits)
            omega
          · rw [if_neg hsmall] at h
            obtain ⟨⟨m, rest'⟩, hm, heq⟩ := Option.map_eq_some_iff.mp h
            cases heq
            have hless := ih hm
            omega

/-- Natural numbers in base-128 groups; more groups or bits than the width has are
refused. -/
def varint (width : VarintWidth) : Codec Nat where
  encode n := varintBytes n n
  decode := readVarint width.lastBits (width.full + 1)
  InRange n := n < 2 ^ width.bits
  decode_encode := by
    intro n rest hn
    refine readVarint_varintBytes width.lastBits_le width.full n n ?_ hn rest
    calc n < 2 ^ n := Nat.lt_two_pow_self
      _ ≤ 128 ^ n := Nat.pow_le_pow_left (by decide) n
      _ ≤ 128 ^ (n + 1) := Nat.pow_le_pow_right (by decide) (Nat.le_succ n)
  inRange_of_decode := fun _ _ _ h => readVarint_lt h

/-- The indices of variants are in range. -/
@[simp] theorem inRange_variant {n : Nat} (h : n < 128) : (varint .u32).InRange n :=
  Nat.lt_trans h (by decide)

theorem toByteArray_toList (a : ByteArray) : a.data.toList.toByteArray = a := by
  apply ByteArray.ext
  rw [List.data_toByteArray]

theorem fromUTF8?_toByteArray (s : String) : String.fromUTF8? s.toByteArray = some s := by
  exact dif_pos s.isValidUTF8

theorem toByteArray_of_fromUTF8? {a : ByteArray} {s : String} (h : String.fromUTF8? a = some s) :
    s.toByteArray = a := by
  rw [String.fromUTF8?] at h
  split_ifs at h
  cases h
  rfl

/-- A string as its length in bytes followed by its UTF-8 bytes. -/
def utf8 : Codec String where
  encode s := (varint .u64).encode s.toByteArray.data.toList.length ++ s.toByteArray.data.toList
  decode bytes :=
    match (varint .u64).decode bytes with
    | none => none
    | some (len, rest) =>
        if len ≤ rest.length then
          (String.fromUTF8? (rest.take len).toByteArray).map (fun s => (s, rest.drop len))
        else
          none
  InRange s := (varint .u64).InRange s.toByteArray.data.toList.length
  decode_encode := by
    intro s rest hs
    rw [List.append_assoc, decode_encode _ _ _ hs]
    simp [toByteArray_toList, fromUTF8?_toByteArray]
  inRange_of_decode := by
    intro bytes s rest h
    split at h
    · cases h
    · rename_i len rest' hlen
      split_ifs at h with hroom
      obtain ⟨s', hs, heq⟩ := Option.map_eq_some_iff.mp h
      cases heq
      have hlength : s.toByteArray.data.toList.length = len := by
        rw [toByteArray_of_fromUTF8? hs, List.data_toByteArray, List.length_take,
          Nat.min_eq_left hroom]
      rw [hlength]
      exact (varint .u64).inRange_of_decode _ _ _ hlen

section Composite

variable {α β : Type}

/-- A value after another. -/
def pair (a : Codec α) (b : Codec β) : Codec (α × β) where
  encode p := a.encode p.1 ++ b.encode p.2
  decode bytes := do
    let (x, bytes) ← a.decode bytes
    let (y, bytes) ← b.decode bytes
    some ((x, y), bytes)
  InRange p := a.InRange p.1 ∧ b.InRange p.2
  decode_encode := by
    rintro p rest ⟨ha, hb⟩
    simp [ha, hb]
  inRange_of_decode := by
    intro bytes p rest h
    simp only [Option.bind_eq_bind, Option.bind_eq_some_iff, Prod.exists, Option.some.injEq,
      Prod.mk.injEq] at h
    obtain ⟨x, bytes', hx, y, bytes'', hy, rfl, rfl⟩ := h
    exact ⟨a.inRange_of_decode _ _ _ hx, b.inRange_of_decode _ _ _ hy⟩

/-- An optional value behind a byte zero or one. -/
def option (c : Codec α) : Codec (Option α) where
  encode
    | none => bool.encode false
    | some a => bool.encode true ++ c.encode a
  decode bytes := do
    let (present, bytes) ← bool.decode bytes
    if present then
      let (a, bytes) ← c.decode bytes
      some (some a, bytes)
    else
      some (none, bytes)
  InRange o := ∀ a ∈ o, c.InRange a
  decode_encode := by
    intro o rest ho
    cases o with
    | none => simp
    | some a =>
        have ha : c.InRange a := ho a rfl
        simp [ha]
  inRange_of_decode := by
    intro bytes o rest h a ha
    cases ha
    simp only [Option.bind_eq_bind, Option.bind_eq_some_iff, Prod.exists] at h
    obtain ⟨present, bytes', _, h⟩ := h
    split_ifs at h
    · simp only [Option.bind_eq_some_iff, Prod.exists, Option.some.injEq, Prod.mk.injEq] at h
      obtain ⟨a', bytes'', ha', rfl, rfl⟩ := h
      exact c.inRange_of_decode _ _ _ ha'
    · cases h

/-- Read a given number of values. -/
def decodeMany (c : Codec α) : Nat → List UInt8 → Option (List α × List UInt8)
  | 0, bytes => some ([], bytes)
  | n + 1, bytes => do
      let (a, bytes) ← c.decode bytes
      let (l, bytes) ← decodeMany c n bytes
      some (a :: l, bytes)

theorem decodeMany_flatMap (c : Codec α) {l : List α} (h : ∀ a ∈ l, c.InRange a)
    (rest : List UInt8) :
    decodeMany c l.length (l.flatMap c.encode ++ rest) = some (l, rest) := by
  induction l with
  | nil =>
      rfl
  | cons a l ih =>
      obtain ⟨ha, hl⟩ := List.forall_mem_cons.mp h
      simp [decodeMany, ha, ih hl]

theorem decodeMany_inRange (c : Codec α) {n : Nat} {bytes rest : List UInt8} {l : List α}
    (h : decodeMany c n bytes = some (l, rest)) : l.length = n ∧ ∀ a ∈ l, c.InRange a := by
  induction n generalizing bytes l with
  | zero =>
      cases h
      exact ⟨rfl, fun a ha => absurd ha List.not_mem_nil⟩
  | succ n ih =>
      simp only [decodeMany, Option.bind_eq_bind, Option.bind_eq_some_iff, Prod.exists,
        Option.some.injEq, Prod.mk.injEq] at h
      obtain ⟨a, bytes', ha, l', bytes'', hl, rfl, rfl⟩ := h
      obtain ⟨hlength, hvalues⟩ := ih hl
      exact ⟨congrArg (· + 1) hlength,
        List.forall_mem_cons.mpr ⟨c.inRange_of_decode _ _ _ ha, hvalues⟩⟩

/-- A sequence as its length followed by its values. -/
def list (c : Codec α) : Codec (List α) where
  encode l := (varint .u64).encode l.length ++ l.flatMap c.encode
  decode bytes := do
    let (n, bytes) ← (varint .u64).decode bytes
    decodeMany c n bytes
  InRange l := (varint .u64).InRange l.length ∧ ∀ a ∈ l, c.InRange a
  decode_encode := by
    rintro l rest ⟨hlength, hvalues⟩
    simp [hlength, decodeMany_flatMap c hvalues]
  inRange_of_decode := by
    intro bytes l rest h
    simp only [Option.bind_eq_bind, Option.bind_eq_some_iff, Prod.exists] at h
    obtain ⟨n, bytes', hn, h⟩ := h
    obtain ⟨hlength, hvalues⟩ := decodeMany_inRange c h
    exact ⟨hlength ▸ (varint .u64).inRange_of_decode _ _ _ hn, hvalues⟩

end Composite

end Codec

end Soundwave

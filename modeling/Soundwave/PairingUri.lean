import Mathlib.Data.List.Basic
import Mathlib.Tactic.Common
import Soundwave.Packetizer

/-!
# The pairing QR code

The URI in the QR code of the server and its parser on the phone: `pairing.rs` of
`windows-server` and of `crates/transport`, `PairingPayload.kt` of the app, and
`parse_fingerprint` in `crates/transport/src/config.rs`.

Texts are lists of characters.  The choice of an adapter when neither a pairing host nor
a specific bind address is given asks Windows and is a parameter here.

Both sides have a filter for addresses.  The server refuses single addresses and ranges
that the standard library names; the phone compares the first octet with 0, 127 and
224.  An address of `0.0.0.0/8` or `240.0.0.0/4` that is not the unspecified or the
broadcast address passes the first filter and not the second.
-/

namespace Soundwave

/-- `Ipv4Addr`. -/
structure Ipv4Addr where
  first : UInt8
  second : UInt8
  third : UInt8
  fourth : UInt8
deriving DecidableEq

namespace Ipv4Addr

/-- `is_unspecified`. -/
def isUnspecified (a : Ipv4Addr) : Bool := a = ⟨0, 0, 0, 0⟩

/-- `is_loopback`. -/
def isLoopback (a : Ipv4Addr) : Bool := a.first = 127

/-- `is_multicast`. -/
def isMulticast (a : Ipv4Addr) : Bool := 224 ≤ a.first && a.first ≤ 239

/-- `is_broadcast`. -/
def isBroadcast (a : Ipv4Addr) : Bool := a = ⟨255, 255, 255, 255⟩

/-- `is_link_local`. -/
def isLinkLocal (a : Ipv4Addr) : Bool := a.first = 169 && a.second = 254

/-- The octets as numbers. -/
def octets (a : Ipv4Addr) : List Nat :=
  [a.first.toNat, a.second.toNat, a.third.toNat, a.fourth.toNat]

/-- `to_string`. -/
def text (a : Ipv4Addr) : List Char :=
  ['.'].intercalate (a.octets.map (Nat.toDigits 10))

end Ipv4Addr

/-- `IpAddr`. -/
inductive IpAddr where
  | v4 (address : Ipv4Addr)
  | v6 (address : BitVec 128)
deriving DecidableEq

/-- `SocketAddr`. -/
structure SocketAddr where
  ip : IpAddr
  port : UInt16
deriving DecidableEq

/-- A SHA-256 fingerprint, `[u8; 32]`. -/
structure Fingerprint where
  bytes : List UInt8
  size : bytes.length = 32
deriving DecidableEq

/-- `PairingError`. -/
inductive PairingError where
  | ipv6Bind
  | unusableAddress (address : Ipv4Addr)
  | incompatibleBind (pairingHost bindHost : Ipv4Addr)
  | adapterEnumeration (status : UInt32)
  | noCandidate
  | ambiguousCandidates (addresses : List Ipv4Addr)
deriving DecidableEq

/-- `PairingInfo`. -/
structure PairingInfo where
  endpoint : SocketAddr
  uri : List Char
deriving DecidableEq

section Server

/-- A hexadecimal digit of `{:02X}`. -/
def hexDigit (n : Nat) : Char :=
  if n < 10 then Char.ofNat (48 + n) else Char.ofNat (55 + n)

/-- `{byte:02X}`. -/
def hexByte (byte : UInt8) : List Char :=
  [hexDigit (byte.toNat / 16), hexDigit (byte.toNat % 16)]

/-- `encode_pairing_uri`. -/
def encodePairingUri (host : Ipv4Addr) (port : UInt16) (fingerprint : Fingerprint) : List Char :=
  "soundwave://pair/v1?host=".toList ++ host.text ++ "&port=".toList ++
    Nat.toDigits 10 port.toNat ++ "&fp=".toList ++ fingerprint.bytes.flatMap hexByte

/-- `is_usable_pairing_address`. -/
def isUsablePairingAddress (address : Ipv4Addr) : Bool :=
  !address.isUnspecified && !address.isLoopback && !address.isMulticast &&
    !address.isBroadcast && !address.isLinkLocal

/-- `validate_pairing_host`. -/
def validatePairingHost (address : Ipv4Addr) : Except PairingError Unit :=
  if isUsablePairingAddress address then .ok () else .error (.unusableAddress address)

/-- `validate_bind_compatibility`. -/
def validateBindCompatibility (requestedBind : SocketAddr) (pairingHost : Ipv4Addr) :
    Except PairingError Unit :=
  match requestedBind.ip with
  | .v4 bindHost =>
      if bindHost.isUnspecified || bindHost = pairingHost then
        .ok ()
      else
        .error (.incompatibleBind pairingHost bindHost)
  | .v6 _ => .error .ipv6Bind

/-- `resolve_pairing_info`; `automatic` is what `select_automatic_pairing_host` returns. -/
def resolvePairingInfo (automatic : Except PairingError Ipv4Addr)
    (requestedBind actualEndpoint : SocketAddr) (pairingHost : Option Ipv4Addr)
    (fingerprint : Fingerprint) : Except PairingError PairingInfo := do
  let host ←
    match pairingHost with
    | some host => do
        validatePairingHost host
        validateBindCompatibility requestedBind host
        pure host
    | none =>
        match requestedBind.ip with
        | .v4 host =>
            if !host.isUnspecified then do
              validatePairingHost host
              pure host
            else
              automatic
        | .v6 _ => .error .ipv6Bind
  pure
    { endpoint := { ip := .v4 host, port := actualEndpoint.port }
      uri := encodePairingUri host actualEndpoint.port fingerprint }

/-- The host that the caller has asked for: the pairing host, or a specific bind address. -/
def requestedHost (requestedBind : SocketAddr) : Option Ipv4Addr → Option Ipv4Addr
  | some host => some host
  | none =>
      match requestedBind.ip with
      | .v4 host => if host.isUnspecified then none else some host
      | .v6 _ => none

/-- `hex_nibble`. -/
def hexNibble (byte : UInt8) : Option UInt8 :=
  if 48 ≤ byte ∧ byte ≤ 57 then some (byte - 48)
  else if 97 ≤ byte ∧ byte ≤ 102 then some (byte - 97 + 10)
  else if 65 ≤ byte ∧ byte ≤ 70 then some (byte - 65 + 10)
  else none

/-- The loop of `parse_fingerprint` over the pairs of digits. -/
def parsePairs : List UInt8 → Option (List UInt8)
  | high :: low :: rest => do
      let high ← hexNibble high
      let low ← hexNibble low
      let bytes ← parsePairs rest
      pure (((high <<< 4) ||| low) :: bytes)
  | _ => some []

/-- The characters that `parse_fingerprint` skips. -/
def isSeparator (c : Char) : Bool :=
  c = ':' || c = '-' || c = ' ' || c = '\t' || c = '\r' || c = '\n'

/-- `parse_fingerprint`, with the text of its error. -/
def parseFingerprint (input : List Char) : Except String (List UInt8) :=
  let compact := (input.filter (fun c => !isSeparator c)).flatMap String.utf8EncodeChar
  if compact.length ≠ 64 then
    .error ("certificate fingerprint needs 64 hexadecimal digits, got " ++
      toString compact.length)
  else
    match parsePairs compact with
    | some fingerprint => .ok fingerprint
    | none => .error "certificate fingerprint contains non-hexadecimal data"

end Server

/-- `PairingDetails`. -/
structure PairingDetails where
  host : List Char
  port : Int
  fingerprint : List Char
deriving DecidableEq

namespace PairingPayload

section Phone

/-- `toIntOrNull`, for texts of ASCII characters. -/
def toIntOrNull (text : List Char) : Option Int :=
  let (negative, digits) :=
    match text with
    | '-' :: rest => (true, rest)
    | '+' :: rest => (false, rest)
    | _ => (false, text)
  if digits ≠ [] ∧ digits.all Char.isDigit then
    let magnitude : Int := Nat.ofDigitChars 10 digits 0
    let value := if negative then -magnitude else magnitude
    if -2147483648 ≤ value ∧ value ≤ 2147483647 then some value else none
  else
    none

/-- `startsWith` and `removePrefix`. -/
def afterPrefix (start text : List Char) : Option (List Char) :=
  if start.isPrefixOf text then some (text.drop start.length) else none

/-- One octet in `isValidHost`. -/
def octetValue (octet : List Char) : Option Int :=
  if octet.isEmpty || octet.length > 3 || (octet.length > 1 && ['0'].isPrefixOf octet) ||
      octet.any (fun c => !c.isDigit) then
    none
  else
    (toIntOrNull octet).filter (fun value => 0 ≤ value && value ≤ 255)

/-- `isValidHost`. -/
def isValidHost (host : List Char) : Bool :=
  let octets := host.splitOn '.'
  if octets.length ≠ 4 then
    false
  else
    match octets.mapM octetValue with
    | some (first :: second :: _) =>
        first ≠ 0 && first ≠ 127 && first < 224 && !(first = 169 && second = 254)
    | _ => false

/-- `isCanonicalPort`. -/
def isCanonicalPort (port : List Char) : Bool :=
  !port.isEmpty && port.all Char.isDigit && (port.length = 1 || !(['0'].isPrefixOf port))

/-- `isValidCompactFingerprint`. -/
def isValidCompactFingerprint (fingerprint : List Char) : Bool :=
  fingerprint.length = 64 &&
    fingerprint.all (fun c =>
      c.isDigit || ('A' ≤ c && c ≤ 'F') || ('a' ≤ c && c ≤ 'f'))

/-- `PairingPayload.parse`. -/
def parse (payload : List Char) : Option PairingDetails := do
  if payload.length > 512 || payload.any (fun c => c.toNat < 0x21 || 0x7E < c.toNat) then
    none
  let query ← afterPrefix "soundwave://pair/v1?".toList payload
  if query.count '&' ≠ 2 then
    none
  match query.splitOn '&' with
  | [first, second, third] => do
      let host ← afterPrefix "host=".toList first
      let portText ← afterPrefix "port=".toList second
      let compact ← afterPrefix "fp=".toList third
      let port ← toIntOrNull portText
      if isValidHost host && isCanonicalPort portText && 1 ≤ port && port ≤ 65535 &&
          isValidCompactFingerprint compact then
        some
          { host := host
            port := port
            fingerprint := [':'].intercalate (chunks 2 (compact.map Char.toUpper)) }
      else
        none
  | _ => none

end Phone

section Decimals

theorem isDigit_toDigits {n : Nat} {c : Char} (h : c ∈ Nat.toDigits 10 n) : c.isDigit = true :=
  Nat.isDigit_of_mem_toDigits (by decide) (by decide) h

theorem ofDigitChars_lt {l : List Char} (h : ∀ c ∈ l, c.isDigit = true) (start : Nat) :
    Nat.ofDigitChars 10 l start < 10 ^ l.length * (start + 1) := by
  induction l generalizing start with
  | nil =>
      simp
  | cons c l ih =>
      have hdigit : c.toNat - '0'.toNat ≤ 9 := by
        have hc := h c List.mem_cons_self
        simp only [Char.isDigit, Bool.and_eq_true, decide_eq_true_eq, UInt32.le_iff_toNat_le] at hc
        have hzero : '0'.toNat = 48 := rfl
        have hupper : c.toNat ≤ 57 := hc.2
        omega
      rw [Nat.ofDigitChars_cons, List.length_cons, Nat.pow_succ]
      calc
        Nat.ofDigitChars 10 l (10 * start + (c.toNat - '0'.toNat)) <
            10 ^ l.length * (10 * start + (c.toNat - '0'.toNat) + 1) :=
          ih (fun d hd => h d (List.mem_cons_of_mem _ hd)) _
        _ ≤ 10 ^ l.length * (10 * (start + 1)) := Nat.mul_le_mul_left _ (by omega)
        _ = 10 ^ l.length * 10 * (start + 1) := (Nat.mul_assoc _ _ _).symm

/-- Decimals have no leading zero. -/
theorem toDigits_no_leading_zero {n : Nat} (h : 1 < (Nat.toDigits 10 n).length) :
    ['0'].isPrefixOf (Nat.toDigits 10 n) = false := by
  by_contra hzero
  rw [Bool.not_eq_false, List.isPrefixOf_iff_prefix] at hzero
  obtain ⟨rest, hrest⟩ := hzero
  have hlength : (Nat.toDigits 10 n).length = rest.length + 1 := by
    rw [← hrest]
    simp
  have hvalue : Nat.ofDigitChars 10 rest 0 = n := by
    have hwhole := @Nat.ofDigitChars_ten_toDigits n
    rw [← hrest, List.singleton_append, Nat.ofDigitChars_cons] at hwhole
    exact hwhole
  have hdigits : ∀ c ∈ rest, c.isDigit = true := by
    intro c hc
    apply @isDigit_toDigits n
    rw [← hrest]
    exact List.mem_append_right _ hc
  have hbound := ofDigitChars_lt hdigits 0
  rw [hvalue, Nat.zero_add, Nat.mul_one] at hbound
  have hshort := (Nat.length_toDigits_le_iff (by decide) (by omega)).mpr hbound
  omega

theorem toIntOrNull_toDigits {n : Nat} (h : n ≤ 2147483647) :
    toIntOrNull (Nat.toDigits 10 n) = some (n : Int) := by
  have hall : (Nat.toDigits 10 n).all Char.isDigit = true :=
    List.all_eq_true.mpr (fun _ hc => isDigit_toDigits hc)
  have hne : Nat.toDigits 10 n ≠ [] := Nat.toDigits_ne_nil
  have hsign : (match Nat.toDigits 10 n with
      | '-' :: rest => (true, rest)
      | '+' :: rest => (false, rest)
      | _ => (false, Nat.toDigits 10 n)) = (false, Nat.toDigits 10 n) := by
    split
    · rename_i rest heq
      have hdigit : '-'.isDigit = true := by
        apply isDigit_toDigits
        rw [heq]
        exact List.mem_cons_self
      cases hdigit
    · rename_i rest heq
      have hdigit : '+'.isDigit = true := by
        apply isDigit_toDigits
        rw [heq]
        exact List.mem_cons_self
      cases hdigit
    · rfl
  simp only [toIntOrNull, hsign, hall, hne, ne_eq, not_false_eq_true, and_self, if_true,
    Nat.ofDigitChars_ten_toDigits, Bool.false_eq_true, if_false]
  rw [if_pos]
  omega

theorem octetValue_toDigits {n : Nat} (h : n ≤ 255) :
    octetValue (Nat.toDigits 10 n) = some (n : Int) := by
  have hempty : (Nat.toDigits 10 n).isEmpty = false := by
    rw [List.isEmpty_eq_false_iff]
    exact Nat.toDigits_ne_nil
  have hlength : (Nat.toDigits 10 n).length ≤ 3 := by
    rw [Nat.length_toDigits_le_iff (by decide) (by decide)]
    omega
  have hany : (Nat.toDigits 10 n).any (fun c => !c.isDigit) = false := by
    rw [List.any_eq_false]
    intro c hc
    rw [isDigit_toDigits hc]
    decide
  have hzero : (decide ((Nat.toDigits 10 n).length > 1) &&
      ['0'].isPrefixOf (Nat.toDigits 10 n)) = false := by
    by_cases hlong : 1 < (Nat.toDigits 10 n).length
    · rw [toDigits_no_leading_zero hlong, Bool.and_false]
    · simp [hlong]
  have hfits : ¬ (Nat.toDigits 10 n).length > 3 := by omega
  rw [octetValue, hempty, hany, hzero, toIntOrNull_toDigits (by omega)]
  simp [hfits, h]

end Decimals

section Hosts

theorem not_mem_toDigits {n : Nat} {c : Char} (h : c.isDigit = false) :
    c ∉ Nat.toDigits 10 n := by
  intro hc
  rw [isDigit_toDigits hc] at h
  cases h

theorem splitOn_text (a : Ipv4Addr) :
    a.text.splitOn '.' = a.octets.map (Nat.toDigits 10) := by
  apply List.splitOn_intercalate
  · intro octet hoctet
    obtain ⟨n, _, rfl⟩ := List.mem_map.mp hoctet
    exact not_mem_toDigits (by decide)
  · simp [Ipv4Addr.octets]

/-- Which addresses the phone accepts. -/
theorem isValidHost_text (a : Ipv4Addr) :
    isValidHost a.text = true ↔
      a.first ≠ 0 ∧ a.first ≠ 127 ∧ a.first < 224 ∧ ¬ (a.first = 169 ∧ a.second = 254) := by
  have hoctet : ∀ b : UInt8, octetValue (Nat.toDigits 10 b.toNat) = some (b.toNat : Int) := by
    intro b
    have hlt := b.toNat_lt
    exact octetValue_toDigits (by omega)
  have hvalues : (a.octets.map (Nat.toDigits 10)).mapM octetValue =
      some [(a.first.toNat : Int), (a.second.toNat : Int), (a.third.toNat : Int),
        (a.fourth.toNat : Int)] := by
    simp [Ipv4Addr.octets, hoctet]
  have hlength : (a.octets.map (Nat.toDigits 10)).length = 4 := rfl
  have hcast : ∀ (b : UInt8) (n : Nat), n < 256 → ((b.toNat : Int) = n ↔ b = UInt8.ofNat n) := by
    intro b n hn
    rw [Int.ofNat_inj, ← UInt8.toNat_inj, UInt8.toNat_ofNat', Nat.mod_eq_of_lt hn]
  simp only [isValidHost, splitOn_text, hlength, ne_eq, not_true_eq_false, if_false, hvalues,
    Bool.and_eq_true, decide_eq_true_eq, Bool.not_eq_true', Bool.and_eq_false_iff,
    decide_eq_false_iff_not, and_assoc]
  rw [UInt8.lt_iff_toNat_lt]
  have h0 := hcast a.first 0 (by decide)
  have h127 := hcast a.first 127 (by decide)
  have h169 := hcast a.first 169 (by decide)
  have h254 := hcast a.second 254 (by decide)
  have hmulticast : (224 : UInt8).toNat = 224 := rfl
  rw [show (0 : UInt8) = UInt8.ofNat 0 from rfl, show (127 : UInt8) = UInt8.ofNat 127 from rfl,
    show (169 : UInt8) = UInt8.ofNat 169 from rfl, show (254 : UInt8) = UInt8.ofNat 254 from rfl,
    ← h0, ← h127, ← h169, ← h254]
  omega

end Hosts

section Uri

theorem afterPrefix_append (start rest : List Char) :
    afterPrefix start (start ++ rest) = some rest := by
  have hstarts : start.isPrefixOf (start ++ rest) = true :=
    List.isPrefixOf_iff_prefix.mpr (List.prefix_append _ _)
  rw [afterPrefix, if_pos hstarts, List.drop_left]

/-- The digits of a fingerprint. -/
def hexText (fingerprint : Fingerprint) : List Char :=
  fingerprint.bytes.flatMap hexByte

/-- The parameters of the URI. -/
def parameters (host : Ipv4Addr) (port : UInt16) (fingerprint : Fingerprint) :
    List (List Char) :=
  ["host=".toList ++ host.text, "port=".toList ++ Nat.toDigits 10 port.toNat,
    "fp=".toList ++ hexText fingerprint]

theorem intercalate_three (c : Char) (x y z : List Char) :
    [c].intercalate [x, y, z] = x ++ c :: (y ++ c :: z) := by
  simp [List.intercalate]

theorem uri_parts (host port fp : List Char) :
    "soundwave://pair/v1?host=".toList ++ host ++ "&port=".toList ++ port ++ "&fp=".toList ++ fp =
      "soundwave://pair/v1?".toList ++ ['&'].intercalate
        ["host=".toList ++ host, "port=".toList ++ port, "fp=".toList ++ fp] := by
  have hscheme : "soundwave://pair/v1?host=".toList =
      "soundwave://pair/v1?".toList ++ "host=".toList := by decide
  have hport : "&port=".toList = '&' :: "port=".toList := by decide
  have hfp : "&fp=".toList = '&' :: "fp=".toList := by decide
  rw [intercalate_three, hscheme, hport, hfp]
  simp only [List.append_assoc, List.cons_append]

theorem encodePairingUri_eq (host : Ipv4Addr) (port : UInt16) (fingerprint : Fingerprint) :
    encodePairingUri host port fingerprint =
      "soundwave://pair/v1?".toList ++ ['&'].intercalate (parameters host port fingerprint) :=
  uri_parts host.text (Nat.toDigits 10 port.toNat) (hexText fingerprint)

theorem hexDigit_hex : ∀ n < 16, (hexDigit n).toNat < 128 ∧ (hexDigit n).toUpper = hexDigit n ∧
    ((hexDigit n).isDigit || ('A' ≤ hexDigit n && hexDigit n ≤ 'F')) = true := by
  decide

theorem hexDigit_not_separator : ∀ n < 16, hexDigit n ≠ '&' ∧ isSeparator (hexDigit n) = false := by
  decide

theorem forall_mem_hexText {P : Char → Prop} (h : ∀ n < 16, P (hexDigit n))
    (fingerprint : Fingerprint) : ∀ c ∈ hexText fingerprint, P c := by
  intro c hc
  obtain ⟨byte, _, hbyte⟩ := List.mem_flatMap.mp hc
  have hlt := byte.toNat_lt
  simp only [hexByte, List.mem_cons, List.not_mem_nil, or_false] at hbyte
  rcases hbyte with rfl | rfl
  · exact h _ (by omega)
  · exact h _ (by omega)

theorem length_hexText (fingerprint : Fingerprint) : (hexText fingerprint).length = 64 := by
  have hpairs : ∀ bytes : List UInt8, (bytes.flatMap hexByte).length = 2 * bytes.length := by
    intro bytes
    induction bytes with
    | nil => rfl
    | cons byte bytes ih =>
        rw [List.flatMap_cons, List.length_append, ih, List.length_cons]
        simp only [hexByte, List.length_cons, List.length_nil]
        omega
  rw [hexText, hpairs, fingerprint.size]

/-- The characters of an address are digits and dots. -/
theorem forall_mem_text {P : Char → Prop} (hdot : P '.') (hdigit : ∀ c, c.isDigit = true → P c)
    (a : Ipv4Addr) : ∀ c ∈ a.text, P c := by
  intro c hc
  have hdigits : ∀ n : Nat, c ∈ Nat.toDigits 10 n → P c :=
    fun n hin => hdigit c (isDigit_toDigits hin)
  rw [Ipv4Addr.text, Ipv4Addr.octets] at hc
  simp only [List.map_cons, List.map_nil, List.intercalate_cons_cons, List.intercalate_singleton,
    List.mem_append, List.mem_singleton, or_assoc] at hc
  rcases hc with hc | rfl | hc | rfl | hc | rfl | hc
  · exact hdigits _ hc
  · exact hdot
  · exact hdigits _ hc
  · exact hdot
  · exact hdigits _ hc
  · exact hdot
  · exact hdigits _ hc

end Uri

section Fingerprints

theorem drop_flatMap_hexByte (bytes : List UInt8) (i : Nat) :
    (bytes.flatMap hexByte).drop (i * 2) = (bytes.drop i).flatMap hexByte := by
  induction i generalizing bytes with
  | zero => rfl
  | succ i ih =>
      cases bytes with
      | nil => simp
      | cons byte bytes =>
          have hpair : (hexByte byte).length = 2 := rfl
          rw [List.flatMap_cons, Nat.succ_mul, Nat.add_comm, ← List.drop_drop, ← hpair,
            List.drop_left, hpair, ih, List.drop_succ_cons]

theorem chunks_hexText (fingerprint : Fingerprint) :
    chunks 2 (hexText fingerprint) = fingerprint.bytes.map hexByte := by
  have hcount : ((hexText fingerprint).length + 2 - 1) / 2 = fingerprint.bytes.length := by
    rw [length_hexText, fingerprint.size]
  apply List.ext_getElem
  · simp only [chunks, List.length_map, List.length_range, hcount]
  · intro i h₁ h₂
    rw [List.length_map] at h₂
    simp only [chunks, List.getElem_map, List.getElem_range]
    rw [hexText, drop_flatMap_hexByte, List.drop_eq_getElem_cons h₂, List.flatMap_cons]
    rfl

theorem map_toUpper_hexText (fingerprint : Fingerprint) :
    (hexText fingerprint).map Char.toUpper = hexText fingerprint := by
  have hsame : ∀ c ∈ hexText fingerprint, c.toUpper = c :=
    forall_mem_hexText (fun n hn => (hexDigit_hex n hn).2.1) fingerprint
  rw [List.map_congr_left hsame, List.map_id']

theorem filter_intercalate {p : Char → Bool} {c : Char} (hc : p c = false)
    (parts : List (List Char)) :
    ([c].intercalate parts).filter p = (parts.map (List.filter p)).flatten := by
  induction parts with
  | nil => rfl
  | cons part parts ih =>
      cases parts with
      | nil => simp
      | cons next parts =>
          rw [List.intercalate_cons_cons, List.filter_append, List.filter_append, ih]
          simp [hc]

theorem utf8EncodeChar_hexDigit : ∀ n < 16,
    String.utf8EncodeChar (hexDigit n) = [UInt8.ofNat (hexDigit n).toNat] := by
  decide

theorem hexNibble_hexDigit : ∀ n < 16,
    hexNibble (UInt8.ofNat (hexDigit n).toNat) = some (UInt8.ofNat n) := by
  decide

theorem nibbles_join (byte : UInt8) :
    (UInt8.ofNat (byte.toNat / 16) <<< 4) ||| UInt8.ofNat (byte.toNat % 16) = byte := by
  have hlt := byte.toNat_lt
  have hor : 2 ^ 4 * (byte.toNat / 16) + byte.toNat % 16 =
      2 ^ 4 * (byte.toNat / 16) ||| byte.toNat % 16 :=
    Nat.two_pow_add_eq_or_of_lt (by omega) _
  have hshift : (UInt8.ofNat (byte.toNat / 16) <<< 4).toNat = 2 ^ 4 * (byte.toNat / 16) := by
    rw [UInt8.toNat_shiftLeft, UInt8.toNat_ofNat', Nat.shiftLeft_eq]
    rw [show (4 : UInt8).toNat % 8 = 4 from rfl]
    omega
  apply UInt8.toNat_inj.mp
  rw [UInt8.toNat_or, hshift, UInt8.toNat_ofNat', Nat.mod_eq_of_lt (by omega), ← hor]
  omega

theorem parsePairs_hexText (bytes : List UInt8) :
    parsePairs ((bytes.flatMap hexByte).flatMap String.utf8EncodeChar) = some bytes := by
  induction bytes with
  | nil => rfl
  | cons byte bytes ih =>
      have hlt := byte.toNat_lt
      have hhigh : byte.toNat / 16 < 16 := by omega
      have hlow : byte.toNat % 16 < 16 := by omega
      have hpair : (hexByte byte).flatMap String.utf8EncodeChar =
          [UInt8.ofNat (hexDigit (byte.toNat / 16)).toNat,
            UInt8.ofNat (hexDigit (byte.toNat % 16)).toNat] := by
        rw [hexByte, List.flatMap_cons, List.flatMap_cons, List.flatMap_nil,
          utf8EncodeChar_hexDigit _ hhigh, utf8EncodeChar_hexDigit _ hlow]
        rfl
      rw [List.flatMap_cons, List.flatMap_append, hpair, List.cons_append, List.cons_append,
        List.nil_append, parsePairs, hexNibble_hexDigit _ hhigh, hexNibble_hexDigit _ hlow, ih]
      simp [nibbles_join byte]

theorem length_utf8_hexText (fingerprint : Fingerprint) :
    ((hexText fingerprint).flatMap String.utf8EncodeChar).length = 64 := by
  have hone : ∀ c ∈ hexText fingerprint, (String.utf8EncodeChar c).length = 1 := by
    refine forall_mem_hexText (fun n hn => ?_) fingerprint
    rw [utf8EncodeChar_hexDigit n hn]
    rfl
  rw [List.length_flatMap, List.map_congr_left hone, List.map_const', List.sum_replicate,
    length_hexText]
  rfl

/-- The spelling of the phone parses back. -/
theorem parseFingerprint_chunks (fingerprint : Fingerprint) :
    parseFingerprint ([':'].intercalate (fingerprint.bytes.map hexByte)) =
      .ok fingerprint.bytes := by
  have hkept : ∀ byte ∈ fingerprint.bytes,
      (hexByte byte).filter (fun c => !isSeparator c) = hexByte byte := by
    intro byte _
    have hlt := byte.toNat_lt
    rw [List.filter_eq_self]
    intro c hc
    simp only [hexByte, List.mem_cons, List.not_mem_nil, or_false] at hc
    rcases hc with rfl | rfl
    · rw [(hexDigit_not_separator _ (by omega)).2]
      rfl
    · rw [(hexDigit_not_separator _ (by omega)).2]
      rfl
  have hcompact : ([':'].intercalate (fingerprint.bytes.map hexByte)).filter
      (fun c => !isSeparator c) = hexText fingerprint := by
    rw [filter_intercalate (by decide), List.map_map, hexText, List.flatMap_def]
    congr 1
    exact List.map_congr_left hkept
  simp only [parseFingerprint, hcompact, length_utf8_hexText, ne_eq, not_true_eq_false, if_false]
  rw [hexText, parsePairs_hexText]

end Fingerprints

section RoundTrip

theorem printable_of_isDigit {c : Char} (h : c.isDigit = true) :
    0x21 ≤ c.toNat ∧ c.toNat ≤ 0x7E := by
  simp only [Char.isDigit, Bool.and_eq_true, decide_eq_true_eq, UInt32.le_iff_toNat_le] at h
  have hlower : 48 ≤ c.toNat := h.1
  have hupper : c.toNat ≤ 57 := h.2
  omega

theorem hexDigit_printable : ∀ n < 16, 0x21 ≤ (hexDigit n).toNat ∧ (hexDigit n).toNat ≤ 0x7E := by
  decide

/-- Every character of the URI is a printable one. -/
theorem printable_uri (host : Ipv4Addr) (port : UInt16) (fingerprint : Fingerprint) :
    ∀ c ∈ encodePairingUri host port fingerprint, 0x21 ≤ c.toNat ∧ c.toNat ≤ 0x7E := by
  have hfixed : ∀ text : List Char,
      text.all (fun c => 0x21 ≤ c.toNat && c.toNat ≤ 0x7E) = true →
      ∀ c ∈ text, 0x21 ≤ c.toNat ∧ c.toNat ≤ 0x7E := by
    intro text htext c hc
    simpa using List.all_eq_true.mp htext c hc
  have hscheme := hfixed "soundwave://pair/v1?host=".toList (by decide)
  have hport := hfixed "&port=".toList (by decide)
  have hfp := hfixed "&fp=".toList (by decide)
  intro c hc
  rcases List.mem_append.mp hc with hc | hc
  · rcases List.mem_append.mp hc with hc | hc
    · rcases List.mem_append.mp hc with hc | hc
      · rcases List.mem_append.mp hc with hc | hc
        · rcases List.mem_append.mp hc with hc | hc
          · exact hscheme c hc
          · exact forall_mem_text (by decide) (fun _ => printable_of_isDigit) host c hc
        · exact hport c hc
      · exact printable_of_isDigit (isDigit_toDigits hc)
    · exact hfp c hc
  · have hhex : ∀ c ∈ hexText fingerprint, 0x21 ≤ c.toNat ∧ c.toNat ≤ 0x7E :=
      forall_mem_hexText (fun n hn => hexDigit_printable n hn) fingerprint
    exact hhex c hc

theorem length_toDigits_octet (byte : UInt8) : (Nat.toDigits 10 byte.toNat).length ≤ 3 := by
  rw [Nat.length_toDigits_le_iff (by decide) (by decide)]
  have hlt := byte.toNat_lt
  omega

theorem length_text (a : Ipv4Addr) : a.text.length ≤ 15 := by
  have hfirst := length_toDigits_octet a.first
  have hsecond := length_toDigits_octet a.second
  have hthird := length_toDigits_octet a.third
  have hfourth := length_toDigits_octet a.fourth
  rw [Ipv4Addr.text, Ipv4Addr.octets]
  simp only [List.map_cons, List.map_nil, List.intercalate_cons_cons, List.intercalate_singleton,
    List.length_append, List.length_singleton]
  omega

theorem length_uri (host : Ipv4Addr) (port : UInt16) (fingerprint : Fingerprint) :
    (encodePairingUri host port fingerprint).length ≤ 512 := by
  have hhost := length_text host
  have hport : (Nat.toDigits 10 port.toNat).length ≤ 5 := by
    rw [Nat.length_toDigits_le_iff (by decide) (by decide)]
    have hlt := port.toNat_lt
    omega
  have hhex : (fingerprint.bytes.flatMap hexByte).length = 64 := length_hexText fingerprint
  have hscheme : "soundwave://pair/v1?host=".toList.length = 25 := by decide
  have hporttext : "&port=".toList.length = 6 := by decide
  have hfptext : "&fp=".toList.length = 4 := by decide
  have hlength : (encodePairingUri host port fingerprint).length =
      25 + host.text.length + 6 + (Nat.toDigits 10 port.toNat).length + 4 + 64 := by
    rw [← hscheme, ← hporttext, ← hfptext, ← hhex, ← List.length_append, ← List.length_append,
      ← List.length_append, ← List.length_append, ← List.length_append]
    rfl
  omega

/-- No parameter contains an ampersand. -/
theorem ampersand_not_mem (host : Ipv4Addr) (port : UInt16) (fingerprint : Fingerprint) :
    ∀ part ∈ parameters host port fingerprint, '&' ∉ part := by
  have hhost : '&' ∉ host.text := by
    intro hin
    have hother : ∀ c ∈ host.text, c ≠ '&' := by
      refine forall_mem_text (by decide) ?_ host
      rintro c hdigit rfl
      cases hdigit
    exact hother '&' hin rfl
  have hport : '&' ∉ Nat.toDigits 10 port.toNat := not_mem_toDigits (by decide)
  have hfp : '&' ∉ hexText fingerprint := by
    intro hin
    have hother : ∀ c ∈ hexText fingerprint, c ≠ '&' :=
      forall_mem_hexText (fun n hn => (hexDigit_not_separator n hn).1) fingerprint
    exact hother '&' hin rfl
  have htexts : '&' ∉ "host=".toList ∧ '&' ∉ "port=".toList ∧ '&' ∉ "fp=".toList := by decide
  intro part hpart
  simp only [parameters, List.mem_cons, List.not_mem_nil, or_false] at hpart
  rcases hpart with rfl | rfl | rfl
  · exact fun hin => (List.mem_append.mp hin).elim htexts.1 hhost
  · exact fun hin => (List.mem_append.mp hin).elim htexts.2.1 hport
  · exact fun hin => (List.mem_append.mp hin).elim htexts.2.2 hfp

theorem count_intercalate {c : Char} {parts : List (List Char)} (h : ∀ part ∈ parts, c ∉ part) :
    ([c].intercalate parts).count c = parts.length - 1 := by
  induction parts with
  | nil => rfl
  | cons part parts ih =>
      have hpart : part.count c = 0 := List.count_eq_zero.mpr (h part List.mem_cons_self)
      have hrest := ih (fun other hother => h other (List.mem_cons_of_mem _ hother))
      cases parts with
      | nil => simpa using hpart
      | cons next parts =>
          rw [List.intercalate_cons_cons, List.count_append, List.count_append, hrest, hpart]
          simp only [List.count_singleton_self, List.length_cons]
          omega

theorem isCanonicalPort_toDigits (port : UInt16) :
    isCanonicalPort (Nat.toDigits 10 port.toNat) = true := by
  have hempty : (Nat.toDigits 10 port.toNat).isEmpty = false := by
    rw [List.isEmpty_eq_false_iff]
    exact Nat.toDigits_ne_nil
  have hall : (Nat.toDigits 10 port.toNat).all Char.isDigit = true :=
    List.all_eq_true.mpr (fun _ hc => isDigit_toDigits hc)
  have hpositive : 0 < (Nat.toDigits 10 port.toNat).length := Nat.length_toDigits_pos
  rw [isCanonicalPort, hempty, hall]
  by_cases hlong : 1 < (Nat.toDigits 10 port.toNat).length
  · rw [toDigits_no_leading_zero hlong]
    simp
  · have hone : (Nat.toDigits 10 port.toNat).length = 1 := by omega
    simp [hone]

theorem isValidCompactFingerprint_hexText (fingerprint : Fingerprint) :
    isValidCompactFingerprint (hexText fingerprint) = true := by
  have hhex : ∀ c ∈ hexText fingerprint,
      (c.isDigit || ('A' ≤ c && c ≤ 'F')) = true :=
    forall_mem_hexText (fun n hn => (hexDigit_hex n hn).2.2) fingerprint
  rw [isValidCompactFingerprint, length_hexText, Bool.and_eq_true]
  refine ⟨rfl, ?_⟩
  rw [List.all_eq_true]
  intro c hc
  rw [hhex c hc, Bool.true_or]

/-- **The phone reads back what the server has encoded**, if it accepts the host. -/
theorem parse_encodePairingUri (host : Ipv4Addr) {port : UInt16} (hport : port ≠ 0)
    (fingerprint : Fingerprint) :
    parse (encodePairingUri host port fingerprint) =
      if isValidHost host.text then
        some
          { host := host.text
            port := port.toNat
            fingerprint := [':'].intercalate (fingerprint.bytes.map hexByte) }
      else
        none := by
  have hlt := port.toNat_lt
  have hpositive : port.toNat ≠ 0 := fun h => hport (UInt16.toNat_inj.mp h)
  have hlength : ¬ (encodePairingUri host port fingerprint).length > 512 :=
    Nat.not_lt.mpr (length_uri host port fingerprint)
  have hprintable : (encodePairingUri host port fingerprint).any
      (fun c => decide (c.toNat < 0x21) || decide (0x7E < c.toNat)) = false := by
    rw [List.any_eq_false]
    intro c hc
    have hc' := printable_uri host port fingerprint c hc
    simp only [Bool.or_eq_true, decide_eq_true_eq]
    omega
  have hquery : afterPrefix "soundwave://pair/v1?".toList (encodePairingUri host port fingerprint) =
      some (['&'].intercalate (parameters host port fingerprint)) := by
    rw [encodePairingUri_eq]
    exact afterPrefix_append _ _
  have hparts := ampersand_not_mem host port fingerprint
  have hcount : (['&'].intercalate (parameters host port fingerprint)).count '&' = 2 :=
    count_intercalate hparts
  have hsplit : (['&'].intercalate (parameters host port fingerprint)).splitOn '&' =
      parameters host port fingerprint :=
    List.splitOn_intercalate '&' hparts (fun h => (by cases h))
  have hnumber : toIntOrNull (Nat.toDigits 10 port.toNat) = some (port.toNat : Int) :=
    toIntOrNull_toDigits (by omega)
  have hlower : (1 : Int) ≤ port.toNat := by omega
  have hupper : (port.toNat : Int) ≤ 65535 := by omega
  generalize ['&'].intercalate (parameters host port fingerprint) = query at hquery hcount hsplit
  rw [parse]
  simp only [hlength, hprintable, hquery, hcount, hsplit, decide_false, Bool.or_self,
    Bool.false_eq_true, if_false, ne_eq, not_true_eq_false, Option.bind_eq_bind,
    Option.bind_some]
  simp only [parameters, afterPrefix_append, hnumber, Option.bind_some,
    isCanonicalPort_toDigits, isValidCompactFingerprint_hexText, hlower, hupper,
    map_toUpper_hexText, chunks_hexText, decide_true, Bool.and_true]

end RoundTrip

end PairingPayload

section Pairing

/-- What the server has checked before it shows a QR code for a requested host. -/
theorem resolvePairingInfo_ok {automatic : Except PairingError Ipv4Addr}
    {requestedBind actualEndpoint : SocketAddr} {pairingHost : Option Ipv4Addr}
    {fingerprint : Fingerprint} {info : PairingInfo} {host : Ipv4Addr}
    (hresolved : resolvePairingInfo automatic requestedBind actualEndpoint pairingHost fingerprint =
      .ok info)
    (hhost : requestedHost requestedBind pairingHost = some host) :
    isUsablePairingAddress host = true ∧
      info.uri = encodePairingUri host actualEndpoint.port fingerprint := by
  have hchecked : ∀ (rest : Except PairingError PairingInfo),
      (do validatePairingHost host; rest) = .ok info →
      isUsablePairingAddress host = true ∧ rest = .ok info := by
    intro rest hrest
    rw [validatePairingHost] at hrest
    split_ifs at hrest with husable
    · exact ⟨husable, hrest⟩
    · cases hrest
  cases pairingHost with
  | some asked =>
      obtain rfl : asked = host := Option.some.inj hhost
      obtain ⟨husable, hrest⟩ := hchecked
        (do
          validateBindCompatibility requestedBind asked
          pure
            { endpoint := { ip := .v4 asked, port := actualEndpoint.port }
              uri := encodePairingUri asked actualEndpoint.port fingerprint })
        (by simpa [resolvePairingInfo] using hresolved)
      refine ⟨husable, ?_⟩
      cases hbind : validateBindCompatibility requestedBind asked with
      | error error =>
          rw [hbind] at hrest
          cases hrest
      | ok _ =>
          rw [hbind] at hrest
          cases hrest
          rfl
  | none =>
      rw [requestedHost] at hhost
      cases hip : requestedBind.ip with
      | v6 address =>
          rw [hip] at hhost
          cases hhost
      | v4 address =>
          cases hunspecified : address.isUnspecified with
          | true =>
              simp [hip, hunspecified] at hhost
          | false =>
              obtain rfl : address = host := by simpa [hip, hunspecified] using hhost
              obtain ⟨husable, hrest⟩ := hchecked
                (pure
                  { endpoint := { ip := .v4 address, port := actualEndpoint.port }
                    uri := encodePairingUri address actualEndpoint.port fingerprint })
                (by simpa [resolvePairingInfo, hip, hunspecified] using hresolved)
              cases hrest
              exact ⟨husable, rfl⟩

/-- Where the filters of the server and of the phone differ. -/
theorem isValidHost_of_usable {host : Ipv4Addr} (h : isUsablePairingAddress host = true) :
    PairingPayload.isValidHost host.text = true ↔ host.first ≠ 0 ∧ host.first < 240 := by
  rw [PairingPayload.isValidHost_text]
  simp only [isUsablePairingAddress, Ipv4Addr.isLoopback, Ipv4Addr.isMulticast,
    Ipv4Addr.isLinkLocal, Bool.and_eq_true, Bool.not_eq_true', Bool.and_eq_false_iff,
    decide_eq_false_iff_not] at h
  obtain ⟨⟨⟨⟨_, hloopback⟩, hmulticast⟩, _⟩, hlinkLocal⟩ := h
  rw [UInt8.le_iff_toNat_le, UInt8.le_iff_toNat_le] at hmulticast
  rw [UInt8.lt_iff_toNat_lt, UInt8.lt_iff_toNat_lt]
  have h224 : (224 : UInt8).toNat = 224 := rfl
  have h239 : (239 : UInt8).toNat = 239 := rfl
  have h240 : (240 : UInt8).toNat = 240 := rfl
  constructor
  · rintro ⟨hzero, _, hlow, _⟩
    exact ⟨hzero, by omega⟩
  · rintro ⟨hzero, hlow⟩
    refine ⟨hzero, hloopback, by omega, ?_⟩
    rintro ⟨hfirst, hsecond⟩
    rcases hlinkLocal with hne | hne
    · exact hne hfirst
    · exact hne hsecond

/-- The phone reads the host, the port and the fingerprint of the server out of a QR code. -/
def ReadsPairing (uri : List Char) (host : Ipv4Addr) (port : UInt16) (fingerprint : Fingerprint) :
    Prop :=
  ∃ details, PairingPayload.parse uri = some details ∧
    details.host = host.text ∧ details.port = port.toNat ∧
    parseFingerprint details.fingerprint = .ok fingerprint.bytes

/-- **The QR code is read back if and only if the host is outside `0.0.0.0/8` and
`240.0.0.0/4`.** -/
theorem pairing_round_trips_iff {automatic : Except PairingError Ipv4Addr}
    {requestedBind actualEndpoint : SocketAddr} {pairingHost : Option Ipv4Addr}
    {fingerprint : Fingerprint} {info : PairingInfo} {host : Ipv4Addr}
    (hport : actualEndpoint.port ≠ 0)
    (hresolved : resolvePairingInfo automatic requestedBind actualEndpoint pairingHost fingerprint =
      .ok info)
    (hhost : requestedHost requestedBind pairingHost = some host) :
    ReadsPairing info.uri host actualEndpoint.port fingerprint ↔
      host.first ≠ 0 ∧ host.first < 240 := by
  obtain ⟨husable, huri⟩ := resolvePairingInfo_ok hresolved hhost
  rw [← isValidHost_of_usable husable, ReadsPairing, huri,
    PairingPayload.parse_encodePairingUri host hport fingerprint]
  constructor
  · rintro ⟨details, hparsed, _⟩
    by_contra hinvalid
    rw [if_neg hinvalid] at hparsed
    cases hparsed
  · intro hvalid
    rw [if_pos hvalid]
    exact ⟨_, rfl, rfl, rfl, PairingPayload.parseFingerprint_chunks fingerprint⟩

/-- A fingerprint of 32 equal bytes. -/
def constantFingerprint (byte : UInt8) : Fingerprint where
  bytes := List.replicate 32 byte
  size := List.length_replicate

/-- The socket address of a host with the default port. -/
def defaultEndpoint (host : Ipv4Addr) : SocketAddr where
  ip := .v4 host
  port := 48400

theorem pairing_round_trips_iff_lan :
    ReadsPairing (encodePairingUri ⟨192, 168, 1, 42⟩ 48400 (constantFingerprint 0xAB))
      ⟨192, 168, 1, 42⟩ 48400 (constantFingerprint 0xAB) := by
  have hresolved : resolvePairingInfo (.error .noCandidate) (defaultEndpoint ⟨0, 0, 0, 0⟩)
      (defaultEndpoint ⟨0, 0, 0, 0⟩) (some ⟨192, 168, 1, 42⟩) (constantFingerprint 0xAB) =
      .ok
        { endpoint := defaultEndpoint ⟨192, 168, 1, 42⟩
          uri := encodePairingUri ⟨192, 168, 1, 42⟩ 48400 (constantFingerprint 0xAB) } := rfl
  exact (pairing_round_trips_iff (by decide) hresolved rfl).mpr (by decide)

/-- The server shows a QR code for `240.0.0.1` that the phone refuses. -/
theorem pairing_refused :
    ∃ info, resolvePairingInfo (.error .noCandidate) (defaultEndpoint ⟨0, 0, 0, 0⟩)
        (defaultEndpoint ⟨0, 0, 0, 0⟩) (some ⟨240, 0, 0, 1⟩) (constantFingerprint 0xAB) =
          .ok info ∧
      ¬ ReadsPairing info.uri ⟨240, 0, 0, 1⟩ 48400 (constantFingerprint 0xAB) := by
  refine ⟨_, rfl, ?_⟩
  rintro ⟨details, hparsed, _⟩
  have hinvalid : PairingPayload.isValidHost (Ipv4Addr.text ⟨240, 0, 0, 1⟩) = false := by decide
  rw [PairingPayload.parse_encodePairingUri _ (by decide), hinvalid] at hparsed
  cases hparsed

end Pairing

end Soundwave

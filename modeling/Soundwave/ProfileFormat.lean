import Soundwave.VolumeProfiles

/-!
# Layout of the profile file

How postcard writes a `Library`: the fields in order, lists and maps behind
their length, maps in the order of their keys.  Results about the file take the
codec as a parameter; this is the one of the program.  It and that of the control
messages read back exactly what has the widths of the source's fields.
-/

namespace Soundwave

section Layout

open Codec

/-- Layout of a map; its entries are inserted one after the other. -/
def mappingCodec : Codec (SortedMap Nat Nat) where
  encode m := (list (pair (varint .u16) (varint .u16))).encode m.entries
  decode bytes := do
    let (entries, bytes) ← (list (pair (varint .u16) (varint .u16))).decode bytes
    some (SortedMap.ofEntries entries, bytes)
  InRange m := (list (pair (varint .u16) (varint .u16))).InRange m.entries
  decode_encode := by
    intro m rest hm
    simp [hm, SortedMap.ofEntries_entries]
  inRange_of_decode := by
    intro bytes m rest h
    simp only [Option.bind_eq_bind, Option.bind_eq_some_iff, Prod.exists] at h
    obtain ⟨entries, _, hentries, h⟩ := h
    cases h
    obtain ⟨hlength, hvalues⟩ :=
      (list (pair (varint .u16) (varint .u16))).inRange_of_decode _ _ _ hentries
    obtain ⟨hmem, hfewer⟩ := SortedMap.entries_ofEntries entries
    exact ⟨Nat.lt_of_le_of_lt hfewer hlength, fun e he => hvalues e (hmem e he)⟩

/-- Layout of `DeviceRange`. -/
def deviceRangeCodec : Codec DeviceRange where
  encode d :=
    utf8.encode d.id ++ (utf8.encode d.name ++ ((varint .u16).encode d.minimum ++
      (varint .u16).encode d.maximum))
  decode bytes := do
    let (id, bytes) ← utf8.decode bytes
    let (name, bytes) ← utf8.decode bytes
    let (minimum, bytes) ← (varint .u16).decode bytes
    let (maximum, bytes) ← (varint .u16).decode bytes
    some (⟨id, name, minimum, maximum⟩, bytes)
  InRange d :=
    utf8.InRange d.id ∧ utf8.InRange d.name ∧ (varint .u16).InRange d.minimum ∧
      (varint .u16).InRange d.maximum
  decode_encode := by
    rintro d rest ⟨hid, hname, hminimum, hmaximum⟩
    simp [hid, hname, hminimum, hmaximum]
  inRange_of_decode := by
    intro bytes d rest h
    simp only [Option.bind_eq_bind, Option.bind_eq_some_iff, Prod.exists] at h
    obtain ⟨id, _, hid, name, _, hname, minimum, _, hminimum, maximum, _, hmaximum, h⟩ := h
    cases h
    exact ⟨utf8.inRange_of_decode _ _ _ hid, utf8.inRange_of_decode _ _ _ hname,
      (varint .u16).inRange_of_decode _ _ _ hminimum,
      (varint .u16).inRange_of_decode _ _ _ hmaximum⟩

/-- Layout of `Follower`. -/
def followerCodec : Codec Follower where
  encode f := deviceRangeCodec.encode f.device ++ mappingCodec.encode f.mapping
  decode bytes := do
    let (device, bytes) ← deviceRangeCodec.decode bytes
    let (mapping, bytes) ← mappingCodec.decode bytes
    some (⟨device, mapping⟩, bytes)
  InRange f := deviceRangeCodec.InRange f.device ∧ mappingCodec.InRange f.mapping
  decode_encode := by
    rintro f rest ⟨hdevice, hmapping⟩
    simp [hdevice, hmapping]
  inRange_of_decode := by
    intro bytes f rest h
    simp only [Option.bind_eq_bind, Option.bind_eq_some_iff, Prod.exists] at h
    obtain ⟨device, _, hdevice, mapping, _, hmapping, h⟩ := h
    cases h
    exact ⟨deviceRangeCodec.inRange_of_decode _ _ _ hdevice,
      mappingCodec.inRange_of_decode _ _ _ hmapping⟩

/-- Layout of `Profile`. -/
def profileCodec : Codec Profile where
  encode p :=
    (varint .u64).encode p.id ++ (utf8.encode p.name ++ (deviceRangeCodec.encode p.master ++
      ((list followerCodec).encode p.followers ++ (varint .u16).encode p.volume)))
  decode bytes := do
    let (id, bytes) ← (varint .u64).decode bytes
    let (name, bytes) ← utf8.decode bytes
    let (master, bytes) ← deviceRangeCodec.decode bytes
    let (followers, bytes) ← (list followerCodec).decode bytes
    let (volume, bytes) ← (varint .u16).decode bytes
    some (⟨id, name, master, followers, volume⟩, bytes)
  InRange p :=
    (varint .u64).InRange p.id ∧ utf8.InRange p.name ∧ deviceRangeCodec.InRange p.master ∧
      (list followerCodec).InRange p.followers ∧ (varint .u16).InRange p.volume
  decode_encode := by
    rintro p rest ⟨hid, hname, hmaster, hfollowers, hvolume⟩
    simp [hid, hname, hmaster, hfollowers, hvolume]
  inRange_of_decode := by
    intro bytes p rest h
    simp only [Option.bind_eq_bind, Option.bind_eq_some_iff, Prod.exists] at h
    obtain ⟨id, _, hid, name, _, hname, master, _, hmaster, followers, _, hfollowers, volume, _,
      hvolume, h⟩ := h
    cases h
    exact ⟨(varint .u64).inRange_of_decode _ _ _ hid, utf8.inRange_of_decode _ _ _ hname,
      deviceRangeCodec.inRange_of_decode _ _ _ hmaster,
      (list followerCodec).inRange_of_decode _ _ _ hfollowers,
      (varint .u16).inRange_of_decode _ _ _ hvolume⟩

/-- Layout of `Library`. -/
def libraryCodec : Codec Library where
  encode l :=
    (varint .u16).encode l.version ++ ((option (varint .u64)).encode l.active ++
      (list profileCodec).encode l.profiles)
  decode bytes := do
    let (version, bytes) ← (varint .u16).decode bytes
    let (active, bytes) ← (option (varint .u64)).decode bytes
    let (profiles, bytes) ← (list profileCodec).decode bytes
    some (⟨version, active, profiles⟩, bytes)
  InRange l :=
    (varint .u16).InRange l.version ∧ (option (varint .u64)).InRange l.active ∧
      (list profileCodec).InRange l.profiles
  decode_encode := by
    rintro l rest ⟨hversion, hactive, hprofiles⟩
    simp [hversion, hactive, hprofiles]
  inRange_of_decode := by
    intro bytes l rest h
    simp only [Option.bind_eq_bind, Option.bind_eq_some_iff, Prod.exists] at h
    obtain ⟨version, _, hversion, active, _, hactive, profiles, _, hprofiles, h⟩ := h
    cases h
    exact ⟨(varint .u16).inRange_of_decode _ _ _ hversion,
      (option (varint .u64)).inRange_of_decode _ _ _ hactive,
      (list profileCodec).inRange_of_decode _ _ _ hprofiles⟩

namespace Library

/-- The numbers of a library have the widths of the source. -/
def InRange (l : Library) : Prop :=
  libraryCodec.InRange l

instance : DecidablePred InRange :=
  inferInstanceAs (DecidablePred libraryCodec.InRange)

/-- `postcard::to_allocvec`. -/
def encode (l : Library) : List UInt8 :=
  libraryCodec.encode l

/-- `postcard::take_from_bytes`. -/
def decode (bytes : List UInt8) : Except String (Library × List UInt8) :=
  match libraryCodec.decode bytes with
  | some result => .ok result
  | none => .error "postcard"

/-- **Library round trip.** -/
theorem decode_encode {l : Library} (hrange : l.InRange) : decode l.encode = .ok (l, []) := by
  have h := libraryCodec.decode_encode l [] hrange
  rw [List.append_nil] at h
  simp [decode, encode, h]

/-- Whatever the file says, the numbers of an accepted library have their widths. -/
theorem inRange_of_decode {bytes rest : List UInt8} {l : Library}
    (h : decode bytes = .ok (l, rest)) : l.InRange := by
  rw [decode] at h
  split at h
  · rename_i result hresult
    cases h
    exact libraryCodec.inRange_of_decode bytes l rest hresult
  · cases h

end Library

/-- The fifth byte of a request id has four bits. -/
example : ControlMessage.decode [6, 255, 255, 255, 255, 16] = none := by decide

end Layout

/-- A profile with one follower. -/
def roomProfile (id : Nat) : Profile where
  id := id
  name := "Room"
  master := { id := "main", name := "Main", minimum := 0, maximum := 15 }
  followers :=
    [{ device := { id := "side", name := "Side", minimum := 0, maximum := 10 }
       mapping := SortedMap.empty.insert 3 2 }]
  volume := 3

/-- A file with this profile, which is active. -/
def roomFile : ProfileFile :=
  .bytes (Library.encode ⟨1, some 1, [roomProfile 1]⟩)

end Soundwave

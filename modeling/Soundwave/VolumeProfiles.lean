import Mathlib.Data.List.MinMax
import Soundwave.ControlMessages
import Soundwave.SerialNumbers
import Soundwave.SortedMap

/-!
# Volume profiles and their library

Model of `windows-server/src/volume_profiles.rs`: a profile maps every volume of
a master device to volumes of its followers, a library holds up to 128 profiles
of which one may be active, and the library is stored in one file.

The codec of the file is a parameter; the checks that `load` makes after
decoding are `Library.check`, and `WellFormed` says in logical terms what passes
them.
-/

namespace Soundwave

section Text

/-- `char::is_whitespace`. -/
def isWhitespace (c : Char) : Bool :=
  (9 ≤ c.toNat && c.toNat ≤ 13) || c.toNat = 32 || c.toNat = 133 || c.toNat = 160 ||
    c.toNat = 5760 || (8192 ≤ c.toNat && c.toNat ≤ 8202) || c.toNat = 8232 ||
    c.toNat = 8233 || c.toNat = 8239 || c.toNat = 8287 || c.toNat = 12288

/-- `str::trim`. -/
def trim (s : String) : String :=
  String.ofList ((s.toList.dropWhile isWhitespace).reverse.dropWhile isWhitespace).reverse

/-- `char::is_ascii_alphanumeric`, or a hyphen. -/
def isIdentifierChar (c : Char) : Bool :=
  (48 ≤ c.toNat && c.toNat ≤ 57) || (65 ≤ c.toNat && c.toNat ≤ 90) ||
    (97 ≤ c.toNat && c.toNat ≤ 122) || c = '-'

end Text

section UpdateFirst

universe u

variable {α : Type u}

/-- Change the first element that passes a test (`iter_mut().find`). -/
def updateFirst (test : α → Bool) (change : α → α) : List α → List α
  | [] => []
  | a :: l => if test a then change a :: l else a :: updateFirst test change l

theorem length_updateFirst (test : α → Bool) (change : α → α) (l : List α) :
    (updateFirst test change l).length = l.length := by
  induction l with
  | nil =>
      rfl
  | cons a l ih =>
      simp only [updateFirst]
      split_ifs
      · rfl
      · simp [ih]

theorem mem_updateFirst
    {test : α → Bool} {change : α → α} {l : List α} {x : α}
    (h : x ∈ updateFirst test change l) :
    x ∈ l ∨ ∃ a, l.find? test = some a ∧ x = change a := by
  induction l with
  | nil =>
      cases h
  | cons a l ih =>
      simp only [updateFirst] at h
      split_ifs at h with hfirst
      · rcases List.mem_cons.mp h with rfl | h
        · exact Or.inr ⟨a, by simp [hfirst], rfl⟩
        · exact Or.inl (List.mem_cons_of_mem _ h)
      · rcases List.mem_cons.mp h with rfl | h
        · exact Or.inl List.mem_cons_self
        · rcases ih h with h | ⟨b, hb, hx⟩
          · exact Or.inl (List.mem_cons_of_mem _ h)
          · exact Or.inr ⟨b, by simp [hfirst, hb], hx⟩

/-- A projection that the change keeps is kept along the list. -/
theorem map_updateFirst
    {β : Type u} {test : α → Bool} {change : α → α} (f : α → β)
    (hkeep : ∀ a, test a = true → f (change a) = f a) (l : List α) :
    (updateFirst test change l).map f = l.map f := by
  induction l with
  | nil =>
      rfl
  | cons a l ih =>
      simp only [updateFirst]
      split_ifs with hfirst
      · simp [hkeep a hfirst]
      · simp [ih]

/-- Looking for a kept property finds the changed element. -/
theorem find?_updateFirst
    {test : α → Bool} {change : α → α}
    (hkeep : ∀ a, test a = true → test (change a) = true) (l : List α) :
    (updateFirst test change l).find? test = (l.find? test).map change := by
  induction l with
  | nil =>
      rfl
  | cons a l ih =>
      simp only [updateFirst]
      split_ifs with hfirst
      · simp [hfirst, hkeep a hfirst]
      · simp [hfirst, ih]

/-- A change that does nothing to the first match does nothing. -/
theorem updateFirst_eq_self
    {test : α → Bool} {change : α → α} {l : List α}
    (h : ∀ a, l.find? test = some a → change a = a) :
    updateFirst test change l = l := by
  induction l with
  | nil =>
      rfl
  | cons a l ih =>
      simp only [updateFirst]
      split_ifs with hfirst
      · rw [h a (by simp [hfirst])]
      · rw [ih (fun b hb => h b (by simp [hfirst, hb]))]

/-- A second change of the same element replaces the first, if both go to the
same place and the second does not look at what the first did. -/
theorem updateFirst_updateFirst
    {test : α → Bool} {change change' : α → α}
    (hkeep : ∀ a, test a = true → test (change a) = true)
    (hreplace : ∀ a, change' (change a) = change' a) (l : List α) :
    updateFirst test change' (updateFirst test change l) = updateFirst test change' l := by
  induction l with
  | nil =>
      rfl
  | cons a l ih =>
      by_cases hfirst : test a = true
      · simp [updateFirst, hfirst, hkeep a hfirst, hreplace a]
      · simp [updateFirst, hfirst, ih]

end UpdateFirst

section Profiles

/-- `DeviceRange`. -/
structure DeviceRange where
  id : String
  name : String
  minimum : Nat
  maximum : Nat
deriving DecidableEq

namespace DeviceRange

/-- `DeviceRange::from_status`. -/
def fromStatus (device : DeviceStatus) : DeviceRange where
  id := device.deviceId
  name := device.name
  minimum := device.minimum
  maximum := device.maximum

/-- `DeviceRange::matches`. -/
def matchesDevice (range : DeviceRange) (device : DeviceStatus) : Bool :=
  range.id = device.deviceId && range.minimum = device.minimum &&
    range.maximum = device.maximum && device.speaker && !device.fixed && !device.failed

end DeviceRange

/-- `Follower`. -/
structure Follower where
  device : DeviceRange
  mapping : SortedMap Nat Nat
deriving DecidableEq

/-- `Profile`. -/
structure Profile where
  id : Nat
  name : String
  master : DeviceRange
  followers : List Follower
  volume : Nat
deriving DecidableEq

/-- The identifier check of `validate`. -/
def DeviceRange.hasValidId (device : DeviceRange) : Bool :=
  device.id ≠ "" && device.id.utf8ByteSize ≤ 80 && device.id.toList.all isIdentifierChar

/-- The device loop of `validate`; `seen` are the identifiers so far. -/
def validateDevices : List DeviceRange → List String → Except String Unit
  | [], _ => .ok ()
  | device :: devices, seen =>
      if device.hasValidId = true then
        if device.id ∉ seen then
          if device.minimum < device.maximum ∧ device.maximum ≤ 512 then
            validateDevices devices (device.id :: seen)
          else
            .error "设备音量范围无效"
        else
          .error "配置中存在重复设备"
      else
        .error "设备标识无效"

namespace Profile

/-- All devices of a profile, the master first. -/
def devices (p : Profile) : List DeviceRange :=
  p.master :: p.followers.map Follower.device

/-- `Profile::validate`. -/
def validate (p : Profile) : Except String Unit :=
  if trim p.name ≠ "" ∧ p.name.length ≤ 80 then
    match validateDevices p.devices [] with
    | .error e => .error e
    | .ok () =>
        if p.master.minimum ≤ p.volume ∧ p.volume ≤ p.master.maximum then
          if ∀ f ∈ p.followers, ∀ e ∈ f.mapping.entries,
              (p.master.minimum ≤ e.1 ∧ e.1 ≤ p.master.maximum) ∧
                (f.device.minimum ≤ e.2 ∧ e.2 ≤ f.device.maximum) then
            .ok ()
          else
            .error "校准映射超出设备范围"
        else
          .error "主设备音量超出范围"
  else
    .error "配置名称须为 1–80 个字符"

/-- `Profile::participating`. -/
def participating (p : Profile) (devices : List DeviceStatus) : List String :=
  (p.followers.filter (fun f =>
      f.mapping.size ≠ 0 &&
        (devices.filter (fun d => f.device.matchesDevice d)).length = 1)).map
    (fun f => f.device.id)

/-- `Profile::available`. -/
def available (p : Profile) (participating : List String) : List Nat :=
  (List.range' p.master.minimum (p.master.maximum + 1 - p.master.minimum)).filter (fun index =>
    (p.followers.filter (fun f => participating.contains f.device.id)).all
      (fun f => f.mapping.contains index))

/-- `u16::abs_diff`. -/
def absDiff (a b : Nat) : Nat :=
  (a - b) + (b - a)

/-- `Profile::nearest`. -/
def nearest (p : Profile) (requested : Nat) (participating : List String) : Option Nat :=
  (p.available participating).argmin (fun index => absDiff index requested)

/-- A nearest volume is in the master's range and mapped by all participants. -/
theorem nearest_spec
    {p : Profile} {requested index : Nat} {participating : List String}
    (h : p.nearest requested participating = some index) :
    p.master.minimum ≤ index ∧ index ≤ p.master.maximum ∧
      ∀ f ∈ p.followers, f.device.id ∈ participating → ∃ v, f.mapping.get? index = some v := by
  have hmem := List.argmin_mem h
  simp only [available, List.mem_filter, List.mem_range'_1, List.all_eq_true] at hmem
  obtain ⟨⟨hmin, hmax⟩, hall⟩ := hmem
  refine ⟨hmin, by omega, ?_⟩
  intro f hf hparticipating
  rw [← SortedMap.contains_eq_true_iff]
  exact hall f ⟨hf, by simpa using hparticipating⟩

end Profile

end Profiles

section Validity

/-- What `validateDevices` checks of each device. -/
structure DeviceRange.Valid (device : DeviceRange) : Prop where
  id : device.hasValidId = true
  range : device.minimum < device.maximum
  bound : device.maximum ≤ 512

/-- A list whose entries are valid, with keys that differ from each other and from those
seen before, is built from its end. -/
theorem distinct_cons_iff {α κ : Type} {valid : α → Prop} (key : α → κ) (x : α) (xs : List α)
    (seen : List κ) :
    ((∀ y ∈ x :: xs, valid y) ∧ ((x :: xs).map key).Nodup ∧ ∀ y ∈ x :: xs, key y ∉ seen) ↔
      valid x ∧ key x ∉ seen ∧
        (∀ y ∈ xs, valid y) ∧ (xs.map key).Nodup ∧ ∀ y ∈ xs, key y ∉ key x :: seen := by
  rw [List.forall_mem_cons, List.forall_mem_cons, List.map_cons, List.nodup_cons]
  constructor
  · rintro ⟨⟨hx, hvalid⟩, ⟨hother, hnodup⟩, hseen, hfresh⟩
    refine ⟨hx, hseen, hvalid, hnodup, ?_⟩
    intro y hy hmem
    rcases List.mem_cons.mp hmem with heq | hmem
    · exact hother (List.mem_map.mpr ⟨y, hy, heq⟩)
    · exact hfresh y hy hmem
  · rintro ⟨hx, hseen, hvalid, hnodup, hfresh⟩
    refine ⟨⟨hx, hvalid⟩, ⟨?_, hnodup⟩, hseen,
      fun y hy hmem => hfresh y hy (List.mem_cons_of_mem _ hmem)⟩
    intro hmem
    obtain ⟨y, hy, heq⟩ := List.mem_map.mp hmem
    exact hfresh y hy (by rw [heq]; exact List.mem_cons_self)

theorem validateDevices_eq_ok_iff (devices : List DeviceRange) (seen : List String) :
    validateDevices devices seen = .ok () ↔
      (∀ d ∈ devices, d.Valid) ∧ (devices.map DeviceRange.id).Nodup ∧
        ∀ d ∈ devices, d.id ∉ seen := by
  induction devices generalizing seen with
  | nil =>
      simp [validateDevices]
  | cons d devices ih =>
      rw [distinct_cons_iff, ← ih, validateDevices]
      constructor
      · intro h
        split_ifs at h with hid hseen hrange
        exact ⟨⟨hid, hrange.1, hrange.2⟩, hseen, h⟩
      · rintro ⟨hd, hseen, h⟩
        rw [if_pos hd.id, if_pos hseen, if_pos ⟨hd.range, hd.bound⟩, h]

namespace Profile

/-- What `validate` checks, in logical terms. -/
structure Valid (p : Profile) : Prop where
  name_nonempty : trim p.name ≠ ""
  name_short : p.name.length ≤ 80
  devices : ∀ d ∈ p.devices, d.Valid
  distinct : (p.devices.map DeviceRange.id).Nodup
  volume : p.master.minimum ≤ p.volume ∧ p.volume ≤ p.master.maximum
  mappings : ∀ f ∈ p.followers, ∀ e ∈ f.mapping.entries,
    (p.master.minimum ≤ e.1 ∧ e.1 ≤ p.master.maximum) ∧
      (f.device.minimum ≤ e.2 ∧ e.2 ≤ f.device.maximum)

theorem validate_eq_ok_iff (p : Profile) : p.validate = .ok () ↔ p.Valid := by
  constructor
  · intro h
    rw [validate] at h
    split at h
    · rename_i hname
      cases hdevices : validateDevices p.devices [] with
      | error e =>
          simp [hdevices] at h
      | ok u =>
          simp only [hdevices] at h
          split_ifs at h with hvolume hmapping
          obtain ⟨hvalid, hnodup, _⟩ := (validateDevices_eq_ok_iff _ _).mp hdevices
          exact ⟨hname.1, hname.2, hvalid, hnodup, hvolume, hmapping⟩
    · cases h
  · intro h
    have hdevices : validateDevices p.devices [] = .ok () := by
      rw [validateDevices_eq_ok_iff]
      exact ⟨h.devices, h.distinct, fun d _ => List.not_mem_nil⟩
    rw [validate, if_pos ⟨h.name_nonempty, h.name_short⟩, hdevices]
    simp only
    rw [if_pos h.volume, if_pos h.mappings]

/-- Only the volume of a profile changes, and it stays in the master's range. -/
theorem valid_of_volume
    {p : Profile} (h : p.Valid) {volume : Nat}
    (hvolume : p.master.minimum ≤ volume ∧ volume ≤ p.master.maximum) :
    ({ p with volume := volume } : Profile).Valid :=
  ⟨h.name_nonempty, h.name_short, h.devices, h.distinct, hvolume, h.mappings⟩

end Profile

end Validity

section Libraries

/-- `Library`. -/
structure Library where
  version : Nat
  active : Option Nat
  profiles : List Profile
deriving DecidableEq

namespace Library

/-- `Library::default`. -/
def default : Library where
  version := 1
  active := none
  profiles := []

/-- `Library::current`. -/
def current (l : Library) : Option Profile :=
  l.profiles.find? (fun p => some p.id = l.active)

/-- The profile loop of `load`; `seen` are the ids so far. -/
def checkProfiles : List Profile → List Nat → Except String Unit
  | [], _ => .ok ()
  | p :: ps, seen =>
      match p.validate with
      | .error e => .error e
      | .ok () =>
          if p.id ∉ seen then checkProfiles ps (p.id :: seen) else .error "配置 ID 重复"

/-- The checks that `load` makes after decoding. -/
def check (l : Library) (tail : List UInt8) : Except String Unit :=
  if tail = [] ∧ l.version = 1 then
    if l.profiles.length ≤ 128 then
      match checkProfiles l.profiles [] with
      | .error e => .error e
      | .ok () =>
          if ∀ id ∈ l.active, id ∈ l.profiles.map Profile.id then
            .ok ()
          else
            .error "活动配置不存在"
    else
      .error "配置数量超出限制"
  else
    .error "不支持的音量配置格式"

/-- The greatest id in use, which `put` counts on from. -/
def maxId (l : Library) : Nat :=
  (l.profiles.map Profile.id).foldl max 0

/-- `Library::put`. -/
def put (l : Library) (profile : Profile) : Except String (Library × Nat) :=
  let profile := { profile with name := trim profile.name }
  match profile.validate with
  | .error e => .error e
  | .ok () =>
      let numbered : Except String Profile :=
        if profile.id = 0 then
          if l.profiles.length < 128 then
            if l.maxId < u64Max then
              .ok { profile with id := l.maxId + 1 }
            else
              .error "配置 ID 耗尽"
          else
            .error "最多保存 128 套配置"
        else
          .ok profile
      match numbered with
      | .error e => .error e
      | .ok profile =>
          .ok
            ({ l with
                profiles :=
                  if (l.profiles.find? (fun p => p.id = profile.id)).isSome then
                    updateFirst (fun p => p.id = profile.id) (fun _ => profile) l.profiles
                  else
                    l.profiles ++ [profile]
                active := some profile.id },
              profile.id)

end Library

/-- State of the profile file.  An unreadable file makes `load` fail. -/
inductive ProfileFile where
  | absent
  | unreadable (error : String)
  | bytes (content : List UInt8)

/-- `8 * 1024 * 1024`. -/
def maxFileBytes : Nat := 8 * 1024 * 1024

section Storage

variable (encode : Library → List UInt8)
variable (decode : List UInt8 → Except String (Library × List UInt8))

/-- `Library::load`. -/
def Library.load : ProfileFile → Except String Library
  | .absent => .ok .default
  | .unreadable error => .error error
  | .bytes content =>
      if maxFileBytes < content.length then
        .error "配置文件过大"
      else
        match decode content with
        | .error cause => .error s!"音量配置文件损坏: {cause}"
        | .ok (library, tail) =>
            match library.check tail with
            | .error e => .error e
            | .ok () => .ok library

/-- `Library::save`; `failure` is the outcome of the file operations. -/
def Library.save (l : Library) (failure : Option String) : Except String ProfileFile :=
  if maxFileBytes < (encode l).length then
    .error "音量配置超过文件大小限制"
  else
    match failure with
    | some error => .error error
    | none => .ok (.bytes (encode l))

end Storage

end Libraries

section WellFormedness

namespace Library

/-- What `load` accepts, in logical terms. -/
structure WellFormed (l : Library) : Prop where
  version : l.version = 1
  count : l.profiles.length ≤ 128
  valid : ∀ p ∈ l.profiles, p.Valid
  distinct : (l.profiles.map Profile.id).Nodup
  active : ∀ id ∈ l.active, id ∈ l.profiles.map Profile.id

theorem checkProfiles_eq_ok_iff (ps : List Profile) (seen : List Nat) :
    checkProfiles ps seen = .ok () ↔
      (∀ p ∈ ps, p.Valid) ∧ (ps.map Profile.id).Nodup ∧ ∀ p ∈ ps, p.id ∉ seen := by
  induction ps generalizing seen with
  | nil =>
      simp [checkProfiles]
  | cons p ps ih =>
      rw [distinct_cons_iff, ← ih, ← Profile.validate_eq_ok_iff, checkProfiles]
      cases p.validate with
      | error e =>
          simp
      | ok u =>
          constructor
          · intro h
            simp only at h
            split_ifs at h with hseen
            exact ⟨rfl, hseen, h⟩
          · rintro ⟨-, hseen, h⟩
            simp only
            rw [if_pos hseen, h]

theorem check_eq_ok_iff (l : Library) : l.check [] = .ok () ↔ l.WellFormed := by
  constructor
  · intro h
    rw [check] at h
    split at h
    · rename_i hversion
      split at h
      · rename_i hcount
        cases hprofiles : checkProfiles l.profiles [] with
        | error e =>
            simp [hprofiles] at h
        | ok u =>
            simp only [hprofiles] at h
            split_ifs at h with hactive
            obtain ⟨hvalid, hnodup, _⟩ := (checkProfiles_eq_ok_iff _ _).mp hprofiles
            exact ⟨hversion.2, hcount, hvalid, hnodup, hactive⟩
      · cases h
    · cases h
  · intro h
    have hprofiles : checkProfiles l.profiles [] = .ok () := by
      rw [checkProfiles_eq_ok_iff]
      exact ⟨h.valid, h.distinct, fun p _ => List.not_mem_nil⟩
    rw [check, if_pos ⟨rfl, h.version⟩, if_pos h.count, hprofiles]
    simp only
    rw [if_pos h.active]

theorem wellFormed_default : default.WellFormed := by
  refine ⟨rfl, by decide, ?_, List.nodup_nil, ?_⟩
  · exact fun p hp => absurd hp List.not_mem_nil
  · intro id hid
    cases hid

theorem le_maxId {l : Library} {p : Profile} (h : p ∈ l.profiles) : p.id ≤ l.maxId := by
  have hgen : ∀ (ids : List Nat) (start x : Nat),
      x ∈ ids ∨ x ≤ start → x ≤ ids.foldl max start := by
    intro ids
    induction ids with
    | nil =>
        intro start x hx
        rcases hx with hx | hx
        · cases hx
        · exact hx
    | cons id ids ih =>
        intro start x hx
        rw [List.foldl_cons]
        apply ih
        rcases hx with hx | hx
        · rcases List.mem_cons.mp hx with rfl | hx
          · exact Or.inr (le_max_right _ _)
          · exact Or.inl hx
        · exact Or.inr (le_trans hx (le_max_left _ _))
  exact hgen _ 0 p.id (Or.inl (List.mem_map_of_mem h))

/-- What a successful `put` does: the trimmed profile, with a fresh id if it had
none, replaces the one with its id or is appended, and becomes active. -/
theorem put_cases
    {l l' : Library} {profile : Profile} {id : Nat} (h : l.put profile = .ok (l', id)) :
    ∃ stored : Profile,
      stored.Valid ∧ stored.id = id ∧
      stored = { profile with name := trim profile.name, id := id } ∧
      ((profile.id = 0 ∧ l.profiles.length < 128 ∧ id = l.maxId + 1) ∨
        (profile.id ≠ 0 ∧ id = profile.id)) ∧
      l' = { l with
              profiles :=
                if (l.profiles.find? (fun p => p.id = id)).isSome then
                  updateFirst (fun p => p.id = id) (fun _ => stored) l.profiles
                else
                  l.profiles ++ [stored]
              active := some id } := by
  rw [put] at h
  simp only at h
  cases hvalid : ({ profile with name := trim profile.name } : Profile).validate with
  | error e =>
      simp [hvalid] at h
  | ok u =>
      have hval := (Profile.validate_eq_ok_iff _).mp hvalid
      simp only [hvalid] at h
      by_cases hzero : profile.id = 0
      · rw [if_pos hzero] at h
        by_cases hcount : l.profiles.length < 128
        · rw [if_pos hcount] at h
          by_cases hmax : l.maxId < u64Max
          · rw [if_pos hmax] at h
            simp only [Except.ok.injEq, Prod.mk.injEq] at h
            obtain ⟨hl, hid⟩ := h
            refine ⟨{ profile with name := trim profile.name, id := id }, ?_, rfl, rfl,
              Or.inl ⟨hzero, hcount, hid.symm⟩, ?_⟩
            · exact ⟨hval.name_nonempty, hval.name_short, hval.devices, hval.distinct,
                hval.volume, hval.mappings⟩
            · rw [← hl, hid]
          · rw [if_neg hmax] at h
            cases h
        · rw [if_neg hcount] at h
          cases h
      · rw [if_neg hzero] at h
        simp only [Except.ok.injEq, Prod.mk.injEq] at h
        obtain ⟨hl, hid⟩ := h
        refine ⟨{ profile with name := trim profile.name, id := id }, ?_, rfl, rfl,
          Or.inr ⟨hzero, hid.symm⟩, ?_⟩
        · exact ⟨hval.name_nonempty, hval.name_short, hval.devices, hval.distinct,
            hval.volume, hval.mappings⟩
        · rw [← hl, ← hid]

/-- A profile saved for the first time replaces none that is stored. -/
theorem put_fresh
    {l l' : Library} {profile : Profile} {id : Nat} (hnew : profile.id = 0)
    (h : l.put profile = .ok (l', id)) : id ∉ l.profiles.map Profile.id := by
  intro hmem
  obtain ⟨p, hp, hpid⟩ := List.mem_map.mp hmem
  obtain ⟨stored, -, -, -, (⟨-, -, hid⟩ | ⟨hold, -⟩), -⟩ := put_cases h
  · have hle := le_maxId hp
    omega
  · exact hold hnew

/-- A profile that `put` may store without looking at the limit of 128. -/
def Fits (l : Library) (profile : Profile) : Prop :=
  profile.id = 0 ∨ profile.id ∈ l.profiles.map Profile.id ∨ l.profiles.length < 128

theorem find?_id_isSome_iff (l : Library) (id : Nat) :
    (l.profiles.find? (fun p => p.id = id)).isSome = true ↔
      id ∈ l.profiles.map Profile.id := by
  simp [List.find?_isSome, List.mem_map]

/-- Everything but the limit survives a successful `put`. -/
theorem put_keeps
    {l l' : Library} {profile : Profile} {id : Nat}
    (hl : l.WellFormed) (h : l.put profile = .ok (l', id)) :
    l'.version = 1 ∧ (∀ p ∈ l'.profiles, p.Valid) ∧
      (l'.profiles.map Profile.id).Nodup ∧ l'.active = some id ∧
      id ∈ l'.profiles.map Profile.id ∧
      l'.profiles.length =
        (if id ∈ l.profiles.map Profile.id then l.profiles.length
          else l.profiles.length + 1) := by
  obtain ⟨stored, hvalid, hid, _, _, rfl⟩ := put_cases h
  by_cases hmem : id ∈ l.profiles.map Profile.id
  · have hsome := (find?_id_isSome_iff l id).mpr hmem
    have hids : (updateFirst (fun p => decide (p.id = id)) (fun _ => stored)
        l.profiles).map Profile.id = l.profiles.map Profile.id := by
      apply map_updateFirst
      intro a ha
      rw [hid]
      exact (of_decide_eq_true ha).symm
    simp only [hsome, if_true, hids, hmem, length_updateFirst]
    refine ⟨hl.version, ?_, hl.distinct, trivial, trivial, trivial⟩
    intro p hp
    rcases mem_updateFirst hp with hp | ⟨a, _, rfl⟩
    · exact hl.valid p hp
    · exact hvalid
  · have hnone : ¬ (l.profiles.find? (fun p => p.id = id)).isSome = true := by
      rw [find?_id_isSome_iff]
      exact hmem
    simp only [hnone, if_false, hmem, Bool.false_eq_true]
    refine ⟨hl.version, ?_, ?_, trivial, ?_, ?_⟩
    · intro p hp
      rcases List.mem_append.mp hp with hp | hp
      · exact hl.valid p hp
      · rw [List.mem_singleton.mp hp]
        exact hvalid
    · rw [List.map_append, List.nodup_append]
      refine ⟨hl.distinct, List.nodup_singleton _, ?_⟩
      intro x hx y hy heq
      rw [List.map_singleton, List.mem_singleton] at hy
      rw [heq, hy, hid] at hx
      exact hmem hx
    · rw [List.map_append]
      exact List.mem_append_right _ (by simp [hid])
    · simp

/-- **Exactly when `put` keeps a library well formed.**  The only thing that can
go wrong is a profile with an unknown id of its own in a full library. -/
theorem put_wellFormed_iff
    {l l' : Library} {profile : Profile} {id : Nat}
    (hl : l.WellFormed) (h : l.put profile = .ok (l', id)) :
    l'.WellFormed ↔ l.Fits profile := by
  obtain ⟨hversion, hvalid, hnodup, hactive, hmem, hlength⟩ := put_keeps hl h
  obtain ⟨stored, _, _, _, hcase, _⟩ := put_cases h
  have hcount := hl.count
  constructor
  · intro hwf
    have hcount' := hwf.count
    rw [hlength] at hcount'
    rcases hcase with ⟨hzero, _, _⟩ | ⟨_, hid⟩
    · exact Or.inl hzero
    · by_cases hin : id ∈ l.profiles.map Profile.id
      · exact Or.inr (Or.inl (hid ▸ hin))
      · rw [if_neg hin] at hcount'
        exact Or.inr (Or.inr (by omega))
  · intro hfits
    refine ⟨hversion, ?_, hvalid, hnodup, ?_⟩
    · rw [hlength]
      split_ifs with hin
      · exact hcount
      · rcases hcase with ⟨_, hroom, _⟩ | ⟨hne, hid⟩
        · omega
        · rcases hfits with hzero | hin' | hroom
          · exact absurd hzero hne
          · exact absurd (hid ▸ hin') hin
          · omega
    · intro id' hid'
      rw [hactive] at hid'
      cases hid'
      exact hmem

end Library

end WellFormedness

section Volumes

namespace Library

/-- The library with another volume in the profile `id`. -/
def withVolume (l : Library) (id index : Nat) : Library :=
  { l with
      profiles := updateFirst (fun p => p.id = id) (fun p => { p with volume := index })
        l.profiles }

theorem current_id {l : Library} {p : Profile} (h : l.current = some p) :
    l.active = some p.id := by
  have h' := List.find?_some h
  exact (of_decide_eq_true h').symm

/-- The current profile is the first one with its id. -/
theorem current_eq_find? {l : Library} {id : Nat} (h : l.active = some id) :
    l.current = l.profiles.find? (fun p => p.id = id) := by
  rw [current, h]
  congr 1
  funext p
  simp

theorem find?_withVolume (l : Library) (id index : Nat) :
    (l.withVolume id index).profiles.find? (fun p => p.id = id) =
      (l.profiles.find? (fun p => p.id = id)).map (fun p => { p with volume := index }) := by
  apply find?_updateFirst
  exact fun _ h => h

theorem current_withVolume {l : Library} {p : Profile} (h : l.current = some p) (index : Nat) :
    (l.withVolume p.id index).current = some { p with volume := index } := by
  have hactive := current_id h
  rw [current_eq_find? hactive] at h
  have hactive' : (l.withVolume p.id index).active = some p.id := hactive
  rw [current_eq_find? hactive', find?_withVolume, h]
  rfl

theorem withVolume_eq_self {l : Library} {p : Profile} {id : Nat}
    (h : l.profiles.find? (fun p => p.id = id) = some p) :
    l.withVolume id p.volume = l := by
  rw [withVolume, updateFirst_eq_self]
  intro a ha
  rw [h] at ha
  cases ha
  rfl

theorem withVolume_withVolume (l : Library) (id index index' : Nat) :
    (l.withVolume id index).withVolume id index' = l.withVolume id index' := by
  simp only [withVolume]
  rw [updateFirst_updateFirst]
  · exact fun _ h => h
  · exact fun _ => rfl

theorem map_id_withVolume (l : Library) (id index : Nat) :
    (l.withVolume id index).profiles.map Profile.id = l.profiles.map Profile.id := by
  apply map_updateFirst
  exact fun _ _ => rfl

theorem mem_withVolume {l : Library} {id index : Nat} {p : Profile}
    (h : p ∈ (l.withVolume id index).profiles) :
    p ∈ l.profiles ∨
      ∃ q, l.profiles.find? (fun p => p.id = id) = some q ∧ p = { q with volume := index } :=
  mem_updateFirst h

/-- A volume in the master's range keeps a library well formed. -/
theorem withVolume_wellFormed {l : Library} {p : Profile} {id index : Nat} (hl : l.WellFormed)
    (hp : l.profiles.find? (fun p => p.id = id) = some p)
    (hrange : p.master.minimum ≤ index ∧ index ≤ p.master.maximum) :
    (l.withVolume id index).WellFormed where
  version := hl.version
  count := by
    show (updateFirst _ _ l.profiles).length ≤ 128
    rw [length_updateFirst]
    exact hl.count
  valid := by
    intro q hq
    rcases mem_withVolume hq with hq | ⟨a, ha, rfl⟩
    · exact hl.valid q hq
    · rw [hp] at ha
      cases ha
      exact Profile.valid_of_volume (hl.valid p (List.mem_of_find?_eq_some hp)) hrange
  distinct := by
    rw [map_id_withVolume]
    exact hl.distinct
  active := by
    rw [map_id_withVolume]
    exact hl.active

/-- After `put` the stored profile is the current one. -/
theorem current_put {l l' : Library} {profile : Profile} {id : Nat}
    (h : l.put profile = .ok (l', id)) :
    l'.current = some { profile with name := trim profile.name, id := id } := by
  obtain ⟨stored, _, hid, hstored, _, rfl⟩ := put_cases h
  rw [current_eq_find? rfl, ← hstored]
  simp only
  cases hfind : l.profiles.find? (fun p => p.id = id) with
  | some old =>
      simp only [Option.isSome_some, if_true]
      rw [find?_updateFirst (fun _ _ => by simp [hid]), hfind]
      rfl
  | none =>
      simp [List.find?_append, hfind, hid]

/-- The profiles after `put` are old ones and the stored one. -/
theorem mem_put {l l' : Library} {profile p : Profile} {id : Nat}
    (h : l.put profile = .ok (l', id)) (hp : p ∈ l'.profiles) :
    p ∈ l.profiles ∨ (p.id = id ∧ p.volume = profile.volume) := by
  obtain ⟨stored, _, _, hstored, _, rfl⟩ := put_cases h
  have hfields : stored.id = id ∧ stored.volume = profile.volume := by
    rw [hstored]
    exact ⟨rfl, rfl⟩
  simp only at hp
  split_ifs at hp
  · rcases mem_updateFirst hp with hp | ⟨_, _, rfl⟩
    · exact Or.inl hp
    · exact Or.inr hfields
  · rcases List.mem_append.mp hp with hp | hp
    · exact Or.inl hp
    · rw [List.mem_singleton.mp hp]
      exact Or.inr hfields

/-- Without one profile, and without it as the active one, a library stays well
formed. -/
theorem wellFormed_without {l : Library} (hl : l.WellFormed) (id : Nat) :
    ({ l with
        profiles := l.profiles.filter (fun p => p.id ≠ id)
        active := if l.active = some id then none else l.active } : Library).WellFormed where
  version := hl.version
  count := le_trans (List.length_filter_le _ _) hl.count
  valid := fun p hp => hl.valid p (List.mem_of_mem_filter hp)
  distinct := hl.distinct.sublist (List.filter_sublist.map _)
  active := by
    intro a ha
    simp only at ha
    split_ifs at ha with hactive
    · cases ha
    · have hmem := hl.active a ha
      obtain ⟨p, hp, rfl⟩ := List.mem_map.mp hmem
      refine List.mem_map_of_mem (List.mem_filter.mpr ⟨hp, ?_⟩)
      simp only [ne_eq, decide_not, Bool.not_eq_eq_eq_not, Bool.not_true, decide_eq_false_iff_not]
      intro heq
      exact hactive (heq ▸ ha)

theorem wellFormed_active {l : Library} (hl : l.WellFormed) {id : Nat}
    (hid : id ∈ l.profiles.map Profile.id) :
    ({ l with active := some id } : Library).WellFormed where
  version := hl.version
  count := hl.count
  valid := hl.valid
  distinct := hl.distinct
  active := by
    intro a ha
    cases ha
    exact hid

end Library

end Volumes

end Soundwave

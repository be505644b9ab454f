import Soundwave.PlaybackGate
import Soundwave.ProfileReload

/-!
# Volume commands for the group

`tick` and `set_volume` look up list elements, map entries and devices in ways
that end the control thread if there is nothing to find.  `checkedTick` and
`checkedSetVolume` embed them with these lookups as they are written, on the
snapshots themselves: `none` is a panic.  They also log the volume requests that
were queued.

No reachable state panics, since every stored profile is valid but for its
volume; and what is queued puts devices of the group where the level nearest to
the requested volume demands.
-/

namespace Soundwave

section Levels

/-- Whether a follower takes part: it has a mapping, and one device matches it. -/
def Follower.Participates (f : Follower) (devices : List DeviceStatus) : Prop :=
  f.mapping.size ≠ 0 ∧ (devices.filter (fun d => f.device.matchesDevice d)).length = 1

namespace Profile

/-- A profile that passes `validate` with some volume. -/
def Sound (p : Profile) : Prop :=
  ∃ volume, ({ p with volume := volume } : Profile).Valid

/-- A volume of the master that every participating follower maps. -/
def Shared (p : Profile) (devices : List DeviceStatus) (level : Nat) : Prop :=
  (p.master.minimum ≤ level ∧ level ≤ p.master.maximum) ∧
    ∀ f ∈ p.followers, f.Participates devices → ∃ v, f.mapping.get? level = some v

/-- The shared volume nearest to the requested one, the lower one of two. -/
structure IsLevel (p : Profile) (devices : List DeviceStatus) (requested level : Nat) :
    Prop where
  shared : p.Shared devices level
  nearest : ∀ other, p.Shared devices other →
    absDiff level requested < absDiff other requested ∨
      (absDiff level requested = absDiff other requested ∧ level ≤ other)

theorem Valid.sound {p : Profile} (h : p.Valid) : p.Sound :=
  ⟨p.volume, h⟩

theorem Sound.withVolume {p : Profile} (h : p.Sound) (volume : Nat) :
    ({ p with volume := volume } : Profile).Sound :=
  h

/-- Followers of a sound profile have different identifiers. -/
theorem Sound.follower_eq {p : Profile} (h : p.Sound) {f g : Follower}
    (hf : f ∈ p.followers) (hg : g ∈ p.followers) (hid : f.device.id = g.device.id) : f = g := by
  obtain ⟨_, hvalid⟩ := h
  have hdistinct := hvalid.distinct
  rw [Profile.devices, List.map_cons, List.nodup_cons, List.map_map] at hdistinct
  exact List.inj_on_of_nodup_map hdistinct.2 hf hg hid

/-- A mapped volume is in the range of its follower. -/
theorem Sound.mapped_range {p : Profile} (h : p.Sound) {f : Follower} (hf : f ∈ p.followers)
    {level v : Nat} (hget : f.mapping.get? level = some v) :
    f.device.minimum ≤ v ∧ v ≤ f.device.maximum := by
  obtain ⟨_, hvalid⟩ := h
  exact (hvalid.mappings f hf _ ((SortedMap.get?_eq_some_iff _ _ _).mp hget)).2

theorem mem_participating_iff {p : Profile} (h : p.Sound) {devices : List DeviceStatus}
    {f : Follower} (hf : f ∈ p.followers) :
    f.device.id ∈ p.participating devices ↔ f.Participates devices := by
  constructor
  · intro hmem
    obtain ⟨g, hg, hid⟩ := List.mem_map.mp hmem
    obtain ⟨hg, hpart⟩ := List.mem_filter.mp hg
    rw [h.follower_eq hg hf hid] at hpart
    simpa [Follower.Participates] using hpart
  · intro hpart
    refine List.mem_map_of_mem (List.mem_filter.mpr ⟨hf, ?_⟩)
    simpa [Follower.Participates] using hpart

theorem mem_available_iff {p : Profile} (h : p.Sound) {devices : List DeviceStatus}
    {level : Nat} :
    level ∈ p.available (p.participating devices) ↔ p.Shared devices level := by
  rw [available, List.mem_filter, List.mem_range'_1, List.all_eq_true]
  constructor
  · rintro ⟨⟨hmin, hmax⟩, hall⟩
    refine ⟨⟨hmin, by omega⟩, ?_⟩
    intro f hf hpart
    rw [← SortedMap.contains_eq_true_iff]
    apply hall f (List.mem_filter.mpr ⟨hf, ?_⟩)
    rw [List.contains_iff_mem]
    exact (mem_participating_iff h hf).mpr hpart
  · rintro ⟨⟨hmin, hmax⟩, hall⟩
    refine ⟨⟨hmin, by omega⟩, ?_⟩
    intro f hf
    obtain ⟨hf, hpart⟩ := List.mem_filter.mp hf
    rw [List.contains_iff_mem] at hpart
    rw [SortedMap.contains_eq_true_iff]
    exact hall f hf ((mem_participating_iff h hf).mp hpart)

/-- The volumes that `nearest` chooses from are in increasing order. -/
theorem available_sorted (p : Profile) (participating : List String) :
    (p.available participating).Pairwise (fun a b => a < b) :=
  (List.pairwise_lt_range' 1).filter _

/-- In an increasing list the order of positions is that of the elements. -/
theorem le_of_idxOf_le {l : List Nat} (hsorted : l.Pairwise (fun a b => a < b)) {a b : Nat}
    (ha : a ∈ l) (hb : b ∈ l) (h : l.idxOf a ≤ l.idxOf b) : a ≤ b := by
  rcases Nat.eq_or_lt_of_le h with heq | hlt
  · exact ((List.idxOf_inj ha).mp heq).le
  · have hlta := List.idxOf_lt_length_iff.mpr ha
    have hltb := List.idxOf_lt_length_iff.mpr hb
    have horder := List.pairwise_iff_getElem.mp hsorted _ _ hlta hltb hlt
    rw [List.getElem_idxOf, List.getElem_idxOf] at horder
    exact horder.le

/-- **What `nearest` finds.** -/
theorem isLevel_of_nearest {p : Profile} (h : p.Sound) {devices : List DeviceStatus}
    {requested level : Nat}
    (hnearest : p.nearest requested (p.participating devices) = some level) :
    p.IsLevel devices requested level := by
  have hargmin := (List.mem_argmin_iff (l := p.available (p.participating devices))).mp
    (Option.mem_def.mpr hnearest)
  obtain ⟨hmem, hmin, hfirst⟩ := hargmin
  refine ⟨(mem_available_iff h).mp hmem, ?_⟩
  intro other hother
  have hother' := (mem_available_iff h).mpr hother
  rcases Nat.eq_or_lt_of_le (hmin other hother') with heq | hlt
  · exact Or.inr ⟨heq, le_of_idxOf_le (available_sorted _ _) hmem hother'
      (hfirst other hother' heq.ge)⟩
  · exact Or.inl hlt

/-- There is at most one level. -/
theorem IsLevel.unique {p : Profile} {devices : List DeviceStatus} {requested a b : Nat}
    (ha : p.IsLevel devices requested a) (hb : p.IsLevel devices requested b) : a = b := by
  have hab := ha.nearest b hb.shared
  have hba := hb.nearest a ha.shared
  omega

/-- **Exactly what `nearest` finds**, also when it finds nothing. -/
theorem nearest_eq_some_iff {p : Profile} (h : p.Sound) {devices : List DeviceStatus}
    {requested level : Nat} :
    p.nearest requested (p.participating devices) = some level ↔
      p.IsLevel devices requested level := by
  constructor
  · exact isLevel_of_nearest h
  · intro hlevel
    cases hnearest : p.nearest requested (p.participating devices) with
    | none =>
        have hnone := List.argmin_eq_none.mp hnearest
        have hmem := (mem_available_iff h).mpr hlevel.shared
        rw [hnone] at hmem
        cases hmem
    | some found =>
        rw [(isLevel_of_nearest h hnearest).unique hlevel]

end Profile

end Levels

/-- A volume request that was queued. -/
structure VolumeCommand where
  receiver : Nat
  request : Nat
  index : Nat
deriving DecidableEq

namespace World

variable {κ ε : Type}

section Checked

/-- The loop of `tick` over the followers, with `follower.mapping[&index]`. -/
def checkedFollowers (participating : List String) (snapshots : List ReceiverSnapshot)
    (index : Nat) : List Follower → Option (List (Nat × Nat))
  | [] => some []
  | f :: rest =>
      if f.device.id ∈ participating then
        match snapshots.find? (fun r => r.device.any f.device.matchesDevice) with
        | none => checkedFollowers participating snapshots index rest
        | some receiver =>
            match f.mapping.get? index with
            | none => none
            | some target =>
                (checkedFollowers participating snapshots index rest).map
                  (fun targets => (receiver.id, target) :: targets)
      else
        checkedFollowers participating snapshots index rest

variable (react : Registry × κ → ε → Registry × κ) (encode : Library → List UInt8)

/-- The loop of `tick` over the targets, with the `unwrap` of the device of each;
`sent` are the commands so far. -/
def checkedRestore (snapshots : List ReceiverSnapshot) (ready : Bool)
    (sent : List VolumeCommand) (w : World κ ε) :
    List (Nat × Nat) → Option (Bool × List VolumeCommand × World κ ε)
  | [] => some (ready, sent, w)
  | (id, target) :: rest =>
      match (snapshots.find? (fun r => r.id = id)).bind ReceiverSnapshot.device with
      | none => none
      | some actual =>
          if actual.volume ≠ target ∨ w.state.pending.contains id = true ∨
              w.state.blocked.contains id = true then
            if w.state.pending.contains id = false ∧ w.state.blocked.contains id = false then
              match w.call react (fun refusal r => r.restoreVolumeRequest refusal id target) with
              | (.ok request, w) =>
                  checkedRestore snapshots false (sent ++ [⟨id, request, target⟩])
                    (w.update (fun s => s.await id request target w.now)) rest
              | (.error e, w) =>
                  checkedRestore snapshots false sent (w.update (fun s => s.block id e)) rest
            else
              checkedRestore snapshots false sent w rest
          else
            checkedRestore snapshots ready sent w rest

/-- `fence` with its command. -/
def loggedFence (w : World κ ε) (profile : Profile) (participating : List String)
    (master : Nat) (device : DeviceStatus) : List VolumeCommand × World κ ε :=
  let w := w.denyAll react
  if w.state.blocked.contains master then
    ([], w)
  else
    match profile.nearest profile.volume participating with
    | none => ([], w)
    | some index =>
        match w.call react (fun refusal r => r.panelVolumeRequest refusal master index) with
        | (.ok request, w) =>
            let w := w.note (.panel master request)
            ([⟨master, request, index⟩], w.update (fun s =>
              { s.await master request index w.now with
                  masterSeen := some (master, device.volume)
                  needsFence := false }))
        | (.error e, w) => ([], w.update (fun s => s.block master e))

/-- The branch of `tick` that brings the group to the volume. -/
def checkedFollow (w : World κ ε) (profile : Profile) (participating : List String)
    (snapshots : List ReceiverSnapshot) (master : Nat) (device : DeviceStatus) :
    Option (List VolumeCommand × World κ ε) :=
  let (requested, w) := w.adopt react profile master device
  match profile.nearest requested participating with
  | none => some ([], w.denyAll react)
  | some index =>
      let w := w.aim profile index
      match checkedFollowers participating snapshots index profile.followers with
      | none => none
      | some followers =>
          let targets := (master, index) :: followers
          match w.checkedRestore react snapshots true [] targets with
          | none => none
          | some (ready, sent, w) =>
              some (sent, w.settle react encode profile (connected snapshots) targets index ready)

/-- `VolumeController::tick`, with `masters[0]` and the `unwrap` of its device. -/
def checkedTick (w : World κ ε) : Option (List VolumeCommand × World κ ε) :=
  if w.state.editing then
    some ([], w.denyAll react)
  else
    let (snapshots, w) := w.snapshots react
    let w := w.review react snapshots
    match w.state.library.current with
    | none => some ([], w.denyAll react)
    | some profile =>
        let masters := snapshots.filter (fun r => r.device.any profile.master.matchesDevice)
        if masters.length ≠ 1 then
          some ([], (w.denyAll react).update (fun s => { s with masterSeen := none }))
        else
          match masters[0]? with
          | none => none
          | some master =>
              match master.device with
              | none => none
              | some device =>
                  let participating :=
                    profile.participating (snapshots.filterMap ReceiverSnapshot.device)
                  let (barrier, w) := w.fenceNeeded react master.id
                  if barrier = true ∧ w.state.pending.contains master.id = false then
                    some (w.loggedFence react profile participating master.id device)
                  else
                    w.checkedFollow react encode profile participating snapshots master.id device

/-- `VolumeController::set_volume`, with the `unwrap` of the master's receiver. -/
def checkedSetVolume (w : World κ ε) (requested : Nat) :
    Option (List VolumeCommand × Except String Unit × World κ ε) :=
  if w.state.editing then
    some ([], .error "校准窗口打开时不能改变正式音量", w)
  else
    let (snapshots, w) := w.snapshots react
    match w.state.library.current with
    | none => some ([], .error "请先创建并应用校准配置", w)
    | some profile =>
        if (snapshots.filter
            (fun r => r.device.any profile.master.matchesDevice)).length = 1 then
          let participating := profile.participating (snapshots.filterMap ReceiverSnapshot.device)
          match profile.nearest requested participating with
          | none => some ([], .error "当前设备没有共同校准档位", w)
          | some index =>
              match snapshots.find? (fun r => r.device.any profile.master.matchesDevice) with
              | none => none
              | some master =>
                  match w.call react
                    (fun refusal r => r.panelVolumeRequest refusal master.id index) with
                  | (.error e, w) => some ([], .error e, w)
                  | (.ok request, w) =>
                      let w := w.note (.panel master.id request)
                      let w := w.update (fun s =>
                        { s.await master.id request index w.now with
                            library :=
                              { s.library with
                                  profiles := updateFirst (fun p => some p.id = s.library.active)
                                    (fun p => { p with volume := index }) s.library.profiles }
                            needsFence := false
                            message := ""
                            blocked := .empty
                            dirty := true
                            changed := w.now })
                      some ([⟨master.id, request, index⟩], .ok (), w.denyAll react)
        else
          some ([], .error "主设备未连接、标识重复或音量范围已变化", w)

end Checked

end World

section Lookups

namespace Registry

/-- A snapshot shows each receiver once. -/
theorem find?_snapshots (r : Registry) (id : Nat) :
    r.snapshots.find? (fun s => s.id = id) =
      (r.receivers.get? id).map (fun receiver => ⟨id, receiver.device⟩) := by
  rw [snapshots, List.find?_map, SortedMap.get?, Option.map_map]
  cases hfind : r.receivers.entries.find? (fun e => e.1 = id) with
  | none =>
      simp [Function.comp_def, hfind]
  | some e =>
      have hid : e.1 = id := by simpa using List.find?_some hfind
      simp [Function.comp_def, hfind, hid]

theorem deviceOf_snapshots (r : Registry) (id : Nat) :
    World.deviceOf (World.connected r.snapshots) id =
      ((r.snapshots.find? (fun s => s.id = id)).bind ReceiverSnapshot.device).map
        (fun d => (id, d)) := by
  rw [find?_snapshots]
  cases hget : (r.receivers.get? id).bind Receiver.device with
  | none =>
      have hnone : ¬ (World.deviceOf (World.connected r.snapshots) id).isSome = true := by
        rw [World.deviceOf, List.find?_isSome]
        rintro ⟨x, hx, hid⟩
        simp only [decide_eq_true_eq] at hid
        obtain ⟨receiver, hreceiver, hdevice⟩ := (mem_connected_snapshots r x).mp hx
        rw [hid] at hreceiver
        rw [hreceiver, Option.bind_some, hdevice] at hget
        cases hget
      rw [Option.not_isSome_iff_eq_none] at hnone
      rw [hnone]
      cases hreceiver : r.receivers.get? id with
      | none =>
          rfl
      | some receiver =>
          rw [hreceiver, Option.bind_some] at hget
          simp [hget]
  | some d =>
      obtain ⟨receiver, hreceiver, hdevice⟩ := Option.bind_eq_some_iff.mp hget
      have hmem := (mem_connected_snapshots r (id, d)).mpr ⟨receiver, hreceiver, hdevice⟩
      rw [deviceOf_connected_snapshots hmem, hreceiver]
      simp [hdevice]

end Registry

namespace World

theorem map_snd_connected (snapshots : List ReceiverSnapshot) :
    (connected snapshots).map Prod.snd = snapshots.filterMap ReceiverSnapshot.device := by
  simp [connected, List.map_filterMap, Function.comp_def]

theorem find?_connected (p : DeviceStatus → Bool) (snapshots : List ReceiverSnapshot) :
    (connected snapshots).find? (fun d => p d.2) =
      (snapshots.find? (fun r => r.device.any p)).bind
        (fun r => r.device.map (fun d => (r.id, d))) := by
  rw [connected, List.find?_filterMap]
  simp [Option.any_map]

theorem matching_connected (range : DeviceRange) (snapshots : List ReceiverSnapshot) :
    matching range (connected snapshots) =
      connected (snapshots.filter (fun r => r.device.any range.matchesDevice)) := by
  induction snapshots with
  | nil =>
      rfl
  | cons s snapshots ih =>
      simp only [matching, connected] at ih ⊢
      cases hdevice : s.device with
      | none =>
          simp [hdevice, ih]
      | some d =>
          cases hmatches : range.matchesDevice d with
          | true =>
              simp [hdevice, hmatches, ih]
          | false =>
              simp [hdevice, hmatches, ih]

theorem length_connected {snapshots : List ReceiverSnapshot}
    (h : ∀ s ∈ snapshots, s.device.isSome = true) :
    (connected snapshots).length = snapshots.length := by
  induction snapshots with
  | nil =>
      rfl
  | cons s snapshots ih =>
      obtain ⟨d, hd⟩ := Option.isSome_iff_exists.mp (h s List.mem_cons_self)
      have hrest := ih (fun x hx => h x (List.mem_cons_of_mem _ hx))
      simp only [connected] at hrest ⊢
      simp [hd, hrest]

theorem length_matching (range : DeviceRange) (snapshots : List ReceiverSnapshot) :
    (matching range (connected snapshots)).length =
      (snapshots.filter (fun r => r.device.any range.matchesDevice)).length := by
  rw [matching_connected]
  apply length_connected
  intro s hs
  obtain ⟨d, hd, _⟩ := (Option.any_eq_true _ _).mp (List.mem_filter.mp hs).2
  rw [hd]
  rfl

/-- One receiver matches: both ways of finding it agree. -/
theorem matching_of_count {range : DeviceRange} {snapshots : List ReceiverSnapshot}
    (h : (snapshots.filter (fun r => r.device.any range.matchesDevice)).length = 1) :
    ∃ s d, snapshots.filter (fun r => r.device.any range.matchesDevice) = [s] ∧
      snapshots.find? (fun r => r.device.any range.matchesDevice) = some s ∧
      s.device = some d ∧ matching range (connected snapshots) = [(s.id, d)] := by
  obtain ⟨s, hs⟩ := List.length_eq_one_iff.mp h
  have hmem : s ∈ snapshots.filter (fun r => r.device.any range.matchesDevice) :=
    hs ▸ List.mem_singleton_self s
  obtain ⟨d, hd, _⟩ := (Option.any_eq_true _ _).mp (List.mem_filter.mp hmem).2
  refine ⟨s, d, hs, ?_, hd, ?_⟩
  · rw [← List.head?_filter, hs]
    rfl
  · rw [matching_connected, hs]
    simp [connected, hd]

/-- The target of one follower. -/
def followerTarget (participating : List String) (devices : List (Nat × DeviceStatus))
    (index : Nat) (f : Follower) : Option (Nat × Nat) :=
  if f.device.id ∈ participating then
    match devices.find? (fun d => f.device.matchesDevice d.2), f.mapping.get? index with
    | some receiver, some target => some (receiver.1, target)
    | _, _ => none
  else
    none

theorem targets_eq (profile : Profile) (participating : List String)
    (devices : List (Nat × DeviceStatus)) (master index : Nat) :
    targets profile participating devices master index =
      (master, index) ::
        profile.followers.filterMap (followerTarget participating devices index) :=
  rfl

/-- **The entry of a participating follower is there.** -/
theorem checkedFollowers_eq {participating : List String} (snapshots : List ReceiverSnapshot)
    {index : Nat} {followers : List Follower}
    (h : ∀ f ∈ followers, f.device.id ∈ participating → ∃ v, f.mapping.get? index = some v) :
    checkedFollowers participating snapshots index followers =
      some (followers.filterMap
        (followerTarget participating (connected snapshots) index)) := by
  induction followers with
  | nil =>
      rfl
  | cons f rest ih =>
      have hrest := ih (fun g hg => h g (List.mem_cons_of_mem _ hg))
      by_cases hpart : f.device.id ∈ participating
      · obtain ⟨v, hv⟩ := h f List.mem_cons_self hpart
        rw [checkedFollowers, if_pos hpart, List.filterMap_cons, followerTarget, if_pos hpart,
          find?_connected, hv]
        cases hfind : snapshots.find? (fun r => r.device.any f.device.matchesDevice) with
        | none =>
            simp only [Option.bind_none]
            exact hrest
        | some s =>
            have hany : s.device.any f.device.matchesDevice = true := by
              simpa using List.find?_some hfind
            obtain ⟨d, hd, _⟩ := (Option.any_eq_true _ _).mp hany
            simp only [Option.bind_some, hd, Option.map_some, hrest]
      · rw [checkedFollowers, if_neg hpart, List.filterMap_cons, followerTarget, if_neg hpart]
        exact hrest

end World

end Lookups

section Commands

namespace World

variable {κ ε : Type}
variable (react : Registry × κ → ε → Registry × κ) (encode : Library → List UInt8)

/-- A command to a device of the group, with the volume that the level asks of it. -/
def CommandFor (profile : Profile) (devices : List (Nat × DeviceStatus)) (level : Nat)
    (c : VolumeCommand) : Prop :=
  ∃ d, (c.receiver, d) ∈ devices ∧ (d.minimum ≤ c.index ∧ c.index ≤ d.maximum) ∧
    ((profile.master.matchesDevice d = true ∧ c.index = level) ∨
      ∃ f ∈ profile.followers, f.Participates (devices.map Prod.snd) ∧
        f.device.matchesDevice d = true ∧ f.mapping.get? level = some c.index)

theorem range_of_matchesDevice {range : DeviceRange} {d : DeviceStatus}
    (h : range.matchesDevice d = true) :
    range.minimum = d.minimum ∧ range.maximum = d.maximum := by
  simp only [DeviceRange.matchesDevice, Bool.and_eq_true, decide_eq_true_eq] at h
  exact ⟨h.1.1.1.1.2, h.1.1.1.2⟩

theorem commandFor_master {profile : Profile} {devices : List (Nat × DeviceStatus)}
    {requested level master : Nat} {device : DeviceStatus}
    (hlevel : profile.IsLevel (devices.map Prod.snd) requested level)
    (hmaster : (master, device) ∈ matching profile.master devices) (request : Nat) :
    CommandFor profile devices level ⟨master, request, level⟩ := by
  obtain ⟨hmem, hmatches⟩ := List.mem_filter.mp hmaster
  obtain ⟨hmin, hmax⟩ := range_of_matchesDevice hmatches
  refine ⟨device, hmem, ?_, Or.inl ⟨hmatches, rfl⟩⟩
  rw [← hmin, ← hmax]
  exact hlevel.shared.1

/-- Every target of `tick` is a command of that kind. -/
theorem commandFor_of_mem_targets {profile : Profile} (hsound : profile.Sound)
    {devices : List (Nat × DeviceStatus)} {requested level master : Nat} {device : DeviceStatus}
    (hlevel : profile.IsLevel (devices.map Prod.snd) requested level)
    (hmaster : (master, device) ∈ matching profile.master devices) {c : VolumeCommand}
    (hc : (c.receiver, c.index) ∈
      targets profile (profile.participating (devices.map Prod.snd)) devices master level) :
    CommandFor profile devices level c := by
  obtain ⟨receiver, request, index⟩ := c
  rw [targets_eq] at hc
  rcases List.mem_cons.mp hc with hc | hc
  · cases hc
    exact commandFor_master hlevel hmaster request
  · obtain ⟨f, hf, htarget⟩ := List.mem_filterMap.mp hc
    rw [followerTarget] at htarget
    split_ifs at htarget with hpart
    split at htarget
    · rename_i found target hfound hget
      cases htarget
      have hmatches := List.find?_some hfound
      obtain ⟨hmin, hmax⟩ := range_of_matchesDevice hmatches
      refine ⟨found.2, List.mem_of_find?_eq_some hfound, ?_,
        Or.inr ⟨f, hf, (Profile.mem_participating_iff hsound hf).mp hpart, hmatches, hget⟩⟩
      rw [← hmin, ← hmax]
      exact hsound.mapped_range hf hget
    · cases htarget

/-- **Every target has a device to compare with**, and what is queued are targets. -/
theorem checkedRestore_eq {snapshots : List ReceiverSnapshot}
    (hdevices : ∀ id, deviceOf (connected snapshots) id =
      ((snapshots.find? (fun s => s.id = id)).bind ReceiverSnapshot.device).map (fun d => (id, d)))
    {targets : List (Nat × Nat)}
    (hfound : ∀ t ∈ targets, ∃ d, deviceOf (connected snapshots) t.1 = some d)
    (ready : Bool) (sent : List VolumeCommand) (w : World κ ε) :
    ∃ new, w.checkedRestore react snapshots ready sent targets =
        some ((w.restoreTargets react (connected snapshots) ready targets).1, sent ++ new,
          (w.restoreTargets react (connected snapshots) ready targets).2) ∧
      ∀ c ∈ new, (c.receiver, c.index) ∈ targets := by
  induction targets generalizing ready sent w with
  | nil =>
      refine ⟨[], ?_, fun c hc => absurd hc List.not_mem_nil⟩
      rw [List.append_nil]
      rfl
  | cons target rest ih =>
      have hrest := ih (fun t ht => hfound t (List.mem_cons_of_mem _ ht))
      obtain ⟨x, hx⟩ := hfound target List.mem_cons_self
      obtain ⟨id, target⟩ := target
      have hlookup := hdevices id
      rw [hx] at hlookup
      obtain ⟨actual, hactual, rfl⟩ := Option.map_eq_some_iff.mp hlookup.symm
      have hvolume : (∃ d ∈ deviceOf (connected snapshots) id, d.2.volume = target) ↔
          actual.volume = target := by
        rw [hx]
        simp
      rw [checkedRestore, hactual, restoreTargets]
      simp only
      by_cases hready : (∃ d ∈ deviceOf (connected snapshots) id, d.2.volume = target) ∧
          w.state.pending.contains id = false ∧ w.state.blocked.contains id = false
      · obtain ⟨heq, hpending, hblocked⟩ := hready
        have hnone : ¬ (actual.volume ≠ target ∨ w.state.pending.contains id = true ∨
            w.state.blocked.contains id = true) := by
          simp [hvolume.mp heq, hpending, hblocked]
        rw [if_neg hnone, if_pos ⟨heq, hpending, hblocked⟩]
        obtain ⟨new, hnew, hmem⟩ := hrest ready sent w
        exact ⟨new, hnew, fun c hc => List.mem_cons_of_mem _ (hmem c hc)⟩
      · have hsome : actual.volume ≠ target ∨ w.state.pending.contains id = true ∨
            w.state.blocked.contains id = true := by
          rw [hvolume] at hready
          simp only [not_and_or, Bool.not_eq_false] at hready
          exact hready
        rw [if_pos hsome, if_neg hready]
        by_cases hfree : w.state.pending.contains id = false ∧ w.state.blocked.contains id = false
        · rw [if_pos hfree, if_pos hfree]
          rcases w.call react (fun refusal r => r.restoreVolumeRequest refusal id target) with
            ⟨answer, w1⟩
          cases answer with
          | error e =>
              obtain ⟨new, hnew, hmem⟩ := hrest false sent (w1.update (fun s => s.block id e))
              exact ⟨new, hnew, fun c hc => List.mem_cons_of_mem _ (hmem c hc)⟩
          | ok request =>
              obtain ⟨new, hnew, hmem⟩ := hrest false (sent ++ [⟨id, request, target⟩])
                (w1.update (fun s => s.await id request target w1.now))
              refine ⟨⟨id, request, target⟩ :: new, ?_, ?_⟩
              · simp only [hnew, List.append_assoc, List.singleton_append]
              · intro c hc
                rcases List.mem_cons.mp hc with rfl | hc
                · exact List.mem_cons_self
                · exact List.mem_cons_of_mem _ (hmem c hc)
        · rw [if_neg hfree, if_neg hfree]
          obtain ⟨new, hnew, hmem⟩ := hrest false sent w
          exact ⟨new, hnew, fun c hc => List.mem_cons_of_mem _ (hmem c hc)⟩

theorem deviceOf_of_mem_targets {r : Registry} {profile : Profile}
    {participating : List String} {master index : Nat} {device : DeviceStatus}
    (hmaster : (master, device) ∈ connected r.snapshots) {t : Nat × Nat}
    (ht : t ∈ targets profile participating (connected r.snapshots) master index) :
    ∃ d, deviceOf (connected r.snapshots) t.1 = some d := by
  rw [targets_eq] at ht
  rcases List.mem_cons.mp ht with rfl | ht
  · exact ⟨_, Registry.deviceOf_connected_snapshots hmaster⟩
  · obtain ⟨f, _, htarget⟩ := List.mem_filterMap.mp ht
    rw [followerTarget] at htarget
    split_ifs at htarget
    split at htarget
    · rename_i found target hfound hget
      cases htarget
      exact ⟨_, Registry.deviceOf_connected_snapshots (List.mem_of_find?_eq_some hfound)⟩
    · cases htarget

/-- The branch of `tick` that brings the group to the volume does not panic. -/
theorem checkedFollow_eq {w : World κ ε} {r : Registry} {profile : Profile}
    (hsound : profile.Sound) {master : Nat} {device : DeviceStatus}
    (hmaster : (master, device) ∈ matching profile.master (connected r.snapshots)) :
    let participating := profile.participating ((connected r.snapshots).map Prod.snd)
    ∃ sent, w.checkedFollow react encode profile participating r.snapshots master device =
        some (sent,
          w.follow react encode profile participating (connected r.snapshots) master device) ∧
      ∀ c ∈ sent, ∃ level,
        profile.IsLevel ((connected r.snapshots).map Prod.snd)
          (w.adopt react profile master device).1 level ∧
        CommandFor profile (connected r.snapshots) level c := by
  simp only [checkedFollow, follow]
  rcases w.adopt react profile master device with ⟨requested, w1⟩
  simp only
  cases hindex : profile.nearest requested
      (profile.participating ((connected r.snapshots).map Prod.snd)) with
  | none =>
      exact ⟨[], rfl, fun c hc => absurd hc List.not_mem_nil⟩
  | some index =>
      have hlevel := Profile.isLevel_of_nearest hsound hindex
      obtain ⟨_, _, hmapped⟩ := Profile.nearest_spec hindex
      have hfound : ∀ t ∈ targets profile
          (profile.participating ((connected r.snapshots).map Prod.snd)) (connected r.snapshots)
          master index, ∃ d, deviceOf (connected r.snapshots) t.1 = some d :=
        fun t ht => deviceOf_of_mem_targets (List.mem_filter.mp hmaster).1 ht
      obtain ⟨new, hnew, hmem⟩ := checkedRestore_eq react (Registry.deviceOf_snapshots r) hfound
        true [] (w1.aim profile index)
      rw [targets_eq] at hnew
      simp only [checkedFollowers_eq r.snapshots hmapped, hnew, List.nil_append]
      refine ⟨new, rfl, ?_⟩
      intro c hc
      exact ⟨index, hlevel, commandFor_of_mem_targets hsound hlevel hmaster (hmem c hc)⟩

/-- The branch that puts a new barrier has no lookup that can panic. -/
theorem loggedFence_eq {w : World κ ε} {profile : Profile} (hsound : profile.Sound)
    {devices : List (Nat × DeviceStatus)} {master : Nat} {device : DeviceStatus}
    (hmaster : (master, device) ∈ matching profile.master devices) :
    let participating := profile.participating (devices.map Prod.snd)
    (w.loggedFence react profile participating master device).2 =
        w.fence react profile participating master device ∧
      ∀ c ∈ (w.loggedFence react profile participating master device).1, ∃ level,
        profile.IsLevel (devices.map Prod.snd) profile.volume level ∧
        CommandFor profile devices level c := by
  simp only [loggedFence, fence]
  split_ifs
  · exact ⟨rfl, fun c hc => absurd hc List.not_mem_nil⟩
  · cases hindex : profile.nearest profile.volume
        (profile.participating (devices.map Prod.snd)) with
    | none =>
        exact ⟨rfl, fun c hc => absurd hc List.not_mem_nil⟩
    | some index =>
        have hlevel := Profile.isLevel_of_nearest hsound hindex
        simp only
        rcases (w.denyAll react).call react
          (fun refusal r => r.panelVolumeRequest refusal master index) with ⟨answer, w1⟩
        cases answer with
        | error e =>
            exact ⟨rfl, fun c hc => absurd hc List.not_mem_nil⟩
        | ok request =>
            refine ⟨rfl, ?_⟩
            intro c hc
            rw [List.mem_singleton.mp hc]
            exact ⟨index, hlevel, commandFor_master hlevel hmaster request⟩

end World

end Commands

section WorkingVolume

/-- The volume that a tick took over. -/
def Incident.adoptedVolume : Incident → Option Nat
  | .adopted _ volume _ => some volume
  | _ => none

/-- The volume that a tick with these incidents works towards. -/
def workingVolume (profile : Profile) (incidents : List Incident) : Nat :=
  (incidents.findSome? Incident.adoptedVolume).getD profile.volume

/-- Incidents of other kinds after an adoption do not matter. -/
theorem workingVolume_append (profile : Profile) (new : List Incident) {rest : List Incident}
    (h : rest.findSome? Incident.adoptedVolume = none) :
    workingVolume profile (new ++ rest) = workingVolume profile new := by
  rw [workingVolume, List.findSome?_append, h, Option.or_none]
  rfl

namespace World

variable {κ ε : Type}
variable (react : Registry × κ → ε → Registry × κ) (encode : Library → List UInt8)

theorem adopt_incidents (w : World κ ε) (profile : Profile) (master : Nat)
    (device : DeviceStatus) :
    ∃ new, (w.adopt react profile master device).2.incidents = w.incidents ++ new ∧
      workingVolume profile new = (w.adopt react profile master device).1 := by
  have hcall := (call_agree react w (fun _ r => r.takeUnsolicitedVolume master)).incidents
  simp only [adopt]
  rcases hresult : w.call react (fun _ r => r.takeUnsolicitedVolume master) with
    ⟨unsolicited, w1⟩
  rw [hresult] at hcall
  cases unsolicited with
  | none =>
      exact ⟨[], hcall.trans (List.append_nil _).symm, rfl⟩
  | some volume =>
      simp only
      split_ifs
      · refine ⟨[.adopted master volume (w1.registry.queuedTo master)], ?_, rfl⟩
        rw [← hcall]
        rfl
      · exact ⟨[], hcall.trans (List.append_nil _).symm, rfl⟩

theorem settle_incidents (w : World κ ε) (profile : Profile)
    (devices : List (Nat × DeviceStatus)) (targets : List (Nat × Nat)) (index : Nat)
    (ready : Bool) :
    ∃ new, (w.settle react encode profile devices targets index ready).incidents =
        w.incidents ++ new ∧
      new.findSome? Incident.adoptedVolume = none := by
  cases ready with
  | false =>
      exact ⟨[], (denyAll_agree react w).incidents.trans (List.append_nil _).symm, rfl⟩
  | true =>
      refine ⟨[.confirmed profile.id index], ?_, rfl⟩
      have hagree := (perform_agree react w (fun _ r => r.approve
        (targets.filterMap (fun t => deviceOf devices t.1)))).incidents
      simp only [settle, if_true]
      rcases saveConfirmed_cases encode _ with ⟨hsave, _, _⟩ | ⟨_, _, hsave⟩
      · rw [hsave.incidents, ← hagree]
        rfl
      · rw [hsave, ← hagree]
        rfl

theorem follow_incidents {w : World κ ε} {profile : Profile} (participating : List String)
    (devices : List (Nat × DeviceStatus)) (master : Nat) (device : DeviceStatus)
    (hcurrent : w.state.library.current = some profile) :
    ∃ new, (w.follow react encode profile participating devices master device).incidents =
        w.incidents ++ new ∧
      workingVolume profile new = (w.adopt react profile master device).1 := by
  have hlibrary := (adopt_keeps react w profile master device).library
  obtain ⟨new, hnew, hworking⟩ := adopt_incidents react w profile master device
  simp only [follow]
  rcases hresult : w.adopt react profile master device with ⟨requested, w1⟩
  rw [hresult] at hnew hworking hlibrary
  simp only at hnew hworking ⊢
  cases hindex : profile.nearest requested participating with
  | none =>
      exact ⟨new, (denyAll_agree react w1).incidents.trans hnew, hworking⟩
  | some index =>
      have haim : (w1.aim profile index).incidents = w1.incidents := by
        rcases aim_cases (hlibrary.symm ▸ hcurrent) index with ⟨hw, _⟩ | ⟨_, hw⟩
        · rw [hw]
        · rw [hw]
          rfl
      have hrestore := (restoreTargets_agree react devices true (w1.aim profile index)
        (targets profile participating devices master index)).incidents
      obtain ⟨rest, hrest, hnone⟩ := settle_incidents react encode
        ((w1.aim profile index).restoreTargets react devices true
          (targets profile participating devices master index)).2 profile devices
        (targets profile participating devices master index) index
        ((w1.aim profile index).restoreTargets react devices true
          (targets profile participating devices master index)).1
      refine ⟨new ++ rest, ?_, ?_⟩
      · rw [← List.append_assoc, ← hnew, ← haim, ← hrestore]
        exact hrest
      · rw [workingVolume_append profile new hnone]
        exact hworking

theorem fence_incidents (w : World κ ε) (profile : Profile) (participating : List String)
    (master : Nat) (device : DeviceStatus) :
    ∃ new, (w.fence react profile participating master device).incidents = w.incidents ++ new ∧
      workingVolume profile new = profile.volume := by
  have hdeny := (denyAll_agree react w).incidents
  simp only [fence]
  split_ifs
  · exact ⟨[], hdeny.trans (List.append_nil _).symm, rfl⟩
  · cases hindex : profile.nearest profile.volume participating with
    | none =>
        exact ⟨[], hdeny.trans (List.append_nil _).symm, rfl⟩
    | some index =>
        have hcall := (call_agree react (w.denyAll react)
          (fun refusal r => r.panelVolumeRequest refusal master index)).incidents.trans hdeny
        simp only
        rcases hresult : (w.denyAll react).call react
          (fun refusal r => r.panelVolumeRequest refusal master index) with ⟨answer, w1⟩
        rw [hresult] at hcall
        cases answer with
        | error e =>
            exact ⟨[], hcall.trans (List.append_nil _).symm, rfl⟩
        | ok request =>
            refine ⟨[.panel master request], ?_, rfl⟩
            rw [← hcall]
            rfl

end World

end WorkingVolume

section NoPanic

namespace World

variable {κ ε : Type}
variable (react : Registry × κ → ε → Registry × κ) (encode : Library → List UInt8)

/-- All stored profiles are valid but for their volumes. -/
def SoundLibrary (w : World κ ε) : Prop :=
  ∀ p ∈ w.state.library.profiles, p.Sound

theorem current_sound {w : World κ ε} (h : w.SoundLibrary) {profile : Profile}
    (hcurrent : w.state.library.current = some profile) : profile.Sound :=
  h profile (List.mem_of_find?_eq_some hcurrent)

/-- **`tick` does not panic**, and what it queues follows the profile. -/
theorem checkedTick_eq {w : World κ ε} (h : w.SoundLibrary) :
    ∃ sent, w.checkedTick react encode = some (sent, w.tick react encode) ∧
      ∀ c ∈ sent, ∃ profile level, w.state.library.current = some profile ∧
        profile.IsLevel ((connected (w.snapshots react).1).map Prod.snd)
          (workingVolume profile ((w.tick react encode).incidents.drop w.incidents.length)) level ∧
        CommandFor profile (connected (w.snapshots react).1) level c := by
  simp only [checkedTick, tick]
  split_ifs
  · exact ⟨[], rfl, fun c hc => absurd hc List.not_mem_nil⟩
  · have hframe := (snapshots_agree react w).trans (review_agree react (w.snapshots react).2
      (w.snapshots react).1)
    have hsnapshots : (w.snapshots react).1 = (w.interrupt react).1.registry.snapshots := rfl
    generalize (w.snapshots react).2.review react (w.snapshots react).1 = w1 at hframe ⊢
    cases hprofile : w1.state.library.current with
    | none =>
        exact ⟨[], rfl, fun c hc => absurd hc List.not_mem_nil⟩
    | some profile =>
        have hcurrent : w.state.library.current = some profile := hframe.library ▸ hprofile
        have hsound := current_sound h hcurrent
        simp only
        by_cases hcount : ((w.snapshots react).1.filter
            (fun r => r.device.any profile.master.matchesDevice)).length = 1
        · obtain ⟨s, device, hmasters, _, hdevice, hmatching⟩ := matching_of_count hcount
          have hmaster : (s.id, device) ∈ matching profile.master
              (connected (w.snapshots react).1) := hmatching ▸ List.mem_singleton_self _
          rw [if_neg (not_not.mpr hcount)]
          simp only [hmasters, List.getElem?_cons_zero, hdevice, hmatching, tickMaster,
            ← map_snd_connected]
          have hfence := fenceNeeded_agree react w1 s.id
          rcases hresult : w1.fenceNeeded react s.id with ⟨barrier, w2⟩
          rw [hresult] at hfence
          have hincidents : w2.incidents = w.incidents :=
            (hframe.trans hfence).incidents
          have hprofile2 : w2.state.library.current = some profile := hfence.library ▸ hprofile
          simp only
          split_ifs
          · obtain ⟨heq, hsent⟩ := loggedFence_eq react (w := w2) hsound hmaster
            obtain ⟨new, hnew, hworking⟩ := fence_incidents react w2 profile
              (profile.participating ((connected (w.snapshots react).1).map Prod.snd)) s.id device
            refine ⟨_, by rw [← heq], ?_⟩
            intro c hc
            obtain ⟨level, hlevel, hcommand⟩ := hsent c hc
            refine ⟨profile, level, hcurrent, ?_, hcommand⟩
            rw [hnew, hincidents, List.drop_left, hworking]
            exact hlevel
          · rw [hsnapshots] at hmaster ⊢
            obtain ⟨sent, heq, hsent⟩ := checkedFollow_eq react encode (w := w2) hsound hmaster
            obtain ⟨new, hnew, hworking⟩ := follow_incidents react encode
              (profile.participating
                ((connected (w.interrupt react).1.registry.snapshots).map Prod.snd))
              (connected (w.interrupt react).1.registry.snapshots) s.id device hprofile2
            refine ⟨sent, heq, ?_⟩
            intro c hc
            obtain ⟨level, hlevel, hcommand⟩ := hsent c hc
            refine ⟨profile, level, hcurrent, ?_, hcommand⟩
            rw [hnew, hincidents, List.drop_left, hworking]
            exact hlevel
        · rw [if_pos hcount]
          refine ⟨[], ?_, fun c hc => absurd hc List.not_mem_nil⟩
          split
          · rename_i master device hmatching
            rw [← length_matching, hmatching] at hcount
            exact absurd rfl hcount
          · rfl

/-- **`set_volume` does not panic**, and what it queues follows the profile. -/
theorem checkedSetVolume_eq {w : World κ ε} (h : w.SoundLibrary) (requested : Nat) :
    ∃ sent, w.checkedSetVolume react requested = some (sent, w.setVolume react requested) ∧
      ∀ c ∈ sent, ∃ profile level, w.state.library.current = some profile ∧
        profile.IsLevel ((connected (w.snapshots react).1).map Prod.snd) requested level ∧
        CommandFor profile (connected (w.snapshots react).1) level c := by
  simp only [checkedSetVolume, setVolume]
  split_ifs
  · exact ⟨[], rfl, fun c hc => absurd hc List.not_mem_nil⟩
  · have hframe := snapshots_agree react w
    rcases hsnapshots : w.snapshots react with ⟨snapshots, w1⟩
    rw [hsnapshots] at hframe
    simp only
    cases hprofile : w1.state.library.current with
    | none =>
        exact ⟨[], rfl, fun c hc => absurd hc List.not_mem_nil⟩
    | some profile =>
        have hcurrent : w.state.library.current = some profile := hframe.library ▸ hprofile
        have hsound := current_sound h hcurrent
        simp only
        by_cases hcount : (snapshots.filter
            (fun r => r.device.any profile.master.matchesDevice)).length = 1
        · obtain ⟨s, device, _, hfind, _, hmatching⟩ := matching_of_count hcount
          have hmaster : (s.id, device) ∈ matching profile.master (connected snapshots) :=
            hmatching ▸ List.mem_singleton_self _
          rw [if_pos hcount]
          simp only [hfind, hmatching, ← map_snd_connected]
          cases hindex : profile.nearest requested
              (profile.participating ((connected snapshots).map Prod.snd)) with
          | none =>
              exact ⟨[], rfl, fun c hc => absurd hc List.not_mem_nil⟩
          | some index =>
              have hlevel := Profile.isLevel_of_nearest hsound hindex
              simp only
              rcases w1.call react
                (fun refusal r => r.panelVolumeRequest refusal s.id index) with ⟨answer, w2⟩
              cases answer with
              | error e =>
                  exact ⟨[], rfl, fun c hc => absurd hc List.not_mem_nil⟩
              | ok request =>
                  refine ⟨[⟨s.id, request, index⟩], rfl, ?_⟩
                  intro c hc
                  rw [List.mem_singleton.mp hc]
                  exact ⟨profile, index, hcurrent, hlevel,
                    commandFor_master hlevel hmaster request⟩
        · rw [if_neg hcount]
          refine ⟨[], ?_, fun c hc => absurd hc List.not_mem_nil⟩
          split
          · rename_i master device hmatching
            rw [← length_matching, hmatching] at hcount
            exact absurd rfl hcount
          · rfl

end World

end NoPanic

section Queues

namespace Registry

/-- No control message was queued. -/
def SameQueues (r r' : Registry) : Prop :=
  ∀ id, r'.queuedTo id = r.queuedTo id

theorem queuedTo_mapValues (r : Registry) (f : Nat → Receiver → Receiver)
    (hkeep : ∀ id receiver, (f id receiver).controls = receiver.controls) :
    r.SameQueues { r with receivers := r.receivers.mapValues f } := by
  intro id
  simp only [queuedTo, SortedMap.get?_mapValues, Option.map_map, Function.comp_def, hkeep]

theorem queuedTo_modify (r : Registry) (id : Nat) (f : Receiver → Receiver)
    (hkeep : ∀ receiver, (f receiver).controls = receiver.controls) :
    r.SameQueues { r with receivers := r.receivers.modify id f } := by
  apply queuedTo_mapValues
  intro id' receiver
  split_ifs
  · exact hkeep receiver
  · rfl

/-- A volume request that is not refused is the last message of its receiver. -/
theorem queuedTo_volumeRequestWithBarrier (r : Registry) (refusal : Nat → Option String)
    (id index : Nat) (barrier : Bool) :
    match r.volumeRequestWithBarrier refusal id index .restoreSpeaker barrier with
    | (.error _, r') => r.SameQueues r'
    | (.ok request, r') => ∀ id', r'.queuedTo id' =
        r.queuedTo id' ++ if id' = id then [.setVolume request index .restoreSpeaker] else [] := by
  cases hcontains : r.receivers.contains id with
  | false =>
      simp only [volumeRequestWithBarrier, nextRequest, hcontains]
      exact fun _ => rfl
  | true =>
      cases hrefusal : refusal id with
      | some e =>
          simp only [volumeRequestWithBarrier, nextRequest, hcontains, hrefusal, if_true]
          exact fun _ => rfl
      | none =>
          simp only [volumeRequestWithBarrier, nextRequest, hcontains, hrefusal, if_true]
          intro id'
          obtain ⟨receiver, hreceiver⟩ := (SortedMap.contains_eq_true_iff _ _).mp hcontains
          simp only [queuedTo, SortedMap.get?_modify]
          split_ifs with hid
          · rw [hid, hreceiver]
            rfl
          · rw [List.append_nil]

end Registry

/-- The messages of some commands to one receiver. -/
def messagesTo (id : Nat) (sent : List VolumeCommand) : List ControlMessage :=
  (sent.filter (fun c => c.receiver = id)).map
    (fun c => .setVolume c.request c.index .restoreSpeaker)

theorem messagesTo_append (id : Nat) (a b : List VolumeCommand) :
    messagesTo id (a ++ b) = messagesTo id a ++ messagesTo id b := by
  rw [messagesTo, List.filter_append, List.map_append]
  rfl

theorem messagesTo_singleton (id receiver request index : Nat) :
    messagesTo id [⟨receiver, request, index⟩] =
      if id = receiver then [.setVolume request index .restoreSpeaker] else [] := by
  by_cases hid : receiver = id
  · simp [messagesTo, hid]
  · simp [messagesTo, hid, Ne.symm hid]

namespace World

variable {κ ε : Type}
variable (react : Registry × κ → ε → Registry × κ) (encode : Library → List UInt8)

/-- If nothing happens in between, exactly these commands are queued. -/
def Sends (w w' : World κ ε) (sent : List VolumeCommand) : Prop :=
  w.script = [] → w'.script = [] ∧
    ∀ id, w'.registry.queuedTo id = w.registry.queuedTo id ++ messagesTo id sent

theorem Sends.refl (w : World κ ε) : Sends w w [] :=
  fun h => ⟨h, fun _ => (List.append_nil _).symm⟩

theorem Sends.trans {w₁ w₂ w₃ : World κ ε} {a b : List VolumeCommand} (h : Sends w₁ w₂ a)
    (h' : Sends w₂ w₃ b) : Sends w₁ w₃ (a ++ b) := by
  intro hscript
  obtain ⟨hscript₂, hqueued⟩ := h hscript
  obtain ⟨hscript₃, hqueued'⟩ := h' hscript₂
  refine ⟨hscript₃, ?_⟩
  intro id
  rw [hqueued', hqueued, messagesTo_append, List.append_assoc]

/-- A step that queues nothing, before others. -/
theorem Sends.after {w₁ w₂ w₃ : World κ ε} {sent : List VolumeCommand} (h : Sends w₁ w₂ [])
    (h' : Sends w₂ w₃ sent) : Sends w₁ w₃ sent :=
  h.trans h'

/-- A step that queues nothing, after others. -/
theorem Sends.before {w₁ w₂ w₃ : World κ ε} {sent : List VolumeCommand} (h : Sends w₁ w₂ sent)
    (h' : Sends w₂ w₃ []) : Sends w₁ w₃ sent := by
  have htrans := h.trans h'
  rw [List.append_nil] at htrans
  exact htrans

theorem interrupt_quiet {w : World κ ε} (h : w.script = []) :
    w.interrupt react = (w, fun _ => none) := by
  rw [interrupt, h]

theorem call_sends {β : Type} (w : World κ ε)
    (f : (Nat → Option String) → Registry → β × Registry)
    (hkeep : ∀ refusal r, Registry.SameQueues r (f refusal r).2) :
    Sends w (w.call react f).2 [] := by
  intro hscript
  rw [call, interrupt_quiet react hscript]
  exact ⟨hscript, fun id => (hkeep _ _ id).trans (List.append_nil _).symm⟩

theorem denyAll_sends (w : World κ ε) : Sends w (w.denyAll react) [] :=
  call_sends react w _ (fun _ r => r.queuedTo_mapValues _ (fun _ _ => rfl))

theorem snapshots_sends (w : World κ ε) : Sends w (w.snapshots react).2 [] :=
  call_sends react w _ (fun _ _ _ => rfl)

theorem request_sends (w : World κ ε) (id index : Nat) (barrier : Bool) :
    match w.call react (fun refusal r =>
      r.volumeRequestWithBarrier refusal id index .restoreSpeaker barrier) with
    | (.error _, w') => Sends w w' []
    | (.ok request, w') => Sends w w' [⟨id, request, index⟩] := by
  rcases hresult : w.call react (fun refusal r =>
    r.volumeRequestWithBarrier refusal id index .restoreSpeaker barrier) with ⟨answer, w'⟩
  have hquiet : w.script = [] → w'.script = [] ∧
      w.registry.volumeRequestWithBarrier (fun _ => none) id index .restoreSpeaker barrier =
        (answer, w'.registry) := by
    intro hscript
    rw [call, interrupt_quiet react hscript] at hresult
    cases hresult
    exact ⟨hscript, rfl⟩
  have hqueued := w.registry.queuedTo_volumeRequestWithBarrier (fun _ => none) id index barrier
  cases answer with
  | error e =>
      intro hscript
      obtain ⟨hscript', heq⟩ := hquiet hscript
      rw [heq] at hqueued
      exact ⟨hscript', fun id' => (hqueued id').trans (List.append_nil _).symm⟩
  | ok request =>
      intro hscript
      obtain ⟨hscript', heq⟩ := hquiet hscript
      rw [heq] at hqueued
      refine ⟨hscript', ?_⟩
      intro id'
      rw [messagesTo_singleton]
      exact hqueued id'

theorem reviewPending_sends (ids : List Nat) (failures : List (Nat × String)) (w : World κ ε)
    (entries : List (Nat × Pending)) :
    Sends w (w.reviewPending react ids failures entries).2 [] := by
  induction entries generalizing w failures with
  | nil =>
      exact .refl w
  | cons entry rest ih =>
      obtain ⟨id, pending⟩ := entry
      rw [reviewPending]
      by_cases hid : id ∈ ids
      · rw [if_pos hid]
        have hcall := call_sends react w (fun _ r => r.takeReply id pending.request)
          (fun _ r => r.queuedTo_modify _ _ (fun _ => rfl))
        rcases hresult : w.call react (fun _ r => r.takeReply id pending.request) with
          ⟨reply, w1⟩
        rw [hresult] at hcall
        cases reply with
        | some reply =>
            exact hcall.after (ih _ (w1.forget id))
        | none =>
            simp only
            split_ifs
            · exact hcall.after (ih _ (w1.forget id))
            · exact hcall.after (ih _ w1)
      · rw [if_neg hid]
        exact ih _ (w.forget id)

theorem review_sends (w : World κ ε) (snapshots : List ReceiverSnapshot) :
    Sends w (w.review react snapshots) [] := by
  simp only [review]
  exact reviewPending_sends react (snapshots.map ReceiverSnapshot.id) []
    (w.update (fun s => { s with
      blocked := s.blocked.filter (fun id _ => id ∈ snapshots.map ReceiverSnapshot.id) })) _

theorem fenceNeeded_sends (w : World κ ε) (master : Nat) :
    Sends w (w.fenceNeeded react master).2 [] := by
  rw [fenceNeeded]
  split_ifs
  · exact .refl w
  · exact call_sends react w _ (fun _ _ _ => rfl)

theorem adopt_sends (w : World κ ε) (profile : Profile) (master : Nat) (device : DeviceStatus) :
    Sends w (w.adopt react profile master device).2 [] := by
  have hcall := call_sends react w (fun _ r => r.takeUnsolicitedVolume master)
    (fun _ r => r.queuedTo_modify _ _ (fun _ => rfl))
  simp only [adopt]
  rcases hresult : w.call react (fun _ r => r.takeUnsolicitedVolume master) with
    ⟨unsolicited, w1⟩
  rw [hresult] at hcall
  cases unsolicited with
  | none =>
      exact hcall
  | some volume =>
      simp only
      split_ifs
      · exact hcall
      · exact hcall

theorem aim_sends (w : World κ ε) (profile : Profile) (index : Nat) :
    Sends w (w.aim profile index) [] := by
  rw [aim]
  split_ifs
  · exact .refl w
  · exact .refl w

theorem settle_sends (w : World κ ε) (profile : Profile) (devices : List (Nat × DeviceStatus))
    (targets : List (Nat × Nat)) (index : Nat) (ready : Bool) :
    Sends w (w.settle react encode profile devices targets index ready) [] := by
  cases ready with
  | false =>
      exact denyAll_sends react w
  | true =>
      have happrove := call_sends react w (fun _ r => ((), r.approve
        (targets.filterMap (fun t => deviceOf devices t.1))))
        (fun _ r => r.queuedTo_mapValues _ (fun _ _ => rfl))
      have hsaved : ∀ w' : World κ ε, Sends w' (w'.saveConfirmed encode) [] := by
        intro w'
        rw [saveConfirmed]
        split_ifs
        · rcases ensureWritable_cases w'.state with ⟨e, he⟩ | ⟨_, he⟩
          · rw [he]
            exact .refl w'
          · rw [he]
            rcases saveLibrary_cases encode w' w'.state.persisted with ⟨e, hs⟩ | ⟨_, hs⟩
            · simp only [hs]
              exact .refl w'
            · simp only [hs]
              exact .refl w'
        · exact .refl w'
      have hnoted : ∀ (w' : World κ ε) f i,
          Sends w' (((w'.update f).note i).saveConfirmed encode) [] :=
        fun w' f i => hsaved ((w'.update f).note i)
      simp only [settle, if_true]
      exact happrove.after (hnoted _ _ _)

/-- The log of the loop over the targets is what it queues. -/
theorem checkedRestore_sends {snapshots : List ReceiverSnapshot} {targets : List (Nat × Nat)}
    {ready ready' : Bool} {sent sent' : List VolumeCommand} {w w' : World κ ε}
    (h : w.checkedRestore react snapshots ready sent targets = some (ready', sent', w')) :
    ∃ new, sent' = sent ++ new ∧ Sends w w' new := by
  induction targets generalizing ready sent w with
  | nil =>
      cases h
      exact ⟨[], (List.append_nil _).symm, .refl _⟩
  | cons target rest ih =>
      obtain ⟨id, target⟩ := target
      rw [checkedRestore] at h
      cases hactual : (snapshots.find? (fun s => s.id = id)).bind ReceiverSnapshot.device with
      | none =>
          rw [hactual] at h
          cases h
      | some actual =>
          rw [hactual] at h
          simp only at h
          split_ifs at h
          · have hcall := request_sends react w id target false
            rcases hresult : w.call react
              (fun refusal r => r.restoreVolumeRequest refusal id target) with ⟨answer, w1⟩
            rw [hresult] at h
            simp only [Registry.restoreVolumeRequest, Registry.volumeRequest] at hresult
            rw [hresult] at hcall
            cases answer with
            | error e =>
                obtain ⟨new, hsent, hsends⟩ := ih h
                exact ⟨new, hsent, Sends.after hcall hsends⟩
            | ok request =>
                obtain ⟨new, hsent, hsends⟩ := ih h
                refine ⟨⟨id, request, target⟩ :: new, ?_, ?_⟩
                · rw [hsent, List.append_assoc]
                  rfl
                · exact Sends.trans hcall hsends
          · exact ih h
          · exact ih h

theorem loggedFence_sends (w : World κ ε) (profile : Profile) (participating : List String)
    (master : Nat) (device : DeviceStatus) :
    Sends w (w.loggedFence react profile participating master device).2
      (w.loggedFence react profile participating master device).1 := by
  have hdeny := denyAll_sends react w
  simp only [loggedFence]
  split_ifs
  · exact hdeny
  · cases hindex : profile.nearest profile.volume participating with
    | none =>
        exact hdeny
    | some index =>
        have hcall := request_sends react (w.denyAll react) master index true
        simp only
        rcases hresult : (w.denyAll react).call react
          (fun refusal r => r.panelVolumeRequest refusal master index) with ⟨answer, w1⟩
        simp only [Registry.panelVolumeRequest] at hresult
        rw [hresult] at hcall
        cases answer with
        | error e =>
            exact hdeny.after hcall
        | ok request =>
            exact hdeny.after hcall

theorem checkedFollow_sends {w w' : World κ ε} {profile : Profile}
    {participating : List String} {snapshots : List ReceiverSnapshot} {master : Nat}
    {device : DeviceStatus} {sent : List VolumeCommand}
    (h : w.checkedFollow react encode profile participating snapshots master device =
      some (sent, w')) : Sends w w' sent := by
  have hadopt := adopt_sends react w profile master device
  simp only [checkedFollow] at h
  rcases hresult : w.adopt react profile master device with ⟨requested, w1⟩
  rw [hresult] at h hadopt
  simp only at h hadopt
  cases hindex : profile.nearest requested participating with
  | none =>
      rw [hindex] at h
      cases h
      exact hadopt.after (denyAll_sends react w1)
  | some index =>
      rw [hindex] at h
      simp only at h
      have haim := hadopt.after (aim_sends w1 profile index)
      cases hfollowers : checkedFollowers participating snapshots index profile.followers with
      | none =>
          rw [hfollowers] at h
          cases h
      | some followers =>
          rw [hfollowers] at h
          simp only at h
          cases hrestore : (w1.aim profile index).checkedRestore react snapshots true []
              ((master, index) :: followers) with
          | none =>
              rw [hrestore] at h
              cases h
          | some result =>
              obtain ⟨ready, sent', w2⟩ := result
              rw [hrestore] at h
              cases h
              obtain ⟨new, rfl, hsends⟩ := checkedRestore_sends react hrestore
              exact haim.after (hsends.before (settle_sends react encode w2 _ _ _ _ _))

/-- **The log of `tick` is what it queues.** -/
theorem checkedTick_sends {w w' : World κ ε} {sent : List VolumeCommand}
    (h : w.checkedTick react encode = some (sent, w')) : Sends w w' sent := by
  simp only [checkedTick] at h
  split_ifs at h
  · cases h
    exact denyAll_sends react w
  · have hframe := (snapshots_sends react w).after
      (review_sends react (w.snapshots react).2 (w.snapshots react).1)
    generalize (w.snapshots react).2.review react (w.snapshots react).1 = w1 at hframe h
    have hdeny := hframe.after (denyAll_sends react w1)
    cases hprofile : w1.state.library.current with
    | none =>
        rw [hprofile] at h
        cases h
        exact hdeny
    | some profile =>
        rw [hprofile] at h
        simp only at h
        split_ifs at h
        · cases h
          exact hdeny
        · split at h
          · cases h
          · rename_i master _
            split at h
            · cases h
            · rename_i device _
              have hfence := hframe.after (fenceNeeded_sends react w1 master.id)
              split_ifs at h
              · have hlogged := loggedFence_sends react (w1.fenceNeeded react master.id).2 profile
                  (profile.participating
                    ((w.snapshots react).1.filterMap ReceiverSnapshot.device)) master.id device
                rw [Option.some.inj h] at hlogged
                exact hfence.after hlogged
              · exact hfence.after (checkedFollow_sends react encode h)

/-- **The log of `set_volume` is what it queues.** -/
theorem checkedSetVolume_sends {w w' : World κ ε} {requested : Nat}
    {result : Except String Unit} {sent : List VolumeCommand}
    (h : w.checkedSetVolume react requested = some (sent, result, w')) : Sends w w' sent := by
  simp only [checkedSetVolume] at h
  split_ifs at h
  · cases h
    exact .refl w
  · have hframe := snapshots_sends react w
    rcases hsnapshots : w.snapshots react with ⟨snapshots, w1⟩
    rw [hsnapshots] at h hframe
    simp only at h
    cases hprofile : w1.state.library.current with
    | none =>
        rw [hprofile] at h
        cases h
        exact hframe
    | some profile =>
        rw [hprofile] at h
        simp only at h
        split_ifs at h
        · split at h
          · cases h
            exact hframe
          · rename_i index _
            split at h
            · cases h
            · rename_i master _
              have hcall := request_sends react w1 master.id index true
              rcases hresult : w1.call react
                (fun refusal r => r.panelVolumeRequest refusal master.id index) with ⟨answer, w2⟩
              rw [hresult] at h
              simp only [Registry.panelVolumeRequest] at hresult
              rw [hresult] at hcall
              cases answer with
              | error e =>
                  cases h
                  exact hframe.after hcall
              | ok request =>
                  cases h
                  have hdeny : ∀ f i, Sends w2 (((w2.note i).update f).denyAll react) [] :=
                    fun f i => denyAll_sends react ((w2.note i).update f)
                  exact hframe.after (Sends.before hcall (hdeny _ _))
        · cases h
          exact hframe

end World

end Queues

section Runs

namespace World

variable {κ ε : Type}
variable (react : Registry × κ → ε → Registry × κ) (encode : Library → List UInt8)

theorem withVolume_sound {l : Library} (h : ∀ p ∈ l.profiles, p.Sound) (id index : Nat) :
    ∀ p ∈ (l.withVolume id index).profiles, p.Sound := by
  intro p hp
  rcases Library.mem_withVolume hp with hp | ⟨q, hq, rfl⟩
  · exact h p hp
  · exact (h q (List.mem_of_find?_eq_some hq)).withVolume index

theorem persisted_sound {w : World κ ε} (h : w.SoundLibrary) :
    ∀ p ∈ w.state.persisted.profiles, p.Sound := by
  cases hconfirmed : w.state.confirmed with
  | none =>
      rw [ControlState.persisted, hconfirmed]
      exact h
  | some confirmed =>
      obtain ⟨id, index⟩ := confirmed
      rw [persisted_eq_withVolume hconfirmed]
      exact withVolume_sound h id index

theorem put_sound {l l' : Library} {profile : Profile} {id : Nat}
    (h : ∀ p ∈ l.profiles, p.Sound) (hput : l.put profile = .ok (l', id)) :
    ∀ p ∈ l'.profiles, p.Sound := by
  obtain ⟨stored, hvalid, _, _, _, rfl⟩ := Library.put_cases hput
  intro p hp
  simp only at hp
  split_ifs at hp
  · rcases mem_updateFirst hp with hp | ⟨_, _, rfl⟩
    · exact h p hp
    · exact hvalid.sound
  · rcases List.mem_append.mp hp with hp | hp
    · exact h p hp
    · rw [List.mem_singleton.mp hp]
      exact hvalid.sound

theorem SoundLibrary.of_volumeStep {w w' : World κ ε} {o : Operation} (h : w.SoundLibrary)
    (hstep : VolumeStep encode o w w') : w'.SoundLibrary := by
  intro p hp
  cases hstep with
  | same hsame =>
      exact h p (hsame.library ▸ hp)
  | requested profile index _ _ hlibrary _ _ =>
      exact withVolume_sound h profile.id index p (hlibrary ▸ hp)
  | ready profile index _ _ _ hlibrary _ _ _ =>
      exact withVolume_sound h profile.id index p (hlibrary ▸ hp)
  | readySaved profile index _ _ _ hlibrary _ _ =>
      exact withVolume_sound h profile.id index p (hlibrary ▸ hp)
  | stored name copy draft stored library id _ _ _ _ hput hlibrary _ _ =>
      exact put_sound (persisted_sound h) hput p (hlibrary ▸ hp)
  | rewritten library _ _ hprofiles hlibrary _ =>
      exact persisted_sound h p (hprofiles p (hlibrary ▸ hp))

theorem step_soundLibrary {w : World κ ε} (h : w.SoundLibrary) (e : WorldEvent ε) :
    (w.step react encode e).SoundLibrary := by
  obtain ⟨w0, o, hsame, _, hstep, _⟩ := step_volumeStep react encode w e
  have h0 : w0.SoundLibrary := fun p hp => h p (hsame.library ▸ hp)
  exact h0.of_volumeStep encode hstep

theorem start_soundLibrary (decode : List UInt8 → Except String (Library × List UInt8))
    (file : ProfileFile) (outside : κ) (now : Nat) :
    (start ε decode file outside now).SoundLibrary := by
  intro p hp
  simp only [start] at hp
  split at hp
  · rename_i library hload
    exact ((wellFormed_of_load hload).valid p hp).sound
  · cases hp

/-- **Group volume commands are correct, and nothing panics.**  In every reachable
state, whatever happens within the operation, `tick` and `set_volume` with all
their lookups written out do what they do without; each queued volume request goes
to the master, or to a follower that takes part, with a volume in its range that
the level nearest to the requested volume asks of it; and the log is complete: if
nothing happens in between, it is what joins the queues. -/
theorem group_commands_follow_the_profile
    (decode : List UInt8 → Except String (Library × List UInt8)) (file : ProfileFile)
    (outside : κ) (now : Nat) (es : List (WorldEvent ε)) (script : List (Call ε))
    (saveFailure : Option String) :
    let reached := run (step react encode) (start ε decode file outside now) es
    let w : World κ ε := { reached with script := script, saveFailure := saveFailure }
    let devices := connected (w.snapshots react).1
    (∃ sent, w.checkedTick react encode = some (sent, w.tick react encode) ∧
      Sends w (w.tick react encode) sent ∧
      ∀ c ∈ sent, ∃ profile level, w.state.library.current = some profile ∧
        profile.IsLevel (devices.map Prod.snd)
          (workingVolume profile ((w.tick react encode).incidents.drop w.incidents.length)) level ∧
        CommandFor profile devices level c) ∧
      ∀ requested,
        ∃ sent, w.checkedSetVolume react requested = some (sent, w.setVolume react requested) ∧
          Sends w (w.setVolume react requested).2 sent ∧
          ∀ c ∈ sent, ∃ profile level, w.state.library.current = some profile ∧
            profile.IsLevel (devices.map Prod.snd) requested level ∧
            CommandFor profile devices level c := by
  intro reached w devices
  have hreached : reached.SoundLibrary :=
    run_preserves SoundLibrary (fun w e hw => step_soundLibrary react encode hw e)
      (start_soundLibrary decode file outside now) es
  have hw : w.SoundLibrary := hreached
  refine ⟨?_, ?_⟩
  · obtain ⟨sent, heq, hsent⟩ := checkedTick_eq react encode hw
    exact ⟨sent, heq, checkedTick_sends react encode heq, hsent⟩
  · intro requested
    obtain ⟨sent, heq, hsent⟩ := checkedSetVolume_eq react hw requested
    exact ⟨sent, heq, checkedSetVolume_sends react heq, hsent⟩

end World

end Runs

end Soundwave

import Soundwave.ReceiverRegistry

/-!
# The volume controller

Model of `windows-server/src/application/volume_control.rs`.  All operations of
the controller hold its own lock, so they run one after the other; but they use
the registry through many separate calls, and other threads may use it in
between.

`World` is everything an operation can see.  Before each of its registry calls
an operation lets the environment act: the next entry of its `script` says how
much time passes, what the other threads do and which control queues refuse a
message.  The environment is a parameter: `react` is the effect of its events on
the registry and on a part `κ` of the world of its own.
-/

namespace Soundwave

/-- `Pending`; instants are milliseconds. -/
structure Pending where
  request : Nat
  index : Nat
  at' : Nat
deriving DecidableEq

/-- `State`. -/
structure ControlState where
  library : Library
  draft : Option Profile
  editing : Bool
  originals : List (Nat × DeviceStatus)
  pending : SortedMap Nat Pending
  blocked : SortedMap Nat Unit
  masterSeen : Option (Nat × Nat)
  message : String
  dirty : Bool
  changed : Nat
  confirmed : Option (Nat × Nat)
  loadError : Option String
  needsFence : Bool

namespace ControlState

/-- `State::new`. -/
def new (library : Library) (message : String) (now : Nat) : ControlState where
  library := library
  draft := none
  editing := false
  originals := []
  pending := .empty
  blocked := .empty
  masterSeen := none
  message := message
  dirty := false
  changed := now
  confirmed := library.current.map (fun p => (p.id, p.volume))
  loadError := none
  needsFence := false

/-- `State::ensure_writable`. -/
def ensureWritable (s : ControlState) : Except String Unit :=
  match s.loadError with
  | some error => .error s!"音量配置无法读取，已禁止覆盖原文件：{error}"
  | none => .ok ()

/-- Wait for the confirmation of a volume request. -/
def await (s : ControlState) (id request index now : Nat) : ControlState :=
  { s with pending := s.pending.insert id { request := request, index := index, at' := now } }

/-- Leave a receiver alone until the next change, and say why. -/
def block (s : ControlState) (id : Nat) (message : String) : ControlState :=
  { s with blocked := s.blocked.insert id (), message := message }

/-- `State::persisted`. -/
def persisted (s : ControlState) : Library :=
  match s.confirmed with
  | some (id, index) =>
      { s.library with
          profiles := updateFirst (fun p => p.id = id) (fun p => { p with volume := index })
            s.library.profiles }
  | none => s.library

end ControlState

/-- What the environment does before one registry call. -/
structure Call (ε : Type) where
  elapsed : Nat
  events : List ε
  refusal : Nat → Option String

/-- What the operations do, as far as statements about whole runs speak of it: a
panel request is queued, a tick takes over an unsolicited volume (`queued` is
what was ever queued to that receiver), `save_draft` stores a volume, a tick finds
the whole group ready. -/
inductive Incident where
  | panel (receiver request : Nat)
  | adopted (receiver volume : Nat) (queued : List ControlMessage)
  | stored (id volume : Nat)
  | confirmed (id volume : Nat)
deriving DecidableEq

/-- Everything the controller sees.  `writes` and `incidents` are logs of the
libraries saved and of the incidents, oldest first. -/
structure World (κ ε : Type) where
  state : ControlState
  registry : Registry
  outside : κ
  calibrating : Bool
  now : Nat
  file : ProfileFile
  script : List (Call ε)
  saveFailure : Option String
  writes : List Library
  incidents : List Incident

namespace World

variable {κ ε : Type}

section Calls

variable (react : Registry × κ → ε → Registry × κ)

/-- The environment acts before a registry call. -/
def interrupt (w : World κ ε) : World κ ε × (Nat → Option String) :=
  match w.script with
  | [] => (w, fun _ => none)
  | c :: script =>
      let after := run react (w.registry, w.outside) c.events
      ({ w with
          registry := after.1
          outside := after.2
          now := w.now + c.elapsed
          script := script },
        c.refusal)

/-- One registry call of an operation. -/
def call {β : Type} (w : World κ ε) (f : (Nat → Option String) → Registry → β × Registry) :
    β × World κ ε :=
  let interrupted := w.interrupt react
  let result := f interrupted.2 interrupted.1.registry
  (result.1, { interrupted.1 with registry := result.2 })

/-- A registry call without result. -/
def perform (w : World κ ε) (f : (Nat → Option String) → Registry → Registry) : World κ ε :=
  (w.call react (fun refusal r => ((), f refusal r))).2

/-- `registry.deny_all()`. -/
def denyAll (w : World κ ε) : World κ ε :=
  w.perform react (fun _ r => r.denyAll)

/-- `registry.snapshots()`, those with a device. -/
def snapshots (w : World κ ε) : List ReceiverSnapshot × World κ ε :=
  w.call react (fun _ r => (r.snapshots, r))

end Calls

/-- Change the controller's own state. -/
def update (w : World κ ε) (f : ControlState → ControlState) : World κ ε :=
  { w with state := f w.state }

/-- Write an incident down. -/
def note (w : World κ ε) (incident : Incident) : World κ ε :=
  { w with incidents := w.incidents ++ [incident] }

/-- The receivers of a snapshot that have reported a device. -/
def connected (snapshots : List ReceiverSnapshot) : List (Nat × DeviceStatus) :=
  snapshots.filterMap (fun s => s.device.map (fun d => (s.id, d)))

section Saving

variable (encode : Library → List UInt8)

/-- `library.save(&self.path)`. -/
def saveLibrary (w : World κ ε) (library : Library) : Except String Unit × World κ ε :=
  match library.save encode w.saveFailure with
  | .error e => (.error e, w)
  | .ok file => (.ok (), { w with file := file, writes := w.writes ++ [library] })

end Saving

section Window

variable (react : Registry × κ → ε → Registry × κ)

/-- `VolumeController::open`. -/
def openWindow (w : World κ ε) : Except String Unit × World κ ε :=
  if w.state.editing then
    (.error "校准窗口已打开", w)
  else if w.state.pending.size ≠ 0 then
    (.error "请等待音量指令确认后打开校准窗口", w)
  else
    let w := w.update (fun s => { s with editing := true, draft := s.library.current })
    let (snapshots, w) := w.snapshots react
    let w := w.update (fun s =>
      { s with originals := connected snapshots, blocked := .empty })
    let w := w.denyAll react
    (.ok (), { w with calibrating := true })

/-- The loop of `close` over the remembered volumes. -/
def restoreOriginals (w : World κ ε) : List (Nat × DeviceStatus) → World κ ε
  | [] => w
  | (id, original) :: rest =>
      match w.call react (fun refusal r => r.restoreVolumeRequest refusal id original.volume) with
      | (.ok request, w) =>
          restoreOriginals
            (w.update (fun s => s.await id request original.volume w.now)) rest
      | (.error e, w) =>
          let name := original.name
          restoreOriginals
            (w.update (fun s => { s with message := s!"恢复 {name} 音量失败：{e}" })) rest

/-- `VolumeController::close`. -/
def closeWindow (w : World κ ε) : World κ ε :=
  let w := w.perform react (fun refusal r => r.broadcast refusal (.calibrationTone 0 false))
  let w := w.perform react (fun refusal r => r.broadcast refusal (.calibrationSession 0 .cancel))
  let originals := w.state.originals
  let w := w.update (fun s => { s with pending := .empty, originals := [] })
  let w := w.restoreOriginals react originals
  let w := w.update (fun s =>
    { s with editing := false, draft := none, masterSeen := none, blocked := .empty })
  { w with calibrating := false }

/-- The loop of `set_master` over the connected devices. -/
def addFollowers (draft : Profile) : List (Nat × DeviceStatus) → Profile
  | [] => draft
  | (_, device) :: rest =>
      if device.deviceId = draft.master.id ∨ device.deviceId = "" ∨ device.speaker = false ∨
          device.fixed = true ∨ device.failed = true ∨ device.maximum ≤ device.minimum then
        addFollowers draft rest
      else if (draft.followers.find? (fun f => f.device.id = device.deviceId)).isSome then
        addFollowers
          { draft with
              followers := updateFirst (fun f => f.device.id = device.deviceId)
                (fun f =>
                  if f.device.matchesDevice device then f
                  else { device := .fromStatus device, mapping := .empty })
                draft.followers }
          rest
      else
        addFollowers
          { draft with
              followers := draft.followers ++
                [{ device := .fromStatus device, mapping := .empty }] }
          rest

/-- `VolumeController::set_master`. -/
def setMaster (w : World κ ε) (master : DeviceStatus) : Except String Unit × World κ ε :=
  if master.fixed = false ∧ master.failed = false ∧ master.speaker = true ∧
      master.deviceId ≠ "" ∧ master.minimum < master.maximum then
    if w.state.editing then
      let fresh : Profile :=
        { id := 0
          name := "新配置"
          master := .fromStatus master
          followers := []
          volume := master.volume }
      let draft :=
        match w.state.draft with
        | some old => if old.master.matchesDevice master then old else fresh
        | none => fresh
      let (snapshots, w) := w.snapshots react
      (.ok (), w.update (fun s =>
        { s with draft := some (addFollowers draft (connected snapshots)) }))
    else
      (.error "请先打开校准窗口", w)
  else
    (.error "请选择可调整音量的扬声器设备", w)

/-- `VolumeController::remember`. -/
def remember (w : World κ ε) (id : Nat) (device : DeviceStatus) : World κ ε :=
  if w.state.editing = true ∧ ∀ o ∈ w.state.originals, o.1 ≠ id then
    w.update (fun s => { s with originals := s.originals ++ [(id, device)] })
  else
    w

/-- `VolumeController::new_draft`. -/
def newDraft (w : World κ ε) : Except String Unit × World κ ε :=
  if w.state.editing then
    (.ok (), w.update (fun s => { s with draft := none }))
  else
    (.error "请先打开校准窗口", w)

/-- `VolumeController::edit`; a failing change may have changed the draft. -/
def edit (w : World κ ε) (change : Profile → Except String Unit × Profile) :
    Except String Unit × World κ ε :=
  if w.state.editing then
    match w.state.draft with
    | none => (.error "请先指定主设备", w)
    | some draft =>
        ((change draft).1, w.update (fun s => { s with draft := some (change draft).2 }))
  else
    (.error "仅能在校准窗口编辑", w)

/-- `VolumeController::set_draft`. -/
def setDraft (w : World κ ε) (draft : Profile) : Except String Unit × World κ ε :=
  match draft.validate with
  | .error e => (.error e, w)
  | .ok () =>
      if w.state.editing then
        (.ok (), w.update (fun s => { s with draft := some draft }))
      else
        (.error "校准窗口已关闭", w)

end Window

section Profiles

variable (react : Registry × κ → ε → Registry × κ) (encode : Library → List UInt8)

/-- The draft that `save_draft` hands to `put`, with its volume moved to a
calibrated point. -/
def draftToSave (draft : Profile) (name : String) (copy : Bool) : Except String Profile :=
  let draft := { draft with name := trim name, id := if copy then 0 else draft.id }
  if ∃ f ∈ draft.followers, f.mapping.size ≠ 0 then
    let participating :=
      (draft.followers.filter (fun f => f.mapping.size ≠ 0)).map (fun f => f.device.id)
    match draft.nearest draft.volume participating with
    | none => .error "从设备没有共同校准档位，请先补全对应表"
    | some volume => .ok { draft with volume := volume }
  else
    .error "请至少保存一个从设备的对应档位"

/-- `VolumeController::save_draft`. -/
def saveDraft (w : World κ ε) (name : String) (copy : Bool) : Except String Unit × World κ ε :=
  if w.state.editing then
    match w.state.ensureWritable with
    | .error e => (.error e, w)
    | .ok () =>
        match w.state.draft with
        | none => (.error "请先指定主设备", w)
        | some draft =>
            match draftToSave draft name copy with
            | .error e => (.error e, w)
            | .ok draft =>
                match w.state.persisted.put draft with
                | .error e => (.error e, w)
                | .ok (library, id) =>
                    match w.saveLibrary encode library with
                    | (.error e, w) => (.error e, w)
                    | (.ok (), w) =>
                        let w := w.update (fun s =>
                          { s with
                              library := library
                              confirmed := some (id, draft.volume)
                              draft := some { draft with id := id }
                              dirty := false
                              masterSeen := none
                              message := "" })
                        (.ok (), w.note (.stored id draft.volume))
  else
    (.error "请先打开校准窗口", w)

/-- `VolumeController::select`. -/
def select (w : World κ ε) (id : Nat) : Except String Unit × World κ ε :=
  if w.state.pending.size ≠ 0 then
    (.error "请等待主从音量指令确认后切换配置", w)
  else
    match w.state.library.profiles.find? (fun p => p.id = id) with
    | none => (.error "配置不存在", w)
    | some profile =>
        if w.state.editing then
          (.ok (), w.update (fun s => { s with draft := some profile }))
        else
          match w.state.ensureWritable with
          | .error e => (.error e, w)
          | .ok () =>
              let library := { w.state.persisted with active := some id }
              match w.saveLibrary encode library with
              | (.error e, w) => (.error e, w)
              | (.ok (), w) =>
                  let w := w.denyAll react
                  (.ok (), w.update (fun s =>
                    { s with
                        confirmed := library.current.map (fun p => (p.id, p.volume))
                        library := library
                        pending := .empty
                        blocked := .empty
                        masterSeen := none
                        needsFence := true
                        dirty := false
                        message := "" }))

/-- `VolumeController::delete`. -/
def delete (w : World κ ε) (id : Nat) : Except String Unit × World κ ε :=
  if w.state.editing then
    match w.state.ensureWritable with
    | .error e => (.error e, w)
    | .ok () =>
        let persisted := w.state.persisted
        let library : Library :=
          { persisted with
              profiles := persisted.profiles.filter (fun p => p.id ≠ id)
              active := if persisted.active = some id then none else persisted.active }
        match w.saveLibrary encode library with
        | (.error e, w) => (.error e, w)
        | (.ok (), w) =>
            (.ok (), w.update (fun s =>
              { s with
                  confirmed := library.current.map (fun p => (p.id, p.volume))
                  library := library
                  draft := library.current
                  dirty := false }))
  else
    (.error "仅能在校准窗口删除配置", w)

end Profiles

section Volumes

variable (react : Registry × κ → ε → Registry × κ)

/-- The connected devices that match a range. -/
def matching (range : DeviceRange) (devices : List (Nat × DeviceStatus)) :
    List (Nat × DeviceStatus) :=
  devices.filter (fun d => range.matchesDevice d.2)

/-- `VolumeController::set_volume`. -/
def setVolume (w : World κ ε) (requested : Nat) : Except String Unit × World κ ε :=
  if w.state.editing then
    (.error "校准窗口打开时不能改变正式音量", w)
  else
    let (snapshots, w) := w.snapshots react
    let devices := connected snapshots
    match w.state.library.current with
    | none => (.error "请先创建并应用校准配置", w)
    | some profile =>
        match matching profile.master devices with
        | [(master, _)] =>
            let participating := profile.participating (devices.map Prod.snd)
            match profile.nearest requested participating with
            | none => (.error "当前设备没有共同校准档位", w)
            | some index =>
                match w.call react (fun refusal r => r.panelVolumeRequest refusal master index) with
                | (.error e, w) => (.error e, w)
                | (.ok request, w) =>
                    let w := w.note (.panel master request)
                    let w := w.update (fun s =>
                      { s.await master request index w.now with
                          library :=
                            { s.library with
                                profiles := updateFirst (fun p => some p.id = s.library.active)
                                  (fun p => { p with volume := index }) s.library.profiles }
                          needsFence := false
                          message := ""
                          blocked := .empty
                          dirty := true
                          changed := w.now })
                    (.ok (), w.denyAll react)
        | _ => (.error "主设备未连接、标识重复或音量范围已变化", w)

end Volumes

section Ticks

variable (react : Registry × κ → ε → Registry × κ) (encode : Library → List UInt8)

/-- Whether a reply shows that the volume of a request was applied. -/
def appliedBy (pending : Pending) (reply : DeviceStatus) : Bool :=
  !reply.failed && reply.volume = pending.index && reply.speaker && !reply.fixed

/-- Stop waiting for a receiver. -/
def forget (w : World κ ε) (id : Nat) : World κ ε :=
  w.update (fun s => { s with pending := s.pending.erase id })

/-- `state.pending.retain` of `tick`, which collects the failures. -/
def reviewPending (ids : List Nat) (failures : List (Nat × String)) (w : World κ ε) :
    List (Nat × Pending) → List (Nat × String) × World κ ε
  | [] => (failures, w)
  | (id, pending) :: rest =>
      if id ∈ ids then
        match w.call react (fun _ r => r.takeReply id pending.request) with
        | (some reply, w) =>
            let name := reply.name
            reviewPending ids
              (if appliedBy pending reply then failures
                else failures ++ [(id, s!"{name} 无法应用校准音量，请检查系统限制后重新应用配置")])
              (w.forget id) rest
        | (none, w) =>
            if pending.at' + 4000 ≤ w.now then
              reviewPending ids
                (failures ++ [(id, "音量指令未收到确认，请检查连接后重新应用配置")])
                (w.forget id) rest
            else
              reviewPending ids failures w rest
      else
        reviewPending ids failures (w.forget id) rest

/-- The first part of `tick`: blocked and pending receivers. -/
def review (w : World κ ε) (snapshots : List ReceiverSnapshot) : World κ ε :=
  let ids := snapshots.map ReceiverSnapshot.id
  let w := w.update (fun s => { s with blocked := s.blocked.filter (fun id _ => id ∈ ids) })
  let (failures, w) := w.reviewPending react ids [] w.state.pending.entries
  w.update (fun s => failures.foldl (fun s failure => s.block failure.1 failure.2) s)

/-- The branch of `tick` that puts a new barrier before anything else is done. -/
def fence (w : World κ ε) (profile : Profile) (participating : List String)
    (master : Nat) (device : DeviceStatus) : World κ ε :=
  let w := w.denyAll react
  if w.state.blocked.contains master then
    w
  else
    match profile.nearest profile.volume participating with
    | none => w
    | some index =>
        match w.call react (fun refusal r => r.panelVolumeRequest refusal master index) with
        | (.ok request, w) =>
            let w := w.note (.panel master request)
            w.update (fun s =>
              { s.await master request index w.now with
                  masterSeen := some (master, device.volume)
                  needsFence := false })
        | (.error e, w) => w.update (fun s => s.block master e)

/-- The volume that `tick` works towards: the profile's, unless the master whom
the previous tick saw has an unsolicited one. -/
def adopt (w : World κ ε) (profile : Profile) (master : Nat) (device : DeviceStatus) :
    Nat × World κ ε :=
  let (unsolicited, w) := w.call react (fun _ r => r.takeUnsolicitedVolume master)
  let seen := w.state.masterSeen
  let w := w.update (fun s => { s with masterSeen := some (master, device.volume) })
  match unsolicited with
  | some index =>
      if ∃ known ∈ seen, known.1 = master then
        (index, w.note (.adopted master index (w.registry.queuedTo master)))
      else
        (profile.volume, w)
  | none => (profile.volume, w)

/-- Make `index` the volume of the current profile. -/
def aim (w : World κ ε) (profile : Profile) (index : Nat) : World κ ε :=
  if ∃ current ∈ w.state.library.current, current.volume ≠ index then
    w.update (fun s =>
      { s with
          library :=
            { s.library with
                profiles := updateFirst (fun p => p.id = profile.id)
                  (fun p => { p with volume := index }) s.library.profiles }
          dirty := true
          changed := w.now })
  else
    w

/-- The receivers of the group with their volumes, the master first.  A
participating follower has an entry for every available `index`. -/
def targets (profile : Profile) (participating : List String)
    (devices : List (Nat × DeviceStatus)) (master index : Nat) : List (Nat × Nat) :=
  (master, index) :: profile.followers.filterMap (fun f =>
    if f.device.id ∈ participating then
      match devices.find? (fun d => f.device.matchesDevice d.2), f.mapping.get? index with
      | some receiver, some target => some (receiver.1, target)
      | _, _ => none
    else
      none)

/-- The device of a receiver in the snapshot. -/
def deviceOf (devices : List (Nat × DeviceStatus)) (id : Nat) : Option (Nat × DeviceStatus) :=
  devices.find? (fun d => d.1 = id)

/-- The loop of `tick` over the targets; the result says whether all were ready. -/
def restoreTargets (devices : List (Nat × DeviceStatus)) (ready : Bool) (w : World κ ε) :
    List (Nat × Nat) → Bool × World κ ε
  | [] => (ready, w)
  | (id, target) :: rest =>
      if (∃ d ∈ deviceOf devices id, d.2.volume = target) ∧
          w.state.pending.contains id = false ∧ w.state.blocked.contains id = false then
        restoreTargets devices ready w rest
      else if w.state.pending.contains id = false ∧ w.state.blocked.contains id = false then
        match w.call react (fun refusal r => r.restoreVolumeRequest refusal id target) with
        | (.ok request, w) =>
            restoreTargets devices false (w.update (fun s => s.await id request target w.now)) rest
        | (.error e, w) =>
            restoreTargets devices false (w.update (fun s => s.block id e)) rest
      else
        restoreTargets devices false w rest

/-- A save of `tick` failed; it waits before the next one. -/
def postpone (w : World κ ε) (e : String) : World κ ε :=
  w.update (fun s =>
    { s with message := s!"音量已应用，但无法保存：{e}", changed := w.now + 4000 })

/-- The last part of `tick`: save a confirmed volume that has settled. -/
def saveConfirmed (w : World κ ε) : World κ ε :=
  if w.state.dirty = true ∧ w.state.changed + 500 ≤ w.now then
    match w.state.ensureWritable with
    | .error e => w.postpone e
    | .ok () =>
        match w.saveLibrary encode w.state.persisted with
        | (.error e, w) => w.postpone e
        | (.ok (), w) => w.update (fun s => { s with dirty := false })
  else
    w

/-- The end of `tick`: open the gates of the group, or shut all. -/
def settle (w : World κ ε) (profile : Profile) (devices : List (Nat × DeviceStatus))
    (targets : List (Nat × Nat)) (index : Nat) (ready : Bool) : World κ ε :=
  if ready then
    let expected := targets.filterMap (fun t => deviceOf devices t.1)
    let w := w.perform react (fun _ r => r.approve expected)
    let w := w.update (fun s => { s with confirmed := some (profile.id, index) })
    (w.note (.confirmed profile.id index)).saveConfirmed encode
  else
    w.denyAll react

/-- The branch of `tick` that brings the group to the volume. -/
def follow (w : World κ ε) (profile : Profile) (participating : List String)
    (devices : List (Nat × DeviceStatus)) (master : Nat) (device : DeviceStatus) : World κ ε :=
  let (requested, w) := w.adopt react profile master device
  match profile.nearest requested participating with
  | none => w.denyAll react
  | some index =>
      let w := w.aim profile index
      let targets := targets profile participating devices master index
      let (ready, w) := w.restoreTargets react devices true targets
      w.settle react encode profile devices targets index ready

/-- `state.needs_fence || registry.has_panel_barrier(master.id)`. -/
def fenceNeeded (w : World κ ε) (master : Nat) : Bool × World κ ε :=
  if w.state.needsFence then
    (true, w)
  else
    w.call react (fun _ r => (r.hasPanelBarrier master, r))

/-- `tick` with exactly one master. -/
def tickMaster (w : World κ ε) (profile : Profile) (devices : List (Nat × DeviceStatus))
    (master : Nat) (device : DeviceStatus) : World κ ε :=
  let participating := profile.participating (devices.map Prod.snd)
  let (barrier, w) := w.fenceNeeded react master
  if barrier = true ∧ w.state.pending.contains master = false then
    w.fence react profile participating master device
  else
    w.follow react encode profile participating devices master device

/-- `VolumeController::tick`. -/
def tick (w : World κ ε) : World κ ε :=
  if w.state.editing then
    w.denyAll react
  else
    let (snapshots, w) := w.snapshots react
    let w := w.review react snapshots
    let devices := connected snapshots
    match w.state.library.current with
    | none => w.denyAll react
    | some profile =>
        match matching profile.master devices with
        | [(master, device)] => w.tickMaster react encode profile devices master device
        | _ => (w.denyAll react).update (fun s => { s with masterSeen := none })

end Ticks

end World

/-- The operations of the controller that may run at any time. -/
inductive Operation where
  | open
  | close
  | setMaster (master : DeviceStatus)
  | remember (id : Nat) (device : DeviceStatus)
  | newDraft
  | edit (change : Profile → Except String Unit × Profile)
  | setDraft (draft : Profile)
  | saveDraft (name : String) (copy : Bool)
  | select (id : Nat)
  | delete (id : Nat)
  | setVolume (requested : Nat)
  | tick

/-- One step of a run: another thread acts, time passes, or an operation runs
with what its environment does meanwhile. -/
inductive WorldEvent (ε : Type) where
  | environment (e : ε)
  | elapse (milliseconds : Nat)
  | operation (o : Operation) (script : List (Call ε)) (saveFailure : Option String)

namespace World

section Runs

variable {κ ε : Type}
variable (react : Registry × κ → ε → Registry × κ) (encode : Library → List UInt8)

/-- An operation, without its result. -/
def operate (w : World κ ε) : Operation → World κ ε
  | .open => (w.openWindow react).2
  | .close => w.closeWindow react
  | .setMaster master => (w.setMaster react master).2
  | .remember id device => w.remember id device
  | .newDraft => w.newDraft.2
  | .edit change => (w.edit change).2
  | .setDraft draft => (w.setDraft draft).2
  | .saveDraft name copy => (w.saveDraft encode name copy).2
  | .select id => (w.select react encode id).2
  | .delete id => (w.delete encode id).2
  | .setVolume requested => (w.setVolume react requested).2
  | .tick => w.tick react encode

/-- One step. -/
def step (w : World κ ε) : WorldEvent ε → World κ ε
  | .environment e =>
      let after := react (w.registry, w.outside) e
      { w with registry := after.1, outside := after.2 }
  | .elapse milliseconds => { w with now := w.now + milliseconds }
  | .operation o script saveFailure =>
      { w with script := script, saveFailure := saveFailure }.operate react encode o

/-- The end of the worker thread at shutdown. -/
def stopWorker (w : World κ ε) : World κ ε :=
  let w := w.denyAll react
  let w := w.perform react (fun refusal r => r.broadcast refusal (.calibrationSession 0 .cancel))
  let w := w.perform react (fun refusal r => r.broadcast refusal (.calibrationTone 0 false))
  { w with calibrating := false }

/-- `VolumeController::finish`: after the worker has ended, what is confirmed but
not saved is saved. -/
def finish (w : World κ ε) : Except String Unit × World κ ε :=
  let w := w.stopWorker react
  if w.state.dirty then
    match w.state.ensureWritable with
    | .error e => (.error e, w)
    | .ok () =>
        match w.saveLibrary encode w.state.persisted with
        | (.error e, w) => (.error s!"退出时无法保存已确认音量: {e}", w)
        | (.ok (), w) => (.ok (), w.update (fun s => { s with dirty := false }))
  else
    (.ok (), w)

end Runs

section Start

variable {κ : Type} (ε : Type)
variable (decode : List UInt8 → Except String (Library × List UInt8))

/-- `VolumeController::new` beside an empty registry. -/
def start (file : ProfileFile) (outside : κ) (now : Nat) : World κ ε where
  state :=
    match Library.load decode file with
    | .ok library => .new library "" now
    | .error e =>
        { ControlState.new .default s!"{e}；原文件未修改，禁止保存" now with loadError := some e }
  registry := .empty
  outside := outside
  calibrating := false
  now := now
  file := file
  script := []
  saveFailure := none
  writes := []
  incidents := []

end Start

end World

end Soundwave

import Soundwave.CalibrationController
import Soundwave.PlaybackGate
import Soundwave.Throwing

/-!
# The controller of the window

Model of `Controller` in `windows-server/src/ui/model.rs`: the commands of the window, and
`refresh`, which polls for replies and sends what the sliders ask for.

It runs on one thread and uses the registry, the volume controller and the automatic
calibration through their locks.  Before each such access the other threads may act on all
three; the next turn of the `script` says how, and with which outcome the access meets the
queues, the disk and the spawning of a thread.

`log` records the manual calibration, oldest first: the requests that were queued, the
replies taken, the requests that were given up, and when the sessions were cleared.
-/

namespace Soundwave

/-- `Page`. -/
inductive Page where
  | receivers
  | information
  | settings
deriving DecidableEq

/-- `Command`. -/
inductive Command where
  | «show» (page : Page)
  | toggle
  | adjustAll (steps : Int)
  | openCalibration
  | closeCalibration
  | setMaster (id : Nat)
  | deviceVolume (id index : Nat)
  | masterPoint (index : Nat)
  | masterPosition (position : Nat)
  | record (id : Nat)
  | removePoint (id : Nat)
  | previewDevice (id : Nat)
  | previewPair (id : Nat)
  | stopTone
  | calibrate
  | cancel
  | profile (id : Nat)
  | newProfile
  | saveProfile (name : String) (copy : Bool)
  | deleteProfile
  | exit
  | copyPairing
  | copyFingerprint
deriving DecidableEq

/-- `ManualRequest`. -/
structure ManualRequest where
  request : Nat
  index : Nat
  at' : Nat
  beginning : Bool
deriving DecidableEq

/-- An entry of the log of the manual calibration. -/
inductive ManualRecord where
  | begun (id request expected : Nat)
  | volume (id request index : Nat)
  | answered (id request : Nat) (reply : DeviceStatus)
  | abandoned (id request : Nat)
  | closed
  | cleared
deriving DecidableEq

/-- What other threads do before an access, and what the access meets. -/
structure AccessTurn (ε : Type) where
  world : List (WorldEvent ε)
  calibration : List CalibrationController.Event
  calls : List (Call ε)
  saveFailure : Option String
  spawnFailure : Option String

/-- `Controller`, with what it shares with other threads. -/
structure Controller (κ ε : Type) where
  world : World κ ε
  calibration : CalibrationController
  enabled : Bool
  receivers : List ReceiverSnapshot
  page : Page
  point : Nat
  notice : String
  pending : SortedMap Nat (Nat × Nat)
  replies : SortedMap Nat ManualRequest
  sessions : SortedMap Nat Unit
  spawnFailure : Option String
  script : List (AccessTurn ε)
  log : List ManualRecord

/-- A part of a command. -/
abbrev Acting (κ ε α : Type) : Type := Throwing String (Controller κ ε) α

namespace Controller

variable {κ ε : Type}
variable (react : Registry × κ → ε → Registry × κ) (encode : Library → List UInt8)

section Accesses

/-- Other threads act before an access. -/
def pause (c : Controller κ ε) : Controller κ ε :=
  match c.script with
  | [] =>
      { c with
          world := { c.world with script := [], saveFailure := none }
          spawnFailure := none }
  | turn :: script =>
      { c with
          world :=
            { run (World.step react encode) c.world turn.world with
                script := turn.calls
                saveFailure := turn.saveFailure }
          calibration := run CalibrationController.step c.calibration turn.calibration
          spawnFailure := turn.spawnFailure
          script := script }

/-- A call to the registry. -/
def registry {β : Type} (f : (Nat → Option String) → Registry → β × Registry)
    (c : Controller κ ε) : β × Controller κ ε :=
  let c := c.pause react encode
  let (result, world) := c.world.call react f
  (result, { c with world := world })

/-- A call to the volume controller. -/
def volume {β : Type} (f : World κ ε → β × World κ ε) (c : Controller κ ε) :
    β × Controller κ ε :=
  let c := c.pause react encode
  let (result, world) := f c.world
  (result, { c with world := world })

/-- A call to the automatic calibration. -/
def automatic {β : Type} (f : Option String → CalibrationController → β × CalibrationController)
    (c : Controller κ ε) : β × Controller κ ε :=
  let c := c.pause react encode
  let (result, calibration) := f c.spawnFailure c.calibration
  (result, { c with calibration := calibration })

/-- Write something down. -/
def note (c : Controller κ ε) (record : ManualRecord) : Controller κ ε :=
  { c with log := c.log ++ [record] }

/-- The device of a receiver that the window shows. -/
def deviceOf (c : Controller κ ε) (id : Nat) : Option DeviceStatus :=
  (c.receivers.find? (fun r => r.id = id)).bind ReceiverSnapshot.device

/-- The first receiver whose device matches. -/
def receiverOf (c : Controller κ ε) (range : DeviceRange) : Option ReceiverSnapshot :=
  c.receivers.find? (fun r => r.device.any range.matchesDevice)

/-- `Controller::settled`. -/
def settled (c : Controller κ ε) : Bool :=
  c.pending.size = 0 && c.replies.size = 0

end Accesses

section Refreshing

/-- The reply to a manual request is what was expected. -/
def accepts (pending : ManualRequest) (reply : DeviceStatus) : Bool :=
  !reply.failed && reply.volume = pending.index && reply.speaker && !reply.fixed

/-- A manual request failed: the slider value and an unconfirmed session are dropped. -/
def fail (c : Controller κ ε) (id : Nat) (pending : ManualRequest) (notice : String) :
    Controller κ ε :=
  { c with
      notice := notice
      pending := c.pending.erase id
      sessions := if pending.beginning then c.sessions.erase id else c.sessions
      replies := c.replies.erase id }

/-- `self.replies.retain` of `refresh`. -/
def reviewReplies (c : Controller κ ε) : List (Nat × ManualRequest) → Controller κ ε
  | [] => c
  | (id, pending) :: rest =>
      match c.registry react encode (fun _ r => r.takeReply id pending.request) with
      | (some reply, c) =>
          let c := c.note (.answered id pending.request reply)
          if accepts pending reply then
            reviewReplies { c with replies := c.replies.erase id } rest
          else
            let name := reply.name
            reviewReplies (c.fail id pending s!"{name} 未能确认校准音量操作") rest
      | (none, c) =>
          if pending.at' + 4000 ≤ c.world.now ∨ ∀ r ∈ c.receivers, r.id ≠ id then
            reviewReplies
              ((c.note (.abandoned id pending.request)).fail id pending
                "校准音量操作未收到确认，请检查手机连接") rest
          else
            reviewReplies c rest

/-- The slider values that are old enough, of receivers without a manual request. -/
def ready (c : Controller κ ε) : List (Nat × Nat) :=
  (c.pending.entries.filter (fun e =>
      e.2.2 + 120 ≤ c.world.now && !c.replies.contains e.1)).map (fun e => (e.1, e.2.1))

/-- The loop of `refresh` over the slider values. -/
def sendReady (c : Controller κ ε) : List (Nat × Nat) → Controller κ ε
  | [] => c
  | (id, index) :: rest =>
      if c.sessions.contains id then
        let c := { c with pending := c.pending.erase id }
        match c.registry react encode
          (fun refusal r => r.volumeRequest refusal id index .calibration) with
        | (.ok request, c) =>
            let c := c.note (.volume id request index)
            sendReady
              { c with
                  replies := c.replies.insert id
                    { request := request, index := index, at' := c.world.now,
                      beginning := false } }
              rest
        | (.error error, c) =>
            sendReady { c with pending := c.pending.erase id, notice := error } rest
      else
        match c.registry react encode
          (fun refusal r => r.calibrationRequest refusal id .begin) with
        | (.ok request, c) =>
            let expected :=
              match c.deviceOf id with
              | some device => device.volume
              | none => index
            let c := c.note (.begun id request expected)
            sendReady
              { c with
                  sessions := c.sessions.insert id ()
                  replies := c.replies.insert id
                    { request := request, index := expected, at' := c.world.now,
                      beginning := true } }
              rest
        | (.error error, c) =>
            sendReady { c with pending := c.pending.erase id, notice := error } rest

/-- The draft of a finished measurement, in `refresh`. -/
def takeDraft (c : Controller κ ε) : Controller κ ε :=
  match c.automatic react encode (fun _ k => k.takeResult) with
  | (none, c) => c
  | (some profile, c) =>
      match c.volume react encode (fun w => w.setDraft profile) with
      | (.ok (), c) => c
      | (.error error, c) => { c with notice := error }

/-- `Controller::refresh`. -/
def refresh (c : Controller κ ε) : Controller κ ε :=
  let (snapshots, c) := c.registry react encode (fun _ r => (r.snapshots, r))
  let c := { c with receivers := snapshots }.takeDraft react encode
  let c := { c with
    sessions := c.sessions.filter (fun id _ => c.receivers.any (fun r => r.id = id)) }
  let c := c.reviewReplies react encode c.replies.entries
  let (status, c) := c.automatic react encode (fun _ k => (k.status, k))
  if status.1 then
    c
  else
    c.sendReady react encode c.ready

end Refreshing

section Parts

variable {α : Type}

/-- The controller itself. -/
def current : Acting κ ε (Controller κ ε) :=
  .gets (fun c => c)

/-- `ensure!`. -/
def ensure (condition : Bool) (text : String) : Acting κ ε Unit :=
  if condition then pure () else .throw text

/-- `Option::context`. -/
def context (o : Option α) (text : String) : Acting κ ε α :=
  match o with
  | some a => pure a
  | none => .throw text

/-- The operator `?`. -/
def question : Except String α → Acting κ ε α
  | .ok a => pure a
  | .error text => .throw text

/-- `Controller::view`. -/
def view : Acting κ ε ControlState :=
  .lift (volume react encode (fun w => (w.state, w)))

/-- A call to the volume controller that may fail. -/
def tryVolume (f : World κ ε → Except String Unit × World κ ε) : Acting κ ε Unit := do
  let result ← .lift (volume react encode f)
  question result

/-- A broadcast. -/
def broadcast (message : ControlMessage) : Acting κ ε Unit :=
  .lift (registry react encode (fun refusal r => ((), r.broadcast refusal message)))

/-- `self.notice = ..`. -/
def setNotice (text : String) : Acting κ ε Unit :=
  .modify (fun c => { c with notice := text })

/-- `self.point = ..`. -/
def setPoint (point : Nat) : Acting κ ε Unit :=
  .modify (fun c => { c with point := point })

/-- What every command but `Cancel` and `Exit` does first. -/
def prelude : Acting κ ε Unit := do
  let status ← .lift (automatic react encode (fun _ k => (k.status, k)))
  ensure (!status.1) "请先等待测量结束或取消测量"
  let result ← .lift (automatic react encode (fun _ k => k.takeResult))
  match result with
  | some profile => tryVolume react encode (fun w => w.setDraft profile)
  | none => pure ()
  .lift (automatic react encode (fun _ k => ((), k.clearMessage)))

end Parts

section Changes

/-- The change of `Record`. -/
def recordPoint (point : Nat) (device : DeviceStatus) (profile : Profile) :
    Except String Unit × Profile :=
  match profile.followers.find? (fun f => f.device.matchesDevice device) with
  | none => (.error "从设备范围已变化，请重新指定主设备", profile)
  | some _ =>
      (.ok (),
        { profile with
            followers := updateFirst (fun f => f.device.matchesDevice device)
              (fun f => { f with mapping := f.mapping.insert point device.volume })
              profile.followers
            volume := point })

/-- The change of `RemovePoint`. -/
def removeRecorded (point : Nat) (device : DeviceStatus) (profile : Profile) :
    Except String Unit × Profile :=
  match profile.followers.find? (fun f => f.device.id = device.deviceId) with
  | none => (.error "请选择从设备", profile)
  | some _ =>
      (.ok (),
        { profile with
            followers := updateFirst (fun f => f.device.id = device.deviceId)
              (fun f => { f with mapping := f.mapping.erase point }) profile.followers })

/-- The next volume of `AdjustAll`. -/
def nextVolume (steps : Int) (profile : Profile) (available : List Nat) : Option Nat :=
  if 0 < steps then
    available.find? (fun index => profile.volume < index)
  else
    available.reverse.find? (fun index => index < profile.volume)

end Changes

section Commands

/-- `Command::CloseCalibration`. -/
def closeCalibration : Acting κ ε Unit := do
  let c ← current
  ensure c.settled "请等待音量设置确认后关闭窗口"
  .lift (volume react encode (fun w => ((), w.closeWindow react)))
  .modify (fun c => { c.note .closed with sessions := .empty })
  setNotice ""

/-- `Command::SetMaster`. -/
def setMaster (id : Nat) : Acting κ ε Unit := do
  let c ← current
  ensure c.settled "请等待音量设置确认"
  let device ← context (c.deviceOf id) "设备尚未就绪"
  tryVolume react encode (fun w => w.setMaster react device)
  setPoint device.volume

/-- `Command::DeviceVolume`. -/
def deviceVolume (id index : Nat) : Acting κ ε Unit := do
  let view ← view react encode
  let c ← current
  if view.editing then
    let device ← context (c.deviceOf id) "设备尚未就绪"
    ensure (device.speaker && !device.fixed && !device.failed) "设备无法调整扬声器音量"
    .lift (volume react encode (fun w => ((), w.remember id device)))
    let index := max device.minimum (min index device.maximum)
    if view.draft.any (fun p => p.master.id = device.deviceId) then
      setPoint index
    .modify (fun c => { c with pending := c.pending.insert id (index, c.world.now) })
  else
    let profile ← context view.library.current "请先保存主从校准配置"
    ensure (c.receivers.any (fun r => r.id = id && r.device.any profile.master.matchesDevice))
      "正式使用时仅主设备音量可调"
    tryVolume react encode (fun w => w.setVolume react index)
  setNotice ""

/-- `Command::MasterPoint`, which executes another command. -/
def masterPoint (index : Nat) : Acting κ ε Unit := do
  let view ← view react encode
  let draft ← context view.draft "请先指定主设备"
  let c ← current
  let receiver ← context (c.receiverOf draft.master) "主设备未连接"
  prelude react encode
  deviceVolume react encode receiver.id index

/-- `Command::MasterPosition`. -/
def masterPosition (position : Nat) : Acting κ ε Unit := do
  let view ← view react encode
  let profile ← context view.library.current "请先应用校准配置"
  let c ← current
  let participants := profile.participating (c.receivers.filterMap ReceiverSnapshot.device)
  let index ← context (profile.available participants)[position]? "所选档位未校准"
  tryVolume react encode (fun w => w.setVolume react index)
  setNotice ""

/-- `Command::Record`. -/
def record (id : Nat) : Acting κ ε Unit := do
  let first ← view react encode
  let c ← current
  ensure (first.editing && c.settled) "请等待所有音量得到确认后保存对应点"
  let device ← context (c.deviceOf id) "从设备未连接"
  let second ← view react encode
  let draft ← context second.draft "请先指定主设备"
  ensure (c.receivers.any (fun r =>
      r.device.any (fun d => draft.master.matchesDevice d && d.volume = c.point)))
    "主设备当前档位与所选校准点不符"
  tryVolume react encode (fun w => w.edit (recordPoint c.point device))
  setNotice s!"已记录：主设备 {c.point} → {device.name} {device.volume}"

/-- `Command::RemovePoint`. -/
def removePoint (id : Nat) : Acting κ ε Unit := do
  let c ← current
  let device ← context (c.deviceOf id) "设备未连接"
  tryVolume react encode (fun w => w.edit (removeRecorded c.point device))

/-- The tones of a preview; after a failure all are stopped again. -/
def startTones : List Nat → Acting κ ε Unit
  | [] => pure ()
  | target :: rest => do
      let result ←
        .lift (registry react encode (fun refusal r => r.toneRequest refusal target true))
      match result with
      | .ok _ => startTones rest
      | .error error => do
          broadcast react encode (.calibrationTone 0 false)
          .throw error

/-- `Command::PreviewDevice` and, with `pair`, `Command::PreviewPair`. -/
def preview (pair : Bool) (id : Nat) : Acting κ ε Unit := do
  let view ← view react encode
  let c ← current
  ensure (view.editing && c.settled) "请等待音量确认后试听"
  if pair then
    let profile ← context view.draft "请先指定主设备"
    let follower ← context (c.deviceOf id) "从设备未连接"
    ensure (profile.followers.any (fun f => f.device.matchesDevice follower)) "从设备当前不可用"
    let master ← context (c.receiverOf profile.master) "主设备未连接或当前不可用"
    broadcast react encode (.calibrationTone 0 false)
    startTones react encode [id, master.id]
  else
    broadcast react encode (.calibrationTone 0 false)
    startTones react encode [id]

/-- `Command::Calibrate`; what it hands to the new thread is left out. -/
def calibrate : Acting κ ε Unit := do
  let first ← view react encode
  let c ← current
  ensure (first.editing && c.settled) "请等待音量确认后测量"
  let second ← view react encode
  let profile ← context second.draft "请先指定主设备"
  let _ ← context (c.receiverOf profile.master) "主设备未连接"
  broadcast react encode (.calibrationTone 0 false)
  broadcast react encode (.calibrationSession 0 .cancel)
  .modify (fun c => { c.note .cleared with sessions := .empty })
  let started ← .lift (automatic react encode (fun spawnFailure k => k.start spawnFailure))
  question started
  setNotice ""

/-- The queries of `Command::Profile`; their failures are ignored. -/
def queryAll : List ReceiverSnapshot → Acting κ ε Unit
  | [] => pure ()
  | receiver :: rest => do
      let _ ← .lift (registry react encode (fun refusal r => r.queryRequest refusal receiver.id))
      queryAll rest

/-- `Command::Profile`. -/
def selectProfile (id : Nat) : Acting κ ε Unit := do
  let c ← current
  ensure c.settled "请等待音量设置确认"
  tryVolume react encode (fun w => w.select react encode id)
  queryAll react encode c.receivers
  let view ← view react encode
  setPoint ((view.draft.map Profile.volume).getD 0)
  setNotice ""

/-- `Command::SaveProfile`. -/
def saveProfile (name : String) (copy : Bool) : Acting κ ε Unit := do
  let c ← current
  ensure c.settled "请等待音量设置确认"
  tryVolume react encode (fun w =>
    w.edit (fun profile => (.ok (), { profile with volume := c.point })))
  tryVolume react encode (fun w => w.saveDraft encode name copy)
  setNotice "配置已保存；关闭校准窗口后使用保存的对应关系"

/-- `Command::AdjustAll`. -/
def adjustAll (steps : Int) : Acting κ ε Unit := do
  let view ← view react encode
  let profile ← context view.library.current "请先保存主从校准配置"
  let snapshots ← .lift (registry react encode (fun _ r => (r.snapshots, r)))
  let participants := profile.participating (snapshots.filterMap ReceiverSnapshot.device)
  match nextVolume steps profile (profile.available participants) with
  | some index => tryVolume react encode (fun w => w.setVolume react index)
  | none => pure ()

/-- The commands after what they do first. -/
def handle : Command → Acting κ ε Unit
  | .show page => .modify (fun c => { c with page := page })
  | .toggle => do
      let view ← view react encode
      ensure (!view.editing) "请先关闭校准窗口"
      .modify (fun c => { c with enabled := !(c.enabled && !c.world.calibrating) })
  | .adjustAll steps => adjustAll react encode steps
  | .openCalibration => do
      tryVolume react encode (fun w => w.openWindow react)
      let view ← view react encode
      setPoint ((view.draft.map Profile.volume).getD 0)
      setNotice ""
  | .closeCalibration => closeCalibration react encode
  | .setMaster id => setMaster react encode id
  | .deviceVolume id index => deviceVolume react encode id index
  | .masterPoint index => masterPoint react encode index
  | .masterPosition position => masterPosition react encode position
  | .record id => record react encode id
  | .removePoint id => removePoint react encode id
  | .previewDevice id => preview react encode false id
  | .previewPair id => preview react encode true id
  | .stopTone => broadcast react encode (.calibrationTone 0 false)
  | .calibrate => calibrate react encode
  | .profile id => selectProfile react encode id
  | .newProfile => do
      tryVolume react encode (fun w => w.newDraft)
      setPoint 0
  | .saveProfile name copy => saveProfile react encode name copy
  | .deleteProfile => do
      let view ← view react encode
      match view.draft with
      | some draft => tryVolume react encode (fun w => w.delete encode draft.id)
      | none => pure ()
  | .cancel => pure ()
  | .exit => pure ()
  | .copyPairing => pure ()
  | .copyFingerprint => pure ()

/-- `Controller::execute`. -/
def execute (command : Command) : Acting κ ε Unit :=
  match command with
  | .cancel => .lift (automatic react encode (fun _ k => ((), k.cancel)))
  | .exit => .lift (automatic react encode (fun _ k => ((), k.step .shutdown)))
  | command => do
      prelude react encode
      handle react encode command

/-- `Controller::command`. -/
def command (command : Command) (c : Controller κ ε) : Controller κ ε :=
  match execute react encode command c with
  | (.ok (), c) => c
  | (.error error, c) => { c with notice := error }

end Commands

end Controller

/-- What the window's thread does, each time with its script; and what the others do. -/
inductive DesktopEvent (ε : Type) where
  | others (turn : AccessTurn ε)
  | refresh (script : List (AccessTurn ε))
  | command (command : Command) (script : List (AccessTurn ε))

namespace Controller

section Runs

variable {κ ε : Type}
variable (react : Registry × κ → ε → Registry × κ) (encode : Library → List UInt8)

/-- One step. -/
def step (c : Controller κ ε) : DesktopEvent ε → Controller κ ε
  | .others turn => { c with script := [turn] }.pause react encode
  | .refresh script => { c with script := script }.refresh react encode
  | .command command script => { c with script := script }.command react encode command

/-- `Controller::new` at the start of the server. -/
def new (world : World κ ε) (script : List (AccessTurn ε)) : Controller κ ε :=
  Controller.refresh react encode
    { world := world
      calibration := .default
      enabled := true
      receivers := []
      page := .receivers
      point := 0
      notice := ""
      pending := .empty
      replies := .empty
      sessions := .empty
      spawnFailure := none
      script := script
      log := [] }

end Runs

end Controller

end Soundwave

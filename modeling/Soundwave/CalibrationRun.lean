import Soundwave.CalibrationThread

/-!
# A calibration run

Model of `run` in `windows-server/src/application/calibration.rs` and of what it calls.
-/

namespace Soundwave

/-- `commit_confirmed`. -/
def commitConfirmed (actual original : DeviceStatus) (index : Nat) : Bool :=
  !actual.failed && !actual.fixed && actual.speaker && actual.deviceId = original.deviceId &&
    actual.minimum = original.minimum && actual.maximum = original.maximum &&
    actual.volume = index

/-- `ToneMeasurement`. -/
structure ToneMeasurement where
  signal : Measurement
  background : Float

/-- The levels of a device that could be measured, by volume. -/
abbrev LevelPoints : Type := List (Nat × Float)

/-- What ends a run early. -/
inductive Stop where
  | error (text : String)
  | panic

/-- A part of the calibration that may panic. -/
abbrev Panicking (α : Type) : Type := Throwing Stop Calibrator α

instance : MonadLift Calibrating Panicking where
  monadLift := Throwing.adapt .error

namespace Calibrator

section Measuring

/-- `validate_device`. -/
def validateDevice (device : DeviceStatus) : Calibrating Unit := do
  ensure (device.minimum < device.maximum) s!"{device.name} 没有可调整的音量范围"
  ensure (!device.failed && !device.fixed) s!"{device.name} 无法调整系统媒体音量"
  ensure device.speaker s!"{device.name}：校准前请断开耳机、蓝牙和外接音频输出设备"
  ensure (device.deviceId ≠ "") "设备没有稳定的标识"

/-- `measure_raw`. -/
def measureRaw (id : Nat) (background : Float) : Calibrating ToneMeasurement := do
  let status ← exchange id none .ofRun
  validateDevice status
  let started ← switchTone id true .ofRun
  let heard ← result listen
  let tone ← takeToneReply id started
  let interrupted := tone.any (fun tone => !tone.1 || tone.2)
  let stopped ← result (switchTone id false .fresh)
  let signal ← question heard
  let _ ← question stopped
  ensure (!interrupted) "测量过程中手机中断了测试播放"
  let after ← exchange id none .ofRun
  validateDevice after
  ensure (after.volume = status.volume) "测量过程中设备音量发生了变化"
  let ambient ← listen
  ensure (!ambient.toneDetected) "播放停止后仍检测到类似测试音的声音，请停止其他音频后重试"
  let initial := oneDecimal background
  let current := oneDecimal ambient.levelDbfs
  let spread := oneDecimal ambient.spreadDb
  ensure (ambient.spreadDb ≤ 3.0 && (ambient.levelDbfs - background).abs ≤ 3.0)
    s!"测试过程中背景噪声发生变化（初始 {initial} dBFS，当前 {current} dBFS，波动 {spread} dB），请保持室内安静并关闭麦克风音频处理"
  pure { signal := signal, background := ambient.levelDbfs }

/-- `measure`. -/
def measure (id : Nat) (background : Float) : Calibrating Float := do
  let measurement ← measureRaw id background
  let diagnostics := measurement.signal.diagnostics measurement.background
  ensure measurement.signal.toneDetected
    s!"未检测到测试信号（{diagnostics}）。请检查 Windows 默认输入设备，并关闭麦克风降噪和音效增强"
  ensure (measurement.signal.spreadDb ≤ 3.0)
    "麦克风测量不稳定，请关闭自动增益和音效增强，并保持室内安静"
  question (signalLevel measurement.signal.levelDbfs measurement.background)

/-- The level that a measurement adds to a curve. -/
def pointOf (index : Nat) (measured : ToneMeasurement) : LevelPoints :=
  if measured.signal.toneDetected && measured.signal.spreadDb ≤ 3.0 then
    match signalLevel measured.signal.levelDbfs measured.background with
    | .ok level => [(index, level)]
    | .error _ => []
  else
    []

/-- The loop over the volumes of a device. -/
def measurePoints (id : Nat) (device : DeviceStatus) (ambient : Float) :
    List Nat → Calibrating LevelPoints
  | [] => pure []
  | index :: indices => do
      say s!"正在测量 {device.name}：{index}/{device.maximum}（允许完整系统音量范围）"
      let actual ← exchange id (some index) .ofRun
      ensure (commitConfirmed actual device index) "设备拒绝了档位或音量范围发生变化"
      let measured ← measureRaw id ambient
      let points ← measurePoints id device ambient indices
      pure (pointOf index measured ++ points)

/-- `device.minimum.max(1)..=device.maximum`. -/
def measuredVolumes (device : DeviceStatus) : List Nat :=
  List.range' (max device.minimum 1) (device.maximum + 1 - max device.minimum 1)

/-- The loop over the devices. -/
def measureCurves (ambient : Float) :
    List (Nat × DeviceStatus) → Calibrating (List (String × LevelPoints))
  | [] => pure []
  | (id, device) :: originals => do
      let points ← measurePoints id device ambient (measuredVolumes device)
      let curves ← measureCurves ambient originals
      pure ((device.deviceId, points) :: curves)

end Measuring

section Mapping

/-- The measured volume that is closest to a target. -/
def bestStep (points : LevelPoints) (target : Float) : Option (Nat × Float) :=
  match points with
  | [] => none
  | point :: points => some (points.foldl (fun a b => closestStep a b target) point)

/-- The loop over the levels of the master for one follower. -/
def mapLevels (reference id : Nat) (name : String) (ambient : Float) (points : LevelPoints) :
    LevelPoints → SortedMap Nat Nat → Calibrating (SortedMap Nat Nat)
  | [], mapping => pure mapping
  | (masterIndex, target) :: targets, mapping =>
      match bestStep points target with
      | none => mapLevels reference id name ambient points targets mapping
      | some (index, level) =>
          if 2.0 < (level - target).abs then
            mapLevels reference id name ambient points targets mapping
          else do
            say s!"正在复核 {name}：主设备 {masterIndex} → 从设备 {index}"
            let _ ← exchange reference (some masterIndex) .ofRun
            let repeated ← measure reference ambient
            ensure ((repeated - target).abs ≤ 2.0)
              "主设备响度发生漂移，请固定麦克风位置并关闭自动增益"
            let _ ← exchange id (some index) .ofRun
            let verified ← measure id ambient
            mapLevels reference id name ambient points targets
              (if (verified - repeated).abs ≤ 2.0 then mapping.insert masterIndex index
                else mapping)

/-- The mapping that a follower starts with. -/
def initialMapping (master device : DeviceRange) : SortedMap Nat Nat :=
  if master.minimum = 0 ∧ device.minimum = 0 then SortedMap.empty.insert 0 0 else .empty

/-- `Option::unwrap`. -/
def unwrap {α : Type} : Option α → Panicking α
  | some a => pure a
  | none => .throw .panic

/-- `Option::context`. -/
def context {α : Type} (text : String) : Option α → Calibrating α
  | some a => pure a
  | none => bail text

/-- The loop over the followers. -/
def mapFollowers (reference : Nat) (master : DeviceRange) (ambient : Float)
    (originals : List (Nat × DeviceStatus)) (curves : List (String × LevelPoints))
    (targets : LevelPoints) : List Follower → Panicking (List Follower)
  | [] => pure []
  | follower :: followers => do
      let curve ← context "从设备测量缺失"
        (curves.find? (fun curve => curve.1 = follower.device.id))
      let original ← unwrap
        (originals.find? (fun original => original.2.deviceId = follower.device.id))
      let mapping ← mapLevels reference original.1 follower.device.name ambient curve.2 targets
        (initialMapping master follower.device)
      let mapped ← mapFollowers reference master ambient originals curves targets followers
      pure ({ follower with mapping := mapping } :: mapped)

end Mapping

section Run

/-- The loop of `run` that looks up the devices of the profile. -/
def findOriginals (receivers : List ReceiverSnapshot) :
    List DeviceRange → Calibrating (List (Nat × DeviceStatus))
  | [] => pure []
  | expected :: devices =>
      match receivers.filter (fun r => r.device.any (fun d => d.deviceId = expected.id)) with
      | [receiver] => do
          let status ← exchange receiver.id none .ofRun
          validateDevice status
          ensure (expected.matchesDevice status)
            s!"{expected.name} 的音量范围或输出已变化，请重新指定主设备"
          let originals ← findOriginals receivers devices
          pure ((receiver.id, status) :: originals)
      | _ => bail s!"{expected.name} 未连接或设备标识重复"

/-- Queues a Begin, and adds its receiver to the list `begun`. -/
def beginSession (id : Nat) (original : DeviceStatus) : Calibrating Nat := do
  let request ← calibrationRequest id .begin
  .modify (fun s => { s with begun := s.begun ++ [(id, original)] })
  pure request

/-- The loop of `run` that begins the sessions. -/
def beginSessions : List (Nat × DeviceStatus) → Calibrating Unit
  | [] => pure ()
  | (id, original) :: originals => do
      let request ← beginSession id original
      let actual ← awaitReply id request .ofRun
      ensure (commitConfirmed actual original original.volume) "校准开始前设备发生变化"
      beginSessions originals

/-- The measurements of `run`, after the sessions have begun. -/
def calibrate (profile : Profile) (reference : Nat) (originals : List (Nat × DeviceStatus)) :
    Panicking Profile := do
  ensure (profile.followers ≠ []) "请至少连接一台从设备"
  openMicrophone
  say "正在测量环境噪声，请保持安静并关闭麦克风自动增益。"
  let ambient ← listen
  ensure (ambient.spreadDb ≤ 3.0 && !ambient.toneDetected) "环境噪声不稳定或检测到其他测试音"
  let curves ← measureCurves ambient.levelDbfs originals
  let targets ← context "没有主设备测量结果"
    (curves.find? (fun curve => curve.1 = profile.master.id))
  ensure (targets.2 ≠ []) "主设备测试音无法可靠测量，请改用手动校准或检查麦克风"
  let followers ← mapFollowers reference profile.master ambient.levelDbfs originals curves
    targets.2 profile.followers
  let calibrated : Profile := { profile with followers := followers }
  question calibrated.validate
  ensure
    (calibrated.followers.any (fun f =>
      f.mapping.entries.any (fun e => calibrated.master.minimum < e.1)))
    "未找到可靠的对应档位，请使用手动校准"
  pure calibrated

/-- The closure in `restore`. -/
def restoreDevice (id : Nat) (status : DeviceStatus) : Calibrating Unit := do
  let stopped ← result (switchTone id false .fresh)
  let actual ← exchangeSession id .cancel .fresh
  let _ ← question stopped
  ensure (commitConfirmed actual status status.volume) "无法确认原始音量是否已恢复"

/-- The failures of `restore`, from a receiver on. -/
def failuresWith (status : DeviceStatus) (restored : Except String Unit) (failures : List String) :
    List String :=
  match restored with
  | .ok _ => failures
  | .error _ =>
      s!"请手动将 {status.name} 的音量恢复至 {status.volume}/{status.maximum}" :: failures

/-- The loop of `restore`, with the failures it collects. -/
def restoreDevices : List (Nat × DeviceStatus) → Calibrating (List String)
  | [] => pure []
  | (id, status) :: originals => do
      let restored ← result (restoreDevice id status)
      let failures ← restoreDevices originals
      pure (failuresWith status restored failures)

/-- `restore`. -/
def restore (originals : List (Nat × DeviceStatus)) : Calibrating String := do
  broadcast (.calibrationTone 0 false)
  let failures ← restoreDevices originals
  pure (String.intercalate "; " failures)

/-- The result of the closure in `run`; a panic is none. -/
def outcomeOf {α : Type} (x : Panicking α) : Panicking (Except String α) := fun s =>
  match x s with
  | (.ok a, s) => (.ok (.ok a), s)
  | (.error (.error text), s) => (.ok (.error text), s)
  | (.error .panic, s) => (.error .panic, s)

/-- The closure in `run`. -/
def measureAll (profile : Profile) (reference : Nat) (originals : List (Nat × DeviceStatus)) :
    Panicking Profile := do
  beginSessions originals
  calibrate profile reference originals

/-- `run` before its closure. -/
def lookUp (profile : Profile) (reference : Nat) : Calibrating (List (Nat × DeviceStatus)) := do
  question profile.validate
  let receivers ← snapshots
  let originals ← findOriginals receivers profile.devices
  ensure
    (originals.any (fun original =>
      original.1 = reference && original.2.deviceId = profile.master.id))
    "主设备已断开连接"
  pure originals

/-- The end of `run`, with the failures of `restore`. -/
def submit (outcome : Except String Profile) (restored : String) : Calibrating Profile :=
  if restored ≠ "" then
    let cause :=
      match outcome with
      | .ok _ => ""
      | .error text => s!"{text}。"
    bail s!"校准未提交：{cause}{restored}"
  else
    question outcome

/-- `run` after its closure. -/
def cleanUp (outcome : Except String Profile) : Calibrating Profile := do
  say "正在停止测试并恢复校准前音量…"
  let begun ← .gets Calibrator.begun
  let restored ← restore begun
  submit outcome restored

/-- `run`. -/
def run (profile : Profile) (reference : Nat) : Panicking Profile := do
  let originals ← lookUp profile reference
  .modify (fun s => { s with begun := [] })
  let outcome ← outcomeOf (measureAll profile reference originals)
  cleanUp outcome

end Run

end Calibrator

end Soundwave

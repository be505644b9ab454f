import Mathlib.Data.List.Basic
import Mathlib.Tactic.Common
import Soundwave.ControlMessages
import Soundwave.Throwing
import Soundwave.TransitionRuns

/-!
# The music volume of a phone

Model of `DeviceVolumeControl.kt` and `CalibrationOutputPolicy.kt`.  The class applies
the server's commands to the volume of the music stream, remembers the volume from before
a calibration, and reports.  It runs on the main thread, so its methods do not overlap.

Every call of the `AudioManager` takes the next outcome of a script: it succeeds, it
throws, or, where it sets the volume, it is ignored.  An empty script succeeds.  The
volumes that are passed to the native side fit in the 16 bits that they are given there,
and the test tone that every cancel stops belongs to `DeviceControl`.

`forgotten` records every time that `originalVolume` is set from a value to null: whether
it was by a commit, and else the volume that was read back.
-/

namespace Soundwave

/-- `AudioDeviceInfo.type`, as far as `CalibrationOutputPolicy` tells them apart. -/
inductive OutputType where
  | builtinSpeaker
  | builtinSpeakerSafe
  | builtinEarpiece
  | telephony
  | other (type : Nat)
deriving DecidableEq

/-- `CalibrationOutputPolicy.isSpeakerOnly`. -/
def isSpeakerOnly (outputs : List OutputType) : Bool :=
  outputs.any (fun o => o = .builtinSpeaker || o = .builtinSpeakerSafe) &&
    outputs.all (fun o =>
      o = .builtinSpeaker || o = .builtinSpeakerSafe || o = .builtinEarpiece || o = .telephony)

/-- What a call of the `AudioManager` does. -/
inductive AudioOutcome where
  | succeeds
  | ignored
  | throws
deriving DecidableEq

/-- The outcome of the next call of a script. -/
def nextOutcome : List AudioOutcome → AudioOutcome
  | [] => .succeeds
  | outcome :: _ => outcome

/-- `originalVolume` was set to null. -/
structure Forgetting where
  original : Nat
  committed : Bool
  readBack : Option Nat
deriving DecidableEq

/-- `DeviceVolumeControl` with the `AudioManager`, the clock in milliseconds and the
connection that it sees.  `reportedVolume` is `none` for -1. -/
structure DeviceVolumeControl where
  volume : Nat
  minimumVolume : Nat
  maximumVolume : Nat
  fixed : Bool
  outputs : List OutputType
  script : List AudioOutcome
  sdkInt : Nat
  deviceId : String
  name : String
  clock : Nat
  connected : Bool
  originalVolume : Option Nat
  deadline : Nat
  reportedVolume : Option Nat
  reports : List DeviceStatus
  forgotten : List Forgetting
deriving DecidableEq

namespace DeviceVolumeControl

section Manager

/-- A call of the `AudioManager`. -/
def call : Throwing Unit DeviceVolumeControl AudioOutcome := fun s =>
  match s.script with
  | [] => (.ok .succeeds, s)
  | .throws :: rest => (.error (), { s with script := rest })
  | outcome :: rest => (.ok outcome, { s with script := rest })

/-- `getStreamVolume`. -/
def getStreamVolume : Throwing Unit DeviceVolumeControl Nat := do
  let _ ← call
  .gets volume

/-- `setStreamVolume`. -/
def setStreamVolume (index : Nat) : Throwing Unit DeviceVolumeControl Unit := do
  let outcome ← call
  if outcome = .ignored then
    pure ()
  else
    .modify (fun s => { s with volume := index })

/-- `getStreamMaxVolume`. -/
def getStreamMaxVolume : Throwing Unit DeviceVolumeControl Nat := do
  let _ ← call
  .gets maximumVolume

/-- `minimum`. -/
def minimum : Throwing Unit DeviceVolumeControl Nat := do
  let sdkInt ← .gets sdkInt
  if 28 ≤ sdkInt then
    let _ ← call
    .gets minimumVolume
  else
    pure 0

/-- `isVolumeFixed`. -/
def isVolumeFixed : Throwing Unit DeviceVolumeControl Bool := do
  let _ ← call
  .gets fixed

/-- `speakerOnly`. -/
def speakerOnly : Throwing Unit DeviceVolumeControl Bool := do
  let _ ← call
  .gets (fun s => isSpeakerOnly s.outputs)

/-- `coerceIn`, which throws if the range is empty. -/
def coerceIn (value low high : Nat) : Throwing Unit DeviceVolumeControl Nat :=
  if high < low then .throw () else pure (max low (min value high))

end Manager

section Methods

/-- `nativeReportDevice`. -/
def nativeReportDevice (s : DeviceVolumeControl) (status : DeviceStatus) : DeviceVolumeControl :=
  if s.connected then { s with reports := s.reports ++ [status] } else s

/-- `commandVolume ?: manager.getStreamVolume(..)`. -/
def volumeToReport : Option Nat → Throwing Unit DeviceVolumeControl Nat
  | some volume => pure volume
  | none => getStreamVolume

/-- The `try` block of `report`. -/
def reportStatus (requestId : Nat) (failed observeExternalChange : Bool)
    (commandVolume : Option Nat) : Throwing Unit DeviceVolumeControl Unit := do
  let volume ← volumeToReport commandVolume
  let minimum ← minimum
  let maximum ← getStreamMaxVolume
  let fixed ← isVolumeFixed
  let speaker ← speakerOnly
  .modify (fun s =>
    let status : DeviceStatus :=
      { requestId := requestId, deviceId := s.deviceId, name := s.name, volume := volume,
        minimum := minimum, maximum := maximum, fixed := fixed, speaker := speaker,
        failed := failed }
    let observed :=
      if observeExternalChange && !failed && requestId ≠ 0 && s.reportedVolume.isSome &&
          s.reportedVolume ≠ some volume then
        s.nativeReportDevice { status with requestId := 0 }
      else
        s
    let recorded :=
      if !failed || commandVolume.isSome then
        { observed with reportedVolume := some volume }
      else
        observed
    recorded.nativeReportDevice status)

/-- `report`. -/
def report (s : DeviceVolumeControl) (requestId : Nat) (failed observeExternalChange : Bool)
    (commandVolume : Option Nat) : DeviceVolumeControl :=
  match reportStatus requestId failed observeExternalChange commandVolume s with
  | (.ok _, s) => s
  | (.error _, s) =>
      s.nativeReportDevice
        { requestId := requestId, deviceId := s.deviceId, name := s.name, volume := 0,
          minimum := 0, maximum := 0, fixed := true, speaker := false, failed := true }

/-- The `runCatching` block of `cancelCalibration`, with the volume that it reads back. -/
def restoreVolume (original : Nat) : Throwing Unit DeviceVolumeControl (Option Nat) := do
  if !(← speakerOnly) then
    pure none
  else
    setStreamVolume original
    let actual ← getStreamVolume
    pure (some actual)

/-- `cancelCalibration`. -/
def cancelCalibration (s : DeviceVolumeControl) : Bool × DeviceVolumeControl :=
  match s.originalVolume with
  | none => (true, s)
  | some original =>
      let (result, s) := restoreVolume original { s with originalVolume := none }
      let readBack := result.toOption.getD none
      (readBack = some original,
        { s with
            forgotten := s.forgotten ++
              [{ original := original, committed := false, readBack := readBack }] })

/-- `routeChanged`. -/
def routeChanged (s : DeviceVolumeControl) : DeviceVolumeControl :=
  match speakerOnly s with
  | (.ok true, s) => s.report 0 false false none
  | (.ok false, s) =>
      let (restored, s) := s.cancelCalibration
      s.report 0 (!restored) false none
  | (.error _, s) => (s.cancelCalibration.2).report 0 true false none

/-- `!speakerOnly()`. -/
def hasOtherOutput : Throwing Unit DeviceVolumeControl Bool := do
  let only ← speakerOnly
  pure (!only)

/-- The refusal of the operations 2, 6 and 7. -/
def refusesVolume (operation : UInt64) : Throwing Unit DeviceVolumeControl Bool := do
  let session ← .gets (fun s => s.originalVolume.isSome)
  if ← isVolumeFixed then
    pure true
  else if ← (if operation ≠ 2 then hasOtherOutput else pure false) then
    pure true
  else if operation = 6 ∧ !session then
    pure true
  else if session then
    hasOtherOutput
  else
    pure false

/-- The operations 2, 6 and 7. -/
def applyVolume (operation : UInt64) (value : Nat) :
    Throwing Unit DeviceVolumeControl (Bool × Option Nat) := do
  if ← refusesVolume operation then
    pure (true, none)
  else
    let low ← minimum
    let high ← getStreamMaxVolume
    let index ← coerceIn value low high
    setStreamVolume index
    let actual ← getStreamVolume
    pure (actual ≠ index, some actual)

/-- `if (originalVolume == null) originalVolume = manager.getStreamVolume(..)`. -/
def rememberVolume : Throwing Unit DeviceVolumeControl Unit := do
  if ← .gets (fun s => s.originalVolume.isSome) then
    pure ()
  else
    let volume ← getStreamVolume
    .modify (fun s => { s with originalVolume := some volume })

/-- Operation 3. -/
def beginSession (failed : Bool) : Throwing Unit DeviceVolumeControl (Bool × Option Nat) := do
  if ← isVolumeFixed then
    pure (true, none)
  else if ← hasOtherOutput then
    pure (true, none)
  else
    rememberVolume
    .modify (fun s => { s with deadline := s.clock + 6000 })
    pure (failed, none)

/-- Operation 5 while a volume is remembered. -/
def commitVolume (original expected : Nat) (failed : Bool) :
    Throwing Unit DeviceVolumeControl (Bool × Option Nat) := do
  if ← hasOtherOutput then
    pure (true, none)
  else
    let actual ← getStreamVolume
    if actual ≠ expected then
      pure (true, none)
    else
      .modify (fun s =>
        { s with
            originalVolume := none
            forgotten := s.forgotten ++
              [{ original := original, committed := true, readBack := none }] })
      pure (failed, none)

/-- Operation 5. -/
def commitSession (expected : Nat) (failed : Bool) :
    Throwing Unit DeviceVolumeControl (Bool × Option Nat) := fun s =>
  match s.originalVolume with
  | none => (.ok (true, none), s)
  | some original => commitVolume original expected failed s

/-- The `when` of `applyPending`: the new value of `failed`, and `commandVolume`. -/
def operate (operation : UInt64) (value : Nat) (failed : Bool) :
    Throwing Unit DeviceVolumeControl (Bool × Option Nat) :=
  if operation = 1 then do
    .modify (fun s =>
      if s.originalVolume.isSome then { s with deadline := s.clock + 6000 } else s)
    pure (failed, none)
  else if operation = 2 ∨ operation = 6 ∨ operation = 7 then
    applyVolume operation value
  else if operation = 3 then
    beginSession failed
  else if operation = 4 then do
    let restored ← .lift cancelCalibration
    pure (!restored, none)
  else if operation = 8 then
    pure (true, none)
  else if operation = 5 then
    commitSession value failed
  else
    pure (failed, none)

/-- The session has expired. -/
def expired (s : DeviceVolumeControl) : Bool :=
  s.originalVolume.isSome && s.deadline ≤ s.clock

/-- The operation of a command. -/
def operationOf (command : UInt64) : UInt64 :=
  (command >>> 16) &&& 0xff

/-- One round of `applyPending`; a command of zero ends it. -/
def applyCommand (s : DeviceVolumeControl) (command : UInt64) : DeviceVolumeControl :=
  if command = 0 then
    s
  else
    let requestId := (command >>> 24).toNat
    let operation := operationOf command
    let value := (command &&& 0xffff).toNat
    let restoredExpiredCalibration := s.expired
    let (failed, s) :=
      if s.expired then
        let (restored, s) := s.cancelCalibration
        (!restored, s)
      else
        (false, s)
    let (failed, commandVolume, s) :=
      match operate operation value failed s with
      | (.ok (failed, commandVolume), s) => (failed, commandVolume, s)
      | (.error _, s) => (true, none, s)
    s.report requestId failed (operation = 1 && !restoredExpiredCalibration) commandVolume

/-- `watchdog`. -/
def watchdog (s : DeviceVolumeControl) : DeviceVolumeControl :=
  let s :=
    if s.originalVolume.isSome && (s.deadline ≤ s.clock || !s.connected) then
      let (restored, s) := s.cancelCalibration
      s.report 0 (!restored) false none
    else
      s
  if s.connected then
    match getStreamVolume s with
    | (.ok volume, s) =>
        if s.reportedVolume ≠ some volume then s.report 0 false false none else s
    | (.error _, s) => s
  else
    s

/-- A new `DeviceVolumeControl`. -/
def new (volume minimumVolume maximumVolume : Nat) (fixed : Bool) (outputs : List OutputType)
    (sdkInt : Nat) (deviceId name : String) (clock : Nat) (connected : Bool) :
    DeviceVolumeControl where
  volume := volume
  minimumVolume := minimumVolume
  maximumVolume := maximumVolume
  fixed := fixed
  outputs := outputs
  script := []
  sdkInt := sdkInt
  deviceId := deviceId
  name := name
  clock := clock
  connected := connected
  originalVolume := none
  deadline := 0
  reportedVolume := none
  reports := []
  forgotten := []

end Methods

section Frames

/-- Nothing is forgotten but by a commit. -/
def OnlyCommits (s s' : DeviceVolumeControl) : Prop :=
  ∃ commits, s'.forgotten = s.forgotten ++ commits ∧ ∀ f ∈ commits, f.committed = true

theorem OnlyCommits.of_eq {s s' : DeviceVolumeControl} (h : s'.forgotten = s.forgotten) :
    OnlyCommits s s' :=
  ⟨[], by rw [h, List.append_nil], fun _ hf => by cases hf⟩

theorem OnlyCommits.refl (s : DeviceVolumeControl) : OnlyCommits s s :=
  .of_eq rfl

theorem OnlyCommits.trans {s t u : DeviceVolumeControl} (h : OnlyCommits s t)
    (h' : OnlyCommits t u) : OnlyCommits s u := by
  obtain ⟨commits, heq, hall⟩ := h
  obtain ⟨commits', heq', hall'⟩ := h'
  refine ⟨commits ++ commits', by rw [heq', heq, List.append_assoc], ?_⟩
  intro f hf
  rcases List.mem_append.mp hf with hf | hf
  · exact hall f hf
  · exact hall' f hf

instance : IsPreorder DeviceVolumeControl OnlyCommits where
  refl := OnlyCommits.refl
  trans := fun _ _ _ => OnlyCommits.trans

theorem call_eq (s : DeviceVolumeControl) :
    call s =
      (if nextOutcome s.script = .throws then .error () else .ok (nextOutcome s.script),
        { s with script := s.script.tail }) := by
  obtain ⟨volume, low, high, fixed, outputs, script, sdk, id, name, clock, connected, original,
    deadline, reported, reports, forgotten⟩ := s
  cases script with
  | nil => rfl
  | cons outcome rest =>
      cases outcome with
      | succeeds => rfl
      | ignored => rfl
      | throws => rfl

/-- A relation that the parts of the operations keep: a call uses up an outcome, a volume
is set, a session begins, goes on, or is committed. -/
structure Frame (R : DeviceVolumeControl → DeviceVolumeControl → Prop) : Prop where
  call : ∀ s, R s { s with script := s.script.tail }
  volume : ∀ s volume, R s { s with volume := volume }
  remembered : ∀ s volume, R s { s with originalVolume := some volume }
  deadline : ∀ s deadline, R s { s with deadline := deadline }
  committed : ∀ s original, R s
    { s with
        originalVolume := none
        forgotten := s.forgotten ++
          [{ original := original, committed := true, readBack := none }] }

theorem onlyCommits_frame : Frame OnlyCommits where
  call := fun _ => .of_eq rfl
  volume := fun _ _ => .of_eq rfl
  remembered := fun _ _ => .of_eq rfl
  deadline := fun _ _ => .of_eq rfl
  committed := fun _ _ => ⟨_, rfl, fun f hf => by rw [List.mem_singleton.mp hf]⟩

section Within

variable {R : DeviceVolumeControl → DeviceVolumeControl → Prop}

/-- A call uses up an outcome and changes nothing else. -/
theorem within_call (hscript : ∀ s, R s { s with script := s.script.tail }) : Within R call := by
  intro s
  rw [call_eq]
  exact hscript s

variable [IsPreorder DeviceVolumeControl R]

theorem within_read {α : Type} (hscript : ∀ s, R s { s with script := s.script.tail })
    (f : DeviceVolumeControl → α) : Within R (call >>= fun _ => Throwing.gets f) :=
  within_bind (within_call hscript) (fun _ => within_gets f)

theorem within_minimum (hscript : ∀ s, R s { s with script := s.script.tail }) :
    Within R minimum :=
  within_bind (within_gets _) (fun _ =>
    within_ite (within_read hscript _) (within_pure _))

theorem within_setStreamVolume (hscript : ∀ s, R s { s with script := s.script.tail })
    (hvolume : ∀ s volume, R s { s with volume := volume }) (index : Nat) :
    Within R (setStreamVolume index) :=
  within_bind (within_call hscript) (fun _ =>
    within_ite (within_pure _) (fun s => hvolume s index))

theorem within_hasOtherOutput (hscript : ∀ s, R s { s with script := s.script.tail }) :
    Within R hasOtherOutput :=
  within_bind (within_read hscript _) (fun _ => within_pure _)

theorem within_refusesVolume (frame : Frame R) (operation : UInt64) :
    Within R (refusesVolume operation) := by
  rw [refusesVolume]
  refine within_bind (within_gets _) (fun _ => ?_)
  refine within_bind (within_read frame.call _) (fun _ => ?_)
  refine within_ite (within_pure _) ?_
  refine within_bind (within_ite (within_hasOtherOutput frame.call) (within_pure _)) (fun _ => ?_)
  refine within_ite (within_pure _) ?_
  refine within_ite (within_pure _) ?_
  exact within_ite (within_hasOtherOutput frame.call) (within_pure _)

theorem within_coerceIn (value low high : Nat) : Within R (coerceIn value low high) :=
  within_ite (within_throw _) (within_pure _)

theorem within_applyVolume (frame : Frame R) (operation : UInt64) (value : Nat) :
    Within R (applyVolume operation value) := by
  rw [applyVolume]
  refine within_bind (within_refusesVolume frame operation) (fun _ => ?_)
  refine within_ite (within_pure _) ?_
  refine within_bind (within_minimum frame.call) (fun _ => ?_)
  refine within_bind (within_read frame.call _) (fun _ => ?_)
  refine within_bind (within_coerceIn _ _ _) (fun _ => ?_)
  refine within_bind (within_setStreamVolume frame.call frame.volume _) (fun _ => ?_)
  exact within_bind (within_read frame.call _) (fun _ => within_pure _)

theorem within_rememberVolume (frame : Frame R) : Within R rememberVolume := by
  rw [rememberVolume]
  refine within_bind (within_gets _) (fun _ => ?_)
  refine within_ite (within_pure _) ?_
  exact within_bind (within_read frame.call _)
    (fun volume => within_modify (fun s => frame.remembered s volume))

theorem within_beginSession (frame : Frame R) (failed : Bool) : Within R (beginSession failed) := by
  rw [beginSession]
  refine within_bind (within_read frame.call _) (fun _ => ?_)
  refine within_ite (within_pure _) ?_
  refine within_bind (within_hasOtherOutput frame.call) (fun _ => ?_)
  refine within_ite (within_pure _) ?_
  refine within_bind (within_rememberVolume frame) (fun _ => ?_)
  exact within_bind (within_modify (fun s => frame.deadline s _)) (fun _ => within_pure _)

theorem within_commitSession (frame : Frame R) (expected : Nat) (failed : Bool) :
    Within R (commitSession expected failed) := by
  have hcommit : ∀ original, Within R (commitVolume original expected failed) := by
    intro original
    rw [commitVolume]
    refine within_bind (within_hasOtherOutput frame.call) (fun _ => ?_)
    refine within_ite (within_pure _) ?_
    refine within_bind (within_read frame.call _) (fun _ => ?_)
    refine within_ite (within_pure _) ?_
    exact within_bind (within_modify (fun s => frame.committed s original))
      (fun _ => within_pure _)
  intro s
  rw [commitSession]
  cases s.originalVolume with
  | none => exact refl_of R s
  | some original => exact hcommit original s

/-- All operations but 4 stay within a frame. -/
theorem within_operate (frame : Frame R) {operation : UInt64} (hoperation : operation ≠ 4)
    (value : Nat) (failed : Bool) : Within R (operate operation value failed) := by
  rw [operate, if_neg hoperation]
  refine within_ite ?_ (within_ite (within_applyVolume frame _ _)
    (within_ite (within_beginSession frame _) (within_ite (within_pure _)
      (within_ite (within_commitSession frame _ _) (within_pure _)))))
  refine within_bind (within_modify (fun s => ?_)) (fun _ => within_pure _)
  split_ifs
  · exact frame.deadline s _
  · exact refl_of R s

/-- Restoring a volume changes nothing but the volume. -/
theorem within_restoreVolume (hscript : ∀ s, R s { s with script := s.script.tail })
    (hvolume : ∀ s volume, R s { s with volume := volume }) (original : Nat) :
    Within R (restoreVolume original) := by
  rw [restoreVolume]
  refine within_bind (within_read hscript _) (fun _ => ?_)
  refine within_ite (within_pure _) ?_
  refine within_bind (within_setStreamVolume hscript hvolume _) (fun _ => ?_)
  exact within_bind (within_read hscript _) (fun _ => within_pure _)

end Within

theorem nativeReportDevice_forgotten (s : DeviceVolumeControl) (status : DeviceStatus) :
    (s.nativeReportDevice status).forgotten = s.forgotten := by
  rw [nativeReportDevice]
  split_ifs
  · rfl
  · rfl

theorem within_reportStatus (requestId : Nat) (failed observe : Bool)
    (commandVolume : Option Nat) :
    Within OnlyCommits (reportStatus requestId failed observe commandVolume) := by
  rw [reportStatus]
  apply within_bind
  · cases commandVolume with
    | none => exact within_read onlyCommits_frame.call _
    | some volume => exact within_pure _
  · intro volume
    refine within_bind (within_minimum onlyCommits_frame.call) (fun _ => ?_)
    refine within_bind (within_read onlyCommits_frame.call _) (fun _ => ?_)
    refine within_bind (within_read onlyCommits_frame.call _) (fun _ => ?_)
    refine within_bind (within_read onlyCommits_frame.call _) (fun _ => ?_)
    refine within_modify (fun s => .of_eq ?_)
    simp only [nativeReportDevice_forgotten]
    split_ifs
    · exact nativeReportDevice_forgotten _ _
    · rfl
    · exact nativeReportDevice_forgotten _ _
    · rfl

theorem report_onlyCommits (s : DeviceVolumeControl) (requestId : Nat) (failed observe : Bool)
    (commandVolume : Option Nat) :
    OnlyCommits s (s.report requestId failed observe commandVolume) := by
  have htried := within_reportStatus requestId failed observe commandVolume s
  rw [report]
  rcases hresult : reportStatus requestId failed observe commandVolume s with ⟨result, s'⟩
  rw [hresult] at htried
  cases result with
  | ok _ => exact htried
  | error _ => exact htried.trans (.of_eq (nativeReportDevice_forgotten _ _))

end Frames

section Cancels

/-- The outputs are speakers only, no call of the next three throws, and the second one,
which sets the volume, is not ignored or would have changed nothing. -/
def restores (s : DeviceVolumeControl) (original : Nat) : Bool :=
  nextOutcome s.script ≠ .throws && isSpeakerOnly s.outputs &&
    (nextOutcome s.script.tail = .succeeds ||
      (nextOutcome s.script.tail = .ignored && s.volume = original)) &&
    nextOutcome s.script.tail.tail ≠ .throws

/-- A call of `cancelCalibration` restores the volume that is remembered, if any. -/
def restorable (s : DeviceVolumeControl) : Bool :=
  s.originalVolume.all s.restores

/-- Every volume that was forgotten without a commit had been restored. -/
def AllRestored (s : DeviceVolumeControl) : Prop :=
  ∀ f ∈ s.forgotten, f.committed = true ∨ f.readBack = some f.original

theorem OnlyCommits.allRestored {s s' : DeviceVolumeControl} (h : OnlyCommits s s') :
    s'.AllRestored ↔ s.AllRestored := by
  obtain ⟨commits, heq, hall⟩ := h
  rw [AllRestored, heq, List.forall_mem_append, AllRestored]
  exact and_iff_left (fun f hf => Or.inl (hall f hf))

theorem cancelCalibration_of_none {s : DeviceVolumeControl} (h : s.originalVolume = none) :
    s.cancelCalibration = (true, s) := by
  rw [cancelCalibration, h]

theorem speakerOnly_apply (s : DeviceVolumeControl) :
    speakerOnly s =
      if nextOutcome s.script = .throws then (.error (), { s with script := s.script.tail })
      else (.ok (isSpeakerOnly s.outputs), { s with script := s.script.tail }) := by
  rw [speakerOnly, Throwing.bind_apply, call_eq]
  split_ifs
  · rfl
  · rfl

theorem getStreamVolume_apply (s : DeviceVolumeControl) :
    getStreamVolume s =
      if nextOutcome s.script = .throws then (.error (), { s with script := s.script.tail })
      else (.ok s.volume, { s with script := s.script.tail }) := by
  rw [getStreamVolume, Throwing.bind_apply, call_eq]
  split_ifs
  · rfl
  · rfl

theorem setStreamVolume_apply (index : Nat) (s : DeviceVolumeControl) :
    setStreamVolume index s =
      match nextOutcome s.script with
      | .throws => (.error (), { s with script := s.script.tail })
      | .ignored => (.ok (), { s with script := s.script.tail })
      | .succeeds => (.ok (), { s with script := s.script.tail, volume := index }) := by
  rw [setStreamVolume, Throwing.bind_apply, call_eq]
  cases nextOutcome s.script with
  | throws => rfl
  | ignored => rfl
  | succeeds => rfl

theorem restoreVolume_readBack (s : DeviceVolumeControl) (original : Nat) :
    (restoreVolume original s).1.toOption.getD none = some original ↔
      s.restores original = true := by
  rw [restoreVolume, Throwing.bind_apply, speakerOnly_apply, restores]
  by_cases hroute : nextOutcome s.script = .throws
  · simp [hroute, Except.toOption]
  · rw [if_neg hroute]
    cases honly : isSpeakerOnly s.outputs with
    | false => simp [Throwing.pure_apply, Except.toOption]
    | true =>
        simp only [Bool.not_true, Bool.false_eq_true, if_false, Throwing.bind_apply,
          setStreamVolume_apply]
        cases hset : nextOutcome s.script.tail with
        | throws => simp [Except.toOption]
        | ignored =>
            simp only [getStreamVolume_apply]
            by_cases hread : nextOutcome s.script.tail.tail = .throws
            · simp [hread, Except.toOption]
            · simp [hread, hroute, Throwing.pure_apply, Except.toOption]
        | succeeds =>
            simp only [getStreamVolume_apply]
            by_cases hread : nextOutcome s.script.tail.tail = .throws
            · simp [hread, Except.toOption]
            · simp [hread, hroute, Throwing.pure_apply, Except.toOption]

theorem allRestored_cancelCalibration (s : DeviceVolumeControl) :
    s.cancelCalibration.2.AllRestored ↔ s.AllRestored ∧ s.restorable = true := by
  cases horiginal : s.originalVolume with
  | none =>
      rw [cancelCalibration_of_none horiginal, restorable, horiginal]
      simp
  | some original =>
      have hwithin : Within OnlyCommits (restoreVolume original) :=
        within_restoreVolume onlyCommits_frame.call onlyCommits_frame.volume original
      have hkept : OnlyCommits s
          (restoreVolume original { s with originalVolume := none }).2 :=
        hwithin { s with originalVolume := none }
      have hread := restoreVolume_readBack { s with originalVolume := none } original
      have hcalls : ({ s with originalVolume := none } : DeviceVolumeControl).restores original =
          s.restores original := rfl
      rw [hcalls] at hread
      rw [cancelCalibration, horiginal, restorable, horiginal, Option.all_some, ← hread,
        ← hkept.allRestored]
      simp only [AllRestored, List.forall_mem_append, List.forall_mem_singleton,
        Bool.false_eq_true, false_or]

end Cancels

section Runs

/-- What happens to a `DeviceVolumeControl` and around it.  `outcomes` are those of the
next calls of the `AudioManager`; `cancel` is a call of `cancelCalibration` from
`AudioService`, `close` one at its end. -/
inductive VolumeEvent where
  | command (command : UInt64)
  | watchdog
  | routeChanged
  | cancel
  | close
  | outcomes (script : List AudioOutcome)
  | route (outputs : List OutputType)
  | connection (connected : Bool)
  | volume (volume : Nat)
  | wait (duration : Nat)
deriving DecidableEq

/-- One event. -/
def step (s : DeviceVolumeControl) : VolumeEvent → DeviceVolumeControl
  | .command command => s.applyCommand command
  | .watchdog => s.watchdog
  | .routeChanged => s.routeChanged
  | .cancel => s.cancelCalibration.2
  | .close => s.cancelCalibration.2
  | .outcomes script => { s with script := script }
  | .route outputs => { s with outputs := outputs }
  | .connection connected => { s with connected := connected }
  | .volume volume => { s with volume := volume }
  | .wait duration => { s with clock := s.clock + duration }

/-- The state in which an event calls `cancelCalibration`, if it does. -/
def cancelledIn (s : DeviceVolumeControl) : VolumeEvent → Option DeviceVolumeControl
  | .command command =>
      if command ≠ 0 && (s.expired || operationOf command = 4) then some s else none
  | .watchdog =>
      if s.originalVolume.isSome && (s.deadline ≤ s.clock || !s.connected) then some s else none
  | .routeChanged => if (speakerOnly s).1.toOption = some true then none else some (speakerOnly s).2
  | .cancel => some s
  | .close => some s
  | _ => none

/-- If the event cancels a calibration, it restores the volume. -/
def cancelRestores (s : DeviceVolumeControl) (e : VolumeEvent) : Bool :=
  (s.cancelledIn e).all restorable

/-- The session is the same. -/
def SameSession (s s' : DeviceVolumeControl) : Prop :=
  s'.originalVolume = s.originalVolume

instance : IsPreorder DeviceVolumeControl SameSession where
  refl := fun _ => rfl
  trans := fun _ _ _ h h' => Eq.trans h' h

theorem cancelCalibration_originalVolume (s : DeviceVolumeControl) :
    s.cancelCalibration.2.originalVolume = none := by
  cases horiginal : s.originalVolume with
  | none =>
      rw [cancelCalibration_of_none horiginal]
      exact horiginal
  | some original =>
      have hwithin : Within SameSession (restoreVolume original) :=
        within_restoreVolume (R := SameSession) (fun _ => rfl) (fun _ _ => rfl) original
      have hsame : SameSession { s with originalVolume := none }
          (restoreVolume original { s with originalVolume := none }).2 :=
        hwithin { s with originalVolume := none }
      rw [cancelCalibration, horiginal]
      exact hsame

/-- The operations of a command after the look at the deadline. -/
theorem operate_allRestored {s : DeviceVolumeControl} {operation : UInt64}
    (h : operation = 4 → s.originalVolume = none) (value : Nat) (failed : Bool) :
    (operate operation value failed s).2.AllRestored ↔ s.AllRestored := by
  by_cases hcancel : operation = 4
  · have hnothing : (operate operation value failed s).2 = s := by
      rw [hcancel, operate, if_neg (by decide), if_neg (by decide), if_neg (by decide), if_pos rfl]
      simp only [Throwing.bind_apply, Throwing.lift, cancelCalibration_of_none (h hcancel)]
      rfl
    rw [hnothing]
  · exact (within_operate onlyCommits_frame hcancel value failed s).allRestored

/-- The state of `applyPending` after its look at the deadline. -/
def afterExpiry (s : DeviceVolumeControl) : DeviceVolumeControl :=
  if s.expired then s.cancelCalibration.2 else s

/-- `failed` and `commandVolume` after the `when`, whether it threw or not. -/
def caught : Except Unit (Bool × Option Nat) → Bool × Option Nat
  | .ok result => result
  | .error _ => (true, none)

/-- `applyCommand` is the look at the deadline, the operation, and the report. -/
theorem applyCommand_eq (s : DeviceVolumeControl) {command : UInt64} (hcommand : command ≠ 0) :
    s.applyCommand command =
      let result := operate (operationOf command) (command &&& 0xffff).toNat
        (if s.expired then !s.cancelCalibration.1 else false) s.afterExpiry
      result.2.report (command >>> 24).toNat (caught result.1).1
        (operationOf command = 1 && !s.expired) (caught result.1).2 := by
  rw [applyCommand, if_neg hcommand, afterExpiry]
  cases s.expired with
  | true =>
      simp only [if_true]
      rcases operate (operationOf command) (command &&& 0xffff).toNat (!s.cancelCalibration.1)
        s.cancelCalibration.2 with ⟨result, s'⟩
      cases result with
      | error _ => rfl
      | ok result => rfl
  | false =>
      simp only [Bool.false_eq_true, if_false]
      rcases operate (operationOf command) (command &&& 0xffff).toNat false s with ⟨result, s'⟩
      cases result with
      | error _ => rfl
      | ok result => rfl

theorem applyCommand_onlyCommits {s : DeviceVolumeControl} {command : UInt64}
    (hcommand : command ≠ 0) :
    ∃ value failed, OnlyCommits (operate (operationOf command) value failed s.afterExpiry).2
      (s.applyCommand command) := by
  refine ⟨(command &&& 0xffff).toNat, if s.expired then !s.cancelCalibration.1 else false, ?_⟩
  rw [applyCommand_eq s hcommand]
  exact report_onlyCommits _ _ _ _ _

theorem applyCommand_allRestored {s : DeviceVolumeControl} {command : UInt64}
    (hcommand : command ≠ 0) :
    (s.applyCommand command).AllRestored ↔
      s.AllRestored ∧ ((s.expired || operationOf command = 4) = true → s.restorable = true) := by
  obtain ⟨value, failed, hreported⟩ := @applyCommand_onlyCommits s command hcommand
  rw [hreported.allRestored, afterExpiry]
  cases s.expired with
  | true =>
      rw [if_pos rfl, operate_allRestored (fun _ => cancelCalibration_originalVolume s),
        allRestored_cancelCalibration]
      simp
  | false =>
      simp only [Bool.false_eq_true, if_false, Bool.false_or, decide_eq_true_eq]
      by_cases hcancel : operationOf command = 4
      · have hcancelled : (operate (operationOf command) value failed s).2 =
            s.cancelCalibration.2 := by
          rw [hcancel, operate, if_neg (by decide), if_neg (by decide), if_neg (by decide),
            if_pos rfl]
          rfl
        rw [hcancelled, allRestored_cancelCalibration]
        simp [hcancel]
      · rw [(within_operate onlyCommits_frame hcancel value failed s).allRestored]
        simp [hcancel]

theorem watchdog_allRestored (s : DeviceVolumeControl) :
    s.watchdog.AllRestored ↔
      s.AllRestored ∧
        ((s.originalVolume.isSome && (s.deadline ≤ s.clock || !s.connected)) = true →
          s.restorable = true) := by
  have hreports : ∀ t : DeviceVolumeControl, OnlyCommits t
      (if t.connected then
        match getStreamVolume t with
        | (.ok volume, t) =>
            if t.reportedVolume ≠ some volume then t.report 0 false false none else t
        | (.error _, t) => t
      else t) := by
    intro t
    have hread : OnlyCommits t (getStreamVolume t).2 :=
      within_read onlyCommits_frame.call volume t
    split_ifs
    · rcases hresult : getStreamVolume t with ⟨result, t'⟩
      rw [hresult] at hread
      cases result with
      | error _ => exact hread
      | ok volume =>
          simp only
          split_ifs
          · exact hread.trans (report_onlyCommits _ _ _ _ _)
          · exact hread
    · exact .refl t
  rw [watchdog]
  simp only
  rw [(hreports _).allRestored]
  cases s.originalVolume.isSome && (decide (s.deadline ≤ s.clock) || !s.connected) with
  | true =>
      simp only [if_true, (report_onlyCommits _ _ _ _ _).allRestored,
        allRestored_cancelCalibration, true_implies]
  | false =>
      simp

theorem routeChanged_allRestored (s : DeviceVolumeControl) :
    s.routeChanged.AllRestored ↔
      s.AllRestored ∧
        ((speakerOnly s).1.toOption ≠ some true → (speakerOnly s).2.restorable = true) := by
  have hread : OnlyCommits s (speakerOnly s).2 :=
    within_read onlyCommits_frame.call (fun s => isSpeakerOnly s.outputs) s
  rw [routeChanged]
  rcases hresult : speakerOnly s with ⟨only, s'⟩
  rw [hresult] at hread
  cases only with
  | error _ =>
      simp only [(report_onlyCommits _ _ _ _ _).allRestored, allRestored_cancelCalibration,
        hread.allRestored]
      simp [Except.toOption]
  | ok only =>
      cases only with
      | true =>
          simp only [(report_onlyCommits _ _ _ _ _).allRestored, hread.allRestored]
          simp [Except.toOption]
      | false =>
          simp only [(report_onlyCommits _ _ _ _ _).allRestored, allRestored_cancelCalibration,
            hread.allRestored]
          simp [Except.toOption]

theorem step_allRestored (s : DeviceVolumeControl) (e : VolumeEvent) :
    (s.step e).AllRestored ↔ s.AllRestored ∧ s.cancelRestores e = true := by
  cases e with
  | command command =>
      rw [step, cancelRestores]
      unfold cancelledIn
      by_cases hcommand : command = 0
      · rw [applyCommand, if_pos hcommand]
        simp [hcommand]
      · rw [applyCommand_allRestored hcommand]
        cases hcancels : s.expired || decide (operationOf command = 4) with
        | true => simp [hcommand, hcancels]
        | false => simp [hcancels]
  | watchdog =>
      rw [step, watchdog_allRestored, cancelRestores]
      unfold cancelledIn
      cases s.originalVolume.isSome && (decide (s.deadline ≤ s.clock) || !s.connected) with
      | true => simp
      | false => simp
  | routeChanged =>
      rw [step, routeChanged_allRestored, cancelRestores]
      unfold cancelledIn
      by_cases honly : (speakerOnly s).1.toOption = some true
      · simp [honly]
      · simp [honly]
  | cancel =>
      rw [step, allRestored_cancelCalibration]
      rfl
  | close =>
      rw [step, allRestored_cancelCalibration]
      rfl
  | _ =>
      exact (and_iff_left rfl).symm

end Runs

/-- **The phone forgets no unrestored volume if and only if every cancel of an open
session restores it**, that is, finds only speakers and an `AudioManager` that neither
throws nor ignores it. -/
theorem volumes_are_restored_iff (volume minimumVolume maximumVolume : Nat) (fixed : Bool)
    (outputs : List OutputType) (sdkInt : Nat) (deviceId name : String) (clock : Nat)
    (connected : Bool) (es : List VolumeEvent) :
    (run step (new volume minimumVolume maximumVolume fixed outputs sdkInt deviceId name clock
        connected) es).AllRestored ↔
      Along step (fun s e => s.cancelRestores e = true)
        (new volume minimumVolume maximumVolume fixed outputs sdkInt deviceId name clock connected)
        es := by
  have hrun : ∀ (s : DeviceVolumeControl), (run step s es).AllRestored ↔
      s.AllRestored ∧ Along step (fun s e => s.cancelRestores e = true) s es := by
    induction es with
    | nil =>
        intro s
        simp [Along]
    | cons e es ih =>
        intro s
        rw [run_cons, ih, step_allRestored, Along, and_assoc]
  rw [hrun]
  exact and_iff_right (fun f hf => by cases hf)

/-- The command with a request id, an operation and a value. -/
def commandWord (requestId operation value : UInt64) : UInt64 :=
  (requestId <<< 24) ||| (operation <<< 16) ||| value

/-- A calibration raises the volume, headphones are plugged in and out again, and the
server cancels. -/
def headphonesPlugged : List VolumeEvent :=
  [.command (commandWord 1 3 0), .command (commandWord 2 6 15),
    .route [.builtinSpeaker, .other 4], .routeChanged,
    .route [.builtinSpeaker], .routeChanged, .command (commandWord 3 4 0)]

/-- The volume from before the calibration is forgotten and never restored. -/
theorem original_volume_is_forgotten :
    ¬ (run step (new 5 0 15 false [.builtinSpeaker] 30 "phone" "Phone" 0 true)
        headphonesPlugged).AllRestored ∧
      (run step (new 5 0 15 false [.builtinSpeaker] 30 "phone" "Phone" 0 true)
        headphonesPlugged).volume = 15 := by
  refine ⟨?_, by decide⟩
  intro h
  rcases h { original := 5, committed := false, readBack := none } (by decide) with hf | hf
  · cases hf
  · cases hf

end DeviceVolumeControl

end Soundwave

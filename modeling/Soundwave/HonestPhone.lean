import Soundwave.DeviceVolume

/-!
# Phones whose volume only commands change

A `DeviceVolumeControl` is honest if its `AudioManager` does what it is told, the sound
comes out of speakers only, and the connection stands.  Then every call succeeds, and
`report` and `cancelCalibration` have closed forms.

The result, `Honest.step_acts`, says what one event does to the volume of an honest phone
and what the phone then reports: all statuses carry the volume that it has, and it has a
new one only from a volume command, whose answer is the only status, or because a cancel
has restored the volume from before a calibration.
-/

namespace Soundwave

namespace DeviceVolumeControl

section Honest

/-- The `AudioManager` does what it is told, the sound comes out of speakers only, and the
connection stands. -/
structure Honest (s : DeviceVolumeControl) : Prop where
  script : s.script = []
  speaker : isSpeakerOnly s.outputs = true
  connected : s.connected = true

instance (s : DeviceVolumeControl) : Decidable s.Honest :=
  decidable_of_iff (s.script = [] ∧ isSpeakerOnly s.outputs = true ∧ s.connected = true)
    ⟨fun h => ⟨h.1, h.2.1, h.2.2⟩, fun h => ⟨h.script, h.speaker, h.connected⟩⟩

/-- A phone that was honest is honest. -/
def StaysHonest (s s' : DeviceVolumeControl) : Prop :=
  s.Honest → s'.Honest

instance : IsPreorder DeviceVolumeControl StaysHonest where
  refl := fun _ h => h
  trans := fun _ _ _ h h' hs => h' (h hs)

theorem staysHonest_frame : Frame StaysHonest where
  call := fun s h => ⟨by rw [h.script]; rfl, h.speaker, h.connected⟩
  volume := fun _ _ h => ⟨h.script, h.speaker, h.connected⟩
  remembered := fun _ _ h => ⟨h.script, h.speaker, h.connected⟩
  deadline := fun _ _ h => ⟨h.script, h.speaker, h.connected⟩
  committed := fun _ _ h => ⟨h.script, h.speaker, h.connected⟩

/-- What `minimum` returns. -/
def lowest (s : DeviceVolumeControl) : Nat :=
  if 28 ≤ s.sdkInt then s.minimumVolume else 0

/-- The status that `report` composes. -/
def statusOf (s : DeviceVolumeControl) (requestId : Nat) (failed : Bool) (volume : Nat) :
    DeviceStatus where
  requestId := requestId
  deviceId := s.deviceId
  name := s.name
  volume := volume
  minimum := s.lowest
  maximum := s.maximumVolume
  fixed := s.fixed
  speaker := true
  failed := failed

variable {s : DeviceVolumeControl}

theorem Honest.call (h : s.Honest) : call s = (.ok .succeeds, s) := by
  rw [DeviceVolumeControl.call, h.script]

theorem Honest.getStreamVolume (h : s.Honest) : getStreamVolume s = (.ok s.volume, s) := by
  rw [DeviceVolumeControl.getStreamVolume, Throwing.bind_of_ok h.call]
  rfl

theorem Honest.setStreamVolume (h : s.Honest) (index : Nat) :
    setStreamVolume index s = (.ok (), { s with volume := index }) := by
  rw [DeviceVolumeControl.setStreamVolume, Throwing.bind_of_ok h.call]
  rfl

theorem Honest.getStreamMaxVolume (h : s.Honest) :
    getStreamMaxVolume s = (.ok s.maximumVolume, s) := by
  rw [DeviceVolumeControl.getStreamMaxVolume, Throwing.bind_of_ok h.call]
  rfl

theorem Honest.isVolumeFixed (h : s.Honest) : isVolumeFixed s = (.ok s.fixed, s) := by
  rw [DeviceVolumeControl.isVolumeFixed, Throwing.bind_of_ok h.call]
  rfl

theorem Honest.speakerOnly (h : s.Honest) : speakerOnly s = (.ok true, s) := by
  rw [DeviceVolumeControl.speakerOnly, Throwing.bind_of_ok h.call, ← h.speaker]
  rfl

theorem Honest.hasOtherOutput (h : s.Honest) : hasOtherOutput s = (.ok false, s) := by
  rw [DeviceVolumeControl.hasOtherOutput, Throwing.bind_of_ok h.speakerOnly]
  rfl

theorem Honest.minimum (h : s.Honest) : minimum s = (.ok s.lowest, s) := by
  have hsdk : (Throwing.gets sdkInt : Throwing Unit DeviceVolumeControl Nat) s =
      (.ok s.sdkInt, s) := rfl
  rw [DeviceVolumeControl.minimum, Throwing.bind_of_ok hsdk, lowest]
  split_ifs
  · rw [Throwing.bind_of_ok h.call]
    rfl
  · rfl

theorem Honest.nativeReportDevice (h : s.Honest) (status : DeviceStatus) :
    s.nativeReportDevice status = { s with reports := s.reports ++ [status] } := by
  rw [DeviceVolumeControl.nativeReportDevice, if_pos h.connected]

/-- The status that `report` sends first, of a change that it was not told of. -/
def noticeOf (s : DeviceVolumeControl) (requestId : Nat) (failed observe : Bool) (volume : Nat) :
    List DeviceStatus :=
  if observe && !failed && requestId ≠ 0 && s.reportedVolume.isSome &&
      s.reportedVolume ≠ some volume then
    [s.statusOf 0 failed volume]
  else
    []

/-- A status of the phone with this volume. -/
def Describes (s : DeviceVolumeControl) (volume : Nat) (status : DeviceStatus) : Prop :=
  ∃ requestId failed, status = s.statusOf requestId failed volume

theorem mem_noticeOf {s : DeviceVolumeControl} {requestId volume : Nat} {failed observe : Bool}
    {notice : DeviceStatus} (h : notice ∈ s.noticeOf requestId failed observe volume) :
    s.Describes volume notice := by
  rw [noticeOf] at h
  split_ifs at h
  · exact ⟨0, failed, List.mem_singleton.mp h⟩
  · cases h

/-- What `report` does. -/
theorem Honest.report (h : s.Honest) (requestId : Nat) (failed observe : Bool)
    (commandVolume : Option Nat) :
    s.report requestId failed observe commandVolume =
      { s with
          reports := s.reports ++
            (s.noticeOf requestId failed observe (commandVolume.getD s.volume) ++
              [s.statusOf requestId failed (commandVolume.getD s.volume)])
          reportedVolume :=
            if !failed || commandVolume.isSome then some (commandVolume.getD s.volume)
            else s.reportedVolume } := by
  have hvolume : volumeToReport commandVolume s = (.ok (commandVolume.getD s.volume), s) := by
    cases commandVolume with
    | none => exact h.getStreamVolume
    | some volume => rfl
  rw [DeviceVolumeControl.report, reportStatus, Throwing.bind_of_ok hvolume,
    Throwing.bind_of_ok h.minimum, Throwing.bind_of_ok h.getStreamMaxVolume,
    Throwing.bind_of_ok h.isVolumeFixed, Throwing.bind_of_ok h.speakerOnly]
  have hobserved : ∀ reports, ({ s with reports := reports } : DeviceVolumeControl).Honest :=
    fun _ => ⟨h.script, h.speaker, h.connected⟩
  have hrecorded : ∀ reports reported, ({ s with reports := reports, reportedVolume := reported } :
      DeviceVolumeControl).Honest := fun _ _ => ⟨h.script, h.speaker, h.connected⟩
  simp only [Throwing.modify, noticeOf, statusOf, h.nativeReportDevice]
  split_ifs
  · rw [(hrecorded _ _).nativeReportDevice, List.append_assoc]
  · rw [(hrecorded s.reports _).nativeReportDevice, List.nil_append]
  · rw [(hobserved _).nativeReportDevice, List.append_assoc]
  · rw [h.nativeReportDevice, List.nil_append]

theorem Honest.reported (h : s.Honest) (requestId : Nat) (failed observe : Bool)
    (commandVolume : Option Nat) :
    (s.report requestId failed observe commandVolume).Honest := by
  rw [h.report]
  exact ⟨h.script, h.speaker, h.connected⟩

end Honest

section Parts

/-- The same device with the same range. -/
structure SameBody (s s' : DeviceVolumeControl) : Prop where
  deviceId : s'.deviceId = s.deviceId
  name : s'.name = s.name
  fixed : s'.fixed = s.fixed
  lowest : s'.lowest = s.lowest
  maximumVolume : s'.maximumVolume = s.maximumVolume

theorem SameBody.refl (s : DeviceVolumeControl) : SameBody s s :=
  ⟨rfl, rfl, rfl, rfl, rfl⟩

theorem SameBody.trans {s t u : DeviceVolumeControl} (h : SameBody s t) (h' : SameBody t u) :
    SameBody s u :=
  ⟨h'.deviceId.trans h.deviceId, h'.name.trans h.name, h'.fixed.trans h.fixed,
    h'.lowest.trans h.lowest, h'.maximumVolume.trans h.maximumVolume⟩

theorem SameBody.statusOf {s s' : DeviceVolumeControl} (h : SameBody s s') :
    s'.statusOf = s.statusOf := by
  funext requestId failed volume
  rw [DeviceVolumeControl.statusOf, DeviceVolumeControl.statusOf, h.deviceId, h.name, h.fixed,
    h.lowest, h.maximumVolume]

/-- The same device, which has reported nothing more. -/
structure Unspoken (s s' : DeviceVolumeControl) : Prop extends SameBody s s' where
  reports : s'.reports = s.reports

theorem Unspoken.refl (s : DeviceVolumeControl) : Unspoken s s :=
  ⟨.refl s, rfl⟩

theorem Unspoken.trans {s t u : DeviceVolumeControl} (h : Unspoken s t) (h' : Unspoken t u) :
    Unspoken s u :=
  ⟨h.toSameBody.trans h'.toSameBody, h'.reports.trans h.reports⟩

instance : IsPreorder DeviceVolumeControl Unspoken where
  refl := Unspoken.refl
  trans := fun _ _ _ => Unspoken.trans

theorem unspoken_frame : Frame Unspoken where
  call := fun _ => ⟨⟨rfl, rfl, rfl, rfl, rfl⟩, rfl⟩
  volume := fun _ _ => ⟨⟨rfl, rfl, rfl, rfl, rfl⟩, rfl⟩
  remembered := fun _ _ => ⟨⟨rfl, rfl, rfl, rfl, rfl⟩, rfl⟩
  deadline := fun _ _ => ⟨⟨rfl, rfl, rfl, rfl, rfl⟩, rfl⟩
  committed := fun _ _ => ⟨⟨rfl, rfl, rfl, rfl, rfl⟩, rfl⟩

/-- The volume lies in the range of the device, and so does the one that is remembered. -/
structure Ranged (s : DeviceVolumeControl) : Prop where
  volume : s.lowest ≤ s.volume ∧ s.volume ≤ s.maximumVolume
  original : ∀ original ∈ s.originalVolume, s.lowest ≤ original ∧ original ≤ s.maximumVolume

instance (s : DeviceVolumeControl) : Decidable s.Ranged :=
  decidable_of_iff ((s.lowest ≤ s.volume ∧ s.volume ≤ s.maximumVolume) ∧
      ∀ original ∈ s.originalVolume, s.lowest ≤ original ∧ original ≤ s.maximumVolume)
    ⟨fun h => ⟨h.1, h.2⟩, fun h => ⟨h.volume, h.original⟩⟩

variable {s : DeviceVolumeControl}

theorem Ranged.of_body {s' : DeviceVolumeControl} (h : s.Ranged) (hbody : SameBody s s')
    (hvolume : s'.volume = s.volume) (horiginal : s'.originalVolume = s.originalVolume) :
    s'.Ranged := by
  refine ⟨?_, ?_⟩
  · rw [hvolume, hbody.lowest, hbody.maximumVolume]
    exact h.volume
  · rw [horiginal, hbody.lowest, hbody.maximumVolume]
    exact h.original

/-- `report` tells the volume, and changes nothing that matters to a later command. -/
theorem Honest.report_told (h : s.Honest) (requestId : Nat) (failed observe : Bool)
    (commandVolume : Option Nat) :
    ∃ said,
      (s.report requestId failed observe commandVolume).reports = s.reports ++ said ∧
      (∀ status ∈ said, s.Describes (commandVolume.getD s.volume) status) ∧
      (observe = false → said = [s.statusOf requestId failed (commandVolume.getD s.volume)]) := by
  refine ⟨_, by rw [h.report], ?_, ?_⟩
  · intro status hstatus
    rcases List.mem_append.mp hstatus with hstatus | hstatus
    · exact mem_noticeOf hstatus
    · exact ⟨requestId, failed, List.mem_singleton.mp hstatus⟩
  · rintro rfl
    rfl

theorem Honest.report_same (h : s.Honest) (requestId : Nat) (failed observe : Bool)
    (commandVolume : Option Nat) :
    SameBody s (s.report requestId failed observe commandVolume) ∧
      (s.report requestId failed observe commandVolume).volume = s.volume ∧
      (s.report requestId failed observe commandVolume).originalVolume = s.originalVolume := by
  rw [h.report]
  exact ⟨⟨rfl, rfl, rfl, rfl, rfl⟩, rfl, rfl⟩

/-- What a cancel does: the remembered volume is set, and forgotten. -/
structure Cancelled (s s' : DeviceVolumeControl) : Prop extends Unspoken s s' where
  honest : s'.Honest
  volume : s'.volume = s.originalVolume.getD s.volume
  session : s'.originalVolume = none

theorem Honest.cancelCalibration (h : s.Honest) :
    s.cancelCalibration.1 = true ∧ Cancelled s s.cancelCalibration.2 := by
  cases horiginal : s.originalVolume with
  | none =>
      rw [cancelCalibration_of_none horiginal]
      exact ⟨rfl, .refl s, h, by rw [horiginal]; rfl, horiginal⟩
  | some original =>
      have hfirst : ({ s with originalVolume := none } : DeviceVolumeControl).Honest :=
        ⟨h.script, h.speaker, h.connected⟩
      have hset : ({ s with originalVolume := none, volume := original } :
          DeviceVolumeControl).Honest := ⟨h.script, h.speaker, h.connected⟩
      have hrestore : restoreVolume original { s with originalVolume := none } =
          (.ok (some original), { s with originalVolume := none, volume := original }) := by
        rw [restoreVolume, Throwing.bind_of_ok hfirst.speakerOnly]
        simp only [Bool.not_true, Bool.false_eq_true, if_false]
        rw [Throwing.bind_of_ok (hfirst.setStreamVolume original),
          Throwing.bind_of_ok hset.getStreamVolume]
        rfl
      rw [DeviceVolumeControl.cancelCalibration, horiginal]
      simp only [hrestore, Except.toOption, Option.getD_some, decide_true]
      exact ⟨trivial, ⟨⟨⟨rfl, rfl, rfl, rfl, rfl⟩, rfl⟩, ⟨h.script, h.speaker, h.connected⟩,
        by rw [horiginal]; rfl, rfl⟩⟩

theorem Cancelled.ranged {s' : DeviceVolumeControl} (h : Cancelled s s') (hranged : s.Ranged) :
    s'.Ranged := by
  refine ⟨?_, ?_⟩
  · rw [h.volume, h.lowest, h.maximumVolume]
    cases horiginal : s.originalVolume with
    | none => exact hranged.volume
    | some original => exact hranged.original original horiginal
  · rw [h.session]
    intro original horiginal
    cases horiginal

end Parts

section Operations

variable {s : DeviceVolumeControl}

/-- The operations that set the volume to the value of a command. -/
def setsVolume (operation : UInt64) : Bool :=
  operation = 2 || operation = 6 || operation = 7

/-- What an operation other than 4 does: the volume stays, or an operation that sets it
has succeeded. -/
structure Operated (s : DeviceVolumeControl) (operation : UInt64)
    (result : Bool × Option Nat) (s' : DeviceVolumeControl) : Prop where
  ranged : s'.Ranged
  volume : (result.2 = none ∧ s'.volume = s.volume) ∨
    (setsVolume operation = true ∧ result = (false, some s'.volume))

/-- An operation that sets no volume and remembers at most the present one. -/
theorem Operated.unchanged (hranged : s.Ranged) (s' : DeviceVolumeControl)
    (hbody : SameBody s s') (hvolume : s'.volume = s.volume)
    (horiginal : ∀ original ∈ s'.originalVolume,
      original = s.volume ∨ original ∈ s.originalVolume)
    {operation : UInt64} (failed : Bool) : Operated s operation (failed, none) s' := by
  refine ⟨⟨?_, ?_⟩, Or.inl ⟨rfl, hvolume⟩⟩
  · rw [hvolume, hbody.lowest, hbody.maximumVolume]
    exact hranged.volume
  · intro original hmem
    rw [hbody.lowest, hbody.maximumVolume]
    rcases horiginal original hmem with rfl | hold
    · exact hranged.volume
    · exact hranged.original original hold

theorem Operated.idle (hranged : s.Ranged) {operation : UInt64} (failed : Bool) :
    Operated s operation (failed, none) s :=
  .unchanged hranged s (.refl s) rfl (fun _ h => Or.inr h) failed

theorem Operated.waits (hranged : s.Ranged) {operation : UInt64} (failed : Bool)
    (deadline : Nat) :
    Operated s operation (failed, none) { s with deadline := deadline } :=
  .unchanged hranged { s with deadline := deadline } ⟨rfl, rfl, rfl, rfl, rfl⟩ rfl
    (fun _ h => Or.inr h) failed

theorem Honest.refusesVolume (h : s.Honest) (operation : UInt64) :
    ∃ refused, refusesVolume operation s = (.ok refused, s) := by
  have hsession : (Throwing.gets (fun s => s.originalVolume.isSome) :
      Throwing Unit DeviceVolumeControl Bool) s = (.ok s.originalVolume.isSome, s) := rfl
  have hroute : (if operation ≠ 2 then DeviceVolumeControl.hasOtherOutput else pure false :
      Throwing Unit DeviceVolumeControl Bool) s = (.ok false, s) := by
    split_ifs
    · exact h.hasOtherOutput
    · rfl
  rw [DeviceVolumeControl.refusesVolume, Throwing.bind_of_ok hsession,
    Throwing.bind_of_ok h.isVolumeFixed]
  by_cases hfixed : s.fixed = true
  · rw [if_pos hfixed]
    exact ⟨true, rfl⟩
  · rw [if_neg hfixed, Throwing.bind_of_ok hroute, if_neg Bool.false_ne_true]
    split_ifs
    · exact ⟨true, rfl⟩
    · exact ⟨false, h.hasOtherOutput⟩
    · exact ⟨false, rfl⟩

/-- A volume command is refused, or it sets the volume within the range. -/
theorem Honest.applyVolume (h : s.Honest) (hranged : s.Ranged) {operation : UInt64}
    (hsets : setsVolume operation = true) (value : Nat) :
    Operated s operation (caught (applyVolume operation value s).1)
      (applyVolume operation value s).2 := by
  obtain ⟨refused, hrefused⟩ := h.refusesVolume operation
  rw [DeviceVolumeControl.applyVolume, Throwing.bind_of_ok hrefused]
  cases refused with
  | true =>
      exact .idle hranged true
  | false =>
      have hlimits : ¬ s.maximumVolume < s.lowest := by
        have hvolume := hranged.volume
        omega
      have hindex : coerceIn value s.lowest s.maximumVolume s =
          (.ok (max s.lowest (min value s.maximumVolume)), s) := by
        rw [coerceIn, if_neg hlimits]
        rfl
      have hset : ∀ volume, ({ s with volume := volume } : DeviceVolumeControl).Honest :=
        fun _ => ⟨h.script, h.speaker, h.connected⟩
      simp only [Bool.false_eq_true, if_false]
      rw [Throwing.bind_of_ok h.minimum, Throwing.bind_of_ok h.getStreamMaxVolume,
        Throwing.bind_of_ok hindex, Throwing.bind_of_ok (h.setStreamVolume _),
        Throwing.bind_of_ok (hset _).getStreamVolume]
      simp only [Throwing.pure_apply, ne_eq, not_true_eq_false, decide_false, caught]
      refine ⟨⟨?_, hranged.original⟩, Or.inr ⟨hsets, rfl⟩⟩
      exact ⟨le_max_left _ _, max_le (not_lt.mp hlimits) (min_le_right _ _)⟩

theorem Honest.beginSession (h : s.Honest) (hranged : s.Ranged) (operation : UInt64)
    (failed : Bool) :
    Operated s operation (caught (beginSession failed s).1) (beginSession failed s).2 := by
  rw [DeviceVolumeControl.beginSession, Throwing.bind_of_ok h.isVolumeFixed]
  split_ifs
  · exact .idle hranged true
  · rw [Throwing.bind_of_ok h.hasOtherOutput, if_neg Bool.false_ne_true]
    cases horiginal : s.originalVolume with
    | some original =>
        have hremember : rememberVolume s = (.ok (), s) := by
          rw [rememberVolume, Throwing.bind_apply]
          simp only [Throwing.gets, horiginal, Option.isSome_some, if_true]
          rfl
        rw [Throwing.bind_of_ok hremember]
        exact .waits hranged failed (s.clock + 6000)
    | none =>
        have hremember :
            rememberVolume s = (.ok (), { s with originalVolume := some s.volume }) := by
          rw [rememberVolume, Throwing.bind_apply]
          simp only [Throwing.gets, horiginal, Option.isSome_none, Bool.false_eq_true, if_false]
          rw [Throwing.bind_of_ok h.getStreamVolume]
          rfl
        have hbegun : Operated s operation (failed, none)
            { s with originalVolume := some s.volume, deadline := s.clock + 6000 } := by
          refine .unchanged hranged _ ?_ ?_ ?_ failed
          · exact ⟨rfl, rfl, rfl, rfl, rfl⟩
          · rfl
          · intro original hmem
            exact Or.inl (Option.some.inj hmem).symm
        rw [Throwing.bind_of_ok hremember]
        exact hbegun

theorem Honest.commitSession (h : s.Honest) (hranged : s.Ranged) (operation : UInt64)
    (expected : Nat) (failed : Bool) :
    Operated s operation (caught (commitSession expected failed s).1)
      (commitSession expected failed s).2 := by
  rw [DeviceVolumeControl.commitSession]
  cases s.originalVolume with
  | none =>
      exact .idle hranged true
  | some original =>
      simp only
      rw [commitVolume, Throwing.bind_of_ok h.hasOtherOutput, if_neg Bool.false_ne_true,
        Throwing.bind_of_ok h.getStreamVolume]
      split_ifs
      · exact .idle hranged true
      · have hcommitted : Operated s operation (failed, none)
            { s with
              originalVolume := none
              forgotten := s.forgotten ++
                [{ original := original, committed := true, readBack := none }] } := by
          refine .unchanged hranged _ ?_ ?_ ?_ failed
          · exact ⟨rfl, rfl, rfl, rfl, rfl⟩
          · rfl
          · intro _ hmem
            cases hmem
        exact hcommitted

theorem Honest.operated (h : s.Honest) (hranged : s.Ranged) {operation : UInt64}
    (hcancel : operation ≠ 4) (value : Nat) (failed : Bool) :
    Operated s operation (caught (operate operation value failed s).1)
      (operate operation value failed s).2 := by
  by_cases hquery : operation = 1
  · rw [operate, if_pos hquery]
    simp only [Throwing.bind_apply, Throwing.modify, Throwing.pure_apply, caught]
    split_ifs
    · exact .waits hranged failed (s.clock + 6000)
    · exact .idle hranged failed
  by_cases hsets : operation = 2 ∨ operation = 6 ∨ operation = 7
  · rw [operate, if_neg hquery, if_pos hsets]
    exact h.applyVolume hranged (by simpa [setsVolume, or_assoc] using hsets) value
  rw [operate, if_neg hquery, if_neg hsets, if_neg hcancel]
  split_ifs
  · exact h.beginSession hranged operation failed
  · exact .idle hranged true
  · exact h.commitSession hranged operation value failed
  · exact .idle hranged failed

end Operations

section Events

/-- The events of the phone itself: neither the route, the connection and the volume of the
stream change, nor what the calls of the `AudioManager` do. -/
def VolumeEvent.own : VolumeEvent → Bool
  | .command _ => true
  | .watchdog => true
  | .routeChanged => true
  | .cancel => true
  | .close => true
  | .wait _ => true
  | _ => false

/-- A volume command. -/
def VolumeEvent.setsVolume : VolumeEvent → Bool
  | .command word => DeviceVolumeControl.setsVolume (operationOf word)
  | _ => false

/-- The event ends a calibration, by a cancel or since it has expired, that had left
another volume than the one before it. -/
def restoresChange (s : DeviceVolumeControl) (e : VolumeEvent) : Bool :=
  (s.cancelledIn e).any (fun s => s.originalVolume.any (· ≠ s.volume))

/-- What an event does to a phone.  All that is reported says the volume that the phone
has afterwards; a new one was restored, or is the only thing that is said, in answer to a
volume command. -/
structure Acts (s : DeviceVolumeControl) (e : VolumeEvent) (s' : DeviceVolumeControl) : Prop
    extends SameBody s s' where
  honest : s'.Honest
  ranged : s'.Ranged
  told : ∃ said, s'.reports = s.reports ++ said ∧
    (∀ status ∈ said, s'.Describes s'.volume status) ∧
    (s'.volume = s.volume ∨ s.restoresChange e = true ∨
      (e.setsVolume = true ∧ ∃ requestId, said = [s'.statusOf requestId false s'.volume]))

variable {s : DeviceVolumeControl} {e : VolumeEvent}

/-- Nothing is reported. -/
theorem Acts.of_unspoken {s' : DeviceVolumeControl} (hunspoken : Unspoken s s')
    (hhonest : s'.Honest) (hranged : s'.Ranged)
    (hvolume : s'.volume = s.volume ∨ s.restoresChange e = true) : Acts s e s' := by
  refine ⟨hunspoken.toSameBody, hhonest, hranged, [], ?_, ?_, ?_⟩
  · rw [hunspoken.reports, List.append_nil]
  · intro status hstatus
    cases hstatus
  · rcases hvolume with hvolume | hvolume
    · exact Or.inl hvolume
    · exact Or.inr (Or.inl hvolume)

/-- Something was reported, and the volume is reported once more. -/
theorem Acts.report {s' : DeviceVolumeControl} (h : Acts s e s')
    (hvolume : s'.volume = s.volume ∨ s.restoresChange e = true) (requestId : Nat)
    (failed observe : Bool) :
    Acts s e (s'.report requestId failed observe none) := by
  obtain ⟨said, hsaid, hall, _⟩ := h.told
  obtain ⟨hbody, hsame, horiginal⟩ := h.honest.report_same requestId failed observe none
  obtain ⟨later, hlater, hdescribes, _⟩ := h.honest.report_told requestId failed observe none
  refine ⟨h.toSameBody.trans hbody, h.honest.reported _ _ _ _,
    h.ranged.of_body hbody hsame horiginal, said ++ later, ?_, ?_, ?_⟩
  · rw [hlater, hsaid, List.append_assoc]
  · intro status hstatus
    rw [Describes, hbody.statusOf, hsame]
    rcases List.mem_append.mp hstatus with hstatus | hstatus
    · exact hall status hstatus
    · exact hdescribes status hstatus
  · rw [hsame]
    rcases hvolume with hvolume | hvolume
    · exact Or.inl hvolume
    · exact Or.inr (Or.inl hvolume)

/-- A volume command has succeeded, and is answered. -/
theorem Acts.of_set {s' : DeviceVolumeControl} (hunspoken : Unspoken s s') (hhonest : s'.Honest)
    (hranged : s'.Ranged) (hsets : e.setsVolume = true) (requestId : Nat) :
    Acts s e (s'.report requestId false false (some s'.volume)) := by
  obtain ⟨hbody, hsame, horiginal⟩ := hhonest.report_same requestId false false (some s'.volume)
  obtain ⟨said, hsaid, hdescribes, hanswer⟩ :=
    hhonest.report_told requestId false false (some s'.volume)
  refine ⟨hunspoken.toSameBody.trans hbody, hhonest.reported _ _ _ _,
    hranged.of_body hbody hsame horiginal, said, ?_, ?_, Or.inr (Or.inr ⟨hsets, requestId, ?_⟩)⟩
  · rw [hsaid, hunspoken.reports]
  · intro status hstatus
    rw [Describes, hbody.statusOf, hsame]
    exact hdescribes status hstatus
  · rw [hbody.statusOf, hsame]
    exact hanswer rfl

/-- A cancel changes the volume only if the calibration did. -/
theorem Cancelled.volume_or {s' : DeviceVolumeControl} (h : Cancelled s s')
    (hcancels : s.cancelledIn e = some s) :
    s'.volume = s.volume ∨ s.restoresChange e = true := by
  rw [h.volume, restoresChange, hcancels, Option.any_some]
  cases s.originalVolume with
  | none =>
      exact Or.inl rfl
  | some original =>
      by_cases hsame : original = s.volume
      · exact Or.inl hsame
      · exact Or.inr (decide_eq_true hsame)

/-- After the look at the deadline. -/
theorem Honest.afterExpiry (h : s.Honest) (hranged : s.Ranged) {command : UInt64}
    (hcommand : command ≠ 0) :
    Unspoken s s.afterExpiry ∧ s.afterExpiry.Honest ∧ s.afterExpiry.Ranged ∧
      (s.afterExpiry.volume = s.volume ∨ s.restoresChange (.command command) = true) ∧
      (if s.expired then !s.cancelCalibration.1 else false) = false := by
  rw [DeviceVolumeControl.afterExpiry]
  split_ifs with hexpired
  · obtain ⟨hdone, hcancelled⟩ := h.cancelCalibration
    have hcancels : s.cancelledIn (.command command) = some s :=
      if_pos (by simp [hcommand, hexpired])
    rw [hdone]
    exact ⟨hcancelled.toUnspoken, hcancelled.honest, hcancelled.ranged hranged,
      hcancelled.volume_or hcancels, rfl⟩
  · exact ⟨.refl s, h, hranged, Or.inl rfl, rfl⟩

theorem Honest.applyCommand_acts (h : s.Honest) (hranged : s.Ranged) (command : UInt64) :
    Acts s (.command command) (s.applyCommand command) := by
  by_cases hcommand : command = 0
  · rw [applyCommand, if_pos hcommand]
    exact .of_unspoken (.refl s) h hranged (Or.inl rfl)
  · obtain ⟨hunspoken, hhonest, hrange, hvolume, hfailed⟩ := h.afterExpiry hranged hcommand
    rw [applyCommand_eq s hcommand, hfailed]
    by_cases hcancel : operationOf command = 4
    · obtain ⟨hdone, hcancelled⟩ := hhonest.cancelCalibration
      have hresult : operate (operationOf command) (command &&& 0xffff).toNat false
          s.afterExpiry = (.ok (false, none), s.afterExpiry.cancelCalibration.2) := by
        rw [hcancel, operate, if_neg (by decide), if_neg (by decide), if_neg (by decide),
          if_pos rfl]
        simp only [Throwing.bind_apply, Throwing.lift, hdone]
        rfl
      have hsame : s.afterExpiry.cancelCalibration.2.volume = s.volume ∨
          s.restoresChange (.command command) = true := by
        cases hexpired : s.expired with
        | true =>
            -- the session has ended before
            have hended : s.afterExpiry.originalVolume = none := by
              rw [DeviceVolumeControl.afterExpiry, hexpired]
              exact h.cancelCalibration.2.session
            rw [hcancelled.volume, hended]
            exact hvolume
        | false =>
            have hafter : s.afterExpiry = s := by
              rw [DeviceVolumeControl.afterExpiry, hexpired]
              rfl
            have hcancels : s.cancelledIn (.command command) = some s :=
              if_pos (by simp [hcommand, hcancel])
            rw [hafter]
            exact h.cancelCalibration.2.volume_or hcancels
      have hacts : Acts s (.command command) s.afterExpiry.cancelCalibration.2 :=
        .of_unspoken (hunspoken.trans hcancelled.toUnspoken) hcancelled.honest
          (hcancelled.ranged hrange) hsame
      simp only [hresult]
      exact hacts.report hsame _ _ _
    · have hoperated := hhonest.operated hrange hcancel (command &&& 0xffff).toNat false
      have hkept : Unspoken s.afterExpiry (operate (operationOf command)
          (command &&& 0xffff).toNat false s.afterExpiry).2 :=
        within_operate unspoken_frame hcancel _ _ _
      have hstays : (operate (operationOf command) (command &&& 0xffff).toNat false
          s.afterExpiry).2.Honest :=
        within_operate staysHonest_frame hcancel _ _ _ hhonest
      rcases hresult : operate (operationOf command) (command &&& 0xffff).toNat false
        s.afterExpiry with ⟨result, s'⟩
      rw [hresult] at hoperated hkept hstays
      rcases hoperated.volume with ⟨hnone, hsame⟩ | ⟨hsets, hset⟩
      · have hor : s'.volume = s.volume ∨ s.restoresChange (.command command) = true := by
          rw [hsame]
          exact hvolume
        have hacts : Acts s (.command command) s' :=
          .of_unspoken (hunspoken.trans hkept) hstays hoperated.ranged hor
        simp only [hnone]
        exact hacts.report hor _ _ _
      · have hquery : operationOf command ≠ 1 := by
          intro hquery
          rw [hquery] at hsets
          cases hsets
        have hevent : (VolumeEvent.command command).setsVolume = true := hsets
        simp only [hset, decide_eq_false hquery, Bool.false_and]
        exact .of_set (hunspoken.trans hkept) hstays hoperated.ranged hevent _

theorem Honest.watchdog_acts (h : s.Honest) (hranged : s.Ranged) :
    Acts s .watchdog s.watchdog := by
  -- the second look reports a volume that was not reported
  have hlooks : ∀ t : DeviceVolumeControl, Acts s .watchdog t →
      (t.volume = s.volume ∨ s.restoresChange .watchdog = true) →
      Acts s .watchdog (if t.reportedVolume ≠ some t.volume then t.report 0 false false none
        else t) := by
    intro t ht hvolume
    split_ifs
    · exact ht.report hvolume _ _ _
    · exact ht
  rw [watchdog]
  by_cases hends : (s.originalVolume.isSome && (s.deadline ≤ s.clock || !s.connected)) = true
  · rcases hresult : s.cancelCalibration with ⟨restored, t⟩
    obtain ⟨_, hcancelled⟩ := h.cancelCalibration
    rw [hresult] at hcancelled
    have hcancels : s.cancelledIn .watchdog = some s := if_pos hends
    have hvolume := hcancelled.volume_or hcancels
    have hacts : Acts s .watchdog (t.report 0 (!restored) false none) :=
      (Acts.of_unspoken hcancelled.toUnspoken hcancelled.honest (hcancelled.ranged hranged)
        hvolume).report hvolume _ _ _
    have hsame := (hcancelled.honest.report_same 0 (!restored) false none).2.1
    rw [if_pos hends]
    simp only
    rw [if_pos hacts.honest.connected, hacts.honest.getStreamVolume]
    exact hlooks _ hacts (by rw [hsame]; exact hvolume)
  · rw [if_neg hends, if_pos h.connected, h.getStreamVolume]
    exact hlooks s (.of_unspoken (.refl s) h hranged (Or.inl rfl)) (Or.inl rfl)

/-- What an event of the phone itself does. -/
theorem Honest.step_acts (h : s.Honest) (hranged : s.Ranged) (he : e.own = true) :
    Acts s e (s.step e) := by
  have hcancel : ∀ e : VolumeEvent, s.cancelledIn e = some s →
      Acts s e s.cancelCalibration.2 := by
    intro e hcancels
    obtain ⟨_, hcancelled⟩ := h.cancelCalibration
    exact .of_unspoken hcancelled.toUnspoken hcancelled.honest (hcancelled.ranged hranged)
      (hcancelled.volume_or hcancels)
  cases e with
  | command command =>
      exact h.applyCommand_acts hranged command
  | watchdog =>
      exact h.watchdog_acts hranged
  | routeChanged =>
      rw [step, routeChanged, h.speakerOnly]
      exact (Acts.of_unspoken (.refl s) h hranged (Or.inl rfl)).report (Or.inl rfl) _ _ _
  | cancel =>
      exact hcancel .cancel rfl
  | close =>
      exact hcancel .close rfl
  | wait duration =>
      exact .of_unspoken ⟨⟨rfl, rfl, rfl, rfl, rfl⟩, rfl⟩ ⟨h.script, h.speaker, h.connected⟩
        ⟨hranged.volume, hranged.original⟩ (Or.inl rfl)
  | outcomes script => cases he
  | route outputs => cases he
  | connection connected => cases he
  | volume volume => cases he

end Events

end DeviceVolumeControl

end Soundwave

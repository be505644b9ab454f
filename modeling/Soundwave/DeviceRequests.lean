import Soundwave.ServiceUpdates
import Soundwave.ThrowingTriples
import Soundwave.VolumeEchoes

/-!
# Requests that a phone answers

A request of the server passes four threads of the phone.  The session puts it into the
queue of `DeviceControl` and calls `notify_changed`; the status thread, which waits for a
new revision, posts an update to the main thread; the main thread takes the commands in
`applyPending` until there are none, and pushes a report for each; and `notify_one` wakes
the session, which sends the reports until there are none.

Every access to a queue, and every notification after it, is a step of its own, so that
other threads may act in between: they push reports that answer nothing, switch the tone,
change what the `AudioManager` does, and notify.  The model is about one connected session
of `client.rs`, from `set(Connected)` to its end, of an `AudioService` that wants to be
connected; what the threads still do for an earlier one may be under way when it begins.
The tone that the session itself switches off before it queues the end of a calibration,
and the report of it, are among what other threads do.
-/

namespace Soundwave

namespace DeviceVolumeControl

section Answers

/-- The connection is the same, and nothing was reported. -/
structure Unreported (s s' : DeviceVolumeControl) : Prop where
  connected : s'.connected = s.connected
  reports : s'.reports = s.reports

theorem Unreported.refl (s : DeviceVolumeControl) : Unreported s s :=
  ⟨rfl, rfl⟩

theorem Unreported.trans {s t u : DeviceVolumeControl} (h : Unreported s t)
    (h' : Unreported t u) : Unreported s u :=
  ⟨h'.connected.trans h.connected, h'.reports.trans h.reports⟩

instance : IsPreorder DeviceVolumeControl Unreported where
  refl := Unreported.refl
  trans := fun _ _ _ => Unreported.trans

theorem unreported_frame : Frame Unreported where
  call := fun _ => ⟨rfl, rfl⟩
  volume := fun _ _ => ⟨rfl, rfl⟩
  remembered := fun _ _ => ⟨rfl, rfl⟩
  deadline := fun _ _ => ⟨rfl, rfl⟩
  committed := fun _ _ => ⟨rfl, rfl⟩

theorem cancelCalibration_unreported (s : DeviceVolumeControl) :
    Unreported s s.cancelCalibration.2 := by
  rw [cancelCalibration]
  cases horiginal : s.originalVolume with
  | none => exact Unreported.refl s
  | some original =>
      have hrestored : Unreported { s with originalVolume := none }
          (restoreVolume original { s with originalVolume := none }).2 :=
        within_restoreVolume unreported_frame.call unreported_frame.volume original
          { s with originalVolume := none }
      exact ⟨hrestored.connected, hrestored.reports⟩

theorem operate_unreported (operation : UInt64) (value : Nat) (failed : Bool)
    (s : DeviceVolumeControl) : Unreported s (operate operation value failed s).2 := by
  by_cases hcancel : operation = 4
  · rw [hcancel, operate, if_neg (by decide), if_neg (by decide), if_neg (by decide), if_pos rfl]
    exact cancelCalibration_unreported s
  · exact within_operate unreported_frame hcancel value failed s

theorem afterExpiry_unreported (s : DeviceVolumeControl) : Unreported s s.afterExpiry := by
  rw [afterExpiry]
  split
  · exact cancelCalibration_unreported s
  · exact Unreported.refl s

/-- The phone has reported what it observed, if anything, and then a status for the
request. -/
def AnswersWith (requestId : Nat) (before after : List DeviceStatus) : Prop :=
  ∃ observed answer, after = before ++ observed ++ [answer] ∧ observed.length ≤ 1 ∧
    (∀ status ∈ observed, status.requestId = 0) ∧ answer.requestId = requestId

theorem answersWith_one {requestId : Nat} {before : List DeviceStatus} {answer : DeviceStatus}
    (h : answer.requestId = requestId) : AnswersWith requestId before (before ++ [answer]) :=
  ⟨[], answer, by rw [List.append_nil], Nat.zero_le _, (fun _ hmem => by cases hmem), h⟩

theorem nativeReportDevice_of_connected {s : DeviceVolumeControl} (h : s.connected = true)
    (status : DeviceStatus) :
    s.nativeReportDevice status = { s with reports := s.reports ++ [status] } :=
  if_pos h

theorem triple_reportStatus (requestId : Nat) (failed observe : Bool) (commandVolume : Option Nat)
    (reports : List DeviceStatus) :
    Triple (fun s => s.connected = true ∧ s.reports = reports)
      (reportStatus requestId failed observe commandVolume)
      (fun _ s => AnswersWith requestId reports s.reports)
      (fun s => s.connected = true ∧ s.reports = reports) := by
  have hread : ∀ {α : Type} {x : Throwing Unit DeviceVolumeControl α}, Within Unreported x →
      Triple (fun s => s.connected = true ∧ s.reports = reports) x
        (fun _ s => s.connected = true ∧ s.reports = reports)
        (fun s => s.connected = true ∧ s.reports = reports) := fun hx =>
    Triple.of_within hx fun s t h hs => ⟨h.connected.trans hs.1, h.reports.trans hs.2⟩
  rw [reportStatus]
  refine Triple.bind (hread ?_) (fun volume => ?_)
  · cases commandVolume with
    | none => exact within_read unreported_frame.call _
    | some volume => exact within_pure _
  refine Triple.bind (hread (within_minimum unreported_frame.call)) (fun minimum => ?_)
  refine Triple.bind (hread (within_read unreported_frame.call _)) (fun maximum => ?_)
  refine Triple.bind (hread (within_read unreported_frame.call _)) (fun fixed => ?_)
  refine Triple.bind (hread (within_read unreported_frame.call _)) (fun speaker => ?_)
  refine Triple.modify ?_
  rintro s ⟨hconnected, hreports⟩
  split_ifs
  · simp only [nativeReportDevice, hconnected, hreports, if_true]
    exact ⟨[_], _, rfl, Nat.le_refl _, (fun status hmem => by rw [List.mem_singleton.mp hmem]), rfl⟩
  · simp only [nativeReportDevice, hconnected, hreports, if_true]
    exact ⟨[_], _, rfl, Nat.le_refl _, (fun status hmem => by rw [List.mem_singleton.mp hmem]), rfl⟩
  · simp only [nativeReportDevice, hconnected, hreports, if_true]
    exact answersWith_one rfl
  · simp only [nativeReportDevice, hconnected, hreports, if_true]
    exact answersWith_one rfl

theorem report_answers {s : DeviceVolumeControl} (hconnected : s.connected = true)
    (requestId : Nat) (failed observe : Bool) (commandVolume : Option Nat) :
    AnswersWith requestId s.reports (s.report requestId failed observe commandVolume).reports := by
  obtain ⟨hreturns, hthrows⟩ :=
    triple_reportStatus requestId failed observe commandVolume s.reports s ⟨hconnected, rfl⟩
  rw [report]
  rcases hresult : reportStatus requestId failed observe commandVolume s with ⟨outcome, t⟩
  cases outcome with
  | ok _ => exact hreturns _ t hresult
  | error _ =>
      obtain ⟨hstill, hreports⟩ := hthrows _ t hresult
      show AnswersWith requestId s.reports (t.nativeReportDevice _).reports
      rw [nativeReportDevice_of_connected hstill, hreports]
      exact answersWith_one rfl

/-- Every command is answered, whatever the `AudioManager` does. -/
theorem applyCommand_answers {s : DeviceVolumeControl} (hconnected : s.connected = true)
    {command : UInt64} (hcommand : command ≠ 0) :
    AnswersWith (command >>> 24).toNat s.reports (s.applyCommand command).reports := by
  rw [applyCommand_eq s hcommand]
  have hoperated := (afterExpiry_unreported s).trans
    (operate_unreported (operationOf command) (command &&& 0xffff).toNat
      (if s.expired then !s.cancelCalibration.1 else false) s.afterExpiry)
  have hanswers := report_answers (hoperated.connected.trans hconnected) (command >>> 24).toNat
  rw [hoperated.reports] at hanswers
  exact hanswers _ _ _

end Answers

end DeviceVolumeControl

/-- The request that a report answers. -/
def ControlMessage.answers : ControlMessage → Option Nat
  | .deviceStatus status => if status.requestId = 0 then none else some status.requestId
  | _ => none

/-- The requests that are answered, in order. -/
def answersIn (reports : List ControlMessage) : List Nat :=
  reports.filterMap ControlMessage.answers

/-- The request that a command asks to answer. -/
def AcceptedCommand.asks (c : AcceptedCommand) : Option Nat :=
  if c.requestId.toNat = 0 then none else some c.requestId.toNat

/-- The requests that are to be answered, in order. -/
def requestsOf (commands : List AcceptedCommand) : List Nat :=
  commands.filterMap AcceptedCommand.asks

/-- Where the session stands: before the `notify_changed` of `set(Connected)`, in `select!`,
before the `notify_changed` of a command, in the loop over the reports, at a report that it
writes, or at its end. -/
inductive SessionStage where
  | announcing
  | selecting
  | notifying
  | draining
  | sending (report : ControlMessage)
  | ended
deriving DecidableEq

/-- The report that the session is writing. -/
def SessionStage.inHand : SessionStage → List ControlMessage
  | sending report => [report]
  | announcing | selecting | notifying | draining | ended => []

/-- Where the main thread stands: nowhere, at something else, in front of `take_command`,
in front of a push or of the statuses still to report, or in front of a `notify_one`. -/
inductive ApplyStage where
  | idle
  | away
  | looking
  | pushing (messages : List ControlMessage) (statuses : List DeviceStatus)
  | notifying (messages : List ControlMessage) (statuses : List DeviceStatus)
deriving DecidableEq

namespace ApplyStage

/-- What the main thread is still to push for the command it has taken. -/
def messages : ApplyStage → List ControlMessage
  | pushing messages statuses | notifying messages statuses =>
      messages ++ statuses.map .deviceStatus
  | idle | away | looking => []

/-- The main thread is in `applyPending`. -/
def applying : ApplyStage → Bool
  | looking | pushing _ _ | notifying _ _ => true
  | idle | away => false

/-- The main thread has pushed a report that it has not announced. -/
def notifies : ApplyStage → Bool
  | notifying _ _ => true
  | idle | away | looking | pushing _ _ => false

end ApplyStage

/-- What other threads do to the tone, the position or the speaker flag. -/
structure ToneCall where
  call : DeviceControl → DeviceControl
  commands : ∀ c, (call c).commands = c.commands
  reports : ∀ c, (call c).reports = c.reports
  produced : ∀ c, (call c).produced = c.produced

namespace ToneCall

/-- The section of `request_tone`. -/
def request (now : Nat) (requestId : UInt32) (enabled allowed : Bool) : ToneCall where
  call := fun c => (c.setRequest now requestId enabled allowed).storePosition
  commands := fun _ => rfl
  reports := fun _ => rfl
  produced := fun _ => rfl

/-- The section of `set_tone(false)`. -/
def stop : ToneCall where
  call := fun c => c.stopSection.1
  commands := fun _ => rfl
  reports := fun _ => rfl
  produced := fun _ => rfl

theorem acknowledge_queues (c : DeviceControl) (now later : Nat) (token : UInt64)
    (playing : Bool) :
    (c.acknowledge now later token playing).1.commands = c.commands ∧
      (c.acknowledge now later token playing).1.reports = c.reports ∧
      (c.acknowledge now later token playing).1.produced = c.produced := by
  simp only [DeviceControl.acknowledge]
  split_ifs
  all_goals exact ⟨rfl, rfl, rfl⟩

/-- The section of `report_playback`. -/
def acknowledge (now later : Nat) (token : UInt64) (playing : Bool) : ToneCall where
  call := fun c => (c.acknowledge now later token playing).1
  commands := fun c => (acknowledge_queues c now later token playing).1
  reports := fun c => (acknowledge_queues c now later token playing).2.1
  produced := fun c => (acknowledge_queues c now later token playing).2.2

end ToneCall

/-- The queues, the notifications, and the threads.  `unnotified` counts the reports of
other threads whose `notify_one` is still to come; `accepted`, `sent` and `lost` are
records: the commands of the session, the reports it has written, and the number of those
that were evicted or could not be written. -/
structure DeviceRequests where
  device : DeviceControl
  phone : DeviceVolumeControl
  permit : Bool
  unnotified : Nat
  revision : Nat
  notified : Nat
  session : SessionStage
  seen : Int
  posting : Bool
  posted : Nat
  main : ApplyStage
  accepted : List AcceptedCommand
  sent : List ControlMessage
  lost : Nat

/-- What happens: a message arrives, the connection ends, other threads push, notify or
switch the tone, the `AudioManager` changes, the main thread turns to something else or to
an update of its own, or a thread of the request takes a step. -/
inductive RequestEvent where
  | receive (now : Nat) (message : ControlMessage)
  | leave
  | push (report : ControlMessage)
  | announce
  | tone (call : ToneCall)
  | audio (phone : DeviceVolumeControl)
  | turn (updates : Bool)
  | notify
  | session (written : Bool)
  | watch
  | main (now : Nat)

namespace DeviceRequests

section Model

/-- `notify_changed`. -/
def notifyChanged (s : DeviceRequests) : DeviceRequests :=
  { s with revision := (s.revision + 1) % 2 ^ 64, notified := s.notified + 1 }

/-- `push_report` up to its `notify_one`. -/
def pushReport (s : DeviceRequests) (report : ControlMessage) : DeviceRequests :=
  { s with
      device := s.device.pushReport report
      lost := if 32 ≤ s.device.reports.length then s.lost + 1 else s.lost }

/-- A command for the device in `connected_loop`. -/
def receive (s : DeviceRequests) (now : Nat) (message : ControlMessage) : DeviceRequests :=
  match message.accepted with
  | none => s
  | some c =>
      let queued := s.device.enqueueOperation now c.requestId c.operation c.value
      if queued.2 then
        { s with
            device := queued.1
            session := .notifying
            accepted := s.accepted ++ [{ c with time := now }] }
      else
        { s with session := .ended }

/-- The next step of the session. -/
def sessionStep (s : DeviceRequests) (written : Bool) : DeviceRequests :=
  match s.session with
  | .announcing | .notifying => { s.notifyChanged with session := .selecting }
  | .selecting => if s.permit then { s with permit := false, session := .draining } else s
  | .draining =>
      match s.device.takeReport with
      | (device, some report) => { s with device := device, session := .sending report }
      | (_, none) => { s with session := .selecting }
  | .sending report =>
      if written then
        { s with session := .draining, sent := s.sent ++ [report] }
      else
        { s with session := .ended, lost := s.lost + 1 }
  | .ended => s

/-- The next step of the status thread. -/
def watch (s : DeviceRequests) : DeviceRequests :=
  if s.posting then
    { s with posting := false, posted := s.posted + 1 }
  else if AudioService.toJlong s.revision = s.seen then
    s
  else
    { s with seen := AudioService.toJlong s.revision, posting := true }

/-- The beginning of `report`: the speaker flag, and the tone that a bad status stops. -/
def handOver (s : DeviceRequests) (status : DeviceStatus) (statuses : List DeviceStatus) :
    DeviceRequests :=
  let stored := s.device.storeSpeaker status
  if !status.speaker || status.failed then
    let (stopped, failed) := stored.stopSection
    { s with
        device := stopped
        main := .pushing (failed.toList.map DeviceControl.toneFailed ++ [.deviceStatus status])
          statuses }
  else
    { s with device := stored, main := .pushing [.deviceStatus status] statuses }

/-- A round of `applyPending` up to its reports. -/
def applyPending (s : DeviceRequests) (now : Nat) : DeviceRequests :=
  let taken := s.device.takeCommandAt now
  if taken.2 = 0 then
    { s with device := taken.1, main := .idle }
  else
    let phone := ({ s.phone with connected := true, reports := [] }).applyCommand taken.2
    { s with device := taken.1, phone := phone, main := .pushing [] phone.reports }

/-- The next step of the main thread. -/
def mainStep (s : DeviceRequests) (now : Nat) : DeviceRequests :=
  match s.main with
  | .away => { s with main := .idle }
  | .idle => if s.posted = 0 then s else { s with posted := s.posted - 1, main := .looking }
  | .looking => s.applyPending now
  | .pushing [] [] => { s with main := .looking }
  | .pushing [] (status :: statuses) => s.handOver status statuses
  | .pushing (report :: reports) statuses =>
      { s.pushReport report with main := .notifying reports statuses }
  | .notifying reports statuses => { s with permit := true, main := .pushing reports statuses }

/-- One event. -/
def step (s : DeviceRequests) : RequestEvent → DeviceRequests
  | .receive now message => if s.session = .selecting then s.receive now message else s
  | .leave => if s.session = .selecting then { s with session := .ended } else s
  | .push report =>
      if report.answers = none then
        { s.pushReport report with unnotified := s.unnotified + 1 }
      else
        s
  | .announce => s.notifyChanged
  | .tone call => { s with device := call.call s.device }
  | .audio phone => { s with phone := phone }
  | .turn updates =>
      if s.main = .idle then { s with main := if updates then .looking else .away } else s
  | .notify =>
      if s.unnotified = 0 then s else { s with unnotified := s.unnotified - 1, permit := true }
  | .session written => s.sessionStep written
  | .watch => s.watch
  | .main now => s.mainStep now

/-- A session that is about to announce that it is connected.  Commands and reports that a
session before it has left are still announced. -/
structure Fresh (s : DeviceRequests) : Prop where
  session : s.session = .announcing
  commands : s.device.commands = s.accepted.map AcceptedCommand.pending
  known : ∀ c ∈ s.accepted, 1 ≤ c.operation.toNat
  reports : s.device.reports ≠ [] → s.permit = true ∨ 0 < s.unnotified ∨ s.main.notifies = true
  produced : s.device.produced = s.device.reports
  sent : s.sent = []
  lost : s.lost = 0
  revision : s.revision = s.notified
  seen : s.seen ≤ s.notified

/-- No thread has anything to do. -/
structure Resting (s : DeviceRequests) : Prop where
  session : s.session = .selecting
  permit : s.permit = false
  unnotified : s.unnotified = 0
  seen : AudioService.toJlong s.revision = s.seen
  posting : s.posting = false
  posted : s.posted = 0
  main : s.main = .idle

end Model

section Order

/-- Commands are taken in order, and each one that was taken has been answered, or the main
thread is about to; `stale` is answered for a session before. -/
structure Ordered (stale : List Nat) (s : DeviceRequests) (done waiting : List AcceptedCommand) :
    Prop where
  accepted : s.accepted = done ++ waiting
  known : ∀ c ∈ waiting, 1 ≤ c.operation.toNat
  queued : s.device.commands = waiting.map AcceptedCommand.pending
  answered : answersIn (s.device.produced ++ s.main.messages) = stale ++ requestsOf done

variable {stale : List Nat} {s s' : DeviceRequests} {done waiting : List AcceptedCommand}

theorem Ordered.congr (h : Ordered stale s done waiting) (haccepted : s'.accepted = s.accepted)
    (hcommands : s'.device.commands = s.device.commands)
    (hanswers : answersIn (s'.device.produced ++ s'.main.messages) =
      answersIn (s.device.produced ++ s.main.messages)) : Ordered stale s' done waiting :=
  ⟨haccepted.trans h.accepted, h.known, hcommands.trans h.queued, hanswers.trans h.answered⟩

theorem answersIn_append (reports reports' : List ControlMessage) :
    answersIn (reports ++ reports') = answersIn reports ++ answersIn reports' :=
  List.filterMap_append

theorem answersIn_toneFailed (failed : Option UInt32) :
    answersIn (failed.toList.map DeviceControl.toneFailed) = [] := by
  cases failed with
  | none => rfl
  | some request => rfl

theorem accepted_operation {message : ControlMessage} {c : AcceptedCommand}
    (h : message.accepted = some c) : 1 ≤ c.operation.toNat := by
  cases message with
  | queryDevice request =>
      cases h
      exact Nat.le_refl 1
  | setVolume request index purpose =>
      cases h
      cases purpose with
      | user => exact (by decide : 1 ≤ (2 : UInt8).toNat)
      | calibration => exact (by decide : 1 ≤ (6 : UInt8).toNat)
      | restoreSpeaker => exact (by decide : 1 ≤ (7 : UInt8).toNat)
  | calibrationSession request action =>
      cases action with
      | begin =>
          cases h
          exact (by decide : 1 ≤ (3 : UInt8).toNat)
      | cancel =>
          cases h
          exact (by decide : 1 ≤ (4 : UInt8).toNat)
      | commit index =>
          cases h
          exact (by decide : 1 ≤ (5 : UInt8).toNat)
  | hello _ | streamInfo _ | start | stop | adjustVolume _ | audioIdle _ | deviceStatus _
  | calibrationTone _ _ | toneState _ _ _ => cases h

/-- What `take_command` returns for a command: a word that is not zero, with its request. -/
theorem takeCommandAt_request {control : DeviceControl} {c : AcceptedCommand}
    {rest : List PendingCommand} (hcommands : control.commands = c.pending :: rest)
    (hoperation : 1 ≤ c.operation.toNat) (now : Nat) :
    (control.takeCommandAt now).1 = { control with commands := rest } ∧
      (control.takeCommandAt now).2 ≠ 0 ∧
      ((control.takeCommandAt now).2 >>> 24).toNat = c.requestId.toNat := by
  rw [takeCommandAt_cons hcommands]
  have hfields : ∀ (word : UInt64) (low : Nat), word.toNat = c.requestId.toNat * 2 ^ 24 + low →
      0 < low → low < 2 ^ 24 → word ≠ 0 ∧ (word >>> 24).toNat = c.requestId.toNat := by
    intro word low hword hpos hlow
    have hshift := toNat_shiftRight_ofNat word 24 (by decide)
    refine ⟨fun hzero => ?_, ?_⟩
    · rw [hzero] at hword
      have hnone : (0 : UInt64).toNat = 0 := rfl
      omega
    · show (word >>> UInt64.ofNat 24).toNat = _
      rw [hshift, hword]
      omega
  refine ⟨rfl, ?_⟩
  have hoperation' := c.operation.toNat_lt
  have hvalue := c.value.toNat_lt
  split
  · exact hfields _ _ c.toNat_expired (by decide) (by decide)
  · refine hfields _ (c.operation.toNat * 2 ^ 16 + c.value.toNat) ?_ (by omega) (by omega)
    rw [c.toNat_word, Nat.add_assoc]

/-- What a command from the server does: nothing, or it is queued, or it ends the session. -/
theorem receive_cases (s : DeviceRequests) (now : Nat) (message : ControlMessage) :
    s.receive now message = s ∨ s.receive now message = { s with session := .ended } ∨
      ∃ c : AcceptedCommand, 1 ≤ c.operation.toNat ∧
        s.receive now message =
          { s with
              device := { s.device with commands := s.device.commands ++ [c.pending] }
              session := .notifying
              accepted := s.accepted ++ [c] } := by
  rw [receive]
  cases hmessage : message.accepted with
  | none => exact Or.inl rfl
  | some c =>
      have hoperation := accepted_operation hmessage
      by_cases hfull : 32 ≤ s.device.commands.length
      · have hrefused : s.device.enqueueOperation now c.requestId c.operation c.value =
            (s.device, false) := by
          rw [DeviceControl.enqueueOperation, if_pos hfull]
        simp only [hrefused]
        exact Or.inr (Or.inl rfl)
      · have hqueued : s.device.enqueueOperation now c.requestId c.operation c.value =
            ({ s.device with commands := s.device.commands ++
                [({ c with time := now } : AcceptedCommand).pending] }, true) := by
          rw [DeviceControl.enqueueOperation, if_neg hfull]
          rfl
        simp only [hqueued]
        exact Or.inr (Or.inr ⟨{ c with time := now }, hoperation, rfl⟩)

theorem receive_ordered (h : Ordered stale s done waiting) (now : Nat) (message : ControlMessage) :
    ∃ waiting', Ordered stale (s.receive now message) done waiting' := by
  rcases receive_cases s now message with heq | heq | ⟨c, hoperation, heq⟩
  · rw [heq]
    exact ⟨waiting, h⟩
  · rw [heq]
    exact ⟨waiting, h.congr rfl rfl rfl⟩
  · rw [heq]
    refine ⟨waiting ++ [c], ?_, fun c' hc' => ?_, ?_, h.answered⟩
    · show s.accepted ++ _ = _
      rw [h.accepted, List.append_assoc]
    · rcases List.mem_append.mp hc' with hc' | hc'
      · exact h.known c' hc'
      · rw [List.mem_singleton.mp hc']
        exact hoperation
    · show s.device.commands ++ _ = _
      rw [h.queued, List.map_append]
      rfl

/-- The commands that are taken are answered by what the main thread then pushes. -/
theorem answersIn_of_answersWith {c : AcceptedCommand} {statuses : List DeviceStatus}
    (h : DeviceVolumeControl.AnswersWith c.requestId.toNat [] statuses) :
    answersIn (statuses.map .deviceStatus) = requestsOf [c] := by
  obtain ⟨observed, answer, rfl, -, hobserved, hanswer⟩ := h
  have hnothing : answersIn (observed.map .deviceStatus) = [] := by
    refine List.filterMap_eq_nil_iff.mpr fun report hmem => ?_
    obtain ⟨status, hstatus, rfl⟩ := List.mem_map.mp hmem
    exact if_pos (hobserved status hstatus)
  rw [List.nil_append, List.map_append, answersIn_append, hnothing, List.nil_append]
  simp only [List.map_singleton, answersIn, requestsOf, List.filterMap_cons, List.filterMap_nil,
    ControlMessage.answers, AcceptedCommand.asks, hanswer]

theorem applyPending_ordered (h : Ordered stale s done waiting) (hlooking : s.main = .looking)
    (now : Nat) : ∃ done' waiting', Ordered stale (s.applyPending now) done' waiting' := by
  have hanswered := h.answered
  rw [hlooking] at hanswered
  simp only [applyPending]
  cases waiting with
  | nil =>
      have hempty : s.device.commands = [] := h.queued
      have hzero : s.device.takeCommandAt now = (s.device, 0) := by
        rw [DeviceControl.takeCommandAt, hempty]
      rw [hzero, if_pos rfl]
      exact ⟨done, [], h.accepted, h.known, h.queued, hanswered⟩
  | cons c rest =>
      obtain ⟨hrest, hword, hrequest⟩ :=
        takeCommandAt_request h.queued (h.known c List.mem_cons_self) now
      rw [if_neg hword, hrest]
      have hanswers := DeviceVolumeControl.applyCommand_answers
        (s := { s.phone with connected := true, reports := [] }) rfl hword
      rw [hrequest] at hanswers
      refine ⟨done ++ [c], rest, ?_, fun c' hc' => h.known c' (List.mem_cons_of_mem _ hc'), rfl, ?_⟩
      · rw [List.append_assoc]
        exact h.accepted
      · simp only [ApplyStage.messages, List.append_nil, List.nil_append] at hanswered ⊢
        rw [answersIn_append, hanswered, answersIn_of_answersWith hanswers, requestsOf, requestsOf,
          requestsOf, List.filterMap_append, List.append_assoc]

theorem handOver_ordered {status : DeviceStatus} {statuses : List DeviceStatus}
    (h : Ordered stale s done waiting) (hmain : s.main = .pushing [] (status :: statuses)) :
    Ordered stale (s.handOver status statuses) done waiting := by
  rw [handOver]
  split
  · refine h.congr rfl rfl ?_
    show answersIn (s.device.produced ++ (_ ++ [ControlMessage.deviceStatus status] ++ _)) = _
    rw [hmain, answersIn_append, answersIn_append, answersIn_append, answersIn_toneFailed,
      List.nil_append, ← answersIn_append, ← answersIn_append]
    rfl
  · refine h.congr rfl rfl ?_
    rw [hmain]
    rfl

theorem mainStep_ordered (h : Ordered stale s done waiting) (now : Nat) :
    ∃ done' waiting', Ordered stale (s.mainStep now) done' waiting' := by
  rw [mainStep]
  split
  · rename_i hmain
    exact ⟨done, waiting, h.congr rfl rfl (by rw [hmain]; rfl)⟩
  · rename_i hmain
    split
    · exact ⟨done, waiting, h⟩
    · exact ⟨done, waiting, h.congr rfl rfl (by rw [hmain]; rfl)⟩
  · exact applyPending_ordered h ‹_› now
  · rename_i hmain
    exact ⟨done, waiting, h.congr rfl rfl (by rw [hmain]; rfl)⟩
  · exact ⟨done, waiting, handOver_ordered h ‹_›⟩
  · rename_i hmain
    refine ⟨done, waiting, h.congr rfl rfl ?_⟩
    rw [hmain]
    simp only [pushReport, DeviceControl.pushReport_produced, ApplyStage.messages, List.cons_append,
      List.append_assoc, List.nil_append]
  · rename_i hmain
    exact ⟨done, waiting, h.congr rfl rfl (by rw [hmain]; rfl)⟩

theorem sessionStep_ordered (h : Ordered stale s done waiting) (written : Bool) :
    Ordered stale (s.sessionStep written) done waiting := by
  rw [sessionStep]
  split
  · exact h.congr rfl rfl rfl
  · exact h.congr rfl rfl rfl
  · split
    · exact h.congr rfl rfl rfl
    · exact h
  · split
    · rename_i htaken
      obtain ⟨rfl, -⟩ := Prod.mk.inj htaken
      exact h.congr rfl rfl rfl
    · exact h.congr rfl rfl rfl
  · split
    · exact h.congr rfl rfl rfl
    · exact h.congr rfl rfl rfl
  · exact h

theorem step_ordered (h : Ordered stale s done waiting) (e : RequestEvent) :
    ∃ done' waiting', Ordered stale (s.step e) done' waiting' := by
  cases e with
  | receive now message =>
      simp only [step]
      split
      · exact ⟨done, receive_ordered h now message⟩
      · exact ⟨done, waiting, h⟩
  | leave =>
      simp only [step]
      split
      · exact ⟨done, waiting, h.congr rfl rfl rfl⟩
      · exact ⟨done, waiting, h⟩
  | push report =>
      simp only [step]
      split
      · rename_i hnone
        refine ⟨done, waiting, h.congr rfl rfl ?_⟩
        have hnothing : answersIn [report] = [] :=
          List.filterMap_eq_nil_iff.mpr fun r hr => by rw [List.mem_singleton.mp hr, hnone]
        simp only [pushReport, DeviceControl.pushReport_produced]
        rw [answersIn_append, answersIn_append, answersIn_append, hnothing, List.append_nil]
      · exact ⟨done, waiting, h⟩
  | announce => exact ⟨done, waiting, h.congr rfl rfl rfl⟩
  | tone call =>
      refine ⟨done, waiting, h.congr rfl (call.commands s.device) ?_⟩
      show answersIn ((call.call s.device).produced ++ s.main.messages) = _
      rw [call.produced]
  | audio phone => exact ⟨done, waiting, h.congr rfl rfl rfl⟩
  | turn updates =>
      simp only [step]
      split
      · rename_i hidle
        refine ⟨done, waiting, h.congr rfl rfl ?_⟩
        cases updates <;> rw [hidle] <;> rfl
      · exact ⟨done, waiting, h⟩
  | notify =>
      simp only [step]
      split
      · exact ⟨done, waiting, h⟩
      · exact ⟨done, waiting, h.congr rfl rfl rfl⟩
  | session written => exact ⟨done, waiting, sessionStep_ordered h written⟩
  | watch =>
      simp only [step, watch]
      split_ifs
      · exact ⟨done, waiting, h.congr rfl rfl rfl⟩
      · exact ⟨done, waiting, h⟩
      · exact ⟨done, waiting, h.congr rfl rfl rfl⟩
  | main now => exact mainStep_ordered h now

end Order

section Reports

/-- The reports are sent in the order in which they were pushed, and those that are not are
counted. -/
structure Kept (s : DeviceRequests) : Prop where
  sublist : (s.sent ++ s.session.inHand ++ s.device.reports).Sublist s.device.produced
  length : s.device.produced.length =
    (s.sent ++ s.session.inHand ++ s.device.reports).length + s.lost

variable {s s' : DeviceRequests}

theorem Kept.congr (h : Kept s)
    (hreports : s'.sent ++ s'.session.inHand ++ s'.device.reports =
      s.sent ++ s.session.inHand ++ s.device.reports)
    (hproduced : s'.device.produced = s.device.produced) (hlost : s'.lost = s.lost) : Kept s' := by
  refine ⟨?_, ?_⟩
  · rw [hreports, hproduced]
    exact h.sublist
  · rw [hreports, hproduced, hlost]
    exact h.length

/-- A step of the session without the queue of reports. -/
theorem Kept.stage (h : Kept s) (stage : SessionStage) (hstage : stage.inHand = [])
    (hbefore : s.session.inHand = []) (hsession : s'.session = stage) (hsent : s'.sent = s.sent)
    (hreports : s'.device.reports = s.device.reports)
    (hproduced : s'.device.produced = s.device.produced) (hlost : s'.lost = s.lost) : Kept s' :=
  h.congr (by rw [hsent, hsession, hstage, hbefore, hreports]) hproduced hlost

theorem Kept.push (h : Kept s) (report : ControlMessage) : Kept (s.pushReport report) := by
  obtain ⟨hsublist, hlength⟩ := h
  by_cases hfull : 32 ≤ s.device.reports.length
  · have hevicted : (s.sent ++ s.session.inHand ++ (s.device.reports.tail ++ [report])).Sublist
        (s.device.produced ++ [report]) := by
      rw [← List.append_assoc]
      refine List.Sublist.append ?_ (List.Sublist.refl _)
      exact ((List.Sublist.refl _).append (List.tail_sublist _)).trans hsublist
    simp only [pushReport, DeviceControl.pushReport, if_pos hfull]
    refine ⟨hevicted, ?_⟩
    simp only [List.length_append, List.length_tail, List.length_singleton] at hlength ⊢
    omega
  · simp only [pushReport, DeviceControl.pushReport, if_neg hfull]
    refine ⟨?_, ?_⟩
    · rw [← List.append_assoc]
      exact hsublist.append (List.Sublist.refl _)
    · simp only [List.length_append, List.length_singleton] at hlength ⊢
      omega

theorem sessionStep_kept (h : Kept s) (written : Bool) : Kept (s.sessionStep written) := by
  rw [sessionStep]
  split
  · exact h.stage .selecting rfl (by rw [‹s.session = _›]; rfl) rfl rfl rfl rfl rfl
  · exact h.stage .selecting rfl (by rw [‹s.session = _›]; rfl) rfl rfl rfl rfl rfl
  · split
    · exact h.stage .draining rfl (by rw [‹s.session = _›]; rfl) rfl rfl rfl rfl rfl
    · exact h
  · rename_i hdraining
    split
    · rename_i report htaken
      obtain ⟨rfl, hhead⟩ := Prod.mk.inj htaken
      refine h.congr ?_ rfl rfl
      obtain ⟨rest, hrest⟩ := List.head?_eq_some_iff.mp hhead
      simp only [hdraining, hrest, SessionStage.inHand, List.tail_cons,
        List.append_nil, List.append_assoc, List.singleton_append]
    · exact h.stage .selecting rfl (by rw [hdraining]; rfl) rfl rfl rfl rfl rfl
  · rename_i report hsending
    obtain ⟨hsublist, hlength⟩ := h
    rw [hsending] at hsublist hlength
    split
    · refine ⟨?_, ?_⟩
      · simpa only [SessionStage.inHand, List.append_nil] using hsublist
      · simpa only [SessionStage.inHand, List.append_nil] using hlength
    · refine ⟨?_, ?_⟩
      · refine List.Sublist.trans ?_ hsublist
        exact ((List.Sublist.refl _).append (List.nil_sublist _)).append (List.Sublist.refl _)
      · simp only [SessionStage.inHand, List.length_append, List.length_singleton,
          List.length_nil] at hlength ⊢
        omega
  · exact h

theorem mainStep_kept (h : Kept s) (now : Nat) : Kept (s.mainStep now) := by
  have hstored : ∀ device main, device.reports = s.device.reports →
      device.produced = s.device.produced → Kept { s with device := device, main := main } :=
    fun device main hreports hproduced => h.congr (by rw [hreports]) hproduced rfl
  rw [mainStep]
  split
  · exact h.congr rfl rfl rfl
  · split
    · exact h
    · exact h.congr rfl rfl rfl
  · have hqueues : (s.device.takeCommandAt now).1.reports = s.device.reports ∧
        (s.device.takeCommandAt now).1.produced = s.device.produced := by
      rw [DeviceControl.takeCommandAt]
      split
      · exact ⟨rfl, rfl⟩
      · exact ⟨rfl, rfl⟩
    simp only [applyPending]
    split
    · exact hstored _ _ hqueues.1 hqueues.2
    · exact h.congr (by rw [hqueues.1]) hqueues.2 rfl
  · exact h.congr rfl rfl rfl
  · rw [handOver]
    split
    · exact h.congr rfl rfl rfl
    · exact h.congr rfl rfl rfl
  · exact (h.push _).congr rfl rfl rfl
  · exact h.congr rfl rfl rfl

theorem step_kept (h : Kept s) (e : RequestEvent) : Kept (s.step e) := by
  cases e with
  | receive now message =>
      simp only [step]
      split
      · rename_i hselecting
        have hnothing : s.session.inHand = [] := by rw [hselecting]; rfl
        rcases receive_cases s now message with heq | heq | ⟨c, -, heq⟩
        · rw [heq]
          exact h
        · rw [heq]
          exact h.stage .ended rfl hnothing rfl rfl rfl rfl rfl
        · rw [heq]
          exact h.stage .notifying rfl hnothing rfl rfl rfl rfl rfl
      · exact h
  | leave =>
      simp only [step]
      split
      · exact h.stage .ended rfl (by rw [‹s.session = _›]; rfl) rfl rfl rfl rfl rfl
      · exact h
  | push report =>
      simp only [step]
      split
      · exact (h.push report).congr rfl rfl rfl
      · exact h
  | announce => exact h.congr rfl rfl rfl
  | tone call =>
      refine h.congr ?_ (call.produced s.device) rfl
      show s.sent ++ s.session.inHand ++ (call.call s.device).reports = _
      rw [call.reports]
  | audio phone => exact h.congr rfl rfl rfl
  | turn updates =>
      simp only [step]
      split
      · exact h.congr rfl rfl rfl
      · exact h
  | notify =>
      simp only [step]
      split
      · exact h
      · exact h.congr rfl rfl rfl
  | session written => exact sessionStep_kept h written
  | watch =>
      simp only [step, watch]
      split_ifs
      · exact h.congr rfl rfl rfl
      · exact h
      · exact h.congr rfl rfl rfl
  | main now => exact mainStep_kept h now

end Reports

section Announced

/-- The main thread is at the commands, or an update on its way will bring it there. -/
def CommandNews (s : DeviceRequests) : Prop :=
  s.session = .announcing ∨ s.session = .notifying ∨ AudioService.toJlong s.revision ≠ s.seen ∨
    s.posting = true ∨ 0 < s.posted ∨ s.main.applying = true

/-- The session is at the reports, or a `notify_one` will bring it there. -/
def ReportNews (s : DeviceRequests) : Prop :=
  s.permit = true ∨ 0 < s.unnotified ∨ s.session = .draining ∨ s.session.inHand ≠ [] ∨
    s.main.notifies = true

/-- While a session lasts and revisions have not wrapped, whatever waits in a queue is
announced to the thread that takes it out. -/
structure Announced (s : DeviceRequests) : Prop where
  revision : s.notified < 2 ^ 63 → s.revision = s.notified
  seen : s.notified < 2 ^ 63 → s.seen ≤ s.notified
  commands : s.notified < 2 ^ 63 → s.session ≠ .ended → s.device.commands ≠ [] → s.CommandNews
  reports : s.session ≠ .ended → s.device.reports ≠ [] → s.ReportNews

variable {s s' : DeviceRequests}

theorem fresh_announced (h : s.Fresh) : s.Announced where
  revision := fun _ => h.revision
  seen := fun _ => h.seen
  commands := fun _ _ _ => Or.inl h.session
  reports := fun _ hreports => by
    rcases h.reports hreports with hpermit | hunnotified | hnotifies
    · exact Or.inl hpermit
    · exact Or.inr (Or.inl hunnotified)
    · exact Or.inr (Or.inr (Or.inr (Or.inr hnotifies)))

/-- `notify_changed` is news, whoever calls it. -/
theorem Announced.notifyChanged (h : s.Announced)
    (hrevision : s'.revision = (s.revision + 1) % 2 ^ 64)
    (hnotified : s'.notified = s.notified + 1) (hseen : s'.seen = s.seen)
    (hreports : s'.session ≠ .ended → s'.device.reports ≠ [] → s'.ReportNews) : s'.Announced := by
  have hcount : s'.notified < 2 ^ 63 → s'.revision = s'.notified := fun hbound => by
    rw [hrevision, hnotified, h.revision (by omega)]
    omega
  refine ⟨hcount, fun hbound => ?_, fun hbound _ _ => ?_, hreports⟩
  · have hle := h.seen (by omega)
    rw [hseen, hnotified]
    omega
  · have hle := h.seen (by omega)
    refine Or.inr (Or.inr (Or.inl ?_))
    rw [hcount hbound, AudioService.toJlong_of_lt hbound, hseen, hnotified]
    omega

/-- A step that changes neither the revision nor what the status thread has seen of it. -/
theorem Announced.other (h : s.Announced) (hrevision : s'.revision = s.revision)
    (hnotified : s'.notified = s.notified) (hseen : s'.seen = s.seen)
    (hcommands : s'.session ≠ .ended → s'.device.commands ≠ [] →
      s'.CommandNews ∨
        s.session ≠ .ended ∧ s.device.commands ≠ [] ∧ (s.CommandNews → s'.CommandNews))
    (hreports : s'.session ≠ .ended → s'.device.reports ≠ [] →
      s'.ReportNews ∨
        s.session ≠ .ended ∧ s.device.reports ≠ [] ∧ (s.ReportNews → s'.ReportNews)) :
    s'.Announced := by
  refine ⟨?_, ?_, fun hbound hsession hcommand => ?_, fun hsession hreport => ?_⟩
  · rw [hrevision, hnotified]
    exact h.revision
  · rw [hseen, hnotified]
    exact h.seen
  · rcases hcommands hsession hcommand with hnews | ⟨hsession', hcommand', hkept⟩
    · exact hnews
    · exact hkept (h.commands (hnotified ▸ hbound) hsession' hcommand')
  · rcases hreports hsession hreport with hnews | ⟨hsession', hreport', hkept⟩
    · exact hnews
    · exact hkept (h.reports hsession' hreport')

theorem watch_announced (h : s.Announced) : s.watch.Announced := by
  rw [watch]
  split_ifs with hposting hseen
  · exact h.other rfl rfl rfl
      (fun _ _ => Or.inl (Or.inr (Or.inr (Or.inr (Or.inr (Or.inl (Nat.succ_pos _)))))))
      (fun hsession hreport => Or.inr ⟨hsession, hreport, id⟩)
  · exact h
  · refine ⟨h.revision, fun hbound => ?_, fun _ _ _ => ?_, h.reports⟩
    · show AudioService.toJlong s.revision ≤ s.notified
      rw [h.revision hbound, AudioService.toJlong_of_lt hbound]
    · exact Or.inr (Or.inr (Or.inr (Or.inl rfl)))

/-- What the session does between commands leaves their news as it is. -/
theorem CommandNews.between (h : s.CommandNews)
    (hstage : s.session ≠ .announcing ∧ s.session ≠ .notifying)
    (hrevision : s'.revision = s.revision) (hseen : s'.seen = s.seen)
    (hposting : s'.posting = s.posting) (hposted : s'.posted = s.posted)
    (hmain : s'.main = s.main) : s'.CommandNews := by
  rcases h with hannouncing | hnotifying | hrest
  · exact absurd hannouncing hstage.1
  · exact absurd hnotifying hstage.2
  · rw [CommandNews, hrevision, hseen, hposting, hposted, hmain]
    exact Or.inr (Or.inr hrest)

/-- What the session does away from the reports leaves their news as it is. -/
theorem ReportNews.between (h : s.ReportNews) (hstage : s.session ≠ .draining)
    (hhand : s.session.inHand = []) (hpermit : s'.permit = s.permit)
    (hunnotified : s'.unnotified = s.unnotified) (hmain : s'.main = s.main) : s'.ReportNews := by
  rw [ReportNews, hpermit, hunnotified, hmain]
  rcases h with hrest | hrest | hdraining | hinHand | hrest
  · exact Or.inl hrest
  · exact Or.inr (Or.inl hrest)
  · exact absurd hdraining hstage
  · exact absurd hhand hinHand
  · exact Or.inr (Or.inr (Or.inr (Or.inr hrest)))

theorem sessionStep_announced (h : s.Announced) (written : Bool) :
    (s.sessionStep written).Announced := by
  have hannounces : s.session = .announcing ∨ s.session = .notifying →
      Announced { s.notifyChanged with session := .selecting } := fun hsession => by
    refine h.notifyChanged rfl rfl rfl fun _ hreport => ?_
    rcases hsession with hsession | hsession
    · exact (h.reports (by rw [hsession]; decide) hreport).between (by rw [hsession]; decide)
        (by rw [hsession]; rfl) rfl rfl rfl
    · exact (h.reports (by rw [hsession]; decide) hreport).between (by rw [hsession]; decide)
        (by rw [hsession]; rfl) rfl rfl rfl
  rw [sessionStep]
  split
  · exact hannounces (Or.inl ‹_›)
  · exact hannounces (Or.inr ‹_›)
  · rename_i hsession
    split
    · exact h.other rfl rfl rfl
        (fun _ hcommand => Or.inr ⟨by rw [hsession]; decide, hcommand, fun hnews =>
          hnews.between (by rw [hsession]; decide) rfl rfl rfl rfl rfl⟩)
        (fun _ _ => Or.inl (Or.inr (Or.inr (Or.inl rfl))))
    · exact h
  · rename_i hsession
    split
    · rename_i htaken
      obtain ⟨rfl, -⟩ := Prod.mk.inj htaken
      exact h.other rfl rfl rfl
        (fun _ hcommand => Or.inr ⟨by rw [hsession]; decide, hcommand, fun hnews =>
          hnews.between (by rw [hsession]; decide) rfl rfl rfl rfl rfl⟩)
        (fun _ _ => Or.inl (Or.inr (Or.inr (Or.inr (Or.inl (List.cons_ne_nil _ _))))))
    · rename_i htaken
      exact h.other rfl rfl rfl
        (fun _ hcommand => Or.inr ⟨by rw [hsession]; decide, hcommand, fun hnews =>
          hnews.between (by rw [hsession]; decide) rfl rfl rfl rfl rfl⟩)
        (fun _ hreport => absurd (List.head?_eq_none_iff.mp (Prod.mk.inj htaken).2) hreport)
  · rename_i report hsession
    have hlasts : s.session ≠ .ended ∧ s.session ≠ .announcing ∧ s.session ≠ .notifying := by
      rw [hsession]
      exact ⟨SessionStage.noConfusion, SessionStage.noConfusion, SessionStage.noConfusion⟩
    split
    · exact h.other rfl rfl rfl
        (fun _ hcommand => Or.inr ⟨hlasts.1, hcommand, fun hnews =>
          hnews.between hlasts.2 rfl rfl rfl rfl rfl⟩)
        (fun _ _ => Or.inl (Or.inr (Or.inr (Or.inl rfl))))
    · exact h.other rfl rfl rfl (fun hsession' _ => absurd rfl hsession')
        (fun hsession' _ => absurd rfl hsession')
  · exact h

/-- A step of the main thread that leaves the queues as they are. -/
theorem Announced.mainStage (h : s.Announced) (stage : ApplyStage) (hmain : s'.main = stage)
    (hdevice : s'.device.commands = s.device.commands ∧ s'.device.reports = s.device.reports)
    (hsession : s'.session = s.session) (hpermit : s'.permit = s.permit)
    (hunnotified : s'.unnotified = s.unnotified) (hrevision : s'.revision = s.revision)
    (hnotified : s'.notified = s.notified) (hseen : s'.seen = s.seen)
    (hposting : s'.posting = s.posting) (hposted : s'.posted = s.posted)
    (happlying : s.main.applying = true → stage.applying = true)
    (hnotifies : s.main.notifies = true → stage.notifies = true) : s'.Announced := by
  refine h.other hrevision hnotified hseen (fun hlasts hcommand => ?_) (fun hlasts hreport => ?_)
  · refine Or.inr ⟨hsession ▸ hlasts, hdevice.1 ▸ hcommand, fun hnews => ?_⟩
    rw [CommandNews, hsession, hrevision, hseen, hposting, hposted, hmain]
    exact Or.imp_right (Or.imp_right (Or.imp_right (Or.imp_right (Or.imp_right happlying)))) hnews
  · refine Or.inr ⟨hsession ▸ hlasts, hdevice.2 ▸ hreport, fun hnews => ?_⟩
    rw [ReportNews, hsession, hpermit, hunnotified, hmain]
    exact Or.imp_right (Or.imp_right (Or.imp_right (Or.imp_right hnotifies))) hnews

theorem applyPending_announced {stale : List Nat} {done waiting : List AcceptedCommand}
    (hordered : Ordered stale s done waiting) (h : s.Announced) (hlooking : s.main = .looking)
    (now : Nat) : (s.applyPending now).Announced := by
  have hreports : ∀ {device : DeviceControl} {phone : DeviceVolumeControl} {main : ApplyStage},
      device.reports = s.device.reports → device.reports ≠ [] → s.session ≠ .ended →
      ReportNews { s with device := device, phone := phone, main := main } ∨
        s.session ≠ .ended ∧ s.device.reports ≠ [] ∧
          (s.ReportNews →
            ReportNews { s with device := device, phone := phone, main := main }) := by
    intro device phone main hsame hreport hlasts
    refine Or.inr ⟨hlasts, hsame ▸ hreport, fun hnews => ?_⟩
    refine Or.imp_right (Or.imp_right (Or.imp_right (Or.imp_right fun hnotifies => ?_))) hnews
    rw [hlooking] at hnotifies
    cases hnotifies
  simp only [applyPending]
  cases waiting with
  | nil =>
      have hempty : s.device.commands = [] := hordered.queued
      have hzero : s.device.takeCommandAt now = (s.device, 0) := by
        rw [DeviceControl.takeCommandAt, hempty]
      rw [hzero, if_pos rfl]
      exact h.other rfl rfl rfl (fun _ hcommand => absurd hempty hcommand)
        (fun hlasts hreport => hreports rfl hreport hlasts)
  | cons c rest =>
      obtain ⟨hrest, hword, -⟩ :=
        takeCommandAt_request hordered.queued (hordered.known c List.mem_cons_self) now
      rw [if_neg hword, hrest]
      exact h.other rfl rfl rfl
        (fun _ _ => Or.inl (Or.inr (Or.inr (Or.inr (Or.inr (Or.inr rfl))))))
        (fun hlasts hreport => hreports rfl hreport hlasts)

theorem mainStep_announced {stale : List Nat} {done waiting : List AcceptedCommand}
    (hordered : Ordered stale s done waiting) (h : s.Announced) (now : Nat) :
    (s.mainStep now).Announced := by
  rw [mainStep]
  split
  · rename_i hmain
    exact h.mainStage .idle rfl ⟨rfl, rfl⟩ rfl rfl rfl rfl rfl rfl rfl rfl
      (fun happlying => by rw [hmain] at happlying; cases happlying)
      (fun hnotifies => by rw [hmain] at hnotifies; cases hnotifies)
  · rename_i hmain
    split
    · exact h
    · refine h.other rfl rfl rfl
        (fun _ _ => Or.inl (Or.inr (Or.inr (Or.inr (Or.inr (Or.inr rfl))))))
        (fun hlasts hreport => Or.inr ⟨hlasts, hreport, fun hnews => ?_⟩)
      refine Or.imp_right (Or.imp_right (Or.imp_right (Or.imp_right fun hnotifies => ?_))) hnews
      rw [hmain] at hnotifies
      cases hnotifies
  · exact applyPending_announced hordered h ‹_› now
  · rename_i hmain
    exact h.mainStage .looking rfl ⟨rfl, rfl⟩ rfl rfl rfl rfl rfl rfl rfl rfl (fun _ => rfl)
      (fun hnotifies => by rw [hmain] at hnotifies; cases hnotifies)
  · rename_i hmain
    rw [handOver]
    split
    · exact h.mainStage (.pushing _ _) rfl ⟨rfl, rfl⟩ rfl rfl rfl rfl rfl rfl rfl rfl (fun _ => rfl)
        (fun hnotifies => by rw [hmain] at hnotifies; cases hnotifies)
    · exact h.mainStage (.pushing _ _) rfl ⟨rfl, rfl⟩ rfl rfl rfl rfl rfl rfl rfl rfl (fun _ => rfl)
        (fun hnotifies => by rw [hmain] at hnotifies; cases hnotifies)
  · exact h.other rfl rfl rfl
      (fun _ _ => Or.inl (Or.inr (Or.inr (Or.inr (Or.inr (Or.inr rfl))))))
      (fun _ _ => Or.inl (Or.inr (Or.inr (Or.inr (Or.inr rfl)))))
  · exact h.other rfl rfl rfl
      (fun _ _ => Or.inl (Or.inr (Or.inr (Or.inr (Or.inr (Or.inr rfl))))))
      (fun _ _ => Or.inl (Or.inl rfl))

theorem receive_announced (h : s.Announced) (hselecting : s.session = .selecting) (now : Nat)
    (message : ControlMessage) : (s.receive now message).Announced := by
  rcases receive_cases s now message with heq | heq | ⟨c, -, heq⟩
  · rw [heq]
    exact h
  · rw [heq]
    exact h.other rfl rfl rfl (fun hlasts _ => absurd rfl hlasts)
      (fun hlasts _ => absurd rfl hlasts)
  · rw [heq]
    exact h.other rfl rfl rfl (fun _ _ => Or.inl (Or.inr (Or.inl rfl)))
      (fun _ hreport => Or.inr ⟨by rw [hselecting]; decide, hreport, fun hnews =>
        hnews.between (by rw [hselecting]; decide) (by rw [hselecting]; rfl) rfl rfl rfl⟩)

theorem step_announced {stale : List Nat} {done waiting : List AcceptedCommand}
    (hordered : Ordered stale s done waiting) (h : s.Announced) (e : RequestEvent) :
    (s.step e).Announced := by
  cases e with
  | receive now message =>
      simp only [step]
      split
      · exact receive_announced h ‹_› now message
      · exact h
  | leave =>
      simp only [step]
      split
      · exact h.other rfl rfl rfl (fun hlasts _ => absurd rfl hlasts)
          (fun hlasts _ => absurd rfl hlasts)
      · exact h
  | push report =>
      simp only [step]
      split
      · exact h.other rfl rfl rfl (fun hlasts hcommand => Or.inr ⟨hlasts, hcommand, id⟩)
          (fun _ _ => Or.inl (Or.inr (Or.inl (Nat.succ_pos _))))
      · exact h
  | announce =>
      exact h.notifyChanged rfl rfl rfl fun hlasts hreport => h.reports hlasts hreport
  | tone call =>
      exact h.mainStage s.main rfl ⟨call.commands _, call.reports _⟩ rfl rfl rfl rfl rfl rfl rfl rfl
        id id
  | audio phone => exact h.mainStage s.main rfl ⟨rfl, rfl⟩ rfl rfl rfl rfl rfl rfl rfl rfl id id
  | turn updates =>
      simp only [step]
      split
      · rename_i hidle
        exact h.mainStage _ rfl ⟨rfl, rfl⟩ rfl rfl rfl rfl rfl rfl rfl rfl
          (fun happlying => by rw [hidle] at happlying; cases happlying)
          (fun hnotifies => by rw [hidle] at hnotifies; cases hnotifies)
      · exact h
  | notify =>
      simp only [step]
      split
      · exact h
      · exact h.other rfl rfl rfl (fun hlasts hcommand => Or.inr ⟨hlasts, hcommand, id⟩)
          (fun _ _ => Or.inl (Or.inl rfl))
  | session written => exact sessionStep_announced h written
  | watch => exact watch_announced h
  | main now => exact mainStep_announced hordered h now

end Announced

section Runs

/-- What holds in every state of a session; `stale` is answered for a session before. -/
structure Serving (stale : List Nat) (s : DeviceRequests) : Prop where
  ordered : ∃ done waiting, Ordered stale s done waiting
  kept : Kept s
  announced : s.Announced

/-- The requests of an earlier session that the main thread is still answering. -/
def stale (s : DeviceRequests) : List Nat :=
  answersIn (s.device.produced ++ s.main.messages)

variable {s : DeviceRequests} {earlier : List Nat}

theorem fresh_serving (h : s.Fresh) : Serving s.stale s where
  ordered := ⟨[], s.accepted, rfl, h.known, h.commands, (List.append_nil _).symm⟩
  kept := by
    have hreports : s.sent ++ s.session.inHand ++ s.device.reports = s.device.produced := by
      rw [h.sent, h.session, h.produced]
      rfl
    exact ⟨hreports ▸ List.Sublist.refl _, by rw [hreports, h.lost]; rfl⟩
  announced := fresh_announced h

theorem step_serving (h : Serving earlier s) (e : RequestEvent) : Serving earlier (s.step e) := by
  obtain ⟨done, waiting, hordered⟩ := h.ordered
  exact ⟨step_ordered hordered e, step_kept h.kept e, step_announced hordered h.announced e⟩

theorem run_serving (h : s.Fresh) (es : List RequestEvent) :
    Serving s.stale (run step s es) :=
  run_preserves (Serving s.stale) (fun _ e hserving => step_serving hserving e)
    (fresh_serving h) es

/-- What the server can rely on.  No request is answered out of order, twice or without
having been made; and once every thread waits, each request has been answered, and the
answers have been sent except for reports that were evicted. -/
structure Answered (stale : List Nat) (s : DeviceRequests) : Prop where
  order : (answersIn (s.sent ++ s.session.inHand ++ s.device.reports)).Sublist
    (stale ++ requestsOf s.accepted)
  taken : s.notified < 2 ^ 63 → s.Resting → s.device.commands = [] ∧ s.device.reports = []
  answered : s.notified < 2 ^ 63 → s.Resting →
    answersIn s.device.produced = stale ++ requestsOf s.accepted
  sent : s.notified < 2 ^ 63 → s.Resting →
    s.sent.Sublist s.device.produced ∧ s.device.produced.length = s.sent.length + s.lost

theorem not_commandNews_of_resting (h : s.Resting) : ¬s.CommandNews := by
  rintro (hnews | hnews | hnews | hnews | hnews | hnews)
  · rw [h.session] at hnews
    cases hnews
  · rw [h.session] at hnews
    cases hnews
  · exact hnews h.seen
  · rw [h.posting] at hnews
    cases hnews
  · rw [h.posted] at hnews
    exact absurd hnews (Nat.lt_irrefl 0)
  · rw [h.main] at hnews
    cases hnews

theorem not_reportNews_of_resting (h : s.Resting) : ¬s.ReportNews := by
  rintro (hnews | hnews | hnews | hnews | hnews)
  · rw [h.permit] at hnews
    cases hnews
  · rw [h.unnotified] at hnews
    exact absurd hnews (Nat.lt_irrefl 0)
  · rw [h.session] at hnews
    cases hnews
  · rw [h.session] at hnews
    exact hnews rfl
  · rw [h.main] at hnews
    cases hnews

/-- No wake-up is lost. -/
theorem taken_of_resting (h : s.Announced) (hbound : s.notified < 2 ^ 63) (hrest : s.Resting) :
    s.device.commands = [] ∧ s.device.reports = [] := by
  have hlasts : s.session ≠ .ended := by
    rw [hrest.session]
    decide
  exact ⟨by_contra fun hne => not_commandNews_of_resting hrest (h.commands hbound hlasts hne),
    by_contra fun hne => not_reportNews_of_resting hrest (h.reports hlasts hne)⟩

theorem answered_of_serving (h : Serving earlier s) : s.Answered earlier := by
  obtain ⟨done, waiting, hordered⟩ := h.ordered
  refine ⟨?_, fun hbound hrest => taken_of_resting h.announced hbound hrest, fun hbound hrest => ?_,
    fun hbound hrest => ?_⟩
  · have hproduced : (answersIn s.device.produced).Sublist (earlier ++ requestsOf done) := by
      rw [← hordered.answered, answersIn_append]
      exact List.sublist_append_left _ _
    have hdone : (requestsOf done).Sublist (requestsOf s.accepted) := by
      rw [hordered.accepted, requestsOf, requestsOf, List.filterMap_append]
      exact List.sublist_append_left _ _
    exact ((h.kept.sublist.filterMap _).trans hproduced).trans
      ((List.Sublist.refl earlier).append hdone)
  · have hempty := (taken_of_resting h.announced hbound hrest).1
    have hwaiting : waiting = [] := List.map_eq_nil_iff.mp (hordered.queued.symm.trans hempty)
    have hanswered := hordered.answered
    rw [hrest.main] at hanswered
    simp only [ApplyStage.messages, List.append_nil] at hanswered
    rw [hanswered, hordered.accepted, hwaiting, List.append_nil]
  · have hempty := (taken_of_resting h.announced hbound hrest).2
    have hreports : s.sent ++ s.session.inHand ++ s.device.reports = s.sent := by
      rw [hempty, hrest.session, List.append_nil]
      exact List.append_nil _
    refine ⟨?_, ?_⟩
    · have hsublist := h.kept.sublist
      rwa [hreports] at hsublist
    · have hlength := h.kept.length
      rwa [hreports] at hlength

/-- **Requests are answered.**  In whatever order the threads of a phone take their steps,
the reports of a session answer its requests in order and at most once; and as long as
revisions have not wrapped, no wake-up is lost: when every thread waits, all requests have
been answered, and every report was sent that was not evicted. -/
theorem requests_are_answered {s₀ : DeviceRequests} (h : s₀.Fresh) (es : List RequestEvent) :
    (run step s₀ es).Answered s₀.stale :=
  answered_of_serving (run_serving h es)

/-- A phone that is just about to show that it is connected. -/
def connecting : DeviceRequests where
  device := .default
  phone := .new 5 0 15 false [.builtinSpeaker] 33 "id" "Phone" 0 true
  permit := false
  unnotified := 0
  revision := 1
  notified := 1
  session := .announcing
  seen := 1
  posting := false
  posted := 0
  main := .idle
  accepted := []
  sent := []
  lost := 0

theorem connecting_fresh : connecting.Fresh where
  session := rfl
  commands := rfl
  known := fun _ hc => by cases hc
  reports := fun hreports => absurd rfl hreports
  produced := rfl
  sent := rfl
  lost := rfl
  revision := rfl
  seen := Int.le_refl 1

/-- A query, and the steps that answer it. -/
def asking : List RequestEvent :=
  [.session true, .watch, .watch, .receive 0 (.queryDevice 7), .session true, .watch, .watch] ++
    List.replicate 10 (.main 0) ++ List.replicate 6 (.session true)

theorem requests_are_answered_query :
    (run step connecting asking).Resting ∧
      answersIn (run step connecting asking).device.produced = [7] ∧
      answersIn (run step connecting asking).sent = [7] := by
  have hrest : (run step connecting asking).Resting := by
    constructor
    all_goals decide +kernel
  have hstale : connecting.stale ++ requestsOf (run step connecting asking).accepted = [7] := by
    decide +kernel
  have hanswered := (requests_are_answered connecting_fresh asking).answered (by decide +kernel)
    hrest
  exact ⟨hrest, hanswered.trans hstale, by decide +kernel⟩

end Runs

end DeviceRequests

end Soundwave

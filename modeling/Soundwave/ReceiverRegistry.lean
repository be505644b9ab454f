import Soundwave.ControlMessages
import Soundwave.TransitionRuns
import Soundwave.VolumeProfiles

/-!
# The receiver registry

Model of `windows-server/src/application/registry.rs`.  Every method takes the
lock once, so each is one atomic function on the registry's state.

A control queue is modelled by the list of all messages ever put into it, oldest
first; whoever consumes the queue keeps its own position.  Whether a queue takes
a message depends on its consumer, so the outcome of `try_send` is an input:
`refusal id` is the error for the receiver `id`, or `none`.
-/

namespace Soundwave

/-- `Receiver`; the peer's address is left out. -/
structure Receiver where
  controls : List ControlMessage
  device : Option DeviceStatus
  replies : SortedMap Nat DeviceStatus
  toneReplies : SortedMap Nat (Bool × Bool)
  playback : Bool
  unsolicitedVolume : Option Nat
  observedVolume : Option Nat
  volumeRequests : SortedMap Nat Unit
  panelBarrier : Option Nat

namespace Receiver

/-- A receiver as `register` publishes it. -/
def fresh : Receiver where
  controls := []
  device := none
  replies := .empty
  toneReplies := .empty
  playback := false
  unsolicitedVolume := none
  observedVolume := none
  volumeRequests := .empty
  panelBarrier := none

end Receiver

/-- `RegistryState` with the global request counter.  `issued` counts the ids
drawn so far without wrapping; the airtime warning is left out. -/
structure Registry where
  nextId : Nat
  receivers : SortedMap Nat Receiver
  issued : Nat

/-- The part of `ReceiverSnapshot` that the controller reads. -/
structure ReceiverSnapshot where
  id : Nat
  device : Option DeviceStatus
deriving DecidableEq

namespace DeviceStatus

/-- The same device with the same range. -/
def sameDevice (a b : DeviceStatus) : Bool :=
  a.deviceId = b.deviceId && a.minimum = b.minimum && a.maximum = b.maximum

/-- An adjustable speaker without an error. -/
def healthy (d : DeviceStatus) : Bool :=
  d.speaker && !d.fixed && !d.failed

/-- The range check at the start of `update_device`. -/
def consistent (d : DeviceStatus) : Bool :=
  d.minimum ≤ d.maximum && d.volume ≤ d.maximum && d.minimum ≤ d.volume && d.maximum ≤ 512

/-- `char::is_control`. -/
def isControl (c : Char) : Bool :=
  c.toNat ≤ 31 || (127 ≤ c.toNat && c.toNat ≤ 159)

/-- The cleaning of the texts in `update_device`. -/
def sanitized (d : DeviceStatus) : DeviceStatus :=
  { d with
      name := String.ofList ((d.name.toList.filter (fun c => !isControl c)).take 80)
      deviceId := String.ofList ((d.deviceId.toList.filter isIdentifierChar).take 80) }

/-- Whether a new status differs in anything that playback depends on. -/
def playbackDiffers (old new : DeviceStatus) : Bool :=
  old.volume ≠ new.volume || old.deviceId ≠ new.deviceId || old.minimum ≠ new.minimum ||
    old.maximum ≠ new.maximum || old.speaker ≠ new.speaker || old.failed ≠ new.failed ||
    old.fixed ≠ new.fixed

end DeviceStatus

namespace Receiver

/-- What a queued volume request does to its receiver. -/
def queueVolume (receiver : Receiver) (request index : Nat) (purpose : VolumePurpose)
    (barrier : Bool) : Receiver :=
  let requests :=
    if 32 ≤ receiver.volumeRequests.size then
      receiver.volumeRequests.popFirst
    else
      receiver.volumeRequests
  { receiver with
      controls := receiver.controls ++ [.setVolume request index purpose]
      volumeRequests := requests.insert request ()
      panelBarrier := if barrier then some request else receiver.panelBarrier
      unsolicitedVolume := if barrier then none else receiver.unsolicitedVolume }

/-- First part of `update_device`: the volume the receiver is known to have, and
a change that nobody asked for. -/
def observe (receiver : Receiver) (status : DeviceStatus) : Receiver :=
  let sameDevice :=
    match receiver.device with
    | some old => old.sameDevice status
    | none => false
  if sameDevice = false then
    { receiver with observedVolume := some status.volume, unsolicitedVolume := none }
  else if status.requestId = 0 ∧ status.healthy = true then
    { receiver with
        unsolicitedVolume :=
          if receiver.panelBarrier = none ∧
              (∃ volume ∈ receiver.observedVolume, volume ≠ status.volume) then
            some status.volume
          else
            receiver.unsolicitedVolume
        observedVolume := some status.volume }
  else if receiver.volumeRequests.contains status.requestId ∧
      (status.failed = false ∨ (status.fixed = false ∧ status.speaker = true)) then
    { receiver with
        volumeRequests := receiver.volumeRequests.erase status.requestId
        observedVolume := some status.volume }
  else
    { receiver with volumeRequests := receiver.volumeRequests.erase status.requestId }

/-- Second part of `update_device`: the barrier, the gate and the stored status. -/
def store (receiver : Receiver) (status : DeviceStatus) : Receiver :=
  let revoked :=
    match receiver.device with
    | some old => old.playbackDiffers status
    | none => true
  { receiver with
      panelBarrier :=
        if receiver.panelBarrier = some status.requestId then none else receiver.panelBarrier
      playback := if revoked then false else receiver.playback
      device := some status
      replies :=
        if status.requestId ≠ 0 then
          (if 32 ≤ receiver.replies.size then receiver.replies.popFirst
            else receiver.replies).insert status.requestId status
        else
          receiver.replies }

end Receiver

namespace Registry

section Operations

/-- `ReceiverRegistry::default`; request ids start at one. -/
def empty : Registry where
  nextId := 0
  receivers := .empty
  issued := 1

/-- `register`. -/
def register (r : Registry) : Registry :=
  { r with
      nextId := (r.nextId + 1) % 2 ^ 64
      receivers := r.receivers.insert r.nextId .fresh }

/-- `remove`, called when a guard is dropped. -/
def remove (r : Registry) (id : Nat) : Registry :=
  if r.receivers.contains id then
    { r with
        receivers := (r.receivers.erase id).mapValues (fun _ receiver =>
          { receiver with playback := false }) }
  else
    r

/-- `snapshots`. -/
def snapshots (r : Registry) : List ReceiverSnapshot :=
  r.receivers.entries.map (fun e => { id := e.1, device := e.2.device })

/-- `deny_all`. -/
def denyAll (r : Registry) : Registry :=
  { r with
      receivers := r.receivers.mapValues (fun _ receiver => { receiver with playback := false }) }

/-- The comparison made by `approve` for one expected receiver. -/
def stillAsExpected (r : Registry) (expected : Nat × DeviceStatus) : Bool :=
  match (r.receivers.get? expected.1).bind Receiver.device with
  | some actual =>
      actual.sameDevice expected.2 && actual.volume = expected.2.volume && actual.healthy
  | none => false

/-- `approve`. -/
def approve (r : Registry) (expected : List (Nat × DeviceStatus)) : Registry :=
  let ready := expected.all r.stillAsExpected
  { r with
      receivers := r.receivers.mapValues (fun id receiver =>
        { receiver with playback := ready && expected.any (fun e => e.1 = id) }) }

/-- `NEXT_REQUEST.fetch_add(1).max(1)`. -/
def nextRequest (r : Registry) : Nat × Registry :=
  (max (r.issued % 2 ^ 32) 1, { r with issued := r.issued + 1 })

/-- `send`. -/
def send (r : Registry) (refusal : Nat → Option String) (id : Nat) (message : ControlMessage) :
    Except String Unit × Registry :=
  if r.receivers.contains id then
    match refusal id with
    | some error => (.error s!"无法发送设备控制命令：{error}", r)
    | none =>
        (.ok (),
          { r with
              receivers := r.receivers.modify id (fun receiver =>
                { receiver with controls := receiver.controls ++ [message] }) })
  else
    (.error "设备已断开连接", r)

/-- `broadcast`. -/
def broadcast (r : Registry) (refusal : Nat → Option String) (message : ControlMessage) :
    Registry :=
  { r with
      receivers := r.receivers.mapValues (fun id receiver =>
        if (refusal id).isNone then
          { receiver with controls := receiver.controls ++ [message] }
        else
          receiver) }

/-- A request that only sends one message (`request`, `calibration_request`,
`tone_request`). -/
def plainRequest (r : Registry) (refusal : Nat → Option String) (id : Nat)
    (message : Nat → ControlMessage) : Except String Nat × Registry :=
  let (request, r) := r.nextRequest
  match r.send refusal id (message request) with
  | (.error e, r) => (.error e, r)
  | (.ok (), r) => (.ok request, r)

/-- `request(id, None)`. -/
def queryRequest (r : Registry) (refusal : Nat → Option String) (id : Nat) :
    Except String Nat × Registry :=
  r.plainRequest refusal id (fun request => .queryDevice request)

/-- `calibration_request`. -/
def calibrationRequest (r : Registry) (refusal : Nat → Option String) (id : Nat)
    (action : CalibrationAction) : Except String Nat × Registry :=
  r.plainRequest refusal id (fun request => .calibrationSession request action)

/-- `tone_request`. -/
def toneRequest (r : Registry) (refusal : Nat → Option String) (id : Nat) (enabled : Bool) :
    Except String Nat × Registry :=
  r.plainRequest refusal id (fun request => .calibrationTone request enabled)

/-- `volume_request_with_barrier`. -/
def volumeRequestWithBarrier (r : Registry) (refusal : Nat → Option String) (id index : Nat)
    (purpose : VolumePurpose) (barrier : Bool) : Except String Nat × Registry :=
  let (request, r) := r.nextRequest
  if r.receivers.contains id then
    match refusal id with
    | some error => (.error s!"无法发送设备控制命令：{error}", r)
    | none =>
        (.ok request,
          { r with
              receivers := r.receivers.modify id (fun receiver =>
                receiver.queueVolume request index purpose barrier) })
  else
    (.error "设备已断开连接", r)

/-- `volume_request`, which `request`, `calibration_volume_request` and
`restore_volume_request` call with their own purpose. -/
def volumeRequest (r : Registry) (refusal : Nat → Option String) (id index : Nat)
    (purpose : VolumePurpose) : Except String Nat × Registry :=
  r.volumeRequestWithBarrier refusal id index purpose false

/-- `restore_volume_request`. -/
def restoreVolumeRequest (r : Registry) (refusal : Nat → Option String) (id index : Nat) :
    Except String Nat × Registry :=
  r.volumeRequest refusal id index .restoreSpeaker

/-- `panel_volume_request`. -/
def panelVolumeRequest (r : Registry) (refusal : Nat → Option String) (id index : Nat) :
    Except String Nat × Registry :=
  r.volumeRequestWithBarrier refusal id index .restoreSpeaker true

/-- `update_tone`. -/
def updateTone (r : Registry) (id request : Nat) (playing failed : Bool) : Registry :=
  if request = 0 then
    r
  else
    { r with
        receivers := r.receivers.modify id (fun receiver =>
          let replies :=
            if 32 ≤ receiver.toneReplies.size then
              receiver.toneReplies.popFirst
            else
              receiver.toneReplies
          { receiver with toneReplies := replies.insert request (playing, failed) }) }

/-- `take_tone_reply`. -/
def takeToneReply (r : Registry) (id request : Nat) : Option (Bool × Bool) × Registry :=
  ((r.receivers.get? id).bind (fun receiver => receiver.toneReplies.get? request),
    { r with
        receivers := r.receivers.modify id (fun receiver =>
          { receiver with toneReplies := receiver.toneReplies.erase request }) })

/-- `take_reply`. -/
def takeReply (r : Registry) (id request : Nat) : Option DeviceStatus × Registry :=
  ((r.receivers.get? id).bind (fun receiver => receiver.replies.get? request),
    { r with
        receivers := r.receivers.modify id (fun receiver =>
          { receiver with replies := receiver.replies.erase request }) })

/-- `has_panel_barrier`. -/
def hasPanelBarrier (r : Registry) (id : Nat) : Bool :=
  match r.receivers.get? id with
  | some receiver => receiver.panelBarrier.isSome
  | none => false

/-- `take_unsolicited_volume`. -/
def takeUnsolicitedVolume (r : Registry) (id : Nat) : Option Nat × Registry :=
  ((r.receivers.get? id).bind Receiver.unsolicitedVolume,
    { r with
        receivers := r.receivers.modify id (fun receiver =>
          { receiver with unsolicitedVolume := none }) })

/-- Everything ever queued to a receiver. -/
def queuedTo (r : Registry) (id : Nat) : List ControlMessage :=
  ((r.receivers.get? id).map Receiver.controls).getD []

/-- `update_device`. -/
def updateDevice (r : Registry) (id : Nat) (status : DeviceStatus) : Registry :=
  if status.consistent then
    { r with
        receivers := r.receivers.modify id (fun receiver =>
          (receiver.observe status.sanitized).store status.sanitized) }
  else
    r

end Operations

section Outcomes

/-- The id that the next request gets. -/
def requestId (r : Registry) : Nat :=
  max (r.issued % 2 ^ 32) 1

/-- The registry after a request id was drawn, with a change of one receiver. -/
def requested (r : Registry) (id : Nat) (f : Receiver → Receiver) : Registry :=
  { r with receivers := r.receivers.modify id f, issued := r.issued + 1 }

/-- A request is refused, or its message joins the receiver's queue. -/
theorem plainRequest_cases (r : Registry) (refusal : Nat → Option String) (id : Nat)
    (message : Nat → ControlMessage) :
    (∃ e, r.plainRequest refusal id message = (.error e, { r with issued := r.issued + 1 })) ∨
      r.plainRequest refusal id message =
        (.ok r.requestId, r.requested id (fun receiver =>
          { receiver with controls := receiver.controls ++ [message r.requestId] })) := by
  cases hcontains : r.receivers.contains id with
  | false =>
      refine Or.inl ⟨"设备已断开连接", ?_⟩
      simp only [plainRequest, nextRequest, send, hcontains]
      rfl
  | true =>
      cases hrefusal : refusal id with
      | some e =>
          refine Or.inl ⟨s!"无法发送设备控制命令：{e}", ?_⟩
          simp only [plainRequest, nextRequest, send, hcontains, hrefusal]
          rfl
      | none =>
          refine Or.inr ?_
          simp only [plainRequest, nextRequest, send, hcontains, hrefusal]
          rfl

/-- A volume request is refused, or queued. -/
theorem volumeRequestWithBarrier_cases (r : Registry) (refusal : Nat → Option String)
    (id index : Nat) (purpose : VolumePurpose) (barrier : Bool) :
    (∃ e, r.volumeRequestWithBarrier refusal id index purpose barrier =
        (.error e, { r with issued := r.issued + 1 })) ∨
      r.volumeRequestWithBarrier refusal id index purpose barrier =
        (.ok r.requestId, r.requested id (fun receiver =>
          receiver.queueVolume r.requestId index purpose barrier)) := by
  cases hcontains : r.receivers.contains id with
  | false =>
      refine Or.inl ⟨"设备已断开连接", ?_⟩
      simp only [volumeRequestWithBarrier, nextRequest, hcontains]
      rfl
  | true =>
      cases hrefusal : refusal id with
      | some e =>
          refine Or.inl ⟨s!"无法发送设备控制命令：{e}", ?_⟩
          simp only [volumeRequestWithBarrier, nextRequest, hcontains, hrefusal]
          rfl
      | none =>
          refine Or.inr ?_
          simp only [volumeRequestWithBarrier, nextRequest, hcontains, hrefusal]
          rfl

theorem plainRequest_issued (r : Registry) (refusal : Nat → Option String) (id : Nat)
    (message : Nat → ControlMessage) :
    (r.plainRequest refusal id message).2.issued = r.issued + 1 := by
  rcases r.plainRequest_cases refusal id message with ⟨e, heq⟩ | heq
  · rw [heq]
  · rw [heq]
    rfl

theorem volumeRequestWithBarrier_issued (r : Registry) (refusal : Nat → Option String)
    (id index : Nat) (purpose : VolumePurpose) (barrier : Bool) :
    (r.volumeRequestWithBarrier refusal id index purpose barrier).2.issued = r.issued + 1 := by
  rcases r.volumeRequestWithBarrier_cases refusal id index purpose barrier with ⟨e, heq⟩ | heq
  · rw [heq]
  · rw [heq]
    rfl

end Outcomes

end Registry

section Updates

namespace Receiver

/-- A receiver after `update_device`. -/
def updated (receiver : Receiver) (status : DeviceStatus) : Receiver :=
  if status.consistent then
    (receiver.observe status.sanitized).store status.sanitized
  else
    receiver

theorem observe_frame (receiver : Receiver) (status : DeviceStatus) :
    (receiver.observe status).controls = receiver.controls ∧
      (receiver.observe status).panelBarrier = receiver.panelBarrier ∧
      (receiver.observe status).device = receiver.device ∧
      (receiver.observe status).playback = receiver.playback := by
  simp only [observe]
  split_ifs
  all_goals exact ⟨rfl, rfl, rfl, rfl⟩

theorem updated_controls (receiver : Receiver) (status : DeviceStatus) :
    (receiver.updated status).controls = receiver.controls := by
  rw [updated]
  split_ifs
  · exact (observe_frame receiver status.sanitized).1
  · rfl

/-- Only an answer to the barrier's request takes the barrier away. -/
theorem updated_panelBarrier (receiver : Receiver) (status : DeviceStatus) :
    (receiver.updated status).panelBarrier = receiver.panelBarrier ∨
      (status.consistent = true ∧ receiver.panelBarrier = some status.requestId ∧
        (receiver.updated status).panelBarrier = none) := by
  rw [updated]
  split_ifs with hconsistent
  · simp only [store, (observe_frame receiver status.sanitized).2.1]
    split_ifs with hbarrier
    · exact Or.inr ⟨hconsistent, hbarrier, rfl⟩
    · exact Or.inl rfl
  · exact Or.inl rfl

/-- A volume is recorded from a status with the request id zero, without a
barrier. -/
theorem updated_unsolicitedVolume {receiver : Receiver} {status : DeviceStatus} {v : Nat}
    (h : (receiver.updated status).unsolicitedVolume = some v) :
    receiver.unsolicitedVolume = some v ∨
      (status.requestId = 0 ∧ status.volume = v ∧ receiver.panelBarrier = none) := by
  rw [updated] at h
  split_ifs at h
  · simp only [store, observe] at h
    split_ifs at h with _ hnotice hnew
    · exact Or.inr ⟨hnotice.1, Option.some.inj h, hnew.1⟩
    · exact Or.inl h
    · exact Or.inl h
    · exact Or.inl h
  · exact Or.inl h

theorem updated_volumeRequests (receiver : Receiver) (status : DeviceStatus) :
    (receiver.updated status).volumeRequests = receiver.volumeRequests ∨
      (receiver.updated status).volumeRequests =
        receiver.volumeRequests.erase status.requestId := by
  rw [updated]
  split_ifs
  · simp only [store, observe]
    split_ifs
    · exact Or.inl rfl
    · exact Or.inl rfl
    · exact Or.inl rfl
    · exact Or.inr rfl
    · exact Or.inr rfl
  · exact Or.inl rfl

end Receiver

theorem Registry.get?_updateDevice (r : Registry) (id : Nat) (status : DeviceStatus) (id' : Nat) :
    (r.updateDevice id status).receivers.get? id' =
      if id' = id then (r.receivers.get? id').map (fun receiver => receiver.updated status)
      else r.receivers.get? id' := by
  rw [updateDevice]
  by_cases hconsistent : status.consistent = true
  · rw [if_pos hconsistent, SortedMap.get?_modify]
    simp only [Receiver.updated, if_pos hconsistent]
  · rw [if_neg hconsistent]
    simp only [Receiver.updated, if_neg hconsistent, Option.map_id_fun', id_eq, ite_self]

end Updates

/-- Calls that threads other than the volume controller make: connections come
and go, statuses and tone states arrive, and the window asks for tones,
calibrations and replies. -/
inductive RegistryEvent where
  | register
  | remove (id : Nat)
  | updateDevice (id : Nat) (status : DeviceStatus)
  | updateTone (id request : Nat) (playing failed : Bool)
  | query (id : Nat) (refusal : Nat → Option String)
  | requestVolume (id index : Nat) (purpose : VolumePurpose) (refusal : Nat → Option String)
  | requestCalibration (id : Nat) (action : CalibrationAction) (refusal : Nat → Option String)
  | requestTone (id : Nat) (enabled : Bool) (refusal : Nat → Option String)
  | broadcast (message : ControlMessage) (refusal : Nat → Option String)
  | takeReply (id request : Nat)
  | takeToneReply (id request : Nat)

namespace Registry

/-- The effect of such a call. -/
def react (r : Registry) : RegistryEvent → Registry
  | .register => r.register
  | .remove id => r.remove id
  | .updateDevice id status => r.updateDevice id status
  | .updateTone id request playing failed => r.updateTone id request playing failed
  | .query id refusal => (r.queryRequest refusal id).2
  | .requestVolume id index purpose refusal => (r.volumeRequest refusal id index purpose).2
  | .requestCalibration id action refusal => (r.calibrationRequest refusal id action).2
  | .requestTone id enabled refusal => (r.toneRequest refusal id enabled).2
  | .broadcast message refusal => r.broadcast refusal message
  | .takeReply id request => (r.takeReply id request).2
  | .takeToneReply id request => (r.takeToneReply id request).2

end Registry

end Soundwave

import Soundwave.OperationRules

/-!
# Phones behind FIFO channels

The environment in which every receiver is a phone at the other end of two FIFO
channels.  The phone takes the commands of its queue one after the other and
answers each device command at once, with a status that carries the command's
request id; at any time it may also send a status with the request id zero.  What
the statuses say is left open.

A status on its way is kept together with the commands that the phone had
processed when it sent it, so that "sent before the phone processed `r`" can be
said.  `log` and `delivered` record what arrived, of one connection and of all.
-/

namespace Soundwave

namespace ControlMessage

/-- The request id that the status in answer to a command carries. -/
def deviceRequest : ControlMessage → Option Nat
  | .queryDevice request => some request
  | .setVolume request _ _ => some request
  | .calibrationSession request _ => some request
  | _ => none

/-- The request id of a volume request. -/
def volumeRequest : ControlMessage → Option Nat
  | .setVolume request _ _ => some request
  | _ => none

end ControlMessage

/-- A status with the commands that had been processed when it was sent. -/
structure Emission where
  status : DeviceStatus
  processed : List ControlMessage
deriving DecidableEq

/-- A status that arrived, with the number of volume requests that were
unanswered before, and whether it answers one that the receiver remembered. -/
structure Delivery where
  emission : Emission
  outstanding : Nat
  solicited : Bool
deriving DecidableEq

/-- One connection as seen from the phone. -/
structure Link where
  processed : List ControlMessage
  inFlight : List Emission
  log : List Delivery
deriving DecidableEq

namespace Link

/-- A new connection. -/
def fresh : Link where
  processed := []
  inFlight := []
  log := []

/-- The request ids of the statuses that arrived. -/
def answered (link : Link) : List Nat :=
  link.log.map (fun d => d.emission.status.requestId)

/-- The phone takes a command; `reply` is what its answer says. -/
def process (link : Link) (command : ControlMessage) (reply : DeviceStatus) : Link :=
  { link with
      processed := link.processed ++ [command]
      inFlight := link.inFlight ++
        match command.deviceRequest with
        | some request =>
            [{ status := { reply with requestId := request }
               processed := link.processed ++ [command] }]
        | none => [] }

/-- The phone reports on its own account. -/
def notice (link : Link) (status : DeviceStatus) : Link :=
  { link with
      inFlight := link.inFlight ++
        [{ status := { status with requestId := 0 }, processed := link.processed }] }

/-- The volume requests of a connection without an answer. -/
def outstanding (link : Link) (receiver : Receiver) : List Nat :=
  (receiver.controls.filterMap ControlMessage.volumeRequest).filter
    (fun request => request ∉ link.answered)

end Link

/-- Whether a status makes the receiver take its volume for a requested one. -/
def Receiver.solicited (receiver : Receiver) (status : DeviceStatus) : Bool :=
  status.consistent && receiver.volumeRequests.contains status.requestId &&
    (!status.failed || (!status.fixed && status.speaker))

/-- All connections, and all statuses that ever arrived. -/
structure Links where
  links : SortedMap Nat Link
  delivered : List (Nat × Emission)

/-- Calls of other threads that do not come from a connection; only commands
with the request id zero are broadcast. -/
def RegistryEvent.internal : RegistryEvent → Bool
  | .register => false
  | .remove _ => false
  | .updateDevice _ _ => false
  | .broadcast (.calibrationTone 0 _) _ => true
  | .broadcast (.calibrationSession 0 .cancel) _ => true
  | .broadcast _ _ => false
  | _ => true

/-- What can happen outside the controller. -/
inductive LinkEvent where
  | connect
  | disconnect (id : Nat)
  | process (id : Nat) (reply : DeviceStatus)
  | notice (id : Nat) (status : DeviceStatus)
  | deliver (id : Nat)
  | internal (e : RegistryEvent)

namespace Links

/-- The effect of an event. -/
def react (s : Registry × Links) : LinkEvent → Registry × Links
  | .connect =>
      (s.1.register, { s.2 with links := s.2.links.insert s.1.nextId .fresh })
  | .disconnect id =>
      (s.1.remove id, { s.2 with links := s.2.links.erase id })
  | .process id reply =>
      match s.1.receivers.get? id, s.2.links.get? id with
      | some receiver, some link =>
          match receiver.controls.drop link.processed.length with
          | command :: _ =>
              (s.1, { s.2 with links := s.2.links.insert id (link.process command reply) })
          | [] => s
      | _, _ => s
  | .notice id status =>
      match s.2.links.get? id with
      | some link => (s.1, { s.2 with links := s.2.links.insert id (link.notice status) })
      | none => s
  | .deliver id =>
      match s.1.receivers.get? id, s.2.links.get? id with
      | some receiver, some link =>
          match link.inFlight with
          | emission :: rest =>
              (s.1.updateDevice id emission.status,
                { links := s.2.links.insert id
                    { link with
                        inFlight := rest
                        log := link.log ++
                          [{ emission := emission
                             outstanding := (link.outstanding receiver).length
                             solicited := receiver.solicited emission.status }] }
                  delivered := s.2.delivered ++ [(id, emission)] })
          | [] => s
      | _, _ => s
  | .internal e => if e.internal then (s.1.react e, s.2) else s

/-- No connection yet. -/
def start : Links where
  links := .empty
  delivered := []

end Links

end Soundwave

import Soundwave.CaptureHub
import Soundwave.ReceiverRegistry
import Mathlib.Data.List.Count

/-!
# The sessions of the server

Model of `streamer.rs`, which accepts receivers until it is told to stop, and of
`session.rs`, which serves one receiver for as long as its connection lives.  The sessions
run as tasks beside each other: between two steps of a session the others, the capture
threads and the callers of the registry do what they like.  A session that is stopped with
the server is aborted where it waits, so that it drops its guard and nothing else.

All receivers of the registry listen to one capture.  When all sessions of a server that
accepts receivers have ended, and when a server has returned, the hub holds no capture, and
every capture that a receiver has subscribed to was told to stop.  This leaves out a capture
that nobody was given: when the fan-out thread cannot be started, the capture thread that
was started before it runs on without a handle.
-/

namespace Soundwave

/-- Where a session stands: the points where it waits, and the calls in between. -/
inductive SessionPhase where
  | connecting
  | handshaking
  | subscribing
  | registering (capture : Nat)
  | serving (capture id : Nat)
  | draining (capture id : Nat)
  | dropping (capture id : Nat)
  | leaving (capture : Nat)
  | stopping (capture : Nat)
  | joining
  | ended
  | aborted
deriving DecidableEq

namespace SessionPhase

/-- The capture that a session has subscribed to. -/
def capture : SessionPhase → Option Nat
  | registering capture | serving capture _ | draining capture _ | dropping capture _
  | leaving capture => some capture
  | connecting | handshaking | subscribing | stopping _ | joining | ended | aborted => none

/-- The receiver of a session, from `register` to the drop of the guard. -/
def id : SessionPhase → Option Nat
  | serving _ id | draining _ id | dropping _ id => some id
  | connecting | handshaking | subscribing | registering _ | leaving _ | stopping _ | joining
  | ended | aborted => none

/-- The session of a receiver. -/
def serves (receiver : Nat) (phase : SessionPhase) : Bool :=
  phase.id = some receiver

/-- A session that the hub counts.  An aborted session is never uncounted. -/
def counted : SessionPhase → Bool
  | registering _ | serving _ _ | draining _ _ | dropping _ _ | leaving _ | aborted => true
  | connecting | handshaking | subscribing | stopping _ | joining | ended => false

/-- A session that may still register. -/
def pending : SessionPhase → Bool
  | connecting | handshaking | subscribing | registering _ => true
  | serving _ _ | draining _ _ | dropping _ _ | leaving _ | stopping _ | joining | ended
  | aborted => false

/-- A session that is about to stop a capture. -/
def stops (capture : Nat) : SessionPhase → Bool
  | stopping taken => taken = capture
  | connecting | handshaking | subscribing | registering _ | serving _ _ | draining _ _
  | dropping _ _ | leaving _ | joining | ended | aborted => false

/-- A task that has returned, or was aborted. -/
def finished : SessionPhase → Bool
  | ended | aborted => true
  | connecting | handshaking | subscribing | registering _ | serving _ _ | draining _ _
  | dropping _ _ | leaving _ | stopping _ | joining => false

theorem counted_of_capture {phase : SessionPhase} {taken : Nat}
    (h : phase.capture = some taken) : phase.counted = true := by
  cases phase with
  | registering _ | serving _ _ | draining _ _ | dropping _ _ | leaving _ => rfl
  | connecting | handshaking | subscribing | stopping _ | joining | ended | aborted => cases h

theorem capture_of_id {phase : SessionPhase} {receiver : Nat} (h : phase.id = some receiver) :
    ∃ taken, phase.capture = some taken := by
  cases phase with
  | serving taken _ | draining taken _ | dropping taken _ => exact ⟨taken, rfl⟩
  | connecting | handshaking | subscribing | registering _ | leaving _ | stopping _ | joining
  | ended | aborted => cases h

end SessionPhase

/-- Where `streamer::run` stands: in the accept loop, in `sessions.shutdown()`, in
`endpoint.wait_idle()`, or done. -/
inductive StreamerPhase where
  | accepting
  | unwinding
  | idling
  | returned
deriving DecidableEq

/-- A call that another thread makes of the registry.  It registers and removes nobody. -/
structure RegistryCall where
  call : Registry → Registry
  keys : ∀ r, (call r).receivers.keys = r.receivers.keys
  nextId : ∀ r, (call r).nextId = r.nextId

/-- What a step of a session meets: whether what it waits for succeeds, and how the start
of a capture ends. -/
structure SessionInput where
  succeeds : Bool
  start : StartOutcome
deriving DecidableEq

/-- The server: its hub, its registry, and one task for each connection so far. -/
structure StreamServer where
  phase : StreamerPhase
  hub : HubSystem
  registry : Registry
  sessions : List SessionPhase

/-- What happens to the server. -/
inductive StreamerEvent where
  | accept
  | session (i : Nat) (input : SessionInput)
  | fail (capture : Nat)
  | call (call : RegistryCall)
  | shutdown
  | abort (i : Nat)
  | unwound
  | closed

namespace RegistryCall

section Calls

variable (refusal : Nat → Option String) (id : Nat)

theorem plainRequest_keeps (r : Registry) (message : Nat → ControlMessage) :
    (r.plainRequest refusal id message).2.receivers.keys = r.receivers.keys ∧
      (r.plainRequest refusal id message).2.nextId = r.nextId := by
  rcases r.plainRequest_cases refusal id message with ⟨e, heq⟩ | heq
  · rw [heq]
    exact ⟨rfl, rfl⟩
  · rw [heq]
    exact ⟨SortedMap.keys_modify _ _ _, rfl⟩

theorem volumeRequestWithBarrier_keeps (r : Registry) (index : Nat) (purpose : VolumePurpose)
    (barrier : Bool) :
    (r.volumeRequestWithBarrier refusal id index purpose barrier).2.receivers.keys =
        r.receivers.keys ∧
      (r.volumeRequestWithBarrier refusal id index purpose barrier).2.nextId = r.nextId := by
  rcases r.volumeRequestWithBarrier_cases refusal id index purpose barrier with ⟨e, heq⟩ | heq
  · rw [heq]
    exact ⟨rfl, rfl⟩
  · rw [heq]
    exact ⟨SortedMap.keys_modify _ _ _, rfl⟩

/-- `request`, `calibration_request` and `tone_request`. -/
def plainRequest (message : Nat → ControlMessage) : RegistryCall where
  call := fun r => (r.plainRequest refusal id message).2
  keys := fun r => (plainRequest_keeps refusal id r message).1
  nextId := fun r => (plainRequest_keeps refusal id r message).2

/-- The volume requests. -/
def volumeRequest (index : Nat) (purpose : VolumePurpose) (barrier : Bool) : RegistryCall where
  call := fun r => (r.volumeRequestWithBarrier refusal id index purpose barrier).2
  keys := fun r => (volumeRequestWithBarrier_keeps refusal id r index purpose barrier).1
  nextId := fun r => (volumeRequestWithBarrier_keeps refusal id r index purpose barrier).2

/-- `broadcast`. -/
def broadcast (message : ControlMessage) : RegistryCall where
  call := fun r => r.broadcast refusal message
  keys := fun _ => SortedMap.keys_mapValues _ _
  nextId := fun _ => rfl

/-- `deny_all`. -/
def denyAll : RegistryCall where
  call := Registry.denyAll
  keys := fun _ => SortedMap.keys_mapValues _ _
  nextId := fun _ => rfl

/-- `approve`. -/
def approve (expected : List (Nat × DeviceStatus)) : RegistryCall where
  call := fun r => r.approve expected
  keys := fun _ => SortedMap.keys_mapValues _ _
  nextId := fun _ => rfl

theorem updateDevice_keeps (r : Registry) (status : DeviceStatus) :
    (r.updateDevice id status).receivers.keys = r.receivers.keys ∧
      (r.updateDevice id status).nextId = r.nextId := by
  simp only [Registry.updateDevice]
  split
  · exact ⟨SortedMap.keys_modify _ _ _, rfl⟩
  · exact ⟨rfl, rfl⟩

/-- `update_device`. -/
def updateDevice (status : DeviceStatus) : RegistryCall where
  call := fun r => r.updateDevice id status
  keys := fun r => (updateDevice_keeps id r status).1
  nextId := fun r => (updateDevice_keeps id r status).2

theorem updateTone_keeps (r : Registry) (request : Nat) (playing failed : Bool) :
    (r.updateTone id request playing failed).receivers.keys = r.receivers.keys ∧
      (r.updateTone id request playing failed).nextId = r.nextId := by
  simp only [Registry.updateTone]
  split
  · exact ⟨rfl, rfl⟩
  · exact ⟨SortedMap.keys_modify _ _ _, rfl⟩

/-- `update_tone`. -/
def updateTone (request : Nat) (playing failed : Bool) : RegistryCall where
  call := fun r => r.updateTone id request playing failed
  keys := fun r => (updateTone_keeps id r request playing failed).1
  nextId := fun r => (updateTone_keeps id r request playing failed).2

/-- `take_reply`. -/
def takeReply (request : Nat) : RegistryCall where
  call := fun r => (r.takeReply id request).2
  keys := fun _ => SortedMap.keys_modify _ _ _
  nextId := fun _ => rfl

/-- `take_tone_reply`. -/
def takeToneReply (request : Nat) : RegistryCall where
  call := fun r => (r.takeToneReply id request).2
  keys := fun _ => SortedMap.keys_modify _ _ _
  nextId := fun _ => rfl

/-- `take_unsolicited_volume`. -/
def takeUnsolicitedVolume : RegistryCall where
  call := fun r => (r.takeUnsolicitedVolume id).2
  keys := fun _ => SortedMap.keys_modify _ _ _
  nextId := fun _ => rfl

end Calls

end RegistryCall

namespace StreamServer

section Model

/-- The server when it has told the window that it is ready. -/
def start : StreamServer where
  phase := .accepting
  hub := .start
  registry := .empty
  sessions := []

/-- The task `i` goes on to `phase`. -/
def move (s : StreamServer) (i : Nat) (phase : SessionPhase) : StreamServer :=
  { s with sessions := s.sessions.set i phase }

/-- The capture behind the receiver that `subscribe` returns. -/
def granted (hub : HubSystem) (outcome : StartOutcome) : Option Nat :=
  match hub.hub.capture with
  | some capture => some capture
  | none =>
      match outcome with
      | .started _ => some hub.started
      | .loopbackFailed | .fanoutFailed => none

/-- `hub.subscribe()`, with the end of the session when it fails. -/
def subscribe (s : StreamServer) (i : Nat) (outcome : StartOutcome) : StreamServer :=
  { s with
      hub := s.hub.step (.subscribe outcome)
      sessions := s.sessions.set i
        (match granted s.hub outcome with
        | some capture => .registering capture
        | none => .ended) }

/-- `registry.register`. -/
def register (s : StreamServer) (i capture : Nat) : StreamServer :=
  { s with
      registry := s.registry.register
      sessions := s.sessions.set i (.serving capture s.registry.nextId) }

/-- The section of `hub.unsubscribe()` under the lock: the capture to stop, if any. -/
def taken (hub : HubSystem) : Option Nat :=
  if hub.hub.subscribers - 1 > 0 then none else hub.hub.capture

/-- `hub.unsubscribe()`, up to the stop of the capture. -/
def unsubscribe (s : StreamServer) (i : Nat) : StreamServer :=
  { s with
      hub := s.hub.step .unsubscribe
      sessions := s.sessions.set i
        (match taken s.hub with
        | some capture => .stopping capture
        | none => .ended) }

/-- The next step of the session `i`. -/
def session (s : StreamServer) (i : Nat) (input : SessionInput) : StreamServer :=
  match s.sessions[i]? with
  | some .connecting => s.move i (if input.succeeds then .handshaking else .ended)
  | some .handshaking => s.move i (if input.succeeds then .subscribing else .ended)
  | some .subscribing => s.subscribe i input.start
  | some (.registering capture) => s.register i capture
  -- `process_control_messages` has ended, for whatever reason
  | some (.serving capture id) => s.move i (.draining capture id)
  | some (.draining capture id) => s.move i (.dropping capture id)
  | some (.dropping capture id) =>
      { s with
          registry := s.registry.remove id
          sessions := s.sessions.set i (.leaving capture) }
  | some (.leaving _) => s.unsubscribe i
  | some (.stopping capture) =>
      { s with
          hub := s.hub.step (.cancel (s.hub.leaving.idxOf capture))
          sessions := s.sessions.set i .joining }
  | some .joining => s.move i .ended
  | some .ended | some .aborted | none => s

/-- The abort of a task, which takes effect where it waits. -/
def abort (s : StreamServer) (i : Nat) : StreamServer :=
  match s.sessions[i]? with
  | some .connecting | some .handshaking | some .joining => s.move i .ended
  | some (.serving _ id) | some (.draining _ id) =>
      { s with
          registry := s.registry.remove id
          sessions := s.sessions.set i .aborted }
  | _ => s

/-- `HubInner::drop`. -/
def dropHub (hub : HubSystem) : HubSystem :=
  { hub with
      hub := { hub.hub with capture := none }
      cancelled := hub.hub.capture.toList ++ hub.cancelled }

/-- One event. -/
def step (s : StreamServer) : StreamerEvent → StreamServer
  | .accept =>
      if s.phase = .accepting then { s with sessions := s.sessions ++ [.connecting] } else s
  | .session i input => s.session i input
  | .fail capture => { s with hub := s.hub.step (.fail capture) }
  | .call call => { s with registry := call.call s.registry }
  | .shutdown => if s.phase = .accepting then { s with phase := .unwinding } else s
  | .abort i => if s.phase = .unwinding then s.abort i else s
  | .unwound =>
      if s.phase = .unwinding ∧ s.sessions.all SessionPhase.finished then
        { s with phase := .idling }
      else
        s
  | .closed =>
      if s.phase = .idling then { s with phase := .returned, hub := dropHub s.hub } else s

end Model

section Tasks

variable {α : Type} {l : List α} {i : Nat} {a : α}

/-- How a count changes when one task goes on. -/
theorem countP_set_add (f : α → Bool) (b : α) (h : l[i]? = some a) :
    (l.set i b).countP f + (if f a then 1 else 0) = l.countP f + if f b then 1 else 0 := by
  induction l generalizing i with
  | nil => cases h
  | cons x l ih =>
      cases i with
      | zero =>
          cases h
          simp only [List.set_cons_zero, List.countP_cons]
          omega
      | succ i =>
          have hrest := ih (i := i) h
          simp only [List.set_cons_succ, List.countP_cons]
          omega

end Tasks

section Captures

open SessionPhase

/-- How the hub and the sessions belong together, until the hub is dropped. -/
structure Attached (hub : HubSystem) (sessions : List SessionPhase) : Prop where
  ok : hub.HubOk
  counted : hub.outstanding = sessions.countP SessionPhase.counted
  attached : ∀ phase ∈ sessions, ∀ capture, phase.capture = some capture →
    hub.hub.capture = some capture
  stopping : ∀ capture, hub.leaving.count capture = sessions.countP (stops capture)
  handed : ∀ receiver ∈ hub.receivers, hub.hub.capture = some receiver.capture ∨
    receiver.capture ∈ hub.leaving ∨ receiver.capture ∈ hub.cancelled

variable {hub : HubSystem} {sessions : List SessionPhase} {i : Nat} {p : SessionPhase}

theorem attached_start : Attached .start [] where
  ok := HubSystem.hubOk_start
  counted := rfl
  attached := fun _ h => by cases h
  stopping := fun _ => rfl
  handed := fun _ h => by cases h

theorem mem_set_cases {q phase : SessionPhase} (h : phase ∈ sessions.set i q) :
    phase = q ∨ phase ∈ sessions :=
  (List.mem_or_eq_of_mem_set h).symm

/-- A new session, or a step of a session without the hub. -/
theorem Attached.congr {sessions' : List SessionPhase} (h : Attached hub sessions)
    (hcounted : sessions'.countP SessionPhase.counted = sessions.countP SessionPhase.counted)
    (hattached : ∀ phase ∈ sessions', ∀ capture, phase.capture = some capture →
      ∃ old ∈ sessions, old.capture = some capture)
    (hstopping : ∀ capture, sessions'.countP (stops capture) = sessions.countP (stops capture)) :
    Attached hub sessions' := by
  refine ⟨h.ok, h.counted.trans hcounted.symm, fun phase hmem capture heq => ?_,
    fun capture => (h.stopping capture).trans (hstopping capture).symm, h.handed⟩
  obtain ⟨old, hold, hsame⟩ := hattached phase hmem capture heq
  exact h.attached old hold capture hsame

theorem Attached.accept (h : Attached hub sessions) :
    Attached hub (sessions ++ [.connecting]) := by
  refine h.congr (by simp [SessionPhase.counted]) (fun phase hmem capture heq => ?_)
    (fun capture => by simp [stops])
  rcases List.mem_append.mp hmem with hmem | hmem
  · exact ⟨phase, hmem, heq⟩
  · rw [List.mem_singleton.mp hmem] at heq
    cases heq

theorem Attached.move (h : Attached hub sessions) (hp : sessions[i]? = some p) (q : SessionPhase)
    (hcounted : q.counted = p.counted)
    (hcapture : ∀ capture, q.capture = some capture → p.capture = some capture)
    (hstops : ∀ capture, stops capture q = stops capture p) :
    Attached hub (sessions.set i q) := by
  refine h.congr ?_ (fun phase hmem capture heq => ?_) (fun capture => ?_)
  · have hcount := countP_set_add SessionPhase.counted q hp
    rw [hcounted] at hcount
    exact Nat.add_right_cancel hcount
  · rcases mem_set_cases hmem with rfl | hmem
    · exact ⟨p, List.mem_of_getElem? hp, hcapture capture heq⟩
    · exact ⟨phase, hmem, heq⟩
  · have hcount := countP_set_add (stops capture) q hp
    rw [hstops] at hcount
    exact Nat.add_right_cancel hcount

theorem Attached.fail (h : Attached hub sessions) (capture : Nat) :
    Attached (hub.step (.fail capture)) sessions := by
  have hok := HubSystem.hubOk_step h.ok (e := .fail capture) rfl
  simp only [HubSystem.step] at hok ⊢
  split
  · rename_i hstarted
    rw [if_pos hstarted] at hok
    refine ⟨hok, h.counted, h.attached, h.stopping, fun receiver hmem => ?_⟩
    rcases h.handed receiver hmem with hheld | hleaving | hcancelled
    · exact Or.inl hheld
    · exact Or.inr (Or.inl hleaving)
    · exact Or.inr (Or.inr (List.mem_cons_of_mem _ hcancelled))
  · exact h

/-- A subscription to a capture that is held, or that has just been started. -/
theorem Attached.grant (h : Attached hub sessions) (hp : sessions[i]? = some .subscribing)
    {begun : HubSystem} {capture : Nat} (hok : (begun.grant capture).HubOk)
    (houtstanding : begun.outstanding = hub.outstanding) (hleaving : begun.leaving = hub.leaving)
    (hreceivers : begun.receivers = hub.receivers) (hcancelled : hub.cancelled ⊆ begun.cancelled)
    (hheld : ∀ other, hub.hub.capture = some other → other = capture) :
    Attached (begun.grant capture) (sessions.set i (.registering capture)) := by
  refine ⟨hok, ?_, fun phase hmem other heq => ?_, fun other => ?_, fun receiver hmem => ?_⟩
  · have hcount := countP_set_add SessionPhase.counted (.registering capture) hp
    have hbefore := h.counted
    simp only [SessionPhase.counted, Bool.false_eq_true, if_false, if_true] at hcount
    show begun.outstanding + 1 = _
    omega
  · show some capture = some other
    rcases mem_set_cases hmem with rfl | hmem
    · exact heq
    · rw [hheld other (h.attached phase hmem other heq)]
  · have hcount := countP_set_add (stops other) (.registering capture) hp
    have hbefore := h.stopping other
    simp only [stops, Bool.false_eq_true, if_false] at hcount
    show begun.leaving.count other = _
    rw [hleaving]
    omega
  · rcases List.mem_append.mp hmem with hmem | hmem
    · rw [hreceivers] at hmem
      rcases h.handed receiver hmem with hsame | hleft | hstopped
      · exact Or.inl (congrArg some (hheld _ hsame).symm)
      · refine Or.inr (Or.inl ?_)
        show receiver.capture ∈ begun.leaving
        rw [hleaving]
        exact hleft
      · exact Or.inr (Or.inr (hcancelled hstopped))
    · rw [List.mem_singleton.mp hmem]
      exact Or.inl rfl

theorem Attached.subscribe (h : Attached hub sessions) (hp : sessions[i]? = some .subscribing)
    (outcome : StartOutcome) :
    Attached (hub.step (.subscribe outcome))
      (sessions.set i
        (match granted hub outcome with
        | some capture => .registering capture
        | none => .ended)) := by
  have hok := HubSystem.hubOk_subscribe h.ok outcome
  cases hheld : hub.hub.capture with
  | some capture =>
      simp only [HubSystem.step, granted, HubSystem.subscribe_of_held hheld, hheld] at hok ⊢
      exact h.grant hp hok rfl rfl rfl (List.Subset.refl _) fun other heq => by
        rw [hheld] at heq
        exact (Option.some.inj heq).symm
  | none =>
      have hnone : ∀ other capture, hub.hub.capture = some other → other = capture := by
        intro other capture heq
        rw [hheld] at heq
        cases heq
      have hended := h.move hp .ended rfl (fun _ heq => by cases heq) fun _ => rfl
      simp only [HubSystem.step, granted, HubSystem.subscribe_of_none hheld, hheld] at hok ⊢
      cases outcome with
      | loopbackFailed => exact hended
      | fanoutFailed => exact ⟨hok, hended.counted, hended.attached, hended.stopping, hended.handed⟩
      | started failed =>
          cases failed with
          | false =>
              exact h.grant hp hok rfl rfl rfl (List.Subset.refl _) fun other => hnone other _
          | true =>
              exact h.grant hp hok rfl rfl rfl (List.subset_cons_self _ _)
                fun other => hnone other _

theorem not_counted_of_last {capture : Nat} (h : Attached hub sessions)
    (hp : sessions[i]? = some (.leaving capture)) (hlast : ¬hub.hub.subscribers - 1 > 0)
    (q : SessionPhase) (hq : q.counted = false) :
    (sessions.set i q).countP SessionPhase.counted = 0 := by
  have hcount := countP_set_add SessionPhase.counted q hp
  have hbefore := h.counted
  have hsubscribers := h.ok.count
  rw [hq] at hcount
  simp only [SessionPhase.counted, Bool.false_eq_true, if_false, if_true] at hcount
  omega

theorem Attached.unsubscribe {capture : Nat} (h : Attached hub sessions)
    (hp : sessions[i]? = some (.leaving capture)) :
    Attached (hub.step .unsubscribe)
      (sessions.set i
        (match taken hub with
        | some capture => .stopping capture
        | none => .ended)) := by
  have hmem := List.mem_of_getElem? hp
  have hheld := h.attached _ hmem capture rfl
  have houtstanding : 0 < hub.outstanding := by
    rw [h.counted]
    exact List.countP_pos_iff.mpr ⟨_, hmem, rfl⟩
  have hok := HubSystem.hubOk_unsubscribe h.ok houtstanding
  simp only [HubSystem.step, taken, HubSystem.unsubscribe] at hok ⊢
  by_cases hothers : hub.hub.subscribers - 1 > 0
  · simp only [if_pos hothers] at hok ⊢
    refine ⟨hok, ?_, fun phase hin other heq => ?_, fun other => ?_, h.handed⟩
    · have hcount := countP_set_add SessionPhase.counted .ended hp
      have hbefore := h.counted
      simp only [SessionPhase.counted, Bool.false_eq_true, if_false, if_true] at hcount
      show hub.outstanding - 1 = _
      omega
    · rcases mem_set_cases hin with rfl | hin
      · cases heq
      · exact h.attached phase hin other heq
    · have hcount := countP_set_add (stops other) .ended hp
      have hbefore := h.stopping other
      simp only [stops, Bool.false_eq_true, if_false] at hcount
      show hub.leaving.count other = _
      omega
  · simp only [if_neg hothers, hheld] at hok ⊢
    have hnobody := not_counted_of_last h hp hothers (.stopping capture) rfl
    refine ⟨hok, ?_, fun phase hin other heq => ?_, fun other => ?_, fun receiver hin => ?_⟩
    · have hsubscribers := h.ok.count
      rw [hnobody]
      show hub.outstanding - 1 = 0
      omega
    · exact absurd (counted_of_capture heq) (List.countP_eq_zero.mp hnobody phase hin)
    · have hcount := countP_set_add (stops other) (.stopping capture) hp
      have hbefore := h.stopping other
      simp only [stops, Bool.false_eq_true, if_false, decide_eq_true_eq] at hcount
      show (hub.leaving ++ [capture]).count other = _
      rw [List.count_append, List.count_singleton]
      simp only [beq_iff_eq]
      omega
    · refine Or.inr ?_
      rcases h.handed receiver hin with hsame | hleft | hstopped
      · rw [hheld] at hsame
        rw [← Option.some.inj hsame]
        exact Or.inl (List.mem_append_right _ List.mem_cons_self)
      · exact Or.inl (List.mem_append_left _ hleft)
      · exact Or.inr hstopped

theorem Attached.cancel {capture : Nat} (h : Attached hub sessions)
    (hp : sessions[i]? = some (.stopping capture)) :
    Attached (hub.step (.cancel (hub.leaving.idxOf capture))) (sessions.set i .joining) := by
  have hleaving : capture ∈ hub.leaving := by
    rw [← List.count_pos_iff, h.stopping]
    exact List.countP_pos_iff.mpr ⟨_, List.mem_of_getElem? hp, decide_eq_true rfl⟩
  have hok := HubSystem.hubOk_cancel h.ok (hub.leaving.idxOf capture)
  simp only [HubSystem.step, HubSystem.cancel, List.getElem?_idxOf hleaving,
    List.eraseIdx_idxOf_eq_erase] at hok ⊢
  refine ⟨hok, ?_, fun phase hin other heq => ?_, fun other => ?_, fun receiver hin => ?_⟩
  · have hcount := countP_set_add SessionPhase.counted .joining hp
    exact h.counted.trans (Nat.add_right_cancel hcount).symm
  · rcases mem_set_cases hin with rfl | hin
    · cases heq
    · exact h.attached phase hin other heq
  · have hcount := countP_set_add (stops other) .joining hp
    have hbefore := h.stopping other
    simp only [stops, Bool.false_eq_true, if_false, decide_eq_true_eq] at hcount
    show (hub.leaving.erase capture).count other = _
    rw [List.count_erase]
    simp only [beq_iff_eq]
    omega
  · rcases h.handed receiver hin with hsame | hleft | hstopped
    · exact Or.inl hsame
    · refine Or.inr ?_
      by_cases heq : receiver.capture = capture
      · exact Or.inr (heq ▸ List.mem_cons_self)
      · exact Or.inl ((List.mem_erase_of_ne heq).mpr hleft)
    · exact Or.inr (Or.inr (List.mem_cons_of_mem _ hstopped))

end Captures

section Receivers

open SessionPhase

/-- Every receiver of the registry has one session, and nobody else has any. -/
structure Listed (r : Registry) (sessions : List SessionPhase) : Prop where
  listed : ∀ id, sessions.countP (serves id) = if id ∈ r.receivers.keys then 1 else 0
  numbered : ∀ id ∈ r.receivers.keys, id < r.nextId
  room : r.nextId + sessions.countP pending ≤ sessions.length

variable {r : Registry} {sessions : List SessionPhase} {i : Nat} {p : SessionPhase}

theorem listed_start : Listed .empty [] where
  listed := fun _ => rfl
  numbered := fun _ h => by cases h
  room := Nat.le_refl _

theorem Listed.accept (h : Listed r sessions) : Listed r (sessions ++ [.connecting]) := by
  refine ⟨fun id => ?_, h.numbered, ?_⟩
  · rw [← h.listed, List.countP_append]
    rfl
  · have hroom := h.room
    rw [List.countP_append, List.length_append]
    simp only [List.countP_singleton, pending, if_true, List.length_singleton]
    omega

theorem Listed.call (h : Listed r sessions) (call : RegistryCall) :
    Listed (call.call r) sessions := by
  refine ⟨fun id => ?_, ?_, ?_⟩
  · rw [call.keys]
    exact h.listed id
  · rw [call.keys, call.nextId]
    exact h.numbered
  · rw [call.nextId]
    exact h.room

/-- A session goes on with the receiver it has. -/
theorem Listed.move (h : Listed r sessions) (hp : sessions[i]? = some p) (q : SessionPhase)
    (hid : q.id = p.id) (hpending : q.pending = true → p.pending = true) :
    Listed r (sessions.set i q) := by
  refine ⟨fun id => ?_, h.numbered, ?_⟩
  · have hcount := countP_set_add (serves id) q hp
    have hsame : serves id q = serves id p := by rw [serves, serves, hid]
    rw [hsame] at hcount
    rw [← h.listed]
    exact Nat.add_right_cancel hcount
  · have hcount := countP_set_add pending q hp
    have hroom := h.room
    rw [List.length_set]
    by_cases hq : q.pending = true
    · simp only [hq, hpending hq, if_true] at hcount
      omega
    · simp only [hq, Bool.false_eq_true, if_false] at hcount
      omega

theorem keys_register (r : Registry) (id : Nat) :
    id ∈ r.register.receivers.keys ↔ id = r.nextId ∨ id ∈ r.receivers.keys := by
  simp only [SortedMap.mem_keys_iff, SortedMap.contains_eq_true_iff, Registry.register,
    SortedMap.get?_insert]
  by_cases heq : id = r.nextId
  · simp [heq]
  · simp [heq]

/-- `register`, while the ids have not wrapped. -/
theorem Listed.register {capture : Nat} (h : Listed r sessions)
    (hp : sessions[i]? = some (.registering capture)) (hbound : sessions.length < 2 ^ 64) :
    Listed r.register (sessions.set i (.serving capture r.nextId)) := by
  have hpending := countP_set_add pending (.serving capture r.nextId) hp
  have hroom := h.room
  simp only [pending, Bool.false_eq_true, if_false, if_true] at hpending
  have hnext : r.register.nextId = r.nextId + 1 := Nat.mod_eq_of_lt (by omega)
  refine ⟨fun id => ?_, fun id hmem => ?_, ?_⟩
  · have hcount := countP_set_add (serves id) (.serving capture r.nextId) hp
    have hbefore := h.listed id
    simp only [serves, SessionPhase.id, reduceCtorEq, decide_false, Bool.false_eq_true, if_false,
      Option.some.injEq, decide_eq_true_eq] at hcount
    by_cases heq : id = r.nextId
    · have hnew : id ∉ r.receivers.keys := fun hmem => by
        have hlt := h.numbered id hmem
        omega
      rw [if_neg hnew] at hbefore
      rw [if_pos heq.symm] at hcount
      rw [if_pos ((keys_register r id).mpr (Or.inl heq))]
      omega
    · rw [if_neg (Ne.symm heq)] at hcount
      simp only [keys_register, heq, false_or]
      omega
  · rw [hnext]
    rcases (keys_register r id).mp hmem with rfl | hmem
    · exact Nat.lt_succ_self _
    · exact Nat.lt_succ_of_lt (h.numbered id hmem)
  · rw [hnext, List.length_set]
    omega

theorem keys_remove (r : Registry) (id id' : Nat) :
    id' ∈ (r.remove id).receivers.keys ↔ id' ≠ id ∧ id' ∈ r.receivers.keys := by
  rw [Registry.remove]
  split
  · rw [SortedMap.keys_mapValues]
    simp only [SortedMap.mem_keys_iff, SortedMap.contains_eq_true_iff, SortedMap.get?_erase]
    by_cases heq : id' = id
    · simp [heq]
    · simp [heq]
  · rename_i habsent
    refine ⟨fun hmem => ⟨?_, hmem⟩, fun hmem => hmem.2⟩
    rintro rfl
    exact habsent ((SortedMap.mem_keys_iff _ _).mp hmem)

theorem nextId_remove (r : Registry) (id : Nat) : (r.remove id).nextId = r.nextId := by
  rw [Registry.remove]
  split
  · rfl
  · rfl

/-- The drop of a guard. -/
theorem Listed.remove {id : Nat} (h : Listed r sessions) (hp : sessions[i]? = some p)
    (hid : p.id = some id) (hpending : p.pending = false) (q : SessionPhase) (hq : q.id = none)
    (hlater : q.pending = false) : Listed (r.remove id) (sessions.set i q) := by
  refine ⟨fun other => ?_, fun other hmem => ?_, ?_⟩
  · have hcount := countP_set_add (serves other) q hp
    have hbefore := h.listed other
    simp only [serves, hid, hq, reduceCtorEq, decide_false, Bool.false_eq_true, if_false,
      Option.some.injEq, decide_eq_true_eq] at hcount
    simp only [keys_remove]
    by_cases heq : other = id
    · rw [if_pos heq.symm] at hcount
      rw [if_neg fun hboth => hboth.1 heq]
      split at hbefore <;> omega
    · rw [if_neg (Ne.symm heq)] at hcount
      simp only [ne_eq, heq, not_false_eq_true, true_and]
      omega
  · rw [nextId_remove]
    exact h.numbered other ((keys_remove r id other).mp hmem).2
  · have hcount := countP_set_add pending q hp
    have hroom := h.room
    rw [nextId_remove, List.length_set]
    rw [hpending, hlater] at hcount
    simp only [Bool.false_eq_true, if_false] at hcount
    omega

end Receivers

section Invariant

open SessionPhase

/-- What holds of the server at all times. -/
structure Consistent (s : StreamServer) : Prop where
  hub : s.phase ≠ .returned → Attached s.hub s.sessions
  registry : Listed s.registry s.sessions
  finished : s.phase = .idling ∨ s.phase = .returned →
    ∀ phase ∈ s.sessions, phase.finished = true
  kept : s.phase = .accepting → .aborted ∉ s.sessions
  stopped : s.phase = .returned → s.hub.hub.capture = none ∧
    ∀ receiver ∈ s.hub.receivers, receiver.capture ∈ s.hub.cancelled

theorem start_consistent : start.Consistent where
  hub := fun _ => attached_start
  registry := listed_start
  finished := fun _ _ h => by cases h
  kept := fun _ h => by cases h
  stopped := fun h => by cases h

/-- One session makes a step, while some are still running. -/
theorem Consistent.advance {s s' : StreamServer} (h : s.Consistent) {i : Nat} {p q : SessionPhase}
    (hp : s.sessions[i]? = some p) (hrunning : p.finished = false)
    (hq : q = .aborted → s.phase ≠ .accepting) (hphase : s'.phase = s.phase)
    (hsessions : s'.sessions = s.sessions.set i q)
    (hhub : Attached s.hub s.sessions → Attached s'.hub (s.sessions.set i q))
    (hregistry : Listed s'.registry (s.sessions.set i q)) : s'.Consistent := by
  have hopen : ¬(s.phase = .idling ∨ s.phase = .returned) := fun hover => by
    rw [h.finished hover p (List.mem_of_getElem? hp)] at hrunning
    cases hrunning
  refine ⟨fun hnot => ?_, ?_, fun hover => ?_, fun haccepting hmem => ?_, fun hreturned => ?_⟩
  · rw [hsessions]
    rw [hphase] at hnot
    exact hhub (h.hub hnot)
  · rw [hsessions]
    exact hregistry
  · rw [hphase] at hover
    exact absurd hover hopen
  · rw [hphase] at haccepting
    rw [hsessions] at hmem
    rcases mem_set_cases hmem with heq | hmem
    · exact hq heq.symm haccepting
    · exact h.kept haccepting hmem
  · rw [hphase] at hreturned
    exact absurd (Or.inr hreturned) hopen

/-- A session goes on by itself. -/
theorem Consistent.move {s : StreamServer} (h : s.Consistent) {i : Nat} {p : SessionPhase}
    (hp : s.sessions[i]? = some p) (q : SessionPhase) (hrunning : p.finished = false)
    (hq : q ≠ .aborted) (hcounted : q.counted = p.counted)
    (hcapture : ∀ capture, q.capture = some capture → p.capture = some capture)
    (hstops : ∀ capture, stops capture q = stops capture p) (hid : q.id = p.id)
    (hpending : q.pending = true → p.pending = true) : (s.move i q).Consistent :=
  h.advance hp hrunning (fun heq => absurd heq hq) rfl rfl
    (fun hattached => hattached.move hp q hcounted hcapture hstops)
    (h.registry.move hp q hid hpending)

theorem session_consistent {s : StreamServer} (h : s.Consistent) (i : Nat) (input : SessionInput)
    (hbound : s.sessions.length < 2 ^ 64) : (s.session i input).Consistent := by
  cases hp : s.sessions[i]? with
  | none =>
      simp only [session, hp]
      exact h
  | some p =>
      cases p with
      | connecting =>
          simp only [session, hp]
          cases input.succeeds with
          | true =>
              exact h.move hp .handshaking rfl (fun heq => by cases heq) rfl (fun _ heq => heq)
                (fun _ => rfl) rfl fun heq => heq
          | false =>
              exact h.move hp .ended rfl (fun heq => by cases heq) rfl (fun _ heq => heq)
                (fun _ => rfl) rfl fun _ => rfl
      | handshaking =>
          simp only [session, hp]
          cases input.succeeds with
          | true =>
              exact h.move hp .subscribing rfl (fun heq => by cases heq) rfl (fun _ heq => heq)
                (fun _ => rfl) rfl fun heq => heq
          | false =>
              exact h.move hp .ended rfl (fun heq => by cases heq) rfl (fun _ heq => heq)
                (fun _ => rfl) rfl fun _ => rfl
      | subscribing =>
          simp only [session, hp]
          refine h.advance hp rfl (fun heq => ?_) rfl rfl
            (fun hattached => hattached.subscribe hp input.start) (h.registry.move hp _ ?_ ?_)
          · split at heq <;> cases heq
          · split <;> rfl
          · exact fun _ => rfl
      | registering capture =>
          simp only [session, hp]
          exact h.advance hp rfl (fun heq => by cases heq) rfl rfl
            (fun hattached => hattached.move hp _ rfl (fun _ heq => heq) fun _ => rfl)
            (h.registry.register hp hbound)
      | serving capture id =>
          simp only [session, hp]
          exact h.move hp (.draining capture id) rfl (fun heq => by cases heq) rfl
            (fun _ heq => heq) (fun _ => rfl) rfl fun heq => heq
      | draining capture id =>
          simp only [session, hp]
          exact h.move hp (.dropping capture id) rfl (fun heq => by cases heq) rfl
            (fun _ heq => heq) (fun _ => rfl) rfl fun heq => heq
      | dropping capture id =>
          simp only [session, hp]
          exact h.advance hp rfl (fun heq => by cases heq) rfl rfl
            (fun hattached => hattached.move hp _ rfl (fun _ heq => heq) fun _ => rfl)
            (h.registry.remove hp rfl rfl _ rfl rfl)
      | leaving capture =>
          simp only [session, hp]
          refine h.advance hp rfl (fun heq => ?_) rfl rfl
            (fun hattached => hattached.unsubscribe hp) (h.registry.move hp _ ?_ fun heq => ?_)
          · split at heq <;> cases heq
          · split <;> rfl
          · split at heq <;> cases heq
      | stopping capture =>
          simp only [session, hp]
          exact h.advance hp rfl (fun heq => by cases heq) rfl rfl
            (fun hattached => hattached.cancel hp)
            (h.registry.move hp .joining rfl fun heq => heq)
      | joining =>
          simp only [session, hp]
          exact h.move hp .ended rfl (fun heq => by cases heq) rfl (fun _ heq => heq)
            (fun _ => rfl) rfl fun heq => heq
      | ended | aborted =>
          simp only [session, hp]
          exact h

/-- An aborted session stays counted, but its receiver goes. -/
theorem Consistent.drop {s : StreamServer} (h : s.Consistent) {i id : Nat} {p : SessionPhase}
    (hunwinding : s.phase = .unwinding) (hp : s.sessions[i]? = some p)
    (hrunning : p.finished = false) (hcounted : p.counted = true)
    (hstops : ∀ capture, stops capture p = false)
    (hid : p.id = some id) (hpending : p.pending = false) :
    { s with registry := s.registry.remove id, sessions := s.sessions.set i .aborted }.Consistent :=
  h.advance hp hrunning (fun _ haccepting => by rw [hunwinding] at haccepting; cases haccepting)
    rfl rfl
    (fun hattached => hattached.move hp .aborted hcounted.symm (fun _ heq => by cases heq)
      fun capture => (hstops capture).symm)
    (h.registry.remove hp hid hpending .aborted rfl rfl)

theorem abort_consistent {s : StreamServer} (h : s.Consistent) (hunwinding : s.phase = .unwinding)
    (i : Nat) : (s.abort i).Consistent := by
  cases hp : s.sessions[i]? with
  | none =>
      simp only [abort, hp]
      exact h
  | some p =>
      cases p with
      | connecting | handshaking =>
          simp only [abort, hp]
          exact h.move hp .ended rfl (fun heq => by cases heq) rfl (fun _ heq => heq)
            (fun _ => rfl) rfl fun _ => rfl
      | joining =>
          simp only [abort, hp]
          exact h.move hp .ended rfl (fun heq => by cases heq) rfl (fun _ heq => heq)
            (fun _ => rfl) rfl fun heq => heq
      | serving capture id | draining capture id =>
          simp only [abort, hp]
          exact h.drop hunwinding hp rfl rfl (fun _ => rfl) rfl rfl
      | subscribing | registering _ | dropping _ _ | leaving _ | stopping _ | ended | aborted =>
          simp only [abort, hp]
          exact h

theorem countP_eq_zero_of_finished {sessions : List SessionPhase} {f : SessionPhase → Bool}
    (hall : ∀ phase ∈ sessions, phase.finished = true)
    (hf : ∀ phase, phase.finished = true → f phase = false) : sessions.countP f = 0 :=
  List.countP_eq_zero.mpr fun phase hmem => by
    rw [hf phase (hall phase hmem)]
    exact Bool.false_ne_true

/-- No session is about to stop a capture any more. -/
theorem Attached.leaving_eq_nil {hub : HubSystem} {sessions : List SessionPhase}
    (h : Attached hub sessions) (hall : ∀ phase ∈ sessions, phase.finished = true) :
    hub.leaving = [] := by
  refine List.eq_nil_iff_forall_not_mem.mpr fun capture hmem => ?_
  have hcount := h.stopping capture
  rw [countP_eq_zero_of_finished hall] at hcount
  · exact List.count_eq_zero.mp hcount hmem
  · intro phase hfinished
    cases phase <;> first | rfl | cases hfinished

theorem Attached.dropHub_stopped {hub : HubSystem} {sessions : List SessionPhase}
    (h : Attached hub sessions) (hall : ∀ phase ∈ sessions, phase.finished = true) :
    ∀ receiver ∈ (dropHub hub).receivers, receiver.capture ∈ (dropHub hub).cancelled := by
  intro receiver hmem
  rcases h.handed receiver hmem with hheld | hleaving | hcancelled
  · exact List.mem_append_left _ (Option.mem_toList.mpr hheld)
  · rw [h.leaving_eq_nil hall] at hleaving
    cases hleaving
  · exact List.mem_append_right _ hcancelled

theorem step_consistent {s : StreamServer} (h : s.Consistent) {e : StreamerEvent}
    (hbound : s.sessions.length < 2 ^ 64) : (s.step e).Consistent := by
  cases e with
  | accept =>
      simp only [step]
      split
      · rename_i haccepting
        refine ⟨fun hnot => (h.hub hnot).accept, h.registry.accept, fun hover => ?_,
          fun _ hmem => ?_, fun hreturned => ?_⟩
        · rw [haccepting] at hover
          rcases hover with hover | hover <;> cases hover
        · rcases List.mem_append.mp hmem with hmem | hmem
          · exact h.kept haccepting hmem
          · cases List.mem_singleton.mp hmem
        · rw [haccepting] at hreturned
          cases hreturned
      · exact h
  | session i input => exact session_consistent h i input hbound
  | fail capture =>
      refine ⟨fun hnot => (h.hub hnot).fail capture, h.registry, h.finished, h.kept,
        fun hreturned => ?_⟩
      obtain ⟨hnone, hcancelled⟩ := h.stopped hreturned
      simp only [step, HubSystem.step]
      split
      · exact ⟨hnone, fun receiver hmem => List.mem_cons_of_mem _ (hcancelled receiver hmem)⟩
      · exact ⟨hnone, hcancelled⟩
  | call call => exact ⟨h.hub, h.registry.call call, h.finished, h.kept, h.stopped⟩
  | shutdown =>
      simp only [step]
      split
      · rename_i haccepting
        refine ⟨fun _ => h.hub fun heq => ?_, h.registry, fun hover => ?_,
          (fun heq => by cases heq), (fun heq => by cases heq)⟩
        · rw [haccepting] at heq
          cases heq
        · rcases hover with hover | hover <;> cases hover
      · exact h
  | abort i =>
      simp only [step]
      split
      · rename_i hunwinding
        exact abort_consistent h hunwinding i
      · exact h
  | unwound =>
      simp only [step]
      split
      · rename_i hunwound
        refine ⟨fun _ => h.hub fun heq => ?_, h.registry, fun _ => List.all_eq_true.mp hunwound.2,
          (fun heq => by cases heq), (fun heq => by cases heq)⟩
        rw [hunwound.1] at heq
        cases heq
      · exact h
  | closed =>
      simp only [step]
      split
      · rename_i hidling
        have hall := h.finished (Or.inl hidling)
        have hattached := h.hub fun heq => by
          rw [hidling] at heq
          cases heq
        exact ⟨fun hnot => absurd rfl hnot, h.registry, fun _ => hall, (fun heq => by cases heq),
          fun _ => ⟨rfl, hattached.dropHub_stopped hall⟩⟩
      · exact h

end Invariant

section Runs

open SessionPhase

theorem length_step (s : StreamServer) (e : StreamerEvent) :
    s.sessions.length ≤ (s.step e).sessions.length := by
  have hmove : ∀ i q, s.sessions.length ≤ (s.sessions.set i q).length :=
    fun i q => Nat.le_of_eq List.length_set.symm
  cases e with
  | accept =>
      simp only [step]
      split
      · simp
      · exact Nat.le_refl _
  | session i input =>
      simp only [step, session]
      split
      · exact hmove _ _
      · exact hmove _ _
      · exact hmove _ _
      · exact hmove _ _
      · exact hmove _ _
      · exact hmove _ _
      · exact hmove _ _
      · exact hmove _ _
      · exact hmove _ _
      · exact hmove _ _
      all_goals exact Nat.le_refl _
  | abort i =>
      simp only [step, abort]
      split
      · split
        · exact hmove _ _
        · exact hmove _ _
        · exact hmove _ _
        · exact hmove _ _
        · exact hmove _ _
        · exact Nat.le_refl _
      · exact Nat.le_refl _
  | shutdown | unwound | closed =>
      simp only [step]
      split
      · exact Nat.le_refl _
      · exact Nat.le_refl _
  | fail _ | call _ => exact Nat.le_refl _

theorem run_consistent {es : List StreamerEvent} : ∀ {s : StreamServer}, s.Consistent →
    (run step s es).sessions.length < 2 ^ 64 → (run step s es).Consistent := by
  induction es with
  | nil => exact fun h _ => h
  | cons e es ih =>
      intro s h hbound
      have hgrows : (s.step e).sessions.length ≤ (run step (s.step e) es).sessions.length :=
        run_preserves (fun t => (s.step e).sessions.length ≤ t.sessions.length)
          (fun t e hle => Nat.le_trans hle (length_step t e)) (Nat.le_refl _) es
      have hfirst := Nat.le_trans (length_step s e) hgrows
      exact ih (step_consistent h (Nat.lt_of_le_of_lt hfirst hbound)) hbound

/-- Nobody is served: no receiver is listed, the hub holds no capture, and every capture that
a receiver has subscribed to was told to stop. -/
structure Silent (s : StreamServer) : Prop where
  receivers : s.registry.receivers.keys = []
  capture : s.hub.hub.capture = none
  stopped : ∀ receiver ∈ s.hub.receivers, receiver.capture ∈ s.hub.cancelled

/-- What the window and the phones may rely on.  Every listed receiver has exactly one
session, all their sessions listen to the capture that the hub holds, and nobody but its own
thread has told that capture to stop; a server that accepts receivers and whose sessions have
all ended is silent, and so is one that has returned.  Between the two, when sessions were
aborted, the hub may still hold the capture. -/
structure Orderly (s : StreamServer) : Prop where
  listed : ∀ id, s.sessions.countP (serves id) = if id ∈ s.registry.receivers.keys then 1 else 0
  shared : s.registry.receivers.keys ≠ [] → ∃ capture, s.hub.hub.capture = some capture ∧
    capture ∉ s.hub.leaving ∧ (capture ∈ s.hub.cancelled ↔ capture ∈ s.hub.failed) ∧
    ∀ phase ∈ s.sessions, phase.id ≠ none → phase.capture = some capture
  idle : s.phase = .accepting → (∀ phase ∈ s.sessions, phase.finished = true) → s.Silent
  returned : s.phase = .returned → s.Silent

theorem keys_eq_nil_of_finished {s : StreamServer} (h : s.Consistent)
    (hall : ∀ phase ∈ s.sessions, phase.finished = true) : s.registry.receivers.keys = [] := by
  refine List.eq_nil_iff_forall_not_mem.mpr fun id hmem => ?_
  have hcount := h.registry.listed id
  rw [if_pos hmem, countP_eq_zero_of_finished hall] at hcount
  · cases hcount
  · intro phase hfinished
    cases phase <;> first | rfl | cases hfinished

theorem silent_of_idle {s : StreamServer} (h : s.Consistent) (haccepting : s.phase = .accepting)
    (hall : ∀ phase ∈ s.sessions, phase.finished = true) : s.Silent := by
  have hattached := h.hub fun heq => by
    rw [haccepting] at heq
    cases heq
  have hcounted : s.hub.outstanding = 0 := by
    rw [hattached.counted]
    refine List.countP_eq_zero.mpr fun phase hmem hcounted => ?_
    have hfinished := hall phase hmem
    cases phase with
    | aborted => exact h.kept haccepting hmem
    | ended => cases hcounted
    | connecting | handshaking | subscribing | registering _ | serving _ _ | draining _ _
    | dropping _ _ | leaving _ | stopping _ | joining => cases hfinished
  have hnone : s.hub.hub.capture = none := by
    rw [← Option.not_isSome_iff_eq_none, hattached.ok.held, hcounted]
    exact Nat.lt_irrefl 0
  refine ⟨keys_eq_nil_of_finished h hall, hnone, fun receiver hmem => ?_⟩
  rcases hattached.handed receiver hmem with hheld | hleaving | hcancelled
  · rw [hnone] at hheld
    cases hheld
  · rw [hattached.leaving_eq_nil hall] at hleaving
    cases hleaving
  · exact hcancelled

theorem shared_of_listed {s : StreamServer} (h : s.Consistent)
    (hsome : s.registry.receivers.keys ≠ []) :
    ∃ capture, s.hub.hub.capture = some capture ∧ capture ∉ s.hub.leaving ∧
      (capture ∈ s.hub.cancelled ↔ capture ∈ s.hub.failed) ∧
      ∀ phase ∈ s.sessions, phase.id ≠ none → phase.capture = some capture := by
  obtain ⟨id, hid⟩ := List.exists_mem_of_ne_nil _ hsome
  have hcount := h.registry.listed id
  rw [if_pos hid] at hcount
  obtain ⟨phase, hmem, hserves⟩ :=
    List.countP_pos_iff.mp (Nat.lt_of_lt_of_eq Nat.one_pos hcount.symm)
  obtain ⟨capture, hcapture⟩ := capture_of_id (of_decide_eq_true hserves)
  have hattached := h.hub fun hreturned => by
    have hfinished := h.finished (Or.inr hreturned) phase hmem
    cases phase with
    | ended | aborted => cases hcapture
    | connecting | handshaking | subscribing | registering _ | serving _ _ | draining _ _
    | dropping _ _ | leaving _ | stopping _ | joining => cases hfinished
  have hheld := hattached.attached phase hmem capture hcapture
  obtain ⟨_, hleaving, hstopped⟩ := hattached.ok.capture capture hheld
  refine ⟨capture, hheld, hleaving, hstopped, fun other hother hnot => ?_⟩
  obtain ⟨id', hid'⟩ := Option.ne_none_iff_exists'.mp hnot
  obtain ⟨capture', hcapture'⟩ := capture_of_id hid'
  have hsame := hattached.attached other hother capture' hcapture'
  rw [hheld] at hsame
  rw [hcapture', Option.some.inj hsame]

/-- **One capture for all receivers.**  Whatever the sessions, the capture threads and the
callers of the registry do, and whenever the server is stopped, as long as fewer than 2^64
connections have been accepted. -/
theorem receivers_share_the_capture {es : List StreamerEvent}
    (hbound : (run step start es).sessions.length < 2 ^ 64) : (run step start es).Orderly :=
  have h := run_consistent start_consistent hbound
  { listed := h.registry.listed
    shared := shared_of_listed h
    idle := silent_of_idle h
    returned := fun hreturned =>
      have hall := h.finished (Or.inr hreturned)
      have hstopped := h.stopped hreturned
      ⟨keys_eq_nil_of_finished h hall, hstopped.1, hstopped.2⟩ }

/-- Two receivers, of which the first leaves, before the server is stopped. -/
def twoReceivers : List StreamerEvent :=
  let step (i : Nat) : StreamerEvent := .session i { succeeds := true, start := .started false }
  [.accept, step 0, step 0, step 0, step 0, .accept, step 1, step 1, step 1, step 1,
    .call .denyAll, step 0, step 0, step 0, step 0, .shutdown, .abort 1, .unwound, .closed]

theorem receivers_share_the_capture_twoReceivers :
    (run step start twoReceivers).Silent ∧
      (run step start (twoReceivers.take 15)).Orderly ∧
      (run step start (twoReceivers.take 15)).registry.receivers.keys = [1] :=
  ⟨(receivers_share_the_capture (by decide)).returned rfl, receivers_share_the_capture (by decide),
    by decide⟩

end Runs

end StreamServer

end Soundwave

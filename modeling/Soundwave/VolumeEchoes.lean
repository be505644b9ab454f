import Soundwave.DeviceWords
import Soundwave.HonestPhone
import Soundwave.PhoneLink
import Soundwave.ProfileFormat

/-!
# Echoes of the server's own commands

The environment in which every receiver is an honest `DeviceVolumeControl` at the other
end of two FIFO channels.  Its commands are the ones that the registry queued, as
`client.rs` packs them, and its reports arrive one after the other.  Nobody touches the
volume keys, so a volume that `update_device` takes for physical input is an echo.

`update_device` knows the volumes that it has asked for, but not the volume that a phone
restores when it ends a calibration: by `CalibrationSession::Cancel`, with a request id or
broadcast by `close`, after six seconds, or on its own account.  Neither does it know the
volume of an answer to a request that it has forgotten, for it keeps 32.  A phone where one
of these has happened is `strayed`; ghost state of the environment, as is the list of
`echoes`, which are the volumes of strayed phones that were taken for physical input.

The result is that there are no other echoes: every volume that a tick takes over is one
of these.  `original_volume_is_taken_over` is a run in which that happens.
-/

namespace Soundwave

section Commands

/-- The call of `enqueue_operation` for a message of the server. -/
def ControlMessage.accepted : ControlMessage → Option AcceptedCommand
  | .queryDevice request =>
      some { time := 0, requestId := UInt32.ofNat request, operation := 1, value := 0 }
  | .setVolume request index purpose =>
      some
        { time := 0
          requestId := UInt32.ofNat request
          operation :=
            match purpose with
            | .user => 2
            | .calibration => 6
            | .restoreSpeaker => 7
          value := UInt16.ofNat index }
  | .calibrationSession request .begin =>
      some { time := 0, requestId := UInt32.ofNat request, operation := 3, value := 0 }
  | .calibrationSession request .cancel =>
      some { time := 0, requestId := UInt32.ofNat request, operation := 4, value := 0 }
  | .calibrationSession request (.commit index) =>
      some
        { time := 0
          requestId := UInt32.ofNat request
          operation := 5
          value := UInt16.ofNat index }
  | _ => none

/-- What `take_command` returns of it.  All commands but 4 expire if they are taken `late`. -/
def AcceptedCommand.taken (c : AcceptedCommand) (late : Bool) : UInt64 :=
  if late && c.operation ≠ 4 then
    (c.word &&& (~~~(0 : UInt64) <<< 24)) ||| ((8 : UInt64) <<< 16)
  else
    c.word

end Commands

/-- A status that a phone has sent, and whether it answers a volume command. -/
structure Sent where
  status : DeviceStatus
  setsVolume : Bool
deriving DecidableEq

/-- A phone at the other end of its connection: how many of the receiver's commands it has
taken, what it has sent, and whether its volume changed behind the registry's back. -/
structure Handset where
  phone : DeviceVolumeControl
  taken : Nat
  inFlight : List Sent
  strayed : Bool

namespace Handset

/-- An event of the phone; what it reports is sent. -/
def act (h : Handset) (e : DeviceVolumeControl.VolumeEvent) : Handset :=
  let phone := h.phone.step e
  { h with
      phone := { phone with reports := [] }
      inFlight := h.inFlight ++
        phone.reports.map (fun status => { status := status, setsVolume := e.setsVolume })
      strayed := h.strayed || h.phone.restoresChange e }

/-- The phone takes a command. -/
def take (h : Handset) (command : ControlMessage) (late : Bool) : Handset :=
  let h := { h with taken := h.taken + 1 }
  match command.accepted with
  | some c => h.act (.command (c.taken late))
  | none => h

end Handset

namespace Receiver

/-- `update_device` knows a status as the answer to a volume request. -/
def remembers (receiver : Receiver) (status : DeviceStatus) : Bool :=
  status.requestId ≠ 0 && receiver.volumeRequests.contains status.requestId

/-- `update_device` takes the volume of a status for physical input. -/
def takesForInput (receiver : Receiver) (status : DeviceStatus) : Bool :=
  status.consistent && receiver.device.any (fun old => old.sameDevice status.sanitized) &&
    status.requestId = 0 && status.healthy && receiver.panelBarrier.isNone &&
    receiver.observedVolume.any (· ≠ status.volume)

end Receiver

/-- The first status on its way arrives. -/
def Handset.arrive (h : Handset) (receiver : Receiver) (sent : Sent) (rest : List Sent) :
    Handset :=
  { h with
      inFlight := rest
      strayed := h.strayed || (sent.setsVolume && !receiver.remembers sent.status) }

/-- All phones, and the echoes so far: receivers and volumes. -/
structure Handsets where
  handsets : SortedMap Nat Handset
  echoes : List (Nat × Nat)

/-- What can happen outside the controller.  `watchdog`, `routeChanged` and `cancel` are
the phone's own calls; `cancel` is the one of `cancelCalibration` in `AudioService`. -/
inductive HandsetEvent where
  | connect (phone : DeviceVolumeControl)
  | disconnect (id : Nat)
  | take (id : Nat) (late : Bool)
  | watchdog (id : Nat)
  | routeChanged (id : Nat)
  | cancel (id : Nat)
  | wait (id milliseconds : Nat)
  | deliver (id : Nat)
  | internal (e : RegistryEvent)

namespace Handsets

/-- An event of one phone. -/
def act (k : Handsets) (id : Nat) (e : DeviceVolumeControl.VolumeEvent) : Handsets :=
  { k with handsets := k.handsets.modify id (fun h => h.act e) }

/-- The next status of a phone arrives. -/
def arrive (s : Registry × Handsets) (id : Nat) (receiver : Receiver) (h : Handset) (sent : Sent)
    (rest : List Sent) : Registry × Handsets :=
  let h := h.arrive receiver sent rest
  (s.1.updateDevice id sent.status,
    { handsets := s.2.handsets.insert id h
      echoes :=
        if h.strayed && receiver.takesForInput sent.status then
          s.2.echoes ++ [(id, sent.status.volume)]
        else
          s.2.echoes })

/-- The effect of an event. -/
def react (s : Registry × Handsets) : HandsetEvent → Registry × Handsets
  | .connect phone =>
      if phone.Honest ∧ phone.Ranged then
        (s.1.register,
          { s.2 with
              handsets := s.2.handsets.insert s.1.nextId
                { phone := { phone with reports := [] }
                  taken := 0
                  inFlight := []
                  strayed := false } })
      else
        s
  | .disconnect id => (s.1.remove id, { s.2 with handsets := s.2.handsets.erase id })
  | .take id late =>
      match s.1.receivers.get? id, s.2.handsets.get? id with
      | some receiver, some h =>
          match receiver.controls.drop h.taken with
          | command :: _ =>
              (s.1, { s.2 with handsets := s.2.handsets.insert id (h.take command late) })
          | [] => s
      | _, _ => s
  | .watchdog id => (s.1, s.2.act id .watchdog)
  | .routeChanged id => (s.1, s.2.act id .routeChanged)
  | .cancel id => (s.1, s.2.act id .cancel)
  | .wait id milliseconds => (s.1, s.2.act id (.wait milliseconds))
  | .deliver id =>
      match s.1.receivers.get? id, s.2.handsets.get? id with
      | some receiver, some h =>
          match h.inFlight with
          | sent :: rest => arrive s id receiver h sent rest
          | [] => s
      | _, _ => s
  | .internal e => if e.internal then (s.1.react e, s.2) else s

/-- No phone yet. -/
def start : Handsets where
  handsets := .empty
  echoes := []

end Handsets

section Volumes

/-- The statuses on their way say, one after the other, the volume that was `known`, until
an answer to a volume command says another one; the last one is the volume of the phone. -/
def Follows : Option Nat → List Sent → Nat → Prop
  | known, [], volume => ∀ v ∈ known, v = volume
  | known, sent :: rest, volume =>
      ((∀ v ∈ known, v = sent.status.volume) ∨
          (sent.setsVolume = true ∧ sent.status.failed = false)) ∧
        Follows (some sent.status.volume) rest volume

/-- A registry that knows no volume yet accepts every first one. -/
theorem Follows.of_some {v volume : Nat} {l : List Sent} (h : Follows (some v) l volume) :
    Follows none l volume := by
  cases l with
  | nil =>
      intro v hv
      cases hv
  | cons sent rest =>
      refine ⟨Or.inl ?_, h.2⟩
      intro v hv
      cases hv

theorem Follows.append {known : Option Nat} {l m : List Sent} {v volume : Nat}
    (h : Follows known l v) (h' : Follows (some v) m volume) : Follows known (l ++ m) volume := by
  induction l generalizing known with
  | nil =>
      cases known with
      | none =>
          exact h'.of_some
      | some k =>
          rw [h k rfl]
          exact h'
  | cons sent rest ih =>
      exact ⟨h.1, ih h.2⟩

theorem follows_same {volume : Nat} {l : List Sent}
    (h : ∀ sent ∈ l, sent.status.volume = volume) : Follows (some volume) l volume := by
  induction l with
  | nil =>
      intro v hv
      exact (Option.some.inj hv).symm
  | cons sent rest ih =>
      have hsent := h sent List.mem_cons_self
      refine ⟨Or.inl ?_, ?_⟩
      · intro v hv
        rw [hsent]
        exact (Option.some.inj hv).symm
      · rw [hsent]
        exact ih (fun s hs => h s (List.mem_cons_of_mem _ hs))

/-- After the first status the registry knows its volume, or that of before, if it is the
same. -/
theorem Follows.arrived {known known' : Option Nat} {sent : Sent} {rest : List Sent}
    {volume : Nat} (h : Follows known (sent :: rest) volume)
    (hknown : known' = some sent.status.volume ∨
      (known' = known ∧ ∀ v ∈ known, v = sent.status.volume)) :
    Follows known' rest volume := by
  rcases hknown with rfl | ⟨rfl, hsame⟩
  · exact h.2
  · cases known' with
    | none =>
        exact h.2.of_some
    | some v =>
        rw [hsame v rfl]
        exact h.2

end Volumes

section Receivers

namespace Receiver

theorem takesForInput_of_unsolicited {receiver : Receiver} {status : DeviceStatus} {v : Nat}
    (h : (receiver.updated status).unsolicitedVolume = some v) :
    receiver.unsolicitedVolume = some v ∨
      (receiver.takesForInput status = true ∧ status.volume = v) := by
  rw [updated] at h
  split_ifs at h with hconsistent
  · simp only [store, observe] at h
    split_ifs at h with hother hnotice hnew
    · refine Or.inr ⟨?_, Option.some.inj h⟩
      obtain ⟨known, hknown, hdiffers⟩ := hnew.2
      have hdevice : receiver.device.any (fun old => old.sameDevice status.sanitized) = true := by
        cases hold : receiver.device with
        | none =>
            rw [hold] at hother
            exact absurd rfl hother
        | some old =>
            rw [hold] at hother
            simpa using hother
      have hobserved : receiver.observedVolume.any (· ≠ status.volume) = true := by
        rw [Option.mem_def.mp hknown]
        exact decide_eq_true hdiffers
      have hid : status.requestId = 0 := hnotice.1
      have hhealthy : status.healthy = true := hnotice.2
      rw [takesForInput, hconsistent, hdevice, hid, hhealthy, hnew.1, hobserved]
      rfl
    · exact Or.inl h
    · exact Or.inl h
    · exact Or.inl h
  · exact Or.inl h

theorem takesForInput_differs {receiver : Receiver} {status : DeviceStatus}
    (h : receiver.takesForInput status = true) :
    status.requestId = 0 ∧ ∃ known ∈ receiver.observedVolume, known ≠ status.volume := by
  simp only [takesForInput, Bool.and_eq_true] at h
  obtain ⟨⟨⟨⟨_, hzero⟩, _⟩, _⟩, hobserved⟩ := h
  refine ⟨of_decide_eq_true hzero, ?_⟩
  cases hknown : receiver.observedVolume with
  | none =>
      rw [hknown] at hobserved
      cases hobserved
  | some known =>
      rw [hknown] at hobserved
      exact ⟨known, rfl, of_decide_eq_true hobserved⟩

/-- The registry knows the volume of a status afterwards, or what it knew before; of an
answer to a request that it remembers it knows it, if the request did not fail. -/
theorem observedVolume_updated (receiver : Receiver) {status : DeviceStatus}
    (hconsistent : status.consistent = true) :
    (receiver.updated status).observedVolume = some status.volume ∨
      ((receiver.updated status).observedVolume = receiver.observedVolume ∧
        ¬ (receiver.remembers status = true ∧ status.failed = false)) := by
  rw [updated, if_pos hconsistent]
  simp only [store, observe]
  split_ifs with hother hnotice hnew hanswer
  · exact Or.inl rfl
  · exact Or.inl rfl
  · exact Or.inl rfl
  · exact Or.inl rfl
  · refine Or.inr ⟨rfl, ?_⟩
    rintro ⟨hremembers, hfailed⟩
    rw [remembers, Bool.and_eq_true] at hremembers
    exact hanswer ⟨hremembers.2, Or.inl hfailed⟩

end Receiver

end Receivers

section Invariant

/-- The registry and a phone agree on the volume, or the phone has strayed. -/
structure InTune (echoes : List (Nat × Nat)) (id : Nat) (receiver : Receiver) (h : Handset) :
    Prop where
  honest : h.phone.Honest
  ranged : h.phone.Ranged
  silent : h.phone.reports = []
  told : ∀ v, receiver.unsolicitedVolume = some v → (id, v) ∈ echoes
  known : (receiver.device = none ∧ receiver.observedVolume = none) ∨ h.phone.maximumVolume ≤ 512
  sent : ∀ sent ∈ h.inFlight, ∃ volume, h.phone.Describes volume sent.status ∧
    h.phone.lowest ≤ volume ∧ volume ≤ h.phone.maximumVolume
  chain : h.strayed = false → Follows receiver.observedVolume h.inFlight h.phone.volume

namespace InTune

variable {echoes echoes' : List (Nat × Nat)} {id : Nat} {receiver receiver' : Receiver}
variable {h : Handset}

theorem mono (htune : InTune echoes id receiver h) (hechoes : echoes ⊆ echoes') :
    InTune echoes' id receiver h :=
  { htune with told := fun v hv => hechoes (htune.told v hv) }

/-- A new connection of an honest phone. -/
theorem fresh {phone : DeviceVolumeControl} (hhonest : phone.Honest) (hranged : phone.Ranged) :
    InTune echoes id .fresh
      { phone := { phone with reports := [] }
        taken := 0
        inFlight := []
        strayed := false } where
  honest := ⟨hhonest.script, hhonest.speaker, hhonest.connected⟩
  ranged := ⟨hranged.volume, hranged.original⟩
  silent := rfl
  told := fun v hv => by cases hv
  known := Or.inl ⟨rfl, rfl⟩
  sent := fun sent hsent => by cases hsent
  chain := fun _ v hv => by cases hv

/-- An event of the phone. -/
theorem act (htune : InTune echoes id receiver h) {e : DeviceVolumeControl.VolumeEvent}
    (he : e.own = true) : InTune echoes id receiver (h.act e) := by
  have hacts := htune.honest.step_acts htune.ranged he
  obtain ⟨said, hsaid, hall, hvolume⟩ := hacts.told
  rw [htune.silent, List.nil_append] at hsaid
  have hstatus : ∀ status ∈ said, status.volume = (h.phone.step e).volume := by
    intro status hmem
    obtain ⟨_, _, rfl⟩ := hall status hmem
    rfl
  refine ⟨⟨hacts.honest.script, hacts.honest.speaker, hacts.honest.connected⟩,
    ⟨hacts.ranged.volume, hacts.ranged.original⟩, rfl, htune.told, ?_, ?_, ?_⟩
  · rcases htune.known with hnone | hmaximum
    · exact Or.inl hnone
    · exact Or.inr (hacts.maximumVolume.trans_le hmaximum)
  · intro sent hsent
    rcases List.mem_append.mp hsent with hsent | hsent
    · obtain ⟨volume, ⟨request, failed, hdescribes⟩, hlow, hhigh⟩ := htune.sent sent hsent
      refine ⟨volume, ⟨request, failed, ?_⟩, hacts.lowest.trans_le hlow,
        hhigh.trans_eq hacts.maximumVolume.symm⟩
      rw [hdescribes, ← hacts.statusOf]
      rfl
    · obtain ⟨status, hmem, rfl⟩ := List.mem_map.mp hsent
      rw [hsaid] at hmem
      obtain ⟨request, failed, hdescribes⟩ := hall status hmem
      exact ⟨_, ⟨request, failed, hdescribes⟩, hacts.ranged.volume⟩
  · intro hstrayed
    obtain ⟨hold, hrestores⟩ := Bool.or_eq_false_iff.mp hstrayed
    refine (htune.chain hold).append ?_
    rw [hsaid]
    rcases hvolume with hsame | hrestored | ⟨hsets, request, rfl⟩
    · show Follows (some h.phone.volume) _ (h.phone.step e).volume
      rw [← hsame]
      apply follows_same
      intro sent hsent
      obtain ⟨status, hmem, rfl⟩ := List.mem_map.mp hsent
      exact hstatus status hmem
    · rw [hrestores] at hrestored
      cases hrestored
    · refine ⟨Or.inr ⟨hsets, rfl⟩, ?_⟩
      intro v hv
      exact (Option.some.inj hv).symm

/-- The phone takes a command. -/
theorem take (htune : InTune echoes id receiver h) (command : ControlMessage) (late : Bool) :
    InTune echoes id receiver (h.take command late) := by
  have hcounted : InTune echoes id receiver { h with taken := h.taken + 1 } :=
    ⟨htune.honest, htune.ranged, htune.silent, htune.told, htune.known, htune.sent, htune.chain⟩
  rw [Handset.take]
  cases command.accepted with
  | none =>
      exact hcounted
  | some c =>
      exact hcounted.act rfl

/-- A status of a phone in its range passes the range check, if the range does. -/
theorem consistent (htune : InTune echoes id receiver h) {sent : Sent}
    (hsent : sent ∈ h.inFlight) (hmaximum : h.phone.maximumVolume ≤ 512) :
    sent.status.consistent = true := by
  obtain ⟨volume, ⟨_, _, hdescribes⟩, hlow, hhigh⟩ := htune.sent sent hsent
  rw [hdescribes, DeviceStatus.consistent]
  simp only [Bool.and_eq_true]
  exact ⟨⟨⟨decide_eq_true (hlow.trans hhigh), decide_eq_true hhigh⟩, decide_eq_true hlow⟩,
    decide_eq_true hmaximum⟩

/-- The next status arrives.  Of a phone that has not strayed it says the volume that the
registry knows, or the one that the registry has asked for. -/
theorem deliver (htune : InTune echoes id receiver h) {sent : Sent} {rest : List Sent}
    (hflight : h.inFlight = sent :: rest) :
    InTune
      (if (h.arrive receiver sent rest).strayed && receiver.takesForInput sent.status then
        echoes ++ [(id, sent.status.volume)] else echoes)
      id (receiver.updated sent.status) (h.arrive receiver sent rest) := by
  have hmem : sent ∈ h.inFlight := by
    rw [hflight]
    exact List.mem_cons_self
  have hrest : ∀ s ∈ rest, s ∈ h.inFlight := by
    intro s hs
    rw [hflight]
    exact List.mem_cons_of_mem _ hs
  have hchain : h.strayed = false →
      Follows receiver.observedVolume (sent :: rest) h.phone.volume := by
    intro hold
    rw [← hflight]
    exact htune.chain hold
  refine ⟨htune.honest, htune.ranged, htune.silent, ?_, ?_, fun s hs => htune.sent s (hrest s hs),
    ?_⟩
  · intro v hv
    rcases Receiver.takesForInput_of_unsolicited hv with hold | ⟨htakes, hvolume⟩
    · have hmono := htune.told v hold
      split_ifs
      · exact List.mem_append_left _ hmono
      · exact hmono
    · have hstrayed : (h.arrive receiver sent rest).strayed = true := by
        rw [← Bool.not_eq_false, Handset.arrive, Bool.or_eq_false_iff]
        rintro ⟨hold, hforgotten⟩
        obtain ⟨hzero, known, hknown, hdiffers⟩ := Receiver.takesForInput_differs htakes
        rcases (hchain hold).1 with hsame | ⟨hsets, _⟩
        · exact hdiffers (hsame known hknown)
        · rw [hsets, Receiver.remembers, hzero] at hforgotten
          cases hforgotten
      rw [hstrayed, htakes, hvolume]
      exact List.mem_append_right _ (List.mem_singleton_self _)
  · cases hconsistent : sent.status.consistent with
    | true =>
        refine Or.inr ?_
        obtain ⟨_, ⟨_, _, hdescribes⟩, _⟩ := htune.sent sent hmem
        rw [hdescribes, DeviceStatus.consistent, Bool.and_eq_true] at hconsistent
        exact of_decide_eq_true hconsistent.2
    | false =>
        have hsame : receiver.updated sent.status = receiver := by
          rw [Receiver.updated, hconsistent]
          rfl
        rw [hsame]
        exact htune.known
  · intro hnew
    obtain ⟨hold, hforgotten⟩ := Bool.or_eq_false_iff.mp hnew
    apply (hchain hold).arrived
    cases hconsistent : sent.status.consistent with
    | true =>
        rcases receiver.observedVolume_updated hconsistent with hknown | ⟨hsame, hother⟩
        · exact Or.inl hknown
        · refine Or.inr ⟨hsame, ?_⟩
          rcases (hchain hold).1 with hvolume | ⟨hsets, hfailed⟩
          · exact hvolume
          · rw [hsets, Bool.true_and, Bool.not_eq_false'] at hforgotten
            exact absurd ⟨hforgotten, hfailed⟩ hother
    | false =>
        -- the range of the phone is refused, so the registry does not know it at all
        have hsame : receiver.updated sent.status = receiver := by
          rw [Receiver.updated, hconsistent]
          rfl
        refine Or.inr ⟨by rw [hsame], ?_⟩
        rcases htune.known with ⟨_, hnone⟩ | hmaximum
        · rw [hnone]
          intro v hv
          cases hv
        · rw [htune.consistent hmem hmaximum] at hconsistent
          cases hconsistent

end InTune

/-- The registry knows as much as before of the volume, and waits for no more input. -/
structure Receiver.Hushed (receiver receiver' : Receiver) : Prop where
  device : receiver'.device = receiver.device
  observed : receiver'.observedVolume = receiver.observedVolume
  unsolicited : receiver'.unsolicitedVolume = receiver.unsolicitedVolume ∨
    receiver'.unsolicitedVolume = none

theorem InTune.of_hushed {echoes : List (Nat × Nat)} {id : Nat} {receiver receiver' : Receiver}
    {h : Handset} (htune : InTune echoes id receiver h) (hhushed : receiver.Hushed receiver') :
    InTune echoes id receiver' h := by
  refine ⟨htune.honest, htune.ranged, htune.silent, ?_, ?_, htune.sent, ?_⟩
  · intro v hv
    rcases hhushed.unsolicited with hsame | hnone
    · rw [hsame] at hv
      exact htune.told v hv
    · rw [hnone] at hv
      cases hv
  · rw [hhushed.device, hhushed.observed]
    exact htune.known
  · rw [hhushed.observed]
    exact htune.chain

namespace Registry

/-- The receivers of `r'` are receivers of `r`, and hushed. -/
def Hushed (r r' : Registry) : Prop :=
  ∀ id receiver', r'.receivers.get? id = some receiver' →
    ∃ receiver, r.receivers.get? id = some receiver ∧ receiver.Hushed receiver'

theorem hushed_of_receivers_eq {r r' : Registry} (h : r'.receivers = r.receivers) :
    r.Hushed r' := by
  intro id receiver hget
  rw [h] at hget
  exact ⟨receiver, hget, rfl, rfl, Or.inl rfl⟩

theorem hushed_modify (r : Registry) (id : Nat) (f : Receiver → Receiver) (issued : Nat)
    (hf : ∀ receiver : Receiver, receiver.Hushed (f receiver)) :
    r.Hushed { r with receivers := r.receivers.modify id f, issued := issued } := by
  intro id' receiver' hget
  rw [SortedMap.get?_modify] at hget
  split_ifs at hget
  · obtain ⟨receiver, hreceiver, rfl⟩ := Option.map_eq_some_iff.mp hget
    exact ⟨receiver, hreceiver, hf receiver⟩
  · exact ⟨receiver', hget, rfl, rfl, Or.inl rfl⟩

theorem hushed_mapValues (r : Registry) (f : Nat → Receiver → Receiver)
    (hf : ∀ id (receiver : Receiver), receiver.Hushed (f id receiver)) :
    r.Hushed { r with receivers := r.receivers.mapValues f } := by
  intro id receiver' hget
  rw [SortedMap.get?_mapValues] at hget
  obtain ⟨receiver, hreceiver, rfl⟩ := Option.map_eq_some_iff.mp hget
  exact ⟨receiver, hreceiver, hf id receiver⟩

theorem hushed_plainRequest (r : Registry) (refusal : Nat → Option String) (id : Nat)
    (message : Nat → ControlMessage) : r.Hushed (r.plainRequest refusal id message).2 := by
  rcases r.plainRequest_cases refusal id message with ⟨e, heq⟩ | heq
  · rw [heq]
    exact hushed_of_receivers_eq rfl
  · rw [heq]
    exact r.hushed_modify id _ _ (fun _ => ⟨rfl, rfl, Or.inl rfl⟩)

theorem hushed_volumeRequestWithBarrier (r : Registry) (refusal : Nat → Option String)
    (id index : Nat) (purpose : VolumePurpose) (barrier : Bool) :
    r.Hushed (r.volumeRequestWithBarrier refusal id index purpose barrier).2 := by
  rcases r.volumeRequestWithBarrier_cases refusal id index purpose barrier with ⟨e, heq⟩ | heq
  · rw [heq]
    exact hushed_of_receivers_eq rfl
  · rw [heq]
    refine r.hushed_modify id _ _ (fun receiver => ⟨rfl, rfl, ?_⟩)
    cases barrier with
    | true => exact Or.inr rfl
    | false => exact Or.inl rfl

theorem hushed_broadcast (r : Registry) (refusal : Nat → Option String)
    (message : ControlMessage) : r.Hushed (r.broadcast refusal message) := by
  apply hushed_mapValues
  intro id receiver
  split_ifs
  · exact ⟨rfl, rfl, Or.inl rfl⟩
  · exact ⟨rfl, rfl, Or.inl rfl⟩

/-- Calls that do not come from a connection. -/
theorem hushed_internal (r : Registry) {e : RegistryEvent} (he : e.internal = true) :
    r.Hushed (r.react e) := by
  cases e with
  | register => cases he
  | remove id => cases he
  | updateDevice id status => cases he
  | updateTone id request playing failed =>
      rw [react, updateTone]
      split_ifs
      · exact hushed_of_receivers_eq rfl
      · exact r.hushed_modify id _ _ (fun _ => ⟨rfl, rfl, Or.inl rfl⟩)
  | query id refusal => exact r.hushed_plainRequest refusal id _
  | requestVolume id index purpose refusal =>
      exact r.hushed_volumeRequestWithBarrier refusal id index purpose false
  | requestCalibration id action refusal => exact r.hushed_plainRequest refusal id _
  | requestTone id enabled refusal => exact r.hushed_plainRequest refusal id _
  | broadcast message refusal => exact r.hushed_broadcast refusal message
  | takeReply id request => exact r.hushed_modify id _ _ (fun _ => ⟨rfl, rfl, Or.inl rfl⟩)
  | takeToneReply id request => exact r.hushed_modify id _ _ (fun _ => ⟨rfl, rfl, Or.inl rfl⟩)

end Registry

/-- Every receiver is in tune with its phone, and only echoes were taken over. -/
structure Attuned (r : Registry) (k : Handsets) (i : List Incident) : Prop where
  adopted : ∀ id volume queued, .adopted id volume queued ∈ i → (id, volume) ∈ k.echoes
  tuned : ∀ id receiver, r.receivers.get? id = some receiver →
    ∃ h, k.handsets.get? id = some h ∧ InTune k.echoes id receiver h

namespace Attuned

variable {r r' : Registry} {k k' : Handsets} {i i' : List Incident}

theorem hushed (h : Attuned r k i) (hr : r.Hushed r') : Attuned r' k i := by
  refine ⟨h.adopted, ?_⟩
  intro id receiver' hreceiver'
  obtain ⟨receiver, hreceiver, hhushed⟩ := hr id receiver' hreceiver'
  obtain ⟨handset, hhandset, htune⟩ := h.tuned id receiver hreceiver
  exact ⟨handset, hhandset, htune.of_hushed hhushed⟩

/-- An incident other than that of taking over a volume. -/
theorem noted (h : Attuned r k i) {incident : Incident}
    (hother : ∀ id volume queued, Incident.adopted id volume queued ≠ incident) :
    Attuned r k (i ++ [incident]) := by
  refine ⟨?_, h.tuned⟩
  intro id volume queued hmem
  rcases List.mem_append.mp hmem with hmem | hmem
  · exact h.adopted id volume queued hmem
  · exact absurd (List.mem_singleton.mp hmem) (hother id volume queued)

/-- One connection changes. -/
theorem relink (h : Attuned r k i) (hechoes : k.echoes ⊆ k'.echoes) (id : Nat)
    (hreceivers : ∀ id', id' ≠ id → r'.receivers.get? id' = r.receivers.get? id')
    (hhandsets : ∀ id', id' ≠ id → k'.handsets.get? id' = k.handsets.get? id')
    (htuned : ∀ receiver', r'.receivers.get? id = some receiver' →
      ∃ handset', k'.handsets.get? id = some handset' ∧
        InTune k'.echoes id receiver' handset') :
    Attuned r' k' i := by
  refine ⟨fun id' volume queued hmem => hechoes (h.adopted id' volume queued hmem), ?_⟩
  intro id' receiver' hreceiver'
  by_cases hid : id' = id
  · subst hid
    exact htuned receiver' hreceiver'
  · rw [hreceivers id' hid] at hreceiver'
    obtain ⟨handset, hhandset, htune⟩ := h.tuned id' receiver' hreceiver'
    exact ⟨handset, (hhandsets id' hid).trans hhandset, htune.mono hechoes⟩

theorem connect (h : Attuned r k i) {phone : DeviceVolumeControl} (hhonest : phone.Honest)
    (hranged : phone.Ranged) :
    Attuned r.register
      { k with
          handsets := k.handsets.insert r.nextId
            { phone := { phone with reports := [] }
              taken := 0
              inFlight := []
              strayed := false } } i := by
  refine h.relink (List.Subset.refl _) r.nextId
    (fun id' hid => SortedMap.get?_insert_ne _ _ hid)
    (fun id' hid => SortedMap.get?_insert_ne _ _ hid) ?_
  intro receiver' hreceiver'
  rw [Registry.register, SortedMap.get?_insert_self] at hreceiver'
  cases hreceiver'
  exact ⟨_, SortedMap.get?_insert_self _ _ _, .fresh hhonest hranged⟩

theorem disconnect (h : Attuned r k i) (id : Nat) :
    Attuned (r.remove id) { k with handsets := k.handsets.erase id } i := by
  have hdenied : Attuned r.denyAll k i :=
    h.hushed (r.hushed_mapValues _ (fun _ _ => ⟨rfl, rfl, Or.inl rfl⟩))
  rw [Registry.remove]
  split_ifs with hcontains
  · refine hdenied.relink (List.Subset.refl _) id ?_ ?_ ?_
    · intro id' hid
      rw [SortedMap.get?_mapValues, SortedMap.get?_erase, if_neg hid, Registry.denyAll,
        SortedMap.get?_mapValues]
    · intro id' hid
      rw [SortedMap.get?_erase, if_neg hid]
    · intro receiver' hreceiver'
      rw [SortedMap.get?_mapValues, SortedMap.get?_erase_self] at hreceiver'
      cases hreceiver'
  · refine h.relink (List.Subset.refl _) id (fun _ _ => rfl) ?_ ?_
    · intro id' hid
      rw [SortedMap.get?_erase, if_neg hid]
    · intro receiver' hreceiver'
      exact absurd ((SortedMap.contains_eq_true_iff _ _).mpr ⟨_, hreceiver'⟩) hcontains

/-- One phone changes, in tune with its receiver. -/
theorem changed (h : Attuned r k i) {id : Nat} {handset : Handset}
    (hhandset : k.handsets.get? id = some handset) (handset' : Handset)
    (hkeeps : ∀ receiver, InTune k.echoes id receiver handset →
      InTune k.echoes id receiver handset') {handsets : SortedMap Nat Handset}
    (hsame : ∀ id', id' ≠ id → handsets.get? id' = k.handsets.get? id')
    (hnew : handsets.get? id = some handset') : Attuned r { k with handsets := handsets } i := by
  refine h.relink (List.Subset.refl _) id (fun _ _ => rfl) hsame ?_
  intro receiver hreceiver
  obtain ⟨old, hold, htune⟩ := h.tuned id receiver hreceiver
  rw [hhandset] at hold
  cases hold
  exact ⟨handset', hnew, hkeeps receiver htune⟩

theorem act (h : Attuned r k i) (id : Nat) {e : DeviceVolumeControl.VolumeEvent}
    (he : e.own = true) : Attuned r (k.act id e) i := by
  cases hhandset : k.handsets.get? id with
  | none =>
      refine h.relink (List.Subset.refl _) id (fun _ _ => rfl) ?_ ?_
      · intro id' hid
        rw [Handsets.act, SortedMap.get?_modify, if_neg hid]
      · intro receiver hreceiver
        obtain ⟨handset, hget, _⟩ := h.tuned id receiver hreceiver
        rw [hhandset] at hget
        cases hget
  | some handset =>
      refine h.changed hhandset (handset.act e) (fun _ htune => htune.act he) ?_ ?_
      · intro id' hid
        rw [SortedMap.get?_modify, if_neg hid]
      · rw [SortedMap.get?_modify, if_pos rfl, hhandset, Option.map_some]

theorem take (h : Attuned r k i) (id : Nat) (late : Bool) :
    Attuned (Handsets.react (r, k) (.take id late)).1 (Handsets.react (r, k) (.take id late)).2
      i := by
  simp only [Handsets.react]
  split
  · rename_i receiver handset hreceiver hhandset
    split
    · rename_i command rest hnext
      exact h.changed hhandset _ (fun _ htune => htune.take command late)
        (fun id' hid => SortedMap.get?_insert_ne _ _ hid) (SortedMap.get?_insert_self _ _ _)
    · exact h
  · exact h

theorem deliver (h : Attuned r k i) (id : Nat) :
    Attuned (Handsets.react (r, k) (.deliver id)).1 (Handsets.react (r, k) (.deliver id)).2
      i := by
  simp only [Handsets.react]
  split
  · rename_i receiver handset hreceiver hhandset
    split
    · rename_i sent rest hflight
      refine h.relink ?_ id ?_ (fun id' hid => SortedMap.get?_insert_ne _ _ hid) ?_
      · simp only [Handsets.arrive]
        split_ifs
        · exact List.subset_append_left _ _
        · exact List.Subset.refl _
      · intro id' hid
        simp only [Handsets.arrive, Registry.get?_updateDevice, if_neg hid]
      · intro receiver' hreceiver'
        simp only [Handsets.arrive, Registry.get?_updateDevice, if_pos, hreceiver,
          Option.map_some] at hreceiver'
        cases hreceiver'
        obtain ⟨old, hold, htune⟩ := h.tuned id receiver hreceiver
        rw [hhandset] at hold
        cases hold
        exact ⟨_, SortedMap.get?_insert_self _ _ _, htune.deliver hflight⟩
    · exact h
  · exact h

theorem react (h : Attuned r k i) (e : HandsetEvent) :
    Attuned (Handsets.react (r, k) e).1 (Handsets.react (r, k) e).2 i := by
  cases e with
  | connect phone =>
      simp only [Handsets.react]
      split_ifs with hphone
      · exact h.connect hphone.1 hphone.2
      · exact h
  | disconnect id => exact h.disconnect id
  | take id late => exact h.take id late
  | watchdog id => exact h.act id rfl
  | routeChanged id => exact h.act id rfl
  | cancel id => exact h.act id rfl
  | wait id milliseconds => exact h.act id rfl
  | deliver id => exact h.deliver id
  | internal e =>
      simp only [Handsets.react]
      split_ifs with he
      · exact h.hushed (r.hushed_internal he)
      · exact h

end Attuned

/-- Every call keeps the invariant. -/
theorem attuned_rules : World.TickRules Handsets.react Attuned where
  environment := fun _ _ _ e h => h.react e
  denyAll := fun r _ _ h => h.hushed (r.hushed_mapValues _ (fun _ _ => ⟨rfl, rfl, Or.inl rfl⟩))
  silence := fun r _ _ refusal h => h.hushed (r.hushed_broadcast refusal _)
  cancel := fun r _ _ refusal h => h.hushed (r.hushed_broadcast refusal _)
  restore := fun r _ _ refusal id index h =>
    h.hushed (r.hushed_volumeRequestWithBarrier refusal id index _ _)
  panel := fun r _ _ refusal id index _ _ h =>
    (h.hushed (r.hushed_volumeRequestWithBarrier refusal id index _ _)).noted
      (fun _ _ _ heq => nomatch heq)
  panelRefused := fun r _ _ refusal id index _ _ h =>
    h.hushed (r.hushed_volumeRequestWithBarrier refusal id index _ _)
  takeReply := fun r _ _ id _ h =>
    h.hushed (r.hushed_modify id _ _ (fun _ => ⟨rfl, rfl, Or.inl rfl⟩))
  stored := fun _ _ _ _ _ h => h.noted (fun _ _ _ heq => nomatch heq)
  approve := fun r _ _ _ h =>
    h.hushed (r.hushed_mapValues _ (fun _ _ => ⟨rfl, rfl, Or.inl rfl⟩))
  takeUnsolicited := fun r _ _ id h =>
    h.hushed (r.hushed_modify id _ _ (fun _ => ⟨rfl, rfl, Or.inr rfl⟩))
  confirmed := fun _ _ _ _ _ h => h.noted (fun _ _ _ heq => nomatch heq)

/-- What a tick takes over was waiting, so it is an echo. -/
theorem attuned_adopts : World.AdoptRule Attuned := by
  intro r k i id volume htaken h
  have hkept := attuned_rules.takeUnsolicited r k i id h
  refine ⟨?_, hkept.tuned⟩
  intro id' volume' queued hmem
  rcases List.mem_append.mp hmem with hmem | hmem
  · exact h.adopted id' volume' queued hmem
  · cases List.mem_singleton.mp hmem
    rw [Registry.takeUnsolicitedVolume, Option.bind_eq_some_iff] at htaken
    obtain ⟨receiver, hreceiver, hwaiting⟩ := htaken
    obtain ⟨_, _, htune⟩ := h.tuned id receiver hreceiver
    exact htune.told volume hwaiting

namespace World

/-- The invariant holds along every run. -/
theorem reached_attuned (encode : Library → List UInt8)
    (decode : List UInt8 → Except String (Library × List UInt8)) (file : ProfileFile)
    (now : Nat) (es : List (WorldEvent HandsetEvent)) :
    (run (step Handsets.react encode) (start HandsetEvent decode file Handsets.start now) es).Holds
      Attuned := by
  refine run_preserves (fun w : World Handsets HandsetEvent => w.Holds Attuned)
    (fun w e hw => step_holds encode attuned_rules attuned_adopts hw e) ?_ es
  refine ⟨fun id volume queued hmem => absurd hmem List.not_mem_nil, ?_⟩
  intro id receiver hreceiver
  cases hreceiver

/-- **Nothing but the named echoes.**  Whatever the operations, the phones and the other
threads do, a tick takes over a volume only if a status with that volume arrived from a
phone that had strayed, and was taken for physical input. -/
theorem only_echoes_are_taken_over (encode : Library → List UInt8)
    (decode : List UInt8 → Except String (Library × List UInt8)) (file : ProfileFile)
    (now : Nat) (es : List (WorldEvent HandsetEvent)) :
    let w := run (step Handsets.react encode)
      (start HandsetEvent decode file Handsets.start now) es
    ∀ id volume, (id, volume) ∉ w.outside.echoes →
      ∀ queued, .adopted id volume queued ∉ w.incidents := by
  intro w id volume hecho queued hmem
  exact hecho ((reached_attuned encode decode file now es).adopted id volume queued hmem)

/-- A phone of the master of `roomProfile`. -/
def roomPhone : DeviceVolumeControl :=
  .new 5 0 15 false [.builtinSpeaker] 30 "main" "Main" 0 true

/-- The phone reports, and the window is opened and begins a calibration at another
volume. -/
def calibrationBegun : List (WorldEvent HandsetEvent) :=
  [.environment (.connect roomPhone), .environment (.watchdog 0), .environment (.deliver 0),
    .operation .open [] none,
    .environment (.internal (.requestCalibration 0 .begin (fun _ => none))),
    .environment (.internal (.requestVolume 0 9 .calibration (fun _ => none))),
    .environment (.take 0 false), .environment (.take 0 false), .environment (.deliver 0),
    .environment (.deliver 0)]

/-- The window is closed, and the phone takes the commands of `close` between two ticks. -/
def closedBetweenTicks : List (WorldEvent HandsetEvent) :=
  [.operation .close [] none, .operation .tick [] none, .environment (.take 0 false),
    .environment (.take 0 false), .environment (.deliver 0), .operation .tick [] none]

/-- The window asks for the old volume before it is closed. -/
def setBack : List (WorldEvent HandsetEvent) :=
  calibrationBegun ++
    [.environment (.internal (.requestVolume 0 5 .calibration (fun _ => none))),
      .environment (.take 0 false), .environment (.deliver 0)] ++
    closedBetweenTicks

theorem only_echoes_are_taken_over_setBack :
    let w := run (step Handsets.react Library.encode)
      (start HandsetEvent Library.decode roomFile Handsets.start 0) setBack
    (0, 5) ∉ w.outside.echoes ∧ ∀ queued, .adopted 0 5 queued ∉ w.incidents := by
  intro w
  have hecho : (0, 5) ∉ w.outside.echoes := by decide +kernel
  exact ⟨hecho, only_echoes_are_taken_over Library.encode Library.decode roomFile 0 setBack 0 5
    hecho⟩

/-- The broadcast cancel of `close` restores the volume from before the calibration; its
status comes after a tick has seen the master, and the next tick makes that volume the
one of the profile. -/
theorem original_volume_is_taken_over :
    let w := run (step Handsets.react Library.encode)
      (start HandsetEvent Library.decode roomFile Handsets.start 0)
    (w (calibrationBegun ++ closedBetweenTicks.dropLast)).state.library.current.map
        Profile.volume = some 3 ∧
      .adopted 0 5
          [.calibrationSession 1 .begin, .setVolume 2 9 .calibration, .calibrationTone 0 false,
            .calibrationSession 0 .cancel, .setVolume 3 5 .restoreSpeaker] ∈
        (w (calibrationBegun ++ closedBetweenTicks)).incidents ∧
      (w (calibrationBegun ++ closedBetweenTicks)).state.library.current.map
        Profile.volume = some 5 := by
  intro w
  exact ⟨by decide +kernel, by decide +kernel, by decide +kernel⟩

end World

end Invariant

end Soundwave

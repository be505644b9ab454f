import Soundwave.OperationRules

/-!
# The playback gates

A receiver plays only while its gate is open.  The main result says when that
can be: in every state between two operations of the controller, the device
behind an open gate is an adjustable speaker that stands at the volume which the
active profile gives it, and no gate is open while the calibration window is.

Only `approve` opens gates.  Every other call is `Quiet`: it opens none, and a
gate that stays open keeps a status that agrees with the old one in everything
playback depends on.
-/

namespace Soundwave

section QuietCalls

/-- A receiver after a call that may have shut its gate. -/
def Receiver.Calm (old new : Receiver) : Prop :=
  new.playback = true →
    old.playback = true ∧
      (new.device = old.device ∨
        ∃ d d', old.device = some d ∧ new.device = some d' ∧ d.playbackDiffers d' = false)

theorem Receiver.Calm.of_eq {old new : Receiver}
    (hplayback : new.playback = old.playback) (hdevice : new.device = old.device) :
    old.Calm new :=
  fun h => ⟨hplayback ▸ h, Or.inl hdevice⟩

namespace Registry

/-- No gate opens, and what is behind an open gate stays the same. -/
def Quiet (r r' : Registry) : Prop :=
  ∀ id new, r'.receivers.get? id = some new → new.playback = true →
    ∃ old, r.receivers.get? id = some old ∧ old.Calm new

/-- Every device behind an open gate has the property `G`. -/
def Gated (G : DeviceStatus → Prop) (r : Registry) : Prop :=
  ∀ id receiver, r.receivers.get? id = some receiver → receiver.playback = true →
    ∃ d, receiver.device = some d ∧ G d

/-- No gate is open. -/
def Shut (r : Registry) : Prop :=
  r.Gated (fun _ => False)

theorem Shut.gated {r : Registry} (h : r.Shut) (G : DeviceStatus → Prop) : r.Gated G := by
  intro id receiver hget hopen
  obtain ⟨_, _, hfalse⟩ := h id receiver hget hopen
  exact hfalse.elim

theorem Shut.playback {r : Registry} (h : r.Shut) {id : Nat} {receiver : Receiver}
    (hget : r.receivers.get? id = some receiver) : receiver.playback = false := by
  cases hopen : receiver.playback with
  | false =>
      rfl
  | true =>
      obtain ⟨_, _, hfalse⟩ := h id receiver hget hopen
      exact hfalse.elim

/-- A property that does not look past what playback depends on survives. -/
theorem Gated.of_quiet {G : DeviceStatus → Prop}
    (hG : ∀ d d' : DeviceStatus, d.playbackDiffers d' = false → G d → G d')
    {r r' : Registry} (h : r.Gated G) (hquiet : r.Quiet r') : r'.Gated G := by
  intro id new hget hopen
  obtain ⟨old, hold, hcalm⟩ := hquiet id new hget hopen
  obtain ⟨hwasOpen, hdevice⟩ := hcalm hopen
  obtain ⟨d, hd, hGd⟩ := h id old hold hwasOpen
  rcases hdevice with hsame | ⟨e, e', he, he', hdiffers⟩
  · exact ⟨d, hsame.trans hd, hGd⟩
  · rw [he] at hd
    cases hd
    exact ⟨e', he', hG _ _ hdiffers hGd⟩

theorem quiet_modify (r : Registry) (id : Nat) (f : Receiver → Receiver) (issued : Nat)
    (h : ∀ receiver : Receiver, receiver.Calm (f receiver)) :
    r.Quiet { r with receivers := r.receivers.modify id f, issued := issued } := by
  intro id' new hget _
  rw [SortedMap.get?_modify] at hget
  split_ifs at hget with hid
  · obtain ⟨old, hold, rfl⟩ := Option.map_eq_some_iff.mp hget
    exact ⟨old, hold, h old⟩
  · exact ⟨new, hget, .of_eq rfl rfl⟩

theorem quiet_mapValues {r : Registry} (f : Nat → Receiver → Receiver)
    (h : ∀ id (receiver : Receiver), receiver.Calm (f id receiver)) :
    r.Quiet { r with receivers := r.receivers.mapValues f } := by
  intro id new hget _
  rw [SortedMap.get?_mapValues] at hget
  obtain ⟨old, hold, rfl⟩ := Option.map_eq_some_iff.mp hget
  exact ⟨old, hold, h id old⟩

theorem quiet_of_receivers_eq {r r' : Registry} (h : r'.receivers = r.receivers) :
    r.Quiet r' := by
  intro id new hget _
  rw [h] at hget
  exact ⟨new, hget, .of_eq rfl rfl⟩

theorem shut_of_playback {r : Registry}
    (h : ∀ id receiver, r.receivers.get? id = some receiver → receiver.playback = false) :
    r.Shut := by
  intro id receiver hget hopen
  rw [h id receiver hget] at hopen
  cases hopen

theorem denyAll_shut (r : Registry) : r.denyAll.Shut := by
  apply shut_of_playback
  intro id receiver hget
  simp only [denyAll, SortedMap.get?_mapValues] at hget
  obtain ⟨old, _, rfl⟩ := Option.map_eq_some_iff.mp hget
  rfl

theorem quiet_register (r : Registry) : r.Quiet r.register := by
  intro id new hget hopen
  simp only [register, SortedMap.get?_insert] at hget
  split_ifs at hget
  · cases hget
    cases hopen
  · exact ⟨new, hget, .of_eq rfl rfl⟩

/-- A connection that ends shuts all gates. -/
theorem quiet_remove (r : Registry) (id : Nat) : r.Quiet (r.remove id) := by
  rw [remove]
  split_ifs
  · intro id' new hget hopen
    simp only [SortedMap.get?_mapValues] at hget
    obtain ⟨old, _, rfl⟩ := Option.map_eq_some_iff.mp hget
    cases hopen
  · exact quiet_of_receivers_eq rfl

theorem quiet_plainRequest (r : Registry) (refusal : Nat → Option String) (id : Nat)
    (message : Nat → ControlMessage) : r.Quiet (r.plainRequest refusal id message).2 := by
  rcases plainRequest_cases r refusal id message with ⟨e, h⟩ | h
  · rw [h]
    exact quiet_of_receivers_eq rfl
  · rw [h]
    exact quiet_modify r id _ _ (fun _ => .of_eq rfl rfl)

theorem quiet_volumeRequestWithBarrier (r : Registry) (refusal : Nat → Option String)
    (id index : Nat) (purpose : VolumePurpose) (barrier : Bool) :
    r.Quiet (r.volumeRequestWithBarrier refusal id index purpose barrier).2 := by
  rcases volumeRequestWithBarrier_cases r refusal id index purpose barrier with ⟨e, h⟩ | h
  · rw [h]
    exact quiet_of_receivers_eq rfl
  · rw [h]
    exact quiet_modify r id _ _ (fun _ => .of_eq rfl rfl)

theorem quiet_broadcast (r : Registry) (refusal : Nat → Option String)
    (message : ControlMessage) : r.Quiet (r.broadcast refusal message) := by
  apply quiet_mapValues
  intro id receiver
  split_ifs
  · exact .of_eq rfl rfl
  · exact .of_eq rfl rfl

theorem quiet_updateTone (r : Registry) (id request : Nat) (playing failed : Bool) :
    r.Quiet (r.updateTone id request playing failed) := by
  rw [updateTone]
  split_ifs
  · exact quiet_of_receivers_eq rfl
  · exact quiet_modify r id _ _ (fun _ => .of_eq rfl rfl)

/-- A status that differs in anything that matters shuts the gate. -/
theorem quiet_updateDevice (r : Registry) (id : Nat) (status : DeviceStatus) :
    r.Quiet (r.updateDevice id status) := by
  rw [updateDevice]
  split_ifs
  · refine quiet_modify r id _ _ ?_
    intro receiver hopen
    obtain ⟨_, _, hdevice, hplayback⟩ := receiver.observe_frame status.sanitized
    simp only [Receiver.store, hplayback, hdevice] at hopen ⊢
    cases hold : receiver.device with
    | none =>
        simp [hold] at hopen
    | some d =>
        simp only [hold] at hopen
        split_ifs at hopen with hdiffers
        exact ⟨hopen, Or.inr ⟨d, _, rfl, rfl, by simpa using hdiffers⟩⟩
  · exact quiet_of_receivers_eq rfl

theorem quiet_takeReply (r : Registry) (id request : Nat) :
    r.Quiet (r.takeReply id request).2 :=
  quiet_modify r id _ _ (fun _ => .of_eq rfl rfl)

/-- Other threads open no gate. -/
theorem quiet_react (r : Registry) (e : RegistryEvent) : r.Quiet (r.react e) := by
  cases e with
  | register => exact quiet_register r
  | remove id => exact quiet_remove r id
  | updateDevice id status => exact quiet_updateDevice r id status
  | updateTone id request playing failed => exact quiet_updateTone r id request playing failed
  | query id refusal => exact quiet_plainRequest r refusal id _
  | requestVolume id index purpose refusal =>
      exact quiet_volumeRequestWithBarrier r refusal id index purpose false
  | requestCalibration id action refusal => exact quiet_plainRequest r refusal id _
  | requestTone id enabled refusal => exact quiet_plainRequest r refusal id _
  | broadcast message refusal => exact quiet_broadcast r refusal message
  | takeReply id request => exact quiet_takeReply r id request
  | takeToneReply id request => exact quiet_modify r id _ _ (fun _ => .of_eq rfl rfl)

/-- The environment in which other threads make arbitrary registry calls. -/
def environment (s : Registry × Unit) (e : RegistryEvent) : Registry × Unit :=
  (s.1.react e, ())

/-- The rules for the operations of the controller, for what gates depend on. -/
theorem gated_rules {G : DeviceStatus → Prop}
    (hG : ∀ d d' : DeviceStatus, d.playbackDiffers d' = false → G d → G d') :
    World.CallRules environment (fun r _ _ => r.Gated G) where
  environment := fun r _ _ e h => h.of_quiet hG (quiet_react r e)
  denyAll := fun r _ _ _ => r.denyAll_shut.gated G
  silence := fun r _ _ refusal h => h.of_quiet hG (quiet_broadcast r refusal _)
  cancel := fun r _ _ refusal h => h.of_quiet hG (quiet_broadcast r refusal _)
  restore := fun r _ _ refusal id index h =>
    h.of_quiet hG (quiet_volumeRequestWithBarrier r refusal id index _ _)
  panel := fun r _ _ refusal id index _ _ h =>
    h.of_quiet hG (quiet_volumeRequestWithBarrier r refusal id index _ _)
  panelRefused := fun r _ _ refusal id index _ _ h =>
    h.of_quiet hG (quiet_volumeRequestWithBarrier r refusal id index _ _)
  takeReply := fun r _ _ id request h => h.of_quiet hG (quiet_takeReply r id request)
  stored := fun _ _ _ _ _ h => h

/-- The rules for shut gates. -/
theorem shut_rules : World.CallRules environment (fun r _ _ => r.Shut) :=
  gated_rules (fun _ _ _ h => h)

end Registry

end QuietCalls

section Targets

/-- The device stands where the profile puts it: as the master at the profile's
volume, or as a follower at the volume mapped to it. -/
def OnTarget (p : Profile) (d : DeviceStatus) : Prop :=
  (p.master.matchesDevice d = true ∧ d.volume = p.volume) ∨
    ∃ f ∈ p.followers, f.device.matchesDevice d = true ∧
      f.mapping.get? p.volume = some d.volume

/-- The device stands where the active profile of a library puts it. -/
def OnActiveTarget (l : Library) (d : DeviceStatus) : Prop :=
  ∃ p, l.current = some p ∧ OnTarget p d

theorem matchesDevice_iff (range : DeviceRange) (d : DeviceStatus) :
    range.matchesDevice d = true ↔
      range.id = d.deviceId ∧ range.minimum = d.minimum ∧ range.maximum = d.maximum ∧
        d.speaker = true ∧ d.fixed = false ∧ d.failed = false := by
  simp [DeviceRange.matchesDevice, and_assoc]

theorem healthy_iff (d : DeviceStatus) :
    d.healthy = true ↔ d.speaker = true ∧ d.fixed = false ∧ d.failed = false := by
  simp [DeviceStatus.healthy, and_assoc]

theorem sameDevice_iff (a b : DeviceStatus) :
    a.sameDevice b = true ↔
      a.deviceId = b.deviceId ∧ a.minimum = b.minimum ∧ a.maximum = b.maximum := by
  simp [DeviceStatus.sameDevice, and_assoc]

/-- The device behind a match may be replaced by the same one, if healthy. -/
theorem matchesDevice_of_sameDevice {range : DeviceRange} {d d' : DeviceStatus}
    (h : range.matchesDevice d = true) (hsame : d'.sameDevice d = true)
    (hhealthy : d'.healthy = true) : range.matchesDevice d' = true := by
  rw [matchesDevice_iff] at h ⊢
  rw [sameDevice_iff] at hsame
  rw [healthy_iff] at hhealthy
  obtain ⟨hid, hmin, hmax, _⟩ := h
  exact ⟨hid.trans hsame.1.symm, hmin.trans hsame.2.1.symm, hmax.trans hsame.2.2.symm, hhealthy⟩

theorem OnTarget.of_sameDevice {p : Profile} {d d' : DeviceStatus} (h : OnTarget p d)
    (hsame : d'.sameDevice d = true) (hvolume : d'.volume = d.volume)
    (hhealthy : d'.healthy = true) : OnTarget p d' := by
  rcases h with ⟨hmaster, hv⟩ | ⟨f, hf, hfollower, hv⟩
  · exact Or.inl ⟨matchesDevice_of_sameDevice hmaster hsame hhealthy, hvolume.trans hv⟩
  · refine Or.inr ⟨f, hf, matchesDevice_of_sameDevice hfollower hsame hhealthy, ?_⟩
    rw [hvolume]
    exact hv

theorem OnTarget.healthy {p : Profile} {d : DeviceStatus} (h : OnTarget p d) :
    d.healthy = true := by
  rw [healthy_iff]
  rcases h with ⟨hmatch, _⟩ | ⟨f, _, hmatch, _⟩
  · exact ((matchesDevice_iff _ _).mp hmatch).2.2.2
  · exact ((matchesDevice_iff _ _).mp hmatch).2.2.2

theorem onActiveTarget_of_playback {l : Library} (d d' : DeviceStatus)
    (hdiffers : d.playbackDiffers d' = false) (h : OnActiveTarget l d) :
    OnActiveTarget l d' := by
  obtain ⟨p, hp, htarget⟩ := h
  simp only [DeviceStatus.playbackDiffers, Bool.or_eq_false_iff, decide_eq_false_iff_not,
    ne_eq, Decidable.not_not] at hdiffers
  obtain ⟨⟨⟨⟨⟨⟨hvolume, hid⟩, hmin⟩, hmax⟩, hspeaker⟩, hfailed⟩, hfixed⟩ := hdiffers
  have hhealthy := (healthy_iff d).mp htarget.healthy
  refine ⟨p, hp, htarget.of_sameDevice ?_ hvolume.symm ?_⟩
  · rw [sameDevice_iff]
    exact ⟨hid.symm, hmin.symm, hmax.symm⟩
  · rw [healthy_iff]
    exact ⟨hspeaker ▸ hhealthy.1, hfixed ▸ hhealthy.2.1, hfailed ▸ hhealthy.2.2⟩

namespace Registry

/-- `approve` opens the gates of devices that are still as they were. -/
theorem approve_gated {G : DeviceStatus → Prop} {r : Registry}
    {expected : List (Nat × DeviceStatus)}
    (h : ∀ e ∈ expected, ∀ d : DeviceStatus, d.sameDevice e.2 = true → d.volume = e.2.volume →
      d.healthy = true → G d) :
    (r.approve expected).Gated G := by
  intro id receiver hget hopen
  simp only [approve, SortedMap.get?_mapValues] at hget
  obtain ⟨old, hold, rfl⟩ := Option.map_eq_some_iff.mp hget
  simp only [Bool.and_eq_true, List.all_eq_true, List.any_eq_true, decide_eq_true_eq] at hopen
  obtain ⟨hready, e, he, rfl⟩ := hopen
  have hexpected := hready e he
  simp only [stillAsExpected, hold, Option.bind_some] at hexpected
  cases hdevice : old.device with
  | none =>
      simp [hdevice] at hexpected
  | some d =>
      simp only [hdevice, Bool.and_eq_true, decide_eq_true_eq] at hexpected
      exact ⟨d, rfl, h e he d hexpected.1.1 hexpected.1.2 hexpected.2⟩

theorem mem_connected_snapshots (r : Registry) (x : Nat × DeviceStatus) :
    x ∈ World.connected r.snapshots ↔
      ∃ receiver, r.receivers.get? x.1 = some receiver ∧ receiver.device = some x.2 := by
  simp only [World.connected, snapshots, List.mem_filterMap, List.mem_map,
    Option.map_eq_some_iff]
  constructor
  · rintro ⟨_, ⟨e, he, rfl⟩, d, hd, rfl⟩
    exact ⟨e.2, (SortedMap.get?_eq_some_iff _ _ _).mpr he, hd⟩
  · rintro ⟨receiver, hget, hd⟩
    exact ⟨_, ⟨(x.1, receiver), (SortedMap.get?_eq_some_iff _ _ _).mp hget, rfl⟩, x.2, hd, rfl⟩

/-- A snapshot has one device for each receiver. -/
theorem deviceOf_connected_snapshots {r : Registry} {x : Nat × DeviceStatus}
    (hx : x ∈ World.connected r.snapshots) :
    World.deviceOf (World.connected r.snapshots) x.1 = some x := by
  have hsome : (World.deviceOf (World.connected r.snapshots) x.1).isSome = true := by
    rw [World.deviceOf, List.find?_isSome]
    exact ⟨x, hx, by simp⟩
  obtain ⟨y, hy⟩ := Option.isSome_iff_exists.mp hsome
  have hid : y.1 = x.1 := by simpa using List.find?_some hy
  obtain ⟨a, ha, had⟩ := (mem_connected_snapshots r y).mp (List.mem_of_find?_eq_some hy)
  obtain ⟨b, hb, hbd⟩ := (mem_connected_snapshots r x).mp hx
  rw [hid, hb] at ha
  cases ha
  rw [hbd] at had
  rw [hy, Option.some.injEq]
  exact Prod.ext hid (Option.some.inj had).symm

end Registry

end Targets

section Ticks

namespace World

variable {κ ε : Type} (react : Registry × κ → ε → Registry × κ) (encode : Library → List UInt8)

/-- Every target of the group belongs to a device that the profile puts there. -/
theorem onTarget_of_mem_targets {r : Registry} {profile : Profile}
    {participating : List String} {master index : Nat} {device : DeviceStatus}
    (hmaster : (master, device) ∈ matching profile.master (connected r.snapshots))
    {t : Nat × Nat} (ht : t ∈ targets profile participating (connected r.snapshots) master index)
    {e : Nat × DeviceStatus} (he : deviceOf (connected r.snapshots) t.1 = some e)
    (hvolume : e.2.volume = t.2) :
    OnTarget { profile with volume := index } e.2 := by
  rw [targets, List.mem_cons] at ht
  rcases ht with rfl | ht
  · rw [matching, List.mem_filter] at hmaster
    rw [Registry.deviceOf_connected_snapshots hmaster.1] at he
    cases he
    exact Or.inl ⟨hmaster.2, hvolume⟩
  · obtain ⟨f, hf, hft⟩ := List.mem_filterMap.mp ht
    split_ifs at hft
    split at hft
    · rename_i receiver target hreceiver htarget
      cases hft
      have hmatches := List.find?_some hreceiver
      rw [Registry.deviceOf_connected_snapshots (List.mem_of_find?_eq_some hreceiver)] at he
      cases he
      exact Or.inr ⟨f, hf, hmatches, hvolume ▸ htarget⟩
    · cases hft

theorem settle_gated {w : World κ ε} {r : Registry} {profile : Profile}
    {participating : List String} {master index : Nat} {device : DeviceStatus} {ready : Bool}
    (hcurrent : w.state.library.current = some { profile with volume := index })
    (hmaster : (master, device) ∈ matching profile.master (connected r.snapshots))
    (hready : ready = true →
      ∀ t ∈ targets profile participating (connected r.snapshots) master index,
        ∃ d, deviceOf (connected r.snapshots) t.1 = some d ∧ d.2.volume = t.2) :
    let w' := w.settle react encode profile (connected r.snapshots)
      (targets profile participating (connected r.snapshots) master index) index ready
    w'.registry.Gated (OnActiveTarget w'.state.library) ∧ w'.state.editing = w.state.editing ∧
      w'.calibrating = w.calibrating := by
  cases ready with
  | false =>
      have hagree := denyAll_agree react w
      exact ⟨(Registry.denyAll_shut _).gated _, hagree.editing, hagree.calibrating⟩
  | true =>
      have hopened : (w.perform react (fun _ r' => r'.approve
          ((targets profile participating (connected r.snapshots) master index).filterMap
            (fun t => deviceOf (connected r.snapshots) t.1)))).registry.Gated
          (OnActiveTarget w.state.library) := by
        apply Registry.approve_gated
        intro e he d hsame hvolume hhealthy
        obtain ⟨t, ht, hte⟩ := List.mem_filterMap.mp he
        obtain ⟨e', he', hvolume'⟩ := hready rfl t ht
        rw [hte] at he'
        cases he'
        exact ⟨_, hcurrent,
          (onTarget_of_mem_targets hmaster ht hte hvolume').of_sameDevice hsame hvolume hhealthy⟩
      have hagree := perform_agree react w (fun _ r' => r'.approve
        ((targets profile participating (connected r.snapshots) master index).filterMap
          (fun t => deviceOf (connected r.snapshots) t.1)))
      simp only [settle, if_true]
      rcases saveConfirmed_cases encode _ with ⟨hsave, hregistry, _⟩ | ⟨_, _, hsave⟩
      · refine ⟨?_, hsave.editing.trans hagree.editing, hsave.calibrating.trans hagree.calibrating⟩
        rw [hregistry, hsave.library]
        exact hagree.library ▸ hopened
      · rw [hsave]
        refine ⟨?_, hagree.editing, hagree.calibrating⟩
        exact hagree.library ▸ hopened

theorem follow_gated {w : World κ ε} {r : Registry} {profile : Profile}
    (participating : List String) {master : Nat} {device : DeviceStatus}
    (hprofile : w.state.library.current = some profile)
    (hmaster : (master, device) ∈ matching profile.master (connected r.snapshots)) :
    let w' := w.follow react encode profile participating (connected r.snapshots) master device
    w'.registry.Gated (OnActiveTarget w'.state.library) ∧ w'.state.editing = w.state.editing ∧
      w'.calibrating = w.calibrating := by
  have hadopt := adopt_keeps react w profile master device
  simp only [follow]
  rcases hresult : w.adopt react profile master device with ⟨requested, w1⟩
  rw [hresult] at hadopt
  simp only
  cases hindex : profile.nearest requested participating with
  | none =>
      have hdeny := (hadopt.trans (denyAll_agree react w1).keeps)
      exact ⟨(Registry.denyAll_shut _).gated _, hdeny.editing, hdeny.calibrating⟩
  | some index =>
      have hcurrent : w1.state.library.current = some profile := by
        rw [hadopt.library]
        exact hprofile
      have haim : (w1.aim profile index).state.editing = w1.state.editing ∧
          (w1.aim profile index).calibrating = w1.calibrating := by
        rcases aim_cases hcurrent index with ⟨hw, _⟩ | ⟨_, hw⟩
        · rw [hw]
          exact ⟨rfl, rfl⟩
        · rw [hw]
          exact ⟨rfl, rfl⟩
      have hrestore := restoreTargets_agree react (connected r.snapshots) true
        (w1.aim profile index)
        (targets profile participating (connected r.snapshots) master index)
      obtain ⟨hgated, hediting, hcalibrating⟩ := settle_gated react encode
        (w := ((w1.aim profile index).restoreTargets react (connected r.snapshots) true
          (targets profile participating (connected r.snapshots) master index)).2)
        (hrestore.library ▸ aim_current hcurrent index) hmaster
        (fun hready => (restoreTargets_ready react hready).2)
      exact ⟨hgated, hediting.trans (hrestore.editing.trans (haim.1.trans hadopt.editing)),
        hcalibrating.trans (hrestore.calibrating.trans (haim.2.trans hadopt.calibrating))⟩

end World

end Ticks

section Runs

namespace World

variable (encode : Library → List UInt8)

/-- Gates are open for devices on target only, and for none while the window is
open. -/
structure GateSafe (w : World Unit RegistryEvent) : Prop where
  gated : w.registry.Gated (OnActiveTarget w.state.library)
  editing : w.state.editing = true → w.registry.Shut ∧ w.calibrating = true

theorem GateSafe.of_shut {w w' : World Unit RegistryEvent} (h : w.GateSafe)
    (hshut : w'.registry.Shut) (hediting : w'.state.editing = w.state.editing)
    (hcalibrating : w'.calibrating = w.calibrating) : w'.GateSafe where
  gated := hshut.gated _
  editing := fun hopen => ⟨hshut, hcalibrating.trans (h.editing (hediting ▸ hopen)).2⟩

/-- A step within the frame whose calls are all quiet. -/
theorem GateSafe.of_holds {w w' : World Unit RegistryEvent} (h : w.GateSafe)
    (hholds : ∀ P, CallRules Registry.environment P → w.Holds P → w'.Holds P)
    (hlibrary : w'.state.library = w.state.library)
    (hediting : w'.state.editing = w.state.editing)
    (hcalibrating : w'.calibrating = w.calibrating) : w'.GateSafe where
  gated := by
    rw [hlibrary]
    exact hholds (fun r _ _ => r.Gated (OnActiveTarget w.state.library))
      (Registry.gated_rules onActiveTarget_of_playback) h.gated
  editing := by
    intro hopen
    obtain ⟨hshut, hcal⟩ := h.editing (hediting ▸ hopen)
    exact ⟨hholds (fun r _ _ => r.Shut) Registry.shut_rules hshut, hcalibrating.trans hcal⟩

theorem tick_gateSafe {w : World Unit RegistryEvent} (h : w.GateSafe) :
    (w.tick Registry.environment encode).GateSafe := by
  simp only [tick]
  split_ifs with hediting
  · have hagree := denyAll_agree Registry.environment w
    exact h.of_shut (Registry.denyAll_shut _) hagree.editing hagree.calibrating
  · -- outside the window only the gates matter
    have hframe := (snapshots_agree Registry.environment w).trans
      (review_agree Registry.environment (w.snapshots Registry.environment).2
        (w.snapshots Registry.environment).1)
    generalize hw1 : (w.snapshots Registry.environment).2.review Registry.environment
      (w.snapshots Registry.environment).1 = w1 at hframe ⊢
    have hdeny := denyAll_agree Registry.environment w1
    split
    · exact h.of_shut (Registry.denyAll_shut _) (hdeny.editing.trans hframe.editing)
        (hdeny.calibrating.trans hframe.calibrating)
    · rename_i profile hprofile
      split
      · rename_i master device hmaster
        have hfence := fenceNeeded_agree Registry.environment w1 master
        simp only [tickMaster]
        split_ifs
        · have hkeeps := hframe.keeps.trans (hfence.keeps.trans
            (fence_keeps Registry.environment (w1.fenceNeeded Registry.environment master).2
              profile (profile.participating
                ((connected (w.snapshots Registry.environment).1).map Prod.snd)) master device))
          exact h.of_shut
            (fence_holds Registry.shut_rules.toRequestRules (Registry.denyAll_shut _) _ _ _ _)
            hkeeps.editing hkeeps.calibrating
        · obtain ⟨hgated, hstill, _⟩ := follow_gated Registry.environment encode
            (w := (w1.fenceNeeded Registry.environment master).2)
            (r := (w.interrupt Registry.environment).1.registry)
            (profile.participating
              ((connected (w.snapshots Registry.environment).1).map Prod.snd))
            (hfence.library ▸ hprofile) (hmaster ▸ List.mem_singleton_self _)
          refine ⟨hgated, fun hopen => absurd ?_ hediting⟩
          rw [← hframe.editing, ← hfence.editing, ← hstill]
          exact hopen
      · exact h.of_shut (Registry.denyAll_shut _) (hdeny.editing.trans hframe.editing)
          (hdeny.calibrating.trans hframe.calibrating)

/-- An operation within the frame of all operations. -/
theorem GateSafe.of_agree {w w' : World Unit RegistryEvent} (h : w.GateSafe)
    (hagree : w.Agree w')
    (hholds : ∀ P, CallRules Registry.environment P → w.Holds P → w'.Holds P) :
    w'.GateSafe :=
  h.of_holds hholds hagree.library hagree.editing hagree.calibrating

theorem operate_gateSafe {w : World Unit RegistryEvent} (h : w.GateSafe) (o : Operation) :
    (w.operate Registry.environment encode o).GateSafe := by
  cases o with
  | «open» =>
      simp only [operate]
      rcases openWindow_cases Registry.environment w with hw | ⟨w1, hw, hediting, _⟩
      · rw [hw]
        exact h
      · rw [hw]
        have hshut := Registry.denyAll_shut (w1.interrupt Registry.environment).1.registry
        exact ⟨hshut.gated _, fun _ => ⟨hshut, rfl⟩⟩
  | close =>
      obtain ⟨hediting, _, hsame⟩ := closeWindow_frame Registry.environment w
      refine ⟨?_, ?_⟩
      · simp only [operate]
        rw [hsame.library]
        exact closeWindow_holds (Registry.gated_rules onActiveTarget_of_playback) h.gated
      · intro hopen
        simp only [operate] at hopen
        rw [hediting] at hopen
        cases hopen
  | setMaster master =>
      exact h.of_agree (setMaster_agree _ w master)
        (fun _ rules hP => setMaster_holds rules.toRequestRules hP master)
  | remember id device =>
      exact h.of_agree (remember_agree w id device)
        (fun _ rules hP => operate_holds_of_ne_tick encode rules hP (.remember id device)
          (fun heq => by cases heq))
  | newDraft =>
      exact h.of_agree (newDraft_agree w)
        (fun _ rules hP => operate_holds_of_ne_tick encode rules hP .newDraft
          (fun heq => by cases heq))
  | edit change =>
      exact h.of_agree (edit_agree w change)
        (fun _ rules hP => operate_holds_of_ne_tick encode rules hP (.edit change)
          (fun heq => by cases heq))
  | setDraft draft =>
      exact h.of_agree (setDraft_agree w draft)
        (fun _ rules hP => operate_holds_of_ne_tick encode rules hP (.setDraft draft)
          (fun heq => by cases heq))
  | saveDraft name copy =>
      simp only [operate]
      rcases saveDraft_cases encode w name copy with
        hw | ⟨draft, stored, library, id, hediting, _, _, _, _, _, hw⟩
      · rw [hw]
        exact h
      · -- the target changes, but all gates are shut while the window is open
        rw [hw]
        exact h.of_shut (h.editing hediting).1 rfl rfl
  | select id =>
      simp only [operate]
      rcases select_cases Registry.environment encode w id with
        hw | ⟨draft, hw⟩ | ⟨profile, library, _, _, _, _, _, hw⟩
      · rw [hw]
        exact h
      · rw [hw]
        exact ⟨h.gated, h.editing⟩
      · rw [hw]
        have hagree := denyAll_agree Registry.environment (w.wrote encode library)
        exact h.of_shut (Registry.denyAll_shut _) hagree.editing hagree.calibrating
  | delete id =>
      simp only [operate]
      rcases delete_cases encode w id with hw | ⟨hediting, _, _, hw⟩
      · rw [hw]
        exact h
      · rw [hw]
        exact h.of_shut (h.editing hediting).1 rfl rfl
  | setVolume requested =>
      simp only [operate]
      rcases setVolume_cases Registry.environment w requested with
        hagree | ⟨w1, profile, master, request, index, hagree, _, hw⟩
      · exact h.of_agree hagree
          (fun _ rules hP => setVolume_holds rules.toRequestRules hP requested)
      · rw [hw]
        have hdeny := denyAll_agree Registry.environment
          ((w1.note (.panel master request)).update
            (fun s => requestedState s master request index w1.now))
        exact h.of_shut (Registry.denyAll_shut _) (hdeny.editing.trans hagree.editing)
          (hdeny.calibrating.trans hagree.calibrating)
  | tick =>
      exact tick_gateSafe encode h

theorem step_gateSafe {w : World Unit RegistryEvent} (h : w.GateSafe)
    (e : WorldEvent RegistryEvent) : (w.step Registry.environment encode e).GateSafe := by
  cases e with
  | environment e =>
      exact h.of_holds (fun _ rules hP => rules.environment _ _ _ e hP) rfl rfl rfl
  | elapse milliseconds =>
      exact ⟨h.gated, h.editing⟩
  | operation o script saveFailure =>
      have hstart : ({ w with script := script, saveFailure := saveFailure } :
          World Unit RegistryEvent).GateSafe :=
        ⟨h.gated, h.editing⟩
      exact operate_gateSafe encode hstart o

theorem start_gateSafe (decode : List UInt8 → Except String (Library × List UInt8))
    (file : ProfileFile) (now : Nat) : (start RegistryEvent decode file () now).GateSafe := by
  have hempty : (start RegistryEvent decode file () now).registry.Shut :=
    Registry.shut_of_playback (fun id receiver hget => by cases hget)
  refine ⟨hempty.gated _, ?_⟩
  intro hopen
  simp only [start] at hopen
  split at hopen
  · cases hopen
  · cases hopen

/-- **Playback gate safety.**  In every state between two operations, whatever
the profile file was and whatever other threads did, also within the operations,
the device behind an open gate is an adjustable speaker that stands where the
active profile puts it; and while the window is open no gate is open and the
transmission gate is calibrating. -/
theorem open_gates_are_on_target
    (decode : List UInt8 → Except String (Library × List UInt8)) (file : ProfileFile)
    (now : Nat) (es : List (WorldEvent RegistryEvent)) :
    let w := run (step Registry.environment encode) (start RegistryEvent decode file () now) es
    (∀ id receiver, w.registry.receivers.get? id = some receiver → receiver.playback = true →
      ∃ d profile,
        receiver.device = some d ∧ w.state.library.current = some profile ∧
        d.speaker = true ∧ d.fixed = false ∧ d.failed = false ∧
        ((profile.master.matchesDevice d = true ∧ d.volume = profile.volume) ∨
          ∃ f ∈ profile.followers, f.device.matchesDevice d = true ∧
            f.mapping.get? profile.volume = some d.volume)) ∧
      (w.state.editing = true →
        (∀ id receiver, w.registry.receivers.get? id = some receiver →
          receiver.playback = false) ∧
        w.calibrating = true) := by
  have hsafe := run_preserves GateSafe (fun w e hw => step_gateSafe encode hw e)
    (start_gateSafe decode file now) es
  refine ⟨?_, ?_⟩
  · intro id receiver hget hopen
    obtain ⟨d, hdevice, profile, hprofile, htarget⟩ := hsafe.gated id receiver hget hopen
    obtain ⟨hspeaker, hfixed, hfailed⟩ := (healthy_iff d).mp htarget.healthy
    exact ⟨d, profile, hdevice, hprofile, hspeaker, hfixed, hfailed, htarget⟩
  · intro hediting
    obtain ⟨hshut, hcalibrating⟩ := hsafe.editing hediting
    exact ⟨fun id receiver hget => hshut.playback hget, hcalibrating⟩

end World

end Runs

end Soundwave

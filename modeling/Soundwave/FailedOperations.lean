import Soundwave.PlaybackGate
import Soundwave.ProfileFormat

/-!
# Failing operations of the volume controller

`open`, `set_master`, `new_draft`, `set_draft`, `save_draft`, `select`, `delete` and
`set_volume` return a `Result`.  An error leaves no trace: the checks stand before the
effects, a save that fails has not replaced the file, and `panel_volume_request` changes its
receiver only behind a successful `try_send`.  What a refused request has drawn is an id of
the global counter.

Other threads may act during a failing operation too; what they did stays done.
-/

namespace Soundwave

/-- The operations that return a `Result`, without `edit`. -/
inductive FallibleOperation where
  | open
  | setMaster (master : DeviceStatus)
  | newDraft
  | setDraft (draft : Profile)
  | saveDraft (name : String) (copy : Bool)
  | select (id : Nat)
  | delete (id : Nat)
  | setVolume (requested : Nat)

namespace World

variable {κ ε : Type}
variable (react : Registry × κ → ε → Registry × κ) (encode : Library → List UInt8)

section Attempts

/-- An operation with its result. -/
def attempt (w : World κ ε) : FallibleOperation → Except String Unit × World κ ε
  | .open => w.openWindow react
  | .setMaster master => w.setMaster react master
  | .newDraft => w.newDraft
  | .setDraft draft => w.setDraft draft
  | .saveDraft name copy => w.saveDraft encode name copy
  | .select id => w.select react encode id
  | .delete id => w.delete encode id
  | .setVolume requested => w.setVolume react requested

/-- The environment acts before `n` registry calls. -/
def interrupted : Nat → World κ ε → World κ ε
  | 0, w => w
  | n + 1, w => interrupted n (w.interrupt react).1

/-- Nothing has happened but what the environment did before some calls, and that request
ids were drawn. -/
def Untouched (w w' : World κ ε) : Prop :=
  ∃ n issued, w' =
    { interrupted react n w with
        registry := { (interrupted react n w).registry with issued := issued } }

end Attempts

section Interruptions

/-- What the environment does before `n` calls is to run its events. -/
theorem interrupted_spec (n : Nat) (w : World κ ε) :
    ((interrupted react n w).registry, (interrupted react n w).outside) =
        run react (w.registry, w.outside) ((w.script.take n).flatMap Call.events) ∧
      (interrupted react n w).state = w.state ∧
      (interrupted react n w).calibrating = w.calibrating ∧
      (interrupted react n w).file = w.file ∧
      (interrupted react n w).writes = w.writes := by
  induction n generalizing w with
  | zero => exact ⟨rfl, rfl, rfl, rfl, rfl⟩
  | succ n ih =>
      obtain ⟨hevents, hstate, hcalibrating, hfile, hwrites⟩ := ih (w.interrupt react).1
      rw [interrupted]
      cases hscript : w.script with
      | nil =>
          have hsame : (w.interrupt react).1 = w := by
            rw [interrupt, hscript]
          rw [hsame, hscript, List.take_nil] at hevents
          rw [hsame] at hstate hcalibrating hfile hwrites ⊢
          exact ⟨hevents, hstate, hcalibrating, hfile, hwrites⟩
      | cons c script =>
          have hrest : (w.interrupt react).1.script = script := by
            rw [interrupt, hscript]
          have hreacted : ((w.interrupt react).1.registry, (w.interrupt react).1.outside) =
              run react (w.registry, w.outside) c.events := by
            rw [interrupt, hscript]
          have hframe : (w.interrupt react).1.state = w.state ∧
              (w.interrupt react).1.calibrating = w.calibrating ∧
              (w.interrupt react).1.file = w.file ∧ (w.interrupt react).1.writes = w.writes := by
            rw [interrupt, hscript]
            exact ⟨rfl, rfl, rfl, rfl⟩
          rw [hrest, hreacted] at hevents
          rw [List.take_succ_cons, List.flatMap_cons, run_append]
          exact ⟨hevents, hstate.trans hframe.1, hcalibrating.trans hframe.2.1,
            hfile.trans hframe.2.2.1, hwrites.trans hframe.2.2.2⟩

theorem Untouched.refl (w : World κ ε) : w.Untouched react w :=
  ⟨0, w.registry.issued, rfl⟩

theorem snapshots_untouched (w : World κ ε) : w.Untouched react (w.snapshots react).2 :=
  ⟨1, (w.interrupt react).1.registry.issued, rfl⟩

end Interruptions

section Failures

theorem openWindow_untouched {w w' : World κ ε} {e : String}
    (h : w.openWindow react = (.error e, w')) : w.Untouched react w' := by
  rw [openWindow] at h
  split_ifs at h
  · cases h
    exact .refl react w
  · cases h
    exact .refl react w
  · cases h

theorem setMaster_untouched {w w' : World κ ε} {master : DeviceStatus} {e : String}
    (h : w.setMaster react master = (.error e, w')) : w.Untouched react w' := by
  rw [setMaster] at h
  split_ifs at h
  · cases h
  · cases h
    exact .refl react w
  · cases h
    exact .refl react w

theorem newDraft_untouched {w w' : World κ ε} {e : String} (h : w.newDraft = (.error e, w')) :
    w.Untouched react w' := by
  rw [newDraft] at h
  split_ifs at h
  · cases h
  · cases h
    exact .refl react w

theorem setDraft_untouched {w w' : World κ ε} {draft : Profile} {e : String}
    (h : w.setDraft draft = (.error e, w')) : w.Untouched react w' := by
  rw [setDraft] at h
  cases hvalid : draft.validate with
  | error error =>
      rw [hvalid] at h
      cases h
      exact .refl react w
  | ok _ =>
      rw [hvalid] at h
      simp only at h
      split_ifs at h
      · cases h
      · cases h
        exact .refl react w

theorem saveLibrary_error {w w' : World κ ε} {library : Library} {e : String}
    (h : w.saveLibrary encode library = (.error e, w')) : w' = w := by
  rcases saveLibrary_cases encode w library with ⟨error, hs⟩ | ⟨_, hs⟩
  · rw [hs] at h
    cases h
    rfl
  · rw [hs] at h
    cases h

theorem saveDraft_untouched {w w' : World κ ε} {name : String} {copy : Bool} {e : String}
    (h : w.saveDraft encode name copy = (.error e, w')) : w.Untouched react w' := by
  rw [saveDraft] at h
  split_ifs at h
  · split at h
    · cases h
      exact .refl react w
    · split at h
      · cases h
        exact .refl react w
      · split at h
        · cases h
          exact .refl react w
        · split at h
          · cases h
            exact .refl react w
          · split at h
            · rename_i hsave
              cases h
              rw [saveLibrary_error encode hsave]
              exact .refl react w
            · cases h
  · cases h
    exact .refl react w

theorem select_untouched {w w' : World κ ε} {id : Nat} {e : String}
    (h : w.select react encode id = (.error e, w')) : w.Untouched react w' := by
  rw [select] at h
  split_ifs at h
  · cases h
    exact .refl react w
  · split at h
    · cases h
      exact .refl react w
    · cases h
  · split at h
    · cases h
      exact .refl react w
    · split at h
      · cases h
        exact .refl react w
      · simp only at h
        split at h
        · rename_i hsave
          cases h
          rw [saveLibrary_error encode hsave]
          exact .refl react w
        · cases h

theorem delete_untouched {w w' : World κ ε} {id : Nat} {e : String}
    (h : w.delete encode id = (.error e, w')) : w.Untouched react w' := by
  rw [delete] at h
  split_ifs at h
  · split at h
    · cases h
      exact .refl react w
    · simp only at h
      split at h
      · rename_i hsave
        cases h
        rw [saveLibrary_error encode hsave]
        exact .refl react w
      · cases h
  · cases h
    exact .refl react w

/-- A panel request that is refused has drawn an id. -/
theorem panelCall_error {w w' : World κ ε} {master index : Nat} {e : String}
    (h : w.call react (fun refusal r => r.panelVolumeRequest refusal master index) =
      (.error e, w')) :
    w' =
      { (w.interrupt react).1 with
          registry := { (w.interrupt react).1.registry with
            issued := (w.interrupt react).1.registry.issued + 1 } } := by
  rcases (w.interrupt react).1.registry.volumeRequestWithBarrier_cases (w.interrupt react).2
    master index .restoreSpeaker true with ⟨error, hrefused⟩ | hqueued
  · simp only [call, Registry.panelVolumeRequest, hrefused] at h
    cases h
    rfl
  · simp only [call, Registry.panelVolumeRequest, hqueued] at h
    cases h

theorem setVolume_untouched {w w' : World κ ε} {requested : Nat} {e : String}
    (h : w.setVolume react requested = (.error e, w')) : w.Untouched react w' := by
  rw [setVolume] at h
  split_ifs at h
  · cases h
    exact .refl react w
  · have hsnapshots := snapshots_untouched react w
    have hafter : (w.snapshots react).2 = (w.interrupt react).1 := rfl
    simp only at h
    split at h
    · cases h
      exact hsnapshots
    · split at h
      · split at h
        · cases h
          exact hsnapshots
        · split at h
          · rename_i hcall
            cases h
            refine ⟨2, ((w.interrupt react).1.interrupt react).1.registry.issued + 1, ?_⟩
            rw [panelCall_error react hcall, hafter]
            rfl
          · cases h
      · cases h
        exact hsnapshots

/-- An operation that fails leaves no trace. -/
theorem attempt_untouched {w w' : World κ ε} {o : FallibleOperation} {e : String}
    (h : w.attempt react encode o = (.error e, w')) : w.Untouched react w' := by
  cases o with
  | «open» => exact openWindow_untouched react h
  | setMaster master => exact setMaster_untouched react h
  | newDraft => exact newDraft_untouched react h
  | setDraft draft => exact setDraft_untouched react h
  | saveDraft name copy => exact saveDraft_untouched react encode h
  | select id => exact select_untouched react encode h
  | delete id => exact delete_untouched react encode h
  | setVolume requested => exact setVolume_untouched react h

end Failures

section Unchanged

/-- **Failing operations change nothing.**  The state of the controller, the transmission gate
and the profile file are as before, and so are the receivers, but for what other threads did
in the meantime. -/
theorem failed_operations_change_nothing {w w' : World κ ε} {o : FallibleOperation} {e : String}
    (h : w.attempt react encode o = (.error e, w')) :
    w'.state = w.state ∧ w'.calibrating = w.calibrating ∧ w'.file = w.file ∧
      w'.writes = w.writes ∧
      (∃ n,
        let after := run react (w.registry, w.outside) ((w.script.take n).flatMap Call.events)
        w'.registry.receivers = after.1.receivers ∧ w'.registry.nextId = after.1.nextId ∧
          w'.outside = after.2) ∧
      ((∀ c ∈ w.script, c.events = []) → w'.registry.receivers = w.registry.receivers) := by
  obtain ⟨n, issued, rfl⟩ := attempt_untouched react encode h
  obtain ⟨hevents, hstate, hcalibrating, hfile, hwrites⟩ := interrupted_spec react n w
  refine ⟨hstate, hcalibrating, hfile, hwrites, ⟨n, ?_⟩, ?_⟩
  · rw [← hevents]
    exact ⟨rfl, rfl, rfl⟩
  · intro hquiet
    have hnone : (w.script.take n).flatMap Call.events = [] :=
      List.flatMap_eq_nil_iff.mpr fun c hc => hquiet c (List.mem_of_mem_take hc)
    rw [hnone] at hevents
    exact congrArg (fun after : Registry × κ => after.1.receivers) hevents

/-- A status of the master of `roomProfile`. -/
def roomMaster : DeviceStatus where
  requestId := 0
  deviceId := "main"
  name := "Main"
  volume := 3
  minimum := 0
  maximum := 15
  fixed := false
  speaker := true
  failed := false

/-- The master of the active profile is there, and its control queue is full. -/
def fullQueue : World Unit RegistryEvent :=
  { start RegistryEvent Library.decode .absent () 0 with
      state := .new ⟨1, some 1, [roomProfile 1]⟩ "" 0
      script :=
        [{ elapsed := 0
           events := [.register, .updateDevice 0 roomMaster]
           refusal := fun _ => none },
          { elapsed := 10
            events := []
            refusal := fun _ => some "full" }] }

theorem failed_operations_change_nothing_full_queue :
    ∃ e w', fullQueue.attempt Registry.environment Library.encode (.setVolume 5) = (.error e, w') ∧
      w'.state = fullQueue.state ∧ w'.calibrating = fullQueue.calibrating ∧
      w'.file = fullQueue.file ∧ w'.writes = fullQueue.writes ∧
      (∃ n,
        let after := run Registry.environment (fullQueue.registry, fullQueue.outside)
          ((fullQueue.script.take n).flatMap Call.events)
        w'.registry.receivers = after.1.receivers ∧ w'.registry.nextId = after.1.nextId ∧
          w'.outside = after.2) ∧
      ((∀ c ∈ fullQueue.script, c.events = []) →
        w'.registry.receivers = fullQueue.registry.receivers) := by
  have hfails : (fullQueue.attempt Registry.environment Library.encode (.setVolume 5)).1.isOk =
      false := by decide
  rcases hresult : fullQueue.attempt Registry.environment Library.encode (.setVolume 5) with
    ⟨e | _, w'⟩
  · exact ⟨e, w', rfl, failed_operations_change_nothing Registry.environment Library.encode hresult⟩
  · rw [hresult] at hfails
    cases hfails

end Unchanged

end World

end Soundwave

import Soundwave.VolumeController

/-!
# Rules for the operations of the controller

Two kinds of facts about all operations are proved here once.

`World.Agree` is a frame condition: the loops of the operations and their
registry calls change at most the pending and blocked receivers, the message,
the registry and the environment's part of the world.

`RequestRules`, `CallRules`, `TakeRules`, `GroupRules` and `TickRules` are the
conditions under which a property of the registry, of the environment and of the
incidents survives an operation: every single call has to keep it.  Only `close`
silences and cancels; opening gates and taking over a volume happen in `tick` only.
So these are asked for there and nowhere else.
-/

namespace Soundwave

namespace World

variable {κ ε : Type} (react : Registry × κ → ε → Registry × κ)

section Frames

/-- The worlds differ at most in what the calls and loops of an operation change. -/
structure Agree (w w' : World κ ε) : Prop where
  library : w'.state.library = w.state.library
  editing : w'.state.editing = w.state.editing
  masterSeen : w'.state.masterSeen = w.state.masterSeen
  dirty : w'.state.dirty = w.state.dirty
  confirmed : w'.state.confirmed = w.state.confirmed
  loadError : w'.state.loadError = w.state.loadError
  calibrating : w'.calibrating = w.calibrating
  file : w'.file = w.file
  saveFailure : w'.saveFailure = w.saveFailure
  writes : w'.writes = w.writes
  incidents : w'.incidents = w.incidents

namespace Agree

theorem refl (w : World κ ε) : w.Agree w :=
  ⟨rfl, rfl, rfl, rfl, rfl, rfl, rfl, rfl, rfl, rfl, rfl⟩

theorem trans {w₁ w₂ w₃ : World κ ε} (h : w₁.Agree w₂) (h' : w₂.Agree w₃) : w₁.Agree w₃ where
  library := h'.library.trans h.library
  editing := h'.editing.trans h.editing
  masterSeen := h'.masterSeen.trans h.masterSeen
  dirty := h'.dirty.trans h.dirty
  confirmed := h'.confirmed.trans h.confirmed
  loadError := h'.loadError.trans h.loadError
  calibrating := h'.calibrating.trans h.calibrating
  file := h'.file.trans h.file
  saveFailure := h'.saveFailure.trans h.saveFailure
  writes := h'.writes.trans h.writes
  incidents := h'.incidents.trans h.incidents

end Agree

/-- What profiles and volumes are known, confirmed and saved is the same; further
incidents may have been written down. -/
structure SameVolumes (w w' : World κ ε) : Prop where
  library : w'.state.library = w.state.library
  dirty : w'.state.dirty = w.state.dirty
  confirmed : w'.state.confirmed = w.state.confirmed
  loadError : w'.state.loadError = w.state.loadError
  file : w'.file = w.file
  writes : w'.writes = w.writes
  incidents : w.incidents ⊆ w'.incidents

namespace SameVolumes

theorem trans {w₁ w₂ w₃ : World κ ε} (h : w₁.SameVolumes w₂) (h' : w₂.SameVolumes w₃) :
    w₁.SameVolumes w₃ where
  library := h'.library.trans h.library
  dirty := h'.dirty.trans h.dirty
  confirmed := h'.confirmed.trans h.confirmed
  loadError := h'.loadError.trans h.loadError
  file := h'.file.trans h.file
  writes := h'.writes.trans h.writes
  incidents := List.Subset.trans h.incidents h'.incidents

theorem persisted {w w' : World κ ε} (h : w.SameVolumes w') :
    w'.state.persisted = w.state.persisted := by
  simp only [ControlState.persisted, h.confirmed, h.library]

end SameVolumes

/-- A weaker frame condition: `tick` may also remember its master and take over a
volume, which it writes down. -/
structure Keeps (w w' : World κ ε) : Prop extends SameVolumes w w' where
  editing : w'.state.editing = w.state.editing
  calibrating : w'.calibrating = w.calibrating

theorem Keeps.trans {w₁ w₂ w₃ : World κ ε} (h : w₁.Keeps w₂) (h' : w₂.Keeps w₃) :
    w₁.Keeps w₃ where
  toSameVolumes := h.toSameVolumes.trans h'.toSameVolumes
  editing := h'.editing.trans h.editing
  calibrating := h'.calibrating.trans h.calibrating

theorem Agree.keeps {w w' : World κ ε} (h : w.Agree w') : w.Keeps w' :=
  ⟨⟨h.library, h.dirty, h.confirmed, h.loadError, h.file, h.writes,
    fun _ hx => h.incidents ▸ hx⟩, h.editing, h.calibrating⟩

theorem interrupt_agree (w : World κ ε) : w.Agree (w.interrupt react).1 := by
  rw [interrupt]
  split
  · exact .refl w
  · exact ⟨rfl, rfl, rfl, rfl, rfl, rfl, rfl, rfl, rfl, rfl, rfl⟩

theorem call_agree {β : Type} (w : World κ ε)
    (f : (Nat → Option String) → Registry → β × Registry) :
    w.Agree (w.call react f).2 := by
  have h := interrupt_agree react w
  exact ⟨h.library, h.editing, h.masterSeen, h.dirty, h.confirmed, h.loadError, h.calibrating,
    h.file, h.saveFailure, h.writes, h.incidents⟩

theorem perform_agree (w : World κ ε) (f : (Nat → Option String) → Registry → Registry) :
    w.Agree (w.perform react f) :=
  call_agree react w _

theorem denyAll_agree (w : World κ ε) : w.Agree (w.denyAll react) :=
  perform_agree react w _

theorem snapshots_agree (w : World κ ε) : w.Agree (w.snapshots react).2 :=
  call_agree react w _

/-- A change of the bookkeeping of receivers is within the frame. -/
theorem update_agree (w : World κ ε) (f : ControlState → ControlState)
    (h : ∀ s, (f s).library = s.library ∧ (f s).editing = s.editing ∧
      (f s).masterSeen = s.masterSeen ∧ (f s).dirty = s.dirty ∧
      (f s).confirmed = s.confirmed ∧ (f s).loadError = s.loadError) :
    w.Agree (w.update f) := by
  obtain ⟨h1, h2, h3, h4, h5, h6⟩ := h w.state
  exact ⟨h1, h2, h3, h4, h5, h6, rfl, rfl, rfl, rfl, rfl⟩

theorem await_agree (w : World κ ε) (id request index now : Nat) :
    w.Agree (w.update (fun s => s.await id request index now)) :=
  update_agree w _ (fun _ => ⟨rfl, rfl, rfl, rfl, rfl, rfl⟩)

theorem block_agree (w : World κ ε) (id : Nat) (message : String) :
    w.Agree (w.update (fun s => s.block id message)) :=
  update_agree w _ (fun _ => ⟨rfl, rfl, rfl, rfl, rfl, rfl⟩)

theorem forget_agree (w : World κ ε) (id : Nat) : w.Agree (w.forget id) :=
  update_agree w _ (fun _ => ⟨rfl, rfl, rfl, rfl, rfl, rfl⟩)

theorem restoreOriginals_agree (w : World κ ε) (originals : List (Nat × DeviceStatus)) :
    w.Agree (w.restoreOriginals react originals) := by
  induction originals generalizing w with
  | nil =>
      exact .refl w
  | cons original rest ih =>
      obtain ⟨id, original⟩ := original
      have hcall := call_agree react w
        (fun refusal r => r.restoreVolumeRequest refusal id original.volume)
      rw [restoreOriginals]
      rcases hresult : w.call react
        (fun refusal r => r.restoreVolumeRequest refusal id original.volume) with ⟨answer, w1⟩
      rw [hresult] at hcall
      cases answer with
      | ok request =>
          exact hcall.trans ((await_agree w1 _ _ _ _).trans (ih _))
      | error e =>
          refine hcall.trans (Agree.trans ?_ (ih _))
          exact update_agree w1 _ (fun _ => ⟨rfl, rfl, rfl, rfl, rfl, rfl⟩)

theorem reviewPending_agree (ids : List Nat) (failures : List (Nat × String)) (w : World κ ε)
    (entries : List (Nat × Pending)) :
    w.Agree (w.reviewPending react ids failures entries).2 := by
  induction entries generalizing w failures with
  | nil =>
      exact .refl w
  | cons entry rest ih =>
      obtain ⟨id, pending⟩ := entry
      rw [reviewPending]
      by_cases hid : id ∈ ids
      · rw [if_pos hid]
        have hcall := call_agree react w
          (fun _ r => r.takeReply id pending.request)
        rcases hresult : w.call react (fun _ r => r.takeReply id pending.request) with
          ⟨reply, w1⟩
        rw [hresult] at hcall
        cases reply with
        | some reply =>
            exact hcall.trans ((forget_agree w1 id).trans (ih _ _))
        | none =>
            simp only
            split_ifs
            · exact hcall.trans ((forget_agree w1 id).trans (ih _ _))
            · exact hcall.trans (ih _ _)
      · rw [if_neg hid]
        exact (forget_agree w id).trans (ih _ _)

/-- Blocking receivers keeps everything but the bookkeeping. -/
theorem foldl_block_agree (w : World κ ε) (failures : List (Nat × String)) :
    w.Agree (w.update (fun s =>
      failures.foldl (fun s failure => s.block failure.1 failure.2) s)) := by
  induction failures generalizing w with
  | nil =>
      exact .refl w
  | cons failure failures ih =>
      exact (block_agree w failure.1 failure.2).trans (ih _)

theorem review_agree (w : World κ ε) (snapshots : List ReceiverSnapshot) :
    w.Agree (w.review react snapshots) := by
  have hblocked : w.Agree (w.update (fun s => { s with
      blocked := s.blocked.filter (fun id _ => id ∈ snapshots.map ReceiverSnapshot.id) })) :=
    update_agree w _ (fun _ => ⟨rfl, rfl, rfl, rfl, rfl, rfl⟩)
  simp only [review]
  exact hblocked.trans ((reviewPending_agree react _ _ _ _).trans (foldl_block_agree _ _))

theorem fenceNeeded_agree (w : World κ ε) (master : Nat) :
    w.Agree (w.fenceNeeded react master).2 := by
  rw [fenceNeeded]
  split_ifs
  · exact .refl w
  · exact call_agree react w _

theorem restoreTargets_agree (devices : List (Nat × DeviceStatus)) (ready : Bool)
    (w : World κ ε) (targets : List (Nat × Nat)) :
    w.Agree (w.restoreTargets react devices ready targets).2 := by
  induction targets generalizing w ready with
  | nil =>
      exact .refl w
  | cons target rest ih =>
      obtain ⟨id, target⟩ := target
      rw [restoreTargets]
      split_ifs
      · exact ih _ _
      · have hcall := call_agree react w
          (fun refusal r => r.restoreVolumeRequest refusal id target)
        rcases hresult : w.call react
          (fun refusal r => r.restoreVolumeRequest refusal id target) with ⟨answer, w1⟩
        rw [hresult] at hcall
        cases answer with
        | ok request =>
            exact hcall.trans ((await_agree w1 _ _ _ _).trans (ih _ _))
        | error e =>
            exact hcall.trans ((block_agree w1 _ _).trans (ih _ _))
      · exact ih _ _

/-- Opening the window fails, or shuts all gates and leaves the volumes alone. -/
theorem openWindow_cases (w : World κ ε) :
    (w.openWindow react).2 = w ∨
      ∃ w1 : World κ ε,
        (w.openWindow react).2 = { w1.denyAll react with calibrating := true } ∧
        w1.state.editing = true ∧ w.SameVolumes w1 := by
  simp only [openWindow]
  split_ifs
  · exact Or.inl rfl
  · exact Or.inl rfl
  · have hsnap := snapshots_agree react
      (w.update (fun s => { s with editing := true, draft := s.library.current }))
    exact Or.inr ⟨_, rfl, hsnap.editing, hsnap.library, hsnap.dirty, hsnap.confirmed,
      hsnap.loadError, hsnap.file, hsnap.writes, hsnap.keeps.incidents⟩

/-- Closing the window leaves the volumes alone. -/
theorem closeWindow_frame (w : World κ ε) :
    (w.closeWindow react).state.editing = false ∧
      (w.closeWindow react).state.masterSeen = none ∧ w.SameVolumes (w.closeWindow react) := by
  have hsilence := perform_agree react w
    (fun refusal r => r.broadcast refusal (.calibrationTone 0 false))
  have hcancel := perform_agree react
    (w.perform react (fun refusal r => r.broadcast refusal (.calibrationTone 0 false)))
    (fun refusal r => r.broadcast refusal (.calibrationSession 0 .cancel))
  have hboth := hsilence.trans hcancel
  have hcleared := hboth.trans (update_agree _
    (fun s => { s with pending := .empty, originals := [] })
    (fun _ => ⟨rfl, rfl, rfl, rfl, rfl, rfl⟩))
  have h := hcleared.trans (restoreOriginals_agree react _
    ((w.perform react (fun refusal r => r.broadcast refusal (.calibrationTone 0 false))).perform
      react (fun refusal r => r.broadcast refusal (.calibrationSession 0 .cancel))).state.originals)
  exact ⟨rfl, rfl, h.library, h.dirty, h.confirmed, h.loadError, h.file, h.writes,
    h.keeps.incidents⟩

theorem draft_agree (w : World κ ε) (draft : Option Profile) :
    w.Agree (w.update (fun s => { s with draft := draft })) :=
  update_agree w _ (fun _ => ⟨rfl, rfl, rfl, rfl, rfl, rfl⟩)

theorem setMaster_agree (w : World κ ε) (master : DeviceStatus) :
    w.Agree (w.setMaster react master).2 := by
  simp only [setMaster]
  split_ifs
  · exact (snapshots_agree react w).trans (draft_agree _ _)
  · exact .refl w
  · exact .refl w

theorem remember_agree (w : World κ ε) (id : Nat) (device : DeviceStatus) :
    w.Agree (w.remember id device) := by
  rw [remember]
  split_ifs
  · exact update_agree w _ (fun _ => ⟨rfl, rfl, rfl, rfl, rfl, rfl⟩)
  · exact .refl w

theorem newDraft_agree (w : World κ ε) : w.Agree w.newDraft.2 := by
  rw [newDraft]
  split_ifs
  · exact draft_agree w _
  · exact .refl w

theorem edit_agree (w : World κ ε) (change : Profile → Except String Unit × Profile) :
    w.Agree (w.edit change).2 := by
  rw [edit]
  split_ifs
  · split
    · exact .refl w
    · exact draft_agree w _
  · exact .refl w

theorem setDraft_agree (w : World κ ε) (draft : Profile) : w.Agree (w.setDraft draft).2 := by
  rw [setDraft]
  split
  · exact .refl w
  · split_ifs
    · exact draft_agree w _
    · exact .refl w

theorem fence_keeps (w : World κ ε) (profile : Profile) (participating : List String)
    (master : Nat) (device : DeviceStatus) :
    w.Keeps (w.fence react profile participating master device) := by
  have hdeny := denyAll_agree react w
  simp only [fence]
  split_ifs
  · exact hdeny.keeps
  · cases hindex : profile.nearest profile.volume participating with
    | none =>
        exact hdeny.keeps
    | some index =>
        have hcall := call_agree react (w.denyAll react)
          (fun refusal r => r.panelVolumeRequest refusal master index)
        simp only
        rcases hresult : (w.denyAll react).call react
          (fun refusal r => r.panelVolumeRequest refusal master index) with ⟨answer, w1⟩
        rw [hresult] at hcall
        have hw1 := (hdeny.trans hcall).keeps
        cases answer with
        | ok request =>
            exact hw1.trans ⟨⟨rfl, rfl, rfl, rfl, rfl, rfl,
              List.subset_append_left _ _⟩, rfl, rfl⟩
        | error e =>
            exact hw1.trans (block_agree w1 _ _).keeps

theorem adopt_keeps (w : World κ ε) (profile : Profile) (master : Nat)
    (device : DeviceStatus) : w.Keeps (w.adopt react profile master device).2 := by
  have hcall := (call_agree react w (fun _ r => r.takeUnsolicitedVolume master)).keeps
  simp only [adopt]
  rcases hresult : w.call react (fun _ r => r.takeUnsolicitedVolume master) with
    ⟨unsolicited, w1⟩
  rw [hresult] at hcall
  cases unsolicited with
  | none =>
      exact hcall.trans ⟨⟨rfl, rfl, rfl, rfl, rfl, rfl, List.Subset.refl _⟩, rfl, rfl⟩
  | some volume =>
      simp only
      split_ifs
      · exact hcall.trans ⟨⟨rfl, rfl, rfl, rfl, rfl, rfl,
          List.subset_append_left _ _⟩, rfl, rfl⟩
      · exact hcall.trans ⟨⟨rfl, rfl, rfl, rfl, rfl, rfl, List.Subset.refl _⟩, rfl, rfl⟩

/-- The state in which the current profile has another volume. -/
def aimedState (s : ControlState) (id index now : Nat) : ControlState :=
  { s with library := s.library.withVolume id index, dirty := true, changed := now }

theorem aim_cases {w : World κ ε} {profile : Profile}
    (hprofile : w.state.library.current = some profile) (index : Nat) :
    (w.aim profile index = w ∧ profile.volume = index) ∨
      (profile.volume ≠ index ∧
        w.aim profile index = w.update (fun s => aimedState s profile.id index w.now)) := by
  simp only [aim, hprofile, Option.mem_some_iff, exists_eq_left']
  split_ifs with hvolume
  · exact Or.inr ⟨hvolume, rfl⟩
  · exact Or.inl ⟨rfl, not_not.mp hvolume⟩

/-- Afterwards the current profile has the volume aimed at. -/
theorem aim_current {w : World κ ε} {profile : Profile}
    (hprofile : w.state.library.current = some profile) (index : Nat) :
    (w.aim profile index).state.library.current = some { profile with volume := index } := by
  rcases aim_cases hprofile index with ⟨hw, rfl⟩ | ⟨_, hw⟩
  · rw [hw, hprofile]
  · rw [hw]
    exact Library.current_withVolume hprofile index

/-- The whole group was ready only if every device stands at its target. -/
theorem restoreTargets_ready {devices : List (Nat × DeviceStatus)} {ready : Bool}
    {w : World κ ε} {targets : List (Nat × Nat)}
    (h : (w.restoreTargets react devices ready targets).1 = true) :
    ready = true ∧ ∀ t ∈ targets, ∃ d, deviceOf devices t.1 = some d ∧ d.2.volume = t.2 := by
  induction targets generalizing w ready with
  | nil =>
      exact ⟨h, fun t ht => absurd ht List.not_mem_nil⟩
  | cons target rest ih =>
      obtain ⟨id, target⟩ := target
      rw [restoreTargets] at h
      split_ifs at h with hready
      · obtain ⟨hstart, hrest⟩ := ih h
        refine ⟨hstart, ?_⟩
        intro t ht
        rcases List.mem_cons.mp ht with rfl | ht
        · exact hready.1
        · exact hrest t ht
      · split at h
        · exact absurd (ih h).1 Bool.false_ne_true
        · exact absurd (ih h).1 Bool.false_ne_true
      · exact absurd (ih h).1 Bool.false_ne_true

end Frames

section Outcomes

variable (encode : Library → List UInt8)

/-- The world after a successful save. -/
def wrote (w : World κ ε) (library : Library) : World κ ε :=
  { w with file := .bytes (encode library), writes := w.writes ++ [library] }

/-- A save that fails changes nothing. -/
theorem saveLibrary_cases (w : World κ ε) (library : Library) :
    (∃ e, w.saveLibrary encode library = (.error e, w)) ∨
      ((encode library).length ≤ maxFileBytes ∧
        w.saveLibrary encode library = (.ok (), w.wrote encode library)) := by
  simp only [saveLibrary, Library.save]
  by_cases hsize : maxFileBytes < (encode library).length
  · simp only [if_pos hsize]
    exact Or.inl ⟨_, rfl⟩
  · simp only [if_neg hsize]
    cases hfailure : w.saveFailure with
    | some e =>
        exact Or.inl ⟨e, rfl⟩
    | none =>
        exact Or.inr ⟨by omega, by rw [wrote, hfailure]⟩

theorem ensureWritable_cases (s : ControlState) :
    (∃ e, s.ensureWritable = .error e) ∨ (s.loadError = none ∧ s.ensureWritable = .ok ()) := by
  rw [ControlState.ensureWritable]
  cases s.loadError with
  | some e =>
      exact Or.inl ⟨_, rfl⟩
  | none =>
      exact Or.inr ⟨rfl, rfl⟩

/-- The state that a successful `save_draft` leaves. -/
def storedState (s : ControlState) (library : Library) (id : Nat) (draft : Profile) :
    ControlState :=
  { s with
      library := library
      confirmed := some (id, draft.volume)
      draft := some { draft with id := id }
      dirty := false
      masterSeen := none
      message := "" }

/-- `save_draft` fails without effect, or stores the draft. -/
theorem saveDraft_cases (w : World κ ε) (name : String) (copy : Bool) :
    (w.saveDraft encode name copy).2 = w ∨
      ∃ draft stored library id,
        w.state.editing = true ∧ w.state.loadError = none ∧ w.state.draft = some draft ∧
        draftToSave draft name copy = .ok stored ∧
        w.state.persisted.put stored = .ok (library, id) ∧
        (encode library).length ≤ maxFileBytes ∧
        (w.saveDraft encode name copy).2 =
          ((w.wrote encode library).update (fun s => storedState s library id stored)).note
            (.stored id stored.volume) := by
  rw [saveDraft]
  cases hediting : w.state.editing with
  | false =>
      exact Or.inl rfl
  | true =>
      rcases ensureWritable_cases w.state with ⟨e, he⟩ | ⟨hwritable, he⟩
      · rw [he]
        exact Or.inl rfl
      · rw [he]
        cases hdraft : w.state.draft with
        | none =>
            exact Or.inl rfl
        | some draft =>
            simp only [if_true]
            cases hstored : draftToSave draft name copy with
            | error e =>
                exact Or.inl rfl
            | ok stored =>
                simp only
                cases hput : w.state.persisted.put stored with
                | error e =>
                    exact Or.inl rfl
                | ok result =>
                    obtain ⟨library, id⟩ := result
                    simp only
                    rcases saveLibrary_cases encode w library with ⟨e, hs⟩ | ⟨hsize, hs⟩
                    · rw [hs]
                      exact Or.inl rfl
                    · rw [hs]
                      exact Or.inr ⟨draft, stored, library, id, trivial, hwritable, rfl, hstored,
                        hput, hsize, rfl⟩

/-- The state that a successful `select` leaves. -/
def selectedState (s : ControlState) (library : Library) : ControlState :=
  { s with
      confirmed := library.current.map (fun p => (p.id, p.volume))
      library := library
      pending := .empty
      blocked := .empty
      masterSeen := none
      needsFence := true
      dirty := false
      message := "" }

/-- `select` fails without effect, changes the draft, or activates a profile. -/
theorem select_cases (w : World κ ε) (id : Nat) :
    (w.select react encode id).2 = w ∨
      (∃ draft, (w.select react encode id).2 =
        w.update (fun s => { s with draft := some draft })) ∨
      ∃ profile library,
        w.state.editing = false ∧ w.state.loadError = none ∧
        w.state.library.profiles.find? (fun p => p.id = id) = some profile ∧
        library = { w.state.persisted with active := some id } ∧
        (encode library).length ≤ maxFileBytes ∧
        (w.select react encode id).2 =
          ((w.wrote encode library).denyAll react).update
            (fun s => selectedState s library) := by
  rw [select]
  by_cases hpending : w.state.pending.size ≠ 0
  · rw [if_pos hpending]
    exact Or.inl rfl
  · rw [if_neg hpending]
    cases hfind : w.state.library.profiles.find? (fun p => p.id = id) with
    | none =>
        exact Or.inl rfl
    | some profile =>
        simp only
        split_ifs with hediting
        · exact Or.inr (Or.inl ⟨profile, rfl⟩)
        · rcases ensureWritable_cases w.state with ⟨e, he⟩ | ⟨hwritable, he⟩
          · rw [he]
            exact Or.inl rfl
          · rw [he]
            simp only
            rcases saveLibrary_cases encode w { w.state.persisted with active := some id } with
              ⟨e, hs⟩ | ⟨hsize, hs⟩
            · rw [hs]
              exact Or.inl rfl
            · rw [hs]
              exact Or.inr (Or.inr ⟨profile, _, by simpa using hediting, hwritable, rfl, rfl,
                hsize, rfl⟩)

/-- The library that `delete` writes. -/
def without (persisted : Library) (id : Nat) : Library :=
  { persisted with
      profiles := persisted.profiles.filter (fun p => p.id ≠ id)
      active := if persisted.active = some id then none else persisted.active }

/-- The state that a successful `delete` leaves. -/
def deletedState (s : ControlState) (library : Library) : ControlState :=
  { s with
      confirmed := library.current.map (fun p => (p.id, p.volume))
      library := library
      draft := library.current
      dirty := false }

/-- `delete` fails without effect, or removes the profile. -/
theorem delete_cases (w : World κ ε) (id : Nat) :
    (w.delete encode id).2 = w ∨
      (w.state.editing = true ∧ w.state.loadError = none ∧
        (encode (without w.state.persisted id)).length ≤ maxFileBytes ∧
        (w.delete encode id).2 =
          (w.wrote encode (without w.state.persisted id)).update
            (fun s => deletedState s (without w.state.persisted id))) := by
  rw [delete]
  cases hediting : w.state.editing with
  | false =>
      exact Or.inl rfl
  | true =>
      simp only [if_true]
      rcases ensureWritable_cases w.state with ⟨e, he⟩ | ⟨hwritable, he⟩
      · rw [he]
        exact Or.inl rfl
      · rw [he]
        simp only
        rcases saveLibrary_cases encode w (without w.state.persisted id) with
          ⟨e, hs⟩ | ⟨hsize, hs⟩
        · rw [without] at hs
          rw [hs]
          exact Or.inl rfl
        · rw [without] at hs
          rw [hs]
          exact Or.inr ⟨trivial, hwritable, hsize, rfl⟩

/-- The state that a successful `set_volume` leaves. -/
def requestedState (s : ControlState) (master request index now : Nat) : ControlState :=
  { s.await master request index now with
      library :=
        { s.library with
            profiles := updateFirst (fun p => some p.id = s.library.active)
              (fun p => { p with volume := index }) s.library.profiles }
      needsFence := false
      message := ""
      blocked := .empty
      dirty := true
      changed := now }

theorem requestedState_library {s : ControlState} {profile : Profile}
    (h : s.library.current = some profile) (master request index now : Nat) :
    (requestedState s master request index now).library =
      s.library.withVolume profile.id index := by
  simp [requestedState, Library.withVolume, Library.current_id h]

/-- `set_volume` fails, or queues a panel request and shuts all gates. -/
theorem setVolume_cases (w : World κ ε) (requested : Nat) :
    w.Agree (w.setVolume react requested).2 ∨
      ∃ w1 profile master request index,
        w.Agree w1 ∧ w1.state.library.current = some profile ∧
        (w.setVolume react requested).2 =
          ((w1.note (.panel master request)).update
            (fun s => requestedState s master request index w1.now)).denyAll react := by
  simp only [setVolume]
  split_ifs
  · exact Or.inl (.refl w)
  · have hsnap := snapshots_agree react w
    rcases hsnapshots : w.snapshots react with ⟨snapshots, w1⟩
    rw [hsnapshots] at hsnap
    simp only
    cases hprofile : w1.state.library.current with
    | none =>
        exact Or.inl hsnap
    | some profile =>
        simp only
        split
        · rename_i master device hmatching
          split
          · exact Or.inl hsnap
          · rename_i index hindex
            have hcall := call_agree react w1
              (fun refusal r => r.panelVolumeRequest refusal master index)
            rcases hresult : w1.call react
              (fun refusal r => r.panelVolumeRequest refusal master index) with ⟨answer, w2⟩
            rw [hresult] at hcall
            cases answer with
            | error e =>
                exact Or.inl (hsnap.trans hcall)
            | ok request =>
                exact Or.inr ⟨w2, profile, master, request, index, hsnap.trans hcall,
                  by rw [hcall.library]; exact hprofile, rfl⟩
        · exact Or.inl hsnap

/-- The last part of `tick` does nothing that matters, or saves. -/
theorem saveConfirmed_cases (w : World κ ε) :
    w.Agree (w.saveConfirmed encode) ∧ (w.saveConfirmed encode).registry = w.registry ∧
        (w.saveConfirmed encode).outside = w.outside ∨
      (w.state.loadError = none ∧ (encode w.state.persisted).length ≤ maxFileBytes ∧
        w.saveConfirmed encode =
          (w.wrote encode w.state.persisted).update (fun s => { s with dirty := false })) := by
  have hpostpone : ∀ e, w.Agree (w.postpone e) := fun e =>
    update_agree w _ (fun _ => ⟨rfl, rfl, rfl, rfl, rfl, rfl⟩)
  rw [saveConfirmed]
  split_ifs
  · rcases ensureWritable_cases w.state with ⟨e, he⟩ | ⟨hwritable, he⟩
    · rw [he]
      exact Or.inl ⟨hpostpone e, rfl, rfl⟩
    · rw [he]
      rcases saveLibrary_cases encode w w.state.persisted with ⟨e, hs⟩ | ⟨hsize, hs⟩
      · simp only [hs]
        exact Or.inl ⟨hpostpone e, rfl, rfl⟩
      · simp only [hs]
        exact Or.inr ⟨hwritable, hsize, trivial⟩
  · exact Or.inl ⟨.refl w, rfl, rfl⟩

end Outcomes

section Rules

variable (encode : Library → List UInt8)

/-- The calls that operations make while the window stays as it is keep `P`. -/
structure RequestRules (P : Registry → κ → List Incident → Prop) : Prop where
  environment : ∀ r k i e, P r k i → P (react (r, k) e).1 (react (r, k) e).2 i
  denyAll : ∀ r k i, P r k i → P r.denyAll k i
  restore : ∀ r k i refusal id index,
    P r k i → P (r.restoreVolumeRequest refusal id index).2 k i
  panel : ∀ r k i refusal id index request,
    (r.panelVolumeRequest refusal id index).1 = .ok request →
      P r k i → P (r.panelVolumeRequest refusal id index).2 k (i ++ [.panel id request])
  panelRefused : ∀ r k i refusal id index e,
    (r.panelVolumeRequest refusal id index).1 = .error e →
      P r k i → P (r.panelVolumeRequest refusal id index).2 k i
  takeReply : ∀ r k i id request, P r k i → P (r.takeReply id request).2 k i
  stored : ∀ r k i id volume, P r k i → P r k (i ++ [.stored id volume])

/-- The calls that every operation may make keep `P`. -/
structure CallRules (P : Registry → κ → List Incident → Prop) : Prop extends
    RequestRules react P where
  silence : ∀ r k i refusal, P r k i → P (r.broadcast refusal (.calibrationTone 0 false)) k i
  cancel : ∀ r k i refusal, P r k i → P (r.broadcast refusal (.calibrationSession 0 .cancel)) k i

/-- `P` of the parts of a world. -/
def Holds (P : Registry → κ → List Incident → Prop) (w : World κ ε) : Prop :=
  P w.registry w.outside w.incidents

variable {react} {P : Registry → κ → List Incident → Prop}

theorem RequestRules.run (rules : RequestRules react P) {r : Registry} {k : κ} {i : List Incident}
    (h : P r k i) (es : List ε) :
    P (Soundwave.run react (r, k) es).1 (Soundwave.run react (r, k) es).2 i :=
  run_preserves (fun s : Registry × κ => P s.1 s.2 i)
    (fun s e hs => rules.environment s.1 s.2 i e hs) h es

theorem update_holds {w : World κ ε} (h : w.Holds P) (f : ControlState → ControlState) :
    (w.update f).Holds P :=
  h

theorem interrupt_holds (rules : RequestRules react P) {w : World κ ε} (h : w.Holds P) :
    (w.interrupt react).1.Holds P := by
  rw [interrupt]
  split
  · exact h
  · exact rules.run h _

/-- A call that keeps `P` on every registry. -/
theorem call_holds (rules : RequestRules react P) {β : Type} {w : World κ ε} (h : w.Holds P)
    (f : (Nat → Option String) → Registry → β × Registry)
    (hf : ∀ r k i refusal, P r k i → P (f refusal r).2 k i) :
    (w.call react f).2.Holds P :=
  hf _ _ _ _ (interrupt_holds rules h)

theorem denyAll_holds (rules : RequestRules react P) {w : World κ ε} (h : w.Holds P) :
    (w.denyAll react).Holds P :=
  call_holds rules h _ (fun r k i _ => rules.denyAll r k i)

theorem snapshots_holds (rules : RequestRules react P) {w : World κ ε} (h : w.Holds P) :
    (w.snapshots react).2.Holds P :=
  call_holds rules h _ (fun _ _ _ _ hP => hP)

theorem restoreCall_holds (rules : RequestRules react P) {w : World κ ε} (h : w.Holds P)
    (id index : Nat) :
    (w.call react (fun refusal r => r.restoreVolumeRequest refusal id index)).2.Holds P :=
  call_holds rules h _ (fun r k i refusal => rules.restore r k i refusal id index)

/-- A panel request that was queued is noted. -/
theorem panelCall_holds (rules : RequestRules react P) {w w' : World κ ε} (h : w.Holds P)
    {id index request : Nat}
    (hcall : w.call react (fun refusal r => r.panelVolumeRequest refusal id index) =
      (.ok request, w')) :
    (w'.note (.panel id request)).Holds P := by
  have h' := interrupt_holds rules h
  rw [call, Prod.mk.injEq] at hcall
  obtain ⟨hanswer, rfl⟩ := hcall
  exact rules.panel _ _ _ _ id index request hanswer h'

theorem panelCall_refused_holds (rules : RequestRules react P) {w w' : World κ ε}
    (h : w.Holds P) {id index : Nat} {e : String}
    (hcall : w.call react (fun refusal r => r.panelVolumeRequest refusal id index) =
      (.error e, w')) :
    w'.Holds P := by
  have h' := interrupt_holds rules h
  rw [call, Prod.mk.injEq] at hcall
  obtain ⟨hanswer, rfl⟩ := hcall
  exact rules.panelRefused _ _ _ _ id index e hanswer h'

theorem restoreOriginals_holds (rules : RequestRules react P) {w : World κ ε} (h : w.Holds P)
    (originals : List (Nat × DeviceStatus)) :
    (w.restoreOriginals react originals).Holds P := by
  induction originals generalizing w with
  | nil =>
      exact h
  | cons original rest ih =>
      obtain ⟨id, original⟩ := original
      have hcall := restoreCall_holds rules h id original.volume
      rw [restoreOriginals]
      rcases hresult : w.call react
        (fun refusal r => r.restoreVolumeRequest refusal id original.volume) with ⟨answer, w1⟩
      rw [hresult] at hcall
      cases answer with
      | ok request =>
          exact ih (update_holds hcall _)
      | error e =>
          exact ih (update_holds hcall _)

theorem reviewPending_holds (rules : RequestRules react P) {w : World κ ε} (h : w.Holds P)
    (ids : List Nat) (failures : List (Nat × String)) (entries : List (Nat × Pending)) :
    (w.reviewPending react ids failures entries).2.Holds P := by
  induction entries generalizing w failures with
  | nil =>
      exact h
  | cons entry rest ih =>
      obtain ⟨id, pending⟩ := entry
      rw [reviewPending]
      by_cases hid : id ∈ ids
      · rw [if_pos hid]
        have hcall := call_holds rules h (fun _ r => r.takeReply id pending.request)
          (fun r k i _ => rules.takeReply r k i id pending.request)
        rcases hresult : w.call react (fun _ r => r.takeReply id pending.request) with
          ⟨reply, w1⟩
        rw [hresult] at hcall
        cases reply with
        | some reply =>
            exact ih (update_holds hcall _) _
        | none =>
            simp only
            split_ifs
            · exact ih (update_holds hcall _) _
            · exact ih hcall _
      · rw [if_neg hid]
        exact ih (update_holds h _) _

theorem review_holds (rules : RequestRules react P) {w : World κ ε} (h : w.Holds P)
    (snapshots : List ReceiverSnapshot) :
    (w.review react snapshots).Holds P :=
  update_holds (reviewPending_holds rules (update_holds h _) _ _ _) _

theorem restoreTargets_holds (rules : RequestRules react P) {w : World κ ε} (h : w.Holds P)
    (devices : List (Nat × DeviceStatus)) (ready : Bool) (targets : List (Nat × Nat)) :
    (w.restoreTargets react devices ready targets).2.Holds P := by
  induction targets generalizing w ready with
  | nil =>
      exact h
  | cons target rest ih =>
      obtain ⟨id, target⟩ := target
      rw [restoreTargets]
      split_ifs
      · exact ih h _
      · have hcall := restoreCall_holds rules h id target
        rcases hresult : w.call react
          (fun refusal r => r.restoreVolumeRequest refusal id target) with ⟨answer, w1⟩
        rw [hresult] at hcall
        cases answer with
        | ok request =>
            exact ih (update_holds hcall _) _
        | error e =>
            exact ih (update_holds hcall _) _
      · exact ih h _

theorem fence_holds (rules : RequestRules react P) {w : World κ ε}
    (hdeny : (w.denyAll react).Holds P)
    (profile : Profile) (participating : List String) (master : Nat) (device : DeviceStatus) :
    (w.fence react profile participating master device).Holds P := by
  simp only [fence]
  split_ifs
  · exact hdeny
  · cases hindex : profile.nearest profile.volume participating with
    | none =>
        exact hdeny
    | some index =>
        simp only
        rcases hresult : (w.denyAll react).call react
          (fun refusal r => r.panelVolumeRequest refusal master index) with ⟨answer, w1⟩
        cases answer with
        | ok request =>
            exact update_holds (panelCall_holds rules hdeny hresult) _
        | error e =>
            exact update_holds (panelCall_refused_holds rules hdeny hresult) _

theorem openWindow_holds (rules : RequestRules react P) {w : World κ ε} (h : w.Holds P) :
    (w.openWindow react).2.Holds P := by
  simp only [openWindow]
  split_ifs
  · exact h
  · exact h
  · refine denyAll_holds rules ?_
    exact snapshots_holds rules h

theorem closeWindow_holds (rules : CallRules react P) {w : World κ ε} (h : w.Holds P) :
    (w.closeWindow react).Holds P := by
  have hsilent : (w.perform react
      (fun refusal r => r.broadcast refusal (.calibrationTone 0 false))).Holds P :=
    call_holds rules.toRequestRules h _ rules.silence
  have hcancelled := call_holds rules.toRequestRules hsilent
    (fun refusal r => ((), r.broadcast refusal (.calibrationSession 0 .cancel))) rules.cancel
  exact restoreOriginals_holds rules.toRequestRules (update_holds hcancelled
    (fun s => { s with pending := .empty, originals := [] })) _

theorem setMaster_holds (rules : RequestRules react P) {w : World κ ε} (h : w.Holds P)
    (master : DeviceStatus) : (w.setMaster react master).2.Holds P := by
  simp only [setMaster]
  split_ifs
  · exact snapshots_holds rules h
  · exact h
  · exact h

theorem saveDraft_holds (rules : RequestRules react P) {w : World κ ε} (h : w.Holds P)
    (name : String) (copy : Bool) : (w.saveDraft encode name copy).2.Holds P := by
  rcases saveDraft_cases encode w name copy with
    hw | ⟨draft, stored, library, id, _, _, _, _, _, _, hw⟩
  · rw [hw]
    exact h
  · rw [hw]
    exact rules.stored _ _ _ id stored.volume h

theorem select_holds (rules : RequestRules react P) {w : World κ ε} (h : w.Holds P) (id : Nat) :
    (w.select react encode id).2.Holds P := by
  rcases select_cases react encode w id with
    hw | ⟨draft, hw⟩ | ⟨profile, library, _, _, _, _, _, hw⟩
  · rw [hw]
    exact h
  · rw [hw]
    exact h
  · rw [hw]
    have hwrote : (w.wrote encode library).Holds P := h
    exact denyAll_holds rules hwrote

theorem delete_holds {w : World κ ε} (h : w.Holds P) (id : Nat) :
    (w.delete encode id).2.Holds P := by
  rcases delete_cases encode w id with hw | ⟨_, _, _, hw⟩
  · rw [hw]
    exact h
  · rw [hw]
    exact h

theorem setVolume_holds (rules : RequestRules react P) {w : World κ ε} (h : w.Holds P)
    (requested : Nat) : (w.setVolume react requested).2.Holds P := by
  simp only [setVolume]
  split_ifs
  · exact h
  · have hsnap := snapshots_holds rules h
    rcases hsnapshots : w.snapshots react with ⟨snapshots, w1⟩
    rw [hsnapshots] at hsnap
    simp only
    cases hprofile : w1.state.library.current with
    | none =>
        exact hsnap
    | some profile =>
        simp only
        split
        · rename_i master device hmatching
          split
          · exact hsnap
          · rename_i index hindex
            rcases hresult : w1.call react
              (fun refusal r => r.panelVolumeRequest refusal master index) with ⟨answer, w2⟩
            cases answer with
            | error e =>
                exact panelCall_refused_holds rules hsnap hresult
            | ok request =>
                have hpanel := panelCall_holds rules hsnap hresult
                exact denyAll_holds rules (update_holds hpanel _)
        · exact hsnap

theorem saveConfirmed_holds {w : World κ ε} (h : w.Holds P) :
    (w.saveConfirmed encode).Holds P := by
  rcases saveConfirmed_cases encode w with ⟨hagree, hregistry, houtside⟩ | ⟨_, _, hw⟩
  · rw [Holds, hregistry, houtside, hagree.incidents]
    exact h
  · rw [hw]
    exact h

end Rules

section TickRules

variable (encode : Library → List UInt8)

/-- The calls that `tick` makes before it knows whether the group is ready keep
`P`. -/
structure TakeRules (P : Registry → κ → List Incident → Prop) : Prop extends
    RequestRules react P where
  takeUnsolicited : ∀ r k i id, P r k i → P (r.takeUnsolicitedVolume id).2 k i

/-- The calls that `tick` makes keep `P`. -/
structure GroupRules (P : Registry → κ → List Incident → Prop) : Prop extends
    TakeRules react P where
  approve : ∀ r k i expected, P r k i → P (r.approve expected) k i
  confirmed : ∀ r k i id volume, P r k i → P r k (i ++ [.confirmed id volume])

/-- All calls of operations keep `P`. -/
structure TickRules (P : Registry → κ → List Incident → Prop) : Prop extends
    CallRules react P, GroupRules react P

/-- Taking over a volume, with the note of it, keeps `P`. -/
def AdoptRule (P : Registry → κ → List Incident → Prop) : Prop :=
  ∀ r k i id volume, (r.takeUnsolicitedVolume id).1 = some volume → P r k i →
    P (r.takeUnsolicitedVolume id).2 k
      (i ++ [.adopted id volume ((r.takeUnsolicitedVolume id).2.queuedTo id)])

variable {react} {P : Registry → κ → List Incident → Prop}

/-- `tick` without the step that may take over a volume. -/
theorem settle_holds (rules : GroupRules react P) {w : World κ ε} (h : w.Holds P)
    (profile : Profile) (devices : List (Nat × DeviceStatus)) (targets : List (Nat × Nat))
    (index : Nat) (ready : Bool) :
    (w.settle react encode profile devices targets index ready).Holds P := by
  cases ready with
  | false =>
      exact denyAll_holds rules.toRequestRules h
  | true =>
      have happroved := call_holds rules.toRequestRules h
        (fun _ r => ((), r.approve (targets.filterMap (fun t => deviceOf devices t.1))))
        (fun r k i _ => rules.approve r k i _)
      have hconfirmed := rules.confirmed _ _ _ profile.id index happroved
      exact saveConfirmed_holds encode hconfirmed

/-- Whatever `adopt` yields, the rest of the branch keeps `P`. -/
theorem follow_holds (rules : GroupRules react P) {w : World κ ε}
    (profile : Profile) (participating : List String) (devices : List (Nat × DeviceStatus))
    (master : Nat) (device : DeviceStatus)
    (hadopt : (w.adopt react profile master device).2.Holds P) :
    (w.follow react encode profile participating devices master device).Holds P := by
  rcases hresult : w.adopt react profile master device with ⟨requested, w1⟩
  rw [hresult] at hadopt
  simp only [follow, hresult]
  cases hindex : profile.nearest requested participating with
  | none =>
      exact denyAll_holds rules.toRequestRules hadopt
  | some index =>
      have haim : (w1.aim profile index).Holds P := by
        rw [aim]
        split_ifs
        · exact hadopt
        · exact hadopt
      exact settle_holds encode rules
        (restoreTargets_holds rules.toRequestRules haim _ _ _) _ _ _ _ _

theorem fenceNeeded_holds (rules : RequestRules react P) {w : World κ ε} (h : w.Holds P)
    (master : Nat) : (w.fenceNeeded react master).2.Holds P := by
  rw [fenceNeeded]
  split_ifs
  · exact h
  · exact call_holds rules h _ (fun _ _ _ _ hP => hP)

theorem adopt_holds (rules : TakeRules react P)
    (hadopted : AdoptRule P)
    {w : World κ ε} (h : w.Holds P) (profile : Profile) (master : Nat)
    (device : DeviceStatus) :
    (w.adopt react profile master device).2.Holds P := by
  have hinterrupted := interrupt_holds rules.toRequestRules h
  have htaken := rules.takeUnsolicited _ _ _ master hinterrupted
  simp only [adopt]
  rcases hresult : w.call react (fun _ r => r.takeUnsolicitedVolume master) with
    ⟨unsolicited, w1⟩
  rw [call, Prod.mk.injEq] at hresult
  obtain ⟨hvalue, rfl⟩ := hresult
  cases unsolicited with
  | none =>
      exact htaken
  | some volume =>
      simp only
      split_ifs
      · exact hadopted _ _ _ master volume hvalue hinterrupted
      · exact htaken

theorem tickMaster_holds (rules : GroupRules react P)
    (hadopted : AdoptRule P)
    {w : World κ ε} (h : w.Holds P) (profile : Profile)
    (devices : List (Nat × DeviceStatus)) (master : Nat) (device : DeviceStatus) :
    (w.tickMaster react encode profile devices master device).Holds P := by
  have hbarrier := fenceNeeded_holds rules.toRequestRules h master
  simp only [tickMaster]
  split_ifs
  · exact fence_holds rules.toRequestRules (denyAll_holds rules.toRequestRules hbarrier) _ _ _ _
  · exact follow_holds encode rules _ _ _ _ _
      (adopt_holds rules.toTakeRules hadopted hbarrier _ _ _)

theorem tick_holds (rules : GroupRules react P)
    (hadopted : AdoptRule P)
    {w : World κ ε} (h : w.Holds P) :
    (w.tick react encode).Holds P := by
  simp only [tick]
  split_ifs
  · exact denyAll_holds rules.toRequestRules h
  · have hreview := review_holds rules.toRequestRules (snapshots_holds rules.toRequestRules h)
      (w.snapshots react).1
    split
    · exact denyAll_holds rules.toRequestRules hreview
    · split
      · exact tickMaster_holds encode rules hadopted hreview _ _ _ _
      · exact denyAll_holds rules.toRequestRules hreview

/-- All operations but `tick` keep what single calls keep. -/
theorem operate_holds_of_ne_tick (rules : CallRules react P) {w : World κ ε} (h : w.Holds P)
    (o : Operation) (ho : o ≠ .tick) : (w.operate react encode o).Holds P := by
  cases o with
  | «open» =>
      exact openWindow_holds rules.toRequestRules h
  | close =>
      exact closeWindow_holds rules h
  | setMaster master =>
      exact setMaster_holds rules.toRequestRules h master
  | remember id device =>
      simp only [operate, remember]
      split_ifs
      · exact h
      · exact h
  | newDraft =>
      simp only [operate, newDraft]
      split_ifs
      · exact h
      · exact h
  | edit change =>
      simp only [operate, edit]
      split_ifs
      · split
        · exact h
        · exact h
      · exact h
  | setDraft draft =>
      simp only [operate, setDraft]
      split
      · exact h
      · split_ifs
        · exact h
        · exact h
  | saveDraft name copy =>
      exact saveDraft_holds encode rules.toRequestRules h name copy
  | select id =>
      exact select_holds encode rules.toRequestRules h id
  | delete id =>
      exact delete_holds encode h id
  | setVolume requested =>
      exact setVolume_holds rules.toRequestRules h requested
  | tick =>
      exact absurd rfl ho

/-- **Rule for steps.**  What every call keeps, every step keeps. -/
theorem step_holds (rules : TickRules react P)
    (hadopted : AdoptRule P)
    {w : World κ ε} (h : w.Holds P) (e : WorldEvent ε) :
    (w.step react encode e).Holds P := by
  cases e with
  | environment e =>
      exact rules.environment _ _ _ e h
  | elapse milliseconds =>
      exact h
  | operation o script saveFailure =>
      have hstart : ({ w with script := script, saveFailure := saveFailure } : World κ ε).Holds P :=
        h
      by_cases ho : o = .tick
      · subst ho
        exact tick_holds encode rules.toGroupRules hadopted hstart
      · exact operate_holds_of_ne_tick encode rules.toCallRules hstart o ho

end TickRules

end World

end Soundwave

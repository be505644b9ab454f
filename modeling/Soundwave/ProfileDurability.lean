import Soundwave.OperationRules

/-!
# What is saved, and what can be loaded again

The controller keeps a volume that was merely requested apart from the last one
that the whole group confirmed, and writes the latter only.

`VolumeStep` says once what an operation can do to the profiles, to the
confirmed volume and to the profile file.  Two results are derived from it: what
is written is what was confirmed, so that the file agrees with it whenever
nothing is marked as unsaved; and what is written can be loaded again, provided
that no draft with an unknown id of its own is stored in a full library.

What was confirmed is tied to the devices by `step_confirms`: only a tick confirms,
and only the level at which its snapshot shows the whole group.
-/

namespace Soundwave

namespace World

variable {κ ε : Type} (react : Registry × κ → ε → Registry × κ) (encode : Library → List UInt8)

section VolumeSteps

/-- Nothing is written. -/
structure Unwritten (w w' : World κ ε) : Prop where
  loadError : w'.state.loadError = w.state.loadError
  file : w'.file = w.file
  writes : w'.writes = w.writes
  incidents : w.incidents ⊆ w'.incidents

/-- The library is written, and nothing is left to save. -/
structure Wrote (w w' : World κ ε) (library : Library) : Prop where
  writable : w.state.loadError = none
  size : (encode library).length ≤ maxFileBytes
  loadError : w'.state.loadError = w.state.loadError
  file : w'.file = .bytes (encode library)
  writes : w'.writes = w.writes ++ [library]
  dirty : w'.state.dirty = false
  incidents : w.incidents ⊆ w'.incidents

/-- What an operation can do to profiles, confirmed volume and file. -/
inductive VolumeStep (o : Operation) (w w' : World κ ε) : Prop where
  | same (h : w.SameVolumes w')
  | requested (profile : Profile) (index : Nat) (h : Unwritten w w')
      (hcurrent : w.state.library.current = some profile)
      (hlibrary : w'.state.library = w.state.library.withVolume profile.id index)
      (hconfirmed : w'.state.confirmed = w.state.confirmed)
      (hdirty : w'.state.dirty = true)
  | ready (profile : Profile) (index : Nat) (h : Unwritten w w')
      (hcurrent : w.state.library.current = some profile)
      (hrange : profile.master.minimum ≤ index ∧ index ≤ profile.master.maximum)
      (hlibrary : w'.state.library = w.state.library.withVolume profile.id index)
      (hconfirmed : w'.state.confirmed = some (profile.id, index))
      (hnoted : .confirmed profile.id index ∈ w'.incidents)
      (hdirty : w'.state.dirty = false → w.state.dirty = false ∧ profile.volume = index)
  | readySaved (profile : Profile) (index : Nat)
      (h : Wrote encode w w' w'.state.persisted)
      (hcurrent : w.state.library.current = some profile)
      (hrange : profile.master.minimum ≤ index ∧ index ≤ profile.master.maximum)
      (hlibrary : w'.state.library = w.state.library.withVolume profile.id index)
      (hconfirmed : w'.state.confirmed = some (profile.id, index))
      (hnoted : .confirmed profile.id index ∈ w'.incidents)
  | stored (name : String) (copy : Bool) (draft stored : Profile) (library : Library) (id : Nat)
      (ho : o = .saveDraft name copy)
      (h : Wrote encode w w' library)
      (hdraft : w.state.draft = some draft)
      (hstored : draftToSave draft name copy = .ok stored)
      (hput : w.state.persisted.put stored = .ok (library, id))
      (hlibrary : w'.state.library = library)
      (hconfirmed : w'.state.confirmed = some (id, stored.volume))
      (hnoted : .stored id stored.volume ∈ w'.incidents)
  | rewritten (library : Library)
      (h : Wrote encode w w' library)
      (hwf : w.state.persisted.WellFormed → library.WellFormed)
      (hprofiles : ∀ p ∈ library.profiles, p ∈ w.state.persisted.profiles)
      (hlibrary : w'.state.library = library)
      (hconfirmed : w'.state.confirmed = library.current.map (fun p => (p.id, p.volume)))

theorem persisted_eq_withVolume {s : ControlState} {id index : Nat}
    (h : s.confirmed = some (id, index)) : s.persisted = s.library.withVolume id index := by
  rw [ControlState.persisted, h]
  rfl

/-- The current profile has the volume `index`, and that is known to be unsaved
unless it had it before. -/
structure Aimed (w w' : World κ ε) (profile : Profile) (index : Nat) : Prop where
  unwritten : Unwritten w w'
  current : w.state.library.current = some profile
  range : profile.master.minimum ≤ index ∧ index ≤ profile.master.maximum
  library : w'.state.library = w.state.library.withVolume profile.id index
  confirmed : w'.state.confirmed = w.state.confirmed
  dirty : w'.state.dirty = true ∨ (w'.state.dirty = w.state.dirty ∧ profile.volume = index)

theorem Unwritten.of_sameVolumes {w w' : World κ ε} (h : w.SameVolumes w') : Unwritten w w' :=
  ⟨h.loadError, h.file, h.writes, h.incidents⟩

theorem Unwritten.trans {w₁ w₂ w₃ : World κ ε} (h : Unwritten w₁ w₂) (h' : Unwritten w₂ w₃) :
    Unwritten w₁ w₃ :=
  ⟨h'.loadError.trans h.loadError, h'.file.trans h.file, h'.writes.trans h.writes,
    List.Subset.trans h.incidents h'.incidents⟩

theorem Aimed.trans {w₁ w₂ w₃ : World κ ε} {profile : Profile} {index : Nat}
    (h : Aimed w₁ w₂ profile index) (h' : w₂.SameVolumes w₃) : Aimed w₁ w₃ profile index where
  unwritten := h.unwritten.trans (.of_sameVolumes h')
  current := h.current
  range := h.range
  library := h'.library.trans h.library
  confirmed := h'.confirmed.trans h.confirmed
  dirty := by
    rw [h'.dirty]
    exact h.dirty

theorem Aimed.after {w₁ w₂ w₃ : World κ ε} {profile : Profile} {index : Nat}
    (h' : w₁.SameVolumes w₂) (h : Aimed w₂ w₃ profile index) : Aimed w₁ w₃ profile index where
  unwritten := (Unwritten.of_sameVolumes h').trans h.unwritten
  current := h'.library ▸ h.current
  range := h.range
  library := h'.library ▸ h.library
  confirmed := h.confirmed.trans h'.confirmed
  dirty := by
    rw [← h'.dirty]
    exact h.dirty

theorem withVolume_current {l : Library} {p : Profile} (h : l.current = some p) :
    l.withVolume p.id p.volume = l := by
  rw [Library.current_eq_find? (Library.current_id h)] at h
  exact Library.withVolume_eq_self h

theorem aim_aimed {w : World κ ε} {profile : Profile} {index : Nat}
    (hcurrent : w.state.library.current = some profile)
    (hrange : profile.master.minimum ≤ index ∧ index ≤ profile.master.maximum) :
    Aimed w (w.aim profile index) profile index := by
  rcases aim_cases hcurrent index with ⟨hw, rfl⟩ | ⟨_, hw⟩
  · rw [hw]
    exact ⟨⟨rfl, rfl, rfl, List.Subset.refl _⟩, hcurrent, hrange,
      (withVolume_current hcurrent).symm, rfl, Or.inr ⟨rfl, rfl⟩⟩
  · rw [hw]
    exact ⟨⟨rfl, rfl, rfl, List.Subset.refl _⟩, hcurrent, hrange, rfl, rfl, Or.inl rfl⟩

/-- A group that is not ready leaves the request. -/
theorem Aimed.volumeStep {w w' : World κ ε} {profile : Profile} {index : Nat}
    (h : Aimed w w' profile index) (o : Operation) : VolumeStep encode o w w' := by
  rcases h.dirty with hdirty | ⟨hdirty, hvolume⟩
  · exact .requested profile index h.unwritten h.current h.library h.confirmed hdirty
  · have hlibrary := h.library
    rw [← hvolume, withVolume_current h.current] at hlibrary
    exact .same ⟨hlibrary, hdirty, h.confirmed, h.unwritten.loadError, h.unwritten.file,
      h.unwritten.writes, h.unwritten.incidents⟩

theorem settle_volumeStep {w w0 : World κ ε} {profile : Profile} {index : Nat}
    (h : Aimed w0 w profile index) (o : Operation) (devices : List (Nat × DeviceStatus))
    (targets : List (Nat × Nat)) (ready : Bool) :
    VolumeStep encode o w0 (w.settle react encode profile devices targets index ready) := by
  cases ready with
  | false =>
      exact (h.trans (denyAll_agree react w).keeps.toSameVolumes).volumeStep encode o
  | true =>
      have hagree := perform_agree react w
        (fun _ r => r.approve (targets.filterMap (fun t => deviceOf devices t.1)))
      have happroved := h.trans hagree.keeps.toSameVolumes
      simp only [settle, if_true]
      generalize w.perform react
        (fun _ r => r.approve (targets.filterMap (fun t => deviceOf devices t.1))) = w1
        at happroved ⊢
      have hnoted : w0.incidents ⊆ w1.incidents ++ [.confirmed profile.id index] :=
        List.Subset.trans happroved.unwritten.incidents (List.subset_append_left _ _)
      rcases saveConfirmed_cases encode ((w1.update (fun s =>
          { s with confirmed := some (profile.id, index) })).note
            (.confirmed profile.id index)) with ⟨hsave, _, _⟩ | ⟨hwritable, hsize, hsave⟩
      · refine .ready profile index ⟨?_, ?_, ?_, ?_⟩ h.current h.range
          (hsave.library.trans happroved.library) hsave.confirmed ?_ ?_
        · exact hsave.loadError.trans happroved.unwritten.loadError
        · exact hsave.file.trans happroved.unwritten.file
        · exact hsave.writes.trans happroved.unwritten.writes
        · rw [hsave.incidents]
          exact hnoted
        · rw [hsave.incidents]
          exact List.mem_append_right _ (List.mem_singleton_self _)
        · rw [hsave.dirty]
          intro hclean
          rcases happroved.dirty with hdirty | ⟨hdirty, hvolume⟩
          · have hclean' : w1.state.dirty = false := hclean
            rw [hdirty] at hclean'
            cases hclean'
          · exact ⟨hdirty.symm.trans hclean, hvolume⟩
      · rw [hsave]
        refine .readySaved profile index ⟨?_, hsize, ?_, rfl, ?_, rfl, hnoted⟩ h.current h.range
          happroved.library rfl (List.mem_append_right _ (List.mem_singleton_self _))
        · exact happroved.unwritten.loadError.symm.trans hwritable
        · exact happroved.unwritten.loadError
        · rw [← happroved.unwritten.writes]
          rfl

theorem follow_volumeStep {w : World κ ε} (o : Operation) (profile : Profile)
    (participating : List String) (devices : List (Nat × DeviceStatus)) (master : Nat)
    (device : DeviceStatus) {w0 : World κ ε} (hsame : w0.SameVolumes w)
    (hcurrent : w.state.library.current = some profile) :
    VolumeStep encode o w0
      (w.follow react encode profile participating devices master device) := by
  have hadopt := (adopt_keeps react w profile master device).toSameVolumes
  simp only [follow]
  rcases hresult : w.adopt react profile master device with ⟨requested, w1⟩
  rw [hresult] at hadopt
  simp only
  cases hindex : profile.nearest requested participating with
  | none =>
      exact .same (hsame.trans (hadopt.trans (denyAll_agree react w1).keeps.toSameVolumes))
  | some index =>
      obtain ⟨hmin, hmax, _⟩ := Profile.nearest_spec hindex
      have hcurrent' : w1.state.library.current = some profile := by
        rw [hadopt.library]
        exact hcurrent
      have haimed := Aimed.after (hsame.trans hadopt) (aim_aimed hcurrent' ⟨hmin, hmax⟩)
      exact settle_volumeStep react encode (haimed.trans (restoreTargets_agree react devices true
        (w1.aim profile index)
        (targets profile participating devices master index)).keeps.toSameVolumes) o _ _ _

theorem tick_volumeStep (w : World κ ε) (o : Operation) :
    VolumeStep encode o w (w.tick react encode) := by
  simp only [tick]
  split_ifs
  · exact .same (denyAll_agree react w).keeps.toSameVolumes
  · have hframe := ((snapshots_agree react w).trans (review_agree react (w.snapshots react).2
      (w.snapshots react).1)).keeps.toSameVolumes
    generalize (w.snapshots react).2.review react (w.snapshots react).1 = w1 at hframe ⊢
    have hdeny := hframe.trans (denyAll_agree react w1).keeps.toSameVolumes
    split
    · exact .same hdeny
    · rename_i profile hprofile
      split
      · rename_i master device _
        have hfence := fenceNeeded_agree react w1 master
        simp only [tickMaster]
        split_ifs
        · exact .same (hframe.trans (hfence.keeps.toSameVolumes.trans
            (fence_keeps react _ _ _ _ _).toSameVolumes))
        · exact follow_volumeStep react encode o _ _ _ _ _
            (hframe.trans hfence.keeps.toSameVolumes) (hfence.library ▸ hprofile)
      · exact .same ⟨hdeny.library, hdeny.dirty, hdeny.confirmed, hdeny.loadError, hdeny.file,
          hdeny.writes, hdeny.incidents⟩

theorem persisted_profiles_ids (s : ControlState) :
    s.persisted.profiles.map Profile.id = s.library.profiles.map Profile.id := by
  cases hconfirmed : s.confirmed with
  | none =>
      simp [ControlState.persisted, hconfirmed]
  | some confirmed =>
      obtain ⟨id, index⟩ := confirmed
      rw [persisted_eq_withVolume hconfirmed]
      exact Library.map_id_withVolume _ _ _

/-- **What operations do.**  Every operation is one of the steps above. -/
theorem operate_volumeStep (w : World κ ε) (o : Operation) :
    VolumeStep encode o w (w.operate react encode o) := by
  cases o with
  | «open» =>
      simp only [operate]
      rcases openWindow_cases react w with hw | ⟨w1, hw, _, hsame⟩
      · rw [hw]
        exact .same (Agree.refl w).keeps.toSameVolumes
      · have hdeny := hsame.trans (denyAll_agree react w1).keeps.toSameVolumes
        rw [hw]
        exact .same ⟨hdeny.library, hdeny.dirty, hdeny.confirmed, hdeny.loadError, hdeny.file,
          hdeny.writes, hdeny.incidents⟩
  | close =>
      exact .same (closeWindow_frame react w).2.2
  | setMaster master =>
      exact .same (setMaster_agree react w master).keeps.toSameVolumes
  | remember id device =>
      exact .same (remember_agree w id device).keeps.toSameVolumes
  | newDraft =>
      exact .same (newDraft_agree w).keeps.toSameVolumes
  | edit change =>
      exact .same (edit_agree w change).keeps.toSameVolumes
  | setDraft draft =>
      exact .same (setDraft_agree w draft).keeps.toSameVolumes
  | saveDraft name copy =>
      simp only [operate]
      rcases saveDraft_cases encode w name copy with
        hw | ⟨draft, stored, library, id, _, hwritable, hdraft, hstored, hput, hsize, hw⟩
      · rw [hw]
        exact .same (Agree.refl w).keeps.toSameVolumes
      · rw [hw]
        exact .stored name copy draft stored library id rfl
          ⟨hwritable, hsize, rfl, rfl, rfl, rfl, List.subset_append_left _ _⟩ hdraft hstored hput
          rfl rfl (List.mem_append_right _ (List.mem_singleton_self _))
  | select id =>
      simp only [operate]
      rcases select_cases react encode w id with
        hw | ⟨draft, hw⟩ | ⟨profile, library, _, hwritable, hfind, hlibrary, hsize, hw⟩
      · rw [hw]
        exact .same (Agree.refl w).keeps.toSameVolumes
      · rw [hw]
        exact .same (draft_agree w (some draft)).keeps.toSameVolumes
      · have hdeny := denyAll_agree react (w.wrote encode library)
        rw [hw]
        refine .rewritten library ⟨hwritable, hsize, hdeny.loadError, hdeny.file, hdeny.writes,
          rfl, hdeny.keeps.incidents⟩ ?_ ?_ rfl rfl
        · intro hwf
          rw [hlibrary]
          apply Library.wellFormed_active hwf
          rw [persisted_profiles_ids]
          have hid := List.find?_some hfind
          simp only [decide_eq_true_eq] at hid
          rw [← hid]
          exact List.mem_map_of_mem (List.mem_of_find?_eq_some hfind)
        · intro p hp
          rw [hlibrary] at hp
          exact hp
  | delete id =>
      simp only [operate]
      rcases delete_cases encode w id with hw | ⟨_, hwritable, hsize, hw⟩
      · rw [hw]
        exact .same (Agree.refl w).keeps.toSameVolumes
      · rw [hw]
        exact .rewritten (without w.state.persisted id)
          ⟨hwritable, hsize, rfl, rfl, rfl, rfl, List.Subset.refl _⟩
          (fun hwf => Library.wellFormed_without hwf id)
          (fun p hp => List.mem_of_mem_filter hp) rfl rfl
  | setVolume requested =>
      simp only [operate]
      rcases setVolume_cases react w requested with
        hagree | ⟨w1, profile, master, request, index, hagree, hcurrent, hw⟩
      · exact .same hagree.keeps.toSameVolumes
      · have hdeny := denyAll_agree react ((w1.note (.panel master request)).update
          (fun s => requestedState s master request index w1.now))
        rw [hw]
        refine .requested profile index ⟨?_, ?_, ?_, ?_⟩ (hagree.library ▸ hcurrent) ?_ ?_
          hdeny.dirty
        · exact hdeny.loadError.trans hagree.loadError
        · exact hdeny.file.trans hagree.file
        · exact hdeny.writes.trans hagree.writes
        · rw [hdeny.incidents]
          exact List.Subset.trans hagree.keeps.incidents (List.subset_append_left _ _)
        · rw [hdeny.library, ← hagree.library]
          exact requestedState_library hcurrent master request index w1.now
        · exact hdeny.confirmed.trans hagree.confirmed
  | tick =>
      exact tick_volumeStep react encode w .tick

end VolumeSteps

section Confirmations

/-- Every device of the group stands at its target for the level `index`. -/
def GroupStands (profile : Profile) (devices : List (Nat × DeviceStatus)) (index : Nat) : Prop :=
  ∃ master device, matching profile.master devices = [(master, device)] ∧
    ∀ t ∈ targets profile (profile.participating (devices.map Prod.snd)) devices master index,
      ∃ d, deviceOf devices t.1 = some d ∧ d.2.volume = t.2

/-- The event is a tick whose snapshot shows the group of the active profile `id`
at the level `index`. -/
def FindsAtLevel (w : World κ ε) (e : WorldEvent ε) (id index : Nat) : Prop :=
  ∃ script saveFailure profile, e = .operation .tick script saveFailure ∧
    w.state.library.current = some profile ∧ profile.id = id ∧
      GroupStands profile (connected (snapshots react
        { w with script := script, saveFailure := saveFailure }).1) index

/-- All confirmed volumes among the incidents are allowed. -/
def Confirms (allowed : Nat → Nat → Prop) (_ : Registry) (_ : κ) (incidents : List Incident) :
    Prop :=
  ∀ id index, .confirmed id index ∈ incidents → allowed id index

variable {allowed : Nat → Nat → Prop}

theorem Confirms.note {r : Registry} {k : κ} {i : List Incident} (h : Confirms allowed r k i)
    {incident : Incident} (hnew : ∀ id index, incident = .confirmed id index → allowed id index)
    (r' : Registry) (k' : κ) : Confirms allowed r' k' (i ++ [incident]) := by
  intro id index hmem
  rcases List.mem_append.mp hmem with hmem | hmem
  · exact h id index hmem
  · exact hnew id index (List.mem_singleton.mp hmem).symm

/-- No call confirms a volume. -/
theorem confirms_rules : CallRules react (Confirms allowed) where
  environment := fun _ _ _ _ h => h
  denyAll := fun _ _ _ h => h
  restore := fun _ _ _ _ _ _ h => h
  panel := fun _ _ _ _ _ _ _ _ h => h.note (fun _ _ heq => by cases heq) _ _
  panelRefused := fun _ _ _ _ _ _ _ _ h => h
  takeReply := fun _ _ _ _ _ h => h
  stored := fun _ _ _ _ _ h => h.note (fun _ _ heq => by cases heq) _ _
  silence := fun _ _ _ _ h => h
  cancel := fun _ _ _ _ h => h

theorem confirms_take_rules : TakeRules react (Confirms allowed) where
  toRequestRules := (confirms_rules react).toRequestRules
  takeUnsolicited := fun _ _ _ _ h => h

theorem confirms_adopt : AdoptRule (Confirms (κ := κ) allowed) :=
  fun _ _ _ _ _ _ h => h.note (fun _ _ heq => by cases heq) _ _

variable {react encode}

/-- Only a group that is ready is confirmed. -/
theorem settle_confirms {w : World κ ε} (h : w.Holds (Confirms allowed)) (profile : Profile)
    (devices : List (Nat × DeviceStatus)) (targets : List (Nat × Nat)) {index : Nat}
    {ready : Bool} (hallowed : ready = true → allowed profile.id index) :
    (w.settle react encode profile devices targets index ready).Holds (Confirms allowed) := by
  cases ready with
  | false =>
      exact denyAll_holds (confirms_rules react).toRequestRules h
  | true =>
      have happroved := call_holds (confirms_rules react).toRequestRules h
        (fun _ r => ((), r.approve (targets.filterMap (fun t => deviceOf devices t.1))))
        (fun _ _ _ _ hi => hi)
      refine saveConfirmed_holds encode (happroved.note ?_ _ _)
      intro id index' heq
      cases heq
      exact hallowed rfl

theorem follow_confirms {w : World κ ε} (h : w.Holds (Confirms allowed)) {profile : Profile}
    {devices : List (Nat × DeviceStatus)} {master : Nat} {device : DeviceStatus}
    (hmaster : matching profile.master devices = [(master, device)])
    (hallowed : ∀ index, GroupStands profile devices index → allowed profile.id index) :
    (w.follow react encode profile (profile.participating (devices.map Prod.snd)) devices master
      device).Holds (Confirms allowed) := by
  have hadopt := adopt_holds (confirms_take_rules react) confirms_adopt h profile master device
  rcases hresult : w.adopt react profile master device with ⟨requested, w1⟩
  rw [hresult] at hadopt
  simp only [follow, hresult]
  cases hindex : profile.nearest requested (profile.participating (devices.map Prod.snd)) with
  | none =>
      exact denyAll_holds (confirms_rules react).toRequestRules hadopt
  | some index =>
      have haim : (w1.aim profile index).Holds (Confirms allowed) := by
        rw [aim]
        split_ifs
        · exact hadopt
        · exact hadopt
      refine settle_confirms (restoreTargets_holds (confirms_rules react).toRequestRules haim _ _ _)
        profile devices _ (fun hready => hallowed index ?_)
      exact ⟨master, device, hmaster, (restoreTargets_ready react hready).2⟩

/-- What a tick confirms is what it found. -/
theorem tick_confirms {w : World κ ε} (h : w.Holds (Confirms allowed))
    (hallowed : ∀ profile index, w.state.library.current = some profile →
      GroupStands profile (connected (w.snapshots react).1) index → allowed profile.id index) :
    (w.tick react encode).Holds (Confirms allowed) := by
  simp only [tick]
  split_ifs
  · exact denyAll_holds (confirms_rules react).toRequestRules h
  · have hsnapshots : (w.snapshots react).2.Holds (Confirms allowed) :=
      snapshots_holds (confirms_rules react).toRequestRules h
    have hreview := review_holds (confirms_rules react).toRequestRules hsnapshots
      (w.snapshots react).1
    have hframe := (snapshots_agree react w).trans (review_agree react (w.snapshots react).2
      (w.snapshots react).1)
    split
    · exact denyAll_holds (confirms_rules react).toRequestRules hreview
    · rename_i profile hprofile
      split
      · rename_i master device hmaster
        have hbarrier := fenceNeeded_holds (confirms_rules react).toRequestRules hreview master
        simp only [tickMaster]
        split_ifs
        · exact fence_holds (confirms_rules react).toRequestRules
            (denyAll_holds (confirms_rules react).toRequestRules hbarrier) _ _ _ _
        · exact follow_confirms hbarrier hmaster
            (fun index => hallowed profile index (hframe.library ▸ hprofile))
      · exact denyAll_holds (confirms_rules react).toRequestRules hreview

/-- **What a step confirms**, it has found. -/
theorem step_confirms (w : World κ ε) (e : WorldEvent ε) :
    (w.step react encode e).Holds (Confirms (fun id index =>
      .confirmed id index ∈ w.incidents ∨ w.FindsAtLevel react e id index)) := by
  have hstart : w.Holds (Confirms (fun id index =>
      .confirmed id index ∈ w.incidents ∨ w.FindsAtLevel react e id index)) :=
    fun _ _ hmem => Or.inl hmem
  cases e with
  | environment e =>
      exact hstart
  | elapse milliseconds =>
      exact hstart
  | operation o script saveFailure =>
      by_cases ho : o = .tick
      · subst ho
        refine tick_confirms
          (w := { w with script := script, saveFailure := saveFailure }) hstart ?_
        intro profile index hcurrent hstands
        exact Or.inr ⟨script, saveFailure, profile, rfl, hcurrent, rfl, hstands⟩
      · exact operate_holds_of_ne_tick encode (confirms_rules react)
          (w := { w with script := script, saveFailure := saveFailure }) hstart o ho

end Confirmations

section Durability

variable {encode}

/-- Where a saved volume may come from: the loaded library, `save_draft`, or a
tick that found the whole group ready. -/
def Sourced (loaded : Library) (incidents : List Incident) (id volume : Nat) : Prop :=
  (∃ p ∈ loaded.profiles, p.id = id ∧ p.volume = volume) ∨
    .stored id volume ∈ incidents ∨ .confirmed id volume ∈ incidents

/-- The library on disk: the last one written, or else the one loaded. -/
def onDisk (loaded : Library) (w : World κ ε) : Library :=
  w.writes.getLast?.getD loaded

/-- The invariant behind the results on saving. -/
structure Durable (loaded : Library) (w : World κ ε) : Prop where
  identified : w.state.confirmed.map Prod.fst = w.state.library.current.map Profile.id
  settled : w.state.dirty = false →
    w.state.confirmed = w.state.library.current.map (fun p => (p.id, p.volume))
  sourced : ∀ p ∈ w.state.persisted.profiles, Sourced loaded w.incidents p.id p.volume
  written : ∀ l ∈ w.writes, ∀ p ∈ l.profiles, Sourced loaded w.incidents p.id p.volume
  disk : w.state.dirty = false → onDisk loaded w = w.state.persisted

theorem Sourced.mono {loaded : Library} {incidents incidents' : List Incident} {id volume : Nat}
    (h : Sourced loaded incidents id volume) (hsub : incidents ⊆ incidents') :
    Sourced loaded incidents' id volume := by
  rcases h with h | h | h
  · exact Or.inl h
  · exact Or.inr (Or.inl (hsub h))
  · exact Or.inr (Or.inr (hsub h))

theorem onDisk_append (loaded : Library) {w : World κ ε} {writes : List Library} {l : Library}
    (h : w.writes = writes ++ [l]) : onDisk loaded w = l := by
  simp [onDisk, h]

theorem onDisk_eq {loaded : Library} {w w' : World κ ε} (h : w'.writes = w.writes) :
    onDisk loaded w' = onDisk loaded w := by
  rw [onDisk, onDisk, h]

/-- A confirmed volume that is the current one is already in the library. -/
theorem persisted_of_settled {s : ControlState}
    (h : s.confirmed = s.library.current.map (fun p => (p.id, p.volume))) :
    s.persisted = s.library := by
  cases hcurrent : s.library.current with
  | none =>
      rw [hcurrent] at h
      simp [ControlState.persisted, h]
  | some p =>
      rw [hcurrent] at h
      rw [persisted_eq_withVolume h]
      exact withVolume_current hcurrent

/-- The confirmed volume belongs to the current profile. -/
theorem Durable.persisted_eq {loaded : Library} {w : World κ ε} (h : Durable loaded w)
    {profile : Profile} (hcurrent : w.state.library.current = some profile) :
    ∃ index, w.state.confirmed = some (profile.id, index) ∧
      w.state.persisted = w.state.library.withVolume profile.id index := by
  have hid := h.identified
  rw [hcurrent] at hid
  obtain ⟨⟨id, index⟩, hconfirmed, hfst⟩ := Option.map_eq_some_iff.mp hid
  simp only at hfst
  subst hfst
  exact ⟨index, hconfirmed, persisted_eq_withVolume hconfirmed⟩

theorem Durable.of_same {loaded : Library} {w w' : World κ ε} (h : Durable loaded w)
    (hsame : w.SameVolumes w') : Durable loaded w' where
  identified := by
    rw [hsame.confirmed, hsame.library]
    exact h.identified
  settled := by
    rw [hsame.dirty, hsame.confirmed, hsame.library]
    exact h.settled
  sourced := by
    rw [hsame.persisted]
    exact fun p hp => (h.sourced p hp).mono hsame.incidents
  written := by
    rw [hsame.writes]
    exact fun l hl p hp => (h.written l hl p hp).mono hsame.incidents
  disk := by
    rw [hsame.dirty, hsame.persisted, onDisk_eq hsame.writes]
    exact h.disk

/-- A request leaves what is persisted alone. -/
theorem Durable.of_requested {loaded : Library} {w w' : World κ ε} (h : Durable loaded w)
    {profile : Profile} {index : Nat} (hframe : Unwritten w w')
    (hcurrent : w.state.library.current = some profile)
    (hlibrary : w'.state.library = w.state.library.withVolume profile.id index)
    (hconfirmed : w'.state.confirmed = w.state.confirmed) (hdirty : w'.state.dirty = true) :
    Durable loaded w' := by
  obtain ⟨v, hv, hpersisted⟩ := h.persisted_eq hcurrent
  have hpersisted' : w'.state.persisted = w.state.persisted := by
    rw [persisted_eq_withVolume (hconfirmed.trans hv), hlibrary,
      Library.withVolume_withVolume, hpersisted]
  have hclean : w'.state.dirty ≠ false := by
    simp [hdirty]
  refine ⟨?_, fun h' => absurd h' hclean, ?_, ?_, fun h' => absurd h' hclean⟩
  · rw [hconfirmed, hv, hlibrary, Library.current_withVolume hcurrent]
    rfl
  · rw [hpersisted']
    exact fun p hp => (h.sourced p hp).mono hframe.incidents
  · rw [hframe.writes]
    exact fun l hl p hp => (h.written l hl p hp).mono hframe.incidents

/-- A ready group confirms the current volume; what is persisted then has it. -/
theorem Durable.ready_facts {loaded : Library} {w w' : World κ ε} (h : Durable loaded w)
    {profile : Profile} {index : Nat} (hincidents : w.incidents ⊆ w'.incidents)
    (hcurrent : w.state.library.current = some profile)
    (hlibrary : w'.state.library = w.state.library.withVolume profile.id index)
    (hconfirmed : w'.state.confirmed = some (profile.id, index))
    (hnoted : .confirmed profile.id index ∈ w'.incidents) :
    w'.state.confirmed = w'.state.library.current.map (fun p => (p.id, p.volume)) ∧
      w'.state.persisted = w.state.persisted.withVolume profile.id index ∧
      ∀ p ∈ w'.state.persisted.profiles, Sourced loaded w'.incidents p.id p.volume := by
  obtain ⟨v, _, hpersisted⟩ := h.persisted_eq hcurrent
  have hpersisted' : w'.state.persisted = w.state.persisted.withVolume profile.id index := by
    rw [persisted_eq_withVolume hconfirmed, hlibrary, hpersisted, Library.withVolume_withVolume,
      Library.withVolume_withVolume]
  refine ⟨?_, hpersisted', ?_⟩
  · rw [hconfirmed, hlibrary, Library.current_withVolume hcurrent]
    rfl
  · intro p hp
    rw [hpersisted'] at hp
    rcases Library.mem_withVolume hp with hp | ⟨q, hq, rfl⟩
    · exact (h.sourced p hp).mono hincidents
    · have hid := List.find?_some hq
      simp only [decide_eq_true_eq] at hid
      rw [← hid] at hnoted
      exact Or.inr (Or.inr hnoted)

/-- A library that becomes the controller's own and is written. -/
theorem Durable.of_written {loaded : Library} {w w' : World κ ε} (h : Durable loaded w)
    {library : Library} (hwrote : Wrote encode w w' library)
    (hpersisted : w'.state.persisted = library)
    (hconfirmed :
      w'.state.confirmed = w'.state.library.current.map (fun p => (p.id, p.volume)))
    (hsourced : ∀ p ∈ library.profiles, Sourced loaded w'.incidents p.id p.volume) :
    Durable loaded w' where
  identified := by
    rw [hconfirmed]
    cases w'.state.library.current <;> rfl
  settled := fun _ => hconfirmed
  sourced := by
    rw [hpersisted]
    exact hsourced
  written := by
    intro l hl
    rw [hwrote.writes] at hl
    rcases List.mem_append.mp hl with hl | hl
    · exact fun p hp => (h.written l hl p hp).mono hwrote.incidents
    · rw [List.mem_singleton.mp hl]
      exact hsourced
  disk := fun _ => by
    rw [onDisk_append loaded hwrote.writes, hpersisted]

/-- A library that is written as it is, with its own current volume confirmed. -/
theorem settled_of_stored {w w' : World κ ε} {stored : Profile} {library : Library} {id : Nat}
    (hput : w.state.persisted.put stored = .ok (library, id))
    (hlibrary : w'.state.library = library)
    (hconfirmed : w'.state.confirmed = some (id, stored.volume)) :
    w'.state.confirmed = w'.state.library.current.map (fun p => (p.id, p.volume)) := by
  rw [hconfirmed, hlibrary, Library.current_put hput]
  rfl

theorem Durable.of_volumeStep {loaded : Library} {w w' : World κ ε} (h : Durable loaded w)
    {o : Operation} (hstep : VolumeStep encode o w w') : Durable loaded w' := by
  cases hstep with
  | same hsame =>
      exact h.of_same hsame
  | requested profile index hframe hcurrent hlibrary hconfirmed hdirty =>
      exact h.of_requested hframe hcurrent hlibrary hconfirmed hdirty
  | ready profile index hframe hcurrent hrange hlibrary hconfirmed hnoted hdirty =>
      obtain ⟨hsettled, hpersisted, hsourced⟩ :=
        h.ready_facts hframe.incidents hcurrent hlibrary hconfirmed hnoted
      refine ⟨?_, fun _ => hsettled, hsourced, ?_, ?_⟩
      · rw [hsettled]
        cases w'.state.library.current <;> rfl
      · rw [hframe.writes]
        exact fun l hl p hp => (h.written l hl p hp).mono hframe.incidents
      · intro hclean
        -- nothing was unsaved, so the group was ready at the volume it had
        obtain ⟨hclean', hvolume⟩ := hdirty hclean
        have hpersisted' := persisted_of_settled (h.settled hclean')
        rw [onDisk_eq hframe.writes, h.disk hclean', hpersisted, hpersisted', ← hvolume,
          withVolume_current hcurrent]
  | readySaved profile index hwrote hcurrent hrange hlibrary hconfirmed hnoted =>
      obtain ⟨hsettled, _, hsourced⟩ :=
        h.ready_facts hwrote.incidents hcurrent hlibrary hconfirmed hnoted
      exact h.of_written hwrote rfl hsettled hsourced
  | stored name copy draft stored library id ho hwrote hdraft hstored hput hlibrary hconfirmed
      hnoted =>
      have hsettled := settled_of_stored hput hlibrary hconfirmed
      refine h.of_written hwrote ((persisted_of_settled hsettled).trans hlibrary) hsettled ?_
      intro p hp
      rcases Library.mem_put hput hp with hp | ⟨hid, hvolume⟩
      · exact (h.sourced p hp).mono hwrote.incidents
      · rw [hid, hvolume]
        exact Or.inr (Or.inl hnoted)
  | rewritten library hwrote hwf hprofiles hlibrary hconfirmed =>
      have hsettled : w'.state.confirmed =
          w'.state.library.current.map (fun p => (p.id, p.volume)) := by
        rw [hlibrary]
        exact hconfirmed
      exact h.of_written hwrote ((persisted_of_settled hsettled).trans hlibrary) hsettled
        (fun p hp => (h.sourced p (hprofiles p hp)).mono hwrote.incidents)

/-- An operation writes at most once, and then what is persisted afterwards. -/
theorem writes_of_volumeStep {w w' : World κ ε} {o : Operation}
    (hstep : VolumeStep encode o w w') :
    (w'.writes = w.writes ∧ w'.file = w.file) ∨
      (w.state.loadError = none ∧ w'.writes = w.writes ++ [w'.state.persisted] ∧
        w'.file = .bytes (encode w'.state.persisted)) := by
  cases hstep with
  | same hsame =>
      exact Or.inl ⟨hsame.writes, hsame.file⟩
  | requested profile index hframe =>
      exact Or.inl ⟨hframe.writes, hframe.file⟩
  | ready profile index hframe =>
      exact Or.inl ⟨hframe.writes, hframe.file⟩
  | readySaved profile index hwrote =>
      exact Or.inr ⟨hwrote.writable, hwrote.writes, hwrote.file⟩
  | stored name copy draft stored library id ho hwrote hdraft hstored hput hlibrary hconfirmed
      hnoted =>
      have hpersisted : w'.state.persisted = library :=
        (persisted_of_settled (settled_of_stored hput hlibrary hconfirmed)).trans hlibrary
      rw [hpersisted]
      exact Or.inr ⟨hwrote.writable, hwrote.writes, hwrote.file⟩
  | rewritten library hwrote hwf hprofiles hlibrary hconfirmed =>
      have hpersisted : w'.state.persisted = library :=
        (persisted_of_settled (by rw [hlibrary]; exact hconfirmed)).trans hlibrary
      rw [hpersisted]
      exact Or.inr ⟨hwrote.writable, hwrote.writes, hwrote.file⟩

theorem loadError_of_volumeStep {w w' : World κ ε} {o : Operation}
    (hstep : VolumeStep encode o w w') : w'.state.loadError = w.state.loadError := by
  cases hstep with
  | same hsame => exact hsame.loadError
  | requested profile index hframe => exact hframe.loadError
  | ready profile index hframe => exact hframe.loadError
  | readySaved profile index hwrote => exact hwrote.loadError
  | stored name copy draft stored library id ho hwrote => exact hwrote.loadError
  | rewritten library hwrote => exact hwrote.loadError

end Durability

section Runs

/-- A step of a run is a volume step from a world with the same profiles. -/
theorem step_volumeStep (w : World κ ε) (e : WorldEvent ε) :
    ∃ w0 o, w.SameVolumes w0 ∧ w0.state.draft = w.state.draft ∧
      VolumeStep encode o w0 (w.step react encode e) ∧
      ∀ name copy, o = .saveDraft name copy →
        ∃ script saveFailure, e = .operation (.saveDraft name copy) script saveFailure := by
  have hrefl : w.SameVolumes w := (Agree.refl w).keeps.toSameVolumes
  cases e with
  | environment e =>
      refine ⟨w, .tick, hrefl, rfl, .same ?_, nofun⟩
      exact ⟨rfl, rfl, rfl, rfl, rfl, rfl, List.Subset.refl _⟩
  | elapse milliseconds =>
      refine ⟨w, .tick, hrefl, rfl, .same ?_, nofun⟩
      exact ⟨rfl, rfl, rfl, rfl, rfl, rfl, List.Subset.refl _⟩
  | operation o script saveFailure =>
      refine ⟨{ w with script := script, saveFailure := saveFailure }, o, ?_, rfl,
        operate_volumeStep react encode _ o, ?_⟩
      · exact ⟨rfl, rfl, rfl, rfl, rfl, rfl, List.Subset.refl _⟩
      · rintro name copy rfl
        exact ⟨script, saveFailure, rfl⟩

theorem step_durable {loaded : Library} {w : World κ ε} (h : Durable loaded w)
    (e : WorldEvent ε) : Durable loaded (w.step react encode e) := by
  obtain ⟨w0, o, hsame, _, hstep, _⟩ := step_volumeStep react encode w e
  exact (h.of_same hsame).of_volumeStep hstep

/-- A step writes at most once, and then what is persisted afterwards. -/
theorem step_writes (w : World κ ε) (e : WorldEvent ε) :
    ((w.step react encode e).writes = w.writes ∧ (w.step react encode e).file = w.file) ∨
      (w.state.loadError = none ∧
        (w.step react encode e).writes =
          w.writes ++ [(w.step react encode e).state.persisted] ∧
        (w.step react encode e).file =
          .bytes (encode (w.step react encode e).state.persisted)) := by
  obtain ⟨w0, o, hsame, _, hstep, _⟩ := step_volumeStep react encode w e
  have hwrites := writes_of_volumeStep hstep
  rw [hsame.writes, hsame.file, hsame.loadError] at hwrites
  exact hwrites

/-- The end of the worker thread changes little more than the calls it makes. -/
theorem stopWorker_agree (w : World κ ε) :
    w.Agree { w.stopWorker react with calibrating := w.calibrating } := by
  have hdeny := denyAll_agree react w
  have hcancel := perform_agree react (w.denyAll react)
    (fun refusal r => r.broadcast refusal (.calibrationSession 0 .cancel))
  have hsilence := perform_agree react ((w.denyAll react).perform react
    (fun refusal r => r.broadcast refusal (.calibrationSession 0 .cancel)))
    (fun refusal r => r.broadcast refusal (.calibrationTone 0 false))
  have h := hdeny.trans (hcancel.trans hsilence)
  exact { h with calibrating := rfl }

theorem stopWorker_sameVolumes (w : World κ ε) : w.SameVolumes (w.stopWorker react) := by
  have h := (stopWorker_agree react w).keeps.toSameVolumes
  exact ⟨h.library, h.dirty, h.confirmed, h.loadError, h.file, h.writes, h.incidents⟩

/-- `finish` saves what is persisted if anything is unsaved, and changes nothing
else that matters. -/
theorem finish_cases (w : World κ ε) :
    w.SameVolumes (w.finish react encode).2 ∨
      (Wrote encode w (w.finish react encode).2 w.state.persisted ∧
        (w.finish react encode).2.state.persisted = w.state.persisted) := by
  have hsame := stopWorker_sameVolumes react w
  simp only [finish]
  generalize w.stopWorker react = w2 at hsame ⊢
  split_ifs
  · rcases ensureWritable_cases w2.state with ⟨e, he⟩ | ⟨hwritable, he⟩
    · rw [he]
      exact Or.inl hsame
    · rw [he]
      simp only
      rcases saveLibrary_cases encode w2 w2.state.persisted with ⟨e, hs⟩ | ⟨hsize, hs⟩
      · rw [hs]
        exact Or.inl hsame
      · rw [hs]
        refine Or.inr ⟨⟨?_, ?_, hsame.loadError, ?_, ?_, rfl, hsame.incidents⟩, ?_⟩
        · exact hsame.loadError.symm.trans hwritable
        · rw [← hsame.persisted]
          exact hsize
        · rw [← hsame.persisted]
          rfl
        · rw [← hsame.persisted, ← hsame.writes]
          rfl
        · exact hsame.persisted
  · exact Or.inl hsame

/-- `finish` writes at most once, and then what is persisted. -/
theorem finish_writes (w : World κ ε) :
    ((w.finish react encode).2.writes = w.writes ∧ (w.finish react encode).2.file = w.file) ∨
      (w.state.loadError = none ∧
        (w.finish react encode).2.writes =
          w.writes ++ [(w.finish react encode).2.state.persisted] ∧
        (w.finish react encode).2.file =
          .bytes (encode (w.finish react encode).2.state.persisted)) := by
  rcases finish_cases react encode w with hsame | ⟨hwrote, hpersisted⟩
  · exact Or.inl ⟨hsame.writes, hsame.file⟩
  · rw [hpersisted]
    exact Or.inr ⟨hwrote.writable, hwrote.writes, hwrote.file⟩

/-- What `finish` leaves on disk has the same sources as what was there. -/
theorem finish_written {loaded : Library} {w : World κ ε} (h : Durable loaded w) :
    (∀ l ∈ (w.finish react encode).2.writes, ∀ p ∈ l.profiles,
        Sourced loaded (w.finish react encode).2.incidents p.id p.volume) ∧
      ((w.finish react encode).2.state.dirty = false →
        onDisk loaded (w.finish react encode).2 = (w.finish react encode).2.state.persisted) := by
  rcases finish_cases react encode w with hsame | ⟨hwrote, hpersisted⟩
  · have hdurable := h.of_same hsame
    exact ⟨hdurable.written, hdurable.disk⟩
  · refine ⟨fun l hl p hp => ?_, fun _ => ?_⟩
    · rw [hwrote.writes] at hl
      rcases List.mem_append.mp hl with hl | hl
      · exact (h.written l hl p hp).mono hwrote.incidents
      · rw [List.mem_singleton.mp hl] at hp
        exact (h.sourced p hp).mono hwrote.incidents
    · rw [hpersisted]
      exact onDisk_append loaded hwrote.writes

theorem finish_incidents (w : World κ ε) :
    (w.finish react encode).2.incidents = w.incidents := by
  have hstop : (w.stopWorker react).incidents = w.incidents :=
    (stopWorker_agree react w).incidents
  simp only [finish]
  generalize w.stopWorker react = w2 at hstop ⊢
  split_ifs
  · rcases ensureWritable_cases w2.state with ⟨e, he⟩ | ⟨_, he⟩
    · rw [he]
      exact hstop
    · rw [he]
      simp only
      rcases saveLibrary_cases encode w2 w2.state.persisted with ⟨e, hs⟩ | ⟨_, hs⟩
      · rw [hs]
        exact hstop
      · rw [hs]
        exact hstop
  · exact hstop

theorem start_durable (decode : List UInt8 → Except String (Library × List UInt8))
    {file : ProfileFile} {loaded : Library} (hload : Library.load decode file = .ok loaded)
    (outside : κ) (now : Nat) : Durable loaded (start ε decode file outside now) := by
  have hstate : (start ε decode file outside now).state = .new loaded "" now := by
    simp only [start, hload]
  have hpersisted : (start ε decode file outside now).state.persisted = loaded := by
    rw [hstate]
    exact persisted_of_settled rfl
  refine ⟨?_, ?_, ?_, fun l hl => absurd hl List.not_mem_nil, ?_⟩
  · rw [hstate]
    simp only [ControlState.new]
    cases loaded.current <;> rfl
  · intro _
    rw [hstate]
    rfl
  · intro p hp
    rw [hpersisted] at hp
    exact Or.inl ⟨p, hp, rfl, rfl⟩
  · intro _
    rw [hpersisted]
    rfl

/-- The file is what was written last, or as it was. -/
def Filed (file : ProfileFile) (w : World κ ε) : Prop :=
  (w.writes = [] → w.file = file) ∧
    ∀ l, w.writes.getLast? = some l → w.file = .bytes (encode l)

theorem Filed.of_writes {file : ProfileFile} {w w' : World κ ε} {l : Library}
    (h : Filed encode file w)
    (hwrites : (w'.writes = w.writes ∧ w'.file = w.file) ∨
      (w.state.loadError = none ∧ w'.writes = w.writes ++ [l] ∧ w'.file = .bytes (encode l))) :
    Filed encode file w' := by
  rcases hwrites with ⟨hw, hf⟩ | ⟨_, hw, hf⟩
  · rw [Filed, hw, hf]
    exact h
  · refine ⟨fun hnil => ?_, fun l' hl' => ?_⟩
    · simp [hw] at hnil
    · rw [hw, List.getLast?_append_of_ne_nil _ (List.cons_ne_nil _ _)] at hl'
      cases hl'
      exact hf

theorem step_filed {file : ProfileFile} {w : World κ ε} (h : Filed encode file w)
    (e : WorldEvent ε) : Filed encode file (w.step react encode e) :=
  h.of_writes encode (step_writes react encode w e)

/-- A world whose file could not be read: it stays as it was. -/
structure Unreadable (error : String) (file : ProfileFile) (w : World κ ε) : Prop where
  loadError : w.state.loadError = some error
  writes : w.writes = []
  file : w.file = file

theorem step_unreadable {error : String} {file : ProfileFile} {w : World κ ε}
    (h : Unreadable error file w) (e : WorldEvent ε) :
    Unreadable error file (w.step react encode e) := by
  obtain ⟨w0, o, hsame, _, hstep, _⟩ := step_volumeStep react encode w e
  have hload : (w.step react encode e).state.loadError = some error :=
    (loadError_of_volumeStep hstep).trans (hsame.loadError.trans h.loadError)
  rcases step_writes react encode w e with ⟨hwrites, hfile⟩ | ⟨hnone, _⟩
  · exact ⟨hload, hwrites.trans h.writes, hfile.trans h.file⟩
  · rw [h.loadError] at hnone
    cases hnone

/-- **Only confirmed volumes are saved.**  If the profile file cannot be loaded it
is never written.  Otherwise every write, that of `finish` included, is of what
is persisted when the operation ends; each volume written was loaded, stored by
`save_draft` or confirmed; and whenever nothing is marked as unsaved, the library
on disk is the persisted one.  A volume is confirmed only by a tick in whose
snapshot every device of the group of the active profile stands at its target. -/
theorem only_confirmed_volumes_are_saved
    (decode : List UInt8 → Except String (Library × List UInt8)) (file : ProfileFile)
    (outside : κ) (now : Nat) (es : List (WorldEvent ε)) (script : List (Call ε))
    (saveFailure : Option String) :
    let w := run (step react encode) (start ε decode file outside now) es
    let last := (({ w with script := script, saveFailure := saveFailure } :
      World κ ε).finish react encode).2
    (∀ error, Library.load decode file = .error error →
      (w.writes = [] ∧ w.file = file) ∧ last.writes = [] ∧ last.file = file) ∧
    (∀ loaded, Library.load decode file = .ok loaded →
      (∀ w', (∃ e, w' = w.step react encode e) ∨ w' = last →
        (w'.writes = w.writes ∧ w'.file = w.file) ∨
        (w'.writes = w.writes ++ [w'.state.persisted] ∧
          w'.file = .bytes (encode w'.state.persisted))) ∧
      (∀ w', w' = w ∨ w' = last →
        (∀ l ∈ w'.writes, ∀ p ∈ l.profiles, Sourced loaded w'.incidents p.id p.volume) ∧
        (w'.writes = [] → w'.file = file) ∧
        (∀ l, w'.writes.getLast? = some l → w'.file = .bytes (encode l)) ∧
        (w'.state.dirty = false → onDisk loaded w' = w'.state.persisted))) ∧
    (∀ e id index, .confirmed id index ∈ (w.step react encode e).incidents →
      .confirmed id index ∈ w.incidents ∨ w.FindsAtLevel react e id index) ∧
    last.incidents = w.incidents := by
  intro w last
  have hlast := finish_writes react encode
    ({ w with script := script, saveFailure := saveFailure } : World κ ε)
  refine ⟨?_, ?_, fun e => step_confirms w e, finish_incidents react encode _⟩
  · intro error hload
    have hstart : Unreadable error file (start ε decode file outside now) :=
      ⟨by simp only [start, hload], rfl, rfl⟩
    have hw : Unreadable error file w :=
      run_preserves (Unreadable error file) (fun w e h => step_unreadable react encode h e)
        hstart es
    refine ⟨⟨hw.writes, hw.file⟩, ?_⟩
    rcases hlast with ⟨hwrites, hfile⟩ | ⟨hnone, _⟩
    · exact ⟨hwrites.trans hw.writes, hfile.trans hw.file⟩
    · exact absurd (hnone.symm.trans hw.loadError) (by simp)
  · intro loaded hload
    have hw : Durable loaded w :=
      run_preserves (Durable loaded) (fun w e h => step_durable react encode h e)
        (start_durable decode hload outside now) es
    have hfiled : Filed encode file w :=
      run_preserves (Filed encode file) (fun w e h => step_filed react encode h e)
        ⟨fun _ => rfl, fun l hl => by cases hl⟩ es
    have hlastFiled : Filed encode file last := hfiled.of_writes encode hlast
    have hlastWritten := finish_written react encode
      (w := { w with script := script, saveFailure := saveFailure })
      ⟨hw.identified, hw.settled, hw.sourced, hw.written, hw.disk⟩
    refine ⟨?_, ?_⟩
    · rintro w' (⟨e, rfl⟩ | rfl)
      · exact (step_writes react encode w e).imp_right And.right
      · exact hlast.imp_right And.right
    · rintro w' (rfl | rfl)
      · exact ⟨hw.written, hfiled.1, hfiled.2, hw.disk⟩
      · exact ⟨hlastWritten.1, hlastFiled.1, hlastFiled.2, hlastWritten.2⟩

end Runs

end World

end Soundwave

import Soundwave.PlaybackGate
import Soundwave.ProfileDurability
import Soundwave.ProfileFormat

/-!
# Saved profile files can be loaded again

`load` refuses a file with more than 128 profiles, and `put` looks at that limit
only for profiles without an id.  A draft that carries an id which the library
does not have therefore makes a full library too large, and the file that is
then written cannot be loaded.  This is the only way: as long as every stored
draft `Fits`, all written files load again as they were.
-/

namespace Soundwave

section Files

variable {encode : Library → List UInt8}
variable {decode : List UInt8 → Except String (Library × List UInt8)}

/-- A well-formed library of an allowed size is read back. -/
theorem load_encode {l : Library} (hcodec : decode (encode l) = .ok (l, []))
    (hl : l.WellFormed) (hsize : (encode l).length ≤ maxFileBytes) :
    Library.load decode (.bytes (encode l)) = .ok l := by
  have hcheck := (Library.check_eq_ok_iff l).mpr hl
  rw [Library.load, if_neg (not_lt.mpr hsize), hcodec]
  simp only [hcheck]

/-- What `load` accepts is well formed. -/
theorem wellFormed_of_load {file : ProfileFile} {l : Library}
    (h : Library.load decode file = .ok l) : l.WellFormed := by
  cases file with
  | absent =>
      cases h
      exact Library.wellFormed_default
  | unreadable error =>
      cases h
  | bytes content =>
      rw [Library.load] at h
      split_ifs at h
      cases hdecode : decode content with
      | error cause =>
          simp [hdecode] at h
      | ok result =>
          obtain ⟨library, tail⟩ := result
          simp only [hdecode] at h
          cases hcheck : library.check tail with
          | error e =>
              simp [hcheck] at h
          | ok u =>
              simp only [hcheck, Except.ok.injEq] at h
              subst h
              have htail : tail = [] := by
                rw [Library.check] at hcheck
                split at hcheck
                · rename_i hformat
                  exact hformat.1
                · cases hcheck
              subst htail
              exact (Library.check_eq_ok_iff library).mp hcheck

end Files

namespace World

variable {κ ε : Type} (react : Registry × κ → ε → Registry × κ) (encode : Library → List UInt8)

section Reloading

/-- The draft that a `save_draft` would store fits into the persisted library:
it has no id, or one that is known, or there is room. -/
def SavesFit (w : World κ ε) : WorldEvent ε → Prop
  | .operation (.saveDraft _ copy) _ _ =>
      ∀ draft ∈ w.state.draft,
        w.state.persisted.Fits { draft with id := if copy then 0 else draft.id }
  | _ => True

/-- What is persisted, and all that was written, can be loaded. -/
structure Reloadable (w : World κ ε) : Prop where
  persisted : w.state.persisted.WellFormed
  written : ∀ l ∈ w.writes, l.WellFormed ∧ (encode l).length ≤ maxFileBytes

theorem draftToSave_id {draft stored : Profile} {name : String} {copy : Bool}
    (h : draftToSave draft name copy = .ok stored) :
    stored.id = if copy then 0 else draft.id := by
  simp only [draftToSave] at h
  split_ifs at h
  all_goals
    split at h
    · cases h
    · cases h
      simp_all

theorem Reloadable.of_written {w w' : World κ ε} {library : Library}
    (h : Reloadable encode w) (hwrote : Wrote encode w w' library)
    (hpersisted : w'.state.persisted = library) (hwf : library.WellFormed) :
    Reloadable encode w' where
  persisted := hpersisted ▸ hwf
  written := by
    intro l hl
    rw [hwrote.writes] at hl
    rcases List.mem_append.mp hl with hl | hl
    · exact h.written l hl
    · rw [List.mem_singleton.mp hl]
      exact ⟨hwf, hwrote.size⟩

/-- The volume of a ready group is one that the profile allows. -/
theorem ready_wellFormed {loaded : Library} {w : World κ ε} (h : Reloadable encode w)
    (hdurable : Durable loaded w) {profile : Profile} {index : Nat}
    (hcurrent : w.state.library.current = some profile)
    (hrange : profile.master.minimum ≤ index ∧ index ≤ profile.master.maximum) :
    (w.state.persisted.withVolume profile.id index).WellFormed := by
  obtain ⟨v, _, hpersisted⟩ := hdurable.persisted_eq hcurrent
  have hfind : w.state.persisted.profiles.find? (fun p => p.id = profile.id) =
      some { profile with volume := v } := by
    rw [Library.current_eq_find? (Library.current_id hcurrent)] at hcurrent
    rw [hpersisted, Library.find?_withVolume, hcurrent]
    rfl
  exact Library.withVolume_wellFormed h.persisted hfind hrange

theorem Reloadable.of_volumeStep {loaded : Library} {w w' : World κ ε} {o : Operation}
    (h : Reloadable encode w) (hdurable : Durable loaded w)
    (hfits : ∀ name copy draft, o = .saveDraft name copy → w.state.draft = some draft →
      w.state.persisted.Fits { draft with id := if copy then 0 else draft.id })
    (hstep : VolumeStep encode o w w') : Reloadable encode w' := by
  cases hstep with
  | same hsame =>
      refine ⟨?_, ?_⟩
      · rw [hsame.persisted]
        exact h.persisted
      · rw [hsame.writes]
        exact h.written
  | requested profile index hframe hcurrent hlibrary hconfirmed hdirty =>
      obtain ⟨v, hv, hpersisted⟩ := hdurable.persisted_eq hcurrent
      refine ⟨?_, ?_⟩
      · rw [persisted_eq_withVolume (hconfirmed.trans hv), hlibrary,
          Library.withVolume_withVolume, ← hpersisted]
        exact h.persisted
      · rw [hframe.writes]
        exact h.written
  | ready profile index hframe hcurrent hrange hlibrary hconfirmed hnoted hdirty =>
      obtain ⟨_, hpersisted, _⟩ :=
        hdurable.ready_facts hframe.incidents hcurrent hlibrary hconfirmed hnoted
      refine ⟨?_, ?_⟩
      · rw [hpersisted]
        exact ready_wellFormed encode h hdurable hcurrent hrange
      · rw [hframe.writes]
        exact h.written
  | readySaved profile index hwrote hcurrent hrange hlibrary hconfirmed hnoted =>
      obtain ⟨_, hpersisted, _⟩ :=
        hdurable.ready_facts hwrote.incidents hcurrent hlibrary hconfirmed hnoted
      refine h.of_written encode hwrote rfl ?_
      rw [hpersisted]
      exact ready_wellFormed encode h hdurable hcurrent hrange
  | stored name copy draft stored library id ho hwrote hdraft hstored hput hlibrary hconfirmed
      hnoted =>
      have hpersisted : w'.state.persisted = library :=
        (persisted_of_settled (settled_of_stored hput hlibrary hconfirmed)).trans hlibrary
      refine h.of_written encode hwrote hpersisted ?_
      rw [Library.put_wellFormed_iff h.persisted hput]
      have hdraftFits := hfits name copy draft ho hdraft
      simp only [Library.Fits] at hdraftFits ⊢
      rw [draftToSave_id hstored]
      exact hdraftFits
  | rewritten library hwrote hwf hprofiles hlibrary hconfirmed =>
      have hpersisted : w'.state.persisted = library :=
        (persisted_of_settled (by rw [hlibrary]; exact hconfirmed)).trans hlibrary
      exact h.of_written encode hwrote hpersisted (hwf h.persisted)

theorem step_reloadable {loaded : Library} {w : World κ ε} (hdurable : Durable loaded w)
    (h : Reloadable encode w) (e : WorldEvent ε) (hfits : SavesFit w e) :
    Reloadable encode (w.step react encode e) := by
  obtain ⟨w0, o, hsame, hdraft0, hstep, ho⟩ := step_volumeStep react encode w e
  have h0 : Reloadable encode w0 :=
    ⟨hsame.persisted ▸ h.persisted, hsame.writes ▸ h.written⟩
  refine h0.of_volumeStep encode (hdurable.of_same hsame) ?_ hstep
  intro name copy draft hsave hdraft
  obtain ⟨script, saveFailure, rfl⟩ := ho name copy hsave
  rw [hsame.persisted]
  exact hfits draft (hdraft0 ▸ hdraft)

theorem start_reloadable {decode : List UInt8 → Except String (Library × List UInt8)}
    {file : ProfileFile} {loaded : Library} (hload : Library.load decode file = .ok loaded)
    (outside : κ) (now : Nat) : Reloadable encode (start ε decode file outside now) := by
  have hpersisted : (start ε decode file outside now).state.persisted = loaded := by
    simp only [start, hload]
    exact persisted_of_settled rfl
  refine ⟨?_, fun l hl => absurd hl List.not_mem_nil⟩
  rw [hpersisted]
  exact wellFormed_of_load hload

/-- **Saved files load again.**  A successful `put` keeps a well-formed library
well formed exactly if the profile fits; and in every run from a file that loads,
in which every stored draft fits, each file written, also by `finish`, is
accepted by `load` and gives back the same library, if decoding it undoes the
encoding. -/
theorem saved_files_load_again (decode : List UInt8 → Except String (Library × List UInt8)) :
    (∀ (l l' : Library) (profile : Profile) (id : Nat),
      l.WellFormed → l.put profile = .ok (l', id) → (l'.WellFormed ↔ l.Fits profile)) ∧
    (∀ (file : ProfileFile) (loaded : Library) (outside : κ) (now : Nat)
      (es : List (WorldEvent ε)) (script : List (Call ε)) (saveFailure : Option String),
      Library.load decode file = .ok loaded →
      Along (step react encode) SavesFit (start ε decode file outside now) es →
      let w := run (step react encode) (start ε decode file outside now) es
      let last := (({ w with script := script, saveFailure := saveFailure } :
        World κ ε).finish react encode).2
      ∀ l, l ∈ w.writes ∨ l ∈ last.writes → decode (encode l) = .ok (l, []) →
        Library.load decode (.bytes (encode l)) = .ok l) := by
  refine ⟨fun l l' profile id hl hput => Library.put_wellFormed_iff hl hput, ?_⟩
  intro file loaded outside now es script saveFailure hload hfits w last
  have hw : Durable loaded w ∧ Reloadable encode w :=
    run_invariant (fun w => Durable loaded w ∧ Reloadable encode w)
      (fun w e h hok =>
        ⟨step_durable react encode h.1 e, step_reloadable react encode h.1 h.2 e hok⟩)
      ⟨start_durable decode hload outside now, start_reloadable encode hload outside now⟩ hfits
  have hlast : ∀ l ∈ last.writes, l.WellFormed ∧ (encode l).length ≤ maxFileBytes := by
    intro l hl
    rcases finish_cases react encode
      ({ w with script := script, saveFailure := saveFailure } : World κ ε) with
      hsame | ⟨hwrote, _⟩
    · rw [hsame.writes] at hl
      exact hw.2.written l hl
    · rw [hwrote.writes] at hl
      rcases List.mem_append.mp hl with hl | hl
      · exact hw.2.written l hl
      · rw [List.mem_singleton.mp hl]
        exact ⟨hw.2.persisted, hwrote.size⟩
  intro l hl hcodec
  obtain ⟨hwf, hsize⟩ : l.WellFormed ∧ (encode l).length ≤ maxFileBytes := by
    rcases hl with hl | hl
    · exact hw.2.written l hl
    · exact hlast l hl
  exact load_encode hcodec hwf hsize

end Reloading

section FullLibrary

/-- A new profile is stored in the empty library. -/
def firstSave : List (WorldEvent RegistryEvent) :=
  [.operation .open [] none, .operation (.setDraft (roomProfile 0)) [] none,
    .operation (.saveDraft "Room" false) [] none]

theorem saved_files_load_again_first_profile :
    Library.load Library.decode (.bytes (Library.encode ⟨1, some 1, [roomProfile 1]⟩)) =
      .ok ⟨1, some 1, [roomProfile 1]⟩ := by
  have hrun := (saved_files_load_again Registry.environment Library.encode Library.decode).2
    .absent .default () 0 firstSave [] none rfl
  refine hrun ⟨trivial, trivial, ?_, trivial⟩ ⟨1, some 1, [roomProfile 1]⟩ (Or.inl ?_)
    (Library.decode_encode (by decide))
  · intro draft hdraft
    exact Or.inr (Or.inr (by decide))
  · decide

/-- As many profiles as a library may have. -/
def fullLibrary : Library where
  version := 1
  active := none
  profiles := (List.range 128).map (fun i => roomProfile (i + 1))

theorem roomProfile_valid (id : Nat) : (roomProfile id).Valid := by
  have h : (roomProfile 0).Valid := (Profile.validate_eq_ok_iff _).mp (by decide)
  exact ⟨h.name_nonempty, h.name_short, h.devices, h.distinct, h.volume, h.mappings⟩

theorem fullLibrary_wellFormed : fullLibrary.WellFormed where
  version := rfl
  count := by simp [fullLibrary]
  valid := by
    intro p hp
    obtain ⟨i, _, rfl⟩ := List.mem_map.mp hp
    exact roomProfile_valid (i + 1)
  distinct := by
    have hids : fullLibrary.profiles.map Profile.id = (List.range 128).map (· + 1) := by
      simp [fullLibrary, roomProfile]
    rw [hids]
    exact List.nodup_range.map (fun a b h => Nat.succ.inj h)
  active := by
    intro id hid
    cases hid

/-- A valid profile with the unknown id 500 makes the full library too large, and
the file that is written then does not load. -/
theorem put_overfills_full_library :
    fullLibrary.WellFormed ∧ (roomProfile 500).validate = .ok () ∧
      ∃ l', fullLibrary.put (roomProfile 500) = .ok (l', 500) ∧ ¬ l'.WellFormed ∧
        Library.load Library.decode (.bytes (Library.encode l')) ≠ .ok l' := by
  have hvalid : (roomProfile 500).validate = .ok () :=
    (Profile.validate_eq_ok_iff _).mpr (roomProfile_valid 500)
  have hname : ({ roomProfile 500 with name := trim (roomProfile 500).name } : Profile) =
      roomProfile 500 := by decide
  obtain ⟨l', hput⟩ : ∃ l', fullLibrary.put (roomProfile 500) = .ok (l', 500) := by
    rw [Library.put]
    simp only [hname, hvalid]
    exact ⟨_, rfl⟩
  have hnot : ¬ l'.WellFormed := by
    rw [Library.put_wellFormed_iff fullLibrary_wellFormed hput]
    rintro (hzero | hknown | hroom)
    · cases hzero
    · obtain ⟨p, hp, hid⟩ := List.mem_map.mp hknown
      obtain ⟨i, hi, rfl⟩ := List.mem_map.mp hp
      rw [List.mem_range] at hi
      simp only [roomProfile] at hid
      omega
    · simp [fullLibrary] at hroom
  exact ⟨fullLibrary_wellFormed, hvalid, l', hput, hnot, fun hload =>
    hnot (wellFormed_of_load hload)⟩

end FullLibrary

end World

end Soundwave

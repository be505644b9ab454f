import Soundwave.ServiceUpdates

/-!
# Progress of the Android service

A weight bounds the steps that the threads of the service can still make when nothing
comes from outside.  An access weighs as much as the update that it may bring about, a
worker as much as the runnable it posts at its end, and a playback that does not run as
much as the start that may still come.
-/

namespace Soundwave

namespace AudioService

section Progress

/-- The steps that an access still stands for, with those of the update it announces. -/
def accessWeight : Access → Nat
  | .notifyChanged => 18
  | .swapAudioActive _ | .swapState _ => 19
  | .storeTone _ => 1

/-- The steps that a worker still stands for, with those of the runnable it posts. -/
def phaseWeight : WorkerPhase → Nat
  | .playing => 20
  | .leaving => 19
  | .released => 18
  | .clearing => 17
  | .detached => 16
  | .gone => 0

/-- The steps that follow on `syncStreamingResources`. -/
def afterWeight : AfterSync → Nat
  | .done => 0
  | .watchStatus => 18
  | .close => 60

/-- The steps that the main thread still stands for. -/
def opWeight : MainOp → Nat
  | .idle => 0
  | .startPlayback after | .stopPlayback after => 11 + afterWeight after
  | .readTone after => 12 + afterWeight after
  | .sync _ after => 13 + afterWeight after
  | .readState _ after => 14 + afterWeight after
  | .watchStatus => 18
  | .nativeShutdown => 40
  | .close => 60
  | .connectSucceeded => 33
  | .nativeConnect _ => 73
  | .dropConnection => 51
  | .onDestroy => 72

/-- The steps that the status thread still stands for. -/
def watcherWeight (s : AudioService) : Nat :=
  match s.watcher with
  | none => 0
  | some w =>
      (if w.posting then 16 else 0) + if toJlong s.shared.revision = w.seen then 0 else 17

/-- A worker plays, and goes on playing. -/
def plays (s : AudioService) : Bool :=
  s.playbackRunning && s.audioTrack.any fun i => s.workers[i]? = some .playing

/-- A bound on the steps that can still follow if nothing comes from outside. -/
def weight (s : AudioService) : Nat :=
  (s.calls.map fun c => (c.map accessWeight).sum).sum + (s.accesses.map accessWeight).sum +
    opWeight s.next + 15 * s.queue.length + s.watcherWeight +
    (s.workers.map phaseWeight).sum + if s.plays then 0 else 10

theorem sum_map_set {α : Type} (f : α → Nat) {l : List α} {i : Nat} {a : α} (b : α)
    (h : l[i]? = some a) : ((l.set i b).map f).sum + f a = (l.map f).sum + f b := by
  induction l generalizing i with
  | nil => simp at h
  | cons x l ih =>
      cases i with
      | zero =>
          cases h
          simp only [List.set_cons_zero, List.map_cons, List.sum_cons]
          omega
      | succ i =>
          have hrest := ih (i := i) h
          simp only [List.set_cons_succ, List.map_cons, List.sum_cons]
          omega

theorem access_weight (s : AudioService) (a : Access) :
    ((s.shared.perform a).2.map accessWeight).sum + (s.access a).watcherWeight + 1 ≤
      accessWeight a + s.watcherWeight := by
  have hsame : (s.access a).shared.revision = s.shared.revision →
      (s.access a).watcherWeight = s.watcherWeight := fun heq => by
    rw [watcherWeight, watcherWeight, heq]
    rfl
  cases a with
  | notifyChanged =>
      have hwatcher : (s.access .notifyChanged).watcher = s.watcher := rfl
      simp only [watcherWeight, hwatcher, SharedState.perform, accessWeight, List.map_nil,
        List.sum_nil]
      cases s.watcher with
      | none =>
          dsimp only
          omega
      | some w =>
          dsimp only
          split <;> split <;> split <;> omega
  | storeTone active =>
      rw [hsame rfl]
      simp only [SharedState.perform, accessWeight, List.map_nil, List.sum_nil]
      omega
  | swapAudioActive active =>
      rw [hsame rfl]
      simp only [SharedState.perform, accessWeight]
      split
      · simp only [List.map_nil, List.sum_nil]
        omega
      · simp only [List.map_cons, List.map_nil, List.sum_cons, List.sum_nil, accessWeight]
        omega
  | swapState state =>
      rw [hsame rfl]
      simp only [SharedState.perform, accessWeight]
      split
      · simp only [List.map_nil, List.sum_nil]
        omega
      · simp only [List.map_cons, List.map_nil, List.sum_cons, List.sum_nil, accessWeight]
        omega

theorem native_weight {s : AudioService} {i : Nat} {a : Access} {rest : List Access}
    (h : s.calls[i]? = some (a :: rest)) :
    weight { s.access a with calls := s.calls.set i ((s.shared.perform a).2 ++ rest) } <
      s.weight := by
  have hcalls := sum_map_set (fun c => (c.map accessWeight).sum)
    ((s.shared.perform a).2 ++ rest) h
  have haccess := s.access_weight a
  have hweight : weight
      { s.access a with calls := s.calls.set i ((s.shared.perform a).2 ++ rest) } =
      ((s.calls.set i ((s.shared.perform a).2 ++ rest)).map
        fun c => (c.map accessWeight).sum).sum +
      (s.accesses.map accessWeight).sum + opWeight s.next + 15 * s.queue.length +
      (s.access a).watcherWeight + (s.workers.map phaseWeight).sum +
      if s.plays then 0 else 10 := rfl
  simp only [List.map_append, List.sum_append, List.map_cons, List.sum_cons] at hcalls
  rw [hweight, weight]
  omega

theorem main_weight {s : AudioService} {a : Access} {rest : List Access}
    (h : s.accesses = a :: rest) :
    weight { s.access a with accesses := (s.shared.perform a).2 ++ rest } < s.weight := by
  have haccess := s.access_weight a
  have hweight : weight { s.access a with accesses := (s.shared.perform a).2 ++ rest } =
      (s.calls.map fun c => (c.map accessWeight).sum).sum +
      (((s.shared.perform a).2 ++ rest).map accessWeight).sum + opWeight s.next +
      15 * s.queue.length + (s.access a).watcherWeight + (s.workers.map phaseWeight).sum +
      if s.plays then 0 else 10 := rfl
  rw [hweight, weight, h, List.map_append, List.sum_append, List.map_cons, List.sum_cons]
  omega

/-- A step that leaves calls and workers alone. -/
theorem weight_lt {s s' : AudioService} (hcalls : s'.calls = s.calls)
    (hworkers : s'.workers = s.workers) (hplays : s.plays = true → s'.plays = true)
    (hless : (s'.accesses.map accessWeight).sum + opWeight s'.next + 15 * s'.queue.length +
      s'.watcherWeight < (s.accesses.map accessWeight).sum + opWeight s.next +
      15 * s.queue.length + s.watcherWeight) : s'.weight < s.weight := by
  simp only [weight, hcalls, hworkers]
  cases hplaying : s.plays with
  | true =>
      rw [hplays hplaying]
      simp only [if_true]
      omega
  | false =>
      simp only [Bool.false_eq_true, if_false]
      split <;> omega

theorem watch_weight {s : AudioService} (h : s.Busy .watch) : s.watch.weight < s.weight := by
  obtain ⟨w, hw, hbusy⟩ := h
  simp only [watch, hw]
  cases hposting : w.posting with
  | true =>
      refine weight_lt rfl rfl (fun hplays => hplays) ?_
      simp only [watcherWeight, hw, hposting, List.length_append, List.length_singleton, if_true,
        Bool.false_eq_true, if_false]
      omega
  | false =>
      have hunseen : toJlong s.shared.revision ≠ w.seen := by
        rcases hbusy with htrue | hne
        · rw [hposting] at htrue
          cases htrue
        · exact fun heq => hne heq.symm
      rw [if_neg (by decide), if_neg hunseen]
      refine weight_lt rfl rfl (fun hplays => hplays) ?_
      simp only [watcherWeight, hw, hposting, if_neg hunseen, if_true, Bool.false_eq_true, if_false]
      omega

theorem plays_iff (s : AudioService) :
    s.plays = true ↔ ∃ i, s.shouldContinue i = true ∧ s.workers[i]? = some .playing := by
  cases htrack : s.audioTrack with
  | none => simp [plays, shouldContinue, htrack]
  | some i =>
      simp only [plays, shouldContinue, htrack, Option.any_some, Bool.and_eq_true,
        decide_eq_true_eq, Option.some.injEq]
      constructor
      · rintro ⟨hrunning, hplaying⟩
        exact ⟨i, ⟨hrunning, rfl⟩, hplaying⟩
      · rintro ⟨j, ⟨hrunning, rfl⟩, hplaying⟩
        exact ⟨hrunning, hplaying⟩

/-- A worker that has a step to make is not the one that plays on. -/
theorem plays_set {s s' : AudioService} {i : Nat} {phase : WorkerPhase}
    (hbusy : s.workerBusy i = true) (hworkers : s'.workers = s.workers.set i phase)
    (hcontinue : ∀ j, j ≠ i → s.shouldContinue j = true → s'.shouldContinue j = true)
    (hplays : s.plays = true) : s'.plays = true := by
  obtain ⟨j, hj, hplaying⟩ := (s.plays_iff).mp hplays
  obtain ⟨old, hold, _, hstops⟩ := (s.workerBusy_iff i).mp hbusy
  have hne : j ≠ i := fun heq => by
    rw [heq] at hj hplaying
    rw [hplaying] at hold
    cases hold
    exact absurd hj (by rw [hstops rfl]; decide)
  refine s'.plays_iff.mpr ⟨j, hcontinue j hne hj, ?_⟩
  rw [hworkers, List.getElem?_set_ne fun heq => hne heq.symm]
  exact hplaying

/-- A worker moves on, and may add something to the queue. -/
theorem weight_set {s s' : AudioService} {i : Nat} {old new : WorkerPhase}
    (hold : s.workers[i]? = some old) (hworkers : s'.workers = s.workers.set i new)
    (hcalls : s'.calls = s.calls) (haccesses : s'.accesses = s.accesses)
    (hnext : s'.next = s.next) (hwatcher : s'.watcherWeight = s.watcherWeight)
    (hless : phaseWeight new + 15 * s'.queue.length < phaseWeight old + 15 * s.queue.length)
    (hplays : s.plays = true → s'.plays = true) : s'.weight < s.weight := by
  have hsum := sum_map_set phaseWeight new hold
  simp only [weight, hworkers, hcalls, haccesses, hnext, hwatcher]
  cases hplaying : s.plays with
  | true =>
      rw [hplays hplaying]
      simp only [if_true]
      omega
  | false =>
      simp only [Bool.false_eq_true, if_false]
      split <;> omega

theorem worker_weight {s : AudioService} (howned : s.Owned) {i : Nat}
    (h : s.workerBusy i = true) : (s.worker i).weight < s.weight := by
  simp only [worker]
  split
  · rename_i hphase
    obtain ⟨phase, hsame, _, hstops⟩ := (s.workerBusy_iff i).mp h
    rw [hphase] at hsame
    cases hsame
    rw [if_neg (by rw [hstops rfl]; decide)]
    exact weight_set hphase rfl rfl rfl rfl rfl (by simp only [phaseWeight]; omega)
      (plays_set h rfl fun _ _ hj => hj)
  · rename_i hphase
    exact weight_set hphase rfl rfl rfl rfl rfl (by simp only [phaseWeight]; omega)
      (plays_set h rfl fun _ _ hj => hj)
  · rename_i hphase
    split
    · rename_i htrack
      refine weight_set hphase rfl rfl rfl rfl rfl (by simp only [phaseWeight]; omega)
        (plays_set h rfl fun j hne hj => ?_)
      simp only [shouldContinue, Bool.and_eq_true, decide_eq_true_eq, htrack,
        Option.some.injEq] at hj
      exact absurd hj.2.symm hne
    · exact weight_set hphase rfl rfl rfl rfl rfl (by simp only [phaseWeight]; omega)
        (plays_set h rfl fun _ _ hj => hj)
  · rename_i hphase
    have htrack := howned.attached i .clearing hphase rfl
    refine weight_set hphase rfl rfl rfl rfl rfl (by simp only [phaseWeight]; omega)
      (plays_set h rfl fun j hne hj => ?_)
    simp only [shouldContinue, Bool.and_eq_true, decide_eq_true_eq, htrack,
      Option.some.injEq] at hj
    exact absurd hj.2.symm hne
  · rename_i hphase
    refine weight_set hphase rfl rfl rfl rfl rfl ?_ (plays_set h rfl fun _ _ hj => hj)
    simp only [phaseWeight, List.length_append, List.length_singleton]
    omega
  · rename_i hplaying hleaving hreleased hclearing hdetached
    obtain ⟨phase, hphase, hgone, _⟩ := (s.workerBusy_iff i).mp h
    cases phase with
    | playing => exact absurd hphase hplaying
    | leaving => exact absurd hphase hleaving
    | released => exact absurd hphase hreleased
    | clearing => exact absurd hphase hclearing
    | detached => exact absurd hphase hdetached
    | gone => exact absurd rfl hgone

theorem opWeight_op (after : AfterSync) : opWeight after.op = afterWeight after := by
  cases after <;> rfl

theorem set_weight (state : ClientState) :
    ((SharedState.set state).map accessWeight).sum ≤ 39 := by
  cases state <;> decide

theorem setEngineState_weight (s : AudioService) (state : ClientState) :
    ((s.setEngineState state).map accessWeight).sum ≤ 39 := by
  rcases s.setEngineState_cases state with h | h
  · rw [h]
    decide
  · rw [h]
    exact set_weight state

theorem nativeStopTestTone_weight (s : AudioService) :
    (s.nativeStopTestTone.map accessWeight).sum ≤ 19 := by
  simp only [nativeStopTestTone]
  split <;> decide

theorem performs_weight {s s' : AudioService}
    (hconnected : s.nativeGetState = .connected) (haccesses : s.accesses = [])
    (hbusy : s.next ≠ .idle ∨ s.queue ≠ []) (hperforms : s.Performs s') :
    s'.weight < s.weight := by
  cases hperforms with
  | rests hnext hqueue =>
      rcases hbusy with hne | hne
      · exact absurd hnext hne
      · exact absurd hqueue hne
  | updates hnext hqueue | passesUpdate hnext hqueue | resyncs hnext hqueue
  | passesSync hnext hqueue =>
      refine weight_lt rfl rfl (fun hplays => hplays) ?_
      simp only [hnext, hqueue, opWeight, afterWeight, List.length_cons, watcherWeight]
      omega
  | @refuses outcome engine accesses hnext _ hrefused =>
      have hle : (accesses.map accessWeight).sum ≤ 39 := by
        rcases hrefused with rfl | rfl
        · decide
        · exact set_weight .error
      refine weight_lt rfl rfl (fun hplays => hplays) ?_
      simp only [hnext, haccesses, opWeight, afterWeight, watcherWeight, List.map_nil, List.sum_nil]
      omega
  | connects hnext =>
      have hle := set_weight .connecting
      refine weight_lt rfl rfl (fun hplays => hplays) ?_
      simp only [hnext, haccesses, opWeight, watcherWeight, List.map_nil, List.sum_nil]
      omega
  | succeeds hnext =>
      refine weight_lt rfl rfl (fun hplays => hplays) ?_
      simp only [hnext, opWeight, afterWeight, watcherWeight]
      omega
  | reads hnext =>
      refine weight_lt rfl rfl (fun hplays => hplays) ?_
      simp only [hnext, haccesses, hconnected, if_true, opWeight, watcherWeight]
      omega
  | hearsAudio hnext | hearsNoAudio hnext | declines hnext | hearsTone hnext
  | hearsNothing hnext =>
      refine weight_lt rfl rfl (fun hplays => hplays) ?_
      simp only [hnext, opWeight, watcherWeight]
      omega
  | @starts after hnext =>
      have hop := opWeight_op after
      by_cases htrack : s.audioTrack.isSome = true
      · have hsame : s.startPlayback = { s with wifiLock := true } := by
          simp only [startPlayback, if_pos htrack]
        rw [hsame]
        refine weight_lt rfl rfl (fun hplays => hplays) ?_
        simp only [hnext, watcherWeight]
        rw [hop, opWeight]
        omega
      · have hnew : s.startPlayback =
            { s with
                wifiLock := true
                playbackRunning := true
                audioTrack := some s.workers.length
                workers := s.workers ++ [.playing] } := by
          simp only [startPlayback, if_neg htrack]
        have hplays : s.plays = false := by
          simp [plays, Option.not_isSome_iff_eq_none.mp htrack]
        have hplays' : s.startPlayback.plays = true := by
          rw [hnew]
          simp [plays]
        have hweight : weight { s.startPlayback with next := after.op } =
            (s.startPlayback.calls.map fun c => (c.map accessWeight).sum).sum +
            (s.startPlayback.accesses.map accessWeight).sum + opWeight after.op +
            15 * s.startPlayback.queue.length + s.startPlayback.watcherWeight +
            (s.startPlayback.workers.map phaseWeight).sum +
            if s.startPlayback.plays then 0 else 10 := rfl
        rw [hweight, hplays', hop, hnew]
        simp only [weight, hplays, hnext, opWeight, watcherWeight, List.map_append, List.sum_append,
          List.map_cons, List.map_nil, List.sum_cons, List.sum_nil, phaseWeight, if_true,
          Bool.false_eq_true, if_false]
        omega
  | @stops after hnext =>
      have hop := opWeight_op after
      have hweight : weight { s.stopPlayback with next := after.op } =
          (s.calls.map fun c => (c.map accessWeight).sum).sum +
          (s.accesses.map accessWeight).sum + opWeight after.op + 15 * s.queue.length +
          s.watcherWeight + (s.workers.map phaseWeight).sum + 10 := rfl
      rw [hweight, hop, weight, hnext, opWeight]
      omega
  | watches hnext =>
      simp only [watchStatus]
      split
      · refine weight_lt rfl rfl (fun hplays => hplays) ?_
        simp only [hnext, opWeight, watcherWeight]
        omega
      · rename_i hnone
        have hwatcher : s.watcher = none := Option.not_isSome_iff_eq_none.mp hnone
        refine weight_lt rfl rfl (fun hplays => hplays) ?_
        simp only [hnext, opWeight, watcherWeight, hwatcher, Bool.false_eq_true, if_false]
        split <;> omega
  | drops hnext =>
      have hle := s.setEngineState_weight .disconnected
      refine weight_lt rfl rfl (fun hplays => hplays) ?_
      simp only [hnext, haccesses, opWeight, afterWeight, watcherWeight, List.map_nil, List.sum_nil]
      omega
  | destroys hnext =>
      refine weight_lt rfl rfl (fun hplays => hplays) ?_
      simp only [hnext, opWeight, afterWeight, watcherWeight]
      omega
  | closes hnext =>
      have hle := s.nativeStopTestTone_weight
      refine weight_lt rfl rfl (fun hplays => hplays) ?_
      simp only [hnext, haccesses, opWeight, watcherWeight, List.map_nil, List.sum_nil]
      omega
  | shutsDown hnext =>
      have hle := s.setEngineState_weight .disconnected
      refine weight_lt rfl rfl (fun hplays => hplays) ?_
      simp only [hnext, haccesses, opWeight, watcherWeight, List.map_nil, List.sum_nil]
      omega

theorem busy_weight {s : AudioService} (howned : s.Owned)
    (hconnected : s.nativeGetState = .connected) {e : ServiceEvent} (h : s.Busy e) :
    (s.step e).weight < s.weight := by
  cases e with
  | call c | intent i | writeFails i => exact h.elim
  | native i =>
      obtain ⟨a, rest, hcalls⟩ := h
      simp only [step, native, hcalls]
      exact native_weight hcalls
  | main =>
      simp only [step, main]
      split
      · rename_i haccesses
        exact performs_weight hconnected haccesses (h.resolve_left fun hne => hne haccesses)
          (mainOp_performs s haccesses)
      · exact main_weight ‹_›
  | watch => exact watch_weight h
  | worker i => exact worker_weight howned h

/-- Only busy threads change anything. -/
theorem step_of_not_busy {s : AudioService} {e : ServiceEvent} (h : ¬s.Busy e)
    (hinside : e = .main ∨ e = .watch ∨ ∃ i, e = .native i ∨ e = .worker i) : s.step e = s := by
  rcases hinside with rfl | rfl | ⟨i, rfl | rfl⟩
  · have haccesses : s.accesses = [] := by_contra fun hne => h (Or.inl hne)
    have hnext : s.next = .idle := by_contra fun hne => h (Or.inr (Or.inl hne))
    have hqueue : s.queue = [] := by_contra fun hne => h (Or.inr (Or.inr hne))
    simp only [step, main, haccesses, mainOp, hnext, hqueue]
  · simp only [step, watch]
    split
    · rfl
    · rename_i w hw
      have hposting : w.posting ≠ true := fun heq => h ⟨w, hw, Or.inl heq⟩
      have hseen : toJlong s.shared.revision = w.seen :=
        by_contra fun hne => h ⟨w, hw, Or.inr fun heq => hne heq.symm⟩
      rw [if_neg hposting, if_pos hseen]
  · simp only [step, native]
    split
    · exact absurd ⟨_, _, ‹_›⟩ h
    · rfl
  · have hidle : ¬∃ phase, s.workers[i]? = some phase ∧ phase ≠ .gone ∧
        (phase = .playing → s.shouldContinue i = false) :=
      fun hbusy => h ((s.workerBusy_iff i).mpr hbusy)
    simp only [step, worker]
    split
    · rename_i hphase
      rw [if_pos]
      by_contra hstop
      exact hidle ⟨_, hphase, (fun heq => by cases heq), fun _ => Bool.not_eq_true _ ▸ hstop⟩
    · exact absurd ⟨_, ‹_›, (fun heq => by cases heq), fun heq => by cases heq⟩ hidle
    · exact absurd ⟨_, ‹_›, (fun heq => by cases heq), fun heq => by cases heq⟩ hidle
    · exact absurd ⟨_, ‹_›, (fun heq => by cases heq), fun heq => by cases heq⟩ hidle
    · exact absurd ⟨_, ‹_›, (fun heq => by cases heq), fun heq => by cases heq⟩ hidle
    · rfl

/-- **A connected phone comes to rest.**  While the phone stays connected and nothing comes
from outside, the threads can make only so many steps: each step of a busy thread leaves
less to do, whichever thread it is, and a thread that is not busy changes nothing. -/
theorem connected_phone_settles (es : List ServiceEvent) {inside : List ServiceEvent}
    (h : Along step (fun s e => s.Busy e ∧ s.nativeGetState = .connected) (run step start es)
      inside) :
    inside.length + (run step start (es ++ inside)).weight ≤ (run step start es).weight ∧
      ∀ e, (e = .main ∨ e = .watch ∨ ∃ i, e = .native i ∨ e = .worker i) →
        ¬(run step start (es ++ inside)).Busy e →
        (run step start (es ++ inside)).step e = run step start (es ++ inside) := by
  refine ⟨?_, fun e hinside hidle => step_of_not_busy hidle hinside⟩
  rw [run_append]
  have howned := (run_sound es).owned
  generalize run step start es = s at h howned
  induction inside generalizing s with
  | nil => exact Nat.le_of_eq (Nat.zero_add _)
  | cons e rest ih =>
      obtain ⟨⟨hbusy, hconnected⟩, hrest⟩ := h
      have hless := busy_weight howned hconnected hbusy
      have hlater := ih (s.step e) hrest (step_owned howned e)
      simp only [List.length_cons, run_cons] at hlater ⊢
      omega

theorem connected_phone_settles_listening :
    8 + (run step start listening).weight ≤ (run step start (listening.take 17)).weight := by
  have hbusy : Along step (fun s e => s.Busy e ∧ s.nativeGetState = .connected)
      (run step start (listening.take 17)) (listening.drop 17) :=
    ⟨⟨⟨_, _, rfl⟩, rfl⟩, ⟨⟨_, _, rfl⟩, rfl⟩, ⟨⟨_, rfl, by decide⟩, rfl⟩, ⟨⟨_, rfl, by decide⟩, rfl⟩,
      ⟨Or.inr (Or.inr (by decide)), rfl⟩, ⟨Or.inr (Or.inl (by decide)), rfl⟩,
      ⟨Or.inr (Or.inl (by decide)), rfl⟩, ⟨Or.inr (Or.inl (by decide)), rfl⟩, trivial⟩
  exact (connected_phone_settles (listening.take 17) hbusy).1

end Progress

end AudioService

end Soundwave

import Soundwave.TransitionRuns
import Soundwave.VolumeProfiles

/-!
# The calibration controller

Model of `CalibrationController` in `windows-server/src/application/calibration.rs`.  A
start spawns a worker with a cancellation token of its own; the worker measures, and then
takes the lock once to publish its result.  What a worker does before that is modelled
elsewhere; here it only sets messages.

A token is the number of the start that made it.  `log` records what happened, oldest
first, and the stored result is kept together with the run that it comes from.

No profile of a cancelled run is ever handed out, whatever the order of cancels, starts,
workers that finish, and polls.
-/

namespace Soundwave

/-- What happened to a calibration controller. -/
inductive CalibrationRecord where
  | started (run : Nat)
  | cancelled
  | completed (run : Nat) (outcome : Except String Profile)
  | taken (run : Nat) (profile : Profile)

/-- The runs whose profiles were handed out. -/
def takenRuns (log : List CalibrationRecord) : List Nat :=
  log.filterMap (fun record =>
    match record with
    | .taken run _ => some run
    | _ => none)

/-- `State` of `CalibrationController`, with the workers that have not finished. -/
structure CalibrationController where
  running : Bool
  message : String
  cancelToken : Option Nat
  result : Option (Nat × Profile)
  cancelled : List Nat
  shutdown : Bool
  workers : List Nat
  tokens : Nat
  log : List CalibrationRecord

namespace CalibrationController

section Model

/-- `CalibrationController::default`. -/
def default : CalibrationController where
  running := false
  message := ""
  cancelToken := none
  result := none
  cancelled := []
  shutdown := false
  workers := []
  tokens := 0
  log := []

/-- `CancellationToken::is_cancelled`; the tokens are children of the shutdown token. -/
def isCancelled (c : CalibrationController) (token : Nat) : Bool :=
  c.shutdown || c.cancelled.contains token

/-- `CalibrationController::status`. -/
def status (c : CalibrationController) : Bool × String :=
  (c.running, c.message)

/-- `CalibrationController::cancel`. -/
def cancel (c : CalibrationController) : CalibrationController :=
  { c with
      cancelled := c.cancelToken.toList ++ c.cancelled
      result := none
      message := if c.result.isSome then "校准已取消，原音量已恢复" else c.message
      log := c.log ++ [.cancelled] }

/-- `CalibrationController::clear_message`. -/
def clearMessage (c : CalibrationController) : CalibrationController :=
  { c with message := "" }

/-- `CalibrationController::take_result`. -/
def takeResult (c : CalibrationController) : Option Profile × CalibrationController :=
  match c.result with
  | none => (none, c)
  | some (run, profile) =>
      (some profile, { c with result := none, log := c.log ++ [.taken run profile] })

/-- `CalibrationController::message`. -/
def setMessage (c : CalibrationController) (text : String) : CalibrationController :=
  { c with message := text }

/-- `CalibrationController::start`; `spawnFailure` is the error of the thread builder. -/
def start (c : CalibrationController) (spawnFailure : Option String) :
    Except String Unit × CalibrationController :=
  if c.running then
    (.error "校准已在进行中", c)
  else
    let token := c.tokens
    let c :=
      { c with
          running := true
          cancelToken := some token
          tokens := token + 1
          result := none
          message := "正在准备校准…" }
    match spawnFailure with
    | some error => (.error error, { c with running := false })
    | none => (.ok (), { c with workers := token :: c.workers, log := c.log ++ [.started token] })

/-- What a worker does under the lock after `run` has returned `outcome`. -/
def complete (c : CalibrationController) (run : Nat) (outcome : Except String Profile) :
    CalibrationController :=
  let published :=
    match outcome with
    | .ok profile =>
        if c.isCancelled run then
          { c with message := "校准已取消，原音量已恢复" }
        else
          { c with
              result := some (run, profile)
              message := "测量结束，原音量已恢复。请检查对应表后保存配置。" }
    | .error error => { c with message := error }
  { published with
      running := false
      workers := c.workers.erase run
      log := c.log ++ [.completed run outcome] }

end Model

/-- What the threads do. -/
inductive Event where
  | start (spawnFailure : Option String)
  | cancel
  | takeResult
  | clearMessage
  | message (run : Nat) (text : String)
  | complete (run : Nat) (outcome : Except String Profile)
  | shutdown

/-- One step; only a worker that has not finished sets messages and completes. -/
def step (c : CalibrationController) : Event → CalibrationController
  | .start spawnFailure => (c.start spawnFailure).2
  | .cancel => c.cancel
  | .takeResult => c.takeResult.2
  | .clearMessage => c.clearMessage
  | .message run text => if run ∈ c.workers then c.setMessage text else c
  | .complete run outcome => if run ∈ c.workers then c.complete run outcome else c
  | .shutdown => { c with shutdown := true }

section Invariant

/-- `run` is the last run that was started, and `later` is what has happened since. -/
def Since (log : List CalibrationRecord) (run : Nat) (later : List CalibrationRecord) : Prop :=
  (∃ earlier, log = earlier ++ .started run :: later) ∧ ∀ other, .started other ∉ later

/-- The run has returned a profile and has not been cancelled. -/
def Delivers (log : List CalibrationRecord) (run : Nat) (profile : Profile) : Prop :=
  ∃ later, Since log run later ∧ .cancelled ∉ later ∧ .completed run (.ok profile) ∈ later

theorem Since.append {log later : List CalibrationRecord} {run : Nat} (h : Since log run later)
    {record : CalibrationRecord} (hrecord : ∀ other, record ≠ .started other) :
    Since (log ++ [record]) run (later ++ [record]) := by
  obtain ⟨⟨earlier, rfl⟩, hlast⟩ := h
  refine ⟨⟨earlier, by rw [List.append_assoc, List.cons_append]⟩, ?_⟩
  intro other hmem
  rcases List.mem_append.mp hmem with hmem | hmem
  · exact hlast other hmem
  · exact hrecord other (List.mem_singleton.mp hmem).symm

theorem since_started (log : List CalibrationRecord) (run : Nat) :
    Since (log ++ [.started run]) run [] :=
  ⟨⟨log, rfl⟩, fun _ h => by cases h⟩

/-- The invariant of the controller. -/
structure Sound (c : CalibrationController) : Prop where
  idle : c.running = false → c.workers = []
  busy : c.running = true → ∃ run, c.workers = [run] ∧ c.cancelToken = some run ∧
    run ∉ takenRuns c.log ∧ run < c.tokens ∧
    ∃ later, Since c.log run later ∧ (.cancelled ∈ later → run ∈ c.cancelled)
  result : ∀ run profile, c.result = some (run, profile) →
    c.running = false ∧ Delivers c.log run profile ∧ run ∉ takenRuns c.log ∧ run < c.tokens
  taken : (takenRuns c.log).Nodup ∧ ∀ run ∈ takenRuns c.log, run < c.tokens
  handed : ∀ before run profile after, c.log = before ++ .taken run profile :: after →
    Delivers before run profile

variable {c : CalibrationController}

theorem takenRuns_append (log : List CalibrationRecord) (record : CalibrationRecord) :
    takenRuns (log ++ [record]) = takenRuns log ++ takenRuns [record] :=
  List.filterMap_append

/-- A further record that hands out nothing. -/
theorem handed_append {log : List CalibrationRecord}
    (h : ∀ before run profile after, log = before ++ .taken run profile :: after →
      Delivers before run profile)
    {record : CalibrationRecord}
    (hrecord : ∀ run profile, record = .taken run profile → Delivers log run profile)
    (before : List CalibrationRecord) (run : Nat) (profile : Profile)
    (after : List CalibrationRecord)
    (heq : log ++ [record] = before ++ .taken run profile :: after) :
    Delivers before run profile := by
  rcases concat_eq_append_cons heq with ⟨-, rfl, hlast⟩ | ⟨earlier, -, hearlier⟩
  · exact hrecord run profile hlast
  · exact h before run profile earlier hearlier

/-- A step that leaves everything but the message alone. -/
theorem Sound.of_message (h : c.Sound) (text : String) : (c.setMessage text).Sound :=
  ⟨h.idle, h.busy, h.result, h.taken, h.handed⟩

theorem Sound.shutdown (h : c.Sound) :
    ({ c with shutdown := true } : CalibrationController).Sound :=
  ⟨h.idle, h.busy, h.result, h.taken, h.handed⟩

theorem sound_default : default.Sound where
  idle := fun _ => rfl
  busy := fun h => by cases h
  result := fun _ _ h => by cases h
  taken := ⟨List.nodup_nil, fun _ h => by cases h⟩
  handed := by
    intro before run profile after heq
    have hlength := congrArg List.length heq
    simp [default] at hlength

/-- A cancel revokes the stored result, and the worker's token. -/
theorem Sound.cancel (h : c.Sound) : c.cancel.Sound where
  idle := h.idle
  busy := by
    intro hrunning
    obtain ⟨run, hworkers, htoken, hnot, hbelow, later, hsince, _⟩ := h.busy hrunning
    have hlater : Since c.cancel.log run (later ++ [CalibrationRecord.cancelled]) :=
      hsince.append nofun
    refine ⟨run, hworkers, htoken, ?_, hbelow, _, hlater, fun _ => ?_⟩
    · rw [CalibrationController.cancel, takenRuns_append]
      simpa [takenRuns] using hnot
    · simp [CalibrationController.cancel, htoken]
  result := fun _ _ hresult => by cases hresult
  taken := by
    rw [CalibrationController.cancel, takenRuns_append]
    simpa [takenRuns] using h.taken
  handed := handed_append h.handed nofun

/-- The result that is handed out is of the last run, which was not cancelled. -/
theorem Sound.takeResult (h : c.Sound) : c.takeResult.2.Sound := by
  rw [CalibrationController.takeResult]
  cases hresult : c.result with
  | none =>
      exact h
  | some result =>
      obtain ⟨run, profile⟩ := result
      obtain ⟨hidle, hdelivers, hnot, hbelow⟩ := h.result run profile hresult
      refine ⟨h.idle, ?_, (fun _ _ hnone => by cases hnone), ?_, ?_⟩
      · intro hrunning
        simp only at hrunning
        rw [hidle] at hrunning
        cases hrunning
      · have htaken : takenRuns (c.log ++ [CalibrationRecord.taken run profile]) =
            takenRuns c.log ++ [run] :=
          takenRuns_append _ _
        rw [htaken]
        refine ⟨List.nodup_append.mpr ⟨h.taken.1, List.nodup_singleton run, ?_⟩, ?_⟩
        · intro other hother other' hsingle heq
          rw [heq, List.mem_singleton.mp hsingle] at hother
          exact hnot hother
        · intro other hother
          rcases List.mem_append.mp hother with hother | hother
          · exact h.taken.2 other hother
          · rw [List.mem_singleton.mp hother]
            exact hbelow
      · refine handed_append h.handed ?_
        intro run' profile' heq
        cases heq
        exact hdelivers

/-- A start begins a run of its own. -/
theorem Sound.start (h : c.Sound) (spawnFailure : Option String) :
    (c.start spawnFailure).2.Sound := by
  rw [CalibrationController.start]
  split_ifs with hrunning
  · exact h
  · have hworkers := h.idle (Bool.eq_false_iff.mpr hrunning)
    have hbelow : ∀ run ∈ takenRuns c.log, run < c.tokens + 1 :=
      fun run hrun => Nat.lt_succ_of_lt (h.taken.2 run hrun)
    cases spawnFailure with
    | some error =>
        exact ⟨fun _ => hworkers, (fun hbusy => by cases hbusy), (fun _ _ hnone => by cases hnone),
          ⟨h.taken.1, hbelow⟩, h.handed⟩
    | none =>
        have htaken :
            takenRuns (c.log ++ [CalibrationRecord.started c.tokens]) = takenRuns c.log := by
          rw [takenRuns_append]
          exact List.append_nil _
        refine ⟨(fun hidle => by cases hidle), ?_, (fun _ _ hnone => by cases hnone), ?_, ?_⟩
        · intro _
          refine ⟨c.tokens, by simp only [hworkers], rfl, ?_, Nat.lt_succ_self _, [],
            since_started _ _, fun hnil => by cases hnil⟩
          rw [htaken]
          exact fun hrun => absurd (h.taken.2 _ hrun) (Nat.lt_irrefl _)
        · rw [htaken]
          exact ⟨h.taken.1, hbelow⟩
        · exact handed_append h.handed nofun

/-- A worker publishes its profile only if its run was not cancelled. -/
theorem Sound.complete (h : c.Sound) {run : Nat} (hrun : run ∈ c.workers)
    (outcome : Except String Profile) : (c.complete run outcome).Sound := by
  have hrunning : c.running = true := by
    by_contra hidle
    rw [h.idle (Bool.eq_false_iff.mpr hidle)] at hrun
    cases hrun
  obtain ⟨run', hworkers, _, hnot, hbelow, later, hsince, hcancelled⟩ := h.busy hrunning
  rw [hworkers] at hrun
  obtain rfl := List.mem_singleton.mp hrun
  have htaken :
      takenRuns (c.log ++ [CalibrationRecord.completed run outcome]) = takenRuns c.log := by
    rw [takenRuns_append]
    exact List.append_nil _
  have hdone : c.workers.erase run = [] := by
    rw [hworkers]
    simp
  have hidle : ∀ result, (∀ run' profile, result = some (run', profile) →
      Delivers (c.log ++ [CalibrationRecord.completed run outcome]) run' profile ∧ run' = run) →
      ∀ message, ({ c with
        running := false
        workers := c.workers.erase run
        log := c.log ++ [.completed run outcome]
        result := result
        message := message } : CalibrationController).Sound := by
    intro result hresult message
    refine ⟨fun _ => hdone, (fun hbusy => by cases hbusy), ?_, ?_, handed_append h.handed nofun⟩
    · intro run' profile heq
      obtain ⟨hdelivers, rfl⟩ := hresult run' profile heq
      exact ⟨rfl, hdelivers, by rw [htaken]; exact hnot, hbelow⟩
    · rw [htaken]
      exact h.taken
  have hkept : ∀ run' profile, c.result ≠ some (run', profile) := by
    intro run' profile heq
    rw [(h.result run' profile heq).1] at hrunning
    cases hrunning
  cases outcome with
  | error error =>
      exact hidle c.result (fun run' profile heq => absurd heq (hkept run' profile)) error
  | ok profile =>
      simp only [CalibrationController.complete]
      split_ifs with htoken
      · exact hidle c.result (fun run' profile heq => absurd heq (hkept run' profile)) _
      · refine hidle (some (run, profile)) ?_ _
        intro run' profile' heq
        cases heq
        have hlater : Since (c.log ++ [CalibrationRecord.completed run (.ok profile)]) run
            (later ++ [CalibrationRecord.completed run (.ok profile)]) := hsince.append nofun
        refine ⟨⟨_, hlater, ?_, ?_⟩, rfl⟩
        · intro hmem
          rcases List.mem_append.mp hmem with hmem | hmem
          · apply htoken
            simp [isCancelled, hcancelled hmem]
          · cases List.mem_singleton.mp hmem
        · exact List.mem_append_right _ (List.mem_singleton_self _)

theorem step_sound (h : c.Sound) (e : Event) : (c.step e).Sound := by
  cases e with
  | start spawnFailure => exact h.start spawnFailure
  | cancel => exact h.cancel
  | takeResult => exact h.takeResult
  | clearMessage => exact h.of_message ""
  | message run text =>
      simp only [step]
      split_ifs
      · exact h.of_message text
      · exact h
  | complete run outcome =>
      simp only [step]
      split_ifs with hrun
      · exact h.complete hrun outcome
      · exact h
  | shutdown => exact h.shutdown

end Invariant

/-- **A cancelled calibration delivers nothing.**  At most one worker runs.  A profile that
`take_result` returned is the one of the run that was started last, and the run was not
cancelled in between; no run delivers twice. -/
theorem cancelled_runs_deliver_nothing (es : List Event) :
    let c := run step default es
    c.workers.length ≤ 1 ∧ (takenRuns c.log).Nodup ∧
      ∀ before run profile after, c.log = before ++ .taken run profile :: after →
        ∃ earlier later, before = earlier ++ .started run :: later ∧
          (∀ other, .started other ∉ later) ∧ .cancelled ∉ later ∧
          .completed run (.ok profile) ∈ later := by
  intro c
  have hsound : c.Sound := run_preserves Sound (fun _ e h => step_sound h e) sound_default es
  refine ⟨?_, hsound.taken.1, ?_⟩
  · cases hrunning : c.running with
    | false =>
        rw [hsound.idle hrunning]
        exact Nat.zero_le 1
    | true =>
        obtain ⟨run, hworkers, _⟩ := hsound.busy hrunning
        rw [hworkers]
        exact Nat.le_refl 1
  · intro before run profile after heq
    obtain ⟨later, ⟨⟨earlier, hsplit⟩, hlast⟩, hcancelled, hcompleted⟩ :=
      hsound.handed before run profile after heq
    exact ⟨earlier, later, hsplit, hlast, hcancelled, hcompleted⟩

end CalibrationController

end Soundwave

import Soundwave.DeviceControl

/-!
# The tone on two threads

The network task calls `request_tone`, the Android main thread calls `report`.  Here
every atomic access and every section under a mutex is a step of its own, and the steps
of the two threads interleave in any order.

`report` clears the speaker flag before it stops the tone, so that a request that looks
at the flag afterwards is refused.  A request that has looked at the flag before, and
takes the lock of the tone after the forced stop, starts the tone all the same.
-/

namespace Soundwave

/-- Where the network task is in `request_tone`. -/
inductive NetworkTask where
  | idle
  | looked (request : UInt32) (enabled allowed : Bool)
  | requested (request : UInt32) (allowed : Bool)
  | refused (request : UInt32)
deriving DecidableEq

/-- Where the main thread is in `report`. -/
inductive MainThread where
  | idle
  | stored (status : DeviceStatus)
  | stopped (status : DeviceStatus) (request : UInt32)
  | notified (status : DeviceStatus)
  | reporting (status : DeviceStatus)
deriving DecidableEq

/-- The two threads and what they share; `completed` is the status of the last call of
`report` that has returned. -/
structure ToneThreads where
  control : DeviceControl
  now : Nat
  network : NetworkTask
  main : MainThread
  completed : Option DeviceStatus
deriving DecidableEq

/-- The steps of the threads: the first step of a call, and the next step of a call in
progress. -/
inductive ToneThreadStep where
  | requestTone (request : UInt32) (enabled : Bool)
  | network
  | report (status : DeviceStatus)
  | main
  | wait (duration : Nat)
deriving DecidableEq

namespace ToneThreads

section Model

/-- No call has been made yet. -/
def start : ToneThreads where
  control := .default
  now := 0
  network := .idle
  main := .idle
  completed := none

/-- The next step of `request_tone`. -/
def networkStep (s : ToneThreads) : ToneThreads :=
  match s.network with
  | .idle => s
  | .looked request enabled allowed =>
      { s with
          control := s.control.setRequest s.now request enabled allowed
          network := .requested request allowed }
  | .requested request allowed =>
      { s with
          control := s.control.storePosition
          network := if !allowed && request ≠ 0 then .refused request else .idle }
  | .refused request =>
      { s with
          control := s.control.pushReport (DeviceControl.toneFailed request)
          network := .idle }

/-- The next step of `report`. -/
def mainStep (s : ToneThreads) : ToneThreads :=
  match s.main with
  | .idle => s
  | .stored status =>
      if !status.speaker || status.failed then
        { s with
            control := s.control.stopSection.1
            main :=
              match s.control.stopSection.2 with
              | some request => .stopped status request
              | none => .notified status }
      else
        { s with
            control := s.control.pushReport (.deviceStatus status)
            main := .idle
            completed := some status }
  | .stopped status request =>
      { s with
          control := s.control.pushReport (DeviceControl.toneFailed request)
          main := .notified status }
  | .notified status =>
      { s with control := s.control.storePosition, main := .reporting status }
  | .reporting status =>
      { s with
          control := s.control.pushReport (.deviceStatus status)
          main := .idle
          completed := some status }

/-- One step.  A thread begins a call only when it has finished the one before. -/
def step (s : ToneThreads) : ToneThreadStep → ToneThreads
  | .requestTone request enabled =>
      if s.network = .idle then
        { s with network := .looked request enabled (s.control.toneAllowed enabled) }
      else
        s
  | .network => s.networkStep
  | .report status =>
      if s.main = .idle then
        { s with control := s.control.storeSpeaker status, main := .stored status }
      else
        s
  | .main => s.mainStep
  | .wait duration => { s with now := s.now + duration }

/-- No call is in progress. -/
def Quiescent (s : ToneThreads) : Prop :=
  s.network = .idle ∧ s.main = .idle

/-- If no call is in progress and the tone is on, the last status was a healthy one. -/
def ToneHealthy (s : ToneThreads) : Prop :=
  s.Quiescent → s.control.tone.until'.isSome = true →
    ∃ status, s.completed = some status ∧ status.speaker = true ∧ status.failed = false

/-- The main thread is about to stop the tone. -/
def stopAhead (s : ToneThreads) : Bool :=
  match s.main with
  | .stored status => !status.speaker || status.failed
  | _ => false

/-- The step does not start the tone, or the speaker flag is still set, or the forced
stop is still ahead. -/
def undisturbed (s : ToneThreads) (e : ToneThreadStep) : Bool :=
  match e, s.network with
  | .network, .looked _ true true => s.control.speaker || s.stopAhead
  | _, _ => true

end Model

section Calls

/-- The steps of `request_tone`, taken without interruption, are the method. -/
theorem run_requestTone {s : ToneThreads} (h : s.network = .idle) (request : UInt32)
    (enabled : Bool) :
    run step s [.requestTone request enabled, .network, .network, .network] =
      { s with control := s.control.requestTone s.now request enabled } := by
  obtain ⟨control, now, network, main, completed⟩ := s
  obtain rfl : network = .idle := h
  simp only [run_cons, run_nil, step, networkStep, if_true, DeviceControl.requestTone,
    DeviceControl.refuseRequest]
  split_ifs
  · rfl
  · rfl

/-- The steps of `report`, taken without interruption, are the method. -/
theorem run_report {s : ToneThreads} (h : s.main = .idle) (status : DeviceStatus) :
    run step s [.report status, .main, .main, .main, .main] =
      { s with control := s.control.report s.now status, completed := some status } := by
  obtain ⟨control, now, network, main, completed⟩ := s
  obtain rfl : main = .idle := h
  cases hbad : !status.speaker || status.failed with
  | false =>
      simp [step, mainStep, DeviceControl.report, hbad]
  | true =>
      simp only [run_cons, run_nil, step, mainStep, if_true, hbad, DeviceControl.report,
        DeviceControl.setTone, Bool.false_eq_true, if_false]
      cases (control.storeSpeaker status).stopSection.2 with
      | none => rfl
      | some request => rfl

end Calls

section Invariant

/-- The status whose flag the main thread has stored last. -/
def latest (s : ToneThreads) : Option DeviceStatus :=
  match s.main with
  | .idle => s.completed
  | .stored status => some status
  | .stopped status _ => some status
  | .notified status => some status
  | .reporting status => some status

/-- The flag is that of the latest status, and the tone is on only if it is set or the
forced stop is still ahead. -/
structure FlagGuards (s : ToneThreads) : Prop where
  flag : s.control.speaker = s.latest.any (fun status => status.speaker && !status.failed)
  guarded : s.control.tone.until'.isSome = true →
    s.control.speaker = true ∨ s.stopAhead = true

theorem flagGuards_start : FlagGuards start :=
  ⟨rfl, fun h => by cases h⟩

theorem flagGuards_network {s : ToneThreads} (h : FlagGuards s)
    (hok : s.undisturbed .network = true) : FlagGuards s.networkStep := by
  rw [networkStep]
  cases hnetwork : s.network with
  | idle =>
      exact h
  | looked request enabled allowed =>
      refine ⟨h.flag, ?_⟩
      intro hset
      cases enabled with
      | false => cases hset
      | true =>
          cases allowed with
          | false => cases hset
          | true =>
              simp only [undisturbed, hnetwork] at hok
              exact Bool.or_eq_true_iff.mp hok
  | requested request allowed =>
      exact ⟨h.flag, h.guarded⟩
  | refused request =>
      exact ⟨h.flag, h.guarded⟩

theorem flagGuards_main {s : ToneThreads} (h : FlagGuards s) : FlagGuards s.mainStep := by
  have hflag := h.flag
  have hguarded := h.guarded
  rw [latest] at hflag
  rw [stopAhead] at hguarded
  rw [mainStep]
  cases hmain : s.main with
  | idle =>
      exact h
  | stored status =>
      rw [hmain] at hflag hguarded
      cases hbad : !status.speaker || status.failed with
      | true =>
          simp only [hbad, if_true]
          refine ⟨?_, fun hset => (by cases hset)⟩
          cases s.control.stopSection.2 with
          | none => exact hflag
          | some request => exact hflag
      | false =>
          simp only [hbad, Bool.false_eq_true, if_false]
          refine ⟨hflag, ?_⟩
          intro hset
          rcases hguarded hset with hspeaker | hahead
          · exact Or.inl hspeaker
          · have hgood : (!status.speaker || status.failed) = true := hahead
            rw [hbad] at hgood
            cases hgood
  | stopped status request =>
      rw [hmain] at hflag hguarded
      exact ⟨hflag, hguarded⟩
  | notified status =>
      rw [hmain] at hflag hguarded
      exact ⟨hflag, hguarded⟩
  | reporting status =>
      rw [hmain] at hflag hguarded
      exact ⟨hflag, hguarded⟩

theorem flagGuards_step {s : ToneThreads} (h : FlagGuards s) {e : ToneThreadStep}
    (hok : s.undisturbed e = true) : FlagGuards (s.step e) := by
  cases e with
  | requestTone request enabled =>
      rw [step]
      split_ifs
      · exact ⟨h.flag, h.guarded⟩
      · exact h
  | network =>
      exact flagGuards_network h hok
  | report status =>
      rw [step]
      split_ifs
      · refine ⟨rfl, fun _ => ?_⟩
        cases hbad : !status.speaker || status.failed with
        | true => exact Or.inr hbad
        | false =>
            refine Or.inl ?_
            rw [Bool.or_eq_false_iff, Bool.not_eq_false'] at hbad
            simp [DeviceControl.storeSpeaker, hbad]
      · exact h
  | main =>
      exact flagGuards_main h
  | wait duration =>
      exact ⟨h.flag, h.guarded⟩

theorem toneHealthy_of_flagGuards {s : ToneThreads} (h : FlagGuards s) : s.ToneHealthy := by
  intro hquiescent hset
  have hflag := h.flag
  have hguarded := h.guarded hset
  rw [latest, hquiescent.2] at hflag
  rw [stopAhead, hquiescent.2] at hguarded
  rcases hguarded with hspeaker | hahead
  · rw [hspeaker] at hflag
    cases hstatus : s.completed with
    | none =>
        rw [hstatus] at hflag
        cases hflag
    | some status =>
        rw [hstatus, Option.any_some] at hflag
        have hgood := hflag.symm
        rw [Bool.and_eq_true, Bool.not_eq_true'] at hgood
        exact ⟨status, rfl, hgood⟩
  · cases hahead

end Invariant

/-- **The tone is on for a healthy speaker only**, in every state of a run in which no
request starts the tone after a bad status has cleared the flag and stopped the tone. -/
theorem tone_needs_healthy_speaker {es : List ToneThreadStep}
    (hes : Along step (fun s e => s.undisturbed e = true) start es) :
    (run step start es).ToneHealthy := by
  have hguards : FlagGuards (run step start es) :=
    run_invariant FlagGuards (fun _ _ h hok => flagGuards_step h hok) flagGuards_start hes
  exact toneHealthy_of_flagGuards hguards

/-- A status of a phone with or without a speaker. -/
def speakerStatus (speaker : Bool) : DeviceStatus where
  requestId := 0
  deviceId := "phone"
  name := "Phone"
  volume := 5
  minimum := 0
  maximum := 15
  fixed := false
  speaker := speaker
  failed := false

/-- A request that is stopped while it is being made. -/
def stoppedRequest : List ToneThreadStep :=
  [.report (speakerStatus true), .main, .requestTone 7 true, .report (speakerStatus false),
    .network, .main, .network, .main, .main, .main]

theorem tone_needs_healthy_speaker_stopped :
    (run step start stoppedRequest).Quiescent ∧ (run step start stoppedRequest).ToneHealthy :=
  ⟨⟨by decide, by decide⟩, tone_needs_healthy_speaker (by decide)⟩

/-- Headphones are plugged in between the look at the flag and the lock of the tone. -/
def lateRequest : List ToneThreadStep :=
  [.report (speakerStatus true), .main, .requestTone 7 true, .report (speakerStatus false),
    .main, .main, .main, .network, .network]

theorem tone_survives_bad_status : ¬ (run step start lateRequest).ToneHealthy := by
  intro h
  obtain ⟨status, hstatus, hspeaker, _⟩ := h ⟨by decide, by decide⟩ (by decide)
  have hlast : (run step start lateRequest).completed = some (speakerStatus false) := by decide
  rw [hlast] at hstatus
  rw [← Option.some.inj hstatus] at hspeaker
  cases hspeaker

end ToneThreads

end Soundwave

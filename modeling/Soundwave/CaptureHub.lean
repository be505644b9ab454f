import Soundwave.TransitionRuns
import Mathlib.Tactic.Common
import Mathlib.Data.Option.Basic

/-!
# The shared capture

Model of `CaptureHub` in `windows-server/src/application/hub.rs` with
`start_wasapi_capture`, and of the end of a capture thread in `audio/capture.rs`.

The hub counts its subscriptions and holds the capture that feeds them.  The first
subscription starts it; the last one that leaves takes it out of the hub and cancels its
stop token afterwards, outside the lock.  A capture thread that fails cancels its stop
token itself.  The hub does not look at the token: a failed capture stays in the hub
until its last subscriber leaves, and is handed to new ones.

Captures are numbered in the order in which they are started.  What is sent through a
capture is not part of the model.
-/

namespace Soundwave

/-- How a call of `start_wasapi_capture` ends.  A thread that has been started may have
failed before `subscribe` returns. -/
inductive StartOutcome where
  | started (failed : Bool)
  | loopbackFailed
  | fanoutFailed
deriving DecidableEq

/-- `HubState`. -/
structure HubState where
  capture : Option Nat
  subscribers : Nat
deriving DecidableEq

/-- A receiver that `subscribe` returned: its capture, and whether the stop token of
the capture was cancelled at that moment. -/
structure HubReceiver where
  capture : Nat
  cancelled : Bool
deriving DecidableEq

/-- The hub, its captures and its subscriptions. -/
structure HubSystem where
  hub : HubState
  started : Nat
  failed : List Nat
  cancelled : List Nat
  leaving : List Nat
  outstanding : Nat
  receivers : List HubReceiver
deriving DecidableEq

/-- What happens to the hub and to its captures. -/
inductive HubEvent where
  | subscribe (outcome : StartOutcome)
  | unsubscribe
  | cancel (index : Nat)
  | fail (capture : Nat)
deriving DecidableEq

namespace HubSystem

section Model

/-- `HubState::default`. -/
def start : HubSystem where
  hub := { capture := none, subscribers := 0 }
  started := 0
  failed := []
  cancelled := []
  leaving := []
  outstanding := 0
  receivers := []

/-- The end of `subscribe`. -/
def grant (s : HubSystem) (capture : Nat) : HubSystem :=
  { s with
      hub := { capture := some capture, subscribers := s.hub.subscribers + 1 }
      outstanding := s.outstanding + 1
      receivers := s.receivers ++
        [{ capture := capture, cancelled := decide (capture ∈ s.cancelled) }] }

/-- A capture thread fails. -/
def fail (s : HubSystem) (capture : Nat) : HubSystem :=
  { s with failed := capture :: s.failed, cancelled := capture :: s.cancelled }

/-- `subscribe`. -/
def subscribe (s : HubSystem) (outcome : StartOutcome) : HubSystem :=
  match s.hub.capture with
  | some capture => s.grant capture
  | none =>
      match outcome with
      | .started failed =>
          let begun := { s with started := s.started + 1 }
          (if failed then begun.fail s.started else begun).grant s.started
      | .loopbackFailed => s
      -- the capture thread runs on without a handle
      | .fanoutFailed => { s with started := s.started + 1 }

/-- The section of `unsubscribe` under the lock. -/
def unsubscribe (s : HubSystem) : HubSystem :=
  if s.hub.subscribers - 1 > 0 then
    { s with
        hub := { s.hub with subscribers := s.hub.subscribers - 1 }
        outstanding := s.outstanding - 1 }
  else
    { s with
        hub := { capture := none, subscribers := s.hub.subscribers - 1 }
        outstanding := s.outstanding - 1
        leaving := s.leaving ++ s.hub.capture.toList }

/-- `capture.stop.cancel()` of an `unsubscribe` that took the capture. -/
def cancel (s : HubSystem) (index : Nat) : HubSystem :=
  match s.leaving[index]? with
  | some capture =>
      { s with cancelled := capture :: s.cancelled, leaving := s.leaving.eraseIdx index }
  | none => s

/-- One event.  Only a capture that was started can fail. -/
def step (s : HubSystem) : HubEvent → HubSystem
  | .subscribe outcome => s.subscribe outcome
  | .unsubscribe => s.unsubscribe
  | .cancel index => s.cancel index
  | .fail capture => if capture < s.started then s.fail capture else s

/-- Every `unsubscribe` belongs to an earlier `subscribe` that succeeded. -/
def matched (s : HubSystem) : HubEvent → Bool
  | .unsubscribe => 0 < s.outstanding
  | _ => true

/-- Where the event is a `subscribe`: the hub holds no capture and the thread that it
starts does not fail at once, or the thread of the capture that it holds has not failed. -/
def captureRuns (s : HubSystem) : HubEvent → Bool
  | .subscribe outcome =>
      match s.hub.capture with
      | some capture => capture ∉ s.failed
      | none => outcome ≠ .started true
  | _ => true

/-- The shared capture is live: it is held as long as there are subscriptions, a start
that fails changes nothing, and every receiver was returned while its capture ran. -/
structure CaptureLive (s : HubSystem) : Prop where
  held : s.hub.capture.isSome = true ↔ 0 < s.outstanding
  unchanged : ∀ outcome, s.hub.capture = none →
    outcome = .loopbackFailed ∨ outcome = .fanoutFailed →
    (s.step (.subscribe outcome)).hub = s.hub ∧
      (s.step (.subscribe outcome)).receivers = s.receivers
  live : ∀ receiver ∈ s.receivers, receiver.cancelled = false

end Model

section Invariant

/-- The invariant of the hub.  As long as a capture is held, nobody but its own thread
cancels its stop token. -/
structure HubOk (s : HubSystem) : Prop where
  count : s.hub.subscribers = s.outstanding
  held : s.hub.capture.isSome = true ↔ 0 < s.outstanding
  failed : ∀ capture ∈ s.failed, capture < s.started
  cancelled : ∀ capture ∈ s.cancelled, capture < s.started
  leaving : ∀ capture ∈ s.leaving, capture < s.started
  capture : ∀ capture, s.hub.capture = some capture →
    capture < s.started ∧ capture ∉ s.leaving ∧ (capture ∈ s.cancelled ↔ capture ∈ s.failed)

theorem subscribe_of_held {s : HubSystem} {capture : Nat} (h : s.hub.capture = some capture)
    (outcome : StartOutcome) : s.subscribe outcome = s.grant capture := by
  simp only [subscribe, h]

theorem subscribe_of_none {s : HubSystem} (h : s.hub.capture = none) (outcome : StartOutcome) :
    s.subscribe outcome =
      match outcome with
      | .started failed =>
          (if failed then { s with started := s.started + 1 }.fail s.started
            else { s with started := s.started + 1 }).grant s.started
      | .loopbackFailed => s
      | .fanoutFailed => { s with started := s.started + 1 } := by
  simp only [subscribe, h]

theorem hubOk_start : HubOk start where
  count := rfl
  held := by decide
  failed := fun _ h => by cases h
  cancelled := fun _ h => by cases h
  leaving := fun _ h => by cases h
  capture := fun _ h => by cases h

theorem hubOk_grant {s : HubSystem} {capture : Nat} (h : HubOk s)
    (hcapture : capture < s.started ∧ capture ∉ s.leaving ∧
      (capture ∈ s.cancelled ↔ capture ∈ s.failed)) :
    HubOk (s.grant capture) where
  count := by
    rw [grant]
    simp only [h.count]
  held := by simp [grant]
  failed := h.failed
  cancelled := h.cancelled
  leaving := h.leaving
  capture := by
    intro other heq
    obtain rfl : capture = other := Option.some.inj heq
    exact hcapture

theorem hubOk_fail {s : HubSystem} {capture : Nat} (h : HubOk s) (hstarted : capture < s.started) :
    HubOk (s.fail capture) where
  count := h.count
  held := h.held
  failed := List.forall_mem_cons.mpr ⟨hstarted, h.failed⟩
  cancelled := List.forall_mem_cons.mpr ⟨hstarted, h.cancelled⟩
  leaving := h.leaving
  capture := by
    intro other heq
    obtain ⟨hlt, hleft, hiff⟩ := h.capture other heq
    refine ⟨hlt, hleft, ?_⟩
    rw [fail, List.mem_cons, List.mem_cons, hiff]

/-- A capture is started. -/
theorem hubOk_begin {s : HubSystem} (h : HubOk s) :
    HubOk { s with started := s.started + 1 } where
  count := h.count
  held := h.held
  failed := fun capture hc => Nat.lt_succ_of_lt (h.failed capture hc)
  cancelled := fun capture hc => Nat.lt_succ_of_lt (h.cancelled capture hc)
  leaving := fun capture hc => Nat.lt_succ_of_lt (h.leaving capture hc)
  capture := by
    intro capture heq
    obtain ⟨hlt, hrest⟩ := h.capture capture heq
    exact ⟨Nat.lt_succ_of_lt hlt, hrest⟩

theorem hubOk_subscribe {s : HubSystem} (h : HubOk s) (outcome : StartOutcome) :
    HubOk (s.subscribe outcome) := by
  cases hheld : s.hub.capture with
  | some capture =>
      rw [subscribe_of_held hheld]
      exact hubOk_grant h (h.capture capture hheld)
  | none =>
      rw [subscribe_of_none hheld]
      have hfresh : s.started ∉ s.leaving ∧ s.started ∉ s.cancelled ∧ s.started ∉ s.failed :=
        ⟨fun hc => Nat.lt_irrefl _ (h.leaving _ hc), fun hc => Nat.lt_irrefl _ (h.cancelled _ hc),
          fun hc => Nat.lt_irrefl _ (h.failed _ hc)⟩
      cases outcome with
      | loopbackFailed => exact h
      | fanoutFailed => exact hubOk_begin h
      | started failed =>
          cases failed with
          | false =>
              refine hubOk_grant (hubOk_begin h) ⟨Nat.lt_succ_self _, hfresh.1, ?_⟩
              exact iff_of_false hfresh.2.1 hfresh.2.2
          | true =>
              refine hubOk_grant (hubOk_fail (hubOk_begin h) (Nat.lt_succ_self _))
                ⟨Nat.lt_succ_self _, hfresh.1, ?_⟩
              exact iff_of_true List.mem_cons_self List.mem_cons_self

theorem hubOk_unsubscribe {s : HubSystem} (h : HubOk s) (hmatched : 0 < s.outstanding) :
    HubOk s.unsubscribe := by
  have hcount := h.count
  rw [unsubscribe]
  split_ifs with hothers
  · refine ⟨by rw [hcount], ?_, h.failed, h.cancelled, h.leaving, h.capture⟩
    rw [h.held]
    simp only
    omega
  · refine ⟨by rw [hcount], ?_, h.failed, h.cancelled, ?_, fun _ heq => (by cases heq)⟩
    · simp only [Option.isSome_none, Bool.false_eq_true, false_iff]
      omega
    · intro capture hc
      rcases List.mem_append.mp hc with hc | hc
      · exact h.leaving capture hc
      · exact (h.capture capture (Option.mem_toList.mp hc)).1

theorem hubOk_cancel {s : HubSystem} (h : HubOk s) (index : Nat) : HubOk (s.cancel index) := by
  rw [cancel]
  cases hleaving : s.leaving[index]? with
  | none =>
      exact h
  | some capture =>
      have hmem : capture ∈ s.leaving := List.mem_of_getElem? hleaving
      refine ⟨h.count, h.held, h.failed,
        List.forall_mem_cons.mpr ⟨h.leaving capture hmem, h.cancelled⟩,
        fun other hother => h.leaving other (List.mem_of_mem_eraseIdx hother), ?_⟩
      intro other heq
      obtain ⟨hlt, hleft, hiff⟩ := h.capture other heq
      refine ⟨hlt, fun hc => hleft (List.mem_of_mem_eraseIdx hc), ?_⟩
      have hne : other ≠ capture := by
        rintro rfl
        exact hleft hmem
      rw [List.mem_cons, or_iff_right hne]
      exact hiff

theorem hubOk_step {s : HubSystem} (h : HubOk s) {e : HubEvent} (hmatched : s.matched e = true) :
    HubOk (s.step e) := by
  cases e with
  | subscribe outcome =>
      exact hubOk_subscribe h outcome
  | unsubscribe =>
      exact hubOk_unsubscribe h (of_decide_eq_true hmatched)
  | cancel index =>
      exact hubOk_cancel h index
  | fail capture =>
      rw [step]
      split_ifs with hstarted
      · exact hubOk_fail h hstarted
      · exact h

end Invariant

section Receivers

/-- All receivers so far were returned while their capture ran. -/
def AllLive (s : HubSystem) : Prop :=
  ∀ receiver ∈ s.receivers, receiver.cancelled = false

theorem allLive_grant {s : HubSystem} {capture : Nat} :
    (s.grant capture).AllLive ↔ s.AllLive ∧ capture ∉ s.cancelled := by
  rw [AllLive, grant]
  simp only [List.forall_mem_append, List.forall_mem_singleton, decide_eq_false_iff_not]
  exact Iff.rfl

theorem allLive_step {s : HubSystem} (h : HubOk s) (e : HubEvent) :
    (s.step e).AllLive ↔ s.AllLive ∧ s.captureRuns e = true := by
  cases e with
  | subscribe outcome =>
      rw [step]
      cases hheld : s.hub.capture with
      | some capture =>
          obtain ⟨_, _, hiff⟩ := h.capture capture hheld
          simp only [subscribe_of_held hheld, captureRuns, hheld, allLive_grant, hiff,
            decide_eq_true_eq]
      | none =>
          simp only [subscribe_of_none hheld, captureRuns, hheld]
          cases outcome with
          | loopbackFailed => simp
          | fanoutFailed => simp [AllLive]
          | started failed =>
              have hfresh : s.started ∉ s.cancelled :=
                fun hc => Nat.lt_irrefl _ (h.cancelled _ hc)
              cases failed with
              | false =>
                  simp only [Bool.false_eq_true, if_false, allLive_grant, hfresh]
                  simp [AllLive]
              | true =>
                  simp only [if_true, allLive_grant]
                  simp [fail]
  | unsubscribe =>
      simp only [step, unsubscribe, captureRuns, and_true]
      split_ifs
      · exact Iff.rfl
      · exact Iff.rfl
  | cancel index =>
      simp only [step, cancel, captureRuns, and_true]
      cases s.leaving[index]? with
      | none => exact Iff.rfl
      | some capture => exact Iff.rfl
  | fail capture =>
      simp only [step, captureRuns, and_true]
      split_ifs
      · exact Iff.rfl
      · exact Iff.rfl

theorem allLive_run {s : HubSystem} (h : HubOk s) {es : List HubEvent}
    (hes : Along step (fun s e => s.matched e = true) s es) :
    (run step s es).AllLive ↔
      s.AllLive ∧ Along step (fun s e => s.captureRuns e = true) s es := by
  induction es generalizing s with
  | nil =>
      simp [Along]
  | cons e es ih =>
      obtain ⟨hmatched, hrest⟩ := hes
      rw [run_cons, ih (hubOk_step h hmatched) hrest, allLive_step h e, Along, and_assoc]

end Receivers

/-- **The shared capture is live for every subscriber if and only if no subscriber comes
after its thread has failed.**  Whatever else happens to the hub, it holds a capture as
long as there are subscriptions, and a start that fails changes nothing. -/
theorem capture_is_live_iff {es : List HubEvent}
    (hes : Along step (fun s e => s.matched e = true) start es) :
    (run step start es).CaptureLive ↔
      Along step (fun s e => s.captureRuns e = true) start es := by
  have hok : HubOk (run step start es) :=
    run_invariant HubOk (fun _ _ h hmatched => hubOk_step h hmatched) hubOk_start hes
  have hlive := allLive_run hubOk_start hes
  have hempty : start.AllLive := fun _ h => by cases h
  constructor
  · intro hcapture
    exact (hlive.mp hcapture.live).2
  · intro hruns
    refine ⟨hok.held, ?_, hlive.mpr ⟨hempty, hruns⟩⟩
    intro outcome hnone hfailed
    rw [step, subscribe_of_none hnone]
    rcases hfailed with rfl | rfl
    · exact ⟨rfl, rfl⟩
    · exact ⟨rfl, rfl⟩

/-- A start that fails, two overlapping subscriptions, and a new capture while the old
one is being stopped. -/
def hubReconnects : List HubEvent :=
  [.subscribe .fanoutFailed, .subscribe (.started false), .subscribe .loopbackFailed,
    .unsubscribe, .unsubscribe, .subscribe (.started false), .cancel 0, .fail 1]

theorem capture_is_live_iff_reconnects : (run step start hubReconnects).CaptureLive :=
  (capture_is_live_iff (by decide)).mpr (by decide)

/-- The capture fails under its first subscriber, and a second one subscribes. -/
def hubSilence : List HubEvent :=
  [.subscribe (.started false), .fail 0, .subscribe (.started false)]

theorem failed_capture_is_handed_out :
    Along step (fun s e => s.matched e = true) start hubSilence ∧
      ¬ (run step start hubSilence).CaptureLive := by
  refine ⟨by decide, ?_⟩
  intro h
  have hreceiver := h.live ⟨0, true⟩ (by decide)
  cases hreceiver

end HubSystem

end Soundwave

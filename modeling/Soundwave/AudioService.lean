import Mathlib.Algebra.Order.Ring.Int
import Soundwave.TransitionRuns

/-!
# The resources of the Android service

Model of `AudioService.kt`, which owns the track, the playback worker and the Wi-Fi
lock, and of the part of `SharedState` in `android/app/src/main/rust/src/state.rs` that
it goes by, with the functions of `jni.rs` in between.

Four kinds of threads take part.  Native threads change the shared state and then call
`notify_changed`.  The status thread waits for a new revision and posts an update to the
main thread.  The main thread handles one intent or posted runnable after the other, and
starts or stops the playback by what it reads of the shared state.  A playback worker
owns a track, and when it ends it releases the track and posts one more update.

Every access to the shared state and every read that a decision rests on is a step of
its own, so that the state may change between any two of them.  What `applyPending` and
`applyVolumeAdjustment` do inside `syncStreamingResources` has no steps of its own: as far
as the shared state goes, it is among what native threads do at any moment.
-/

namespace Soundwave

/-- `ClientState`. -/
inductive ClientState where
  | idle
  | connecting
  | connected
  | disconnected
  | error
deriving DecidableEq

/-- A single access to the shared state: the swaps of `set_audio_active` and `set`, what
`DeviceControl` does to `tone_active`, and the critical section of `notify_changed`. -/
inductive Access where
  | swapAudioActive (active : Bool)
  | storeTone (active : Bool)
  | swapState (state : ClientState)
  | notifyChanged
deriving DecidableEq

/-- `SharedState`, with `device.tone_active()` as a field. -/
structure SharedState where
  state : ClientState
  audioActive : Bool
  toneActive : Bool
  revision : Nat
deriving DecidableEq

namespace SharedState

/-- `Default`. -/
def default : SharedState where
  state := .idle
  audioActive := false
  toneActive := false
  revision := 0

/-- `set_audio_active`, as the accesses it begins with. -/
def setAudioActive (active : Bool) : List Access :=
  [.swapAudioActive active]

/-- `set`, as the accesses it begins with. -/
def set (state : ClientState) : List Access :=
  if state = .connected then
    [.swapState state]
  else
    setAudioActive false ++ [.storeTone false, .swapState state]

/-- An access, with the ones that the same thread makes next because of it: a swap that
has changed the value is followed by `notify_changed`. -/
def perform (s : SharedState) : Access → SharedState × List Access
  | .swapAudioActive active =>
      ({ s with audioActive := active }, if s.audioActive = active then [] else [.notifyChanged])
  | .storeTone active => ({ s with toneActive := active }, [])
  | .swapState state =>
      ({ s with state := state }, if s.state = state then [] else [.notifyChanged])
  | .notifyChanged => ({ s with revision := (s.revision + 1) % 2 ^ 64 }, [])

end SharedState

/-- The calls of the native threads, and of the reports to `DeviceControl`: a change of
the state, audio that begins or pauses, a message or a tick that only announces something,
`CalibrationTone`, the end of a tone by `CalibrationSession`, and the end of a tone by
`expire_tone` or `report`, which nobody is told about. -/
inductive NativeCall where
  | set (state : ClientState)
  | setAudioActive (active : Bool)
  | announce
  | requestTone (active : Bool)
  | endTone
  | silenceTone
deriving DecidableEq

namespace NativeCall

/-- The accesses that a call begins with. -/
def accesses : NativeCall → List Access
  | .set state => SharedState.set state
  | .setAudioActive active => SharedState.setAudioActive active
  | .announce => [.notifyChanged]
  | .requestTone active => [.storeTone active, .notifyChanged]
  | .endTone => [.storeTone false, .notifyChanged]
  | .silenceTone => [.storeTone false]

end NativeCall

/-- How `connect` goes: a blank field, a port that `nativeConnect` refuses, an address or
fingerprint that does not parse, or a new session. -/
inductive ConnectOutcome where
  | blank
  | badPort
  | badAddress
  | accepted
deriving DecidableEq

/-- What the system asks of the service. -/
inductive Intent where
  | connect (outcome : ConnectOutcome)
  | disconnect
  | destroy
deriving DecidableEq

/-- What follows on `syncStreamingResources` in the function that called it. -/
inductive AfterSync where
  | done
  | watchStatus
  | close
deriving DecidableEq

/-- Where the main thread goes on, once it has made the accesses it is at. -/
inductive MainOp where
  | idle
  | nativeConnect (outcome : ConnectOutcome)
  | connectSucceeded
  | readState (notifying : Bool) (after : AfterSync)
  | sync (state : ClientState) (after : AfterSync)
  | readTone (after : AfterSync)
  | startPlayback (after : AfterSync)
  | stopPlayback (after : AfterSync)
  | watchStatus
  | dropConnection
  | onDestroy
  | close
  | nativeShutdown
deriving DecidableEq

namespace AfterSync

/-- The operation itself. -/
def op : AfterSync → MainOp
  | .done => .idle
  | .watchStatus => .watchStatus
  | .close => .close

end AfterSync

namespace MainOp

/-- What follows on the `syncStreamingResources` that the main thread is in. -/
def after : MainOp → Option AfterSync
  | readState _ after | sync _ after | readTone after | startPlayback after
  | stopPlayback after => some after
  | idle | nativeConnect _ | connectSucceeded | watchStatus | dropConnection | onDestroy | close
  | nativeShutdown => none

/-- The main thread is in `connect`, and `watchStatus` is still to come. -/
def watches (op : MainOp) : Bool :=
  op = watchStatus || op.after = some .watchStatus

/-- The main thread is in `onDestroy`, and the shutdown is still to come. -/
def closes (op : MainOp) : Bool :=
  op = close || op = nativeShutdown || op.after = some .close

/-- The main thread is about to read the state for an update. -/
def updates : MainOp → Bool
  | readState true _ => true
  | _ => false

/-- The main thread is in `connect`, and the notification is still to be replaced. -/
def renews : MainOp → Bool
  | nativeConnect .accepted | connectSucceeded => true
  | _ => false

end MainOp

/-- A runnable in the queue of the main thread: the update of a status thread, or the one
that a worker leaves behind. -/
inductive Posted where
  | update (watcher : Nat)
  | sync
deriving DecidableEq

/-- The status thread: the revision it has seen, and whether it is about to post. -/
structure StatusThread where
  id : Nat
  seen : Int
  posting : Bool
deriving DecidableEq

/-- Where a playback worker stands: in the loop of `AudioTrackPlayback.run`, or in the
`finally` after it, before `release`, before the look at `audioTrack`, between the writes
to `playbackRunning` and `audioTrack`, before `post`, or gone. -/
inductive WorkerPhase where
  | playing
  | leaving
  | released
  | clearing
  | detached
  | gone
deriving DecidableEq

namespace WorkerPhase

/-- The worker has not released its track yet. -/
def holdsTrack : WorkerPhase → Bool
  | playing | leaving => true
  | released | clearing | detached | gone => false

/-- The worker may still find its track in `audioTrack`. -/
def attached : WorkerPhase → Bool
  | playing | leaving | released | clearing => true
  | detached | gone => false

end WorkerPhase

/-- The service and what it shares with other threads.  The workers are named by the order
of their start; `notified` and `unannounced` are logs: how often `notify_changed` has been
called, and whether the tone has changed since the last time. -/
structure AudioService where
  shared : SharedState
  engine : Bool
  activeState : Bool
  calls : List (List Access)
  accesses : List Access
  next : MainOp
  queue : List Posted
  watcher : Option StatusThread
  watchers : Nat
  reconnectRequested : Bool
  destroyed : Bool
  lastNotifiedState : Option ClientState
  wifiLock : Bool
  playbackRunning : Bool
  audioTrack : Option Nat
  workers : List WorkerPhase
  notified : Nat
  unannounced : Bool
deriving DecidableEq

/-- A step of one of the threads; `writeFails` is a `write` to the track that returns an
error. -/
inductive ServiceEvent where
  | call (c : NativeCall)
  | native (i : Nat)
  | intent (i : Intent)
  | main
  | watch
  | worker (i : Nat)
  | writeFails (i : Nat)
deriving DecidableEq

namespace AudioService

section Model

/-- A new service. -/
def start : AudioService where
  shared := .default
  engine := false
  activeState := false
  calls := []
  accesses := []
  next := .idle
  queue := []
  watcher := none
  watchers := 0
  reconnectRequested := false
  destroyed := false
  lastNotifiedState := none
  wifiLock := false
  playbackRunning := false
  audioTrack := none
  workers := []
  notified := 0
  unannounced := false

/-- `to_jlong`. -/
def toJlong (value : Nat) : Int :=
  min value (2 ^ 63 - 1)

/-- `nativeGetState`. -/
def nativeGetState (s : AudioService) : ClientState :=
  if s.engine then s.shared.state else .idle

/-- `nativeStopTestTone`, as the accesses it makes. -/
def nativeStopTestTone (s : AudioService) : List Access :=
  if s.activeState then [.storeTone false, .notifyChanged] else []

/-- `set` on the state of the engine, if there is one. -/
def setEngineState (s : AudioService) (state : ClientState) : List Access :=
  if s.engine then SharedState.set state else []

/-- An access by some thread. -/
def access (s : AudioService) (a : Access) : AudioService :=
  { s with
      shared := (s.shared.perform a).1
      notified := if a = .notifyChanged then s.notified + 1 else s.notified
      unannounced :=
        if a = .notifyChanged then false
        else s.unannounced || (s.shared.perform a).1.toneActive != s.shared.toneActive }

/-- `acquireWifiLock` and `startPlayback`. -/
def startPlayback (s : AudioService) : AudioService :=
  if s.audioTrack.isSome then
    { s with wifiLock := true }
  else
    { s with
        wifiLock := true
        playbackRunning := true
        audioTrack := some s.workers.length
        workers := s.workers ++ [.playing] }

/-- `stopPlayback` and `releaseWifiLock`. -/
def stopPlayback (s : AudioService) : AudioService :=
  { s with playbackRunning := false, wifiLock := false }

/-- `watchStatus`. -/
def watchStatus (s : AudioService) : AudioService :=
  if s.watcher.isSome then
    s
  else
    { s with
        watcher := some { id := s.watchers, seen := -1, posting := false }
        watchers := s.watchers + 1 }

/-- What `connect` does after `nativeConnect` has looked at its arguments. -/
def nativeConnect (s : AudioService) : ConnectOutcome → AudioService
  | .blank => { s with next := .readState true .done }
  | .badPort => { s with accesses := s.setEngineState .error, next := .readState true .done }
  | .badAddress =>
      { s with
          engine := true
          accesses := SharedState.set .error
          next := .readState true .done }
  | .accepted =>
      { s with
          engine := true
          activeState := true
          accesses := SharedState.set .connecting
          next := .connectSucceeded }

/-- The runnable that the main thread has taken from its queue. -/
def runPosted (s : AudioService) : Posted → AudioService
  | .update watcher =>
      if s.watcher.map StatusThread.id = some watcher then
        { s with next := .readState true .done }
      else
        s
  | .sync => if s.reconnectRequested then { s with next := .readState false .done } else s

/-- The next step of the main thread when it has no access to make. -/
def mainOp (s : AudioService) : AudioService :=
  match s.next with
  | .idle =>
      match s.queue with
      | [] => s
      | posted :: queue => { s with queue := queue }.runPosted posted
  | .nativeConnect outcome => s.nativeConnect outcome
  | .connectSucceeded =>
      { s with
          reconnectRequested := true
          lastNotifiedState := none
          next := .readState false .watchStatus }
  | .readState notifying after =>
      { s with
          lastNotifiedState := if notifying then some s.nativeGetState else s.lastNotifiedState
          accesses := if s.nativeGetState = .connected then [] else s.nativeStopTestTone
          next := .sync s.nativeGetState after }
  | .sync state after =>
      if s.reconnectRequested ∧ state = .connected then
        { s with next := if s.shared.audioActive then .startPlayback after else .readTone after }
      else
        { s with next := .stopPlayback after }
  | .readTone after =>
      { s with
          next := if s.shared.toneActive then .startPlayback after else .stopPlayback after }
  | .startPlayback after => { s.startPlayback with next := after.op }
  | .stopPlayback after => { s.stopPlayback with next := after.op }
  | .watchStatus => { s.watchStatus with next := .idle }
  | .dropConnection =>
      { s with
          reconnectRequested := false
          lastNotifiedState := none
          watcher := none
          accesses := s.setEngineState .disconnected
          next := .stopPlayback .done }
  | .onDestroy =>
      { s with
          reconnectRequested := false
          lastNotifiedState := none
          watcher := none
          destroyed := true
          next := .stopPlayback .close }
  | .close => { s with accesses := s.nativeStopTestTone, next := .nativeShutdown }
  | .nativeShutdown =>
      { s with
          engine := false
          accesses := s.setEngineState .disconnected
          next := .idle }

/-- The next step of the main thread. -/
def main (s : AudioService) : AudioService :=
  match s.accesses with
  | [] => s.mainOp
  | a :: rest => { s.access a with accesses := (s.shared.perform a).2 ++ rest }

/-- An intent, which the main thread handles when it has nothing else to do. -/
def intent (s : AudioService) (i : Intent) : AudioService :=
  if s.accesses = [] ∧ s.next = .idle ∧ s.destroyed = false then
    match i with
    | .connect outcome =>
        { s with accesses := s.nativeStopTestTone, next := .nativeConnect outcome }
    | .disconnect => { s with accesses := s.nativeStopTestTone, next := .dropConnection }
    | .destroy => { s with next := .onDestroy }
  else
    s

/-- The next access of a native call. -/
def native (s : AudioService) (i : Nat) : AudioService :=
  match s.calls[i]? with
  | some (a :: rest) =>
      { s.access a with calls := s.calls.set i ((s.shared.perform a).2 ++ rest) }
  | _ => s

/-- The next step of the status thread. -/
def watch (s : AudioService) : AudioService :=
  match s.watcher with
  | none => s
  | some w =>
      if w.posting then
        { s with
            watcher := some { w with posting := false }
            queue := s.queue ++ [.update w.id] }
      else if toJlong s.shared.revision = w.seen then
        s
      else
        { s with watcher := some { w with seen := toJlong s.shared.revision, posting := true } }

/-- `shouldContinue` of a worker. -/
def shouldContinue (s : AudioService) (i : Nat) : Bool :=
  s.playbackRunning && s.audioTrack = some i

/-- The next step of a worker that ends, or finds that it has to. -/
def worker (s : AudioService) (i : Nat) : AudioService :=
  match s.workers[i]? with
  | some .playing =>
      if s.shouldContinue i then s else { s with workers := s.workers.set i .leaving }
  | some .leaving => { s with workers := s.workers.set i .released }
  | some .released =>
      if s.audioTrack = some i then
        { s with playbackRunning := false, workers := s.workers.set i .clearing }
      else
        { s with workers := s.workers.set i .detached }
  | some .clearing => { s with audioTrack := none, workers := s.workers.set i .detached }
  | some .detached =>
      { s with queue := s.queue ++ [.sync], workers := s.workers.set i .gone }
  | _ => s

/-- A failed `write` ends the loop of a worker. -/
def writeFails (s : AudioService) (i : Nat) : AudioService :=
  if s.workers[i]? = some .playing then { s with workers := s.workers.set i .leaving } else s

/-- One step. -/
def step (s : AudioService) : ServiceEvent → AudioService
  | .call c => { s with calls := s.calls ++ [c.accesses] }
  | .native i => s.native i
  | .intent i => s.intent i
  | .main => s.main
  | .watch => s.watch
  | .worker i => s.worker i
  | .writeFails i => s.writeFails i

/-- What the main thread can do in one step without an access, one constructor for each
branch of the service. -/
inductive Performs (s : AudioService) : AudioService → Prop
  | rests (hnext : s.next = .idle) (hqueue : s.queue = []) : Performs s s
  | updates {id : Nat} {queue : List Posted} (hnext : s.next = .idle)
      (hqueue : s.queue = .update id :: queue) (hid : s.watcher.map StatusThread.id = some id) :
      Performs s { s with queue := queue, next := .readState true .done }
  | passesUpdate {id : Nat} {queue : List Posted} (hnext : s.next = .idle)
      (hqueue : s.queue = .update id :: queue) (hid : s.watcher.map StatusThread.id ≠ some id) :
      Performs s { s with queue := queue }
  | resyncs {queue : List Posted} (hnext : s.next = .idle) (hqueue : s.queue = .sync :: queue)
      (hrequested : s.reconnectRequested = true) :
      Performs s { s with queue := queue, next := .readState false .done }
  | passesSync {queue : List Posted} (hnext : s.next = .idle) (hqueue : s.queue = .sync :: queue)
      (hrequested : s.reconnectRequested = false) : Performs s { s with queue := queue }
  | refuses {outcome : ConnectOutcome} {engine : Bool} {accesses : List Access}
      (hnext : s.next = .nativeConnect outcome) (hengine : s.engine = true → engine = true)
      (haccesses : accesses = [] ∨ accesses = SharedState.set .error) :
      Performs s
        { s with engine := engine, accesses := accesses, next := .readState true .done }
  | connects (hnext : s.next = .nativeConnect .accepted) :
      Performs s
        { s with
            engine := true
            activeState := true
            accesses := SharedState.set .connecting
            next := .connectSucceeded }
  | succeeds (hnext : s.next = .connectSucceeded) :
      Performs s
        { s with
            reconnectRequested := true
            lastNotifiedState := none
            next := .readState false .watchStatus }
  | reads {notifying : Bool} {after : AfterSync} (hnext : s.next = .readState notifying after) :
      Performs s
        { s with
            lastNotifiedState := if notifying then some s.nativeGetState else s.lastNotifiedState
            accesses := if s.nativeGetState = .connected then [] else s.nativeStopTestTone
            next := .sync s.nativeGetState after }
  | hearsAudio {after : AfterSync} (hnext : s.next = .sync .connected after)
      (hrequested : s.reconnectRequested = true) (hactive : s.shared.audioActive = true) :
      Performs s { s with next := .startPlayback after }
  | hearsNoAudio {after : AfterSync} (hnext : s.next = .sync .connected after)
      (hrequested : s.reconnectRequested = true) (hactive : s.shared.audioActive = false) :
      Performs s { s with next := .readTone after }
  | declines {state : ClientState} {after : AfterSync} (hnext : s.next = .sync state after)
      (hsync : ¬(s.reconnectRequested = true ∧ state = .connected)) :
      Performs s { s with next := .stopPlayback after }
  | hearsTone {after : AfterSync} (hnext : s.next = .readTone after)
      (htone : s.shared.toneActive = true) : Performs s { s with next := .startPlayback after }
  | hearsNothing {after : AfterSync} (hnext : s.next = .readTone after)
      (htone : s.shared.toneActive = false) : Performs s { s with next := .stopPlayback after }
  | starts {after : AfterSync} (hnext : s.next = .startPlayback after) :
      Performs s { s.startPlayback with next := after.op }
  | stops {after : AfterSync} (hnext : s.next = .stopPlayback after) :
      Performs s { s.stopPlayback with next := after.op }
  | watches (hnext : s.next = .watchStatus) : Performs s { s.watchStatus with next := .idle }
  | drops (hnext : s.next = .dropConnection) :
      Performs s
        { s with
            reconnectRequested := false
            lastNotifiedState := none
            watcher := none
            accesses := s.setEngineState .disconnected
            next := .stopPlayback .done }
  | destroys (hnext : s.next = .onDestroy) :
      Performs s
        { s with
            reconnectRequested := false
            lastNotifiedState := none
            watcher := none
            destroyed := true
            next := .stopPlayback .close }
  | closes (hnext : s.next = .close) :
      Performs s { s with accesses := s.nativeStopTestTone, next := .nativeShutdown }
  | shutsDown (hnext : s.next = .nativeShutdown) :
      Performs s
        { s with
            engine := false
            accesses := s.setEngineState .disconnected
            next := .idle }

theorem setEngineState_cases (s : AudioService) (state : ClientState) :
    s.setEngineState state = [] ∨ s.setEngineState state = SharedState.set state := by
  cases hengine : s.engine with
  | true => exact Or.inr (by simp [setEngineState, hengine])
  | false => exact Or.inl (by simp [setEngineState, hengine])

theorem mainOp_performs (s : AudioService) (haccesses : s.accesses = []) :
    s.Performs s.mainOp := by
  simp only [mainOp]
  split
  case h_1 hnext =>
    split
    · exact Performs.rests hnext ‹_›
    · rename_i posted queue hqueue
      cases posted with
      | update id =>
          simp only [runPosted]
          split
          · exact Performs.updates hnext hqueue ‹_›
          · exact Performs.passesUpdate hnext hqueue ‹_›
      | sync =>
          simp only [runPosted]
          split
          · exact Performs.resyncs hnext hqueue ‹_›
          · exact Performs.passesSync hnext hqueue (Bool.not_eq_true _ ▸ ‹_›)
  case h_2 outcome hnext =>
    cases outcome with
    | blank =>
        have hrefuses := Performs.refuses hnext (fun hengine => hengine) (Or.inl rfl)
        rw [← haccesses] at hrefuses
        exact hrefuses
    | badPort =>
        exact Performs.refuses hnext (fun hengine => hengine) (s.setEngineState_cases .error)
    | badAddress => exact Performs.refuses hnext (fun _ => rfl) (Or.inr rfl)
    | accepted => exact Performs.connects hnext
  case h_3 hnext => exact Performs.succeeds hnext
  case h_4 hnext => exact Performs.reads hnext
  case h_5 state after hnext =>
    split
    · rename_i hsync
      obtain ⟨hrequested, rfl⟩ := hsync
      cases hactive : s.shared.audioActive with
      | true => exact Performs.hearsAudio hnext hrequested hactive
      | false => exact Performs.hearsNoAudio hnext hrequested hactive
    · exact Performs.declines hnext ‹_›
  case h_6 after hnext =>
    cases htone : s.shared.toneActive with
    | true => exact Performs.hearsTone hnext htone
    | false => exact Performs.hearsNothing hnext htone
  case h_7 hnext => exact Performs.starts hnext
  case h_8 hnext => exact Performs.stops hnext
  case h_9 hnext => exact Performs.watches hnext
  case h_10 hnext => exact Performs.drops hnext
  case h_11 hnext => exact Performs.destroys hnext
  case h_12 hnext => exact Performs.closes hnext
  case h_13 hnext => exact Performs.shutsDown hnext

end Model

section Ownership

/-- `audioTrack` is the track of the only worker that has not let go of it. -/
structure Owned (s : AudioService) : Prop where
  attached : ∀ i phase, s.workers[i]? = some phase → phase.attached = true →
    s.audioTrack = some i
  owner : ∀ i, s.audioTrack = some i → ∃ phase, s.workers[i]? = some phase ∧
    phase.attached = true
  running : s.playbackRunning = true → ∃ i phase, s.audioTrack = some i ∧
    s.workers[i]? = some phase ∧ phase.attached = true ∧ phase ≠ .clearing

theorem start_owned : start.Owned where
  attached := fun i phase h => by simp [start] at h
  owner := fun i h => by cases h
  running := fun h => by cases h

theorem getElem?_set_of_some {α : Type} {l : List α} {i : Nat} {a b : α} (h : l[i]? = some a) :
    (l.set i b)[i]? = some b :=
  List.getElem?_set_self (List.getElem?_eq_some_iff.mp h).1

/-- Ownership concerns three fields. -/
theorem Owned.congr {s s' : AudioService} (h : s.Owned) (hworkers : s'.workers = s.workers)
    (htrack : s'.audioTrack = s.audioTrack)
    (hrunning : s'.playbackRunning = true → s.playbackRunning = true) : s'.Owned := by
  obtain ⟨hattached, howner, hrun⟩ := h
  refine ⟨?_, ?_, ?_⟩
  · rw [hworkers, htrack]
    exact hattached
  · rw [hworkers, htrack]
    exact howner
  · intro h
    rw [hworkers, htrack]
    exact hrun (hrunning h)

/-- A worker that stays attached moves on. -/
theorem Owned.move {s s' : AudioService} (h : s.Owned) {i : Nat} {old : WorkerPhase}
    (new : WorkerPhase) (hold : s.workers[i]? = some old) (holdAttached : old.attached = true)
    (hnew : new.attached = true) (hworkers : s'.workers = s.workers.set i new)
    (htrack : s'.audioTrack = s.audioTrack)
    (hrunning : s'.playbackRunning = true → s.playbackRunning = true ∧ new ≠ .clearing) :
    s'.Owned := by
  obtain ⟨hattached, howner, hrun⟩ := h
  have hsame : (s.workers.set i new)[i]? = some new := getElem?_set_of_some hold
  have htracked : s.audioTrack = some i := hattached i old hold holdAttached
  refine ⟨?_, ?_, ?_⟩
  · intro j phase hphase hphaseAttached
    rw [htrack]
    rw [hworkers] at hphase
    by_cases hij : i = j
    · rw [← hij]
      exact htracked
    · rw [List.getElem?_set_ne hij] at hphase
      exact hattached j phase hphase hphaseAttached
  · intro j hj
    rw [htrack, htracked] at hj
    cases hj
    rw [hworkers]
    exact ⟨new, hsame, hnew⟩
  · intro h
    obtain ⟨_, hclearing⟩ := hrunning h
    refine ⟨i, new, ?_, ?_, hnew, hclearing⟩
    · rw [htrack]
      exact htracked
    · rw [hworkers]
      exact hsame

/-- A worker that is detached from `audioTrack` goes. -/
theorem Owned.retire {s s' : AudioService} (h : s.Owned) {i : Nat}
    (hold : s.workers[i]? = some .detached) (hworkers : s'.workers = s.workers.set i .gone)
    (htrack : s'.audioTrack = s.audioTrack) (hrunning : s'.playbackRunning = s.playbackRunning) :
    s'.Owned := by
  obtain ⟨hattached, howner, hrun⟩ := h
  -- a worker that is attached is another one
  have hother : ∀ j phase, s.workers[j]? = some phase → phase.attached = true → i ≠ j := by
    intro j phase hphase hphaseAttached hij
    rw [← hij, hold] at hphase
    cases hphase
    cases hphaseAttached
  refine ⟨?_, ?_, ?_⟩
  · intro j phase hphase hphaseAttached
    rw [hworkers] at hphase
    rw [htrack]
    by_cases hij : i = j
    · rw [← hij, getElem?_set_of_some hold] at hphase
      cases hphase
      cases hphaseAttached
    · rw [List.getElem?_set_ne hij] at hphase
      exact hattached j phase hphase hphaseAttached
  · intro j hj
    rw [htrack] at hj
    obtain ⟨phase, hphase, hphaseAttached⟩ := howner j hj
    refine ⟨phase, ?_, hphaseAttached⟩
    rw [hworkers, List.getElem?_set_ne (hother j phase hphase hphaseAttached)]
    exact hphase
  · intro h
    rw [hrunning] at h
    obtain ⟨j, phase, hj, hphase, hphaseAttached, hclearing⟩ := hrun h
    refine ⟨j, phase, ?_, ?_, hphaseAttached, hclearing⟩
    · rw [htrack]
      exact hj
    · rw [hworkers, List.getElem?_set_ne (hother j phase hphase hphaseAttached)]
      exact hphase

theorem startPlayback_owned {s : AudioService} (h : s.Owned) : s.startPlayback.Owned := by
  simp only [startPlayback]
  split
  · exact h.congr rfl rfl fun hrunning => hrunning
  · rename_i htrack
    have hnone : s.audioTrack = none := Option.not_isSome_iff_eq_none.mp htrack
    have hlast : (s.workers ++ [WorkerPhase.playing])[s.workers.length]? = some .playing :=
      List.getElem?_concat_length
    refine ⟨?_, ?_, ?_⟩
    · intro i phase hphase hattached
      by_cases hi : i < s.workers.length
      · rw [List.getElem?_append_left hi] at hphase
        have := h.attached i phase hphase hattached
        rw [hnone] at this
        cases this
      · have hlt := (List.getElem?_eq_some_iff.mp hphase).1
        rw [List.length_append, List.length_singleton] at hlt
        have heq : i = s.workers.length := by omega
        rw [heq]
    · intro i hi
      cases hi
      exact ⟨.playing, hlast, rfl⟩
    · intro _
      exact ⟨s.workers.length, .playing, rfl, hlast, rfl, fun heq => by cases heq⟩

theorem worker_owned {s : AudioService} (h : s.Owned) (i : Nat) : (s.worker i).Owned := by
  simp only [worker]
  split
  · rename_i hphase
    split
    · exact h
    · exact h.move .leaving hphase rfl rfl rfl rfl
        fun hrunning => ⟨hrunning, fun heq => by cases heq⟩
  · rename_i hphase
    exact h.move .released hphase rfl rfl rfl rfl
      fun hrunning => ⟨hrunning, fun heq => by cases heq⟩
  · rename_i hphase
    split
    · exact h.move .clearing hphase rfl rfl rfl rfl fun hrunning => by cases hrunning
    · rename_i htrack
      exact absurd (h.attached i .released hphase rfl) htrack
  · rename_i hphase
    have htracked := h.attached i .clearing hphase rfl
    refine ⟨?_, fun j hj => (by cases hj), ?_⟩
    · intro j phase hj hattached
      by_cases hij : i = j
      · rw [← hij, getElem?_set_of_some hphase] at hj
        cases hj
        cases hattached
      · rw [List.getElem?_set_ne hij] at hj
        have hother := h.attached j phase hj hattached
        rw [htracked] at hother
        cases hother
        exact absurd rfl hij
    · intro hrunning
      obtain ⟨j, phase, hj, hphase', _, hclearing⟩ := h.running hrunning
      rw [htracked] at hj
      cases hj
      rw [hphase] at hphase'
      cases hphase'
      exact absurd rfl hclearing
  · rename_i hphase
    exact h.retire hphase rfl rfl rfl
  · exact h

theorem writeFails_owned {s : AudioService} (h : s.Owned) (i : Nat) : (s.writeFails i).Owned := by
  simp only [writeFails]
  split
  · rename_i hphase
    exact h.move .leaving hphase rfl rfl rfl rfl
      fun hrunning => ⟨hrunning, fun heq => by cases heq⟩
  · exact h

theorem watchStatus_owned {s : AudioService} (h : s.Owned) : s.watchStatus.Owned := by
  simp only [watchStatus]
  split
  · exact h
  · exact h.congr rfl rfl fun hrunning => hrunning

theorem performs_owned {s s' : AudioService} (h : s.Owned) (hperforms : s.Performs s') :
    s'.Owned := by
  cases hperforms with
  | starts hnext => exact (startPlayback_owned h).congr rfl rfl fun hrunning => hrunning
  | stops hnext => exact h.congr rfl rfl fun hrunning => by cases hrunning
  | watches hnext => exact (watchStatus_owned h).congr rfl rfl fun hrunning => hrunning
  | rests => exact h
  | _ => exact h.congr rfl rfl fun hrunning => hrunning

theorem step_owned {s : AudioService} (h : s.Owned) (e : ServiceEvent) : (s.step e).Owned := by
  cases e with
  | call c => exact h.congr rfl rfl fun hrunning => hrunning
  | native i =>
      simp only [step, native]
      split
      · exact h.congr rfl rfl fun hrunning => hrunning
      · exact h
  | intent i =>
      simp only [step, intent]
      split
      · cases i <;> exact h.congr rfl rfl fun hrunning => hrunning
      · exact h
  | main =>
      simp only [step, main]
      split
      · exact performs_owned h (mainOp_performs s ‹_›)
      · exact h.congr rfl rfl fun hrunning => hrunning
  | watch =>
      simp only [step, watch]
      split
      · exact h
      · split
        · exact h.congr rfl rfl fun hrunning => hrunning
        · split
          · exact h
          · exact h.congr rfl rfl fun hrunning => hrunning
  | worker i => exact worker_owned h i
  | writeFails i => exact writeFails_owned h i

theorem run_owned (es : List ServiceEvent) : (run step start es).Owned :=
  run_preserves Owned (fun _ e h => step_owned h e) start_owned es

/-- Two workers never hold a track that is not released, and the one that does is the one
that `audioTrack` belongs to. -/
def TrackExclusive (s : AudioService) : Prop :=
  ∀ i j first second, s.workers[i]? = some first → s.workers[j]? = some second →
    first.holdsTrack = true → second.holdsTrack = true → i = j ∧ s.audioTrack = some i

/-- **One track at a time.**  However intents, workers and native threads are interleaved,
a new worker only builds its track when no other worker holds one. -/
theorem tracks_are_exclusive (es : List ServiceEvent) : (run step start es).TrackExclusive := by
  intro i j first second hi hj hfirst hsecond
  have howned := run_owned es
  have hattached : ∀ phase : WorkerPhase, phase.holdsTrack = true → phase.attached = true := by
    intro phase h
    cases phase <;> first | rfl | cases h
  have htrack := howned.attached i first hi (hattached first hfirst)
  have hsame := howned.attached j second hj (hattached second hsecond)
  rw [htrack] at hsame
  exact ⟨Option.some.inj hsame, htrack⟩

end Ownership

end AudioService

end Soundwave

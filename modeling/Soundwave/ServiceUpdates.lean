import Soundwave.AudioService

/-!
# Updates of the Android service

The main thread of the service starts and stops the playback by what it has read of the
shared state, and the state may change as soon as it has been read.  What makes up for it
is that every change is followed by `notify_changed`, so that the main thread looks again.

The invariant follows a decision from the first read to the last write: either what has
been read is still true, or another look is on its way, as a pending notification, an
unseen revision, a posted update or a worker that is about to end.

A service that is not connected is never at rest: each update calls `cancelCalibration`,
which calls `notify_changed`, which brings about the next update.
-/

namespace Soundwave

namespace AudioService

section Roots

/-- Whoever asks for a connection has an engine, and is watched as soon as `connect` has
returned. -/
structure Rooted (s : AudioService) : Prop where
  engine : s.reconnectRequested = true → s.engine = true ∧ s.activeState = true
  succeeded : s.next = .connectSucceeded → s.engine = true ∧ s.activeState = true
  watched : s.watcher.isSome = true → s.reconnectRequested = true
  watches : s.next.watches = true → s.reconnectRequested = true
  closes : s.next.closes = true → s.reconnectRequested = false
  watching : s.reconnectRequested = true → s.watcher.isSome = true ∨ s.next.watches = true

theorem start_rooted : start.Rooted where
  engine := fun h => by cases h
  succeeded := fun h => by cases h
  watched := fun h => by cases h
  watches := fun h => by cases h
  closes := fun _ => rfl
  watching := fun h => by cases h

/-- The main thread goes on within `connect`, `onDestroy` or neither. -/
theorem Rooted.proceed {s s' : AudioService} (h : s.Rooted)
    (hengine : s.engine = true → s'.engine = true)
    (hactive : s'.activeState = s.activeState)
    (hrequested : s'.reconnectRequested = s.reconnectRequested)
    (hwatcher : s.watcher.isSome = s'.watcher.isSome)
    (hsucceeded : s'.next = .connectSucceeded → s.next = .connectSucceeded)
    (hwatches : s'.next.watches = s.next.watches)
    (hcloses : s'.next.closes = true → s.next.closes = true) : s'.Rooted := by
  obtain ⟨hrooted, hconnected, hwatched, hwatching, hclosing, hcoming⟩ := h
  refine ⟨?_, ?_, ?_, ?_, ?_, ?_⟩
  · intro h
    rw [hrequested] at h
    rw [hactive]
    exact ⟨hengine (hrooted h).1, (hrooted h).2⟩
  · intro h
    have := hconnected (hsucceeded h)
    rw [hactive]
    exact ⟨hengine this.1, this.2⟩
  · rw [hrequested, ← hwatcher]
    exact hwatched
  · rw [hrequested, hwatches]
    exact hwatching
  · intro h
    rw [hrequested]
    exact hclosing (hcloses h)
  · rw [hrequested, hwatches, ← hwatcher]
    exact hcoming

theorem watches_op (after : AfterSync) :
    after.op.watches = (MainOp.stopPlayback after).watches := by
  cases after <;> rfl

theorem closes_op (after : AfterSync) : after.op.closes = (MainOp.stopPlayback after).closes := by
  cases after <;> rfl

theorem op_ne_connectSucceeded (after : AfterSync) : after.op ≠ .connectSucceeded := by
  cases after <;> intro h <;> cases h

theorem startPlayback_rest (s : AudioService) :
    s.startPlayback.engine = s.engine ∧ s.startPlayback.activeState = s.activeState ∧
      s.startPlayback.reconnectRequested = s.reconnectRequested ∧
      s.startPlayback.watcher = s.watcher := by
  simp only [startPlayback]
  split
  · exact ⟨rfl, rfl, rfl, rfl⟩
  · exact ⟨rfl, rfl, rfl, rfl⟩

theorem watchStatus_rest (s : AudioService) :
    s.watchStatus.engine = s.engine ∧ s.watchStatus.activeState = s.activeState ∧
      s.watchStatus.reconnectRequested = s.reconnectRequested ∧
      s.watchStatus.watcher.isSome = true := by
  simp only [watchStatus]
  split
  · exact ⟨rfl, rfl, rfl, ‹_›⟩
  · exact ⟨rfl, rfl, rfl, rfl⟩

theorem performs_rooted {s s' : AudioService} (h : s.Rooted) (hperforms : s.Performs s') :
    s'.Rooted := by
  cases hperforms with
  | rests => exact h
  | updates hnext | resyncs hnext | reads hnext | hearsAudio hnext | hearsNoAudio hnext
  | declines hnext | hearsTone hnext | hearsNothing hnext | closes hnext =>
      exact h.proceed (fun hengine => hengine) rfl rfl rfl (fun heq => by cases heq)
        (by rw [hnext]; rfl) (fun heq => by rw [hnext]; exact heq)
  | passesUpdate hnext | passesSync hnext =>
      exact h.proceed (fun hengine => hengine) rfl rfl rfl (fun heq => heq) rfl fun heq => heq
  | refuses hnext hengine =>
      exact h.proceed hengine rfl rfl rfl (fun heq => by cases heq) (by rw [hnext]; rfl)
        (fun heq => by rw [hnext]; exact heq)
  | connects hnext =>
      obtain ⟨hrooted, _, hwatched, _, _, hcoming⟩ := h
      refine ⟨fun _ => ⟨rfl, rfl⟩, fun _ => ⟨rfl, rfl⟩, hwatched, (fun heq => by cases heq),
        (fun heq => by cases heq), fun hrequested => ?_⟩
      have := hcoming hrequested
      rw [hnext] at this
      exact this
  | succeeds hnext =>
      have hengine := h.succeeded hnext
      exact ⟨fun _ => hengine, (fun heq => by cases heq), fun _ => rfl, fun _ => rfl,
        (fun heq => by cases heq), fun _ => Or.inr rfl⟩
  | @starts after hnext =>
      obtain ⟨hengine, hactive, hrequested, hwatcher⟩ := s.startPlayback_rest
      refine h.proceed (fun h => hengine.trans h) hactive hrequested (by rw [hwatcher])
        (fun heq => absurd heq (op_ne_connectSucceeded after)) ?_ ?_
      · rw [hnext]
        exact watches_op after
      · intro heq
        rw [hnext]
        exact (closes_op after).symm.trans heq
  | @stops after hnext =>
      refine h.proceed (fun hengine => hengine) rfl rfl rfl
        (fun heq => absurd heq (op_ne_connectSucceeded after)) ?_ ?_
      · rw [hnext]
        exact watches_op after
      · intro heq
        rw [hnext]
        exact (closes_op after).symm.trans heq
  | watches hnext =>
      have hrequested := h.watches (by rw [hnext]; rfl)
      obtain ⟨hengine, hactive, hsame, hwatching⟩ := s.watchStatus_rest
      obtain ⟨hrooted, hactiveState⟩ := h.engine hrequested
      exact ⟨fun _ => ⟨hengine.trans hrooted, hactive.trans hactiveState⟩,
        (fun heq => by cases heq), fun _ => hsame.trans hrequested, (fun heq => by cases heq),
        (fun heq => by cases heq), fun _ => Or.inl hwatching⟩
  | drops hnext | destroys hnext =>
      exact ⟨(fun heq => by cases heq), (fun heq => by cases heq), (fun heq => by cases heq),
        (fun heq => by cases heq), fun _ => rfl, (fun heq => by cases heq)⟩
  | shutsDown hnext =>
      have hrequested := h.closes (by rw [hnext]; rfl)
      have hwatcher : s.watcher.isSome ≠ true := fun hsome => by
        have := h.watched hsome
        rw [hrequested] at this
        cases this
      refine ⟨fun heq => ?_, (fun heq => by cases heq), (fun heq => absurd heq hwatcher),
        (fun heq => by cases heq), fun _ => hrequested, fun heq => ?_⟩
      · exact absurd (hrequested.symm.trans heq) (by decide)
      · exact absurd (hrequested.symm.trans heq) (by decide)

/-- The threads other than the main thread leave the roots alone. -/
theorem Rooted.other {s s' : AudioService} (h : s.Rooted) (hengine : s'.engine = s.engine)
    (hactive : s'.activeState = s.activeState)
    (hrequested : s'.reconnectRequested = s.reconnectRequested)
    (hwatcher : s.watcher.isSome = s'.watcher.isSome) (hnext : s'.next = s.next) : s'.Rooted :=
  h.proceed (fun h => hengine.trans h) hactive hrequested hwatcher (fun h => hnext.symm.trans h)
    (by rw [hnext]) (fun h => by rw [← hnext]; exact h)

theorem worker_rest (s : AudioService) (i : Nat) :
    (s.worker i).engine = s.engine ∧ (s.worker i).activeState = s.activeState ∧
      (s.worker i).reconnectRequested = s.reconnectRequested ∧
      (s.worker i).watcher = s.watcher ∧ (s.worker i).next = s.next := by
  simp only [worker]
  split
  · split <;> exact ⟨rfl, rfl, rfl, rfl, rfl⟩
  · exact ⟨rfl, rfl, rfl, rfl, rfl⟩
  · split <;> exact ⟨rfl, rfl, rfl, rfl, rfl⟩
  · exact ⟨rfl, rfl, rfl, rfl, rfl⟩
  · exact ⟨rfl, rfl, rfl, rfl, rfl⟩
  · exact ⟨rfl, rfl, rfl, rfl, rfl⟩

theorem step_rooted {s : AudioService} (h : s.Rooted) (e : ServiceEvent) : (s.step e).Rooted := by
  cases e with
  | call c => exact h.other rfl rfl rfl rfl rfl
  | native i =>
      simp only [step, native]
      split
      · exact h.other rfl rfl rfl rfl rfl
      · exact h
  | intent i =>
      simp only [step, intent]
      split
      · rename_i hidle
        obtain ⟨_, hnext, _⟩ := hidle
        cases i with
        | connect outcome | disconnect | destroy =>
            exact h.proceed (fun hengine => hengine) rfl rfl rfl (fun heq => by cases heq)
              (by rw [hnext]; rfl) (fun heq => by rw [hnext]; exact heq)
      · exact h
  | main =>
      simp only [step, main]
      split
      · exact performs_rooted h (mainOp_performs s ‹_›)
      · exact h.other rfl rfl rfl rfl rfl
  | watch =>
      simp only [step, watch]
      split
      · exact h
      · rename_i w hwatcher
        have hsome : s.watcher.isSome = true := by rw [hwatcher]; rfl
        split
        · exact h.other rfl rfl rfl hsome rfl
        · split
          · exact h
          · exact h.other rfl rfl rfl hsome rfl
  | worker i =>
      obtain ⟨hengine, hactive, hrequested, hwatcher, hnext⟩ := s.worker_rest i
      exact h.other hengine hactive hrequested (by rw [← hwatcher]; rfl) hnext
  | writeFails i =>
      simp only [step, writeFails]
      split
      · exact h.other rfl rfl rfl rfl rfl
      · exact h

end Roots

section Accesses

/-- Some thread is about to call `notify_changed`. -/
def notifyPending (s : AudioService) : Prop :=
  (∃ c ∈ s.calls, Access.notifyChanged ∈ c) ∨ Access.notifyChanged ∈ s.accesses

/-- What an access by one of the threads does: the thread goes on with the accesses that
follow from it, and no call of `notify_changed` is forgotten. -/
def Accessed (s : AudioService) (a : Access) (s' : AudioService) : Prop :=
  ∃ calls accesses, s' = { s.access a with calls := calls, accesses := accesses } ∧
    (a ≠ .notifyChanged → s.notifyPending → s'.notifyPending) ∧
    (.notifyChanged ∈ (s.shared.perform a).2 → s'.notifyPending)

theorem native_accessed {s : AudioService} {i : Nat} {a : Access} {rest : List Access}
    (h : s.calls[i]? = some (a :: rest)) :
    s.Accessed a
      { s.access a with calls := s.calls.set i ((s.shared.perform a).2 ++ rest) } := by
  have hmem : (s.shared.perform a).2 ++ rest ∈
      s.calls.set i ((s.shared.perform a).2 ++ rest) :=
    List.mem_of_getElem? (getElem?_set_of_some h)
  refine ⟨_, _, rfl, ?_, fun hpushed => Or.inl ⟨_, hmem, List.mem_append_left _ hpushed⟩⟩
  rintro hne (⟨c, hc, hnotify⟩ | hnotify)
  · obtain ⟨j, hj⟩ := List.mem_iff_getElem?.mp hc
    by_cases hij : i = j
    · rw [← hij, h] at hj
      cases hj
      have hrest := (List.mem_cons.mp hnotify).resolve_left fun heq => hne heq.symm
      exact Or.inl ⟨_, hmem, List.mem_append_right _ hrest⟩
    · refine Or.inl ⟨c, List.mem_of_getElem? (i := j) ?_, hnotify⟩
      rw [List.getElem?_set_ne hij]
      exact hj
  · exact Or.inr hnotify

theorem main_accessed {s : AudioService} {a : Access} {rest : List Access}
    (h : s.accesses = a :: rest) :
    s.Accessed a { s.access a with accesses := (s.shared.perform a).2 ++ rest } := by
  refine ⟨_, _, rfl, ?_, fun hpushed => Or.inr (List.mem_append_left _ hpushed)⟩
  rintro hne (hcalls | hnotify)
  · exact Or.inl hcalls
  · rw [h] at hnotify
    have hrest := (List.mem_cons.mp hnotify).resolve_left fun heq => hne heq.symm
    exact Or.inr (List.mem_append_right _ hrest)

/-- An access either counts the revision on, or leaves it and, unless it is followed by
`notify_changed`, leaves the state and the flag as well. -/
theorem perform_cases (s : SharedState) (a : Access) :
    (a = .notifyChanged ∧ (s.perform a).1.revision = (s.revision + 1) % 2 ^ 64) ∨
      (a ≠ .notifyChanged ∧ (s.perform a).1.revision = s.revision ∧
        (((s.perform a).1.state = s.state ∧ (s.perform a).1.audioActive = s.audioActive) ∨
          .notifyChanged ∈ (s.perform a).2)) := by
  cases a with
  | notifyChanged => exact Or.inl ⟨rfl, rfl⟩
  | storeTone active => exact Or.inr ⟨(fun h => by cases h), rfl, Or.inl ⟨rfl, rfl⟩⟩
  | swapAudioActive active =>
      refine Or.inr ⟨(fun h => by cases h), rfl, ?_⟩
      by_cases hsame : s.audioActive = active
      · exact Or.inl ⟨rfl, hsame.symm⟩
      · exact Or.inr (by simp [SharedState.perform, hsame])
  | swapState state =>
      refine Or.inr ⟨(fun h => by cases h), rfl, ?_⟩
      by_cases hsame : s.state = state
      · exact Or.inl ⟨hsame.symm, rfl⟩
      · exact Or.inr (by simp [SharedState.perform, hsame])

end Accesses

section Updates

/-- An update of the status thread is on its way. -/
def News (s : AudioService) (w : StatusThread) : Prop :=
  w.posting = true ∨ w.seen ≠ toJlong s.shared.revision ∨ .update w.id ∈ s.queue ∨
    s.notifyPending ∨ s.next.updates = true

/-- What the status thread knows.  A watched service either has an update on its way, or
it is connected and has shown so. -/
structure Informed (s : AudioService) : Prop where
  revision : s.shared.revision = s.notified
  seen : ∀ w, s.watcher = some w → w.seen ≤ s.notified
  news : ∀ w, s.watcher = some w → s.News w ∨
    (s.nativeGetState = .connected ∧ s.lastNotifiedState = some .connected)
  renews : ∀ w, s.watcher = some w → s.next.renews = true → s.News w

theorem start_informed : start.Informed where
  revision := rfl
  seen := fun w h => by cases h
  news := fun w h => by cases h
  renews := fun w h => by cases h

theorem toJlong_of_lt {n : Nat} (h : n < 2 ^ 63) : toJlong n = n := by
  simp only [toJlong]
  omega

theorem access_notified (s : AudioService) (a : Access) :
    (a = .notifyChanged ∧ (s.access a).notified = s.notified + 1) ∨
      (a ≠ .notifyChanged ∧ (s.access a).notified = s.notified) := by
  by_cases heq : a = .notifyChanged
  · exact Or.inl ⟨heq, by simp only [access, heq, if_true]⟩
  · exact Or.inr ⟨heq, by simp only [access, heq, if_false]⟩

/-- The counter has not wrapped. -/
theorem access_revision {s : AudioService} {a : Access}
    (hrevision : s.shared.revision = s.notified) (hbound : (s.access a).notified < 2 ^ 63) :
    (s.access a).shared.revision = (s.access a).notified := by
  rcases perform_cases s.shared a with ⟨rfl, hcounted⟩ | ⟨hne, hsame, _⟩
  · have hlt : s.notified + 1 < 2 ^ 63 := hbound
    have hmod : (s.notified + 1) % 2 ^ 64 = s.notified + 1 := Nat.mod_eq_of_lt (by omega)
    have hnew : (s.access .notifyChanged).notified = s.notified + 1 := rfl
    rw [hnew, ← hmod, ← hrevision]
    exact hcounted
  · rcases s.access_notified a with ⟨heq, _⟩ | ⟨_, hnotified⟩
    · exact absurd heq hne
    · rw [hnotified, ← hrevision]
      exact hsame

theorem accessed_news {s s' : AudioService} {a : Access} {w : StatusThread}
    (h : s.Accessed a s') (hrevision : s.shared.revision = s.notified)
    (hseen : w.seen ≤ s.notified) (hbound : s'.notified < 2 ^ 63)
    (hnews : a = .notifyChanged ∨ s.News w) : s'.News w := by
  obtain ⟨calls, accesses, rfl, hkept, hpushed⟩ := h
  have hnow := access_revision hrevision hbound
  rcases s.access_notified a with ⟨heq, hnotified⟩ | ⟨hne, hnotified⟩
  · refine Or.inr (Or.inl fun hunseen => ?_)
    have hlt : s.notified + 1 < 2 ^ 63 := hnotified ▸ hbound
    have hlast : w.seen = toJlong (s.access a).shared.revision := hunseen
    rw [hnow, hnotified, toJlong_of_lt hlt] at hlast
    omega
  · rcases hnews with heq | hposting | hunseen | hqueued | hpending | hnext
    · exact absurd heq hne
    · exact Or.inl hposting
    · refine Or.inr (Or.inl fun heq => hunseen ?_)
      have hlast : w.seen = toJlong (s.access a).shared.revision := heq
      rw [hlast, hnow, hnotified, hrevision]
    · exact Or.inr (Or.inr (Or.inl hqueued))
    · exact Or.inr (Or.inr (Or.inr (Or.inl (hkept hne hpending))))
    · exact Or.inr (Or.inr (Or.inr (Or.inr hnext)))

/-- An access changes what a decision of the main thread rests on only if somebody is
about to call `notify_changed`. -/
theorem accessed_same {s s' : AudioService} {a : Access} (h : s.Accessed a s') :
    (s'.nativeGetState = s.nativeGetState ∧ s'.shared.audioActive = s.shared.audioActive) ∨
      s'.notifyPending := by
  obtain ⟨calls, accesses, rfl, hkept, hpushed⟩ := h
  rcases perform_cases s.shared a with ⟨rfl, _⟩ | ⟨_, _, ⟨hstate, hactive⟩ | hnotify⟩
  · exact Or.inl ⟨rfl, rfl⟩
  · refine Or.inl ⟨?_, hactive⟩
    simp only [nativeGetState, access, hstate]
  · exact Or.inr (hpushed hnotify)

theorem accessed_informed {s s' : AudioService} {a : Access} (h : s.Informed)
    (haccessed : s.Accessed a s') (hbound : s'.notified < 2 ^ 63) : s'.Informed := by
  have hnews := fun w (hw : s.watcher = some w) hor =>
    accessed_news haccessed h.revision (h.seen w hw) hbound hor
  have hsame := accessed_same haccessed
  obtain ⟨calls, accesses, rfl, hkept, hpushed⟩ := haccessed
  refine ⟨access_revision h.revision hbound, ?_, ?_,
    fun w hw hnext => hnews w hw (Or.inr (h.renews w hw hnext))⟩
  · intro w hw
    have hseen := h.seen w hw
    show w.seen ≤ (s.access a).notified
    rcases s.access_notified a with ⟨_, hnotified⟩ | ⟨_, hnotified⟩
    · omega
    · omega
  · intro w hw
    rcases h.news w hw with hcoming | ⟨hstate, hshown⟩
    · exact Or.inl (hnews w hw (Or.inr hcoming))
    · rcases hsame with ⟨hkeeps, _⟩ | hpending
      · exact Or.inr ⟨hkeeps.trans hstate, hshown⟩
      · exact Or.inl (Or.inr (Or.inr (Or.inr (Or.inl hpending))))

/-- The main thread does something else than an update. -/
theorem News.proceed {s s' : AudioService} {w : StatusThread} (h : s.News w)
    (haccesses : s.accesses = []) (hnext : s.next.updates = false)
    (hrevision : s'.shared.revision = s.shared.revision) (hcalls : s'.calls = s.calls)
    (hqueue : .update w.id ∈ s.queue → .update w.id ∈ s'.queue) : s'.News w := by
  rcases h with hposting | hunseen | hqueued | hpending | hreads
  · exact Or.inl hposting
  · refine Or.inr (Or.inl ?_)
    rw [hrevision]
    exact hunseen
  · exact Or.inr (Or.inr (Or.inl (hqueue hqueued)))
  · refine Or.inr (Or.inr (Or.inr (Or.inl (Or.inl ?_))))
    rcases hpending with hpending | hpending
    · rw [hcalls]
      exact hpending
    · rw [haccesses] at hpending
      cases hpending
  · rw [hnext] at hreads
    cases hreads

/-- The main thread does something that the status thread has no part in. -/
theorem Informed.proceed {s s' : AudioService} (h : s.Informed) (haccesses : s.accesses = [])
    (hnext : s.next.updates = false) (hnext' : s'.next.renews = false)
    (hshared : s'.shared = s.shared) (hengine : s'.engine = s.engine) (hcalls : s'.calls = s.calls)
    (hnotified : s'.notified = s.notified) (hwatcher : s'.watcher = s.watcher)
    (hshown : s'.lastNotifiedState = s.lastNotifiedState)
    (hqueue : ∀ w, s.watcher = some w → .update w.id ∈ s.queue → .update w.id ∈ s'.queue) :
    s'.Informed := by
  refine ⟨?_, ?_, ?_, ?_⟩
  · rw [hshared, hnotified]
    exact h.revision
  · rw [hwatcher, hnotified]
    exact h.seen
  · intro w hw
    rw [hwatcher] at hw
    rcases h.news w hw with hnews | ⟨hstate, hlast⟩
    · exact Or.inl (hnews.proceed haccesses hnext (by rw [hshared]) hcalls (hqueue w hw))
    · refine Or.inr ⟨?_, hshown.trans hlast⟩
      simp only [nativeGetState, hengine, hshared]
      exact hstate
  · intro w _ hrenews
    rw [hnext'] at hrenews
    cases hrenews

theorem startPlayback_frame (s : AudioService) :
    s.startPlayback.shared = s.shared ∧ s.startPlayback.engine = s.engine ∧
      s.startPlayback.calls = s.calls ∧ s.startPlayback.notified = s.notified ∧
      s.startPlayback.lastNotifiedState = s.lastNotifiedState ∧
      s.startPlayback.queue = s.queue := by
  simp only [startPlayback]
  split
  · exact ⟨rfl, rfl, rfl, rfl, rfl, rfl⟩
  · exact ⟨rfl, rfl, rfl, rfl, rfl, rfl⟩

theorem renews_op (after : AfterSync) : after.op.renews = false := by
  cases after <;> rfl

theorem performs_informed {s s' : AudioService} (hrooted : s.Rooted) (h : s.Informed)
    (haccesses : s.accesses = []) (hperforms : s.Performs s') : s'.Informed := by
  cases hperforms with
  | rests => exact h
  | updates hnext | refuses hnext =>
      exact ⟨h.revision, h.seen, fun w hw => Or.inl (Or.inr (Or.inr (Or.inr (Or.inr rfl)))),
        fun w hw _ => Or.inr (Or.inr (Or.inr (Or.inr rfl)))⟩
  | @passesUpdate id queue hnext hqueue hid =>
      refine h.proceed haccesses (by rw [hnext]; rfl) (by rw [hnext]; rfl) rfl rfl rfl rfl rfl rfl
        fun w hw hmem => ?_
      rw [hqueue] at hmem
      refine (List.mem_cons.mp hmem).resolve_left fun heq => hid ?_
      cases heq
      rw [hw]
      rfl
  | @resyncs queue hnext hqueue | @passesSync queue hnext hqueue =>
      refine h.proceed haccesses (by rw [hnext]; rfl) (by first | rfl | (rw [hnext]; rfl)) rfl rfl
        rfl rfl rfl rfl fun w _ hmem => ?_
      rw [hqueue] at hmem
      exact (List.mem_cons.mp hmem).resolve_left fun heq => by cases heq
  | connects hnext | succeeds hnext =>
      have hrenews : s.next.renews = true := by rw [hnext]; rfl
      refine ⟨h.revision, h.seen, fun w hw => Or.inl ?_, fun w hw _ => ?_⟩
      all_goals
        exact (h.renews w hw hrenews).proceed haccesses (by rw [hnext]; rfl) rfl rfl
          fun hmem => hmem
  | @reads notifying after hnext =>
      cases notifying with
      | false =>
          refine ⟨h.revision, h.seen, fun w hw => ?_, fun w _ hrenews => by cases hrenews⟩
          rcases h.news w hw with hnews | hconnected
          · exact Or.inl (hnews.proceed haccesses (by rw [hnext]; rfl) rfl rfl fun hmem => hmem)
          · exact Or.inr hconnected
      | true =>
          refine ⟨h.revision, h.seen, fun w hw => ?_, fun w _ hrenews => by cases hrenews⟩
          by_cases hstate : s.nativeGetState = .connected
          · exact Or.inr ⟨hstate, congrArg some hstate⟩
          · -- `cancelCalibration` calls `notify_changed`
            have hsome : s.watcher.isSome = true := by
              rw [show s.watcher = some w from hw]
              rfl
            have hactive := (hrooted.engine (hrooted.watched hsome)).2
            refine Or.inl (Or.inr (Or.inr (Or.inr (Or.inl (Or.inr ?_)))))
            simp [hstate, nativeStopTestTone, hactive]
  | starts hnext =>
      obtain ⟨hshared, hengine, hcalls, hnotified, hshown, hqueue⟩ := s.startPlayback_frame
      obtain ⟨_, _, _, hwatcher⟩ := s.startPlayback_rest
      exact h.proceed haccesses (by rw [hnext]; rfl) (renews_op _) hshared hengine hcalls hnotified
        hwatcher hshown fun w _ hmem => hqueue.symm ▸ hmem
  | stops hnext =>
      exact h.proceed haccesses (by rw [hnext]; rfl) (renews_op _) rfl rfl rfl rfl rfl rfl
        fun _ _ hmem => hmem
  | watches hnext =>
      simp only [watchStatus]
      split
      · exact h.proceed haccesses (by rw [hnext]; rfl) rfl rfl rfl rfl rfl rfl rfl
          fun _ _ hmem => hmem
      · refine ⟨h.revision, fun w hw => ?_, fun w hw => Or.inl (Or.inr (Or.inl ?_)),
          fun w _ hrenews => by cases hrenews⟩
        · cases hw
          show (-1 : Int) ≤ s.notified
          omega
        · -- the new status thread has seen no revision at all
          cases hw
          simp only [toJlong]
          omega
  | drops hnext | destroys hnext =>
      exact ⟨h.revision, fun w hw => (by cases hw), fun w hw => (by cases hw),
        fun w hw => by cases hw⟩
  | shutsDown hnext =>
      have hrequested := hrooted.closes (by rw [hnext]; rfl)
      have hwatcher : ∀ w, s.watcher ≠ some w := fun w hw => by
        have := hrooted.watched (by rw [hw]; rfl)
        rw [hrequested] at this
        cases this
      exact ⟨h.revision, h.seen, fun w hw => absurd hw (hwatcher w),
        fun w hw => absurd hw (hwatcher w)⟩
  | _ hnext =>
      exact h.proceed haccesses (by rw [hnext]; rfl) rfl rfl rfl rfl rfl rfl rfl
        fun _ _ hmem => hmem

theorem watch_informed {s : AudioService} (h : s.Informed) (hbound : s.notified < 2 ^ 63) :
    s.watch.Informed := by
  simp only [watch]
  split
  · exact h
  · rename_i w hwatcher
    split
    · refine ⟨h.revision, fun w' hw' => ?_, fun w' hw' => Or.inl (Or.inr (Or.inr (Or.inl ?_))),
        fun w' hw' _ => Or.inr (Or.inr (Or.inl ?_))⟩
      all_goals cases hw'
      · exact h.seen w hwatcher
      · exact List.mem_append_right _ List.mem_cons_self
      · exact List.mem_append_right _ List.mem_cons_self
    · split
      · exact h
      · refine ⟨h.revision, fun w' hw' => ?_, fun w' hw' => Or.inl (Or.inl ?_),
          fun w' hw' _ => Or.inl ?_⟩
        all_goals cases hw'
        · exact Int.le_of_eq (by rw [h.revision, toJlong_of_lt hbound])
        · rfl
        · rfl

/-- A step of another thread that adds to the queue or leaves it. -/
theorem Informed.other {s s' : AudioService} (h : s.Informed) (hshared : s'.shared = s.shared)
    (hengine : s'.engine = s.engine) (hnotified : s'.notified = s.notified)
    (hwatcher : s'.watcher = s.watcher) (hshown : s'.lastNotifiedState = s.lastNotifiedState)
    (hnext : s'.next = s.next) (hpending : s.notifyPending → s'.notifyPending)
    (hqueue : ∀ posted ∈ s.queue, posted ∈ s'.queue) : s'.Informed := by
  have hnews : ∀ w, s.News w → s'.News w := by
    rintro w (hposting | hunseen | hqueued | hnotify | hupdates)
    · exact Or.inl hposting
    · exact Or.inr (Or.inl (by rw [hshared]; exact hunseen))
    · exact Or.inr (Or.inr (Or.inl (hqueue _ hqueued)))
    · exact Or.inr (Or.inr (Or.inr (Or.inl (hpending hnotify))))
    · exact Or.inr (Or.inr (Or.inr (Or.inr (by rw [hnext]; exact hupdates))))
  refine ⟨?_, ?_, ?_, ?_⟩
  · rw [hshared, hnotified]
    exact h.revision
  · rw [hwatcher, hnotified]
    exact h.seen
  · intro w hw
    rw [hwatcher] at hw
    rcases h.news w hw with hcoming | ⟨hstate, hlast⟩
    · exact Or.inl (hnews w hcoming)
    · refine Or.inr ⟨?_, hshown.trans hlast⟩
      simp only [nativeGetState, hengine, hshared]
      exact hstate
  · intro w hw hrenews
    rw [hwatcher] at hw
    rw [hnext] at hrenews
    exact hnews w (h.renews w hw hrenews)

theorem worker_informed {s : AudioService} (h : s.Informed) (i : Nat) :
    (s.worker i).Informed := by
  simp only [worker]
  split
  · split
    · exact h
    · exact h.other rfl rfl rfl rfl rfl rfl (fun hnotify => hnotify) fun _ hmem => hmem
  · exact h.other rfl rfl rfl rfl rfl rfl (fun hnotify => hnotify) fun _ hmem => hmem
  · split
    · exact h.other rfl rfl rfl rfl rfl rfl (fun hnotify => hnotify) fun _ hmem => hmem
    · exact h.other rfl rfl rfl rfl rfl rfl (fun hnotify => hnotify) fun _ hmem => hmem
  · exact h.other rfl rfl rfl rfl rfl rfl (fun hnotify => hnotify) fun _ hmem => hmem
  · exact h.other rfl rfl rfl rfl rfl rfl (fun hnotify => hnotify)
      fun _ hmem => List.mem_append_left _ hmem
  · exact h

theorem intent_informed {s : AudioService} (hrooted : s.Rooted) (h : s.Informed) (i : Intent) :
    (s.intent i).Informed := by
  simp only [intent]
  split
  · rename_i hidle
    obtain ⟨haccesses, hnext, _⟩ := hidle
    have hupdates : s.next.updates = false := by rw [hnext]; rfl
    cases i with
    | connect outcome =>
        -- a watched service has an engine, so that `cancelCalibration` calls `notify_changed`
        have hnews : ∀ w, s.watcher = some w → News
            { s with accesses := s.nativeStopTestTone, next := .nativeConnect outcome } w := by
          intro w hw
          have hactive := (hrooted.engine (hrooted.watched (by rw [hw]; rfl))).2
          refine Or.inr (Or.inr (Or.inr (Or.inl (Or.inr ?_))))
          simp [nativeStopTestTone, hactive]
        exact ⟨h.revision, h.seen, fun w hw => Or.inl (hnews w hw), fun w hw _ => hnews w hw⟩
    | disconnect | destroy =>
        exact h.proceed haccesses hupdates rfl rfl rfl rfl rfl rfl rfl fun _ _ hmem => hmem
  · exact h

theorem performs_notified {s s' : AudioService} (h : s.Performs s') :
    s'.notified = s.notified := by
  cases h with
  | starts => exact s.startPlayback_frame.2.2.2.1
  | watches =>
      simp only [watchStatus]
      split <;> rfl
  | _ => rfl

theorem notified_le_step (s : AudioService) (e : ServiceEvent) :
    s.notified ≤ (s.step e).notified := by
  have haccess : ∀ a, s.notified ≤ (s.access a).notified := fun a => by
    rcases s.access_notified a with ⟨_, heq⟩ | ⟨_, heq⟩ <;> omega
  cases e with
  | call c => exact Nat.le_refl _
  | native i =>
      simp only [step, native]
      split
      · exact haccess _
      · exact Nat.le_refl _
  | intent i =>
      simp only [step, intent]
      split
      · cases i <;> exact Nat.le_refl _
      · exact Nat.le_refl _
  | main =>
      simp only [step, main]
      split
      · exact Nat.le_of_eq (performs_notified (mainOp_performs s ‹_›)).symm
      · exact haccess _
  | watch =>
      simp only [step, watch]
      split
      · exact Nat.le_refl _
      · split
        · exact Nat.le_refl _
        · split <;> exact Nat.le_refl _
  | worker i =>
      simp only [step, worker]
      split
      · split <;> exact Nat.le_refl _
      · exact Nat.le_refl _
      · split <;> exact Nat.le_refl _
      · exact Nat.le_refl _
      · exact Nat.le_refl _
      · exact Nat.le_refl _
  | writeFails i =>
      simp only [step, writeFails]
      split <;> exact Nat.le_refl _

theorem step_informed {s : AudioService} (hrooted : s.Rooted) (h : s.Informed)
    (e : ServiceEvent) (hbound : (s.step e).notified < 2 ^ 63) : (s.step e).Informed := by
  cases e with
  | call c =>
      refine h.other rfl rfl rfl rfl rfl rfl ?_ fun _ hmem => hmem
      rintro (⟨calls, hcalls, hnotify⟩ | hnotify)
      · exact Or.inl ⟨calls, List.mem_append_left _ hcalls, hnotify⟩
      · exact Or.inr hnotify
  | native i =>
      simp only [step, native] at hbound ⊢
      split at hbound
      · exact accessed_informed h (native_accessed ‹_›) hbound
      · exact h
  | intent i => exact intent_informed hrooted h i
  | main =>
      simp only [step, main] at hbound ⊢
      split at hbound
      · exact performs_informed hrooted h ‹_› (mainOp_performs s ‹_›)
      · exact accessed_informed h (main_accessed ‹_›) hbound
  | watch => exact watch_informed h (Nat.lt_of_le_of_lt (notified_le_step s .watch) hbound)
  | worker i => exact worker_informed h i
  | writeFails i =>
      simp only [step, writeFails]
      split
      · exact h.other rfl rfl rfl rfl rfl rfl (fun hnotify => hnotify) fun _ hmem => hmem
      · exact h

end Updates

section Decisions

/-- The playback that the shared state asks for. -/
def wanted (s : AudioService) : Bool :=
  s.reconnectRequested && s.nativeGetState = .connected &&
    (s.shared.audioActive || s.shared.toneActive)

/-- A worker that has a step to make: it ends, or finds that it has to. -/
def workerBusy (s : AudioService) (i : Nat) : Bool :=
  match s.workers[i]? with
  | some .playing => !s.shouldContinue i
  | some .gone => false
  | none => false
  | some _ => true

/-- The main thread will look at the shared state once more. -/
def Coming (s : AudioService) : Prop :=
  (∃ w, s.watcher = some w ∧ s.News w) ∨ (s.watcher = none ∧ s.next.watches = true) ∨
    Posted.sync ∈ s.queue ∨ ∃ i, s.workerBusy i = true

/-- The resources are those that the shared state asks for. -/
def Agrees (s : AudioService) : Prop :=
  s.playbackRunning = s.wanted ∧ s.wifiLock = s.wanted

/-- What the main thread has found out so far is still true. -/
def Verdict (s : AudioService) : MainOp → Prop
  | .idle | .watchStatus | .close | .nativeShutdown => s.Agrees
  | .sync state _ => s.reconnectRequested = true → state = s.nativeGetState
  | .readTone _ => s.reconnectRequested = true ∧ s.nativeGetState = .connected ∧
      s.shared.audioActive = false
  | .startPlayback _ => s.wanted = true
  | .stopPlayback _ => s.wanted = false
  | .nativeConnect _ | .connectSucceeded | .readState _ _ | .dropConnection | .onDestroy => True

/-- Whatever the main thread has decided is right, or it will look again, or the tone has
changed without anybody being told. -/
def Settled (s : AudioService) : Prop :=
  s.Verdict s.next ∨ (s.reconnectRequested = true ∧ (s.Coming ∨ s.unannounced = true))

theorem start_settled : start.Settled :=
  Or.inl ⟨rfl, rfl⟩

theorem wanted_congr {s s' : AudioService}
    (hrequested : s'.reconnectRequested = s.reconnectRequested)
    (hstate : s'.nativeGetState = s.nativeGetState)
    (hactive : s'.shared.audioActive = s.shared.audioActive)
    (htone : s'.shared.toneActive = s.shared.toneActive) : s'.wanted = s.wanted := by
  simp only [wanted, hrequested, hstate, hactive, htone]

/-- The same resources and the same reads give the same verdict. -/
theorem Verdict.congr {s s' : AudioService} {op : MainOp} (h : s.Verdict op)
    (hrequested : s'.reconnectRequested = s.reconnectRequested)
    (hstate : s'.nativeGetState = s.nativeGetState)
    (hactive : s'.shared.audioActive = s.shared.audioActive)
    (htone : s'.shared.toneActive = s.shared.toneActive)
    (hrunning : s'.playbackRunning = s.playbackRunning) (hwifi : s'.wifiLock = s.wifiLock) :
    s'.Verdict op := by
  have hwanted : s'.wanted = s.wanted := wanted_congr hrequested hstate hactive htone
  cases op with
  | idle | watchStatus | close | nativeShutdown =>
      exact ⟨by rw [hrunning, hwanted]; exact h.1, by rw [hwifi, hwanted]; exact h.2⟩
  | sync state after =>
      intro hasked
      rw [hstate]
      exact h (hrequested ▸ hasked)
  | readTone after =>
      obtain ⟨hasked, hconnected, hsilent⟩ := h
      exact ⟨hrequested.trans hasked, hstate.trans hconnected, hactive.trans hsilent⟩
  | startPlayback after | stopPlayback after => exact hwanted.trans h
  | nativeConnect _ | connectSucceeded | readState _ _ | dropConnection | onDestroy => trivial

theorem wanted_eq_false {s : AudioService} (h : s.reconnectRequested = false) :
    s.wanted = false := by
  simp only [wanted, h, Bool.false_and]

/-- Without a request nothing is wanted, whatever the shared state says. -/
theorem Verdict.unrequested {s s' : AudioService} {op : MainOp} (h : s.Verdict op)
    (hasked : s.reconnectRequested = false)
    (hrequested : s'.reconnectRequested = s.reconnectRequested)
    (hrunning : s'.playbackRunning = true → s.playbackRunning = true)
    (hwifi : s'.wifiLock = s.wifiLock) : s'.Verdict op := by
  have hwanted : s.wanted = false := wanted_eq_false hasked
  have hwanted' : s'.wanted = false := wanted_eq_false (hrequested.trans hasked)
  cases op with
  | idle | watchStatus | close | nativeShutdown =>
      obtain ⟨hruns, hlocked⟩ := h
      refine ⟨?_, by rw [hwifi, hwanted', hlocked, hwanted]⟩
      rw [hwanted']
      cases hrun : s'.playbackRunning with
      | false => rfl
      | true => exact absurd (hruns.symm.trans (hrunning hrun)) (by rw [hwanted]; decide)
  | sync state after =>
      exact fun hnew => absurd (hrequested.symm.trans hnew) (by rw [hasked]; decide)
  | readTone after => exact absurd h.1 (by rw [hasked]; decide)
  | startPlayback after => exact absurd h (by rw [Verdict, hwanted]; decide)
  | stopPlayback after => exact hwanted'
  | nativeConnect _ | connectSucceeded | readState _ _ | dropConnection | onDestroy => trivial

theorem coming_of_news {s : AudioService} (hrooted : s.Rooted)
    (hrequested : s.reconnectRequested = true) (hnews : ∀ w, s.watcher = some w → s.News w) :
    s.Coming := by
  cases hwatcher : s.watcher with
  | some w => exact Or.inl ⟨w, hwatcher, hnews w hwatcher⟩
  | none =>
      rcases hrooted.watching hrequested with hsome | hwatches
      · rw [hwatcher] at hsome
        cases hsome
      · exact Or.inr (Or.inl ⟨hwatcher, hwatches⟩)

theorem accessed_rooted {s s' : AudioService} {a : Access} (h : s.Rooted)
    (haccessed : s.Accessed a s') : s'.Rooted := by
  obtain ⟨calls, accesses, rfl, _, _⟩ := haccessed
  exact h.other rfl rfl rfl rfl rfl

theorem accessed_settled {s s' : AudioService} {a : Access} (hrooted : s.Rooted)
    (hinformed : s.Informed) (h : s.Settled)
    (haccessed : s.Accessed a s') (hbound : s'.notified < 2 ^ 63) : s'.Settled := by
  have hnews := fun w (hw : s.watcher = some w) hor =>
    accessed_news haccessed hinformed.revision (hinformed.seen w hw) hbound hor
  have hsame := accessed_same haccessed
  have hrooted' := accessed_rooted hrooted haccessed
  obtain ⟨calls, accesses, rfl, hkept, hpushed⟩ := haccessed
  cases hrequested : s.reconnectRequested with
  | false =>
      rcases h with hverdict | ⟨hasked, _⟩
      · exact Or.inl (hverdict.unrequested hrequested rfl (fun hrun => hrun) rfl)
      · rw [hrequested] at hasked
        cases hasked
  | true =>
      rcases h with hverdict | ⟨_, hcoming | hunannounced⟩
      · rcases hsame with ⟨hstate, hactive⟩ | hpending
        · by_cases htone : (s.access a).shared.toneActive = s.shared.toneActive
          · exact Or.inl (hverdict.congr rfl hstate hactive htone rfl rfl)
          · refine Or.inr ⟨hrequested, Or.inr ?_⟩
            have hne : a ≠ .notifyChanged := fun heq => htone (by rw [heq]; rfl)
            have hchanged : (s.shared.perform a).1.toneActive ≠ s.shared.toneActive := htone
            show (s.access a).unannounced = true
            simp [access, hne, hchanged]
        · refine Or.inr ⟨hrequested, Or.inl (coming_of_news hrooted' hrequested fun w _ => ?_)⟩
          exact Or.inr (Or.inr (Or.inr (Or.inl hpending)))
      · refine Or.inr ⟨hrequested, Or.inl ?_⟩
        rcases hcoming with ⟨w, hw, hcoming⟩ | hrest
        · exact Or.inl ⟨w, hw, hnews w hw (Or.inr hcoming)⟩
        · exact Or.inr hrest
      · by_cases hnotify : a = .notifyChanged
        · exact Or.inr ⟨hrequested,
            Or.inl (coming_of_news hrooted' hrequested fun w hw => hnews w hw (Or.inl hnotify))⟩
        · refine Or.inr ⟨hrequested, Or.inr ?_⟩
          show (s.access a).unannounced = true
          simp [access, hnotify, hunannounced]

theorem workerBusy_iff (s : AudioService) (i : Nat) :
    s.workerBusy i = true ↔ ∃ phase, s.workers[i]? = some phase ∧ phase ≠ .gone ∧
      (phase = .playing → s.shouldContinue i = false) := by
  cases hphase : s.workers[i]? with
  | none => simp [workerBusy, hphase]
  | some phase => cases phase <;> simp [workerBusy, hphase]

theorem coming_of_busy {s : AudioService} {i : Nat} {phase : WorkerPhase}
    (hphase : s.workers[i]? = some phase) (hends : phase ≠ .playing ∧ phase ≠ .gone) :
    s.Coming :=
  Or.inr (Or.inr (Or.inr ⟨i, (s.workerBusy_iff i).mpr
    ⟨phase, hphase, hends.2, fun h => absurd h hends.1⟩⟩))

/-- A worker that moves has another step to make, or has posted. -/
theorem worker_coming (s : AudioService) (i : Nat) : s.worker i = s ∨ (s.worker i).Coming := by
  simp only [worker]
  split
  · rename_i hphase
    split
    · exact Or.inl rfl
    · exact Or.inr (coming_of_busy (getElem?_set_of_some hphase)
        ⟨(fun h => by cases h), (fun h => by cases h)⟩)
  · rename_i hphase
    exact Or.inr (coming_of_busy (getElem?_set_of_some hphase)
      ⟨(fun h => by cases h), (fun h => by cases h)⟩)
  · rename_i hphase
    split
    · exact Or.inr (coming_of_busy (getElem?_set_of_some hphase)
        ⟨(fun h => by cases h), (fun h => by cases h)⟩)
    · exact Or.inr (coming_of_busy (getElem?_set_of_some hphase)
        ⟨(fun h => by cases h), (fun h => by cases h)⟩)
  · rename_i hphase
    exact Or.inr (coming_of_busy (getElem?_set_of_some hphase)
      ⟨(fun h => by cases h), (fun h => by cases h)⟩)
  · exact Or.inr (Or.inr (Or.inr (Or.inl (List.mem_append_right _ List.mem_cons_self))))
  · exact Or.inl rfl

theorem worker_playback (s : AudioService) (i : Nat) :
    ((s.worker i).playbackRunning = true → s.playbackRunning = true) ∧
      (s.worker i).wifiLock = s.wifiLock := by
  simp only [worker]
  split
  · split <;> exact ⟨fun h => h, rfl⟩
  · exact ⟨fun h => h, rfl⟩
  · split
    · exact ⟨fun h => (by cases h), rfl⟩
    · exact ⟨fun h => h, rfl⟩
  · exact ⟨fun h => h, rfl⟩
  · exact ⟨fun h => h, rfl⟩
  · exact ⟨fun h => h, rfl⟩

/-- A worker that ends leaves the decision to a later look. -/
theorem Settled.ending {s s' : AudioService} (h : s.Settled)
    (hrequested : s'.reconnectRequested = s.reconnectRequested) (hnext : s'.next = s.next)
    (hrunning : s'.playbackRunning = true → s.playbackRunning = true)
    (hwifi : s'.wifiLock = s.wifiLock) (hcoming : s'.Coming) : s'.Settled := by
  cases hasked : s.reconnectRequested with
  | true => exact Or.inr ⟨hrequested.trans hasked, Or.inl hcoming⟩
  | false =>
      rcases h with hverdict | ⟨hasked', _⟩
      · refine Or.inl ?_
        rw [hnext]
        exact hverdict.unrequested hasked hrequested hrunning hwifi
      · rw [hasked] at hasked'
        cases hasked'

theorem worker_settled {s : AudioService} (h : s.Settled) (i : Nat) : (s.worker i).Settled := by
  obtain ⟨_, _, hrequested, _, hnext⟩ := s.worker_rest i
  obtain ⟨hrunning, hwifi⟩ := s.worker_playback i
  rcases s.worker_coming i with hsame | hcoming
  · rw [hsame]
    exact h
  · exact h.ending hrequested hnext hrunning hwifi hcoming

theorem writeFails_settled {s : AudioService} (h : s.Settled) (i : Nat) :
    (s.writeFails i).Settled := by
  simp only [writeFails]
  split
  · exact h.ending rfl rfl (fun hrun => hrun) rfl (coming_of_busy (getElem?_set_of_some ‹_›)
      ⟨(fun h => by cases h), (fun h => by cases h)⟩)
  · exact h

/-- What is coming stays on its way while the main thread is busy with something else. -/
theorem Coming.proceed {s s' : AudioService} (h : s.Coming) (haccesses : s.accesses = [])
    (hnext : s.next.updates = false) (hwatches : s'.next.watches = s.next.watches)
    (hshared : s'.shared = s.shared) (hcalls : s'.calls = s.calls)
    (hwatcher : s'.watcher = s.watcher) (hqueue : ∀ posted ∈ s.queue, posted ∈ s'.queue)
    (hbusy : ∀ i, s.workerBusy i = true → s'.workerBusy i = true) : s'.Coming := by
  rcases h with ⟨w, hw, hnews⟩ | ⟨hnone, hwatch⟩ | hsync | ⟨i, hi⟩
  · exact Or.inl ⟨w, hwatcher.trans hw,
      hnews.proceed haccesses hnext (by rw [hshared]) hcalls (hqueue _)⟩
  · exact Or.inr (Or.inl ⟨hwatcher.trans hnone, hwatches.trans hwatch⟩)
  · exact Or.inr (Or.inr (Or.inl (hqueue _ hsync)))
  · exact Or.inr (Or.inr (Or.inr ⟨i, hbusy i hi⟩))

theorem stopPlayback_busy {s : AudioService} {i : Nat} (h : s.workerBusy i = true) :
    s.stopPlayback.workerBusy i = true := by
  obtain ⟨phase, hphase, hgone, _⟩ := (s.workerBusy_iff i).mp h
  exact (s.stopPlayback.workerBusy_iff i).mpr ⟨phase, hphase, hgone, fun _ => rfl⟩

theorem startPlayback_busy {s : AudioService} {i : Nat} (h : s.workerBusy i = true) :
    s.startPlayback.workerBusy i = true := by
  obtain ⟨phase, hphase, hgone, hplaying⟩ := (s.workerBusy_iff i).mp h
  have hlt := (List.getElem?_eq_some_iff.mp hphase).1
  refine (s.startPlayback.workerBusy_iff i).mpr ⟨phase, ?_, hgone, fun heq => ?_⟩
  · simp only [startPlayback]
    split
    · exact hphase
    · rw [List.getElem?_append_left hlt]
      exact hphase
  · simp only [startPlayback]
    split
    · exact hplaying heq
    · -- the new track is another one
      have hne : s.workers.length ≠ i := by omega
      simp [shouldContinue, hne]

/-- After `startPlayback` the playback runs, or the old worker has still to go. -/
theorem startPlayback_runs {s : AudioService} (howned : s.Owned) :
    (s.startPlayback.playbackRunning = true ∧ s.startPlayback.wifiLock = true) ∨
      ∃ i, s.startPlayback.workerBusy i = true := by
  by_cases htrack : s.audioTrack.isSome = true
  · obtain ⟨i, hi⟩ := Option.isSome_iff_exists.mp htrack
    obtain ⟨phase, hphase, hattached⟩ := howned.owner i hi
    have hsame : s.startPlayback = { s with wifiLock := true } := by
      simp only [startPlayback, if_pos htrack]
    rw [hsame]
    cases hrunning : s.playbackRunning with
    | true => exact Or.inl ⟨rfl, rfl⟩
    | false =>
        refine Or.inr ⟨i, (workerBusy_iff _ i).mpr ⟨phase, hphase, ?_, fun _ => ?_⟩⟩
        · intro heq
          rw [heq] at hattached
          cases hattached
        · simp [shouldContinue]
  · refine Or.inl ?_
    simp only [startPlayback, if_neg htrack, and_self]

theorem startPlayback_unannounced (s : AudioService) :
    s.startPlayback.unannounced = s.unannounced := by
  simp only [startPlayback]
  split <;> rfl

/-- A decision that rests on what is still coming. -/
theorem Settled.proceed {s s' : AudioService} (h : s.Settled) (haccesses : s.accesses = [])
    (hupdates : s.next.updates = false) (hwatches : s'.next.watches = s.next.watches)
    (hshared : s'.shared = s.shared) (hcalls : s'.calls = s.calls)
    (hwatcher : s'.watcher = s.watcher) (hrequested : s'.reconnectRequested = s.reconnectRequested)
    (hunannounced : s'.unannounced = s.unannounced)
    (hqueue : ∀ posted ∈ s.queue, posted ∈ s'.queue)
    (hbusy : ∀ i, s.workerBusy i = true → s'.workerBusy i = true)
    (hverdict : s.Verdict s.next → s'.Settled) : s'.Settled := by
  rcases h with hright | ⟨hasked, hcoming | htold⟩
  · exact hverdict hright
  · exact Or.inr ⟨hrequested.trans hasked,
      Or.inl (hcoming.proceed haccesses hupdates hwatches hshared hcalls hwatcher hqueue hbusy)⟩
  · exact Or.inr ⟨hrequested.trans hasked, Or.inr (hunannounced.trans htold)⟩

theorem performs_settled {s s' : AudioService} (hrooted : s.Rooted) (howned : s.Owned)
    (h : s.Settled) (haccesses : s.accesses = []) (hperforms : s.Performs s') : s'.Settled := by
  cases hperforms with
  | rests => exact h
  | updates | resyncs | refuses | connects | succeeds => exact Or.inl trivial
  | @passesUpdate id queue hnext hqueue hid =>
      rcases h with hverdict | ⟨hasked, hcoming | htold⟩
      · exact Or.inl hverdict
      · refine Or.inr ⟨hasked, Or.inl ?_⟩
        have hkept : ∀ posted ∈ s.queue, posted ≠ .update id → posted ∈ queue := by
          intro posted hmem hne
          rw [hqueue] at hmem
          exact (List.mem_cons.mp hmem).resolve_left hne
        rcases hcoming with ⟨w, hw, hnews⟩ | hwatch | hsync | hbusy
        · refine Or.inl ⟨w, hw, hnews.proceed haccesses (by rw [hnext]; rfl) rfl rfl fun hmem =>
            hkept _ hmem fun heq => hid ?_⟩
          cases heq
          rw [hw]
          rfl
        · exact Or.inr (Or.inl hwatch)
        · exact Or.inr (Or.inr (Or.inl (hkept _ hsync fun heq => by cases heq)))
        · exact Or.inr (Or.inr (Or.inr hbusy))
      · exact Or.inr ⟨hasked, Or.inr htold⟩
  | passesSync hnext hqueue hrequested =>
      rcases h with hverdict | ⟨hasked, _⟩
      · exact Or.inl hverdict
      · rw [hrequested] at hasked
        cases hasked
  | @reads notifying after hnext => exact Or.inl fun _ => rfl
  | @hearsAudio after hnext hrequested hactive =>
      refine h.proceed haccesses (by rw [hnext]; rfl) (by rw [hnext]; rfl) rfl rfl rfl rfl rfl
        (fun _ hmem => hmem) (fun _ hbusy => hbusy) fun hverdict => Or.inl ?_
      rw [hnext] at hverdict
      have hstate : s.nativeGetState = .connected := (hverdict hrequested).symm
      show s.wanted = true
      simp [wanted, hrequested, hstate, hactive]
  | @hearsNoAudio after hnext hrequested hactive =>
      refine h.proceed haccesses (by rw [hnext]; rfl) (by rw [hnext]; rfl) rfl rfl rfl rfl rfl
        (fun _ hmem => hmem) (fun _ hbusy => hbusy) fun hverdict => Or.inl ?_
      rw [hnext] at hverdict
      exact ⟨hrequested, (hverdict hrequested).symm, hactive⟩
  | @declines state after hnext hsync =>
      refine h.proceed haccesses (by rw [hnext]; rfl) (by rw [hnext]; rfl) rfl rfl rfl rfl rfl
        (fun _ hmem => hmem) (fun _ hbusy => hbusy) fun hverdict => Or.inl ?_
      rw [hnext] at hverdict
      show s.wanted = false
      cases hrequested : s.reconnectRequested with
      | false => exact wanted_eq_false hrequested
      | true =>
          have hstate : s.nativeGetState ≠ .connected := fun heq =>
            hsync ⟨hrequested, (hverdict hrequested).trans heq⟩
          simp [wanted, hstate]
  | @hearsTone after hnext htone =>
      refine h.proceed haccesses (by rw [hnext]; rfl) (by rw [hnext]; rfl) rfl rfl rfl rfl rfl
        (fun _ hmem => hmem) (fun _ hbusy => hbusy) fun hverdict => Or.inl ?_
      rw [hnext] at hverdict
      obtain ⟨hrequested, hstate, _⟩ := hverdict
      show s.wanted = true
      simp [wanted, hrequested, hstate, htone]
  | @hearsNothing after hnext htone =>
      refine h.proceed haccesses (by rw [hnext]; rfl) (by rw [hnext]; rfl) rfl rfl rfl rfl rfl
        (fun _ hmem => hmem) (fun _ hbusy => hbusy) fun hverdict => Or.inl ?_
      rw [hnext] at hverdict
      obtain ⟨_, _, hactive⟩ := hverdict
      show s.wanted = false
      simp [wanted, hactive, htone]
  | @starts after hnext =>
      obtain ⟨hshared, hengine, hcalls, _, _, hqueue⟩ := s.startPlayback_frame
      obtain ⟨_, _, hrequested, hwatcher⟩ := s.startPlayback_rest
      refine h.proceed haccesses (by rw [hnext]; rfl) ?_ hshared hcalls hwatcher hrequested
        s.startPlayback_unannounced (fun _ hmem => hqueue.symm ▸ hmem)
        (fun i hbusy => (startPlayback_busy hbusy : s.startPlayback.workerBusy i = true))
        fun hverdict => ?_
      · rw [hnext]
        exact watches_op after
      · rw [hnext] at hverdict
        have hwanted : s.wanted = true := hverdict
        have hwanted' : s.startPlayback.wanted = true := by
          have hstate : s.startPlayback.nativeGetState = s.nativeGetState := by
            rw [nativeGetState, nativeGetState, hshared, hengine]
          rw [← hwanted]
          exact wanted_congr hrequested hstate (by rw [hshared]) (by rw [hshared])
        rcases startPlayback_runs howned with ⟨hrunning, hwifi⟩ | ⟨i, hi⟩
        · have hagrees : Agrees { s.startPlayback with next := after.op } :=
            ⟨hrunning.trans hwanted'.symm, hwifi.trans hwanted'.symm⟩
          refine Or.inl ?_
          cases after with
          | done | watchStatus | close => exact hagrees
        · have hasked : s.reconnectRequested = true := by
            simp only [wanted, Bool.and_eq_true] at hwanted
            exact hwanted.1.1
          exact Or.inr ⟨hrequested.trans hasked, Or.inl (Or.inr (Or.inr (Or.inr ⟨i, hi⟩)))⟩
  | @stops after hnext =>
      refine h.proceed haccesses (by rw [hnext]; rfl) ?_ rfl rfl rfl rfl rfl
        (fun _ hmem => hmem)
        (fun i hbusy => (stopPlayback_busy hbusy : s.stopPlayback.workerBusy i = true))
        fun hverdict => Or.inl ?_
      · rw [hnext]
        exact watches_op after
      · rw [hnext] at hverdict
        have hwanted : s.wanted = false := hverdict
        have hagrees : Agrees { s.stopPlayback with next := after.op } :=
          ⟨hwanted.symm, hwanted.symm⟩
        cases after with
        | done | watchStatus | close => exact hagrees
  | watches hnext =>
      have hrequested : s.reconnectRequested = true := hrooted.watches (by rw [hnext]; rfl)
      by_cases hsome : s.watcher.isSome = true
      · have hsame : s.watchStatus = s := by simp only [watchStatus, if_pos hsome]
        rw [hsame]
        rcases h with hverdict | ⟨hasked, hcoming | htold⟩
        · rw [hnext] at hverdict
          exact Or.inl hverdict
        · refine Or.inr ⟨hasked, Or.inl ?_⟩
          rcases hcoming with ⟨w, hw, hnews⟩ | ⟨hnone, _⟩ | hrest
          · exact Or.inl ⟨w, hw, hnews.proceed haccesses (by rw [hnext]; rfl) rfl rfl
              fun hmem => hmem⟩
          · rw [hnone] at hsome
            cases hsome
          · exact Or.inr (Or.inr hrest)
        · exact Or.inr ⟨hasked, Or.inr htold⟩
      · -- the new status thread has seen no revision at all
        refine Or.inr ⟨?_, Or.inl (Or.inl ⟨{ id := s.watchers, seen := -1, posting := false },
          ?_, Or.inr (Or.inl ?_)⟩)⟩
        · exact s.watchStatus_rest.2.2.1.trans hrequested
        · simp only [watchStatus, if_neg hsome]
        · simp only [toJlong]
          omega
  | drops hnext | destroys hnext => exact Or.inl (wanted_eq_false rfl)
  | closes hnext =>
      refine h.proceed haccesses (by rw [hnext]; rfl) (by rw [hnext]; rfl) rfl rfl rfl rfl rfl
        (fun _ hmem => hmem) (fun _ hbusy => hbusy) fun hverdict => Or.inl ?_
      rw [hnext] at hverdict
      exact hverdict
  | shutsDown hnext =>
      have hrequested := hrooted.closes (by rw [hnext]; rfl)
      rcases h with hverdict | ⟨hasked, _⟩
      · rw [hnext] at hverdict
        have hagrees : s.Verdict .idle := hverdict
        exact Or.inl (hagrees.unrequested hrequested rfl (fun hrun => hrun) rfl)
      · rw [hrequested] at hasked
        cases hasked

theorem call_settled {s : AudioService} (h : s.Settled) (c : NativeCall) :
    (s.step (.call c)).Settled := by
  rcases h with hverdict | ⟨hasked, hcoming | htold⟩
  · exact Or.inl (hverdict.congr rfl rfl rfl rfl rfl rfl)
  · refine Or.inr ⟨hasked, Or.inl ?_⟩
    rcases hcoming with ⟨w, hw, hnews⟩ | hrest
    · refine Or.inl ⟨w, hw, ?_⟩
      rcases hnews with hposting | hunseen | hqueued | (⟨calls, hcalls, hnotify⟩ | hnotify) |
        hupdates
      · exact Or.inl hposting
      · exact Or.inr (Or.inl hunseen)
      · exact Or.inr (Or.inr (Or.inl hqueued))
      · exact Or.inr (Or.inr (Or.inr (Or.inl
          (Or.inl ⟨calls, List.mem_append_left _ hcalls, hnotify⟩))))
      · exact Or.inr (Or.inr (Or.inr (Or.inl (Or.inr hnotify))))
      · exact Or.inr (Or.inr (Or.inr (Or.inr hupdates)))
    · exact Or.inr hrest
  · exact Or.inr ⟨hasked, Or.inr htold⟩

theorem watch_settled {s : AudioService} (h : s.Settled) : s.watch.Settled := by
  simp only [watch]
  split
  · exact h
  · split
    · rcases h with hverdict | ⟨hasked, _⟩
      · exact Or.inl (hverdict.congr rfl rfl rfl rfl rfl rfl)
      · exact Or.inr ⟨hasked, Or.inl (Or.inl ⟨_, rfl,
          Or.inr (Or.inr (Or.inl (List.mem_append_right _ List.mem_cons_self)))⟩)⟩
    · split
      · exact h
      · rcases h with hverdict | ⟨hasked, _⟩
        · exact Or.inl (hverdict.congr rfl rfl rfl rfl rfl rfl)
        · exact Or.inr ⟨hasked, Or.inl (Or.inl ⟨_, rfl, Or.inl rfl⟩)⟩

theorem step_settled {s : AudioService} (hrooted : s.Rooted) (howned : s.Owned)
    (hinformed : s.Informed) (h : s.Settled) (e : ServiceEvent)
    (hbound : (s.step e).notified < 2 ^ 63) : (s.step e).Settled := by
  cases e with
  | call c => exact call_settled h c
  | native i =>
      simp only [step, native] at hbound ⊢
      split at hbound
      · exact accessed_settled hrooted hinformed h (native_accessed ‹_›) hbound
      · exact h
  | intent i =>
      simp only [step, intent]
      split
      · cases i <;> exact Or.inl trivial
      · exact h
  | main =>
      simp only [step, main] at hbound ⊢
      split at hbound
      · exact performs_settled hrooted howned h ‹_› (mainOp_performs s ‹_›)
      · exact accessed_settled hrooted hinformed h (main_accessed ‹_›) hbound
  | watch => exact watch_settled h
  | worker i => exact worker_settled h i
  | writeFails i => exact writeFails_settled h i

end Decisions

section Rest

/-- A thread that is not waiting for anything: it has an access to make, something to
handle, a revision to report or a worker to end. -/
def Busy (s : AudioService) : ServiceEvent → Prop
  | .native i => ∃ a rest, s.calls[i]? = some (a :: rest)
  | .main => s.accesses ≠ [] ∨ s.next ≠ .idle ∨ s.queue ≠ []
  | .watch => ∃ w, s.watcher = some w ∧
      (w.posting = true ∨ w.seen ≠ toJlong s.shared.revision)
  | .worker i => s.workerBusy i = true
  | .call _ | .intent _ | .writeFails _ => False

/-- Every thread waits for something new. -/
def AtRest (s : AudioService) : Prop :=
  ∀ e, ¬s.Busy e

/-- The invariant of the service; what the revisions say holds until they wrap. -/
structure Sound (s : AudioService) : Prop where
  rooted : s.Rooted
  owned : s.Owned
  informed : s.notified < 2 ^ 63 → s.Informed
  settled : s.notified < 2 ^ 63 → s.Settled

theorem start_sound : start.Sound where
  rooted := start_rooted
  owned := start_owned
  informed := fun _ => start_informed
  settled := fun _ => start_settled

theorem step_sound {s : AudioService} (h : s.Sound) (e : ServiceEvent) : (s.step e).Sound where
  rooted := step_rooted h.rooted e
  owned := step_owned h.owned e
  informed := fun hbound =>
    step_informed h.rooted (h.informed (Nat.lt_of_le_of_lt (s.notified_le_step e) hbound)) e hbound
  settled := fun hbound =>
    have hearlier := Nat.lt_of_le_of_lt (s.notified_le_step e) hbound
    step_settled h.rooted h.owned (h.informed hearlier) (h.settled hearlier) e hbound

theorem run_sound (es : List ServiceEvent) : (run step start es).Sound :=
  run_preserves Sound (fun _ e h => step_sound h e) start_sound es

/-- What holds when nothing moves any more. -/
structure Resting (s : AudioService) : Prop where
  connected : s.reconnectRequested = true →
    s.nativeGetState = .connected ∧ s.lastNotifiedState = some .connected
  released : s.reconnectRequested = false → s.playbackRunning = false ∧ s.wifiLock = false
  matching : s.unannounced = false → s.playbackRunning = s.wanted ∧ s.wifiLock = s.wanted
  workers : ∀ i phase, s.workers[i]? = some phase → phase ≠ .gone →
    phase = .playing ∧ s.audioTrack = some i ∧ s.playbackRunning = true
  plays : s.playbackRunning = true →
    ∃ i, s.audioTrack = some i ∧ s.workers[i]? = some .playing

theorem not_pending_of_atRest {s : AudioService} (hrest : s.AtRest) : ¬s.notifyPending := by
  rintro (⟨c, hc, hnotify⟩ | hnotify)
  · obtain ⟨i, hi⟩ := List.mem_iff_getElem?.mp hc
    cases c with
    | nil => cases hnotify
    | cons a rest => exact hrest (.native i) ⟨a, rest, hi⟩
  · refine hrest .main (Or.inl fun hnil => ?_)
    rw [hnil] at hnotify
    cases hnotify

theorem next_of_atRest {s : AudioService} (hrest : s.AtRest) :
    s.next = .idle ∧ s.queue = [] :=
  ⟨by_contra fun h => hrest .main (Or.inr (Or.inl h)),
    by_contra fun h => hrest .main (Or.inr (Or.inr h))⟩

theorem no_news_of_atRest {s : AudioService} (hrest : s.AtRest) {w : StatusThread}
    (hw : s.watcher = some w) : ¬s.News w := by
  obtain ⟨hnext, hqueue⟩ := next_of_atRest hrest
  rintro (hposting | hunseen | hqueued | hpending | hupdates)
  · exact hrest .watch ⟨w, hw, Or.inl hposting⟩
  · exact hrest .watch ⟨w, hw, Or.inr hunseen⟩
  · rw [hqueue] at hqueued
    cases hqueued
  · exact not_pending_of_atRest hrest hpending
  · rw [hnext] at hupdates
    cases hupdates

theorem not_coming_of_atRest {s : AudioService} (hrest : s.AtRest) : ¬s.Coming := by
  obtain ⟨hnext, hqueue⟩ := next_of_atRest hrest
  rintro (⟨w, hw, hnews⟩ | ⟨_, hwatches⟩ | hsync | ⟨i, hbusy⟩)
  · exact no_news_of_atRest hrest hw hnews
  · rw [hnext] at hwatches
    cases hwatches
  · rw [hqueue] at hsync
    cases hsync
  · exact hrest (.worker i) hbusy

theorem resting_of_atRest {s : AudioService} (h : s.Sound) (hbound : s.notified < 2 ^ 63)
    (hrest : s.AtRest) : s.Resting := by
  obtain ⟨hrooted, howned, hinformed, hsettled⟩ := h
  obtain ⟨hnext, _⟩ := next_of_atRest hrest
  have hplaying : ∀ i phase, s.workers[i]? = some phase → phase ≠ .gone →
      phase = .playing ∧ s.audioTrack = some i ∧ s.playbackRunning = true := by
    intro i phase hphase hgone
    have hidle : ¬s.workerBusy i = true := hrest (.worker i)
    rw [workerBusy_iff] at hidle
    cases phase with
    | gone => exact absurd rfl hgone
    | playing =>
        cases hcontinue : s.shouldContinue i with
        | false => exact absurd ⟨_, hphase, hgone, fun _ => hcontinue⟩ hidle
        | true =>
            simp only [shouldContinue, Bool.and_eq_true, decide_eq_true_eq] at hcontinue
            exact ⟨rfl, hcontinue.2, hcontinue.1⟩
    | leaving | released | clearing | detached =>
        exact absurd ⟨_, hphase, hgone, fun heq => by cases heq⟩ hidle
  have hverdict : s.reconnectRequested = false ∨ s.unannounced = false → s.Agrees := by
    intro hor
    rcases hsettled hbound with hverdict | ⟨hasked, hcoming | htold⟩
    · rw [hnext] at hverdict
      exact hverdict
    · exact absurd hcoming (not_coming_of_atRest hrest)
    · rcases hor with hnot | hnot
      · rw [hasked] at hnot
        cases hnot
      · rw [htold] at hnot
        cases hnot
  refine ⟨fun hasked => ?_, fun hasked => ?_, fun htold => hverdict (Or.inr htold), hplaying,
    fun hrunning => ?_⟩
  · rcases hrooted.watching hasked with hsome | hwatches
    · obtain ⟨w, hw⟩ := Option.isSome_iff_exists.mp hsome
      exact ((hinformed hbound).news w hw).resolve_left (no_news_of_atRest hrest hw)
    · rw [hnext] at hwatches
      cases hwatches
  · obtain ⟨hruns, hlocked⟩ := hverdict (Or.inl hasked)
    rw [wanted_eq_false hasked] at hruns hlocked
    exact ⟨hruns, hlocked⟩
  · obtain ⟨i, phase, htrack, hphase, hattached, _⟩ := howned.running hrunning
    have hgone : phase ≠ .gone := fun heq => by
      rw [heq] at hattached
      cases hattached
    obtain ⟨rfl, _, _⟩ := hplaying i phase hphase hgone
    exact ⟨i, htrack, hphase⟩

/-- What the service may be trusted with at any time. -/
structure Dependable (s : AudioService) : Prop where
  resting : s.AtRest → s.Resting
  silent : s.reconnectRequested = false → s.next = .idle →
    s.playbackRunning = false ∧ s.wifiLock = false

/-- **No wake-up is lost.**  As long as the revisions have not wrapped: whenever every
thread waits, the playback, its worker and the Wi-Fi lock are those that the shared state
asks for, unless a tone has ended without anybody being told; and a service that wants to
be connected never comes to rest before it is connected and shows so.  Once the main
thread is done with `disconnect`, nothing plays until the next `connect`. -/
theorem no_wake_up_is_lost {es : List ServiceEvent}
    (hbound : (run step start es).notified < 2 ^ 63) : (run step start es).Dependable := by
  have hsound := run_sound es
  refine ⟨resting_of_atRest hsound hbound, fun hasked hnext => ?_⟩
  rcases hsound.settled hbound with hverdict | ⟨hrequested, _⟩
  · rw [hnext] at hverdict
    obtain ⟨hruns, hlocked⟩ := hverdict
    rw [wanted_eq_false hasked] at hruns hlocked
    exact ⟨hruns, hlocked⟩
  · rw [hasked] at hrequested
    cases hrequested

/-- A phone that connects, and the session that begins. -/
def listening : List ServiceEvent :=
  .intent (.connect .accepted) :: List.replicate 12 .main ++
    [.call (.set .connected), .native 0, .native 0, .call (.setAudioActive true), .native 1,
      .native 1, .watch, .watch] ++
    List.replicate 4 .main

/-- After these steps every thread waits. -/
theorem listening_atRest : (run step start listening).AtRest := by
  intro e
  cases e with
  | call c | intent i | writeFails i => exact id
  | native i =>
      rintro ⟨a, rest, hcall⟩
      have hcalls : (run step start listening).calls = [[], []] := by decide
      rw [hcalls] at hcall
      rcases i with _ | _ | i
      all_goals cases hcall
  | main =>
      rintro (haccesses | hnext | hqueue)
      · exact haccesses (by decide)
      · exact hnext (by decide)
      · exact hqueue (by decide)
  | watch =>
      rintro ⟨w, hw, hbusy⟩
      have hwatcher : (run step start listening).watcher = some ⟨0, 4, false⟩ := by decide
      rw [hwatcher] at hw
      cases hw
      rcases hbusy with hposting | hunseen
      · cases hposting
      · exact hunseen (by decide)
  | worker i =>
      intro hbusy
      obtain ⟨phase, hphase, _, hstops⟩ := (workerBusy_iff _ i).mp hbusy
      have hworkers : (run step start listening).workers = [.playing] := by decide
      rw [hworkers] at hphase
      cases i with
      | zero =>
          cases hphase
          exact absurd (hstops rfl) (by decide)
      | succ i => cases hphase

theorem no_wake_up_is_lost_listening :
    (run step start listening).notified < 2 ^ 63 ∧ (run step start listening).Dependable ∧
      (run step start listening).AtRest ∧ (run step start listening).playbackRunning = true :=
  ⟨by decide, no_wake_up_is_lost (by decide), listening_atRest, by decide⟩

end Rest

end AudioService

end Soundwave

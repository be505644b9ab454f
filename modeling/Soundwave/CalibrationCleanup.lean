import Soundwave.CalibrationLog
import Soundwave.CalibrationRun

/-!
# Calibrations clean up

However the phones, the queues, the microphone and the token behave, a run of the
calibration tries to stop the test tone and to cancel the session of every receiver to
which it queued a Begin, after everything else that it sends there.  It returns a profile
only after every such receiver has confirmed its original volume.
-/

namespace Soundwave

/-- The request that a message from a phone names. -/
def CalibrationEntry.names : CalibrationEntry → Option Nat
  | .arrived _ status => some status.requestId
  | .toneArrived _ n _ _ => some n
  | _ => none

namespace Calibrator

section Frames

/-- No message that begins a session. -/
def Measures (_ : Nat) (message : ControlMessage) : Prop :=
  ∀ n, message ≠ .calibrationSession n .begin

theorem within_exchange (id : Nat) (index : Option Nat) (token : CancellationToken) :
    Within (Evolves Measures) (exchange id index token) := by
  cases index with
  | none => exact (waits_query id token).within Measures (fun _ _ h => by cases h)
  | some index => exact (waits_setVolume id index token).within Measures (fun _ _ h => by cases h)

theorem within_switchTone (id : Nat) (enabled : Bool) (token : CancellationToken) :
    Within (Evolves Measures) (switchTone id enabled token) :=
  (waits_switchTone id enabled token).within Measures (fun _ _ h => by cases h)

theorem within_validateDevice {R : Calibrator → Calibrator → Prop} [IsPreorder Calibrator R]
    (device : DeviceStatus) : Within R (validateDevice device) := by
  refine within_bind (within_ensure _ _) (fun _ => ?_)
  refine within_bind (within_ensure _ _) (fun _ => ?_)
  exact within_bind (within_ensure _ _) (fun _ => within_ensure _ _)

theorem within_measureRaw (id : Nat) (background : Float) :
    Within (Evolves Measures) (measureRaw id background) := by
  refine within_bind (within_exchange id none .ofRun) (fun status => ?_)
  refine within_bind (within_validateDevice status) (fun _ => ?_)
  refine within_bind (within_switchTone id true .ofRun) (fun started => ?_)
  refine within_bind (within_result within_listen) (fun heard => ?_)
  refine within_bind (within_takeToneReply id started) (fun tone => ?_)
  refine within_bind (within_result (within_switchTone id false .fresh)) (fun stopped => ?_)
  refine within_bind (within_question heard) (fun signal => ?_)
  refine within_bind (within_question stopped) (fun _ => ?_)
  refine within_bind (within_ensure _ _) (fun _ => ?_)
  refine within_bind (within_exchange id none .ofRun) (fun after => ?_)
  refine within_bind (within_validateDevice after) (fun _ => ?_)
  refine within_bind (within_ensure _ _) (fun _ => ?_)
  refine within_bind within_listen (fun ambient => ?_)
  refine within_bind (within_ensure _ _) (fun _ => ?_)
  exact within_bind (within_ensure _ _) (fun _ => within_pure _)

theorem within_measure (id : Nat) (background : Float) :
    Within (Evolves Measures) (measure id background) := by
  refine within_bind (within_measureRaw id background) (fun measurement => ?_)
  refine within_bind (within_ensure _ _) (fun _ => ?_)
  exact within_bind (within_ensure _ _) (fun _ => within_question _)

theorem within_measurePoints (id : Nat) (device : DeviceStatus) (ambient : Float)
    (indices : List Nat) : Within (Evolves Measures) (measurePoints id device ambient indices) := by
  induction indices with
  | nil => exact within_pure _
  | cons index indices ih =>
      refine within_bind (within_say _) (fun _ => ?_)
      refine within_bind (within_exchange id (some index) .ofRun) (fun actual => ?_)
      refine within_bind (within_ensure _ _) (fun _ => ?_)
      refine within_bind (within_measureRaw id ambient) (fun measured => ?_)
      exact within_bind ih (fun _ => within_pure _)

theorem within_measureCurves (ambient : Float) (originals : List (Nat × DeviceStatus)) :
    Within (Evolves Measures) (measureCurves ambient originals) := by
  induction originals with
  | nil => exact within_pure _
  | cons original originals ih =>
      refine within_bind (within_measurePoints _ _ _ _) (fun points => ?_)
      exact within_bind ih (fun _ => within_pure _)

theorem within_mapLevels (reference id : Nat) (name : String) (ambient : Float)
    (points targets : LevelPoints) (mapping : SortedMap Nat Nat) :
    Within (Evolves Measures) (mapLevels reference id name ambient points targets mapping) := by
  induction targets generalizing mapping with
  | nil => exact within_pure _
  | cons target targets ih =>
      rw [mapLevels]
      cases bestStep points target.2 with
      | none => exact ih mapping
      | some best =>
          refine within_ite (ih mapping) ?_
          refine within_bind (within_say _) (fun _ => ?_)
          refine within_bind (within_exchange reference _ .ofRun) (fun _ => ?_)
          refine within_bind (within_measure reference ambient) (fun repeated => ?_)
          refine within_bind (within_ensure _ _) (fun _ => ?_)
          refine within_bind (within_exchange id _ .ofRun) (fun _ => ?_)
          exact within_bind (within_measure id ambient) (fun verified => ih _)

section Plain

variable {α : Type} {R : Calibrator → Calibrator → Prop} [IsPreorder Calibrator R]

theorem within_unwrap (x : Option α) : Within R (unwrap x) := by
  cases x with
  | some a => exact within_pure a
  | none => exact within_throw _

theorem within_context (text : String) (x : Option α) : Within R (context text x) := by
  cases x with
  | some a => exact within_pure a
  | none => exact within_bail text

end Plain

theorem within_mapFollowers (reference : Nat) (master : DeviceRange) (ambient : Float)
    (originals : List (Nat × DeviceStatus)) (curves : List (String × LevelPoints))
    (targets : LevelPoints) (followers : List Follower) :
    Within (Evolves Measures)
      (mapFollowers reference master ambient originals curves targets followers) := by
  induction followers with
  | nil => exact within_pure _
  | cons follower followers ih =>
      refine within_bind (within_adapt (within_context _ _)) (fun curve => ?_)
      refine within_bind (within_unwrap _) (fun original => ?_)
      refine within_bind (within_adapt (within_mapLevels _ _ _ _ _ _ _)) (fun mapping => ?_)
      exact within_bind ih (fun _ => within_pure _)

theorem within_calibrate (profile : Profile) (reference : Nat)
    (originals : List (Nat × DeviceStatus)) :
    Within (Evolves Measures) (calibrate profile reference originals) := by
  refine within_bind (within_adapt (within_ensure _ _)) (fun _ => ?_)
  refine within_bind (within_adapt within_openMicrophone) (fun _ => ?_)
  refine within_bind (within_adapt (within_say _)) (fun _ => ?_)
  refine within_bind (within_adapt within_listen) (fun ambient => ?_)
  refine within_bind (within_adapt (within_ensure _ _)) (fun _ => ?_)
  refine within_bind (within_adapt (within_measureCurves _ _)) (fun curves => ?_)
  refine within_bind (within_adapt (within_context _ _)) (fun targets => ?_)
  refine within_bind (within_adapt (within_ensure _ _)) (fun _ => ?_)
  refine within_bind (within_mapFollowers _ _ _ _ _ _ _) (fun followers => ?_)
  refine within_bind (within_adapt (within_question _)) (fun _ => ?_)
  exact within_bind (within_adapt (within_ensure _ _)) (fun _ => within_pure _)

end Frames

section Beginning

/-- Every queued Begin is in the list `begun`, which holds nothing but originals. -/
structure Begins (originals : List (Nat × DeviceStatus)) (s t : Calibrator) : Prop where
  grows : ∃ new, t.log = s.log ++ new ∧
    ∀ id n, .attempt id (.calibrationSession n .begin) true ∈ new →
      ∃ original, (id, original) ∈ t.begun
  sound : s.Sound → t.Sound
  kept : ∀ entry ∈ s.begun, entry ∈ t.begun
  known : ∀ entry ∈ t.begun, entry ∈ s.begun ∨ entry ∈ originals

variable {originals : List (Nat × DeviceStatus)}

theorem Begins.refl (s : Calibrator) : Begins originals s s :=
  ⟨⟨[], (List.append_nil _).symm, fun _ _ h => by cases h⟩, id, fun _ h => h,
    fun _ h => Or.inl h⟩

theorem Begins.trans {s t u : Calibrator} (h : Begins originals s t)
    (h' : Begins originals t u) : Begins originals s u := by
  obtain ⟨new, hlog, hnew⟩ := h.grows
  obtain ⟨new', hlog', hnew'⟩ := h'.grows
  refine ⟨⟨new ++ new', by rw [hlog', hlog, List.append_assoc], ?_⟩,
    fun hs => h'.sound (h.sound hs), fun entry hentry => h'.kept entry (h.kept entry hentry), ?_⟩
  · intro id n hmem
    rcases List.mem_append.mp hmem with hmem | hmem
    · obtain ⟨original, horiginal⟩ := hnew id n hmem
      exact ⟨original, h'.kept _ horiginal⟩
    · exact hnew' id n hmem
  · intro entry hentry
    rcases h'.known entry hentry with hentry | hentry
    · exact h.known entry hentry
    · exact Or.inr hentry

instance : IsPreorder Calibrator (Begins originals) where
  refl := Begins.refl
  trans := fun _ _ _ => Begins.trans

/-- Measuring begins no session. -/
theorem Evolves.begins {s t : Calibrator} (h : Evolves Measures s t) : Begins originals s t := by
  obtain ⟨new, hlog, hnew⟩ := h.grows
  refine ⟨⟨new, hlog, ?_⟩, h.sound, ?_, ?_⟩
  · intro id n hmem
    exact absurd rfl (hnew id _ true hmem n)
  · rw [h.begun]
    exact fun _ hentry => hentry
  · rw [h.begun]
    exact fun _ hentry => Or.inl hentry

theorem within_begins {ε α : Type} {x : Throwing ε Calibrator α}
    (h : Within (Evolves Measures) x) : Within (Begins originals) x :=
  fun s => (h s).begins

theorem within_beginSession {id : Nat} {original : DeviceStatus}
    (horiginal : (id, original) ∈ originals) :
    Within (Begins originals) (beginSession id original) := by
  intro s
  have hrequests := requests_calibration id .begin
  have hevolves : Evolves (fun _ _ => True) s (calibrationRequest id .begin s).2 :=
    hrequests.within _ (fun _ => trivial) s
  obtain ⟨t, n, queued, ht, -, hattempt, hreturns⟩ := hrequests.attempts s
  obtain ⟨before, hbefore, hquiet⟩ := ht.grows
  rw [hbefore, List.append_assoc] at hattempt
  rw [beginSession, Throwing.bind_apply]
  rcases hresult : calibrationRequest id .begin s with ⟨outcome, u⟩
  rw [hresult] at hevolves hattempt hreturns
  cases outcome with
  | ok m =>
      refine ⟨⟨_, hattempt, ?_⟩, fun hs => ?_, ?_, ?_⟩
      · intro id' n' hmem
        rcases List.mem_append.mp hmem with hmem | hmem
        · exact (hquiet _ _ _ hmem).elim
        · cases List.mem_singleton.mp hmem
          exact ⟨original, List.mem_append_right _ (List.mem_singleton_self _)⟩
      · obtain ⟨hreplies, htones, hanswered, htoneAnswered, hnumbered⟩ := hevolves.sound hs
        exact ⟨hreplies, htones, hanswered, htoneAnswered, hnumbered⟩
      · intro entry hentry
        rw [← hevolves.begun] at hentry
        exact List.mem_append_left _ hentry
      · intro entry hentry
        rcases List.mem_append.mp hentry with hentry | hentry
        · rw [hevolves.begun] at hentry
          exact Or.inl hentry
        · rw [List.mem_singleton.mp hentry]
          exact Or.inr horiginal
  | error text =>
      refine ⟨⟨_, hattempt, ?_⟩, hevolves.sound, ?_, ?_⟩
      · intro id' n' hmem
        rcases List.mem_append.mp hmem with hmem | hmem
        · exact (hquiet _ _ _ hmem).elim
        · rcases hreturns with ⟨-, hn⟩ | ⟨hqueued, -⟩
          · cases hn
          · cases List.mem_singleton.mp hmem
            cases hqueued
      · rw [hevolves.begun]
        exact fun _ hentry => hentry
      · rw [hevolves.begun]
        exact fun _ hentry => Or.inl hentry

theorem within_beginSessions {l : List (Nat × DeviceStatus)} (hl : ∀ entry ∈ l, entry ∈ originals) :
    Within (Begins originals) (beginSessions l) := by
  induction l with
  | nil => exact within_pure _
  | cons entry l ih =>
      refine within_bind (within_beginSession (hl _ List.mem_cons_self)) (fun request => ?_)
      refine within_bind (within_begins (within_awaitReply _ request _)) (fun actual => ?_)
      refine within_bind (within_ensure _ _) (fun _ => ?_)
      exact ih (fun entry hentry => hl entry (List.mem_cons_of_mem _ hentry))

end Beginning

section LookingUp

/-- A query. -/
def Queries (_ : Nat) (message : ControlMessage) : Prop :=
  ∃ n, message = .queryDevice n

/-- The receiver answered a query with a status. -/
def Queried (log : List CalibrationEntry) (id : Nat) (status : DeviceStatus) : Prop :=
  ∃ n, .attempt id (.queryDevice n) true ∈ log ∧ .answered id n status ∈ log

theorem Queried.append {log : List CalibrationEntry} {id : Nat} {status : DeviceStatus}
    (h : Queried log id status) (new : List CalibrationEntry) : Queried (log ++ new) id status := by
  obtain ⟨n, hattempt, hanswered⟩ := h
  exact ⟨n, List.mem_append_left _ hattempt, List.mem_append_left _ hanswered⟩

theorem within_query (id : Nat) : Within (Evolves Queries) (exchange id none .ofRun) :=
  (waits_query id .ofRun).within Queries (fun n => ⟨n, rfl⟩)

theorem within_findOriginals (receivers : List ReceiverSnapshot) (devices : List DeviceRange) :
    Within (Evolves Queries) (findOriginals receivers devices) := by
  induction devices with
  | nil => exact within_pure _
  | cons expected devices ih =>
      rw [findOriginals]
      split
      · refine within_bind (within_query _) (fun status => ?_)
        refine within_bind (within_validateDevice status) (fun _ => ?_)
        refine within_bind (within_ensure _ _) (fun _ => ?_)
        exact within_bind ih (fun _ => within_pure _)
      · exact within_bail _

/-- The devices that `run` finds are those of the profile, as they answered. -/
theorem findOriginals_eq_ok {receivers : List ReceiverSnapshot} {devices : List DeviceRange}
    {s t : Calibrator} {originals : List (Nat × DeviceStatus)}
    (h : findOriginals receivers devices s = (.ok originals, t)) :
    originals.map (fun original => original.2.deviceId) = devices.map DeviceRange.id ∧
      ∀ original ∈ originals, Queried t.log original.1 original.2 := by
  induction devices generalizing s originals with
  | nil =>
      cases h
      exact ⟨rfl, fun _ h => by cases h⟩
  | cons expected devices ih =>
      rw [findOriginals] at h
      rcases hfound : receivers.filter (fun r => r.device.any (fun d => d.deviceId = expected.id))
        with _ | ⟨receiver, _ | ⟨second, more⟩⟩
      · rw [hfound] at h
        cases h
      · rw [hfound] at h
        obtain ⟨status, u, hexchange, hvalidates⟩ := Throwing.bind_eq_ok_iff.mp h
        obtain ⟨_, v, hvalidate, hensures⟩ := Throwing.bind_eq_ok_iff.mp hvalidates
        obtain ⟨_, w, hensure, hfinds⟩ := Throwing.bind_eq_ok_iff.mp hensures
        obtain ⟨hmatches, hw⟩ := ensure_eq_ok hensure
        rw [hw] at hfinds
        obtain ⟨rest, x, hrest, hreturns⟩ := Throwing.bind_eq_ok_iff.mp hfinds
        cases hreturns
        obtain ⟨hids, hqueried⟩ := ih hrest
        have hid : expected.id = status.deviceId := by
          simp only [DeviceRange.matchesDevice, Bool.and_eq_true, decide_eq_true_eq] at hmatches
          exact hmatches.1.1.1.1.1
        obtain ⟨before, n, queued, after, -, hlog, -, -, hreply⟩ :=
          (waits_query receiver.id .ofRun).attempts s
        rw [hexchange] at hlog hreply
        obtain ⟨rfl, hmem⟩ := hreply status rfl
        have hu : Queried u.log receiver.id status :=
          ⟨n, by rw [hlog]; simp, by rw [hlog]; simp [hmem]⟩
        have hlater : Evolves Queries u t := by
          have hv : Evolves Queries u (validateDevice status u).2 := within_validateDevice status u
          rw [hvalidate] at hv
          have hx : Evolves Queries v (findOriginals receivers devices v).2 :=
            within_findOriginals receivers devices v
          rw [hrest] at hx
          exact hv.trans hx
        obtain ⟨new, hnew, -⟩ := hlater.grows
        refine ⟨by rw [List.map_cons, List.map_cons, hids, hid], ?_⟩
        intro original horiginal
        rcases List.mem_cons.mp horiginal with rfl | horiginal
        · rw [hnew]
          exact hu.append new
        · exact hqueried original horiginal
      · rw [hfound] at h
        cases h

end LookingUp

section Restoring

/-- A message that stops a tone or cancels a session. -/
def Restores (message : ControlMessage) : Prop :=
  ∃ n, message = .calibrationTone n false ∨ message = .calibrationSession n .cancel

/-- The log has attempts to stop the tone of a receiver and to cancel its session. -/
def CancelledIn (log : List CalibrationEntry) (id : Nat) : Prop :=
  (∃ n queued, .attempt id (.calibrationTone n false) queued ∈ log) ∧
    ∃ n queued, .attempt id (.calibrationSession n .cancel) queued ∈ log

/-- The last tone message to a receiver stops the tone, and it was acknowledged. -/
def StoppedIn (log : List CalibrationEntry) (id : Nat) : Prop :=
  ∃ before n after, n ≠ 0 ∧
    log = before ++ .attempt id (.calibrationTone n false) true :: after ∧
    (∀ m enabled queued, .attempt id (.calibrationTone m enabled) queued ∉ after) ∧
    .toneAnswered id n false false ∈ after

/-- The last session message to a receiver cancels the session, and the reply confirms
the original volume. -/
def ConfirmedIn (log : List CalibrationEntry) (id : Nat) (original : DeviceStatus) : Prop :=
  ∃ before n after status, n ≠ 0 ∧
    log = before ++ .attempt id (.calibrationSession n .cancel) true :: after ∧
    (∀ m action queued, .attempt id (.calibrationSession m action) queued ∉ after) ∧
    .answered id n status ∈ after ∧ commitConfirmed status original original.volume = true

variable {log new : List CalibrationEntry} {id : Nat} {original : DeviceStatus}

theorem CancelledIn.append_left (h : CancelledIn log id) : CancelledIn (new ++ log) id := by
  obtain ⟨⟨n, queued, htone⟩, m, queued', hcancel⟩ := h
  exact ⟨⟨n, queued, List.mem_append_right _ htone⟩, m, queued', List.mem_append_right _ hcancel⟩

theorem CancelledIn.append_right (h : CancelledIn log id) : CancelledIn (log ++ new) id := by
  obtain ⟨⟨n, queued, htone⟩, m, queued', hcancel⟩ := h
  exact ⟨⟨n, queued, List.mem_append_left _ htone⟩, m, queued', List.mem_append_left _ hcancel⟩

theorem StoppedIn.append_left (h : StoppedIn log id) : StoppedIn (new ++ log) id := by
  obtain ⟨before, n, after, hn, rfl, hlast, hreply⟩ := h
  exact ⟨new ++ before, n, after, hn, by rw [List.append_assoc], hlast, hreply⟩

theorem ConfirmedIn.append_left (h : ConfirmedIn log id original) :
    ConfirmedIn (new ++ log) id original := by
  obtain ⟨before, n, after, status, hn, rfl, hlast, hreply, hconfirmed⟩ := h
  exact ⟨new ++ before, n, after, status, hn, by rw [List.append_assoc], hlast, hreply, hconfirmed⟩

theorem StoppedIn.append_right (h : StoppedIn log id)
    (hnew : ∀ message queued, .attempt id message queued ∉ new) : StoppedIn (log ++ new) id := by
  obtain ⟨before, n, after, hn, rfl, hlast, hreply⟩ := h
  refine ⟨before, n, after ++ new, hn, by rw [List.append_assoc, List.cons_append], ?_,
    List.mem_append_left _ hreply⟩
  intro m enabled queued hmem
  rcases List.mem_append.mp hmem with hmem | hmem
  · exact hlast m enabled queued hmem
  · exact hnew _ _ hmem

theorem ConfirmedIn.append_right (h : ConfirmedIn log id original)
    (hnew : ∀ message queued, .attempt id message queued ∉ new) :
    ConfirmedIn (log ++ new) id original := by
  obtain ⟨before, n, after, status, hn, rfl, hlast, hreply, hconfirmed⟩ := h
  refine ⟨before, n, after ++ new, status, hn, by rw [List.append_assoc, List.cons_append], ?_,
    List.mem_append_left _ hreply, hconfirmed⟩
  intro m action queued hmem
  rcases List.mem_append.mp hmem with hmem | hmem
  · exact hlast m action queued hmem
  · exact hnew _ _ hmem

/-- What the restoring of one receiver leaves behind. -/
theorem restoreDevice_spec (id : Nat) (status : DeviceStatus) (s : Calibrator) :
    ∃ new, (restoreDevice id status s).2.log = s.log ++ new ∧
      (∀ id' message queued, .attempt id' message queued ∈ new → id' = id ∧ Restores message) ∧
      CancelledIn new id ∧
      ((restoreDevice id status s).1 = .ok () → StoppedIn new id ∧ ConfirmedIn new id status) := by
  obtain ⟨before, n, queued, after, hn, hstop, hbefore, hafter, hstopped⟩ :=
    (waits_switchTone id false .fresh).attempts s
  obtain ⟨before', n', queued', after', hn', hcancel, hbefore', hafter', hcancelled⟩ :=
    (waits_exchangeSession id .cancel .fresh).attempts (switchTone id false .fresh s).2
  have hlog : (restoreDevice id status s).2.log =
      (exchangeSession id .cancel .fresh (switchTone id false .fresh s).2).2.log := by
    have hlast : (exchangeSession id .cancel .fresh (switchTone id false .fresh s).2).2 =
        (restoreDevice id status s).2 := by
      refine after_bind (R := Eq) (fun actual => ?_) (switchTone id false .fresh s).2
      exact within_bind (within_question _) (fun _ => within_ensure _ _)
    rw [hlast]
  rw [hcancel, hstop] at hlog
  refine ⟨before ++ .attempt id (.calibrationTone n false) queued :: after ++
    (before' ++ .attempt id (.calibrationSession n' .cancel) queued' :: after'), ?_, ?_, ?_, ?_⟩
  · rw [hlog]
    simp
  · intro id' message queued'' hmem
    simp only [List.mem_append, List.mem_cons, List.append_assoc, List.cons_append] at hmem
    rcases hmem with hmem | hmem | hmem | hmem | hmem | hmem
    · exact (hbefore _ _ _ hmem).elim
    · cases hmem
      exact ⟨rfl, n, Or.inl rfl⟩
    · exact (hafter _ _ _ hmem).elim
    · exact (hbefore' _ _ _ hmem).elim
    · cases hmem
      exact ⟨rfl, n', Or.inr rfl⟩
    · exact (hafter' _ _ _ hmem).elim
  · exact ⟨⟨n, queued, by simp⟩, n', queued', by simp⟩
  · intro hok
    have hreturns : restoreDevice id status s = (.ok (), (restoreDevice id status s).2) := by
      rw [← hok]
    obtain ⟨stopped, u, hresult, hcancels⟩ := Throwing.bind_eq_ok_iff.mp hreturns
    obtain ⟨actual, v, hexchange, hquestions⟩ := Throwing.bind_eq_ok_iff.mp hcancels
    obtain ⟨m, w, hquestion, hensure⟩ := Throwing.bind_eq_ok_iff.mp hquestions
    cases hresult
    obtain ⟨htone, -⟩ := question_eq_ok hquestion
    obtain ⟨hconfirmed, -⟩ := ensure_eq_ok hensure
    obtain ⟨rfl, hacknowledged⟩ := hstopped m htone
    rw [hexchange] at hcancelled
    obtain ⟨rfl, hanswered⟩ := hcancelled actual rfl
    constructor
    · refine ⟨before, n, after ++ (before' ++
        .attempt id (.calibrationSession n' .cancel) true :: after'), hn, by simp, ?_,
        List.mem_append_left _ hacknowledged⟩
      intro m' enabled queued hmem
      simp only [List.mem_append, List.mem_cons] at hmem
      rcases hmem with hmem | hmem | hmem | hmem
      · exact hafter _ _ _ hmem
      · exact hbefore' _ _ _ hmem
      · cases hmem
      · exact hafter' _ _ _ hmem
    · exact ⟨_, n', after', actual, hn', by rw [← List.append_assoc], fun m' action queued hmem =>
        hafter' _ _ _ hmem, hanswered, hconfirmed⟩

theorem restoreDevices_cons {id : Nat} {status : DeviceStatus} {l : List (Nat × DeviceStatus)}
    {s : Calibrator} {failures : List String}
    (h : (restoreDevices l (restoreDevice id status s).2).1 = .ok failures) :
    restoreDevices ((id, status) :: l) s =
      (.ok (failuresWith status (restoreDevice id status s).1 failures),
        (restoreDevices l (restoreDevice id status s).2).2) := by
  rw [restoreDevices, Throwing.bind_apply]
  show (restoreDevices l >>= _) (restoreDevice id status s).2 = _
  rw [Throwing.bind_apply]
  rcases hrest : restoreDevices l (restoreDevice id status s).2 with ⟨outcome, t⟩
  rw [hrest] at h
  cases h
  rfl

theorem failuresWith_ne_empty {status : DeviceStatus} {restored : Except String Unit}
    {failures : List String} (h : ∀ failure ∈ failures, failure ≠ "") :
    ∀ failure ∈ failuresWith status restored failures, failure ≠ "" := by
  cases restored with
  | ok _ => exact h
  | error text =>
      intro failure hmem
      rcases List.mem_cons.mp hmem with rfl | hmem
      · intro hempty
        have hlength := congrArg String.length hempty
        simp at hlength
      · exact h failure hmem

/-- What the restoring of all receivers leaves behind. -/
theorem restoreDevices_spec (l : List (Nat × DeviceStatus)) (s : Calibrator) :
    ∃ new failures, (restoreDevices l s).1 = .ok failures ∧
      (restoreDevices l s).2.log = s.log ++ new ∧
      (∀ id message queued, .attempt id message queued ∈ new →
        id ∈ l.map Prod.fst ∧ Restores message) ∧
      (∀ id ∈ l.map Prod.fst, CancelledIn new id) ∧
      (∀ failure ∈ failures, failure ≠ "") ∧
      (failures = [] → ∀ id ∈ l.map Prod.fst, ∃ original, (id, original) ∈ l ∧
        StoppedIn new id ∧ ConfirmedIn new id original) := by
  induction l generalizing s with
  | nil =>
      exact ⟨[], [], rfl, (List.append_nil _).symm, by simp, by simp, by simp, by simp⟩
  | cons entry l ih =>
      obtain ⟨id, status⟩ := entry
      obtain ⟨new, hlog, honly, hcancelled, hconfirmed⟩ := restoreDevice_spec id status s
      obtain ⟨new', failures, hok, hlog', honly', hcancelled', hfailures, hconfirmed'⟩ :=
        ih (restoreDevice id status s).2
      rw [restoreDevices_cons hok]
      refine ⟨new ++ new', _, rfl, by rw [hlog', hlog, List.append_assoc], ?_, ?_,
        failuresWith_ne_empty hfailures, ?_⟩
      · intro id' message queued hmem
        rcases List.mem_append.mp hmem with hmem | hmem
        · obtain ⟨rfl, hmessage⟩ := honly id' message queued hmem
          exact ⟨List.mem_cons_self, hmessage⟩
        · obtain ⟨hid, hmessage⟩ := honly' id' message queued hmem
          exact ⟨List.mem_cons_of_mem _ hid, hmessage⟩
      · intro id' hid
        rcases List.mem_cons.mp hid with rfl | hid
        · exact hcancelled.append_right
        · exact (hcancelled' id' hid).append_left
      · intro hnone id' hid
        cases hrestored : (restoreDevice id status s).1 with
        | error text =>
            rw [hrestored] at hnone
            cases hnone
        | ok _ =>
            rw [hrestored] at hnone hconfirmed
            -- The last entry of a receiver in the list is the one whose replies count.
            by_cases hlater : id' ∈ l.map Prod.fst
            · obtain ⟨original, horiginal, hstopped, hcommitted⟩ := hconfirmed' hnone id' hlater
              exact ⟨original, List.mem_cons_of_mem _ horiginal, hstopped.append_left,
                hcommitted.append_left⟩
            · rcases List.mem_cons.mp hid with rfl | hid
              · have hnothing : ∀ message queued, .attempt id' message queued ∉ new' :=
                  fun message queued hmem => hlater (honly' id' message queued hmem).1
                obtain ⟨hstopped, hcommitted⟩ := hconfirmed rfl
                exact ⟨status, List.mem_cons_self, hstopped.append_right hnothing,
                  hcommitted.append_right hnothing⟩
              · exact (hlater hid).elim

theorem within_restore (l : List (Nat × DeviceStatus)) :
    Within (Evolves (fun _ message => Restores message)) (restore l) := by
  refine within_bind (within_broadcast rfl (fun _ => ⟨0, Or.inl rfl⟩)) (fun _ => ?_)
  refine within_bind ?_ (fun _ => within_pure _)
  induction l with
  | nil => exact within_pure _
  | cons entry l ih =>
      refine within_bind (within_result ?_) (fun _ => within_bind ih (fun _ => within_pure _))
      refine within_bind (within_result ?_) (fun stopped => ?_)
      · exact (waits_switchTone _ false .fresh).within _ (fun n => ⟨n, Or.inl rfl⟩)
      refine within_bind ?_ (fun actual => ?_)
      · exact (waits_exchangeSession _ .cancel .fresh).within _ (fun n => ⟨n, Or.inr rfl⟩)
      exact within_bind (within_question _) (fun _ => within_ensure _ _)

/-- Joined texts are empty only if there are none. -/
theorem intercalate_eq_empty {l : List String} (h : ∀ text ∈ l, text ≠ "")
    (hjoined : String.intercalate "; " l = "") : l = [] := by
  cases l with
  | nil => rfl
  | cons first rest =>
      have hfirst := h first List.mem_cons_self
      cases rest with
      | nil =>
          rw [String.intercalate_singleton] at hjoined
          exact absurd hjoined hfirst
      | cons second rest =>
          rw [String.intercalate_cons_cons] at hjoined
          have hlength := congrArg String.length hjoined
          simp at hlength

/-- What `restore` leaves behind. -/
theorem restore_spec (l : List (Nat × DeviceStatus)) (s : Calibrator) :
    ∃ new text, (restore l s).1 = .ok text ∧ (restore l s).2.log = s.log ++ new ∧
      (∀ id ∈ l.map Prod.fst, CancelledIn new id) ∧
      (text = "" → ∀ id ∈ l.map Prod.fst, ∃ original, (id, original) ∈ l ∧
        StoppedIn new id ∧ ConfirmedIn new id original) := by
  have hbroadcast : ∃ u, broadcast (.calibrationTone 0 false) s = (.ok (), u) := by
    rw [broadcast, Throwing.bind_apply, turn]
    cases s.script with
    | nil => exact ⟨_, rfl⟩
    | cons t rest => exact ⟨_, rfl⟩
  obtain ⟨u, hu⟩ := hbroadcast
  have hsilenced : Evolves (fun _ message => Restores message) s
      (broadcast (.calibrationTone 0 false) s).2 :=
    within_broadcast rfl (fun _ => ⟨0, Or.inl rfl⟩) s
  rw [hu] at hsilenced
  obtain ⟨silenced, hlog, -⟩ := hsilenced.grows
  obtain ⟨new, failures, hok, hlog', -, hcancelled, hfailures, hconfirmed⟩ :=
    restoreDevices_spec l u
  have hrestore : restore l s =
      (.ok (String.intercalate "; " failures), (restoreDevices l u).2) := by
    rw [restore, Throwing.bind_apply, hu]
    show (restoreDevices l >>= _) u = _
    rw [Throwing.bind_apply]
    rcases hdevices : restoreDevices l u with ⟨outcome, v⟩
    rw [hdevices] at hok
    cases hok
    rfl
  rw [hrestore]
  refine ⟨silenced ++ new, _, rfl, by rw [hlog', hlog, List.append_assoc], ?_, ?_⟩
  · intro id hid
    exact (hcancelled id hid).append_left
  · intro hempty id hid
    obtain ⟨original, horiginal, hstopped, hcommitted⟩ :=
      hconfirmed (intercalate_eq_empty hfailures hempty) id hid
    exact ⟨original, horiginal, hstopped.append_left, hcommitted.append_left⟩

theorem within_submit {R : Calibrator → Calibrator → Prop} [IsPreorder Calibrator R]
    (outcome : Except String Profile) (restored : String) : Within R (submit outcome restored) :=
  within_ite (within_bail _) (within_question _)

/-- A profile is returned only if nothing failed. -/
theorem submit_eq_ok {outcome : Except String Profile} {restored : String} {s t : Calibrator}
    {profile : Profile} (h : submit outcome restored s = (.ok profile, t)) :
    restored = "" ∧ outcome = .ok profile := by
  by_cases hempty : restored = ""
  · have hsubmit : submit outcome restored = question outcome := if_neg (not_not_intro hempty)
    rw [hsubmit] at h
    exact ⟨hempty, (question_eq_ok h).1⟩
  · have hsubmit : submit outcome restored = bail _ := if_pos hempty
    rw [hsubmit] at h
    cases h

theorem within_cleanUp (outcome : Except String Profile) :
    Within (Evolves (fun _ message => Restores message)) (cleanUp outcome) := by
  refine within_bind (within_say _) (fun _ => ?_)
  refine within_bind (within_gets _) (fun begun => ?_)
  refine within_bind (within_restore begun) (fun restored => ?_)
  exact within_submit outcome restored

/-- What the end of `run` leaves behind. -/
theorem cleanUp_spec (outcome : Except String Profile) (s : Calibrator) :
    ∃ new, (cleanUp outcome s).2.log = s.log ++ new ∧
      (∀ id ∈ s.begun.map Prod.fst, CancelledIn new id) ∧
      ∀ profile, (cleanUp outcome s).1 = .ok profile → outcome = .ok profile ∧
        ∀ id ∈ s.begun.map Prod.fst, ∃ original, (id, original) ∈ s.begun ∧
          StoppedIn new id ∧ ConfirmedIn new id original := by
  let announced : Calibrator := { s with message := "正在停止测试并恢复校准前音量…" }
  obtain ⟨new, text, hok, hlog, hcancelled, hconfirmed⟩ := restore_spec s.begun announced
  have hstate : (restore s.begun announced).2 = (cleanUp outcome s).2 :=
    after_bind (R := Eq) (within_submit outcome) announced
  refine ⟨new, by rw [← hstate]; exact hlog, hcancelled, ?_⟩
  intro profile hprofile
  have hreturns : (restore s.begun >>= submit outcome) announced =
      (.ok profile, (cleanUp outcome s).2) := by
    rw [← hprofile]
    rfl
  obtain ⟨restored, u, hrestored, hends⟩ := Throwing.bind_eq_ok_iff.mp hreturns
  obtain ⟨hempty, houtcome⟩ := submit_eq_ok hends
  rw [hrestored] at hok
  cases hok
  exact ⟨houtcome, hconfirmed hempty⟩

end Restoring

section Panics

variable {α β : Type}

/-- The computation does not panic. -/
def NoPanic (x : Panicking α) : Prop :=
  ∀ s, (x s).1 ≠ .error .panic

theorem noPanic_pure (a : α) : NoPanic (pure a) :=
  fun _ h => by cases h

theorem noPanic_adapt (x : Calibrating α) : NoPanic (x.adapt .error) := by
  intro s h
  have hmapped : Except.mapError Stop.error (x s).1 = .error .panic := h
  cases houtcome : (x s).1 with
  | ok a =>
      rw [houtcome] at hmapped
      cases hmapped
  | error text =>
      rw [houtcome] at hmapped
      cases hmapped

theorem noPanic_bind {x : Panicking α} {f : α → Panicking β} (hx : NoPanic x)
    (hf : ∀ a, NoPanic (f a)) : NoPanic (x >>= f) := by
  intro s
  have hfirst := hx s
  rw [Throwing.bind_apply]
  rcases hresult : x s with ⟨outcome, t⟩
  rw [hresult] at hfirst
  cases outcome with
  | ok a => exact hf a t
  | error stop =>
      intro h
      cases h
      exact hfirst rfl

/-- The closure of `run` leaves a result, if it does not panic. -/
theorem outcomeOf_of_noPanic {x : Panicking α} (hx : NoPanic x) (s : Calibrator) :
    ∃ outcome, outcomeOf x s = (.ok outcome, (x s).2) ∧
      ∀ a, outcome = .ok a → x s = (.ok a, (x s).2) := by
  have hsafe := hx s
  rw [outcomeOf]
  rcases hresult : x s with ⟨result, t⟩
  rw [hresult] at hsafe
  cases result with
  | ok a =>
      refine ⟨.ok a, rfl, ?_⟩
      intro b hb
      cases hb
      rfl
  | error stop =>
      cases stop with
      | error text =>
          refine ⟨.error text, rfl, ?_⟩
          intro b hb
          cases hb
      | panic => exact absurd rfl hsafe

/-- The `unwrap` in the loop over the followers finds what it looks for. -/
theorem noPanic_mapFollowers {reference : Nat} {master : DeviceRange} {ambient : Float}
    {originals : List (Nat × DeviceStatus)} {curves : List (String × LevelPoints)}
    {targets : LevelPoints} {followers : List Follower}
    (h : ∀ follower ∈ followers, ∃ original ∈ originals,
      original.2.deviceId = follower.device.id) :
    NoPanic (mapFollowers reference master ambient originals curves targets followers) := by
  induction followers with
  | nil => exact noPanic_pure _
  | cons follower followers ih =>
      obtain ⟨original, horiginal, hid⟩ := h follower List.mem_cons_self
      have hfound : ∃ found, originals.find? (fun original =>
          original.2.deviceId = follower.device.id) = some found := by
        rw [← Option.isSome_iff_exists, List.find?_isSome]
        exact ⟨original, horiginal, by simpa using hid⟩
      obtain ⟨found, hfound⟩ := hfound
      refine noPanic_bind (noPanic_adapt _) (fun curve => ?_)
      rw [hfound]
      refine noPanic_bind (noPanic_pure found) (fun original => ?_)
      refine noPanic_bind (noPanic_adapt _) (fun mapping => ?_)
      refine noPanic_bind (ih ?_) (fun _ => noPanic_pure _)
      exact fun follower hfollower => h follower (List.mem_cons_of_mem _ hfollower)

theorem noPanic_calibrate {profile : Profile} {reference : Nat}
    {originals : List (Nat × DeviceStatus)}
    (h : originals.map (fun original => original.2.deviceId) =
      profile.devices.map DeviceRange.id) :
    NoPanic (calibrate profile reference originals) := by
  have hfollowers : ∀ follower ∈ profile.followers, ∃ original ∈ originals,
      original.2.deviceId = follower.device.id := by
    intro follower hfollower
    have hdevice : follower.device.id ∈ profile.devices.map DeviceRange.id :=
      List.mem_map_of_mem (List.mem_cons_of_mem _ (List.mem_map_of_mem hfollower))
    rw [← h] at hdevice
    exact List.mem_map.mp hdevice
  refine noPanic_bind (noPanic_adapt _) (fun _ => ?_)
  refine noPanic_bind (noPanic_adapt _) (fun _ => ?_)
  refine noPanic_bind (noPanic_adapt _) (fun _ => ?_)
  refine noPanic_bind (noPanic_adapt _) (fun ambient => ?_)
  refine noPanic_bind (noPanic_adapt _) (fun _ => ?_)
  refine noPanic_bind (noPanic_adapt _) (fun curves => ?_)
  refine noPanic_bind (noPanic_adapt _) (fun targets => ?_)
  refine noPanic_bind (noPanic_adapt _) (fun _ => ?_)
  refine noPanic_bind (noPanic_mapFollowers hfollowers) (fun followers => ?_)
  refine noPanic_bind (noPanic_adapt _) (fun _ => ?_)
  exact noPanic_bind (noPanic_adapt _) (fun _ => noPanic_pure _)

end Panics

section Returned

/-- Mapping the followers leaves their devices as they are. -/
theorem mapFollowers_eq_ok {reference : Nat} {master : DeviceRange} {ambient : Float}
    {originals : List (Nat × DeviceStatus)} {curves : List (String × LevelPoints)}
    {targets : LevelPoints} {followers mapped : List Follower} {s t : Calibrator}
    (h : mapFollowers reference master ambient originals curves targets followers s =
      (.ok mapped, t)) :
    mapped.map Follower.device = followers.map Follower.device := by
  induction followers generalizing s mapped with
  | nil =>
      cases h
      rfl
  | cons follower followers ih =>
      obtain ⟨curve, _, -, hunwraps⟩ := Throwing.bind_eq_ok_iff.mp h
      obtain ⟨original, _, -, hmaps⟩ := Throwing.bind_eq_ok_iff.mp hunwraps
      obtain ⟨mapping, _, -, hrests⟩ := Throwing.bind_eq_ok_iff.mp hmaps
      obtain ⟨rest, _, hrest, hreturns⟩ := Throwing.bind_eq_ok_iff.mp hrests
      cases hreturns
      rw [List.map_cons, List.map_cons, ih hrest]

/-- The calibrated profile is valid and has the devices of the profile. -/
theorem calibrate_eq_ok {profile calibrated : Profile} {reference : Nat}
    {originals : List (Nat × DeviceStatus)} {s t : Calibrator}
    (h : calibrate profile reference originals s = (.ok calibrated, t)) :
    calibrated.validate = .ok () ∧ calibrated.master = profile.master ∧
      calibrated.followers.map Follower.device = profile.followers.map Follower.device := by
  obtain ⟨_, _, -, h₁⟩ := Throwing.bind_eq_ok_iff.mp h
  obtain ⟨_, _, -, h₂⟩ := Throwing.bind_eq_ok_iff.mp h₁
  obtain ⟨_, _, -, h₃⟩ := Throwing.bind_eq_ok_iff.mp h₂
  obtain ⟨ambient, _, -, h₄⟩ := Throwing.bind_eq_ok_iff.mp h₃
  obtain ⟨_, _, -, h₅⟩ := Throwing.bind_eq_ok_iff.mp h₄
  obtain ⟨curves, _, -, h₆⟩ := Throwing.bind_eq_ok_iff.mp h₅
  obtain ⟨targets, _, -, h₇⟩ := Throwing.bind_eq_ok_iff.mp h₆
  obtain ⟨_, _, -, h₈⟩ := Throwing.bind_eq_ok_iff.mp h₇
  obtain ⟨followers, _, hfollowers, h₉⟩ := Throwing.bind_eq_ok_iff.mp h₈
  obtain ⟨_, _, hvalid, hmapped⟩ := Throwing.bind_eq_ok_iff.mp h₉
  obtain ⟨_, _, -, hreturns⟩ := Throwing.bind_eq_ok_iff.mp hmapped
  cases hreturns
  exact ⟨(question_eq_ok (Throwing.adapt_eq_ok_iff.mp hvalid)).1, rfl,
    mapFollowers_eq_ok hfollowers⟩

end Returned

section Runs

/-- A Begin was queued to a receiver. -/
def Begun (log : List CalibrationEntry) (id : Nat) : Prop :=
  ∃ n, .attempt id (.calibrationSession n .begin) true ∈ log

/-- An attempt to set the volume of a receiver, or to start its tone. -/
def Disturbs (id : Nat) : CalibrationEntry → Prop
  | .attempt id' (.setVolume _ _ _) _ => id' = id
  | .attempt id' (.calibrationTone _ true) _ => id' = id
  | _ => False

/-- After the last such attempt, there are attempts to stop the tone and to cancel the
session. -/
def CleanedUp (log : List CalibrationEntry) (id : Nat) : Prop :=
  ∃ before after, log = before ++ after ∧ (∀ entry ∈ after, ¬ Disturbs id entry) ∧
    CancelledIn after id

/-- The phones name no request whose id was not drawn yet. -/
def Timely (log : List CalibrationEntry) : Prop :=
  ∀ before entry after n, log = before ++ entry :: after → entry.names = some n → n ≠ 0 →
    n ∈ drawnIds before

/-- The last tone message to a receiver stops the tone.  Its id was drawn for nothing
else, and the receiver answered that the tone is not playing. -/
def ToneStopped (log : List CalibrationEntry) (id : Nat) : Prop :=
  ∃ before n after, log = before ++ .attempt id (.calibrationTone n false) true :: after ∧
    (∀ m enabled queued, .attempt id (.calibrationTone m enabled) queued ∉ after) ∧
    n ∉ drawnIds (before ++ after) ∧
    .toneAnswered id n false false ∈ after ∧ .toneArrived id n false false ∈ log ∧
    (Timely log → .toneArrived id n false false ∈ after)

/-- The last session message to a receiver cancels the session.  Its id was drawn for
nothing else, and the receiver answered that it is as it was. -/
def VolumeConfirmed (log : List CalibrationEntry) (id : Nat) (original : DeviceStatus) : Prop :=
  ∃ before n after status,
    log = before ++ .attempt id (.calibrationSession n .cancel) true :: after ∧
    (∀ m action queued, .attempt id (.calibrationSession m action) queued ∉ after) ∧
    n ∉ drawnIds (before ++ after) ∧
    .answered id n status ∈ after ∧ Arrived log id n status ∧
    (Timely log → Arrived after id n status) ∧
    commitConfirmed status original original.volume = true

/-- The receiver answered a query with a status before the thread sent anything but
queries. -/
def QueriedFirst (log : List CalibrationEntry) (id : Nat) (original : DeviceStatus) : Prop :=
  ∃ before after, log = before ++ after ∧ Queried before id original ∧
    ∀ id' message queued, .attempt id' message queued ∈ before → ∃ n, message = .queryDevice n

/-- Before the counter wraps, no id is drawn twice. -/
theorem Sound.drawnIds_nodup {s : Calibrator} (hs : s.Sound)
    (hissued : s.registry.issued ≤ 2 ^ 32) : (drawnIds s.log).Nodup := by
  obtain ⟨k, hk, hids⟩ := hs.numbered
  have hsmall : (List.range k).map (fun n => max ((n + 1) % 2 ^ 32) 1) =
      (List.range k).map (fun n => n + 1) := by
    refine List.map_congr_left (fun n hn => ?_)
    have hn' := List.mem_range.mp hn
    rw [Nat.mod_eq_of_lt (by omega)]
    omega
  rw [hids, hsmall]
  exact List.nodup_range.map (fun a b h => by simpa using h)

/-- An attempt is the only entry that draws its id. -/
theorem not_mem_drawnIds {before after : List CalibrationEntry} {id n : Nat}
    {message : ControlMessage} (hmessage : message.drawnId = some n)
    (h : (drawnIds (before ++ .attempt id message true :: after)).Nodup) :
    n ∉ drawnIds (before ++ after) := by
  have hdrawn : drawnIds (before ++ .attempt id message true :: after) =
      drawnIds before ++ n :: drawnIds after := by
    rw [drawnIds_append]
    simp [drawnIds, CalibrationEntry.drawnId, hmessage]
  rw [hdrawn, List.nodup_middle, List.nodup_cons] at h
  rw [drawnIds_append]
  exact h.1

/-- What names a request and is timely comes after it. -/
theorem Timely.mem_after {before after : List CalibrationEntry} {id n : Nat}
    {message : ControlMessage} {entry : CalibrationEntry}
    (h : Timely (before ++ .attempt id message true :: after)) (hn : n ≠ 0)
    (hfresh : n ∉ drawnIds (before ++ after))
    (hentry : entry ∈ before ++ .attempt id message true :: after)
    (hnames : entry.names = some n) : entry ∈ after := by
  rcases List.mem_append.mp hentry with hmem | hmem
  · obtain ⟨first, last, rfl⟩ := List.append_of_mem hmem
    have hdrawn := h first entry (last ++ .attempt id message true :: after) n (by simp) hnames hn
    refine absurd ?_ hfresh
    rw [drawnIds_append, drawnIds_append]
    exact List.mem_append_left _ (List.mem_append_left _ hdrawn)
  · rcases List.mem_cons.mp hmem with rfl | hmem
    · cases hnames
    · exact hmem

theorem StoppedIn.toneStopped {s : Calibrator} (hs : s.Sound)
    (hissued : s.registry.issued ≤ 2 ^ 32) {id : Nat} (h : StoppedIn s.log id) :
    ToneStopped s.log id := by
  obtain ⟨before, n, after, hn, hlog, hlast, hanswered⟩ := h
  have hnodup := hs.drawnIds_nodup hissued
  have harrived : .toneArrived id n false false ∈ s.log := by
    refine hs.toneAnswered ?_
    rw [hlog]
    exact List.mem_append_right _ (List.mem_cons_of_mem _ hanswered)
  rw [hlog] at hnodup
  have hmessage : (ControlMessage.calibrationTone n false).drawnId = some n := if_neg hn
  have hfresh := not_mem_drawnIds hmessage hnodup
  refine ⟨before, n, after, hlog, hlast, hfresh, hanswered, harrived, ?_⟩
  intro htimely
  rw [hlog] at htimely harrived
  exact htimely.mem_after hn hfresh harrived rfl

theorem ConfirmedIn.volumeConfirmed {s : Calibrator} (hs : s.Sound)
    (hissued : s.registry.issued ≤ 2 ^ 32) {id : Nat} {original : DeviceStatus}
    (h : ConfirmedIn s.log id original) : VolumeConfirmed s.log id original := by
  obtain ⟨before, n, after, status, hn, hlog, hlast, hanswered, hconfirmed⟩ := h
  have hnodup := hs.drawnIds_nodup hissued
  have harrived : Arrived s.log id n status := by
    refine hs.answered ?_
    rw [hlog]
    exact List.mem_append_right _ (List.mem_cons_of_mem _ hanswered)
  rw [hlog] at hnodup
  have hmessage : (ControlMessage.calibrationSession n .cancel).drawnId = some n := if_neg hn
  have hfresh := not_mem_drawnIds hmessage hnodup
  refine ⟨before, n, after, status, hlog, hlast, hfresh, hanswered, harrived, ?_, hconfirmed⟩
  intro htimely
  obtain ⟨raw, hraw, hnames, hstatus⟩ := harrived
  rw [hlog] at htimely hraw
  refine ⟨raw, ?_, hnames, hstatus⟩
  exact htimely.mem_after hn hfresh hraw (congrArg some hnames)

theorem within_lookUp (profile : Profile) (reference : Nat) :
    Within (Evolves Queries) (lookUp profile reference) := by
  refine within_bind (within_question _) (fun _ => ?_)
  refine within_bind within_snapshots (fun receivers => ?_)
  refine within_bind (within_findOriginals receivers _) (fun originals => ?_)
  exact within_bind (within_ensure _ _) (fun _ => within_pure _)

theorem lookUp_eq_ok {profile : Profile} {reference : Nat} {s t : Calibrator}
    {originals : List (Nat × DeviceStatus)} (h : lookUp profile reference s = (.ok originals, t)) :
    originals.map (fun original => original.2.deviceId) = profile.devices.map DeviceRange.id ∧
      ∀ original ∈ originals, Queried t.log original.1 original.2 := by
  obtain ⟨_, _, -, hsnapshots⟩ := Throwing.bind_eq_ok_iff.mp h
  obtain ⟨receivers, _, -, hfinds⟩ := Throwing.bind_eq_ok_iff.mp hsnapshots
  obtain ⟨found, u, hfind, hensures⟩ := Throwing.bind_eq_ok_iff.mp hfinds
  obtain ⟨_, v, hensure, hreturns⟩ := Throwing.bind_eq_ok_iff.mp hensures
  obtain ⟨-, rfl⟩ := ensure_eq_ok hensure
  cases hreturns
  exact findOriginals_eq_ok hfind

theorem within_measureAll (profile : Profile) (reference : Nat)
    (originals : List (Nat × DeviceStatus)) :
    Within (Begins originals) (measureAll profile reference originals) :=
  within_bind (within_adapt (within_beginSessions (fun _ h => h)))
    (fun _ => within_begins (within_calibrate profile reference originals))

/-- What `run` does: it stops early without a Begin, or it measures and cleans up. -/
theorem run_cases (profile : Profile) (reference : Nat) (s : Calibrator) :
    (∃ text, (run profile reference s).1 = .error (.error text) ∧
        Evolves Queries s (run profile reference s).2) ∨
      ∃ originals t u outcome, Evolves Queries s t ∧
        (∀ original ∈ originals, Queried t.log original.1 original.2) ∧
        Begins originals { t with begun := [] } u ∧
        (∀ calibrated, outcome = .ok calibrated → calibrated.validate = .ok () ∧
          calibrated.master = profile.master ∧
          calibrated.followers.map Follower.device = profile.followers.map Follower.device) ∧
        run profile reference s = (cleanUp outcome).adapt .error u := by
  have hlook := within_lookUp profile reference s
  rcases hfound : lookUp profile reference s with ⟨found, t⟩
  rw [hfound] at hlook
  cases found with
  | error text =>
      have hrun : run profile reference s = (.error (.error text), t) :=
        Throwing.bind_of_error (Throwing.adapt_of_error hfound) _
      rw [hrun]
      exact Or.inl ⟨text, rfl, hlook⟩
  | ok originals =>
      obtain ⟨hids, hqueried⟩ := lookUp_eq_ok hfound
      have hmeasured := within_measureAll profile reference originals { t with begun := [] }
      have hsafe : NoPanic (measureAll profile reference originals) :=
        noPanic_bind (noPanic_adapt _) (fun _ => noPanic_calibrate hids)
      obtain ⟨outcome, houtcome, hreturned⟩ := outcomeOf_of_noPanic hsafe { t with begun := [] }
      have hvalid : ∀ calibrated, outcome = .ok calibrated → calibrated.validate = .ok () ∧
          calibrated.master = profile.master ∧
          calibrated.followers.map Follower.device = profile.followers.map Follower.device := by
        intro calibrated hcalibrated
        obtain ⟨_, _, -, hcalibrates⟩ :=
          Throwing.bind_eq_ok_iff.mp (hreturned calibrated hcalibrated)
        exact calibrate_eq_ok hcalibrates
      refine Or.inr ⟨originals, t, _, outcome, hlook, hqueried, hmeasured, hvalid, ?_⟩
      have hrun : run profile reference s =
          (outcomeOf (measureAll profile reference originals) >>= fun outcome =>
            (cleanUp outcome).adapt .error) { t with begun := [] } :=
        Throwing.bind_of_ok (Throwing.adapt_eq_ok_iff.mpr hfound) _
      rw [hrun]
      exact Throwing.bind_of_ok houtcome _

theorem sound_begun {s : Calibrator} (hs : s.Sound) {begun : List (Nat × DeviceStatus)} :
    Sound { s with begun := begun } :=
  ⟨hs.replies, hs.tones, hs.answered, hs.toneAnswered, hs.numbered⟩

/-- Attempts to restore do not disturb. -/
theorem not_disturbs {new : List CalibrationEntry} {id : Nat}
    (h : ∀ id message queued, .attempt id message queued ∈ new → Restores message) :
    ∀ entry ∈ new, ¬ Disturbs id entry := by
  intro entry hentry hdisturbs
  cases entry with
  | attempt id' message queued =>
      obtain ⟨n, rfl | rfl⟩ := h id' message queued hentry
      · exact hdisturbs
      · exact hdisturbs
  | _ => exact hdisturbs

theorem not_begun_of_queries {s : Calibrator} (hs : s.log = []) {t : Calibrator}
    (h : Evolves Queries s t) (id : Nat) : ¬ Begun t.log id := by
  obtain ⟨new, hlog, hqueries⟩ := h.grows
  rintro ⟨n, hmem⟩
  rw [hlog, hs] at hmem
  obtain ⟨m, hm⟩ := hqueries _ _ _ hmem
  cases hm

/-- Before and after the measurements no session begins, so the list `begun` has every
receiver with a Begin. -/
theorem begun_listed {originals : List (Nat × DeviceStatus)} {t u : Calibrator}
    {new : List CalibrationEntry} (hbefore : ∀ id, ¬ Begun t.log id)
    (hbegins : Begins originals { t with begun := [] } u)
    (hafter : ∀ id message queued, .attempt id message queued ∈ new → Restores message) (id : Nat)
    (h : Begun (u.log ++ new) id) : id ∈ u.begun.map Prod.fst := by
  obtain ⟨measured, hmeasured, hbegun⟩ := hbegins.grows
  obtain ⟨n, hmem⟩ := h
  rw [hmeasured] at hmem
  rcases List.mem_append.mp hmem with hmem | hmem
  · rcases List.mem_append.mp hmem with hmem | hmem
    · exact absurd ⟨n, hmem⟩ (hbefore id)
    · obtain ⟨original, horiginal⟩ := hbegun id n hmem
      exact List.mem_map_of_mem horiginal
  · obtain ⟨m, hm | hm⟩ := hafter _ _ _ hmem
    · cases hm
    · cases hm

/-- **Calibrations clean up.**  For every behaviour of the phones, the queues, the
microphone and the token, with no id drawn twice: the run does not panic; every receiver
to which it queued a Begin gets an attempt to stop its tone and one to cancel its session,
after every attempt to set its volume or to start its tone; and if it returns a profile,
then the profile is valid with the requested devices, and every such receiver has
acknowledged the last stop and confirmed the status it had before with the answer to the
last cancel. -/
theorem calibration_cleans_up (script : List Turn) (profile : Profile) (reference : Nat)
    (hissued : (run profile reference (start script)).2.registry.issued ≤ 2 ^ 32) :
    (run profile reference (start script)).1 ≠ .error .panic ∧
      (∀ id, Begun (run profile reference (start script)).2.log id →
        CleanedUp (run profile reference (start script)).2.log id) ∧
      ∀ calibrated, (run profile reference (start script)).1 = .ok calibrated →
        calibrated.validate = .ok () ∧ calibrated.master = profile.master ∧
        calibrated.followers.map Follower.device = profile.followers.map Follower.device ∧
        ∀ id, Begun (run profile reference (start script)).2.log id →
          ∃ original, QueriedFirst (run profile reference (start script)).2.log id original ∧
            ToneStopped (run profile reference (start script)).2.log id ∧
            VolumeConfirmed (run profile reference (start script)).2.log id original := by
  rcases run_cases profile reference (start script) with
    ⟨text, herror, hlook⟩ | ⟨originals, t, u, outcome, hlook, hqueried, hbegins, hvalid, hrun⟩
  · rw [herror]
    refine ⟨(fun h => by cases h), ?_, (fun calibrated h => by cases h)⟩
    intro id hbegun
    exact absurd hbegun (not_begun_of_queries rfl hlook id)
  · rw [hrun] at hissued ⊢
    have hcleaned := within_cleanUp outcome u
    obtain ⟨new, hlog, hcancelled, hconfirmed⟩ := cleanUp_spec outcome u
    obtain ⟨queried, hqueries, honly⟩ := hlook.grows
    obtain ⟨measured, hmeasured, -⟩ := hbegins.grows
    have hrestores : ∀ id message queued, .attempt id message queued ∈ new → Restores message := by
      obtain ⟨new', hlog', hrestores⟩ := hcleaned.grows
      rw [List.append_cancel_left (hlog.symm.trans hlog')]
      exact hrestores
    have hlisted : ∀ id, Begun (cleanUp outcome u).2.log id → id ∈ u.begun.map Prod.fst := by
      rw [hlog]
      exact begun_listed (not_begun_of_queries rfl hlook) hbegins hrestores
    refine ⟨noPanic_adapt _ u, ?_, ?_⟩
    · intro id hid
      exact ⟨u.log, new, hlog, not_disturbs hrestores, hcancelled id (hlisted id hid)⟩
    · intro calibrated hcalibrated
      have hreturns : (cleanUp outcome).adapt Stop.error u =
          (.ok calibrated, (cleanUp outcome u).2) := by
        rw [← hcalibrated]
        rfl
      obtain ⟨houtcome, hrestored⟩ :=
        hconfirmed calibrated (congrArg Prod.fst (Throwing.adapt_eq_ok_iff.mp hreturns))
      obtain ⟨hvalidates, hmaster, hfollowers⟩ := hvalid calibrated houtcome
      refine ⟨hvalidates, hmaster, hfollowers, ?_⟩
      intro id hid
      obtain ⟨original, horiginal, hstopped, hcommitted⟩ := hrestored id (hlisted id hid)
      have hsound : (cleanUp outcome u).2.Sound :=
        hcleaned.sound (hbegins.sound (sound_begun (hlook.sound (sound_start script))))
      have hknown : (id, original) ∈ originals := by
        rcases hbegins.known _ horiginal with hnone | hknown
        · cases hnone
        · exact hknown
      refine ⟨original, ⟨t.log, measured ++ new, ?_, hqueried _ hknown, ?_⟩, ?_, ?_⟩
      · show (cleanUp outcome u).2.log = _
        rw [hlog, hmeasured, List.append_assoc]
      · rw [hqueries]
        exact honly
      · refine StoppedIn.toneStopped hsound hissued ?_
        rw [hlog]
        exact hstopped.append_left
      · refine ConfirmedIn.volumeConfirmed hsound hissued ?_
        rw [hlog]
        exact hcommitted.append_left

/-- A phone as in the tests of the source. -/
def masterStatus : DeviceStatus where
  requestId := 0
  deviceId := "master"
  name := "Master"
  volume := 3
  minimum := 0
  maximum := 15
  fixed := false
  speaker := true
  failed := false

/-- A profile without followers. -/
def roomProfile : Profile where
  id := 1
  name := "Room"
  master := .fromStatus masterStatus
  followers := []
  volume := 3

/-- A turn in which other threads call the registry. -/
def turnOf (events : List RegistryEvent) : Turn :=
  { Turn.idle with events := events }

/-- The phone answers the query, the token is cancelled once the Begin is queued, and the
phone answers the stop and the cancel. -/
def cancelledAfterBegin : List Turn :=
  [turnOf [.register, .updateDevice 0 masterStatus], .idle, .idle, .idle,
    turnOf [.updateDevice 0 { masterStatus with requestId := 1 }],
    .idle, .idle, { Turn.idle with cancelled := true },
    .idle, .idle, .idle, .idle, turnOf [.updateTone 0 3 false false],
    .idle, .idle, .idle, turnOf [.updateDevice 0 { masterStatus with requestId := 4 }]]

/-- A Begin that was cancelled before it was confirmed is cleaned up. -/
theorem cancelled_begin_is_cleaned_up :
    Begun (run roomProfile 0 (start cancelledAfterBegin)).2.log 0 ∧
      CleanedUp (run roomProfile 0 (start cancelledAfterBegin)).2.log 0 := by
  have hbegun : Begun (run roomProfile 0 (start cancelledAfterBegin)).2.log 0 :=
    ⟨2, by decide +kernel⟩
  exact ⟨hbegun,
    (calibration_cleans_up cancelledAfterBegin roomProfile 0 (by decide +kernel)).2.1 0 hbegun⟩

end Runs

end Calibrator

end Soundwave

import Soundwave.CalibrationCleanup
import Soundwave.ThrowingTriples

/-!
# Calibrations disturb one phone at a time

While it measures, a calibration changes the volume of a phone and lets it play the test
tone.  It does so only after the phone has confirmed the beginning of a session with the
status that it was asked for first, with volumes of the range that it named there, and only
while every other tone that was tried is known to have stopped.  Before each tone the phone
was asked once more, and answered that its speaker is the output.
-/

namespace Soundwave

namespace Calibrator

section Orders

/-- Every receiver whose tone the thread tried to start has confirmed that it stopped. -/
def AllStopped (log : List CalibrationEntry) : Prop :=
  ∀ id, (∃ n queued, .attempt id (.calibrationTone n true) queued ∈ log) → StoppedIn log id

/-- The receiver named a status, and confirmed it when its session began. -/
def Prepared (log : List CalibrationEntry) (id : Nat) (status : DeviceStatus) : Prop :=
  Queried log id status ∧
    ∃ before n after actual,
      log = before ++ .attempt id (.calibrationSession n .begin) true :: after ∧
      .answered id n actual ∈ after ∧ commitConfirmed actual status status.volume = true

/-- The last thing that the thread tried was to ask the receiver, which answered that its
volume can be set and that its speaker is the output. -/
def Checked (log : List CalibrationEntry) (id : Nat) : Prop :=
  ∃ before n after status, log = before ++ .attempt id (.queryDevice n) true :: after ∧
    Quiet after ∧ .answered id n status ∈ after ∧
    status.speaker = true ∧ status.fixed = false ∧ status.failed = false

/-- When the thread may try to send what it sends. -/
def Permitted (log : List CalibrationEntry) : CalibrationEntry → Prop
  | .attempt id (.setVolume _ index _) _ =>
      AllStopped log ∧ ∃ status, Prepared log id status ∧ status.minimum ≤ index ∧
        index ≤ status.maximum
  | .attempt id (.calibrationTone _ true) _ =>
      AllStopped log ∧ Checked log id ∧ ∃ status, Prepared log id status
  | _ => True

/-- The thread has only tried what it may. -/
def Careful (log : List CalibrationEntry) : Prop :=
  ∀ before entry after, log = before ++ entry :: after → Permitted before entry

/-- An entry that is always permitted. -/
def Harmless : CalibrationEntry → Prop
  | .attempt _ (.setVolume _ _ _) _ => False
  | .attempt _ (.calibrationTone _ true) _ => False
  | _ => True

variable {log new : List CalibrationEntry} {id : Nat} {status : DeviceStatus}

theorem Harmless.permitted {entry : CalibrationEntry} (h : Harmless entry) :
    Permitted log entry := by
  unfold Harmless at h
  split at h
  · cases h
  · cases h
  · rename_i hvolume htone
    unfold Permitted
    split
    · exact absurd rfl (hvolume _ _ _ _ _)
    · exact absurd rfl (htone _ _ _)
    · trivial

theorem Careful.concat (h : Careful log) {entry : CalibrationEntry}
    (hentry : Permitted log entry) : Careful (log ++ [entry]) := by
  intro before other after heq
  rcases concat_eq_append_cons heq with ⟨-, rfl, rfl⟩ | ⟨earlier, -, hlog⟩
  · exact hentry
  · exact h before other earlier hlog

theorem Careful.append (h : Careful log) (hnew : ∀ entry ∈ new, Harmless entry) :
    Careful (log ++ new) := by
  induction new generalizing log with
  | nil => rwa [List.append_nil]
  | cons entry new ih =>
      have hfirst := h.concat (hnew entry List.mem_cons_self).permitted
      have hrest := ih hfirst fun e he => hnew e (List.mem_cons_of_mem _ he)
      rwa [List.append_assoc] at hrest

theorem Prepared.append (h : Prepared log id status) (new : List CalibrationEntry) :
    Prepared (log ++ new) id status := by
  obtain ⟨hqueried, before, n, after, actual, rfl, hanswered, hconfirmed⟩ := h
  exact ⟨hqueried.append new, before, n, after ++ new, actual,
    by rw [List.append_assoc, List.cons_append], List.mem_append_left _ hanswered, hconfirmed⟩

/-- A list of entries without attempts to switch the tone of a receiver. -/
def Toneless (log : List CalibrationEntry) (id : Nat) : Prop :=
  ∀ n enabled queued, .attempt id (.calibrationTone n enabled) queued ∉ log

theorem StoppedIn.append_toneless (h : StoppedIn log id) (hnew : Toneless new id) :
    StoppedIn (log ++ new) id := by
  obtain ⟨before, n, after, hn, rfl, hlast, hreply⟩ := h
  refine ⟨before, n, after ++ new, hn, by rw [List.append_assoc, List.cons_append], ?_,
    List.mem_append_left _ hreply⟩
  intro m enabled queued hmem
  rcases List.mem_append.mp hmem with hmem | hmem
  · exact hlast m enabled queued hmem
  · exact hnew _ _ _ hmem

theorem AllStopped.append (h : AllStopped log) (hnew : ∀ id, Toneless new id) :
    AllStopped (log ++ new) := by
  rintro id ⟨n, queued, hmem⟩
  rcases List.mem_append.mp hmem with hmem | hmem
  · exact (h id ⟨n, queued, hmem⟩).append_toneless (hnew id)
  · exact absurd hmem (hnew id _ _ _)

theorem Checked.append (h : Checked log id) (hnew : Quiet new) : Checked (log ++ new) id := by
  obtain ⟨before, n, after, status, rfl, hquiet, hanswered, husable⟩ := h
  refine ⟨before, n, after ++ new, status, by rw [List.append_assoc, List.cons_append], ?_,
    List.mem_append_left _ hanswered, husable⟩
  intro id' message queued hmem
  rcases List.mem_append.mp hmem with hmem | hmem
  · exact hquiet _ _ _ hmem
  · exact hnew _ _ _ hmem

theorem Quiet.harmless (h : Quiet new) : ∀ entry ∈ new, Harmless entry := by
  intro entry hmem
  cases entry with
  | attempt id message queued => exact absurd hmem (h id message queued)
  | drawn _ | arrived _ _ | toneArrived _ _ _ _ | answered _ _ _ | toneAnswered _ _ _ _ => trivial

theorem Quiet.toneless (h : Quiet new) (id : Nat) : Toneless new id :=
  fun _ _ _ => h _ _ _

/-- The log while no tone plays and the sessions of some receivers have begun. -/
structure Settled (originals : List (Nat × DeviceStatus)) (log : List CalibrationEntry) :
    Prop where
  careful : Careful log
  stopped : AllStopped log
  prepared : ∀ original ∈ originals, Prepared log original.1 original.2

/-- The log while a receiver may be playing its tone. -/
structure Playing (originals : List (Nat × DeviceStatus)) (id : Nat)
    (log : List CalibrationEntry) : Prop where
  careful : Careful log
  stopped : ∀ other, other ≠ id →
    (∃ n queued, .attempt other (.calibrationTone n true) queued ∈ log) → StoppedIn log other
  prepared : ∀ original ∈ originals, Prepared log original.1 original.2

variable {originals : List (Nat × DeviceStatus)}

theorem Settled.append (h : Settled originals log) (hharmless : ∀ entry ∈ new, Harmless entry)
    (htoneless : ∀ id, Toneless new id) : Settled originals (log ++ new) where
  careful := h.careful.append hharmless
  stopped := h.stopped.append htoneless
  prepared := fun original hmem => (h.prepared original hmem).append new

theorem Settled.append_quiet (h : Settled originals log) (hnew : Quiet new) :
    Settled originals (log ++ new) :=
  h.append hnew.harmless hnew.toneless

theorem Playing.append_quiet (h : Playing originals id log) (hnew : Quiet new) :
    Playing originals id (log ++ new) where
  careful := h.careful.append hnew.harmless
  stopped := by
    rintro other hother ⟨n, queued, hmem⟩
    rcases List.mem_append.mp hmem with hmem | hmem
    · exact (h.stopped other hother ⟨n, queued, hmem⟩).append_toneless (hnew.toneless other)
    · exact absurd hmem (hnew _ _ _)
  prepared := fun original hmem => (h.prepared original hmem).append new

/-- An attempt to set a volume. -/
theorem Settled.setVolume (h : Settled originals log) (hmem : (id, status) ∈ originals)
    {n index : Nat} {purpose : VolumePurpose} {queued : Bool}
    (hrange : status.minimum ≤ index ∧ index ≤ status.maximum) :
    Settled originals (log ++ [.attempt id (.setVolume n index purpose) queued]) where
  careful := h.careful.concat ⟨h.stopped, status, h.prepared _ hmem, hrange⟩
  stopped := h.stopped.append fun _ _ _ _ hin => by cases List.mem_singleton.mp hin
  prepared := fun original hin => (h.prepared original hin).append _

/-- An attempt to start a tone. -/
theorem Settled.startTone (h : Settled originals log) (hmem : (id, status) ∈ originals)
    (hchecked : Checked log id) {n : Nat} {queued : Bool} :
    Playing originals id (log ++ [.attempt id (.calibrationTone n true) queued]) where
  careful := h.careful.concat ⟨h.stopped, hchecked, status, h.prepared _ hmem⟩
  stopped := by
    rintro other hother ⟨m, queued', hin⟩
    have hnot : Toneless [.attempt id (.calibrationTone n true) queued] other := by
      intro m enabled queued' hin
      cases List.mem_singleton.mp hin
      exact hother rfl
    rcases List.mem_append.mp hin with hin | hin
    · exact (h.stopped other ⟨m, queued', hin⟩).append_toneless hnot
    · exact absurd hin (hnot _ _ _)
  prepared := fun original hin => (h.prepared original hin).append _

/-- An attempt to stop a tone, which the receiver acknowledges. -/
theorem Playing.stopTone {n : Nat} (h : Playing originals id log) (hn : n ≠ 0)
    (hquiet : Quiet new) (hanswered : .toneAnswered id n false false ∈ new) :
    Settled originals (log ++ .attempt id (.calibrationTone n false) true :: new) where
  careful := by
    refine h.careful.append fun entry hin => ?_
    rcases List.mem_cons.mp hin with rfl | hin
    · trivial
    · exact hquiet.harmless entry hin
  stopped := by
    rintro other ⟨m, queued, hin⟩
    by_cases hother : other = id
    · subst hother
      exact ⟨log, n, new, hn, rfl, fun _ _ _ => hquiet _ _ _, hanswered⟩
    · have hnot : Toneless (.attempt id (.calibrationTone n false) true :: new) other := by
        intro m enabled queued hin
        rcases List.mem_cons.mp hin with heq | hin
        · cases heq
          exact hother rfl
        · exact hquiet _ _ _ hin
      rcases List.mem_append.mp hin with hin | hin
      · exact (h.stopped other hother ⟨m, queued, hin⟩).append_toneless hnot
      · exact absurd hin (hnot _ _ _)
  prepared := fun original hin => (h.prepared original hin).append _

end Orders

section Measuring

variable {α β : Type} {originals : List (Nat × DeviceStatus)} {id : Nat} {status : DeviceStatus}

/-- The computation needs a settled log.  If it returns, then the log is settled again; if
it throws, the thread has at least been careful. -/
def Orderly {ε : Type} (originals : List (Nat × DeviceStatus)) (x : Throwing ε Calibrator α)
    (Q : α → Prop) : Prop :=
  Triple (fun s => Settled originals s.log) x (fun a s => Settled originals s.log ∧ Q a)
    (fun s => Careful s.log)

section Rules

variable {ε : Type} {x : Throwing ε Calibrator α} {Q Q' : α → Prop}

theorem Orderly.mono (h : Orderly originals x Q) (hq : ∀ a, Q a → Q' a) :
    Orderly originals x Q' :=
  h.consequence (fun _ => id) (fun a _ hs => ⟨hs.1, hq a hs.2⟩) fun _ => id

theorem Orderly.bind {R : β → Prop} {f : α → Throwing ε Calibrator β}
    (hx : Orderly originals x Q) (hf : ∀ a, Q a → Orderly originals (f a) R) :
    Orderly originals (x >>= f) R :=
  Triple.bind hx fun a => Triple.assume (hf a)

theorem Orderly.pure {a : α} (h : Q a) :
    Orderly originals (Pure.pure a : Throwing ε Calibrator α) Q :=
  Triple.pure a fun _ hs => ⟨hs, h⟩

theorem Orderly.adapt {ε' : Type} {f : ε → ε'} (h : Orderly originals x Q) :
    Orderly originals (x.adapt f) Q :=
  Triple.adapt h

end Rules

theorem queries_quiet {s t : Calibrator} (h : Evolves Queries s t) :
    ∃ new, t.log = s.log ++ new ∧ (∀ entry ∈ new, Harmless entry) ∧ ∀ id, Toneless new id := by
  obtain ⟨new, hlog, hqueries⟩ := h.grows
  refine ⟨new, hlog, fun entry hmem => ?_, fun id n enabled queued hmem => ?_⟩
  · cases entry with
    | attempt id message queued =>
        obtain ⟨n, rfl⟩ := hqueries id message queued hmem
        trivial
    | drawn _ | arrived _ _ | toneArrived _ _ _ _ | answered _ _ _ | toneAnswered _ _ _ _ =>
        trivial
  · obtain ⟨m, hm⟩ := hqueries _ _ _ hmem
    cases hm

theorem Settled.evolve {s t : Calibrator} (h : Settled originals s.log)
    (ht : Evolves Queries s t) : Settled originals t.log := by
  obtain ⟨new, hlog, hharmless, htoneless⟩ := queries_quiet ht
  rw [hlog]
  exact h.append hharmless htoneless

/-- A part that only queries. -/
theorem orderly_of_within {ε : Type} {x : Throwing ε Calibrator α}
    (h : Within (Evolves Queries) x) : Orderly originals x fun _ => True :=
  (Triple.of_within h fun _ _ ht hs => Settled.evolve hs ht).consequence (fun _ => id)
    (fun _ _ hs => ⟨hs, trivial⟩) fun _ hs => hs.careful

theorem orderly_ensure {condition : Bool} {text : String} :
    Orderly originals (ensure condition text) fun _ => condition = true := by
  cases condition with
  | true => exact Triple.pure () fun _ hs => ⟨hs, rfl⟩
  | false => exact (Triple.throw text).pre fun _ hs => hs.careful

theorem orderly_question {x : Except String α} :
    Orderly originals (question x) fun a => x = .ok a := by
  cases x with
  | ok a => exact Triple.pure a fun _ hs => ⟨hs, rfl⟩
  | error text => exact (Triple.throw text).pre fun _ hs => hs.careful

theorem orderly_context {text : String} {x : Option α} :
    Orderly originals (context text x) fun a => x = some a := by
  cases x with
  | some a => exact Triple.pure a fun _ hs => ⟨hs, rfl⟩
  | none => exact (Triple.throw text).pre fun _ hs => hs.careful

theorem orderly_unwrap {x : Option α} :
    Orderly originals (unwrap x) fun a => x = some a := by
  cases x with
  | some a => exact Triple.pure a fun _ hs => ⟨hs, rfl⟩
  | none => exact (Triple.throw Stop.panic).pre fun _ hs => hs.careful

/-- The volumes that a receiver has named. -/
def InRange (status : DeviceStatus) (index : Nat) : Prop :=
  status.minimum ≤ index ∧ index ≤ status.maximum

theorem orderly_setVolume (hmem : (id, status) ∈ originals) {index : Nat}
    (hrange : InRange status index) :
    Orderly originals (exchange id (some index) .ofRun) fun _ => True := by
  have hsettled : ∀ s : Calibrator, Settled originals s.log →
      Settled originals (exchange id (some index) .ofRun s).2.log := by
    intro s hs
    obtain ⟨before, n, queued, after, -, hlog, hbefore, hafter, -⟩ :=
      (waits_setVolume id index .ofRun).attempts s
    rw [hlog, List.append_cons]
    exact ((hs.append_quiet hbefore).setVolume hmem hrange).append_quiet hafter
  exact (Triple.of_state hsettled).consequence (fun _ hs => hs) (fun _ _ hs => ⟨hs, trivial⟩)
    fun _ hs => hs.careful

/-- The status that `validate_device` lets pass. -/
def Usable (status : DeviceStatus) : Prop :=
  status.speaker = true ∧ status.fixed = false ∧ status.failed = false

theorem triple_query (id : Nat) :
    Triple (fun s => Settled originals s.log) (exchange id none .ofRun)
      (fun status s => Settled originals s.log ∧ (Usable status → Checked s.log id))
      (fun s => Careful s.log) := by
  intro s hs
  have hsettled := Settled.evolve hs (within_query id s)
  obtain ⟨before, n, queued, after, -, hlog, -, hafter, hreturns⟩ :=
    (waits_query id .ofRun).attempts s
  constructor
  · intro status t heq
    rw [heq] at hsettled hlog hreturns
    obtain ⟨rfl, hanswered⟩ := hreturns status rfl
    exact ⟨hsettled, fun husable => ⟨_, n, after, status, hlog, hafter, hanswered, husable⟩⟩
  · intro text t heq
    rw [heq] at hsettled
    exact hsettled.careful

theorem validateDevice_eq_ok {device : DeviceStatus} {s t : Calibrator} {u : Unit}
    (h : validateDevice device s = (.ok u, t)) : Usable device ∧ t = s := by
  obtain ⟨_, s₁, hranged, h₁⟩ := Throwing.bind_eq_ok_iff.mp h
  obtain ⟨_, s₂, hadjustable, h₂⟩ := Throwing.bind_eq_ok_iff.mp h₁
  obtain ⟨_, s₃, houtput, hnamed⟩ := Throwing.bind_eq_ok_iff.mp h₂
  obtain ⟨-, rfl⟩ := ensure_eq_ok hranged
  obtain ⟨hfixed, rfl⟩ := ensure_eq_ok hadjustable
  obtain ⟨hspeaker, rfl⟩ := ensure_eq_ok houtput
  obtain ⟨-, rfl⟩ := ensure_eq_ok hnamed
  simp only [Bool.and_eq_true, Bool.not_eq_true'] at hfixed
  exact ⟨⟨hspeaker, hfixed.2, hfixed.1⟩, rfl⟩

theorem triple_validateDevice (id : Nat) (device : DeviceStatus) :
    Triple (fun s => Settled originals s.log ∧ (Usable device → Checked s.log id))
      (validateDevice device) (fun _ s => Settled originals s.log ∧ Checked s.log id)
      (fun s => Careful s.log) := by
  rintro s ⟨hs, hchecked⟩
  have hsettled : Settled originals (validateDevice device s).2.log :=
    Settled.evolve hs (within_validateDevice device s)
  constructor
  · intro _ t heq
    obtain ⟨husable, rfl⟩ := validateDevice_eq_ok heq
    exact ⟨hs, hchecked husable⟩
  · intro text t heq
    rw [heq] at hsettled
    exact hsettled.careful

theorem triple_startTone (hmem : (id, status) ∈ originals) :
    Triple (fun s => Settled originals s.log ∧ Checked s.log id) (switchTone id true .ofRun)
      (fun _ s => Playing originals id s.log) (fun s => Careful s.log) := by
  have hplaying : ∀ s : Calibrator, Settled originals s.log ∧ Checked s.log id →
      Playing originals id (switchTone id true .ofRun s).2.log := by
    rintro s ⟨hs, hchecked⟩
    obtain ⟨before, n, queued, after, -, hlog, hbefore, hafter, -⟩ :=
      (waits_switchTone id true .ofRun).attempts s
    rw [hlog, List.append_cons]
    exact ((hs.append_quiet hbefore).startTone hmem (hchecked.append hbefore)).append_quiet hafter
  exact (Triple.of_state hplaying).consequence (fun _ hs => hs) (fun _ _ hs => hs)
    fun _ hs => hs.careful

theorem triple_stopTone (token : CancellationToken) :
    Triple (fun s => Playing originals id s.log) (switchTone id false token)
      (fun _ s => Settled originals s.log) (fun s => Careful s.log) := by
  intro s hs
  obtain ⟨before, n, queued, after, hn, hlog, hbefore, hafter, hreturns⟩ :=
    (waits_switchTone id false token).attempts s
  constructor
  · intro m t heq
    rw [heq] at hlog hreturns
    obtain ⟨rfl, hanswered⟩ := hreturns m rfl
    show Settled originals t.log
    rw [hlog]
    exact (hs.append_quiet hbefore).stopTone hn hafter hanswered
  · intro text t heq
    rw [heq] at hlog
    show Careful t.log
    rw [hlog, List.append_cons]
    refine ((hs.append_quiet hbefore).careful.concat ?_).append hafter.harmless
    trivial

/-- The microphone and the replies are no reason to worry while a tone plays. -/
theorem triple_playing {ε : Type} {x : Throwing ε Calibrator α} (h : Within Silent x) :
    Triple (fun s => Playing originals id s.log) x (fun _ s => Playing originals id s.log)
      (fun s => Careful s.log) := by
  refine (Triple.of_within h fun s t ht hs => ?_).consequence (fun _ hs => hs) (fun _ _ hs => hs)
    fun _ hs => hs.careful
  obtain ⟨new, hlog, hquiet⟩ := ht.grows
  rw [hlog]
  exact hs.append_quiet hquiet

theorem orderly_measureRaw (hmem : (id, status) ∈ originals) (background : Float) :
    Orderly originals (measureRaw id background) fun _ => True := by
  refine Triple.bind (triple_query id) (fun before => ?_)
  refine Triple.bind (triple_validateDevice id before) (fun _ => ?_)
  refine Triple.bind (triple_startTone hmem) (fun started => ?_)
  refine Triple.bind (triple_playing (within_result within_listen)) (fun heard => ?_)
  refine Triple.bind (triple_playing (within_takeToneReply id started)) (fun tone => ?_)
  refine Triple.bind (triple_stopTone .fresh).lift (fun stopped => ?_)
  cases stopped with
  | error text =>
      -- the tone may still play, and the run ends
      refine Triple.pre ?_ (fun s hs => hs.2 text rfl)
      refine Triple.bind (Triple.of_within (R := Eq) (within_question heard) ?_) (fun _ => ?_)
      · rintro s t rfl hs
        exact hs
      · exact Triple.bind (Q := fun _ _ => False) (Triple.throw text) (fun _ _ hs => hs.elim)
  | ok n =>
      refine Triple.pre ?_ (fun s hs => hs.1 n rfl)
      refine Orderly.bind orderly_question (fun signal _ => orderly_of_within ?_)
      refine within_bind (within_question _) (fun _ => ?_)
      refine within_bind (within_ensure _ _) (fun _ => ?_)
      refine within_bind (within_query id) (fun after => ?_)
      refine within_bind (within_validateDevice after) (fun _ => ?_)
      refine within_bind (within_ensure _ _) (fun _ => ?_)
      refine within_bind within_listen (fun ambient => ?_)
      refine within_bind (within_ensure _ _) (fun _ => ?_)
      exact within_bind (within_ensure _ _) (fun _ => within_pure _)

theorem orderly_measure (hmem : (id, status) ∈ originals) (background : Float) :
    Orderly originals (measure id background) fun _ => True := by
  refine Orderly.bind (orderly_measureRaw hmem background) (fun measurement _ => ?_)
  refine orderly_of_within (within_bind (within_ensure _ _) (fun _ => ?_))
  exact within_bind (within_ensure _ _) (fun _ => within_question _)

theorem pointOf_index {index : Nat} {measured : ToneMeasurement} :
    ∀ point ∈ pointOf index measured, point.1 = index := by
  intro point hpoint
  rw [pointOf] at hpoint
  split at hpoint
  · split at hpoint
    · exact congrArg Prod.fst (List.mem_singleton.mp hpoint)
    · cases hpoint
  · cases hpoint

theorem orderly_measurePoints {device : DeviceStatus} (hmem : (id, device) ∈ originals)
    (ambient : Float) (indices : List Nat) (hrange : ∀ index ∈ indices, InRange device index) :
    Orderly originals (measurePoints id device ambient indices)
      fun points => ∀ point ∈ points, InRange device point.1 := by
  induction indices with
  | nil => exact Orderly.pure fun _ hpoint => by cases hpoint
  | cons index indices ih =>
      have hindex := hrange index List.mem_cons_self
      refine Orderly.bind (orderly_of_within (within_say _)) (fun _ _ => ?_)
      refine Orderly.bind (orderly_setVolume hmem hindex) (fun actual _ => ?_)
      refine Orderly.bind orderly_ensure (fun _ _ => ?_)
      refine Orderly.bind (orderly_measureRaw hmem ambient) (fun measured _ => ?_)
      refine Orderly.bind (ih fun i hi => hrange i (List.mem_cons_of_mem _ hi))
        (fun points hpoints => Orderly.pure ?_)
      intro point hpoint
      rcases List.mem_append.mp hpoint with hpoint | hpoint
      · rw [pointOf_index point hpoint]
        exact hindex
      · exact hpoints point hpoint

theorem inRange_measuredVolumes {device : DeviceStatus} :
    ∀ index ∈ measuredVolumes device, InRange device index := by
  intro index hindex
  obtain ⟨i, hi, rfl⟩ := List.mem_range'.mp hindex
  constructor
  · omega
  · omega

/-- The curve of a device, measured at volumes of its range. -/
def Charted (originals : List (Nat × DeviceStatus)) (curve : String × LevelPoints) : Prop :=
  ∃ original ∈ originals, original.2.deviceId = curve.1 ∧
    ∀ point ∈ curve.2, InRange original.2 point.1

theorem orderly_measureCurves (ambient : Float) (l : List (Nat × DeviceStatus))
    (hl : ∀ original ∈ l, original ∈ originals) :
    Orderly originals (measureCurves ambient l)
      fun curves => ∀ curve ∈ curves, Charted originals curve := by
  induction l with
  | nil => exact Orderly.pure fun _ hcurve => by cases hcurve
  | cons original l ih =>
      obtain ⟨id, device⟩ := original
      have hmem := hl _ List.mem_cons_self
      refine Orderly.bind (orderly_measurePoints hmem ambient _ inRange_measuredVolumes)
        (fun points hpoints => ?_)
      refine Orderly.bind (ih fun o ho => hl o (List.mem_cons_of_mem _ ho))
        (fun curves hcurves => Orderly.pure ?_)
      intro curve hcurve
      rcases List.mem_cons.mp hcurve with rfl | hcurve
      · exact ⟨_, hmem, rfl, hpoints⟩
      · exact hcurves curve hcurve

end Measuring

section Mapping

variable {originals : List (Nat × DeviceStatus)}

theorem bestStep_mem {points : LevelPoints} {target : Float} {best : Nat × Float}
    (h : bestStep points target = some best) : best ∈ points := by
  have hfold : ∀ (rest : LevelPoints) (first : Nat × Float),
      rest.foldl (fun a b => closestStep a b target) first ∈ first :: rest := by
    intro rest
    induction rest with
    | nil => exact fun _ => List.mem_cons_self
    | cons point rest ih =>
        intro first
        rcases List.mem_cons.mp (ih (closestStep first point target)) with heq | hmem
        · rw [List.foldl_cons, heq, closestStep]
          split
          · exact List.mem_cons_self
          · exact List.mem_cons_of_mem _ List.mem_cons_self
        · exact List.mem_cons_of_mem _ (List.mem_cons_of_mem _ hmem)
  cases points with
  | nil => cases h
  | cons first rest =>
      obtain rfl := Option.some.inj h
      exact hfold rest first

theorem orderly_mapLevels {reference id : Nat} {master device : DeviceStatus}
    (hmaster : (reference, master) ∈ originals) (hdevice : (id, device) ∈ originals)
    (name : String) (ambient : Float) {points targets : LevelPoints}
    (hpoints : ∀ point ∈ points, InRange device point.1)
    (htargets : ∀ target ∈ targets, InRange master target.1) (mapping : SortedMap Nat Nat) :
    Orderly originals (mapLevels reference id name ambient points targets mapping)
      fun _ => True := by
  induction targets generalizing mapping with
  | nil => exact Orderly.pure trivial
  | cons target targets ih =>
      have hlater := ih fun t ht => htargets t (List.mem_cons_of_mem _ ht)
      rw [mapLevels]
      cases hbest : bestStep points target.2 with
      | none => exact hlater mapping
      | some best =>
          refine Triple.ite (hlater mapping) ?_
          refine Orderly.bind (orderly_of_within (within_say _)) (fun _ _ => ?_)
          refine Orderly.bind (orderly_setVolume hmaster (htargets _ List.mem_cons_self))
            (fun _ _ => ?_)
          refine Orderly.bind (orderly_measure hmaster ambient) (fun repeated _ => ?_)
          refine Orderly.bind orderly_ensure (fun _ _ => ?_)
          refine Orderly.bind (orderly_setVolume hdevice (hpoints _ (bestStep_mem hbest)))
            (fun _ _ => ?_)
          exact Orderly.bind (orderly_measure hdevice ambient) (fun verified _ => hlater _)

/-- The devices are told apart by their identifiers. -/
def Distinct (originals : List (Nat × DeviceStatus)) : Prop :=
  (originals.map fun original => original.2.deviceId).Nodup

theorem Charted.inRange {curve : String × LevelPoints} (h : Charted originals curve)
    (hdistinct : Distinct originals) {original : Nat × DeviceStatus} (hmem : original ∈ originals)
    (hid : original.2.deviceId = curve.1) : ∀ point ∈ curve.2, InRange original.2 point.1 := by
  obtain ⟨charted, hcharted, hsame, hrange⟩ := h
  rwa [← List.inj_on_of_nodup_map hdistinct hcharted hmem (hsame.trans hid.symm)]

theorem orderly_mapFollowers {reference : Nat} {master : DeviceStatus} (range : DeviceRange)
    (hmaster : (reference, master) ∈ originals) (hdistinct : Distinct originals) (ambient : Float)
    {curves : List (String × LevelPoints)} (hcurves : ∀ curve ∈ curves, Charted originals curve)
    {targets : LevelPoints} (htargets : ∀ target ∈ targets, InRange master target.1)
    (followers : List Follower) :
    Orderly originals (mapFollowers reference range ambient originals curves targets followers)
      fun _ => True := by
  induction followers with
  | nil => exact Orderly.pure trivial
  | cons follower followers ih =>
      refine Orderly.bind orderly_context.adapt (fun curve hcurve => ?_)
      refine Orderly.bind orderly_unwrap (fun original horiginal => ?_)
      have hmem := List.mem_of_find?_eq_some horiginal
      have hid : original.2.deviceId = curve.1 := by
        have hfollower := List.find?_some horiginal
        have hmeasured := List.find?_some hcurve
        simp only [decide_eq_true_eq] at hfollower hmeasured
        rw [hfollower, hmeasured]
      have hrange := (hcurves curve (List.mem_of_find?_eq_some hcurve)).inRange hdistinct hmem hid
      refine Orderly.bind (orderly_mapLevels hmaster hmem _ ambient hrange htargets _).adapt
        (fun mapping _ => ?_)
      exact Orderly.bind ih (fun _ _ => Orderly.pure trivial)

theorem orderly_calibrate {profile : Profile} {reference : Nat} {master : DeviceStatus}
    (hmaster : (reference, master) ∈ originals) (hid : master.deviceId = profile.master.id)
    (hdistinct : Distinct originals) :
    Orderly originals (calibrate profile reference originals) fun _ => True := by
  refine Orderly.bind orderly_ensure.adapt (fun _ _ => ?_)
  refine Orderly.bind (orderly_of_within within_openMicrophone).adapt (fun _ _ => ?_)
  refine Orderly.bind (orderly_of_within (within_say _)).adapt (fun _ _ => ?_)
  refine Orderly.bind (orderly_of_within within_listen).adapt (fun ambient _ => ?_)
  refine Orderly.bind orderly_ensure.adapt (fun _ _ => ?_)
  refine Orderly.bind (orderly_measureCurves _ originals fun _ h => h).adapt
    (fun curves hcurves => ?_)
  refine Orderly.bind orderly_context.adapt (fun targets htargets => ?_)
  have hmeasured := List.find?_some htargets
  simp only [decide_eq_true_eq] at hmeasured
  have hrange := (hcurves targets (List.mem_of_find?_eq_some htargets)).inRange hdistinct hmaster
    (hid.trans hmeasured.symm)
  refine Orderly.bind orderly_ensure.adapt (fun _ _ => ?_)
  refine Orderly.bind (orderly_mapFollowers _ hmaster hdistinct _ hcurves hrange _)
    (fun followers _ => ?_)
  refine Orderly.bind orderly_question.adapt (fun _ _ => ?_)
  exact Orderly.bind orderly_ensure.adapt (fun _ _ => Orderly.pure trivial)

end Mapping

section Runs

/-- The log while sessions begin: some have begun, and all receivers were queried. -/
structure Beginning (begun originals : List (Nat × DeviceStatus)) (log : List CalibrationEntry) :
    Prop where
  settled : Settled begun log
  queried : ∀ original ∈ originals, Queried log original.1 original.2

variable {α : Type} {begun originals : List (Nat × DeviceStatus)}
  {log new : List CalibrationEntry} {id : Nat} {status : DeviceStatus}

theorem Beginning.append_quiet (h : Beginning begun originals log) (hnew : Quiet new) :
    Beginning begun originals (log ++ new) :=
  ⟨h.settled.append_quiet hnew, fun original hmem => (h.queried original hmem).append new⟩

theorem Beginning.begin (h : Beginning begun originals log) (id n : Nat) (queued : Bool) :
    Beginning begun originals (log ++ [.attempt id (.calibrationSession n .begin) queued]) := by
  refine ⟨h.settled.append (fun entry hmem => ?_) (fun other m enabled queued hmem => ?_),
    fun original hmem => (h.queried original hmem).append _⟩
  · rw [List.mem_singleton.mp hmem]
    trivial
  · cases List.mem_singleton.mp hmem

/-- The confirmation of a session that has begun. -/
theorem Beginning.confirm (h : Beginning begun originals log) (hmem : (id, status) ∈ originals)
    {before after : List CalibrationEntry} {n : Nat} {actual : DeviceStatus}
    (hlog : log = before ++ .attempt id (.calibrationSession n .begin) true :: after)
    (hanswered : .answered id n actual ∈ after)
    (hconfirmed : commitConfirmed actual status status.volume = true) :
    Beginning (begun ++ [(id, status)]) originals log := by
  refine ⟨⟨h.settled.careful, h.settled.stopped, fun original hin => ?_⟩, h.queried⟩
  rcases List.mem_append.mp hin with hin | hin
  · exact h.settled.prepared original hin
  · rw [List.mem_singleton.mp hin]
    exact ⟨h.queried _ hmem, before, n, after, actual, hlog, hanswered, hconfirmed⟩

theorem triple_calibrationRequest :
    Triple (fun s => Beginning begun originals s.log) (calibrationRequest id .begin)
      (fun n s => Beginning begun originals s.log ∧
        ∃ before, s.log = before ++ [.attempt id (.calibrationSession n .begin) true])
      (fun s => Careful s.log) := by
  intro s hs
  obtain ⟨t, n, queued, ht, -, hattempt, hreturns⟩ := (requests_calibration id .begin).attempts s
  obtain ⟨before, hbefore, hquiet⟩ := ht.grows
  have hbegins := (hs.append_quiet hquiet).begin id n queued
  rw [← hbefore, ← hattempt] at hbegins
  constructor
  · intro m u heq
    rw [heq] at hbegins hattempt hreturns
    refine ⟨hbegins, t.log, ?_⟩
    rcases hreturns with ⟨rfl, hsame⟩ | ⟨-, text, herror⟩
    · rw [Except.ok.inj hsame]
      exact hattempt
    · cases herror
  · intro text u heq
    rw [heq] at hbegins
    exact hbegins.settled.careful

theorem triple_beginSession :
    Triple (fun s => Beginning begun originals s.log) (beginSession id status)
      (fun n s => Beginning begun originals s.log ∧
        ∃ before, s.log = before ++ [.attempt id (.calibrationSession n .begin) true])
      (fun s => Careful s.log) := by
  refine Triple.bind triple_calibrationRequest (fun n => ?_)
  exact Triple.bind (Triple.modify fun _ hs => hs) (fun _ => Triple.pure n fun _ hs => hs)

theorem triple_awaitReply {n : Nat} :
    Triple
      (fun s => Beginning begun originals s.log ∧
        ∃ before, s.log = before ++ [.attempt id (.calibrationSession n .begin) true])
      (awaitReply id n .ofRun)
      (fun actual s => Beginning begun originals s.log ∧ ∃ before after,
        s.log = before ++ .attempt id (.calibrationSession n .begin) true :: after ∧
          .answered id n actual ∈ after)
      (fun s => Careful s.log) := by
  rintro s ⟨hs, before, hbegun⟩
  have hwaits : Silent s (awaitReply id n .ofRun s).2 := within_awaitReply id n .ofRun s
  obtain ⟨after, hlog, hquiet⟩ := hwaits.grows
  constructor
  · intro actual t heq
    obtain ⟨new, hnew, hanswered⟩ := awaitReply_eq_ok heq
    rw [heq] at hlog
    obtain rfl := List.append_cancel_left (hnew.symm.trans hlog)
    refine ⟨?_, before, new, by rw [hnew, hbegun, List.append_assoc]; rfl, hanswered⟩
    rw [hnew]
    exact hs.append_quiet hquiet
  · intro text t heq
    rw [heq] at hlog
    show Careful t.log
    rw [hlog]
    exact (hs.append_quiet hquiet).settled.careful

theorem triple_beginSessions {l : List (Nat × DeviceStatus)}
    (hl : ∀ original ∈ l, original ∈ originals) :
    Triple (fun s => Beginning begun originals s.log) (beginSessions l)
      (fun _ s => Beginning (begun ++ l) originals s.log) (fun s => Careful s.log) := by
  induction l generalizing begun with
  | nil =>
      refine Triple.pure () (fun s hs => ?_)
      rwa [List.append_nil]
  | cons original l ih =>
      obtain ⟨id, status⟩ := original
      have hmem := hl _ List.mem_cons_self
      refine Triple.bind triple_beginSession (fun n => ?_)
      refine Triple.bind triple_awaitReply (fun actual => ?_)
      refine Triple.bind (Q := fun _ s => Beginning (begun ++ [(id, status)]) originals s.log)
        ?_ (fun _ => ?_)
      · cases hconfirmed : commitConfirmed actual status status.volume with
        | true =>
            refine Triple.pure () ?_
            rintro s ⟨hs, before, after, hlog, hanswered⟩
            exact hs.confirm hmem hlog hanswered hconfirmed
        | false => exact (Triple.throw _).pre fun s hs => hs.1.settled.careful
      · have hrest := @ih (begun ++ [(id, status)]) fun original hin =>
          hl original (List.mem_cons_of_mem _ hin)
        rwa [List.append_assoc] at hrest

/-- What `run` knows when it has looked up the devices. -/
theorem lookUp_known {profile : Profile} {reference : Nat} {s t : Calibrator}
    (h : lookUp profile reference s = (.ok originals, t)) :
    Distinct originals ∧
      ∃ master, (reference, master) ∈ originals ∧ master.deviceId = profile.master.id := by
  have hids := (lookUp_eq_ok h).1
  obtain ⟨_, _, hquestion, hsnapshots⟩ := Throwing.bind_eq_ok_iff.mp h
  obtain ⟨receivers, _, -, hfinds⟩ := Throwing.bind_eq_ok_iff.mp hsnapshots
  obtain ⟨found, u, -, hensures⟩ := Throwing.bind_eq_ok_iff.mp hfinds
  obtain ⟨_, v, hensure, hreturns⟩ := Throwing.bind_eq_ok_iff.mp hensures
  obtain ⟨hreference, -⟩ := ensure_eq_ok hensure
  cases hreturns
  have hvalid := (Profile.validate_eq_ok_iff _).mp (question_eq_ok hquestion).1
  have hdistinct : Distinct originals := by
    rw [Distinct, hids]
    exact hvalid.distinct
  refine ⟨hdistinct, ?_⟩
  obtain ⟨original, hmem, hsame⟩ := List.any_eq_true.mp hreference
  simp only [Bool.and_eq_true, decide_eq_true_eq] at hsame
  obtain ⟨rfl, hid⟩ := hsame
  exact ⟨original.2, hmem, hid⟩

theorem triple_lookUp (profile : Profile) (reference : Nat) :
    Triple (fun s => Settled [] s.log) (lookUp profile reference)
      (fun originals s => Beginning [] originals s.log ∧ Distinct originals ∧
        ∃ master, (reference, master) ∈ originals ∧ master.deviceId = profile.master.id)
      (fun s => Careful s.log) := by
  intro s hs
  have hsettled := Settled.evolve hs (within_lookUp profile reference s)
  constructor
  · intro originals t heq
    rw [heq] at hsettled
    exact ⟨⟨hsettled, (lookUp_eq_ok heq).2⟩, lookUp_known heq⟩
  · intro text t heq
    rw [heq] at hsettled
    exact hsettled.careful

theorem triple_measureAll {profile : Profile} {reference : Nat} {master : DeviceStatus}
    (hmaster : (reference, master) ∈ originals) (hid : master.deviceId = profile.master.id)
    (hdistinct : Distinct originals) :
    Triple (fun s => Beginning [] originals s.log) (measureAll profile reference originals)
      (fun _ s => Careful s.log) (fun s => Careful s.log) := by
  refine Triple.bind (triple_beginSessions fun _ hin => hin).adapt (fun _ => ?_)
  exact (orderly_calibrate hmaster hid hdistinct).consequence (fun s hs => hs.settled)
    (fun _ s hs => hs.1.careful) fun _ hs => hs

theorem triple_outcomeOf {P G : Calibrator → Prop} {x : Panicking α}
    (h : Triple P x (fun _ => G) G) : Triple P (outcomeOf x) (fun _ => G) G := by
  refine Triple.of_state fun s hs => ?_
  have hlast := h.last (fun _ _ hg => hg) (fun _ hg => hg) hs
  rw [outcomeOf]
  rcases hresult : x s with ⟨outcome, t⟩
  rw [hresult] at hlast
  cases outcome with
  | ok a => exact hlast
  | error stop =>
      cases stop with
      | error text => exact hlast
      | panic => exact hlast

theorem careful_of_restores {s t : Calibrator}
    (h : Evolves (fun _ message => Restores message) s t) (hs : Careful s.log) :
    Careful t.log := by
  obtain ⟨new, hlog, hrestores⟩ := h.grows
  rw [hlog]
  refine hs.append fun entry hmem => ?_
  cases entry with
  | attempt id message queued =>
      obtain ⟨n, rfl | rfl⟩ := hrestores id message queued hmem
      · trivial
      · trivial
  | drawn _ | arrived _ _ | toneArrived _ _ _ _ | answered _ _ _ | toneAnswered _ _ _ _ => trivial

theorem triple_run (profile : Profile) (reference : Nat) :
    Triple (fun s => Settled [] s.log) (run profile reference) (fun _ s => Careful s.log)
      (fun s => Careful s.log) := by
  refine Triple.bind (triple_lookUp profile reference).adapt (fun originals => ?_)
  refine Triple.bind (Q := fun _ s => Beginning [] originals s.log ∧ Distinct originals ∧
    ∃ master, (reference, master) ∈ originals ∧ master.deviceId = profile.master.id)
    (Triple.modify fun _ hs => hs) (fun _ => ?_)
  refine Triple.bind (Q := fun _ s => Careful s.log) ?_ (fun outcome => ?_)
  · rintro s ⟨hs, hdistinct, master, hmaster, hid⟩
    exact triple_outcomeOf (triple_measureAll hmaster hid hdistinct) s hs
  · exact (Triple.of_within (within_cleanUp outcome) fun _ _ => careful_of_restores).adapt

theorem settled_start (script : List Turn) : Settled [] (start script).log where
  careful := fun before entry after heq => by
    cases before with
    | nil => cases heq
    | cons first before => cases heq
  stopped := fun id htried => by
    obtain ⟨n, queued, hmem⟩ := htried
    cases hmem
  prepared := fun _ hmem => by cases hmem

/-- **Calibrations disturb one phone at a time.**  However the phones, the queues, the
microphone, the other threads and the token behave. -/
theorem calibration_disturbs_one_phone (script : List Turn) (profile : Profile)
    (reference : Nat) : Careful (run profile reference (start script)).2.log :=
  (triple_run profile reference).last (fun _ _ h => h) (fun _ h => h) (settled_start script)

end Runs

end Calibrator

end Soundwave

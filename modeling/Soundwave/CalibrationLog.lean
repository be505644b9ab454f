import Soundwave.CalibrationThread

/-!
# The log of the calibration thread

What the log of `CalibrationThread` says: every reply that the thread takes had arrived
from a phone under the request id that it names, and the ids that were drawn are those
that the counter gave out, in order.

`Evolves allowed` is what the thread may do to its state while it only attempts to send
messages of a kind; a `Within` of it is proved of every step and every waiting loop.
`Requests` and `Waits` say what a request, and a request with its reply, leave behind.
-/

namespace Soundwave

section Replies

namespace Registry

/-- A reply of a receiver waits to be taken. -/
def HasReply (r : Registry) (id request : Nat) (status : DeviceStatus) : Prop :=
  ∃ receiver, r.receivers.get? id = some receiver ∧ receiver.replies.get? request = some status

/-- A tone state of a receiver waits to be taken. -/
def HasToneReply (r : Registry) (id request : Nat) (tone : Bool × Bool) : Prop :=
  ∃ receiver, r.receivers.get? id = some receiver ∧ receiver.toneReplies.get? request = some tone

end Registry

/-- The second receiver has no reply that the first has not. -/
def Receiver.NoNewReplies (a b : Receiver) : Prop :=
  (∀ n status, b.replies.get? n = some status → a.replies.get? n = some status) ∧
    ∀ n tone, b.toneReplies.get? n = some tone → a.toneReplies.get? n = some tone

theorem Receiver.NoNewReplies.of_eq {a b : Receiver} (h : b.replies = a.replies)
    (h' : b.toneReplies = a.toneReplies) : a.NoNewReplies b := by
  constructor
  · intro n status hn
    rw [← h]
    exact hn
  · intro n tone hn
    rw [← h']
    exact hn

namespace Registry

/-- The second registry has no reply that the first has not. -/
def NoNewReplies (r r' : Registry) : Prop :=
  (∀ id n status, r'.HasReply id n status → r.HasReply id n status) ∧
    ∀ id n tone, r'.HasToneReply id n tone → r.HasToneReply id n tone

theorem noNewReplies_of_receivers {r r' : Registry}
    (h : ∀ id receiver', r'.receivers.get? id = some receiver' →
      ∃ receiver, r.receivers.get? id = some receiver ∧ receiver.NoNewReplies receiver') :
    r.NoNewReplies r' := by
  constructor
  · rintro id n status ⟨receiver', hget, hreply⟩
    obtain ⟨receiver, hold, hfewer⟩ := h id receiver' hget
    exact ⟨receiver, hold, hfewer.1 n status hreply⟩
  · rintro id n tone ⟨receiver', hget, hreply⟩
    obtain ⟨receiver, hold, hfewer⟩ := h id receiver' hget
    exact ⟨receiver, hold, hfewer.2 n tone hreply⟩

theorem noNewReplies_of_eq {r r' : Registry} (h : r'.receivers = r.receivers) :
    r.NoNewReplies r' := by
  refine noNewReplies_of_receivers (fun id receiver hget => ?_)
  rw [h] at hget
  exact ⟨receiver, hget, .of_eq rfl rfl⟩

theorem noNewReplies_modify (r : Registry) (id issued : Nat) {f : Receiver → Receiver}
    (hf : ∀ receiver : Receiver, receiver.NoNewReplies (f receiver)) :
    r.NoNewReplies { r with receivers := r.receivers.modify id f, issued := issued } := by
  refine noNewReplies_of_receivers (fun id' receiver' hget => ?_)
  rw [SortedMap.get?_modify] at hget
  split_ifs at hget
  · obtain ⟨receiver, hold, rfl⟩ := Option.map_eq_some_iff.mp hget
    exact ⟨receiver, hold, hf receiver⟩
  · exact ⟨receiver', hget, .of_eq rfl rfl⟩

theorem noNewReplies_plainRequest (r : Registry) (refusal : Nat → Option String) (id : Nat)
    (message : Nat → ControlMessage) :
    r.NoNewReplies (r.plainRequest refusal id message).2 := by
  rcases r.plainRequest_cases refusal id message with ⟨e, heq⟩ | heq
  · rw [heq]
    exact noNewReplies_of_eq rfl
  · rw [heq]
    exact noNewReplies_modify r id _ (fun receiver => .of_eq rfl rfl)

theorem noNewReplies_volumeRequest (r : Registry) (refusal : Nat → Option String) (id index : Nat)
    (purpose : VolumePurpose) : r.NoNewReplies (r.volumeRequest refusal id index purpose).2 := by
  rw [volumeRequest]
  rcases r.volumeRequestWithBarrier_cases refusal id index purpose false with ⟨e, heq⟩ | heq
  · rw [heq]
    exact noNewReplies_of_eq rfl
  · rw [heq]
    exact noNewReplies_modify r id _ (fun receiver => .of_eq rfl rfl)

theorem noNewReplies_register (r : Registry) : r.NoNewReplies r.register := by
  constructor
  · rintro id n status ⟨receiver, hget, hreply⟩
    rw [register, SortedMap.get?_insert] at hget
    split_ifs at hget
    · cases hget
      cases hreply
    · exact ⟨receiver, hget, hreply⟩
  · rintro id n tone ⟨receiver, hget, hreply⟩
    rw [register, SortedMap.get?_insert] at hget
    split_ifs at hget
    · cases hget
      cases hreply
    · exact ⟨receiver, hget, hreply⟩

theorem noNewReplies_remove (r : Registry) (id : Nat) : r.NoNewReplies (r.remove id) := by
  rw [remove]
  split_ifs
  · refine noNewReplies_of_receivers (fun id' receiver' hget => ?_)
    rw [SortedMap.get?_mapValues, SortedMap.get?_erase] at hget
    obtain ⟨receiver, hold, rfl⟩ := Option.map_eq_some_iff.mp hget
    split_ifs at hold
    exact ⟨receiver, hold, .of_eq rfl rfl⟩
  · exact noNewReplies_of_eq rfl

theorem noNewReplies_broadcast (r : Registry) (refusal : Nat → Option String)
    (message : ControlMessage) : r.NoNewReplies (r.broadcast refusal message) := by
  refine noNewReplies_of_receivers (fun id receiver' hget => ?_)
  rw [broadcast, SortedMap.get?_mapValues] at hget
  obtain ⟨receiver, hold, rfl⟩ := Option.map_eq_some_iff.mp hget
  refine ⟨receiver, hold, ?_⟩
  split_ifs
  · exact .of_eq rfl rfl
  · exact .of_eq rfl rfl

theorem noNewReplies_takeReply (r : Registry) (id request : Nat) :
    r.NoNewReplies (r.takeReply id request).2 := by
  refine noNewReplies_modify r id r.issued (fun receiver => ?_)
  refine ⟨?_, fun n tone h => h⟩
  intro n status h
  rw [SortedMap.get?_erase] at h
  split_ifs at h
  exact h

theorem noNewReplies_takeToneReply (r : Registry) (id request : Nat) :
    r.NoNewReplies (r.takeToneReply id request).2 := by
  refine noNewReplies_modify r id r.issued (fun receiver => ?_)
  refine ⟨fun n status h => h, ?_⟩
  intro n tone h
  rw [SortedMap.get?_erase] at h
  split_ifs at h
  exact h

end Registry

/-- An update stores the status as a reply to the request that it names. -/
theorem Receiver.updated_replies {receiver : Receiver} {status reply : DeviceStatus} {n : Nat}
    (h : (receiver.updated status).replies.get? n = some reply) :
    receiver.replies.get? n = some reply ∨
      (status.requestId = n ∧ status.sanitized = reply) := by
  have hobserved : (receiver.observe status.sanitized).replies = receiver.replies := by
    simp only [observe]
    split_ifs
    all_goals rfl
  rw [updated] at h
  split_ifs at h
  · simp only [store, hobserved] at h
    split_ifs at h
    · rw [SortedMap.get?_insert] at h
      split_ifs at h with hn
      · exact Or.inr ⟨hn.symm, Option.some.inj h⟩
      · exact Or.inl (SortedMap.get?_of_popFirst h)
    · rw [SortedMap.get?_insert] at h
      split_ifs at h with hn
      · exact Or.inr ⟨hn.symm, Option.some.inj h⟩
      · exact Or.inl h
    · exact Or.inl h
  · exact Or.inl h

theorem Receiver.updated_toneReplies (receiver : Receiver) (status : DeviceStatus) :
    (receiver.updated status).toneReplies = receiver.toneReplies := by
  rw [updated]
  split_ifs
  · simp only [store, observe]
    split_ifs
    all_goals rfl
  · rfl

namespace Registry

/-- A reply that a call adds is the status that it brings. -/
theorem react_hasReply {r : Registry} {e : RegistryEvent} {id n : Nat} {status : DeviceStatus}
    (h : (r.react e).HasReply id n status) :
    r.HasReply id n status ∨
      ∃ raw, e = .updateDevice id raw ∧ raw.requestId = n ∧ raw.sanitized = status := by
  cases e with
  | register => exact Or.inl ((noNewReplies_register r).1 _ _ _ h)
  | remove id' => exact Or.inl ((noNewReplies_remove r id').1 _ _ _ h)
  | updateDevice id' raw =>
      obtain ⟨receiver', hget, hreply⟩ := h
      rw [react, get?_updateDevice] at hget
      split_ifs at hget with hid
      · obtain ⟨receiver, hold, rfl⟩ := Option.map_eq_some_iff.mp hget
        rcases Receiver.updated_replies hreply with hreply | ⟨hn, hstatus⟩
        · exact Or.inl ⟨receiver, hold, hreply⟩
        · rw [hid]
          exact Or.inr ⟨raw, rfl, hn, hstatus⟩
      · exact Or.inl ⟨receiver', hget, hreply⟩
  | updateTone id' request playing failed =>
      refine Or.inl ?_
      obtain ⟨receiver', hget, hreply⟩ := h
      rw [react, updateTone] at hget
      split_ifs at hget
      · exact ⟨receiver', hget, hreply⟩
      · rw [SortedMap.get?_modify] at hget
        split_ifs at hget
        · obtain ⟨receiver, hold, rfl⟩ := Option.map_eq_some_iff.mp hget
          exact ⟨receiver, hold, hreply⟩
        · exact ⟨receiver', hget, hreply⟩
  | query id' refusal => exact Or.inl ((noNewReplies_plainRequest r _ _ _).1 _ _ _ h)
  | requestVolume id' index purpose refusal =>
      exact Or.inl ((noNewReplies_volumeRequest r _ _ _ _).1 _ _ _ h)
  | requestCalibration id' action refusal =>
      exact Or.inl ((noNewReplies_plainRequest r _ _ _).1 _ _ _ h)
  | requestTone id' enabled refusal =>
      exact Or.inl ((noNewReplies_plainRequest r _ _ _).1 _ _ _ h)
  | broadcast message refusal =>
      exact Or.inl ((noNewReplies_broadcast r refusal message).1 _ _ _ h)
  | takeReply id' request => exact Or.inl ((noNewReplies_takeReply r _ _).1 _ _ _ h)
  | takeToneReply id' request => exact Or.inl ((noNewReplies_takeToneReply r _ _).1 _ _ _ h)

/-- A tone state that a call adds is the one that it brings. -/
theorem react_hasToneReply {r : Registry} {e : RegistryEvent} {id n : Nat} {tone : Bool × Bool}
    (h : (r.react e).HasToneReply id n tone) :
    r.HasToneReply id n tone ∨ e = .updateTone id n tone.1 tone.2 := by
  cases e with
  | register => exact Or.inl ((noNewReplies_register r).2 _ _ _ h)
  | remove id' => exact Or.inl ((noNewReplies_remove r id').2 _ _ _ h)
  | updateDevice id' raw =>
      refine Or.inl ?_
      obtain ⟨receiver', hget, hreply⟩ := h
      rw [react, get?_updateDevice] at hget
      split_ifs at hget
      · obtain ⟨receiver, hold, rfl⟩ := Option.map_eq_some_iff.mp hget
        rw [Receiver.updated_toneReplies] at hreply
        exact ⟨receiver, hold, hreply⟩
      · exact ⟨receiver', hget, hreply⟩
  | updateTone id' request playing failed =>
      obtain ⟨receiver', hget, hreply⟩ := h
      rw [react, updateTone] at hget
      split_ifs at hget
      · exact Or.inl ⟨receiver', hget, hreply⟩
      · rw [SortedMap.get?_modify] at hget
        split_ifs at hget with hid
        · obtain ⟨receiver, hold, rfl⟩ := Option.map_eq_some_iff.mp hget
          simp only [SortedMap.get?_insert] at hreply
          split_ifs at hreply with hn hfull
          · cases hreply
            rw [hid, hn]
            exact Or.inr rfl
          · exact Or.inl ⟨receiver, hold, SortedMap.get?_of_popFirst hreply⟩
          · exact Or.inl ⟨receiver, hold, hreply⟩
        · exact Or.inl ⟨receiver', hget, hreply⟩
  | query id' refusal => exact Or.inl ((noNewReplies_plainRequest r _ _ _).2 _ _ _ h)
  | requestVolume id' index purpose refusal =>
      exact Or.inl ((noNewReplies_volumeRequest r _ _ _ _).2 _ _ _ h)
  | requestCalibration id' action refusal =>
      exact Or.inl ((noNewReplies_plainRequest r _ _ _).2 _ _ _ h)
  | requestTone id' enabled refusal =>
      exact Or.inl ((noNewReplies_plainRequest r _ _ _).2 _ _ _ h)
  | broadcast message refusal =>
      exact Or.inl ((noNewReplies_broadcast r refusal message).2 _ _ _ h)
  | takeReply id' request => exact Or.inl ((noNewReplies_takeReply r _ _).2 _ _ _ h)
  | takeToneReply id' request => exact Or.inl ((noNewReplies_takeToneReply r _ _).2 _ _ _ h)

end Registry

end Replies

section Evolution

/-- The request id that was drawn for a message. -/
def ControlMessage.drawnId : ControlMessage → Option Nat
  | .queryDevice n => if n = 0 then none else some n
  | .setVolume n _ _ => if n = 0 then none else some n
  | .calibrationTone n _ => if n = 0 then none else some n
  | .calibrationSession n _ => if n = 0 then none else some n
  | _ => none

/-- The request id that an entry says was drawn. -/
def CalibrationEntry.drawnId : CalibrationEntry → Option Nat
  | .attempt _ message _ => message.drawnId
  | .drawn n => some n
  | _ => none

/-- The request ids that were drawn, in order. -/
def drawnIds (log : List CalibrationEntry) : List Nat :=
  log.filterMap CalibrationEntry.drawnId

theorem drawnIds_append (log log' : List CalibrationEntry) :
    drawnIds (log ++ log') = drawnIds log ++ drawnIds log' :=
  List.filterMap_append

/-- A status that names a request arrived from a receiver. -/
def Arrived (log : List CalibrationEntry) (id request : Nat) (status : DeviceStatus) : Prop :=
  ∃ raw, .arrived id raw ∈ log ∧ raw.requestId = request ∧ raw.sanitized = status

theorem Arrived.append {log : List CalibrationEntry} {id request : Nat} {status : DeviceStatus}
    (h : Arrived log id request status) (new : List CalibrationEntry) :
    Arrived (log ++ new) id request status := by
  obtain ⟨raw, hmem, hrest⟩ := h
  exact ⟨raw, List.mem_append_left _ hmem, hrest⟩

theorem Registry.requestId_ne_zero (r : Registry) : r.requestId ≠ 0 := by
  have hpos : 1 ≤ r.requestId := le_max_right _ _
  omega

/-- The ids that a call draws are those that the counter gives out. -/
theorem Registry.react_issued (r : Registry) (e : RegistryEvent) :
    (drawnIds (e.entries r) = [] ∧ (r.react e).issued = r.issued) ∨
      (drawnIds (e.entries r) = [r.requestId] ∧ (r.react e).issued = r.issued + 1) := by
  cases e with
  | query id refusal => exact Or.inr ⟨rfl, plainRequest_issued r _ _ _⟩
  | requestVolume id index purpose refusal =>
      exact Or.inr ⟨rfl, volumeRequestWithBarrier_issued r _ _ _ _ _⟩
  | requestCalibration id action refusal => exact Or.inr ⟨rfl, plainRequest_issued r _ _ _⟩
  | requestTone id enabled refusal => exact Or.inr ⟨rfl, plainRequest_issued r _ _ _⟩
  | remove id =>
      refine Or.inl ⟨rfl, ?_⟩
      rw [react, remove]
      split_ifs
      · rfl
      · rfl
  | updateDevice id status =>
      refine Or.inl ⟨rfl, ?_⟩
      rw [react, updateDevice]
      split_ifs
      · rfl
      · rfl
  | updateTone id request playing failed =>
      refine Or.inl ⟨rfl, ?_⟩
      rw [react, updateTone]
      split_ifs
      · rfl
      · rfl
  | _ => exact Or.inl ⟨rfl, rfl⟩

namespace Calibrator

/-- The log tells where the replies come from, and which request ids were drawn. -/
structure Sound (s : Calibrator) : Prop where
  replies : ∀ {id n status}, s.registry.HasReply id n status → Arrived s.log id n status
  tones : ∀ {id n tone}, s.registry.HasToneReply id n tone →
    .toneArrived id n tone.1 tone.2 ∈ s.log
  answered : ∀ {id n status}, .answered id n status ∈ s.log → Arrived s.log id n status
  toneAnswered : ∀ {id n playing failed}, .toneAnswered id n playing failed ∈ s.log →
    .toneArrived id n playing failed ∈ s.log
  numbered : ∃ k, s.registry.issued = k + 1 ∧
    drawnIds s.log = (List.range k).map (fun n => max ((n + 1) % 2 ^ 32) 1)

/-- Everything starts with an empty registry. -/
def start (script : List Turn) : Calibrator where
  registry := .empty
  cancelled := false
  script := script
  begun := []
  message := ""
  log := []

theorem sound_start (script : List Turn) : (start script).Sound where
  replies := by
    rintro id n status ⟨receiver, hget, hreply⟩
    cases hget
  tones := by
    rintro id n tone ⟨receiver, hget, hreply⟩
    cases hget
  answered := fun h => by cases h
  toneAnswered := fun h => by cases h
  numbered := ⟨0, rfl, rfl⟩

/-- A call of the registry keeps the log sound, if its entries say what it did. -/
theorem Sound.react {s t : Calibrator} (hs : s.Sound) {e : RegistryEvent}
    {new : List CalibrationEntry} (hregistry : t.registry = s.registry.react e)
    (hlog : t.log = s.log ++ new)
    (harrived : ∀ id raw, e = .updateDevice id raw → .arrived id raw ∈ new)
    (htone : ∀ id n playing failed, e = .updateTone id n playing failed →
      .toneArrived id n playing failed ∈ new)
    (hdrawn : drawnIds new = drawnIds (e.entries s.registry))
    (hanswered : ∀ id n status, .answered id n status ∈ new → s.registry.HasReply id n status)
    (htoneAnswered : ∀ id n playing failed, .toneAnswered id n playing failed ∈ new →
      s.registry.HasToneReply id n (playing, failed)) : t.Sound where
  replies := by
    intro id n status h
    rw [hregistry] at h
    rw [hlog]
    rcases Registry.react_hasReply h with h | ⟨raw, he, hn, hstatus⟩
    · exact (hs.replies h).append new
    · exact ⟨raw, List.mem_append_right _ (harrived id raw he), hn, hstatus⟩
  tones := by
    intro id n tone h
    rw [hregistry] at h
    rw [hlog]
    rcases Registry.react_hasToneReply h with h | he
    · exact List.mem_append_left _ (hs.tones h)
    · exact List.mem_append_right _ (htone id n _ _ he)
  answered := by
    intro id n status h
    rw [hlog] at h ⊢
    rcases List.mem_append.mp h with h | h
    · exact (hs.answered h).append new
    · exact (hs.replies (hanswered id n status h)).append new
  toneAnswered := by
    intro id n playing failed h
    rw [hlog] at h ⊢
    rcases List.mem_append.mp h with h | h
    · exact List.mem_append_left _ (hs.toneAnswered h)
    · exact List.mem_append_left _ (hs.tones (htoneAnswered id n playing failed h))
  numbered := by
    obtain ⟨k, hissued, hids⟩ := hs.numbered
    rw [hregistry, hlog, drawnIds_append, hids, hdrawn]
    rcases s.registry.react_issued e with ⟨hnone, hsame⟩ | ⟨hone, hnext⟩
    · exact ⟨k, hsame.trans hissued, by rw [hnone, List.append_nil]⟩
    · refine ⟨k + 1, by rw [hnext, hissued], ?_⟩
      rw [hone, List.range_succ, List.map_append, List.map_singleton, Registry.requestId, hissued]

/-- The thread only adds to the log, with attempts of an allowed kind, and does not touch
the list of begun sessions. -/
structure Evolves (allowed : Nat → ControlMessage → Prop) (s t : Calibrator) : Prop where
  grows : ∃ new, t.log = s.log ++ new ∧
    ∀ id message queued, .attempt id message queued ∈ new → allowed id message
  sound : s.Sound → t.Sound
  begun : t.begun = s.begun

variable {allowed : Nat → ControlMessage → Prop}

/-- The thread attempts nothing. -/
abbrev Silent : Calibrator → Calibrator → Prop := Evolves (fun _ _ => False)

theorem Evolves.refl (s : Calibrator) : Evolves allowed s s :=
  ⟨⟨[], (List.append_nil _).symm, fun _ _ _ h => by cases h⟩, id, rfl⟩

theorem Evolves.trans {s t u : Calibrator} (h : Evolves allowed s t) (h' : Evolves allowed t u) :
    Evolves allowed s u := by
  obtain ⟨new, hlog, hallowed⟩ := h.grows
  obtain ⟨new', hlog', hallowed'⟩ := h'.grows
  refine ⟨⟨new ++ new', by rw [hlog', hlog, List.append_assoc], ?_⟩,
    fun hs => h'.sound (h.sound hs), h'.begun.trans h.begun⟩
  intro id message queued hmem
  rcases List.mem_append.mp hmem with hmem | hmem
  · exact hallowed id message queued hmem
  · exact hallowed' id message queued hmem

instance : IsPreorder Calibrator (Evolves allowed) where
  refl := Evolves.refl
  trans := fun _ _ _ => Evolves.trans

theorem Evolves.of_eq {s t : Calibrator} (hregistry : t.registry = s.registry)
    (hlog : t.log = s.log) (hbegun : t.begun = s.begun) : Evolves allowed s t := by
  refine ⟨⟨[], by rw [hlog, List.append_nil], fun _ _ _ h => by cases h⟩, ?_, hbegun⟩
  intro hs
  exact
    { replies := by
        rw [hregistry, hlog]
        exact hs.replies
      tones := by
        rw [hregistry, hlog]
        exact hs.tones
      answered := by
        rw [hlog]
        exact hs.answered
      toneAnswered := by
        rw [hlog]
        exact hs.toneAnswered
      numbered := by
        rw [hregistry, hlog]
        exact hs.numbered }

/-- What other threads do is no attempt of the thread. -/
theorem evolves_observe (s : Calibrator) (e : RegistryEvent) : Evolves allowed s (s.observe e) := by
  refine ⟨⟨e.entries s.registry, rfl, ?_⟩, ?_, rfl⟩
  · intro id message queued h
    cases e with
    | _ => simp [RegistryEvent.entries] at h
  · intro hs
    refine hs.react rfl rfl ?_ ?_ rfl ?_ ?_
    · rintro id raw rfl
      exact List.mem_singleton_self _
    · rintro id n playing failed rfl
      exact List.mem_singleton_self _
    · intro id n status h
      cases e with
      | _ => simp [RegistryEvent.entries] at h
    · intro id n playing failed h
      cases e with
      | _ => simp [RegistryEvent.entries] at h

theorem within_turn : Within (Evolves allowed) turn := by
  intro s
  have hevents : ∀ (events : List RegistryEvent) (s : Calibrator),
      Evolves allowed s (Soundwave.run observe s events) := by
    intro events
    induction events with
    | nil => exact Evolves.refl
    | cons e events ih => exact fun s => (evolves_observe s e).trans (ih (s.observe e))
  rw [turn]
  cases hscript : s.script with
  | nil => exact .refl s
  | cons t rest => exact (hevents t.events s).trans (.of_eq rfl rfl rfl)

section Plain

variable {α : Type} {R : Calibrator → Calibrator → Prop} [IsPreorder Calibrator R]

theorem within_bail (text : String) : Within R (bail text : Calibrating α) :=
  within_throw _

theorem within_ensure (condition : Bool) (text : String) : Within R (ensure condition text) :=
  within_ite (within_pure _) (within_bail _)

theorem within_question (x : Except String α) : Within R (question x) := by
  cases x with
  | ok a => exact within_pure a
  | error text => exact within_bail text

omit [IsPreorder Calibrator R] in
theorem within_result {x : Calibrating α} (hx : Within R x) : Within R (result x) :=
  hx

end Plain

theorem within_say (text : String) : Within (Evolves allowed) (say text) :=
  within_modify (fun _ => .of_eq rfl rfl rfl)

theorem within_isCancelled (token : CancellationToken) :
    Within (Evolves allowed) (isCancelled token) :=
  within_bind within_turn (fun _ => within_gets _)

theorem within_openMicrophone : Within (Evolves allowed) openMicrophone :=
  within_bind within_turn (fun _ => within_question _)

theorem within_listen : Within (Evolves allowed) listen :=
  within_bind within_turn (fun _ => within_question _)

theorem within_snapshots : Within (Evolves allowed) snapshots :=
  within_bind within_turn (fun _ => within_gets _)

theorem within_takeReply (id request : Nat) : Within (Evolves allowed) (takeReply id request) := by
  refine within_bind within_turn (fun _ s => ?_)
  refine ⟨⟨_, rfl, ?_⟩, ?_, rfl⟩
  · intro id' message queued h
    simp at h
  · intro hs
    refine hs.react (e := .takeReply id request) rfl rfl ?_ ?_ ?_ ?_ ?_
    · rintro id' raw h
      cases h
    · rintro id' n playing failed h
      cases h
    · simp [drawnIds, RegistryEvent.entries, CalibrationEntry.drawnId]
    · intro id' n status h
      simp only [List.mem_map, Option.mem_toList] at h
      obtain ⟨status', hreply, heq⟩ := h
      cases heq
      obtain ⟨receiver, hget, hstatus⟩ := Option.bind_eq_some_iff.mp hreply
      exact ⟨receiver, hget, hstatus⟩
    · intro id' n playing failed h
      simp at h

theorem within_takeToneReply (id request : Nat) :
    Within (Evolves allowed) (takeToneReply id request) := by
  refine within_bind within_turn (fun _ s => ?_)
  refine ⟨⟨_, rfl, ?_⟩, ?_, rfl⟩
  · intro id' message queued h
    simp at h
  · intro hs
    refine hs.react (e := .takeToneReply id request) rfl rfl ?_ ?_ ?_ ?_ ?_
    · rintro id' raw h
      cases h
    · rintro id' n playing failed h
      cases h
    · simp [drawnIds, RegistryEvent.entries, CalibrationEntry.drawnId]
    · intro id' n status h
      simp at h
    · intro id' n playing failed h
      simp only [List.mem_map, Option.mem_toList] at h
      obtain ⟨tone, hreply, heq⟩ := h
      cases heq
      obtain ⟨receiver, hget, htone⟩ := Option.bind_eq_some_iff.mp hreply
      exact ⟨receiver, hget, htone⟩

theorem within_broadcast {message : ControlMessage} (hmessage : message.drawnId = none)
    (hallowed : ∀ id, allowed id message) : Within (Evolves allowed) (broadcast message) := by
  refine within_bind within_turn (fun t s => ?_)
  refine ⟨⟨_, rfl, ?_⟩, ?_, rfl⟩
  · intro id message' queued h
    simp only [List.mem_map] at h
    obtain ⟨e, -, heq⟩ := h
    cases heq
    exact hallowed e.1
  · intro hs
    refine hs.react (e := .broadcast message t.refusal) rfl rfl ?_ ?_ ?_ ?_ ?_
    · rintro id raw h
      cases h
    · rintro id n playing failed h
      cases h
    · simp [drawnIds, RegistryEvent.entries, CalibrationEntry.drawnId, hmessage]
    · intro id n status h
      simp at h
    · intro id n playing failed h
      simp at h

section Requests

/-- The call draws one id and returns it. -/
structure IsRequest (request : Registry → Except String Nat × Registry) : Prop where
  reacts : ∀ r, ∃ e, (request r).2 = r.react e ∧ drawnIds (e.entries r) = [r.requestId]
  returns : ∀ r n, (request r).1 = .ok n → n = r.requestId

theorem isRequest_plainRequest {refusal : Nat → Option String} {id : Nat}
    {message : Nat → ControlMessage}
    (h : ∀ r : Registry, ∃ e, (r.plainRequest refusal id message).2 = r.react e ∧
      drawnIds (e.entries r) = [r.requestId]) :
    IsRequest (fun r => r.plainRequest refusal id message) where
  reacts := h
  returns := by
    intro r n hn
    rcases r.plainRequest_cases refusal id message with ⟨e, heq⟩ | heq
    · rw [heq] at hn
      cases hn
    · rw [heq] at hn
      exact (Except.ok.inj hn).symm

theorem isRequest_volumeRequest (refusal : Nat → Option String) (id index : Nat)
    (purpose : VolumePurpose) : IsRequest (fun r => r.volumeRequest refusal id index purpose) where
  reacts := fun _ => ⟨.requestVolume id index purpose refusal, rfl, rfl⟩
  returns := by
    intro r n hn
    rw [Registry.volumeRequest] at hn
    rcases r.volumeRequestWithBarrier_cases refusal id index purpose false with ⟨e, heq⟩ | heq
    · rw [heq] at hn
      cases hn
    · rw [heq] at hn
      exact (Except.ok.inj hn).symm

/-- What a request leaves behind: one attempt, which was queued if and only if the request
returns. -/
theorem logged_spec {id : Nat} {message : Nat → ControlMessage}
    {request : Registry → Except String Nat × Registry} (hrequest : IsRequest request)
    (s : Calibrator) :
    ∃ queued,
      (logged id message request s).2 =
        { s with
            registry := (request s.registry).2
            log := s.log ++ [.attempt id (message s.registry.requestId) queued] } ∧
      ((queued = true ∧ (logged id message request s).1 = .ok s.registry.requestId) ∨
        (queued = false ∧ ∃ text, (logged id message request s).1 = .error text)) := by
  have hreturns := hrequest.returns s.registry
  rw [logged]
  rcases hresult : request s.registry with ⟨outcome, r⟩
  rw [hresult] at hreturns
  cases outcome with
  | ok n =>
      obtain rfl := hreturns n rfl
      exact ⟨true, rfl, Or.inl ⟨rfl, rfl⟩⟩
  | error text => exact ⟨false, rfl, Or.inr ⟨rfl, text, rfl⟩⟩

theorem within_logged {id : Nat} {message : Nat → ControlMessage}
    {request : Registry → Except String Nat × Registry} (hrequest : IsRequest request)
    (hmessage : ∀ n, n ≠ 0 → (message n).drawnId = some n)
    (hallowed : ∀ n, allowed id (message n)) :
    Within (Evolves allowed) (logged id message request) := by
  intro s
  obtain ⟨queued, hstate, -⟩ := @logged_spec id message request hrequest s
  obtain ⟨e, hreact, hdrawn⟩ := hrequest.reacts s.registry
  rw [hstate]
  refine ⟨⟨_, rfl, ?_⟩, ?_, rfl⟩
  · intro id' message' queued' h
    cases List.mem_singleton.mp h
    exact hallowed _
  · intro hs
    refine hs.react hreact rfl ?_ ?_ ?_ ?_ ?_
    · rintro id' raw rfl
      cases hdrawn
    · rintro id' n playing failed rfl
      cases hdrawn
    · rw [hdrawn]
      simp [drawnIds, CalibrationEntry.drawnId, hmessage _ s.registry.requestId_ne_zero]
    · intro id' n status h
      cases List.mem_singleton.mp h
    · intro id' n playing failed h
      cases List.mem_singleton.mp h

/-- The computation attempts to send one message with a new id, which it returns. -/
structure Requests (id : Nat) (message : Nat → ControlMessage) (x : Calibrating Nat) : Prop where
  within : ∀ allowed : Nat → ControlMessage → Prop, (∀ n, allowed id (message n)) →
    Within (Evolves allowed) x
  attempts : ∀ s, ∃ t n queued, Silent s t ∧ n ≠ 0 ∧
    (x s).2.log = t.log ++ [.attempt id (message n) queued] ∧
    ((queued = true ∧ (x s).1 = .ok n) ∨ (queued = false ∧ ∃ text, (x s).1 = .error text))

theorem requests_logged {id : Nat} {message : Nat → ControlMessage}
    {request : Turn → Registry → Except String Nat × Registry}
    (hrequest : ∀ t, IsRequest (request t))
    (hmessage : ∀ n, n ≠ 0 → (message n).drawnId = some n) :
    Requests id message (turn >>= fun t => logged id message (request t)) where
  within := fun _ hallowed =>
    within_bind within_turn (fun t => within_logged (hrequest t) hmessage hallowed)
  attempts := by
    intro s
    have hturn : ∃ t, (turn s).1 = .ok t := by
      rw [turn]
      cases s.script with
      | nil => exact ⟨_, rfl⟩
      | cons t rest => exact ⟨_, rfl⟩
    obtain ⟨t, ht⟩ := hturn
    have hbind : (turn >>= fun t => logged id message (request t)) s =
        logged id message (request t) (turn s).2 := by
      rw [Throwing.bind_apply]
      rcases hresult : turn s with ⟨outcome, u⟩
      rw [hresult] at ht
      cases ht
      rfl
    obtain ⟨queued, hstate, hreturns⟩ := @logged_spec id message _ (hrequest t) (turn s).2
    rw [hbind]
    refine ⟨(turn s).2, _, queued, within_turn s, Registry.requestId_ne_zero _, ?_, hreturns⟩
    rw [hstate]

theorem requests_query (id : Nat) :
    Requests id (fun n => .queryDevice n) (queryRequest id) :=
  requests_logged
    (fun t => isRequest_plainRequest (fun _ => ⟨.query id t.refusal, rfl, rfl⟩))
    (fun _ hn => if_neg hn)

theorem requests_calibrationVolume (id index : Nat) :
    Requests id (fun n => .setVolume n index .calibration) (calibrationVolumeRequest id index) :=
  requests_logged (fun _ => isRequest_volumeRequest _ _ _ _) (fun _ hn => if_neg hn)

theorem requests_calibration (id : Nat) (action : CalibrationAction) :
    Requests id (fun n => .calibrationSession n action) (calibrationRequest id action) :=
  requests_logged
    (fun t => isRequest_plainRequest (fun _ => ⟨.requestCalibration id action t.refusal, rfl, rfl⟩))
    (fun _ hn => if_neg hn)

theorem requests_tone (id : Nat) (enabled : Bool) :
    Requests id (fun n => .calibrationTone n enabled) (toneRequest id enabled) :=
  requests_logged
    (fun t => isRequest_plainRequest (fun _ => ⟨.requestTone id enabled t.refusal, rfl, rfl⟩))
    (fun _ hn => if_neg hn)

end Requests

section Waits

variable {α β : Type}

/-- The thread added an entry to the log. -/
def Logs (e : CalibrationEntry) (s t : Calibrator) : Prop :=
  ∃ new, t.log = s.log ++ new ∧ e ∈ new

theorem Logs.after {e : CalibrationEntry} {s t u : Calibrator} (h : Evolves allowed s t)
    (h' : Logs e t u) : Logs e s u := by
  obtain ⟨new, hlog, -⟩ := h.grows
  obtain ⟨new', hlog', hmem⟩ := h'
  exact ⟨new ++ new', by rw [hlog', hlog, List.append_assoc], List.mem_append_right _ hmem⟩

theorem ensure_eq_ok {condition : Bool} {text : String} {s t : Calibrator} {u : Unit}
    (h : ensure condition text s = (.ok u, t)) : condition = true ∧ t = s := by
  cases condition with
  | true =>
      cases h
      exact ⟨rfl, rfl⟩
  | false => cases h

theorem question_eq_ok {x : Except String α} {s t : Calibrator} {a : α}
    (h : question x s = (.ok a, t)) : x = .ok a ∧ t = s := by
  cases x with
  | ok a' =>
      cases h
      exact ⟨rfl, rfl⟩
  | error text => cases h

theorem within_round {token : CancellationToken} {poll : Calibrating (Option α)}
    {later : Calibrating α} (hpoll : Within (Evolves allowed) poll)
    (hlater : Within (Evolves allowed) later) :
    Within (Evolves allowed) (round token poll later) := by
  refine within_bind (within_isCancelled token) (fun _ => ?_)
  refine within_bind (within_ensure _ _) (fun _ => ?_)
  refine within_bind hpoll (fun reply => ?_)
  cases reply with
  | some a => exact within_pure a
  | none => exact hlater

theorem within_rounds {id : Nat} {token : CancellationToken} {timeout : String}
    {poll : Calibrating (Option α)} (hpoll : Within (Evolves allowed) poll) (n : Nat) :
    Within (Evolves allowed) (rounds id token timeout poll n) := by
  induction n with
  | zero => exact within_round hpoll (within_bail _)
  | succ n ih =>
      refine within_round hpoll ?_
      exact within_bind within_snapshots (fun _ => within_bind (within_ensure _ _) (fun _ => ih))

/-- A round that returns saw a reply, or the rest of the loop did. -/
theorem round_eq_ok {token : CancellationToken} {poll : Calibrating (Option α)}
    {later : Calibrating α} {s t : Calibrator} {a : α}
    (h : round token poll later s = (.ok a, t)) :
    ∃ u, Silent s u ∧
      (poll u = (.ok (some a), t) ∨
        ∃ v, poll u = (.ok none, v) ∧ later v = (.ok a, t)) := by
  rw [round, Throwing.bind_eq_ok_iff] at h
  obtain ⟨cancelled, u, hcancelled, h⟩ := h
  rw [Throwing.bind_eq_ok_iff] at h
  obtain ⟨_, u', hensure, h⟩ := h
  obtain ⟨-, rfl⟩ := ensure_eq_ok hensure
  rw [Throwing.bind_eq_ok_iff] at h
  obtain ⟨reply, v, hpoll, h⟩ := h
  have hu : Silent s u' := by
    have hwithin : Silent s (isCancelled token s).2 := within_isCancelled token s
    rw [hcancelled] at hwithin
    exact hwithin
  refine ⟨u', hu, ?_⟩
  cases reply with
  | some a' =>
      cases h
      exact Or.inl hpoll
  | none => exact Or.inr ⟨v, hpoll, h⟩

/-- A loop that returns saw a reply in its last round. -/
theorem rounds_eq_ok {id : Nat} {token : CancellationToken} {timeout : String}
    {poll : Calibrating (Option α)} (hpoll : Within (Silent) poll) {n : Nat}
    {s t : Calibrator} {a : α} (h : rounds id token timeout poll n s = (.ok a, t)) :
    ∃ u, Silent s u ∧ poll u = (.ok (some a), t) := by
  induction n generalizing s with
  | zero =>
      obtain ⟨u, hu, hreply | ⟨v, -, hlater⟩⟩ := round_eq_ok h
      · exact ⟨u, hu, hreply⟩
      · cases hlater
  | succ n ih =>
      obtain ⟨u, hu, hreply | ⟨v, hnone, hlater⟩⟩ := round_eq_ok h
      · exact ⟨u, hu, hreply⟩
      · rw [Throwing.bind_eq_ok_iff] at hlater
        obtain ⟨receivers, w, hreceivers, hlater⟩ := hlater
        rw [Throwing.bind_eq_ok_iff] at hlater
        obtain ⟨_, w', hensure, hlater⟩ := hlater
        obtain ⟨-, rfl⟩ := ensure_eq_ok hensure
        obtain ⟨u', hu', hreply⟩ := ih hlater
        have hv := hpoll u
        have hw : Silent v (snapshots v).2 := within_snapshots v
        rw [hnone] at hv
        rw [hreceivers] at hw
        exact ⟨u', ((hu.trans hv).trans hw).trans hu', hreply⟩

theorem within_pollReply (id request : Nat) : Within (Evolves allowed) (pollReply id request) := by
  refine within_bind (within_takeReply id request) (fun reply => ?_)
  cases reply with
  | some status => exact within_bind (within_ensure _ _) (fun _ => within_pure _)
  | none => exact within_pure _

theorem within_pollTone (id request : Nat) (enabled : Bool) :
    Within (Evolves allowed) (pollTone id request enabled) := by
  refine within_bind (within_takeToneReply id request) (fun reply => ?_)
  cases reply with
  | some tone => exact within_bind (within_ensure _ _) (fun _ => within_pure _)
  | none => exact within_pure _

theorem within_awaitReply (id request : Nat) (token : CancellationToken) :
    Within (Evolves allowed) (awaitReply id request token) :=
  within_bind within_turn (fun _ => within_rounds (within_pollReply id request) _)

/-- A reply that was taken is in the log. -/
theorem pollReply_eq_ok {id request : Nat} {s t : Calibrator} {status : DeviceStatus}
    (h : pollReply id request s = (.ok (some status), t)) :
    Logs (.answered id request status) s t := by
  rw [pollReply, Throwing.bind_eq_ok_iff] at h
  obtain ⟨reply, u, htake, h⟩ := h
  cases reply with
  | none => cases h
  | some status' =>
      rw [Throwing.bind_eq_ok_iff] at h
      obtain ⟨_, v, hensure, h⟩ := h
      obtain ⟨-, rfl⟩ := ensure_eq_ok hensure
      cases h
      rw [takeReply, Throwing.bind_eq_ok_iff] at htake
      obtain ⟨turn', w, hturn, htake⟩ := htake
      have hw : Silent s (turn s).2 := within_turn s
      rw [hturn] at hw
      refine Logs.after hw ⟨[.answered id request status], ?_, List.mem_singleton_self _⟩
      obtain ⟨hreply, rfl⟩ := Prod.mk.inj htake
      have htaken : (w.registry.takeReply id request).1 = some status := Except.ok.inj hreply
      show w.log ++ (w.registry.takeReply id request).1.toList.map _ = w.log ++ _
      rw [htaken]
      rfl

theorem pollTone_eq_ok {id request n : Nat} {enabled : Bool} {s t : Calibrator}
    (h : pollTone id request enabled s = (.ok (some n), t)) :
    n = request ∧ Logs (.toneAnswered id request enabled false) s t := by
  rw [pollTone, Throwing.bind_eq_ok_iff] at h
  obtain ⟨reply, u, htake, h⟩ := h
  cases reply with
  | none => cases h
  | some tone =>
      obtain ⟨playing, failed⟩ := tone
      rw [Throwing.bind_eq_ok_iff] at h
      obtain ⟨_, v, hensure, h⟩ := h
      obtain ⟨htone, rfl⟩ := ensure_eq_ok hensure
      simp only [Bool.and_eq_true, Bool.not_eq_true', decide_eq_true_eq] at htone
      obtain ⟨rfl, rfl⟩ := htone
      cases h
      refine ⟨rfl, ?_⟩
      rw [takeToneReply, Throwing.bind_eq_ok_iff] at htake
      obtain ⟨turn', w, hturn, htake⟩ := htake
      have hw : Silent s (turn s).2 := within_turn s
      rw [hturn] at hw
      refine Logs.after hw ⟨[.toneAnswered id request playing false], ?_,
        List.mem_singleton_self _⟩
      obtain ⟨hreply, rfl⟩ := Prod.mk.inj htake
      have htaken : (w.registry.takeToneReply id request).1 = some (playing, false) :=
        Except.ok.inj hreply
      show w.log ++ (w.registry.takeToneReply id request).1.toList.map _ = w.log ++ _
      rw [htaken]
      rfl

theorem awaitReply_eq_ok {id request : Nat} {token : CancellationToken} {s t : Calibrator}
    {status : DeviceStatus} (h : awaitReply id request token s = (.ok status, t)) :
    Logs (.answered id request status) s t := by
  rw [awaitReply, Throwing.bind_eq_ok_iff] at h
  obtain ⟨turn', u, hturn, h⟩ := h
  have hu : Silent s (turn s).2 := within_turn s
  rw [hturn] at hu
  obtain ⟨v, hv, hreply⟩ := rounds_eq_ok (within_pollReply id request) h
  exact Logs.after hu (Logs.after hv (pollReply_eq_ok hreply))

/-- A list of entries without attempts. -/
def Quiet (log : List CalibrationEntry) : Prop :=
  ∀ id message queued, .attempt id message queued ∉ log

/-- The computation attempts to send one message with a new id and waits.  If it returns,
the message was queued and the log has the reply. -/
structure Waits (id : Nat) (message : Nat → ControlMessage) (entry : Nat → α → CalibrationEntry)
    (x : Calibrating α) : Prop where
  within : ∀ allowed : Nat → ControlMessage → Prop, (∀ n, allowed id (message n)) →
    Within (Evolves allowed) x
  attempts : ∀ s, ∃ before n queued after, n ≠ 0 ∧
    (x s).2.log = s.log ++ before ++ .attempt id (message n) queued :: after ∧
    Quiet before ∧ Quiet after ∧ ∀ a, (x s).1 = .ok a → queued = true ∧ entry n a ∈ after

theorem waits_bind {id : Nat} {message : Nat → ControlMessage}
    {entry : Nat → α → CalibrationEntry} {x : Calibrating Nat} {f : Nat → Calibrating α}
    (hx : Requests id message x) (hf : ∀ allowed n, Within (Evolves allowed) (f n))
    (hreply : ∀ n s a t, f n s = (.ok a, t) → Logs (entry n a) s t) :
    Waits id message entry (x >>= f) where
  within := fun allowed hallowed => within_bind (hx.within allowed hallowed) (hf allowed)
  attempts := by
    intro s
    obtain ⟨t, n, queued, ht, hn, hattempt, hreturns⟩ := hx.attempts s
    obtain ⟨before, hbefore, hquiet⟩ := ht.grows
    have hafter : Silent (x s).2 ((x >>= f) s).2 := after_bind (hf _) s
    obtain ⟨after, hlog, hquiet'⟩ := hafter.grows
    refine ⟨before, n, queued, after, hn, ?_, hquiet, hquiet', ?_⟩
    · rw [hlog, hattempt, hbefore]
      simp
    · intro a ha
      rcases hresult : (x >>= f) s with ⟨outcome, u⟩
      rw [hresult] at ha hlog
      cases ha
      obtain ⟨m, v, hm, hv⟩ := Throwing.bind_eq_ok_iff.mp hresult
      rw [hm] at hreturns hlog
      rcases hreturns with ⟨hqueued, hsame⟩ | ⟨-, text, herror⟩
      · cases hsame
        obtain ⟨new, hnew, hmem⟩ := hreply n v a u hv
        have hsame : after = new := List.append_cancel_left (hlog.symm.trans hnew)
        rw [hsame]
        exact ⟨hqueued, hmem⟩
      · cases herror

theorem waits_switchTone (id : Nat) (enabled : Bool) (token : CancellationToken) :
    Waits id (fun n => .calibrationTone n enabled)
      (fun n _ => .toneAnswered id n enabled false) (switchTone id enabled token) := by
  refine waits_bind (requests_tone id enabled) ?_ ?_
  · intro allowed n
    exact within_bind within_turn (fun _ => within_rounds (within_pollTone id n enabled) _)
  · intro n s m t h
    obtain ⟨turn', u, hturn, h⟩ := Throwing.bind_eq_ok_iff.mp h
    have hu : Silent s (turn s).2 := within_turn s
    rw [hturn] at hu
    obtain ⟨v, hv, hreply⟩ := rounds_eq_ok (within_pollTone id n enabled) h
    exact Logs.after hu (Logs.after hv (pollTone_eq_ok hreply).2)

theorem waits_exchangeSession (id : Nat) (action : CalibrationAction)
    (token : CancellationToken) :
    Waits id (fun n => .calibrationSession n action) (fun n status => .answered id n status)
      (exchangeSession id action token) :=
  waits_bind (requests_calibration id action) (fun _ n => within_awaitReply id n token)
    (fun _ _ _ _ h => awaitReply_eq_ok h)

theorem waits_query (id : Nat) (token : CancellationToken) :
    Waits id (fun n => .queryDevice n) (fun n status => .answered id n status)
      (exchange id none token) :=
  waits_bind (requests_query id) (fun _ n => within_awaitReply id n token)
    (fun _ _ _ _ h => awaitReply_eq_ok h)

theorem waits_setVolume (id index : Nat) (token : CancellationToken) :
    Waits id (fun n => .setVolume n index .calibration) (fun n status => .answered id n status)
      (exchange id (some index) token) :=
  waits_bind (requests_calibrationVolume id index) (fun _ n => within_awaitReply id n token)
    (fun _ _ _ _ h => awaitReply_eq_ok h)

end Waits

end Calibrator

end Evolution

end Soundwave

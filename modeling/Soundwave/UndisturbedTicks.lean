import Soundwave.AttendedReceivers

/-!
# Undisturbed ticks

A tick during which nothing else happens, no control queue refuses a message and no
request is too old.  All its registry calls have closed forms, so what it does can
be said receiver by receiver.

First it takes the answers that are there.  Then, if a barrier is needed and no
request to the master is pending, it puts one; else it brings the group to the
level nearest to the volume.  In both cases what is pending afterwards waits for
its phone.
-/

namespace Soundwave

section Calls

namespace World

variable {κ ε : Type} (react : Registry × κ → ε → Registry × κ)

/-- Nothing happens before the coming registry calls, and none is refused. -/
def Undisturbed (w : World κ ε) : Prop :=
  ∀ c ∈ w.script, c.events = [] ∧ ∀ id, c.refusal id = none

/-- The time when the script is over. -/
def latest (w : World κ ε) : Nat :=
  w.now + (w.script.map Call.elapsed).sum

/-- The world after a call. -/
def called (w : World κ ε) (elapsed : Nat) (r : Registry) : World κ ε :=
  { w with
      registry := r
      now := w.now + elapsed
      script := w.script.tail }

/-- An undisturbed call sees the registry as it is. -/
theorem call_undisturbed {w : World κ ε} (h : w.Undisturbed) {β : Type}
    (f : (Nat → Option String) → Registry → β × Registry) :
    ∃ elapsed, w.call react f = ((f (fun _ => none) w.registry).1,
        w.called elapsed (f (fun _ => none) w.registry).2) ∧
      (w.called elapsed (f (fun _ => none) w.registry).2).Undisturbed ∧
      (w.called elapsed (f (fun _ => none) w.registry).2).latest = w.latest := by
  obtain ⟨state, registry, outside, calibrating, now, file, script, saveFailure, writes,
    incidents⟩ := w
  cases script with
  | nil =>
      exact ⟨0, rfl, h, rfl⟩
  | cons c script =>
      obtain ⟨hevents, hrefusal⟩ := h c List.mem_cons_self
      have hnone : c.refusal = fun _ => none := funext hrefusal
      refine ⟨c.elapsed, ?_, fun x hx => h x (List.mem_cons_of_mem _ hx), ?_⟩
      · simp only [call, interrupt, hevents, hnone]
        rfl
      · simp only [latest, called, List.tail_cons, List.map_cons, List.sum_cons]
        omega

end World

end Calls

section Gentle

/-- A receiver with the same queue, device and barrier, and with no more answers and
reported volumes than before. -/
structure Receiver.Gentle (old new : Receiver) : Prop where
  controls : new.controls = old.controls
  device : new.device = old.device
  barrier : new.panelBarrier = old.panelBarrier
  replies : ∀ q, new.replies.contains q = true → old.replies.contains q = true
  unsolicited : old.unsolicitedVolume = none → new.unsolicitedVolume = none

theorem Receiver.Gentle.refl (receiver : Receiver) : receiver.Gentle receiver :=
  ⟨rfl, rfl, rfl, fun _ hq => hq, fun h => h⟩

theorem Receiver.Gentle.trans {a b c : Receiver} (h : a.Gentle b) (h' : b.Gentle c) :
    a.Gentle c where
  controls := h'.controls.trans h.controls
  device := h'.device.trans h.device
  barrier := h'.barrier.trans h.barrier
  replies := fun q hq => h.replies q (h'.replies q hq)
  unsolicited := fun hnone => h'.unsolicited (h.unsolicited hnone)

namespace Registry

/-- The registries have the same receivers, but for answers, gates and reported
volumes. -/
structure Gentle (r r' : Registry) : Prop where
  keys : r'.receivers.keys = r.receivers.keys
  issued : r'.issued = r.issued
  receiver : ∀ id old, r.receivers.get? id = some old →
    ∃ new, r'.receivers.get? id = some new ∧ old.Gentle new

namespace Gentle

theorem refl (r : Registry) : r.Gentle r :=
  ⟨rfl, rfl, fun _ old hold => ⟨old, hold, .refl old⟩⟩

theorem trans {a b c : Registry} (h : a.Gentle b) (h' : b.Gentle c) : a.Gentle c := by
  refine ⟨h'.keys.trans h.keys, h'.issued.trans h.issued, ?_⟩
  intro id old hold
  obtain ⟨mid, hmid, hgentle⟩ := h.receiver id old hold
  obtain ⟨new, hnew, hgentle'⟩ := h'.receiver id mid hmid
  exact ⟨new, hnew, hgentle.trans hgentle'⟩

variable {r r' : Registry}

/-- No receiver is new. -/
theorem receiver_back (h : r.Gentle r') {id : Nat} {new : Receiver}
    (hnew : r'.receivers.get? id = some new) :
    ∃ old, r.receivers.get? id = some old ∧ old.Gentle new := by
  have hmem : id ∈ r.receivers.keys := by
    rw [← h.keys, SortedMap.mem_keys_iff, SortedMap.contains_eq_true_iff]
    exact ⟨new, hnew⟩
  rw [SortedMap.mem_keys_iff, SortedMap.contains_eq_true_iff] at hmem
  obtain ⟨old, hold⟩ := hmem
  obtain ⟨new', hnew', hgentle⟩ := h.receiver id old hold
  rw [hnew] at hnew'
  cases hnew'
  exact ⟨old, hold, hgentle⟩

theorem device (h : r.Gentle r') (id : Nat) :
    (r'.receivers.get? id).bind Receiver.device = (r.receivers.get? id).bind Receiver.device := by
  cases hold : r.receivers.get? id with
  | some old =>
      obtain ⟨new, hnew, hgentle⟩ := h.receiver id old hold
      rw [hnew, Option.bind_some, Option.bind_some, hgentle.device]
  | none =>
      cases hnew : r'.receivers.get? id with
      | none =>
          rfl
      | some new =>
          obtain ⟨old, hold', _⟩ := h.receiver_back hnew
          rw [hold] at hold'
          cases hold'

theorem queuedTo (h : r.Gentle r') (id : Nat) : r'.queuedTo id = r.queuedTo id := by
  rw [Registry.queuedTo, Registry.queuedTo]
  cases hnew : r'.receivers.get? id with
  | some new =>
      obtain ⟨old, hold, hgentle⟩ := h.receiver_back hnew
      rw [hold, Option.map_some, Option.map_some, hgentle.controls]
  | none =>
      cases hold : r.receivers.get? id with
      | none =>
          rfl
      | some old =>
          obtain ⟨new, hnew', _⟩ := h.receiver id old hold
          rw [hnew] at hnew'
          cases hnew'

theorem hasPanelBarrier (h : r.Gentle r') (id : Nat) :
    r'.hasPanelBarrier id = r.hasPanelBarrier id := by
  cases hold : r.receivers.get? id with
  | some old =>
      obtain ⟨new, hnew, hgentle⟩ := h.receiver id old hold
      simp only [Registry.hasPanelBarrier, hold, hnew, hgentle.barrier]
  | none =>
      cases hnew : r'.receivers.get? id with
      | none =>
          simp only [Registry.hasPanelBarrier, hold, hnew]
      | some new =>
          obtain ⟨old, hold', _⟩ := h.receiver_back hnew
          rw [hold] at hold'
          cases hold'

theorem attended (h : r.Gentle r') {listed : DeviceStatus → Prop} {k : Links}
    (hattended : Attended listed r k) : Attended listed r' k := by
  refine ⟨h.issued ▸ hattended.positive, ?_⟩
  intro id new hnew
  obtain ⟨old, hold, hgentle⟩ := h.receiver_back hnew
  obtain ⟨link, hlink, htended⟩ := hattended.tended id old hold
  refine ⟨link, hlink, ?_⟩
  rw [h.issued]
  exact htended.of_eq hgentle.controls hgentle.device hgentle.replies

theorem awaitedAt (h : r.Gentle r') {k : Links} {id : Nat} {p : Pending} :
    AwaitedAt r' k id p ↔ AwaitedAt r k id p := by
  have hone : ∀ {a b : Receiver} {link : Link}, b.controls = a.controls → b.device = a.device →
      Awaits p a link → Awaits p b link := by
    rintro a b link hcontrols hdevice ⟨before, after, d, hwaiting, hfew, hd, hrange⟩
    exact ⟨before, after, d, (Tended.waiting_congr link hcontrols).trans hwaiting, hfew,
      hdevice.trans hd, hrange⟩
  constructor
  · rintro ⟨new, link, hnew, hlink, hawaits⟩
    obtain ⟨old, hold, hgentle⟩ := h.receiver_back hnew
    exact ⟨old, link, hold, hlink, hone hgentle.controls.symm hgentle.device.symm hawaits⟩
  · rintro ⟨old, link, hold, hlink, hawaits⟩
    obtain ⟨new, hnew, hgentle⟩ := h.receiver id old hold
    exact ⟨new, link, hnew, hlink, hone hgentle.controls hgentle.device hawaits⟩

theorem allAwaited (h : r.Gentle r') {pending : SortedMap Nat Pending} {k : Links}
    (hawaited : AllAwaited pending r k) : AllAwaited pending r' k :=
  fun id p hp => h.awaitedAt.mpr (hawaited id p hp)

end Gentle

theorem gentle_mapValues (r : Registry) (f : Nat → Receiver → Receiver)
    (h : ∀ id (receiver : Receiver), receiver.Gentle (f id receiver)) :
    r.Gentle { r with receivers := r.receivers.mapValues f } := by
  refine ⟨SortedMap.keys_mapValues _ _, rfl, ?_⟩
  intro id old hold
  refine ⟨f id old, ?_, h id old⟩
  rw [SortedMap.get?_mapValues, hold]
  rfl

theorem gentle_modify (r : Registry) (id : Nat) (f : Receiver → Receiver)
    (h : ∀ receiver : Receiver, receiver.Gentle (f receiver)) :
    r.Gentle { r with receivers := r.receivers.modify id f } := by
  refine r.gentle_mapValues _ ?_
  intro id' receiver
  split_ifs
  · exact h receiver
  · exact .refl receiver

theorem gentle_denyAll (r : Registry) : r.Gentle r.denyAll :=
  r.gentle_mapValues _ (fun _ _ => ⟨rfl, rfl, rfl, fun _ hq => hq, fun h => h⟩)

theorem gentle_approve (r : Registry) (expected : List (Nat × DeviceStatus)) :
    r.Gentle (r.approve expected) :=
  r.gentle_mapValues _ (fun _ _ => ⟨rfl, rfl, rfl, fun _ hq => hq, fun h => h⟩)

theorem gentle_takeReply (r : Registry) (id request : Nat) :
    r.Gentle (r.takeReply id request).2 :=
  r.gentle_modify id _ (fun receiver =>
    ⟨rfl, rfl, rfl, (receiver.tame_erase request).2, fun h => h⟩)

theorem gentle_takeUnsolicitedVolume (r : Registry) (id : Nat) :
    r.Gentle (r.takeUnsolicitedVolume id).2 :=
  r.gentle_modify id _ (fun _ => ⟨rfl, rfl, rfl, fun _ hq => hq, fun _ => rfl⟩)

end Registry

end Gentle

section Stretches

namespace World

/-- A stretch of a tick without requests, during which nothing pending is settled. -/
structure Tidy (w w' : World Links LinkEvent) : Prop where
  editing : w'.state.editing = w.state.editing
  blocked : w'.state.blocked = w.state.blocked
  pending : w'.state.pending = w.state.pending
  needsFence : w'.state.needsFence = w.state.needsFence
  outside : w'.outside = w.outside
  latest : w'.latest = w.latest
  undisturbed : w'.Undisturbed
  gentle : w.registry.Gentle w'.registry

theorem Tidy.trans {a b c : World Links LinkEvent} (h : a.Tidy b) (h' : b.Tidy c) : a.Tidy c where
  editing := h'.editing.trans h.editing
  blocked := h'.blocked.trans h.blocked
  pending := h'.pending.trans h.pending
  needsFence := h'.needsFence.trans h.needsFence
  outside := h'.outside.trans h.outside
  latest := h'.latest.trans h.latest
  undisturbed := h'.undisturbed
  gentle := h.gentle.trans h'.gentle

theorem call_tidy {w : World Links LinkEvent} (h : w.Undisturbed) {β : Type}
    (f : (Nat → Option String) → Registry → β × Registry)
    (hf : w.registry.Gentle (f (fun _ => none) w.registry).2) :
    w.Tidy (w.call Links.react f).2 ∧
      (w.call Links.react f).1 = (f (fun _ => none) w.registry).1 ∧
      (w.call Links.react f).2.registry = (f (fun _ => none) w.registry).2 := by
  obtain ⟨elapsed, hcall, hundisturbed, hlatest⟩ := call_undisturbed Links.react h f
  rw [hcall]
  exact ⟨⟨rfl, rfl, rfl, rfl, rfl, hlatest, hundisturbed, hf⟩, rfl, rfl⟩

/-- A change of the state that concerns no receiver. -/
theorem update_tidy {w : World Links LinkEvent} (h : w.Undisturbed)
    (f : ControlState → ControlState)
    (hf : ∀ s, (f s).editing = s.editing ∧ (f s).blocked = s.blocked ∧
      (f s).pending = s.pending ∧ (f s).needsFence = s.needsFence) :
    w.Tidy (w.update f) := by
  obtain ⟨h1, h2, h3, h4⟩ := hf w.state
  exact ⟨h1, h2, h3, h4, rfl, rfl, h, .refl _⟩

theorem note_tidy {w : World Links LinkEvent} (h : w.Undisturbed) (incident : Incident) :
    w.Tidy (w.note incident) :=
  ⟨rfl, rfl, rfl, rfl, rfl, rfl, h, .refl _⟩

theorem denyAll_tidy {w : World Links LinkEvent} (h : w.Undisturbed) :
    w.Tidy (w.denyAll Links.react) :=
  (call_tidy h (fun _ r => ((), r.denyAll)) w.registry.gentle_denyAll).1

/-- A world in which every pending request waits for its phone. -/
structure Steady (listed : DeviceStatus → Prop) (w : World Links LinkEvent) : Prop where
  undisturbed : w.Undisturbed
  unblocked : ∀ id, w.state.blocked.contains id = false
  attended : Attended listed w.registry w.outside
  awaited : AllAwaited w.state.pending w.registry w.outside

theorem Steady.of_tidy {listed : DeviceStatus → Prop} {w w' : World Links LinkEvent}
    (h : Steady listed w) (htidy : w.Tidy w') : Steady listed w' := by
  refine ⟨htidy.undisturbed, ?_, ?_, ?_⟩
  · rw [htidy.blocked]
    exact h.unblocked
  · rw [htidy.outside]
    exact htidy.gentle.attended h.attended
  · rw [htidy.outside, htidy.pending]
    exact htidy.gentle.allAwaited h.awaited

/-- What the review of the pending requests does: confirmed ones go, waiting ones
stay. -/
structure Reviewed (w w' : World Links LinkEvent) : Prop where
  editing : w'.state.editing = w.state.editing
  blocked : ∀ id, w.state.blocked.contains id = false → w'.state.blocked.contains id = false
  needsFence : w'.state.needsFence = w.state.needsFence
  outside : w'.outside = w.outside
  undisturbed : w'.Undisturbed
  gentle : w.registry.Gentle w'.registry
  pending : ∀ id p, w'.state.pending.get? id = some p → w.state.pending.get? id = some p

theorem Tidy.reviewed {a b : World Links LinkEvent} (h : a.Tidy b) : a.Reviewed b where
  editing := h.editing
  blocked := fun _ hfree => h.blocked ▸ hfree
  needsFence := h.needsFence
  outside := h.outside
  undisturbed := h.undisturbed
  gentle := h.gentle
  pending := fun _ _ hp => h.pending ▸ hp

theorem Reviewed.trans {a b c : World Links LinkEvent} (h : a.Reviewed b) (h' : b.Reviewed c) :
    a.Reviewed c where
  editing := h'.editing.trans h.editing
  blocked := fun id hfree => h'.blocked id (h.blocked id hfree)
  needsFence := h'.needsFence.trans h.needsFence
  outside := h'.outside.trans h.outside
  undisturbed := h'.undisturbed
  gentle := h.gentle.trans h'.gentle
  pending := fun id p hp => h.pending id p (h'.pending id p hp)

theorem pending_forget {w : World Links LinkEvent} {id id' : Nat} {p : Pending}
    (h : (w.forget id).state.pending.get? id' = some p) :
    id' ≠ id ∧ w.state.pending.get? id' = some p := by
  have herased : (w.state.pending.erase id).get? id' = some p := h
  rw [SortedMap.get?_erase] at herased
  split_ifs at herased with hid
  exact ⟨hid, herased⟩

theorem forget_reviewed {w : World Links LinkEvent} (h : w.Undisturbed) (id : Nat) :
    w.Reviewed (w.forget id) :=
  ⟨rfl, fun _ hfree => hfree, rfl, rfl, h, .refl _, fun _ _ hp => (pending_forget hp).2⟩

/-- The pending requests are confirmed, or wait and are not too old. -/
def Reviewable (w : World Links LinkEvent) (entries : List (Nat × Pending)) : Prop :=
  ∀ e ∈ entries, ConfirmedAt w.registry e.1 e.2 ∨
    (AwaitedAt w.registry w.outside e.1 e.2 ∧ w.latest < e.2.at' + 4000)

theorem reviewPending_reviewed {listed : DeviceStatus → Prop} (ids : List Nat)
    (failures : List (Nat × String)) {w : World Links LinkEvent}
    {entries : List (Nat × Pending)} (hundisturbed : w.Undisturbed)
    (hattended : Attended listed w.registry w.outside) (hids : ∀ e ∈ entries, e.1 ∈ ids)
    (hdistinct : (entries.map Prod.fst).Nodup) (hentries : w.Reviewable entries) :
    (w.reviewPending Links.react ids failures entries).1 = failures ∧
      w.Reviewed (w.reviewPending Links.react ids failures entries).2 ∧
      ∀ e ∈ entries, (w.reviewPending Links.react ids failures entries).2.state.pending.get? e.1 =
        some e.2 → AwaitedAt w.registry w.outside e.1 e.2 ∧ ¬ ConfirmedAt w.registry e.1 e.2 := by
  induction entries generalizing w with
  | nil =>
      exact ⟨rfl, ⟨rfl, fun _ h => h, rfl, rfl, hundisturbed, .refl _, fun _ _ hp => hp⟩,
        fun e he => absurd he List.not_mem_nil⟩
  | cons entry rest ih =>
      obtain ⟨id, pending⟩ := entry
      rw [List.map_cons, List.nodup_cons] at hdistinct
      rw [reviewPending, if_pos (hids _ List.mem_cons_self)]
      obtain ⟨htidy, hvalue, hregistry⟩ := call_tidy hundisturbed
        (fun _ r => r.takeReply id pending.request) (w.registry.gentle_takeReply id pending.request)
      rcases hresult : w.call Links.react (fun _ r => r.takeReply id pending.request) with
        ⟨reply, w1⟩
      rw [hresult] at htidy hvalue hregistry
      simp only at htidy hvalue hregistry
      have hattended1 : Attended listed w1.registry w1.outside := by
        rw [htidy.outside]
        exact htidy.gentle.attended hattended
      -- the answers of the other receivers are as before
      have hothers : ∀ e ∈ rest,
          (ConfirmedAt w1.registry e.1 e.2 ↔ ConfirmedAt w.registry e.1 e.2) := by
        intro e he
        have hne : e.1 ≠ id := by
          rintro rfl
          exact hdistinct.1 (List.mem_map.mpr ⟨e, he, rfl⟩)
        rw [ConfirmedAt, ConfirmedAt, hregistry]
        simp only [Registry.takeReply, SortedMap.get?_modify, if_neg hne]
      have hawaited : ∀ e : Nat × Pending, AwaitedAt w1.registry w1.outside e.1 e.2 ↔
          AwaitedAt w.registry w.outside e.1 e.2 := by
        intro e
        rw [htidy.outside]
        exact htidy.gentle.awaitedAt
      have hrest : w1.Reviewable rest := by
        intro e he
        rw [hothers e he, hawaited, htidy.latest]
        exact hentries e (List.mem_cons_of_mem _ he)
      have hstill : ∀ e ∈ rest,
          AwaitedAt w1.registry w1.outside e.1 e.2 ∧ ¬ ConfirmedAt w1.registry e.1 e.2 →
          AwaitedAt w.registry w.outside e.1 e.2 ∧ ¬ ConfirmedAt w.registry e.1 e.2 := by
        rintro e he ⟨hwaits, hnot⟩
        exact ⟨(hawaited e).mp hwaits, fun h => hnot ((hothers e he).mpr h)⟩
      have hids' : ∀ e ∈ rest, e.1 ∈ ids := fun e he => hids e (List.mem_cons_of_mem _ he)
      rcases hentries _ List.mem_cons_self with hconfirmed | ⟨hwaits, hyoung⟩
      · obtain ⟨receiver, hreceiver, answer, hanswer, happlied⟩ := hconfirmed
        simp only [Registry.takeReply, hreceiver, Option.bind_some, hanswer] at hvalue
        subst hvalue
        simp only [happlied, if_true]
        obtain ⟨hfailures, hreviewed, hleft⟩ := ih (w := w1.forget id)
          htidy.undisturbed hattended1 hids' hdistinct.2 hrest
        refine ⟨hfailures,
          (htidy.reviewed.trans (forget_reviewed htidy.undisturbed id)).trans hreviewed, ?_⟩
        intro e he hp
        rcases List.mem_cons.mp he with rfl | he
        · exact absurd rfl (pending_forget (hreviewed.pending _ _ hp)).1
        · exact hstill e he (hleft e he hp)
      · obtain ⟨receiver, link, hreceiver, hlink, hawaits⟩ := hwaits
        obtain ⟨link', hlink', htended⟩ := hattended.tended id receiver hreceiver
        rw [hlink] at hlink'
        cases hlink'
        have hnone := hawaits.no_reply htended
        simp only [Registry.takeReply, hreceiver, Option.bind_some, hnone] at hvalue
        subst hvalue
        have hlatest : w1.now ≤ w.latest := by
          rw [← htidy.latest]
          exact Nat.le_add_right _ _
        have hnot : ¬ pending.at' + 4000 ≤ w1.now :=
          not_le.mpr (lt_of_le_of_lt hlatest hyoung)
        simp only [if_neg hnot]
        obtain ⟨hfailures, hreviewed, hleft⟩ := ih (w := w1)
          htidy.undisturbed hattended1 hids' hdistinct.2 hrest
        refine ⟨hfailures, htidy.reviewed.trans hreviewed, ?_⟩
        intro e he hp
        rcases List.mem_cons.mp he with rfl | he
        · refine ⟨⟨receiver, link, hreceiver, hlink, hawaits⟩, ?_⟩
          rintro ⟨receiver', hreceiver', reply, hreply, _⟩
          rw [hreceiver] at hreceiver'
          cases hreceiver'
          rw [hnone] at hreply
          cases hreply
        · exact hstill e he (hleft e he hp)

/-- **The review of the pending requests** when nothing is too old. -/
theorem review_steady {listed : DeviceStatus → Prop} {w : World Links LinkEvent}
    (hundisturbed : w.Undisturbed) (hunblocked : ∀ id, w.state.blocked.contains id = false)
    (hattended : Attended listed w.registry w.outside)
    (hreviewable : w.Reviewable w.state.pending.entries) :
    w.Reviewed (w.review Links.react w.registry.snapshots) ∧
      Steady listed (w.review Links.react w.registry.snapshots) ∧
      (AllConfirmed w.state.pending w.registry → ∀ id,
        (w.review Links.react w.registry.snapshots).state.pending.contains id = false) := by
  let ids := w.registry.snapshots.map ReceiverSnapshot.id
  let w1 := w.update (fun s => { s with blocked := s.blocked.filter (fun id _ => id ∈ ids) })
  have hids : ∀ e ∈ w.state.pending.entries, e.1 ∈ ids := by
    intro e he
    have hreceiver : ∃ receiver, w.registry.receivers.get? e.1 = some receiver := by
      rcases hreviewable e he with ⟨receiver, h, _⟩ | ⟨⟨receiver, _, h, _⟩, _⟩
      · exact ⟨receiver, h⟩
      · exact ⟨receiver, h⟩
    obtain ⟨receiver, hreceiver⟩ := hreceiver
    have hmem := (SortedMap.get?_eq_some_iff _ _ _).mp hreceiver
    exact List.mem_map.mpr ⟨_, List.mem_map.mpr ⟨_, hmem, rfl⟩, rfl⟩
  have hdistinct : (w.state.pending.entries.map Prod.fst).Nodup :=
    w.state.pending.sorted.imp (fun h => ne_of_lt h)
  obtain ⟨hfailures, hreviewed, hleft⟩ := reviewPending_reviewed ids [] (w := w1)
    hundisturbed hattended hids hdistinct hreviewable
  have hreview : w.review Links.react w.registry.snapshots =
      (w1.reviewPending Links.react ids [] w.state.pending.entries).2 := by
    simp only [review]
    rw [show (w1.reviewPending Links.react ids [] w1.state.pending.entries).1 = [] from hfailures]
    rfl
  have hblocked : ∀ id, w1.state.blocked.contains id = false := by
    intro id
    have hnone := (SortedMap.contains_eq_false_iff _ _).mp (hunblocked id)
    have hfilter : w1.state.blocked.get? id = none := by
      show (w.state.blocked.filter _).get? id = none
      rw [SortedMap.get?_filter, hnone]
      rfl
    exact (SortedMap.contains_eq_false_iff _ _).mpr hfilter
  rw [hreview]
  generalize (w1.reviewPending Links.react ids [] w.state.pending.entries).2 = w2
    at hreviewed hleft
  have hstill : ∀ id p, w2.state.pending.get? id = some p →
      AwaitedAt w.registry w.outside id p ∧ ¬ ConfirmedAt w.registry id p := by
    intro id p hp
    have hmem := (SortedMap.get?_eq_some_iff _ _ _).mp (hreviewed.pending id p hp)
    exact hleft (id, p) hmem hp
  refine ⟨⟨hreviewed.editing, fun id _ => hreviewed.blocked id (hblocked id),
    hreviewed.needsFence, hreviewed.outside, hreviewed.undisturbed, hreviewed.gentle,
    hreviewed.pending⟩, ⟨hreviewed.undisturbed, fun id => hreviewed.blocked id (hblocked id),
    ?_, ?_⟩, ?_⟩
  · rw [hreviewed.outside]
    exact hreviewed.gentle.attended hattended
  · rw [hreviewed.outside]
    intro id p hp
    exact hreviewed.gentle.awaitedAt.mpr (hstill id p hp).1
  · intro hconfirmed id
    rw [SortedMap.contains_eq_false_iff, Option.eq_none_iff_forall_ne_some]
    intro p hp
    exact (hstill id p hp).2 (hconfirmed id p (hreviewed.pending id p hp))

end World

end Stretches

section Requests

/-- Request ids are only ever drawn, whatever is called. -/
theorem issued_rules (n : Nat) : World.TickRules Links.react (fun r _ _ => n ≤ r.issued) where
  environment := fun r k _ e h => h.trans (links_react_issued r k e)
  denyAll := fun _ _ _ h => h
  silence := fun _ _ _ _ h => h
  cancel := fun _ _ _ _ h => h
  restore := fun r _ _ refusal id index h =>
    h.trans ((Nat.le_succ _).trans_eq
      (r.volumeRequestWithBarrier_issued refusal id index _ false).symm)
  panel := fun r _ _ refusal id index _ _ h =>
    h.trans ((Nat.le_succ _).trans_eq
      (r.volumeRequestWithBarrier_issued refusal id index _ true).symm)
  panelRefused := fun r _ _ refusal id index _ _ h =>
    h.trans ((Nat.le_succ _).trans_eq
      (r.volumeRequestWithBarrier_issued refusal id index _ true).symm)
  takeReply := fun _ _ _ _ _ h => h
  stored := fun _ _ _ _ _ h => h
  approve := fun _ _ _ _ h => h
  takeUnsolicited := fun _ _ _ _ h => h
  confirmed := fun _ _ _ _ _ h => h

/-- A request to a receiver that is there, which nothing refuses. -/
theorem Registry.volumeRequest_ok {r : Registry} {id : Nat} {receiver : Receiver}
    (hreceiver : r.receivers.get? id = some receiver) (hpositive : 1 ≤ r.issued)
    (hwrap : r.issued < 2 ^ 32) (index : Nat) (purpose : VolumePurpose) (barrier : Bool) :
    r.volumeRequestWithBarrier (fun _ => none) id index purpose barrier =
      (.ok r.issued, r.requested id (fun receiver =>
        receiver.queueVolume r.issued index purpose barrier)) := by
  have hcontains : r.receivers.contains id = true :=
    (SortedMap.contains_eq_true_iff _ _).mpr ⟨receiver, hreceiver⟩
  have hrequest : max (r.issued % 2 ^ 32) 1 = r.issued := by
    rw [Nat.mod_eq_of_lt hwrap]
    exact max_eq_left hpositive
  simp only [volumeRequestWithBarrier, nextRequest, hcontains, hrequest]
  rfl

section Queued

variable {listed : DeviceStatus → Prop} {r : Registry} {k : Links} {id : Nat} {receiver : Receiver}
variable {d : DeviceStatus}

theorem Attended.requested (h : Attended listed r k)
    (hreceiver : r.receivers.get? id = some receiver) (hdevice : receiver.device = some d)
    (hhealthy : d.healthy = true) (index : Nat) (purpose : VolumePurpose) (barrier : Bool) :
    Attended listed (r.requested id (fun receiver =>
      receiver.queueVolume r.issued index purpose barrier)) k := by
  refine ⟨h.positive.trans (Nat.le_succ _), ?_⟩
  intro id' new hnew
  rw [Registry.requested, SortedMap.get?_modify] at hnew
  split_ifs at hnew with hid
  · subst hid
    rw [hreceiver] at hnew
    cases hnew
    obtain ⟨link, hlink, htended⟩ := h.tended id' receiver hreceiver
    exact ⟨link, hlink,
      htended.queueVolume (Nat.one_le_iff_ne_zero.mp h.positive) hdevice hhealthy _ _ _⟩
  · obtain ⟨link, hlink, htended⟩ := h.tended id' new hnew
    exact ⟨link, hlink, htended.mono (Nat.le_succ _)⟩

/-- The new request is pending and waits, as the others do. -/
theorem AllAwaited.requested {pending : SortedMap Nat Pending} (h : AllAwaited pending r k)
    (hattended : Attended listed r k) (hreceiver : r.receivers.get? id = some receiver)
    (hdevice : receiver.device = some d) {index : Nat} (hrange : d.InRange index)
    (purpose : VolumePurpose) (barrier : Bool) (now : Nat) :
    AllAwaited (pending.insert id { request := r.issued, index := index, at' := now })
      (r.requested id (fun receiver => receiver.queueVolume r.issued index purpose barrier)) k := by
  intro id' p hp
  rw [SortedMap.get?_insert] at hp
  rw [AwaitedAt, Registry.requested]
  simp only [SortedMap.get?_modify]
  split_ifs at hp with hid
  · subst hid
    cases hp
    obtain ⟨link, hlink, htended⟩ := hattended.tended id' receiver hreceiver
    rw [if_pos rfl, hreceiver]
    refine ⟨_, link, rfl, hlink, link.waiting receiver, [], d, ?_, by decide, hdevice, hrange⟩
    exact htended.waiting_append rfl
  · rw [if_neg hid]
    exact h id' p hp

end Queued

namespace World

/-- A target with a healthy device whose range has the volume. -/
def Reachable (r : Registry) (devices : List (Nat × DeviceStatus)) (t : Nat × Nat) : Prop :=
  ∃ receiver d, r.receivers.get? t.1 = some receiver ∧ receiver.device = some d ∧
    d.healthy = true ∧ d.InRange t.2 ∧ deviceOf devices t.1 = some (t.1, d)

/-- What the loop over the targets does. -/
structure Restored (w w' : World Links LinkEvent) (targets : List (Nat × Nat)) : Prop where
  needsFence : w'.state.needsFence = w.state.needsFence
  outside : w'.outside = w.outside
  keys : w'.registry.receivers.keys = w.registry.receivers.keys
  receiver : ∀ id old, w.registry.receivers.get? id = some old →
    ∃ new, w'.registry.receivers.get? id = some new ∧ new.device = old.device ∧
      new.panelBarrier = old.panelBarrier ∧ new.unsolicitedVolume = old.unsolicitedVolume ∧
      ((∀ t ∈ targets, t.1 ≠ id) → new.controls = old.controls) ∧
      ∀ t, (id, t) ∈ targets → w.state.pending.contains id = false →
        (new.controls = old.controls ∧ ∀ d, old.device = some d → d.volume = t) ∨
          ∃ request, new.controls = old.controls ++ [.setVolume request t .restoreSpeaker]

theorem restoreTargets_issued (devices : List (Nat × DeviceStatus)) (ready : Bool)
    (targets : List (Nat × Nat)) (w : World Links LinkEvent) :
    w.registry.issued ≤ (w.restoreTargets Links.react devices ready targets).2.registry.issued :=
  restoreTargets_holds (issued_rules w.registry.issued).toRequestRules
    (w := w) (show w.Holds _ from le_rfl) devices ready targets

/-- A request in an undisturbed world, which draws an id in any case. -/
theorem requestCall_ok {w w' : World Links LinkEvent} (h : w.Undisturbed)
    (hpositive : 1 ≤ w.registry.issued) {id : Nat} {receiver : Receiver}
    (hreceiver : w.registry.receivers.get? id = some receiver) (index : Nat) (barrier : Bool)
    {answer : Except String Nat}
    (hcall : w.call Links.react (fun refusal r =>
      r.volumeRequestWithBarrier refusal id index .restoreSpeaker barrier) = (answer, w')) :
    w'.registry.issued = w.registry.issued + 1 ∧
      (w.registry.issued < 2 ^ 32 → answer = .ok w.registry.issued ∧
        ∃ elapsed, w' = w.called elapsed (w.registry.requested id (fun receiver =>
          receiver.queueVolume w.registry.issued index .restoreSpeaker barrier)) ∧
        w'.Undisturbed) := by
  obtain ⟨elapsed, heq, hundisturbed, _⟩ := call_undisturbed Links.react h (fun refusal r =>
    r.volumeRequestWithBarrier refusal id index .restoreSpeaker barrier)
  rw [hcall, Prod.mk.injEq] at heq
  obtain ⟨rfl, rfl⟩ := heq
  refine ⟨Registry.volumeRequestWithBarrier_issued _ _ _ _ _ _, ?_⟩
  intro hlt
  have hok := Registry.volumeRequest_ok hreceiver hpositive hlt index .restoreSpeaker barrier
  refine ⟨congrArg Prod.fst hok, elapsed, ?_, hundisturbed⟩
  rw [hok]

/-- The first target is passed over: its request is still pending, or the receiver is at
the volume already. -/
theorem Restored.passed {w w' : World Links LinkEvent} {id target : Nat}
    {rest : List (Nat × Nat)} (h : w.Restored w' rest) (hnot : ∀ t ∈ rest, t.1 ≠ id)
    (hdone : w.state.pending.contains id = false → ∀ old d,
      w.registry.receivers.get? id = some old → old.device = some d → d.volume = target) :
    w.Restored w' ((id, target) :: rest) := by
  refine ⟨h.needsFence, h.outside, h.keys, ?_⟩
  intro id' old hold
  obtain ⟨new, hnew, hdev, hbarrier, hunsolicited, hsame, hreached⟩ := h.receiver id' old hold
  refine ⟨new, hnew, hdev, hbarrier, hunsolicited,
    fun hall => hsame (fun t ht => hall t (List.mem_cons_of_mem _ ht)), ?_⟩
  intro t ht hpending
  rcases List.mem_cons.mp ht with heq | ht
  · cases heq
    exact Or.inl ⟨hsame hnot, fun d hd => hdone hpending old d hold hd⟩
  · exact hreached t ht hpending

/-- A request is queued for the first target, and the loop goes on from `w1`. -/
theorem Restored.queued {w w1 w' : World Links LinkEvent} {id target request : Nat}
    {rest : List (Nat × Nat)} {receiver : Receiver} (h : w1.Restored w' rest)
    (hnot : ∀ t ∈ rest, t.1 ≠ id) (hneedsFence : w1.state.needsFence = w.state.needsFence)
    (houtside : w1.outside = w.outside)
    (hkeys : w1.registry.receivers.keys = w.registry.receivers.keys)
    (hreceiver : w.registry.receivers.get? id = some receiver)
    (hqueued : w1.registry.receivers.get? id =
      some (receiver.queueVolume request target .restoreSpeaker false))
    (hothers : ∀ id', id' ≠ id →
      w1.registry.receivers.get? id' = w.registry.receivers.get? id' ∧
        w1.state.pending.get? id' = w.state.pending.get? id') :
    w.Restored w' ((id, target) :: rest) := by
  refine ⟨h.needsFence.trans hneedsFence, h.outside.trans houtside, h.keys.trans hkeys, ?_⟩
  intro id' old hold
  by_cases hid : id' = id
  · subst hid
    rw [hreceiver] at hold
    cases hold
    obtain ⟨new, hnew, hdev, hbarrier, hunsolicited, hsame, _⟩ := h.receiver id' _ hqueued
    have hcontrols := hsame hnot
    refine ⟨new, hnew, hdev, hbarrier, hunsolicited,
      fun hall => absurd rfl (hall _ List.mem_cons_self), ?_⟩
    intro t ht _
    rcases List.mem_cons.mp ht with heq | ht
    · cases heq
      exact Or.inr ⟨_, hcontrols⟩
    · exact absurd rfl (hnot _ ht)
  · obtain ⟨hlookup, hpending⟩ := hothers id' hid
    rw [← hlookup] at hold
    obtain ⟨new, hnew, hdev, hbarrier, hunsolicited, hsame, hreached⟩ := h.receiver id' old hold
    refine ⟨new, hnew, hdev, hbarrier, hunsolicited,
      fun hall => hsame (fun t ht => hall t (List.mem_cons_of_mem _ ht)), ?_⟩
    intro t ht hnone
    rcases List.mem_cons.mp ht with heq | ht
    · cases heq
      exact absurd rfl hid
    · refine hreached t ht ?_
      rw [SortedMap.contains_eq_false_iff] at hnone ⊢
      exact hpending.trans hnone

theorem restoreTargets_steady {listed : DeviceStatus → Prop} {w : World Links LinkEvent}
    {devices : List (Nat × DeviceStatus)} {ready : Bool} {targets : List (Nat × Nat)}
    (h : Steady listed w) (hdistinct : targets.Pairwise (fun a b => a.1 ≠ b.1))
    (htargets : ∀ t ∈ targets, Reachable w.registry devices t)
    (hwrap : (w.restoreTargets Links.react devices ready targets).2.registry.issued ≤ 2 ^ 32) :
    Steady listed (w.restoreTargets Links.react devices ready targets).2 ∧
      w.Restored (w.restoreTargets Links.react devices ready targets).2 targets := by
  induction targets generalizing w ready with
  | nil =>
      exact ⟨h, rfl, rfl, rfl, fun id old hold => ⟨old, hold, rfl, rfl, rfl, fun _ => rfl,
        fun t ht => absurd ht List.not_mem_nil⟩⟩
  | cons target rest ih =>
      obtain ⟨id, target⟩ := target
      rw [List.pairwise_cons] at hdistinct
      obtain ⟨hfirst, hdistinct⟩ := hdistinct
      obtain ⟨receiver, d, hreceiver, hdevice, hhealthy, hrange, hfound⟩ :=
        htargets _ List.mem_cons_self
      have hrest : ∀ t ∈ rest, Reachable w.registry devices t :=
        fun t ht => htargets t (List.mem_cons_of_mem _ ht)
      have hnot : ∀ t ∈ rest, t.1 ≠ id := fun t ht => (hfirst t ht).symm
      rw [restoreTargets] at hwrap ⊢
      split_ifs at hwrap ⊢ with hready hfree
      · obtain ⟨hsteady, hrestored⟩ := ih h hdistinct hrest hwrap
        refine ⟨hsteady, hrestored.passed hnot ?_⟩
        intro _ old d' hold hd'
        obtain ⟨x, hx, hvolume⟩ := hready.1
        rw [hfound] at hx
        cases hx
        rw [hreceiver] at hold
        cases hold
        rw [hdevice] at hd'
        cases hd'
        exact hvolume
      · rcases hresult : w.call Links.react
          (fun refusal r => r.restoreVolumeRequest refusal id target) with ⟨answer, w1⟩
        rw [hresult] at hwrap
        obtain ⟨hdrawn, hcall⟩ := requestCall_ok h.undisturbed h.attended.positive hreceiver
          target false hresult
        have hlt : w.registry.issued < 2 ^ 32 := by
          cases answer with
          | ok request =>
              have hmono := restoreTargets_issued devices false rest
                (w1.update (fun s => s.await id request target w1.now))
              exact lt_of_lt_of_le (hdrawn ▸ Nat.lt_succ_self _) (hmono.trans hwrap)
          | error e =>
              have hmono := restoreTargets_issued devices false rest
                (w1.update (fun s => s.block id e))
              exact lt_of_lt_of_le (hdrawn ▸ Nat.lt_succ_self _) (hmono.trans hwrap)
        obtain ⟨rfl, elapsed, rfl, hundisturbed⟩ := hcall hlt
        let w2 := (w.called elapsed (w.registry.requested id (fun receiver =>
          receiver.queueVolume w.registry.issued target .restoreSpeaker false))).update
            (fun s => s.await id w.registry.issued target (w.now + elapsed))
        have hsteady2 : Steady listed w2 := ⟨hundisturbed, h.unblocked,
          h.attended.requested hreceiver hdevice hhealthy target .restoreSpeaker false,
          h.awaited.requested h.attended hreceiver hdevice hrange .restoreSpeaker false _⟩
        have hothers : ∀ id', id' ≠ id →
            w2.registry.receivers.get? id' = w.registry.receivers.get? id' ∧
              w2.state.pending.get? id' = w.state.pending.get? id' := by
          intro id' hne
          exact ⟨(SortedMap.get?_modify _ _ _ _).trans (if_neg hne),
            SortedMap.get?_insert_ne _ _ hne⟩
        have hrest2 : ∀ t ∈ rest, Reachable w2.registry devices t := by
          intro t ht
          obtain ⟨receiver', d', hreceiver', hd'⟩ := hrest t ht
          exact ⟨receiver', d', (hothers t.1 (hnot t ht)).1.trans hreceiver', hd'⟩
        have hqueued : w2.registry.receivers.get? id = some (receiver.queueVolume
            w.registry.issued target .restoreSpeaker false) := by
          refine (SortedMap.get?_modify _ _ _ _).trans ?_
          rw [if_pos rfl, hreceiver]
          rfl
        obtain ⟨hsteady, hrestored⟩ := ih hsteady2 hdistinct hrest2 hwrap
        exact ⟨hsteady, hrestored.queued hnot rfl rfl (SortedMap.keys_modify _ _ _) hreceiver
          hqueued hothers⟩
      · have hpending : w.state.pending.contains id = true := by
          by_contra hno
          exact hfree ⟨Bool.not_eq_true _ ▸ hno, h.unblocked id⟩
        obtain ⟨hsteady, hrestored⟩ := ih h hdistinct hrest hwrap
        refine ⟨hsteady, hrestored.passed hnot ?_⟩
        intro hnone
        rw [hpending] at hnone
        cases hnone

end World

end Requests

section Targets

namespace World

/-- The target of a follower is a receiver whose device matches it. -/
theorem followerTarget_device {participating : List String} {devices : List (Nat × DeviceStatus)}
    {index : Nat} {f : Follower} {t : Nat × Nat}
    (h : followerTarget participating devices index f = some t) :
    ∃ d, (t.1, d) ∈ devices ∧ f.device.matchesDevice d = true := by
  rw [followerTarget] at h
  split_ifs at h
  split at h
  · rename_i found target hfound _
    cases h
    have hmatches := List.find?_some hfound
    exact ⟨found.2, List.mem_of_find?_eq_some hfound, hmatches⟩
  · cases h

/-- A receiver has one device, which has one identifier. -/
theorem id_eq_of_matches {r : Registry} {a b : DeviceRange} {id : Nat} {d d' : DeviceStatus}
    (hd : (id, d) ∈ connected r.snapshots) (ha : a.matchesDevice d = true)
    (hd' : (id, d') ∈ connected r.snapshots) (hb : b.matchesDevice d' = true) : a.id = b.id := by
  obtain ⟨receiver, hreceiver, hdevice⟩ := (r.mem_connected_snapshots _).mp hd
  obtain ⟨receiver', hreceiver', hdevice'⟩ := (r.mem_connected_snapshots _).mp hd'
  rw [hreceiver] at hreceiver'
  cases hreceiver'
  rw [hdevice] at hdevice'
  cases hdevice'
  rw [matchesDevice_iff] at ha hb
  exact ha.1.trans hb.1.symm

/-- **No receiver has two targets.** -/
theorem targets_distinct {profile : Profile} (hsound : profile.Sound) {r : Registry}
    {master : Nat} {device : DeviceStatus}
    (hmaster : (master, device) ∈ matching profile.master (connected r.snapshots))
    (participating : List String) (index : Nat) :
    (targets profile participating (connected r.snapshots) master index).Pairwise
      (fun a b => a.1 ≠ b.1) := by
  obtain ⟨_, hvalid⟩ := hsound
  have hids := hvalid.distinct
  rw [Profile.devices, List.map_cons, List.nodup_cons, List.map_map] at hids
  obtain ⟨hfirst, hfollowers⟩ := hids
  obtain ⟨hmem, hmatches⟩ := List.mem_filter.mp hmaster
  rw [targets_eq, List.pairwise_cons]
  refine ⟨?_, ?_⟩
  · rintro t ht rfl
    obtain ⟨f, hf, htarget⟩ := List.mem_filterMap.mp ht
    obtain ⟨d, hd, hfd⟩ := followerTarget_device htarget
    apply hfirst
    rw [id_eq_of_matches hmem hmatches hd hfd]
    exact List.mem_map_of_mem hf
  · refine List.Pairwise.filterMap _ ?_ (List.pairwise_map.mp hfollowers)
    intro f g hne a ha b hb heq
    obtain ⟨d, hd, hfd⟩ := followerTarget_device ha
    obtain ⟨d', hd', hgd⟩ := followerTarget_device hb
    rw [← heq] at hd'
    exact hne (id_eq_of_matches hd hfd hd' hgd)

/-- **Every target can be reached.** -/
theorem reachable_of_mem_targets {profile : Profile} (hsound : profile.Sound) {r r' : Registry}
    (hgentle : r.Gentle r') {requested level master : Nat} {device : DeviceStatus}
    (hlevel : profile.IsLevel ((connected r.snapshots).map Prod.snd) requested level)
    (hmaster : (master, device) ∈ matching profile.master (connected r.snapshots))
    {t : Nat × Nat}
    (ht : t ∈ targets profile (profile.participating ((connected r.snapshots).map Prod.snd))
      (connected r.snapshots) master level) :
    Reachable r' (connected r.snapshots) t := by
  obtain ⟨d, hd, hrange, hrole⟩ := commandFor_of_mem_targets hsound hlevel hmaster
    (c := ⟨t.1, 0, t.2⟩) ht
  obtain ⟨old, hold, hdevice⟩ := (r.mem_connected_snapshots _).mp hd
  obtain ⟨new, hnew, hkept⟩ := hgentle.receiver t.1 old hold
  refine ⟨new, d, hnew, hkept.device.trans hdevice, ?_, hrange,
    Registry.deviceOf_connected_snapshots hd⟩
  rcases hrole with ⟨hmatches, _⟩ | ⟨f, _, _, hmatches, _⟩
  · exact healthy_of_matchesDevice hmatches
  · exact healthy_of_matchesDevice hmatches

/-- If there is a shared volume, there is one nearest to any other. -/
theorem nearest_of_shared {profile : Profile} (hsound : profile.Sound)
    {devices : List DeviceStatus} {level : Nat} (hshared : profile.Shared devices level)
    (requested : Nat) :
    ∃ index, profile.nearest requested (profile.participating devices) = some index ∧
      profile.IsLevel devices requested index := by
  cases hnearest : profile.nearest requested (profile.participating devices) with
  | none =>
      have hnone := List.argmin_eq_none.mp hnearest
      have hmem := (Profile.mem_available_iff hsound).mpr hshared
      rw [hnone] at hmem
      cases hmem
  | some index =>
      exact ⟨index, rfl, Profile.isLevel_of_nearest hsound hnearest⟩

end World

end Targets

section Branches

namespace World

variable (encode : Library → List UInt8)

theorem saveConfirmed_tidy {w : World Links LinkEvent} (h : w.Undisturbed) :
    w.Tidy (w.saveConfirmed encode) := by
  have hpostpone : ∀ e, w.Tidy (w.postpone e) := fun e =>
    update_tidy h _ (fun _ => ⟨rfl, rfl, rfl, rfl⟩)
  rw [saveConfirmed]
  split_ifs
  · rcases ensureWritable_cases w.state with ⟨e, he⟩ | ⟨_, he⟩
    · rw [he]
      exact hpostpone e
    · rw [he]
      rcases saveLibrary_cases encode w w.state.persisted with ⟨e, hs⟩ | ⟨_, hs⟩
      · simp only [hs]
        exact hpostpone e
      · simp only [hs]
        exact ⟨rfl, rfl, rfl, rfl, rfl, rfl, h, .refl _⟩
  · exact update_tidy h id (fun _ => ⟨rfl, rfl, rfl, rfl⟩)

theorem settle_tidy {w : World Links LinkEvent} (h : w.Undisturbed) (profile : Profile)
    (devices : List (Nat × DeviceStatus)) (targets : List (Nat × Nat)) (index : Nat)
    (ready : Bool) : w.Tidy (w.settle Links.react encode profile devices targets index ready) := by
  cases ready with
  | false =>
      exact denyAll_tidy h
  | true =>
      have happrove := (call_tidy h (fun _ r => ((), r.approve
        (targets.filterMap (fun t => deviceOf devices t.1)))) (w.registry.gentle_approve _)).1
      have hconfirmed := update_tidy happrove.undisturbed
        (fun s => { s with confirmed := some (profile.id, index) })
        (fun _ => ⟨rfl, rfl, rfl, rfl⟩)
      have hnoted := note_tidy hconfirmed.undisturbed (.confirmed profile.id index)
      have hsaved := saveConfirmed_tidy encode hnoted.undisturbed
      rw [settle, if_pos rfl]
      exact ((happrove.trans hconfirmed).trans hnoted).trans hsaved

theorem aim_tidy {w : World Links LinkEvent} (h : w.Undisturbed) (profile : Profile)
    (index : Nat) : w.Tidy (w.aim profile index) := by
  rw [aim]
  split_ifs
  · exact update_tidy h _ (fun _ => ⟨rfl, rfl, rfl, rfl⟩)
  · exact update_tidy h id (fun _ => ⟨rfl, rfl, rfl, rfl⟩)

/-- Nothing unsolicited is left of the master; without such a volume the profile's is
the one to work towards. -/
theorem adopt_tidy {w : World Links LinkEvent} (h : w.Undisturbed) (profile : Profile)
    (master : Nat) (device : DeviceStatus) :
    w.Tidy (w.adopt Links.react profile master device).2 ∧
      (∀ receiver, (w.adopt Links.react profile master device).2.registry.receivers.get? master =
        some receiver → receiver.unsolicitedVolume = none) ∧
      ((∀ receiver, w.registry.receivers.get? master = some receiver →
        receiver.unsolicitedVolume = none) →
        (w.adopt Links.react profile master device).1 = profile.volume) := by
  obtain ⟨htidy, hvalue, hregistry⟩ := call_tidy h (fun _ r => r.takeUnsolicitedVolume master)
    (w.registry.gentle_takeUnsolicitedVolume master)
  simp only [adopt]
  rcases hresult : w.call Links.react (fun _ r => r.takeUnsolicitedVolume master) with
    ⟨unsolicited, w1⟩
  rw [hresult] at htidy hvalue hregistry
  simp only at htidy hvalue hregistry
  have hseen :
      w.Tidy (w1.update (fun s => { s with masterSeen := some (master, device.volume) })) :=
    htidy.trans (update_tidy htidy.undisturbed _ (fun _ => ⟨rfl, rfl, rfl, rfl⟩))
  have hnoted : ∀ i, w.Tidy ((w1.update
      (fun s => { s with masterSeen := some (master, device.volume) })).note i) := fun i =>
    hseen.trans (note_tidy hseen.undisturbed i)
  have htaken : ∀ receiver, w1.registry.receivers.get? master = some receiver →
      receiver.unsolicitedVolume = none := by
    intro receiver hreceiver
    rw [hregistry, Registry.takeUnsolicitedVolume, SortedMap.get?_modify, if_pos rfl,
      Option.map_eq_some_iff] at hreceiver
    obtain ⟨old, _, rfl⟩ := hreceiver
    rfl
  cases unsolicited with
  | none =>
      exact ⟨hseen, htaken, fun _ => rfl⟩
  | some volume =>
      have hreported : ∃ receiver, w.registry.receivers.get? master = some receiver ∧
          receiver.unsolicitedVolume = some volume :=
        Option.bind_eq_some_iff.mp hvalue.symm
      obtain ⟨receiver, hreceiver, hvolume⟩ := hreported
      simp only
      split_ifs
      · refine ⟨hnoted _, htaken, ?_⟩
        intro hnone
        rw [hnone receiver hreceiver] at hvolume
        cases hvolume
      · exact ⟨hseen, htaken, fun _ => rfl⟩

end World

end Branches

section Outcomes

namespace World

variable (encode : Library → List UInt8)

/-- What every undisturbed tick does to a group. -/
structure Advanced (listed : DeviceStatus → Prop) (profile : Profile) (master : Nat)
    (w w' : World Links LinkEvent) : Prop where
  steady : Steady listed w'
  editing : w'.state.editing = w.state.editing
  outside : w'.outside = w.outside
  current : ∃ volume, w'.state.library.current = some { profile with volume := volume }
  keys : w'.registry.receivers.keys = w.registry.receivers.keys
  device : ∀ id, (w'.registry.receivers.get? id).bind Receiver.device =
    (w.registry.receivers.get? id).bind Receiver.device
  unsolicited : ∀ receiver, w'.registry.receivers.get? master = some receiver →
    receiver.unsolicitedVolume = none

/-- A target is at its volume without a further command, or a command for it was
queued. -/
def Asked (w w' : World Links LinkEvent) (t : Nat × Nat) : Prop :=
  ∃ old new, w.registry.receivers.get? t.1 = some old ∧
    w'.registry.receivers.get? t.1 = some new ∧
    ((new.controls = old.controls ∧ ∀ d, old.device = some d → d.volume = t.2) ∨
      ∃ request, new.controls = old.controls ++ [.setVolume request t.2 .restoreSpeaker])

namespace Restored

variable {w w' : World Links LinkEvent} {targets : List (Nat × Nat)}

/-- No receiver is new. -/
theorem receiver_back (h : w.Restored w' targets) {id : Nat} {new : Receiver}
    (hnew : w'.registry.receivers.get? id = some new) :
    ∃ old, w.registry.receivers.get? id = some old := by
  rw [← SortedMap.contains_eq_true_iff, ← SortedMap.mem_keys_iff, ← h.keys,
    SortedMap.mem_keys_iff, SortedMap.contains_eq_true_iff]
  exact ⟨new, hnew⟩

theorem device (h : w.Restored w' targets) (id : Nat) :
    (w'.registry.receivers.get? id).bind Receiver.device =
      (w.registry.receivers.get? id).bind Receiver.device := by
  cases hold : w.registry.receivers.get? id with
  | some old =>
      obtain ⟨new, hnew, hdevice, _⟩ := h.receiver id old hold
      rw [hnew, Option.bind_some, Option.bind_some, hdevice]
  | none =>
      cases hnew : w'.registry.receivers.get? id with
      | none =>
          rfl
      | some new =>
          obtain ⟨old, hold'⟩ := h.receiver_back hnew
          rw [hold] at hold'
          cases hold'

theorem hasPanelBarrier (h : w.Restored w' targets) (id : Nat) :
    w'.registry.hasPanelBarrier id = w.registry.hasPanelBarrier id := by
  cases hold : w.registry.receivers.get? id with
  | some old =>
      obtain ⟨new, hnew, _, hbarrier, _⟩ := h.receiver id old hold
      simp only [Registry.hasPanelBarrier, hold, hnew, hbarrier]
  | none =>
      cases hnew : w'.registry.receivers.get? id with
      | none =>
          simp only [Registry.hasPanelBarrier, hold, hnew]
      | some new =>
          obtain ⟨old, hold'⟩ := h.receiver_back hnew
          rw [hold] at hold'
          cases hold'

end Restored

/-- What is asked between two stretches without requests. -/
theorem Restored.asked {a b c e : World Links LinkEvent} {targets : List (Nat × Nat)}
    (hab : a.Tidy b) (hbc : b.Restored c targets) (hce : c.Tidy e) {t : Nat × Nat}
    (ht : t ∈ targets) (hreceiver : ∃ old, a.registry.receivers.get? t.1 = some old)
    (hpending : a.state.pending.contains t.1 = false) : a.Asked e t := by
  obtain ⟨old, hold⟩ := hreceiver
  obtain ⟨mid, hmid, hkept⟩ := hab.gentle.receiver t.1 old hold
  obtain ⟨mid', hmid', _, _, _, _, hreached⟩ := hbc.receiver t.1 mid hmid
  obtain ⟨new, hnew, hkept'⟩ := hce.gentle.receiver t.1 mid' hmid'
  refine ⟨old, new, hold, hnew, ?_⟩
  rw [hkept'.controls, ← hkept.controls, ← hkept.device]
  exact hreached t.2 ht (by rw [hab.pending]; exact hpending)

theorem settle_library (w : World Links LinkEvent) (profile : Profile)
    (devices : List (Nat × DeviceStatus)) (targets : List (Nat × Nat)) (index : Nat)
    (ready : Bool) :
    (w.settle Links.react encode profile devices targets index ready).state.library =
      w.state.library := by
  cases ready with
  | false =>
      exact (denyAll_agree Links.react w).library
  | true =>
      have hagree := (perform_agree Links.react w (fun _ r => r.approve
        (targets.filterMap (fun t => deviceOf devices t.1)))).library
      simp only [settle, if_true]
      rcases saveConfirmed_cases encode _ with ⟨hsaved, _, _⟩ | ⟨_, _, hsaved⟩
      · exact hsaved.library.trans hagree
      · rw [hsaved]
        exact hagree

/-- **The branch that brings the group to the volume.** -/
theorem follow_advanced {listed : DeviceStatus → Prop} {profile : Profile} (hsound : profile.Sound)
    {w : World Links LinkEvent} (h : Steady listed w)
    (hcurrent : w.state.library.current = some profile) {r : Registry}
    (hr : r.Gentle w.registry) {master : Nat} {device : DeviceStatus}
    (hmaster : (master, device) ∈ matching profile.master (connected r.snapshots))
    {level : Nat} (hshared : profile.Shared ((connected r.snapshots).map Prod.snd) level)
    (hwrap : (w.follow Links.react encode profile
      (profile.participating ((connected r.snapshots).map Prod.snd)) (connected r.snapshots)
      master device).registry.issued ≤ 2 ^ 32) :
    let devices := connected r.snapshots
    let participating := profile.participating (devices.map Prod.snd)
    let w' := w.follow Links.react encode profile participating devices master device
    Advanced listed profile master w w' ∧ w'.state.needsFence = w.state.needsFence ∧
      w'.registry.hasPanelBarrier master = w.registry.hasPanelBarrier master ∧
      ∃ requested index, profile.IsLevel (devices.map Prod.snd) requested index ∧
        ((∀ receiver, w.registry.receivers.get? master = some receiver →
          receiver.unsolicitedVolume = none) → requested = profile.volume) ∧
        w'.state.library.current = some { profile with volume := index } ∧
        ∀ t ∈ targets profile participating devices master index,
          w.state.pending.contains t.1 = false → w.Asked w' t := by
  intro devices participating w'
  obtain ⟨htaken, hnone, hrequested⟩ := adopt_tidy h.undisturbed profile master device
  have hlibrary := (adopt_keeps Links.react w profile master device).library
  rcases hresult : w.adopt Links.react profile master device with ⟨requested, w1⟩
  rw [hresult] at htaken hnone hrequested hlibrary
  simp only at htaken hnone hrequested hlibrary
  obtain ⟨index, hnearest, hlevel⟩ := nearest_of_shared hsound hshared requested
  let targets := targets profile participating devices master index
  have haimed := htaken.trans (aim_tidy htaken.undisturbed profile index)
  have hcurrent1 : (w1.aim profile index).state.library.current =
      some { profile with volume := index } :=
    aim_current (by rw [hlibrary]; exact hcurrent) index
  have hfollow : w' = ((w1.aim profile index).restoreTargets Links.react devices true
      targets).2.settle Links.react encode profile devices targets index
        ((w1.aim profile index).restoreTargets Links.react devices true targets).1 := by
    simp only [w', follow, hresult, participating, devices, hnearest]
    rfl
  have hissued := settle_holds encode (issued_rules ((w1.aim profile index).restoreTargets
    Links.react devices true targets).2.registry.issued).toGroupRules
    (w := ((w1.aim profile index).restoreTargets Links.react devices true targets).2)
    (show Holds _ _ from le_rfl) profile devices targets index
    ((w1.aim profile index).restoreTargets Links.react devices true targets).1
  obtain ⟨hsteady, hrestored⟩ := restoreTargets_steady (h.of_tidy haimed)
    (targets_distinct hsound hmaster participating index)
    (fun t ht => reachable_of_mem_targets hsound (hr.trans haimed.gentle) hlevel hmaster ht)
    (le_trans hissued (by rw [← hfollow]; exact hwrap))
  have hagree := restoreTargets_agree Links.react devices true (w1.aim profile index) targets
  have hsettled := settle_tidy encode hsteady.undisturbed profile devices targets index
    ((w1.aim profile index).restoreTargets Links.react devices true targets).1
  have hlibrary' := settle_library encode
    ((w1.aim profile index).restoreTargets Links.react devices true targets).2
    profile devices targets index
    ((w1.aim profile index).restoreTargets Links.react devices true targets).1
  rw [← hfollow] at hsettled hlibrary'
  generalize (w1.aim profile index).restoreTargets Links.react devices true targets = result
    at hsteady hrestored hagree hsettled hlibrary'
  obtain ⟨ready, w2⟩ := result
  simp only at hsteady hrestored hagree hsettled hlibrary'
  have hcurrent' : w'.state.library.current = some { profile with volume := index } := by
    rw [hlibrary', hagree.library]
    exact hcurrent1
  refine ⟨⟨hsteady.of_tidy hsettled, ?_, ?_, ⟨index, hcurrent'⟩, ?_, ?_, ?_⟩, ?_, ?_, requested,
    index, hlevel, hrequested, hcurrent', ?_⟩
  · exact hsettled.editing.trans (hagree.editing.trans haimed.editing)
  · exact hsettled.outside.trans (hrestored.outside.trans haimed.outside)
  · exact hsettled.gentle.keys.trans (hrestored.keys.trans haimed.gentle.keys)
  · intro id
    exact (hsettled.gentle.device id).trans ((hrestored.device id).trans (haimed.gentle.device id))
  · intro receiver hreceiver
    obtain ⟨mid, hmid, hkept⟩ := hsettled.gentle.receiver_back hreceiver
    obtain ⟨old, hold⟩ := hrestored.receiver_back hmid
    obtain ⟨mid', hmid', _, _, hunsolicited, _⟩ := hrestored.receiver master old hold
    rw [hmid] at hmid'
    cases hmid'
    apply hkept.unsolicited
    rw [hunsolicited]
    have haimedRegistry : (w1.aim profile index).registry = w1.registry := by
      rw [aim]
      split_ifs
      · rfl
      · rfl
    rw [haimedRegistry] at hold
    exact hnone old hold
  · exact hsettled.needsFence.trans (hrestored.needsFence.trans haimed.needsFence)
  · exact (hsettled.gentle.hasPanelBarrier master).trans
      ((hrestored.hasPanelBarrier master).trans (haimed.gentle.hasPanelBarrier master))
  · intro t ht hpending
    obtain ⟨receiver, d, hreceiver, _⟩ := reachable_of_mem_targets hsound hr hlevel hmaster ht
    exact hrestored.asked haimed hsettled ht ⟨receiver, hreceiver⟩ hpending

/-- A request with a barrier was queued for the master. -/
def Barred (w w' : World Links LinkEvent) (master : Nat) : Prop :=
  ∃ old new d request index, w.registry.receivers.get? master = some old ∧
    w'.registry.receivers.get? master = some new ∧ old.device = some d ∧ d.InRange index ∧
    new.panelBarrier = some request ∧
    new.controls = old.controls ++ [.setVolume request index .restoreSpeaker]

/-- **The branch that puts a barrier.** -/
theorem fence_advanced {listed : DeviceStatus → Prop} {profile : Profile} (hsound : profile.Sound)
    {w : World Links LinkEvent} (h : Steady listed w)
    (hcurrent : w.state.library.current = some profile) {r : Registry}
    (hr : r.Gentle w.registry) {master : Nat} {device : DeviceStatus}
    (hmaster : (master, device) ∈ matching profile.master (connected r.snapshots))
    {level : Nat} (hshared : profile.Shared ((connected r.snapshots).map Prod.snd) level)
    (hwrap : (w.fence Links.react profile
      (profile.participating ((connected r.snapshots).map Prod.snd))
      master device).registry.issued ≤ 2 ^ 32) :
    let w' := w.fence Links.react profile
      (profile.participating ((connected r.snapshots).map Prod.snd)) master device
    Advanced listed profile master w w' ∧ w'.state.needsFence = false ∧ w.Barred w' master := by
  intro w'
  have hkeeps := fence_keeps Links.react w profile
    (profile.participating ((connected r.snapshots).map Prod.snd)) master device
  obtain ⟨index, hnearest, hlevel⟩ := nearest_of_shared hsound hshared profile.volume
  obtain ⟨hmem, hmatches⟩ := List.mem_filter.mp hmaster
  obtain ⟨first, hfirst, hdeviceFirst⟩ := (r.mem_connected_snapshots _).mp hmem
  obtain ⟨old, hold, hkeptFirst⟩ := hr.receiver master first hfirst
  have hdevice : old.device = some device := hkeptFirst.device.trans hdeviceFirst
  have hhealthy : device.healthy = true := healthy_of_matchesDevice hmatches
  have hrange : device.InRange index := by
    obtain ⟨hmin, hmax⟩ := range_of_matchesDevice hmatches
    rw [DeviceStatus.InRange, ← hmin, ← hmax]
    exact hlevel.shared.1
  have hdeny := denyAll_tidy h.undisturbed
  have hsteady := h.of_tidy hdeny
  obtain ⟨denied, hdenied, hkept⟩ := hdeny.gentle.receiver master old hold
  have hdeviceDenied : denied.device = some device := hkept.device.trans hdevice
  rcases hresult : (w.denyAll Links.react).call Links.react
    (fun refusal r => r.panelVolumeRequest refusal master index) with ⟨answer, w1⟩
  obtain ⟨hdrawn, hcall⟩ := requestCall_ok hsteady.undisturbed hsteady.attended.positive hdenied
    index true hresult
  have hissued : w'.registry.issued = w1.registry.issued := by
    simp only [w', fence, hsteady.unblocked master, hnearest, hresult]
    cases answer with
    | ok request =>
        rfl
    | error e =>
        rfl
  have hlt : (w.denyAll Links.react).registry.issued < 2 ^ 32 := by
    rw [hissued, hdrawn] at hwrap
    exact hwrap
  obtain ⟨rfl, elapsed, hw1, hundisturbed⟩ := hcall hlt
  have hfence : w' =
      (w1.note (.panel master (w.denyAll Links.react).registry.issued)).update (fun s =>
        { s.await master (w.denyAll Links.react).registry.issued index w1.now with
            masterSeen := some (master, device.volume)
            needsFence := false }) := by
    simp only [w', fence, hsteady.unblocked master, hnearest, hresult]
    rfl
  subst hw1
  have hregistry : w'.registry = (w.denyAll Links.react).registry.requested master
      (fun receiver => receiver.queueVolume (w.denyAll Links.react).registry.issued index
        .restoreSpeaker true) := by
    rw [hfence]
    rfl
  have hqueued : w'.registry.receivers.get? master = some (denied.queueVolume
      (w.denyAll Links.react).registry.issued index .restoreSpeaker true) := by
    rw [hregistry, Registry.requested, SortedMap.get?_modify, if_pos rfl, hdenied]
    rfl
  refine ⟨⟨?_, hkeeps.editing, ?_, ⟨profile.volume, ?_⟩, ?_, ?_, ?_⟩, ?_,
    old, _, device, _, index, hold, hqueued, hdevice, hrange, rfl, ?_⟩
  · rw [hfence]
    exact ⟨hundisturbed, hsteady.unblocked,
      hsteady.attended.requested hdenied hdeviceDenied hhealthy index .restoreSpeaker true,
      hsteady.awaited.requested hsteady.attended hdenied hdeviceDenied hrange .restoreSpeaker
        true _⟩
  · rw [hfence]
    exact hdeny.outside
  · rw [hkeeps.library]
    exact hcurrent
  · rw [hregistry]
    exact (SortedMap.keys_modify _ _ _).trans hdeny.gentle.keys
  · intro id
    rw [← hdeny.gentle.device id, hregistry, Registry.requested, SortedMap.get?_modify]
    split_ifs
    · rw [Option.bind_map]
      rfl
    · rfl
  · intro receiver hreceiver
    rw [hqueued] at hreceiver
    cases hreceiver
    rfl
  · rw [hfence]
    rfl
  · rw [← hkept.controls]
    rfl

theorem fenceNeeded_tidy {w : World Links LinkEvent} (h : w.Undisturbed) (master : Nat) :
    w.Tidy (w.fenceNeeded Links.react master).2 ∧
      (w.fenceNeeded Links.react master).2.state.library = w.state.library ∧
      (w.fenceNeeded Links.react master).1 =
        (w.state.needsFence || w.registry.hasPanelBarrier master) := by
  rw [fenceNeeded]
  cases hneeds : w.state.needsFence with
  | true =>
      rw [if_pos rfl]
      exact ⟨update_tidy h id (fun _ => ⟨rfl, rfl, rfl, rfl⟩), rfl, rfl⟩
  | false =>
      obtain ⟨htidy, hvalue, _⟩ := call_tidy h (fun _ r => (r.hasPanelBarrier master, r))
        (.refl w.registry)
      rw [if_neg Bool.false_ne_true]
      exact ⟨htidy, (call_agree Links.react w _).library, hvalue.trans (Bool.false_or _).symm⟩

/-- The level that a tick without pending requests works towards, and what it asks. -/
structure Levelled (profile : Profile) (master : Nat) (w w' : World Links LinkEvent)
    (index : Nat) : Prop where
  nearest : ∃ requested,
    profile.IsLevel ((connected w.registry.snapshots).map Prod.snd) requested index ∧
      ((∀ receiver, w.registry.receivers.get? master = some receiver →
        receiver.unsolicitedVolume = none) → requested = profile.volume)
  current : w'.state.library.current = some { profile with volume := index }
  asked : ∀ t ∈ targets profile
    (profile.participating ((connected w.registry.snapshots).map Prod.snd))
    (connected w.registry.snapshots) master index, w.Asked w' t

theorem Asked.of_gentle {w w1 w' : World Links LinkEvent} {t : Nat × Nat}
    (h : w1.Asked w' t) (hgentle : w.registry.Gentle w1.registry) : w.Asked w' t := by
  obtain ⟨mid, new, hmid, hnew, hasked⟩ := h
  obtain ⟨old, hold, hkept⟩ := hgentle.receiver_back hmid
  rw [hkept.controls, hkept.device] at hasked
  exact ⟨old, new, hold, hnew, hasked⟩

theorem Barred.of_gentle {w w1 w' : World Links LinkEvent} {master : Nat}
    (h : w1.Barred w' master) (hgentle : w.registry.Gentle w1.registry) : w.Barred w' master := by
  obtain ⟨mid, new, d, request, index, hmid, hnew, hdevice, hrange, hbarrier, hcontrols⟩ := h
  obtain ⟨old, hold, hkept⟩ := hgentle.receiver_back hmid
  rw [hkept.device] at hdevice
  rw [hkept.controls] at hcontrols
  exact ⟨old, new, d, request, index, hold, hnew, hdevice, hrange, hbarrier, hcontrols⟩

theorem Advanced.of_gentle {listed : DeviceStatus → Prop} {profile : Profile}
    {master : Nat} {w w1 w' : World Links LinkEvent}
    (h : Advanced listed profile master w1 w') (hediting : w1.state.editing = w.state.editing)
    (houtside : w1.outside = w.outside) (hgentle : w.registry.Gentle w1.registry) :
    Advanced listed profile master w w' :=
  ⟨h.steady, h.editing.trans hediting, h.outside.trans houtside, h.current,
    h.keys.trans hgentle.keys, fun id => (h.device id).trans (hgentle.device id), h.unsolicited⟩

/-- The master whose requests are settled gets a barrier if one is needed; else the
group is brought to its level. -/
theorem tickMaster_advanced {listed : DeviceStatus → Prop} {profile : Profile}
    (hsound : profile.Sound)
    {w : World Links LinkEvent} (h : Steady listed w)
    (hcurrent : w.state.library.current = some profile) {r : Registry}
    (hr : r.Gentle w.registry) {master : Nat} {device : DeviceStatus}
    (hmaster : (master, device) ∈ matching profile.master (connected r.snapshots))
    {level : Nat} (hshared : profile.Shared ((connected r.snapshots).map Prod.snd) level)
    (hwrap : (w.tickMaster Links.react encode profile (connected r.snapshots) master
      device).registry.issued ≤ 2 ^ 32) :
    let w' := w.tickMaster Links.react encode profile (connected r.snapshots) master device
    Advanced listed profile master w w' ∧
      ((∀ id, w.state.pending.contains id = false) →
        (w'.state.needsFence = false ∧ w.Barred w' master ∧
          (w.state.needsFence || w.registry.hasPanelBarrier master) = true) ∨
        (w'.state.needsFence = false ∧ w'.registry.hasPanelBarrier master = false ∧
          ∃ requested index,
            profile.IsLevel ((connected r.snapshots).map Prod.snd) requested index ∧
            ((∀ receiver, w.registry.receivers.get? master = some receiver →
              receiver.unsolicitedVolume = none) → requested = profile.volume) ∧
            w'.state.library.current = some { profile with volume := index } ∧
            ∀ t ∈ targets profile
              (profile.participating ((connected r.snapshots).map Prod.snd))
              (connected r.snapshots) master index, w.Asked w' t)) := by
  intro w'
  obtain ⟨htidy, hlibrary, hbarrier⟩ := fenceNeeded_tidy h.undisturbed master
  have hbranch : w' = if (w.fenceNeeded Links.react master).1 = true ∧
        (w.fenceNeeded Links.react master).2.state.pending.contains master = false then
      (w.fenceNeeded Links.react master).2.fence Links.react profile
        (profile.participating ((connected r.snapshots).map Prod.snd)) master device
    else
      (w.fenceNeeded Links.react master).2.follow Links.react encode profile
        (profile.participating ((connected r.snapshots).map Prod.snd)) (connected r.snapshots)
        master device := rfl
  generalize hresult : w.fenceNeeded Links.react master = result at htidy hlibrary hbarrier hbranch
  obtain ⟨needed, w1⟩ := result
  simp only at htidy hlibrary hbarrier hbranch
  have hsteady := h.of_tidy htidy
  have hcurrent1 : w1.state.library.current = some profile := by
    rw [hlibrary]
    exact hcurrent
  have hwrap' : w'.registry.issued ≤ 2 ^ 32 := hwrap
  split_ifs at hbranch with hfence
  · rw [hbranch] at hwrap' ⊢
    obtain ⟨hadvanced, hneeds, hbarred⟩ := fence_advanced hsound hsteady hcurrent1
      (hr.trans htidy.gentle) hmaster hshared hwrap'
    exact ⟨hadvanced.of_gentle htidy.editing htidy.outside htidy.gentle,
      fun _ => Or.inl ⟨hneeds, hbarred.of_gentle htidy.gentle, hbarrier ▸ hfence.1⟩⟩
  · rw [hbranch] at hwrap' ⊢
    obtain ⟨hadvanced, hneeds, hstill, requested, index, hlevel, hrequested, hvolume, hasked⟩ :=
      follow_advanced encode hsound hsteady hcurrent1 (hr.trans htidy.gentle) hmaster hshared hwrap'
    refine ⟨hadvanced.of_gentle htidy.editing htidy.outside htidy.gentle, ?_⟩
    intro hpending
    have hnot : (w.state.needsFence || w.registry.hasPanelBarrier master) = false := by
      rw [← hbarrier, Bool.eq_false_iff]
      intro hneeded
      refine hfence ⟨hneeded, ?_⟩
      rw [htidy.pending]
      exact hpending master
    rw [Bool.or_eq_false_iff] at hnot
    refine Or.inr ⟨hneeds.trans (htidy.needsFence.trans hnot.1),
      hstill.trans ((htidy.gentle.hasPanelBarrier master).trans hnot.2), requested, index, hlevel,
      ?_, hvolume, ?_⟩
    · intro hnone
      apply hrequested
      intro receiver hreceiver
      obtain ⟨old, hold, hkept⟩ := htidy.gentle.receiver_back hreceiver
      exact hkept.unsolicited (hnone old hold)
    · intro t ht
      exact (hasked t ht (by rw [htidy.pending]; exact hpending t.1)).of_gentle htidy.gentle

/-- A state between ticks in which the next tick finds one master and nothing too
old. -/
structure Expectant (listed : DeviceStatus → Prop) (profile : Profile) (master : Nat)
    (device : DeviceStatus) (w : World Links LinkEvent) : Prop where
  undisturbed : w.Undisturbed
  editing : w.state.editing = false
  unblocked : ∀ id, w.state.blocked.contains id = false
  attended : Attended listed w.registry w.outside
  reviewable : w.Reviewable w.state.pending.entries
  current : w.state.library.current = some profile
  master : matching profile.master (connected w.registry.snapshots) = [(master, device)]

/-- The first part of the tick. -/
theorem Expectant.reviewed {listed : DeviceStatus → Prop} {profile : Profile}
    {master : Nat} {device : DeviceStatus} {w : World Links LinkEvent}
    (h : Expectant listed profile master device w) :
    ∃ w2, w.tick Links.react encode =
        w2.tickMaster Links.react encode profile (connected w.registry.snapshots) master device ∧
      Steady listed w2 ∧ w.registry.Gentle w2.registry ∧
      w2.state.editing = w.state.editing ∧ w2.outside = w.outside ∧
      w2.state.needsFence = w.state.needsFence ∧ w2.state.library.current = some profile ∧
      (AllConfirmed w.state.pending w.registry →
        ∀ id, w2.state.pending.contains id = false) := by
  obtain ⟨hseen, hvalue, hregistry⟩ := call_tidy h.undisturbed (fun _ r => (r.snapshots, r))
    (.refl w.registry)
  have hsnapshots : w.snapshots Links.react = (w.registry.snapshots,
      (w.call Links.react (fun _ r => (r.snapshots, r))).2) := Prod.ext hvalue rfl
  have hlibrary := (call_agree Links.react w (fun _ r => (r.snapshots, r))).library
  generalize (w.call Links.react (fun _ r => (r.snapshots, r))).2 = w1
    at hseen hregistry hsnapshots hlibrary
  have hreviewable1 : w1.Reviewable w1.state.pending.entries := by
    rw [hseen.pending, Reviewable, hregistry, hseen.outside, hseen.latest]
    exact h.reviewable
  have hattended1 : Attended listed w1.registry w1.outside := by
    rw [hregistry, hseen.outside]
    exact h.attended
  obtain ⟨hreviewed, hsteady, hempty⟩ := review_steady hseen.undisturbed
    (by rw [hseen.blocked]; exact h.unblocked) hattended1 hreviewable1
  rw [hregistry] at hreviewed hsteady hempty
  have hcurrent : (w1.review Links.react w.registry.snapshots).state.library.current =
      some profile := by
    rw [(review_agree Links.react w1 w.registry.snapshots).library, hlibrary]
    exact h.current
  refine ⟨w1.review Links.react w.registry.snapshots, ?_, hsteady,
    hseen.gentle.trans hreviewed.gentle, hreviewed.editing.trans hseen.editing,
    hreviewed.outside.trans hseen.outside, hreviewed.needsFence.trans hseen.needsFence, hcurrent,
    fun hconfirmed => hempty (by rw [hseen.pending]; exact hconfirmed)⟩
  simp only [tick, h.editing, hsnapshots, hcurrent, h.master]
  rfl

/-- **An undisturbed tick**, if there is a shared volume. -/
theorem tick_advanced {listed : DeviceStatus → Prop} {profile : Profile} (hsound : profile.Sound)
    {w : World Links LinkEvent} {master : Nat} {device : DeviceStatus}
    (h : Expectant listed profile master device w) {level : Nat}
    (hshared : profile.Shared ((connected w.registry.snapshots).map Prod.snd) level)
    (hwrap : (w.tick Links.react encode).registry.issued ≤ 2 ^ 32) :
    Advanced listed profile master w (w.tick Links.react encode) ∧
      (AllConfirmed w.state.pending w.registry →
        (w.tick Links.react encode).state.needsFence = false ∧
          ((w.Barred (w.tick Links.react encode) master ∧
              (w.state.needsFence || w.registry.hasPanelBarrier master) = true) ∨
            ((w.tick Links.react encode).registry.hasPanelBarrier master = false ∧
              ∃ index, Levelled profile master w (w.tick Links.react encode) index))) := by
  obtain ⟨w2, htick, hsteady, hgentle, hediting, houtside, hneedsFence, hcurrent, hempty⟩ :=
    h.reviewed encode
  rw [htick] at hwrap ⊢
  obtain ⟨hadvanced, hbranches⟩ := tickMaster_advanced encode hsound hsteady hcurrent hgentle
    (h.master ▸ List.mem_singleton_self _) hshared hwrap
  refine ⟨hadvanced.of_gentle hediting houtside hgentle, ?_⟩
  intro hconfirmed
  rcases hbranches (hempty hconfirmed) with
    ⟨hneeds, hbarred, hneeded⟩ |
      ⟨hneeds, hclear, requested, index, hlevel, hrequested, hvolume, hasked⟩
  · rw [hneedsFence, hgentle.hasPanelBarrier] at hneeded
    exact ⟨hneeds, Or.inl ⟨hbarred.of_gentle hgentle, hneeded⟩⟩
  · refine ⟨hneeds, Or.inr ⟨hclear, index, ⟨requested, hlevel, ?_⟩, hvolume,
      fun t ht => (hasked t ht).of_gentle hgentle⟩⟩
    intro hnone
    apply hrequested
    intro receiver hreceiver
    obtain ⟨old, hold, hkept⟩ := hgentle.receiver_back hreceiver
    exact hkept.unsolicited (hnone old hold)

end World

end Outcomes

section Rest

/-- A shared volume is the level nearest to itself. -/
theorem Profile.Shared.isLevel {profile : Profile} {devices : List DeviceStatus} {level : Nat}
    (h : profile.Shared devices level) : profile.IsLevel devices level level := by
  refine ⟨h, ?_⟩
  intro other _
  simp only [absDiff]
  omega

namespace World

variable (encode : Library → List UInt8)

/-- The devices that `approve` is asked about. -/
def expected (targets : List (Nat × Nat)) (devices : List (Nat × DeviceStatus)) :
    List (Nat × DeviceStatus) :=
  targets.filterMap (fun t => deviceOf devices t.1)

/-- Every target stands at its volume. -/
def AtRest (devices : List (Nat × DeviceStatus)) (targets : List (Nat × Nat)) : Prop :=
  ∀ t ∈ targets, ∃ d ∈ deviceOf devices t.1, d.2.volume = t.2

theorem restoreTargets_at_rest {w : World Links LinkEvent} {devices : List (Nat × DeviceStatus)}
    {targets : List (Nat × Nat)} (hrest : AtRest devices targets)
    (hpending : ∀ id, w.state.pending.contains id = false)
    (hunblocked : ∀ id, w.state.blocked.contains id = false) (ready : Bool) :
    w.restoreTargets Links.react devices ready targets = (ready, w) := by
  induction targets with
  | nil =>
      rfl
  | cons target rest ih =>
      obtain ⟨id, target⟩ := target
      have hhead := hrest (id, target) List.mem_cons_self
      rw [restoreTargets, if_pos ⟨hhead, hpending id, hunblocked id⟩]
      exact ih (fun t ht => hrest t (List.mem_cons_of_mem _ ht))

/-- A group at rest is approved. -/
theorem follow_at_rest {listed : DeviceStatus → Prop} {profile : Profile}
    (hsound : profile.Sound) {w : World Links LinkEvent}
    (h : Steady listed w) (hcurrent : w.state.library.current = some profile) {r : Registry}
    {master : Nat} (device : DeviceStatus)
    (hshared : profile.Shared ((connected r.snapshots).map Prod.snd) profile.volume)
    (hpending : ∀ id, w.state.pending.contains id = false)
    (hunsolicited : ∀ receiver, w.registry.receivers.get? master = some receiver →
      receiver.unsolicitedVolume = none)
    (hrest : AtRest (connected r.snapshots) (targets profile
      (profile.participating ((connected r.snapshots).map Prod.snd)) (connected r.snapshots)
      master profile.volume)) :
    ∃ r', w.registry.Gentle r' ∧
      (w.follow Links.react encode profile
        (profile.participating ((connected r.snapshots).map Prod.snd)) (connected r.snapshots)
        master device).registry = r'.approve (expected (targets profile
          (profile.participating ((connected r.snapshots).map Prod.snd)) (connected r.snapshots)
          master profile.volume) (connected r.snapshots)) := by
  obtain ⟨htaken, _, hrequested⟩ := adopt_tidy h.undisturbed profile master device
  have hlibrary := (adopt_keeps Links.react w profile master device).library
  rcases hresult : w.adopt Links.react profile master device with ⟨requested, w1⟩
  rw [hresult] at htaken hrequested hlibrary
  simp only at htaken hrequested hlibrary
  obtain rfl := hrequested hunsolicited
  have hnearest := (Profile.nearest_eq_some_iff hsound).mpr hshared.isLevel
  have hcurrent1 : w1.state.library.current = some profile := by
    rw [hlibrary]
    exact hcurrent
  have haim : w1.aim profile profile.volume = w1 := by
    rcases aim_cases hcurrent1 profile.volume with ⟨hw, _⟩ | ⟨hne, _⟩
    · exact hw
    · exact absurd rfl hne
  have hrestored := restoreTargets_at_rest (w := w1) hrest
    (by rw [htaken.pending]; exact hpending) (by rw [htaken.blocked]; exact h.unblocked) true
  simp only [follow, hresult, hnearest, haim, hrestored, settle, if_true]
  obtain ⟨happrove, _, hregistry⟩ := call_tidy htaken.undisturbed (fun _ r' => ((), r'.approve
    (expected (targets profile
      (profile.participating ((connected r.snapshots).map Prod.snd)) (connected r.snapshots)
      master profile.volume) (connected r.snapshots)))) (w1.registry.gentle_approve _)
  refine ⟨w1.registry, htaken.gentle, ?_⟩
  rcases saveConfirmed_cases encode _ with ⟨_, hsaved, _⟩ | ⟨_, _, hsaved⟩
  · rw [hsaved]
    exact hregistry
  · rw [hsaved]
    exact hregistry

/-- **A tick finds the group at rest** and approves it. -/
theorem tick_at_rest {listed : DeviceStatus → Prop} {profile : Profile}
    (hsound : profile.Sound) {w : World Links LinkEvent}
    {master : Nat} {device : DeviceStatus} (h : Expectant listed profile master device w)
    (hconfirmed : AllConfirmed w.state.pending w.registry)
    (hneeds : w.state.needsFence = false) (hclear : w.registry.hasPanelBarrier master = false)
    (hunsolicited : ∀ receiver, w.registry.receivers.get? master = some receiver →
      receiver.unsolicitedVolume = none)
    (hshared : profile.Shared ((connected w.registry.snapshots).map Prod.snd) profile.volume)
    (hrest : AtRest (connected w.registry.snapshots) (targets profile
      (profile.participating ((connected w.registry.snapshots).map Prod.snd))
      (connected w.registry.snapshots) master profile.volume)) :
    ∃ r', w.registry.Gentle r' ∧
      (w.tick Links.react encode).registry = r'.approve (expected (targets profile
        (profile.participating ((connected w.registry.snapshots).map Prod.snd))
        (connected w.registry.snapshots) master profile.volume)
        (connected w.registry.snapshots)) := by
  obtain ⟨w2, htick, hsteady, hgentle, _, _, hneeds2, hcurrent, hempty⟩ := h.reviewed encode
  obtain ⟨htidy, hlibrary, hbarrier⟩ := fenceNeeded_tidy hsteady.undisturbed master
  have hneeded : (w2.fenceNeeded Links.react master).1 = false := by
    rw [hbarrier, hneeds2, hneeds, hgentle.hasPanelBarrier, hclear]
    rfl
  have hbranch : w.tick Links.react encode =
      (w2.fenceNeeded Links.react master).2.follow Links.react encode profile
        (profile.participating ((connected w.registry.snapshots).map Prod.snd))
        (connected w.registry.snapshots) master device := by
    rw [htick]
    simp only [tickMaster, hneeded]
    rfl
  have hnone : ∀ receiver,
      (w2.fenceNeeded Links.react master).2.registry.receivers.get? master = some receiver →
        receiver.unsolicitedVolume = none := by
    intro receiver hreceiver
    obtain ⟨old, hold, hkept⟩ := (hgentle.trans htidy.gentle).receiver_back hreceiver
    exact hkept.unsolicited (hunsolicited old hold)
  obtain ⟨r', hr', hregistry⟩ := follow_at_rest encode hsound (hsteady.of_tidy htidy)
    (by rw [hlibrary]; exact hcurrent) device hshared
    (by rw [htidy.pending]; exact hempty hconfirmed) hnone hrest
  refine ⟨r', (hgentle.trans htidy.gentle).trans hr', ?_⟩
  rw [hbranch]
  exact hregistry

/-- **Exactly the receivers of the targets get through.** -/
theorem approve_opens {r r' : Registry} (hgentle : r.Gentle r') {targets : List (Nat × Nat)}
    (hfound : ∀ t ∈ targets, ∃ d, deviceOf (connected r.snapshots) t.1 = some (t.1, d) ∧
      d.healthy = true) {id : Nat} {receiver : Receiver}
    (hreceiver : (r'.approve (expected targets (connected r.snapshots))).receivers.get? id =
      some receiver) :
    receiver.playback = true ↔ ∃ t ∈ targets, t.1 = id := by
  have hready : (expected targets (connected r.snapshots)).all r'.stillAsExpected = true := by
    rw [List.all_eq_true]
    intro e he
    obtain ⟨t, ht, hte⟩ := List.mem_filterMap.mp he
    obtain ⟨d, hd, hhealthy⟩ := hfound t ht
    rw [hd] at hte
    cases hte
    obtain ⟨old, hold, hdevice⟩ := (r.mem_connected_snapshots _).mp (List.mem_of_find?_eq_some hd)
    obtain ⟨new, hnew, hkept⟩ := hgentle.receiver t.1 old hold
    have hnewDevice : new.device = some d := hkept.device.trans hdevice
    simp [Registry.stillAsExpected, hnew, hnewDevice, hhealthy, sameDevice_iff]
  have hids : (expected targets (connected r.snapshots)).any (fun e => e.1 = id) = true ↔
      ∃ t ∈ targets, t.1 = id := by
    rw [List.any_eq_true]
    constructor
    · rintro ⟨e, he, hid⟩
      obtain ⟨t, ht, hte⟩ := List.mem_filterMap.mp he
      obtain ⟨d, hd, _⟩ := hfound t ht
      rw [hd] at hte
      cases hte
      exact ⟨t, ht, of_decide_eq_true hid⟩
    · rintro ⟨t, ht, rfl⟩
      obtain ⟨d, hd, _⟩ := hfound t ht
      exact ⟨(t.1, d), List.mem_filterMap.mpr ⟨t, ht, hd⟩, decide_eq_true rfl⟩
  simp only [Registry.approve, SortedMap.get?_mapValues, Option.map_eq_some_iff] at hreceiver
  obtain ⟨old, _, rfl⟩ := hreceiver
  simp only [hready, Bool.true_and]
  exact hids

end World

end Rest

end Soundwave

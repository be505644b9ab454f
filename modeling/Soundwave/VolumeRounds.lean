import Soundwave.GroupCommands
import Soundwave.PanelBarrier

/-!
# Rounds of ticks and answers

A round is a tick during which nothing else happens, followed by the turn of the
phones: each takes the volume commands that wait for it, in their order, and its
answers arrive.  An answer says that the phone is healthy and at the volume of the
command; identity and range stay as they are.

The registry keeps 32 answers of a receiver and drops an answer whose volume is
out of range.  So after its turn it has the answer to a command in range with fewer
than 32 later ones.
-/

namespace Soundwave

section Model

/-- The request id and the volume of a volume request. -/
def ControlMessage.volumeCommand : ControlMessage → Option (Nat × Nat)
  | .setVolume request index _ => some (request, index)
  | _ => none

/-- The volume commands that the phone has not taken. -/
def Link.waiting (link : Link) (receiver : Receiver) : List (Nat × Nat) :=
  (receiver.controls.drop link.processed.length).filterMap ControlMessage.volumeCommand

/-- The status of a phone that has obeyed a command. -/
def DeviceStatus.obeying (d : DeviceStatus) (command : Nat × Nat) : DeviceStatus :=
  { d with
      requestId := command.1
      volume := command.2
      fixed := false
      speaker := true
      failed := false }

/-- A phone obeys a command, and its answer arrives. -/
def Registry.obey (r : Registry) (id : Nat) (command : Nat × Nat) : Registry :=
  match (r.receivers.get? id).bind Receiver.device with
  | some d => r.updateDevice id (d.obeying command)
  | none => r

/-- Every phone has taken all its commands. -/
def Links.allTaken (s : Links) (r : Registry) : Links :=
  { s with links := s.links.mapValues (fun id link => { link with processed := r.queuedTo id }) }

/-- What happens during a round: the time before each registry call of the tick,
whether the tick can save, and the time that the phones take. -/
structure Round where
  ticking : List Nat
  saveFailure : Option String
  pause : Nat

namespace World

/-- The volume commands that wait for a phone. -/
def waiting (w : World Links LinkEvent) (id : Nat) : List (Nat × Nat) :=
  match w.registry.receivers.get? id, w.outside.links.get? id with
  | some receiver, some link => link.waiting receiver
  | _, _ => []

/-- The turn of the phones. -/
def phonesObey (w : World Links LinkEvent) : World Links LinkEvent :=
  { w with
      registry := w.registry.receivers.keys.foldl
        (fun r id => (w.waiting id).foldl (fun r command => r.obey id command) r) w.registry
      outside := w.outside.allTaken w.registry }

/-- The start of a tick during which nothing else happens. -/
def ticking (w : World Links LinkEvent) (round : Round) : World Links LinkEvent :=
  { w with
      script := round.ticking.map (fun elapsed => ⟨elapsed, [], fun _ => none⟩)
      saveFailure := round.saveFailure }

/-- Such a tick. -/
def afterTick (encode : Library → List UInt8) (w : World Links LinkEvent) (round : Round) :
    World Links LinkEvent :=
  (w.ticking round).tick Links.react encode

/-- A round. -/
def afterRound (encode : Library → List UInt8) (w : World Links LinkEvent) (round : Round) :
    World Links LinkEvent :=
  let w := (w.afterTick encode round).phonesObey
  { w with now := w.now + round.pause }

end World

end Model

section Replies

namespace SortedMap

universe u

variable {ν : Type u}

/-- What is there after a bounded insertion was there or is new. -/
theorem contains_insert_bounded {m : SortedMap Nat ν} {k q : Nat} {w : ν}
    (h : ((if 32 ≤ m.size then m.popFirst else m).insert k w).contains q = true) :
    m.contains q = true ∨ q = k := by
  obtain ⟨v, hv⟩ := (contains_eq_true_iff _ _).mp h
  rw [get?_insert] at hv
  split_ifs at hv with hq
  · exact Or.inr hq
  · exact Or.inl ((contains_eq_true_iff _ _).mpr ⟨v, get?_of_popFirst hv⟩)
  · exact Or.inl ((contains_eq_true_iff _ _).mpr ⟨v, hv⟩)

/-- The first entry goes only for 32 others. -/
theorem get?_popFirst_of_few {m : SortedMap Nat ν} {q : Nat} {v : ν} (hget : m.get? q = some v)
    (hfull : 32 ≤ m.size) (hfew : (m.keys.filter (q < ·)).length < 31) :
    m.popFirst.get? q = some v := by
  rw [get?_eq_some_iff] at hget ⊢
  have hsorted := m.sorted
  have hsize : m.size = m.entries.length := rfl
  have hkeys : m.keys = m.entries.map Prod.fst := rfl
  have htail : m.popFirst.entries = m.entries.tail := rfl
  rw [hsize] at hfull
  rw [hkeys] at hfew
  rw [htail]
  cases hentries : m.entries with
  | nil =>
      rw [hentries] at hget
      cases hget
  | cons first rest =>
      rw [hentries] at hget hsorted hfull hfew
      rcases List.mem_cons.mp hget with rfl | hget
      · rw [List.map_cons, List.pairwise_cons] at hsorted
        have hall : (rest.map Prod.fst).filter (q < ·) = rest.map Prod.fst := by
          rw [List.filter_eq_self]
          exact fun x hx => decide_eq_true (hsorted.1 x hx)
        rw [List.map_cons, List.filter_cons_of_neg (by simp), hall, List.length_map] at hfew
        rw [List.length_cons] at hfull
        omega
      · exact hget

/-- A bounded insertion of a greater key keeps an entry with few later ones. -/
theorem get?_insert_bounded {m : SortedMap Nat ν} {k q : Nat} {v w : ν}
    (habove : ∀ x ∈ m.keys, x < k) (hget : m.get? q = some v)
    (hfew : (m.keys.filter (q < ·)).length < 31) :
    ((if 32 ≤ m.size then m.popFirst else m).insert k w).get? q = some v := by
  have hmem : q ∈ m.keys := (mem_keys_iff m q).mpr ((contains_eq_true_iff _ _).mpr ⟨v, hget⟩)
  have hne : q ≠ k := ne_of_lt (habove q hmem)
  rw [get?_insert_ne _ _ hne]
  split_ifs with hfull
  · exact get?_popFirst_of_few hget hfull hfew
  · exact hget

/-- A bounded insertion of a greater key adds at most one later key. -/
theorem later_insert_bounded {m : SortedMap Nat ν} {k : Nat} {w : ν}
    (habove : ∀ x ∈ m.keys, x < k) (q : Nat) :
    (((if 32 ≤ m.size then m.popFirst else m).insert k w).keys.filter (q < ·)).length ≤
      (m.keys.filter (q < ·)).length + 1 := by
  split_ifs
  · have habove' : ∀ x ∈ m.popFirst.keys, x < k := by
      rw [keys_popFirst]
      exact fun x hx => habove x (List.mem_of_mem_tail hx)
    rw [keys_insert_of_greater _ _ _ habove', keys_popFirst, List.filter_append,
      List.length_append]
    have htail := ((List.tail_sublist m.keys).filter (q < ·)).length_le
    have hone := List.length_filter_le (fun x => decide (q < x)) [k]
    exact Nat.add_le_add htail hone
  · rw [keys_insert_of_greater _ _ _ habove, List.filter_append, List.length_append]
    exact Nat.add_le_add_left (List.length_filter_le (fun x => decide (q < x)) [k]) _

end SortedMap

end Replies

section Obeying

namespace DeviceStatus

/-- A status as the registry stores it. -/
structure Stored (d : DeviceStatus) : Prop where
  consistent : d.consistent = true
  sanitized : d.sanitized = d

/-- The same phone with the same range. -/
structure Kin (d d' : DeviceStatus) : Prop where
  deviceId : d'.deviceId = d.deviceId
  name : d'.name = d.name
  minimum : d'.minimum = d.minimum
  maximum : d'.maximum = d.maximum

theorem Kin.refl (d : DeviceStatus) : d.Kin d :=
  ⟨rfl, rfl, rfl, rfl⟩

theorem Kin.trans {a b c : DeviceStatus} (h : a.Kin b) (h' : b.Kin c) : a.Kin c :=
  ⟨h'.deviceId.trans h.deviceId, h'.name.trans h.name, h'.minimum.trans h.minimum,
    h'.maximum.trans h.maximum⟩

/-- A volume in the range of a phone. -/
def InRange (d : DeviceStatus) (index : Nat) : Prop :=
  d.minimum ≤ index ∧ index ≤ d.maximum

theorem Kin.inRange {d d' : DeviceStatus} (h : d.Kin d') (index : Nat) :
    d'.InRange index ↔ d.InRange index := by
  rw [InRange, InRange, h.minimum, h.maximum]

theorem obeying_kin (d : DeviceStatus) (command : Nat × Nat) : d.Kin (d.obeying command) :=
  ⟨rfl, rfl, rfl, rfl⟩

theorem obeying_healthy (d : DeviceStatus) (command : Nat × Nat) :
    (d.obeying command).healthy = true :=
  rfl

theorem Stored.obeying_sanitized {d : DeviceStatus} (h : d.Stored) (command : Nat × Nat) :
    (d.obeying command).sanitized = d.obeying command := by
  have hname := congrArg DeviceStatus.name h.sanitized
  have hid := congrArg DeviceStatus.deviceId h.sanitized
  simp only [DeviceStatus.sanitized] at hname hid
  simp only [DeviceStatus.sanitized, DeviceStatus.obeying, hname, hid]

/-- The answer to a command in range is not dropped, and no other. -/
theorem Stored.obeying_consistent {d : DeviceStatus} (h : d.Stored) (command : Nat × Nat) :
    (d.obeying command).consistent = true ↔ d.InRange command.2 := by
  have hconsistent := h.consistent
  simp only [DeviceStatus.consistent, Bool.and_eq_true, decide_eq_true_eq] at hconsistent
  simp only [DeviceStatus.obeying, InRange]
  simp only [DeviceStatus.consistent, Bool.and_eq_true, decide_eq_true_eq]
  constructor
  · exact fun hrange => ⟨hrange.1.2, hrange.1.1.2⟩
  · exact fun hrange => ⟨⟨⟨hconsistent.1.1.1, hrange.2⟩, hrange.1⟩, hconsistent.2⟩

theorem Stored.obeying {d : DeviceStatus} (h : d.Stored) {command : Nat × Nat}
    (hrange : d.InRange command.2) : (d.obeying command).Stored :=
  ⟨(h.obeying_consistent command).mpr hrange, h.obeying_sanitized command⟩

end DeviceStatus

namespace Receiver

/-- The phone of a receiver obeys a command. -/
def obey (receiver : Receiver) (command : Nat × Nat) : Receiver :=
  match receiver.device with
  | some d => receiver.updated (d.obeying command)
  | none => receiver

theorem obey_of_not_inRange {receiver : Receiver} {d : DeviceStatus}
    (hdevice : receiver.device = some d) (hstored : d.Stored) {command : Nat × Nat}
    (hrange : ¬ d.InRange command.2) : receiver.obey command = receiver := by
  rw [← hstored.obeying_consistent] at hrange
  simp only [obey, hdevice]
  rw [updated, if_neg hrange]

theorem obey_of_inRange {receiver : Receiver} {d : DeviceStatus}
    (hdevice : receiver.device = some d) (hstored : d.Stored) {command : Nat × Nat}
    (hrange : d.InRange command.2) :
    receiver.obey command =
      (receiver.observe (d.obeying command)).store (d.obeying command) := by
  rw [← hstored.obeying_consistent] at hrange
  simp only [obey, hdevice]
  rw [updated, if_pos hrange, hstored.obeying_sanitized]

/-- An answer to a request is no report. -/
theorem observe_obeying {receiver : Receiver} {d : DeviceStatus}
    (hdevice : receiver.device = some d) {command : Nat × Nat} (hrequest : command.1 ≠ 0) :
    (receiver.observe (d.obeying command)).unsolicitedVolume = receiver.unsolicitedVolume ∧
      (receiver.observe (d.obeying command)).replies = receiver.replies := by
  have hsame : d.sameDevice (d.obeying command) = true := by
    simp [DeviceStatus.sameDevice, DeviceStatus.obeying]
  have hzero : ¬ ((d.obeying command).requestId = 0 ∧ (d.obeying command).healthy = true) :=
    fun h => hrequest h.1
  simp only [observe, hdevice, hsame, if_neg hzero, Bool.true_eq_false, if_false]
  split_ifs
  · exact ⟨rfl, rfl⟩
  · exact ⟨rfl, rfl⟩

/-- What a command in range does to a receiver. -/
structure Answered (receiver receiver' : Receiver) (d : DeviceStatus) (command : Nat × Nat) :
    Prop where
  device : receiver'.device = some (d.obeying command)
  replies : receiver'.replies = (if 32 ≤ receiver.replies.size then receiver.replies.popFirst
    else receiver.replies).insert command.1 (d.obeying command)
  unsolicited : receiver'.unsolicitedVolume = receiver.unsolicitedVolume
  barrier : receiver'.panelBarrier =
    if receiver.panelBarrier = some command.1 then none else receiver.panelBarrier

theorem obey_answered {receiver : Receiver} {d : DeviceStatus}
    (hdevice : receiver.device = some d) (hstored : d.Stored) {command : Nat × Nat}
    (hrequest : command.1 ≠ 0) (hrange : d.InRange command.2) :
    receiver.Answered (receiver.obey command) d command := by
  obtain ⟨hunsolicited, hreplies⟩ := observe_obeying hdevice hrequest
  rw [obey_of_inRange hdevice hstored hrange]
  refine ⟨rfl, ?_, hunsolicited, ?_⟩
  · simp only [store]
    rw [if_pos (show (d.obeying command).requestId ≠ 0 from hrequest), hreplies]
    rfl
  · simp only [store, (observe_frame receiver (d.obeying command)).2.1]
    rfl

theorem obey_controls (receiver : Receiver) (command : Nat × Nat) :
    (receiver.obey command).controls = receiver.controls := by
  rw [obey]
  split
  · exact updated_controls _ _
  · rfl

end Receiver

end Obeying

section Turns

namespace Receiver

/-- The phone of a receiver obeys commands one after the other. -/
def obeyAll (receiver : Receiver) (commands : List (Nat × Nat)) : Receiver :=
  commands.foldl obey receiver

/-- What the turn of a phone leaves of its receiver. -/
structure Obedient (receiver receiver' : Receiver) (d : DeviceStatus)
    (commands : List (Nat × Nat)) : Prop where
  controls : receiver'.controls = receiver.controls
  unsolicited : receiver'.unsolicitedVolume = receiver.unsolicitedVolume
  device : ∃ d', receiver'.device = some d' ∧ d.Kin d' ∧ d'.Stored ∧
    (d' = d ∨ d'.healthy = true)
  replied : ∀ q, receiver'.replies.contains q = true →
    receiver.replies.contains q = true ∨ q ∈ commands.map Prod.fst
  barrier : receiver'.panelBarrier = receiver.panelBarrier ∨ receiver'.panelBarrier = none

theorem obeyAll_obedient {receiver : Receiver} {d : DeviceStatus}
    {commands : List (Nat × Nat)} (hdevice : receiver.device = some d) (hstored : d.Stored)
    (hrequests : ∀ c ∈ commands, c.1 ≠ 0) :
    receiver.Obedient (receiver.obeyAll commands) d commands := by
  induction commands generalizing receiver d with
  | nil =>
      exact ⟨rfl, rfl, ⟨d, hdevice, .refl d, hstored, Or.inl rfl⟩, fun q hq => Or.inl hq,
        Or.inl rfl⟩
  | cons command rest ih =>
      have hrest : ∀ c ∈ rest, c.1 ≠ 0 := fun c hc => hrequests c (List.mem_cons_of_mem _ hc)
      rw [obeyAll, List.foldl_cons]
      by_cases hrange : d.InRange command.2
      · have hanswered := obey_answered hdevice hstored (hrequests _ List.mem_cons_self) hrange
        have hobedient := ih hanswered.device (hstored.obeying hrange) hrest
        obtain ⟨d', hd', hkin, hstored', hhealthy⟩ := hobedient.device
        refine ⟨hobedient.controls.trans (obey_controls receiver command),
          hobedient.unsolicited.trans hanswered.unsolicited,
          ⟨d', hd', (d.obeying_kin command).trans hkin, hstored', Or.inr ?_⟩, ?_, ?_⟩
        · rcases hhealthy with rfl | hhealthy
          · exact d.obeying_healthy command
          · exact hhealthy
        · intro q hq
          rcases hobedient.replied q hq with hq | hq
          · rw [hanswered.replies] at hq
            rcases SortedMap.contains_insert_bounded hq with hq | rfl
            · exact Or.inl hq
            · exact Or.inr List.mem_cons_self
          · exact Or.inr (List.mem_cons_of_mem _ hq)
        · rcases hobedient.barrier with hbarrier | hbarrier
          · rw [hanswered.barrier] at hbarrier
            split_ifs at hbarrier
            · exact Or.inr hbarrier
            · exact Or.inl hbarrier
          · exact Or.inr hbarrier
      · rw [obey_of_not_inRange hdevice hstored hrange]
        have hobedient := ih hdevice hstored hrest
        refine ⟨hobedient.controls, hobedient.unsolicited, hobedient.device, ?_,
          hobedient.barrier⟩
        intro q hq
        rcases hobedient.replied q hq with hq | hq
        · exact Or.inl hq
        · exact Or.inr (List.mem_cons_of_mem _ hq)

theorem obeyAll_split (receiver : Receiver) (before : List (Nat × Nat)) (command : Nat × Nat)
    (after : List (Nat × Nat)) :
    receiver.obeyAll (before ++ command :: after) =
      ((receiver.obeyAll before).obey command).obeyAll after := by
  rw [obeyAll, List.foldl_append, List.foldl_cons]
  rfl

/-- One command in range among others. -/
theorem obeyAll_answered {receiver : Receiver} {d : DeviceStatus} {before : List (Nat × Nat)}
    {command : Nat × Nat} (hdevice : receiver.device = some d) (hstored : d.Stored)
    (hbefore : ∀ c ∈ before, c.1 ≠ 0) (hrequest : command.1 ≠ 0) (hrange : d.InRange command.2) :
    ∃ d', d'.Stored ∧ d'.InRange command.2 ∧ (receiver.obeyAll before).Answered
      ((receiver.obeyAll before).obey command) d' command := by
  obtain ⟨d', hd', hkin, hstored', _⟩ := (obeyAll_obedient hdevice hstored hbefore).device
  have hrange' := (hkin.inRange command.2).mpr hrange
  exact ⟨d', hstored', hrange', obey_answered hd' hstored' hrequest hrange'⟩

/-- The turn of a phone with one command. -/
theorem obeyAll_single {receiver : Receiver} {d : DeviceStatus} {command : Nat × Nat}
    (hdevice : receiver.device = some d) (hstored : d.Stored) (hrequest : command.1 ≠ 0)
    (hrange : d.InRange command.2) :
    receiver.Answered (receiver.obeyAll [command]) d command :=
  obey_answered hdevice hstored hrequest hrange

/-- Fewer than 32 later answers leave an answer in place. -/
theorem obeyAll_keeps_reply {receiver : Receiver} {d : DeviceStatus}
    {commands : List (Nat × Nat)} {q : Nat} {reply : DeviceStatus}
    (hdevice : receiver.device = some d) (hstored : d.Stored)
    (hrequests : ∀ c ∈ commands, c.1 ≠ 0) (hascending : (commands.map Prod.fst).Pairwise (· < ·))
    (hbelow : ∀ x ∈ receiver.replies.keys, ∀ c ∈ commands, x < c.1)
    (hreply : receiver.replies.get? q = some reply)
    (hfew : (receiver.replies.keys.filter (q < ·)).length + commands.length < 32) :
    (receiver.obeyAll commands).replies.get? q = some reply := by
  induction commands generalizing receiver d with
  | nil =>
      exact hreply
  | cons command rest ih =>
      have hrest : ∀ c ∈ rest, c.1 ≠ 0 := fun c hc => hrequests c (List.mem_cons_of_mem _ hc)
      rw [List.map_cons, List.pairwise_cons] at hascending
      rw [List.length_cons] at hfew
      rw [obeyAll, List.foldl_cons]
      by_cases hrange : d.InRange command.2
      · have hanswered := obey_answered hdevice hstored (hrequests _ List.mem_cons_self) hrange
        have habove : ∀ x ∈ receiver.replies.keys, x < command.1 := fun x hx =>
          hbelow x hx command List.mem_cons_self
        refine ih hanswered.device (hstored.obeying hrange) hrest hascending.2 ?_ ?_ ?_
        · intro x hx c hc
          rw [SortedMap.mem_keys_iff, hanswered.replies] at hx
          rcases SortedMap.contains_insert_bounded hx with hx | rfl
          · exact hbelow x ((SortedMap.mem_keys_iff _ _).mpr hx) c (List.mem_cons_of_mem _ hc)
          · exact hascending.1 c.1 (List.mem_map_of_mem hc)
        · rw [hanswered.replies]
          exact SortedMap.get?_insert_bounded habove hreply (by omega)
        · have hlater := SortedMap.later_insert_bounded (w := d.obeying command) habove q
          rw [← hanswered.replies] at hlater
          omega
      · rw [obey_of_not_inRange hdevice hstored hrange]
        exact ih hdevice hstored hrest hascending.2
          (fun x hx c hc => hbelow x hx c (List.mem_cons_of_mem _ hc)) hreply (by omega)

/-- **The answer to a command in range is there after the turn**, unless 32 later
commands wait. -/
theorem obeyAll_reply {receiver : Receiver} {d : DeviceStatus} {before after : List (Nat × Nat)}
    {command : Nat × Nat} (hdevice : receiver.device = some d) (hstored : d.Stored)
    (hrequests : ∀ c ∈ before ++ command :: after, c.1 ≠ 0)
    (hascending : ((before ++ command :: after).map Prod.fst).Pairwise (· < ·))
    (hbelow : ∀ x, receiver.replies.contains x = true → ∀ c ∈ before ++ command :: after, x < c.1)
    (hrange : d.InRange command.2) (hfew : after.length < 32) :
    ∃ reply, (receiver.obeyAll (before ++ command :: after)).replies.get? command.1 = some reply ∧
      reply.volume = command.2 ∧ reply.healthy = true := by
  have hbefore : ∀ c ∈ before, c.1 ≠ 0 := fun c hc =>
    hrequests c (List.mem_append_left _ hc)
  have hafter : ∀ c ∈ after, c.1 ≠ 0 := fun c hc =>
    hrequests c (List.mem_append_right _ (List.mem_cons_of_mem _ hc))
  have hrequest := hrequests command (List.mem_append_right _ List.mem_cons_self)
  rw [List.map_append, List.map_cons, List.pairwise_append, List.pairwise_cons] at hascending
  obtain ⟨_, ⟨hfirst, hsorted⟩, hcross⟩ := hascending
  obtain ⟨d', hstored', hrange', hanswered⟩ :=
    obeyAll_answered hdevice hstored hbefore hrequest hrange
  have hkeys : ∀ x ∈ ((receiver.obeyAll before).obey command).replies.keys, x ≤ command.1 := by
    intro x hx
    rw [SortedMap.mem_keys_iff, hanswered.replies] at hx
    rcases SortedMap.contains_insert_bounded hx with hx | rfl
    · rcases (obeyAll_obedient hdevice hstored hbefore).replied x hx with hx | hx
      · exact (hbelow x hx command (List.mem_append_right _ List.mem_cons_self)).le
      · exact (hcross x hx command.1 List.mem_cons_self).le
    · exact le_rfl
  have hnone : ((receiver.obeyAll before).obey command).replies.keys.filter (command.1 < ·) =
      [] := by
    rw [List.filter_eq_nil_iff]
    intro x hx
    simpa using hkeys x hx
  refine ⟨d'.obeying command, ?_, rfl, rfl⟩
  rw [obeyAll_split]
  refine obeyAll_keeps_reply hanswered.device (hstored'.obeying hrange') hafter hsorted ?_ ?_ ?_
  · intro x hx c hc
    exact lt_of_le_of_lt (hkeys x hx) (hfirst c.1 (List.mem_map_of_mem hc))
  · rw [hanswered.replies, SortedMap.get?_insert_self]
  · rw [hnone, List.length_nil, Nat.zero_add]
    exact hfew

end Receiver

end Turns

section Registries

namespace Registry

/-- The registries have the same receivers and have drawn the same request ids. -/
structure Alike (r r' : Registry) : Prop where
  keys : r'.receivers.keys = r.receivers.keys
  issued : r'.issued = r.issued

theorem Alike.refl (r : Registry) : r.Alike r :=
  ⟨rfl, rfl⟩

theorem Alike.trans {a b c : Registry} (h : a.Alike b) (h' : b.Alike c) : a.Alike c :=
  ⟨h'.keys.trans h.keys, h'.issued.trans h.issued⟩

theorem obey_alike (r : Registry) (id : Nat) (command : Nat × Nat) :
    r.Alike (r.obey id command) := by
  rw [obey]
  split
  · rw [updateDevice]
    split_ifs
    · exact ⟨SortedMap.keys_modify _ _ _, rfl⟩
    · exact .refl r
  · exact .refl r

theorem get?_obey (r : Registry) (id : Nat) (command : Nat × Nat) (id' : Nat) :
    (r.obey id command).receivers.get? id' =
      if id' = id then (r.receivers.get? id').map (fun receiver => receiver.obey command)
      else r.receivers.get? id' := by
  rw [obey]
  cases hdevice : (r.receivers.get? id).bind Receiver.device with
  | some d =>
      obtain ⟨receiver, hreceiver, hd⟩ := Option.bind_eq_some_iff.mp hdevice
      simp only [get?_updateDevice]
      split_ifs with hid
      · rw [hid, hreceiver, Option.map_some, Option.map_some, Receiver.obey, hd]
      · rfl
  | none =>
      simp only
      split_ifs with hid
      · rw [hid]
        cases hreceiver : r.receivers.get? id with
        | none =>
            rfl
        | some receiver =>
            rw [hreceiver, Option.bind_some] at hdevice
            rw [Option.map_some, Receiver.obey, hdevice]
      · rfl

/-- A phone obeys commands one after the other. -/
def obeyAll (r : Registry) (id : Nat) (commands : List (Nat × Nat)) : Registry :=
  commands.foldl (fun r command => r.obey id command) r

theorem obeyAll_alike (r : Registry) (id : Nat) (commands : List (Nat × Nat)) :
    r.Alike (r.obeyAll id commands) := by
  induction commands generalizing r with
  | nil =>
      exact .refl r
  | cons command rest ih =>
      exact (r.obey_alike id command).trans (ih _)

theorem get?_obeyAll (r : Registry) (id : Nat) (commands : List (Nat × Nat)) (id' : Nat) :
    (r.obeyAll id commands).receivers.get? id' =
      if id' = id then (r.receivers.get? id').map (fun receiver => receiver.obeyAll commands)
      else r.receivers.get? id' := by
  induction commands generalizing r with
  | nil =>
      split_ifs
      · exact Option.map_id'.symm
      · rfl
  | cons command rest ih =>
      rw [obeyAll, List.foldl_cons]
      refine (ih (r.obey id command)).trans ?_
      rw [get?_obey]
      split_ifs
      · rw [Option.map_map]
        rfl
      · rfl

/-- The turn of the phones of some receivers. -/
theorem get?_turn (waiting : Nat → List (Nat × Nat)) {ids : List Nat} (hids : ids.Nodup)
    (r : Registry) (id : Nat) :
    (ids.foldl (fun r id => r.obeyAll id (waiting id)) r).receivers.get? id =
      if id ∈ ids then
        (r.receivers.get? id).map (fun receiver => receiver.obeyAll (waiting id))
      else r.receivers.get? id := by
  induction ids generalizing r with
  | nil =>
      rfl
  | cons first rest ih =>
      rw [List.nodup_cons] at hids
      rw [List.foldl_cons, ih hids.2, get?_obeyAll]
      by_cases hfirst : id = first
      · subst hfirst
        rw [if_neg hids.1, if_pos rfl, if_pos List.mem_cons_self]
      · rw [if_neg hfirst]
        by_cases hrest : id ∈ rest
        · rw [if_pos hrest, if_pos (List.mem_cons_of_mem _ hrest)]
        · rw [if_neg hrest, if_neg (fun h => (List.mem_cons.mp h).elim hfirst hrest)]

theorem turn_alike (waiting : Nat → List (Nat × Nat)) (ids : List Nat) (r : Registry) :
    r.Alike (ids.foldl (fun r id => r.obeyAll id (waiting id)) r) := by
  induction ids generalizing r with
  | nil =>
      exact .refl r
  | cons first rest ih =>
      exact (r.obeyAll_alike first _).trans (ih _)

end Registry

namespace World

theorem phonesObey_alike (w : World Links LinkEvent) : w.registry.Alike w.phonesObey.registry :=
  Registry.turn_alike w.waiting _ _

/-- **The turn of the phones**, receiver by receiver. -/
theorem get?_phonesObey (w : World Links LinkEvent) (id : Nat) :
    w.phonesObey.registry.receivers.get? id =
      (w.registry.receivers.get? id).map (fun receiver => receiver.obeyAll (w.waiting id)) := by
  have hsorted : w.registry.receivers.keys.Pairwise (· < ·) := w.registry.receivers.sorted
  have hnodup : w.registry.receivers.keys.Nodup := hsorted.imp (fun h => ne_of_lt h)
  refine (Registry.get?_turn w.waiting hnodup w.registry id).trans ?_
  split_ifs with hid
  · rfl
  · rw [SortedMap.mem_keys_iff, Bool.not_eq_true, SortedMap.contains_eq_false_iff] at hid
    rw [hid]
    rfl

theorem get?_links_phonesObey (w : World Links LinkEvent) (id : Nat) :
    w.phonesObey.outside.links.get? id =
      (w.outside.links.get? id).map (fun link =>
        { link with processed := w.registry.queuedTo id }) :=
  SortedMap.get?_mapValues _ _ _

end World

end Registries

end Soundwave

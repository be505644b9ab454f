import Soundwave.VolumeRounds

/-!
# Receivers whose phones answer

The part of the state that a group needs in order to settle, one receiver at a
time: the commands that wait for a phone have ascending request ids, above those
of all stored answers; the stored device has a range and passes the registry's
cleaning; and a listed device is healthy where commands wait.

Every state that is reached with phones behind FIFO channels is of that kind, if no
device is listed.  The turn of the phones keeps it: nothing waits afterwards, so
that any devices may be listed, and what was pending is confirmed.  If the devices
of a profile are listed, the same receivers match them after the turn.
-/

namespace Soundwave

section Groups

namespace Registry

/-- The receivers whose device matches a range. -/
def members (r : Registry) (range : DeviceRange) : List Nat :=
  (World.matching range (World.connected r.snapshots)).map Prod.fst

/-- Whether the device of a receiver matches a range. -/
def plays (r : Registry) (id : Nat) (range : DeviceRange) : Bool :=
  ((r.receivers.get? id).bind Receiver.device).any range.matchesDevice

theorem members_eq (r : Registry) (range : DeviceRange) :
    r.members range = r.receivers.keys.filter (fun id => r.plays id range) := by
  have hentries : ∀ l : List (Nat × Receiver),
      (∀ e ∈ l, r.receivers.get? e.1 = some e.2) →
      (World.matching range (World.connected
        (l.map (fun e => { id := e.1, device := e.2.device })))).map Prod.fst =
        (l.map Prod.fst).filter (fun id => r.plays id range) := by
    intro l hl
    induction l with
    | nil =>
        rfl
    | cons e l ih =>
        have hrest := ih (fun x hx => hl x (List.mem_cons_of_mem _ hx))
        have hplays : r.plays e.1 range = e.2.device.any range.matchesDevice := by
          rw [plays, hl e List.mem_cons_self, Option.bind_some]
        simp only [World.matching, World.connected] at hrest ⊢
        rw [List.map_cons, List.map_cons]
        cases hdevice : e.2.device with
        | none =>
            rw [List.filter_cons_of_neg (by simp [hplays, hdevice])]
            simpa [hdevice] using hrest
        | some d =>
            cases hmatches : range.matchesDevice d with
            | true =>
                rw [List.filter_cons_of_pos (by simp [hplays, hdevice, hmatches])]
                simpa [hdevice, hmatches] using hrest
            | false =>
                rw [List.filter_cons_of_neg (by simp [hplays, hdevice, hmatches])]
                simpa [hdevice, hmatches] using hrest
  exact hentries r.receivers.entries
    (fun e he => (SortedMap.get?_eq_some_iff _ _ _).mpr he)

theorem mem_members (r : Registry) (range : DeviceRange) (id : Nat) :
    id ∈ r.members range ↔ r.plays id range = true := by
  rw [members_eq, List.mem_filter]
  refine and_iff_right_of_imp ?_
  intro hplays
  rw [plays, Option.any_eq_true] at hplays
  obtain ⟨d, hd, _⟩ := hplays
  obtain ⟨receiver, hreceiver, _⟩ := Option.bind_eq_some_iff.mp hd
  exact (SortedMap.mem_keys_iff _ _).mpr
    ((SortedMap.contains_eq_true_iff _ _).mpr ⟨receiver, hreceiver⟩)

/-- The same receivers match the devices of a profile. -/
def SameGroup (profile : Profile) (r r' : Registry) : Prop :=
  ∀ range ∈ profile.devices, r'.members range = r.members range

theorem SameGroup.refl (profile : Profile) (r : Registry) : SameGroup profile r r :=
  fun _ _ => rfl

theorem SameGroup.trans {profile : Profile} {a b c : Registry} (h : SameGroup profile a b)
    (h' : SameGroup profile b c) : SameGroup profile a c :=
  fun range hrange => (h' range hrange).trans (h range hrange)

theorem sameGroup_of_plays {profile : Profile} {r r' : Registry}
    (hkeys : r'.receivers.keys = r.receivers.keys)
    (hplays : ∀ id, ∀ range ∈ profile.devices, r'.plays id range = r.plays id range) :
    SameGroup profile r r' := by
  intro range hrange
  rw [members_eq, members_eq, hkeys]
  apply List.filter_congr
  exact fun id _ => hplays id range hrange

end Registry

/-- The profile lists a device with this identity and range. -/
def Profile.Lists (profile : Profile) (d : DeviceStatus) : Prop :=
  ∃ range ∈ profile.devices,
    range.id = d.deviceId ∧ range.minimum = d.minimum ∧ range.maximum = d.maximum

theorem healthy_of_matchesDevice {range : DeviceRange} {d : DeviceStatus}
    (h : range.matchesDevice d = true) : d.healthy = true := by
  rw [matchesDevice_iff] at h
  exact (healthy_iff d).mpr h.2.2.2

/-- A kin that is healthy plays the same part as a healthy device. -/
theorem matchesDevice_of_kin {profile : Profile} {d d' : DeviceStatus} (hkin : d.Kin d')
    (hhealthy : d' = d ∨ d'.healthy = true) (hlisted : profile.Lists d → d.healthy = true)
    {range : DeviceRange} (hrange : range ∈ profile.devices) :
    range.matchesDevice d' = range.matchesDevice d := by
  rcases hhealthy with rfl | hhealthy
  · rfl
  · rw [Bool.eq_iff_iff, matchesDevice_iff, matchesDevice_iff, hkin.deviceId, hkin.minimum,
      hkin.maximum]
    have hhealthy' := (healthy_iff d').mp hhealthy
    constructor
    · rintro ⟨hid, hmin, hmax, _⟩
      exact ⟨hid, hmin, hmax, (healthy_iff d).mp (hlisted ⟨range, hrange, hid, hmin, hmax⟩)⟩
    · rintro ⟨hid, hmin, hmax, _⟩
      exact ⟨hid, hmin, hmax, hhealthy'⟩

end Groups

section Invariant

/-- A receiver, with its phone, whose waiting commands can be confirmed, and a device
that is healthy if commands wait and it is listed. -/
structure Tended (listed : DeviceStatus → Prop) (issued : Nat) (receiver : Receiver) (link : Link) :
    Prop where
  taken : link.processed.length ≤ receiver.controls.length
  ascending : ((link.waiting receiver).map Prod.fst).Pairwise (· < ·)
  drawn : ∀ c ∈ link.waiting receiver, c.1 ≠ 0 ∧ c.1 < issued
  replied : ∀ q, receiver.replies.contains q = true →
    q < issued ∧ ∀ c ∈ link.waiting receiver, q < c.1
  stored : ∀ d, receiver.device = some d → d.Stored
  role : link.waiting receiver ≠ [] → ∀ d, receiver.device = some d →
    listed d → d.healthy = true

namespace Tended

variable {listed : DeviceStatus → Prop} {issued issued' : Nat}
variable {receiver receiver' : Receiver} {link : Link}

theorem mono (h : Tended listed issued receiver link) (hissued : issued ≤ issued') :
    Tended listed issued' receiver link :=
  ⟨h.taken, h.ascending, fun c hc => ⟨(h.drawn c hc).1, lt_of_lt_of_le (h.drawn c hc).2 hissued⟩,
    fun q hq => ⟨lt_of_lt_of_le (h.replied q hq).1 hissued, (h.replied q hq).2⟩, h.stored, h.role⟩

theorem waiting_congr (link : Link) (hcontrols : receiver'.controls = receiver.controls) :
    link.waiting receiver' = link.waiting receiver := by
  rw [Link.waiting, Link.waiting, hcontrols]

/-- Fewer stored answers, and another gate, barrier or reported volume. -/
theorem of_eq (h : Tended listed issued receiver link)
    (hcontrols : receiver'.controls = receiver.controls)
    (hdevice : receiver'.device = receiver.device)
    (hreplies : ∀ q, receiver'.replies.contains q = true → receiver.replies.contains q = true) :
    Tended listed issued receiver' link := by
  have hwaiting := waiting_congr link hcontrols
  refine ⟨hcontrols ▸ h.taken, hwaiting ▸ h.ascending, hwaiting ▸ h.drawn, ?_, hdevice ▸ h.stored,
    ?_⟩
  · intro q hq
    rw [hwaiting]
    exact h.replied q (hreplies q hq)
  · rw [hwaiting, hdevice]
    exact h.role

theorem waiting_append (h : Tended listed issued receiver link) {request index : Nat}
    {purpose : VolumePurpose}
    (hcontrols : receiver'.controls = receiver.controls ++ [.setVolume request index purpose]) :
    link.waiting receiver' = link.waiting receiver ++ [(request, index)] := by
  rw [Link.waiting, Link.waiting, hcontrols, List.drop_append_of_le_length h.taken,
    List.filterMap_append]
  rfl

/-- The only command that waits. -/
theorem waiting_singleton (h : Tended listed issued receiver link)
    (hserved : link.waiting receiver = []) {request index : Nat} {purpose : VolumePurpose}
    (hcontrols : receiver'.controls = receiver.controls ++ [.setVolume request index purpose]) :
    link.waiting receiver' = [(request, index)] := by
  rw [h.waiting_append hcontrols, hserved]
  rfl

/-- A command to a healthy device joins the queue. -/
theorem queueVolume (h : Tended listed issued receiver link) (hissued : issued ≠ 0)
    {d : DeviceStatus} (hdevice : receiver.device = some d) (hhealthy : d.healthy = true)
    (index : Nat) (purpose : VolumePurpose) (barrier : Bool) :
    Tended listed (issued + 1) (receiver.queueVolume issued index purpose barrier) link := by
  have hwaiting : link.waiting (receiver.queueVolume issued index purpose barrier) =
      link.waiting receiver ++ [(issued, index)] := h.waiting_append rfl
  refine ⟨?_, ?_, ?_, ?_, h.stored, ?_⟩
  · exact h.taken.trans (by simp [Receiver.queueVolume])
  · rw [hwaiting, List.map_append, List.pairwise_append]
    refine ⟨h.ascending, List.pairwise_singleton _ _, ?_⟩
    intro a ha b hb
    obtain ⟨c, hc, rfl⟩ := List.mem_map.mp ha
    rw [List.map_singleton, List.mem_singleton] at hb
    rw [hb]
    exact (h.drawn c hc).2
  · rw [hwaiting]
    intro c hc
    rcases List.mem_append.mp hc with hc | hc
    · exact ⟨(h.drawn c hc).1, (h.drawn c hc).2.trans (Nat.lt_succ_self _)⟩
    · rw [List.mem_singleton.mp hc]
      exact ⟨hissued, Nat.lt_succ_self _⟩
  · rw [hwaiting]
    intro q hq
    obtain ⟨hlt, hbelow⟩ := h.replied q hq
    refine ⟨hlt.trans (Nat.lt_succ_self _), ?_⟩
    intro c hc
    rcases List.mem_append.mp hc with hc | hc
    · exact hbelow c hc
    · rw [List.mem_singleton.mp hc]
      exact hlt
  · intro _ d' hd' _
    have hsame : receiver.device = some d' := hd'
    rw [hdevice] at hsame
    cases hsame
    exact hhealthy

end Tended

/-- All receivers have a phone and are tended. -/
structure Attended (listed : DeviceStatus → Prop) (r : Registry) (k : Links) : Prop where
  positive : 1 ≤ r.issued
  tended : ∀ id receiver, r.receivers.get? id = some receiver →
    ∃ link, k.links.get? id = some link ∧ Tended listed r.issued receiver link

/-- The request waits for the phone, with a volume in range and few later ones. -/
def Awaits (p : Pending) (receiver : Receiver) (link : Link) : Prop :=
  ∃ before after d, link.waiting receiver = before ++ (p.request, p.index) :: after ∧
    after.length < 32 ∧ receiver.device = some d ∧ d.InRange p.index

/-- A stored answer confirms the request. -/
def Confirmed (p : Pending) (receiver : Receiver) : Prop :=
  ∃ reply, receiver.replies.get? p.request = some reply ∧ World.appliedBy p reply = true

/-- The request to a receiver waits for the phone. -/
def AwaitedAt (r : Registry) (k : Links) (id : Nat) (p : Pending) : Prop :=
  ∃ receiver link, r.receivers.get? id = some receiver ∧ k.links.get? id = some link ∧
    Awaits p receiver link

/-- The request to a receiver is confirmed. -/
def ConfirmedAt (r : Registry) (id : Nat) (p : Pending) : Prop :=
  ∃ receiver, r.receivers.get? id = some receiver ∧ Confirmed p receiver

/-- Every pending request waits for its phone. -/
def AllAwaited (pending : SortedMap Nat Pending) (r : Registry) (k : Links) : Prop :=
  ∀ id p, pending.get? id = some p → AwaitedAt r k id p

/-- Every pending request is confirmed. -/
def AllConfirmed (pending : SortedMap Nat Pending) (r : Registry) : Prop :=
  ∀ id p, pending.get? id = some p → ConfirmedAt r id p

/-- A request that waits has no answer yet. -/
theorem Awaits.no_reply {listed : DeviceStatus → Prop} {issued : Nat} {receiver : Receiver}
    {link : Link} {p : Pending} (h : Awaits p receiver link)
    (htended : Tended listed issued receiver link) :
    receiver.replies.get? p.request = none := by
  obtain ⟨before, after, _, hwaiting, _⟩ := h
  have hmem : (p.request, p.index) ∈ link.waiting receiver := by
    rw [hwaiting]
    exact List.mem_append_right _ List.mem_cons_self
  rw [← SortedMap.contains_eq_false_iff, Bool.eq_false_iff]
  intro hcontains
  exact lt_irrefl _ ((htended.replied p.request hcontains).2 _ hmem)

end Invariant

section Turn

namespace Tended

variable {listed : DeviceStatus → Prop} {issued : Nat} {receiver : Receiver} {link : Link}

theorem requests (h : Tended listed issued receiver link) : ∀ c ∈ link.waiting receiver, c.1 ≠ 0 :=
  fun c hc => (h.drawn c hc).1

/-- Without a known device nothing is answered. -/
theorem obeyAll_of_none (hdevice : receiver.device = none) (commands : List (Nat × Nat)) :
    receiver.obeyAll commands = receiver := by
  induction commands with
  | nil =>
      rfl
  | cons command rest ih =>
      have hobey : receiver.obey command = receiver := by
        simp only [Receiver.obey, hdevice]
      rw [Receiver.obeyAll, List.foldl_cons, hobey]
      exact ih

theorem turn_controls (h : Tended listed issued receiver link) :
    (receiver.obeyAll (link.waiting receiver)).controls = receiver.controls := by
  cases hdevice : receiver.device with
  | none =>
      rw [obeyAll_of_none hdevice]
  | some d =>
      exact (Receiver.obeyAll_obedient hdevice (h.stored d hdevice) h.requests).controls

theorem turn_unsolicited (h : Tended listed issued receiver link) :
    (receiver.obeyAll (link.waiting receiver)).unsolicitedVolume = receiver.unsolicitedVolume := by
  cases hdevice : receiver.device with
  | none =>
      rw [obeyAll_of_none hdevice]
  | some d =>
      exact (Receiver.obeyAll_obedient hdevice (h.stored d hdevice) h.requests).unsolicited

/-- No turn puts a barrier. -/
theorem turn_barrier (h : Tended listed issued receiver link)
    (hnone : receiver.panelBarrier = none) :
    (receiver.obeyAll (link.waiting receiver)).panelBarrier = none := by
  cases hdevice : receiver.device with
  | none =>
      rw [obeyAll_of_none hdevice]
      exact hnone
  | some d =>
      rcases (Receiver.obeyAll_obedient hdevice (h.stored d hdevice) h.requests).barrier with
        hsame | hsame
      · exact hsame.trans hnone
      · exact hsame

/-- Nothing waits after the turn. -/
theorem turn_waiting (h : Tended listed issued receiver link) :
    ({ link with processed := receiver.controls } : Link).waiting
      (receiver.obeyAll (link.waiting receiver)) = [] := by
  rw [Link.waiting, h.turn_controls, List.drop_length]
  rfl

theorem turn (h : Tended listed issued receiver link) :
    Tended listed issued (receiver.obeyAll (link.waiting receiver))
      { link with processed := receiver.controls } := by
  have hwaiting := h.turn_waiting
  refine ⟨by rw [h.turn_controls], ?_, ?_, ?_, ?_, fun hsome => absurd hwaiting hsome⟩
  · rw [hwaiting]
    exact List.Pairwise.nil
  · rw [hwaiting]
    exact fun c hc => absurd hc List.not_mem_nil
  · rw [hwaiting]
    intro q hq
    refine ⟨?_, fun c hc => absurd hc List.not_mem_nil⟩
    cases hdevice : receiver.device with
    | none =>
        rw [obeyAll_of_none hdevice] at hq
        exact (h.replied q hq).1
    | some d =>
        have hobedient := Receiver.obeyAll_obedient hdevice (h.stored d hdevice) h.requests
        rcases hobedient.replied q hq with hq | hq
        · exact (h.replied q hq).1
        · obtain ⟨c, hc, rfl⟩ := List.mem_map.mp hq
          exact (h.drawn c hc).2
  · intro d' hd'
    cases hdevice : receiver.device with
    | none =>
        rw [obeyAll_of_none hdevice, hdevice] at hd'
        cases hd'
    | some d =>
        obtain ⟨d'', hd'', _, hstored, _⟩ :=
          (Receiver.obeyAll_obedient hdevice (h.stored d hdevice) h.requests).device
        rw [hd''] at hd'
        cases hd'
        exact hstored

/-- A request that waits is confirmed by the turn. -/
theorem turn_confirmed (h : Tended listed issued receiver link) {p : Pending}
    (hawaits : Awaits p receiver link) :
    Confirmed p (receiver.obeyAll (link.waiting receiver)) := by
  obtain ⟨before, after, d, hwaiting, hfew, hdevice, hrange⟩ := hawaits
  have hrequests := h.requests
  have hascending := h.ascending
  have hbelow : ∀ q, receiver.replies.contains q = true → ∀ c ∈ link.waiting receiver, q < c.1 :=
    fun q hq => (h.replied q hq).2
  rw [hwaiting] at hrequests hascending hbelow ⊢
  obtain ⟨reply, hreply, hvolume, hhealthy⟩ := Receiver.obeyAll_reply hdevice
    (h.stored d hdevice) hrequests hascending hbelow hrange hfew
  obtain ⟨hspeaker, hfixed, hfailed⟩ := (healthy_iff reply).mp hhealthy
  refine ⟨reply, hreply, ?_⟩
  simp [World.appliedBy, hspeaker, hfixed, hfailed, hvolume]

/-- The phone plays the same part after its turn. -/
theorem turn_plays {profile : Profile} (h : Tended profile.Lists issued receiver link)
    {range : DeviceRange} (hrange : range ∈ profile.devices) :
    (receiver.obeyAll (link.waiting receiver)).device.any range.matchesDevice =
      receiver.device.any range.matchesDevice := by
  cases hdevice : receiver.device with
  | none =>
      rw [obeyAll_of_none hdevice, hdevice]
  | some d =>
      by_cases hwaiting : link.waiting receiver = []
      · rw [hwaiting, Receiver.obeyAll, List.foldl_nil, hdevice]
      · obtain ⟨d', hd', hkin, _, hhealthy⟩ :=
          (Receiver.obeyAll_obedient hdevice (h.stored d hdevice) h.requests).device
        rw [hd', Option.any_some, Option.any_some]
        exact matchesDevice_of_kin hkin hhealthy (h.role hwaiting d hdevice) hrange

end Tended

namespace World

variable {listed : DeviceStatus → Prop}

theorem waiting_eq {w : World Links LinkEvent} {id : Nat} {receiver : Receiver} {link : Link}
    (hreceiver : w.registry.receivers.get? id = some receiver)
    (hlink : w.outside.links.get? id = some link) : w.waiting id = link.waiting receiver := by
  rw [waiting, hreceiver, hlink]

/-- A receiver and its phone after the turn of the phones. -/
theorem phonesObey_receiver {w : World Links LinkEvent} {id : Nat} {receiver : Receiver}
    {link : Link} (hreceiver : w.registry.receivers.get? id = some receiver)
    (hlink : w.outside.links.get? id = some link) :
    w.phonesObey.registry.receivers.get? id =
        some (receiver.obeyAll (link.waiting receiver)) ∧
      w.phonesObey.outside.links.get? id =
        some { link with processed := receiver.controls } := by
  refine ⟨?_, ?_⟩
  · rw [get?_phonesObey, hreceiver, waiting_eq hreceiver hlink]
    rfl
  · rw [get?_links_phonesObey, hlink, Registry.queuedTo, hreceiver]
    rfl

/-- **The turn of the phones keeps the receivers attended.** -/
theorem phonesObey_attended {w : World Links LinkEvent}
    (h : Attended listed w.registry w.outside) :
    Attended listed w.phonesObey.registry w.phonesObey.outside := by
  refine ⟨w.phonesObey_alike.issued ▸ h.positive, ?_⟩
  intro id receiver' hreceiver'
  rw [get?_phonesObey, Option.map_eq_some_iff] at hreceiver'
  obtain ⟨receiver, hreceiver, rfl⟩ := hreceiver'
  obtain ⟨link, hlink, htended⟩ := h.tended id receiver hreceiver
  refine ⟨_, (phonesObey_receiver hreceiver hlink).2, ?_⟩
  rw [waiting_eq hreceiver hlink, w.phonesObey_alike.issued]
  exact htended.turn

/-- **Nothing waits after the turn of the phones.** -/
theorem phonesObey_waiting {w : World Links LinkEvent}
    (h : Attended listed w.registry w.outside) (id : Nat) : w.phonesObey.waiting id = [] := by
  cases hreceiver : w.registry.receivers.get? id with
  | none =>
      rw [waiting, get?_phonesObey, hreceiver]
      rfl
  | some receiver =>
      obtain ⟨link, hlink, htended⟩ := h.tended id receiver hreceiver
      obtain ⟨hreceiver', hlink'⟩ := phonesObey_receiver hreceiver hlink
      rw [waiting_eq hreceiver' hlink']
      exact htended.turn_waiting

/-- Where nothing waits, any devices may be listed. -/
theorem attended_of_served {w : World Links LinkEvent}
    (h : Attended listed w.registry w.outside) (hserved : ∀ id, w.waiting id = [])
    (listed' : DeviceStatus → Prop) : Attended listed' w.registry w.outside := by
  refine ⟨h.positive, ?_⟩
  intro id receiver hreceiver
  obtain ⟨link, hlink, htended⟩ := h.tended id receiver hreceiver
  have hnone := hserved id
  rw [waiting_eq hreceiver hlink] at hnone
  exact ⟨link, hlink, htended.taken, htended.ascending, htended.drawn, htended.replied,
    htended.stored, fun hwaiting => absurd hnone hwaiting⟩

/-- **All pending requests are confirmed after the turn of the phones.** -/
theorem phonesObey_confirmed {w : World Links LinkEvent} {pending : SortedMap Nat Pending}
    (h : Attended listed w.registry w.outside)
    (hpending : AllAwaited pending w.registry w.outside) :
    AllConfirmed pending w.phonesObey.registry := by
  intro id p hp
  obtain ⟨receiver, link, hreceiver, hlink, hawaits⟩ := hpending id p hp
  obtain ⟨link', hlink', htended⟩ := h.tended id receiver hreceiver
  rw [hlink] at hlink'
  cases hlink'
  exact ⟨_, (phonesObey_receiver hreceiver hlink).1, htended.turn_confirmed hawaits⟩

/-- **The group stays the same during the turn of the phones.** -/
theorem phonesObey_sameGroup {profile : Profile} {w : World Links LinkEvent}
    (h : Attended profile.Lists w.registry w.outside) :
    Registry.SameGroup profile w.registry w.phonesObey.registry := by
  refine Registry.sameGroup_of_plays w.phonesObey_alike.keys ?_
  intro id range hrange
  rw [Registry.plays, Registry.plays]
  cases hreceiver : w.registry.receivers.get? id with
  | none =>
      rw [get?_phonesObey, hreceiver]
      rfl
  | some receiver =>
      obtain ⟨link, hlink, htended⟩ := h.tended id receiver hreceiver
      rw [(phonesObey_receiver hreceiver hlink).1, Option.bind_some, Option.bind_some]
      exact htended.turn_plays hrange

end World

end Turn

section Records

/-- A receiver has the same device and no new answers. -/
def Receiver.Tame (old new : Receiver) : Prop :=
  new.device = old.device ∧ ∀ q, new.replies.contains q = true → old.replies.contains q = true

theorem Receiver.tame_of_eq {old new : Receiver} (hdevice : new.device = old.device)
    (hreplies : new.replies = old.replies) : old.Tame new :=
  ⟨hdevice, fun _ hq => hreplies ▸ hq⟩

theorem Receiver.tame_erase (receiver : Receiver) (request : Nat) :
    receiver.Tame { receiver with replies := receiver.replies.erase request } := by
  refine ⟨rfl, ?_⟩
  intro q hq
  rw [SortedMap.contains_eq_true_iff] at hq ⊢
  obtain ⟨v, hv⟩ := hq
  rw [SortedMap.get?_erase] at hv
  split_ifs at hv
  exact ⟨v, hv⟩

namespace Registry

/-- Every receiver was there before, with the same device and no new answers. -/
def Tame (r r' : Registry) : Prop :=
  ∀ id new, r'.receivers.get? id = some new →
    ∃ old, r.receivers.get? id = some old ∧ old.Tame new

theorem tame_of_receivers_eq {r r' : Registry} (h : r'.receivers = r.receivers) : r.Tame r' :=
  fun _ new hget => ⟨new, h ▸ hget, Receiver.tame_of_eq rfl rfl⟩

theorem tame_mapValues (r : Registry) (f : Nat → Receiver → Receiver)
    (h : ∀ id (receiver : Receiver), receiver.Tame (f id receiver)) :
    r.Tame { r with receivers := r.receivers.mapValues f } := by
  intro id new hget
  rw [SortedMap.get?_mapValues] at hget
  obtain ⟨old, hold, rfl⟩ := Option.map_eq_some_iff.mp hget
  exact ⟨old, hold, h id old⟩

theorem tame_modify (r : Registry) (id : Nat) (f : Receiver → Receiver) (issued : Nat)
    (h : ∀ receiver : Receiver, receiver.Tame (f receiver)) :
    r.Tame { r with receivers := r.receivers.modify id f, issued := issued } := by
  intro id' new hget
  rw [SortedMap.get?_modify] at hget
  split_ifs at hget
  · obtain ⟨old, hold, rfl⟩ := Option.map_eq_some_iff.mp hget
    exact ⟨old, hold, h old⟩
  · exact ⟨new, hget, Receiver.tame_of_eq rfl rfl⟩

theorem tame_plainRequest (r : Registry) (refusal : Nat → Option String) (id : Nat)
    (message : Nat → ControlMessage) : r.Tame (r.plainRequest refusal id message).2 := by
  rcases plainRequest_cases r refusal id message with ⟨e, h⟩ | h
  · rw [h]
    exact tame_of_receivers_eq rfl
  · rw [h]
    exact tame_modify r id _ _ (fun _ => Receiver.tame_of_eq rfl rfl)

theorem tame_volumeRequestWithBarrier (r : Registry) (refusal : Nat → Option String)
    (id index : Nat) (purpose : VolumePurpose) (barrier : Bool) :
    r.Tame (r.volumeRequestWithBarrier refusal id index purpose barrier).2 := by
  rcases volumeRequestWithBarrier_cases r refusal id index purpose barrier with ⟨e, h⟩ | h
  · rw [h]
    exact tame_of_receivers_eq rfl
  · rw [h]
    exact tame_modify r id _ _ (fun _ => Receiver.tame_of_eq rfl rfl)

theorem tame_broadcast (r : Registry) (refusal : Nat → Option String)
    (message : ControlMessage) : r.Tame (r.broadcast refusal message) := by
  apply tame_mapValues
  intro id receiver
  split_ifs
  · exact Receiver.tame_of_eq rfl rfl
  · exact Receiver.tame_of_eq rfl rfl

/-- The other threads, without connections. -/
theorem tame_internal (r : Registry) {e : RegistryEvent} (he : e.internal = true) :
    r.Tame (r.react e) := by
  cases e with
  | register =>
      cases he
  | remove id =>
      cases he
  | updateDevice id status =>
      cases he
  | updateTone id request playing failed =>
      simp only [react, updateTone]
      split_ifs
      · exact tame_of_receivers_eq rfl
      · exact tame_modify r id _ _ (fun _ => Receiver.tame_of_eq rfl rfl)
  | query id refusal =>
      exact tame_plainRequest r refusal id _
  | requestVolume id index purpose refusal =>
      exact tame_volumeRequestWithBarrier r refusal id index purpose false
  | requestCalibration id action refusal =>
      exact tame_plainRequest r refusal id _
  | requestTone id enabled refusal =>
      exact tame_plainRequest r refusal id _
  | broadcast message refusal =>
      exact tame_broadcast r refusal message
  | takeReply id request =>
      exact tame_modify r id _ _ (fun receiver => receiver.tame_erase request)
  | takeToneReply id request =>
      exact tame_modify r id _ _ (fun _ => Receiver.tame_of_eq rfl rfl)

end Registry

/-- Cleaning a text once is enough. -/
theorem take_filter_take {α : Type} (keep : α → Bool) (n : Nat) (l : List α) :
    (((l.filter keep).take n).filter keep).take n = (l.filter keep).take n := by
  have hkept : ((l.filter keep).take n).filter keep = (l.filter keep).take n := by
    rw [List.filter_eq_self]
    exact fun a ha => (List.mem_filter.mp (List.mem_of_mem_take ha)).2
  rw [hkept, List.take_take, Nat.min_self]

/-- What is stored for a receiver came over its connection. -/
structure Recorded (receiver : Receiver) (link : Link) : Prop where
  stored : ∀ d, receiver.device = some d → d.Stored
  replied : ∀ q, receiver.replies.contains q = true → q ∈ link.answered ∧ q ≠ 0

/-- So it is for all receivers. -/
def AllRecorded (r : Registry) (k : Links) : Prop :=
  ∀ id receiver, r.receivers.get? id = some receiver →
    ∃ link, k.links.get? id = some link ∧ Recorded receiver link

namespace AllRecorded

variable {r : Registry} {k : Links}

theorem of_tame (h : AllRecorded r k) {r' : Registry} (htame : r.Tame r') : AllRecorded r' k := by
  intro id new hget
  obtain ⟨old, hold, hdevice, hreplies⟩ := htame id new hget
  obtain ⟨link, hlink, hrecorded⟩ := h id old hold
  exact ⟨link, hlink, hdevice ▸ hrecorded.stored,
    fun q hq => hrecorded.replied q (hreplies q hq)⟩

/-- A connection whose log is the same. -/
theorem relink (h : AllRecorded r k) {id : Nat} {link link' : Link}
    (hlink : k.links.get? id = some link) (hlog : link'.log = link.log) :
    AllRecorded r { k with links := k.links.insert id link' } := by
  intro id' receiver hget
  obtain ⟨old, hold, hrecorded⟩ := h id' receiver hget
  by_cases hid : id' = id
  · subst hid
    rw [hlink] at hold
    cases hold
    refine ⟨link', SortedMap.get?_insert_self _ _ _, hrecorded.stored, ?_⟩
    rw [Link.answered, hlog]
    exact hrecorded.replied
  · exact ⟨old, (SortedMap.get?_insert_ne _ _ hid).trans hold, hrecorded⟩

theorem connect (h : AllRecorded r k) :
    AllRecorded r.register { k with links := k.links.insert r.nextId .fresh } := by
  intro id receiver hget
  rw [Registry.register, SortedMap.get?_insert] at hget
  split_ifs at hget with hid
  · cases hget
    refine ⟨.fresh, ?_, (fun d hd => by cases hd), (fun q hq => by cases hq)⟩
    rw [hid]
    exact SortedMap.get?_insert_self _ _ _
  · obtain ⟨link, hlink, hrecorded⟩ := h id receiver hget
    exact ⟨link, (SortedMap.get?_insert_ne _ _ hid).trans hlink, hrecorded⟩

theorem disconnect (h : AllRecorded r k) (id : Nat) :
    AllRecorded (r.remove id) { k with links := k.links.erase id } := by
  intro id' receiver hget
  rw [Registry.remove] at hget
  split_ifs at hget with hcontains
  · rw [SortedMap.get?_mapValues, Option.map_eq_some_iff] at hget
    obtain ⟨old, hold, rfl⟩ := hget
    rw [SortedMap.get?_erase] at hold
    split_ifs at hold with hid
    obtain ⟨link, hlink, hrecorded⟩ := h id' old hold
    refine ⟨link, ?_, hrecorded.stored, hrecorded.replied⟩
    rw [SortedMap.get?_erase, if_neg hid]
    exact hlink
  · have hid : id' ≠ id := by
      rintro rfl
      exact hcontains ((SortedMap.contains_eq_true_iff _ _).mpr ⟨_, hget⟩)
    obtain ⟨link, hlink, hrecorded⟩ := h id' receiver hget
    refine ⟨link, ?_, hrecorded⟩
    rw [SortedMap.get?_erase, if_neg hid]
    exact hlink

/-- A status that arrives is stored after the cleaning. -/
theorem recorded_updated {receiver : Receiver} {link link' : Link} (h : Recorded receiver link)
    {status : DeviceStatus} (hanswered : link'.answered = link.answered ++ [status.requestId]) :
    Recorded (receiver.updated status) link' := by
  have hold : ∀ q, receiver.replies.contains q = true → q ∈ link'.answered ∧ q ≠ 0 := by
    intro q hq
    rw [hanswered]
    exact ⟨List.mem_append_left _ (h.replied q hq).1, (h.replied q hq).2⟩
  rw [Receiver.updated]
  split_ifs with hconsistent
  · refine ⟨?_, ?_⟩
    · intro d hd
      cases hd
      refine ⟨hconsistent, ?_⟩
      simp only [DeviceStatus.sanitized, String.toList_ofList, take_filter_take]
    · intro q hq
      have hobserved : (receiver.observe status.sanitized).replies = receiver.replies := by
        simp only [Receiver.observe]
        split_ifs
        all_goals rfl
      simp only [Receiver.store, hobserved] at hq
      by_cases hzero : status.sanitized.requestId ≠ 0
      · rw [if_pos hzero] at hq
        rcases SortedMap.contains_insert_bounded hq with hq | rfl
        · exact hold q hq
        · refine ⟨?_, hzero⟩
          rw [hanswered]
          exact List.mem_append_right _ (List.mem_singleton_self _)
      · rw [if_neg hzero] at hq
        exact hold q hq
  · exact ⟨h.stored, hold⟩

/-- The next status of a connection arrives. -/
theorem deliver (h : AllRecorded r k) (id : Nat) :
    AllRecorded (Links.react (r, k) (.deliver id)).1 (Links.react (r, k) (.deliver id)).2 := by
  simp only [Links.react]
  split
  · rename_i receiver link hreceiver hlink
    split
    · rename_i emission rest _
      intro id' receiver' hreceiver'
      rw [Registry.get?_updateDevice] at hreceiver'
      split_ifs at hreceiver' with hid
      · subst hid
        rw [hreceiver] at hreceiver'
        cases hreceiver'
        obtain ⟨link', hlink', hrecorded⟩ := h id' receiver hreceiver
        rw [hlink] at hlink'
        cases hlink'
        refine ⟨_, SortedMap.get?_insert_self _ _ _, recorded_updated hrecorded ?_⟩
        simp only [Link.answered, List.map_append, List.map_cons, List.map_nil]
      · obtain ⟨link', hlink', hrecorded⟩ := h id' receiver' hreceiver'
        exact ⟨link', (SortedMap.get?_insert_ne _ _ hid).trans hlink', hrecorded⟩
    · exact h
  · exact h

theorem react (h : AllRecorded r k) (e : LinkEvent) :
    AllRecorded (Links.react (r, k) e).1 (Links.react (r, k) e).2 := by
  cases e with
  | connect =>
      exact h.connect
  | disconnect id =>
      exact h.disconnect id
  | process id reply =>
      simp only [Links.react]
      split
      · rename_i receiver link hreceiver hlink
        split
        · exact h.relink hlink rfl
        · exact h
      · exact h
  | notice id status =>
      simp only [Links.react]
      split
      · rename_i link hlink
        exact h.relink hlink rfl
      · exact h
  | deliver id =>
      exact h.deliver id
  | internal e =>
      simp only [Links.react]
      split_ifs with he
      · exact h.of_tame (r.tame_internal he)
      · exact h

/-- Every call keeps the records. -/
theorem rules : World.TickRules Links.react (fun r k _ => AllRecorded r k) where
  environment := fun _ _ _ e h => h.react e
  denyAll := fun r _ _ h => h.of_tame (r.tame_mapValues _ (fun _ _ => Receiver.tame_of_eq rfl rfl))
  silence := fun r _ _ refusal h => h.of_tame (r.tame_broadcast refusal _)
  cancel := fun r _ _ refusal h => h.of_tame (r.tame_broadcast refusal _)
  restore := fun r _ _ refusal id index h =>
    h.of_tame (r.tame_volumeRequestWithBarrier refusal id index _ false)
  panel := fun r _ _ refusal id index _ _ h =>
    h.of_tame (r.tame_volumeRequestWithBarrier refusal id index _ true)
  panelRefused := fun r _ _ refusal id index _ _ h =>
    h.of_tame (r.tame_volumeRequestWithBarrier refusal id index _ true)
  takeReply := fun r _ _ id request h =>
    h.of_tame (r.tame_modify id _ r.issued (fun receiver => receiver.tame_erase request))
  stored := fun _ _ _ _ _ h => h
  approve := fun r _ _ _ h =>
    h.of_tame (r.tame_mapValues _ (fun _ _ => Receiver.tame_of_eq rfl rfl))
  takeUnsolicited := fun r _ _ id h =>
    h.of_tame (r.tame_modify id _ r.issued (fun _ => Receiver.tame_of_eq rfl rfl))
  confirmed := fun _ _ _ _ _ h => h

theorem adopts : World.AdoptRule (fun r k _ => AllRecorded r k) :=
  fun r _ _ id _ _ h =>
    h.of_tame (r.tame_modify id _ r.issued (fun _ => Receiver.tame_of_eq rfl rfl))

end AllRecorded

end Records

section Reachable

theorem Seen.subset {q : Nat} {l l' : List ControlMessage} (h : Seen q l) (hsub : l ⊆ l') :
    Seen q l' := by
  obtain ⟨index, purpose, hm⟩ := h
  exact ⟨index, purpose, hsub hm⟩

/-- The requests that wait are among all requests, in the same order. -/
theorem volumeCommands_sublist {l : List ControlMessage} (hnonzero : ∀ q, Seen q l → q ≠ 0) :
    ((l.filterMap ControlMessage.volumeCommand).map Prod.fst).Sublist (requestIds l) := by
  induction l with
  | nil =>
      exact List.Sublist.refl []
  | cons m l ih =>
      have hrest := ih (fun q hq => hnonzero q (hq.subset (List.subset_cons_self m l)))
      have hcons : requestIds (m :: l) = requestIds [m] ++ requestIds l :=
        requestIds_append [m] l
      rw [hcons]
      cases m with
      | setVolume request index purpose =>
          have hone : requestIds [.setVolume request index purpose] = [request] := by
            have hne := hnonzero request ⟨index, purpose, List.mem_cons_self⟩
            simp [requestIds, ControlMessage.deviceRequest, hne]
          rw [hone]
          exact hrest.cons_cons request
      | _ => exact hrest.trans (List.sublist_append_right _ _)

namespace World

theorem tended_of_linked {w : World Links LinkEvent} {id : Nat} {receiver : Receiver} {link : Link}
    (hlinked : Linked w.registry.issued w.incidents w.outside.delivered id receiver link)
    (hrecorded : Recorded receiver link) :
    Tended (fun _ => False) w.registry.issued receiver link := by
  have hdropped : ∀ q, Seen q (receiver.controls.drop link.processed.length) →
      Seen q receiver.controls :=
    fun q hq => hq.subset (List.drop_subset _ _)
  have hsublist : ((link.waiting receiver).map Prod.fst).Sublist
      (requestIds (receiver.controls.drop link.processed.length)) :=
    volumeCommands_sublist (fun q hq => hlinked.nonzero q (hdropped q hq))
  have hsorted := hlinked.sorted
  rw [hlinked.stream, ← List.append_assoc, List.pairwise_append] at hsorted
  obtain ⟨_, hlater, hcross⟩ := hsorted
  have hids : ∀ c ∈ link.waiting receiver,
      c.1 ∈ requestIds (receiver.controls.drop link.processed.length) := fun c hc =>
    hsublist.subset (List.mem_map_of_mem hc)
  refine ⟨hlinked.processed.length_le, hlater.sublist hsublist, ?_, ?_, hrecorded.stored, ?_⟩
  · intro c hc
    refine ⟨?_, ?_⟩
    · have hmem := hids c hc
      simp only [requestIds, List.mem_filter, decide_eq_true_eq] at hmem
      exact hmem.2
    · apply hlinked.below
      rw [hlinked.stream]
      exact List.mem_append_right _ (List.mem_append_right _ (hids c hc))
  · intro q hq
    obtain ⟨hanswered, hne⟩ := hrecorded.replied q hq
    refine ⟨hlinked.answered_below hanswered hne, ?_⟩
    intro c hc
    apply hcross q _ c.1 (hids c hc)
    exact List.mem_append_left _ (List.mem_filter.mpr ⟨hanswered, by simpa using hne⟩)
  · exact fun _ _ _ hlisted => hlisted.elim

/-- **In every reachable state the receivers are attended.** -/
theorem reached_attended (encode : Library → List UInt8)
    (decode : List UInt8 → Except String (Library × List UInt8)) (file : ProfileFile)
    (now : Nat) (es : List (WorldEvent LinkEvent))
    (hwrap : (run (step Links.react encode) (start LinkEvent decode file Links.start now)
      es).registry.issued ≤ 2 ^ 32) :
    Attended (fun _ => False)
      (run (step Links.react encode) (start LinkEvent decode file Links.start now) es).registry
      (run (step Links.react encode) (start LinkEvent decode file Links.start now) es).outside := by
  have hgood := reached_goodUntilWrap encode decode file now es
  have hrecorded : Holds (fun r k _ => AllRecorded r k)
      (run (step Links.react encode) (start LinkEvent decode file Links.start now) es) := by
    refine run_preserves (fun w : World Links LinkEvent => w.Holds (fun r k _ => AllRecorded r k))
      (fun w e hw => step_holds encode AllRecorded.rules AllRecorded.adopts hw e) ?_ es
    intro id receiver hget
    cases hget
  generalize run (step Links.react encode) (start LinkEvent decode file Links.start now) es = w
    at hwrap hgood hrecorded ⊢
  refine ⟨(hgood hwrap).positive, ?_⟩
  intro id receiver hreceiver
  obtain ⟨link, hlink, hlinked⟩ := (hgood hwrap).linked id receiver hreceiver
  obtain ⟨link', hlink', hrec⟩ := hrecorded id receiver hreceiver
  rw [hlink] at hlink'
  cases hlink'
  exact ⟨link, hlink, tended_of_linked hlinked hrec⟩

end World

end Reachable

end Soundwave

import Soundwave.UndisturbedTicks

/-!
# The group settles

From a reachable state with one master, a shared volume, nothing blocked and every
pending request waiting or confirmed, four rounds are enough: the fourth tick, and
every later one, opens the gates of the master and of the followers that take part,
and no others, and queues nothing.

The rounds pass through three stages.  After the first everything pending is
confirmed.  After the second no barrier is left and none is needed.  After the
third the group stands at the level that is its volume.

A request whose answer the registry drops stays pending, so the volumes of those that
wait have to be in range, and the answers few enough to be kept.  The answers may
also change the group, in the first round only.
-/

namespace Soundwave

section Groups

namespace World

/-- The connected devices of a registry. -/
def devicesOf (r : Registry) : List DeviceStatus :=
  (connected r.snapshots).map Prod.snd

/-- A receiver of the group: the master, or a follower that takes part. -/
def GroupMember (profile : Profile) (r : Registry) (id : Nat) : Prop :=
  r.plays id profile.master = true ∨
    ∃ f ∈ profile.followers, f.Participates (devicesOf r) ∧ r.plays id f.device = true

theorem participates_iff (r : Registry) (f : Follower) :
    f.Participates (devicesOf r) ↔ f.mapping.size ≠ 0 ∧ (r.members f.device).length = 1 := by
  rw [Follower.Participates, devicesOf, List.filter_map, List.length_map, Registry.members,
    List.length_map]
  rfl

variable {profile : Profile} {r r' : Registry}

theorem follower_mem_devices {f : Follower} (hf : f ∈ profile.followers) :
    f.device ∈ profile.devices :=
  List.mem_cons_of_mem _ (List.mem_map_of_mem hf)

theorem participates_congr (h : Registry.SameGroup profile r r') {f : Follower}
    (hf : f ∈ profile.followers) :
    f.Participates (devicesOf r') ↔ f.Participates (devicesOf r) := by
  rw [participates_iff, participates_iff, h f.device (follower_mem_devices hf)]

theorem shared_congr (h : Registry.SameGroup profile r r') {level : Nat} :
    profile.Shared (devicesOf r') level ↔ profile.Shared (devicesOf r) level := by
  rw [Profile.Shared, Profile.Shared]
  refine and_congr_right (fun _ => ?_)
  constructor
  · exact fun hall f hf hpart => hall f hf ((participates_congr h hf).mpr hpart)
  · exact fun hall f hf hpart => hall f hf ((participates_congr h hf).mp hpart)

theorem participating_congr (h : Registry.SameGroup profile r r') :
    profile.participating (devicesOf r') = profile.participating (devicesOf r) := by
  rw [Profile.participating, Profile.participating]
  congr 1
  apply List.filter_congr
  intro f hf
  have hpart := participates_congr h hf
  rw [Follower.Participates, Follower.Participates] at hpart
  rw [Bool.eq_iff_iff]
  simpa using hpart

theorem plays_congr (h : Registry.SameGroup profile r r') {range : DeviceRange}
    (hrange : range ∈ profile.devices) (id : Nat) : r'.plays id range = r.plays id range := by
  rw [Bool.eq_iff_iff, ← Registry.mem_members, ← Registry.mem_members, h range hrange]

theorem groupMember_congr (h : Registry.SameGroup profile r r') (id : Nat) :
    GroupMember profile r' id ↔ GroupMember profile r id := by
  rw [GroupMember, GroupMember, plays_congr h List.mem_cons_self]
  refine or_congr Iff.rfl (exists_congr (fun f => ?_))
  constructor
  · rintro ⟨hf, hpart, hplays⟩
    rw [plays_congr h (follower_mem_devices hf)] at hplays
    exact ⟨hf, (participates_congr h hf).mp hpart, hplays⟩
  · rintro ⟨hf, hpart, hplays⟩
    rw [← plays_congr h (follower_mem_devices hf)] at hplays
    exact ⟨hf, (participates_congr h hf).mpr hpart, hplays⟩

/-- The first receiver that matches a range. -/
theorem find?_members (r : Registry) (range : DeviceRange) :
    ((connected r.snapshots).find? (fun d => range.matchesDevice d.2)).map Prod.fst =
      (r.members range).head? := by
  rw [Registry.members, matching, List.head?_map, List.head?_filter]

theorem followerTarget_members (r : Registry) (participating : List String) (index : Nat)
    (f : Follower) :
    followerTarget participating (connected r.snapshots) index f =
      if f.device.id ∈ participating then
        (r.members f.device).head?.bind (fun id =>
          (f.mapping.get? index).map (fun target => (id, target)))
      else
        none := by
  rw [followerTarget, ← find?_members]
  split_ifs
  · cases (connected r.snapshots).find? (fun d => f.device.matchesDevice d.2) with
    | none =>
        rfl
    | some found =>
        cases f.mapping.get? index with
        | none =>
            rfl
        | some target =>
            rfl
  · rfl

/-- The targets depend on the group only. -/
theorem targets_congr (h : Registry.SameGroup profile r r') (master index : Nat) :
    targets profile (profile.participating (devicesOf r')) (connected r'.snapshots) master index =
      targets profile (profile.participating (devicesOf r)) (connected r.snapshots) master
        index := by
  rw [targets_eq, targets_eq, participating_congr h]
  congr 1
  apply List.filterMap_congr
  intro f hf
  rw [followerTarget_members, followerTarget_members, h f.device (follower_mem_devices hf)]

/-- **The targets are the receivers of the group.** -/
theorem mem_targets_iff (hsound : profile.Sound) {master index : Nat}
    (hmaster : r.members profile.master = [master])
    (hshared : profile.Shared (devicesOf r) index) (id : Nat) :
    (∃ t ∈ targets profile (profile.participating (devicesOf r)) (connected r.snapshots) master
      index, t.1 = id) ↔ GroupMember profile r id := by
  have hmasterPlays : r.plays id profile.master = true ↔ id = master := by
    rw [← Registry.mem_members, hmaster, List.mem_singleton]
  rw [targets_eq, GroupMember, hmasterPlays]
  constructor
  · rintro ⟨t, ht, rfl⟩
    rcases List.mem_cons.mp ht with rfl | ht
    · exact Or.inl rfl
    · obtain ⟨f, hf, htarget⟩ := List.mem_filterMap.mp ht
      rw [followerTarget_members] at htarget
      split_ifs at htarget with hpart
      obtain ⟨first, hfirst, hmapped⟩ := Option.bind_eq_some_iff.mp htarget
      obtain ⟨target, _, rfl⟩ := Option.map_eq_some_iff.mp hmapped
      refine Or.inr ⟨f, hf, (Profile.mem_participating_iff hsound hf).mp hpart, ?_⟩
      rw [← Registry.mem_members]
      exact List.mem_of_head? hfirst
  · rintro (rfl | ⟨f, hf, hpart, hplays⟩)
    · exact ⟨_, List.mem_cons_self, rfl⟩
    · obtain ⟨target, htarget⟩ := hshared.2 f hf hpart
      obtain ⟨x, hx⟩ := List.length_eq_one_iff.mp ((participates_iff r f).mp hpart).2
      rw [← Registry.mem_members, hx, List.mem_singleton] at hplays
      refine ⟨(id, target), List.mem_cons_of_mem _ (List.mem_filterMap.mpr ⟨f, hf, ?_⟩), rfl⟩
      rw [followerTarget_members, if_pos ((Profile.mem_participating_iff hsound hf).mpr hpart), hx,
        List.head?_cons, Option.bind_some, htarget, hplays]
      rfl

end World

end Groups

section Stages

namespace World

variable (encode : Library → List UInt8)

/-- Between two rounds, when every command has been answered. -/
structure Served (listed : DeviceStatus → Prop) (profile : Profile) (master : Nat)
    (w : World Links LinkEvent) : Prop where
  editing : w.state.editing = false
  unblocked : ∀ id, w.state.blocked.contains id = false
  current : ∃ volume, w.state.library.current = some { profile with volume := volume }
  attended : Attended listed w.registry w.outside
  confirmed : AllConfirmed w.state.pending w.registry
  served : ∀ id, w.waiting id = []
  unsolicited : ∀ receiver, w.registry.receivers.get? master = some receiver →
    receiver.unsolicitedVolume = none

/-- Everything is answered; `r₀` shows who belongs to the group. -/
structure AfterFirst (profile : Profile) (master : Nat) (r₀ : Registry)
    (w : World Links LinkEvent) : Prop extends Served profile.Lists profile master w where
  group : Registry.SameGroup profile r₀ w.registry

/-- No barrier is left, and none is needed. -/
structure AfterSecond (profile : Profile) (master : Nat) (r₀ : Registry)
    (w : World Links LinkEvent) : Prop extends AfterFirst profile master r₀ w where
  needsFence : w.state.needsFence = false
  clear : w.registry.hasPanelBarrier master = false

/-- The group stands at the level that is its volume. -/
structure AfterThird (profile : Profile) (master : Nat) (r₀ : Registry)
    (w : World Links LinkEvent) : Prop extends AfterSecond profile master r₀ w where
  level : ∃ volume, w.state.library.current = some { profile with volume := volume } ∧
    profile.Shared (devicesOf w.registry) volume ∧
    AtRest (connected w.registry.snapshots) (targets profile
      (profile.participating (devicesOf w.registry)) (connected w.registry.snapshots) master volume)

theorem ticking_undisturbed (w : World Links LinkEvent) (round : Round) :
    (w.ticking round).Undisturbed := by
  intro c hc
  obtain ⟨elapsed, _, rfl⟩ := List.mem_map.mp hc
  exact ⟨rfl, fun _ => rfl⟩

variable {listed : DeviceStatus → Prop} {profile : Profile} {master : Nat} {r₀ : Registry}
variable {w : World Links LinkEvent}

/-- The one receiver of the master, with its device. -/
theorem matching_master (h : w.registry.members profile.master = [master]) :
    ∃ device, matching profile.master (connected w.registry.snapshots) = [(master, device)] := by
  rw [Registry.members, List.map_eq_singleton_iff] at h
  obtain ⟨⟨first, device⟩, hmatching, rfl⟩ := h
  exact ⟨device, hmatching⟩

/-- The tick finds its master. -/
theorem AfterFirst.expectant (h : AfterFirst profile master r₀ w)
    (hmaster : r₀.members profile.master = [master]) {volume : Nat}
    (hcurrent : w.state.library.current = some { profile with volume := volume })
    (round : Round) :
    ∃ device, Expectant profile.Lists { profile with volume := volume } master device
      (w.ticking round) := by
  rw [← h.group profile.master List.mem_cons_self] at hmaster
  obtain ⟨device, hdevice⟩ := matching_master hmaster
  refine ⟨device, w.ticking_undisturbed round, h.editing, h.unblocked, h.attended, ?_, hcurrent,
    hdevice⟩
  exact fun e he => Or.inl (h.confirmed e.1 e.2 ((SortedMap.get?_eq_some_iff _ _ _).mpr he))

/-- A receiver after the turn of the phones, with its state before. -/
theorem before_turn (h : Attended listed w.registry w.outside) {id : Nat} {new : Receiver}
    (hnew : w.phonesObey.registry.receivers.get? id = some new) :
    ∃ receiver link, w.registry.receivers.get? id = some receiver ∧
      Tended listed w.registry.issued receiver link ∧ w.waiting id = link.waiting receiver ∧
      new = receiver.obeyAll (link.waiting receiver) := by
  rw [get?_phonesObey, Option.map_eq_some_iff] at hnew
  obtain ⟨receiver, hreceiver, rfl⟩ := hnew
  obtain ⟨link, hlink, htended⟩ := h.tended id receiver hreceiver
  have hwaiting := waiting_eq hreceiver hlink
  exact ⟨receiver, link, hreceiver, htended, hwaiting, by rw [hwaiting]⟩

/-- What waits for a phone after a tick, if nothing waited before. -/
theorem waiting_after {t : World Links LinkEvent} (h : Attended listed w.registry w.outside)
    (houtside : t.outside = w.outside) {id : Nat} (hserved : w.waiting id = [])
    {old new : Receiver} (hold : w.registry.receivers.get? id = some old)
    (hnew : t.registry.receivers.get? id = some new) :
    (new.controls = old.controls → t.waiting id = []) ∧
      ∀ request index, new.controls = old.controls ++ [.setVolume request index .restoreSpeaker] →
        t.waiting id = [(request, index)] := by
  obtain ⟨link, hlink, htended⟩ := h.tended id old hold
  rw [waiting_eq hold hlink] at hserved
  have hlink' : t.outside.links.get? id = some link := by
    rw [houtside]
    exact hlink
  rw [waiting_eq hnew hlink']
  refine ⟨?_, ?_⟩
  · intro hcontrols
    rw [Tended.waiting_congr link hcontrols]
    exact hserved
  · intro request index hcontrols
    exact htended.waiting_singleton hserved hcontrols

/-- **A round answers everything.** -/
theorem round_served (hsound : profile.Sound) {volume : Nat} {device : DeviceStatus}
    {round : Round}
    (h : Expectant listed { profile with volume := volume } master device (w.ticking round))
    {level : Nat} (hshared : profile.Shared (devicesOf w.registry) level)
    (hwrap : (w.afterTick encode round).registry.issued ≤ 2 ^ 32) :
    Served listed profile master (w.afterRound encode round) := by
  obtain ⟨hadvanced, _⟩ := tick_advanced encode (hsound.withVolume volume) h hshared hwrap
  have hattended := hadvanced.steady.attended
  refine ⟨hadvanced.editing.trans h.editing, hadvanced.steady.unblocked, hadvanced.current,
    phonesObey_attended hattended, phonesObey_confirmed hattended hadvanced.steady.awaited,
    phonesObey_waiting hattended, ?_⟩
  intro new hnew
  obtain ⟨receiver, link, hreceiver, htended, _, rfl⟩ := before_turn hattended hnew
  rw [htended.turn_unsolicited]
  exact hadvanced.unsolicited receiver hreceiver

/-- **Where nothing waits, a round keeps the group.** -/
theorem round_sameGroup (hsound : profile.Sound) (h : AfterFirst profile master r₀ w)
    (hmaster : r₀.members profile.master = [master]) {level : Nat}
    (hshared : profile.Shared (devicesOf r₀) level) {round : Round}
    (hwrap : (w.afterTick encode round).registry.issued ≤ 2 ^ 32) :
    AfterFirst profile master r₀ (w.afterRound encode round) := by
  obtain ⟨volume, hcurrent⟩ := h.current
  obtain ⟨device, hexpectant⟩ := h.expectant hmaster hcurrent round
  have hshared' := (shared_congr h.group).mpr hshared
  obtain ⟨hadvanced, _⟩ := tick_advanced encode (hsound.withVolume volume) hexpectant hshared' hwrap
  have hgroup : Registry.SameGroup profile w.registry (w.afterTick encode round).registry := by
    refine Registry.sameGroup_of_plays hadvanced.keys ?_
    intro id range _
    rw [Registry.plays, Registry.plays]
    exact congrArg (fun d => Option.any range.matchesDevice d) (hadvanced.device id)
  exact ⟨round_served encode hsound hexpectant hshared' hwrap,
    (h.group.trans hgroup).trans (phonesObey_sameGroup hadvanced.steady.attended)⟩

/-- **The second round.**  A barrier that was needed is put and taken away. -/
theorem round_second (hsound : profile.Sound) (h : AfterFirst profile master r₀ w)
    (hmaster : r₀.members profile.master = [master]) {level : Nat}
    (hshared : profile.Shared (devicesOf r₀) level) {round : Round}
    (hwrap : (w.afterTick encode round).registry.issued ≤ 2 ^ 32) :
    AfterSecond profile master r₀ (w.afterRound encode round) := by
  have hfirst := round_sameGroup encode hsound h hmaster hshared hwrap
  obtain ⟨volume, hcurrent⟩ := h.current
  obtain ⟨device, hexpectant⟩ := h.expectant hmaster hcurrent round
  obtain ⟨hadvanced, hbranches⟩ := tick_advanced encode (hsound.withVolume volume) hexpectant
    ((shared_congr h.group).mpr hshared) hwrap
  obtain ⟨hneeds, hbranch⟩ := hbranches h.confirmed
  have hattended : Attended profile.Lists (w.afterTick encode round).registry
      (w.afterTick encode round).outside :=
    hadvanced.steady.attended
  refine ⟨hfirst, hneeds, ?_⟩
  show (w.afterTick encode round).phonesObey.registry.hasPanelBarrier master = false
  cases hnew : (w.afterTick encode round).phonesObey.registry.receivers.get? master with
  | none =>
      simp only [Registry.hasPanelBarrier, hnew]
  | some new =>
      obtain ⟨receiver, link, hreceiver, htended, hwaiting, rfl⟩ := before_turn hattended hnew
      simp only [Registry.hasPanelBarrier, hnew]
      rw [Option.isSome_eq_false_iff, Option.isNone_iff_eq_none]
      rcases hbranch with ⟨hbarred, _⟩ | ⟨hclear, _⟩
      · obtain ⟨old, barred, d, request, index, hold, hbarredAt, hdevice, hrange, hbarrier,
          hcontrols⟩ := hbarred
        have hsame : some barred = some receiver := hbarredAt.symm.trans hreceiver
        cases hsame
        have hkept := hadvanced.device master
        rw [hbarredAt, hold, Option.bind_some, Option.bind_some, hdevice] at hkept
        have hone := (waiting_after (w := w.ticking round) h.attended hadvanced.outside
          (h.served master) hold hbarredAt).2 request index hcontrols
        have hrequests := htended.requests
        rw [← hwaiting, show (w.afterTick encode round).waiting master = _ from hone]
          at hrequests ⊢
        rw [(Receiver.obeyAll_single hkept (htended.stored d hkept)
          (hrequests _ (List.mem_singleton_self _)) hrange).barrier, if_pos hbarrier]
      · apply htended.turn_barrier
        have hclear' : (w.afterTick encode round).registry.hasPanelBarrier master = false := hclear
        simp only [Registry.hasPanelBarrier, hreceiver] at hclear'
        rwa [Option.isSome_eq_false_iff, Option.isNone_iff_eq_none] at hclear'

/-- A receiver stands at its target after the turn of its phone. -/
theorem asked_at_rest {t : World Links LinkEvent} (hserved : ∀ id, w.waiting id = [])
    (hbefore : Attended listed w.registry w.outside)
    (hafter : Attended listed t.registry t.outside) (houtside : t.outside = w.outside)
    (hdevice : ∀ id, (t.registry.receivers.get? id).bind Receiver.device =
      (w.registry.receivers.get? id).bind Receiver.device) {x : Nat × Nat}
    (hasked : w.Asked t x) (hreachable : Reachable w.registry (connected w.registry.snapshots) x) :
    ∃ d ∈ deviceOf (connected t.phonesObey.registry.snapshots) x.1, d.2.volume = x.2 := by
  obtain ⟨old, new, hold, hnew, hcases⟩ := hasked
  obtain ⟨receiver, d, hreceiver, hd, _, hrange, _⟩ := hreachable
  rw [hold] at hreceiver
  cases hreceiver
  have hkept := hdevice x.1
  rw [hnew, hold, Option.bind_some, Option.bind_some, hd] at hkept
  have hturned : t.phonesObey.registry.receivers.get? x.1 = some (new.obeyAll (t.waiting x.1)) := by
    rw [get?_phonesObey, hnew]
    rfl
  obtain ⟨link, hlink, htended⟩ := hafter.tended x.1 new hnew
  obtain ⟨hsame, hone⟩ := waiting_after hbefore houtside (hserved x.1) hold hnew
  have hreached : ∃ d', (new.obeyAll (t.waiting x.1)).device = some d' ∧ d'.volume = x.2 := by
    rcases hcases with ⟨hcontrols, hvolume⟩ | ⟨request, hcontrols⟩
    · rw [hsame hcontrols]
      exact ⟨d, hkept, hvolume d hd⟩
    · have hwaiting := hone request x.2 hcontrols
      have hrequests := htended.requests
      rw [← waiting_eq hnew hlink, hwaiting] at hrequests
      rw [hwaiting]
      exact ⟨_, (Receiver.obeyAll_single hkept (htended.stored d hkept)
        (hrequests _ (List.mem_singleton_self _)) hrange).device, rfl⟩
  obtain ⟨d', hd', hvolume⟩ := hreached
  exact ⟨(x.1, d'), Option.mem_def.mpr (Registry.deviceOf_connected_snapshots
    ((Registry.mem_connected_snapshots _ (x.1, d')).mpr ⟨_, hturned, hd'⟩)), hvolume⟩

/-- **The third round.**  The group goes to a level, which is then its volume. -/
theorem round_third (hsound : profile.Sound) (h : AfterSecond profile master r₀ w)
    (hmaster : r₀.members profile.master = [master]) {level : Nat}
    (hshared : profile.Shared (devicesOf r₀) level) {round : Round}
    (hwrap : (w.afterTick encode round).registry.issued ≤ 2 ^ 32) :
    AfterThird profile master r₀ (w.afterRound encode round) := by
  have hsecond := round_second encode hsound h.toAfterFirst hmaster hshared hwrap
  obtain ⟨volume, hcurrent⟩ := h.current
  obtain ⟨device, hexpectant⟩ := h.expectant hmaster hcurrent round
  obtain ⟨hadvanced, hbranches⟩ := tick_advanced encode (hsound.withVolume volume) hexpectant
    ((shared_congr h.group).mpr hshared) hwrap
  obtain ⟨_, hbranch⟩ := hbranches h.confirmed
  have hnot : ¬ ((w.ticking round).state.needsFence ||
      (w.ticking round).registry.hasPanelBarrier master) = true := by
    rw [show (w.ticking round).state.needsFence = false from h.needsFence,
      show (w.ticking round).registry.hasPanelBarrier master = false from h.clear]
    exact Bool.false_ne_true
  obtain ⟨_, index, hlevelled⟩ := hbranch.resolve_left (fun hbarred => hnot hbarred.2)
  obtain ⟨requested, hlevel, _⟩ := hlevelled.nearest
  have hattended : Attended profile.Lists (w.afterTick encode round).registry
      (w.afterTick encode round).outside :=
    hadvanced.steady.attended
  have hgroup : Registry.SameGroup profile w.registry (w.afterRound encode round).registry := by
    intro range hrange
    rw [hsecond.group range hrange, h.group range hrange]
  refine ⟨hsecond, index, hlevelled.current, (shared_congr hgroup).mpr hlevel.shared, ?_⟩
  rw [targets_congr hgroup]
  intro x hx
  have hmem : (master, device) ∈ matching profile.master (connected w.registry.snapshots) := by
    have heq := hexpectant.master
    exact heq ▸ List.mem_singleton_self _
  exact asked_at_rest (w := w.ticking round) h.served h.attended hattended hadvanced.outside
    hadvanced.device (hlevelled.asked x hx)
    (reachable_of_mem_targets (hsound.withVolume volume) (.refl _) hlevel hmem hx)

theorem issued_afterTick (w : World Links LinkEvent) (round : Round) :
    w.registry.issued ≤ (w.afterTick encode round).registry.issued := by
  have hadopts : AdoptRule (fun r (_ : Links) _ => w.registry.issued ≤ r.issued) :=
    fun _ _ _ _ _ _ h => h
  exact tick_holds encode (issued_rules w.registry.issued).toGroupRules hadopts
    (w := w.ticking round) (Nat.le_refl _)

theorem issued_afterRound (w : World Links LinkEvent) (round : Round) :
    (w.afterRound encode round).registry.issued = (w.afterTick encode round).registry.issued :=
  (phonesObey_alike _).issued

theorem issued_rounds (rounds : List Round) (w : World Links LinkEvent) :
    w.registry.issued ≤ (rounds.foldl (afterRound encode) w).registry.issued := by
  induction rounds generalizing w with
  | nil =>
      exact Nat.le_refl _
  | cons round rounds ih =>
      rw [List.foldl_cons]
      refine le_trans ?_ (ih _)
      rw [issued_afterRound]
      exact issued_afterTick encode w round

/-- The rounds go on. -/
theorem rounds_third (hsound : profile.Sound) (hmaster : r₀.members profile.master = [master])
    {level : Nat} (hshared : profile.Shared (devicesOf r₀) level) (rounds : List Round)
    (h : AfterThird profile master r₀ w)
    (hwrap : (rounds.foldl (afterRound encode) w).registry.issued ≤ 2 ^ 32) :
    AfterThird profile master r₀ (rounds.foldl (afterRound encode) w) := by
  induction rounds generalizing w with
  | nil =>
      exact h
  | cons round rounds ih =>
      rw [List.foldl_cons] at hwrap ⊢
      have hnext : (w.afterTick encode round).registry.issued ≤ 2 ^ 32 := by
        rw [← w.issued_afterRound encode round]
        exact (issued_rounds encode rounds _).trans hwrap
      exact ih (round_third encode hsound h.toAfterSecond hmaster hshared hnext) hwrap

/-- The gate of a receiver is open. -/
def Opens (w : World Links LinkEvent) (id : Nat) : Prop :=
  (w.registry.receivers.get? id).any Receiver.playback = true

instance (w : World Links LinkEvent) (id : Nat) : Decidable (w.Opens id) :=
  inferInstanceAs (Decidable (_ = true))

/-- **A tick of the settled group** opens its gates and asks for nothing. -/
theorem settled_tick (hsound : profile.Sound) (h : AfterThird profile master r₀ w)
    (hmaster : r₀.members profile.master = [master]) {round : Round}
    (hwrap : (w.afterTick encode round).registry.issued ≤ 2 ^ 32) :
    (∀ id, (w.afterTick encode round).Opens id ↔ GroupMember profile r₀ id) ∧
      (∀ id, (w.afterTick encode round).registry.queuedTo id = w.registry.queuedTo id) ∧
      ∀ id, (w.afterTick encode round).waiting id = [] := by
  obtain ⟨volume, hcurrent, hshared, hrest⟩ := h.level
  obtain ⟨device, hexpectant⟩ := h.expectant hmaster hcurrent round
  obtain ⟨hadvanced, _⟩ := tick_advanced encode (hsound.withVolume volume) hexpectant hshared hwrap
  obtain ⟨r', hgentle, hregistry⟩ := tick_at_rest encode (hsound.withVolume volume) hexpectant
    h.confirmed h.needsFence h.clear h.unsolicited hshared hrest
  have hmem : (master, device) ∈ matching profile.master (connected w.registry.snapshots) := by
    have heq := hexpectant.master
    exact heq ▸ List.mem_singleton_self _
  have hreachable := fun t ht => reachable_of_mem_targets hsound (.refl w.registry)
    hshared.isLevel hmem (t := t) ht
  have happroved : w.registry.Gentle (w.afterTick encode round).registry := by
    rw [afterTick, hregistry]
    exact hgentle.trans (r'.gentle_approve _)
  have hmembers : w.registry.members profile.master = [master] := by
    rw [h.group profile.master List.mem_cons_self]
    exact hmaster
  refine ⟨?_, happroved.queuedTo, ?_⟩
  · intro id
    rw [← groupMember_congr h.group, ← mem_targets_iff hsound hmembers hshared, Opens]
    cases hreceiver : (w.afterTick encode round).registry.receivers.get? id with
    | some receiver =>
        rw [afterTick, hregistry] at hreceiver
        rw [Option.any_some]
        refine approve_opens hgentle ?_ hreceiver
        intro t ht
        obtain ⟨_, d, _, _, hhealthy, _, hd⟩ := hreachable t ht
        exact ⟨d, hd, hhealthy⟩
    | none =>
        refine iff_of_false (fun hopen => Bool.false_ne_true hopen) ?_
        rintro ⟨t, ht, rfl⟩
        obtain ⟨old, _, hold, _⟩ := hreachable t ht
        obtain ⟨new, hnew, _⟩ := happroved.receiver t.1 old hold
        rw [hreceiver] at hnew
        cases hnew
  · intro id
    cases hnew : (w.afterTick encode round).registry.receivers.get? id with
    | none =>
        rw [waiting, hnew]
    | some new =>
        obtain ⟨old, hold, hkept⟩ := happroved.receiver_back hnew
        exact (waiting_after h.attended hadvanced.outside (h.served id) hold hnew).1 hkept.controls

/-- Where nothing waits, the turn of the phones leaves the gates. -/
theorem phonesObey_opens {t : World Links LinkEvent} (hwaiting : ∀ id, t.waiting id = [])
    (id : Nat) : t.phonesObey.Opens id ↔ t.Opens id := by
  rw [Opens, Opens, get?_phonesObey, hwaiting]
  cases t.registry.receivers.get? id with
  | none =>
      exact Iff.rfl
  | some receiver =>
      exact Iff.rfl

end World

end Stages

section Settling

namespace World

variable (encode : Library → List UInt8)

/-- A state from which the group is to settle, if `first` is the next round: nothing
is edited or blocked, one receiver is the master, there is a shared volume, and every
pending request is confirmed or waits for its phone and is not too old. -/
structure Settling (profile : Profile) (master : Nat) (first : Round)
    (w : World Links LinkEvent) : Prop where
  editing : w.state.editing = false
  current : w.state.library.current = some profile
  master : w.registry.members profile.master = [master]
  shared : ∃ level, profile.Shared (devicesOf w.registry) level
  unblocked : ∀ id, w.state.blocked.contains id = false
  pending : ∀ e ∈ w.state.pending.entries, ConfirmedAt w.registry e.1 e.2 ∨
    ((e.2.request, e.2.index) ∈ w.waiting e.1 ∧ (w.ticking first).latest < e.2.at' + 4000)

/-- A pending request that waits has a volume in the range of its device, and fewer
than 32 commands wait behind it. -/
def Answerable (w : World Links LinkEvent) : Prop :=
  ∀ e ∈ w.state.pending.entries, ∀ before after,
    w.waiting e.1 = before ++ (e.2.request, e.2.index) :: after →
      after.length < 32 ∧
        ∃ d, (w.registry.receivers.get? e.1).bind Receiver.device = some d ∧ d.InRange e.2.index

theorem Settling.reviewable {profile : Profile} {master : Nat} {first : Round}
    {w : World Links LinkEvent} (h : Settling profile master first w) (hanswerable : w.Answerable) :
    (w.ticking first).Reviewable w.state.pending.entries := by
  intro e he
  rcases h.pending e he with hconfirmed | ⟨hmem, hlatest⟩
  · exact Or.inl hconfirmed
  · refine Or.inr ⟨?_, hlatest⟩
    obtain ⟨before, after, hsplit⟩ := List.append_of_mem hmem
    obtain ⟨hfew, d, hdevice, hrange⟩ := hanswerable e he before after hsplit
    obtain ⟨receiver, hreceiver, hdevice⟩ := Option.bind_eq_some_iff.mp hdevice
    cases hlink : w.outside.links.get? e.1 with
    | none =>
        rw [waiting, hlink, hreceiver] at hmem
        exact absurd hmem List.not_mem_nil
    | some link =>
        rw [waiting_eq hreceiver hlink] at hsplit
        exact ⟨receiver, link, hreceiver, hlink, before, after, d, hsplit, hfew, hdevice, hrange⟩

/-- **From the fourth tick on the gates of the group are open**, those of its master
and of the followers that take part, and no tick queues anything.

The group is that of the first round's end, since a phone that has not been healthy
may be so in its answer. -/
theorem group_settles (decode : List UInt8 → Except String (Library × List UInt8))
    (file : ProfileFile) (now : Nat) (es : List (WorldEvent LinkEvent))
    {w : World Links LinkEvent}
    (hreached : w = run (step Links.react encode) (start LinkEvent decode file Links.start now) es)
    {profile : Profile} {master : Nat} {first : Round} (hsettling : Settling profile master first w)
    (hanswerable : w.Answerable) {w₁ : World Links LinkEvent}
    (hfirst : w₁ = w.afterRound encode first)
    (hmaster : w₁.registry.members profile.master = [master])
    (hshared : ∃ level, profile.Shared (devicesOf w₁.registry) level)
    {rest : List Round} (hrounds : 2 ≤ rest.length) {before : World Links LinkEvent}
    (hbefore : before = rest.foldl (afterRound encode) w₁) (last : Round)
    (hwrap : (before.afterTick encode last).registry.issued ≤ 2 ^ 32) :
    Registry.SameGroup profile w₁.registry before.registry ∧
      (∀ id, (before.afterTick encode last).Opens id ↔ GroupMember profile w₁.registry id) ∧
      (∀ id, (before.afterRound encode last).Opens id ↔ GroupMember profile w₁.registry id) ∧
      ∀ id, (before.afterTick encode last).registry.queuedTo id = before.registry.queuedTo id := by
  have hlibrary : w.SoundLibrary := by
    rw [hreached]
    exact run_preserves SoundLibrary (fun w e hw => step_soundLibrary Links.react encode hw e)
      (start_soundLibrary decode file Links.start now) es
  have hsound := current_sound hlibrary hsettling.current
  rcases rest with _ | ⟨second, _ | ⟨third, more⟩⟩
  · exact absurd hrounds (by simp)
  · exact absurd hrounds (by simp)
  rw [List.foldl_cons, List.foldl_cons] at hbefore
  generalize hw2 : w₁.afterRound encode second = w₂ at hbefore
  generalize hw3 : w₂.afterRound encode third = w₃ at hbefore
  have hissued := (issued_afterTick encode before last).trans hwrap
  rw [hbefore] at hissued
  have hissued3 := (issued_rounds encode more w₃).trans hissued
  rw [← hw3, issued_afterRound] at hissued3
  have hissued2 := (issued_afterTick encode w₂ third).trans hissued3
  rw [← hw2, issued_afterRound] at hissued2
  have hissued1 := (issued_afterTick encode w₁ second).trans hissued2
  rw [hfirst, issued_afterRound] at hissued1
  have hattended : Attended (fun _ => False) w.registry w.outside := by
    have hissued0 := (issued_afterTick encode w first).trans hissued1
    rw [hreached] at hissued0 ⊢
    exact reached_attended encode decode file now es hissued0
  -- Round one may change the group, round two starts from the one that is then there.
  obtain ⟨device, hdevice⟩ := matching_master hsettling.master
  obtain ⟨level, hlevel⟩ := hsettling.shared
  have hexpectant : Expectant (fun _ => False) { profile with volume := profile.volume } master
      device (w.ticking first) :=
    ⟨w.ticking_undisturbed first, hsettling.editing, hsettling.unblocked, hattended,
      hsettling.reviewable hanswerable, hsettling.current, hdevice⟩
  have hserved : Served (fun _ => False) profile master w₁ :=
    hfirst ▸ round_served encode hsound hexpectant hlevel hissued1
  have hone : AfterFirst profile master w₁.registry w₁ :=
    ⟨{ hserved with attended := attended_of_served hserved.attended hserved.served profile.Lists },
      .refl profile w₁.registry⟩
  obtain ⟨level', hlevel'⟩ := hshared
  have htwo : AfterSecond profile master w₁.registry w₂ :=
    hw2 ▸ round_second encode hsound hone hmaster hlevel' hissued2
  have hthree : AfterThird profile master w₁.registry w₃ :=
    hw3 ▸ round_third encode hsound htwo hmaster hlevel' hissued3
  have hall : AfterThird profile master w₁.registry before :=
    hbefore ▸ rounds_third encode hsound hmaster hlevel' more hthree hissued
  obtain ⟨hgates, hqueues, hwaiting⟩ := settled_tick encode hsound hall hmaster hwrap
  refine ⟨hall.group, hgates, ?_, hqueues⟩
  intro id
  rw [← hgates id]
  exact phonesObey_opens hwaiting id

/-- A round in which everything happens at once. -/
def instant : Round where
  ticking := []
  saveFailure := none
  pause := 0

/-- The fourth tick after a run that begins with the file, if all goes fast. -/
def fourthTick (file : ProfileFile) (es : List (WorldEvent LinkEvent)) : World Links LinkEvent :=
  let w := run (step Links.react Library.encode)
    (start LinkEvent Library.decode file Links.start 0) es
  ([instant, instant].foldl (afterRound Library.encode)
    (w.afterRound Library.encode instant)).afterTick Library.encode instant

theorem roomProfile_shared (devices : List DeviceStatus) : (roomProfile 1).Shared devices 3 := by
  refine ⟨by decide, ?_⟩
  intro f hf _
  rw [List.mem_singleton.mp hf]
  exact ⟨2, by decide⟩

theorem settling_of_waiting {w : World Links LinkEvent} (profile : Profile)
    (hediting : w.state.editing = false) (hcurrent : w.state.library.current = some profile)
    (hmaster : w.registry.members profile.master = [0])
    (hshared : ∃ level, profile.Shared (devicesOf w.registry) level)
    (hunblocked : w.state.blocked.entries = [])
    (hpending : ∀ e ∈ w.state.pending.entries, (e.2.request, e.2.index) ∈ w.waiting e.1 ∧
      (w.ticking instant).latest < e.2.at' + 4000) :
    Settling profile 0 instant w := by
  refine ⟨hediting, hcurrent, hmaster, hshared, ?_, fun e he => Or.inr (hpending e he)⟩
  intro id
  rw [SortedMap.contains_eq_false_iff, SortedMap.get?, hunblocked]
  rfl

theorem answerable_of_few {w : World Links LinkEvent}
    (h : ∀ e ∈ w.state.pending.entries, (w.waiting e.1).length ≤ 32 ∧
      ∃ d ∈ (w.registry.receivers.get? e.1).bind Receiver.device,
        d.minimum ≤ e.2.index ∧ e.2.index ≤ d.maximum) : w.Answerable := by
  intro e he before after hsplit
  obtain ⟨hfew, d, hdevice, hrange⟩ := h e he
  have hlength := congrArg List.length hsplit
  rw [List.length_append, List.length_cons] at hlength
  exact ⟨by omega, d, hdevice, hrange⟩

/-- A status of the follower of `roomProfile`. -/
def sideStatus (volume : Nat) : DeviceStatus where
  requestId := 0
  deviceId := "side"
  name := "Side"
  volume := volume
  minimum := 0
  maximum := 10
  fixed := false
  speaker := true
  failed := false

/-- The window is opened and closed, so that both phones are to restore their volumes. -/
def reopened : List (WorldEvent LinkEvent) :=
  [.environment .connect, .environment .connect, .environment (.notice 0 (mainStatus 0 5)),
    .environment (.notice 1 (sideStatus 7)), .environment (.deliver 0), .environment (.deliver 1),
    .operation .open [] none, .operation .close [] none]

theorem group_settles_reopened :
    (fourthTick roomFile reopened).Opens 0 ∧ (fourthTick roomFile reopened).Opens 1 := by
  have hrounds : 2 ≤ [instant, instant].length := Nat.le_refl 2
  obtain ⟨_, hgates, _⟩ := group_settles Library.encode Library.decode roomFile 0 reopened rfl
    (settling_of_waiting (roomProfile 1) (by decide +kernel) (by decide +kernel)
      (by decide +kernel) ⟨3, roomProfile_shared _⟩ (by decide +kernel) (by decide +kernel))
    (answerable_of_few (by decide +kernel)) rfl (by decide +kernel) ⟨3, roomProfile_shared _⟩
    hrounds rfl instant (by decide +kernel)
  refine ⟨(hgates 0).mpr (Or.inl (by decide +kernel)), (hgates 1).mpr (Or.inr ?_)⟩
  exact ⟨_, List.mem_singleton_self _, ⟨by decide, by decide +kernel⟩, by decide +kernel⟩

/-- The phone has fewer steps than when the window was opened. -/
def narrowed : List (WorldEvent LinkEvent) :=
  [.environment .connect, .environment (.notice 0 { mainStatus 0 20 with maximum := 30 }),
    .environment (.deliver 0), .operation .open [] none,
    .environment (.notice 0 (mainStatus 0 5)), .environment (.deliver 0),
    .operation .close [] none]

/-- A second phone of the master is not healthy yet. -/
def recovering : List (WorldEvent LinkEvent) :=
  [.environment .connect, .environment .connect, .environment (.notice 0 (mainStatus 0 3)),
    .environment (.notice 1 { mainStatus 0 3 with failed := true }), .environment (.deliver 0),
    .environment (.deliver 1), .operation .open [] none, .operation .close [] none]

/-- Many commands wait behind the request.  They come a millisecond apart, and the
session sends each of them on, so that they wait at the phone and not in the queue of
the session. -/
def crowded : List (WorldEvent LinkEvent) :=
  [.environment .connect, .environment (.notice 0 (mainStatus 0 3)), .environment (.deliver 0),
    .operation .open [] none, .operation .close [] none] ++
    (List.replicate 32 [WorldEvent.elapse 1,
      .environment (.internal (.requestVolume 0 5 .calibration (fun _ => none)))]).flatten

/-- A profile whose two followers have no level in common. -/
def splitProfile : Profile where
  id := 1
  name := "Split"
  master := { id := "main", name := "Main", minimum := 0, maximum := 15 }
  followers :=
    [{ device := { id := "side", name := "Side", minimum := 0, maximum := 10 }
       mapping := SortedMap.empty.insert 3 2 },
     { device := { id := "rear", name := "Rear", minimum := 0, maximum := 10 }
       mapping := SortedMap.empty.insert 7 4 }]
  volume := 3

/-- A file with this profile, which is active. -/
def splitFile : ProfileFile :=
  .bytes (Library.encode ⟨1, some 1, [splitProfile]⟩)

/-- The second follower is not healthy yet. -/
def joining : List (WorldEvent LinkEvent) :=
  [.environment .connect, .environment .connect, .environment .connect,
    .environment (.notice 0 (mainStatus 0 3)), .environment (.notice 1 (sideStatus 2)),
    .environment
      (.notice 2 { sideStatus 4 with deviceId := "rear", name := "Rear", failed := true }),
    .environment (.deliver 0), .environment (.deliver 1), .environment (.deliver 2),
    .operation .open [] none, .operation .close [] none]

/-- After the run the profile can settle, yet the gate of its master is shut at the
fourth tick. -/
def Unsettled (file : ProfileFile) (profile : Profile) (es : List (WorldEvent LinkEvent)) :
    Prop :=
  let w := run (step Links.react Library.encode)
    (start LinkEvent Library.decode file Links.start 0) es
  Settling profile 0 instant w ∧ (fourthTick file es).registry.issued ≤ 2 ^ 32 ∧
    GroupMember profile w.registry 0 ∧ ¬ (fourthTick file es).Opens 0

theorem splitProfile_sound : splitProfile.Sound :=
  ⟨3, (Profile.validate_eq_ok_iff _).mp (by decide)⟩

/-- Without the further conditions the gate of the master can be shut at the fourth
tick. -/
theorem groups_that_do_not_settle :
    Unsettled roomFile (roomProfile 1) narrowed ∧ Unsettled roomFile (roomProfile 1) recovering ∧
      Unsettled roomFile (roomProfile 1) crowded ∧ Unsettled splitFile splitProfile joining := by
  refine ⟨?_, ?_, ?_, ?_⟩
  · exact ⟨settling_of_waiting _ (by decide +kernel) (by decide +kernel) (by decide +kernel)
      ⟨3, roomProfile_shared _⟩ (by decide +kernel) (by decide +kernel), by decide +kernel,
      Or.inl (by decide +kernel), by decide +kernel⟩
  · exact ⟨settling_of_waiting _ (by decide +kernel) (by decide +kernel) (by decide +kernel)
      ⟨3, roomProfile_shared _⟩ (by decide +kernel) (by decide +kernel), by decide +kernel,
      Or.inl (by decide +kernel), by decide +kernel⟩
  · exact ⟨settling_of_waiting _ (by decide +kernel) (by decide +kernel) (by decide +kernel)
      ⟨3, roomProfile_shared _⟩ (by decide +kernel) (by decide +kernel), by decide +kernel,
      Or.inl (by decide +kernel), by decide +kernel⟩
  · exact ⟨settling_of_waiting _ (by decide +kernel) (by decide +kernel) (by decide +kernel)
      ⟨3, (Profile.mem_available_iff splitProfile_sound).mp (by decide +kernel)⟩
      (by decide +kernel) (by decide +kernel), by decide +kernel, Or.inl (by decide +kernel),
      by decide +kernel⟩

end World

end Settling

end Soundwave

import Soundwave.PhoneLink
import Soundwave.ProfileFormat

/-!
# The panel barrier

A volume set on the panel goes to the master with a request `r`, and until the
answer to `r` arrives the registry ignores what the phone reports on its own
account: it may have been sent before the phone saw `r`.

The first result says that this works: a tick takes over a volume only from a
status with the request id zero that the phone sent after it had processed every
panel request issued by then.  The second says that the barrier does not swallow
too much: after the answer to the last panel request, the next such status is
taken for physical input as soon as its volume differs from that of the last
answer to a volume request.

Both rest on one invariant of a connection, `Linked`.
-/

namespace Soundwave

section Requests

/-- The request ids, other than zero, of device commands. -/
def requestIds (controls : List ControlMessage) : List Nat :=
  (controls.filterMap ControlMessage.deviceRequest).filter (· ≠ 0)

/-- The volume request `request` is among the commands. -/
def Seen (request : Nat) (controls : List ControlMessage) : Prop :=
  ∃ index purpose, .setVolume request index purpose ∈ controls

@[simp] theorem requestIds_append (l l' : List ControlMessage) :
    requestIds (l ++ l') = requestIds l ++ requestIds l' := by
  simp [requestIds]

theorem mem_requestIds {m : ControlMessage} {q : Nat} {l : List ControlMessage}
    (hm : m ∈ l) (hq : m.deviceRequest = some q) (hne : q ≠ 0) : q ∈ requestIds l := by
  simp only [requestIds, List.mem_filter, List.mem_filterMap]
  exact ⟨⟨m, hm, hq⟩, by simpa using hne⟩

theorem Seen.mem_requestIds {q : Nat} {l : List ControlMessage} (h : Seen q l) (hne : q ≠ 0) :
    q ∈ requestIds l := by
  obtain ⟨index, purpose, hm⟩ := h
  exact Soundwave.mem_requestIds hm rfl hne

theorem Seen.mono {q : Nat} {l l' : List ControlMessage} (h : Seen q l) (hsub : l <+: l') :
    Seen q l' := by
  obtain ⟨index, purpose, hm⟩ := h
  exact ⟨index, purpose, hsub.subset hm⟩

theorem seen_append {q : Nat} {l l' : List ControlMessage} :
    Seen q (l ++ l') ↔ Seen q l ∨ Seen q l' := by
  simp only [Seen, List.mem_append]
  constructor
  · rintro ⟨index, purpose, h | h⟩
    · exact Or.inl ⟨index, purpose, h⟩
    · exact Or.inr ⟨index, purpose, h⟩
  · rintro (⟨index, purpose, h⟩ | ⟨index, purpose, h⟩)
    · exact ⟨index, purpose, Or.inl h⟩
    · exact ⟨index, purpose, Or.inr h⟩

theorem not_seen_singleton {q : Nat} {m : ControlMessage} (hm : m.volumeRequest = none) :
    ¬ Seen q [m] := by
  rintro ⟨index, purpose, h⟩
  rw [← List.mem_singleton.mp h] at hm
  cases hm

theorem seen_singleton_setVolume {q n index : Nat} {purpose : VolumePurpose} :
    Seen q [.setVolume n index purpose] ↔ q = n := by
  constructor
  · rintro ⟨index', purpose', h⟩
    cases List.mem_singleton.mp h
    rfl
  · rintro rfl
    exact ⟨index, purpose, List.mem_singleton_self _⟩

/-- In a queue with ascending ids, what is not after `b` was processed with `b`. -/
theorem Seen.of_le {controls processed : List ControlMessage} {m : ControlMessage} {p b : Nat}
    (hsorted : (requestIds controls).Pairwise (· < ·)) (hinitial : processed ++ [m] <+: controls)
    (hm : m.deviceRequest = some b) (hb : b ≠ 0) (hp : Seen p controls) (hne : p ≠ 0)
    (hle : p ≤ b) : Seen p (processed ++ [m]) := by
  obtain ⟨rest, rfl⟩ := hinitial
  rcases seen_append.mp hp with hp | hp
  · exact hp
  · rw [requestIds_append, List.pairwise_append] at hsorted
    have hbmem : b ∈ requestIds (processed ++ [m]) :=
      Soundwave.mem_requestIds (List.mem_append_right _ (List.mem_singleton_self m)) hm hb
    have hlt := hsorted.2.2 b hbmem p (hp.mem_requestIds hne)
    omega

end Requests

section Invariant

/-- A panel request that was issued on this connection. -/
def Panel (incidents : List Incident) (id : Nat) (receiver : Receiver) (request : Nat) : Prop :=
  .panel id request ∈ incidents ∧ Seen request receiver.controls

/-- The volume of the last answer to a remembered volume request, or `volume`. -/
def lastReply (volume : Nat) (log : List Delivery) : Nat :=
  log.foldl (fun v d => if d.solicited then d.emission.status.volume else v) volume

/-- After `reply` came nothing that `observe` takes for more than an answer. -/
def OnlyReplies (reply : DeviceStatus) (log : List Delivery) : Prop :=
  ∀ d ∈ log, d.emission.status.sanitized.sameDevice reply.sanitized = true ∧
    ¬ (d.emission.status.requestId = 0 ∧ d.emission.status.healthy = true)

/-- The invariant of a connection.  `issued` is the counter of request ids. -/
structure Linked (issued : Nat) (incidents : List Incident)
    (delivered : List (Nat × Emission)) (id : Nat) (receiver : Receiver) (link : Link) :
    Prop where
  sorted : (requestIds receiver.controls).Pairwise (· < ·)
  below : ∀ q ∈ requestIds receiver.controls, q < issued
  nonzero : ∀ q, Seen q receiver.controls → q ≠ 0
  processed : link.processed <+: receiver.controls
  emitted : ∀ e ∈ link.inFlight, e.processed <+: link.processed ∧
    (e.status.requestId ≠ 0 →
      ∃ before m, e.processed = before ++ [m] ∧ m.deviceRequest = some e.status.requestId)
  ordered : link.inFlight.Pairwise (fun e e' => e.processed <+: e'.processed)
  barrier : ∀ b, receiver.panelBarrier = some b →
    receiver.unsolicitedVolume = none ∧ Panel incidents id receiver b ∧
      ∀ p, Panel incidents id receiver p → p ≤ b
  clear : receiver.panelBarrier = none → ∀ p, Panel incidents id receiver p →
    Seen p link.processed ∧ ∀ e ∈ link.inFlight, Seen p e.processed
  unsolicited : ∀ v, receiver.unsolicitedVolume = some v →
    ∃ e, (id, e) ∈ delivered ∧ e.status.requestId = 0 ∧ e.status.volume = v ∧
      ∀ p, Panel incidents id receiver p → Seen p e.processed
  stream : requestIds receiver.controls =
    link.answered.filter (· ≠ 0) ++
      ((link.inFlight.map (fun e => e.status.requestId)).filter (· ≠ 0) ++
        requestIds (receiver.controls.drop link.processed.length))
  keys : ∀ q, receiver.volumeRequests.contains q = true → Seen q receiver.controls
  remembered : ∀ q, Seen q receiver.controls → q ∉ link.answered →
    receiver.volumeRequests.contains q = true ∨
      32 ≤ (receiver.volumeRequests.keys.filter (q < ·)).length
  recorded : ∀ before reply log, link.log = before ++ reply :: log →
    Panel incidents id receiver reply.emission.status.requestId →
    (∀ p, Panel incidents id receiver p → p ≤ reply.emission.status.requestId) →
    reply.emission.status.consistent = true → reply.emission.status.failed = false →
    reply.outstanding < 32 → OnlyReplies reply.emission.status log →
    receiver.panelBarrier = none ∧
      receiver.observedVolume = some (lastReply reply.emission.status.volume log) ∧
      ∃ d, receiver.device = some d ∧
        d.sameDevice reply.emission.status.sanitized = true

namespace Linked

variable {issued issued' id : Nat} {incidents incidents' : List Incident}
variable {delivered delivered' : List (Nat × Emission)} {receiver : Receiver} {link : Link}

/-- Time passes: more requests are issued elsewhere, more statuses arrive elsewhere,
other incidents are noted. -/
theorem mono (h : Linked issued incidents delivered id receiver link) (hissued : issued ≤ issued')
    (hpanels : ∀ p, .panel id p ∈ incidents' ↔ .panel id p ∈ incidents)
    (hdelivered : delivered ⊆ delivered') :
    Linked issued' incidents' delivered' id receiver link := by
  have hpanel : ∀ p, Panel incidents' id receiver p ↔ Panel incidents id receiver p := by
    intro p
    rw [Panel, Panel, hpanels]
  refine ⟨h.sorted, fun q hq => lt_of_lt_of_le (h.below q hq) hissued, h.nonzero, h.processed,
    h.emitted, h.ordered, ?_, ?_, ?_, h.stream, h.keys, h.remembered, ?_⟩
  · intro b hb
    obtain ⟨hnone, hpanelB, hle⟩ := h.barrier b hb
    exact ⟨hnone, (hpanel b).mpr hpanelB, fun p hp => hle p ((hpanel p).mp hp)⟩
  · exact fun hb p hp => h.clear hb p ((hpanel p).mp hp)
  · intro v hv
    obtain ⟨e, he, hid, hvol, hseen⟩ := h.unsolicited v hv
    exact ⟨e, hdelivered he, hid, hvol, fun p hp => hseen p ((hpanel p).mp hp)⟩
  · intro before reply log hlog hr hnewest
    exact h.recorded before reply log hlog ((hpanel _).mp hr)
      (fun p hp => hnewest p ((hpanel p).mpr hp))

/-- A receiver with the same queue, barrier and volumes. -/
theorem of_eq {receiver' : Receiver} (h : Linked issued incidents delivered id receiver link)
    (hcontrols : receiver'.controls = receiver.controls)
    (hdevice : receiver'.device = receiver.device)
    (hunsolicited : receiver'.unsolicitedVolume = receiver.unsolicitedVolume)
    (hobserved : receiver'.observedVolume = receiver.observedVolume)
    (hrequests : receiver'.volumeRequests = receiver.volumeRequests)
    (hbarrier : receiver'.panelBarrier = receiver.panelBarrier) :
    Linked issued incidents delivered id receiver' link := by
  obtain ⟨controls, device, replies, tones, playback, unsolicited, observed, requests, barrier⟩ :=
    receiver
  obtain ⟨controls', device', replies', tones', playback', unsolicited', observed', requests',
    barrier'⟩ := receiver'
  simp only at hcontrols hdevice hunsolicited hobserved hrequests hbarrier
  subst hcontrols hdevice hunsolicited hobserved hrequests hbarrier
  exact ⟨h.sorted, h.below, h.nonzero, h.processed, h.emitted, h.ordered, h.barrier, h.clear,
    h.unsolicited, h.stream, h.keys, h.remembered, h.recorded⟩

/-- The volume that `take_unsolicited_volume` returned is gone. -/
theorem taken (h : Linked issued incidents delivered id receiver link) :
    Linked issued incidents delivered id { receiver with unsolicitedVolume := none } link :=
  ⟨h.sorted, h.below, h.nonzero, h.processed, h.emitted, h.ordered,
    fun b hb => ⟨rfl, (h.barrier b hb).2⟩, h.clear, (fun _ hv => nomatch hv), h.stream,
    h.keys, h.remembered, h.recorded⟩

/-- A new connection. -/
theorem fresh (hnone : ∀ p, ¬ Seen p ([] : List ControlMessage)) :
    Linked issued incidents delivered id .fresh .fresh where
  sorted := List.Pairwise.nil
  below := fun q hq => absurd hq List.not_mem_nil
  nonzero := fun q hq => absurd hq (hnone q)
  processed := List.prefix_refl []
  emitted := fun e he => absurd he List.not_mem_nil
  ordered := List.Pairwise.nil
  barrier := fun b hb => by cases hb
  clear := fun _ p hp => absurd hp.2 (hnone p)
  unsolicited := fun v hv => by cases hv
  stream := rfl
  keys := fun q hq => by cases hq
  remembered := fun q hq => absurd hq (hnone q)
  recorded := fun before reply log hlog => by
    have hlength := congrArg List.length hlog
    simp [Link.fresh] at hlength

end Linked

end Invariant

section Queueing

namespace Linked

variable {issued issued' id : Nat} {incidents incidents' : List Incident}
variable {delivered : List (Nat × Emission)} {receiver receiver' : Receiver} {link : Link}

/-- The part of the invariant that a further command leaves alone. -/
theorem append_stream (h : Linked issued incidents delivered id receiver link)
    (m : ControlMessage) :
    requestIds (receiver.controls ++ [m]) =
      link.answered.filter (· ≠ 0) ++
        ((link.inFlight.map (fun e => e.status.requestId)).filter (· ≠ 0) ++
          requestIds ((receiver.controls ++ [m]).drop link.processed.length)) := by
  rw [List.drop_append_of_le_length h.processed.length_le, requestIds_append, requestIds_append,
    h.stream]
  simp only [List.append_assoc]

theorem append_sorted (h : Linked issued incidents delivered id receiver link)
    {m : ControlMessage}
    (hm : ∀ q, m.deviceRequest = some q → q ≠ 0 → issued ≤ q ∧ q < issued')
    (hissued : issued ≤ issued') :
    (requestIds (receiver.controls ++ [m])).Pairwise (· < ·) ∧
      ∀ q ∈ requestIds (receiver.controls ++ [m]), q < issued' := by
  have hnew : ∀ q ∈ requestIds [m], issued ≤ q ∧ q < issued' := by
    intro q hq
    simp only [requestIds, List.mem_filter, List.mem_filterMap, List.mem_singleton,
      decide_eq_true_eq] at hq
    obtain ⟨⟨_, rfl, hreq⟩, hne⟩ := hq
    exact hm q hreq hne
  have hsingle : (requestIds [m]).Pairwise (· < ·) := by
    simp only [requestIds, List.filterMap_cons, List.filterMap_nil]
    cases m.deviceRequest with
    | none =>
        exact List.Pairwise.nil
    | some q =>
        exact (List.pairwise_singleton _ q).filter _
  rw [requestIds_append]
  refine ⟨?_, ?_⟩
  · rw [List.pairwise_append]
    refine ⟨h.sorted, hsingle, ?_⟩
    intro a ha b hb
    exact lt_of_lt_of_le (h.below a ha) (hnew b hb).1
  · intro q hq
    rcases List.mem_append.mp hq with hq | hq
    · exact lt_of_lt_of_le (h.below q hq) hissued
    · exact (hnew q hq).2

/-- A command that is not a volume request joins the queue. -/
theorem append (h : Linked issued incidents delivered id receiver link) {m : ControlMessage}
    (hvolume : m.volumeRequest = none)
    (hm : ∀ q, m.deviceRequest = some q → q ≠ 0 → issued ≤ q ∧ q < issued')
    (hissued : issued ≤ issued') :
    Linked issued' incidents delivered id
      { receiver with controls := receiver.controls ++ [m] } link := by
  obtain ⟨hsorted, hbelow⟩ := h.append_sorted hm hissued
  have hseen : ∀ q, Seen q (receiver.controls ++ [m]) ↔ Seen q receiver.controls := by
    intro q
    rw [seen_append]
    exact or_iff_left (not_seen_singleton hvolume)
  have hpanel : ∀ p, Panel incidents id { receiver with controls := receiver.controls ++ [m] } p ↔
      Panel incidents id receiver p := by
    intro p
    rw [Panel, Panel, hseen]
  refine ⟨hsorted, hbelow, fun q hq => h.nonzero q ((hseen q).mp hq),
    h.processed.trans (List.prefix_append _ _), h.emitted, h.ordered, ?_, ?_, ?_,
    h.append_stream m, fun q hq => (hseen q).mpr (h.keys q hq),
    fun q hq => h.remembered q ((hseen q).mp hq), ?_⟩
  · intro b hb
    obtain ⟨hnone, hpanelB, hle⟩ := h.barrier b hb
    exact ⟨hnone, (hpanel b).mpr hpanelB, fun p hp => hle p ((hpanel p).mp hp)⟩
  · exact fun hb p hp => h.clear hb p ((hpanel p).mp hp)
  · intro v hv
    obtain ⟨e, he, hid, hvol, hs⟩ := h.unsolicited v hv
    exact ⟨e, he, hid, hvol, fun p hp => hs p ((hpanel p).mp hp)⟩
  · intro before reply log hlog hr hnewest
    exact h.recorded before reply log hlog ((hpanel _).mp hr)
      (fun p hp => hnewest p ((hpanel p).mpr hp))

/-- What was answered was issued. -/
theorem answered_below (h : Linked issued incidents delivered id receiver link) {q : Nat}
    (hq : q ∈ link.answered) (hne : q ≠ 0) : q < issued := by
  apply h.below
  rw [h.stream]
  exact List.mem_append_left _ (List.mem_filter.mpr ⟨hq, by simpa using hne⟩)

/-- The requests that are kept when `n` joins them. -/
def keptRequests (requests : SortedMap Nat Unit) (n : Nat) : SortedMap Nat Unit :=
  (if 32 ≤ requests.size then requests.popFirst else requests).insert n ()

theorem mem_keptRequests {requests : SortedMap Nat Unit} {n q : Nat}
    (habove : ∀ x ∈ requests.keys, x < n) (h : q ∈ (keptRequests requests n).keys) :
    q ∈ requests.keys ∨ q = n := by
  rw [keptRequests] at h
  split_ifs at h
  · have habove' : ∀ x ∈ requests.popFirst.keys, x < n := by
      rw [SortedMap.keys_popFirst]
      exact fun x hx => habove x (List.mem_of_mem_tail hx)
    rw [SortedMap.keys_insert_of_greater _ _ _ habove', SortedMap.keys_popFirst] at h
    rcases List.mem_append.mp h with h | h
    · exact Or.inl (List.mem_of_mem_tail h)
    · exact Or.inr (List.mem_singleton.mp h)
  · rw [SortedMap.keys_insert_of_greater _ _ _ habove] at h
    rcases List.mem_append.mp h with h | h
    · exact Or.inl h
    · exact Or.inr (List.mem_singleton.mp h)

/-- A request is forgotten only for 32 later ones. -/
theorem keptRequests_remember {requests : SortedMap Nat Unit} {n q : Nat}
    (habove : ∀ x ∈ requests.keys, x < n) (hq : q < n)
    (h : q ∈ requests.keys ∨ 32 ≤ (requests.keys.filter (q < ·)).length) :
    q ∈ (keptRequests requests n).keys ∨
      32 ≤ ((keptRequests requests n).keys.filter (q < ·)).length := by
  have hsorted : requests.keys.Pairwise (· < ·) := requests.sorted
  have hsize : requests.size = requests.keys.length := (List.length_map _).symm
  rw [keptRequests]
  split_ifs with hfull
  · have habove' : ∀ x ∈ requests.popFirst.keys, x < n := by
      rw [SortedMap.keys_popFirst]
      exact fun x hx => habove x (List.mem_of_mem_tail hx)
    rw [SortedMap.keys_insert_of_greater _ _ _ habove', SortedMap.keys_popFirst]
    rw [hsize] at hfull
    generalize requests.keys = keys at hsorted hfull h
    cases keys with
    | nil =>
        simp at hfull
    | cons first rest =>
        rw [List.pairwise_cons] at hsorted
        rw [List.length_cons] at hfull
        have hall : q ≤ first → 32 ≤ ((rest ++ [n]).filter (q < ·)).length := by
          intro hle
          have hfilter : (rest ++ [n]).filter (q < ·) = rest ++ [n] := by
            rw [List.filter_eq_self]
            intro x hx
            rcases List.mem_append.mp hx with hx | hx
            · exact decide_eq_true (lt_of_le_of_lt hle (hsorted.1 x hx))
            · rw [List.mem_singleton.mp hx]
              exact decide_eq_true hq
          rw [hfilter, List.length_append]
          exact hfull
        rw [List.tail_cons]
        rcases h with h | h
        · rcases List.mem_cons.mp h with rfl | h
          · exact Or.inr (hall le_rfl)
          · exact Or.inl (List.mem_append_left _ h)
        · by_cases hle : q ≤ first
          · exact Or.inr (hall hle)
          · refine Or.inr ?_
            rw [List.filter_cons_of_neg (by simpa using Nat.le_of_lt (not_le.mp hle))] at h
            rw [List.filter_append, List.length_append]
            omega
  · rw [SortedMap.keys_insert_of_greater _ _ _ habove]
    rcases h with h | h
    · exact Or.inl (List.mem_append_left _ h)
    · refine Or.inr ?_
      rw [List.filter_append, List.length_append]
      omega

/-- A volume request joins the queue; with a barrier it becomes the newest panel
request. -/
theorem queueVolume (h : Linked issued incidents delivered id receiver link)
    (hpanels : ∀ p, .panel id p ∈ incidents → p < issued) (hpos : issued ≠ 0)
    (index : Nat) (purpose : VolumePurpose) (barrier : Bool) :
    Linked (issued + 1)
      (if barrier then incidents ++ [.panel id issued] else incidents) delivered id
      (receiver.queueVolume issued index purpose barrier) link := by
  have hm : ∀ q, (ControlMessage.setVolume issued index purpose).deviceRequest = some q → q ≠ 0 →
      issued ≤ q ∧ q < issued + 1 := by
    intro q hq _
    cases hq
    exact ⟨le_rfl, Nat.lt_succ_self _⟩
  obtain ⟨hsorted, hbelow⟩ := h.append_sorted hm (Nat.le_succ issued)
  have hseen : ∀ q, Seen q (receiver.controls ++ [.setVolume issued index purpose]) ↔
      Seen q receiver.controls ∨ q = issued := by
    intro q
    rw [seen_append, seen_singleton_setVolume]
  have hold : ∀ q, Seen q receiver.controls → q < issued := fun q hq =>
    h.below q (hq.mem_requestIds (h.nonzero q hq))
  have habove : ∀ x ∈ receiver.volumeRequests.keys, x < issued := fun x hx =>
    hold x (h.keys x ((SortedMap.mem_keys_iff _ _).mp hx))
  have hrequests : (receiver.queueVolume issued index purpose barrier).volumeRequests =
      keptRequests receiver.volumeRequests issued := rfl
  have hnewest : ∀ p, Panel
      (if barrier then incidents ++ [.panel id issued] else incidents) id
      (receiver.queueVolume issued index purpose barrier) p → p ≤ issued := by
    rintro p ⟨_, hp⟩
    rcases (hseen p).mp hp with hp | hp
    · exact (hold p hp).le
    · exact hp.le
  have hpanel : barrier = false → ∀ p,
      Panel incidents id (receiver.queueVolume issued index purpose barrier) p ↔
        Panel incidents id receiver p := by
    rintro - p
    constructor
    · rintro ⟨hi, hp⟩
      rcases (hseen p).mp hp with hp | rfl
      · exact ⟨hi, hp⟩
      · exact absurd (hpanels p hi) (lt_irrefl p)
    · rintro ⟨hi, hp⟩
      exact ⟨hi, (hseen p).mpr (Or.inl hp)⟩
  refine ⟨hsorted, hbelow, ?_, h.processed.trans (List.prefix_append _ _), h.emitted, h.ordered,
    ?_, ?_, ?_, h.append_stream _, ?_, ?_, ?_⟩
  · intro q hq
    rcases (hseen q).mp hq with hq | rfl
    · exact h.nonzero q hq
    · exact hpos
  · cases barrier with
    | true =>
        rintro b hb
        cases hb
        refine ⟨rfl, ⟨List.mem_append_right _ (List.mem_singleton_self _), ?_⟩, hnewest⟩
        exact (hseen issued).mpr (Or.inr rfl)
    | false =>
        intro b hb
        obtain ⟨hnone, hpanelB, hle⟩ := h.barrier b hb
        exact ⟨hnone, (hpanel rfl b).mpr hpanelB, fun p hp => hle p ((hpanel rfl p).mp hp)⟩
  · cases barrier with
    | true =>
        intro hb
        cases hb
    | false =>
        exact fun hb p hp => h.clear hb p ((hpanel rfl p).mp hp)
  · cases barrier with
    | true =>
        intro v hv
        cases hv
    | false =>
        intro v hv
        obtain ⟨e, he, hid, hvol, hs⟩ := h.unsolicited v hv
        exact ⟨e, he, hid, hvol, fun p hp => hs p ((hpanel rfl p).mp hp)⟩
  · intro q hq
    rw [hrequests, ← SortedMap.mem_keys_iff] at hq
    refine (hseen q).mpr ?_
    rcases mem_keptRequests habove hq with hq | hq
    · exact Or.inl (h.keys q ((SortedMap.mem_keys_iff _ _).mp hq))
    · exact Or.inr hq
  · intro q hq hanswered
    rw [hrequests, ← SortedMap.mem_keys_iff]
    rcases (hseen q).mp hq with hq | rfl
    · have hkept := h.remembered q hq hanswered
      rw [← SortedMap.mem_keys_iff] at hkept
      exact keptRequests_remember habove (hold q hq) hkept
    · refine Or.inl ((SortedMap.mem_keys_iff _ _).mpr ?_)
      rw [SortedMap.contains_eq_true_iff]
      exact ⟨(), SortedMap.get?_insert_self _ _ _⟩
  · cases barrier with
    | true =>
        intro before reply log hlog hr hnewer
        -- the new request is newer than the one whose answer came
        have hlt := hnewer issued
          ⟨List.mem_append_right _ (List.mem_singleton_self _), (hseen issued).mpr (Or.inr rfl)⟩
        have hanswered : reply.emission.status.requestId ∈ link.answered := by
          simp [Link.answered, hlog]
        have hbelowReply := h.answered_below hanswered (by omega)
        omega
    | false =>
        intro before reply log hlog hr hnewer
        exact h.recorded before reply log hlog ((hpanel rfl _).mp hr)
          (fun p hp => hnewer p ((hpanel rfl p).mpr hp))

end Linked

end Queueing

section Phone

namespace Linked

variable {issued id : Nat} {incidents : List Incident}
variable {delivered : List (Nat × Emission)} {receiver : Receiver} {link : Link}

/-- The phone takes the next command. -/
theorem process (h : Linked issued incidents delivered id receiver link)
    {command : ControlMessage} {rest : List ControlMessage}
    (hnext : receiver.controls.drop link.processed.length = command :: rest)
    (reply : DeviceStatus) :
    Linked issued incidents delivered id receiver (link.process command reply) := by
  have hcontrols : link.processed ++ command :: rest = receiver.controls := by
    obtain ⟨later, hlater⟩ := h.processed
    rw [← hlater, List.drop_left] at hnext
    rw [← hnext, hlater]
  have hinitial : link.processed <+: link.processed ++ [command] := List.prefix_append _ _
  -- the statuses that the command adds, and their ids
  have hnew : ∀ e ∈ (link.process command reply).inFlight, e ∈ link.inFlight ∨
      (e.processed = link.processed ++ [command] ∧
        command.deviceRequest = some e.status.requestId) := by
    intro e he
    rcases List.mem_append.mp he with he | he
    · exact Or.inl he
    · cases hrequest : command.deviceRequest with
      | none =>
          simp [hrequest] at he
      | some request =>
          simp only [hrequest, List.mem_singleton] at he
          subst he
          exact Or.inr ⟨rfl, rfl⟩
  have hids : (link.process command reply).inFlight.map (fun e => e.status.requestId) =
      link.inFlight.map (fun e => e.status.requestId) ++
        [command].filterMap ControlMessage.deviceRequest := by
    rw [Link.process]
    cases hrequest : command.deviceRequest with
    | none =>
        simp [hrequest]
    | some request =>
        simp [hrequest]
  refine ⟨h.sorted, h.below, h.nonzero, ?_, ?_, ?_, h.barrier, ?_, h.unsolicited, ?_, h.keys,
    h.remembered, h.recorded⟩
  · rw [← hcontrols]
    exact ⟨rest, by simp [Link.process]⟩
  · intro e he
    rcases hnew e he with he | ⟨hprocessed, hrequest⟩
    · exact ⟨(h.emitted e he).1.trans hinitial, (h.emitted e he).2⟩
    · refine ⟨?_, fun _ => ⟨link.processed, command, hprocessed, hrequest⟩⟩
      rw [hprocessed]
      exact List.prefix_refl _
  · rw [Link.process, List.pairwise_append]
    refine ⟨h.ordered, ?_, ?_⟩
    · cases command.deviceRequest with
      | none => exact List.Pairwise.nil
      | some request => exact List.pairwise_singleton _ _
    · intro e he e' he'
      have hlast : e'.processed = link.processed ++ [command] := by
        cases hrequest : command.deviceRequest with
        | none =>
            simp [hrequest] at he'
        | some request =>
            simp only [hrequest, List.mem_singleton] at he'
            rw [he']
      rw [hlast]
      exact (h.emitted e he).1.trans hinitial
  · intro hb p hp
    obtain ⟨hprocessed, hflight⟩ := h.clear hb p hp
    refine ⟨hprocessed.mono hinitial, ?_⟩
    intro e he
    rcases hnew e he with he | ⟨hlast, _⟩
    · exact hflight e he
    · rw [hlast]
      exact hprocessed.mono hinitial
  · have hdrop : receiver.controls.drop (link.processed ++ [command]).length = rest := by
      rw [← hcontrols, List.append_cons link.processed command rest, List.drop_left]
    have hrest : requestIds (receiver.controls.drop link.processed.length) =
        ([command].filterMap ControlMessage.deviceRequest).filter (· ≠ 0) ++ requestIds rest := by
      rw [hnext, ← List.singleton_append, requestIds_append]
      rfl
    have hprocessed : (link.process command reply).processed = link.processed ++ [command] := rfl
    have hanswered : (link.process command reply).answered = link.answered := rfl
    rw [hids, hprocessed, hanswered, hdrop, List.filter_append, List.append_assoc, ← hrest]
    exact h.stream

/-- The phone reports on its own account. -/
theorem notice (h : Linked issued incidents delivered id receiver link)
    (status : DeviceStatus) :
    Linked issued incidents delivered id receiver (link.notice status) := by
  have hnew : ∀ e ∈ (link.notice status).inFlight, e ∈ link.inFlight ∨
      (e.processed = link.processed ∧ e.status.requestId = 0) := by
    intro e he
    rcases List.mem_append.mp he with he | he
    · exact Or.inl he
    · rw [List.mem_singleton.mp he]
      exact Or.inr ⟨rfl, rfl⟩
  refine ⟨h.sorted, h.below, h.nonzero, h.processed, ?_, ?_, h.barrier, ?_, h.unsolicited, ?_,
    h.keys, h.remembered, h.recorded⟩
  · intro e he
    rcases hnew e he with he | ⟨hprocessed, hid⟩
    · exact h.emitted e he
    · refine ⟨?_, fun hne => absurd hid hne⟩
      rw [hprocessed]
      exact List.prefix_refl _
  · rw [Link.notice, List.pairwise_append]
    refine ⟨h.ordered, List.pairwise_singleton _ _, ?_⟩
    intro e he e' he'
    rw [List.mem_singleton.mp he']
    exact (h.emitted e he).1
  · intro hb p hp
    obtain ⟨hprocessed, hflight⟩ := h.clear hb p hp
    refine ⟨hprocessed, ?_⟩
    intro e he
    rcases hnew e he with he | ⟨hlast, _⟩
    · exact hflight e he
    · rw [hlast]
      exact hprocessed
  · rw [h.stream]
    simp [Link.notice, Link.answered]

end Linked

end Phone

section Arrival

namespace Linked

variable {issued id : Nat} {incidents : List Incident}
variable {delivered : List (Nat × Emission)} {receiver : Receiver} {link : Link}
variable {emission : Emission} {rest : List Emission}

/-- The ids of a connection around the next status to arrive. -/
theorem stream_around (h : Linked issued incidents delivered id receiver link)
    (hflight : link.inFlight = emission :: rest) (hne : emission.status.requestId ≠ 0) :
    (∀ q ∈ link.answered, q ≠ 0 → q < emission.status.requestId) ∧
      ∀ q ∈ requestIds receiver.controls, q ∉ link.answered →
        q ≠ emission.status.requestId → emission.status.requestId < q := by
  have hstream := h.stream
  have hsorted := h.sorted
  rw [hflight, List.map_cons, List.filter_cons_of_pos (by simpa using hne)] at hstream
  rw [hstream] at hsorted
  rw [List.pairwise_append, List.cons_append, List.pairwise_cons] at hsorted
  refine ⟨?_, ?_⟩
  · intro q hq hq0
    exact hsorted.2.2 q (List.mem_filter.mpr ⟨hq, by simpa using hq0⟩) _ List.mem_cons_self
  · intro q hq hanswered hother
    rw [hstream] at hq
    rcases List.mem_append.mp hq with hq | hq
    · exact absurd (List.mem_filter.mp hq).1 hanswered
    · rw [List.cons_append] at hq
      rcases List.mem_cons.mp hq with hq | hq
      · exact absurd hq hother
      · exact hsorted.2.1.1 q hq

/-- With fewer than 32 unanswered volume requests none of them is forgotten. -/
theorem remembers (h : Linked issued incidents delivered id receiver link)
    (hflight : link.inFlight = emission :: rest)
    (hseen : Seen emission.status.requestId receiver.controls)
    (hfew : (link.outstanding receiver).length < 32) :
    receiver.volumeRequests.contains emission.status.requestId = true := by
  have hne := h.nonzero _ hseen
  obtain ⟨hbefore, _⟩ := h.stream_around hflight hne
  have hunanswered : emission.status.requestId ∉ link.answered := fun hmem =>
    lt_irrefl _ (hbefore _ hmem hne)
  rcases h.remembered _ hseen hunanswered with hkept | hmany
  · exact hkept
  · -- the 32 later requests are all unanswered
    exfalso
    have hsub : receiver.volumeRequests.keys.filter (emission.status.requestId < ·) ⊆
        link.outstanding receiver := by
      intro q hq
      obtain ⟨hkey, hlater⟩ := List.mem_filter.mp hq
      obtain ⟨index, purpose, hm⟩ := h.keys q ((SortedMap.mem_keys_iff _ _).mp hkey)
      have hlt := of_decide_eq_true hlater
      refine List.mem_filter.mpr ⟨List.mem_filterMap.mpr ⟨_, hm, rfl⟩, ?_⟩
      rw [decide_eq_true_eq]
      intro hanswered
      have := hbefore q hanswered (by omega)
      omega
    have hsorted : receiver.volumeRequests.keys.Pairwise (· < ·) :=
      receiver.volumeRequests.sorted
    have hnodup : (receiver.volumeRequests.keys.filter
        (emission.status.requestId < ·)).Nodup :=
      (hsorted.imp (fun hlt => ne_of_lt hlt)).filter _
    have hlength := (List.subperm_of_subset hnodup hsub).length_le
    omega

/-- The receiver and the link after a status has arrived. -/
def arrived (link : Link) (receiver : Receiver) (emission : Emission) (rest : List Emission) :
    Link :=
  { link with
      inFlight := rest
      log := link.log ++
        [{ emission := emission
           outstanding := (link.outstanding receiver).length
           solicited := receiver.solicited emission.status }] }

theorem arrived_answered :
    (arrived link receiver emission rest).answered =
      link.answered ++ [emission.status.requestId] := by
  simp [arrived, Link.answered]

/-- An arriving answer to the last panel request is believed. -/
theorem recorded_new (h : Linked issued incidents delivered id receiver link)
    (hflight : link.inFlight = emission :: rest)
    (hpanel : Panel incidents id receiver emission.status.requestId)
    (hnewest : ∀ p, Panel incidents id receiver p → p ≤ emission.status.requestId)
    (hconsistent : emission.status.consistent = true) (hfailed : emission.status.failed = false)
    (hfew : (link.outstanding receiver).length < 32) :
    (receiver.updated emission.status).panelBarrier = none ∧
      (receiver.updated emission.status).observedVolume = some emission.status.volume ∧
      (receiver.updated emission.status).device = some emission.status.sanitized := by
  have hkept := h.remembers hflight hpanel.2 hfew
  have hne := h.nonzero _ hpanel.2
  refine ⟨?_, ?_, ?_⟩
  · rcases receiver.updated_panelBarrier emission.status with hsame | ⟨_, _, hnone⟩
    · cases hbarrier : receiver.panelBarrier with
      | none =>
          exact hsame.trans hbarrier
      | some b =>
          obtain ⟨_, hpanelB, hle⟩ := h.barrier b hbarrier
          have heq : b = emission.status.requestId :=
            le_antisymm (hnewest b hpanelB) (hle _ hpanel)
          rw [Receiver.updated, if_pos hconsistent]
          simp only [Receiver.store, (receiver.observe_frame _).2.1, hbarrier, heq]
          exact if_pos rfl
    · exact hnone
  · rw [Receiver.updated, if_pos hconsistent]
    simp only [Receiver.store, Receiver.observe]
    split_ifs with _ hzero _ hanswer
    · rfl
    · exact absurd hzero.1 hne
    · exact absurd hzero.1 hne
    · rfl
    · exact absurd ⟨hkept, Or.inl hfailed⟩ hanswer
  · rw [Receiver.updated, if_pos hconsistent]
    rfl

theorem sameDevice_of_both {a b c : DeviceStatus} (ha : a.sameDevice c = true)
    (hb : b.sameDevice c = true) : a.sameDevice b = true := by
  simp only [DeviceStatus.sameDevice, Bool.and_eq_true, decide_eq_true_eq] at ha hb ⊢
  exact ⟨⟨ha.1.1.trans hb.1.1.symm, ha.1.2.trans hb.1.2.symm⟩, ha.2.trans hb.2.symm⟩

/-- A further status that is no report of the phone's own changes what is known
only as an answer. -/
theorem recorded_later {receiver : Receiver} {reply : DeviceStatus} {emission : Emission}
    {volume : Nat}
    (hbarrier : receiver.panelBarrier = none) (hobserved : receiver.observedVolume = some volume)
    (hdevice : ∃ d, receiver.device = some d ∧ d.sameDevice reply.sanitized = true)
    (hsame : emission.status.sanitized.sameDevice reply.sanitized = true)
    (hreport : ¬ (emission.status.requestId = 0 ∧ emission.status.healthy = true)) :
    (receiver.updated emission.status).panelBarrier = none ∧
      (receiver.updated emission.status).observedVolume =
        some (if receiver.solicited emission.status then emission.status.volume else volume) ∧
      ∃ d, (receiver.updated emission.status).device = some d ∧
        d.sameDevice reply.sanitized = true := by
  obtain ⟨d, hd, hdsame⟩ := hdevice
  by_cases hconsistent : emission.status.consistent = true
  · have hold : d.sameDevice emission.status.sanitized = true := sameDevice_of_both hdsame hsame
    refine ⟨?_, ?_, ?_⟩
    · rcases receiver.updated_panelBarrier emission.status with hb | ⟨_, _, hb⟩
      · exact hb.trans hbarrier
      · exact hb
    · rw [Receiver.updated, if_pos hconsistent]
      simp only [Receiver.store, Receiver.observe, hd, hold]
      have hnot : ¬ (emission.status.sanitized.requestId = 0 ∧
          emission.status.sanitized.healthy = true) := hreport
      have hsolicited : receiver.solicited emission.status = true ↔
          receiver.volumeRequests.contains emission.status.sanitized.requestId = true ∧
            (emission.status.sanitized.failed = false ∨
              (emission.status.sanitized.fixed = false ∧
                emission.status.sanitized.speaker = true)) := by
        simp [Receiver.solicited, hconsistent, DeviceStatus.sanitized]
      by_cases hanswer : receiver.solicited emission.status = true
      · rw [if_neg (by simp), if_neg hnot, if_pos (hsolicited.mp hanswer), if_pos hanswer]
        rfl
      · rw [if_neg (by simp), if_neg hnot, if_neg (fun hc => hanswer (hsolicited.mpr hc)),
          if_neg hanswer]
        exact hobserved
    · refine ⟨emission.status.sanitized, ?_, hsame⟩
      rw [Receiver.updated, if_pos hconsistent]
      rfl
  · have hunsolicited : receiver.solicited emission.status = false := by
      simp [Receiver.solicited, hconsistent]
    rw [Receiver.updated, if_neg hconsistent, hunsolicited]
    exact ⟨hbarrier, hobserved, d, hd, hdsame⟩

/-- Without a barrier, a report with another volume is physical input. -/
theorem report_recorded {receiver : Receiver} {reply status : DeviceStatus} {volume : Nat}
    (hbarrier : receiver.panelBarrier = none) (hobserved : receiver.observedVolume = some volume)
    (hdevice : ∃ d, receiver.device = some d ∧ d.sameDevice reply.sanitized = true)
    (hsame : status.sanitized.sameDevice reply.sanitized = true)
    (hconsistent : status.consistent = true) (hid : status.requestId = 0)
    (hhealthy : status.healthy = true) (hother : status.volume ≠ volume) :
    (receiver.updated status).unsolicitedVolume = some status.volume := by
  obtain ⟨d, hd, hdsame⟩ := hdevice
  have hold : d.sameDevice status.sanitized = true := sameDevice_of_both hdsame hsame
  have hreport : status.sanitized.requestId = 0 ∧ status.sanitized.healthy = true :=
    ⟨hid, hhealthy⟩
  have hnew : ∃ v ∈ receiver.observedVolume, v ≠ status.sanitized.volume :=
    ⟨volume, hobserved, hother.symm⟩
  rw [Receiver.updated, if_pos hconsistent]
  simp only [Receiver.store, Receiver.observe, hd, hold]
  rw [if_neg (by simp), if_pos hreport, if_pos ⟨hbarrier, hnew⟩]
  rfl

theorem panel_updated (receiver : Receiver) (status : DeviceStatus) (p : Nat) :
    Panel incidents id (receiver.updated status) p ↔ Panel incidents id receiver p := by
  rw [Panel, Panel, receiver.updated_controls]

/-- Without a barrier the phone has processed all panel requests. -/
theorem deliver_clear (h : Linked issued incidents delivered id receiver link)
    (hflight : link.inFlight = emission :: rest)
    (hb : (receiver.updated emission.status).panelBarrier = none) (p : Nat)
    (hp : Panel incidents id receiver p) :
    Seen p link.processed ∧ ∀ e ∈ rest, Seen p e.processed := by
  have hmem : emission ∈ link.inFlight := by
    rw [hflight]
    exact List.mem_cons_self
  rcases receiver.updated_panelBarrier emission.status with hsame | ⟨_, hbarrier, _⟩
  · obtain ⟨hprocessed, hseen⟩ := h.clear (hsame.symm.trans hb) p hp
    refine ⟨hprocessed, fun e he => hseen e ?_⟩
    rw [hflight]
    exact List.mem_cons_of_mem _ he
  · -- the answer to the barrier's request: the phone had processed all before it
    obtain ⟨_, hpanelB, hle⟩ := h.barrier _ hbarrier
    have hne := h.nonzero _ hpanelB.2
    obtain ⟨hinitial, hanswer⟩ := h.emitted emission hmem
    obtain ⟨before, m, hprocessed, hm⟩ := hanswer hne
    rw [hprocessed] at hinitial
    have hseen : Seen p (before ++ [m]) :=
      Seen.of_le h.sorted (hinitial.trans h.processed) hm hne hp.2 (h.nonzero p hp.2) (hle p hp)
    refine ⟨hseen.mono hinitial, fun e he => ?_⟩
    have hordered := h.ordered
    rw [hflight, List.pairwise_cons] at hordered
    rw [← hprocessed] at hseen
    exact hseen.mono (hordered.1 e he)

/-- What was not answered is still remembered, or 32 later requests are. -/
theorem deliver_remembered (h : Linked issued incidents delivered id receiver link)
    (hflight : link.inFlight = emission :: rest) {q : Nat} (hq : Seen q receiver.controls)
    (hanswered : q ∉ link.answered) (hother : q ≠ emission.status.requestId) :
    (receiver.updated emission.status).volumeRequests.contains q = true ∨
      32 ≤ ((receiver.updated emission.status).volumeRequests.keys.filter (q < ·)).length := by
  have hkept := h.remembered q hq hanswered
  rcases receiver.updated_volumeRequests emission.status with hsame | herased
  · rw [hsame]
    exact hkept
  · have hne := h.nonzero q hq
    have hlt : emission.status.requestId < q := by
      by_cases hzero : emission.status.requestId = 0
      · omega
      · exact (h.stream_around hflight hzero).2 q (hq.mem_requestIds hne) hanswered hother
    rw [herased]
    rcases hkept with hkept | hkept
    · left
      rw [← SortedMap.mem_keys_iff, SortedMap.keys_erase]
      exact List.mem_filter.mpr ⟨(SortedMap.mem_keys_iff _ _).mpr hkept, by simpa using hother⟩
    · right
      have hfilter : ((receiver.volumeRequests.erase emission.status.requestId).keys.filter
          (q < ·)) = receiver.volumeRequests.keys.filter (q < ·) := by
        rw [SortedMap.keys_erase, List.filter_filter]
        apply List.filter_congr
        intro x _
        simp only [Bool.and_eq_left_iff_imp, decide_eq_true_eq]
        omega
      rw [hfilter]
      exact hkept

/-- What is known after the answer to the last panel request. -/
theorem deliver_recorded (h : Linked issued incidents delivered id receiver link)
    (hflight : link.inFlight = emission :: rest)
    {before log : List Delivery} {reply : Delivery}
    (hlog : (arrived link receiver emission rest).log = before ++ reply :: log)
    (hpanel : Panel incidents id receiver reply.emission.status.requestId)
    (hnewest : ∀ p, Panel incidents id receiver p → p ≤ reply.emission.status.requestId)
    (hconsistent : reply.emission.status.consistent = true)
    (hfailed : reply.emission.status.failed = false) (hfew : reply.outstanding < 32)
    (honly : OnlyReplies reply.emission.status log) :
    (receiver.updated emission.status).panelBarrier = none ∧
      (receiver.updated emission.status).observedVolume =
        some (lastReply reply.emission.status.volume log) ∧
      ∃ d, (receiver.updated emission.status).device = some d ∧
        d.sameDevice reply.emission.status.sanitized = true := by
  rcases concat_eq_append_cons hlog with ⟨rfl, _, hreply⟩ | ⟨earlier, rfl, hearlier⟩
  · -- the reply arrives now
    subst hreply
    obtain ⟨hbarrier, hobserved, hdevice⟩ :=
      h.recorded_new hflight hpanel hnewest hconsistent hfailed hfew
    refine ⟨hbarrier, hobserved, _, hdevice, ?_⟩
    simp [DeviceStatus.sameDevice]
  · -- it had arrived before
    have honlyEarlier : OnlyReplies reply.emission.status earlier :=
      fun d hd => honly d (List.mem_append_left _ hd)
    obtain ⟨hbarrier, hobserved, hdevice⟩ :=
      h.recorded before reply earlier hearlier hpanel hnewest hconsistent hfailed hfew honlyEarlier
    obtain ⟨hsame, hreport⟩ := honly _ (List.mem_append_right _ (List.mem_singleton_self _))
    rw [lastReply, List.foldl_append]
    exact recorded_later hbarrier hobserved hdevice hsame hreport

/-- A status arrives. -/
theorem deliver (h : Linked issued incidents delivered id receiver link)
    (hflight : link.inFlight = emission :: rest) :
    Linked issued incidents (delivered ++ [(id, emission)]) id
      (receiver.updated emission.status) (arrived link receiver emission rest) := by
  have hmem : emission ∈ link.inFlight := by
    rw [hflight]
    exact List.mem_cons_self
  have hrest : ∀ e ∈ rest, e ∈ link.inFlight := by
    intro e he
    rw [hflight]
    exact List.mem_cons_of_mem _ he
  have hcontrols := receiver.updated_controls emission.status
  have hpanel : ∀ p, Panel incidents id (receiver.updated emission.status) p ↔
      Panel incidents id receiver p := panel_updated receiver emission.status
  have hordered := h.ordered
  rw [hflight, List.pairwise_cons] at hordered
  have hnotice : ∀ v, (receiver.updated emission.status).unsolicitedVolume = some v →
      receiver.unsolicitedVolume = some v ∨ receiver.panelBarrier = none := by
    intro v hv
    rcases Receiver.updated_unsolicitedVolume hv with hold | ⟨_, _, hnone⟩
    · exact Or.inl hold
    · exact Or.inr hnone
  refine ⟨?_, ?_, ?_, ?_, fun e he => h.emitted e (hrest e he), hordered.2, ?_, ?_, ?_, ?_, ?_,
    ?_, ?_⟩
  · rw [hcontrols]
    exact h.sorted
  · rw [hcontrols]
    exact h.below
  · rw [hcontrols]
    exact h.nonzero
  · rw [hcontrols]
    exact h.processed
  · intro b hb
    rcases receiver.updated_panelBarrier emission.status with hsame | ⟨_, _, hnone⟩
    · rw [hsame] at hb
      obtain ⟨hnone, hpanelB, hle⟩ := h.barrier b hb
      refine ⟨?_, (hpanel b).mpr hpanelB, fun p hp => hle p ((hpanel p).mp hp)⟩
      cases hv : (receiver.updated emission.status).unsolicitedVolume with
      | none =>
          rfl
      | some v =>
          rcases hnotice v hv with hold | hclear
          · exact absurd (hnone.symm.trans hold) (by simp)
          · exact absurd (hclear.symm.trans hb) (by simp)
    · exact absurd (hnone.symm.trans hb) (by simp)
  · exact fun hb p hp => h.deliver_clear hflight hb p ((hpanel p).mp hp)
  · intro v hv
    rcases Receiver.updated_unsolicitedVolume hv with hold | ⟨hid, hvolume, hnone⟩
    · obtain ⟨e, he, hrequest, hvol, hseen⟩ := h.unsolicited v hold
      exact ⟨e, List.mem_append_left _ he, hrequest, hvol,
        fun p hp => hseen p ((hpanel p).mp hp)⟩
    · exact ⟨emission, List.mem_append_right _ (List.mem_singleton_self _), hid, hvolume,
        fun p hp => (h.clear hnone p ((hpanel p).mp hp)).2 emission hmem⟩
  · rw [hcontrols, arrived_answered, h.stream, hflight, List.map_cons, List.filter_append]
    simp only [List.filter_cons, List.filter_nil, arrived]
    split_ifs
    · simp
    · simp
  · intro q hq
    rw [hcontrols]
    rcases receiver.updated_volumeRequests emission.status with hsame | herased
    · rw [hsame] at hq
      exact h.keys q hq
    · rw [herased, ← SortedMap.mem_keys_iff, SortedMap.keys_erase] at hq
      exact h.keys q ((SortedMap.mem_keys_iff _ _).mp (List.mem_filter.mp hq).1)
  · intro q hq hanswered
    rw [hcontrols] at hq
    rw [arrived_answered, List.mem_append, List.mem_singleton, not_or] at hanswered
    exact h.deliver_remembered hflight hq hanswered.1 hanswered.2
  · intro before reply log hlog hr hnewest
    exact h.deliver_recorded hflight hlog ((hpanel _).mp hr)
      (fun p hp => hnewest p ((hpanel p).mpr hp))

end Linked

end Arrival

section Runs

/-- What holds of all connections together. -/
structure Good (r : Registry) (k : Links) (i : List Incident) : Prop where
  positive : 1 ≤ r.issued
  panels : ∀ id p, .panel id p ∈ i → p < r.issued
  adopted : ∀ before id volume queued after,
    i = before ++ .adopted id volume queued :: after →
      ∃ e, (id, e) ∈ k.delivered ∧ e.status.requestId = 0 ∧ e.status.volume = volume ∧
        ∀ p, .panel id p ∈ before → Seen p queued → Seen p e.processed
  linked : ∀ id receiver, r.receivers.get? id = some receiver →
    ∃ link, k.links.get? id = some link ∧ Linked r.issued i k.delivered id receiver link

namespace Good

variable {r : Registry} {k : Links} {i : List Incident}

/-- A change of the receivers one by one. -/
theorem mapValues (h : Good r k i) (n : Nat) (hn : r.issued ≤ n) (f : Nat → Receiver → Receiver)
    (hf : ∀ id receiver link, Linked r.issued i k.delivered id receiver link →
      Linked n i k.delivered id (f id receiver) link) :
    Good { r with receivers := r.receivers.mapValues f, issued := n } k i := by
  refine ⟨h.positive.trans hn, fun id p hp => lt_of_lt_of_le (h.panels id p hp) hn, h.adopted, ?_⟩
  intro id receiver' hreceiver'
  rw [SortedMap.get?_mapValues, Option.map_eq_some_iff] at hreceiver'
  obtain ⟨receiver, hreceiver, rfl⟩ := hreceiver'
  obtain ⟨link, hlink, hlinked⟩ := h.linked id receiver hreceiver
  exact ⟨link, hlink, hf id receiver link hlinked⟩

/-- A change of one receiver. -/
theorem modify (h : Good r k i) (n : Nat) (hn : r.issued ≤ n) (id : Nat)
    (f : Receiver → Receiver)
    (hf : ∀ receiver link, Linked r.issued i k.delivered id receiver link →
      Linked n i k.delivered id (f receiver) link) :
    Good { r with receivers := r.receivers.modify id f, issued := n } k i := by
  refine h.mapValues n hn _ ?_
  intro id' receiver link hlinked
  split_ifs with hid
  · rw [hid] at hlinked ⊢
    exact hf receiver link hlinked
  · exact hlinked.mono hn (fun _ => Iff.rfl) (List.Subset.refl _)

/-- More request ids are drawn. -/
theorem drawn (h : Good r k i) (n : Nat) (hn : r.issued ≤ n) : Good { r with issued := n } k i := by
  refine ⟨h.positive.trans hn, fun id p hp => lt_of_lt_of_le (h.panels id p hp) hn, h.adopted, ?_⟩
  intro id receiver hreceiver
  obtain ⟨link, hlink, hlinked⟩ := h.linked id receiver hreceiver
  exact ⟨link, hlink, hlinked.mono hn (fun _ => Iff.rfl) (List.Subset.refl _)⟩

/-- An incident that is neither a panel request nor an adoption. -/
theorem noted (h : Good r k i) {incident : Incident}
    (hpanel : ∀ id p, incident ≠ .panel id p)
    (hadopted : ∀ id volume queued, incident ≠ .adopted id volume queued) :
    Good r k (i ++ [incident]) := by
  have hmem : ∀ id p, .panel id p ∈ i ++ [incident] ↔ .panel id p ∈ i := by
    intro id p
    rw [List.mem_append, List.mem_singleton]
    exact or_iff_left (fun heq => hpanel id p heq.symm)
  refine ⟨h.positive, fun id p hp => h.panels id p ((hmem id p).mp hp), ?_, ?_⟩
  · intro before id volume queued after heq
    rcases concat_eq_append_cons heq with ⟨_, _, hlast⟩ | ⟨earlier, _, hearlier⟩
    · exact absurd hlast (hadopted id volume queued)
    · exact h.adopted before id volume queued earlier hearlier
  · intro id receiver hreceiver
    obtain ⟨link, hlink, hlinked⟩ := h.linked id receiver hreceiver
    exact ⟨link, hlink, hlinked.mono le_rfl (hmem id) (List.Subset.refl _)⟩

theorem requestId_eq (h : Good r k i) (hlt : r.issued < 2 ^ 32) : r.requestId = r.issued := by
  rw [Registry.requestId, Nat.mod_eq_of_lt hlt]
  exact max_eq_left h.positive

theorem plainRequest (h : Good r k i) (hlt : r.issued < 2 ^ 32) (refusal : Nat → Option String)
    (id : Nat) (message : Nat → ControlMessage) (hvolume : ∀ n, (message n).volumeRequest = none)
    (hrequest : ∀ n q, (message n).deviceRequest = some q → q = n) :
    Good (r.plainRequest refusal id message).2 k i := by
  rcases r.plainRequest_cases refusal id message with ⟨e, heq⟩ | heq
  · rw [heq]
    exact h.drawn _ (Nat.le_succ _)
  · rw [heq, h.requestId_eq hlt]
    refine h.modify _ (Nat.le_succ _) id _ (fun receiver link hlinked => ?_)
    refine hlinked.append (hvolume _) ?_ (Nat.le_succ _)
    intro q hq _
    rw [hrequest _ q hq]
    exact ⟨le_rfl, Nat.lt_succ_self _⟩

theorem volumeRequest (h : Good r k i) (hlt : r.issued < 2 ^ 32) (refusal : Nat → Option String)
    (id index : Nat) (purpose : VolumePurpose) :
    Good (r.volumeRequest refusal id index purpose).2 k i := by
  rw [Registry.volumeRequest]
  rcases r.volumeRequestWithBarrier_cases refusal id index purpose false with ⟨e, heq⟩ | heq
  · rw [heq]
    exact h.drawn _ (Nat.le_succ _)
  · rw [heq, h.requestId_eq hlt]
    refine h.modify _ (Nat.le_succ _) id _ (fun receiver link hlinked => ?_)
    exact hlinked.queueVolume (h.panels id) (Nat.one_le_iff_ne_zero.mp h.positive) _ _ false

theorem broadcast (h : Good r k i) (refusal : Nat → Option String) {message : ControlMessage}
    (hvolume : message.volumeRequest = none)
    (hrequest : ∀ q, message.deviceRequest = some q → q = 0) :
    Good (r.broadcast refusal message) k i := by
  refine h.mapValues r.issued le_rfl _ ?_
  intro id receiver link hlinked
  split_ifs
  · refine hlinked.append hvolume ?_ le_rfl
    intro q hq hne
    exact absurd (hrequest q hq) hne
  · exact hlinked

/-- A panel request joins the queue and is noted. -/
theorem panelRequest (h : Good r k i) (hlt : r.issued < 2 ^ 32) {refusal : Nat → Option String}
    {id index request : Nat}
    (hok : (r.panelVolumeRequest refusal id index).1 = .ok request) :
    Good (r.panelVolumeRequest refusal id index).2 k (i ++ [.panel id request]) := by
  rw [Registry.panelVolumeRequest] at hok ⊢
  rcases r.volumeRequestWithBarrier_cases refusal id index .restoreSpeaker true with
    ⟨e, heq⟩ | heq
  · rw [heq] at hok
    cases hok
  · rw [heq, Except.ok.injEq] at hok
    rw [heq, ← hok, h.requestId_eq hlt]
    have hle : r.issued ≤ r.issued + 1 := Nat.le_succ _
    refine ⟨h.positive.trans hle, ?_, ?_, ?_⟩
    · intro id' p hp
      rcases List.mem_append.mp hp with hp | hp
      · exact lt_of_lt_of_le (h.panels id' p hp) hle
      · cases List.mem_singleton.mp hp
        exact Nat.lt_succ_self _
    · intro before id' volume queued after hsplit
      rcases concat_eq_append_cons hsplit with ⟨_, _, hlast⟩ | ⟨earlier, _, hearlier⟩
      · cases hlast
      · exact h.adopted before id' volume queued earlier hearlier
    · intro id' receiver' hreceiver'
      rw [Registry.requested, SortedMap.get?_modify] at hreceiver'
      split_ifs at hreceiver' with hid
      · subst hid
        rw [Option.map_eq_some_iff] at hreceiver'
        obtain ⟨receiver, hreceiver, rfl⟩ := hreceiver'
        obtain ⟨link, hlink, hlinked⟩ := h.linked id' receiver hreceiver
        exact ⟨link, hlink, hlinked.queueVolume (h.panels id')
          (Nat.one_le_iff_ne_zero.mp h.positive) index .restoreSpeaker true⟩
      · obtain ⟨link, hlink, hlinked⟩ := h.linked id' receiver' hreceiver'
        refine ⟨link, hlink, hlinked.mono hle (fun p => ?_) (List.Subset.refl _)⟩
        rw [List.mem_append, List.mem_singleton]
        refine or_iff_left (fun heq => hid ?_)
        cases heq
        rfl

/-- A volume that a tick takes over is noted. -/
theorem adopts (h : Good r k i) {id volume : Nat}
    (htaken : (r.takeUnsolicitedVolume id).1 = some volume) :
    Good (r.takeUnsolicitedVolume id).2 k
      (i ++ [.adopted id volume ((r.takeUnsolicitedVolume id).2.queuedTo id)]) := by
  simp only [Registry.takeUnsolicitedVolume, Option.bind_eq_some_iff] at htaken
  obtain ⟨receiver, hreceiver, hvolume⟩ := htaken
  obtain ⟨link, hlink, hlinked⟩ := h.linked id receiver hreceiver
  have hqueued : (r.takeUnsolicitedVolume id).2.queuedTo id = receiver.controls := by
    simp only [Registry.queuedTo, Registry.takeUnsolicitedVolume, SortedMap.get?_modify,
      hreceiver, if_pos, Option.map_some, Option.getD_some]
  have hgood : Good (r.takeUnsolicitedVolume id).2 k i :=
    h.modify r.issued le_rfl id _ (fun receiver link hlinked => hlinked.taken)
  have hmem : ∀ id' p, .panel id' p ∈
      i ++ [.adopted id volume ((r.takeUnsolicitedVolume id).2.queuedTo id)] ↔
        .panel id' p ∈ i := by
    intro id' p
    simp only [List.mem_append, List.mem_singleton, reduceCtorEq, or_false]
  refine ⟨hgood.positive, fun id' p hp => hgood.panels id' p ((hmem id' p).mp hp), ?_, ?_⟩
  · intro before id' volume' queued after hsplit
    rcases concat_eq_append_cons hsplit with ⟨_, hbefore, hlast⟩ | ⟨earlier, _, hearlier⟩
    · obtain ⟨rfl, rfl, hq⟩ := Incident.adopted.inj hlast
      rw [hqueued] at hq
      obtain ⟨e, he, hid, hvol, hseen⟩ := hlinked.unsolicited volume hvolume
      refine ⟨e, he, hid, hvol, fun p hp hs => hseen p ⟨?_, ?_⟩⟩
      · rw [hbefore]
        exact hp
      · rw [hq]
        exact hs
    · exact h.adopted before id' volume' queued earlier hearlier
  · intro id' receiver' hreceiver'
    obtain ⟨link', hlink', hlinked'⟩ := hgood.linked id' receiver' hreceiver'
    exact ⟨link', hlink', hlinked'.mono le_rfl (hmem id') (List.Subset.refl _)⟩

/-- The connections change together with the registry. -/
theorem relink (h : Good r k i) {r' : Registry} {k' : Links} (hissued : r'.issued = r.issued)
    (hdelivered : k.delivered ⊆ k'.delivered) (id : Nat)
    (hreceivers : ∀ id', id' ≠ id → r'.receivers.get? id' = r.receivers.get? id')
    (hlinks : ∀ id', id' ≠ id → k'.links.get? id' = k.links.get? id')
    (hlinked : ∀ receiver', r'.receivers.get? id = some receiver' →
      ∃ link', k'.links.get? id = some link' ∧
        Linked r.issued i k'.delivered id receiver' link') :
    Good r' k' i := by
  refine ⟨?_, ?_, ?_, ?_⟩
  · rw [hissued]
    exact h.positive
  · rw [hissued]
    exact h.panels
  · intro before id' volume queued after hsplit
    obtain ⟨e, he, hrest⟩ := h.adopted before id' volume queued after hsplit
    exact ⟨e, hdelivered he, hrest⟩
  · intro id' receiver' hreceiver'
    rw [hissued]
    by_cases hid : id' = id
    · subst hid
      exact hlinked receiver' hreceiver'
    · rw [hreceivers id' hid] at hreceiver'
      obtain ⟨link, hlink, hl⟩ := h.linked id' receiver' hreceiver'
      exact ⟨link, (hlinks id' hid).trans hlink, hl.mono le_rfl (fun _ => Iff.rfl) hdelivered⟩

theorem connect (h : Good r k i) :
    Good r.register { k with links := k.links.insert r.nextId .fresh } i := by
  refine h.relink rfl (List.Subset.refl _) r.nextId
    (fun id' hid => SortedMap.get?_insert_ne _ _ hid)
    (fun id' hid => SortedMap.get?_insert_ne _ _ hid) ?_
  intro receiver' hreceiver'
  rw [Registry.register, SortedMap.get?_insert_self] at hreceiver'
  cases hreceiver'
  refine ⟨.fresh, SortedMap.get?_insert_self _ _ _, Linked.fresh ?_⟩
  rintro p ⟨_, _, hmem⟩
  exact absurd hmem List.not_mem_nil

theorem disconnect (h : Good r k i) (id : Nat) :
    Good (r.remove id) { k with links := k.links.erase id } i := by
  have hdenied : Good r.denyAll k i :=
    h.mapValues r.issued le_rfl _
      (fun _ _ _ hlinked => hlinked.of_eq rfl rfl rfl rfl rfl rfl)
  rw [Registry.remove]
  split_ifs with hcontains
  · refine hdenied.relink rfl (List.Subset.refl _) id ?_ ?_ ?_
    · intro id' hid
      rw [SortedMap.get?_mapValues, SortedMap.get?_erase, if_neg hid, Registry.denyAll,
        SortedMap.get?_mapValues]
    · intro id' hid
      rw [SortedMap.get?_erase, if_neg hid]
    · intro receiver' hreceiver'
      rw [SortedMap.get?_mapValues, SortedMap.get?_erase_self] at hreceiver'
      cases hreceiver'
  · refine h.relink rfl (List.Subset.refl _) id (fun _ _ => rfl) ?_ ?_
    · intro id' hid
      rw [SortedMap.get?_erase, if_neg hid]
    · intro receiver' hreceiver'
      exact absurd ((SortedMap.contains_eq_true_iff _ _).mpr ⟨_, hreceiver'⟩) hcontains

theorem process (h : Good r k i) (id : Nat) (reply : DeviceStatus) :
    Good (Links.react (r, k) (.process id reply)).1 (Links.react (r, k) (.process id reply)).2
      i := by
  simp only [Links.react]
  split
  · rename_i receiver link hreceiver hlink
    split
    · rename_i command rest hnext
      refine h.relink rfl (List.Subset.refl _) id (fun _ _ => rfl)
        (fun id' hid => SortedMap.get?_insert_ne _ _ hid) ?_
      intro receiver' hreceiver'
      rw [hreceiver] at hreceiver'
      cases hreceiver'
      obtain ⟨link', hlink', hlinked⟩ := h.linked id receiver hreceiver
      rw [hlink] at hlink'
      cases hlink'
      exact ⟨_, SortedMap.get?_insert_self _ _ _, hlinked.process hnext reply⟩
    · exact h
  · exact h

theorem notice (h : Good r k i) (id : Nat) (status : DeviceStatus) :
    Good (Links.react (r, k) (.notice id status)).1 (Links.react (r, k) (.notice id status)).2
      i := by
  simp only [Links.react]
  split
  · rename_i link hlink
    refine h.relink rfl (List.Subset.refl _) id (fun _ _ => rfl)
      (fun id' hid => SortedMap.get?_insert_ne _ _ hid) ?_
    intro receiver hreceiver
    obtain ⟨link', hlink', hlinked⟩ := h.linked id receiver hreceiver
    rw [hlink] at hlink'
    cases hlink'
    exact ⟨_, SortedMap.get?_insert_self _ _ _, hlinked.notice status⟩
  · exact h

theorem deliver (h : Good r k i) (id : Nat) :
    Good (Links.react (r, k) (.deliver id)).1 (Links.react (r, k) (.deliver id)).2 i := by
  simp only [Links.react]
  split
  · rename_i receiver link hreceiver hlink
    split
    · rename_i emission rest hflight
      have hissued : (r.updateDevice id emission.status).issued = r.issued := by
        rw [Registry.updateDevice]
        split_ifs
        · rfl
        · rfl
      refine h.relink hissued (List.subset_append_left _ _) id ?_
        (fun id' hid => SortedMap.get?_insert_ne _ _ hid) ?_
      · intro id' hid
        rw [Registry.get?_updateDevice, if_neg hid]
      · intro receiver' hreceiver'
        rw [Registry.get?_updateDevice, if_pos rfl, hreceiver] at hreceiver'
        cases hreceiver'
        obtain ⟨link', hlink', hlinked⟩ := h.linked id receiver hreceiver
        rw [hlink] at hlink'
        cases hlink'
        exact ⟨_, SortedMap.get?_insert_self _ _ _, hlinked.deliver hflight⟩
    · exact h
  · exact h

end Good

/-- The invariant until the counter of request ids wraps. -/
def GoodUntilWrap (r : Registry) (k : Links) (i : List Incident) : Prop :=
  r.issued ≤ 2 ^ 32 → Good r k i

theorem internal_broadcast {message : ControlMessage} {refusal : Nat → Option String}
    (h : (RegistryEvent.broadcast message refusal).internal = true) :
    message.volumeRequest = none ∧ ∀ q, message.deviceRequest = some q → q = 0 := by
  simp only [RegistryEvent.internal] at h
  split at h
  · cases h
  · cases h
  · cases h
  · rename_i heq
    cases heq
    exact ⟨rfl, fun q hq => by cases hq⟩
  · rename_i heq
    cases heq
    exact ⟨rfl, fun q hq => (Option.some.inj hq).symm⟩
  · cases h
  · rename_i hother
    exact (hother _ _ rfl).elim

/-- The other threads. -/
theorem Good.internal {r : Registry} {k : Links} {i : List Incident} (h : Good r k i)
    {e : RegistryEvent} (he : e.internal = true) (hwrap : (r.react e).issued ≤ 2 ^ 32) :
    Good (r.react e) k i := by
  cases e with
  | register =>
      cases he
  | remove id =>
      cases he
  | updateDevice id status =>
      cases he
  | updateTone id request playing failed =>
      simp only [Registry.react, Registry.updateTone]
      split_ifs
      · exact h
      · exact h.modify r.issued le_rfl id _
          (fun _ _ hlinked => hlinked.of_eq rfl rfl rfl rfl rfl rfl)
  | query id refusal =>
      rw [Registry.react, Registry.queryRequest, Registry.plainRequest_issued] at hwrap
      exact h.plainRequest hwrap refusal id _ (fun _ => rfl)
        (fun _ _ hq => (Option.some.inj hq).symm)
  | requestVolume id index purpose refusal =>
      rw [Registry.react, Registry.volumeRequest,
        Registry.volumeRequestWithBarrier_issued] at hwrap
      exact h.volumeRequest hwrap refusal id index purpose
  | requestCalibration id action refusal =>
      rw [Registry.react, Registry.calibrationRequest, Registry.plainRequest_issued] at hwrap
      exact h.plainRequest hwrap refusal id _ (fun _ => rfl)
        (fun _ _ hq => (Option.some.inj hq).symm)
  | requestTone id enabled refusal =>
      rw [Registry.react, Registry.toneRequest, Registry.plainRequest_issued] at hwrap
      exact h.plainRequest hwrap refusal id _ (fun _ => rfl) (fun _ _ hq => by cases hq)
  | broadcast message refusal =>
      obtain ⟨hvolume, hrequest⟩ := internal_broadcast he
      exact h.broadcast refusal hvolume hrequest
  | takeReply id request =>
      exact h.modify r.issued le_rfl id _
        (fun _ _ hlinked => hlinked.of_eq rfl rfl rfl rfl rfl rfl)
  | takeToneReply id request =>
      exact h.modify r.issued le_rfl id _
        (fun _ _ hlinked => hlinked.of_eq rfl rfl rfl rfl rfl rfl)

/-- Request ids are only ever drawn. -/
theorem react_issued (r : Registry) (e : RegistryEvent) : r.issued ≤ (r.react e).issued := by
  cases e with
  | register =>
      exact le_rfl
  | remove id =>
      simp only [Registry.react, Registry.remove]
      split_ifs
      · exact le_rfl
      · exact le_rfl
  | updateDevice id status =>
      simp only [Registry.react, Registry.updateDevice]
      split_ifs
      · exact le_rfl
      · exact le_rfl
  | updateTone id request playing failed =>
      simp only [Registry.react, Registry.updateTone]
      split_ifs
      · exact le_rfl
      · exact le_rfl
  | query id refusal =>
      exact (Nat.le_succ _).trans_eq (r.plainRequest_issued refusal id _).symm
  | requestVolume id index purpose refusal =>
      exact (Nat.le_succ _).trans_eq
        (r.volumeRequestWithBarrier_issued refusal id index purpose false).symm
  | requestCalibration id action refusal =>
      exact (Nat.le_succ _).trans_eq (r.plainRequest_issued refusal id _).symm
  | requestTone id enabled refusal =>
      exact (Nat.le_succ _).trans_eq (r.plainRequest_issued refusal id _).symm
  | broadcast message refusal =>
      exact le_rfl
  | takeReply id request =>
      exact le_rfl
  | takeToneReply id request =>
      exact le_rfl

theorem links_react_issued (r : Registry) (k : Links) (e : LinkEvent) :
    r.issued ≤ (Links.react (r, k) e).1.issued := by
  cases e with
  | connect =>
      exact le_rfl
  | disconnect id =>
      exact react_issued r (.remove id)
  | process id reply =>
      simp only [Links.react]
      split
      · split
        · exact le_rfl
        · exact le_rfl
      · exact le_rfl
  | notice id status =>
      simp only [Links.react]
      split
      · exact le_rfl
      · exact le_rfl
  | deliver id =>
      simp only [Links.react]
      split
      · split
        · exact react_issued r (.updateDevice id _)
        · exact le_rfl
      · exact le_rfl
  | internal e =>
      simp only [Links.react]
      split_ifs
      · exact react_issued r e
      · exact le_rfl

theorem links_react_good {r : Registry} {k : Links} {i : List Incident}
    (h : GoodUntilWrap r k i) (e : LinkEvent) :
    GoodUntilWrap (Links.react (r, k) e).1 (Links.react (r, k) e).2 i := by
  intro hwrap
  have hgood := h ((links_react_issued r k e).trans hwrap)
  cases e with
  | connect =>
      exact hgood.connect
  | disconnect id =>
      exact hgood.disconnect id
  | process id reply =>
      exact hgood.process id reply
  | notice id status =>
      exact hgood.notice id status
  | deliver id =>
      exact hgood.deliver id
  | internal e =>
      simp only [Links.react] at hwrap ⊢
      split_ifs at hwrap ⊢ with he
      · exact hgood.internal he hwrap
      · exact hgood

/-- Every call keeps the invariant. -/
theorem goodUntilWrap_rules : World.TickRules Links.react GoodUntilWrap where
  environment := fun _ _ _ e h => links_react_good h e
  denyAll := fun r k i h hwrap => (h hwrap).mapValues r.issued le_rfl _
    (fun _ _ _ hlinked => hlinked.of_eq rfl rfl rfl rfl rfl rfl)
  silence := fun r k i refusal h hwrap => (h hwrap).broadcast refusal rfl
    (fun q hq => by cases hq)
  cancel := fun r k i refusal h hwrap => (h hwrap).broadcast refusal rfl
    (fun q hq => (Option.some.inj hq).symm)
  restore := by
    intro r k i refusal id index h hwrap
    rw [Registry.restoreVolumeRequest, Registry.volumeRequest,
      Registry.volumeRequestWithBarrier_issued] at hwrap
    exact (h ((Nat.le_succ _).trans hwrap)).volumeRequest hwrap refusal id index .restoreSpeaker
  panel := by
    intro r k i refusal id index request hok h hwrap
    rw [Registry.panelVolumeRequest, Registry.volumeRequestWithBarrier_issued] at hwrap
    exact (h ((Nat.le_succ _).trans hwrap)).panelRequest hwrap hok
  panelRefused := by
    intro r k i refusal id index e hrefused h hwrap
    rw [Registry.panelVolumeRequest] at hrefused hwrap ⊢
    rw [Registry.volumeRequestWithBarrier_issued] at hwrap
    rcases r.volumeRequestWithBarrier_cases refusal id index .restoreSpeaker true with
      ⟨e', heq⟩ | heq
    · rw [heq]
      exact (h ((Nat.le_succ _).trans hwrap)).drawn _ (Nat.le_succ _)
    · rw [heq] at hrefused
      cases hrefused
  takeReply := fun r k i id request h hwrap => (h hwrap).modify r.issued le_rfl id _
    (fun _ _ hlinked => hlinked.of_eq rfl rfl rfl rfl rfl rfl)
  stored := fun r k i id volume h hwrap => (h hwrap).noted (fun _ _ heq => nomatch heq)
    (fun _ _ _ heq => nomatch heq)
  approve := fun r k i expected h hwrap => (h hwrap).mapValues r.issued le_rfl _
    (fun _ _ _ hlinked => hlinked.of_eq rfl rfl rfl rfl rfl rfl)
  takeUnsolicited := fun r k i id h hwrap => (h hwrap).modify r.issued le_rfl id _
    (fun _ _ hlinked => hlinked.taken)
  confirmed := fun r k i id volume h hwrap => (h hwrap).noted (fun _ _ heq => nomatch heq)
    (fun _ _ _ heq => nomatch heq)

theorem goodUntilWrap_adopts : World.AdoptRule GoodUntilWrap :=
  fun _ _ _ _ _ htaken h hwrap => (h hwrap).adopts htaken

namespace World

/-- The successful answer to the last panel request has arrived, nothing but
answers came after it, and a report of the phone comes next. -/
structure Answered (w : World Links LinkEvent) (id : Nat) (receiver : Receiver) (link : Link)
    (before : List Delivery) (reply : Delivery) (log : List Delivery) (report : Emission) :
    Prop where
  registered : w.registry.receivers.get? id = some receiver
  connected : w.outside.links.get? id = some link
  arrived : link.log = before ++ reply :: log
  panel : Panel w.incidents id receiver reply.emission.status.requestId
  newest : ∀ p, Panel w.incidents id receiver p → p ≤ reply.emission.status.requestId
  successful : reply.emission.status.failed = false
  few : reply.outstanding < 32
  only : OnlyReplies reply.emission.status log
  next : ∃ rest, link.inFlight = report :: rest
  unasked : report.status.requestId = 0
  healthy : report.status.healthy = true
  sameDevice : report.status.sanitized.sameDevice reply.emission.status.sanitized = true

/-- The invariant holds along every run. -/
theorem reached_goodUntilWrap (encode : Library → List UInt8)
    (decode : List UInt8 → Except String (Library × List UInt8)) (file : ProfileFile)
    (now : Nat) (es : List (WorldEvent LinkEvent)) :
    (run (step Links.react encode) (start LinkEvent decode file Links.start now) es).Holds
      GoodUntilWrap := by
  refine run_preserves (fun w : World Links LinkEvent => w.Holds GoodUntilWrap)
    (fun w e hw => step_holds encode goodUntilWrap_rules goodUntilWrap_adopts hw e) ?_ es
  intro _
  refine ⟨le_rfl, fun id p hp => absurd hp List.not_mem_nil, ?_, fun id receiver h => ?_⟩
  · intro before id volume queued after hsplit
    have hlength := congrArg List.length hsplit
    simp [start] at hlength
  · cases h

/-- **The panel barrier.**  In every run, as long as the request ids do not wrap:
a tick takes over a volume only from a status with the request id zero that the
phone sent after it had processed all panel requests issued on the connection;
and after the answer to the last panel request the next report of the phone is
taken for physical input if its volume differs from that of the last answer to a
volume request. -/
theorem adopted_volumes_are_new_input (encode : Library → List UInt8)
    (decode : List UInt8 → Except String (Library × List UInt8)) (file : ProfileFile)
    (now : Nat) (es : List (WorldEvent LinkEvent)) :
    let w := run (step Links.react encode) (start LinkEvent decode file Links.start now) es
    w.registry.issued ≤ 2 ^ 32 →
    (∀ before id volume queued after,
      w.incidents = before ++ .adopted id volume queued :: after →
      ∃ e, (id, e) ∈ w.outside.delivered ∧ e.status.requestId = 0 ∧ e.status.volume = volume ∧
        ∀ p, .panel id p ∈ before → Seen p queued → Seen p e.processed) ∧
    (∀ id receiver link before reply log report,
      w.Answered id receiver link before reply log report →
      reply.emission.status.consistent = true → report.status.consistent = true →
      report.status.volume ≠ lastReply reply.emission.status.volume log →
      ((w.step Links.react encode (.environment (.deliver id))).registry.takeUnsolicitedVolume
        id).1 = some report.status.volume) := by
  intro w hwrap
  have hgood : Good w.registry w.outside w.incidents :=
    reached_goodUntilWrap encode decode file now es hwrap
  refine ⟨hgood.adopted, ?_⟩
  intro id receiver link before reply log report h hreply hreport hother
  obtain ⟨link', hlink', hlinked⟩ := hgood.linked id receiver h.registered
  rw [h.connected] at hlink'
  cases hlink'
  obtain ⟨rest, hflight⟩ := h.next
  obtain ⟨hbarrier, hobserved, hdevice⟩ := hlinked.recorded before reply log h.arrived h.panel
    h.newest hreply h.successful h.few h.only
  have hrecorded := Linked.report_recorded hbarrier hobserved hdevice h.sameDevice hreport
    h.unasked h.healthy hother
  simp only [step, Links.react, h.registered, h.connected, hflight, Registry.takeUnsolicitedVolume,
    Registry.get?_updateDevice, if_pos, Option.map_some, Option.bind_some]
  exact hrecorded

/-- A status of the master of `roomProfile`. -/
def mainStatus (request volume : Nat) : DeviceStatus where
  requestId := request
  deviceId := "main"
  name := "Main"
  volume := volume
  minimum := 0
  maximum := 15
  fixed := false
  speaker := true
  failed := false

/-- A volume is set on the panel, and the phone's answer says `volume`. -/
def answeredPanel (volume : Nat) : List (WorldEvent LinkEvent) :=
  [.environment .connect, .environment (.notice 0 (mainStatus 0 3)), .environment (.deliver 0),
    .operation (.setVolume 7) [] none, .environment (.process 0 (mainStatus 0 volume)),
    .environment (.deliver 0)]

/-- A key press after a panel request. -/
def keyPress : List (WorldEvent LinkEvent) :=
  answeredPanel 7 ++
    [.operation .tick [] none, .environment (.notice 0 (mainStatus 0 9)),
      .environment (.deliver 0), .operation .tick [] none]

theorem adopted_volumes_are_new_input_keyPress :
    let w := run (step Links.react Library.encode)
      (start LinkEvent Library.decode roomFile Links.start 0) keyPress
    w.registry.issued ≤ 2 ^ 32 ∧
      ∃ e, (0, e) ∈ w.outside.delivered ∧ e.status.volume = 9 ∧ Seen 1 e.processed := by
  intro w
  have hwrap : w.registry.issued ≤ 2 ^ 32 := by decide +kernel
  have hincidents : w.incidents = [.panel 0 1, .confirmed 1 7] ++
      .adopted 0 9 [.setVolume 1 7 .restoreSpeaker] :: [.confirmed 1 9] := by decide +kernel
  refine ⟨hwrap, ?_⟩
  obtain ⟨e, he, _, hvolume, hseen⟩ :=
    (adopted_volumes_are_new_input Library.encode Library.decode roomFile 0 keyPress hwrap).1
      _ _ _ _ _ hincidents
  exact ⟨e, he, hvolume, hseen 1 List.mem_cons_self
    ⟨7, .restoreSpeaker, List.mem_singleton_self _⟩⟩

/-- The window then asks for another volume, and the phone reports the same one
once more. -/
def laterAnswer : List (WorldEvent LinkEvent) :=
  answeredPanel 7 ++
    [.environment (.internal (.requestVolume 0 5 .user (fun _ => none))),
      .environment (.process 0 (mainStatus 0 5)), .environment (.deliver 0),
      .environment (.notice 0 (mainStatus 0 5))]

/-- The answer claims a volume outside its own range, and is dropped. -/
def droppedAnswer : List (WorldEvent LinkEvent) :=
  answeredPanel 20 ++ [.environment (.notice 0 (mainStatus 0 9))]

/-- The volume of the answer alone does not tell which reports are taken. -/
theorem reports_hidden_by_other_answers :
    (∃ receiver link before reply log report,
      let w := run (step Links.react Library.encode)
        (start LinkEvent Library.decode roomFile Links.start 0) laterAnswer
      w.registry.issued ≤ 2 ^ 32 ∧ w.Answered 0 receiver link before reply log report ∧
      report.status.volume ≠ reply.emission.status.volume ∧
      ((w.step Links.react Library.encode
        (.environment (.deliver 0))).registry.takeUnsolicitedVolume 0).1 = none) ∧
    (∃ receiver link before reply log report,
      let w := run (step Links.react Library.encode)
        (start LinkEvent Library.decode roomFile Links.start 0) droppedAnswer
      w.registry.issued ≤ 2 ^ 32 ∧ w.Answered 0 receiver link before reply log report ∧
      report.status.volume ≠ reply.emission.status.volume ∧
      ((w.step Links.react Library.encode
        (.environment (.deliver 0))).registry.takeUnsolicitedVolume 0).1 = none) := by
  let first : ControlMessage := .setVolume 1 7 .restoreSpeaker
  let second : ControlMessage := .setVolume 2 5 .user
  let known : Delivery := ⟨⟨mainStatus 0 3, []⟩, 0, false⟩
  refine ⟨?_, ?_⟩
  · let w := run (step Links.react Library.encode)
      (start LinkEvent Library.decode roomFile Links.start 0) laterAnswer
    have hincidents : w.incidents = [.panel 0 1] := by decide +kernel
    have hcontrols : (w.registry.receivers.get? 0).map Receiver.controls =
        some [first, second] := by decide +kernel
    rw [Option.map_eq_some_iff] at hcontrols
    obtain ⟨receiver, hreceiver, hcontrols⟩ := hcontrols
    refine ⟨receiver, ⟨[first, second], [⟨mainStatus 0 5, [first, second]⟩],
        [known, ⟨⟨mainStatus 1 7, [first]⟩, 1, true⟩,
          ⟨⟨mainStatus 2 5, [first, second]⟩, 1, true⟩]⟩,
      [known], ⟨⟨mainStatus 1 7, [first]⟩, 1, true⟩,
      [⟨⟨mainStatus 2 5, [first, second]⟩, 1, true⟩], ⟨mainStatus 0 5, [first, second]⟩,
      by decide +kernel, ?_, by decide, by decide +kernel⟩
    refine ⟨hreceiver, by decide +kernel, rfl, ?_, ?_, rfl, by decide, ?_, ⟨[], rfl⟩, rfl, rfl,
      by decide⟩
    · exact ⟨by rw [hincidents]; exact List.mem_cons_self,
        7, .restoreSpeaker, by rw [hcontrols]; exact List.mem_cons_self⟩
    · rintro p ⟨hp, _⟩
      rw [hincidents, List.mem_singleton] at hp
      cases hp
      exact le_rfl
    · intro d hd
      rw [List.mem_singleton.mp hd]
      decide
  · let w := run (step Links.react Library.encode)
      (start LinkEvent Library.decode roomFile Links.start 0) droppedAnswer
    have hincidents : w.incidents = [.panel 0 1] := by decide +kernel
    have hcontrols : (w.registry.receivers.get? 0).map Receiver.controls =
        some [first] := by decide +kernel
    rw [Option.map_eq_some_iff] at hcontrols
    obtain ⟨receiver, hreceiver, hcontrols⟩ := hcontrols
    refine ⟨receiver, ⟨[first], [⟨mainStatus 0 9, [first]⟩],
        [known, ⟨⟨mainStatus 1 20, [first]⟩, 1, false⟩]⟩,
      [known], ⟨⟨mainStatus 1 20, [first]⟩, 1, false⟩, [], ⟨mainStatus 0 9, [first]⟩,
      by decide +kernel, ?_, by decide, by decide +kernel⟩
    refine ⟨hreceiver, by decide +kernel, rfl, ?_, ?_, rfl, by decide, ?_, ⟨[], rfl⟩, rfl, rfl,
      by decide⟩
    · exact ⟨by rw [hincidents]; exact List.mem_cons_self,
        7, .restoreSpeaker, by rw [hcontrols]; exact List.mem_cons_self⟩
    · rintro p ⟨hp, _⟩
      rw [hincidents, List.mem_singleton] at hp
      cases hp
      exact le_rfl
    · exact fun d hd => absurd hd List.not_mem_nil

end World

end Runs

end Soundwave

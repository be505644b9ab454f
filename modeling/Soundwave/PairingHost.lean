import Mathlib.Data.List.Destutter
import Soundwave.PairingUri

/-!
# The automatic pairing host

If neither a pairing host nor a specific bind address is given, `pairing.rs` chooses
among the addresses of the network adapters: the one of the best rank, if there is only
one.  What Windows reports about an adapter is data here, and so is the list that it
gives.

The candidates are sorted by rank and address, and of adjacent candidates with one
address the first is kept.  So a second candidate with the same address goes if it has
the same rank; one of another rank may stay, but not among the best.
-/

namespace Soundwave

section Dedup

/-! Adjacent duplicates, over any elements. -/

universe u v

variable {α : Type u} {κ : Type v} [DecidableEq κ]

/-- `dedup_by_key`: each element goes whose key is that of the last one kept. -/
def dedupByKey (key : α → κ) (l : List α) : List α :=
  l.destutter (fun a b => key a ≠ key b)

theorem map_dedupByKey (key : α → κ) (l : List α) :
    (dedupByKey key l).map key = (l.map key).destutter (· ≠ ·) :=
  List.map_destutter (fun _ _ _ _ => Iff.rfl)

/-- The first element is kept, and others of the list. -/
theorem destutter'_keeps_first {R : α → α → Prop} [DecidableRel R] (first : α) (l : List α) :
    ∃ kept, l.destutter' R first = first :: kept ∧ kept ⊆ l := by
  induction l generalizing first with
  | nil =>
      exact ⟨[], rfl, List.Subset.refl []⟩
  | cons a l ih =>
      by_cases hR : R first a
      · obtain ⟨kept, hkept, hsub⟩ := ih a
        refine ⟨a :: kept, ?_, List.cons_subset_cons a hsub⟩
        rw [List.destutter'_cons_pos _ hR, hkept]
      · obtain ⟨kept, hkept, hsub⟩ := ih first
        refine ⟨kept, ?_, fun x hx => List.mem_cons_of_mem a (hsub hx)⟩
        rw [List.destutter'_cons_neg _ hR, hkept]

/-- What is kept of the front does not depend on the rest. -/
theorem takeWhile_destutter' {R : α → α → Prop} [DecidableRel R] {p : α → Bool}
    {first : α} {front rest : List α} (hfirst : p first = true)
    (hfront : ∀ a ∈ front, p a = true) (hrest : ∀ a ∈ rest, p a = false) :
    ((front ++ rest).destutter' R first).takeWhile p = front.destutter' R first := by
  induction front generalizing first with
  | nil =>
      obtain ⟨kept, hkept, hsub⟩ := destutter'_keeps_first (R := R) first rest
      rw [List.nil_append, hkept, List.takeWhile_cons_of_pos hfirst, List.destutter'_nil]
      cases kept with
      | nil =>
          rfl
      | cons b kept =>
          have hb := hrest b (hsub List.mem_cons_self)
          rw [List.takeWhile_cons_of_neg (by rw [hb]; exact Bool.false_ne_true)]
  | cons a front ih =>
      have ha := hfront a List.mem_cons_self
      have hmore : ∀ x ∈ front, p x = true := fun x hx => hfront x (List.mem_cons_of_mem a hx)
      rw [List.cons_append]
      by_cases hR : R first a
      · rw [List.destutter'_cons_pos _ hR, List.destutter'_cons_pos _ hR,
          List.takeWhile_cons_of_pos hfirst, ih ha hmore]
      · rw [List.destutter'_cons_neg _ hR, List.destutter'_cons_neg _ hR, ih hfirst hmore]

/-- A list is split by a predicate that holds before every element where it holds. -/
theorem filter_append_filter_not {p : α → Bool} {l : List α}
    (h : l.Pairwise (fun a b => p b = true → p a = true)) :
    l.filter p ++ l.filter (fun a => !p a) = l := by
  induction l with
  | nil =>
      rfl
  | cons a l ih =>
      rw [List.pairwise_cons] at h
      by_cases ha : p a = true
      · rw [List.filter_cons_of_pos ha, List.filter_cons_of_neg (by simp [ha]), List.cons_append,
          ih h.2]
      · have hnone : l.filter p = [] := by
          rw [List.filter_eq_nil_iff]
          exact fun b hb hpb => ha (h.1 b hb hpb)
        have hall : l.filter (fun b => !p b) = l := by
          rw [List.filter_eq_self]
          intro b hb
          cases hpb : p b with
          | false =>
              rfl
          | true =>
              exact absurd (h.1 b hb hpb) ha
        rw [List.filter_cons_of_neg ha, List.filter_cons_of_pos (by simp [ha]), hnone, hall,
          List.nil_append]

end Dedup

section Candidates

/-- `to_bits`, which has the order of the addresses. -/
def Ipv4Addr.toBits (a : Ipv4Addr) : Nat :=
  a.first.toNat * 2 ^ 24 + a.second.toNat * 2 ^ 16 + a.third.toNat * 2 ^ 8 + a.fourth.toNat

theorem Ipv4Addr.toBits_injective {a b : Ipv4Addr} (h : a.toBits = b.toBits) : a = b := by
  obtain ⟨a1, a2, a3, a4⟩ := a
  obtain ⟨b1, b2, b3, b4⟩ := b
  simp only [toBits] at h
  have ha := And.intro a1.toNat_lt (And.intro a2.toNat_lt (And.intro a3.toNat_lt a4.toNat_lt))
  have hb := And.intro b1.toNat_lt (And.intro b2.toNat_lt (And.intro b3.toNat_lt b4.toNat_lt))
  rw [mk.injEq]
  exact ⟨UInt8.toNat_inj.mp (by omega), UInt8.toNat_inj.mp (by omega),
    UInt8.toNat_inj.mp (by omega), UInt8.toNat_inj.mp (by omega)⟩

/-- `AdapterCandidate`. -/
structure AdapterCandidate where
  address : Ipv4Addr
  rank : UInt8
deriving DecidableEq

namespace AdapterCandidate

/-- The order by rank and address. -/
def before (c d : AdapterCandidate) : Bool :=
  c.rank.toNat < d.rank.toNat || (c.rank = d.rank && c.address.toBits ≤ d.address.toBits)

theorem before_iff (c d : AdapterCandidate) :
    c.before d = true ↔ c.rank.toNat < d.rank.toNat ∨
      (c.rank.toNat = d.rank.toNat ∧ c.address.toBits ≤ d.address.toBits) := by
  simp only [before, Bool.or_eq_true, Bool.and_eq_true, decide_eq_true_eq, UInt8.toNat_inj]

theorem before_trans (a b c : AdapterCandidate) (hab : a.before b = true)
    (hbc : b.before c = true) : a.before c = true := by
  rw [before_iff] at hab hbc ⊢
  omega

theorem before_total (a b : AdapterCandidate) : (a.before b || b.before a) = true := by
  rw [Bool.or_eq_true, before_iff, before_iff]
  omega

/-- Two candidates with the same place in the order are equal. -/
theorem before_antisymm {a b : AdapterCandidate} (hab : a.before b = true)
    (hba : b.before a = true) : a = b := by
  rw [before_iff] at hab hba
  obtain ⟨address, rank⟩ := a
  obtain ⟨address', rank'⟩ := b
  rw [mk.injEq]
  exact ⟨Ipv4Addr.toBits_injective (by simp only at hab hba; omega),
    UInt8.toNat_inj.mp (by simp only at hab hba; omega)⟩

end AdapterCandidate

/-- `candidates.sort_unstable_by_key(..)`; candidates with equal keys are equal. -/
def sortCandidates (candidates : List AdapterCandidate) : List AdapterCandidate :=
  candidates.mergeSort AdapterCandidate.before

/-- What is read of an adapter: `OperStatus`, `IfType`, `TunnelType`, whether it has a
gateway, and what `ipv4_from_socket_address` finds in its unicast addresses. -/
structure Adapter where
  up : Bool
  softwareLoopback : Bool
  tunnel : Bool
  noTunnelType : Bool
  hasGateway : Bool
  unicast : List (Option Ipv4Addr)

/-- `is_private`. -/
def Ipv4Addr.isPrivate (a : Ipv4Addr) : Bool :=
  a.first = 10 || (a.first = 172 && 16 ≤ a.second && a.second ≤ 31) ||
    (a.first = 192 && a.second = 168)

/-- `adapter_has_private_ipv4`. -/
def Adapter.hasPrivateIpv4 (adapter : Adapter) : Bool :=
  adapter.unicast.any (fun unicast =>
    unicast.any (fun address => address.isPrivate && isUsablePairingAddress address))

/-- The rank of the addresses of an adapter. -/
def Adapter.rank (adapter : Adapter) : UInt8 :=
  match adapter.hasGateway, adapter.hasPrivateIpv4 with
  | true, true => 0
  | true, false => 1
  | false, true => 2
  | false, false => 3

/-- `collect_adapter_candidates`. -/
def collectAdapterCandidates (adapters : List Adapter) : List AdapterCandidate :=
  adapters.flatMap (fun adapter =>
    if adapter.up && !adapter.softwareLoopback && !adapter.tunnel && adapter.noTunnelType then
      adapter.unicast.filterMap (fun unicast =>
        unicast.bind (fun address =>
          if isUsablePairingAddress address then
            some { address := address, rank := adapter.rank }
          else
            none))
    else
      [])

/-- `select_automatic_pairing_host`; `enumerated` is what `enumerate_adapter_candidates`
returns. -/
def selectAutomaticPairingHost (enumerated : Except PairingError (List AdapterCandidate)) :
    Except PairingError Ipv4Addr := do
  let candidates ← enumerated
  let candidates := dedupByKey AdapterCandidate.address (sortCandidates candidates)
  match candidates.head? with
  | none => .error .noCandidate
  | some best =>
      let equallyRanked := candidates.takeWhile (fun candidate => candidate.rank = best.rank)
      if equallyRanked.length = 1 then
        .ok best.address
      else
        .error (.ambiguousCandidates (equallyRanked.map AdapterCandidate.address))

/-- An address that has the least rank of the list. -/
def BestAddress (candidates : List AdapterCandidate) (address : Ipv4Addr) : Prop :=
  ∃ c ∈ candidates, c.address = address ∧ ∀ d ∈ candidates, c.rank.toNat ≤ d.rank.toNat

theorem sortCandidates_sorted (candidates : List AdapterCandidate) :
    (sortCandidates candidates).Pairwise (fun c d => c.before d = true) :=
  List.pairwise_mergeSort AdapterCandidate.before_trans AdapterCandidate.before_total candidates

theorem sortCandidates_perm (candidates : List AdapterCandidate) :
    (sortCandidates candidates).Perm candidates :=
  List.mergeSort_perm candidates AdapterCandidate.before

/-- The order of the enumeration is lost. -/
theorem sortCandidates_congr {candidates other : List AdapterCandidate}
    (h : candidates.Perm other) : sortCandidates candidates = sortCandidates other := by
  refine List.Perm.eq_of_pairwise ?_ (sortCandidates_sorted candidates)
    (sortCandidates_sorted other) ?_
  · exact fun a b _ _ hab hba => AdapterCandidate.before_antisymm hab hba
  · exact (sortCandidates_perm candidates).trans (h.trans (sortCandidates_perm other).symm)

variable {candidates : List AdapterCandidate} {first : AdapterCandidate}
variable {rest : List AdapterCandidate}

/-- The first candidate has the least rank. -/
theorem first_rank_le (hsorted : sortCandidates candidates = first :: rest)
    {c : AdapterCandidate} (hc : c ∈ candidates) : first.rank.toNat ≤ c.rank.toNat := by
  have hpairwise := sortCandidates_sorted candidates
  rw [hsorted, List.pairwise_cons] at hpairwise
  rw [← (sortCandidates_perm candidates).mem_iff, hsorted, List.mem_cons] at hc
  rcases hc with rfl | hc
  · exact Nat.le_refl _
  · have hbefore := hpairwise.1 c hc
    rw [AdapterCandidate.before_iff] at hbefore
    omega

/-- The best addresses are those of the candidates with the rank of the first. -/
theorem bestAddress_iff (hsorted : sortCandidates candidates = first :: rest) (a : Ipv4Addr) :
    BestAddress candidates a ↔
      ∃ c ∈ (first :: rest).filter (fun c => c.rank = first.rank), c.address = a := by
  have hmem : ∀ c, c ∈ first :: rest ↔ c ∈ candidates := by
    intro c
    rw [← hsorted]
    exact (sortCandidates_perm candidates).mem_iff
  constructor
  · rintro ⟨c, hc, haddress, hleast⟩
    refine ⟨c, List.mem_filter.mpr ⟨(hmem c).mpr hc, ?_⟩, haddress⟩
    have hle := hleast first ((hmem first).mp List.mem_cons_self)
    have hge := first_rank_le hsorted hc
    exact decide_eq_true (UInt8.toNat_inj.mp (Nat.le_antisymm hle hge))
  · rintro ⟨c, hc, haddress⟩
    obtain ⟨hc, hrank⟩ := List.mem_filter.mp hc
    refine ⟨c, (hmem c).mp hc, haddress, ?_⟩
    intro d hd
    rw [of_decide_eq_true hrank]
    exact first_rank_le hsorted hd

/-- **What is equally ranked**: every best address once. -/
theorem equallyRanked_addresses (hsorted : sortCandidates candidates = first :: rest) :
    ((dedupByKey AdapterCandidate.address (first :: rest)).takeWhile
      (fun c => c.rank = first.rank)).map AdapterCandidate.address =
      (((first :: rest).filter (fun c => c.rank = first.rank)).map
        AdapterCandidate.address).dedup := by
  have hpairwise := sortCandidates_sorted candidates
  rw [hsorted] at hpairwise
  have hfirst : decide (first.rank = first.rank) = true := decide_eq_true rfl
  -- Candidates with the rank of the first come before all others.
  have hclosed : rest.Pairwise (fun c d => decide (d.rank = first.rank) = true →
      decide (c.rank = first.rank) = true) := by
    rw [List.pairwise_cons] at hpairwise
    refine hpairwise.2.imp_of_mem ?_
    intro c d hc hd hcd hrank
    have hfc := hpairwise.1 c hc
    rw [AdapterCandidate.before_iff] at hfc hcd
    rw [of_decide_eq_true hrank] at hcd
    exact decide_eq_true (UInt8.toNat_inj.mp (by omega))
  have hsplit := filter_append_filter_not hclosed
  rw [List.filter_cons_of_pos (p := fun c : AdapterCandidate => c.rank = first.rank) hfirst]
  have hbest : ∀ c ∈ first :: rest.filter (fun c => decide (c.rank = first.rank)),
      c.rank = first.rank := by
    intro c hc
    rcases List.mem_cons.mp hc with rfl | hc
    · rfl
    · exact of_decide_eq_true (List.mem_filter.mp hc).2
  have hordered : ((first :: rest.filter (fun c => decide (c.rank = first.rank))).map
      AdapterCandidate.address).Pairwise (fun a b => a.toBits ≤ b.toBits) := by
    rw [List.pairwise_map]
    refine (hpairwise.sublist (List.filter_sublist.cons_cons first)).imp_of_mem ?_
    intro c d hc hd hcd
    rw [AdapterCandidate.before_iff, hbest c hc, hbest d hd] at hcd
    omega
  have hantisymm : Std.Antisymm (fun a b : Ipv4Addr => a.toBits ≤ b.toBits) :=
    ⟨fun _ _ hab hba => Ipv4Addr.toBits_injective (Nat.le_antisymm hab hba)⟩
  have hfront : ∀ c ∈ rest.filter (fun c => decide (c.rank = first.rank)),
      decide (c.rank = first.rank) = true :=
    fun c hc => (List.mem_filter.mp hc).2
  have hback : ∀ c ∈ rest.filter (fun c => !decide (c.rank = first.rank)),
      decide (c.rank = first.rank) = false := by
    intro c hc
    simpa using (List.mem_filter.mp hc).2
  have hkept := takeWhile_destutter' (R := fun c d : AdapterCandidate => c.address ≠ d.address)
    hfirst hfront hback
  rw [hsplit] at hkept
  rw [dedupByKey, List.destutter_cons', hkept, ← List.destutter_cons']
  exact (map_dedupByKey AdapterCandidate.address _).trans hordered.destutter_eq_dedup

/-- The choice from a list that is not empty. -/
theorem selectAutomaticPairingHost_of_sorted (hsorted : sortCandidates candidates = first :: rest) :
    ∃ best : List Ipv4Addr, best.Nodup ∧ best.head? = some first.address ∧
      (∀ a, a ∈ best ↔ BestAddress candidates a) ∧
      selectAutomaticPairingHost (.ok candidates) =
        if best.length = 1 then .ok first.address else .error (.ambiguousCandidates best) := by
  have haddresses := equallyRanked_addresses hsorted
  obtain ⟨kept, hkept, _⟩ := destutter'_keeps_first
    (R := fun c d : AdapterCandidate => c.address ≠ d.address) first rest
  have hdedup : dedupByKey AdapterCandidate.address (first :: rest) = first :: kept := hkept
  have hhead : (first :: kept).takeWhile (fun c => decide (c.rank = first.rank)) =
      first :: kept.takeWhile (fun c => decide (c.rank = first.rank)) :=
    List.takeWhile_cons_of_pos (decide_eq_true rfl)
  refine ⟨((dedupByKey AdapterCandidate.address (first :: rest)).takeWhile
    (fun c => c.rank = first.rank)).map AdapterCandidate.address, ?_, ?_, ?_, ?_⟩
  · rw [haddresses]
    exact List.nodup_dedup _
  · rw [hdedup, hhead]
    rfl
  · intro a
    rw [haddresses, List.mem_dedup, bestAddress_iff hsorted, List.mem_map]
  · simp only [selectAutomaticPairingHost, bind, Except.bind, hsorted, hdedup, List.head?_cons,
      List.length_map]

end Candidates

section Choice

/-- A list without repetition has one element if it has the elements of a singleton. -/
theorem eq_singleton_iff_of_nodup {α : Type} {l : List α} (hnodup : l.Nodup) {P : α → Prop}
    (hmem : ∀ a, a ∈ l ↔ P a) (a : α) : l = [a] ↔ ∀ b, P b ↔ b = a := by
  constructor
  · rintro rfl b
    rw [← hmem, List.mem_singleton]
  · intro hunique
    refine List.perm_singleton.mp ((List.perm_ext_iff_of_nodup hnodup
      (List.nodup_singleton a)).mpr ?_)
    intro b
    rw [hmem, hunique, List.mem_singleton]

/-- The three outcomes. -/
inductive HostChoice (candidates : List AdapterCandidate) : Except PairingError Ipv4Addr → Prop
  | none (hnone : candidates = []) : HostChoice candidates (.error .noCandidate)
  | only (a : Ipv4Addr) (hunique : ∀ b, BestAddress candidates b ↔ b = a) :
      HostChoice candidates (.ok a)
  | several (addresses : List Ipv4Addr) (hsome : candidates ≠ [])
      (hseveral : ¬ ∃ a, ∀ b, BestAddress candidates b ↔ b = a)
      (hmem : ∀ a, a ∈ addresses ↔ BestAddress candidates a) (hnodup : addresses.Nodup) :
      HostChoice candidates (.error (.ambiguousCandidates addresses))

theorem select_outcome (candidates : List AdapterCandidate) :
    HostChoice candidates (selectAutomaticPairingHost (.ok candidates)) := by
  have hperm := sortCandidates_perm candidates
  cases hsorted : sortCandidates candidates with
  | nil =>
      rw [hsorted] at hperm
      obtain rfl := hperm.nil_eq
      have hselect : selectAutomaticPairingHost (.ok []) = .error .noCandidate := by
        simp only [selectAutomaticPairingHost, bind, Except.bind, hsorted]
        rfl
      rw [hselect]
      exact .none rfl
  | cons first rest =>
      obtain ⟨best, hnodup, hhead, hmem, hselect⟩ := selectAutomaticPairingHost_of_sorted hsorted
      rw [hselect]
      split_ifs with hlength
      · obtain ⟨a, rfl⟩ := List.length_eq_one_iff.mp hlength
        obtain rfl := Option.some.inj hhead
        exact .only _ ((eq_singleton_iff_of_nodup hnodup hmem _).mp rfl)
      · refine .several best ?_ ?_ hmem hnodup
        · rintro rfl
          rw [hsorted] at hperm
          exact absurd hperm.eq_nil (List.cons_ne_nil first rest)
        · rintro ⟨a, hunique⟩
          rw [(eq_singleton_iff_of_nodup hnodup hmem a).mpr hunique] at hlength
          exact hlength rfl

/-- **The choice of the host.**  It is the only address with the least rank; without
candidates and with more than one such address there is none, and the order of the
candidates does not matter. -/
theorem automatic_host_is_unique_best (candidates : List AdapterCandidate) :
    (∀ a, selectAutomaticPairingHost (.ok candidates) = .ok a ↔
      ∀ b, BestAddress candidates b ↔ b = a) ∧
    (selectAutomaticPairingHost (.ok candidates) = .error .noCandidate ↔ candidates = []) ∧
    ((∃ addresses, selectAutomaticPairingHost (.ok candidates) =
        .error (.ambiguousCandidates addresses)) ↔
      candidates ≠ [] ∧ ¬ ∃ a, ∀ b, BestAddress candidates b ↔ b = a) ∧
    (∀ other, candidates.Perm other →
      selectAutomaticPairingHost (.ok other) = selectAutomaticPairingHost (.ok candidates)) := by
  have houtcome := select_outcome candidates
  have hempty : ∀ a, ¬ BestAddress [] a := by
    rintro a ⟨c, hc, _⟩
    exact absurd hc List.not_mem_nil
  refine ⟨?_, ?_, ?_, ?_⟩
  · intro a
    generalize selectAutomaticPairingHost (.ok candidates) = outcome at houtcome
    cases houtcome with
    | none hnone =>
        subst hnone
        exact iff_of_false (fun h => by cases h) (fun h => hempty a ((h a).mpr rfl))
    | only b hunique =>
        constructor
        · intro h
          cases h
          exact hunique
        · intro h
          rw [(hunique a).mp ((h a).mpr rfl)]
    | several addresses hsome hseveral =>
        exact iff_of_false (fun h => by cases h) (fun h => hseveral ⟨a, h⟩)
  · generalize selectAutomaticPairingHost (.ok candidates) = outcome at houtcome
    cases houtcome with
    | none hnone =>
        exact iff_of_true rfl hnone
    | only b hunique =>
        refine iff_of_false (fun h => by cases h) ?_
        rintro rfl
        exact hempty b ((hunique b).mpr rfl)
    | several addresses hsome =>
        exact iff_of_false (fun h => by cases h) hsome
  · generalize selectAutomaticPairingHost (.ok candidates) = outcome at houtcome
    cases houtcome with
    | none hnone =>
        refine iff_of_false ?_ (fun h => h.1 hnone)
        rintro ⟨addresses, h⟩
        cases h
    | only b hunique =>
        refine iff_of_false ?_ (fun h => h.2 ⟨b, hunique⟩)
        rintro ⟨addresses, h⟩
        cases h
    | several addresses hsome hseveral =>
        exact iff_of_true ⟨addresses, rfl⟩ ⟨hsome, hseveral⟩
  · intro other hperm
    simp only [selectAutomaticPairingHost, bind, Except.bind, sortCandidates_congr hperm]

theorem usable_of_collected {adapters : List Adapter} {c : AdapterCandidate}
    (hc : c ∈ collectAdapterCandidates adapters) : isUsablePairingAddress c.address = true := by
  obtain ⟨adapter, _, hc⟩ := List.mem_flatMap.mp hc
  split_ifs at hc
  · obtain ⟨unicast, _, hc⟩ := List.mem_filterMap.mp hc
    obtain ⟨address, _, hc⟩ := Option.bind_eq_some_iff.mp hc
    split_ifs at hc with husable
    cases hc
    exact husable
  · exact absurd hc List.not_mem_nil

/-- **The server advertises usable addresses only**, also one that it has chosen. -/
theorem automatic_host_is_usable {adapters : List Adapter}
    {requestedBind actualEndpoint : SocketAddr} {fingerprint : Fingerprint} {info : PairingInfo}
    (hautomatic : requestedHost requestedBind none = none)
    (hresolved : resolvePairingInfo
      (selectAutomaticPairingHost (.ok (collectAdapterCandidates adapters))) requestedBind
      actualEndpoint none fingerprint = .ok info) :
    ∃ host, isUsablePairingAddress host = true ∧
      (∀ b, BestAddress (collectAdapterCandidates adapters) b ↔ b = host) ∧
      info.uri = encodePairingUri host actualEndpoint.port fingerprint := by
  have houtcome := select_outcome (collectAdapterCandidates adapters)
  rw [requestedHost] at hautomatic
  cases hip : requestedBind.ip with
  | v6 address =>
      simp only [resolvePairingInfo, hip] at hresolved
      cases hresolved
  | v4 address =>
      cases hunspecified : address.isUnspecified with
      | false =>
          simp [hip, hunspecified] at hautomatic
      | true =>
          simp only [resolvePairingInfo, hip, hunspecified] at hresolved
          generalize selectAutomaticPairingHost (.ok (collectAdapterCandidates adapters)) = outcome
            at houtcome hresolved
          cases houtcome with
          | none hnone =>
              cases hresolved
          | several addresses hsome hseveral hmem hnodup =>
              cases hresolved
          | only host hunique =>
              cases hresolved
              obtain ⟨c, hc, haddress, _⟩ := (hunique host).mpr rfl
              exact ⟨host, haddress ▸ usable_of_collected hc, hunique, rfl⟩

end Choice

end Soundwave

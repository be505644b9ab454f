import Soundwave.JitterLatency
import Soundwave.JitterTimeline

/-!
# Reordering within the jitter buffer's window

Packets `s`, `s + 1`, … arrive in another order, some of them more than once.  As
long as fewer than `targetPackets` later packets overtake any packet, and none by
more than `maxPackets` numbers, the buffer puts them back in order: nothing is
lost and no silence is inserted.

A packet's place in the stream is its `offset` from `s`.  The buffer holds exactly
the first copies that have arrived and were not yet emitted; when the draining loop
comes to a missing offset, what it holds has overtaken that offset, so it waits.
-/

namespace Soundwave

namespace JitterBuffer

section Arrivals

/-- The place of a packet in the stream that begins at `s`. -/
def offset (s : UInt32) (packet : AudioPacket) : Nat :=
  (packet.sequence - s).toNat

/-- The first arrival with an offset. -/
def firstCopy (s : UInt32) (arrivals : List AudioPacket) (i : Nat) : Option AudioPacket :=
  arrivals.find? (fun p => offset s p = i)

/-- The offsets beyond `i` that have arrived, each once. -/
def laterOffsets (s : UInt32) (arrivals : List AudioPacket) (i : Nat) : List Nat :=
  ((arrivals.map (offset s)).filter (i < ·)).dedup

/-- All offsets below `n` arrive.  When the first copy of a packet arrives, fewer
than `target` later packets have overtaken it, none by more than `maximum`. -/
structure Reordered (s : UInt32) (target maximum n : Nat) (arrivals : List AudioPacket) :
    Prop where
  within : ∀ p ∈ arrivals, offset s p < n
  complete : ∀ i < n, ∃ p ∈ arrivals, offset s p = i
  overtaken : ∀ before p after, arrivals = before ++ p :: after →
    (∀ q ∈ before, offset s q ≠ offset s p) →
      (laterOffsets s before (offset s p)).length < target ∧
        ∀ q ∈ before, offset s q ≤ offset s p + maximum

theorem serial_toNat (s : UInt32) : serial s.toNat = s := by
  rw [serial, UInt32.ofNat_toNat]

/-- The offset of the sequence `i` places behind `s`. -/
theorem toNat_serial_sub (s : UInt32) {i : Nat} (h : i < 2 ^ 32) :
    (serial (s.toNat + i) - s).toNat = i := by
  have hsub := toNat_serial_sub_of_le (Nat.le_add_right s.toNat i) (Nat.add_lt_add_left h s.toNat)
  rw [serial_toNat] at hsub
  omega

theorem serial_offset (s k : UInt32) : serial (s.toNat + (k - s).toNat) = k := by
  have h := serial_add_toNat_sub s.toNat k
  rw [serial_toNat] at h
  exact h

theorem firstCopy_eq_none_iff {s : UInt32} {arrivals : List AudioPacket} {i : Nat} :
    firstCopy s arrivals i = none ↔ ∀ p ∈ arrivals, offset s p ≠ i := by
  simp [firstCopy, List.find?_eq_none]

theorem firstCopy_mem {s : UInt32} {arrivals : List AudioPacket} {i : Nat} {p : AudioPacket}
    (h : firstCopy s arrivals i = some p) : p ∈ arrivals ∧ offset s p = i := by
  refine ⟨List.mem_of_find?_eq_some h, ?_⟩
  simpa using List.find?_some h

/-- Further arrivals do not change a first copy. -/
theorem firstCopy_append {s : UInt32} {arrivals later : List AudioPacket} {i : Nat}
    (h : ∃ p ∈ arrivals, offset s p = i) :
    firstCopy s (arrivals ++ later) i = firstCopy s arrivals i := by
  obtain ⟨p, hp, hi⟩ := h
  have hsome : (firstCopy s arrivals i).isSome := by
    rw [Option.isSome_iff_ne_none, ne_eq, firstCopy_eq_none_iff]
    exact fun hnone => hnone p hp hi
  obtain ⟨q, hq⟩ := Option.isSome_iff_exists.mp hsome
  rw [firstCopy, List.find?_append]
  rw [firstCopy] at hq
  rw [hq, firstCopy, hq]
  rfl

/-- What has arrived is held back only as far as the buffer waits. -/
def Tolerable (s : UInt32) (target maximum : Nat) (seen : List AudioPacket) : Prop :=
  ∀ i, (∀ q ∈ seen, offset s q ≠ i) → (∃ q ∈ seen, i < offset s q) →
    (laterOffsets s seen i).length < target ∧ ∀ q ∈ seen, offset s q ≤ i + maximum

/-- More arrivals overtake more. -/
theorem length_laterOffsets_le (s : UInt32) (seen later : List AudioPacket) (i : Nat) :
    (laterOffsets s seen i).length ≤ (laterOffsets s (seen ++ later) i).length := by
  refine (List.subperm_of_subset (List.nodup_dedup _) ?_).length_le
  intro x hx
  simp only [laterOffsets, List.mem_dedup, List.mem_filter] at hx ⊢
  refine ⟨?_, hx.2⟩
  rw [List.map_append]
  exact List.mem_append_left _ hx.1

/-- At every moment of a reordered arrival, what has arrived is tolerable. -/
theorem Reordered.tolerable {s : UInt32} {target maximum n : Nat}
    {arrivals seen later : List AudioPacket} (h : Reordered s target maximum n arrivals)
    (hsplit : arrivals = seen ++ later) : Tolerable s target maximum seen := by
  rintro i hmissing ⟨q, hq, hlater⟩
  have hi : i < n := by
    have hwithin := h.within q (hsplit ▸ List.mem_append_left _ hq)
    omega
  -- the first copy of the missing packet is still to come
  obtain ⟨p, hp, hpi⟩ := h.complete i hi
  have hexists : ∃ p ∈ later, offset s p = i := by
    rw [hsplit, List.mem_append] at hp
    rcases hp with hp | hp
    · exact absurd hpi (hmissing p hp)
    · exact ⟨p, hp, hpi⟩
  have hsome : (firstCopy s later i).isSome := by
    obtain ⟨p, hp, hpi⟩ := hexists
    rw [Option.isSome_iff_ne_none, ne_eq, firstCopy_eq_none_iff]
    exact fun hnone => hnone p hp hpi
  obtain ⟨first, hfirst⟩ := Option.isSome_iff_exists.mp hsome
  obtain ⟨hoffset, before, after, hbefore, hnone⟩ := List.find?_eq_some_iff_append.mp hfirst
  have hoffset' : offset s first = i := by simpa using hoffset
  have hwhole : arrivals = (seen ++ before) ++ first :: after := by
    rw [hsplit, hbefore, List.append_assoc]
  obtain ⟨hfew, hnear⟩ := h.overtaken _ _ _ hwhole (by
    intro x hx
    rw [hoffset']
    rcases List.mem_append.mp hx with hx | hx
    · exact hmissing x hx
    · have := hnone x hx
      simpa using this)
  rw [hoffset'] at hfew hnear
  refine ⟨lt_of_le_of_lt (length_laterOffsets_le s seen before i) hfew, ?_⟩
  exact fun x hx => hnear x (List.mem_append_left _ hx)

end Arrivals

section Draining

/-- The buffer expects the offset `e` and holds the first copies from there on. -/
structure Holding (s : UInt32) (seen : List AudioPacket) (e : Nat) (b : JitterBuffer) :
    Prop where
  expected : b.expectedSequence = some (serial (s.toNat + e))
  held : ∀ k p, b.packets.get? k = some p ↔
    firstCopy s seen (k - s).toNat = some p ∧ e ≤ (k - s).toNat
  emitted : ∀ i < e, ∃ p ∈ seen, offset s p = i

theorem Holding.mem_keys {s : UInt32} {seen : List AudioPacket} {e : Nat} {b : JitterBuffer}
    (h : Holding s seen e b) (k : UInt32) :
    k ∈ b.packets.keys ↔ (∃ q ∈ seen, offset s q = (k - s).toNat) ∧ e ≤ (k - s).toNat := by
  rw [SortedMap.mem_keys_iff, SortedMap.contains_eq_true_iff]
  constructor
  · rintro ⟨p, hp⟩
    obtain ⟨hfirst, hle⟩ := (h.held k p).mp hp
    exact ⟨⟨p, firstCopy_mem hfirst⟩, hle⟩
  · rintro ⟨⟨q, hq, hoffset⟩, hle⟩
    have hsome : (firstCopy s seen (k - s).toNat).isSome := by
      rw [Option.isSome_iff_ne_none, ne_eq, firstCopy_eq_none_iff]
      exact fun hnone => hnone q hq hoffset
    obtain ⟨p, hp⟩ := Option.isSome_iff_exists.mp hsome
    exact ⟨p, (h.held k p).mpr ⟨hp, hle⟩⟩

/-- Sequences are told apart by their offsets. -/
theorem offsets_nodup (s : UInt32) (b : JitterBuffer) :
    (b.packets.keys.map (fun k => (k - s).toNat)).Nodup := by
  have hkeys : b.packets.keys.Nodup := b.packets.sorted.imp (fun hlt => ne_of_lt hlt)
  refine hkeys.map ?_
  intro k k' hkk'
  rw [← serial_offset s k, ← serial_offset s k']
  exact congrArg (fun i => serial (s.toNat + i)) hkk'

/-- The expected packet has arrived and is emitted. -/
theorem Holding.emit {s : UInt32} {seen : List AudioPacket} {e : Nat} {b : JitterBuffer}
    {p : AudioPacket} (h : Holding s seen e b) (he : e ≤ 2 ^ 31)
    (hfirst : firstCopy s seen e = some p) :
    ∃ b', b.drainStep = some (.emit p, b') ∧ Holding s seen (e + 1) b' ∧
      b'.targetPackets = b.targetPackets ∧ b'.maxPackets = b.maxPackets ∧
      b'.lostPackets = b.lostPackets ∧ b'.started = b.started := by
  have hoffset : (serial (s.toNat + e) - s).toNat = e := toNat_serial_sub s (by omega)
  have hget : b.packets.get? (serial (s.toNat + e)) = some p := by
    rw [h.held, hoffset]
    exact ⟨hfirst, le_rfl⟩
  refine ⟨{ b with
      packets := b.packets.erase (serial (s.toNat + e))
      expectedSequence := some (serial (s.toNat + e) + 1) },
    ?_, ⟨?_, ?_, ?_⟩, rfl, rfl, rfl, rfl⟩
  · simp only [drainStep, h.expected, hget]
  · simp only [serial_succ]
    rfl
  · intro k q
    rw [SortedMap.get?_erase]
    split_ifs with hk
    · rw [hk, hoffset]
      constructor
      · intro hnone
        cases hnone
      · intro hq
        omega
    · rw [h.held]
      have hne : (k - s).toNat ≠ e := by
        intro heq
        apply hk
        rw [← heq, serial_offset]
      constructor
      · exact fun hq => ⟨hq.1, by omega⟩
      · exact fun hq => ⟨hq.1, by omega⟩
  · intro i hi
    by_cases hlt : i < e
    · exact h.emitted i hlt
    · obtain ⟨hmem, hpi⟩ := firstCopy_mem hfirst
      exact ⟨p, hmem, by omega⟩

/-- The expected packet is missing and the loop waits for it. -/
theorem Holding.wait {s : UInt32} {seen : List AudioPacket} {e target maximum : Nat}
    {b : JitterBuffer} (h : Holding s seen e b) (hbound : ∀ q ∈ seen, offset s q < 2 ^ 31)
    (he : e ≤ 2 ^ 31) (htarget : b.targetPackets = target) (hmax : b.maxPackets = maximum)
    (hle : target ≤ maximum) (htolerable : Tolerable s target maximum seen)
    (hmissing : firstCopy s seen e = none) : b.drainStep = none := by
  have hoffset : (serial (s.toNat + e) - s).toNat = e := toNat_serial_sub s (by omega)
  have hget : b.packets.get? (serial (s.toNat + e)) = none := by
    rw [Option.eq_none_iff_forall_ne_some]
    intro p hp
    have hfirst := ((h.held _ _).mp hp).1
    rw [hoffset, hmissing] at hfirst
    cases hfirst
  simp only [drainStep, h.expected, hget]
  cases hnext : b.nextBufferedSequence (serial (s.toNat + e)) with
  | none =>
      rfl
  | some next =>
      obtain ⟨hmem, _, _⟩ := nextBufferedSequence_spec hnext
      have hbeyond : ∀ k ∈ b.packets.keys, ∃ q ∈ seen, offset s q = (k - s).toNat ∧
          e < (k - s).toNat := by
        intro k hk
        obtain ⟨⟨q, hq, hqk⟩, hek⟩ := (h.mem_keys k).mp hk
        have hne : offset s q ≠ e := firstCopy_eq_none_iff.mp hmissing q hq
        exact ⟨q, hq, hqk, by omega⟩
      obtain ⟨q, hq, hqnext, hlater⟩ := hbeyond next hmem
      obtain ⟨hfew, hnear⟩ :=
        htolerable e (firstCopy_eq_none_iff.mp hmissing) ⟨q, hq, by omega⟩
      have hdistance : (next - serial (s.toNat + e)).toNat ≤ maximum := by
        have hqnear := hnear q hq
        have hqbound := hbound q hq
        have hsub : (serial (s.toNat + (next - s).toNat) - serial (s.toNat + e)).toNat =
            s.toNat + (next - s).toNat - (s.toNat + e) :=
          toNat_serial_sub_of_le (by omega) (by omega)
        rw [serial_offset] at hsub
        omega
      have hsize : b.packets.size < target := by
        have hsub : b.packets.keys.map (fun k => (k - s).toNat) ⊆ laterOffsets s seen e := by
          intro i hi
          obtain ⟨k, hk, rfl⟩ := List.mem_map.mp hi
          obtain ⟨x, hx, hxk, hlt⟩ := hbeyond k hk
          simp only [laterOffsets, List.mem_dedup, List.mem_filter, decide_eq_true_eq]
          exact ⟨List.mem_map.mpr ⟨x, hx, hxk⟩, hlt⟩
        have hlength := (List.subperm_of_subset (offsets_nodup s b) hsub).length_le
        rw [List.length_map, SortedMap.keys, List.length_map] at hlength
        exact lt_of_le_of_lt hlength hfew
      simp only [htarget, hmax]
      rw [if_neg (not_lt.mpr hdistance), if_pos ⟨hsize, lt_of_lt_of_le hsize hle⟩]

/-- What the draining loop does while nothing has to be given up: it emits the first
copies from the expected offset on. -/
theorem Holding.drainLoop {s : UInt32} {seen : List AudioPacket} {target maximum : Nat}
    (hbound : ∀ q ∈ seen, offset s q < 2 ^ 31) (hle : target ≤ maximum)
    (htolerable : Tolerable s target maximum seen) (fuel : Nat) {e : Nat} {b : JitterBuffer}
    (h : Holding s seen e b) (he : e ≤ 2 ^ 31) (htarget : b.targetPackets = target)
    (hmax : b.maxPackets = maximum) :
    ∃ count, Holding s seen (e + count) (JitterBuffer.drainLoop fuel b).1 ∧
      e + count ≤ 2 ^ 31 ∧
      ((JitterBuffer.drainLoop fuel b).2.flatMap DrainMove.output).map some =
        (List.range' e count).map (fun i => (firstCopy s seen i).map JitterOutput.audio) ∧
      (JitterBuffer.drainLoop fuel b).1.targetPackets = target ∧
      (JitterBuffer.drainLoop fuel b).1.maxPackets = maximum ∧
      (JitterBuffer.drainLoop fuel b).1.lostPackets = b.lostPackets ∧
      (JitterBuffer.drainLoop fuel b).1.started = b.started := by
  induction fuel generalizing e b with
  | zero =>
      exact ⟨0, h, he, rfl, htarget, hmax, rfl, rfl⟩
  | succ fuel ih =>
      cases hfirst : firstCopy s seen e with
      | none =>
          have hstop := h.wait hbound he htarget hmax hle htolerable hfirst
          have hloop : JitterBuffer.drainLoop (fuel + 1) b = (b, []) := by
            simp only [JitterBuffer.drainLoop, hstop]
          rw [hloop]
          exact ⟨0, h, he, rfl, htarget, hmax, rfl, rfl⟩
      | some p =>
          obtain ⟨b', hstep, h', htarget', hmax', hlost', hstarted'⟩ := h.emit he hfirst
          have he' : e + 1 ≤ 2 ^ 31 := by
            obtain ⟨hmem, hpe⟩ := firstCopy_mem hfirst
            have := hbound p hmem
            omega
          obtain ⟨count, hend, hcount, houtput, ht, hm, hl, hs⟩ :=
            ih h' he' (htarget'.trans htarget) (hmax'.trans hmax)
          simp only [JitterBuffer.drainLoop, hstep]
          refine ⟨count + 1, ?_, ?_, ?_, ht, hm, hl.trans hlost', hs.trans hstarted'⟩
          · rw [Nat.add_comm count 1, ← Nat.add_assoc]
            exact hend
          · omega
          · rw [List.flatMap_cons, List.map_append, houtput, List.range'_succ, List.map_cons,
              hfirst]
            rfl

end Draining

section Playing

/-- The buffer and the output after the arrivals `seen`. -/
structure Playing (s : UInt32) (target maximum lost : Nat) (seen : List AudioPacket) (e : Nat)
    (b : JitterBuffer) (output : List JitterOutput) : Prop where
  holding : Holding s seen e b
  reached : e ≤ 2 ^ 31
  target_eq : b.targetPackets = target
  maximum_eq : b.maxPackets = maximum
  lost_eq : b.lostPackets = lost
  output_eq : output.map some =
    (List.range e).map (fun i => (firstCopy s seen i).map JitterOutput.audio)
  gathering : b.started = false → e = 0 ∧ b.packets.size < target
  playing : b.started = true → firstCopy s seen e = none

variable {s : UInt32} {target maximum lost e : Nat} {seen : List AudioPacket}
variable {b : JitterBuffer} {output : List JitterOutput}

theorem range_map_append (h : ∀ i < e, ∃ p ∈ seen, offset s p = i) (later : List AudioPacket) :
    (List.range e).map (fun i => (firstCopy s (seen ++ later) i).map JitterOutput.audio) =
      (List.range e).map (fun i => (firstCopy s seen i).map JitterOutput.audio) := by
  apply List.map_congr_left
  intro i hi
  rw [firstCopy_append (h i (List.mem_range.mp hi))]

theorem Playing.sequence_eq (s : UInt32) (packet : AudioPacket) :
    packet.sequence = serial (s.toNat + offset s packet) :=
  (serial_offset s packet.sequence).symm

theorem Playing.opened_eq (h : Playing s target maximum lost seen e b output)
    (packet : AudioPacket) : b.opened packet = b := by
  obtain ⟨expectedSequence, packets, targetPackets, maxPackets, started, lostPackets,
    latePackets⟩ := b
  have hexpected : expectedSequence = some (serial (s.toNat + e)) := h.holding.expected
  rw [opened, hexpected]
  rfl

/-- A further copy of a packet that has arrived changes nothing. -/
theorem Playing.duplicate (h : Playing s target maximum lost seen e b output)
    {packet : AudioPacket} (hcopy : ∃ q ∈ seen, offset s q = offset s packet) :
    Playing s target maximum lost (seen ++ [packet]) e (b.push packet).1
      (output ++ (b.push packet).2) := by
  have hsame : ∀ i, firstCopy s (seen ++ [packet]) i = firstCopy s seen i := by
    intro i
    by_cases hi : ∃ p ∈ seen, offset s p = i
    · exact firstCopy_append hi
    · have hnone : ∀ p ∈ seen, offset s p ≠ i := fun p hp hpi => hi ⟨p, hp, hpi⟩
      rw [firstCopy_eq_none_iff.mpr hnone, firstCopy_eq_none_iff]
      intro p hp
      rcases List.mem_append.mp hp with hp | hp
      · exact hnone p hp
      · obtain ⟨q, hq, hqp⟩ := hcopy
        rw [List.mem_singleton.mp hp, ← hqp]
        exact hnone q hq
  have hrejected : b.accepts packet = false := by
    rw [accepts, Bool.and_eq_false_iff, Bool.not_eq_false', Bool.not_eq_false']
    by_cases hemitted : offset s packet < e
    · right
      have hreached := h.reached
      rw [h.holding.expected, Option.getD_some, Playing.sequence_eq s packet]
      exact isBefore_serial_of_lt (by omega) (by omega)
    · left
      rw [← SortedMap.mem_keys_iff, h.holding.mem_keys]
      exact ⟨hcopy, not_lt.mp hemitted⟩
  obtain ⟨late, heq⟩ := push_of_not_accepts hrejected
  rw [heq, List.append_nil, h.opened_eq]
  refine ⟨⟨h.holding.expected, ?_, ?_⟩, h.reached, h.target_eq, h.maximum_eq, h.lost_eq, ?_,
    h.gathering, ?_⟩
  · intro k p
    rw [hsame]
    exact h.holding.held k p
  · intro i hi
    obtain ⟨p, hp, hpi⟩ := h.holding.emitted i hi
    exact ⟨p, List.mem_append_left _ hp, hpi⟩
  · rw [range_map_append h.holding.emitted]
    exact h.output_eq
  · intro hstarted
    rw [hsame]
    exact h.playing hstarted

/-- The first copy of a packet joins the buffer. -/
theorem Playing.inserted (h : Playing s target maximum lost seen e b output)
    {packet : AudioPacket} (hfresh : ∀ q ∈ seen, offset s q ≠ offset s packet)
    (hbound : offset s packet < 2 ^ 31) :
    b.accepts packet = true ∧ Holding s (seen ++ [packet]) e (b.withPacket packet) := by
  have hahead : e ≤ offset s packet := by
    by_contra hlt
    obtain ⟨p, hp, hpi⟩ := h.holding.emitted _ (not_le.mp hlt)
    exact hfresh p hp hpi
  have hcontains : b.packets.get? packet.sequence = none := by
    rw [Option.eq_none_iff_forall_ne_some]
    intro p hp
    obtain ⟨hmem, hpi⟩ := firstCopy_mem ((h.holding.held _ _).mp hp).1
    exact hfresh p hmem hpi
  refine ⟨?_, ?_, ?_, ?_⟩
  · rw [accepts, Bool.and_eq_true, Bool.not_eq_true', Bool.not_eq_true']
    refine ⟨(SortedMap.contains_eq_false_iff _ _).mpr hcontains, ?_⟩
    rw [h.holding.expected, Option.getD_some, Playing.sequence_eq s packet]
    exact isBefore_serial_of_le (by omega) (by omega)
  · rw [withPacket, h.opened_eq]
    exact h.holding.expected
  · intro k p
    rw [withPacket, SortedMap.get?_insert]
    split_ifs with hk
    · have hfirst : firstCopy s (seen ++ [packet]) (k - s).toNat = some packet := by
        rw [hk, firstCopy, List.find?_append, List.find?_eq_none.mpr]
        · simp [offset]
        · intro q hq
          rw [decide_eq_true_eq]
          exact hfresh q hq
      rw [hfirst]
      constructor
      · intro hp
        refine ⟨hp, ?_⟩
        rw [hk]
        exact hahead
      · exact fun hp => hp.1
    · have hother : firstCopy s (seen ++ [packet]) (k - s).toNat =
          firstCopy s seen (k - s).toNat := by
        have hne : offset s packet ≠ (k - s).toNat := by
          intro heq
          apply hk
          rw [Playing.sequence_eq s packet, heq, serial_offset]
        rw [firstCopy, List.find?_append, List.find?_cons_of_neg (by simpa using hne)]
        simp [firstCopy]
      rw [hother]
      exact h.holding.held k p
  · intro i hi
    obtain ⟨p, hp, hpi⟩ := h.holding.emitted i hi
    exact ⟨p, List.mem_append_left _ hp, hpi⟩

/-- The first copy of a packet arrives. -/
theorem Playing.arrive (h : Playing s target maximum lost seen e b output) {packet : AudioPacket}
    (hfresh : ∀ q ∈ seen, offset s q ≠ offset s packet)
    (hbound : ∀ q ∈ seen ++ [packet], offset s q < 2 ^ 31) (hle : target ≤ maximum)
    (htolerable : Tolerable s target maximum (seen ++ [packet])) :
    ∃ e', Playing s target maximum lost (seen ++ [packet]) e' (b.push packet).1
      (output ++ (b.push packet).2) := by
  obtain ⟨haccepts, hholding⟩ := h.inserted hfresh
    (hbound packet (List.mem_append_right _ (List.mem_singleton_self _)))
  have hearlier : output.map some = (List.range e).map
      (fun i => (firstCopy s (seen ++ [packet]) i).map JitterOutput.audio) := by
    rw [range_map_append h.holding.emitted]
    exact h.output_eq
  rw [push_of_accepts haccepts, pushMoves, if_pos haccepts]
  by_cases hgate : (b.withPacket packet).started = false ∧
      (b.withPacket packet).packets.size < (b.withPacket packet).targetPackets
  · refine ⟨e, ?_⟩
    rw [drain, if_pos hgate]
    refine ⟨hholding, h.reached, h.target_eq, h.maximum_eq, h.lost_eq, ?_, ?_, ?_⟩
    · simpa using hearlier
    · intro hstarted
      exact ⟨(h.gathering hstarted).1, lt_of_lt_of_eq hgate.2 h.target_eq⟩
    · intro hstarted
      rw [hgate.1] at hstarted
      cases hstarted
  · have hsettled := drain_settled _ hgate
    rw [drain, if_neg hgate] at hsettled ⊢
    have hstart : Holding s (seen ++ [packet]) e
        { b.withPacket packet with started := true } :=
      ⟨hholding.expected, hholding.held, hholding.emitted⟩
    obtain ⟨count, hend, hreached, houtput, ht, hm, hl, hs⟩ :=
      hstart.drainLoop hbound hle htolerable (b.withPacket packet).drainFuel h.reached h.target_eq
        h.maximum_eq
    refine ⟨e + count, hend, hreached, ht, hm, hl.trans h.lost_eq, ?_, ?_, ?_⟩
    · rw [List.map_append, hearlier, houtput, List.range_eq_range', List.range_eq_range',
        ← List.map_append]
      congr 1
      have happend := List.range'_append_1 (s := 0) (m := e) (n := count)
      rw [Nat.zero_add] at happend
      exact happend
    · intro hstarted
      rw [hs] at hstarted
      cases hstarted
    · intro _
      cases hfirst : firstCopy s (seen ++ [packet]) (e + count) with
      | none =>
          rfl
      | some p =>
          obtain ⟨b', hstep, _⟩ := hend.emit hreached hfirst
          rw [hsettled] at hstep
          cases hstep

/-- A buffer that was just restarted at `s`. -/
theorem Playing.restarted (h : b.Bounded) (s : UInt32) :
    Playing s b.targetPackets b.maxPackets b.lostPackets [] 0 (b.restart s) [] where
  holding := by
    refine ⟨?_, ?_, ?_⟩
    · rw [Nat.add_zero, serial_toNat]
      rfl
    · intro k p
      constructor
      · intro hp
        cases hp
      · rintro ⟨hp, _⟩
        cases hp
    · intro i hi
      omega
  reached := Nat.zero_le _
  target_eq := rfl
  maximum_eq := rfl
  lost_eq := rfl
  output_eq := rfl
  gathering := fun _ => ⟨rfl, Nat.lt_of_le_of_lt (Nat.zero_le _) h.few⟩
  playing := fun hstarted => by cases hstarted

/-- The buffer while a reordered stream arrives. -/
theorem playing_run {n : Nat} {arrivals : List AudioPacket} (hb : b.Bounded) (hn : n ≤ 2 ^ 31)
    (h : Reordered s b.targetPackets b.maxPackets n arrivals)
    (seen later : List AudioPacket) (hsplit : arrivals = seen ++ later) :
    ∃ e, Playing s b.targetPackets b.maxPackets b.lostPackets seen e
      (run step (b.restart s, []) (seen.map .push)).1
      (run step (b.restart s, []) (seen.map .push)).2 := by
  induction seen using List.reverseRecOn generalizing later with
  | nil =>
      exact ⟨0, Playing.restarted hb s⟩
  | append_singleton seen packet ih =>
      rw [List.append_assoc] at hsplit
      obtain ⟨e, hplaying⟩ := ih ([packet] ++ later) hsplit
      rw [List.map_append, List.map_singleton, run_concat]
      rcases hstate : run step (b.restart s, []) (seen.map .push) with ⟨b', output⟩
      rw [hstate] at hplaying
      by_cases hcopy : ∃ q ∈ seen, offset s q = offset s packet
      · exact ⟨e, hplaying.duplicate hcopy⟩
      · refine hplaying.arrive (fun q hq heq => hcopy ⟨q, hq, heq⟩) ?_ hb.target_le_max ?_
        · intro q hq
          have hwithin := h.within q (by
            rw [hsplit, ← List.append_assoc]
            exact List.mem_append_left _ hq)
          omega
        · exact h.tolerable (by rw [hsplit, ← List.append_assoc])

/-- When everything has arrived, everything was emitted. -/
theorem Playing.finished {n : Nat} {arrivals : List AudioPacket}
    (h : Playing s target maximum lost arrivals e b output) (htarget : target ≤ n)
    (hn : n ≤ 2 ^ 31) (hreordered : Reordered s target maximum n arrivals) : e = n := by
  have hle : e ≤ n := by
    by_contra hlt
    obtain ⟨p, hp, hpn⟩ := h.holding.emitted n (not_le.mp hlt)
    have := hreordered.within p hp
    omega
  cases hstarted : b.started with
  | true =>
      refine le_antisymm hle ?_
      by_contra hlt
      obtain ⟨p, hp, hpe⟩ := hreordered.complete e (not_le.mp hlt)
      exact firstCopy_eq_none_iff.mp (h.playing hstarted) p hp hpe
  | false =>
      -- all `n` packets would wait behind the gate, more than it holds back
      obtain ⟨rfl, hfew⟩ := h.gathering hstarted
      have hsub : List.range n ⊆ b.packets.keys.map (fun k => (k - s).toNat) := by
        intro i hi
        have hoffset : (serial (s.toNat + i) - s).toNat = i :=
          toNat_serial_sub s (by have := List.mem_range.mp hi; omega)
        refine List.mem_map.mpr ⟨serial (s.toNat + i), ?_, hoffset⟩
        rw [h.holding.mem_keys, hoffset]
        exact ⟨hreordered.complete i (List.mem_range.mp hi), Nat.zero_le _⟩
      have hlength := (List.subperm_of_subset List.nodup_range hsub).length_le
      rw [List.length_range, List.length_map, SortedMap.keys, List.length_map] at hlength
      have hsize : b.packets.size = b.packets.entries.length := rfl
      omega

/-- The first packet opens a new buffer as a restart would. -/
theorem run_new_eq_restart (target : Nat) {s : UInt32} {arrivals : List AudioPacket}
    (h : arrivals.head?.map AudioPacket.sequence = some s) :
    run step (new target, []) (arrivals.map .push) =
      run step ((new target).restart s, []) (arrivals.map .push) := by
  cases arrivals with
  | nil =>
      cases h
  | cons first rest =>
      have hfirst : first.sequence = s := Option.some.inj h
      subst hfirst
      rfl

/-- **Reordering is undone.**  A stream of `n` packets that arrives with any copies
behind the first ones, no packet overtaken by `targetPackets` later ones nor by one
more than `maxPackets` numbers ahead, comes out complete and in order, on a buffer
that was just restarted as on a new one. -/
theorem reordered_stream_in_order (target : Nat) (htarget : target ≤ u64Max)
    (calls : List JitterCall) (s : UInt32) (n : Nat) (hn : n ≤ 2 ^ 31)
    (arrivals : List AudioPacket) :
    let previous := run perform (new target) calls
    (previous.targetPackets ≤ n →
      Reordered s previous.targetPackets previous.maxPackets n arrivals →
      let result := run step (previous.restart s, []) (arrivals.map .push)
      result.2.map some =
          (List.range n).map (fun i => (firstCopy s arrivals i).map JitterOutput.audio) ∧
        result.1.lostPackets = previous.lostPackets) ∧
    ((new target).targetPackets ≤ n →
      Reordered s (new target).targetPackets (new target).maxPackets n arrivals →
      arrivals.head?.map AudioPacket.sequence = some s →
      let result := run step (new target, []) (arrivals.map .push)
      result.2.map some =
          (List.range n).map (fun i => (firstCopy s arrivals i).map JitterOutput.audio) ∧
        result.1.lostPackets = (new target).lostPackets) := by
  have hplays : ∀ b : JitterBuffer, b.Bounded → b.targetPackets ≤ n →
      Reordered s b.targetPackets b.maxPackets n arrivals →
      (run step (b.restart s, []) (arrivals.map .push)).2.map some =
          (List.range n).map (fun i => (firstCopy s arrivals i).map JitterOutput.audio) ∧
        (run step (b.restart s, []) (arrivals.map .push)).1.lostPackets = b.lostPackets := by
    intro b hb hle hreordered
    obtain ⟨e, hplaying⟩ :=
      playing_run hb hn hreordered arrivals [] (List.append_nil arrivals).symm
    have hend := hplaying.finished hle hn hreordered
    subst hend
    exact ⟨hplaying.output_eq, hplaying.lost_eq⟩
  refine ⟨?_, ?_⟩
  · have hb : (run perform (new target) calls).Bounded :=
      run_preserves Bounded (fun b call h => h.perform call) (bounded_new htarget) calls
    exact hplays _ hb
  · intro hle hreordered hhead
    rw [run_new_eq_restart target hhead]
    exact hplays _ (bounded_new htarget) hle hreordered

/-- A packet with a sequence number. -/
def numberedPacket (sequence : UInt32) : AudioPacket where
  sequence := sequence
  timestamp := 0
  payload := []

/-- The second packet overtakes the first, which comes twice; the numbers wrap. -/
def swappedArrivals : List AudioPacket :=
  [numberedPacket 0, numberedPacket 4294967295, numberedPacket 4294967295, numberedPacket 1]

theorem swappedArrivals_reordered : Reordered 4294967295 2 6 3 swappedArrivals where
  within := by decide
  complete := by decide
  overtaken := by
    intro before p after hsplit hfresh
    rcases before with _ | ⟨a, _ | ⟨b, _ | ⟨c, _ | ⟨d, rest⟩⟩⟩⟩
    · simp only [List.nil_append, swappedArrivals, List.cons.injEq] at hsplit
      obtain ⟨rfl, _⟩ := hsplit
      exact ⟨by decide, by decide⟩
    · simp only [List.cons_append, List.nil_append, swappedArrivals, List.cons.injEq] at hsplit
      obtain ⟨rfl, rfl, _⟩ := hsplit
      exact ⟨by decide, by decide⟩
    · simp only [List.cons_append, List.nil_append, swappedArrivals, List.cons.injEq] at hsplit
      obtain ⟨rfl, rfl, rfl, _⟩ := hsplit
      exact absurd rfl (hfresh _ (List.mem_cons_of_mem _ List.mem_cons_self))
    · simp only [List.cons_append, List.nil_append, swappedArrivals, List.cons.injEq] at hsplit
      obtain ⟨rfl, rfl, rfl, rfl, _⟩ := hsplit
      exact ⟨by decide, by decide⟩
    · simp [swappedArrivals] at hsplit

theorem reordered_stream_in_order_swapped :
    (2 ≤ u64Max ∧ 3 ≤ 2 ^ 31 ∧ Reordered 4294967295 2 6 3 swappedArrivals) ∧
      (run step ((new 2).restart 4294967295, []) (swappedArrivals.map .push)).2.map some =
        (List.range 3).map
          (fun i => (firstCopy 4294967295 swappedArrivals i).map JitterOutput.audio) :=
  ⟨⟨by decide, by decide, swappedArrivals_reordered⟩,
    ((reordered_stream_in_order 2 (by decide) [] 4294967295 3 (by decide) swappedArrivals).1
      (by decide) swappedArrivals_reordered).1⟩

end Playing

end JitterBuffer

end Soundwave

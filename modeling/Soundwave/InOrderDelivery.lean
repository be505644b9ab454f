import Soundwave.JitterBuffer

/-!
# In-order delivery through the jitter buffer

When packets arrive once each and in order, the buffer holds a run of
consecutive packets behind its start gate and nothing at all once it has
started.  `Waiting b first ps` says that the buffer holds exactly the packets
`ps`, at the consecutive positions from `first` on.

The result of the module is `push_inOrder`: the next packet either joins the
waiting ones or opens the gate, and then everything is emitted in order, with
no loss, no late packet and no silence.
-/

namespace Soundwave

/-- The packets carry consecutive sequence numbers from a position on. -/
def Numbered : Nat → List AudioPacket → Prop
  | _, [] => True
  | first, p :: ps => p.sequence = serial first ∧ Numbered (first + 1) ps

theorem numbered_concat
    {first : Nat} {ps : List AudioPacket} {packet : AudioPacket}
    (h : Numbered first ps) (hpacket : packet.sequence = serial (first + ps.length)) :
    Numbered first (ps ++ [packet]) := by
  induction ps generalizing first with
  | nil =>
      exact ⟨hpacket, trivial⟩
  | cons p ps ih =>
      refine ⟨h.1, ih h.2 ?_⟩
      rw [hpacket, List.length_cons]
      congr 1
      omega

theorem numbered_append
    {first : Nat} {ps qs : List AudioPacket}
    (hps : Numbered first ps) (hqs : Numbered (first + ps.length) qs) :
    Numbered first (ps ++ qs) := by
  induction ps generalizing first with
  | nil =>
      exact hqs
  | cons p ps ih =>
      refine ⟨hps.1, ih hps.2 ?_⟩
      rw [List.length_cons, Nat.add_comm ps.length 1, ← Nat.add_assoc] at hqs
      exact hqs

/-- Sequence numbers of a numbered list, position by position. -/
theorem numbered_mem
    {first : Nat} {ps : List AudioPacket} (h : Numbered first ps) :
    ∀ p ∈ ps, ∃ i, i < ps.length ∧ p.sequence = serial (first + i) := by
  induction ps generalizing first with
  | nil =>
      simp
  | cons q ps ih =>
      intro p hp
      rcases List.mem_cons.mp hp with rfl | hp
      · exact ⟨0, by simp, h.1⟩
      · obtain ⟨i, hi, hseq⟩ := ih h.2 p hp
        refine ⟨i + 1, by simpa using hi, ?_⟩
        rw [hseq]
        congr 1
        omega

/-- The map holds exactly the packets of a list, each under its sequence. -/
def Holds (m : SortedMap UInt32 AudioPacket) (ps : List AudioPacket) : Prop :=
  m.size = ps.length ∧ ∀ k p, m.get? k = some p ↔ p ∈ ps ∧ k = p.sequence

namespace JitterBuffer

/-- The buffer holds exactly the packets `ps`, at the consecutive positions from
`first` on, and expects `first`. -/
structure Waiting (b : JitterBuffer) (first : Nat) (ps : List AudioPacket) : Prop where
  expected : b.expectedSequence = some (serial first) ∨ (b.expectedSequence = none ∧ ps = [])
  numbered : Numbered first ps
  holds : Holds b.packets ps
  short : ps.length < 2 ^ 31

theorem waiting_new (target first : Nat) : (new target).Waiting first [] := by
  refine ⟨Or.inr ⟨rfl, rfl⟩, trivial, ⟨rfl, ?_⟩, by simp⟩
  intro k p
  constructor
  · intro h
    cases h
  · rintro ⟨h, _⟩
    cases h

theorem waiting_restart (b : JitterBuffer) (first : Nat) :
    (b.restart (serial first)).Waiting first [] := by
  refine ⟨Or.inl rfl, trivial, ⟨rfl, ?_⟩, by simp⟩
  intro k p
  constructor
  · intro h
    cases h
  · rintro ⟨h, _⟩
    cases h

/-- Nothing else of the buffer matters for what is waiting. -/
theorem waiting_of_same
    {b b' : JitterBuffer} {first : Nat} {ps : List AudioPacket}
    (h : b.Waiting first ps)
    (hexpected : b'.expectedSequence = b.expectedSequence)
    (hpackets : b'.packets = b.packets) :
    b'.Waiting first ps := by
  obtain ⟨h₁, h₂, h₃, h₄⟩ := h
  rw [← hexpected] at h₁
  rw [← hpackets] at h₃
  exact ⟨h₁, h₂, h₃, h₄⟩

/-- The next packet of the row is neither buffered nor behind. -/
theorem waiting_next_fresh
    {b : JitterBuffer} {first : Nat} {ps : List AudioPacket}
    (h : b.Waiting first ps) :
    b.packets.get? (serial (first + ps.length)) = none := by
  rw [Option.eq_none_iff_forall_ne_some]
  intro p hp
  obtain ⟨hmem, hseq⟩ := (h.holds.2 _ _).mp hp
  obtain ⟨i, hi, hi'⟩ := numbered_mem h.numbered p hmem
  have hshort := h.short
  have := serial_inj (by omega) (by omega) (hseq.trans hi')
  omega

/-- Inserting the next packet extends the row. -/
theorem waiting_insert
    {b : JitterBuffer} {first : Nat} {ps : List AudioPacket} {packet : AudioPacket}
    (h : b.Waiting first ps)
    (hseq : packet.sequence = serial (first + ps.length))
    (hshort : ps.length + 1 < 2 ^ 31) :
    JitterBuffer.Waiting
      { b with
          expectedSequence := some (b.expectedSequence.getD packet.sequence)
          packets := b.packets.insert packet.sequence packet }
      first (ps ++ [packet]) := by
  have hfresh := waiting_next_fresh h
  rw [← hseq] at hfresh
  refine ⟨?_, numbered_concat h.numbered hseq, ⟨?_, ?_⟩, by simpa using hshort⟩
  · left
    rcases h.expected with hexp | ⟨hexp, rfl⟩
    · simp [hexp]
    · simpa [hexp] using hseq
  · simp [SortedMap.size_insert_of_get?_eq_none packet hfresh, h.holds.1]
  · intro k p
    rw [SortedMap.get?_insert, List.mem_append, List.mem_singleton]
    split_ifs with hk
    · constructor
      · intro hp
        rw [← Option.some.inj hp]
        exact ⟨Or.inr rfl, hk⟩
      · rintro ⟨hp | rfl, hkp⟩
        · have := (h.holds.2 k p).mpr ⟨hp, hkp⟩
          rw [hk, hfresh] at this
          cases this
        · rfl
    · rw [h.holds.2]
      constructor
      · rintro ⟨hp, hkp⟩
        exact ⟨Or.inl hp, hkp⟩
      · rintro ⟨hp | rfl, hkp⟩
        · exact ⟨hp, hkp⟩
        · exact absurd hkp hk

/-- Draining emits the first waiting packet. -/
theorem drainStep_waiting_cons
    {b : JitterBuffer} {first : Nat} {p : AudioPacket} {ps : List AudioPacket}
    (h : b.Waiting first (p :: ps)) :
    b.drainStep = some (.emit p,
      { b with
          packets := b.packets.erase (serial first)
          expectedSequence := some (serial (first + 1)) }) := by
  have hexp : b.expectedSequence = some (serial first) := by
    rcases h.expected with hexp | ⟨_, hnil⟩
    · exact hexp
    · cases hnil
  have hget : b.packets.get? (serial first) = some p :=
    (h.holds.2 _ _).mpr ⟨List.mem_cons_self, h.numbered.1.symm⟩
  simp only [drainStep, hexp, hget, serial_succ]

theorem waiting_erase
    {b : JitterBuffer} {first : Nat} {p : AudioPacket} {ps : List AudioPacket}
    (h : b.Waiting first (p :: ps)) :
    JitterBuffer.Waiting
      { b with
          packets := b.packets.erase (serial first)
          expectedSequence := some (serial (first + 1)) }
      (first + 1) ps := by
  have hget : b.packets.get? (serial first) = some p :=
    (h.holds.2 _ _).mpr ⟨List.mem_cons_self, h.numbered.1.symm⟩
  have hsize := SortedMap.size_erase_of_get?_eq_some hget
  have hshort := h.short
  rw [List.length_cons] at hshort
  refine ⟨Or.inl rfl, h.numbered.2, ⟨?_, ?_⟩, by omega⟩
  · rw [h.holds.1, List.length_cons] at hsize
    simpa using hsize
  · intro k q
    simp only [SortedMap.get?_erase]
    split_ifs with hk
    · constructor
      · intro hq
        cases hq
      · rintro ⟨hq, hkq⟩
        obtain ⟨i, hi, hseq⟩ := numbered_mem h.numbered.2 q hq
        have := serial_inj (by omega) (by omega) ((hk.symm.trans hkq).trans hseq)
        omega
    · rw [h.holds.2, List.mem_cons]
      constructor
      · rintro ⟨rfl | hq, hkq⟩
        · exact absurd (hkq.trans h.numbered.1) hk
        · exact ⟨hq, hkq⟩
      · rintro ⟨hq, hkq⟩
        exact ⟨Or.inr hq, hkq⟩

theorem drainStep_waiting_nil
    {b : JitterBuffer} {first : Nat} (h : b.Waiting first []) :
    b.drainStep = none := by
  have hget : ∀ k, b.packets.get? k = none := by
    intro k
    rw [Option.eq_none_iff_forall_ne_some]
    intro p hp
    exact absurd ((h.holds.2 k p).mp hp).1 List.not_mem_nil
  cases hexp : b.expectedSequence with
  | none =>
      simp [drainStep, hexp]
  | some e =>
      have hnext : b.nextBufferedSequence e = none := by
        have hkeys : b.packets.keys = [] := by
          rw [List.eq_nil_iff_forall_not_mem]
          intro k hk
          rw [SortedMap.mem_keys_iff, SortedMap.contains_eq_true_iff] at hk
          obtain ⟨p, hp⟩ := hk
          rw [hget k] at hp
          cases hp
        simp [nextBufferedSequence, hkeys]
      simp [drainStep, hexp, hget, hnext]

/-- A row of waiting packets is emitted in order and leaves nothing behind. -/
theorem drainLoop_waiting
    (fuel : Nat) {b : JitterBuffer} {first : Nat} {ps : List AudioPacket}
    (h : b.Waiting first ps) (hfuel : ps.length < fuel) :
    ∃ b', drainLoop fuel b = (b', ps.map DrainMove.emit) ∧
      b'.Waiting (first + ps.length) [] ∧
      b'.targetPackets = b.targetPackets ∧ b'.started = b.started ∧
      b'.lostPackets = b.lostPackets ∧ b'.latePackets = b.latePackets := by
  induction ps generalizing fuel b first with
  | nil =>
      obtain ⟨fuel, rfl⟩ : ∃ n, fuel = n + 1 := ⟨fuel - 1, by simp at hfuel; omega⟩
      refine ⟨b, ?_, h, rfl, rfl, rfl, rfl⟩
      simp [drainLoop, drainStep_waiting_nil h]
  | cons p ps ih =>
      obtain ⟨fuel, rfl⟩ : ∃ n, fuel = n + 1 := ⟨fuel - 1, by simp at hfuel; omega⟩
      obtain ⟨b', hloop, hwaiting, hsame⟩ := ih fuel (waiting_erase h) (by simpa using hfuel)
      refine ⟨b', ?_, ?_, hsame⟩
      · simp [drainLoop, drainStep_waiting_cons h, hloop]
      · rw [List.length_cons, Nat.add_comm ps.length 1, ← Nat.add_assoc]
        exact hwaiting

/-- What handling one more packet of the row leaves of the buffer. -/
structure Undisturbed (b b' : JitterBuffer) : Prop where
  target : b'.targetPackets = b.targetPackets
  lost : b'.lostPackets = b.lostPackets
  late : b'.latePackets = b.latePackets

theorem accepts_next
    {b : JitterBuffer} {first : Nat} {ps : List AudioPacket} {packet : AudioPacket}
    (h : b.Waiting first ps)
    (hseq : packet.sequence = serial (first + ps.length)) :
    b.accepts packet = true := by
  have hcontains : b.packets.contains packet.sequence = false := by
    rw [SortedMap.contains_eq_false_iff, hseq]
    exact waiting_next_fresh h
  have hahead :
      isBefore packet.sequence (b.expectedSequence.getD packet.sequence) = false := by
    have hshort := h.short
    rcases h.expected with hexp | ⟨hexp, _⟩
    · rw [hexp, hseq, Option.getD_some]
      exact isBefore_serial_of_le (by omega) (by omega)
    · rw [hexp, hseq, Option.getD_none]
      exact isBefore_serial_of_le (by omega) (by omega)
  simp [accepts, hcontains, hahead]

/-- **In-order delivery.**  The next packet of the row either waits behind the
start gate with the others, or the whole row is emitted. -/
theorem push_inOrder
    {b : JitterBuffer} {first : Nat} {ps : List AudioPacket} {packet : AudioPacket}
    (h : b.Waiting first ps)
    (hseq : packet.sequence = serial (first + ps.length))
    (hshort : ps.length + 1 < 2 ^ 31) :
    ∃ b', Undisturbed b b' ∧
      ((b.push packet = (b', []) ∧ b'.Waiting first (ps ++ [packet]) ∧
          b'.started = false ∧ ps.length + 1 < b.targetPackets) ∨
        (b.push packet = (b', (ps ++ [packet]).map JitterOutput.audio) ∧
          b'.Waiting (first + ps.length + 1) [] ∧ b'.started = true)) := by
  have haccepts := accepts_next h hseq
  have hmoves : b.pushMoves packet = (b.withPacket packet).drain.2 := if_pos haccepts
  have hrow : (b.withPacket packet).Waiting first (ps ++ [packet]) :=
    waiting_insert h hseq hshort
  have hsize : (b.withPacket packet).packets.size = ps.length + 1 := by
    simpa using hrow.holds.1
  rw [push_of_accepts haccepts, hmoves]
  by_cases hgate :
      (b.withPacket packet).started = false ∧
        (b.withPacket packet).packets.size < (b.withPacket packet).targetPackets
  · have hdrain : (b.withPacket packet).drain = (b.withPacket packet, []) := by
      simp only [drain, hgate, and_self, if_true]
    refine ⟨b.withPacket packet, ⟨rfl, rfl, rfl⟩, Or.inl ⟨?_, hrow, hgate.1, ?_⟩⟩
    · rw [hdrain]
      rfl
    · rw [← hsize]
      exact hgate.2
  · have hrow' : JitterBuffer.Waiting { b.withPacket packet with started := true }
        first (ps ++ [packet]) :=
      waiting_of_same hrow rfl rfl
    have hfuel : (ps ++ [packet]).length < (b.withPacket packet).drainFuel := by
      have hpos : ps.length + 1 + 1 ≤
          (ps.length + 1 + 1) * ((b.withPacket packet).maxPackets + 2) :=
        Nat.le_mul_of_pos_right _ (by omega)
      simp only [drainFuel, hsize, List.length_append, List.length_singleton]
      omega
    obtain ⟨b', hloop, hempty, htarget, hstart, hlost, hlate⟩ :=
      drainLoop_waiting _ hrow' hfuel
    have hdrain : (b.withPacket packet).drain =
        (b', (ps ++ [packet]).map DrainMove.emit) := by
      simp only [drain, hgate, if_false]
      exact hloop
    refine ⟨b', ⟨htarget, hlost, hlate⟩, Or.inr ⟨?_, ?_, hstart⟩⟩
    · rw [hdrain, List.flatMap_map]
      congr 1
      exact List.flatMap_pure_eq_map _ _
    · simpa [Nat.add_assoc] using hempty

end JitterBuffer

end Soundwave

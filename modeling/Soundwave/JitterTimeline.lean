import Soundwave.JitterBuffer
import Soundwave.TransitionRuns

/-!
# Timeline accounting of the jitter buffer

Sequence numbers wrap, positions do not.  A timeline runs beside the buffer and
records, in unwrapped positions, where the expected sequence stands, which
packets were accepted and how each position was left behind: heard as audio,
concealed by silence, or jumped over together with a gap.

The buffer and its output inside a timeline are the buffer's own (`push` and
`increase_target` compute them); only the bookkeeping around them is added.
The main result says that this bookkeeping is complete: no position is passed
twice or unexplained, and no accepted packet is stranded or replayed.
-/

namespace Soundwave

section Passages

/-- How positions were left behind by the expected sequence. -/
inductive Passage where
  | audio (position : Nat) (packet : AudioPacket)
  | silence (position : Nat)
  | jump (first missing maxPackets : Nat)
deriving DecidableEq

namespace Passage

/-- First position of the passage. -/
def first : Passage → Nat
  | audio position _ => position
  | silence position => position
  | jump first _ _ => first

/-- First position behind the passage. -/
def stop : Passage → Nat
  | audio position _ => position + 1
  | silence position => position + 1
  | jump first missing _ => first + missing

/-- Whether the passage takes the expected sequence over a position. -/
def covers (passage : Passage) (position : Nat) : Bool :=
  decide (passage.first ≤ position ∧ position < passage.stop)

/-- What the listener gets for the passage. -/
def output : Passage → List JitterOutput
  | audio _ packet => [.audio packet]
  | silence _ => [.silence]
  | jump _ _ _ => []

/-- The passage is justified by the packets accepted so far. -/
def Explained (accepted : List (Nat × AudioPacket)) : Passage → Prop
  | audio position packet =>
      accepted.find? (fun a => a.1 = position) = some (position, packet)
  | silence position => ∀ a ∈ accepted, a.1 ≠ position
  | jump first missing maxPackets =>
      maxPackets < missing ∧ ∀ a ∈ accepted, ¬ (first ≤ a.1 ∧ a.1 < first + missing)

/-- Later packets at later positions do not disturb an explanation. -/
theorem explained_append
    {accepted : List (Nat × AudioPacket)} {passage : Passage}
    {position : Nat} {packet : AudioPacket}
    (hexplained : passage.Explained accepted)
    (hlater : passage.stop ≤ position) :
    passage.Explained (accepted ++ [(position, packet)]) := by
  cases passage with
  | audio x p =>
      have hfind : accepted.find? (fun a => a.1 = x) = some (x, p) := hexplained
      show (accepted ++ [(position, packet)]).find? (fun a => a.1 = x) = some (x, p)
      rw [List.find?_append, hfind]
      rfl
  | silence x =>
      intro a ha
      rw [List.mem_append, List.mem_singleton] at ha
      rcases ha with ha | rfl
      · exact hexplained a ha
      · simp only [stop] at hlater
        simp only
        omega
  | jump first missing maxPackets =>
      refine ⟨hexplained.1, ?_⟩
      intro a ha
      rw [List.mem_append, List.mem_singleton] at ha
      rcases ha with ha | rfl
      · exact hexplained.2 a ha
      · simp only [stop] at hlater
        simp only
        omega

end Passage

/-- Passages that follow one another without gap or overlap. -/
def Tiles : Nat → List Passage → Nat → Prop
  | x, [], y => x = y
  | x, p :: ps, y => p.first = x ∧ x < p.stop ∧ Tiles p.stop ps y

theorem tiles_concat
    {x y : Nat} {ps : List Passage} {p : Passage}
    (h : Tiles x ps y) (hfirst : p.first = y) (hstop : y < p.stop) :
    Tiles x (ps ++ [p]) p.stop := by
  induction ps generalizing x with
  | nil =>
      obtain rfl := h
      exact ⟨hfirst, hstop, rfl⟩
  | cons q ps ih =>
      exact ⟨h.1, h.2.1, ih h.2.2⟩

theorem tiles_le {x y : Nat} {ps : List Passage} (h : Tiles x ps y) : x ≤ y := by
  induction ps generalizing x with
  | nil =>
      exact le_of_eq h
  | cons q ps ih =>
      have := ih h.2.2
      have := h.2.1
      omega

theorem tiles_mem
    {x y : Nat} {ps : List Passage} (h : Tiles x ps y) :
    ∀ p ∈ ps, x ≤ p.first ∧ p.first < p.stop ∧ p.stop ≤ y := by
  induction ps generalizing x with
  | nil =>
      simp
  | cons q ps ih =>
      intro p hp
      obtain ⟨hfirst, hlt, htail⟩ := h
      rcases List.mem_cons.mp hp with rfl | hp
      · exact ⟨le_of_eq hfirst.symm, by omega, tiles_le htail⟩
      · have := ih htail p hp
        omega

/-- Passages start at strictly increasing positions. -/
theorem tiles_increasing
    {x y : Nat} {ps : List Passage} (h : Tiles x ps y) :
    (ps.map Passage.first).Pairwise (· < ·) := by
  induction ps generalizing x with
  | nil =>
      simp
  | cons q ps ih =>
      obtain ⟨hfirst, hlt, htail⟩ := h
      rw [List.map_cons, List.pairwise_cons]
      refine ⟨?_, ih htail⟩
      intro z hz
      obtain ⟨p, hp, rfl⟩ := List.mem_map.mp hz
      have := tiles_mem htail p hp
      omega

/-- Every position in the tiled range lies in exactly one passage. -/
theorem tiles_countP_covers
    {x y z : Nat} {ps : List Passage}
    (h : Tiles x ps y) (hxz : x ≤ z) (hzy : z < y) :
    ps.countP (fun p => p.covers z) = 1 := by
  induction ps generalizing x with
  | nil =>
      have : x = y := h
      omega
  | cons q ps ih =>
      obtain ⟨hfirst, hlt, htail⟩ := h
      by_cases hz : z < q.stop
      · have hnone : ps.countP (fun p => p.covers z) = 0 := by
          rw [List.countP_eq_zero]
          intro p hp
          have := tiles_mem htail p hp
          simp only [Passage.covers, decide_eq_true_eq]
          omega
        have hcovers : q.covers z = true := by
          simp only [Passage.covers, decide_eq_true_eq]
          omega
        rw [List.countP_cons, hnone, if_pos hcovers]
      · have hcovers : ¬ q.covers z = true := by
          simp only [Passage.covers, decide_eq_true_eq]
          omega
        rw [List.countP_cons, if_neg hcovers]
        exact ih htail (by omega)

/-- A passage of a tiling occurs in it once. -/
theorem tiles_count
    {x y : Nat} {ps : List Passage} (h : Tiles x ps y)
    {p : Passage} (hp : p ∈ ps) :
    ps.count p = 1 := by
  have hnodup : ps.Nodup :=
    List.Nodup.of_map Passage.first
      ((tiles_increasing h).imp (fun hlt => Nat.ne_of_lt hlt))
  exact List.count_eq_one_of_mem hnodup hp

end Passages

section Timelines

/-- Calls made on a jitter buffer between two restarts. -/
inductive JitterEvent where
  | push (packet : AudioPacket)
  | increaseTarget (additionalPackets maximumPackets : Nat)

namespace JitterBuffer

/-- One call, with everything `push` has returned so far. -/
def step : JitterBuffer × List JitterOutput → JitterEvent → JitterBuffer × List JitterOutput
  | (b, output), .push packet => ((b.push packet).1, output ++ (b.push packet).2)
  | (b, output), .increaseTarget additional maximum =>
      ((b.increaseTarget additional maximum).1, output)

end JitterBuffer

/-- The passage made by a move of the draining loop at a position. -/
def DrainMove.passage (position : Nat) : DrainMove → Passage
  | emit packet => .audio position packet
  | conceal => .silence position
  | skip missing maxPackets => .jump position missing maxPackets

/-- The passages made by a list of moves. -/
def passages : Nat → List DrainMove → List Passage
  | _, [] => []
  | position, move :: moves => move.passage position :: passages (position + move.width) moves

/-- How far a list of moves takes the expected sequence. -/
def distance (moves : List DrainMove) : Nat :=
  (moves.map DrainMove.width).sum

/-- A jitter buffer together with its history in unwrapped positions. -/
structure Timeline where
  buffer : JitterBuffer
  start : Nat
  expected : Nat
  accepted : List (Nat × AudioPacket)
  passed : List Passage
  output : List JitterOutput

namespace Timeline

/-- History of a buffer that was just created or restarted. -/
def begin (b : JitterBuffer) : Timeline where
  buffer := b
  start := (b.expectedSequence.getD 0).toNat
  expected := (b.expectedSequence.getD 0).toNat
  accepted := []
  passed := []
  output := []

/-- The first packet fixes where the positions start when no restart did. -/
def openAt (t : Timeline) (packet : AudioPacket) : Timeline :=
  if t.buffer.expectedSequence = none then
    { t with
        buffer := t.buffer.opened packet
        start := packet.sequence.toNat
        expected := packet.sequence.toNat }
  else
    t

/-- Position of a sequence number: the first one not behind the expected
position. -/
def positionOf (t : Timeline) (sequence : UInt32) : Nat :=
  t.expected + (sequence - serial t.expected).toNat

/-- One call on the buffer and what it adds to the history. -/
def step (t : Timeline) : JitterEvent → Timeline
  | .push packet =>
      let o := t.openAt packet
      { buffer := (t.buffer.push packet).1
        start := o.start
        expected := o.expected + distance (t.buffer.pushMoves packet)
        accepted :=
          if t.buffer.accepts packet then
            t.accepted ++ [(o.positionOf packet.sequence, packet)]
          else
            t.accepted
        passed := t.passed ++ passages o.expected (t.buffer.pushMoves packet)
        output := t.output ++ (t.buffer.push packet).2 }
  | .increaseTarget additional maximum =>
      { t with buffer := (t.buffer.increaseTarget additional maximum).1 }

/-- Leaving out the history gives the run of the buffer itself. -/
theorem run_buffer_output (t : Timeline) (es : List JitterEvent) :
    ((run step t es).buffer, (run step t es).output) =
      run JitterBuffer.step (t.buffer, t.output) es := by
  induction es generalizing t with
  | nil =>
      rfl
  | cons e es ih =>
      rw [run_cons, run_cons, ih]
      cases e with
      | push packet => rfl
      | increaseTarget additional maximum => rfl

end Timeline

end Timelines

section Accounting

namespace Timeline

/-- Number of positions that were heard as audio. -/
def audioCount (passed : List Passage) : Nat :=
  passed.countP (fun p => match p with
    | .audio _ _ => true
    | _ => false)

/-- The invariant of a timeline; `lostBefore` is the loss counter it began
with. -/
structure Kept (lostBefore : Nat) (t : Timeline) : Prop where
  expected_eq : ∀ e, t.buffer.expectedSequence = some e → e = serial t.expected
  unopened : t.buffer.expectedSequence = none → t.accepted = [] ∧ t.passed = []
  position_serial : ∀ a ∈ t.accepted, serial a.1 = a.2.sequence
  nodup : (t.accepted.map Prod.fst).Nodup
  buffered : ∀ k p, t.buffer.packets.get? k = some p →
    ∃ x, (x, p) ∈ t.accepted ∧ t.expected ≤ x ∧ serial x = k
  held : ∀ a ∈ t.accepted, t.expected ≤ a.1 →
    a.1 < t.expected + 2 ^ 31 ∧ t.buffer.packets.get? (serial a.1) = some a.2
  tiles : Tiles t.start t.passed t.expected
  explained : ∀ p ∈ t.passed, p.Explained t.accepted
  emitted : ∀ a ∈ t.accepted, a.1 < t.expected → Passage.audio a.1 a.2 ∈ t.passed
  lost : t.buffer.lostPackets < u64Max →
    lostBefore ≤ t.buffer.lostPackets ∧
      t.expected = t.start + audioCount t.passed + (t.buffer.lostPackets - lostBefore)

/-- The timeline after one move of the draining loop. -/
def moved (t : Timeline) (move : DrainMove) (b : JitterBuffer) : Timeline :=
  { t with
      buffer := b
      expected := t.expected + move.width
      passed := t.passed ++ [move.passage t.expected] }

theorem find?_eq_of_nodup
    {accepted : List (Nat × AudioPacket)} {x : Nat} {p : AudioPacket}
    (hnodup : (accepted.map Prod.fst).Nodup) (hmem : (x, p) ∈ accepted) :
    accepted.find? (fun a => a.1 = x) = some (x, p) := by
  induction accepted with
  | nil =>
      simp at hmem
  | cons a accepted ih =>
      rw [List.map_cons, List.nodup_cons] at hnodup
      rcases List.mem_cons.mp hmem with heq | hmem
      · rw [← heq]
        simp
      · have hne : a.1 ≠ x := by
          intro h
          exact hnodup.1 (List.mem_map.mpr ⟨(x, p), hmem, h.symm⟩)
        rw [List.find?_cons_of_neg (by simpa using hne)]
        exact ih hnodup.2 hmem

/-- A buffered packet at the expected sequence number sits at the expected
position. -/
theorem mem_accepted_of_get?
    {lostBefore : Nat} {t : Timeline} (h : Kept lostBefore t)
    {p : AudioPacket}
    (hget : t.buffer.packets.get? (serial t.expected) = some p) :
    (t.expected, p) ∈ t.accepted := by
  obtain ⟨x, hx, hle, hserial⟩ := h.buffered _ _ hget
  have hlt := (h.held (x, p) hx hle).1
  have heq : x = t.expected := serial_inj (by simp only at hlt; omega) (by omega) hserial
  rw [← heq]
  exact hx

/-- No packet was accepted strictly before the nearest buffered one. -/
theorem no_accepted_before_next
    {lostBefore : Nat} {t : Timeline} (h : Kept lostBefore t)
    {next : UInt32}
    (hget : t.buffer.packets.get? (serial t.expected) = none)
    (hnext : t.buffer.nextBufferedSequence (serial t.expected) = some next) :
    ∀ a ∈ t.accepted,
      ¬ (t.expected ≤ a.1 ∧ a.1 < t.expected + (next - serial t.expected).toNat) := by
  rintro a ha ⟨hle, hlt⟩
  obtain ⟨hwindow, hheld⟩ := h.held a ha hle
  obtain ⟨_, _, hmin⟩ := JitterBuffer.nextBufferedSequence_spec hnext
  have hdistance : (serial a.1 - serial t.expected).toNat = a.1 - t.expected :=
    toNat_serial_sub_of_le hle (by omega)
  have hkey : serial a.1 ∈ t.buffer.packets.keys := by
    rw [SortedMap.mem_keys_iff, SortedMap.contains_eq_true_iff]
    exact ⟨_, hheld⟩
  have hne : a.1 ≠ t.expected := by
    intro heq
    rw [heq, hget] at hheld
    cases hheld
  have hafter : isAfter (serial a.1) (serial t.expected) = true := by
    rw [isAfter_eq_true_iff, hdistance]
    omega
  have := hmin _ hkey hafter
  omega

theorem audioCount_concat (passed : List Passage) (p : Passage) :
    audioCount (passed ++ [p]) = audioCount passed + audioCount [p] := by
  simp [audioCount, List.countP_append]

/-- Emitting the expected packet keeps the invariant. -/
theorem kept_emit
    {lostBefore : Nat} {t : Timeline} (h : Kept lostBefore t)
    {p : AudioPacket} {b : JitterBuffer}
    (hget : t.buffer.packets.get? (serial t.expected) = some p)
    (hb : b = { t.buffer with
                  packets := t.buffer.packets.erase (serial t.expected)
                  expectedSequence := some (serial t.expected + 1) }) :
    Kept lostBefore (t.moved (.emit p) b) := by
  have hmem := mem_accepted_of_get? h hget
  have hpackets : b.packets = t.buffer.packets.erase (serial t.expected) := by rw [hb]
  have hlost : b.lostPackets = t.buffer.lostPackets := by rw [hb]
  have hbexp : b.expectedSequence = some (serial t.expected + 1) := by rw [hb]
  refine ⟨?_, ?_, h.position_serial, h.nodup, ?_, ?_, ?_, ?_, ?_, ?_⟩
  · intro e he
    simp only [moved, hbexp, Option.some.injEq] at he
    rw [← he]
    exact serial_succ t.expected
  · intro hnone
    simp [moved, hbexp] at hnone
  · intro k q hq
    simp only [moved, hpackets, SortedMap.get?_erase] at hq
    split_ifs at hq with hk
    obtain ⟨x, hx, hle, hserial⟩ := h.buffered k q hq
    refine ⟨x, hx, ?_, hserial⟩
    have hne : x ≠ t.expected := by
      intro heq
      exact hk (by rw [← hserial, heq])
    simp only [moved, DrainMove.width]
    omega
  · intro a ha hle
    simp only [moved, DrainMove.width] at ha hle ⊢
    obtain ⟨hwindow, hheld⟩ := h.held a ha (by omega)
    refine ⟨by omega, ?_⟩
    have hne : serial a.1 ≠ serial t.expected := by
      intro heq
      have := serial_inj (by omega) (by omega) heq
      omega
    rw [hpackets, SortedMap.get?_erase, if_neg hne]
    exact hheld
  · exact tiles_concat h.tiles rfl (Nat.lt_succ_self _)
  · intro q hq
    simp only [moved, List.mem_append, List.mem_singleton] at hq
    rcases hq with hq | rfl
    · exact h.explained q hq
    · exact find?_eq_of_nodup h.nodup hmem
  · intro a ha hlt
    simp only [moved, DrainMove.width, List.mem_append, List.mem_singleton] at ha hlt ⊢
    by_cases hold : a.1 < t.expected
    · exact Or.inl (h.emitted a ha hold)
    · right
      have heq : a.1 = t.expected := by omega
      have hheld := (h.held a ha (by omega)).2
      rw [heq, hget] at hheld
      rw [heq, ← Option.some.inj hheld]
      rfl
  · intro hsat
    simp only [moved] at hsat ⊢
    rw [hlost] at hsat ⊢
    obtain ⟨hle, heq⟩ := h.lost hsat
    refine ⟨hle, ?_⟩
    rw [audioCount_concat]
    simp only [DrainMove.width, DrainMove.passage, audioCount, List.countP_singleton] at heq ⊢
    simp only [if_true]
    omega

/-- Passing positions at which nothing was accepted keeps the invariant. -/
theorem kept_silent
    {lostBefore : Nat} {t : Timeline} (h : Kept lostBefore t)
    {move : DrainMove} {b : JitterBuffer}
    (hwidth : 0 < move.width)
    (hpassage : ∀ p, move ≠ .emit p)
    (hwide : ∀ missing maxPackets, move = .skip missing maxPackets → maxPackets < missing)
    (hnone : ∀ a ∈ t.accepted,
      ¬ (t.expected ≤ a.1 ∧ a.1 < t.expected + move.width))
    (hpackets : b.packets = t.buffer.packets)
    (hexpected : b.expectedSequence = some (serial (t.expected + move.width)))
    (hlost : b.lostPackets = saturatingAdd t.buffer.lostPackets move.width) :
    Kept lostBefore (t.moved move b) := by
  refine ⟨?_, ?_, h.position_serial, h.nodup, ?_, ?_, ?_, ?_, ?_, ?_⟩
  · intro e he
    simp only [moved, hexpected, Option.some.injEq] at he
    exact he.symm
  · intro hn
    simp [moved, hexpected] at hn
  · intro k q hq
    simp only [moved, hpackets] at hq
    obtain ⟨x, hx, hle, hserial⟩ := h.buffered k q hq
    refine ⟨x, hx, ?_, hserial⟩
    have := hnone (x, q) hx
    simp only [moved] at this ⊢
    omega
  · intro a ha hle
    simp only [moved] at ha hle ⊢
    obtain ⟨hwindow, hheld⟩ := h.held a ha (by omega)
    rw [hpackets]
    exact ⟨by omega, hheld⟩
  · have hfirst : (move.passage t.expected).first = t.expected := by
      cases move <;> rfl
    have hstop : (move.passage t.expected).stop = t.expected + move.width := by
      cases move <;> rfl
    simp only [moved]
    rw [← hstop]
    exact tiles_concat h.tiles hfirst (by omega)
  · intro q hq
    simp only [moved, List.mem_append, List.mem_singleton] at hq
    rcases hq with hq | rfl
    · exact h.explained q hq
    · cases move with
      | emit p =>
          exact absurd rfl (hpassage p)
      | conceal =>
          intro a ha heq
          apply hnone a ha
          simp only [DrainMove.width]
          omega
      | skip missing maxPackets =>
          exact ⟨hwide missing maxPackets rfl, hnone⟩
  · intro a ha hlt
    have := hnone a ha
    simp only [moved, List.mem_append] at ha hlt ⊢
    exact Or.inl (h.emitted a ha (by omega))
  · intro hsat
    simp only [moved] at hsat ⊢
    rw [hlost] at hsat ⊢
    unfold saturatingAdd at hsat ⊢
    obtain ⟨hle, heq⟩ := h.lost (by omega)
    have hzero : audioCount [move.passage t.expected] = 0 := by
      cases move with
      | emit p => exact absurd rfl (hpassage p)
      | conceal => rfl
      | skip missing maxPackets => rfl
    rw [audioCount_concat, hzero]
    omega

/-- **Step lemma of the draining loop.** -/
theorem kept_drainStep
    {lostBefore : Nat} {t : Timeline} (h : Kept lostBefore t)
    {move : DrainMove} {b : JitterBuffer}
    (hstep : t.buffer.drainStep = some (move, b)) :
    Kept lostBefore (t.moved move b) := by
  obtain ⟨expected, hexp, hcase⟩ := JitterBuffer.drainStep_cases hstep
  obtain rfl := h.expected_eq expected hexp
  rcases hcase with ⟨p, hget, rfl, hb⟩ | ⟨next, hget, hnext, hwide, rfl, hb⟩ |
      ⟨next, hget, hnext, hnear, rfl, hb⟩
  · exact kept_emit h hget hb
  · have hnone := no_accepted_before_next h hget hnext
    apply kept_silent h
    · simp only [DrainMove.width]
      omega
    · intro p hp
      cases hp
    · intro missing maxPackets heq
      cases heq
      exact hwide
    · exact hnone
    · rw [hb]
    · rw [hb]
      simp only [DrainMove.width]
      rw [serial_add_toNat_sub]
    · rw [hb]
      rfl
  · have hnone := no_accepted_before_next h hget hnext
    obtain ⟨_, hafter, _⟩ := JitterBuffer.nextBufferedSequence_spec hnext
    rw [isAfter_eq_true_iff] at hafter
    apply kept_silent h
    · exact Nat.one_pos
    · intro p hp
      cases hp
    · intro missing maxPackets heq
      cases heq
    · intro a ha hbetween
      apply hnone a ha
      simp only [DrainMove.width] at hbetween
      omega
    · rw [hb]
    · rw [hb]
      simp only [DrainMove.width]
      rw [serial_succ]
    · rw [hb]
      rfl

/-- The timeline after a list of moves of the draining loop. -/
def drained (t : Timeline) (moves : List DrainMove) (b : JitterBuffer) : Timeline :=
  { t with
      buffer := b
      expected := t.expected + distance moves
      passed := t.passed ++ passages t.expected moves }

theorem drained_cons
    (t : Timeline) (move : DrainMove) (moves : List DrainMove) (b b' : JitterBuffer) :
    t.drained (move :: moves) b' = (t.moved move b).drained moves b' := by
  simp [drained, moved, passages, distance, Nat.add_assoc]

/-- **The draining loop keeps the invariant**, whatever its fuel. -/
theorem kept_drainLoop
    {lostBefore : Nat} (fuel : Nat) {t : Timeline} (h : Kept lostBefore t) :
    Kept lostBefore
      (t.drained (JitterBuffer.drainLoop fuel t.buffer).2
        (JitterBuffer.drainLoop fuel t.buffer).1) := by
  induction fuel generalizing t with
  | zero =>
      simpa [JitterBuffer.drainLoop, drained, distance, passages] using h
  | succ fuel ih =>
      unfold JitterBuffer.drainLoop
      cases hstep : t.buffer.drainStep with
      | none =>
          simpa [drained, distance, passages] using h
      | some result =>
          obtain ⟨move, b⟩ := result
          have hmoved := kept_drainStep h hstep
          rw [drained_cons t move _ b]
          exact ih hmoved

/-- The invariant does not look at the target, the start gate, the late counter
or the output. -/
theorem kept_of_same
    {lostBefore : Nat} {t : Timeline} (h : Kept lostBefore t)
    {b : JitterBuffer} (output : List JitterOutput)
    (hexpected : b.expectedSequence = t.buffer.expectedSequence)
    (hpackets : b.packets = t.buffer.packets)
    (hlost : b.lostPackets = t.buffer.lostPackets) :
    Kept lostBefore { t with buffer := b, output := output } := by
  obtain ⟨h₁, h₂, h₃, h₄, h₅, h₆, h₇, h₈, h₉, h₁₀⟩ := h
  rw [← hexpected] at h₁ h₂
  rw [← hpackets] at h₅ h₆
  rw [← hlost] at h₁₀
  exact ⟨h₁, h₂, h₃, h₄, h₅, h₆, h₇, h₈, h₉, h₁₀⟩

theorem kept_drain
    {lostBefore : Nat} {t : Timeline} (h : Kept lostBefore t) :
    Kept lostBefore (t.drained t.buffer.drain.2 t.buffer.drain.1) := by
  unfold JitterBuffer.drain
  split_ifs with hgate
  · simpa [drained, distance, passages] using h
  · have hstarted : Kept lostBefore { t with buffer := { t.buffer with started := true } } :=
      kept_of_same h t.output rfl rfl rfl
    exact kept_drainLoop t.buffer.drainFuel hstarted

/-- Fixing the origin by the first packet keeps the invariant. -/
theorem kept_openAt
    {lostBefore : Nat} {t : Timeline} (h : Kept lostBefore t) (packet : AudioPacket) :
    Kept lostBefore (t.openAt packet) := by
  unfold openAt
  split_ifs with hnone
  · obtain ⟨haccepted, hpassed⟩ := h.unopened hnone
    have hempty : ∀ k p, t.buffer.packets.get? k ≠ some p := by
      intro k p hk
      obtain ⟨x, hx, _⟩ := h.buffered k p hk
      rw [haccepted] at hx
      cases hx
    have hlost := h.lost
    have hexp : t.expected = t.start := by
      have htiles := h.tiles
      rw [hpassed] at htiles
      exact htiles.symm
    refine ⟨?_, ?_, h.position_serial, h.nodup, ?_, ?_, ?_, h.explained, ?_, ?_⟩
    · intro e he
      simp only [JitterBuffer.opened, hnone, Option.getD_none, Option.some.injEq] at he
      rw [← he]
      exact (UInt32.ofNat_toNat).symm
    · intro hn
      simp [JitterBuffer.opened] at hn
    · intro k p hk
      exact absurd hk (hempty k p)
    · intro a ha
      simp only [haccepted] at ha
      cases ha
    · simp only [hpassed]
      rfl
    · intro a ha
      simp only [haccepted] at ha
      cases ha
    · intro hsat
      obtain ⟨hle, heq⟩ := hlost hsat
      refine ⟨hle, ?_⟩
      simp only [JitterBuffer.opened] at heq ⊢
      omega
  · exact h

theorem openAt_expectedSequence (t : Timeline) (packet : AudioPacket) :
    (t.openAt packet).buffer = t.buffer.opened packet := by
  unfold openAt
  split_ifs with hnone
  · rfl
  · obtain ⟨e, he⟩ := Option.ne_none_iff_exists'.mp hnone
    obtain ⟨buffer, start, expected, accepted, passed, output⟩ := t
    have he' : buffer.expectedSequence = some e := he
    simp only [JitterBuffer.opened]
    rw [he', Option.getD_some, ← he']

theorem openAt_history (t : Timeline) (packet : AudioPacket) :
    (t.openAt packet).accepted = t.accepted ∧ (t.openAt packet).passed = t.passed := by
  unfold openAt
  split_ifs
  · exact ⟨rfl, rfl⟩
  · exact ⟨rfl, rfl⟩

/-- Inserting an accepted packet keeps the invariant. -/
theorem kept_insert
    {lostBefore : Nat} {t : Timeline} (h : Kept lostBefore t) {packet : AudioPacket}
    (hexpected : t.buffer.expectedSequence = some (serial t.expected))
    (hfresh : t.buffer.packets.get? packet.sequence = none)
    (hahead : isBefore packet.sequence (serial t.expected) = false) :
    Kept lostBefore
      { t with
          buffer := { t.buffer with
            packets := t.buffer.packets.insert packet.sequence packet }
          accepted := t.accepted ++ [(t.positionOf packet.sequence, packet)] } := by
  have hserial : serial (t.positionOf packet.sequence) = packet.sequence :=
    serial_add_toNat_sub t.expected packet.sequence
  have hle : t.expected ≤ t.positionOf packet.sequence := Nat.le_add_right _ _
  have hlt : t.positionOf packet.sequence < t.expected + 2 ^ 31 := by
    have hdist : ¬ 2 ^ 31 ≤ (packet.sequence - serial t.expected).toNat := by
      intro hge
      rw [← isBefore_eq_true_iff, hahead] at hge
      cases hge
    unfold positionOf
    omega
  have hnew : ∀ a ∈ t.accepted, a.1 ≠ t.positionOf packet.sequence := by
    intro a ha heq
    have hheld := (h.held a ha (by omega)).2
    rw [heq, hserial, hfresh] at hheld
    cases hheld
  refine ⟨?_, ?_, ?_, ?_, ?_, ?_, h.tiles, ?_, ?_, h.lost⟩
  · intro e he
    exact h.expected_eq e he
  · intro hnone
    simp [hexpected] at hnone
  · intro a ha
    rcases List.mem_append.mp ha with ha | ha
    · exact h.position_serial a ha
    · rw [List.mem_singleton.mp ha]
      exact hserial
  · rw [List.map_append, List.nodup_append]
    refine ⟨h.nodup, List.nodup_singleton _, ?_⟩
    intro x hx y hy
    obtain ⟨a, ha, rfl⟩ := List.mem_map.mp hx
    rw [List.mem_singleton.mp hy]
    exact hnew a ha
  · intro k p hk
    simp only [SortedMap.get?_insert] at hk
    split_ifs at hk with hkey
    · refine ⟨t.positionOf packet.sequence, ?_, hle, ?_⟩
      · rw [Option.some.inj hk]
        simp
      · rw [hserial, hkey]
    · obtain ⟨x, hx, hxle, hxserial⟩ := h.buffered k p hk
      exact ⟨x, List.mem_append_left _ hx, hxle, hxserial⟩
  · intro a ha hale
    simp only [SortedMap.get?_insert] at hale ⊢
    rcases List.mem_append.mp ha with ha | ha
    · obtain ⟨hwindow, hheld⟩ := h.held a ha hale
      have hne : serial a.1 ≠ packet.sequence := by
        intro heq
        rw [heq, hfresh] at hheld
        cases hheld
      rw [if_neg hne]
      exact ⟨hwindow, hheld⟩
    · rw [List.mem_singleton.mp ha]
      simp only [hserial, if_true]
      exact ⟨hlt, trivial⟩
  · intro p hp
    have hstop := (tiles_mem h.tiles p hp).2.2
    exact Passage.explained_append (h.explained p hp) (by omega)
  · intro a ha halt
    rcases List.mem_append.mp ha with ha | ha
    · exact h.emitted a ha halt
    · rw [List.mem_singleton.mp ha] at halt
      simp only at halt
      omega

/-- **Step lemma.**  Every call on the buffer keeps the invariant. -/
theorem kept_step
    {lostBefore : Nat} {t : Timeline} (h : Kept lostBefore t) (e : JitterEvent) :
    Kept lostBefore (t.step e) := by
  cases e with
  | push packet =>
      have hopen := kept_openAt h packet
      have hbuffer := openAt_expectedSequence t packet
      obtain ⟨haccepted, hpassed⟩ := openAt_history t packet
      have hexpected : (t.openAt packet).buffer.expectedSequence =
          some (serial (t.openAt packet).expected) := by
        rw [hbuffer]
        have := hopen.expected_eq (t.buffer.expectedSequence.getD packet.sequence)
          (by rw [hbuffer]; rfl)
        rw [← this]
        rfl
      cases haccept : t.buffer.accepts packet with
      | true =>
          have haccept' := haccept
          unfold JitterBuffer.accepts at haccept'
          rw [Bool.and_eq_true, Bool.not_eq_true', Bool.not_eq_true'] at haccept'
          have hgetD : t.buffer.expectedSequence.getD packet.sequence =
              serial (t.openAt packet).expected := by
            rw [hbuffer] at hexpected
            exact Option.some.inj hexpected
          have hinsert := kept_insert hopen hexpected
            (by
              rw [hbuffer]
              exact (SortedMap.contains_eq_false_iff _ _).mp haccept'.1)
            (by
              rw [← hgetD]
              exact haccept'.2)
          have hdrain := kept_drain hinsert
          have hmoves : t.buffer.pushMoves packet = (t.buffer.withPacket packet).drain.2 :=
            if_pos haccept
          simp only [step, JitterBuffer.push_of_accepts haccept, haccept, if_true, hmoves]
          rw [hbuffer, haccepted, hpassed] at hdrain
          exact kept_of_same hdrain _ rfl rfl rfl
      | false =>
          obtain ⟨late, hpush⟩ := JitterBuffer.push_of_not_accepts haccept
          have hmoves : t.buffer.pushMoves packet = [] := by
            unfold JitterBuffer.pushMoves
            rw [haccept]
            rfl
          have hsame := kept_of_same hopen t.output
            (b := { t.buffer.opened packet with latePackets := late })
            (by rw [hbuffer]) (by rw [hbuffer]) (by rw [hbuffer])
          simp only [step, hpush, hmoves, haccept, passages, distance, List.map_nil,
            List.sum_nil, Nat.add_zero, List.append_nil, Bool.false_eq_true, if_false]
          rw [haccepted, hpassed] at hsame
          exact hsame
  | increaseTarget additional maximum =>
      apply kept_of_same h t.output
      all_goals
        unfold JitterBuffer.increaseTarget
        simp only
        split_ifs
        · rfl
        · rfl

end Timeline

end Accounting

section Results

/-- A buffer as `new` or `restart` leaves it. -/
def JitterBuffer.Fresh (b : JitterBuffer) : Prop :=
  (∃ target, b = JitterBuffer.new target) ∨
    ∃ (previous : JitterBuffer) (next : UInt32), b = previous.restart next

/-- Number of audio items in an output. -/
def audioOutputs (output : List JitterOutput) : Nat :=
  output.countP (fun o => match o with
    | .audio _ => true
    | .silence => false)

namespace Timeline

theorem kept_begin {b : JitterBuffer} (hb : b.Fresh) :
    Kept b.lostPackets (begin b) := by
  have hpackets : ∀ k, b.packets.get? k = none := by
    rcases hb with ⟨target, rfl⟩ | ⟨previous, next, rfl⟩
    · exact fun k => SortedMap.get?_empty k
    · exact fun k => SortedMap.get?_empty k
  refine ⟨?_, ?_, ?_, ?_, ?_, ?_, ?_, ?_, ?_, ?_⟩
  · intro e he
    have he' : b.expectedSequence = some e := he
    simp only [begin, he', Option.getD_some]
    exact (UInt32.ofNat_toNat).symm
  · exact fun _ => ⟨rfl, rfl⟩
  · exact fun a ha => absurd ha List.not_mem_nil
  · exact List.nodup_nil
  · intro k p hk
    have hk' : b.packets.get? k = some p := hk
    rw [hpackets k] at hk'
    cases hk'
  · exact fun a ha => absurd ha List.not_mem_nil
  · rfl
  · exact fun p hp => absurd hp List.not_mem_nil
  · exact fun a ha => absurd ha List.not_mem_nil
  · intro _
    simp [begin, audioCount]

theorem passages_output (position : Nat) (moves : List DrainMove) :
    (passages position moves).flatMap Passage.output =
      moves.flatMap DrainMove.output := by
  induction moves generalizing position with
  | nil =>
      rfl
  | cons move moves ih =>
      have hmove : (move.passage position).output = move.output := by
        cases move <;> rfl
      simp only [passages, List.flatMap_cons, hmove, ih]

theorem step_output
    {t : Timeline} (h : t.output = t.passed.flatMap Passage.output) (e : JitterEvent) :
    (t.step e).output = (t.step e).passed.flatMap Passage.output := by
  cases e with
  | push packet =>
      simp only [step, List.flatMap_append, passages_output, h]
      congr 1
      cases haccept : t.buffer.accepts packet with
      | true =>
          rw [JitterBuffer.push_of_accepts haccept]
      | false =>
          obtain ⟨late, hpush⟩ := JitterBuffer.push_of_not_accepts haccept
          rw [hpush]
          unfold JitterBuffer.pushMoves
          rw [haccept]
          rfl
  | increaseTarget additional maximum =>
      exact h

theorem audioOutputs_passed (passed : List Passage) :
    audioOutputs (passed.flatMap Passage.output) = audioCount passed := by
  induction passed with
  | nil =>
      rfl
  | cons p passed ih =>
      rw [List.flatMap_cons, audioOutputs, List.countP_append, ← audioOutputs, ← audioOutputs,
        ih, audioCount, audioCount, List.countP_cons, Nat.add_comm]
      cases p <;> rfl

/-- What the history of a run of the buffer `b` accounts for. -/
structure Accounted (b : JitterBuffer) (t : Timeline) : Prop where
  expected_sequence : ∀ e, t.buffer.expectedSequence = some e → e = serial t.expected
  accepted_sequence : ∀ a ∈ t.accepted, serial a.1 = a.2.sequence
  window : ∀ k p, t.buffer.packets.get? k = some p →
    ∃ x, serial x = k ∧ (x, p) ∈ t.accepted ∧ t.expected ≤ x ∧ x < t.expected + 2 ^ 31
  outputs : t.output = t.passed.flatMap Passage.output
  increasing : (t.passed.map Passage.first).Pairwise (· < ·)
  passed_once : ∀ x, t.start ≤ x → x < t.expected →
    t.passed.countP (fun p => p.covers x) = 1
  passed_explained : ∀ p ∈ t.passed,
    t.start ≤ p.first ∧ p.stop ≤ t.expected ∧ p.Explained t.accepted
  advance : t.buffer.lostPackets < u64Max →
    b.lostPackets ≤ t.buffer.lostPackets ∧
      t.expected =
        t.start + audioOutputs t.output + (t.buffer.lostPackets - b.lostPackets)
  accepted_once : ∀ a ∈ t.accepted,
    (t.expected ≤ a.1 ∧ t.buffer.packets.get? (serial a.1) = some a.2 ∧
        t.passed.count (.audio a.1 a.2) = 0) ∨
      (a.1 < t.expected ∧ t.passed.count (.audio a.1 a.2) = 1)

theorem accounted_of_kept
    {b : JitterBuffer} {t : Timeline} (h : Kept b.lostPackets t)
    (houtput : t.output = t.passed.flatMap Passage.output) :
    Accounted b t where
  expected_sequence := h.expected_eq
  accepted_sequence := h.position_serial
  window := by
    intro k p hk
    obtain ⟨x, hx, hle, hserial⟩ := h.buffered k p hk
    exact ⟨x, hserial, hx, hle, (h.held (x, p) hx hle).1⟩
  outputs := houtput
  increasing := tiles_increasing h.tiles
  passed_once := fun x hstart hlt => tiles_countP_covers h.tiles hstart hlt
  passed_explained := by
    intro p hp
    obtain ⟨hfirst, _, hstop⟩ := tiles_mem h.tiles p hp
    exact ⟨hfirst, hstop, h.explained p hp⟩
  advance := by
    intro hsat
    rw [houtput, audioOutputs_passed]
    exact h.lost hsat
  accepted_once := by
    intro a ha
    by_cases hlt : a.1 < t.expected
    · exact Or.inr ⟨hlt, tiles_count h.tiles (h.emitted a ha hlt)⟩
    · left
      refine ⟨by omega, (h.held a ha (by omega)).2, ?_⟩
      rw [List.count_eq_zero]
      intro hmem
      have hstop := (tiles_mem h.tiles _ hmem).2.2
      simp only [Passage.stop] at hstop
      omega

/-- **Timeline accounting.**  In every run of `push` and `increase_target` since
the creation or the last restart of a jitter buffer, the history accounts for
every position, every output and every accepted packet. -/
theorem run_accounted
    (b : JitterBuffer) (hb : b.Fresh) (es : List JitterEvent) :
    ((run step (begin b) es).buffer, (run step (begin b) es).output) =
        run JitterBuffer.step (b, []) es ∧
      Accounted b (run step (begin b) es) := by
  refine ⟨run_buffer_output (begin b) es, ?_⟩
  have hinv : Kept b.lostPackets (run step (begin b) es) ∧
      (run step (begin b) es).output =
        (run step (begin b) es).passed.flatMap Passage.output := by
    refine run_preserves
      (fun t => Kept b.lostPackets t ∧ t.output = t.passed.flatMap Passage.output)
      ?_ ⟨kept_begin hb, rfl⟩ es
    intro t e hinv
    exact ⟨kept_step hinv.1 e, step_output hinv.2 e⟩
  exact accounted_of_kept hinv.1 hinv.2

/-- A restart just below the wrap, a packet lost there, and a far jump after. -/
theorem run_accounted_across_wrap :
    let b := (JitterBuffer.new 1).restart 4294967294
    let es := [JitterEvent.push ⟨4294967294, 0, []⟩, .push ⟨0, 0, []⟩, .push ⟨9, 0, []⟩]
    (JitterBuffer.new 1).restart 4294967294 = b ∧
      (run step (begin b) es).passed =
        [.audio 4294967294 ⟨4294967294, 0, []⟩, .silence 4294967295,
          .audio 4294967296 ⟨0, 0, []⟩, .jump 4294967297 8 4,
          .audio 4294967305 ⟨9, 0, []⟩] ∧
      Accounted b (run step (begin b) es) := by
  intro b es
  refine ⟨rfl, by decide +kernel, ?_⟩
  exact (run_accounted b (Or.inr ⟨JitterBuffer.new 1, 4294967294, rfl⟩) es).2

end Timeline

end Results

end Soundwave

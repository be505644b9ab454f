import Mathlib.Data.List.DropRight
import Soundwave.PcmRing
import Soundwave.TransitionRuns

/-!
# The PCM ring as a queue with prefill

What the ring is for, when its calls do not overlap: a queue that keeps the newest
`capacity` samples, and whose reader is held back until enough is queued to start.
`PrefillQueue` says this in terms of whole calls; the ring's loops over single
samples refine it.

A read that runs dry is an underrun.  It sets the latch, so that the next underrun
comes only after some read has found enough to start again.
-/

namespace Soundwave

/-- A complete call on the ring. -/
inductive RingCall where
  | writePcmLe (pcm : List UInt8)
  | writeSilence (samples : Nat)
  | setPlaybackTarget (samples : Nat)
  | beginBuffering
  | clear
  | readInto (len : Nat)

/-- A queue of the newest samples, its reader waiting for a prefill or not. -/
structure PrefillQueue (α : Type) where
  content : List α
  underruns : Nat
  target : Nat
  waiting : Bool

namespace PrefillQueue

variable {α : Type}

/-- The reader still waits. -/
def HoldsBack (q : PrefillQueue α) (len : Nat) : Prop :=
  q.waiting = true ∧ q.content.length < max q.target len

instance (q : PrefillQueue α) (len : Nat) : Decidable (q.HoldsBack len) :=
  inferInstanceAs (Decidable (_ ∧ _))

/-- Write samples; the oldest ones give way. -/
def write (q : PrefillQueue α) (capacity : Nat) (samples : List α) : PrefillQueue α :=
  { q with content := (q.content ++ samples).rtake capacity }

/-- The queue after a read. -/
def read (q : PrefillQueue α) (len : Nat) : PrefillQueue α :=
  if q.HoldsBack len then
    q
  else
    { q with
        content := q.content.drop len
        underruns := q.underruns + if q.content.length < len then 1 else 0
        waiting := decide (q.content.length < len ∧ 0 < q.target) }

/-- What a read delivers: the samples and how many of them were queued. -/
def delivered (q : PrefillQueue α) (zero : α) (len : Nat) : List α × Nat :=
  if q.HoldsBack len then
    (List.replicate len zero, 0)
  else
    (q.content.take len ++ List.replicate (len - q.content.length) zero,
      min len q.content.length)

/-- The queue after a call. -/
def perform (capacity : Nat) (q : PrefillQueue Int16) : RingCall → PrefillQueue Int16
  | .writePcmLe pcm => q.write capacity (decodePcmLe pcm)
  | .writeSilence samples => q.write capacity (List.replicate samples 0)
  | .setPlaybackTarget samples => { q with target := min samples capacity }
  | .beginBuffering => { q with waiting := true }
  | .clear => { q with content := [] }
  | .readInto len => q.read len

/-- The empty queue. -/
def empty : PrefillQueue α where
  content := []
  underruns := 0
  target := 0
  waiting := false

end PrefillQueue

namespace PcmRingBuffer

/-- The ring after a call. -/
def perform (r : PcmRingBuffer Int16) : RingCall → PcmRingBuffer Int16
  | .writePcmLe pcm => r.writePcmLe pcm
  | .writeSilence samples => r.writeSilence 0 samples
  | .setPlaybackTarget samples => r.setPlaybackTarget samples
  | .beginBuffering => r.beginBuffering
  | .clear => r.clear
  | .readInto len => (r.readInto len).2.2

/-- What `read_into` puts into the output buffer, and what it returns. -/
def readSamples (r : PcmRingBuffer Int16) (len : Nat) : List Int16 × Nat :=
  ((r.readInto len).1.map (fun slot => slot.getD 0), (r.readInto len).2.1)

section Contents

variable {α : Type}

/-- The queue that a ring stands for. -/
def view (r : PcmRingBuffer α) : PrefillQueue α where
  content := r.queue
  underruns := r.underruns
  target := r.playbackTargetSamples
  waiting := r.buffering

/-- Dropping the oldest early makes no difference. -/
theorem rtake_rtake_append (l w : List α) (n : Nat) :
    (l.rtake n ++ w).rtake n = (l ++ w).rtake n := by
  simp only [List.rtake_eq_reverse_take_reverse, List.reverse_append, List.reverse_reverse]
  congr 1
  rw [List.take_append, List.take_append, List.take_take]
  congr 2
  omega

theorem length_rtake_le (l : List α) (n : Nat) : (l.rtake n).length ≤ n := by
  rw [List.rtake, List.length_drop]
  omega

theorem rtake_of_length_le {l : List α} {n : Nat} (h : l.length ≤ n) : l.rtake n = l := by
  rw [List.rtake, Nat.sub_eq_zero_of_le h, List.drop_zero]

/-- One sample joins the queue, at the expense of the oldest if it is full. -/
theorem pushLatest_eq {r : PcmRingBuffer α} (h : r.queue.length ≤ r.capacity) (sample : α) :
    r.pushLatest sample = { r with queue := (r.queue ++ [sample]).rtake r.capacity } := by
  by_cases hroom : r.queue.length < r.capacity
  · have hfits : (r.queue ++ [sample]).length ≤ r.capacity := by
      rw [List.length_append, List.length_singleton]
      omega
    simp only [pushLatest, push_of_lt sample hroom, if_true, rtake_of_length_le hfits]
  · have hfull : r.queue.length = r.capacity := le_antisymm h (not_lt.mp hroom)
    have hretry : r.pushLatest sample = (r.pop.2.push sample).2 := by
      simp only [pushLatest, push_of_full sample hroom, Bool.false_eq_true, if_false]
    rw [hretry]
    cases hqueue : r.queue with
    | nil =>
        have hzero : r.capacity = 0 := by
          rw [← hfull, hqueue]
          rfl
        rw [pop_of_nil hqueue, push_of_full sample hroom, hzero, List.rtake_zero, ← hqueue, ← hzero]
    | cons oldest rest =>
        rw [hqueue, List.length_cons] at hfull
        have hrtake : (oldest :: rest ++ [sample]).rtake r.capacity = rest ++ [sample] := by
          rw [List.rtake, List.length_append, List.length_cons, List.length_singleton, ← hfull]
          have hone : rest.length + 1 + 1 - (rest.length + 1) = 1 := by omega
          rw [hone]
          rfl
        have hspace : ({ r with queue := rest } : PcmRingBuffer α).queue.length <
            ({ r with queue := rest } : PcmRingBuffer α).capacity :=
          lt_of_lt_of_eq (Nat.lt_succ_self _) hfull
        rw [pop_of_cons hqueue, push_of_lt sample hspace, hrtake]

/-- **Writing** keeps the newest samples. -/
theorem writeSamples_eq {r : PcmRingBuffer α} (h : r.queue.length ≤ r.capacity)
    (samples : List α) :
    r.writeSamples samples = { r with queue := (r.queue ++ samples).rtake r.capacity } := by
  induction samples generalizing r with
  | nil =>
      simp only [writeSamples, List.foldl_nil, List.append_nil, rtake_of_length_le h]
  | cons sample samples ih =>
      have hrest := ih (r := r.pushLatest sample) (by
        rw [pushLatest_eq h]
        exact length_rtake_le _ _)
      have hcons : r.writeSamples (sample :: samples) =
          (r.pushLatest sample).writeSamples samples := rfl
      rw [hcons, hrest, pushLatest_eq h]
      simp only [rtake_rtake_append, List.append_assoc, List.singleton_append]

/-- The pop loop takes samples from the front and pads. -/
theorem popSlots_eq (r : PcmRingBuffer α) (len : Nat) :
    r.popSlots len =
      ((r.queue.take len).map some ++ List.replicate (len - r.queue.length) none,
        { r with queue := r.queue.drop len }) := by
  induction len generalizing r with
  | zero =>
      simp [popSlots]
  | succ len ih =>
      simp only [popSlots, ih, pop]
      cases hqueue : r.queue with
      | nil =>
          simp [List.replicate_succ]
      | cons sample rest =>
          simp

/-- A read that is held back. -/
theorem readInto_of_holdsBack {r : PcmRingBuffer α} {len : Nat} (h : r.view.HoldsBack len) :
    r.readInto len = (List.replicate len none, 0, r) := by
  have hwaiting : r.buffering = true := h.1
  have hshort : r.queue.length < max r.playbackTargetSamples len := h.2
  simp only [readInto, readGate, hwaiting, if_true, if_pos hshort, Bool.false_eq_true, if_false]

/-- A read that goes ahead. -/
theorem readInto_of_not_holdsBack {r : PcmRingBuffer α} {len : Nat}
    (h : ¬ r.view.HoldsBack len) :
    r.readInto len =
      ((r.queue.take len).map some ++ List.replicate (len - r.queue.length) none,
        min len r.queue.length,
        { r with
            queue := r.queue.drop len
            underruns := r.underruns + if r.queue.length < len then 1 else 0
            buffering := decide (r.queue.length < len ∧ 0 < r.playbackTargetSamples) }) := by
  have hgate : r.readGate len = (true, { r with buffering := false }) := by
    cases hlatch : r.buffering with
    | false =>
        simp only [readGate, hlatch, Bool.false_eq_true, if_false]
        obtain ⟨capacity, queue, underruns, target, buffering⟩ := r
        have hoff : buffering = false := hlatch
        rw [hoff]
    | true =>
        have henough : ¬ r.queue.length < max r.playbackTargetSamples len :=
          fun hshort => h ⟨hlatch, hshort⟩
        simp only [readGate, hlatch, if_true, if_neg henough]
  have hactual : (((r.queue.take len).map some ++
      List.replicate (len - r.queue.length) none).filter Option.isSome).length =
        min len r.queue.length := by
    rw [List.filter_append, List.length_append]
    have hsome : ((r.queue.take len).map some).filter Option.isSome =
        (r.queue.take len).map some := by
      rw [List.filter_eq_self]
      intro slot hslot
      obtain ⟨_, _, rfl⟩ := List.mem_map.mp hslot
      rfl
    have hnone : (List.replicate (len - r.queue.length) (none : Option α)).filter
        Option.isSome = [] := by
      rw [List.filter_eq_nil_iff]
      intro slot hslot
      rw [List.eq_of_mem_replicate hslot]
      exact Bool.false_ne_true
    rw [hsome, hnone, List.length_map, List.length_take, List.length_nil, Nat.add_zero]
  simp only [readInto, hgate, if_true, popSlots_eq, hactual]
  by_cases hdry : r.queue.length < len
  · have hshort : min len r.queue.length ≠ len := by omega
    rw [if_pos hshort, if_pos hdry]
    by_cases htarget : 0 < r.playbackTargetSamples
    · simp only [noteUnderrun, beginBuffering, hdry, htarget, if_true, and_self,
        decide_true]
    · simp only [noteUnderrun, beginBuffering, htarget, if_false, and_false,
        decide_false]
  · have hfull : ¬ min len r.queue.length ≠ len := by omega
    rw [if_neg hfull, if_neg hdry]
    simp only [hdry, false_and, decide_false, Nat.add_zero]

end Contents

section Refinement

theorem view_perform {r : PcmRingBuffer Int16} (h : r.queue.length ≤ r.capacity)
    (call : RingCall) : (r.perform call).view = r.view.perform r.capacity call := by
  cases call with
  | writePcmLe pcm =>
      simp only [perform, writePcmLe, writeSamples_eq h]
      rfl
  | writeSilence samples =>
      simp only [perform, writeSilence, writeSamples_eq h]
      rfl
  | setPlaybackTarget samples =>
      rfl
  | beginBuffering =>
      rfl
  | clear =>
      rfl
  | readInto len =>
      by_cases hback : r.view.HoldsBack len
      · simp only [perform, readInto_of_holdsBack hback, PrefillQueue.perform, PrefillQueue.read,
          if_pos hback]
      · simp only [perform, readInto_of_not_holdsBack hback, PrefillQueue.perform,
          PrefillQueue.read, if_neg hback]
        rfl

theorem perform_capacity {r : PcmRingBuffer Int16} (h : r.queue.length ≤ r.capacity)
    (call : RingCall) :
    (r.perform call).capacity = r.capacity ∧
      (r.perform call).queue.length ≤ (r.perform call).capacity := by
  cases call with
  | writePcmLe pcm =>
      simp only [perform, writePcmLe, writeSamples_eq h]
      exact ⟨trivial, length_rtake_le _ _⟩
  | writeSilence samples =>
      simp only [perform, writeSilence, writeSamples_eq h]
      exact ⟨trivial, length_rtake_le _ _⟩
  | setPlaybackTarget samples =>
      exact ⟨rfl, h⟩
  | beginBuffering =>
      exact ⟨rfl, h⟩
  | clear =>
      exact ⟨rfl, Nat.zero_le _⟩
  | readInto len =>
      by_cases hback : r.view.HoldsBack len
      · simp only [perform, readInto_of_holdsBack hback]
        exact ⟨trivial, h⟩
      · simp only [perform, readInto_of_not_holdsBack hback]
        refine ⟨trivial, ?_⟩
        rw [List.length_drop]
        exact (Nat.sub_le _ _).trans h

/-- What a read delivers, slot by slot. -/
theorem readSamples_eq (r : PcmRingBuffer Int16) (len : Nat) :
    r.readSamples len = r.view.delivered 0 len := by
  by_cases hback : r.view.HoldsBack len
  · rw [readSamples, readInto_of_holdsBack hback, PrefillQueue.delivered, if_pos hback]
    simp
  · rw [readSamples, readInto_of_not_holdsBack hback, PrefillQueue.delivered, if_neg hback]
    simp [view, Function.comp_def]

/-- **Refinement.**  After the same calls the ring stands for the same queue. -/
theorem view_run {r : PcmRingBuffer Int16} (h : r.queue.length ≤ r.capacity)
    (calls : List RingCall) :
    (run perform r calls).view = run (PrefillQueue.perform r.capacity) r.view calls ∧
      (run perform r calls).capacity = r.capacity ∧
      (run perform r calls).queue.length ≤ (run perform r calls).capacity := by
  induction calls generalizing r with
  | nil =>
      exact ⟨rfl, rfl, h⟩
  | cons call calls ih =>
      obtain ⟨hsame, hroom⟩ := perform_capacity h call
      obtain ⟨hview, hcapacity, hlength⟩ := ih hroom
      rw [run_cons, run_cons]
      refine ⟨?_, hcapacity.trans hsame, hlength⟩
      rw [hview, hsame, view_perform h]

end Refinement

section Underruns

/-- A waiting reader keeps waiting until a read finds enough. -/
theorem waiting_until_found (capacity : Nat) (calls : List RingCall) (q : PrefillQueue Int16)
    (h : q.waiting = true)
    (hnone : ∀ before len after, calls = before ++ .readInto len :: after →
      (run (PrefillQueue.perform capacity) q before).content.length <
        max (run (PrefillQueue.perform capacity) q before).target len) :
    (run (PrefillQueue.perform capacity) q calls).waiting = true := by
  induction calls using List.reverseRecOn with
  | nil =>
      exact h
  | append_singleton calls call ih =>
      have hwaiting := ih (fun before len after hsplit =>
        hnone before len (after ++ [call]) (by rw [hsplit, List.append_assoc, List.cons_append]))
      rw [run_concat]
      cases call with
      | writePcmLe pcm =>
          exact hwaiting
      | writeSilence samples =>
          exact hwaiting
      | setPlaybackTarget samples =>
          exact hwaiting
      | beginBuffering =>
          rfl
      | clear =>
          exact hwaiting
      | readInto len =>
          have hshort := hnone calls len [] rfl
          rw [PrefillQueue.perform, PrefillQueue.read, if_pos ⟨hwaiting, hshort⟩]
          exact hwaiting

/-- An underrun is a read that goes ahead and finds too little. -/
theorem underrun_iff (q : PrefillQueue Int16) (len : Nat) :
    (q.read len).underruns = q.underruns + 1 ↔
      ¬ q.HoldsBack len ∧ q.content.length < len := by
  rw [PrefillQueue.read]
  split_ifs with hback hdry
  · simp [hback]
  · simp [hback, hdry]
  · simp [hback, hdry]

/-- With a positive target, some read finds enough between two underruns. -/
theorem found_between_underruns {capacity : Nat} {q : PrefillQueue Int16} {first last : Nat}
    {calls : List RingCall} (htarget : 0 < q.target)
    (hfirst : (q.read first).underruns = q.underruns + 1)
    (hlast : ((run (PrefillQueue.perform capacity) (q.read first) calls).read last).underruns =
      (run (PrefillQueue.perform capacity) (q.read first) calls).underruns + 1) :
    ∃ before len after, calls = before ++ .readInto len :: after ∧
      max (run (PrefillQueue.perform capacity) (q.read first) before).target len ≤
        (run (PrefillQueue.perform capacity) (q.read first) before).content.length := by
  by_contra hnone
  obtain ⟨hahead, hdry⟩ := (underrun_iff q first).mp hfirst
  have hwaiting : (q.read first).waiting = true := by
    rw [PrefillQueue.read, if_neg hahead]
    exact decide_eq_true ⟨hdry, htarget⟩
  have hlater := waiting_until_found capacity calls (q.read first) hwaiting (by
    intro before len after hsplit
    by_contra henough
    exact hnone ⟨before, len, after, hsplit, not_lt.mp henough⟩)
  -- the last read was not held back, so it found all it asked for
  obtain ⟨hahead', hdry'⟩ := (underrun_iff _ last).mp hlast
  exact hahead' ⟨hlater, lt_of_lt_of_le hdry' (le_max_right _ _)⟩

/-- The same for the ring. -/
theorem found_between_ring_underruns {r : PcmRingBuffer Int16} (h : r.queue.length ≤ r.capacity)
    {first last : Nat} {between : List RingCall} (htarget : 0 < r.playbackTargetSamples)
    (hfirst : (r.perform (.readInto first)).underruns = r.underruns + 1)
    (hlast : (run perform r (.readInto first :: between ++ [.readInto last])).underruns =
      (run perform r (.readInto first :: between)).underruns + 1) :
    ∃ before len after, between = before ++ .readInto len :: after ∧
      max (run perform r (.readInto first :: before)).playbackTargetSamples len ≤
        (run perform r (.readInto first :: before)).queue.length := by
  have hview : ∀ calls, (run perform r (.readInto first :: calls)).view =
      run (PrefillQueue.perform r.capacity) (r.view.read first) calls :=
    fun calls => (view_run h (.readInto first :: calls)).1
  have hfirst' : (r.view.read first).underruns = r.view.underruns + 1 :=
    (congrArg PrefillQueue.underruns (view_perform h (.readInto first))).symm.trans hfirst
  have hmiddle := (view_run h (.readInto first :: between)).2.2
  have hend := congrArg PrefillQueue.underruns (view_perform hmiddle (.readInto last))
  have hlast' : ((run (PrefillQueue.perform r.capacity) (r.view.read first) between).read
      last).underruns =
        (run (PrefillQueue.perform r.capacity) (r.view.read first) between).underruns + 1 := by
    rw [run_concat] at hlast
    rw [← hview between]
    exact hend.symm.trans hlast
  obtain ⟨before, len, after, hsplit, henough⟩ :=
    found_between_underruns htarget hfirst' hlast'
  refine ⟨before, len, after, hsplit, ?_⟩
  rw [← hview before] at henough
  exact henough

/-- **The ring is a drop-oldest queue with prefill.**  For every sequence of complete
calls: writing keeps the newest `capacity` samples; a read that finds too little while
the latch is set delivers zeros and changes nothing; any other read takes samples from
the front and pads with zeros; `underruns` counts exactly the reads that go ahead and
run dry; and with a positive target, between two of these some read finds enough. -/
theorem ring_is_prefill_queue (capacity : Nat) (calls : List RingCall) :
    let r : PcmRingBuffer Int16 := run perform (new capacity) calls
    (∀ pcm, (r.writePcmLe pcm).queue = (r.queue ++ decodePcmLe pcm).rtake capacity) ∧
    (∀ samples, (r.writeSilence 0 samples).queue =
      (r.queue ++ List.replicate samples 0).rtake capacity) ∧
    (∀ len, r.buffering = true → r.queue.length < max r.playbackTargetSamples len →
      r.readSamples len = (List.replicate len 0, 0) ∧ r.perform (.readInto len) = r) ∧
    (∀ len, ¬ (r.buffering = true ∧ r.queue.length < max r.playbackTargetSamples len) →
      r.readSamples len =
          (r.queue.take len ++ List.replicate (len - r.queue.length) 0,
            min len r.queue.length) ∧
        (r.perform (.readInto len)).queue = r.queue.drop len) ∧
    (∀ call, (r.perform call).underruns = r.underruns ∨
      (r.perform call).underruns = r.underruns + 1) ∧
    (∀ call, (r.perform call).underruns = r.underruns + 1 ↔
      ∃ len, call = .readInto len ∧
        ¬ (r.buffering = true ∧ r.queue.length < max r.playbackTargetSamples len) ∧
        (r.readSamples len).2 < len) ∧
    (∀ first between last, 0 < r.playbackTargetSamples →
      (r.perform (.readInto first)).underruns = r.underruns + 1 →
      (run perform r (.readInto first :: between ++ [.readInto last])).underruns =
        (run perform r (.readInto first :: between)).underruns + 1 →
      ∃ before len after, between = before ++ .readInto len :: after ∧
        max (run perform r (.readInto first :: before)).playbackTargetSamples len ≤
          (run perform r (.readInto first :: before)).queue.length) := by
  intro r
  have hstart : (new capacity : PcmRingBuffer Int16).queue.length ≤
      (new capacity : PcmRingBuffer Int16).capacity := Nat.zero_le _
  obtain ⟨_, hcapacity, hroom⟩ := view_run hstart calls
  have hcap : r.capacity = capacity := hcapacity
  have hlength : r.queue.length ≤ r.capacity := hroom
  have hunderruns : ∀ call,
      (r.perform call).underruns = (r.view.perform r.capacity call).underruns :=
    fun call => congrArg PrefillQueue.underruns (view_perform hlength call)
  have hread : ∀ len, (r.readSamples len).2 < len ∧ ¬ r.view.HoldsBack len ↔
      ¬ r.view.HoldsBack len ∧ r.view.content.length < len := by
    intro len
    rw [and_comm]
    refine and_congr_right (fun hahead => ?_)
    rw [readSamples_eq, PrefillQueue.delivered, if_neg hahead]
    simp only
    omega
  refine ⟨?_, ?_, ?_, ?_, ?_, ?_, ?_⟩
  · intro pcm
    rw [writePcmLe, writeSamples_eq hlength, hcap]
  · intro samples
    rw [writeSilence, writeSamples_eq hlength, hcap]
  · intro len hlatch hshort
    have hback : r.view.HoldsBack len := ⟨hlatch, hshort⟩
    refine ⟨?_, ?_⟩
    · rw [readSamples_eq, PrefillQueue.delivered, if_pos hback]
    · simp only [perform, readInto_of_holdsBack hback]
  · intro len hahead
    have hback : ¬ r.view.HoldsBack len := hahead
    refine ⟨?_, ?_⟩
    · rw [readSamples_eq, PrefillQueue.delivered, if_neg hback]
      rfl
    · simp only [perform, readInto_of_not_holdsBack hback]
  · intro call
    rw [hunderruns]
    cases call with
    | readInto len =>
        simp only [PrefillQueue.perform, PrefillQueue.read]
        split_ifs
        · exact Or.inl rfl
        · exact Or.inr rfl
        · exact Or.inl rfl
    | _ => exact Or.inl rfl
  · intro call
    rw [hunderruns]
    cases call with
    | readInto len =>
        have hiff := (underrun_iff r.view len).trans (hread len).symm
        refine hiff.trans ?_
        constructor
        · rintro ⟨hdry, hahead⟩
          exact ⟨len, rfl, hahead, hdry⟩
        · rintro ⟨_, heq, hahead, hdry⟩
          cases heq
          exact ⟨hdry, hahead⟩
    | _ =>
        constructor
        · intro heq
          exact absurd heq.symm (Nat.succ_ne_self _)
        · rintro ⟨_, heq, _⟩
          cases heq
  · exact fun first between last htarget hfirst hlast =>
      found_between_ring_underruns hlength htarget hfirst hlast

end Underruns

end PcmRingBuffer

end Soundwave

import Soundwave.PcmRing
import Soundwave.TransitionRuns

/-!
# Producer and reader on the PCM ring

The network task writes whole stereo frames into the ring while the playback
thread reads.  Each `ArrayQueue` operation is one atomic step, so a read may
run between two samples of one write, and also between the eviction pop and
the retry push of `push_latest`.

The ring carries no notion of a frame.  Samples leave it in the order they
were written, so the channel of the next sample delivered is the parity of the
number of samples that left the queue before it, while the output slot it
goes to is the parity of the number of slots filled before it.  Evicted
samples move the first count only, padded slots the second one only.  Channels
stay aligned exactly as long as these two kinds of events balance modulo two
at every delivery; `aligned_run_iff` is that statement.
-/

namespace Soundwave

universe u v

/-- Where the producer stands inside `push_latest`, with the samples of the
current call that come after. -/
inductive Producer (α : Type u) where
  | idle
  | push (sample : α) (rest : List α)
  | evict (sample : α) (rest : List α)
  | retry (sample : α) (rest : List α)
deriving DecidableEq

/-- Where the reader stands inside `read_into`. -/
inductive Reader (α : Type u) where
  | idle
  | gate (len : Nat)
  | pop (len : Nat) (slots : List (Option α))
deriving DecidableEq

/-- The ring with its two threads.  `reads` lists the finished output buffers;
`evicted` and `padded` count what the two threads lost and made up so far. -/
structure RingThreads (α : Type u) where
  ring : PcmRingBuffer α
  producer : Producer α
  reader : Reader α
  reads : List (List (Option α))
  evicted : Nat
  padded : Nat

/-- A call of one thread, or one atomic step of it. -/
inductive RingEvent (α : Type u) where
  | write (samples : List α)
  | producer
  | read (len : Nat)
  | reader

namespace Producer

variable {α : Type u}

/-- The loop of `write_pcm_le` turns to its next sample. -/
def next : List α → Producer α
  | [] => .idle
  | sample :: rest => .push sample rest

/-- Samples of the current call that are not in the queue yet. -/
def remaining : Producer α → List α
  | .idle => []
  | .push sample rest => sample :: rest
  | .evict sample rest => sample :: rest
  | .retry sample rest => sample :: rest

@[simp] theorem remaining_push (sample : α) (rest : List α) :
    (push sample rest).remaining = sample :: rest := rfl

@[simp] theorem remaining_retry (sample : α) (rest : List α) :
    (retry sample rest).remaining = sample :: rest := rfl

@[simp] theorem remaining_next (samples : List α) :
    (next samples).remaining = samples := by
  cases samples <;> rfl

end Producer

namespace RingThreads

section Steps

variable {α : Type u}

/-- A fresh ring with both threads idle. -/
def init (ring : PcmRingBuffer α) : RingThreads α where
  ring := ring
  producer := .idle
  reader := .idle
  reads := []
  evicted := 0
  padded := 0

/-- One queue operation of `push_latest`. -/
def producerStep (t : RingThreads α) : RingThreads α :=
  match t.producer with
  | .idle => t
  | .push sample rest =>
      let (pushed, ring) := t.ring.push sample
      { t with
        ring := ring
        producer := if pushed then .next rest else .evict sample rest }
  | .evict sample rest =>
      let (oldest, ring) := t.ring.pop
      { t with
        ring := ring
        producer := .retry sample rest
        evicted := t.evicted + (if oldest.isSome then 1 else 0) }
  | .retry sample rest =>
      { t with ring := (t.ring.push sample).2, producer := .next rest }

/-- One queue operation of `read_into`, or its return. -/
def readerStep (t : RingThreads α) : RingThreads α :=
  match t.reader with
  | .idle => t
  | .gate len =>
      let (ahead, ring) := t.ring.readGate len
      if ahead then
        { t with ring := ring, reader := .pop len [] }
      else
        { t with
          ring := ring
          reader := .idle
          reads := t.reads ++ [List.replicate len none] }
  | .pop len slots =>
      if slots.length < len then
        let (sample, ring) := t.ring.pop
        { t with
          ring := ring
          reader := .pop len (slots ++ [sample])
          padded := t.padded + (if sample.isSome then 0 else 1) }
      else
        let actual := (slots.filter Option.isSome).length
        { t with
          ring := if actual ≠ len then t.ring.noteUnderrun else t.ring
          reader := .idle
          reads := t.reads ++ [slots] }

/-- Interleaved execution: a thread starts a call only when it is idle. -/
def step (t : RingThreads α) : RingEvent α → RingThreads α
  | .write samples =>
      match t.producer with
      | .idle => { t with producer := .next samples }
      | _ => t
  | .producer => t.producerStep
  | .read len =>
      match t.reader with
      | .idle => { t with reader := .gate len }
      | _ => t
  | .reader => t.readerStep

end Steps

end RingThreads

section Channels

/-- Interleaved stereo channels. -/
inductive Channel where
  | left
  | right
deriving DecidableEq

/-- Channel of the sample or output slot at an index: left comes first. -/
def channelAt (index : Nat) : Channel :=
  if index % 2 = 0 then .left else .right

/-- A sample together with the channel it was written for. -/
structure ChannelSample (α : Type u) where
  value : α
  channel : Channel
deriving DecidableEq

theorem channelAt_eq_iff (i j : Nat) :
    channelAt i = channelAt j ↔ (i + j) % 2 = 0 := by
  unfold channelAt
  split_ifs with hi hj hj
  · simp
    omega
  · simp
    omega
  · simp
    omega
  · simp
    omega

variable {α : Type u}

/-- Samples from the `offset`-th one on carry alternating channels. -/
def Alternates (offset : Nat) (samples : List (ChannelSample α)) : Prop :=
  ∀ i s, samples[i]? = some s → s.channel = channelAt (offset + i)

theorem alternates_nil (offset : Nat) :
    Alternates offset ([] : List (ChannelSample α)) := by
  intro i s h
  simp at h

theorem alternates_cons (offset : Nat) (s : ChannelSample α)
    (samples : List (ChannelSample α)) :
    Alternates offset (s :: samples) ↔
      s.channel = channelAt offset ∧ Alternates (offset + 1) samples := by
  constructor
  · intro h
    refine ⟨h 0 s rfl, ?_⟩
    intro i x hx
    have hi := h (i + 1) x (by simpa using hx)
    rw [hi]
    congr 1
    omega
  · rintro ⟨hhead, htail⟩ i x hx
    cases i with
    | zero =>
        simp only [List.getElem?_cons_zero, Option.some.injEq] at hx
        subst hx
        exact hhead
    | succ i =>
        rw [List.getElem?_cons_succ] at hx
        rw [htail i x hx]
        congr 1
        omega

theorem alternates_append (offset : Nat) (xs ys : List (ChannelSample α)) :
    Alternates offset (xs ++ ys) ↔
      Alternates offset xs ∧ Alternates (offset + xs.length) ys := by
  induction xs generalizing offset with
  | nil =>
      simp [alternates_nil]
  | cons x xs ih =>
      rw [List.cons_append, alternates_cons, alternates_cons, ih, and_assoc]
      have hlen : offset + 1 + xs.length = offset + (x :: xs).length := by
        simp only [List.length_cons]
        omega
      rw [hlen]

theorem alternates_shift {offset offset' : Nat} (h : offset % 2 = offset' % 2)
    (samples : List (ChannelSample α)) :
    Alternates offset samples → Alternates offset' samples := by
  intro hs i s hi
  rw [hs i s hi, channelAt_eq_iff]
  omega

/-- Tag the samples of one write call, left first. -/
def tagFrom (offset : Nat) : List α → List (ChannelSample α)
  | [] => []
  | value :: rest => ⟨value, channelAt offset⟩ :: tagFrom (offset + 1) rest

@[simp] theorem length_tagFrom (offset : Nat) (values : List α) :
    (tagFrom offset values).length = values.length := by
  induction values generalizing offset with
  | nil =>
      rfl
  | cons value rest ih =>
      simp [tagFrom, ih]

theorem alternates_tagFrom (offset : Nat) (values : List α) :
    Alternates offset (tagFrom offset values) := by
  induction values generalizing offset with
  | nil =>
      exact alternates_nil offset
  | cons value rest ih =>
      rw [tagFrom, alternates_cons]
      exact ⟨rfl, ih (offset + 1)⟩

/-- Every sample of an output buffer stands in a slot of its own channel. -/
def SlotsAligned (slots : List (Option (ChannelSample α))) : Prop :=
  ∀ i s, slots[i]? = some (some s) → s.channel = channelAt i

theorem slotsAligned_replicate_none (len : Nat) :
    SlotsAligned (List.replicate len (none : Option (ChannelSample α))) := by
  intro i s h
  rw [List.getElem?_replicate] at h
  split_ifs at h
  simp at h

theorem slotsAligned_concat (slots : List (Option (ChannelSample α)))
    (x : Option (ChannelSample α)) :
    SlotsAligned (slots ++ [x]) ↔
      SlotsAligned slots ∧ ∀ s, x = some s → s.channel = channelAt slots.length := by
  constructor
  · intro h
    refine ⟨?_, ?_⟩
    · intro i s hi
      have hlt : i < slots.length := by
        by_contra hge
        rw [List.getElem?_eq_none (by omega)] at hi
        simp at hi
      exact h i s (by rw [List.getElem?_append_left hlt]; exact hi)
    · intro s hs
      exact h slots.length s (by simp [hs])
  · rintro ⟨hslots, hlast⟩ i s hi
    by_cases hlt : i < slots.length
    · rw [List.getElem?_append_left hlt] at hi
      exact hslots i s hi
    · rw [List.getElem?_append_right (by omega)] at hi
      have hzero : i - slots.length = 0 := by
        by_contra hne
        rw [List.getElem?_eq_none (by simp; omega)] at hi
        simp at hi
      have hi' : i = slots.length := by
        omega
      rw [hzero] at hi
      simp only [List.getElem?_cons_zero, Option.some.injEq] at hi
      rw [hi']
      exact hlast s hi

end Channels

namespace RingThreads

section Alignment

variable {α : Type u}

/-- Channel alignment of everything the reader has delivered so far. -/
def Aligned (t : RingThreads (ChannelSample α)) : Prop :=
  (∀ slots ∈ t.reads, SlotsAligned slots) ∧
    match t.reader with
    | .pop _ slots => SlotsAligned slots
    | _ => True

/-- When the reader takes a sample, evictions and padded slots so far balance
modulo two. -/
def EvenLossAtDelivery (t : RingThreads (ChannelSample α)) :
    RingEvent (ChannelSample α) → Prop
  | .reader =>
      match t.reader with
      | .pop len slots =>
          slots.length < len → t.ring.queue ≠ [] → (t.evicted + t.padded) % 2 = 0
      | _ => True
  | _ => True

/-- Calls move whole stereo frames, left sample first. -/
def WholeFrames : RingEvent (ChannelSample α) → Prop
  | .write samples => samples.length % 2 = 0 ∧ Alternates 0 samples
  | .read len => len % 2 = 0
  | _ => True

/-- Number of slots of the current read that are filled. -/
def filledSlots : Reader α → Nat
  | .pop _ slots => slots.length
  | _ => 0

/-- Slots asked for by the current read. -/
def askedSlots : Reader α → Nat
  | .pop len _ => len
  | .gate len => len
  | .idle => 0

/-- Bookkeeping that ties both threads to the write order.  `taken` counts the
samples delivered so far. -/
structure Indexed (t : RingThreads (ChannelSample α)) (taken : Nat) : Prop where
  order : Alternates (taken + t.evicted) (t.ring.queue ++ t.producer.remaining)
  whole : (taken + t.evicted + (t.ring.queue ++ t.producer.remaining).length) % 2 = 0
  slot : (taken + t.padded + filledSlots t.reader) % 2 = 0
  asked : askedSlots t.reader % 2 = 0
  filled : filledSlots t.reader ≤ askedSlots t.reader
  bounded : t.ring.queue.length ≤ t.ring.capacity
  room : ∀ sample rest, t.producer = .retry sample rest →
    t.ring.queue.length < t.ring.capacity

theorem indexed_init (ring : PcmRingBuffer (ChannelSample α)) (hempty : ring.queue = []) :
    Indexed (init ring) 0 where
  order := by
    simp [init, hempty, Producer.remaining, alternates_nil]
  whole := by
    simp [init, hempty, Producer.remaining]
  slot := by
    simp [init, filledSlots]
  asked := by
    simp [init, askedSlots]
  filled := by
    simp [init, filledSlots]
  bounded := by
    simp [init, hempty]
  room := by
    intro sample rest h
    simp [init] at h

theorem indexed_producerStep
    {t : RingThreads (ChannelSample α)} {taken : Nat}
    (hcap : 0 < t.ring.capacity)
    (h : Indexed t taken) :
    Indexed t.producerStep taken := by
  obtain ⟨horder, hwhole, hslot, hasked, hfilled, hbounded, hroom⟩ := h
  unfold producerStep
  cases hp : t.producer with
  | idle =>
      exact ⟨horder, hwhole, hslot, hasked, hfilled, hbounded, hroom⟩
  | push sample rest =>
      rw [hp] at horder hwhole
      by_cases hfull : t.ring.queue.length < t.ring.capacity
      · simp only [PcmRingBuffer.push_of_lt sample hfull, if_true]
        refine ⟨?_, ?_, hslot, hasked, hfilled, ?_, ?_⟩
        · simpa [Producer.remaining_push] using horder
        · simpa [Producer.remaining_push] using hwhole
        · simp only [List.length_append, List.length_singleton]
          omega
        · intro s r hr
          cases rest <;> simp [Producer.next] at hr
      · simp only [PcmRingBuffer.push_of_full sample hfull, Bool.false_eq_true, if_false]
        refine ⟨horder, hwhole, hslot, hasked, hfilled, hbounded, ?_⟩
        intro s r hr
        simp at hr
  | evict sample rest =>
      rw [hp] at horder hwhole
      cases hq : t.ring.queue with
      | nil =>
          simp only [PcmRingBuffer.pop_of_nil hq, Option.isSome_none, Bool.false_eq_true,
            if_false, Nat.add_zero]
          refine ⟨horder, hwhole, hslot, hasked, hfilled, hbounded, ?_⟩
          intro s r _
          rw [hq]
          exact hcap
      | cons oldest queue =>
          rw [hq] at horder hwhole hbounded
          rw [List.cons_append, alternates_cons] at horder
          simp only [List.cons_append, List.length_cons] at hwhole hbounded
          simp only [PcmRingBuffer.pop_of_cons hq, Option.isSome_some, if_true]
          refine ⟨horder.2, ?_, hslot, hasked, hfilled, ?_, ?_⟩
          · simp only [Producer.remaining] at hwhole ⊢
            omega
          · show queue.length ≤ t.ring.capacity
            omega
          · intro s r _
            show queue.length < t.ring.capacity
            omega
  | retry sample rest =>
      have hlt := hroom sample rest hp
      rw [hp] at horder hwhole
      simp only [PcmRingBuffer.push_of_lt sample hlt]
      refine ⟨?_, ?_, hslot, hasked, hfilled, ?_, ?_⟩
      · simpa [Producer.remaining_retry] using horder
      · simpa [Producer.remaining_retry] using hwhole
      · simp only [List.length_append, List.length_singleton]
        omega
      · intro s r hr
        cases rest <;> simp [Producer.next] at hr

/-- Slots filled by the pop loop take the head of the queue or padding. -/
theorem indexed_readerStep
    {t : RingThreads (ChannelSample α)} {taken : Nat}
    (h : Indexed t taken) :
    ∃ taken', Indexed t.readerStep taken' := by
  obtain ⟨horder, hwhole, hslot, hasked, hfilled, hbounded, hroom⟩ := h
  unfold readerStep
  cases hr : t.reader with
  | idle =>
      exact ⟨taken, horder, hwhole, hslot, hasked, hfilled, hbounded, hroom⟩
  | gate len =>
      rw [hr] at hslot hasked
      refine ⟨taken, ?_⟩
      unfold PcmRingBuffer.readGate
      by_cases hbuf : t.ring.buffering = true
      · by_cases hfew : t.ring.queue.length < max t.ring.playbackTargetSamples len
        · simp only [hbuf, hfew, if_true, Bool.false_eq_true, if_false]
          exact ⟨horder, hwhole, hslot, by simp [askedSlots], by simp [filledSlots],
            hbounded, hroom⟩
        · simp only [hbuf, hfew, if_true, if_false]
          exact ⟨horder, hwhole, hslot, hasked, by simp [filledSlots], hbounded, hroom⟩
      · simp only [hbuf, if_false, if_true, Bool.false_eq_true]
        exact ⟨horder, hwhole, hslot, hasked, by simp [filledSlots], hbounded, hroom⟩
  | pop len slots =>
      rw [hr] at hslot hasked hfilled
      simp only [filledSlots, askedSlots] at hslot hasked hfilled
      by_cases hmore : slots.length < len
      · simp only [hmore, if_true]
        cases hq : t.ring.queue with
        | nil =>
            simp only [PcmRingBuffer.pop_of_nil hq, Option.isSome_none, Bool.false_eq_true,
              if_false]
            refine ⟨taken, horder, hwhole, ?_, hasked, ?_, hbounded, hroom⟩
            · simp only [filledSlots, List.length_append, List.length_singleton]
              omega
            · simp only [filledSlots, askedSlots, List.length_append, List.length_singleton]
              omega
        | cons sample queue =>
            rw [hq] at horder hwhole hbounded
            rw [List.cons_append, alternates_cons] at horder
            simp only [List.cons_append, List.length_cons] at hwhole hbounded
            simp only [PcmRingBuffer.pop_of_cons hq, Option.isSome_some, if_true, Nat.add_zero]
            refine ⟨taken + 1, ?_, ?_, ?_, hasked, ?_, ?_, ?_⟩
            · have hshift : taken + t.evicted + 1 = taken + 1 + t.evicted := by
                omega
              rw [hshift] at horder
              exact horder.2
            · show (taken + 1 + t.evicted + (queue ++ t.producer.remaining).length) % 2 = 0
              omega
            · simp only [filledSlots, List.length_append, List.length_singleton]
              omega
            · simp only [filledSlots, askedSlots, List.length_append, List.length_singleton]
              omega
            · show queue.length ≤ t.ring.capacity
              omega
            · intro s r hp
              have := hroom s r hp
              rw [hq] at this
              simp only [List.length_cons] at this
              show queue.length < t.ring.capacity
              omega
      · have hdone : (taken + t.padded) % 2 = 0 := by
          omega
        simp only [hmore, if_false]
        refine ⟨taken, ?_⟩
        by_cases hshort : (slots.filter Option.isSome).length ≠ len
        · simp only [hshort, ne_eq, not_false_eq_true, if_true]
          refine ⟨?_, ?_, hdone, rfl, le_refl 0, ?_, ?_⟩
          · simpa using horder
          · simpa using hwhole
          · simpa using hbounded
          · simpa using hroom
        · simp only [hshort, if_false]
          exact ⟨horder, hwhole, hdone, rfl, le_refl 0, hbounded, hroom⟩

theorem indexed_step
    {t : RingThreads (ChannelSample α)} {taken : Nat}
    (hcap : 0 < t.ring.capacity)
    (h : Indexed t taken) (e : RingEvent (ChannelSample α)) (he : WholeFrames e) :
    ∃ taken', Indexed (t.step e) taken' := by
  cases e with
  | write samples =>
      obtain ⟨horder, hwhole, hslot, hasked, hfilled, hbounded, hroom⟩ := h
      unfold step
      cases hp : t.producer with
      | idle =>
          obtain ⟨heven, halt⟩ := he
          rw [hp] at horder hwhole
          simp only [Producer.remaining, List.append_nil] at horder hwhole
          refine ⟨taken, ?_, ?_, hslot, hasked, hfilled, hbounded, ?_⟩
          · rw [Producer.remaining_next, alternates_append]
            refine ⟨horder, alternates_shift ?_ samples halt⟩
            show 0 % 2 = (taken + t.evicted + t.ring.queue.length) % 2
            omega
          · rw [Producer.remaining_next, List.length_append]
            show (taken + t.evicted + (t.ring.queue.length + samples.length)) % 2 = 0
            omega
          · intro s r hr
            cases samples <;> simp [Producer.next] at hr
      | push sample rest =>
          exact ⟨taken, horder, hwhole, hslot, hasked, hfilled, hbounded, hroom⟩
      | evict sample rest =>
          exact ⟨taken, horder, hwhole, hslot, hasked, hfilled, hbounded, hroom⟩
      | retry sample rest =>
          exact ⟨taken, horder, hwhole, hslot, hasked, hfilled, hbounded, hroom⟩
  | producer =>
      exact ⟨taken, indexed_producerStep hcap h⟩
  | read len =>
      obtain ⟨horder, hwhole, hslot, hasked, hfilled, hbounded, hroom⟩ := h
      unfold step
      cases hr : t.reader with
      | idle =>
          rw [hr] at hslot
          exact ⟨taken, horder, hwhole, hslot, he, Nat.zero_le len, hbounded, hroom⟩
      | gate n =>
          exact ⟨taken, horder, hwhole, hslot, hasked, hfilled, hbounded, hroom⟩
      | pop n slots =>
          exact ⟨taken, horder, hwhole, hslot, hasked, hfilled, hbounded, hroom⟩
  | reader =>
      exact indexed_readerStep h

theorem capacity_step (t : RingThreads α) (e : RingEvent α) :
    (t.step e).ring.capacity = t.ring.capacity := by
  cases e with
  | write samples =>
      unfold step
      cases t.producer <;> rfl
  | producer =>
      simp only [step, producerStep]
      cases t.producer with
      | idle => rfl
      | push sample rest =>
          simp only [PcmRingBuffer.push]
          split_ifs <;> rfl
      | evict sample rest => rfl
      | retry sample rest =>
          simp only [PcmRingBuffer.push]
          split_ifs <;> rfl
  | read len =>
      unfold step
      cases t.reader <;> rfl
  | reader =>
      simp only [step, readerStep]
      cases t.reader with
      | idle => rfl
      | gate len =>
          simp only [PcmRingBuffer.readGate]
          split_ifs <;> rfl
      | pop len slots =>
          simp only [PcmRingBuffer.pop]
          split_ifs <;> simp

/-- The step at which alignment can break is a delivery, and there it is kept
exactly when evictions and padding balance. -/
theorem aligned_step_iff
    {t : RingThreads (ChannelSample α)} {taken : Nat}
    (h : Indexed t taken) (e : RingEvent (ChannelSample α)) :
    Aligned (t.step e) ↔ Aligned t ∧ EvenLossAtDelivery t e := by
  cases e with
  | write samples =>
      unfold step
      cases t.producer <;> simp [Aligned, EvenLossAtDelivery]
  | producer =>
      have hreads : t.producerStep.reads = t.reads ∧ t.producerStep.reader = t.reader := by
        unfold producerStep
        cases t.producer <;> exact ⟨rfl, rfl⟩
      simp only [step, Aligned, hreads.1, hreads.2, EvenLossAtDelivery, and_true]
  | read len =>
      unfold step
      cases hr : t.reader <;> simp [Aligned, EvenLossAtDelivery, hr]
  | reader =>
      simp only [step, readerStep, EvenLossAtDelivery]
      cases hr : t.reader with
      | idle =>
          simp
      | gate len =>
          by_cases hgate : (t.ring.readGate len).1 = true
          · have hnil : SlotsAligned ([] : List (Option (ChannelSample α))) :=
              slotsAligned_replicate_none 0
            simp [Aligned, hr, hnil, hgate]
          · simp [Aligned, hr, hgate, slotsAligned_replicate_none, or_imp, forall_and]
      | pop len slots =>
          by_cases hmore : slots.length < len
          · simp only [hmore, if_true, Aligned, hr, slotsAligned_concat, forall_const]
            rw [and_assoc]
            refine and_congr_right fun _ => and_congr_right fun _ => ?_
            cases hq : t.ring.queue with
            | nil =>
                simp [PcmRingBuffer.pop_of_nil hq]
            | cons sample queue =>
                have hhead := h.order
                rw [hq, List.cons_append, alternates_cons] at hhead
                have hslot := h.slot
                rw [hr] at hslot
                simp only [filledSlots] at hslot
                simp only [PcmRingBuffer.pop_of_cons hq, Option.some.injEq, forall_eq',
                  hhead.1, channelAt_eq_iff, ne_eq, reduceCtorEq, not_false_eq_true,
                  forall_const]
                omega
          · simp only [hmore, if_false, Aligned, hr, List.mem_append, List.mem_singleton]
            simp [or_imp, forall_and]

/-- **Channel alignment, exactly.**  Everything delivered in a run stands in a
slot of its own channel if and only if evictions and padding balance modulo
two whenever the reader takes a sample. -/
theorem aligned_run_iff
    {t : RingThreads (ChannelSample α)} {taken : Nat}
    (hcap : 0 < t.ring.capacity) (h : Indexed t taken)
    (es : List (RingEvent (ChannelSample α))) (hes : ∀ e ∈ es, WholeFrames e) :
    Aligned (run step t es) ↔ Aligned t ∧ Along step EvenLossAtDelivery t es := by
  induction es generalizing t taken with
  | nil =>
      simp [Along]
  | cons e es ih =>
      obtain ⟨taken', h'⟩ := indexed_step hcap h e (hes e (by simp))
      have hcap' : 0 < (t.step e).ring.capacity := by
        rw [capacity_step]
        exact hcap
      rw [run_cons, ih hcap' h' (fun x hx => hes x (List.mem_cons_of_mem e hx)),
        aligned_step_iff h e, Along, and_assoc]

end Alignment

section Erasure

variable {α : Type u} {β : Type v} (f : α → β)

/-- Rename the samples the producer still has to push. -/
def mapProducer : Producer α → Producer β
  | .idle => .idle
  | .push sample rest => .push (f sample) (rest.map f)
  | .evict sample rest => .evict (f sample) (rest.map f)
  | .retry sample rest => .retry (f sample) (rest.map f)

/-- Rename the samples in the reader's buffer. -/
def mapReader : Reader α → Reader β
  | .idle => .idle
  | .gate len => .gate len
  | .pop len slots => .pop len (slots.map (Option.map f))

/-- Rename every sample of the system. -/
def map (t : RingThreads α) : RingThreads β where
  ring :=
    { capacity := t.ring.capacity
      queue := t.ring.queue.map f
      underruns := t.ring.underruns
      playbackTargetSamples := t.ring.playbackTargetSamples
      buffering := t.ring.buffering }
  producer := mapProducer f t.producer
  reader := mapReader f t.reader
  reads := t.reads.map (List.map (Option.map f))
  evicted := t.evicted
  padded := t.padded

/-- Rename the samples of an event. -/
def mapEvent : RingEvent α → RingEvent β
  | .write samples => .write (samples.map f)
  | .producer => .producer
  | .read len => .read len
  | .reader => .reader

theorem map_producerStep (t : RingThreads α) :
    (t.producerStep).map f = (t.map f).producerStep := by
  unfold producerStep
  cases hp : t.producer with
  | idle =>
      simp [map, hp, mapProducer]
  | push sample rest =>
      by_cases hfull : t.ring.queue.length < t.ring.capacity
      · cases rest <;>
          simp [map, hp, mapProducer, Producer.next, PcmRingBuffer.push, hfull]
      · simp [map, hp, mapProducer, PcmRingBuffer.push, hfull]
  | evict sample rest =>
      simp [map, hp, mapProducer, PcmRingBuffer.pop]
  | retry sample rest =>
      by_cases hfull : t.ring.queue.length < t.ring.capacity
      · cases rest <;>
          simp [map, hp, mapProducer, Producer.next, PcmRingBuffer.push, hfull]
      · cases rest <;>
          simp [map, hp, mapProducer, Producer.next, PcmRingBuffer.push, hfull]

theorem map_readerStep (t : RingThreads α) :
    (t.readerStep).map f = (t.map f).readerStep := by
  unfold readerStep
  cases hr : t.reader with
  | idle =>
      simp [map, hr, mapReader]
  | gate len =>
      simp only [map, hr, mapReader, PcmRingBuffer.readGate, List.length_map]
      split_ifs <;> simp_all
  | pop len slots =>
      have hcount : ((slots.map (Option.map f)).filter Option.isSome).length =
          (slots.filter Option.isSome).length := by
        rw [List.filter_map, List.length_map]
        simp [Function.comp_def]
      simp only [map, hr, mapReader, PcmRingBuffer.pop, List.length_map, hcount]
      by_cases hmore : slots.length < len
      · simp [hmore]
      · by_cases hshort : (slots.filter Option.isSome).length = len
        · simp [hmore, hshort]
        · by_cases htarget : 0 < t.ring.playbackTargetSamples
          · simp [hmore, hshort, htarget, PcmRingBuffer.noteUnderrun,
              PcmRingBuffer.beginBuffering]
          · simp [hmore, hshort, htarget, PcmRingBuffer.noteUnderrun]

theorem map_step (t : RingThreads α) (e : RingEvent α) :
    (t.step e).map f = (t.map f).step (mapEvent f e) := by
  cases e with
  | write samples =>
      unfold step
      cases samples <;> cases hp : t.producer <;>
        simp [map, hp, mapEvent, mapProducer, Producer.next]
  | producer =>
      exact map_producerStep f t
  | read len =>
      unfold step
      cases hr : t.reader <;> simp [map, hr, mapEvent, mapReader]
  | reader =>
      exact map_readerStep f t

/-- The threads only move samples: renaming them commutes with every run. -/
theorem map_run (t : RingThreads α) (es : List (RingEvent α)) :
    (run step t es).map f = run step (t.map f) (es.map (mapEvent f)) := by
  induction es generalizing t with
  | nil =>
      rfl
  | cons e es ih =>
      rw [run_cons, ih, map_step]
      rfl

end Erasure

section Calls

/-- Calls of the network task on the ring. -/
inductive WriteCall where
  | pcmLe (pcm : List UInt8)
  | silence (samples : Nat)
deriving DecidableEq

/-- The samples a call passes to `push_latest`, in order. -/
def WriteCall.samples : WriteCall → List Int16
  | .pcmLe pcm => decodePcmLe pcm
  | .silence samples => List.replicate samples 0

/-- Calls and atomic steps of the two threads, as they are scheduled. -/
inductive RingSchedule where
  | write (call : WriteCall)
  | producer
  | read (len : Nat)
  | reader
deriving DecidableEq

/-- Whole stereo frames: four bytes or two samples each. -/
def RingSchedule.WholeStereo : RingSchedule → Prop
  | .write (.pcmLe pcm) => pcm.length % 4 = 0
  | .write (.silence samples) => samples % 2 = 0
  | .read len => len % 2 = 0
  | _ => True

/-- The scheduled event on the ring proper. -/
def RingSchedule.event : RingSchedule → RingEvent Int16
  | .write call => .write call.samples
  | .producer => .producer
  | .read len => .read len
  | .reader => .reader

/-- The same event with every written sample marked by its channel. -/
def RingSchedule.markedEvent : RingSchedule → RingEvent (ChannelSample Int16)
  | .write call => .write (tagFrom 0 call.samples)
  | .producer => .producer
  | .read len => .read len
  | .reader => .reader

theorem wholeFrames_markedEvent (c : RingSchedule) (hc : c.WholeStereo) :
    WholeFrames c.markedEvent := by
  cases c with
  | write call =>
      cases call with
      | pcmLe pcm =>
          refine ⟨?_, alternates_tagFrom 0 _⟩
          have hlen : pcm.length % 4 = 0 := hc
          rw [length_tagFrom, WriteCall.samples, length_decodePcmLe]
          omega
      | silence samples =>
          refine ⟨?_, alternates_tagFrom 0 _⟩
          have hlen : samples % 2 = 0 := hc
          rw [length_tagFrom, WriteCall.samples, List.length_replicate]
          exact hlen
  | producer => trivial
  | read len => exact hc
  | reader => trivial

/-- Start state: an empty ring of some capacity, target and latch. -/
def start (capacity target : Nat) (buffering : Bool) : RingThreads (ChannelSample Int16) :=
  init
    { capacity := capacity
      queue := []
      underruns := 0
      playbackTargetSamples := target
      buffering := buffering }

theorem mapEvent_markedEvent (c : RingSchedule) :
    mapEvent ChannelSample.value c.markedEvent = c.event := by
  have hvalues : ∀ (values : List Int16) (offset : Nat),
      (tagFrom offset values).map ChannelSample.value = values := by
    intro values
    induction values with
    | nil =>
        intro offset
        rfl
    | cons value rest ih =>
        intro offset
        simp [tagFrom, ih]
  cases c with
  | write call => simp [RingSchedule.markedEvent, RingSchedule.event, mapEvent, hvalues]
  | producer => rfl
  | read len => rfl
  | reader => rfl

/-- Forgetting the channel marks gives the run of the ring itself. -/
theorem marked_run_erases (capacity target : Nat) (buffering : Bool)
    (schedule : List RingSchedule) :
    (run step (start capacity target buffering)
        (schedule.map RingSchedule.markedEvent)).map ChannelSample.value =
      run step ((start capacity target buffering).map ChannelSample.value)
        (schedule.map RingSchedule.event) := by
  rw [map_run, List.map_map]
  congr 1
  exact List.map_congr_left fun c _ => mapEvent_markedEvent c

/-- **Stereo alignment of the ring.**  For every schedule of whole-frame calls
and single queue operations, delivered samples keep their channel if and only
if, whenever the reader takes a sample, the samples evicted so far and the
slots padded so far have the same parity. -/
theorem stereo_aligned_iff
    (capacity target : Nat) (buffering : Bool) (hcap : 0 < capacity)
    (schedule : List RingSchedule) (hwhole : ∀ c ∈ schedule, c.WholeStereo) :
    Aligned (run step (start capacity target buffering)
        (schedule.map RingSchedule.markedEvent)) ↔
      Along step EvenLossAtDelivery (start capacity target buffering)
        (schedule.map RingSchedule.markedEvent) := by
  have hstart : Aligned (start capacity target buffering) := by
    simp [Aligned, start, init]
  have hframes : ∀ e ∈ schedule.map RingSchedule.markedEvent, WholeFrames e := by
    intro e he
    obtain ⟨c, hc, rfl⟩ := List.mem_map.mp he
    exact wholeFrames_markedEvent c (hwhole c hc)
  have hindexed : Indexed (start capacity target buffering) 0 := indexed_init _ rfl
  rw [aligned_run_iff hcap hindexed _ hframes]
  exact and_iff_right hstart

/-- Two frames through a ring of one frame: the second write evicts the left
sample of the first, and the reader comes before its right sample is evicted. -/
def evictionRace : List RingSchedule :=
  [.write (.pcmLe [1, 0, 2, 0]), .producer, .producer,
    .write (.pcmLe [3, 0, 4, 0]), .producer, .producer, .producer,
    .read 2, .reader, .reader]

theorem stereo_aligned_iff_at_eviction_race :
    (∀ c ∈ evictionRace, c.WholeStereo) ∧
      (Aligned (run step (start 2 0 false) (evictionRace.map RingSchedule.markedEvent)) ↔
        Along step EvenLossAtDelivery (start 2 0 false)
          (evictionRace.map RingSchedule.markedEvent)) := by
  have hwhole : ∀ c ∈ evictionRace, c.WholeStereo := by
    simp [evictionRace, RingSchedule.WholeStereo]
  exact ⟨hwhole, stereo_aligned_iff 2 0 false (by decide) evictionRace hwhole⟩

/-- At the race the reader puts a right-channel sample into a left slot. -/
theorem eviction_race_swaps_channels :
    (∀ c ∈ evictionRace, c.WholeStereo) ∧ 2 % 2 = 0 ∧
      ¬ Aligned (run step (start 2 0 false)
          (evictionRace.map RingSchedule.markedEvent)) := by
  refine ⟨by simp [evictionRace, RingSchedule.WholeStereo], rfl, ?_⟩
  rintro ⟨_, hslots⟩
  have hfirst := hslots 0 ⟨2, .right⟩ (by decide)
  exact absurd hfirst (by decide)

end Calls

end RingThreads

end Soundwave

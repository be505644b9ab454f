import Mathlib.Tactic
import Soundwave.PcmSamples

/-!
# The PCM ring of the Android client

Model of `ring_buffer.rs`.  The ring is an `ArrayQueue` of samples with an
underrun counter, a playback target and a buffering latch.  The model is
generic in the sample type; `zero` is the padding sample.

A full queue makes `push_latest` evict the oldest sample and push again.
`read_into` waits while the latch is set and fewer than
`max(target, output.len())` samples are queued; otherwise it pops one sample
per output slot and pads with zero where the queue is empty.  A short read
counts one underrun and sets the latch again when the target is positive.
-/

namespace Soundwave

universe u

/-- The bounded sample queue with its counters (`PcmRingBuffer`). -/
structure PcmRingBuffer (α : Type u) where
  capacity : Nat
  queue : List α
  underruns : Nat
  playbackTargetSamples : Nat
  buffering : Bool
deriving DecidableEq

namespace PcmRingBuffer

section Operations

variable {α : Type u}

/-- `PcmRingBuffer::new`. -/
def new (capacitySamples : Nat) : PcmRingBuffer α where
  capacity := capacitySamples
  queue := []
  underruns := 0
  playbackTargetSamples := 0
  buffering := false

/-- `ArrayQueue::push`: refuses a sample when the queue is full. -/
def push (r : PcmRingBuffer α) (sample : α) : Bool × PcmRingBuffer α :=
  if r.queue.length < r.capacity then
    (true, { r with queue := r.queue ++ [sample] })
  else
    (false, r)

/-- `ArrayQueue::pop`. -/
def pop (r : PcmRingBuffer α) : Option α × PcmRingBuffer α :=
  (r.queue.head?, { r with queue := r.queue.tail })

/-- `push_latest`: on a full queue drop the oldest sample and push again. -/
def pushLatest (r : PcmRingBuffer α) (sample : α) : PcmRingBuffer α :=
  let (pushed, r₁) := r.push sample
  if pushed then r₁ else (r₁.pop.2.push sample).2

/-- The common loop of `write_pcm_le` and `write_silence`. -/
def writeSamples (r : PcmRingBuffer α) (samples : List α) : PcmRingBuffer α :=
  samples.foldl pushLatest r

/-- `write_silence`. -/
def writeSilence (r : PcmRingBuffer α) (zero : α) (samples : Nat) : PcmRingBuffer α :=
  r.writeSamples (List.replicate samples zero)

/-- `set_playback_target`. -/
def setPlaybackTarget (r : PcmRingBuffer α) (samples : Nat) : PcmRingBuffer α :=
  { r with playbackTargetSamples := min samples r.capacity }

/-- `begin_buffering`. -/
def beginBuffering (r : PcmRingBuffer α) : PcmRingBuffer α :=
  { r with buffering := true }

/-- `clear`. -/
def clear (r : PcmRingBuffer α) : PcmRingBuffer α :=
  { r with queue := [] }

/-- The prefill test at the start of `read_into`: does the read go ahead? -/
def readGate (r : PcmRingBuffer α) (len : Nat) : Bool × PcmRingBuffer α :=
  if r.buffering then
    if r.queue.length < max r.playbackTargetSamples len then
      (false, r)
    else
      (true, { r with buffering := false })
  else
    (true, r)

/-- The pop loop of `read_into`; `none` marks a padded slot. -/
def popSlots (r : PcmRingBuffer α) : Nat → List (Option α) × PcmRingBuffer α
  | 0 => ([], r)
  | n + 1 =>
      let rest := popSlots r.pop.2 n
      (r.pop.1 :: rest.1, rest.2)

/-- The accounting at the end of `read_into`. -/
def noteUnderrun (r : PcmRingBuffer α) : PcmRingBuffer α :=
  let counted := { r with underruns := r.underruns + 1 }
  if counted.playbackTargetSamples > 0 then counted.beginBuffering else counted

/-- `read_into` on a buffer of `len` slots: the slots, the number of samples
really read and the ring afterwards.  A padded slot holds zero in the code. -/
def readInto (r : PcmRingBuffer α) (len : Nat) :
    List (Option α) × Nat × PcmRingBuffer α :=
  let (ahead, r₁) := r.readGate len
  if ahead then
    let (slots, r₂) := r₁.popSlots len
    let actual := (slots.filter Option.isSome).length
    (slots, actual, if actual ≠ len then r₂.noteUnderrun else r₂)
  else
    (List.replicate len none, 0, r₁)

theorem push_of_lt {r : PcmRingBuffer α} (sample : α)
    (h : r.queue.length < r.capacity) :
    r.push sample = (true, { r with queue := r.queue ++ [sample] }) := by
  unfold push
  rw [if_pos h]

theorem push_of_full {r : PcmRingBuffer α} (sample : α)
    (h : ¬ r.queue.length < r.capacity) :
    r.push sample = (false, r) := by
  unfold push
  rw [if_neg h]

@[simp] theorem noteUnderrun_queue (r : PcmRingBuffer α) :
    r.noteUnderrun.queue = r.queue := by
  simp only [noteUnderrun, beginBuffering]
  split_ifs <;> rfl

@[simp] theorem noteUnderrun_capacity (r : PcmRingBuffer α) :
    r.noteUnderrun.capacity = r.capacity := by
  simp only [noteUnderrun, beginBuffering]
  split_ifs <;> rfl

theorem pop_of_nil {r : PcmRingBuffer α} (h : r.queue = []) :
    r.pop = (none, r) := by
  unfold pop
  rw [h]
  obtain ⟨capacity, queue, underruns, target, buffering⟩ := r
  subst h
  rfl

theorem pop_of_cons {r : PcmRingBuffer α} {sample : α} {rest : List α}
    (h : r.queue = sample :: rest) :
    r.pop = (some sample, { r with queue := rest }) := by
  unfold pop
  rw [h]
  rfl

end Operations

/-- `write_pcm_le`. -/
def writePcmLe (r : PcmRingBuffer Int16) (pcm : List UInt8) : PcmRingBuffer Int16 :=
  r.writeSamples (decodePcmLe pcm)

end PcmRingBuffer

end Soundwave

import Mathlib.Tactic
import Soundwave.AudioPackets

/-!
# Capture blocks

Model of the `BlockAssembler` in `windows-server/src/audio/capture.rs`.  The
captured samples are cut into blocks of fixed size, stamped with the position of
their first frame.  Both `PcmBlock` and `BlockAssembler` carry their size as a
field: a block is full, an assembler never is.

`push_samples` and `push_silence` only move samples from one side to the other,
and the blocks they finish carry consecutive time stamps.
-/

namespace Soundwave

/-- `PcmBlock::SAMPLE_COUNT`: ten milliseconds of interleaved stereo. -/
def blockSampleCount : Nat := sampleRate * channels / 100

/-- Frames of one block, by which the time stamp advances. -/
def blockFrames : UInt64 := UInt64.ofNat (blockSampleCount / channels)

/-- A full block of captured samples (`PcmBlock`). -/
structure PcmBlock where
  timestamp : UInt64
  samples : List Int16
  full : samples.length = blockSampleCount

/-- `BlockAssembler`; `samples` is the filled part of its array. -/
structure BlockAssembler where
  timestamp : UInt64
  samples : List Int16
  room : samples.length < blockSampleCount

namespace BlockAssembler

/-- The empty assembler (`Default`). -/
def empty : BlockAssembler where
  timestamp := 0
  samples := []
  room := by decide

/-- `push_one`, with the block it finishes. -/
def pushOne (a : BlockAssembler) (sample : Int16) : BlockAssembler × Option PcmBlock :=
  if h : a.samples.length + 1 = blockSampleCount then
    ({ timestamp := a.timestamp + blockFrames
       samples := []
       room := by decide },
      some
        { timestamp := a.timestamp
          samples := a.samples ++ [sample]
          full := by rw [List.length_append, List.length_singleton, h] })
  else
    ({ timestamp := a.timestamp
       samples := a.samples ++ [sample]
       room := by
         have := a.room
         rw [List.length_append, List.length_singleton]
         omega },
      none)

/-- `push_samples`, with the blocks it finishes. -/
def pushSamples (a : BlockAssembler) : List Int16 → BlockAssembler × List PcmBlock
  | [] => (a, [])
  | sample :: samples =>
      let rest := (a.pushOne sample).1.pushSamples samples
      (rest.1, (a.pushOne sample).2.toList ++ rest.2)

/-- `push_silence`. -/
def pushSilence (a : BlockAssembler) (count : Nat) : BlockAssembler × List PcmBlock :=
  a.pushSamples (List.replicate count 0)

end BlockAssembler

section BlockStreams

/-- Blocks with consecutive time stamps, from the stamp of the first to the
stamp that the next one will carry. -/
def Consecutive : UInt64 → List PcmBlock → UInt64 → Prop
  | t, [], t' => t = t'
  | t, b :: bs, t' => b.timestamp = t ∧ Consecutive (t + blockFrames) bs t'

theorem consecutive_append
    {t t' t'' : UInt64} {bs cs : List PcmBlock}
    (hbs : Consecutive t bs t') (hcs : Consecutive t' cs t'') :
    Consecutive t (bs ++ cs) t'' := by
  induction bs generalizing t with
  | nil =>
      have heq : t = t' := hbs
      rw [heq]
      exact hcs
  | cons b bs ih =>
      exact ⟨hbs.1, ih hbs.2⟩

namespace BlockAssembler

theorem pushOne_spec (a : BlockAssembler) (sample : Int16) :
    a.samples ++ [sample] =
        (a.pushOne sample).2.toList.flatMap PcmBlock.samples ++ (a.pushOne sample).1.samples ∧
      Consecutive a.timestamp (a.pushOne sample).2.toList (a.pushOne sample).1.timestamp := by
  simp only [pushOne]
  split_ifs with h
  · exact ⟨by simp, rfl, rfl⟩
  · exact ⟨by simp, rfl⟩

/-- **No sample is lost in the assembler.**  What was pending and what is pushed
comes out as full blocks and a new pending part, in order. -/
theorem pushSamples_spec (a : BlockAssembler) (samples : List Int16) :
    a.samples ++ samples =
        (a.pushSamples samples).2.flatMap PcmBlock.samples ++
          (a.pushSamples samples).1.samples ∧
      Consecutive a.timestamp (a.pushSamples samples).2 (a.pushSamples samples).1.timestamp := by
  induction samples generalizing a with
  | nil =>
      simp [pushSamples, Consecutive]
  | cons sample samples ih =>
      obtain ⟨hone, hstamp⟩ := pushOne_spec a sample
      obtain ⟨hrest, hstamps⟩ := ih (a.pushOne sample).1
      constructor
      · calc
          a.samples ++ sample :: samples = (a.samples ++ [sample]) ++ samples := by simp
          _ = (a.pushOne sample).2.toList.flatMap PcmBlock.samples ++
                ((a.pushOne sample).1.samples ++ samples) := by
              rw [hone, List.append_assoc]
          _ = _ := by
              rw [hrest]
              simp [pushSamples]
      · exact consecutive_append hstamp hstamps

end BlockAssembler

end BlockStreams

end Soundwave

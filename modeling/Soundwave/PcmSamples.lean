import Mathlib.Tactic

/-!
# Little-endian PCM bytes

Samples travel as signed 16-bit little-endian words: `i16::to_le_bytes` on the
server, `i16::from_le_bytes` over `chunks_exact(2)` on the phone.  Reading back
what was written gives the same samples, and concatenation of payloads is
concatenation of samples.
-/

namespace Soundwave

section PcmSamples

/-- `i16::to_le_bytes`. -/
def i16ToLeBytes (sample : Int16) : List UInt8 :=
  [UInt8.ofNat (sample.toUInt16.toNat % 256), UInt8.ofNat (sample.toUInt16.toNat / 256)]

/-- `i16::from_le_bytes`. -/
def i16FromLeBytes (low high : UInt8) : Int16 :=
  (UInt16.ofNat (low.toNat + 256 * high.toNat)).toInt16

/-- The samples of a payload: whole pairs of bytes, a trailing odd byte is
dropped (`chunks_exact`). -/
def decodePcmLe : List UInt8 → List Int16
  | low :: high :: rest => i16FromLeBytes low high :: decodePcmLe rest
  | _ => []

/-- The payload of a slice of samples (`send_block`). -/
def encodePcmLe (samples : List Int16) : List UInt8 :=
  samples.flatMap i16ToLeBytes

theorem i16FromLeBytes_toLeBytes (sample : Int16) :
    i16FromLeBytes (UInt8.ofNat (sample.toUInt16.toNat % 256))
      (UInt8.ofNat (sample.toUInt16.toNat / 256)) = sample := by
  have hlt : sample.toUInt16.toNat < 2 ^ 16 := sample.toUInt16.toNat_lt
  have hlow : (UInt8.ofNat (sample.toUInt16.toNat % 256)).toNat =
      sample.toUInt16.toNat % 256 := by
    rw [UInt8.toNat_ofNat']
    omega
  have hhigh : (UInt8.ofNat (sample.toUInt16.toNat / 256)).toNat =
      sample.toUInt16.toNat / 256 := by
    rw [UInt8.toNat_ofNat']
    omega
  have hsum : sample.toUInt16.toNat % 256 + 256 * (sample.toUInt16.toNat / 256) =
      sample.toUInt16.toNat := by
    omega
  unfold i16FromLeBytes
  rw [hlow, hhigh, hsum, UInt16.ofNat_toNat]
  exact Int16.toInt16_toUInt16 sample

theorem encodePcmLe_cons (sample : Int16) (samples : List Int16) :
    encodePcmLe (sample :: samples) = i16ToLeBytes sample ++ encodePcmLe samples := rfl

/-- **PCM round trip.** -/
theorem decodePcmLe_encodePcmLe (samples : List Int16) :
    decodePcmLe (encodePcmLe samples) = samples := by
  induction samples with
  | nil =>
      rfl
  | cons sample samples ih =>
      rw [encodePcmLe_cons]
      unfold i16ToLeBytes
      simp only [List.cons_append, List.nil_append, decodePcmLe]
      rw [i16FromLeBytes_toLeBytes, ih]

@[simp] theorem length_encodePcmLe (samples : List Int16) :
    (encodePcmLe samples).length = 2 * samples.length := by
  induction samples with
  | nil =>
      rfl
  | cons sample samples ih =>
      rw [encodePcmLe_cons]
      simp only [i16ToLeBytes, List.length_append, List.length_cons, List.length_nil, ih]
      omega

theorem length_decodePcmLe : ∀ pcm : List UInt8, (decodePcmLe pcm).length = pcm.length / 2
  | [] => rfl
  | [_] => by simp [decodePcmLe]
  | low :: high :: rest => by
      simp only [decodePcmLe, List.length_cons, length_decodePcmLe rest]
      omega

end PcmSamples

end Soundwave

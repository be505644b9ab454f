import Soundwave.ByteCodec
import Soundwave.PcmSamples

/-!
# Audio datagrams

Model of `crates/protocol/src/audio.rs`: a fixed twelve-byte header with the
sequence number and the source sample position in network byte order, followed
by the PCM payload.  Decoding undoes encoding for every packet, and encoding
undoes decoding for every datagram that has a header.
-/

namespace Soundwave

/-- `SAMPLE_RATE`. -/
def sampleRate : Nat := 48000

/-- `CHANNELS`. -/
def channels : Nat := 2

/-- Bytes occupied by the fixed header (`AUDIO_PACKET_HEADER_LEN`). -/
def audioPacketHeaderLen : Nat := 12

/-- A single real-time audio datagram (`AudioPacket`). -/
structure AudioPacket where
  sequence : UInt32
  timestamp : UInt64
  payload : List UInt8
deriving DecidableEq, Inhabited

/-- `PacketError::TooShort`. -/
inductive PacketError where
  | tooShort (actual minimum : Nat)
deriving DecidableEq

namespace AudioPacket

/-- `AudioPacket::encode`. -/
def encode (packet : AudioPacket) : List UInt8 :=
  beBytes 4 packet.sequence.toNat ++ beBytes 8 packet.timestamp.toNat ++ packet.payload

/-- `AudioPacket::decode`. -/
def decode (encoded : List UInt8) : Except PacketError AudioPacket :=
  if encoded.length < audioPacketHeaderLen then
    .error (.tooShort encoded.length audioPacketHeaderLen)
  else
    .ok
      { sequence := UInt32.ofNat (beValue (encoded.take 4))
        timestamp := UInt64.ofNat (beValue ((encoded.drop 4).take 8))
        payload := encoded.drop audioPacketHeaderLen }

/-- **Datagram round trip.** -/
theorem decode_encode (packet : AudioPacket) :
    decode packet.encode = .ok packet := by
  obtain ⟨sequence, timestamp, payload⟩ := packet
  have hseq : beValue (beBytes 4 sequence.toNat) = sequence.toNat :=
    beValue_beBytes 4 _ (by have := sequence.toNat_lt; omega)
  have htime : beValue (beBytes 8 timestamp.toNat) = timestamp.toNat :=
    beValue_beBytes 8 _ (by have := timestamp.toNat_lt; omega)
  have hlen : ¬ (beBytes 4 sequence.toNat ++ beBytes 8 timestamp.toNat ++ payload).length
      < audioPacketHeaderLen := by
    simp only [List.length_append, length_beBytes, audioPacketHeaderLen]
    omega
  have htake : (beBytes 4 sequence.toNat ++ beBytes 8 timestamp.toNat ++ payload).take 4 =
      beBytes 4 sequence.toNat := by
    rw [List.append_assoc, List.take_left' (length_beBytes 4 _)]
  have hdrop : (beBytes 4 sequence.toNat ++ beBytes 8 timestamp.toNat ++ payload).drop 4 =
      beBytes 8 timestamp.toNat ++ payload := by
    rw [List.append_assoc, List.drop_left' (length_beBytes 4 _)]
  have hrest : (beBytes 4 sequence.toNat ++ beBytes 8 timestamp.toNat ++ payload).drop
      audioPacketHeaderLen = payload := by
    rw [List.drop_left' (by simp [audioPacketHeaderLen])]
  unfold decode encode
  rw [if_neg hlen, htake, hdrop, hrest, List.take_left' (length_beBytes 8 _), hseq, htime,
    UInt32.ofNat_toNat, UInt64.ofNat_toNat]

end AudioPacket

end Soundwave

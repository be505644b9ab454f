import Soundwave.AudioPackets

/-!
# Control messages

The messages of `crates/protocol/src/control.rs` and their layout as postcard
writes it: the index of the variant, then the fields in order.  Unsigned
integers of more than eight bits are varints of their width, Booleans and bytes
are single bytes, strings are prefixed by their length.

Request ids, volumes and ranges are natural numbers here, and what a field has no
bits for is out of the range of the codec; the sequence number of an idle notice
keeps its 32 bits because it is compared modulo `2 ^ 32`.
-/

namespace Soundwave

/-- `SampleFormat`. -/
inductive SampleFormat where
  | i16Le
deriving DecidableEq

/-- `StreamInfo`. -/
structure StreamInfo where
  sampleRate : Nat
  channels : UInt8
  sampleFormat : SampleFormat
  frameDurationMs : UInt8
deriving DecidableEq

/-- `VolumePurpose`. -/
inductive VolumePurpose where
  | user
  | calibration
  | restoreSpeaker
deriving DecidableEq

/-- `CalibrationAction`. -/
inductive CalibrationAction where
  | begin
  | cancel
  | commit (index : Nat)
deriving DecidableEq

/-- `DeviceStatus`. -/
structure DeviceStatus where
  requestId : Nat
  deviceId : String
  name : String
  volume : Nat
  minimum : Nat
  maximum : Nat
  fixed : Bool
  speaker : Bool
  failed : Bool
deriving DecidableEq

/-- `ControlMessage`. -/
inductive ControlMessage where
  | hello (protocolVersion : Nat)
  | streamInfo (stream : StreamInfo)
  | start
  | stop
  | adjustVolume (steps : Int8)
  | audioIdle (nextSequence : UInt32)
  | queryDevice (requestId : Nat)
  | setVolume (requestId index : Nat) (purpose : VolumePurpose)
  | deviceStatus (status : DeviceStatus)
  | calibrationTone (requestId : Nat) (enabled : Bool)
  | toneState (requestId : Nat) (playing failed : Bool)
  | calibrationSession (requestId : Nat) (action : CalibrationAction)
deriving DecidableEq

section Layout

open Codec

/-- Layout of `StreamInfo`. -/
def streamInfoCodec : Codec StreamInfo where
  encode s :=
    (varint .u32).encode s.sampleRate ++ (byte.encode s.channels ++
      ((varint .u32).encode 0 ++ byte.encode s.frameDurationMs))
  decode bytes := do
    let (sampleRate, bytes) ← (varint .u32).decode bytes
    let (channels, bytes) ← byte.decode bytes
    let (format, bytes) ← (varint .u32).decode bytes
    let (frameDurationMs, bytes) ← byte.decode bytes
    if format = 0 then
      some (⟨sampleRate, channels, .i16Le, frameDurationMs⟩, bytes)
    else
      none
  InRange s := (varint .u32).InRange s.sampleRate
  decode_encode := by
    intro s rest hs
    obtain ⟨sampleRate, channels, format, frameDurationMs⟩ := s
    cases format
    simp [hs]
  inRange_of_decode := by
    intro bytes s rest h
    simp only [Option.bind_eq_bind, Option.bind_eq_some_iff, Prod.exists] at h
    obtain ⟨sampleRate, _, hsampleRate, channels, _, _, format, _, _, frame, _, _, h⟩ := h
    split_ifs at h
    cases h
    exact (varint .u32).inRange_of_decode _ _ _ hsampleRate

/-- Layout of `VolumePurpose`. -/
def volumePurposeCodec : Codec VolumePurpose where
  encode
    | .user => (varint .u32).encode 0
    | .calibration => (varint .u32).encode 1
    | .restoreSpeaker => (varint .u32).encode 2
  decode bytes := do
    let (variant, bytes) ← (varint .u32).decode bytes
    match variant with
    | 0 => some (.user, bytes)
    | 1 => some (.calibration, bytes)
    | 2 => some (.restoreSpeaker, bytes)
    | _ => none
  InRange _ := True
  decode_encode := by
    intro purpose rest _
    cases purpose <;> simp
  inRange_of_decode := fun _ _ _ _ => trivial

@[simp] theorem inRange_volumePurpose (purpose : VolumePurpose) :
    volumePurposeCodec.InRange purpose := trivial

/-- The index of a commit has sixteen bits. -/
def CalibrationAction.InRange : CalibrationAction → Prop
  | .begin | .cancel => True
  | .commit index => (varint .u16).InRange index

instance : DecidablePred CalibrationAction.InRange
  | .begin | .cancel => instDecidableTrue
  | .commit index => inferInstanceAs (Decidable ((varint .u16).InRange index))

/-- Layout of `CalibrationAction`. -/
def calibrationActionCodec : Codec CalibrationAction where
  encode
    | .begin => (varint .u32).encode 0
    | .cancel => (varint .u32).encode 1
    | .commit index => (varint .u32).encode 2 ++ (varint .u16).encode index
  decode bytes := do
    let (variant, bytes) ← (varint .u32).decode bytes
    match variant with
    | 0 => some (.begin, bytes)
    | 1 => some (.cancel, bytes)
    | 2 => do
        let (index, bytes) ← (varint .u16).decode bytes
        some (.commit index, bytes)
    | _ => none
  InRange := CalibrationAction.InRange
  decode_encode := by
    intro action rest haction
    cases action with
    | begin => simp
    | cancel => simp
    | commit index => simp [show (varint .u16).InRange index from haction]
  inRange_of_decode := by
    intro bytes action rest h
    simp only [Option.bind_eq_bind, Option.bind_eq_some_iff, Prod.exists] at h
    obtain ⟨variant, bytes', _, h⟩ := h
    split at h
    · cases h
      trivial
    · cases h
      trivial
    · simp only [Option.bind_eq_some_iff, Prod.exists] at h
      obtain ⟨index, _, hindex, h⟩ := h
      cases h
      exact (varint .u16).inRange_of_decode _ _ _ hindex
    · cases h

/-- Layout of `DeviceStatus`. -/
def deviceStatusCodec : Codec DeviceStatus where
  encode s :=
    (varint .u32).encode s.requestId ++ (utf8.encode s.deviceId ++ (utf8.encode s.name ++
      ((varint .u16).encode s.volume ++ ((varint .u16).encode s.minimum ++
        ((varint .u16).encode s.maximum ++ (bool.encode s.fixed ++
          (bool.encode s.speaker ++ bool.encode s.failed)))))))
  decode bytes := do
    let (requestId, bytes) ← (varint .u32).decode bytes
    let (deviceId, bytes) ← utf8.decode bytes
    let (name, bytes) ← utf8.decode bytes
    let (volume, bytes) ← (varint .u16).decode bytes
    let (minimum, bytes) ← (varint .u16).decode bytes
    let (maximum, bytes) ← (varint .u16).decode bytes
    let (fixed, bytes) ← bool.decode bytes
    let (speaker, bytes) ← bool.decode bytes
    let (failed, bytes) ← bool.decode bytes
    some (⟨requestId, deviceId, name, volume, minimum, maximum, fixed, speaker, failed⟩, bytes)
  InRange s :=
    (varint .u32).InRange s.requestId ∧ utf8.InRange s.deviceId ∧ utf8.InRange s.name ∧
      (varint .u16).InRange s.volume ∧ (varint .u16).InRange s.minimum ∧
      (varint .u16).InRange s.maximum
  decode_encode := by
    rintro s rest ⟨hrequest, hdevice, hname, hvolume, hminimum, hmaximum⟩
    simp [hrequest, hdevice, hname, hvolume, hminimum, hmaximum]
  inRange_of_decode := by
    intro bytes s rest h
    simp only [Option.bind_eq_bind, Option.bind_eq_some_iff, Prod.exists] at h
    obtain ⟨requestId, _, hrequest, deviceId, _, hdevice, name, _, hname, volume, _, hvolume,
      minimum, _, hminimum, maximum, _, hmaximum, fixed, _, _, speaker, _, _, failed, _, _, h⟩ := h
    cases h
    exact ⟨(varint .u32).inRange_of_decode _ _ _ hrequest, utf8.inRange_of_decode _ _ _ hdevice,
      utf8.inRange_of_decode _ _ _ hname, (varint .u16).inRange_of_decode _ _ _ hvolume,
      (varint .u16).inRange_of_decode _ _ _ hminimum,
      (varint .u16).inRange_of_decode _ _ _ hmaximum⟩

/-- The fields of a message have the widths of the source. -/
def ControlMessage.InRange : ControlMessage → Prop
  | .hello protocolVersion => (varint .u16).InRange protocolVersion
  | .streamInfo stream => streamInfoCodec.InRange stream
  | .start | .stop | .adjustVolume _ | .audioIdle _ => True
  | .queryDevice requestId => (varint .u32).InRange requestId
  | .setVolume requestId index _ =>
      (varint .u32).InRange requestId ∧ (varint .u16).InRange index
  | .deviceStatus status => deviceStatusCodec.InRange status
  | .calibrationTone requestId _ | .toneState requestId _ _ => (varint .u32).InRange requestId
  | .calibrationSession requestId action =>
      (varint .u32).InRange requestId ∧ calibrationActionCodec.InRange action

instance : DecidablePred ControlMessage.InRange
  | .hello protocolVersion => inferInstanceAs (Decidable ((varint .u16).InRange protocolVersion))
  | .streamInfo stream => inferInstanceAs (Decidable (streamInfoCodec.InRange stream))
  | .start | .stop | .adjustVolume _ | .audioIdle _ => instDecidableTrue
  | .queryDevice requestId | .calibrationTone requestId _ | .toneState requestId _ _ =>
      inferInstanceAs (Decidable ((varint .u32).InRange requestId))
  | .setVolume requestId index _ =>
      inferInstanceAs (Decidable ((varint .u32).InRange requestId ∧ (varint .u16).InRange index))
  | .deviceStatus status => inferInstanceAs (Decidable (deviceStatusCodec.InRange status))
  | .calibrationSession requestId action =>
      inferInstanceAs (Decidable ((varint .u32).InRange requestId ∧
        calibrationActionCodec.InRange action))

/-- Layout of `ControlMessage`. -/
def controlMessageCodec : Codec ControlMessage where
  encode
    | .hello protocolVersion => (varint .u32).encode 0 ++ (varint .u16).encode protocolVersion
    | .streamInfo stream => (varint .u32).encode 1 ++ streamInfoCodec.encode stream
    | .start => (varint .u32).encode 2
    | .stop => (varint .u32).encode 3
    | .adjustVolume steps => (varint .u32).encode 4 ++ byte.encode steps.toUInt8
    | .audioIdle nextSequence =>
        (varint .u32).encode 5 ++ (varint .u32).encode nextSequence.toNat
    | .queryDevice requestId => (varint .u32).encode 6 ++ (varint .u32).encode requestId
    | .setVolume requestId index purpose =>
        (varint .u32).encode 7 ++ ((varint .u32).encode requestId ++
          ((varint .u16).encode index ++ volumePurposeCodec.encode purpose))
    | .deviceStatus status => (varint .u32).encode 8 ++ deviceStatusCodec.encode status
    | .calibrationTone requestId enabled =>
        (varint .u32).encode 9 ++ ((varint .u32).encode requestId ++ bool.encode enabled)
    | .toneState requestId playing failed =>
        (varint .u32).encode 10 ++ ((varint .u32).encode requestId ++
          (bool.encode playing ++ bool.encode failed))
    | .calibrationSession requestId action =>
        (varint .u32).encode 11 ++ ((varint .u32).encode requestId ++
          calibrationActionCodec.encode action)
  decode bytes := do
    let (variant, bytes) ← (varint .u32).decode bytes
    match variant with
    | 0 => do
        let (protocolVersion, bytes) ← (varint .u16).decode bytes
        some (.hello protocolVersion, bytes)
    | 1 => do
        let (stream, bytes) ← streamInfoCodec.decode bytes
        some (.streamInfo stream, bytes)
    | 2 => some (.start, bytes)
    | 3 => some (.stop, bytes)
    | 4 => do
        let (steps, bytes) ← byte.decode bytes
        some (.adjustVolume steps.toInt8, bytes)
    | 5 => do
        let (nextSequence, bytes) ← (varint .u32).decode bytes
        some (.audioIdle (UInt32.ofNat nextSequence), bytes)
    | 6 => do
        let (requestId, bytes) ← (varint .u32).decode bytes
        some (.queryDevice requestId, bytes)
    | 7 => do
        let (requestId, bytes) ← (varint .u32).decode bytes
        let (index, bytes) ← (varint .u16).decode bytes
        let (purpose, bytes) ← volumePurposeCodec.decode bytes
        some (.setVolume requestId index purpose, bytes)
    | 8 => do
        let (status, bytes) ← deviceStatusCodec.decode bytes
        some (.deviceStatus status, bytes)
    | 9 => do
        let (requestId, bytes) ← (varint .u32).decode bytes
        let (enabled, bytes) ← bool.decode bytes
        some (.calibrationTone requestId enabled, bytes)
    | 10 => do
        let (requestId, bytes) ← (varint .u32).decode bytes
        let (playing, bytes) ← bool.decode bytes
        let (failed, bytes) ← bool.decode bytes
        some (.toneState requestId playing failed, bytes)
    | 11 => do
        let (requestId, bytes) ← (varint .u32).decode bytes
        let (action, bytes) ← calibrationActionCodec.decode bytes
        some (.calibrationSession requestId action, bytes)
    | _ => none
  InRange := ControlMessage.InRange
  decode_encode := by
    intro message rest hmessage
    cases message with
    | hello protocolVersion => simp [show (varint .u16).InRange protocolVersion from hmessage]
    | streamInfo stream => simp [show streamInfoCodec.InRange stream from hmessage]
    | start => simp
    | stop => simp
    | adjustVolume steps => simp
    | audioIdle nextSequence =>
        simp [show (varint .u32).InRange nextSequence.toNat from nextSequence.toNat_lt]
    | queryDevice requestId => simp [show (varint .u32).InRange requestId from hmessage]
    | setVolume requestId index purpose =>
        obtain ⟨hrequest, hindex⟩ := hmessage
        simp [hrequest, hindex]
    | deviceStatus status => simp [show deviceStatusCodec.InRange status from hmessage]
    | calibrationTone requestId enabled =>
        simp [show (varint .u32).InRange requestId from hmessage]
    | toneState requestId playing failed =>
        simp [show (varint .u32).InRange requestId from hmessage]
    | calibrationSession requestId action =>
        obtain ⟨hrequest, haction⟩ := hmessage
        simp [hrequest, haction]
  inRange_of_decode := by
    intro bytes message rest h
    simp only [Option.bind_eq_bind, Option.bind_eq_some_iff, Prod.exists] at h
    obtain ⟨variant, bytes', _, h⟩ := h
    -- one case for each variant, in the order of the layout
    split at h
    · simp only [Option.bind_eq_some_iff, Prod.exists] at h
      obtain ⟨protocolVersion, _, hversion, h⟩ := h
      cases h
      exact (varint .u16).inRange_of_decode _ _ _ hversion
    · simp only [Option.bind_eq_some_iff, Prod.exists] at h
      obtain ⟨stream, _, hstream, h⟩ := h
      cases h
      exact streamInfoCodec.inRange_of_decode _ _ _ hstream
    · cases h
      trivial
    · cases h
      trivial
    · simp only [Option.bind_eq_some_iff, Prod.exists] at h
      obtain ⟨steps, _, _, h⟩ := h
      cases h
      trivial
    · simp only [Option.bind_eq_some_iff, Prod.exists] at h
      obtain ⟨nextSequence, _, _, h⟩ := h
      cases h
      trivial
    · simp only [Option.bind_eq_some_iff, Prod.exists] at h
      obtain ⟨requestId, _, hrequest, h⟩ := h
      cases h
      exact (varint .u32).inRange_of_decode _ _ _ hrequest
    · simp only [Option.bind_eq_some_iff, Prod.exists] at h
      obtain ⟨requestId, _, hrequest, index, _, hindex, purpose, _, _, h⟩ := h
      cases h
      exact ⟨(varint .u32).inRange_of_decode _ _ _ hrequest,
        (varint .u16).inRange_of_decode _ _ _ hindex⟩
    · simp only [Option.bind_eq_some_iff, Prod.exists] at h
      obtain ⟨status, _, hstatus, h⟩ := h
      cases h
      exact deviceStatusCodec.inRange_of_decode _ _ _ hstatus
    · simp only [Option.bind_eq_some_iff, Prod.exists] at h
      obtain ⟨requestId, _, hrequest, enabled, _, _, h⟩ := h
      cases h
      exact (varint .u32).inRange_of_decode _ _ _ hrequest
    · simp only [Option.bind_eq_some_iff, Prod.exists] at h
      obtain ⟨requestId, _, hrequest, playing, _, _, failed, _, _, h⟩ := h
      cases h
      exact (varint .u32).inRange_of_decode _ _ _ hrequest
    · simp only [Option.bind_eq_some_iff, Prod.exists] at h
      obtain ⟨requestId, _, hrequest, action, _, haction, h⟩ := h
      cases h
      exact ⟨(varint .u32).inRange_of_decode _ _ _ hrequest,
        calibrationActionCodec.inRange_of_decode _ _ _ haction⟩
    · cases h

namespace ControlMessage

/-- `ControlMessage::encode`. -/
def encode (message : ControlMessage) : List UInt8 :=
  controlMessageCodec.encode message

/-- `ControlMessage::decode`; `from_bytes` accepts and drops trailing bytes. -/
def decode (encoded : List UInt8) : Option ControlMessage :=
  (controlMessageCodec.decode encoded).map Prod.fst

/-- Whatever arrives, the fields of an accepted message have their widths. -/
theorem inRange_of_decode {encoded : List UInt8} {message : ControlMessage}
    (h : decode encoded = some message) : message.InRange := by
  obtain ⟨⟨_, rest⟩, hdecoded, rfl⟩ := Option.map_eq_some_iff.mp h
  exact controlMessageCodec.inRange_of_decode encoded _ rest hdecoded

end ControlMessage

end Layout

end Soundwave

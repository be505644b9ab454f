import Soundwave.CaptureBlocks
import Soundwave.InOrderDelivery

/-!
# Splitting blocks into packets

Model of the `Packetizer` in `windows-server/src/network/server.rs` while the
transmission gate is open: the callback of `for_each_packet` then always
returns `true`, so the model collects the packets in a list.

Durations of 10, 5, 2 and 1 ms divide a block.  Packets of 4 ms do not: the last
192 samples of a block wait as a tail for the first 192 samples of the next one,
provided its time stamp follows on.
-/

namespace Soundwave

/-- `samples_per_packet`. -/
def samplesPerPacket (frameDurationMs : UInt8) : Nat :=
  sampleRate * frameDurationMs.toNat / 1000 * channels

/-- `FOUR_MS_PACKET_SAMPLES`. -/
def fourMsPacketSamples : Nat := samplesPerPacket 4

/-- `FOUR_MS_TAIL_SAMPLES`. -/
def fourMsTailSamples : Nat := blockSampleCount % fourMsPacketSamples

/-- `PendingTail`. -/
structure PendingTail where
  timestamp : UInt64
  samples : List Int16
  size : samples.length = fourMsTailSamples

/-- `Packetizer`. -/
structure Packetizer where
  sequence : UInt32
  frameDurationMs : UInt8
  samplesPerPacket : Nat
  pendingTail : Option PendingTail

/-- `slice::chunks`. -/
def chunks {α : Type} (size : Nat) (l : List α) : List (List α) :=
  (List.range ((l.length + size - 1) / size)).map (fun i => (l.drop (i * size)).take size)

namespace Packetizer

/-- `Packetizer::new`. -/
def new (frameDurationMs : UInt8) : Packetizer where
  sequence := 0
  frameDurationMs := frameDurationMs
  samplesPerPacket := Soundwave.samplesPerPacket frameDurationMs
  pendingTail := none

/-- The loop of `for_each_four_ms_packet`, with the offset it ends at. -/
def fourMsLoop (block : PcmBlock) : Nat → Nat → List (UInt64 × List Int16) × Nat
  | 0, offset => ([], offset)
  | fuel + 1, offset =>
      if offset + fourMsPacketSamples ≤ block.samples.length then
        let rest := fourMsLoop block fuel (offset + fourMsPacketSamples)
        ((block.timestamp + UInt64.ofNat (offset / channels),
            (block.samples.drop offset).take fourMsPacketSamples) :: rest.1,
          rest.2)
      else
        ([], offset)

/-- `for_each_four_ms_packet`.  What the loop leaves over is empty or a tail, see
`fourMsLoop_from_start` and `fourMsLoop_from_tail`. -/
def forEachFourMsPacket (p : Packetizer) (block : PcmBlock) :
    Packetizer × List (UInt64 × List Int16) :=
  let joined :=
    match p.pendingTail with
    | some tail =>
        if block.timestamp = tail.timestamp + UInt64.ofNat (fourMsTailSamples / channels) then
          ([(tail.timestamp,
              tail.samples ++
                block.samples.take (fourMsPacketSamples - fourMsTailSamples))],
            fourMsPacketSamples - fourMsTailSamples)
        else
          ([], 0)
    | none => ([], 0)
  let looped := fourMsLoop block block.samples.length joined.2
  let rest := block.samples.drop looped.2
  ({ p with
      pendingTail :=
        if h : rest.length = fourMsTailSamples then
          some
            { timestamp := block.timestamp + UInt64.ofNat (looped.2 / channels)
              samples := rest
              size := h }
        else
          none },
    joined.1 ++ looped.1)

/-- `for_each_packet`. -/
def forEachPacket (p : Packetizer) (block : PcmBlock) :
    Packetizer × List (UInt64 × List Int16) :=
  if p.frameDurationMs = 4 then
    p.forEachFourMsPacket block
  else
    (p,
      (chunks p.samplesPerPacket block.samples).mapIdx (fun index samples =>
        (block.timestamp + UInt64.ofNat (index * p.samplesPerPacket / channels), samples)))

/-- The packets built by the callback of `send_block`. -/
def number : UInt32 → List (UInt64 × List Int16) → List AudioPacket
  | _, [] => []
  | sequence, (timestamp, samples) :: rest =>
      { sequence := sequence, timestamp := timestamp, payload := encodePcmLe samples } ::
        number (sequence + 1) rest

/-- `send_block` with the gate open. -/
def sendBlock (p : Packetizer) (block : PcmBlock) : Packetizer × List AudioPacket :=
  let split := p.forEachPacket block
  ({ split.1 with sequence := p.sequence + UInt32.ofNat split.2.length },
    number p.sequence split.2)

/-- The samples that wait for the next block. -/
def tailSamples (p : Packetizer) : List Int16 :=
  match p.pendingTail with
  | some tail => tail.samples
  | none => []

/-- A block with this time stamp follows on the pending tail. -/
def Expects (p : Packetizer) (timestamp : UInt64) : Prop :=
  ∀ tail, p.pendingTail = some tail →
    timestamp = tail.timestamp + UInt64.ofNat (fourMsTailSamples / channels)

section Splitting

theorem flatten_chunks_take {α : Type} (size count : Nat) (l : List α) :
    ((List.range count).map (fun i => (l.drop (i * size)).take size)).flatten =
      l.take (count * size) := by
  induction count with
  | zero =>
      simp
  | succ count ih =>
      rw [List.range_succ, List.map_append, List.flatten_append, ih, Nat.succ_mul,
        List.take_add]
      simp

/-- Chunks of a size that divides the length are all full and lose nothing. -/
theorem chunks_of_length
    {α : Type} {size count : Nat} {l : List α}
    (hsize : 0 < size) (hlength : l.length = count * size) :
    (chunks size l).flatten = l ∧ ∀ c ∈ chunks size l, c.length = size := by
  have hcount : (l.length + size - 1) / size = count := by
    rw [hlength, Nat.div_eq_iff hsize]
    omega
  simp only [chunks, hcount]
  constructor
  · rw [flatten_chunks_take, ← hlength, List.take_length]
  · intro c hc
    obtain ⟨i, hi, rfl⟩ := List.mem_map.mp hc
    have hi' : (i + 1) * size ≤ count * size :=
      Nat.mul_le_mul_right size (List.mem_range.mp hi)
    rw [Nat.add_mul] at hi'
    rw [List.length_take, List.length_drop, hlength]
    omega

theorem fourMsLoop_next
    {block : PcmBlock} {fuel offset : Nat}
    (h : offset + fourMsPacketSamples ≤ block.samples.length) :
    fourMsLoop block (fuel + 1) offset =
      ((block.timestamp + UInt64.ofNat (offset / channels),
          (block.samples.drop offset).take fourMsPacketSamples) ::
          (fourMsLoop block fuel (offset + fourMsPacketSamples)).1,
        (fourMsLoop block fuel (offset + fourMsPacketSamples)).2) := by
  rw [fourMsLoop, if_pos h]

theorem fourMsLoop_stop
    {block : PcmBlock} {fuel offset : Nat}
    (h : ¬ offset + fourMsPacketSamples ≤ block.samples.length) :
    fourMsLoop block (fuel + 1) offset = ([], offset) := by
  rw [fourMsLoop, if_neg h]

/-- Without a tail, two packets fit and 192 samples are left over. -/
theorem fourMsLoop_from_start (block : PcmBlock) :
    fourMsLoop block block.samples.length 0 =
      ([(block.timestamp + UInt64.ofNat 0, (block.samples.drop 0).take 384),
        (block.timestamp + UInt64.ofNat 192, (block.samples.drop 384).take 384)], 768) := by
  have hfull : block.samples.length = 960 := block.full
  have hpacket : fourMsPacketSamples = 384 := rfl
  have hfuel : block.samples.length = 957 + 1 + 1 + 1 := hfull
  conv_lhs => rw [hfuel]
  rw [fourMsLoop_next (by omega), fourMsLoop_next (by omega), fourMsLoop_stop (by omega)]
  rfl

/-- Behind a joined tail, two packets use up the block. -/
theorem fourMsLoop_from_tail (block : PcmBlock) :
    fourMsLoop block block.samples.length 192 =
      ([(block.timestamp + UInt64.ofNat 96, (block.samples.drop 192).take 384),
        (block.timestamp + UInt64.ofNat 288, (block.samples.drop 576).take 384)], 960) := by
  have hfull : block.samples.length = 960 := block.full
  have hpacket : fourMsPacketSamples = 384 := rfl
  have hfuel : block.samples.length = 957 + 1 + 1 + 1 := hfull
  conv_lhs => rw [hfuel]
  rw [fourMsLoop_next (by omega), fourMsLoop_next (by omega), fourMsLoop_stop (by omega)]
  rfl

/-- What splitting one block does: nothing is lost, every packet is full, and the
next block follows on. -/
structure Splits
    (p : Packetizer) (block : PcmBlock) (size : Nat)
    (p' : Packetizer) (split : List (UInt64 × List Int16)) : Prop where
  samples : p.tailSamples ++ block.samples = split.flatMap Prod.snd ++ p'.tailSamples
  full : ∀ c ∈ split, c.2.length = size
  duration : p'.frameDurationMs = p.frameDurationMs
  size : p'.samplesPerPacket = p.samplesPerPacket
  expects : p'.Expects (block.timestamp + blockFrames)

/-- A block that does not follow on a pending tail is split by itself. -/
theorem forEachFourMsPacket_fresh
    {p : Packetizer} {block : PcmBlock}
    (h : ∀ tail, p.pendingTail = some tail →
      block.timestamp ≠ tail.timestamp + UInt64.ofNat (fourMsTailSamples / channels)) :
    ∃ hrest : (block.samples.drop 768).length = fourMsTailSamples,
      p.forEachFourMsPacket block =
        ({ p with
            pendingTail := some
              { timestamp := block.timestamp + UInt64.ofNat 384
                samples := block.samples.drop 768
                size := hrest } },
          [(block.timestamp + UInt64.ofNat 0, (block.samples.drop 0).take 384),
            (block.timestamp + UInt64.ofNat 192, (block.samples.drop 384).take 384)]) := by
  have hrest : (block.samples.drop 768).length = fourMsTailSamples := by
    rw [List.length_drop, block.full]
    rfl
  refine ⟨hrest, ?_⟩
  cases hpending : p.pendingTail with
  | none =>
      simp only [forEachFourMsPacket, hpending, fourMsLoop_from_start, hrest, dif_pos,
        List.nil_append]
      rfl
  | some tail =>
      simp only [forEachFourMsPacket, hpending, if_neg (h tail hpending), fourMsLoop_from_start,
        hrest, dif_pos, List.nil_append]
      rfl

/-- A block that follows on a pending tail is joined to it. -/
theorem forEachFourMsPacket_joined
    {p : Packetizer} {block : PcmBlock} {tail : PendingTail} (hpending : p.pendingTail = some tail)
    (hjoin : block.timestamp = tail.timestamp + UInt64.ofNat (fourMsTailSamples / channels)) :
    p.forEachFourMsPacket block =
      ({ p with pendingTail := none },
        [(tail.timestamp, tail.samples ++ block.samples.take 192),
          (block.timestamp + UInt64.ofNat 96, (block.samples.drop 192).take 384),
          (block.timestamp + UInt64.ofNat 288, (block.samples.drop 576).take 384)]) := by
  have hrest : ¬ (block.samples.drop 960).length = fourMsTailSamples := by
    rw [List.length_drop, block.full]
    decide
  have hoffset : fourMsPacketSamples - fourMsTailSamples = 192 := rfl
  simp only [forEachFourMsPacket, hpending, if_pos hjoin, hoffset, fourMsLoop_from_tail,
    hrest, dif_neg, not_false_eq_true, List.singleton_append]

theorem forEachFourMsPacket_splits
    {p : Packetizer} {block : PcmBlock} (h : p.Expects block.timestamp) :
    Splits p block fourMsPacketSamples
      (p.forEachFourMsPacket block).1 (p.forEachFourMsPacket block).2 := by
  have hfull : block.samples.length = 960 := block.full
  have hpacket : fourMsPacketSamples = 384 := rfl
  have htail : fourMsTailSamples = 192 := rfl
  cases hpending : p.pendingTail with
  | none =>
      have hnone : ∀ tail, p.pendingTail = some tail →
          block.timestamp ≠ tail.timestamp + UInt64.ofNat (fourMsTailSamples / channels) := by
        intro tail heq
        rw [hpending] at heq
        cases heq
      obtain ⟨hrest, hresult⟩ := forEachFourMsPacket_fresh hnone
      rw [hresult]
      refine ⟨?_, ?_, rfl, rfl, ?_⟩
      · simp only [tailSamples, hpending, List.nil_append, List.flatMap_cons, List.flatMap_nil,
          List.append_nil, List.drop_zero]
        have hsecond := List.take_append_drop 384 (block.samples.drop 384)
        rw [List.drop_drop] at hsecond
        rw [List.append_assoc, hsecond, List.take_append_drop]
      · intro c hc
        simp only [List.mem_cons, List.not_mem_nil, or_false] at hc
        rcases hc with rfl | rfl
        · simp [hfull, hpacket]
        · simp [hfull, hpacket]
      · intro tail heq
        rw [← Option.some.inj heq]
        simp only [htail]
        rw [UInt64.add_assoc]
        rfl
  | some tail =>
      rw [forEachFourMsPacket_joined hpending (h tail hpending)]
      refine ⟨?_, ?_, rfl, rfl, ?_⟩
      · simp only [tailSamples, hpending, List.flatMap_cons, List.flatMap_nil, List.append_nil,
          List.append_assoc]
        have hthird : (block.samples.drop 576).take 384 = block.samples.drop 576 := by
          apply List.take_of_length_le
          rw [List.length_drop, hfull]
        have hsecond := List.take_append_drop 384 (block.samples.drop 192)
        rw [List.drop_drop] at hsecond
        rw [hthird, hsecond, List.take_append_drop]
      · intro c hc
        have htailsize := tail.size
        simp only [List.mem_cons, List.not_mem_nil, or_false] at hc
        rcases hc with rfl | rfl | rfl
        · simp [hfull, hpacket, htailsize, htail]
        · simp [hfull, hpacket]
        · simp [hfull, hpacket]
      · intro tail' heq
        cases heq

/-- The packet durations that `choose_packet_duration_ms` can choose. -/
def durations : List UInt8 := [10, 5, 4, 2, 1]

/-- The state of a packetizer between two blocks. -/
structure Ready (duration : UInt8) (next : Nat) (p : Packetizer) : Prop where
  sequence : p.sequence = serial next
  frame : p.frameDurationMs = duration
  size : p.samplesPerPacket = Soundwave.samplesPerPacket duration
  tail : p.pendingTail ≠ none → duration = 4

theorem ready_new (duration : UInt8) : Ready duration 0 (new duration) where
  sequence := rfl
  frame := rfl
  size := rfl
  tail := fun h => absurd rfl h

theorem flatMap_snd_mapIdx
    (f : Nat → UInt64) (cs : List (List Int16)) :
    (cs.mapIdx (fun i c => (f i, c))).flatMap Prod.snd = cs.flatten := by
  have hmap : (cs.mapIdx (fun i c => (f i, c))).map Prod.snd = cs := by
    apply List.ext_getElem
    · simp
    · intro i h₁ h₂
      simp
  rw [List.flatMap_def, hmap]

/-- Durations other than 4 ms cut every block by itself. -/
theorem chunks_splits
    {p : Packetizer} {block : PcmBlock} {count : Nat}
    (hnone : p.pendingTail = none)
    (hsize : 0 < p.samplesPerPacket)
    (hcount : blockSampleCount = count * p.samplesPerPacket) :
    Splits p block p.samplesPerPacket p
      ((chunks p.samplesPerPacket block.samples).mapIdx (fun index samples =>
        (block.timestamp + UInt64.ofNat (index * p.samplesPerPacket / channels), samples))) := by
  obtain ⟨hflatten, hall⟩ := chunks_of_length hsize (block.full.trans hcount)
  refine ⟨?_, ?_, rfl, rfl, ?_⟩
  · rw [flatMap_snd_mapIdx, hflatten]
    simp [tailSamples, hnone]
  · intro c hc
    obtain ⟨i, hi, rfl⟩ := List.mem_mapIdx.mp hc
    exact hall _ (List.getElem_mem hi)
  · intro tail htail
    rw [hnone] at htail
    cases htail

theorem forEachPacket_splits
    {duration : UInt8} {next : Nat} {p : Packetizer} {block : PcmBlock}
    (hduration : duration ∈ durations)
    (hready : Ready duration next p) (hexpects : p.Expects block.timestamp) :
    Splits p block (Soundwave.samplesPerPacket duration)
      (p.forEachPacket block).1 (p.forEachPacket block).2 := by
  by_cases hfour : duration = 4
  · have hd : p.frameDurationMs = 4 := hready.frame.trans hfour
    rw [hfour]
    simp only [forEachPacket, hd, if_true]
    exact forEachFourMsPacket_splits hexpects
  · have hd : p.frameDurationMs ≠ 4 := fun h => hfour (hready.frame.symm.trans h)
    have hnone : p.pendingTail = none := by
      by_contra hsome
      exact hfour (hready.tail hsome)
    simp only [forEachPacket, hd, if_false]
    have hcount : ∃ count, blockSampleCount = count * Soundwave.samplesPerPacket duration ∧
        0 < Soundwave.samplesPerPacket duration := by
      simp only [durations, List.mem_cons, List.not_mem_nil, or_false] at hduration
      rcases hduration with rfl | rfl | rfl | rfl | rfl
      · exact ⟨1, by decide, by decide⟩
      · exact ⟨2, by decide, by decide⟩
      · exact absurd rfl hfour
      · exact ⟨5, by decide, by decide⟩
      · exact ⟨10, by decide, by decide⟩
    obtain ⟨count, hblock, hpos⟩ := hcount
    rw [← hready.size] at hblock hpos ⊢
    exact chunks_splits hnone hpos hblock

end Splitting

section Sending

/-- The samples carried by a list of packets. -/
def payloadSamples (packets : List AudioPacket) : List Int16 :=
  packets.flatMap (fun packet => decodePcmLe packet.payload)

theorem payloadSamples_number (sequence : UInt32) (split : List (UInt64 × List Int16)) :
    payloadSamples (number sequence split) = split.flatMap Prod.snd := by
  induction split generalizing sequence with
  | nil =>
      rfl
  | cons c split ih =>
      obtain ⟨timestamp, samples⟩ := c
      have hrest := ih (sequence + 1)
      simp only [payloadSamples] at hrest
      simp only [payloadSamples, number, List.flatMap_cons, decodePcmLe_encodePcmLe, hrest]

theorem numbered_number (next : Nat) (split : List (UInt64 × List Int16)) :
    Numbered next (number (serial next) split) := by
  induction split generalizing next with
  | nil =>
      trivial
  | cons c split ih =>
      obtain ⟨timestamp, samples⟩ := c
      refine ⟨rfl, ?_⟩
      rw [serial_succ]
      exact ih (next + 1)

theorem length_number (sequence : UInt32) (split : List (UInt64 × List Int16)) :
    (number sequence split).length = split.length := by
  induction split generalizing sequence with
  | nil =>
      rfl
  | cons c split ih =>
      obtain ⟨timestamp, samples⟩ := c
      simp only [number, List.length_cons, ih]

theorem mem_number
    {sequence : UInt32} {split : List (UInt64 × List Int16)} {packet : AudioPacket}
    (h : packet ∈ number sequence split) :
    ∃ c ∈ split, packet.payload = encodePcmLe c.2 := by
  induction split generalizing sequence with
  | nil =>
      cases h
  | cons c split ih =>
      obtain ⟨timestamp, samples⟩ := c
      rcases List.mem_cons.mp h with rfl | h
      · exact ⟨_, List.mem_cons_self, rfl⟩
      · obtain ⟨c', hc', heq⟩ := ih h
        exact ⟨c', List.mem_cons_of_mem _ hc', heq⟩

/-- **Sending a block.**  The tail and the block become full packets with
consecutive sequence numbers and a new tail; no sample is lost. -/
theorem sendBlock_spec
    {duration : UInt8} {next : Nat} {p : Packetizer} {block : PcmBlock}
    (hduration : duration ∈ durations)
    (hready : Ready duration next p) (hexpects : p.Expects block.timestamp) :
    p.tailSamples ++ block.samples =
        payloadSamples (p.sendBlock block).2 ++ (p.sendBlock block).1.tailSamples ∧
      Numbered next (p.sendBlock block).2 ∧
      (∀ packet ∈ (p.sendBlock block).2,
        packet.payload.length = Soundwave.samplesPerPacket duration * 2) ∧
      Ready duration (next + (p.sendBlock block).2.length) (p.sendBlock block).1 ∧
      (p.sendBlock block).1.Expects (block.timestamp + blockFrames) := by
  have hsplits := forEachPacket_splits hduration hready hexpects
  refine ⟨?_, ?_, ?_, ?_, hsplits.expects⟩
  · simp only [sendBlock, payloadSamples_number]
    exact hsplits.samples
  · simp only [sendBlock, hready.sequence]
    exact numbered_number next _
  · intro packet hpacket
    obtain ⟨c, hc, heq⟩ := mem_number hpacket
    rw [heq, length_encodePcmLe, hsplits.full c hc, Nat.mul_comm]
  · refine ⟨?_, hsplits.duration.trans hready.frame, hsplits.size.trans hready.size, ?_⟩
    · simp only [sendBlock, length_number, hready.sequence]
      rw [serial, serial, ← UInt32.ofNat_add]
    · intro hpending
      by_contra hfour
      have hd : p.frameDurationMs ≠ 4 := fun h => hfour (hready.frame.symm.trans h)
      simp only [sendBlock, forEachPacket, hd, if_false] at hpending
      exact hfour (hready.tail hpending)

end Sending

end Packetizer

end Soundwave

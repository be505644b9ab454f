import Soundwave.Packetizer
import Soundwave.TransitionRuns

/-!
# The audio of a packet is the audio of its time stamp

`for_each_packet` with a callback that may refuse, and `send_block` with the
transmission gate closing at any moment.  A refusal ends the iteration over a block
and leaves no tail behind.

Blocks may be skipped, repeated or reordered.  Every packet still carries the samples
of the stream at its own time stamp: the only samples that outlive a block are those
of the pending tail, which is joined to a block only if that block begins where the
tail ends.
-/

namespace Soundwave

namespace Packetizer

section Callbacks

variable {σ : Type} (callback : σ → UInt64 × List Int16 → Bool × σ)

/-- What an iteration passed to the callback, the callback's state afterwards, and
whether the callback never refused. -/
structure Offered (σ : Type) where
  passed : List (UInt64 × List Int16)
  state : σ
  accepted : Bool

/-- `for packet in … { if !callback(packet) { break } }`. -/
def offerEach (s : σ) : List (UInt64 × List Int16) → Offered σ
  | [] => ⟨[], s, true⟩
  | packet :: rest =>
      let (go, s) := callback s packet
      if go then
        let offered := offerEach s rest
        ⟨packet :: offered.passed, offered.state, offered.accepted⟩
      else
        ⟨[packet], s, false⟩

/-- The loop of `for_each_four_ms_packet`, with the offset it ends at. -/
def fourMsOffers (block : PcmBlock) : Nat → Nat → σ → Offered σ × Nat
  | 0, offset, s => (⟨[], s, true⟩, offset)
  | fuel + 1, offset, s =>
      if offset + fourMsPacketSamples ≤ block.samples.length then
        let packet := (block.timestamp + UInt64.ofNat (offset / channels),
          (block.samples.drop offset).take fourMsPacketSamples)
        let (go, s) := callback s packet
        if go then
          let (offered, last) := fourMsOffers block fuel (offset + fourMsPacketSamples) s
          (⟨packet :: offered.passed, offered.state, offered.accepted⟩, last)
        else
          (⟨[packet], s, false⟩, offset)
      else
        (⟨[], s, true⟩, offset)

/-- The packet that completes the pending tail, if the block follows on it, and the
offset behind it. -/
def joinTail (p : Packetizer) (block : PcmBlock) : List (UInt64 × List Int16) × Nat :=
  match p.pendingTail with
  | some tail =>
      if block.timestamp = tail.timestamp + UInt64.ofNat (fourMsTailSamples / channels) then
        ([(tail.timestamp,
            tail.samples ++ block.samples.take (fourMsPacketSamples - fourMsTailSamples))],
          fourMsPacketSamples - fourMsTailSamples)
      else
        ([], 0)
  | none => ([], 0)

/-- `for_each_four_ms_packet`.  The tail is taken at the beginning, so a refusal
leaves none. -/
def offerFourMsPackets (p : Packetizer) (block : PcmBlock) (s : σ) : Packetizer × Offered σ :=
  let taken := { p with pendingTail := none }
  let joined := offerEach callback s (p.joinTail block).1
  if joined.accepted then
    let (looped, offset) :=
      fourMsOffers callback block block.samples.length (p.joinTail block).2 joined.state
    let offered : Offered σ :=
      ⟨joined.passed ++ looped.passed, looped.state, looped.accepted⟩
    if looped.accepted then
      let rest := block.samples.drop offset
      ({ p with
          pendingTail :=
            if h : rest.length = fourMsTailSamples then
              some
                { timestamp := block.timestamp + UInt64.ofNat (offset / channels)
                  samples := rest
                  size := h }
            else
              none },
        offered)
    else
      (taken, offered)
  else
    (taken, joined)

/-- `for_each_packet`. -/
def offerPackets (p : Packetizer) (block : PcmBlock) (s : σ) : Packetizer × Offered σ :=
  if p.frameDurationMs = 4 then
    p.offerFourMsPackets callback block s
  else
    (p, offerEach callback s
      ((chunks p.samplesPerPacket block.samples).mapIdx (fun index samples =>
        (block.timestamp + UInt64.ofNat (index * p.samplesPerPacket / channels), samples))))

end Callbacks

section Refusals

variable {σ : Type} (callback : σ → UInt64 × List Int16 → Bool × σ)

/-- An iteration over a list passes all of it or, after a refusal, a part of it. -/
theorem offerEach_passed (s : σ) (packets : List (UInt64 × List Int16)) :
    (offerEach callback s packets).passed <+: packets ∧
      ((offerEach callback s packets).accepted = true →
        (offerEach callback s packets).passed = packets) := by
  induction packets generalizing s with
  | nil =>
      exact ⟨List.prefix_refl _, fun _ => rfl⟩
  | cons packet rest ih =>
      rw [offerEach]
      rcases callback s packet with ⟨go, s'⟩
      cases go with
      | false =>
          exact ⟨⟨rest, rfl⟩, fun h => by cases h⟩
      | true =>
          obtain ⟨hinitial, hall⟩ := ih s'
          refine ⟨?_, ?_⟩
          · exact (List.prefix_cons_inj packet).mpr hinitial
          · intro haccepted
            simp only [if_true] at haccepted ⊢
            rw [hall haccepted]

/-- The loop passes the packets that it would pass to a callback that never refuses. -/
theorem fourMsOffers_passed (block : PcmBlock) (fuel offset : Nat) (s : σ) :
    (fourMsOffers callback block fuel offset s).1.passed <+: (fourMsLoop block fuel offset).1 ∧
      ((fourMsOffers callback block fuel offset s).1.accepted = true →
        (fourMsOffers callback block fuel offset s).1.passed =
            (fourMsLoop block fuel offset).1 ∧
          (fourMsOffers callback block fuel offset s).2 = (fourMsLoop block fuel offset).2) := by
  induction fuel generalizing offset s with
  | zero =>
      exact ⟨List.prefix_refl _, fun _ => ⟨rfl, rfl⟩⟩
  | succ fuel ih =>
      rw [fourMsOffers, fourMsLoop]
      by_cases hroom : offset + fourMsPacketSamples ≤ block.samples.length
      · rw [if_pos hroom, if_pos hroom]
        simp only
        rcases callback s (block.timestamp + UInt64.ofNat (offset / channels),
          (block.samples.drop offset).take fourMsPacketSamples) with ⟨go, s'⟩
        cases go with
        | false =>
            exact ⟨⟨_, rfl⟩, fun h => by cases h⟩
        | true =>
            obtain ⟨hinitial, hall⟩ := ih (offset + fourMsPacketSamples) s'
            refine ⟨?_, ?_⟩
            · exact (List.prefix_cons_inj _).mpr hinitial
            · intro haccepted
              simp only [if_true] at haccepted ⊢
              obtain ⟨hpassed, hlast⟩ := hall haccepted
              exact ⟨by rw [hpassed], hlast⟩
      · rw [if_neg hroom, if_neg hroom]
        exact ⟨List.prefix_refl _, fun _ => ⟨rfl, rfl⟩⟩

/-- An iteration of `for_each_four_ms_packet` that is not refused is that of
`forEachFourMsPacket`; a refused one passes a part of the packets and drops the tail. -/
theorem offerFourMsPackets_cases (p : Packetizer) (block : PcmBlock) (s : σ) :
    (p.offerFourMsPackets callback block s).2.passed <+: (p.forEachFourMsPacket block).2 ∧
      ((p.offerFourMsPackets callback block s).1 = { p with pendingTail := none } ∨
        (p.offerFourMsPackets callback block s).1 = (p.forEachFourMsPacket block).1) ∧
      ((p.offerFourMsPackets callback block s).2.accepted = true →
        (p.offerFourMsPackets callback block s).2.passed = (p.forEachFourMsPacket block).2 ∧
          (p.offerFourMsPackets callback block s).1 = (p.forEachFourMsPacket block).1) := by
  have hwhole : p.forEachFourMsPacket block =
      ({ p with
          pendingTail :=
            if h : (block.samples.drop
                (fourMsLoop block block.samples.length (p.joinTail block).2).2).length =
                fourMsTailSamples then
              some
                { timestamp := block.timestamp + UInt64.ofNat
                    ((fourMsLoop block block.samples.length (p.joinTail block).2).2 / channels)
                  samples := block.samples.drop
                    (fourMsLoop block block.samples.length (p.joinTail block).2).2
                  size := h }
            else
              none },
        (p.joinTail block).1 ++
          (fourMsLoop block block.samples.length (p.joinTail block).2).1) := rfl
  rw [hwhole]
  obtain ⟨hfirst, hfirstAll⟩ := offerEach_passed callback s (p.joinTail block).1
  simp only [offerFourMsPackets]
  cases hjoined : (offerEach callback s (p.joinTail block).1).accepted with
  | false =>
      simp only [Bool.false_eq_true, if_false]
      refine ⟨hfirst.trans (List.prefix_append _ _), Or.inl trivial, ?_⟩
      intro haccepted
      rw [hjoined] at haccepted
      cases haccepted
  | true =>
      simp only [if_true]
      obtain ⟨hloop, hloopAll⟩ := fourMsOffers_passed callback block
        block.samples.length (p.joinTail block).2
        (offerEach callback s (p.joinTail block).1).state
      rw [hfirstAll hjoined]
      cases hlooped : (fourMsOffers callback block block.samples.length (p.joinTail block).2
          (offerEach callback s (p.joinTail block).1).state).1.accepted with
      | false =>
          simp only [Bool.false_eq_true, if_false]
          exact ⟨(List.prefix_append_right_inj _).mpr hloop, Or.inl trivial,
            fun haccepted => haccepted.elim⟩
      | true =>
          simp only [if_true]
          obtain ⟨hpassed, hlast⟩ := hloopAll hlooped
          rw [hpassed, hlast]
          exact ⟨List.prefix_refl _, Or.inr rfl, fun _ => ⟨rfl, rfl⟩⟩

/-- The same for `for_each_packet`. -/
theorem offerPackets_cases (p : Packetizer) (block : PcmBlock) (s : σ) :
    (p.offerPackets callback block s).2.passed <+: (p.forEachPacket block).2 ∧
      ((p.offerPackets callback block s).1 = { p with pendingTail := none } ∨
        (p.offerPackets callback block s).1 = (p.forEachPacket block).1) ∧
      ((p.offerPackets callback block s).2.accepted = true →
        (p.offerPackets callback block s).2.passed = (p.forEachPacket block).2 ∧
          (p.offerPackets callback block s).1 = (p.forEachPacket block).1) := by
  by_cases hfour : p.frameDurationMs = 4
  · rw [offerPackets, if_pos hfour, forEachPacket, if_pos hfour]
    exact offerFourMsPackets_cases callback p block s
  · simp only [offerPackets, forEachPacket, hfour, if_false]
    obtain ⟨hinitial, hall⟩ := offerEach_passed callback s
      ((chunks p.samplesPerPacket block.samples).mapIdx (fun index samples =>
        (block.timestamp + UInt64.ofNat (index * p.samplesPerPacket / channels), samples)))
    exact ⟨hinitial, Or.inr trivial, fun haccepted => ⟨hall haccepted, trivial⟩⟩

end Refusals

section Streams

variable (S : Nat → Int16)

/-- The samples are those of the stream from a time stamp on. -/
def Carries (timestamp : UInt64) (samples : List Int16) : Prop :=
  samples = (List.range samples.length).map (fun i => S (channels * timestamp.toNat + i))

/-- What a tail has to be: part of the stream, ending before time stamps overflow. -/
def TailCarries (tail : PendingTail) : Prop :=
  Carries S tail.timestamp tail.samples ∧
    tail.timestamp.toNat + fourMsTailSamples / channels < 2 ^ 64

variable {S}

theorem toNat_add_ofNat {timestamp : UInt64} {frames : Nat}
    (h : timestamp.toNat + frames < 2 ^ 64) :
    (timestamp + UInt64.ofNat frames).toNat = timestamp.toNat + frames := by
  rw [UInt64.toNat_add, UInt64.toNat_ofNat']
  omega

/-- A piece of the stream that starts at a frame. -/
theorem Carries.slice {timestamp : UInt64} {samples : List Int16} (h : Carries S timestamp samples)
    (frames size : Nat) (hfits : channels * frames + size ≤ samples.length)
    (hstamp : timestamp.toNat + frames < 2 ^ 64) :
    Carries S (timestamp + UInt64.ofNat frames)
      ((samples.drop (channels * frames)).take size) := by
  have hlength : ((samples.drop (channels * frames)).take size).length = size := by
    rw [List.length_take, List.length_drop]
    omega
  rw [Carries, hlength]
  apply List.ext_getElem
  · rw [hlength, List.length_map, List.length_range]
  · intro i h₁ h₂
    rw [List.getElem_take, List.getElem_drop, List.getElem_map, List.getElem_range,
      toNat_add_ofNat hstamp]
    have helement : ∀ j (hj : j < samples.length),
        samples[j] = S (channels * timestamp.toNat + j) := by
      intro j hj
      rw [List.getElem_of_eq h]
      simp
    rw [helement]
    congr 1
    ring

/-- A tail and the beginning of the block behind it. -/
theorem Carries.join {timestamp : UInt64} {samples later : List Int16} {frames : Nat}
    (h : Carries S timestamp samples) (hframes : samples.length = channels * frames)
    (hstamp : timestamp.toNat + frames < 2 ^ 64)
    (hlater : Carries S (timestamp + UInt64.ofNat frames) later) :
    Carries S timestamp (samples ++ later) := by
  rw [Carries, List.length_append, List.range_add, List.map_append, List.map_map]
  congr 1
  rw [Carries, toNat_add_ofNat hstamp] at hlater
  rw [hlater, List.length_map, List.length_range]
  apply List.map_congr_left
  intro i _
  simp only [Function.comp_apply]
  congr 1
  rw [hframes]
  ring

/-- Every packet that a block is split into, and the tail it leaves, carry the stream. -/
structure SplitCarries (S : Nat → Int16) (size : Nat) (split : List (UInt64 × List Int16))
    (p : Packetizer) : Prop where
  packets : ∀ c ∈ split, c.2.length = size ∧ Carries S c.1 c.2
  tail : ∀ tail, p.pendingTail = some tail → TailCarries S tail

theorem forEachFourMsPacket_carries {p : Packetizer} {block : PcmBlock}
    (htail : ∀ tail, p.pendingTail = some tail → TailCarries S tail)
    (hblock : Carries S block.timestamp block.samples)
    (hstamp : block.timestamp.toNat < 2 ^ 64 - 480) :
    SplitCarries S fourMsPacketSamples (p.forEachFourMsPacket block).2
      (p.forEachFourMsPacket block).1 := by
  have hfull : block.samples.length = 960 := block.full
  have hpacket : fourMsPacketSamples = 384 := rfl
  have hchannels : channels = 2 := rfl
  have hslice : ∀ frames, 2 * frames + 384 ≤ 960 →
      ((block.samples.drop (2 * frames)).take 384).length = fourMsPacketSamples ∧
        Carries S (block.timestamp + UInt64.ofNat frames)
          ((block.samples.drop (2 * frames)).take 384) := by
    intro frames hfits
    refine ⟨?_, hblock.slice frames 384 (by rw [hchannels]; omega) (by omega)⟩
    rw [List.length_take, List.length_drop, hfull, hpacket]
    omega
  by_cases hjoin : ∃ tail, p.pendingTail = some tail ∧
      block.timestamp = tail.timestamp + UInt64.ofNat (fourMsTailSamples / channels)
  · obtain ⟨tail, hpending, hfollows⟩ := hjoin
    rw [forEachFourMsPacket_joined hpending hfollows]
    refine ⟨?_, fun tail heq => by cases heq⟩
    intro c hc
    simp only [List.mem_cons, List.not_mem_nil, or_false] at hc
    rcases hc with rfl | rfl | rfl
    · obtain ⟨hcarries, hroom⟩ := htail tail hpending
      have hsize : tail.samples.length = 192 := tail.size
      refine ⟨?_, ?_⟩
      · rw [List.length_append, hsize, List.length_take, hfull, hpacket]
        rfl
      · have hbegin := hblock.slice 0 192 (by omega) (by omega)
        have hzero : block.timestamp + UInt64.ofNat 0 = block.timestamp := UInt64.add_zero _
        rw [Nat.mul_zero, List.drop_zero, hzero, hfollows] at hbegin
        exact hcarries.join (hsize.trans rfl) hroom hbegin
    · exact hslice 96 (by omega)
    · exact hslice 288 (by omega)
  · have hfresh : ∀ tail, p.pendingTail = some tail →
        block.timestamp ≠ tail.timestamp + UInt64.ofNat (fourMsTailSamples / channels) :=
      fun tail hpending hfollows => hjoin ⟨tail, hpending, hfollows⟩
    obtain ⟨hrest, hresult⟩ := forEachFourMsPacket_fresh hfresh
    rw [hresult]
    refine ⟨?_, ?_⟩
    · intro c hc
      simp only [List.mem_cons, List.not_mem_nil, or_false] at hc
      rcases hc with rfl | rfl
      · exact hslice 0 (by omega)
      · exact hslice 192 (by omega)
    · intro tail heq
      cases heq
      have hlast := hblock.slice 384 192 (by rw [hchannels]; omega) (by omega)
      refine ⟨?_, ?_⟩
      · have hall : (block.samples.drop (channels * 384)).take 192 = block.samples.drop 768 := by
          apply List.take_of_length_le
          rw [List.length_drop, hfull, hchannels]
        rw [hall] at hlast
        exact hlast
      · rw [toNat_add_ofNat (by omega)]
        have hframes : fourMsTailSamples / channels = 96 := rfl
        omega

/-- The chunks of a block that is cut by itself. -/
theorem chunks_carries {p : Packetizer} {block : PcmBlock} {count frames : Nat}
    (hsize : p.samplesPerPacket = channels * frames) (hpos : 0 < frames)
    (hcount : blockSampleCount = count * p.samplesPerPacket)
    (hblock : Carries S block.timestamp block.samples)
    (hstamp : block.timestamp.toNat < 2 ^ 64 - 480) :
    ∀ c ∈ (chunks p.samplesPerPacket block.samples).mapIdx (fun index samples =>
        (block.timestamp + UInt64.ofNat (index * p.samplesPerPacket / channels), samples)),
      c.2.length = p.samplesPerPacket ∧ Carries S c.1 c.2 := by
  intro c hc
  have hfull : block.samples.length = count * p.samplesPerPacket := block.full.trans hcount
  have hblockCount : blockSampleCount = 960 := rfl
  have hchannels : channels = 2 := rfl
  obtain ⟨i, hi, rfl⟩ := List.mem_mapIdx.mp hc
  have hchunk : (chunks p.samplesPerPacket block.samples)[i] =
      (block.samples.drop (channels * (i * frames))).take p.samplesPerPacket := by
    simp only [chunks, List.getElem_map, List.getElem_range]
    rw [hsize, Nat.mul_left_comm]
  have hcounted : i < count := by
    rw [chunks, List.length_map, List.length_range, hfull] at hi
    have hpositive : 0 < p.samplesPerPacket := by
      rw [hsize, hchannels]
      omega
    have hdiv : (count * p.samplesPerPacket + p.samplesPerPacket - 1) / p.samplesPerPacket =
        count := by
      rw [Nat.div_eq_iff hpositive]
      omega
    rwa [hdiv] at hi
  have hlast : (i + 1) * p.samplesPerPacket ≤ count * p.samplesPerPacket :=
    Nat.mul_le_mul_right _ hcounted
  have hfits : channels * (i * frames) + p.samplesPerPacket ≤ block.samples.length := by
    rw [hfull, ← Nat.mul_left_comm, ← hsize]
    rw [Nat.add_mul, Nat.one_mul] at hlast
    exact hlast
  have hframe : i * p.samplesPerPacket / channels = i * frames := by
    rw [hsize, Nat.mul_left_comm, Nat.mul_div_cancel_left _ (by decide)]
  have hstart : block.timestamp.toNat + i * frames < 2 ^ 64 := by
    rw [hfull, ← hcount, hblockCount, hsize, hchannels] at hfits
    omega
  simp only [hframe, hchunk]
  refine ⟨?_, hblock.slice (i * frames) p.samplesPerPacket hfits hstart⟩
  rw [List.length_take, List.length_drop]
  omega

theorem forEachPacket_carries {duration : UInt8} {p : Packetizer} {block : PcmBlock}
    (hduration : duration ∈ durations) (hframe : p.frameDurationMs = duration)
    (hsize : p.samplesPerPacket = Soundwave.samplesPerPacket duration)
    (htail : ∀ tail, p.pendingTail = some tail → TailCarries S tail)
    (hblock : Carries S block.timestamp block.samples)
    (hstamp : block.timestamp.toNat < 2 ^ 64 - 480) :
    SplitCarries S (Soundwave.samplesPerPacket duration) (p.forEachPacket block).2
      (p.forEachPacket block).1 := by
  by_cases hfour : duration = 4
  · rw [forEachPacket, if_pos (hframe.trans hfour), hfour]
    exact forEachFourMsPacket_carries htail hblock hstamp
  · rw [forEachPacket, if_neg (fun h => hfour (hframe.symm.trans h))]
    refine ⟨?_, htail⟩
    obtain ⟨count, frames, hcount, hframes, hpos⟩ : ∃ count frames,
        blockSampleCount = count * Soundwave.samplesPerPacket duration ∧
          Soundwave.samplesPerPacket duration = channels * frames ∧ 0 < frames := by
      simp only [durations, List.mem_cons, List.not_mem_nil, or_false] at hduration
      rcases hduration with rfl | rfl | rfl | rfl | rfl
      · exact ⟨1, 480, by decide, by decide, by decide⟩
      · exact ⟨2, 240, by decide, by decide, by decide⟩
      · exact absurd rfl hfour
      · exact ⟨5, 96, by decide, by decide, by decide⟩
      · exact ⟨10, 48, by decide, by decide, by decide⟩
    rw [← hsize] at hcount hframes ⊢
    exact chunks_carries hframes hpos hcount hblock hstamp

end Streams

section Sends

/-- What happens in one run of the callback of `send_block`: the gate is found closed,
or a packet is built and sent, dropped by a full queue, or refused with an error. -/
inductive SendOutcome where
  | gateClosed
  | sent
  | dropped
  | failed
deriving DecidableEq

/-- The variables that the callback of `send_block` changes, and what it will meet. -/
structure SendState where
  sequence : UInt32
  built : List AudioPacket
  outcomes : List SendOutcome

/-- The callback of `send_block`. -/
def sendCallback (s : SendState) (packet : UInt64 × List Int16) : Bool × SendState :=
  let outcome := s.outcomes.headD .sent
  if outcome = .gateClosed then
    (false, { s with outcomes := s.outcomes.tail })
  else
    (outcome ≠ .failed,
      { sequence := s.sequence + 1
        built := s.built ++
          [{ sequence := s.sequence, timestamp := packet.1, payload := encodePcmLe packet.2 }]
        outcomes := s.outcomes.tail })

/-- `send_block` with the packets it builds and those that `for_each_packet` passed to
its callback; `enabled` is the first look at the gate. -/
def sendBlockThrough (p : Packetizer) (block : PcmBlock) (enabled : Bool)
    (outcomes : List SendOutcome) :
    Packetizer × List AudioPacket × List (UInt64 × List Int16) :=
  if enabled then
    let (p', offered) := p.offerPackets sendCallback block
      { sequence := p.sequence, built := [], outcomes := outcomes }
    ({ p' with sequence := offered.state.sequence }, offered.state.built, offered.passed)
  else
    (p, [], [])

/-- What the sender's loop does with its packetizer. -/
inductive SenderEvent where
  | block (block : PcmBlock) (enabled : Bool) (outcomes : List SendOutcome)
  | clearTail

/-- A packetizer with all packets it has built and passed to its callback. -/
structure SenderLog where
  packetizer : Packetizer
  built : List AudioPacket
  passed : List (UInt64 × List Int16)

/-- One event. -/
def SenderLog.step (log : SenderLog) : SenderEvent → SenderLog
  | .block block enabled outcomes =>
      let (p, built, passed) := log.packetizer.sendBlockThrough block enabled outcomes
      { packetizer := p, built := log.built ++ built, passed := log.passed ++ passed }
  | .clearTail => { log with packetizer := { log.packetizer with pendingTail := none } }

/-- A sender before its first block. -/
def SenderLog.start (duration : UInt8) : SenderLog where
  packetizer := new duration
  built := []
  passed := []

end Sends

section Folding

variable {σ : Type} (callback : σ → UInt64 × List Int16 → Bool × σ)

/-- The state after the callback has been called for these packets. -/
def calls (s : σ) (packets : List (UInt64 × List Int16)) : σ :=
  packets.foldl (fun s packet => (callback s packet).2) s

theorem offerEach_calls (s : σ) (packets : List (UInt64 × List Int16)) :
    (offerEach callback s packets).state =
      calls callback s (offerEach callback s packets).passed := by
  induction packets generalizing s with
  | nil =>
      rfl
  | cons packet rest ih =>
      rw [offerEach]
      rcases hcall : callback s packet with ⟨go, s'⟩
      cases go with
      | false =>
          simp only [Bool.false_eq_true, if_false, calls, List.foldl_cons, List.foldl_nil, hcall]
      | true =>
          simp only [if_true, calls, List.foldl_cons, hcall]
          exact ih s'

theorem fourMsOffers_calls (block : PcmBlock) (fuel offset : Nat) (s : σ) :
    (fourMsOffers callback block fuel offset s).1.state =
      calls callback s (fourMsOffers callback block fuel offset s).1.passed := by
  induction fuel generalizing offset s with
  | zero =>
      rfl
  | succ fuel ih =>
      rw [fourMsOffers]
      split_ifs
      · simp only
        rcases hcall : callback s (block.timestamp + UInt64.ofNat (offset / channels),
          (block.samples.drop offset).take fourMsPacketSamples) with ⟨go, s'⟩
        cases go with
        | false =>
            simp only [Bool.false_eq_true, if_false, calls, List.foldl_cons, List.foldl_nil, hcall]
        | true =>
            simp only [if_true, calls, List.foldl_cons, hcall]
            exact ih _ s'
      · rfl

/-- The callback is called for the packets passed to it and for no others. -/
theorem offerPackets_calls (p : Packetizer) (block : PcmBlock) (s : σ) :
    (p.offerPackets callback block s).2.state =
      calls callback s (p.offerPackets callback block s).2.passed := by
  rw [offerPackets]
  split_ifs
  · have hjoined := offerEach_calls callback s (p.joinTail block).1
    have hlooped := fourMsOffers_calls callback block block.samples.length (p.joinTail block).2
      (offerEach callback s (p.joinTail block).1).state
    have hboth : (fourMsOffers callback block block.samples.length (p.joinTail block).2
        (offerEach callback s (p.joinTail block).1).state).1.state =
        calls callback s ((offerEach callback s (p.joinTail block).1).passed ++
          (fourMsOffers callback block block.samples.length (p.joinTail block).2
            (offerEach callback s (p.joinTail block).1).state).1.passed) := by
      rw [hlooped, calls, calls, List.foldl_append, hjoined]
      rfl
    simp only [offerFourMsPackets]
    split_ifs
    · exact hboth
    · exact hboth
    · exact hboth
    · exact hjoined
  · exact offerEach_calls callback s _

/-- Only the last of these calls may be refused. -/
def OnlyLastRefused (s : σ) : List (UInt64 × List Int16) → Prop
  | [] => True
  | packet :: rest =>
      rest = [] ∨ ((callback s packet).1 = true ∧ OnlyLastRefused (callback s packet).2 rest)

/-- None of these calls is refused. -/
def NoneRefused (s : σ) : List (UInt64 × List Int16) → Prop
  | [] => True
  | packet :: rest => (callback s packet).1 = true ∧ NoneRefused (callback s packet).2 rest

theorem NoneRefused.append {s : σ} {packets later : List (UInt64 × List Int16)}
    (h : NoneRefused callback s packets)
    (hlater : OnlyLastRefused callback (calls callback s packets) later) :
    OnlyLastRefused callback s (packets ++ later) := by
  induction packets generalizing s with
  | nil =>
      exact hlater
  | cons packet packets ih =>
      exact Or.inr ⟨h.1, ih h.2 hlater⟩

theorem offerEach_refused (s : σ) (packets : List (UInt64 × List Int16)) :
    OnlyLastRefused callback s (offerEach callback s packets).passed ∧
      ((offerEach callback s packets).accepted = true →
        NoneRefused callback s (offerEach callback s packets).passed) := by
  induction packets generalizing s with
  | nil =>
      exact ⟨trivial, fun _ => trivial⟩
  | cons packet rest ih =>
      rw [offerEach]
      rcases hcall : callback s packet with ⟨go, s'⟩
      cases go with
      | false =>
          exact ⟨Or.inl rfl, fun h => by cases h⟩
      | true =>
          obtain ⟨hlast, hnone⟩ := ih s'
          refine ⟨Or.inr ?_, fun haccepted => ?_⟩
          · rw [hcall]
            exact ⟨rfl, hlast⟩
          · simp only [if_true, NoneRefused, hcall] at haccepted ⊢
            exact ⟨trivial, hnone haccepted⟩

theorem fourMsOffers_refused (block : PcmBlock) (fuel offset : Nat) (s : σ) :
    OnlyLastRefused callback s (fourMsOffers callback block fuel offset s).1.passed := by
  induction fuel generalizing offset s with
  | zero =>
      exact trivial
  | succ fuel ih =>
      rw [fourMsOffers]
      split_ifs
      · simp only
        rcases hcall : callback s (block.timestamp + UInt64.ofNat (offset / channels),
          (block.samples.drop offset).take fourMsPacketSamples) with ⟨go, s'⟩
        cases go with
        | false =>
            exact Or.inl rfl
        | true =>
            refine Or.inr ?_
            rw [hcall]
            exact ⟨rfl, ih _ s'⟩
      · exact trivial

/-- An iteration stops at the first packet that is refused. -/
theorem offerPackets_refused (p : Packetizer) (block : PcmBlock) (s : σ) :
    OnlyLastRefused callback s (p.offerPackets callback block s).2.passed := by
  rw [offerPackets]
  split_ifs
  · obtain ⟨hlast, hnone⟩ := offerEach_refused callback s (p.joinTail block).1
    have hlooped := fourMsOffers_refused callback block block.samples.length (p.joinTail block).2
      (offerEach callback s (p.joinTail block).1).state
    rw [offerEach_calls] at hlooped
    simp only [offerFourMsPackets, offerEach_calls]
    split_ifs with hjoined
    · exact (hnone hjoined).append callback hlooped
    · exact (hnone hjoined).append callback hlooped
    · exact (hnone hjoined).append callback hlooped
    · exact hlast
  · exact (offerEach_refused callback s _).1

/-- The outcomes that so many calls meet. -/
def met : List SendOutcome → Nat → List SendOutcome
  | _, 0 => []
  | outcomes, count + 1 => outcomes.headD .sent :: met outcomes.tail count

theorem sendCallback_outcomes (s : SendState) (c : UInt64 × List Int16) :
    (sendCallback s c).2.outcomes = s.outcomes.tail := by
  rw [sendCallback]
  split_ifs
  · rfl
  · rfl

/-- What calls of the callback of `send_block` build: one packet for each call that
finds the gate open, made from what was passed. -/
theorem calls_sendCallback (s : SendState) (packets : List (UInt64 × List Int16)) :
    (∀ packet ∈ (calls sendCallback s packets).built,
        packet ∈ s.built ∨
          ∃ c ∈ packets, packet.timestamp = c.1 ∧ packet.payload = encodePcmLe c.2) ∧
      (calls sendCallback s packets).built.length +
          (met s.outcomes packets.length).count .gateClosed =
        s.built.length + packets.length := by
  induction packets generalizing s with
  | nil =>
      exact ⟨fun packet hpacket => Or.inl hpacket, rfl⟩
  | cons c packets ih =>
      obtain ⟨hbuilt, hcount⟩ := ih (sendCallback s c).2
      have hcons : calls sendCallback s (c :: packets) =
          calls sendCallback (sendCallback s c).2 packets := rfl
      rw [sendCallback_outcomes] at hcount
      rw [hcons, List.length_cons, met, List.count_cons]
      by_cases hclosed : s.outcomes.headD .sent = .gateClosed
      · have hsame : (sendCallback s c).2.built = s.built := by
          rw [sendCallback, if_pos hclosed]
        rw [hsame] at hbuilt hcount
        simp only [hclosed, beq_self_eq_true, if_true]
        refine ⟨fun packet hpacket => ?_, by omega⟩
        rcases hbuilt packet hpacket with hold | ⟨c', hc', hmade⟩
        · exact Or.inl hold
        · exact Or.inr ⟨c', List.mem_cons_of_mem _ hc', hmade⟩
      · have hmore : (sendCallback s c).2.built = s.built ++
            [{ sequence := s.sequence, timestamp := c.1, payload := encodePcmLe c.2 }] := by
          rw [sendCallback, if_neg hclosed]
        rw [hmore] at hbuilt hcount
        rw [List.length_append, List.length_singleton] at hcount
        simp only [beq_eq_false_iff_ne.mpr hclosed, Bool.false_eq_true, if_false]
        refine ⟨fun packet hpacket => ?_, by omega⟩
        rcases hbuilt packet hpacket with hold | ⟨c', hc', hmade⟩
        · rcases List.mem_append.mp hold with hold | hnew
          · exact Or.inl hold
          · rw [List.mem_singleton.mp hnew]
            exact Or.inr ⟨c, List.mem_cons_self, rfl, rfl⟩
        · exact Or.inr ⟨c', List.mem_cons_of_mem _ hc', hmade⟩

/-- While the gate is open, every call builds a packet. -/
theorem calls_sendCallback_open {s : SendState} (hopen : .gateClosed ∉ s.outcomes)
    (packets : List (UInt64 × List Int16)) :
    (calls sendCallback s packets).built.map (fun packet => (packet.timestamp, packet.payload)) =
      s.built.map (fun packet => (packet.timestamp, packet.payload)) ++
        packets.map (fun c => (c.1, encodePcmLe c.2)) := by
  induction packets generalizing s with
  | nil =>
      rw [List.map_nil, List.append_nil]
      rfl
  | cons c packets ih =>
      have hfirst : s.outcomes.headD .sent ≠ .gateClosed := by
        intro hclosed
        cases houtcomes : s.outcomes with
        | nil =>
            rw [houtcomes] at hclosed
            cases hclosed
        | cons outcome outcomes =>
            rw [houtcomes] at hclosed hopen
            exact hopen (hclosed ▸ List.mem_cons_self)
      have hlater : .gateClosed ∉ (sendCallback s c).2.outcomes := by
        rw [sendCallback, if_neg hfirst]
        exact fun hmem => hopen (List.mem_of_mem_tail hmem)
      have hcons : calls sendCallback s (c :: packets) =
          calls sendCallback (sendCallback s c).2 packets := rfl
      rw [hcons, ih hlater, sendCallback, if_neg hfirst]
      simp only [List.map_append, List.map_cons, List.map_nil, List.append_assoc,
        List.singleton_append]

theorem sendCallback_go (s : SendState) (c : UInt64 × List Int16) :
    (sendCallback s c).1 = true ↔
      s.outcomes.headD .sent = .sent ∨ s.outcomes.headD .sent = .dropped := by
  simp only [sendCallback]
  generalize s.outcomes.headD .sent = outcome
  cases outcome with
  | gateClosed => simp
  | sent => simp
  | dropped => simp
  | failed => simp

/-- A refused call is the last one, so at most one packet fails. -/
theorem count_met {s : SendState} {packets : List (UInt64 × List Int16)}
    (h : OnlyLastRefused sendCallback s packets) :
    (met s.outcomes packets.length).count .sent + (met s.outcomes packets.length).count .dropped +
        (met s.outcomes packets.length).count .gateClosed +
        (if SendOutcome.failed ∈ met s.outcomes packets.length then 1 else 0) =
      packets.length := by
  induction packets generalizing s with
  | nil =>
      rfl
  | cons c packets ih =>
      rcases h with rfl | ⟨hgo, hrest⟩
      · have hone : met s.outcomes [c].length = [s.outcomes.headD .sent] := rfl
        rw [hone]
        cases s.outcomes.headD .sent with
        | gateClosed => rfl
        | sent => rfl
        | dropped => rfl
        | failed => rfl
      · have hcount := ih hrest
        rw [sendCallback_outcomes] at hcount
        rw [List.length_cons, met]
        rcases (sendCallback_go s c).mp hgo with houtcome | houtcome
        all_goals
          rw [houtcome]
          simp only [List.count_cons, List.mem_cons, reduceCtorEq, false_or, beq_self_eq_true,
            if_true]
          simp only [reduceCtorEq, beq_iff_eq, if_false, Nat.add_zero]
          omega

/-- What one `send_block` builds: packets made from what was passed, each of them sent,
dropped or the one that failed. -/
theorem sendBlockThrough_built (p : Packetizer) (block : PcmBlock) (enabled : Bool)
    (outcomes : List SendOutcome) :
    (∀ packet ∈ (p.sendBlockThrough block enabled outcomes).2.1,
        ∃ c ∈ (p.sendBlockThrough block enabled outcomes).2.2,
          packet.timestamp = c.1 ∧ packet.payload = encodePcmLe c.2) ∧
      (p.sendBlockThrough block enabled outcomes).2.1.length =
        (met outcomes (p.sendBlockThrough block enabled outcomes).2.2.length).count .sent +
          (met outcomes (p.sendBlockThrough block enabled outcomes).2.2.length).count .dropped +
          (if SendOutcome.failed ∈
              met outcomes (p.sendBlockThrough block enabled outcomes).2.2.length
            then 1 else 0) := by
  cases enabled with
  | false =>
      exact ⟨fun packet hpacket => (by cases hpacket), rfl⟩
  | true =>
      simp only [sendBlockThrough, if_true]
      generalize hfirst : SendState.mk p.sequence [] outcomes = first
      have hcalls := offerPackets_calls sendCallback p block first
      have hcount := count_met (offerPackets_refused sendCallback p block first)
      obtain ⟨hmade, hbuilt⟩ :=
        calls_sendCallback first (p.offerPackets sendCallback block first).2.passed
      rw [← hcalls] at hmade hbuilt
      have hempty : first.built = [] := by rw [← hfirst]
      have hsame : first.outcomes = outcomes := by rw [← hfirst]
      rw [hsame] at hbuilt hcount
      rw [hempty] at hmade hbuilt
      refine ⟨fun packet hpacket => ?_, ?_⟩
      · rcases hmade packet hpacket with hnone | hmade
        · cases hnone
        · exact hmade
      · rw [List.length_nil, Nat.zero_add] at hbuilt
        omega

/-- While the gate is open, `send_block` builds a packet of everything that is passed. -/
theorem sendBlockThrough_open (p : Packetizer) (block : PcmBlock) (enabled : Bool)
    {outcomes : List SendOutcome} (hopen : .gateClosed ∉ outcomes) :
    (p.sendBlockThrough block enabled outcomes).2.1.map
        (fun packet => (packet.timestamp, packet.payload)) =
      (p.sendBlockThrough block enabled outcomes).2.2.map (fun c => (c.1, encodePcmLe c.2)) := by
  cases enabled with
  | false => rfl
  | true =>
      simp only [sendBlockThrough, if_true]
      rw [offerPackets_calls, calls_sendCallback_open hopen, List.map_nil, List.nil_append]

end Folding

section States

variable {σ : Type} (callback : σ → UInt64 × List Int16 → Bool × σ)

/-- What the callback keeps, an iteration over a list keeps. -/
theorem offerEach_state {Q : σ → Prop} (hQ : ∀ s packet, Q s → Q (callback s packet).2)
    {s : σ} (hs : Q s) (packets : List (UInt64 × List Int16)) :
    Q (offerEach callback s packets).state := by
  induction packets generalizing s with
  | nil =>
      exact hs
  | cons packet rest ih =>
      rw [offerEach]
      rcases hcall : callback s packet with ⟨go, s'⟩
      have hs' : Q s' := by
        have hkept := hQ s packet hs
        rwa [hcall] at hkept
      cases go with
      | false =>
          exact hs'
      | true =>
          exact ih hs'

theorem fourMsOffers_state {Q : σ → Prop} (hQ : ∀ s packet, Q s → Q (callback s packet).2)
    (block : PcmBlock) (fuel offset : Nat) {s : σ} (hs : Q s) :
    Q (fourMsOffers callback block fuel offset s).1.state := by
  induction fuel generalizing offset s with
  | zero =>
      exact hs
  | succ fuel ih =>
      rw [fourMsOffers]
      split_ifs
      · simp only
        rcases hcall : callback s (block.timestamp + UInt64.ofNat (offset / channels),
          (block.samples.drop offset).take fourMsPacketSamples) with ⟨go, s'⟩
        have hs' : Q s' := by
          have hkept := hQ s (block.timestamp + UInt64.ofNat (offset / channels),
            (block.samples.drop offset).take fourMsPacketSamples) hs
          rwa [hcall] at hkept
        cases go with
        | false =>
            exact hs'
        | true =>
            exact ih _ hs'
      · exact hs

theorem offerPackets_state {Q : σ → Prop} (hQ : ∀ s packet, Q s → Q (callback s packet).2)
    (p : Packetizer) (block : PcmBlock) {s : σ} (hs : Q s) :
    Q (p.offerPackets callback block s).2.state := by
  rw [offerPackets]
  split_ifs
  · have hjoined := offerEach_state callback hQ hs (p.joinTail block).1
    have hlooped := fourMsOffers_state callback hQ block block.samples.length
      (p.joinTail block).2 hjoined
    simp only [offerFourMsPackets]
    split_ifs
    · exact hlooped
    · exact hlooped
    · exact hlooped
    · exact hjoined
  · exact offerEach_state callback hQ hs _

/-- A callback that never refuses is passed everything. -/
theorem offerEach_accepted {Q : σ → Prop}
    (hQ : ∀ s packet, Q s → (callback s packet).1 = true ∧ Q (callback s packet).2)
    {s : σ} (hs : Q s) (packets : List (UInt64 × List Int16)) :
    (offerEach callback s packets).accepted = true := by
  induction packets generalizing s with
  | nil =>
      rfl
  | cons packet rest ih =>
      obtain ⟨hgo, hs'⟩ := hQ s packet hs
      simp only [offerEach, hgo, if_true]
      exact ih hs'

theorem fourMsOffers_accepted {Q : σ → Prop}
    (hQ : ∀ s packet, Q s → (callback s packet).1 = true ∧ Q (callback s packet).2)
    (block : PcmBlock) (fuel offset : Nat) {s : σ} (hs : Q s) :
    (fourMsOffers callback block fuel offset s).1.accepted = true := by
  induction fuel generalizing offset s with
  | zero =>
      rfl
  | succ fuel ih =>
      rw [fourMsOffers]
      split_ifs
      · obtain ⟨hgo, hs'⟩ := hQ s (block.timestamp + UInt64.ofNat (offset / channels),
          (block.samples.drop offset).take fourMsPacketSamples) hs
        simp only [hgo, if_true]
        exact ih _ hs'
      · rfl

theorem offerPackets_accepted {Q : σ → Prop}
    (hQ : ∀ s packet, Q s → (callback s packet).1 = true ∧ Q (callback s packet).2)
    (p : Packetizer) (block : PcmBlock) {s : σ} (hs : Q s) :
    (p.offerPackets callback block s).2.accepted = true := by
  rw [offerPackets]
  split_ifs
  · have hjoined := offerEach_accepted callback hQ hs (p.joinTail block).1
    have hstate := offerEach_state callback (fun s packet h => (hQ s packet h).2) hs
      (p.joinTail block).1
    have hlooped := fourMsOffers_accepted callback hQ block block.samples.length
      (p.joinTail block).2 hstate
    simp only [offerFourMsPackets, hjoined, hlooped, if_true]
  · exact offerEach_accepted callback hQ hs _

end States

section Runs

variable {S : Nat → Int16} {duration : UInt8}

/-- The packets of `send_block` are numbered from the packetizer's sequence on. -/
theorem sendCallback_numbers (next : Nat) (s : SendState) (packet : UInt64 × List Int16)
    (h : Numbered next s.built ∧ s.sequence = serial (next + s.built.length)) :
    Numbered next (sendCallback s packet).2.built ∧
      (sendCallback s packet).2.sequence =
        serial (next + (sendCallback s packet).2.built.length) := by
  rw [sendCallback]
  split_ifs
  · exact h
  · refine ⟨numbered_concat h.1 h.2, ?_⟩
    simp only [h.2, serial_succ, List.length_append, List.length_singleton, Nat.add_assoc]

/-- The invariant of a sender. -/
structure SenderOk (S : Nat → Int16) (duration : UInt8) (log : SenderLog) : Prop where
  frame : log.packetizer.frameDurationMs = duration
  size : log.packetizer.samplesPerPacket = Soundwave.samplesPerPacket duration
  fourMs : log.packetizer.pendingTail ≠ none → duration = 4
  tail : ∀ tail, log.packetizer.pendingTail = some tail → TailCarries S tail
  sequence : log.packetizer.sequence = serial log.built.length
  numbered : Numbered 0 log.built
  passed : ∀ c ∈ log.passed,
    c.2.length = Soundwave.samplesPerPacket duration ∧ Carries S c.1 c.2

/-- The block of an event is part of the stream. -/
def FromStream (S : Nat → Int16) : SenderEvent → Prop
  | .block block _ _ =>
      Carries S block.timestamp block.samples ∧ block.timestamp.toNat < 2 ^ 64 - 480
  | .clearTail => True

theorem forEachPacket_settings (p : Packetizer) (block : PcmBlock) :
    (p.forEachPacket block).1.frameDurationMs = p.frameDurationMs ∧
      (p.forEachPacket block).1.samplesPerPacket = p.samplesPerPacket := by
  rw [forEachPacket]
  split_ifs
  · exact ⟨rfl, rfl⟩
  · exact ⟨rfl, rfl⟩

theorem forEachPacket_tail {p : Packetizer} (h : p.pendingTail ≠ none → p.frameDurationMs = 4)
    (block : PcmBlock) (hne : (p.forEachPacket block).1.pendingTail ≠ none) :
    p.frameDurationMs = 4 := by
  by_contra hother
  rw [forEachPacket, if_neg hother] at hne
  exact hother (h hne)

theorem step_senderOk (hduration : duration ∈ durations) {log : SenderLog}
    (h : SenderOk S duration log) {e : SenderEvent} (he : FromStream S e) :
    SenderOk S duration (log.step e) := by
  cases e with
  | clearTail =>
      have hnone : ∀ tail, (log.step .clearTail).packetizer.pendingTail = some tail →
          TailCarries S tail := by
        intro tail heq
        cases heq
      exact ⟨h.frame, h.size, fun hne => absurd rfl hne, hnone, h.sequence, h.numbered, h.passed⟩
  | block block enabled outcomes =>
      cases enabled with
      | false =>
          simp only [SenderLog.step, sendBlockThrough, Bool.false_eq_true, if_false,
            List.append_nil]
          exact h
      | true =>
          obtain ⟨hcarries, hstamp⟩ := he
          have hsplit := forEachPacket_carries hduration h.frame h.size h.tail hcarries hstamp
          let start : SendState := ⟨log.packetizer.sequence, [], outcomes⟩
          obtain ⟨hinitial, hpacketizer, _⟩ :=
            offerPackets_cases sendCallback log.packetizer block start
          obtain ⟨hnumbered, hsequence⟩ := offerPackets_state sendCallback
            (sendCallback_numbers log.built.length) log.packetizer block
            (show Numbered log.built.length start.built ∧
                start.sequence = serial (log.built.length + start.built.length) from
              ⟨trivial, h.sequence⟩)
          obtain ⟨hframe, hsize⟩ := forEachPacket_settings log.packetizer block
          simp only [SenderLog.step, sendBlockThrough, if_true]
          refine ⟨?_, ?_, ?_, ?_, ?_, ?_, ?_⟩
          · rcases hpacketizer with heq | heq
            · rw [heq]
              exact h.frame
            · rw [heq]
              exact hframe.trans h.frame
          · rcases hpacketizer with heq | heq
            · rw [heq]
              exact h.size
            · rw [heq]
              exact hsize.trans h.size
          · intro hne
            rcases hpacketizer with heq | heq
            · rw [heq] at hne
              exact absurd rfl hne
            · rw [heq] at hne
              have hfour := forEachPacket_tail (fun hsome => h.frame.trans (h.fourMs hsome))
                block hne
              exact h.frame.symm.trans hfour
          · intro tail htail
            rcases hpacketizer with heq | heq
            · rw [heq] at htail
              cases htail
            · rw [heq] at htail
              exact hsplit.tail tail htail
          · rw [hsequence, List.length_append]
          · refine numbered_append h.numbered ?_
            rw [Nat.zero_add]
            exact hnumbered
          · intro c hc
            rcases List.mem_append.mp hc with hold | hnew
            · exact h.passed c hold
            · exact hsplit.packets c (hinitial.subset hnew)

theorem start_senderOk (S : Nat → Int16) (duration : UInt8) :
    SenderOk S duration (SenderLog.start duration) where
  frame := rfl
  size := rfl
  fourMs := fun hne => absurd rfl hne
  tail := fun _ heq => by cases heq
  sequence := rfl
  numbered := trivial
  passed := fun _ hc => by cases hc

end Runs

section Contiguous

variable {duration : UInt8}

/-- The gate stays open during the event and no packet is refused. -/
def Accepted : SenderEvent → Prop
  | .block _ enabled outcomes =>
      enabled = true ∧ ∀ outcome ∈ outcomes, outcome = .sent ∨ outcome = .dropped
  | .clearTail => False

/-- The blocks of the events. -/
def SenderEvent.blocks : List SenderEvent → List PcmBlock
  | [] => []
  | .block b _ _ :: es => b :: SenderEvent.blocks es
  | .clearTail :: es => SenderEvent.blocks es

theorem sendCallback_accepts (s : SendState) (packet : UInt64 × List Int16)
    (h : ∀ outcome ∈ s.outcomes, outcome = .sent ∨ outcome = .dropped) :
    (sendCallback s packet).1 = true ∧
      ∀ outcome ∈ (sendCallback s packet).2.outcomes, outcome = .sent ∨ outcome = .dropped := by
  cases hs : s.outcomes with
  | nil =>
      simp [sendCallback, hs]
  | cons outcome rest =>
      rw [hs] at h
      have hrest : ∀ o ∈ rest, o = .sent ∨ o = .dropped :=
        fun o ho => h o (List.mem_cons_of_mem _ ho)
      rcases h outcome List.mem_cons_self with rfl | rfl
      · simpa [sendCallback, hs] using hrest
      · simpa [sendCallback, hs] using hrest

theorem SenderOk.ready {S : Nat → Int16} {log : SenderLog} (h : SenderOk S duration log) :
    Ready duration log.built.length log.packetizer where
  sequence := h.sequence
  frame := h.frame
  size := h.size
  tail := h.fourMs

/-- A sender that has lost nothing: what it has passed on and the tail are all samples
so far, and the next block follows on. -/
structure Lossless (log : SenderLog) (samples : List Int16) (next : UInt64) : Prop where
  expects : log.packetizer.Expects next
  samples : log.passed.flatMap Prod.snd ++ log.packetizer.tailSamples = samples

theorem step_lossless (hduration : duration ∈ durations) {log : SenderLog} {sequence : Nat}
    (hready : Ready duration sequence log.packetizer) {samples : List Int16} {block : PcmBlock}
    {outcomes : List SendOutcome} (h : Lossless log samples block.timestamp)
    (haccepted : ∀ outcome ∈ outcomes, outcome = .sent ∨ outcome = .dropped) :
    Lossless (log.step (.block block true outcomes)) (samples ++ block.samples)
      (block.timestamp + blockFrames) := by
  have hsplits := forEachPacket_splits hduration hready h.expects
  let start : SendState := ⟨log.packetizer.sequence, [], outcomes⟩
  have hoffered := offerPackets_accepted sendCallback sendCallback_accepts log.packetizer block
    (show ∀ outcome ∈ start.outcomes, outcome = .sent ∨ outcome = .dropped from haccepted)
  obtain ⟨_, _, hwhole⟩ := offerPackets_cases sendCallback log.packetizer block start
  obtain ⟨hpassed, hpacketizer⟩ := hwhole hoffered
  simp only [SenderLog.step, sendBlockThrough, if_true]
  rw [hpassed, hpacketizer]
  refine ⟨hsplits.expects, ?_⟩
  rw [List.flatMap_append, List.append_assoc]
  exact (congrArg _ hsplits.samples.symm).trans (by rw [← List.append_assoc, h.samples])

theorem run_lossless {S : Nat → Int16} (hduration : duration ∈ durations) {es : List SenderEvent}
    (hes : ∀ e ∈ es, FromStream S e) (haccepted : ∀ e ∈ es, Accepted e)
    {log : SenderLog} (hok : SenderOk S duration log) {samples : List Int16} {first last : UInt64}
    (h : Lossless log samples first)
    (hblocks : Consecutive first (SenderEvent.blocks es) last) :
    Lossless (run SenderLog.step log es)
      (samples ++ (SenderEvent.blocks es).flatMap PcmBlock.samples) last := by
  induction es generalizing log samples first with
  | nil =>
      have hsame : first = last := hblocks
      rw [← hsame]
      simpa [SenderEvent.blocks] using h
  | cons e es ih =>
      have hrest : ∀ e ∈ es, FromStream S e := fun e he => hes e (List.mem_cons_of_mem _ he)
      have hrest' : ∀ e ∈ es, Accepted e := fun e he => haccepted e (List.mem_cons_of_mem _ he)
      have hnext := step_senderOk hduration hok (hes e List.mem_cons_self)
      have hopen := haccepted e List.mem_cons_self
      cases e with
      | clearTail =>
          exact hopen.elim
      | block block enabled outcomes =>
          obtain ⟨rfl, hsent⟩ := hopen
          obtain ⟨hstamp, hlater⟩ := hblocks
          rw [← hstamp] at h hlater
          have hstep := step_lossless hduration hok.ready h hsent
          have hrun := ih hrest hrest' hnext hstep hlater
          rw [List.append_assoc] at hrun
          exact hrun

end Contiguous

section Built

/-- The gate stays open while the packets of a block are built. -/
def GateOpen : SenderEvent → Prop
  | .block _ _ outcomes => .gateClosed ∉ outcomes
  | .clearTail => True

instance : DecidablePred GateOpen
  | .block _ _ outcomes => inferInstanceAs (Decidable (.gateClosed ∉ outcomes))
  | .clearTail => instDecidableTrue

/-- Every packet is made from what was passed to the callback. -/
theorem run_made (duration : UInt8) (es : List SenderEvent) :
    ∀ packet ∈ (run SenderLog.step (SenderLog.start duration) es).built,
      ∃ c ∈ (run SenderLog.step (SenderLog.start duration) es).passed,
        packet.timestamp = c.1 ∧ packet.payload = encodePcmLe c.2 := by
  refine run_preserves (fun log : SenderLog => ∀ packet ∈ log.built, ∃ c ∈ log.passed,
    packet.timestamp = c.1 ∧ packet.payload = encodePcmLe c.2) (fun log e h => ?_)
    (fun _ hpacket => absurd hpacket List.not_mem_nil) es
  cases e with
  | block block enabled outcomes =>
      intro packet hpacket
      rcases List.mem_append.mp hpacket with hold | hnew
      · obtain ⟨c, hc, hsame⟩ := h packet hold
        exact ⟨c, List.mem_append_left _ hc, hsame⟩
      · obtain ⟨c, hc, hsame⟩ :=
          (sendBlockThrough_built log.packetizer block enabled outcomes).1 packet hnew
        exact ⟨c, List.mem_append_right _ hc, hsame⟩
  | clearTail => exact h

/-- While the gate is open, all that is passed is built, in order. -/
theorem run_built (duration : UInt8) {es : List SenderEvent} (hes : ∀ e ∈ es, GateOpen e) :
    (run SenderLog.step (SenderLog.start duration) es).built.map
        (fun packet => (packet.timestamp, packet.payload)) =
      (run SenderLog.step (SenderLog.start duration) es).passed.map
        (fun c => (c.1, encodePcmLe c.2)) := by
  refine run_invariant (fun log : SenderLog =>
    log.built.map (fun packet => (packet.timestamp, packet.payload)) =
      log.passed.map (fun c => (c.1, encodePcmLe c.2))) (fun log e h hopen => ?_) rfl
    (along_of_forall hes)
  cases e with
  | block block enabled outcomes =>
      have hnew := sendBlockThrough_open log.packetizer block enabled hopen
      simp only [SenderLog.step, List.map_append, h, hnew]
  | clearTail => exact h

end Built

/-- **The audio of a packet is the audio of its time stamp.**  Whatever blocks of the
stream arrive, in whatever order, and wherever the callback refuses or the tail is
cleared, every packet passed to the callback is full and carries the stream from its
time stamp on, and the packets built are numbered consecutively.  Each packet that is
built has the time stamp and the samples of one that was passed, and while the gate is
open all that are passed are built.  If the blocks are contiguous and nothing is refused
or cleared, the packets and the tail are the blocks. -/
theorem packets_carry_their_audio {duration : UInt8} (hduration : duration ∈ durations)
    (S : Nat → Int16) {es : List SenderEvent} (hes : ∀ e ∈ es, FromStream S e) :
    (∀ c ∈ (run SenderLog.step (SenderLog.start duration) es).passed,
        c.2.length = Soundwave.samplesPerPacket duration ∧ Carries S c.1 c.2) ∧
      Numbered 0 (run SenderLog.step (SenderLog.start duration) es).built ∧
      (∀ packet ∈ (run SenderLog.step (SenderLog.start duration) es).built,
        ∃ c ∈ (run SenderLog.step (SenderLog.start duration) es).passed,
          packet.timestamp = c.1 ∧ packet.payload = encodePcmLe c.2) ∧
      ((∀ e ∈ es, GateOpen e) →
        (run SenderLog.step (SenderLog.start duration) es).built.map
            (fun packet => (packet.timestamp, packet.payload)) =
          (run SenderLog.step (SenderLog.start duration) es).passed.map
            (fun c => (c.1, encodePcmLe c.2))) ∧
      (∀ first last, Consecutive first (SenderEvent.blocks es) last →
        (∀ e ∈ es, Accepted e) →
        (run SenderLog.step (SenderLog.start duration) es).passed.flatMap Prod.snd ++
            (run SenderLog.step (SenderLog.start duration) es).packetizer.tailSamples =
          (SenderEvent.blocks es).flatMap PcmBlock.samples) := by
  have hstart := start_senderOk S duration
  have halong : Along SenderLog.step (fun _ e => FromStream S e) (SenderLog.start duration) es :=
    along_of_forall hes
  have hok : SenderOk S duration (run SenderLog.step (SenderLog.start duration) es) :=
    run_invariant (SenderOk S duration) (fun _ _ h he => step_senderOk hduration h he) hstart halong
  refine ⟨hok.passed, hok.numbered, run_made duration es, fun hopen => run_built duration hopen,
    ?_⟩
  intro first last hblocks haccepted
  have hempty : Lossless (SenderLog.start duration) [] first :=
    ⟨fun _ heq => (by cases heq), rfl⟩
  exact (run_lossless hduration hes haccepted hstart hempty hblocks).samples

/-- The block of a stream at a time stamp. -/
def streamBlock (S : Nat → Int16) (timestamp : UInt64) : PcmBlock where
  timestamp := timestamp
  samples := (List.range blockSampleCount).map (fun i => S (channels * timestamp.toNat + i))
  full := by rw [List.length_map, List.length_range]

theorem streamBlock_carries (S : Nat → Int16) (timestamp : UInt64) :
    Carries S (streamBlock S timestamp).timestamp (streamBlock S timestamp).samples := by
  simp only [Carries, streamBlock, List.length_map, List.length_range]

/-- Packets of 4 ms: two blocks, a gap, a block whose first packet is refused, a block
that follows on it, a cleared tail and an old block again. -/
def unevenEvents : List SenderEvent :=
  [.block (streamBlock Int16.ofNat 0) true [.sent, .dropped],
    .block (streamBlock Int16.ofNat 480) true [],
    .block (streamBlock Int16.ofNat 1440) true [.gateClosed],
    .block (streamBlock Int16.ofNat 1920) true [.sent, .failed],
    .clearTail,
    .block (streamBlock Int16.ofNat 480) true []]

theorem unevenEvents_fromStream : ∀ e ∈ unevenEvents, FromStream Int16.ofNat e := by
  intro e he
  simp only [unevenEvents, List.mem_cons, List.not_mem_nil, or_false] at he
  rcases he with rfl | rfl | rfl | rfl | rfl | rfl
  · exact ⟨streamBlock_carries _ _, by decide⟩
  · exact ⟨streamBlock_carries _ _, by decide⟩
  · exact ⟨streamBlock_carries _ _, by decide⟩
  · exact ⟨streamBlock_carries _ _, by decide⟩
  · exact trivial
  · exact ⟨streamBlock_carries _ _, by decide⟩

theorem packets_carry_their_audio_uneven :
    (∀ c ∈ (run SenderLog.step (SenderLog.start 4) unevenEvents).passed,
        c.2.length = Soundwave.samplesPerPacket 4) ∧
      ∀ c ∈ (run SenderLog.step (SenderLog.start 4) unevenEvents).passed,
        Carries Int16.ofNat c.1 c.2 := by
  have hduration : (4 : UInt8) ∈ durations :=
    List.mem_cons_of_mem _ (List.mem_cons_of_mem _ List.mem_cons_self)
  have hpassed := (packets_carry_their_audio hduration Int16.ofNat unevenEvents_fromStream).1
  exact ⟨fun c hc => (hpassed c hc).1, fun c hc => (hpassed c hc).2⟩

end Packetizer

end Soundwave

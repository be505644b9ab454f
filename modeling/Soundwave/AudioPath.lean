import Soundwave.Packetizer
import Soundwave.PcmRingQueue
import Soundwave.ReceiverPipeline

/-!
# The audio path from capture to the PCM ring

The stages of the stream are put together: captured samples are assembled into
blocks, the sender task turns blocks into datagrams, and the client decodes them
and runs them through the receiver pipeline.  Blocks and datagrams travel in
FIFO queues, so the model covers the runs without evicted or lagged blocks, with
the gate open and with every datagram delivered once and in order.

All stages move independently of each other.  The client writes single samples,
and the playback thread may read the ring between any two of them.  Nothing
bounds the run, so sequence numbers and time stamps wrap as often as they like.
-/

namespace Soundwave

/-- State of the whole path.  `captured`, `written` and `rejected` are logs: the
samples captured and written into the ring so far, and the number of datagrams
the client turned down. -/
structure AudioPath where
  captured : List Int16
  assembler : BlockAssembler
  blocks : List PcmBlock
  packetizer : Packetizer
  datagrams : List (List UInt8)
  pipeline : ReceiverPipeline
  writing : Option (List Int16 × ReceiverPipeline.InFlight)
  written : List Int16
  rejected : Nat

/-- What can happen next. -/
inductive AudioPathEvent where
  | captureSamples (samples : List Int16)
  | captureSilence (count : Nat)
  | sendBlock
  | receiveDatagram
  | writeSample
  | settle
  | readRing (len : Nat)

namespace AudioPathEvent

/-- The samples an event captures. -/
def captures : AudioPathEvent → List Int16
  | captureSamples samples => samples
  | captureSilence count => List.replicate count 0
  | _ => []

end AudioPathEvent

namespace AudioPath

section Steps

/-- The path right after the stream was set up. -/
def start (duration : UInt8) (pipeline : ReceiverPipeline) : AudioPath where
  captured := []
  assembler := .empty
  blocks := []
  packetizer := .new duration
  datagrams := []
  pipeline := pipeline
  writing := none
  written := []
  rejected := 0

/-- `handle_packet` on the next datagram, up to its first ring write. -/
def receive (s : AudioPath) (datagram : List UInt8) (rest : List (List UInt8)) : AudioPath :=
  match AudioPacket.decode datagram with
  | .error _ => { s with datagrams := rest, rejected := s.rejected + 1 }
  | .ok packet =>
      match s.pipeline.accept packet with
      | (pipeline, none) =>
          { s with datagrams := rest, pipeline := pipeline, rejected := s.rejected + 1 }
      | (pipeline, some inFlight) =>
          { s with
              datagrams := rest
              pipeline := pipeline
              writing := some (inFlight.outputs.flatMap pipeline.samplesOf, inFlight) }

/-- One step of one of the stages.  A stage that has nothing to do stays put. -/
def step (s : AudioPath) : AudioPathEvent → AudioPath
  | .captureSamples samples =>
      { s with
          captured := s.captured ++ samples
          assembler := (s.assembler.pushSamples samples).1
          blocks := s.blocks ++ (s.assembler.pushSamples samples).2 }
  | .captureSilence count =>
      { s with
          captured := s.captured ++ List.replicate count 0
          assembler := (s.assembler.pushSilence count).1
          blocks := s.blocks ++ (s.assembler.pushSilence count).2 }
  | .sendBlock =>
      match s.blocks with
      | [] => s
      | block :: blocks =>
          { s with
              blocks := blocks
              packetizer := (s.packetizer.sendBlock block).1
              datagrams :=
                s.datagrams ++ (s.packetizer.sendBlock block).2.map AudioPacket.encode }
  | .receiveDatagram =>
      match s.writing, s.datagrams with
      | none, datagram :: rest => s.receive datagram rest
      | _, _ => s
  | .writeSample =>
      match s.writing with
      | some (sample :: samples, inFlight) =>
          { s with
              pipeline := { s.pipeline with ring := s.pipeline.ring.pushLatest sample }
              writing := some (samples, inFlight)
              written := s.written ++ [sample] }
      | _ => s
  | .settle =>
      match s.writing with
      | some ([], inFlight) =>
          { s with pipeline := s.pipeline.settle inFlight, writing := none }
      | _ => s
  | .readRing len =>
      { s with
          pipeline := { s.pipeline with ring := (s.pipeline.ring.readInto len).2.2 } }

/-- The samples that the current `handle_packet` has still to write. -/
def toWrite (s : AudioPath) : List Int16 :=
  match s.writing with
  | some (samples, _) => samples
  | none => []

end Steps

section HandlePacket

theorem samplesOf_foldl_write
    (outputs : List JitterOutput) (p : ReceiverPipeline) :
    outputs.foldl ReceiverPipeline.write p =
      { p with ring := p.ring.writeSamples (outputs.flatMap p.samplesOf) } := by
  induction outputs generalizing p with
  | nil =>
      rfl
  | cons o outputs ih =>
      rw [List.foldl_cons, ih, List.flatMap_cons]
      cases o with
      | audio packet =>
          simp only [ReceiverPipeline.write, ReceiverPipeline.samplesOf,
            PcmRingBuffer.writePcmLe, PcmRingBuffer.writeSamples, List.foldl_append]
          rfl
      | silence =>
          simp only [ReceiverPipeline.write, ReceiverPipeline.samplesOf,
            PcmRingBuffer.writeSilence, PcmRingBuffer.writeSamples, List.foldl_append]
          rfl

theorem run_writeSamples
    (s : AudioPath) (samples : List Int16) (inFlight : ReceiverPipeline.InFlight)
    (h : s.writing = some (samples, inFlight)) :
    run step s (List.replicate samples.length .writeSample) =
      { s with
          pipeline := { s.pipeline with ring := s.pipeline.ring.writeSamples samples }
          writing := some ([], inFlight)
          written := s.written ++ samples } := by
  induction samples generalizing s with
  | nil =>
      obtain ⟨captured, assembler, blocks, packetizer, datagrams, pipeline, writing, written,
        rejected⟩ := s
      simp only at h
      subst h
      simp [PcmRingBuffer.writeSamples]
  | cons sample samples ih =>
      rw [List.length_cons, List.replicate_succ, run_cons, ih]
      · simp [step, h, PcmRingBuffer.writeSamples]
      · simp [step, h]

/-- Left alone, the single steps of the client perform `handle_packet`. -/
theorem run_handlePacket
    (s : AudioPath) (packet : AudioPacket) (rest : List (List UInt8))
    (hidle : s.writing = none) (hnext : s.datagrams = packet.encode :: rest)
    {inFlight : ReceiverPipeline.InFlight} {p : ReceiverPipeline}
    (haccept : s.pipeline.accept packet = (p, some inFlight)) :
    (run step s
        (.receiveDatagram ::
          List.replicate (inFlight.outputs.flatMap p.samplesOf).length .writeSample ++
          [.settle])).pipeline =
      (s.pipeline.handlePacket packet).1 := by
  have hreceive : step s .receiveDatagram =
      { s with
          datagrams := rest
          pipeline := p
          writing := some (inFlight.outputs.flatMap p.samplesOf, inFlight) } := by
    simp only [step, hidle, hnext, receive, AudioPacket.decode_encode, haccept]
  rw [List.cons_append, run_cons, hreceive, run_concat, run_writeSamples _ _ _ rfl]
  simp only [step, ReceiverPipeline.handlePacket, haccept, samplesOf_foldl_write]

end HandlePacket

section Flow

open Packetizer

/-- Where the captured samples are: written, about to be written, held back by
the jitter buffer (`ps`), on the way as datagrams (`packets`), waiting as a tail
or as blocks, or in the assembler.  Nothing else happened to them. -/
structure Flow
    (duration : UInt8) (s : AudioPath)
    (first : Nat) (ps packets : List AudioPacket) (timestamp : UInt64) : Prop where
  samples : s.captured =
    s.written ++ s.toWrite ++ payloadSamples ps ++ payloadSamples packets ++
      s.packetizer.tailSamples ++ s.blocks.flatMap PcmBlock.samples ++ s.assembler.samples
  datagrams : s.datagrams = packets.map AudioPacket.encode
  pipeline : s.pipeline.InOrder (samplesPerPacket duration) first ps
  held : ∀ packet ∈ ps, packet.payload.length = samplesPerPacket duration * 2
  numbered : Numbered (first + ps.length) packets
  sized : ∀ packet ∈ packets, packet.payload.length = samplesPerPacket duration * 2
  ready : Ready duration (first + ps.length + packets.length) s.packetizer
  expects : s.packetizer.Expects timestamp
  stamps : Consecutive timestamp s.blocks s.assembler.timestamp
  rejected : s.rejected = 0

/-- Some account of the samples exists. -/
def Flowing (duration : UInt8) (s : AudioPath) : Prop :=
  ∃ first ps packets timestamp, Flow duration s first ps packets timestamp

theorem flowing_capture
    {duration : UInt8} {s : AudioPath} (h : Flowing duration s) (samples : List Int16) :
    Flowing duration (s.step (.captureSamples samples)) := by
  obtain ⟨first, ps, packets, timestamp, h⟩ := h
  obtain ⟨hsamples, hstamps⟩ := s.assembler.pushSamples_spec samples
  refine ⟨first, ps, packets, timestamp, ?_, h.datagrams, h.pipeline, h.held, h.numbered,
    h.sized, h.ready, h.expects, consecutive_append h.stamps hstamps, h.rejected⟩
  simp only [step, toWrite, List.flatMap_append]
  rw [h.samples, List.append_assoc _ s.assembler.samples, hsamples]
  simp only [toWrite, List.append_assoc]

theorem payloadSamples_append (ps qs : List AudioPacket) :
    payloadSamples (ps ++ qs) = payloadSamples ps ++ payloadSamples qs :=
  List.flatMap_append

theorem flowing_sendBlock
    {duration : UInt8} (hduration : duration ∈ durations)
    {s : AudioPath} (h : Flowing duration s) :
    Flowing duration (s.step .sendBlock) := by
  obtain ⟨first, ps, packets, timestamp, h⟩ := h
  cases hblocks : s.blocks with
  | nil =>
      refine ⟨first, ps, packets, timestamp, ?_⟩
      simpa [step, hblocks] using h
  | cons block blocks =>
      have hstamps := h.stamps
      rw [hblocks] at hstamps
      have hexpects : s.packetizer.Expects block.timestamp := by
        rw [hstamps.1]
        exact h.expects
      obtain ⟨hsplit, hnumbered, hsized, hready, hnext⟩ :=
        sendBlock_spec hduration h.ready hexpects
      rw [hstamps.1] at hnext
      refine ⟨first, ps, packets ++ (s.packetizer.sendBlock block).2, timestamp + blockFrames,
        ?_⟩
      simp only [step, hblocks]
      refine ⟨?_, ?_, h.pipeline, h.held, ?_, ?_, ?_, hnext, hstamps.2, h.rejected⟩
      · have hall := h.samples
        rw [hblocks, List.flatMap_cons] at hall
        simp only [toWrite, List.append_assoc] at hall hsplit ⊢
        rw [hall, payloadSamples_append, List.append_assoc,
          ← List.append_assoc (payloadSamples (s.packetizer.sendBlock block).2), ← hsplit,
          List.append_assoc]
      · rw [h.datagrams, List.map_append]
      · exact numbered_append h.numbered hnumbered
      · intro packet hpacket
        rcases List.mem_append.mp hpacket with hpacket | hpacket
        · exact h.sized packet hpacket
        · exact hsized packet hpacket
      · rw [List.length_append, ← Nat.add_assoc]
        exact hready

theorem samplesOf_heard (p : ReceiverPipeline) (heard : List AudioPacket) :
    (heard.map JitterOutput.audio).flatMap p.samplesOf = payloadSamples heard := by
  rw [List.flatMap_map]
  rfl

theorem flowing_receiveDatagram
    {duration : UInt8} {s : AudioPath} (h : Flowing duration s) :
    Flowing duration (s.step .receiveDatagram) := by
  obtain ⟨first, ps, packets, timestamp, h⟩ := h
  cases hwriting : s.writing with
  | some w =>
      refine ⟨first, ps, packets, timestamp, ?_⟩
      simpa [step, hwriting] using h
  | none =>
      cases packets with
      | nil =>
          have hempty : s.datagrams = [] := h.datagrams
          refine ⟨first, ps, [], timestamp, ?_⟩
          simpa [step, hwriting, hempty] using h
      | cons packet packets =>
          have hnext : s.datagrams = packet.encode :: packets.map AudioPacket.encode :=
            h.datagrams
          obtain ⟨inFlight, heard, rest, haccept, houtputs, _, _, hsplit, hinOrder⟩ :=
            ReceiverPipeline.accept_inOrder h.pipeline h.numbered.1
              (h.sized packet List.mem_cons_self)
          have hstep : s.step .receiveDatagram =
              { s with
                  datagrams := packets.map AudioPacket.encode
                  pipeline := (s.pipeline.accept packet).1
                  writing := some (payloadSamples heard, inFlight) } := by
            have hpair : s.pipeline.accept packet =
                ((s.pipeline.accept packet).1, some inFlight) := Prod.ext rfl haccept
            simp only [step, hwriting, hnext, receive, AudioPacket.decode_encode]
            rw [hpair]
            simp only [houtputs, samplesOf_heard]
          have hlength : first + heard.length + rest.length = first + ps.length + 1 := by
            have := congrArg List.length hsplit
            simp only [List.length_append, List.length_singleton] at this
            omega
          refine ⟨first + heard.length, rest, packets, timestamp, ?_⟩
          rw [hstep]
          refine ⟨?_, rfl, hinOrder, ?_, ?_, ?_, ?_, h.expects, h.stamps, h.rejected⟩
          · have hall := h.samples
            have hheard : payloadSamples heard ++ payloadSamples rest =
                payloadSamples ps ++ payloadSamples [packet] := by
              rw [← payloadSamples_append, ← payloadSamples_append, hsplit]
            have hcons : payloadSamples (packet :: packets) =
                payloadSamples [packet] ++ payloadSamples packets :=
              payloadSamples_append [packet] packets
            simp only [toWrite, hwriting, List.append_nil, List.append_assoc] at hall ⊢
            rw [hall, hcons, List.append_assoc, ← List.append_assoc (payloadSamples ps),
              ← hheard, List.append_assoc]
          · intro q hq
            have hmem : q ∈ ps ++ [packet] := by
              rw [← hsplit]
              exact List.mem_append_right _ hq
            rcases List.mem_append.mp hmem with hq | hq
            · exact h.held q hq
            · rw [List.mem_singleton.mp hq]
              exact h.sized packet List.mem_cons_self
          · rw [hlength]
            exact h.numbered.2
          · intro q hq
            exact h.sized q (List.mem_cons_of_mem _ hq)
          · have hready := h.ready
            rw [List.length_cons, Nat.add_comm packets.length 1, ← Nat.add_assoc] at hready
            rw [hlength]
            exact hready

theorem flowing_writeSample
    {duration : UInt8} {s : AudioPath} (h : Flowing duration s) :
    Flowing duration (s.step .writeSample) := by
  obtain ⟨first, ps, packets, timestamp, h⟩ := h
  refine ⟨first, ps, packets, timestamp, ?_⟩
  cases hwriting : s.writing with
  | none =>
      simpa [step, hwriting] using h
  | some w =>
      obtain ⟨samples, inFlight⟩ := w
      cases samples with
      | nil =>
          simpa [step, hwriting] using h
      | cons sample samples =>
          simp only [step, hwriting]
          refine ⟨?_, h.datagrams, ReceiverPipeline.inOrder_of_ring h.pipeline _, h.held,
            h.numbered, h.sized, h.ready, h.expects, h.stamps, h.rejected⟩
          have hall := h.samples
          simp only [toWrite, hwriting, List.append_assoc] at hall ⊢
          exact hall

theorem flowing_settle
    {duration : UInt8} {s : AudioPath} (h : Flowing duration s) :
    Flowing duration (s.step .settle) := by
  obtain ⟨first, ps, packets, timestamp, h⟩ := h
  refine ⟨first, ps, packets, timestamp, ?_⟩
  cases hwriting : s.writing with
  | none =>
      simpa [step, hwriting] using h
  | some w =>
      obtain ⟨samples, inFlight⟩ := w
      cases samples with
      | nil =>
          simp only [step, hwriting]
          refine ⟨?_, h.datagrams, ReceiverPipeline.inOrder_settle h.pipeline inFlight, h.held,
            h.numbered, h.sized, h.ready, h.expects, h.stamps, h.rejected⟩
          have hall := h.samples
          simp only [toWrite, hwriting] at hall ⊢
          exact hall
      | cons sample samples =>
          simpa [step, hwriting] using h

/-- **Step lemma.**  Every stage only hands samples on. -/
theorem flowing_step
    {duration : UInt8} (hduration : duration ∈ durations)
    {s : AudioPath} (h : Flowing duration s) (e : AudioPathEvent) :
    Flowing duration (s.step e) := by
  cases e with
  | captureSamples samples =>
      exact flowing_capture h samples
  | captureSilence count =>
      exact flowing_capture h (List.replicate count 0)
  | sendBlock =>
      exact flowing_sendBlock hduration h
  | receiveDatagram =>
      exact flowing_receiveDatagram h
  | writeSample =>
      exact flowing_writeSample h
  | settle =>
      exact flowing_settle h
  | readRing len =>
      obtain ⟨first, ps, packets, timestamp, h⟩ := h
      exact ⟨first, ps, packets, timestamp, h.samples, h.datagrams,
        ReceiverPipeline.inOrder_of_ring h.pipeline _, h.held, h.numbered, h.sized, h.ready,
        h.expects, h.stamps, h.rejected⟩

end Flow

section Ring

open PcmRingBuffer

/-- What a step does to the ring: new samples join it, the oldest ones give way, and a
read takes some off the front. -/
theorem step_ring {s : AudioPath}
    (hroom : s.pipeline.ring.queue.length ≤ s.pipeline.ring.capacity) (e : AudioPathEvent) :
    (s.step e).pipeline.ring.capacity = s.pipeline.ring.capacity ∧
      ∃ new n, (s.step e).written = s.written ++ new ∧
        (s.step e).pipeline.ring.queue =
          ((s.pipeline.ring.queue ++ new).rtake s.pipeline.ring.capacity).drop n ∧
        ((∀ len, e ≠ .readRing len) → n = 0) := by
  have hsame : s.pipeline.ring.queue =
      ((s.pipeline.ring.queue ++ []).rtake s.pipeline.ring.capacity).drop 0 := by
    rw [List.append_nil, List.drop_zero, rtake_of_length_le hroom]
  have hnothing : s.written = s.written ++ [] := (List.append_nil _).symm
  cases e with
  | captureSamples samples => exact ⟨rfl, [], 0, hnothing, hsame, fun _ => rfl⟩
  | captureSilence count => exact ⟨rfl, [], 0, hnothing, hsame, fun _ => rfl⟩
  | sendBlock =>
      simp only [step]
      split <;> exact ⟨rfl, [], 0, hnothing, hsame, fun _ => rfl⟩
  | receiveDatagram =>
      simp only [step]
      split
      · simp only [receive]
        split
        · exact ⟨rfl, [], 0, hnothing, hsame, fun _ => rfl⟩
        · rename_i packet _
          have haccept := s.pipeline.accept_ring packet
          rcases hresult : s.pipeline.accept packet with ⟨pipeline, _ | inFlight⟩
          all_goals
            rw [hresult] at haccept
            dsimp only at haccept ⊢
            rw [haccept]
            exact ⟨rfl, [], 0, hnothing, hsame, fun _ => rfl⟩
      · exact ⟨rfl, [], 0, hnothing, hsame, fun _ => rfl⟩
  | writeSample =>
      simp only [step]
      split
      · rename_i sample samples inFlight _
        rw [pushLatest_eq hroom]
        exact ⟨rfl, [sample], 0, rfl, (List.drop_zero).symm, fun _ => rfl⟩
      · exact ⟨rfl, [], 0, hnothing, hsame, fun _ => rfl⟩
  | settle =>
      simp only [step]
      split
      · rename_i inFlight _
        have hsettle := s.pipeline.settle_ring inFlight
        exact ⟨hsettle.1, [], 0, hnothing, hsettle.2.trans hsame, fun _ => rfl⟩
      · exact ⟨rfl, [], 0, hnothing, hsame, fun _ => rfl⟩
  | readRing len =>
      simp only [step]
      by_cases hheld : s.pipeline.ring.view.HoldsBack len
      · rw [readInto_of_holdsBack hheld]
        exact ⟨rfl, [], 0, hnothing, hsame, fun hnot => absurd rfl (hnot len)⟩
      · rw [readInto_of_not_holdsBack hheld]
        refine ⟨rfl, [], len, hnothing, ?_, fun hnot => absurd rfl (hnot len)⟩
        rw [List.append_nil, rtake_of_length_le hroom]

/-- The ring holds the end of what it held before and what was written since; without
reads, it holds as much of it as fits. -/
structure Ringing (held : List Int16) (size : Nat) (reads : Bool) (s : AudioPath) : Prop where
  capacity : s.pipeline.ring.capacity = size
  room : s.pipeline.ring.queue.length ≤ size
  suffix : s.pipeline.ring.queue <:+ held ++ s.written
  newest : reads = false → s.pipeline.ring.queue = (held ++ s.written).rtake size

theorem step_ringing {held : List Int16} {size : Nat} {reads : Bool} {s : AudioPath}
    (h : Ringing held size reads s) {e : AudioPathEvent}
    (hread : reads = false → ∀ len, e ≠ .readRing len) :
    Ringing held size reads (s.step e) := by
  obtain ⟨rfl, hroom, hsuffix, hnewest⟩ := h
  obtain ⟨hsame, new, n, hwritten, hqueue, hzero⟩ := step_ring hroom e
  refine ⟨hsame, ?_, ?_, fun hfalse => ?_⟩
  · rw [hqueue, List.length_drop]
    exact Nat.le_trans (Nat.sub_le _ _) (length_rtake_le _ _)
  · rw [hqueue, hwritten, ← List.append_assoc]
    exact ((List.drop_suffix _ _).trans (List.drop_suffix _ _)).trans
      (List.suffix_append_self_iff.mpr hsuffix)
  · rw [hqueue, hwritten, hzero (hread hfalse), hnewest hfalse, List.drop_zero,
      rtake_rtake_append, List.append_assoc]

end Ring

section Drain

/-- An event that neither captures nor reads. -/
def Quiet (e : AudioPathEvent) : Prop :=
  e.captures = [] ∧ ∀ len, e ≠ .readRing len

theorem quiet_of_stage {e : AudioPathEvent}
    (h : e = .sendBlock ∨ e = .receiveDatagram ∨ e = .writeSample ∨ e = .settle) :
    Quiet e := by
  rcases h with rfl | rfl | rfl | rfl
  all_goals exact ⟨rfl, fun _ heq => by cases heq⟩

/-- The client can finish the packet that it handles. -/
theorem exists_writeAll (s : AudioPath) :
    ∃ es, (∀ e ∈ es, Quiet e) ∧ (run step s es).blocks = s.blocks ∧
      (run step s es).datagrams = s.datagrams ∧ (run step s es).writing = none := by
  cases hwriting : s.writing with
  | none => exact ⟨[], fun _ he => absurd he List.not_mem_nil, rfl, rfl, hwriting⟩
  | some w =>
      obtain ⟨samples, inFlight⟩ := w
      have hwritten := run_writeSamples s samples inFlight hwriting
      refine ⟨List.replicate samples.length .writeSample ++ [.settle], fun e he => ?_, ?_⟩
      · rcases List.mem_append.mp he with he | he
        · exact quiet_of_stage (Or.inr (Or.inr (Or.inl (List.eq_of_mem_replicate he))))
        · exact quiet_of_stage (Or.inr (Or.inr (Or.inr (List.mem_singleton.mp he))))
      · rw [run_concat, hwritten]
        exact ⟨rfl, rfl, rfl⟩

/-- The client can handle all datagrams on their way. -/
theorem exists_receiveAll (n : Nat) : ∀ s : AudioPath, s.datagrams.length = n →
    ∃ es, (∀ e ∈ es, Quiet e) ∧ (run step s es).blocks = s.blocks ∧
      (run step s es).datagrams = [] ∧ (run step s es).writing = none := by
  induction n with
  | zero =>
      intro s hlength
      obtain ⟨es, hquiet, hblocks, hdatagrams, hwriting⟩ := exists_writeAll s
      have hnone : s.datagrams = [] := List.eq_nil_of_length_eq_zero hlength
      exact ⟨es, hquiet, hblocks, hdatagrams.trans hnone, hwriting⟩
  | succ n ih =>
      intro s hlength
      obtain ⟨es, hquiet, hblocks, hdatagrams, hwriting⟩ := exists_writeAll s
      obtain ⟨datagram, rest, hnext⟩ := List.exists_cons_of_length_eq_add_one hlength
      have hreceived : ((run step s es).step .receiveDatagram).datagrams = rest ∧
          ((run step s es).step .receiveDatagram).blocks = s.blocks := by
        simp only [step, hwriting, hdatagrams, hnext, receive]
        split
        · exact ⟨rfl, hblocks⟩
        · split
          · exact ⟨rfl, hblocks⟩
          · exact ⟨rfl, hblocks⟩
      have hless : ((run step s es).step .receiveDatagram).datagrams.length = n := by
        rw [hnext, List.length_cons] at hlength
        rw [hreceived.1]
        omega
      obtain ⟨es', hquiet', hblocks', hempty⟩ := ih _ hless
      refine ⟨es ++ .receiveDatagram :: es', fun e he => ?_, ?_⟩
      · rcases List.mem_append.mp he with he | he
        · exact hquiet e he
        · rcases List.mem_cons.mp he with rfl | he
          · exact quiet_of_stage (Or.inr (Or.inl rfl))
          · exact hquiet' e he
      · rw [run_append, run_cons]
        exact ⟨hblocks'.trans hreceived.2, hempty⟩

/-- **The queues can always run dry.** -/
theorem exists_drained (s : AudioPath) :
    ∃ es, (∀ e ∈ es, Quiet e) ∧ (run step s es).blocks = [] ∧
      (run step s es).datagrams = [] ∧ (run step s es).writing = none := by
  generalize hlength : s.blocks.length = n
  induction n generalizing s with
  | zero =>
      obtain ⟨es, hquiet, hblocks, hempty⟩ := exists_receiveAll _ s rfl
      exact ⟨es, hquiet, hblocks.trans (List.eq_nil_of_length_eq_zero hlength), hempty⟩
  | succ n ih =>
      obtain ⟨block, rest, hnext⟩ := List.exists_cons_of_length_eq_add_one hlength
      have hsent : (s.step .sendBlock).blocks = rest := by
        simp only [step, hnext]
      have hless : (s.step .sendBlock).blocks.length = n := by
        rw [hnext, List.length_cons] at hlength
        rw [hsent]
        omega
      obtain ⟨es, hquiet, hempty⟩ := ih _ hless
      refine ⟨.sendBlock :: es, fun e he => ?_, hempty⟩
      rcases List.mem_cons.mp he with rfl | he
      · exact quiet_of_stage (Or.inl rfl)
      · exact hquiet e he

end Drain

section Fidelity

open Packetizer

/-- The stream that the server announces for a packet duration. -/
def streamOf (duration : UInt8) : StreamInfo where
  sampleRate := Soundwave.sampleRate
  channels := 2
  sampleFormat := .i16Le
  frameDurationMs := duration

/-- Everything captured in a run. -/
def capturedBy (es : List AudioPathEvent) : List Int16 :=
  es.flatMap AudioPathEvent.captures

theorem exists_pipeline
    {duration : UInt8} (hduration : duration ∈ durations)
    (ring : PcmRingBuffer Int16) (counters : StreamCounters) :
    ∃ p, ReceiverPipeline.new (streamOf duration) ring counters = .ok p := by
  simp only [durations, List.mem_cons, List.not_mem_nil, or_false] at hduration
  rcases hduration with rfl | rfl | rfl | rfl | rfl
  · exact ⟨_, rfl⟩
  · exact ⟨_, rfl⟩
  · exact ⟨_, rfl⟩
  · exact ⟨_, rfl⟩
  · exact ⟨_, rfl⟩

theorem flowing_start
    {duration : UInt8} {ring : PcmRingBuffer Int16} {counters : StreamCounters}
    {p : ReceiverPipeline}
    (h : ReceiverPipeline.new (streamOf duration) ring counters = .ok p) :
    Flowing duration (start duration p) := by
  refine ⟨0, [], [], 0, rfl, rfl, ReceiverPipeline.inOrder_new h 0, ?_, trivial, ?_,
    ready_new duration, ?_, rfl, rfl⟩
  · exact fun packet hpacket => absurd hpacket List.not_mem_nil
  · exact fun packet hpacket => absurd hpacket List.not_mem_nil
  · intro tail htail
    cases htail

theorem run_captured (s : AudioPath) (es : List AudioPathEvent) :
    (run step s es).captured = s.captured ++ capturedBy es := by
  induction es generalizing s with
  | nil =>
      simp [capturedBy]
  | cons e es ih =>
      have hstep : (s.step e).captured = s.captured ++ e.captures := by
        cases e with
        | captureSamples samples => rfl
        | captureSilence count => rfl
        | sendBlock =>
            simp only [step, AudioPathEvent.captures, List.append_nil]
            split <;> rfl
        | receiveDatagram =>
            simp only [step, AudioPathEvent.captures, List.append_nil, receive]
            split
            · split
              · rfl
              · split <;> rfl
            · rfl
        | writeSample =>
            simp only [step, AudioPathEvent.captures, List.append_nil]
            split <;> rfl
        | settle =>
            simp only [step, AudioPathEvent.captures, List.append_nil]
            split <;> rfl
        | readRing len =>
            simp only [step, AudioPathEvent.captures, List.append_nil]
      rw [run_cons, ih, hstep, List.append_assoc]
      rfl

theorem length_payloadSamples
    {size : Nat} {ps : List AudioPacket}
    (h : ∀ packet ∈ ps, packet.payload.length = size * 2) :
    (payloadSamples ps).length = ps.length * size := by
  induction ps with
  | nil =>
      simp [payloadSamples]
  | cons p ps ih =>
      have hp := h p List.mem_cons_self
      have hps := ih (fun q hq => h q (List.mem_cons_of_mem _ hq))
      simp only [payloadSamples] at hps
      simp only [payloadSamples, List.flatMap_cons, List.length_append, length_decodePcmLe, hp,
        hps, List.length_cons, Nat.add_mul]
      omega

/-- A tail is always shorter than a packet. -/
theorem tailSamples_lt
    {duration : UInt8} (hduration : duration ∈ durations)
    {next : Nat} {p : Packetizer} (h : Ready duration next p) :
    p.tailSamples.length < samplesPerPacket duration := by
  cases htail : p.pendingTail with
  | none =>
      simp only [tailSamples, htail, List.length_nil]
      simp only [durations, List.mem_cons, List.not_mem_nil, or_false] at hduration
      rcases hduration with rfl | rfl | rfl | rfl | rfl <;> decide
  | some tail =>
      have hfour := h.tail (by rw [htail]; exact Option.some_ne_none tail)
      simp only [tailSamples, htail, tail.size, hfour]
      decide

theorem run_ringing {duration : UInt8} (hduration : duration ∈ durations)
    {ring : PcmRingBuffer Int16} {counters : StreamCounters} {p : ReceiverPipeline}
    (hp : ReceiverPipeline.new (streamOf duration) ring counters = .ok p)
    (es : List AudioPathEvent) (hroom : ring.queue.length ≤ ring.capacity) (reads : Bool)
    (hread : reads = false → ∀ len, .readRing len ∉ es) :
    Ringing ring.queue ring.capacity reads (run step (start duration p) es) := by
  have hring : p.ring.queue = ring.queue ∧ p.ring.capacity = ring.capacity := by
    simp only [durations, List.mem_cons, List.not_mem_nil, or_false] at hduration
    rcases hduration with rfl | rfl | rfl | rfl | rfl
    all_goals
      cases hp
      exact ⟨rfl, rfl⟩
  have hstart : Ringing ring.queue ring.capacity reads (start duration p) := by
    have hlength : p.ring.queue.length = ring.queue.length := congrArg List.length hring.1
    refine ⟨hring.2, Nat.le_trans (Nat.le_of_eq hlength) hroom, ?_, fun _ => ?_⟩
    · show p.ring.queue <:+ ring.queue ++ []
      rw [hring.1, List.append_nil]
    · show p.ring.queue = (ring.queue ++ []).rtake ring.capacity
      rw [hring.1, List.append_nil, PcmRingBuffer.rtake_of_length_le hroom]
  have halong : Along step (fun _ e => reads = false → ∀ len, e ≠ .readRing len)
      (start duration p) es :=
    along_of_forall fun e he hfalse len heq => hread hfalse len (heq ▸ he)
  exact run_invariant (Ringing ring.queue ring.capacity reads)
    (fun _ _ h hok => step_ringing h hok) hstart halong

/-- **End-to-end fidelity.**  For every packet duration the server can choose the
client accepts the stream and every packet of it, and what it writes into the
ring is at every moment a prefix of what was captured.  Once the queues have run
dry, less than one capture block and `target_packets` packets are missing.  The ring
holds the end of what is written, and all of it that fits until something is read. -/
theorem written_prefix_of_captured
    (duration : UInt8) (hduration : duration ∈ durations)
    (ring : PcmRingBuffer Int16) (counters : StreamCounters) :
    ∃ p, ReceiverPipeline.new (streamOf duration) ring counters = .ok p ∧
      ∀ es : List AudioPathEvent,
        (run step (start duration p) es).rejected = 0 ∧
        (run step (start duration p) es).written <+: capturedBy es ∧
        ((run step (start duration p) es).blocks = [] →
          (run step (start duration p) es).datagrams = [] →
          (run step (start duration p) es).writing = none →
          (capturedBy es).length <
            (run step (start duration p) es).written.length + blockSampleCount +
              (run step (start duration p) es).pipeline.jitter.targetPackets *
                samplesPerPacket duration) ∧
        (ring.queue.length ≤ ring.capacity →
          (run step (start duration p) es).pipeline.ring.queue <:+
            ring.queue ++ (run step (start duration p) es).written ∧
          ((∀ len, .readRing len ∉ es) →
            (run step (start duration p) es).pipeline.ring.queue =
              (ring.queue ++ (run step (start duration p) es).written).rtake ring.capacity)) := by
  obtain ⟨p, hp⟩ := exists_pipeline hduration ring counters
  refine ⟨p, hp, ?_⟩
  intro es
  have hcaptured : (run step (start duration p) es).captured = capturedBy es := by
    rw [run_captured]
    rfl
  have hflow := run_preserves (Flowing duration)
    (fun s e h => flowing_step hduration h e) (flowing_start hp) es
  have hringing := run_ringing hduration hp es
  rw [← hcaptured]
  generalize run step (start duration p) es = s at hflow hringing
  obtain ⟨first, ps, packets, timestamp, h⟩ := hflow
  refine ⟨h.rejected, ?_, ?_, fun hroom => ⟨(hringing hroom true (fun h => by cases h)).suffix,
    fun hread => (hringing hroom false fun _ => hread).newest rfl⟩⟩
  · rw [h.samples]
    simp only [List.append_assoc]
    exact List.prefix_append _ _
  · intro hblocks hdatagrams hwriting
    have hpackets : packets = [] := by
      have hmap := h.datagrams
      rw [hdatagrams] at hmap
      exact List.map_eq_nil_iff.mp hmap.symm
    have hlength : s.captured.length =
        s.written.length + ps.length * samplesPerPacket duration +
          s.packetizer.tailSamples.length + s.assembler.samples.length := by
      have hheld := length_payloadSamples h.held
      rw [h.samples, hblocks, hpackets]
      have hnil : payloadSamples [] = [] := rfl
      simp only [toWrite, hwriting, List.length_append, hheld, hnil, List.flatMap_nil,
        List.length_nil, Nat.add_zero]
    have htail := tailSamples_lt hduration h.ready
    have hroom := s.assembler.room
    have htarget : (ps.length + 1) * samplesPerPacket duration ≤
        s.pipeline.jitter.targetPackets * samplesPerPacket duration :=
      Nat.mul_le_mul_right _ h.pipeline.below
    rw [Nat.add_mul] at htarget
    omega

/-- Half a second of sound and as much silence over a 4 ms stream.  When the queues have
run dry, most of it has been written, and nothing that was written has left the ring. -/
theorem written_prefix_of_captured_four_ms :
    ∃ p, ReceiverPipeline.new (streamOf 4) (.new 96000) ⟨0, 0, 0, 0⟩ = .ok p ∧
      ∃ es, (run step (start 4 p) es).written <+:
          List.replicate 48000 7 ++ List.replicate 48000 0 ∧
        48000 < (run step (start 4 p) es).written.length ∧
        (run step (start 4 p) es).pipeline.ring.queue = (run step (start 4 p) es).written := by
  obtain ⟨p, hp, hall⟩ :=
    written_prefix_of_captured 4 (by decide) (.new 96000) ⟨0, 0, 0, 0⟩
  refine ⟨p, hp, ?_⟩
  obtain ⟨es, hquiet, hblocks, hdatagrams, hwriting⟩ := exists_drained
    (run step (start 4 p) [.captureSamples (List.replicate 48000 7), .captureSilence 48000])
  rw [← run_append] at hblocks hdatagrams hwriting
  have hcaptured : capturedBy ([.captureSamples (List.replicate 48000 7), .captureSilence 48000] ++
      es) = List.replicate 48000 7 ++ List.replicate 48000 0 := by
    rw [capturedBy, List.flatMap_append, List.flatMap_eq_nil_iff.mpr fun e he => (hquiet e he).1]
    simp only [AudioPathEvent.captures, List.flatMap_cons, List.flatMap_nil, List.append_nil]
  have hread : ∀ len, .readRing len ∉
      [.captureSamples (List.replicate 48000 7), .captureSilence 48000] ++ es := by
    intro len hmem
    rcases List.mem_append.mp hmem with hmem | hmem
    · simp only [List.mem_cons, reduceCtorEq, List.not_mem_nil, or_false] at hmem
    · exact (hquiet _ hmem).2 len rfl
  obtain ⟨-, hprefix, hbound, hring⟩ := hall
    ([.captureSamples (List.replicate 48000 7), .captureSilence 48000] ++ es)
  obtain ⟨first, ps, packets, timestamp, hflow⟩ := run_preserves (Flowing 4)
    (fun s e h => flowing_step (by decide) h e) (flowing_start hp)
    ([.captureSamples (List.replicate 48000 7), .captureSilence 48000] ++ es)
  have htarget := hflow.pipeline.target
  have hmissing := hbound hblocks hdatagrams hwriting
  have hkept := (hring (Nat.zero_le _)).2 hread
  rw [hcaptured] at hprefix hmissing
  refine ⟨_, hprefix, ?_, ?_⟩
  · have hms : maxJitterBufferMs = 100 := rfl
    have hblock : blockSampleCount = 960 := rfl
    have hpacket : samplesPerPacket 4 = 384 := rfl
    rw [List.length_append, List.length_replicate, List.length_replicate, hpacket] at hmissing
    omega
  · have hlength := hprefix.length_le
    rw [List.length_append, List.length_replicate, List.length_replicate] at hlength
    rw [hkept]
    exact PcmRingBuffer.rtake_of_length_le hlength

end Fidelity

end AudioPath

end Soundwave

import Mathlib.Data.Multiset.AddSub
import Mathlib.Tactic.Abel
import Soundwave.BoundedChannels
import Soundwave.CaptureBlocks
import Soundwave.TransitionRuns

/-!
# From the capture thread to the broadcast channel

Model of the capture thread in `windows-server/src/audio/capture.rs`, of its bounded
queue, and of the fan-out thread that `start_wasapi_capture` in
`windows-server/src/application/hub.rs` starts.

The capture thread never waits for the fan-out thread.  `enqueue_latest` looks at the
queue up to three times, and the fan-out thread may take a block between any two of
them; each look is a step of its own here.  When the transmission gate closes, the
capture thread throws away the block it is assembling and empties the queue.

The logs say what has become of every block.
-/

namespace Soundwave

/-- `FRAME_QUEUE_CAPACITY`. -/
def frameQueueCapacity : Nat := 1

/-- `CAPTURE_BROADCAST_CAPACITY`. -/
def captureBroadcastCapacity : Nat := 2

/-- Where the capture thread stands: between two samples, at one of the three looks of
`enqueue_latest` at the queue, or behind a closed gate. -/
inductive CapturePhase where
  | collecting
  | sending (block : PcmBlock)
  | evicting (block : PcmBlock)
  | retrying (block : PcmBlock)
  | draining
  | waiting

namespace CapturePhase

/-- The block that the capture thread has in its hands. -/
def pending : CapturePhase → List PcmBlock
  | sending block | evicting block | retrying block => [block]
  | collecting | draining | waiting => []

end CapturePhase

/-- The capture thread, the queue, the fan-out thread and the broadcast channel.
`finished`, `passed`, `published`, `evicted`, `refused` and `discarded` are logs: the
blocks that were assembled, that the fan-out thread was done with, that were sent to
some receiver, that made room for newer ones, that found no room, and that a closing
gate threw away. -/
structure CaptureFanout where
  assembler : BlockAssembler
  phase : CapturePhase
  queue : BoundedQueue PcmBlock
  droppedBlocks : Nat
  holding : Option PcmBlock
  channel : Broadcast PcmBlock
  finished : List PcmBlock
  passed : List PcmBlock
  published : List PcmBlock
  evicted : List PcmBlock
  refused : List PcmBlock
  discarded : List PcmBlock

/-- A step of one of the two threads.  `listening` says whether the broadcast channel
has a receiver; without one, `send` returns the block as an error. -/
inductive CaptureEvent where
  | pushOne (sample : Int16)
  | trySend
  | evict
  | retry
  | closeGate
  | drain
  | reopen
  | take
  | publish (listening : Bool)

namespace CaptureFanout

section Model

/-- A capture that has just been started. -/
def start : CaptureFanout where
  assembler := .empty
  phase := .collecting
  queue := .empty frameQueueCapacity
  droppedBlocks := 0
  holding := none
  channel := .new captureBroadcastCapacity
  finished := []
  passed := []
  published := []
  evicted := []
  refused := []
  discarded := []

/-- `push_one`; a finished block goes to `enqueue_latest`. -/
def pushOne (s : CaptureFanout) (sample : Int16) : CaptureFanout :=
  match s.assembler.pushOne sample with
  | (assembler, none) => { s with assembler := assembler }
  | (assembler, some block) =>
      { s with
          assembler := assembler
          phase := .sending block
          finished := s.finished ++ [block] }

/-- The first `try_send` of `enqueue_latest`. -/
def trySend (s : CaptureFanout) (block : PcmBlock) : CaptureFanout :=
  match s.queue.trySend block with
  | some queue => { s with queue := queue, phase := .collecting }
  | none => { s with phase := .evicting block }

/-- The `try_recv` of `enqueue_latest`. -/
def evict (s : CaptureFanout) (block : PcmBlock) : CaptureFanout :=
  match s.queue.tryRecv with
  | some (oldest, queue) =>
      { s with
          queue := queue
          phase := .retrying block
          droppedBlocks := s.droppedBlocks + 1
          evicted := s.evicted ++ [oldest] }
  | none => { s with phase := .retrying block }

/-- The second `try_send` of `enqueue_latest`. -/
def retry (s : CaptureFanout) (block : PcmBlock) : CaptureFanout :=
  match s.queue.trySend block with
  | some queue => { s with queue := queue, phase := .collecting }
  | none =>
      { s with
          phase := .collecting
          droppedBlocks := s.droppedBlocks + 1
          refused := s.refused ++ [block] }

/-- `assembler.filled = 0` behind a closed gate. -/
def closeGate (s : CaptureFanout) : CaptureFanout :=
  { s with
      assembler := { BlockAssembler.empty with timestamp := s.assembler.timestamp }
      phase := .draining }

/-- One round of `while eviction_receiver.try_recv().is_ok() {}`. -/
def drain (s : CaptureFanout) : CaptureFanout :=
  match s.queue.tryRecv with
  | some (oldest, queue) => { s with queue := queue, discarded := s.discarded ++ [oldest] }
  | none => { s with phase := .waiting }

/-- `recv_timeout` of the fan-out thread. -/
def take (s : CaptureFanout) : CaptureFanout :=
  match s.queue.tryRecv with
  | some (block, queue) => { s with queue := queue, holding := some block }
  | none => s

/-- `publish.send` of the fan-out thread. -/
def publish (s : CaptureFanout) (block : PcmBlock) (listening : Bool) : CaptureFanout :=
  if listening then
    { s with
        holding := none
        channel := s.channel.send block
        passed := s.passed ++ [block]
        published := s.published ++ [block] }
  else
    { s with holding := none, passed := s.passed ++ [block] }

/-- One step; a thread that is not at this point stays where it is. -/
def step (s : CaptureFanout) : CaptureEvent → CaptureFanout
  | .pushOne sample =>
      match s.phase with
      | .collecting => s.pushOne sample
      | _ => s
  | .trySend =>
      match s.phase with
      | .sending block => s.trySend block
      | _ => s
  | .evict =>
      match s.phase with
      | .evicting block => s.evict block
      | _ => s
  | .retry =>
      match s.phase with
      | .retrying block => s.retry block
      | _ => s
  | .closeGate =>
      match s.phase with
      | .collecting => s.closeGate
      | _ => s
  | .drain =>
      match s.phase with
      | .draining => s.drain
      | _ => s
  | .reopen =>
      match s.phase with
      | .waiting => { s with phase := .collecting }
      | _ => s
  | .take =>
      match s.holding with
      | none => s.take
      | some _ => s
  | .publish listening =>
      match s.holding with
      | some block => s.publish block listening
      | none => s

/-- What a step can do, one constructor per branch that changes something. -/
inductive Moves (s : CaptureFanout) : CaptureEvent → CaptureFanout → Prop
  | stays {e : CaptureEvent} : Moves s e s
  | collects {sample : Int16} {assembler : BlockAssembler} (hphase : s.phase = .collecting)
      (hpush : s.assembler.pushOne sample = (assembler, none)) :
      Moves s (.pushOne sample) { s with assembler := assembler }
  | finishes {sample : Int16} {assembler : BlockAssembler} {block : PcmBlock}
      (hphase : s.phase = .collecting)
      (hpush : s.assembler.pushOne sample = (assembler, some block)) :
      Moves s (.pushOne sample)
        { s with
            assembler := assembler
            phase := .sending block
            finished := s.finished ++ [block] }
  | sends {e : CaptureEvent} {block : PcmBlock} {queue : BoundedQueue PcmBlock}
      (hpending : s.phase.pending = [block]) (hsend : s.queue.trySend block = some queue) :
      Moves s e { s with queue := queue, phase := .collecting }
  | findsFull {block : PcmBlock} (hphase : s.phase = .sending block) :
      Moves s .trySend { s with phase := .evicting block }
  | evicts {block oldest : PcmBlock} {queue : BoundedQueue PcmBlock}
      (hphase : s.phase = .evicting block) (hrecv : s.queue.tryRecv = some (oldest, queue)) :
      Moves s .evict
        { s with
            queue := queue
            phase := .retrying block
            droppedBlocks := s.droppedBlocks + 1
            evicted := s.evicted ++ [oldest] }
  | findsEmpty {block : PcmBlock} (hphase : s.phase = .evicting block)
      (hrecv : s.queue.tryRecv = none) : Moves s .evict { s with phase := .retrying block }
  | refuses {block : PcmBlock} (hphase : s.phase = .retrying block)
      (hsend : s.queue.trySend block = none) :
      Moves s .retry
        { s with
            phase := .collecting
            droppedBlocks := s.droppedBlocks + 1
            refused := s.refused ++ [block] }
  | closesGate (hphase : s.phase = .collecting) : Moves s .closeGate s.closeGate
  | drains {oldest : PcmBlock} {queue : BoundedQueue PcmBlock} (hphase : s.phase = .draining)
      (hrecv : s.queue.tryRecv = some (oldest, queue)) :
      Moves s .drain { s with queue := queue, discarded := s.discarded ++ [oldest] }
  | rests (hphase : s.phase = .draining) : Moves s .drain { s with phase := .waiting }
  | reopens (hphase : s.phase = .waiting) : Moves s .reopen { s with phase := .collecting }
  | takes {block : PcmBlock} {queue : BoundedQueue PcmBlock} (hholding : s.holding = none)
      (hrecv : s.queue.tryRecv = some (block, queue)) :
      Moves s .take { s with queue := queue, holding := some block }
  | publishes {block : PcmBlock} (hholding : s.holding = some block) :
      Moves s (.publish true)
        { s with
            holding := none
            channel := s.channel.send block
            passed := s.passed ++ [block]
            published := s.published ++ [block] }
  | passes {block : PcmBlock} (hholding : s.holding = some block) :
      Moves s (.publish false) { s with holding := none, passed := s.passed ++ [block] }

theorem step_moves (s : CaptureFanout) (e : CaptureEvent) : Moves s e (s.step e) := by
  cases e with
  | pushOne sample =>
      simp only [step]
      split
      · simp only [pushOne]
        split
        · exact Moves.collects ‹_› ‹_›
        · exact Moves.finishes ‹_› ‹_›
      · exact Moves.stays
  | trySend =>
      simp only [step]
      split
      · rename_i block hphase
        have hpending : s.phase.pending = [block] := by rw [hphase]; rfl
        simp only [trySend]
        split
        · exact Moves.sends hpending ‹_›
        · exact Moves.findsFull hphase
      · exact Moves.stays
  | evict =>
      simp only [step]
      split
      · simp only [evict]
        split
        · exact Moves.evicts ‹_› ‹_›
        · exact Moves.findsEmpty ‹_› ‹_›
      · exact Moves.stays
  | retry =>
      simp only [step]
      split
      · rename_i block hphase
        have hpending : s.phase.pending = [block] := by rw [hphase]; rfl
        simp only [retry]
        split
        · exact Moves.sends hpending ‹_›
        · exact Moves.refuses hphase ‹_›
      · exact Moves.stays
  | closeGate =>
      simp only [step]
      split
      · exact Moves.closesGate ‹_›
      · exact Moves.stays
  | drain =>
      simp only [step]
      split
      · simp only [drain]
        split
        · exact Moves.drains ‹_› ‹_›
        · exact Moves.rests ‹_›
      · exact Moves.stays
  | reopen =>
      simp only [step]
      split
      · exact Moves.reopens ‹_›
      · exact Moves.stays
  | take =>
      simp only [step]
      split
      · simp only [take]
        split
        · exact Moves.takes ‹_› ‹_›
        · exact Moves.stays
      · exact Moves.stays
  | publish listening =>
      simp only [step]
      split
      · cases listening with
        | true => exact Moves.publishes ‹_›
        | false => exact Moves.passes ‹_›
      · exact Moves.stays

end Model

section Accounting

/-- The blocks on their way to the fan-out thread and behind it, the oldest first. -/
def kept (s : CaptureFanout) : List PcmBlock :=
  s.passed ++ s.holding.toList ++ s.queue.items ++ s.phase.pending

/-- The accounts of a capture. -/
structure Accounted (s : CaptureFanout) : Prop where
  stamped : Consecutive 0 s.finished s.assembler.timestamp
  capacity : s.queue.capacity = frameQueueCapacity ∧
    s.channel.capacity = captureBroadcastCapacity
  room : ∀ block, s.phase = .retrying block → s.queue.items.length < s.queue.capacity
  refused : s.refused = []
  dropped : s.droppedBlocks = s.evicted.length
  whole : (s.finished : Multiset PcmBlock) = s.kept + s.evicted + s.discarded
  order : s.kept.Sublist s.finished
  published : s.published.Sublist s.passed
  mirrors : Broadcast.Mirrors s.published s.channel

theorem start_accounted : start.Accounted where
  stamped := rfl
  capacity := ⟨rfl, rfl⟩
  room := fun _ heq => by cases heq
  refused := rfl
  dropped := rfl
  whole := rfl
  order := List.Sublist.refl _
  published := List.Sublist.refl _
  mirrors := Broadcast.mirrors_new _

theorem moves_accounted {s s' : CaptureFanout} {e : CaptureEvent} (h : s.Accounted)
    (hmoves : s.Moves e s') : s'.Accounted := by
  obtain ⟨hstamped, hcapacity, hroom, hrefused, hdropped, hwhole, horder, hpublished, hmirrors⟩ := h
  simp only [kept] at hwhole horder
  cases hmoves with
  | stays =>
      exact ⟨hstamped, hcapacity, hroom, hrefused, hdropped, hwhole, horder, hpublished, hmirrors⟩
  | @collects sample assembler hphase hpush =>
      obtain ⟨_, hstamp⟩ := BlockAssembler.pushOne_spec s.assembler sample
      rw [hpush] at hstamp
      have hsame : s.assembler.timestamp = assembler.timestamp := hstamp
      rw [hsame] at hstamped
      exact ⟨hstamped, hcapacity, hroom, hrefused, hdropped, hwhole, horder, hpublished, hmirrors⟩
  | @finishes sample assembler block hphase hpush =>
      obtain ⟨_, hstamp⟩ := BlockAssembler.pushOne_spec s.assembler sample
      rw [hpush] at hstamp
      simp only [hphase, CapturePhase.pending, List.append_nil] at hwhole horder
      refine ⟨consecutive_append hstamped hstamp, hcapacity, fun _ heq => (by cases heq), hrefused,
        hdropped, ?_, ?_, hpublished, hmirrors⟩
      · simp only [kept, CapturePhase.pending, ← Multiset.coe_add] at hwhole ⊢
        rw [hwhole]
        abel
      · exact horder.append (List.Sublist.refl [block])
  | @sends _ block queue hpending hsend =>
      obtain ⟨hitems, hsize⟩ := BoundedQueue.trySend_some hsend
      have hkept : kept { s with queue := queue, phase := .collecting } = s.kept := by
        have hnone : CapturePhase.pending .collecting = [] := rfl
        simp only [kept, hitems, hpending, hnone, List.append_nil, List.append_assoc]
      refine ⟨hstamped, by rw [hsize]; exact hcapacity, fun _ heq => (by cases heq), hrefused,
        hdropped, ?_, ?_, hpublished, hmirrors⟩
      · rw [hkept]
        exact hwhole
      · rw [hkept]
        exact horder
  | findsFull hphase =>
      rw [hphase] at hwhole horder
      exact ⟨hstamped, hcapacity, fun _ heq => (by cases heq), hrefused, hdropped, hwhole, horder,
        hpublished, hmirrors⟩
  | @evicts block oldest queue hphase hrecv =>
      obtain ⟨hitems, hsize⟩ := BoundedQueue.tryRecv_some hrecv
      rw [hphase] at hwhole horder
      have hsplit : s.queue.items = [oldest] ++ queue.items := hitems
      have hfits := s.queue.room
      rw [hitems, List.length_cons] at hfits
      refine ⟨hstamped, by rw [hsize]; exact hcapacity, fun _ _ => ?_, hrefused, ?_, ?_, ?_,
        hpublished, hmirrors⟩
      · rw [hsize]
        exact hfits
      · simp only [List.length_append, List.length_singleton, hdropped]
      · simp only [kept, hsplit, CapturePhase.pending, ← Multiset.coe_add] at hwhole ⊢
        rw [hwhole]
        abel
      · refine List.Sublist.trans ?_ horder
        rw [hitems]
        exact ((List.Sublist.refl _).append (List.sublist_cons_self oldest queue.items)).append
          (List.Sublist.refl [block])
  | findsEmpty hphase hrecv =>
      have hempty := BoundedQueue.tryRecv_none.mp hrecv
      rw [hphase] at hwhole horder
      refine ⟨hstamped, hcapacity, fun _ _ => ?_, hrefused, hdropped, hwhole, horder,
        hpublished, hmirrors⟩
      rw [hempty, hcapacity.1]
      exact Nat.one_pos
  | refuses hphase hsend =>
      -- nobody but the capture thread adds to the queue, so it cannot be full here
      have hfull := BoundedQueue.trySend_none.mp hsend
      have hfree := hroom _ hphase
      omega
  | closesGate hphase =>
      rw [hphase] at hwhole horder
      exact ⟨hstamped, hcapacity, fun _ heq => (by cases heq), hrefused, hdropped, hwhole, horder,
        hpublished, hmirrors⟩
  | @drains oldest queue hphase hrecv =>
      obtain ⟨hitems, hsize⟩ := BoundedQueue.tryRecv_some hrecv
      have hsplit : s.queue.items = [oldest] ++ queue.items := hitems
      simp only [hphase, CapturePhase.pending, List.append_nil] at hwhole horder
      refine ⟨hstamped, by rw [hsize]; exact hcapacity, fun block heq => ?_, hrefused, hdropped,
        ?_, ?_, hpublished, hmirrors⟩
      · rw [hphase] at heq
        cases heq
      · simp only [kept, hsplit, hphase, CapturePhase.pending, ← Multiset.coe_add,
          List.append_nil] at hwhole ⊢
        rw [hwhole]
        abel
      · refine List.Sublist.trans ?_ horder
        rw [hitems]
        simp only [kept, hphase, CapturePhase.pending, List.append_nil]
        exact (List.Sublist.refl _).append (List.sublist_cons_self oldest queue.items)
  | rests hphase =>
      rw [hphase] at hwhole horder
      exact ⟨hstamped, hcapacity, fun _ heq => (by cases heq), hrefused, hdropped, hwhole, horder,
        hpublished, hmirrors⟩
  | reopens hphase =>
      rw [hphase] at hwhole horder
      exact ⟨hstamped, hcapacity, fun _ heq => (by cases heq), hrefused, hdropped, hwhole, horder,
        hpublished, hmirrors⟩
  | @takes block queue hholding hrecv =>
      obtain ⟨hitems, hsize⟩ := BoundedQueue.tryRecv_some hrecv
      have hkept : kept { s with queue := queue, holding := some block } = s.kept := by
        simp only [kept, hitems, hholding, Option.toList_none, Option.toList_some, List.append_nil,
          List.append_assoc, List.cons_append, List.nil_append]
      refine ⟨hstamped, by rw [hsize]; exact hcapacity, fun other heq => ?_, hrefused, hdropped,
        ?_, ?_, hpublished, hmirrors⟩
      · have hfree := hroom other heq
        rw [hitems, List.length_cons] at hfree
        rw [hsize]
        exact Nat.lt_of_succ_lt hfree
      · rw [hkept]
        exact hwhole
      · rw [hkept]
        exact horder
  | @publishes block hholding =>
      simp only [hholding, Option.toList_some] at hwhole horder
      refine ⟨hstamped, hcapacity, hroom, hrefused, hdropped, ?_, ?_,
        hpublished.append (List.Sublist.refl [block]), Broadcast.mirrors_send hmirrors block⟩
      · simpa only [kept, Option.toList_none, List.append_nil] using hwhole
      · simpa only [kept, Option.toList_none, List.append_nil] using horder
  | @passes block hholding =>
      simp only [hholding, Option.toList_some] at hwhole horder
      refine ⟨hstamped, hcapacity, hroom, hrefused, hdropped, ?_, ?_,
        hpublished.trans (List.sublist_append_left _ _), hmirrors⟩
      · simpa only [kept, Option.toList_none, List.append_nil] using hwhole
      · simpa only [kept, Option.toList_none, List.append_nil] using horder

/-- The invariant holds throughout. -/
theorem accounted_of_run (es : List CaptureEvent) : (run step start es).Accounted :=
  run_preserves Accounted (fun s e h => moves_accounted h (step_moves s e)) start_accounted es

end Accounting

/-- What has become of the blocks that were assembled. -/
structure Accounts (s : CaptureFanout) : Prop where
  fates : s.finished.Perm (s.kept ++ s.evicted ++ s.discarded)
  order : s.kept.Sublist s.finished
  stamps : Consecutive 0 s.finished s.assembler.timestamp
  counted : s.droppedBlocks = s.evicted.length
  newest : s.refused = []
  underway : s.kept.length ≤ s.passed.length + 3
  published : s.published.Sublist s.passed
  recent : s.channel.recent = s.published.drop (s.published.length - 2)

/-- **No block vanishes.**  However the two threads are interleaved and whenever the gate
closes: every assembled block is either kept, in order, on its way to or past the fan-out
thread, or was evicted by a newer one and counted, or was thrown away behind a closed
gate.  A new block always finds room, at most three blocks are underway at any time, and
the broadcast channel holds the last two that were published. -/
theorem no_block_vanishes (es : List CaptureEvent) : Accounts (run step start es) := by
  obtain ⟨hstamped, hcapacity, _, hrefused, hdropped, hwhole, horder, hpublished, hmirrors⟩ :=
    accounted_of_run es
  refine ⟨?_, horder, hstamped, hdropped, hrefused, ?_, hpublished, ?_⟩
  · rw [← Multiset.coe_eq_coe, ← Multiset.coe_add, ← Multiset.coe_add]
    exact hwhole
  · have hroom := (run step start es).queue.room
    have hpending : (run step start es).phase.pending.length ≤ 1 := by
      cases (run step start es).phase with
      | collecting | draining | waiting => exact Nat.zero_le 1
      | sending block | evicting block | retrying block => exact Nat.le_refl 1
    have hholding : (run step start es).holding.toList.length ≤ 1 := by
      cases (run step start es).holding with
      | none => exact Nat.zero_le 1
      | some block => exact Nat.le_refl 1
    rw [hcapacity.1, frameQueueCapacity] at hroom
    simp only [kept, List.length_append]
    omega
  · rw [hmirrors.recent, hcapacity.2]
    rfl

end CaptureFanout

end Soundwave

import Soundwave.CaptureFanout
import Soundwave.SenderLoop

/-!
# One capture, many receivers

The capture of `CaptureFanout` together with the sender tasks of all receivers, which
subscribe to the broadcast channel at any time, fall behind it independently of one
another, and end for reasons of their own.

Nothing of this is visible in the audio.  `capturedStream` is everything that was ever
assembled; a packet of any receiver carries the samples of this stream at its own time
stamp, whatever was evicted, missed, gated or dropped before it.
-/

namespace Soundwave

/-- A receiver: its position in the broadcast channel and its sender task.  `since` is
the position at which it subscribed, `history` the log of what it has received. -/
structure Listener where
  duration : UInt8
  possible : duration ∈ Packetizer.durations
  since : Nat
  next : Nat
  history : List (Reception PcmBlock)
  sender : SenderTask

/-- The capture and its receivers, in the order in which they subscribed. -/
structure AudioServer where
  capture : CaptureFanout
  listeners : List Listener

/-- What can happen next.  A round of a sender task takes what the broadcast channel has
for it; the rounds without a reception are `idles`. -/
inductive ServerEvent where
  | capture (e : CaptureEvent)
  | subscribe (duration : UInt8) (possible : duration ∈ Packetizer.durations)
  | listens (index : Nat) (enabled controls sendEnabled : Bool)
      (outcomes : List Packetizer.SendOutcome)
  | stops (index : Nat)
  | findsGateClosed (index : Nat) (controls : Bool)

namespace Listener

section Model

/-- `subscribe`: a new receiver hears what is sent from now on. -/
def subscribe (channel : Broadcast PcmBlock) (duration : UInt8)
    (possible : duration ∈ Packetizer.durations) : Listener where
  duration := duration
  possible := possible
  since := channel.sent
  next := channel.sent
  history := []
  sender := .start duration

/-- A round that receives; a task that has ended does not listen. -/
def listen (l : Listener) (channel : Broadcast PcmBlock) (enabled controls sendEnabled : Bool)
    (outcomes : List Packetizer.SendOutcome) : Listener :=
  if l.sender.ended.isSome then
    l
  else
    let (reception, next) := channel.recv l.next
    { l with
        next := next
        history := l.history ++ [reception]
        sender := l.sender.step (.received reception enabled controls sendEnabled outcomes) }

/-- A round that does not receive. -/
def act (l : Listener) (r : SenderRound) : Listener :=
  { l with sender := l.sender.step r }

end Model

end Listener

namespace AudioServer

section Model

/-- A server without receivers. -/
def start : AudioServer where
  capture := .start
  listeners := []

/-- Whether the broadcast channel has a receiver. -/
def listening (s : AudioServer) : Bool :=
  s.listeners.any (fun l => l.sender.ended.isNone)

/-- One step.  Whether a published block is heard depends on the receivers. -/
def step (s : AudioServer) : ServerEvent → AudioServer
  | .capture (.publish _) => { s with capture := s.capture.step (.publish s.listening) }
  | .capture e => { s with capture := s.capture.step e }
  | .subscribe duration possible =>
      { s with
          listeners := s.listeners ++ [Listener.subscribe s.capture.channel duration possible] }
  | .listens index enabled controls sendEnabled outcomes =>
      { s with
          listeners := s.listeners.modify index
            (fun l => l.listen s.capture.channel enabled controls sendEnabled outcomes) }
  | .stops index =>
      { s with listeners := s.listeners.modify index (fun l => l.act .stopped) }
  | .findsGateClosed index controls =>
      { s with listeners := s.listeners.modify index (fun l => l.act (.gateClosed controls)) }

/-- Everything that was assembled, as one stream of samples. -/
def capturedStream (finished : List PcmBlock) (i : Nat) : Int16 :=
  ((finished.flatMap PcmBlock.samples)[i]?).getD 0

end Model

section Streams

theorem length_flatMap_samples (blocks : List PcmBlock) :
    (blocks.flatMap PcmBlock.samples).length = blockSampleCount * blocks.length := by
  induction blocks with
  | nil =>
      rfl
  | cons b blocks ih =>
      rw [List.flatMap_cons, List.length_append, b.full, ih, List.length_cons, Nat.mul_succ,
        Nat.add_comm]

/-- The time stamps of consecutive blocks, as long as they do not wrap. -/
theorem timestamp_of_consecutive {first last : UInt64} {before after : List PcmBlock}
    {b : PcmBlock} (h : Consecutive first (before ++ b :: after) last)
    (hfits : first.toNat + 480 * before.length < 2 ^ 64) :
    b.timestamp.toNat = first.toNat + 480 * before.length := by
  induction before generalizing first with
  | nil =>
      rw [h.1]
      rfl
  | cons c before ih =>
      rw [List.length_cons, Nat.mul_succ, ← Nat.add_assoc] at hfits ⊢
      have hroom : first.toNat + 480 < 2 ^ 64 := by omega
      have hnext : (first + blockFrames).toNat = first.toNat + 480 :=
        Packetizer.toNat_add_ofNat hroom
      have hrest := ih h.2 (by rw [hnext]; omega)
      rw [hrest, hnext]
      omega

/-- Every block is a piece of the captured stream. -/
theorem carries_of_mem {finished : List PcmBlock} {last : UInt64}
    (h : Consecutive 0 finished last) (hfits : 480 * finished.length < 2 ^ 64 - 480)
    {b : PcmBlock} (hb : b ∈ finished) :
    Packetizer.Carries (capturedStream finished) b.timestamp b.samples ∧
      b.timestamp.toNat < 2 ^ 64 - 480 := by
  obtain ⟨before, after, rfl⟩ := List.append_of_mem hb
  rw [List.length_append, List.length_cons, Nat.mul_add, Nat.mul_succ] at hfits
  have hzero : (0 : UInt64).toNat = 0 := rfl
  have hstamp := timestamp_of_consecutive h (by rw [hzero]; omega)
  rw [hzero, Nat.zero_add] at hstamp
  refine ⟨?_, by omega⟩
  have hfull := b.full
  have hcount : blockSampleCount = 960 := rfl
  have hchannels : channels = 2 := rfl
  rw [Packetizer.Carries]
  apply List.ext_getElem
  · rw [List.length_map, List.length_range]
  · intro i hi _
    rw [List.getElem_map, List.getElem_range, hstamp, capturedStream, List.flatMap_append,
      List.flatMap_cons]
    have hbefore : (before.flatMap PcmBlock.samples).length = 960 * before.length :=
      length_flatMap_samples before
    have hindex : channels * (480 * before.length) + i =
        (before.flatMap PcmBlock.samples).length + i := by
      rw [hbefore, hchannels]
      omega
    rw [hindex, List.getElem?_append_right (Nat.le_add_right _ _), Nat.add_sub_cancel_left,
      List.getElem?_append_left hi, List.getElem?_eq_getElem hi, Option.getD_some]

end Streams

section Invariant

/-- The block is a piece of the stream, before time stamps wrap. -/
def PieceOf (S : Nat → Int16) (b : PcmBlock) : Prop :=
  Packetizer.Carries S b.timestamp b.samples ∧ b.timestamp.toNat < 2 ^ 64 - 480

/-- What holds of a receiver: its history reads the published blocks, it has counted
what it missed, and its sender is sound for every stream that the assembled blocks are
pieces of. -/
structure ListenerOk (c : CaptureFanout) (l : Listener) : Prop where
  inside : l.next ≤ c.published.length
  follows : FollowsLog c.published l.history l.since l.next
  skipped : l.sender.counters.blocksSkipped = Reception.missed l.history
  sound : ∀ S, (∀ b ∈ c.finished, PieceOf S b) → SenderTask.Sound S l.duration l.sender
  announced : SenderTask.Announced l.sender

/-- The invariant of the server. -/
structure ServerOk (s : AudioServer) : Prop where
  capture : s.capture.Accounted
  listeners : ∀ l ∈ s.listeners, ListenerOk s.capture l

theorem missed_append (history later : List (Reception PcmBlock)) :
    Reception.missed (history ++ later) = Reception.missed history + Reception.missed later := by
  induction history with
  | nil =>
      simp [Reception.missed]
  | cons r history ih =>
      cases r with
      | item block => exact ih
      | lagged missed =>
          simp only [List.cons_append, Reception.missed, ih]
          omega
      | empty => exact ih

theorem forall_modify {α : Type} {P : α → Prop} {f : α → α} {l : List α}
    (h : ∀ a ∈ l, P a) (hf : ∀ a ∈ l, P (f a)) (i : Nat) : ∀ a ∈ l.modify i f, P a := by
  intro a ha
  obtain ⟨j, hj⟩ := List.mem_iff_getElem?.mp ha
  rw [List.getElem?_modify] at hj
  cases hget : l[j]? with
  | none =>
      rw [hget] at hj
      cases hj
  | some b =>
      have hb : b ∈ l := List.mem_of_getElem? hget
      rw [hget] at hj
      rw [← Option.some.inj hj]
      split_ifs
      · exact hf b hb
      · exact h b hb

/-- The capture only ever assembles and publishes more. -/
theorem moves_grows {c c' : CaptureFanout} {e : CaptureEvent} (h : c.Moves e c') :
    (∃ more, c'.published = c.published ++ more) ∧ c.finished ⊆ c'.finished := by
  have hsame : (∃ more, c.published = c.published ++ more) ∧ c.finished ⊆ c.finished :=
    ⟨⟨[], (List.append_nil _).symm⟩, List.Subset.refl _⟩
  cases h with
  | stays => exact hsame
  | collects => exact hsame
  | finishes => exact ⟨hsame.1, List.subset_append_left _ _⟩
  | sends => exact hsame
  | findsFull => exact hsame
  | evicts => exact hsame
  | findsEmpty => exact hsame
  | refuses => exact hsame
  | closesGate => exact hsame
  | drains => exact hsame
  | rests => exact hsame
  | reopens => exact hsame
  | takes => exact hsame
  | publishes => exact ⟨⟨_, rfl⟩, List.Subset.refl _⟩
  | passes => exact hsame

theorem ListenerOk.mono {c c' : CaptureFanout} {l : Listener} (h : ListenerOk c l)
    (hpublished : ∃ more, c'.published = c.published ++ more)
    (hfinished : c.finished ⊆ c'.finished) : ListenerOk c' l := by
  obtain ⟨more, hmore⟩ := hpublished
  refine ⟨?_, ?_, h.skipped, fun S hS => h.sound S (fun b hb => hS b (hfinished hb)), h.announced⟩
  · rw [hmore, List.length_append]
    exact Nat.le_add_right_of_le h.inside
  · rw [hmore]
    exact followsLog_more h.follows more

/-- A new receiver. -/
theorem subscribe_ok {c : CaptureFanout} (h : c.Accounted) {duration : UInt8}
    (possible : duration ∈ Packetizer.durations) :
    ListenerOk c (Listener.subscribe c.channel duration possible) where
  inside := Nat.le_of_eq h.mirrors.sent
  follows := rfl
  skipped := rfl
  sound := fun S _ => SenderTask.start_sound S duration
  announced := SenderTask.start_announced duration

/-- A round without a reception. -/
theorem act_ok {c : CaptureFanout} {l : Listener} (h : ListenerOk c l) {r : SenderRound}
    (hr : r = .stopped ∨ ∃ controls, r = .gateClosed controls) : ListenerOk c (l.act r) := by
  refine ⟨h.inside, h.follows, ?_, fun S hS => ?_, SenderTask.step_announced h.announced r⟩
  · have hmissed : r.missed = 0 := by
      rcases hr with rfl | ⟨controls, rfl⟩
      · rfl
      · rfl
    have hsame : (l.sender.step r).counters.blocksSkipped = l.sender.counters.blocksSkipped := by
      cases hended : l.sender.ended with
      | none => rw [SenderTask.step_skipped hended, hmissed, Nat.add_zero]
      | some ending =>
          simp only [SenderTask.step, hended, Option.isSome_some, if_true]
    exact hsame.trans h.skipped
  · refine SenderTask.step_sound l.possible (h.sound S hS) ?_
    rcases hr with rfl | ⟨controls, rfl⟩
    · exact trivial
    · exact trivial

/-- A round that receives. -/
theorem listen_ok {c : CaptureFanout} (hc : c.Accounted) {l : Listener} (h : ListenerOk c l)
    (enabled controls sendEnabled : Bool) (outcomes : List Packetizer.SendOutcome) :
    ListenerOk c (l.listen c.channel enabled controls sendEnabled outcomes) := by
  cases hended : l.sender.ended with
  | some ending =>
      simp only [Listener.listen, hended, Option.isSome_some, if_true]
      exact h
  | none =>
      simp only [Listener.listen, hended, Option.isSome_none, Bool.false_eq_true, if_false]
      have hskipped := fun reception => SenderTask.step_skipped hended
        (.received reception enabled controls sendEnabled outcomes)
      rcases Broadcast.recv_cases hc.mirrors h.inside with ⟨block, hrecv, hget, _⟩ |
        ⟨missed, hrecv, _, hnext⟩ | ⟨hrecv, _⟩
      · rw [hrecv]
        have hlt : l.next < c.published.length := (List.getElem?_eq_some_iff.mp hget).1
        refine ⟨hlt, followsLog_append h.follows ⟨hget, rfl⟩, ?_, fun S hS => ?_,
          SenderTask.step_announced h.announced _⟩
        · rw [missed_append, ← h.skipped]
          exact hskipped _
        · have hpublished : block ∈ c.published := List.mem_of_getElem? hget
          have hpassed := hc.published.subset hpublished
          have hkept : block ∈ c.kept := by
            simp only [CaptureFanout.kept, List.mem_append]
            exact Or.inl (Or.inl (Or.inl hpassed))
          exact SenderTask.step_sound l.possible (h.sound S hS)
            (hS block (hc.order.subset hkept))
      · rw [hrecv]
        refine ⟨?_, followsLog_append h.follows rfl, ?_, fun S hS => ?_,
          SenderTask.step_announced h.announced _⟩
        · dsimp only
          omega
        · rw [missed_append, ← h.skipped]
          exact hskipped _
        · exact SenderTask.step_sound l.possible (h.sound S hS) trivial
      · rw [hrecv]
        refine ⟨h.inside, followsLog_append h.follows rfl, ?_, fun S hS => ?_,
          SenderTask.step_announced h.announced _⟩
        · rw [missed_append, ← h.skipped]
          exact hskipped _
        · exact SenderTask.step_sound l.possible (h.sound S hS) trivial

theorem start_ok : ServerOk start where
  capture := CaptureFanout.start_accounted
  listeners := fun _ hl => by cases hl

/-- A step of one of the capture threads. -/
theorem capture_ok {s : AudioServer} (h : ServerOk s) (e : CaptureEvent) :
    ServerOk { s with capture := s.capture.step e } := by
  have hmoves := s.capture.step_moves e
  obtain ⟨hpublished, hfinished⟩ := moves_grows hmoves
  exact ⟨CaptureFanout.moves_accounted h.capture hmoves,
    fun l hl => (h.listeners l hl).mono hpublished hfinished⟩

/-- **Step lemma.** -/
theorem step_ok {s : AudioServer} (h : ServerOk s) (e : ServerEvent) : ServerOk (s.step e) := by
  cases e with
  | capture e =>
      cases e with
      | publish listening => exact capture_ok h _
      | _ => exact capture_ok h _
  | subscribe duration possible =>
      refine ⟨h.capture, fun l hl => ?_⟩
      rcases List.mem_append.mp hl with hl | hl
      · exact h.listeners l hl
      · rw [List.mem_singleton.mp hl]
        exact subscribe_ok h.capture possible
  | listens index enabled controls sendEnabled outcomes =>
      exact ⟨h.capture, forall_modify h.listeners
        (fun l hl => listen_ok h.capture (h.listeners l hl) enabled controls sendEnabled outcomes)
        index⟩
  | stops index =>
      exact ⟨h.capture, forall_modify h.listeners
        (fun l hl => act_ok (h.listeners l hl) (Or.inl rfl)) index⟩
  | findsGateClosed index controls =>
      exact ⟨h.capture, forall_modify h.listeners
        (fun l hl => act_ok (h.listeners l hl) (Or.inr ⟨controls, rfl⟩)) index⟩

end Invariant

/-- What a receiver gets of the capture. -/
structure Served (c : CaptureFanout) (l : Listener) : Prop where
  audio : SenderTask.Accountable (capturedStream c.finished) l.duration l.sender
  received : (Reception.items l.history).Sublist
    ((c.published.drop l.since).take (l.next - l.since))
  accounted : l.since + (Reception.items l.history).length +
    l.sender.counters.blocksSkipped = l.next
  inside : l.next ≤ c.published.length

/-- **Every receiver gets captured audio.**  Over all runs of the capture threads and of
any number of receivers that come, fall behind and go, as long as the time stamps have not
wrapped: each receiver has received published blocks in order, and has counted exactly
those it missed since it subscribed; and every packet built for it is full, follows the
one before it in number, and carries the captured samples at its time stamp. -/
theorem every_receiver_gets_the_capture {es : List ServerEvent}
    (hfits : 480 * (run step start es).capture.finished.length < 2 ^ 64 - 480) :
    ∀ l ∈ (run step start es).listeners, Served (run step start es).capture l := by
  have hok : ServerOk (run step start es) :=
    run_preserves ServerOk (fun _ e h => step_ok h e) start_ok es
  intro l hl
  obtain ⟨hinside, hfollows, hskipped, hsound, hannounced⟩ := hok.listeners l hl
  have hpieces : ∀ b ∈ (run step start es).capture.finished,
      PieceOf (capturedStream (run step start es).capture.finished) b :=
    fun b hb => carries_of_mem hok.capture.stamped hfits hb
  have haudio := hsound _ hpieces
  obtain ⟨hcount, hreceived⟩ := followsLog_accounts hfollows
  refine ⟨⟨fun _ hpacket => haudio.packet hpacket, haudio.log.numbered, haudio.counted,
    haudio.notices, haudio.sorted, hannounced⟩, hreceived, ?_, hinside⟩
  rw [hskipped]
  exact hcount

/-- A receiver of 10 ms packets and the first block, from its first sample on. -/
def firstBlock : List ServerEvent :=
  .subscribe 10 (by decide) :: List.replicate 960 (.capture (.pushOne 7)) ++
    [.capture .trySend, .capture .take, .capture (.publish true), .listens 0 true true true []]

theorem every_receiver_gets_the_capture_first :
    (run step start firstBlock).listeners.length = 1 ∧
      ∀ l ∈ (run step start firstBlock).listeners, Served (run step start firstBlock).capture l :=
  ⟨by decide +kernel, every_receiver_gets_the_capture (by decide +kernel)⟩

end AudioServer

end Soundwave

import Mathlib.Data.List.Basic
import Mathlib.Tactic.Common

/-!
# Channels of bounded size

Two channels that never make their producer wait.

A bounded queue refuses an item when it is full; it is up to the producer to make room
by taking the oldest one.  A broadcast channel overwrites its oldest item instead.
Every consumer of a broadcast channel has a position of its own, and one that has
fallen behind the items still kept is told how many it has missed.

`Mirrors log c` ties a broadcast channel to the log of everything sent through it, and
`FollowsLog log history first last` says that a history of receptions reads this log from
one position to another: every item received is the one at its position, and every
notice of missed items advances the position by their number.
-/

namespace Soundwave

universe u

variable {α : Type u}

section BoundedQueues

/-- A queue of bounded size, the oldest item first. -/
structure BoundedQueue (α : Type u) where
  capacity : Nat
  items : List α
  room : items.length ≤ capacity

namespace BoundedQueue

/-- An empty queue. -/
def empty (capacity : Nat) : BoundedQueue α where
  capacity := capacity
  items := []
  room := Nat.zero_le _

/-- Add an item unless the queue is full. -/
def trySend (q : BoundedQueue α) (a : α) : Option (BoundedQueue α) :=
  if h : q.items.length < q.capacity then
    some
      { capacity := q.capacity
        items := q.items ++ [a]
        room := by rw [List.length_append, List.length_singleton]; exact h }
  else
    none

/-- Take the oldest item. -/
def tryRecv (q : BoundedQueue α) : Option (α × BoundedQueue α) :=
  match h : q.items with
  | [] => none
  | a :: items =>
      some (a,
        { capacity := q.capacity
          items := items
          room := by
            have hroom := q.room
            rw [h, List.length_cons] at hroom
            omega })

theorem trySend_some {q q' : BoundedQueue α} {a : α} (h : q.trySend a = some q') :
    q'.items = q.items ++ [a] ∧ q'.capacity = q.capacity := by
  simp only [trySend] at h
  split_ifs at h with hroom
  cases h
  exact ⟨rfl, rfl⟩

theorem trySend_none {q : BoundedQueue α} {a : α} :
    q.trySend a = none ↔ q.capacity ≤ q.items.length := by
  simp only [trySend]
  split_ifs with hroom
  · exact ⟨fun h => (by cases h), fun h => absurd hroom (Nat.not_lt.mpr h)⟩
  · exact ⟨fun _ => Nat.not_lt.mp hroom, fun _ => rfl⟩

theorem tryRecv_some {q q' : BoundedQueue α} {a : α} (h : q.tryRecv = some (a, q')) :
    q.items = a :: q'.items ∧ q'.capacity = q.capacity := by
  simp only [tryRecv] at h
  split at h
  · cases h
  · rename_i b items hitems
    cases h
    exact ⟨hitems, rfl⟩

theorem tryRecv_none {q : BoundedQueue α} : q.tryRecv = none ↔ q.items = [] := by
  simp only [tryRecv]
  split
  · rename_i hitems
    exact ⟨fun _ => hitems, fun _ => rfl⟩
  · rename_i b items hitems
    refine ⟨fun h => (by cases h), fun h => ?_⟩
    rw [h] at hitems
    cases hitems

end BoundedQueue

end BoundedQueues

section Broadcasts

/-- A broadcast channel: how many items were sent, and the last of them, the oldest
first. -/
structure Broadcast (α : Type u) where
  capacity : Nat
  sent : Nat
  recent : List α
  kept : recent.length = min sent capacity

/-- What a consumer gets. -/
inductive Reception (α : Type u) where
  | item (a : α)
  | lagged (missed : Nat)
  | empty
deriving DecidableEq

namespace Broadcast

/-- A new channel. -/
def new (capacity : Nat) : Broadcast α where
  capacity := capacity
  sent := 0
  recent := []
  kept := by simp

/-- Send an item; the oldest one makes room. -/
def send (c : Broadcast α) (a : α) : Broadcast α where
  capacity := c.capacity
  sent := c.sent + 1
  recent := (c.recent ++ [a]).drop (c.recent.length + 1 - c.capacity)
  kept := by
    have hkept := c.kept
    rw [List.length_drop, List.length_append, List.length_singleton]
    omega

/-- The position of the oldest item that is still kept. -/
def oldest (c : Broadcast α) : Nat :=
  c.sent - c.recent.length

/-- Receive at a position, and the position afterwards. -/
def recv (c : Broadcast α) (next : Nat) : Reception α × Nat :=
  if hold : next < c.oldest then
    (.lagged (c.oldest - next), c.oldest)
  else if hnew : next < c.sent then
    (.item (c.recent.get ⟨next - c.oldest, by
      have hkept := c.kept
      rw [oldest] at hold ⊢
      omega⟩), next + 1)
  else
    (.empty, next)

/-- The channel holds the end of the log of everything sent. -/
structure Mirrors (log : List α) (c : Broadcast α) : Prop where
  sent : c.sent = log.length
  recent : c.recent = log.drop (log.length - c.capacity)

theorem mirrors_new (capacity : Nat) : Mirrors [] (new capacity : Broadcast α) where
  sent := rfl
  recent := by simp [new]

theorem mirrors_send {log : List α} {c : Broadcast α} (h : Mirrors log c) (a : α) :
    Mirrors (log ++ [a]) (c.send a) where
  sent := by
    rw [List.length_append, List.length_singleton]
    exact congrArg (· + 1) h.sent
  recent := by
    have hlength : c.recent.length = min log.length c.capacity := by rw [c.kept, h.sent]
    have hrecent : c.recent ++ [a] = (log ++ [a]).drop (log.length - c.capacity) := by
      rw [h.recent, List.drop_append_of_le_length (Nat.sub_le _ _)]
    simp only [send]
    rw [hlength, hrecent, List.drop_drop, List.length_append, List.length_singleton]
    congr 1
    omega

theorem Mirrors.oldest {log : List α} {c : Broadcast α} (h : Mirrors log c) :
    c.oldest = log.length - c.capacity := by
  have hkept := c.kept
  rw [Broadcast.oldest, hkept, h.sent]
  omega

/-- What a consumer at a position of the log receives. -/
theorem recv_cases {log : List α} {c : Broadcast α} (h : Mirrors log c) {next : Nat}
    (hnext : next ≤ log.length) :
    (∃ a, c.recv next = (.item a, next + 1) ∧ log[next]? = some a ∧
        log.length ≤ next + c.capacity) ∨
      (∃ missed, c.recv next = (.lagged missed, next + missed) ∧ 0 < missed ∧
        next + missed + c.capacity = log.length) ∨
      (c.recv next = (.empty, next) ∧ next = log.length) := by
  have holdest := h.oldest
  rw [recv]
  split_ifs with hold hnew
  · refine Or.inr (Or.inl ⟨c.oldest - next, ?_, by omega, by omega⟩)
    rw [Nat.add_sub_cancel' (Nat.le_of_lt hold)]
  · rw [h.sent] at hnew
    refine Or.inl ⟨_, rfl, ?_, by omega⟩
    have hindex : log.length - c.capacity + (next - c.oldest) = next := by omega
    have hrecent : c.recent[next - c.oldest]? = log[next]? := by
      rw [h.recent, List.getElem?_drop, hindex]
    rw [← hrecent, List.getElem?_eq_getElem, List.get_eq_getElem]
  · rw [h.sent] at hnew
    exact Or.inr (Or.inr ⟨rfl, by omega⟩)

end Broadcast

end Broadcasts

section Histories

/-- The history reads the log from position `first` to position `last`. -/
def FollowsLog (log : List α) : List (Reception α) → Nat → Nat → Prop
  | [], first, last => first = last
  | .item a :: history, first, last =>
      log[first]? = some a ∧ FollowsLog log history (first + 1) last
  | .lagged missed :: history, first, last => FollowsLog log history (first + missed) last
  | .empty :: history, first, last => FollowsLog log history first last

/-- The items of a history. -/
def Reception.items : List (Reception α) → List α
  | [] => []
  | .item a :: history => a :: Reception.items history
  | .lagged _ :: history => Reception.items history
  | .empty :: history => Reception.items history

/-- How many items a history reports as missed. -/
def Reception.missed : List (Reception α) → Nat
  | [] => 0
  | .item _ :: history => Reception.missed history
  | .lagged missed :: history => missed + Reception.missed history
  | .empty :: history => Reception.missed history

theorem followsLog_append {log : List α} {history later : List (Reception α)} {first mid last : Nat}
    (h : FollowsLog log history first mid) (h' : FollowsLog log later mid last) :
    FollowsLog log (history ++ later) first last := by
  induction history generalizing first with
  | nil =>
      have heq : first = mid := h
      rw [heq]
      exact h'
  | cons r history ih =>
      cases r with
      | item a =>
          exact ⟨h.1, ih h.2⟩
      | lagged missed =>
          exact ih h
      | empty =>
          exact ih h

/-- A history stays right when more is sent. -/
theorem followsLog_more {log : List α} {history : List (Reception α)} {first last : Nat}
    (h : FollowsLog log history first last) (more : List α) :
    FollowsLog (log ++ more) history first last := by
  induction history generalizing first with
  | nil =>
      exact h
  | cons r history ih =>
      cases r with
      | item a =>
          obtain ⟨hitem, hrest⟩ := h
          obtain ⟨hlt, _⟩ := List.getElem?_eq_some_iff.mp hitem
          refine ⟨?_, ih hrest⟩
          rw [List.getElem?_append_left hlt]
          exact hitem
      | lagged missed =>
          exact ih h
      | empty =>
          exact ih h

/-- **Accounting for a consumer.**  Between two positions every item is either received
or counted as missed, and the received ones are in the order of the log. -/
theorem followsLog_accounts {log : List α} {history : List (Reception α)} {first last : Nat}
    (h : FollowsLog log history first last) :
    first + (Reception.items history).length + Reception.missed history = last ∧
      (Reception.items history).Sublist ((log.drop first).take (last - first)) := by
  induction history generalizing first with
  | nil =>
      have heq : first = last := h
      rw [heq]
      exact ⟨by simp [Reception.items, Reception.missed], by simp [Reception.items]⟩
  | cons r history ih =>
      cases r with
      | item a =>
          obtain ⟨hitem, hrest⟩ := h
          obtain ⟨hcount, hsub⟩ := ih hrest
          obtain ⟨hlt, hget⟩ := List.getElem?_eq_some_iff.mp hitem
          simp only [Reception.items, Reception.missed, List.length_cons]
          refine ⟨by omega, ?_⟩
          have hspan : last - first = (last - (first + 1)) + 1 := by omega
          rw [List.drop_eq_getElem_cons hlt, hget, hspan, List.take_succ_cons]
          exact hsub.cons_cons a
      | lagged missed =>
          obtain ⟨hcount, hsub⟩ := ih h
          simp only [Reception.items, Reception.missed]
          refine ⟨by omega, hsub.trans ?_⟩
          have hsplit : last - first = missed + (last - (first + missed)) := by omega
          rw [hsplit, List.take_add, List.drop_drop]
          exact List.sublist_append_right _ _
      | empty =>
          exact ih h

end Histories

end Soundwave

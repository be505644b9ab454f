import Mathlib.Data.List.Forall2
import Mathlib.Data.Nat.Bitwise
import Soundwave.DeviceControl
import Soundwave.DeviceVolume

/-!
# Words across the Java boundary

A device command goes from `DeviceControl` to `DeviceVolumeControl.applyPending` as one
word of 64 bits, and a status goes back to `nativeReportDevice` as another.  Both are
packed on one side and taken apart on the other; in between they are a Java `long`, which
has a sign.

Kotlin's `long` is `Int64`.  The first result follows every sequence of `enqueue_operation`
and `take_command`: what `applyPending` decodes are the accepted commands in their order.
The second is the round trip of the words of `report`.
-/

namespace Soundwave

section Words

/-- `jlong::try_from(word).unwrap_or(0)`. -/
def jlongOf (word : UInt64) : Int64 :=
  if word.toNat < 2 ^ 63 then word.toInt64 else 0

/-- `u64::try_from(word).unwrap_or(0)`. -/
def wordOf (word : Int64) : UInt64 :=
  if 0 ≤ word.toInt then word.toUInt64 else 0

/-- `ushr`. -/
def ushr (word : Int64) (n : UInt64) : Int64 :=
  (word.toUInt64 >>> n).toInt64

/-- What `applyPending` takes from a command word. -/
structure DecodedCommand where
  requestId : Int
  operation : Int
  value : Int
deriving DecidableEq

/-- The decoding at the start of `applyPending`, and of the index. -/
def decodeCommand (command : Int64) : DecodedCommand where
  requestId := (ushr command 24).toInt
  operation := (ushr command 16 &&& 0xff).toInt
  value := (command &&& 0xffff).toInt32.toInt

/-- The word that `report` builds. -/
def reportValues (volume minimum maximum : Nat) (fixed speaker failed : Bool) : Int64 :=
  let values := Int64.ofNat volume
  let values := values ||| (Int64.ofNat minimum <<< 16)
  let values := values ||| (Int64.ofNat maximum <<< 32)
  let values := if fixed then values ||| ((1 : Int64) <<< 48) else values
  let values := if speaker then values ||| ((1 : Int64) <<< 49) else values
  if failed then values ||| ((1 : Int64) <<< 50) else values

/-- `u32::try_from(request_id).unwrap_or(0)`. -/
def requestOf (requestId : Int64) : Nat :=
  if 0 ≤ requestId.toInt ∧ requestId.toInt < 2 ^ 32 then requestId.toInt.toNat else 0

/-- `u16::try_from(field).unwrap_or(0)`. -/
def shortOf (field : UInt64) : Nat :=
  if field.toNat < 2 ^ 16 then field.toNat else 0

/-- The status that `nativeReportDevice` composes. -/
def unpackReport (requestId : Int64) (deviceId name : String) (values : Int64) : DeviceStatus :=
  let values := wordOf values
  { requestId := requestOf requestId
    deviceId := String.ofList (deviceId.toList.take 80)
    name := String.ofList (name.toList.take 80)
    volume := shortOf (values &&& 0xffff)
    minimum := shortOf ((values >>> 16) &&& 0xffff)
    maximum := shortOf ((values >>> 32) &&& 0xffff)
    fixed := values &&& ((1 : UInt64) <<< 48) ≠ 0
    speaker := values &&& ((1 : UInt64) <<< 49) ≠ 0
    failed := values &&& ((1 : UInt64) <<< 50) ≠ 0 }

end Words

section Fields

/-- A field is put above the bits that are in use. -/
theorem toNat_or_shiftLeft {low high : UInt64} {n : Nat} (hn : n < 64)
    (hlow : low.toNat < 2 ^ n) (hhigh : high.toNat * 2 ^ n < 2 ^ 64) :
    (low ||| (high <<< UInt64.ofNat n)).toNat = low.toNat + high.toNat * 2 ^ n := by
  have hshift : (high <<< UInt64.ofNat n).toNat = high.toNat <<< n := by
    rw [UInt64.toNat_shiftLeft, UInt64.toNat_ofNat', Nat.mod_eq_of_lt (by omega : n < 2 ^ 64),
      Nat.mod_eq_of_lt hn, Nat.shiftLeft_eq, Nat.mod_eq_of_lt hhigh]
  rw [UInt64.toNat_or, hshift, Nat.or_comm, ← Nat.shiftLeft_add_eq_or_of_lt hlow,
    Nat.shiftLeft_eq, Nat.add_comm]

theorem toNat_shiftRight_ofNat (word : UInt64) (n : Nat) (hn : n < 64) :
    (word >>> UInt64.ofNat n).toNat = word.toNat / 2 ^ n := by
  rw [UInt64.toNat_shiftRight, UInt64.toNat_ofNat', Nat.mod_eq_of_lt (by omega : n < 2 ^ 64),
    Nat.mod_eq_of_lt hn, Nat.shiftRight_eq_div_pow]

/-- The low bits of a word. -/
theorem toNat_and_mask (word : UInt64) (n : Nat) (hn : n < 64) :
    (word &&& UInt64.ofNat (2 ^ n - 1)).toNat = word.toNat % 2 ^ n := by
  have hpow : 2 ^ n ≤ 2 ^ 63 := Nat.pow_le_pow_right (by omega) (by omega)
  rw [UInt64.toNat_and, UInt64.toNat_ofNat', Nat.mod_eq_of_lt (by omega : 2 ^ n - 1 < 2 ^ 64),
    Nat.and_two_pow_sub_one_eq_mod]

/-- A flag is set exactly if its bit is. -/
theorem flag_iff (word : UInt64) (n : Nat) (hn : n < 64) :
    word &&& UInt64.ofNat (2 ^ n) ≠ 0 ↔ word.toNat / 2 ^ n % 2 = 1 := by
  have hpow : 2 ^ n < 2 ^ 64 := Nat.pow_lt_pow_right (by omega) hn
  have hpos : 0 < 2 ^ n := Nat.two_pow_pos n
  have hzero : (0 : UInt64).toNat = 0 := rfl
  rw [ne_eq, ← UInt64.toNat_inj, hzero, UInt64.toNat_and, UInt64.toNat_ofNat',
    Nat.mod_eq_of_lt hpow, Nat.and_two_pow, Nat.testBit_eq_decide_div_mod_eq]
  by_cases hbit : word.toNat / 2 ^ n % 2 = 1
  · simp [hbit]
  · simp [hbit]

theorem toInt_of_small {word : Int64} (h : word.toUInt64.toNat < 2 ^ 63) :
    word.toInt = word.toUInt64.toNat :=
  BitVec.toInt_eq_toNat_of_lt (by
    have hnat : word.toBitVec.toNat = word.toUInt64.toNat := rfl
    omega)

theorem jlongOf_of_small {word : UInt64} (h : word.toNat < 2 ^ 63) :
    (jlongOf word).toUInt64 = word := by
  rw [jlongOf, if_pos h, UInt64.toUInt64_toInt64]

/-- The fields of a word that has room for the sign. -/
theorem decodeCommand_jlongOf {word : UInt64} (h : word.toNat < 2 ^ 63) :
    decodeCommand (jlongOf word) =
      { requestId := (word.toNat / 2 ^ 24 : Nat)
        operation := (word.toNat / 2 ^ 16 % 2 ^ 8 : Nat)
        value := (word.toNat % 2 ^ 16 : Nat) } := by
  have hword := jlongOf_of_small h
  have hrequest : (ushr (jlongOf word) 24).toUInt64.toNat = word.toNat / 2 ^ 24 := by
    rw [ushr, hword]
    exact toNat_shiftRight_ofNat word 24 (by decide)
  have hoperation : (ushr (jlongOf word) 16 &&& 0xff).toUInt64.toNat =
      word.toNat / 2 ^ 16 % 2 ^ 8 := by
    have hfield : (ushr (jlongOf word) 16 &&& 0xff).toUInt64 = (word >>> 16) &&& 0xff := by
      rw [ushr, hword]
      rfl
    have hshift : (word >>> 16).toNat = word.toNat / 2 ^ 16 :=
      toNat_shiftRight_ofNat word 16 (by decide)
    rw [hfield, ← hshift]
    exact toNat_and_mask (word >>> 16) 8 (by decide)
  have hvalue : (jlongOf word &&& 0xffff).toUInt64.toNat = word.toNat % 2 ^ 16 := by
    have hfield : (jlongOf word &&& 0xffff).toUInt64 = word &&& 0xffff := by
      have hand : (jlongOf word &&& 0xffff).toUInt64 = (jlongOf word).toUInt64 &&& 0xffff := rfl
      rw [hand, hword]
    rw [hfield]
    exact toNat_and_mask word 16 (by decide)
  have hshort : (word.toNat % 2 ^ 16 : Nat) < 2 ^ 16 := Nat.mod_lt _ (by decide)
  rw [decodeCommand, toInt_of_small (by rw [hrequest]; omega), hrequest,
    toInt_of_small (by rw [hoperation]; omega), hoperation, Int64.toInt_toInt32,
    toInt_of_small (by rw [hvalue]; omega), hvalue,
    Int.bmod_eq_of_le (by omega) (by omega)]

end Fields

section Commands

/-- A command that `enqueue_operation` has accepted, with the time of the call. -/
structure AcceptedCommand where
  time : Nat
  requestId : UInt32
  operation : UInt8
  value : UInt16
deriving DecidableEq

namespace AcceptedCommand

/-- The word of a command. -/
def word (c : AcceptedCommand) : UInt64 :=
  (c.requestId.toUInt64 <<< 24) ||| (c.operation.toUInt64 <<< 16) ||| c.value.toUInt64

/-- The entry that `enqueue_operation` makes of it. -/
def pending (c : AcceptedCommand) : PendingCommand where
  value := c.word
  expires := if c.operation ≠ 4 then some (c.time + seconds 2) else none

/-- What `applyPending` is to see of a command that is taken at `now`. -/
def expected (c : AcceptedCommand) (now : Nat) : DecodedCommand :=
  if c.operation ≠ 4 ∧ c.time + seconds 2 ≤ now then
    { requestId := (c.requestId.toNat : Int)
      operation := ((8 : Nat) : Int)
      value := ((0 : Nat) : Int) }
  else
    { requestId := (c.requestId.toNat : Int)
      operation := (c.operation.toNat : Int)
      value := (c.value.toNat : Int) }

end AcceptedCommand

/-- A `DeviceControl` with the record of the accepted commands, and of the times and the
words of all calls of `nativeTakeDeviceCommand`. -/
structure CommandTraffic where
  control : DeviceControl
  accepted : List AcceptedCommand
  returned : List (Nat × Int64)

/-- Calls of `enqueue_operation` and `take_command`, with their times. -/
inductive CommandEvent where
  | enqueue (now : Nat) (requestId : UInt32) (operation : UInt8) (value : UInt16)
  | take (now : Nat)

namespace CommandTraffic

/-- No call yet. -/
def start : CommandTraffic where
  control := .default
  accepted := []
  returned := []

/-- One call. -/
def step (s : CommandTraffic) : CommandEvent → CommandTraffic
  | .enqueue now requestId operation value =>
      let queued := s.control.enqueueOperation now requestId operation value
      { s with
          control := queued.1
          accepted :=
            if queued.2 then
              s.accepted ++
                [{ time := now, requestId := requestId, operation := operation, value := value }]
            else
              s.accepted }
  | .take now =>
      let taken := s.control.takeCommandAt now
      { s with control := taken.1, returned := s.returned ++ [(now, jlongOf taken.2)] }

/-- The calls that returned a command. -/
def commands (s : CommandTraffic) : List (Nat × Int64) :=
  s.returned.filter (fun call => call.2 ≠ 0)

end CommandTraffic

/-- The operations that the client uses. -/
def CommandEvent.known : CommandEvent → Bool
  | .enqueue _ _ operation _ => 1 ≤ operation && operation ≤ 7
  | .take _ => true

/-- Masking the low bits away. -/
theorem toNat_and_high (word : UInt64) :
    (word &&& (~~~(0 : UInt64) <<< 24)).toNat = word.toNat / 2 ^ 24 * 2 ^ 24 := by
  have hmask : (~~~(0 : UInt64) <<< 24).toNat = 2 ^ 64 - 2 ^ 24 := by decide
  have hlt := word.toNat_lt
  have hhigh : (word.toNat &&& (2 ^ 64 - 2 ^ 24)) / 2 ^ 24 = word.toNat / 2 ^ 24 := by
    rw [Nat.and_div_two_pow, show (2 ^ 64 - 2 ^ 24) / 2 ^ 24 = 2 ^ 40 - 1 from rfl,
      Nat.and_two_pow_sub_one_eq_mod]
    omega
  have hlow : (word.toNat &&& (2 ^ 64 - 2 ^ 24)) % 2 ^ 24 = 0 := by
    have hmod := @Nat.and_mod_two_pow word.toNat (2 ^ 64 - 2 ^ 24) 24
    rw [show (2 ^ 64 - 2 ^ 24) % 2 ^ 24 = 0 from rfl, Nat.and_zero] at hmod
    exact hmod
  rw [UInt64.toNat_and, hmask]
  omega

namespace AcceptedCommand

theorem toNat_word (c : AcceptedCommand) :
    c.word.toNat = c.requestId.toNat * 2 ^ 24 + c.operation.toNat * 2 ^ 16 + c.value.toNat := by
  have hrequest := c.requestId.toNat_lt
  have hoperation := c.operation.toNat_lt
  have hvalue := c.value.toNat_lt
  have hlow : (c.value.toUInt64 ||| (c.operation.toUInt64 <<< 16)).toNat =
      c.value.toNat + c.operation.toNat * 2 ^ 16 :=
    toNat_or_shiftLeft (n := 16) (by decide)
      (by rw [UInt16.toNat_toUInt64]; omega) (by rw [UInt8.toNat_toUInt64]; omega)
  have hword : (c.value.toUInt64 ||| (c.operation.toUInt64 <<< 16) |||
      (c.requestId.toUInt64 <<< 24)).toNat =
      (c.value.toUInt64 ||| (c.operation.toUInt64 <<< 16)).toNat + c.requestId.toNat * 2 ^ 24 :=
    toNat_or_shiftLeft (n := 24) (by decide) (by rw [hlow]; omega)
      (by rw [UInt32.toNat_toUInt64]; omega)
  have hcomm : c.word =
      c.value.toUInt64 ||| (c.operation.toUInt64 <<< 16) ||| (c.requestId.toUInt64 <<< 24) := by
    rw [word, UInt64.or_comm (c.requestId.toUInt64 <<< 24), UInt64.or_comm _ c.value.toUInt64,
      ← UInt64.or_assoc]
  rw [hcomm, hword, hlow]
  omega

/-- The word of a command that has expired. -/
theorem toNat_expired (c : AcceptedCommand) :
    ((c.word &&& (~~~(0 : UInt64) <<< 24)) ||| ((8 : UInt64) <<< 16)).toNat =
      c.requestId.toNat * 2 ^ 24 + 8 * 2 ^ 16 := by
  have hrequest := c.requestId.toNat_lt
  have hoperation := c.operation.toNat_lt
  have hvalue := c.value.toNat_lt
  have hhigh : c.word &&& (~~~(0 : UInt64) <<< 24) = c.requestId.toUInt64 <<< 24 := by
    have hshift : (c.requestId.toUInt64 <<< 24).toNat = c.requestId.toNat * 2 ^ 24 := by
      have hzero : ((0 : UInt64) ||| (c.requestId.toUInt64 <<< 24)).toNat =
          (0 : UInt64).toNat + c.requestId.toNat * 2 ^ 24 :=
        toNat_or_shiftLeft (n := 24) (by decide) (Nat.two_pow_pos 24)
          (by rw [UInt32.toNat_toUInt64]; omega)
      rw [UInt64.zero_or] at hzero
      exact hzero.trans (Nat.zero_add _)
    rw [← UInt64.toNat_inj, toNat_and_high, toNat_word, hshift]
    omega
  have hmark : ((8 : UInt64) <<< 16).toNat = 8 * 2 ^ 16 := by decide
  have hword : ((8 : UInt64) <<< 16 ||| (c.requestId.toUInt64 <<< 24)).toNat =
      ((8 : UInt64) <<< 16).toNat + c.requestId.toNat * 2 ^ 24 :=
    toNat_or_shiftLeft (n := 24) (by decide) (by rw [hmark]; omega)
      (by rw [UInt32.toNat_toUInt64]; omega)
  rw [hhigh, UInt64.or_comm, hword, hmark]
  omega

end AcceptedCommand

/-- A word with an operation is not the empty marker, and its fields come apart. -/
theorem decodeCommand_of_toNat {word : UInt64} {request operation value : Nat}
    (hword : word.toNat = request * 2 ^ 24 + operation * 2 ^ 16 + value)
    (hrequest : request < 2 ^ 32) (hoperation : 1 ≤ operation ∧ operation < 2 ^ 8)
    (hvalue : value < 2 ^ 16) :
    jlongOf word ≠ 0 ∧
      decodeCommand (jlongOf word) =
        { requestId := (request : Int)
          operation := (operation : Int)
          value := (value : Int) } := by
  have hsmall : word.toNat < 2 ^ 63 := by omega
  refine ⟨?_, ?_⟩
  · intro hzero
    have hsame := jlongOf_of_small hsmall
    rw [hzero] at hsame
    have hnone : word.toNat = 0 := by
      rw [← hsame]
      rfl
    omega
  · have hfirst : word.toNat / 2 ^ 24 = request := by omega
    have hsecond : word.toNat / 2 ^ 16 % 2 ^ 8 = operation := by omega
    have hthird : word.toNat % 2 ^ 16 = value := by omega
    rw [decodeCommand_jlongOf hsmall, hfirst, hsecond, hthird]

theorem takeCommandAt_cons {control : DeviceControl} {c : AcceptedCommand}
    {rest : List PendingCommand} (hcommands : control.commands = c.pending :: rest) (now : Nat) :
    control.takeCommandAt now =
      ({ control with commands := rest },
        if c.operation ≠ 4 ∧ c.time + seconds 2 ≤ now then
          (c.word &&& (~~~(0 : UInt64) <<< 24)) ||| ((8 : UInt64) <<< 16)
        else
          c.word) := by
  have hexpires : c.pending.expires.any (fun expires => expires ≤ now) = true ↔
      c.operation ≠ 4 ∧ c.time + seconds 2 ≤ now := by
    by_cases hcleanup : c.operation = 4
    · rw [AcceptedCommand.pending, if_neg (not_not.mpr hcleanup)]
      exact ⟨(fun h => by cases h), fun h => absurd hcleanup h.1⟩
    · rw [AcceptedCommand.pending, if_pos hcleanup, Option.any_some, decide_eq_true_iff]
      exact ⟨fun h => ⟨hcleanup, h⟩, fun h => h.2⟩
  rw [DeviceControl.takeCommandAt, hcommands]
  exact congrArg _ (if_congr hexpires rfl rfl)

/-- What `take_command_at` returns for the first command of the queue. -/
theorem takeCommandAt_pending {control : DeviceControl} {c : AcceptedCommand}
    {rest : List PendingCommand} (hcommands : control.commands = c.pending :: rest)
    (hoperation : 1 ≤ c.operation.toNat) (now : Nat) :
    (control.takeCommandAt now).1 = { control with commands := rest } ∧
      jlongOf (control.takeCommandAt now).2 ≠ 0 ∧
      decodeCommand (jlongOf (control.takeCommandAt now).2) = c.expected now := by
  rw [takeCommandAt_cons hcommands, AcceptedCommand.expected]
  refine ⟨rfl, ?_⟩
  by_cases hexpired : c.operation ≠ 4 ∧ c.time + seconds 2 ≤ now
  · rw [if_pos hexpired, if_pos hexpired]
    have hword := c.toNat_expired
    rw [← Nat.add_zero (c.requestId.toNat * 2 ^ 24 + 8 * 2 ^ 16)] at hword
    exact decodeCommand_of_toNat hword c.requestId.toNat_lt ⟨by omega, by omega⟩ (by omega)
  · rw [if_neg hexpired, if_neg hexpired]
    exact decodeCommand_of_toNat c.toNat_word c.requestId.toNat_lt
      ⟨hoperation, c.operation.toNat_lt⟩ c.value.toNat_lt

namespace CommandTraffic

/-- A call has returned a command. -/
def Returns (c : AcceptedCommand) (call : Nat × Int64) : Prop :=
  decodeCommand call.2 = c.expected call.1

/-- The calls have returned `done`, one command each and in this order, and the queue holds
the rest of the accepted commands. -/
structure InOrder (s : CommandTraffic) (done waiting : List AcceptedCommand) : Prop where
  accepted : s.accepted = done ++ waiting
  known : ∀ c ∈ waiting, 1 ≤ c.operation.toNat
  queued : s.control.commands = waiting.map AcceptedCommand.pending
  returned : List.Forall₂ Returns done s.commands

theorem inOrder_start : start.InOrder [] [] where
  accepted := rfl
  known := fun c hc => by cases hc
  queued := rfl
  returned := .nil

theorem enqueue_inOrder {s : CommandTraffic} {done waiting : List AcceptedCommand}
    (h : s.InOrder done waiting) (now : Nat) (requestId : UInt32) {operation : UInt8}
    (hoperation : 1 ≤ operation.toNat) (value : UInt16) :
    ∃ waiting', (s.step (.enqueue now requestId operation value)).InOrder done waiting' := by
  let c : AcceptedCommand :=
    { time := now, requestId := requestId, operation := operation, value := value }
  by_cases hfull : 32 ≤ s.control.commands.length
  · have hrefused : s.control.enqueueOperation now requestId operation value =
        (s.control, false) := by
      rw [DeviceControl.enqueueOperation, if_pos hfull]
    have hstep : s.step (.enqueue now requestId operation value) = s := by
      simp only [step, hrefused, Bool.false_eq_true, if_false]
    rw [hstep]
    exact ⟨waiting, h⟩
  · have hqueue : s.control.enqueueOperation now requestId operation value =
        ({ s.control with commands := s.control.commands ++ [c.pending] }, true) := by
      rw [DeviceControl.enqueueOperation, if_neg hfull]
      rfl
    have hstep : s.step (.enqueue now requestId operation value) =
        { s with
            control := { s.control with commands := s.control.commands ++ [c.pending] }
            accepted := s.accepted ++ [c] } := by
      simp only [step, hqueue, if_true]
      rfl
    rw [hstep]
    have haccepted : s.accepted ++ [c] = done ++ (waiting ++ [c]) := by
      rw [h.accepted, List.append_assoc]
    have hqueued : s.control.commands ++ [c.pending] =
        (waiting ++ [c]).map AcceptedCommand.pending := by
      rw [h.queued, List.map_append]
      rfl
    refine ⟨waiting ++ [c], haccepted, ?_, hqueued, h.returned⟩
    intro c' hc'
    rcases List.mem_append.mp hc' with hc' | hc'
    · exact h.known c' hc'
    · rw [List.mem_singleton.mp hc']
      exact hoperation

/-- A call returns zero exactly if the queue is empty. -/
theorem take_eq_zero_iff {s : CommandTraffic} {done waiting : List AcceptedCommand}
    (h : s.InOrder done waiting) (now : Nat) :
    jlongOf (s.control.takeCommandAt now).2 = 0 ↔ s.control.commands = [] := by
  cases waiting with
  | nil =>
      have hempty : s.control.commands = [] := h.queued
      simp only [DeviceControl.takeCommandAt, hempty, iff_true]
      rfl
  | cons c rest =>
      have hqueued : s.control.commands = c.pending :: rest.map AcceptedCommand.pending := h.queued
      obtain ⟨_, hword, _⟩ := takeCommandAt_pending hqueued (h.known c List.mem_cons_self) now
      exact iff_of_false hword (by rw [hqueued]; exact List.cons_ne_nil _ _)

theorem take_inOrder {s : CommandTraffic} {done waiting : List AcceptedCommand}
    (h : s.InOrder done waiting) (now : Nat) :
    ∃ done' waiting', (s.step (.take now)).InOrder done' waiting' := by
  have hcommands : ∀ word : Int64,
      (s.returned ++ [(now, word)]).filter (fun call => call.2 ≠ 0) =
        s.commands ++ if word ≠ 0 then [(now, word)] else [] := by
    intro word
    rw [List.filter_append, commands, List.filter_singleton]
    simp
  cases waiting with
  | nil =>
      have hempty : s.control.commands = [] := h.queued
      have hzero := (take_eq_zero_iff h now).mpr hempty
      refine ⟨done, [], h.accepted, h.known, ?_, ?_⟩
      · simp only [step, DeviceControl.takeCommandAt, hempty, List.map_nil]
      · simp only [step, commands, hcommands, hzero, ne_eq, not_true_eq_false, if_false,
          List.append_nil]
        exact h.returned
  | cons c rest =>
      have hqueued : s.control.commands = c.pending :: rest.map AcceptedCommand.pending := h.queued
      obtain ⟨hrest, hword, hdecoded⟩ :=
        takeCommandAt_pending hqueued (h.known c List.mem_cons_self) now
      refine ⟨done ++ [c], rest, ?_, fun c' hc' => h.known c' (List.mem_cons_of_mem _ hc'), ?_, ?_⟩
      · simp only [step, h.accepted, List.append_assoc, List.singleton_append]
      · simp only [step, hrest]
      · simp only [step, commands, hcommands, hword, ne_eq, not_false_eq_true, if_true]
        exact List.rel_append h.returned (.cons hdecoded .nil)

theorem run_inOrder (es : List CommandEvent) (hes : ∀ e ∈ es, e.known = true) :
    ∃ done waiting, (run step start es).InOrder done waiting := by
  refine run_invariant (fun s : CommandTraffic => ∃ done waiting, s.InOrder done waiting) ?_
    ⟨[], [], inOrder_start⟩ (along_of_forall hes)
  rintro s e ⟨done, waiting, h⟩ hknown
  cases e with
  | enqueue now requestId operation value =>
      simp only [CommandEvent.known, Bool.and_eq_true, decide_eq_true_eq] at hknown
      exact ⟨done, enqueue_inOrder h now requestId hknown.1 value⟩
  | take now =>
      exact take_inOrder h now

end CommandTraffic

end Commands

section Reports

theorem toUInt64_ofNat_shiftLeft (n : Nat) :
    (Int64.ofNat n <<< 16).toUInt64 = UInt64.ofNat n <<< UInt64.ofNat 16 ∧
      (Int64.ofNat n <<< 32).toUInt64 = UInt64.ofNat n <<< UInt64.ofNat 32 :=
  ⟨rfl, rfl⟩

/-- A flag above the bits that are in use. -/
theorem toNat_flag {values : Int64} {n : Nat} (hn : n < 64) (bit : Int64)
    (hbit : bit.toUInt64 = (1 : UInt64) <<< UInt64.ofNat n)
    (hvalues : values.toUInt64.toNat < 2 ^ n) (flag : Bool) :
    (if flag then values ||| bit else values).toUInt64.toNat =
      values.toUInt64.toNat + flag.toNat * 2 ^ n := by
  cases flag with
  | false => simp
  | true =>
      have hor : (values ||| bit).toUInt64 = values.toUInt64 ||| bit.toUInt64 := rfl
      have hone : (1 : UInt64).toNat * 2 ^ n < 2 ^ 64 := by
        have hpow : 2 ^ n < 2 ^ 64 := Nat.pow_lt_pow_right (by omega) hn
        have hnat : (1 : UInt64).toNat = 1 := rfl
        rw [hnat]
        omega
      rw [if_pos rfl, hor, hbit, toNat_or_shiftLeft hn hvalues hone]
      rfl

/-- The word of `report`, as a sum. -/
theorem toNat_reportValues {volume minimum maximum : Nat} (hvolume : volume < 2 ^ 16)
    (hminimum : minimum < 2 ^ 16) (hmaximum : maximum < 2 ^ 16) (fixed speaker failed : Bool) :
    (reportValues volume minimum maximum fixed speaker failed).toUInt64.toNat =
      volume + minimum * 2 ^ 16 + maximum * 2 ^ 32 + fixed.toNat * 2 ^ 48 +
        speaker.toNat * 2 ^ 49 + failed.toNat * 2 ^ 50 := by
  have hnat : ∀ {n : Nat}, n < 2 ^ 16 → (UInt64.ofNat n).toNat = n := by
    intro n hn
    rw [UInt64.toNat_ofNat', Nat.mod_eq_of_lt (by omega)]
  have hfixed := Bool.toNat_lt fixed
  have hspeaker := Bool.toNat_lt speaker
  have hlow : (Int64.ofNat volume).toUInt64.toNat = volume := hnat hvolume
  have hmiddle : (Int64.ofNat volume ||| (Int64.ofNat minimum <<< 16)).toUInt64.toNat =
      volume + minimum * 2 ^ 16 := by
    have hor : (Int64.ofNat volume ||| (Int64.ofNat minimum <<< 16)).toUInt64 =
        (Int64.ofNat volume).toUInt64 ||| (Int64.ofNat minimum <<< 16).toUInt64 := rfl
    rw [hor, (toUInt64_ofNat_shiftLeft minimum).1, toNat_or_shiftLeft (by decide)
      (by rw [hlow]; omega) (by rw [hnat hminimum]; omega), hlow, hnat hminimum]
  have hhigh : (Int64.ofNat volume ||| (Int64.ofNat minimum <<< 16) |||
      (Int64.ofNat maximum <<< 32)).toUInt64.toNat =
      volume + minimum * 2 ^ 16 + maximum * 2 ^ 32 := by
    have hor : (Int64.ofNat volume ||| (Int64.ofNat minimum <<< 16) |||
        (Int64.ofNat maximum <<< 32)).toUInt64 =
        (Int64.ofNat volume ||| (Int64.ofNat minimum <<< 16)).toUInt64 |||
          (Int64.ofNat maximum <<< 32).toUInt64 := rfl
    rw [hor, (toUInt64_ofNat_shiftLeft maximum).2, toNat_or_shiftLeft (by decide)
      (by rw [hmiddle]; omega) (by rw [hnat hmaximum]; omega), hmiddle, hnat hmaximum]
  rw [reportValues]
  generalize Int64.ofNat volume ||| (Int64.ofNat minimum <<< 16) |||
    (Int64.ofNat maximum <<< 32) = fields at hhigh
  have hfixedBit := toNat_flag (n := 48) (by decide) ((1 : Int64) <<< 48) rfl
    (by rw [hhigh]; omega) fixed
  rw [hhigh] at hfixedBit
  have hspeakerBit := toNat_flag (n := 49) (by decide) ((1 : Int64) <<< 49) rfl
    (by rw [hfixedBit]; omega) speaker
  rw [hfixedBit] at hspeakerBit
  have hfailedBit := toNat_flag (n := 50) (by decide) ((1 : Int64) <<< 50) rfl
    (by rw [hspeakerBit]; omega) failed
  rw [hspeakerBit] at hfailedBit
  exact hfailedBit

theorem shortOf_of_toNat {field : UInt64} {n : Nat} (h : field.toNat = n) (hn : n < 2 ^ 16) :
    shortOf field = n := by
  rw [shortOf, h, if_pos hn]

theorem requestOf_ofNat (requestId : UInt32) :
    requestOf (Int64.ofNat requestId.toNat) = requestId.toNat := by
  have hlt := requestId.toNat_lt
  have hword : (Int64.ofNat requestId.toNat).toUInt64.toNat = requestId.toNat := by
    have hsame : (Int64.ofNat requestId.toNat).toUInt64 = UInt64.ofNat requestId.toNat := rfl
    rw [hsame, UInt64.toNat_ofNat', Nat.mod_eq_of_lt (by omega)]
  rw [requestOf, toInt_of_small (by rw [hword]; omega), hword, if_pos (by omega),
    Int.toNat_natCast]

/-- What `nativeReportDevice` composes of a word of `report`. -/
theorem unpackReport_reportValues {volume minimum maximum : Nat} (hvolume : volume < 2 ^ 16)
    (hminimum : minimum < 2 ^ 16) (hmaximum : maximum < 2 ^ 16) (fixed speaker failed : Bool)
    (requestId : UInt32) (deviceId name : String) :
    unpackReport (Int64.ofNat requestId.toNat) deviceId name
        (reportValues volume minimum maximum fixed speaker failed) =
      { requestId := requestId.toNat
        deviceId := String.ofList (deviceId.toList.take 80)
        name := String.ofList (name.toList.take 80)
        volume := volume
        minimum := minimum
        maximum := maximum
        fixed := fixed
        speaker := speaker
        failed := failed } := by
  have hsum := toNat_reportValues hvolume hminimum hmaximum fixed speaker failed
  have hfixed := Bool.toNat_lt fixed
  have hspeaker := Bool.toNat_lt speaker
  have hfailed := Bool.toNat_lt failed
  generalize reportValues volume minimum maximum fixed speaker failed = values at hsum
  have hword : wordOf values = values.toUInt64 := by
    rw [wordOf, if_pos]
    rw [toInt_of_small (by omega)]
    exact Int.natCast_nonneg _
  have hvolumeField : shortOf (values.toUInt64 &&& 0xffff) = volume :=
    shortOf_of_toNat ((toNat_and_mask values.toUInt64 16 (by decide)).trans (by omega)) hvolume
  have hminimumField : shortOf ((values.toUInt64 >>> 16) &&& 0xffff) = minimum := by
    have hshift : (values.toUInt64 >>> 16).toNat = values.toUInt64.toNat / 2 ^ 16 :=
      toNat_shiftRight_ofNat values.toUInt64 16 (by decide)
    exact shortOf_of_toNat ((toNat_and_mask (values.toUInt64 >>> 16) 16 (by decide)).trans
      (by rw [hshift]; omega)) hminimum
  have hmaximumField : shortOf ((values.toUInt64 >>> 32) &&& 0xffff) = maximum := by
    have hshift : (values.toUInt64 >>> 32).toNat = values.toUInt64.toNat / 2 ^ 32 :=
      toNat_shiftRight_ofNat values.toUInt64 32 (by decide)
    exact shortOf_of_toNat ((toNat_and_mask (values.toUInt64 >>> 32) 16 (by decide)).trans
      (by rw [hshift]; omega)) hmaximum
  have hflag : ∀ (flag : Bool) {set : Prop} [Decidable set], (set ↔ flag.toNat = 1) →
      decide set = flag := by
    intro flag set _ hset
    cases flag with
    | false => exact decide_eq_false fun h => by simpa using hset.mp h
    | true => exact decide_eq_true (hset.mpr rfl)
  have hfixedFlag : decide (values.toUInt64 &&& ((1 : UInt64) <<< 48) ≠ 0) = fixed :=
    hflag fixed ((flag_iff values.toUInt64 48 (by decide)).trans (by omega))
  have hspeakerFlag : decide (values.toUInt64 &&& ((1 : UInt64) <<< 49) ≠ 0) = speaker :=
    hflag speaker ((flag_iff values.toUInt64 49 (by decide)).trans (by omega))
  have hfailedFlag : decide (values.toUInt64 &&& ((1 : UInt64) <<< 50) ≠ 0) = failed :=
    hflag failed ((flag_iff values.toUInt64 50 (by decide)).trans (by omega))
  rw [unpackReport, hword, requestOf_ofNat, hvolumeField, hminimumField, hmaximumField,
    hfixedFlag, hspeakerFlag, hfailedFlag]

end Reports

/-- Every command word and every status word is read as it was written. -/
theorem words_survive_the_boundary (es : List CommandEvent) (hes : ∀ e ∈ es, e.known = true)
    {volume minimum maximum : Nat} (hvolume : volume < 2 ^ 16) (hminimum : minimum < 2 ^ 16)
    (hmaximum : maximum < 2 ^ 16) (fixed speaker failed : Bool) (requestId : UInt32)
    (deviceId name : String) :
    (∃ done waiting,
        let s := run CommandTraffic.step CommandTraffic.start es
        s.accepted = done ++ waiting ∧
          s.control.commands = waiting.map AcceptedCommand.pending ∧
          List.Forall₂ (fun c call => decodeCommand call.2 = c.expected call.1) done s.commands ∧
          ∀ now, jlongOf (s.control.takeCommandAt now).2 = 0 ↔ s.control.commands = []) ∧
      unpackReport (Int64.ofNat requestId.toNat) deviceId name
          (reportValues volume minimum maximum fixed speaker failed) =
        { requestId := requestId.toNat
          deviceId := String.ofList (deviceId.toList.take 80)
          name := String.ofList (name.toList.take 80)
          volume := volume
          minimum := minimum
          maximum := maximum
          fixed := fixed
          speaker := speaker
          failed := failed } := by
  refine ⟨?_, unpackReport_reportValues hvolume hminimum hmaximum fixed speaker failed
    requestId deviceId name⟩
  obtain ⟨done, waiting, h⟩ := CommandTraffic.run_inOrder es hes
  exact ⟨done, waiting, h.accepted, h.queued, h.returned, CommandTraffic.take_eq_zero_iff h⟩

/-- A run with the largest request id and value, in which a cleanup outlives its time and a
command before it does not. -/
theorem words_survive_the_boundary_largest :
    (∃ done waiting,
        let s := run CommandTraffic.step CommandTraffic.start
          [.enqueue 0 4294967295 3 65535, .enqueue 0 1 4 0, .take (seconds 2), .take (seconds 2)]
        s.accepted = done ++ waiting ∧
          s.control.commands = waiting.map AcceptedCommand.pending ∧
          List.Forall₂ (fun c call => decodeCommand call.2 = c.expected call.1) done s.commands ∧
          ∀ now, jlongOf (s.control.takeCommandAt now).2 = 0 ↔ s.control.commands = []) ∧
      unpackReport (Int64.ofNat (4294967295 : UInt32).toNat) "phone" "Phone"
          (reportValues 65535 1 65535 true false true) =
        { requestId := (4294967295 : UInt32).toNat
          deviceId := String.ofList ("phone".toList.take 80)
          name := String.ofList ("Phone".toList.take 80)
          volume := 65535
          minimum := 1
          maximum := 65535
          fixed := true
          speaker := false
          failed := true } :=
  words_survive_the_boundary _
    (by
      intro e he
      simp only [List.mem_cons, List.not_mem_nil, or_false] at he
      rcases he with rfl | rfl | rfl | rfl <;> decide)
    (by decide) (by decide) (by decide) true false true 4294967295 "phone" "Phone"

end Soundwave

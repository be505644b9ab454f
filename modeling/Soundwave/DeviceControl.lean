import Mathlib.Data.List.Basic
import Mathlib.Tactic.Ring
import Soundwave.ControlMessages
import Soundwave.TransitionRuns

/-!
# Device commands, reports and the calibration tone of a phone

Model of `DeviceControl` in `android/app/src/main/rust/src/device_control.rs`: the
queue of commands for the Android side, the queue of reports for the server, and the
calibration tone.

The state of the tone is a token, a deadline and a flag.  The token is the request id
with an enable bit below it; a worker that plays the tone reports with the token it has
read.  Whether the tone may play depends on the deadline alone.  The flag says that
the request has been answered for good, or that it waits for no answer.

Every access to an atomic and every section under a mutex is a definition of its own;
the methods are composed of them.  Instants are in nanoseconds, on the clock of the
phone.  `produced` records every report that was ever pushed; the queue keeps the last
32.  The samples that `read_tone` synthesises are left out.
-/

namespace Soundwave

/-- `Duration::from_secs`. -/
def seconds (n : Nat) : Nat := n * 1000000000

/-- `PendingCommand`. -/
structure PendingCommand where
  value : UInt64
  expires : Option Nat
deriving DecidableEq

/-- `Tone`. -/
structure Tone where
  token : UInt64
  until' : Option Nat
  responded : Bool
deriving DecidableEq

/-- `Tone::default`. -/
def Tone.default : Tone where
  token := 0
  until' := none
  responded := false

/-- The token of a request, `(request_id << 1) | enabled`. -/
def toneToken (request : UInt32) (enabled : Bool) : UInt64 :=
  (request.toUInt64 <<< 1) ||| enabled.toUInt64

/-- The request id of a token, `(token >> 1) as u32`. -/
def tokenRequest (token : UInt64) : UInt32 :=
  (token >>> 1).toUInt32

/-- `DeviceControl`, with the record of its reports. -/
structure DeviceControl where
  commands : List PendingCommand
  reports : List ControlMessage
  tone : Tone
  position : UInt64
  speaker : Bool
  produced : List ControlMessage
deriving DecidableEq

namespace DeviceControl

section Model

/-- `DeviceControl::default`. -/
def default : DeviceControl where
  commands := []
  reports := []
  tone := .default
  position := 0
  speaker := false
  produced := []

/-- `enqueue_operation`; the result says whether there was room. -/
def enqueueOperation (c : DeviceControl) (now : Nat) (request : UInt32) (operation : UInt8)
    (value : UInt16) : DeviceControl × Bool :=
  if 32 ≤ c.commands.length then
    (c, false)
  else
    ({ c with
        commands := c.commands ++
          [{ value := (request.toUInt64 <<< 24) ||| (operation.toUInt64 <<< 16) ||| value.toUInt64
             expires := if operation ≠ 4 then some (now + seconds 2) else none }] },
      true)

/-- `enqueue`. -/
def enqueue (c : DeviceControl) (now : Nat) (request : UInt32) (index : Option UInt16) :
    DeviceControl × Bool :=
  c.enqueueOperation now request (if index.isSome then 2 else 1) (index.getD 0)

/-- `take_command_at`.  An expired command becomes operation 8 of the same request. -/
def takeCommandAt (c : DeviceControl) (now : Nat) : DeviceControl × UInt64 :=
  match c.commands with
  | [] => (c, 0)
  | command :: rest =>
      ({ c with commands := rest },
        if command.expires.any (fun expires => expires ≤ now) then
          (command.value &&& (~~~(0 : UInt64) <<< 24)) ||| ((8 : UInt64) <<< 16)
        else
          command.value)

/-- `push_report`. -/
def pushReport (c : DeviceControl) (report : ControlMessage) : DeviceControl :=
  { c with
      reports := (if 32 ≤ c.reports.length then c.reports.tail else c.reports) ++ [report]
      produced := c.produced ++ [report] }

/-- `take_report`. -/
def takeReport (c : DeviceControl) : DeviceControl × Option ControlMessage :=
  ({ c with reports := c.reports.tail }, c.reports.head?)

/-- `self.position.store(0)`. -/
def storePosition (c : DeviceControl) : DeviceControl :=
  { c with position := 0 }

/-- `self.speaker.store(..)` in `report`. -/
def storeSpeaker (c : DeviceControl) (status : DeviceStatus) : DeviceControl :=
  { c with speaker := status.speaker && !status.failed }

/-- The load of the speaker flag in `request_tone`. -/
def toneAllowed (c : DeviceControl) (enabled : Bool) : Bool :=
  !enabled || c.speaker

/-- The section of `request_tone` under the lock of the tone. -/
def setRequest (c : DeviceControl) (now : Nat) (request : UInt32) (enabled allowed : Bool) :
    DeviceControl :=
  { c with
      tone :=
        { token := toneToken request enabled
          until' := if enabled && allowed then some (now + seconds 5) else none
          responded := request = 0 || !allowed } }

/-- The report that a tone has failed or was stopped. -/
def toneFailed (request : UInt32) : ControlMessage :=
  .toneState request.toNat false true

/-- The end of `request_tone`. -/
def refuseRequest (c : DeviceControl) (request : UInt32) (allowed : Bool) : DeviceControl :=
  if !allowed && request ≠ 0 then c.pushReport (toneFailed request) else c

/-- `request_tone`. -/
def requestTone (c : DeviceControl) (now : Nat) (request : UInt32) (enabled : Bool) :
    DeviceControl :=
  let allowed := c.toneAllowed enabled
  ((c.setRequest now request enabled allowed).storePosition).refuseRequest request allowed

/-- The section of `set_tone(false)` under the lock of the tone, and the request that
it has ended. -/
def stopSection (c : DeviceControl) : DeviceControl × Option UInt32 :=
  let wasActive := c.tone.until'.isSome
  let request := tokenRequest c.tone.token
  ({ c with
      tone :=
        { token := c.tone.token &&& ~~~1
          until' := none
          responded := c.tone.responded || wasActive } },
    if wasActive && request ≠ 0 then some request else none)

/-- `if let Some(request_id) = failed { .. }`. -/
def pushFailed (c : DeviceControl) : Option UInt32 → DeviceControl
  | some request => c.pushReport (toneFailed request)
  | none => c

/-- `set_tone`. -/
def setTone (c : DeviceControl) (now : Nat) (enabled : Bool) : DeviceControl :=
  if enabled then
    c.requestTone now 0 true
  else
    (c.stopSection.1.pushFailed c.stopSection.2).storePosition

/-- `report`. -/
def report (c : DeviceControl) (now : Nat) (status : DeviceStatus) : DeviceControl :=
  let stored := c.storeSpeaker status
  let stopped := if !status.speaker || status.failed then stored.setTone now false else stored
  stopped.pushReport (.deviceStatus status)

/-- `expire_tone`. -/
def expireTone (c : DeviceControl) (now : Nat) : DeviceControl :=
  if c.tone.until'.any (fun deadline => deadline ≤ now) then
    let request := tokenRequest c.tone.token
    let ended :=
      { c with
          tone := { token := c.tone.token &&& ~~~1, until' := none, responded := true } }
    ended.pushFailed (if request ≠ 0 then some request else none)
  else
    c

/-- `playback_request`. -/
def playbackRequest (c : DeviceControl) (now : Nat) : DeviceControl × UInt64 :=
  ((c.expireTone now), (c.expireTone now).tone.token)

/-- The section of `report_playback` under the lock of the tone.  The clock is read
twice: for `active`, and for the new deadline. -/
def acknowledge (c : DeviceControl) (now later : Nat) (token : UInt64) (playing : Bool) :
    DeviceControl × Option (Bool × Bool) :=
  if token ≠ c.tone.token then
    (c, none)
  else
    let enabled := token &&& 1 ≠ 0
    let active := c.tone.until'.any (fun deadline => now < deadline)
    if enabled ∧ playing ∧ active ∧ !c.tone.responded then
      ({ c with tone := { c.tone with until' := some (later + seconds 5), responded := true } },
        some (true, false))
    else if ¬enabled ∧ !playing ∧ !c.tone.responded then
      ({ c with tone := { c.tone with responded := true } }, some (false, false))
    else if enabled ∧ !playing ∧ !active ∧ (c.tone.until'.isSome ∨ !c.tone.responded) then
      ({ c with
          tone := { token := c.tone.token &&& ~~~1, until' := none, responded := true } },
        some (false, true))
    else
      -- where the last test fails after `take`, no deadline was set
      (c, none)

/-- `report_playback`; the instants are those of its three looks at the clock. -/
def reportPlayback (c : DeviceControl) (first second third : Nat) (token : UInt64)
    (playing : Bool) : DeviceControl :=
  let c := c.expireTone first
  if token >>> 1 = 0 then
    c
  else
    match c.acknowledge second third token playing with
    | (c, some (playing, failed)) =>
        c.pushReport (.toneState (tokenRequest token).toNat playing failed)
    | (c, none) => c

/-- `tone_active`; the instants are those of its two looks at the clock. -/
def toneActive (c : DeviceControl) (first second : Nat) : DeviceControl × Bool :=
  (c.expireTone first,
    (c.expireTone first).tone.until'.any (fun deadline => second < deadline))

/-- `read_tone` without the samples. -/
def readTone (c : DeviceControl) (first second length : Nat) : DeviceControl × Bool :=
  let (c, active) := c.toneActive first second
  if active then
    ({ c with position := c.position + UInt64.ofNat (length / 2) }, true)
  else
    (c, false)

/-- `reset`. -/
def reset (c : DeviceControl) : DeviceControl :=
  { c with tone := .default, position := 0, speaker := false, commands := [], reports := [] }

end Model

section Fields

@[simp] theorem pushReport_tone (c : DeviceControl) (report : ControlMessage) :
    (c.pushReport report).tone = c.tone := rfl

@[simp] theorem pushReport_speaker (c : DeviceControl) (report : ControlMessage) :
    (c.pushReport report).speaker = c.speaker := rfl

@[simp] theorem pushReport_produced (c : DeviceControl) (report : ControlMessage) :
    (c.pushReport report).produced = c.produced ++ [report] := rfl

@[simp] theorem storePosition_tone (c : DeviceControl) : c.storePosition.tone = c.tone := rfl

@[simp] theorem storePosition_speaker (c : DeviceControl) :
    c.storePosition.speaker = c.speaker := rfl

@[simp] theorem storePosition_produced (c : DeviceControl) :
    c.storePosition.produced = c.produced := rfl

@[simp] theorem pushFailed_tone (c : DeviceControl) (failed : Option UInt32) :
    (c.pushFailed failed).tone = c.tone := by
  cases failed with
  | none => rfl
  | some request => rfl

@[simp] theorem pushFailed_speaker (c : DeviceControl) (failed : Option UInt32) :
    (c.pushFailed failed).speaker = c.speaker := by
  cases failed with
  | none => rfl
  | some request => rfl

@[simp] theorem pushFailed_produced (c : DeviceControl) (failed : Option UInt32) :
    (c.pushFailed failed).produced = c.produced ++ failed.toList.map toneFailed := by
  cases failed with
  | none => simp [pushFailed]
  | some request => rfl

@[simp] theorem refuseRequest_tone (c : DeviceControl) (request : UInt32) (allowed : Bool) :
    (c.refuseRequest request allowed).tone = c.tone := by
  rw [refuseRequest]
  split_ifs
  · rfl
  · rfl

@[simp] theorem refuseRequest_speaker (c : DeviceControl) (request : UInt32) (allowed : Bool) :
    (c.refuseRequest request allowed).speaker = c.speaker := by
  rw [refuseRequest]
  split_ifs
  · rfl
  · rfl

@[simp] theorem refuseRequest_produced (c : DeviceControl) (request : UInt32) (allowed : Bool) :
    (c.refuseRequest request allowed).produced =
      c.produced ++ if !allowed && request ≠ 0 then [toneFailed request] else [] := by
  rw [refuseRequest]
  split_ifs
  · rfl
  · rw [List.append_nil]

end Fields

end DeviceControl

section Tokens

theorem toNat_toneToken (request : UInt32) (enabled : Bool) :
    (toneToken request enabled).toNat = 2 * request.toNat + enabled.toNat := by
  have hlt : request.toNat < 2 ^ 32 := request.toNat_lt
  have hor : 2 ^ 1 * request.toNat + enabled.toNat = 2 ^ 1 * request.toNat ||| enabled.toNat :=
    Nat.two_pow_add_eq_or_of_lt (Bool.toNat_lt enabled) _
  have hshift : (request.toUInt64 <<< 1).toNat = 2 ^ 1 * request.toNat := by
    simp only [UInt64.toNat_shiftLeft, UInt32.toNat_toUInt64, Nat.shiftLeft_eq]
    rw [show (1 : UInt64).toNat % 64 = 1 from rfl]
    omega
  have hbit : enabled.toUInt64.toNat = enabled.toNat := by
    cases enabled with
    | false => rfl
    | true => rfl
  rw [toneToken, UInt64.toNat_or, hshift, hbit, ← hor, pow_one]

theorem toneToken_injective {request request' : UInt32} {enabled enabled' : Bool}
    (h : toneToken request enabled = toneToken request' enabled') :
    request = request' ∧ enabled = enabled' := by
  have hvalue := congrArg UInt64.toNat h
  rw [toNat_toneToken, toNat_toneToken] at hvalue
  have hbit := Bool.toNat_lt enabled
  have hbit' := Bool.toNat_lt enabled'
  refine ⟨UInt32.toNat_inj.mp (by omega), ?_⟩
  have hbits : enabled.toNat = enabled'.toNat := by omega
  cases enabled with
  | false =>
      cases enabled' with
      | false => rfl
      | true => cases hbits
  | true =>
      cases enabled' with
      | false => cases hbits
      | true => rfl

theorem tokenRequest_toneToken (request : UInt32) (enabled : Bool) :
    tokenRequest (toneToken request enabled) = request := by
  have hlt : request.toNat < 2 ^ 32 := request.toNat_lt
  have hbit := Bool.toNat_lt enabled
  apply UInt32.toNat_inj.mp
  simp only [tokenRequest, UInt64.toNat_toUInt32, UInt64.toNat_shiftRight, toNat_toneToken,
    Nat.shiftRight_eq_div_pow]
  rw [show (1 : UInt64).toNat % 64 = 1 from rfl]
  omega

theorem toneToken_half (request : UInt32) (enabled : Bool) :
    toneToken request enabled >>> 1 = 0 ↔ request = 0 := by
  have hbit := Bool.toNat_lt enabled
  rw [← UInt64.toNat_inj, ← UInt32.toNat_inj]
  simp only [UInt64.toNat_shiftRight, toNat_toneToken, Nat.shiftRight_eq_div_pow]
  rw [show (1 : UInt64).toNat % 64 = 1 from rfl, show (0 : UInt64).toNat = 0 from rfl,
    show (0 : UInt32).toNat = 0 from rfl]
  omega

theorem toNat_clear (token : UInt64) : (token &&& ~~~1).toNat = 2 * (token.toNat / 2) := by
  have hlt := token.toNat_lt
  have hmask : (~~~1 : UInt64).toNat = 2 ^ 64 - 2 := rfl
  have hhalf : (token.toNat &&& (2 ^ 64 - 2)) / 2 = token.toNat / 2 := by
    rw [Nat.and_div_two, show (2 ^ 64 - 2) / 2 = 2 ^ 63 - 1 from rfl,
      Nat.and_two_pow_sub_one_eq_mod]
    omega
  have heven : (token.toNat &&& (2 ^ 64 - 2)) % 2 = 0 := by
    have hmod := @Nat.and_mod_two_pow token.toNat (2 ^ 64 - 2) 1
    rw [pow_one, show (2 ^ 64 - 2) % 2 = 0 from rfl, Nat.and_zero] at hmod
    exact hmod
  rw [UInt64.toNat_and, hmask]
  omega

/-- Clearing the enable bit. -/
theorem toneToken_clear (request : UInt32) (enabled : Bool) :
    toneToken request enabled &&& ~~~1 = toneToken request false := by
  apply UInt64.toNat_inj.mp
  have hbit := Bool.toNat_lt enabled
  rw [toNat_clear, toNat_toneToken, toNat_toneToken, Bool.toNat_false]
  omega

/-- Testing the enable bit. -/
theorem toneToken_enabled (request : UInt32) (enabled : Bool) :
    toneToken request enabled &&& 1 ≠ 0 ↔ enabled = true := by
  have hvalue : (toneToken request enabled &&& 1).toNat = enabled.toNat := by
    rw [UInt64.toNat_and, toNat_toneToken, UInt64.toNat_one, Nat.and_one_is_mod]
    have hbit := Bool.toNat_lt enabled
    omega
  rw [ne_eq, ← UInt64.toNat_inj, hvalue]
  cases enabled with
  | false => decide
  | true => decide

end Tokens

end Soundwave

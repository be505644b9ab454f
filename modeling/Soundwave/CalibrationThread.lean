import Soundwave.ReceiverRegistry
import Soundwave.Throwing
import Soundwave.TransitionRuns

/-!
# The calibration thread and the registry

What a calibration does with the registry, the clock and the microphone: the requests and
the waiting loops of `windows-server/src/application/calibration.rs`.

Between any two steps of the thread the other threads may call the registry, queues may
refuse a message, and the token may be cancelled.  All that is a script of turns, of which
every step uses up one; after the script nothing happens any more.  A turn also says how
many rounds a waiting loop makes before its deadline, and what the microphone hears.

`log` records what happened in order: what the thread tried to send, the ids that others
drew, what arrived from the phones, and which replies the thread took.
-/

namespace Soundwave

section Loudness

/-- `Measurement`. -/
structure Measurement where
  levelDbfs : Float
  spreadDb : Float
  toneWindows : Nat
  windows : Nat
  raw : Bool

/-- A quotient rounded to the nearest number, and to the even one on a tie. -/
def roundedQuotient (n d : Nat) : Nat :=
  if d < 2 * (n % d) ∨ (d = 2 * (n % d) ∧ n / d % 2 = 1) then n / d + 1 else n / d

/-- The format `{:.1}` of an `f64`, read off its bits. -/
def oneDecimal (x : Float) : String :=
  let bits := x.toBits.toNat
  let sign := if 2 ^ 63 ≤ bits then "-" else ""
  let exponent := bits / 2 ^ 52 % 2 ^ 11
  let fraction := bits % 2 ^ 52
  if exponent = 2047 then
    if fraction = 0 then sign ++ "inf" else "NaN"
  else
    let mantissa := if exponent = 0 then fraction else fraction + 2 ^ 52
    let tenths := roundedQuotient (10 * mantissa * 2 ^ (exponent - 1)) (2 ^ 1074)
    s!"{sign}{tenths / 10}.{tenths % 10}"

namespace Measurement

/-- `Measurement::tone_detected`. -/
def toneDetected (m : Measurement) : Bool :=
  m.windows ≠ 0 && m.windows * 3 ≤ m.toneWindows * 4

/-- `Measurement::diagnostics`. -/
def diagnostics (m : Measurement) (background : Float) : String :=
  let input := oneDecimal m.levelDbfs
  let noise := oneDecimal background
  let kind := if m.raw then "原始" else "已处理"
  s!"输入 {input} dBFS，环境 {noise} dBFS，测试窗口 {m.toneWindows}/{m.windows}，{kind}输入"

end Measurement

/-- `signal_level`. -/
def signalLevel (measured background : Float) : Except String Float :=
  if measured - background < 10.0 then
    .error "信号与环境噪声过于接近"
  else
    .ok (10.0 * Float.log10 (Float.pow 10.0 (measured / 10.0) - Float.pow 10.0 (background / 10.0)))

/-- `closest_step`. -/
def closestStep (previous current : Nat × Float) (target : Float) : Nat × Float :=
  if (previous.2 - target).abs ≤ (current.2 - target).abs then previous else current

end Loudness

/-- What happens at a step of the calibration thread. -/
structure Turn where
  events : List RegistryEvent
  cancelled : Bool
  refusal : Nat → Option String
  rounds : Nat
  opened : Except String Unit
  heard : Except String Measurement

/-- A turn after the script. -/
def Turn.idle : Turn where
  events := []
  cancelled := false
  refusal := fun _ => none
  rounds := 0
  opened := .ok ()
  heard := .error "未收到麦克风采样数据"

/-- An entry of the log. -/
inductive CalibrationEntry where
  | attempt (id : Nat) (message : ControlMessage) (queued : Bool)
  | drawn (request : Nat)
  | arrived (id : Nat) (status : DeviceStatus)
  | toneArrived (id request : Nat) (playing failed : Bool)
  | answered (id request : Nat) (status : DeviceStatus)
  | toneAnswered (id request : Nat) (playing failed : Bool)
deriving DecidableEq

/-- What the log says of a call by another thread. -/
def RegistryEvent.entries (r : Registry) : RegistryEvent → List CalibrationEntry
  | .updateDevice id status => [.arrived id status]
  | .updateTone id request playing failed => [.toneArrived id request playing failed]
  | .query _ _ => [.drawn r.requestId]
  | .requestVolume _ _ _ _ => [.drawn r.requestId]
  | .requestCalibration _ _ _ => [.drawn r.requestId]
  | .requestTone _ _ _ => [.drawn r.requestId]
  | _ => []

/-- The calibration thread: the registry it shares with the others, whether its token was
cancelled, the list `begun` of `run`, and the text of the controller. -/
structure Calibrator where
  registry : Registry
  cancelled : Bool
  script : List Turn
  begun : List (Nat × DeviceStatus)
  message : String
  log : List CalibrationEntry

/-- A part of the calibration that returns a `Result`. -/
abbrev Calibrating (α : Type) : Type := Throwing String Calibrator α

/-- The token of the run, or a new one that nobody cancels. -/
inductive CancellationToken where
  | ofRun
  | fresh
deriving DecidableEq

namespace Calibrator

section Steps

variable {α : Type}

/-- A call by another thread. -/
def observe (s : Calibrator) (e : RegistryEvent) : Calibrator :=
  { s with registry := s.registry.react e, log := s.log ++ e.entries s.registry }

/-- The next turn of the script. -/
def turn : Calibrating Turn := fun s =>
  match s.script with
  | [] => (.ok .idle, s)
  | t :: rest =>
      (.ok t, { Soundwave.run observe s t.events with
        script := rest, cancelled := s.cancelled || t.cancelled })

/-- `bail!`. -/
def bail (text : String) : Calibrating α :=
  .throw text

/-- `ensure!`. -/
def ensure (condition : Bool) (text : String) : Calibrating Unit :=
  if condition then pure () else bail text

/-- The operator `?`. -/
def question : Except String α → Calibrating α
  | .ok a => pure a
  | .error text => bail text

/-- A result that is looked at later. -/
def result (x : Calibrating α) : Calibrating (Except String α) :=
  .lift x

/-- `CalibrationController::message`. -/
def say (text : String) : Calibrating Unit :=
  .modify (fun s => { s with message := text })

/-- `CancellationToken::is_cancelled`. -/
def isCancelled (token : CancellationToken) : Calibrating Bool := do
  let _ ← turn
  .gets (fun s => token = .ofRun && s.cancelled)

/-- `Microphone::open`. -/
def openMicrophone : Calibrating Unit := do
  let t ← turn
  question t.opened

/-- `Microphone::measure`. -/
def listen : Calibrating Measurement := do
  let t ← turn
  question t.heard

end Steps

section Registry

/-- A request to a receiver, with its entry in the log. -/
def logged (id : Nat) (message : Nat → ControlMessage)
    (request : Registry → Except String Nat × Registry) : Calibrating Nat := fun s =>
  match request s.registry with
  | (.ok n, r) =>
      (.ok n, { s with registry := r, log := s.log ++ [.attempt id (message n) true] })
  | (.error text, r) =>
      (.error text,
        { s with
            registry := r
            log := s.log ++ [.attempt id (message s.registry.requestId) false] })

/-- `request(id, None)`. -/
def queryRequest (id : Nat) : Calibrating Nat := do
  let t ← turn
  logged id (fun n => .queryDevice n) (fun r => r.queryRequest t.refusal id)

/-- `calibration_volume_request`. -/
def calibrationVolumeRequest (id index : Nat) : Calibrating Nat := do
  let t ← turn
  logged id (fun n => .setVolume n index .calibration)
    (fun r => r.volumeRequest t.refusal id index .calibration)

/-- `calibration_request`. -/
def calibrationRequest (id : Nat) (action : CalibrationAction) : Calibrating Nat := do
  let t ← turn
  logged id (fun n => .calibrationSession n action)
    (fun r => r.calibrationRequest t.refusal id action)

/-- `tone_request`. -/
def toneRequest (id : Nat) (enabled : Bool) : Calibrating Nat := do
  let t ← turn
  logged id (fun n => .calibrationTone n enabled) (fun r => r.toneRequest t.refusal id enabled)

/-- `broadcast`. -/
def broadcast (message : ControlMessage) : Calibrating Unit := do
  let t ← turn
  .modify (fun s =>
    { s with
        registry := s.registry.broadcast t.refusal message
        log := s.log ++ s.registry.receivers.entries.map (fun e =>
          .attempt e.1 message (t.refusal e.1).isNone) })

/-- `take_reply`, with its entry in the log. -/
def takeReply (id request : Nat) : Calibrating (Option DeviceStatus) := do
  let _ ← turn
  .lift (fun s =>
    let (reply, r) := s.registry.takeReply id request
    (reply,
      { s with
          registry := r
          log := s.log ++ reply.toList.map (fun status => .answered id request status) }))

/-- `take_tone_reply`, with its entry in the log. -/
def takeToneReply (id request : Nat) : Calibrating (Option (Bool × Bool)) := do
  let _ ← turn
  .lift (fun s =>
    let (reply, r) := s.registry.takeToneReply id request
    (reply,
      { s with
          registry := r
          log := s.log ++ reply.toList.map (fun tone =>
            .toneAnswered id request tone.1 tone.2) }))

/-- `snapshots`. -/
def snapshots : Calibrating (List ReceiverSnapshot) := do
  let _ ← turn
  .gets (fun s => s.registry.snapshots)

end Registry

section Waiting

variable {α : Type}

/-- A round of a waiting loop; `later` follows if there is no reply yet. -/
def round (token : CancellationToken) (poll : Calibrating (Option α)) (later : Calibrating α) :
    Calibrating α := do
  let cancelled ← isCancelled token
  ensure (!cancelled) "校准已取消"
  match ← poll with
  | some a => pure a
  | none => later

/-- The loop of `await_reply` and `switch_tone`, with the rounds before the deadline. -/
def rounds (id : Nat) (token : CancellationToken) (timeout : String)
    (poll : Calibrating (Option α)) : Nat → Calibrating α
  | 0 => round token poll (bail timeout)
  | n + 1 =>
      round token poll (do
        let receivers ← snapshots
        ensure (receivers.any (fun r => r.id = id)) "设备已断开连接"
        rounds id token timeout poll n)

/-- The look at the replies in `await_reply`. -/
def pollReply (id request : Nat) : Calibrating (Option DeviceStatus) := do
  match ← takeReply id request with
  | some status =>
      ensure (!status.failed) s!"{status.name} 拒绝了音量调整请求（系统策略或安全音量限制）"
      pure (some status)
  | none => pure none

/-- `await_reply`. -/
def awaitReply (id request : Nat) (token : CancellationToken) : Calibrating DeviceStatus := do
  let t ← turn
  rounds id token "等待设备确认超时" (pollReply id request) t.rounds

/-- The look at the tone replies in `switch_tone`. -/
def pollTone (id request : Nat) (enabled : Bool) : Calibrating (Option Nat) := do
  match ← takeToneReply id request with
  | some (playing, failed) =>
      let verb := if enabled then "开始" else "停止"
      ensure (!failed && playing = enabled) s!"手机无法{verb}测试播放"
      pure (some request)
  | none => pure none

/-- `switch_tone`. -/
def switchTone (id : Nat) (enabled : Bool) (token : CancellationToken) : Calibrating Nat := do
  let request ← toneRequest id enabled
  let t ← turn
  let verb := if enabled then "开始" else "停止"
  rounds id token s!"等待手机{verb}测试播放超时" (pollTone id request enabled) t.rounds

/-- `exchange`. -/
def exchange (id : Nat) (index : Option Nat) (token : CancellationToken) :
    Calibrating DeviceStatus := do
  let request ←
    match index with
    | some index => calibrationVolumeRequest id index
    | none => queryRequest id
  awaitReply id request token

/-- `exchange_session`. -/
def exchangeSession (id : Nat) (action : CalibrationAction) (token : CancellationToken) :
    Calibrating DeviceStatus := do
  let request ← calibrationRequest id action
  awaitReply id request token

end Waiting

end Calibrator

end Soundwave

import Soundwave.DeviceControl

/-!
# The acknowledgement of calibration tones

What the server may conclude from the `ToneState` reports of a phone.  Every method of
`DeviceControl` is one step here; between two steps, and between two looks at the clock
within a step, any time may pass.

The tone changes in five ways only: a request replaces it, a stop or the deadline ends
it, the worker confirms that it plays or that it is silent, and a reset clears it.  A
request that was stopped keeps its token without the enable bit and counts as answered,
so that nothing is reported for it again.
-/

namespace Soundwave

/-- The calls of the methods of `DeviceControl`, and the passage of time.  The further
arguments of a call are the time between its looks at the clock. -/
inductive DeviceCall where
  | requestTone (request : UInt32) (enabled : Bool)
  | setTone (enabled : Bool)
  | report (status : DeviceStatus)
  | playbackRequest
  | toneActive (delay : Nat)
  | readTone (length delay : Nat)
  | reportPlayback (token : UInt64) (playing : Bool) (delay delay' : Nat)
  | enqueueOperation (request : UInt32) (operation : UInt8) (value : UInt16)
  | takeCommand
  | takeReport
  | reset
  | wait (duration : Nat)
deriving DecidableEq

/-- A phone's `DeviceControl` with its clock. -/
structure TimedControl where
  control : DeviceControl
  now : Nat
deriving DecidableEq

namespace TimedControl

/-- The state before the first call. -/
def start : TimedControl where
  control := .default
  now := 0

/-- One call. -/
def step (s : TimedControl) : DeviceCall → TimedControl
  | .requestTone request enabled =>
      { s with control := s.control.requestTone s.now request enabled }
  | .setTone enabled => { s with control := s.control.setTone s.now enabled }
  | .report status => { s with control := s.control.report s.now status }
  | .playbackRequest => { s with control := (s.control.playbackRequest s.now).1 }
  | .toneActive delay =>
      { control := (s.control.toneActive s.now (s.now + delay)).1, now := s.now + delay }
  | .readTone length delay =>
      { control := (s.control.readTone s.now (s.now + delay) length).1, now := s.now + delay }
  | .reportPlayback token playing delay delay' =>
      { control := s.control.reportPlayback s.now (s.now + delay) (s.now + delay + delay')
          token playing
        now := s.now + delay + delay' }
  | .enqueueOperation request operation value =>
      { s with control := (s.control.enqueueOperation s.now request operation value).1 }
  | .takeCommand => { s with control := (s.control.takeCommandAt s.now).1 }
  | .takeReport => { s with control := s.control.takeReport.1 }
  | .reset => { s with control := s.control.reset }
  | .wait duration => { s with now := s.now + duration }

end TimedControl

/-- The state after a list of calls. -/
def afterCalls (calls : List DeviceCall) : TimedControl :=
  run TimedControl.step .start calls

/-- The answers to a request among reports, as `(playing, failed)`. -/
def toneAnswers (request : UInt32) (reports : List ControlMessage) : List (Bool × Bool) :=
  reports.filterMap (fun report =>
    match report with
    | .toneState id playing failed => if id = request.toNat then some (playing, failed) else none
    | _ => none)

/-- The non-zero request ids used by a list of calls. -/
def toneRequestIds (calls : List DeviceCall) : List UInt32 :=
  calls.filterMap (fun call =>
    match call with
    | .requestTone request _ => if request = 0 then none else some request
    | _ => none)

/-- The last status that was reported since the last reset. -/
def lastStatus (calls : List DeviceCall) : Option DeviceStatus :=
  calls.foldl
    (fun last call =>
      match call with
      | .report status => some status
      | .reset => none
      | _ => last)
    none

/-- The last status says that the tone may play. -/
def SpeakerAllows (calls : List DeviceCall) : Prop :=
  ∃ status, lastStatus calls = some status ∧ status.speaker = true ∧ status.failed = false

/-- The calls after which an earlier request is stopped, superseded or forgotten. -/
def EndsTone : DeviceCall → Prop
  | .requestTone _ _ => True
  | .setTone _ => True
  | .report status => status.speaker = false ∨ status.failed = true
  | .reset => True
  | _ => False

/-- The call after these calls reports that the tone of a request plays. -/
def ReportsPlaying (calls : List DeviceCall) (call : DeviceCall) (request : UInt32) : Prop :=
  ∃ reports,
    (afterCalls (calls ++ [call])).control.produced =
        (afterCalls calls).control.produced ++ reports ∧
      .toneState request.toNat true false ∈ reports

/-- The answers to an enabling request: that it plays and then that it has failed or
was stopped, or only the latter. -/
def EnablingAnswers (answers : List (Bool × Bool)) : Prop :=
  answers <+: [(true, false), (false, true)] ∨ answers = [(false, true)]

/-- The answers to a disabling request. -/
def DisablingAnswers (answers : List (Bool × Bool)) : Prop :=
  answers <+: [(false, false)]

/-- What holds of the answers of a phone after a list of calls. -/
structure ToneAcknowledged (calls : List DeviceCall) : Prop where
  enabling : ∀ request, request ≠ 0 → .requestTone request true ∈ calls →
    EnablingAnswers (toneAnswers request (afterCalls calls).control.produced)
  disabling : ∀ request, request ≠ 0 → .requestTone request false ∈ calls →
    DisablingAnswers (toneAnswers request (afterCalls calls).control.produced)
  playing : ∀ earlier call later, calls = earlier ++ call :: later →
    ∀ request, ReportsPlaying earlier call request →
      (afterCalls earlier).control.tone.token = toneToken request true ∧
        ∃ before between delay delay',
          earlier = before ++ .requestTone request true :: between ∧
          call = .reportPlayback (toneToken request true) true delay delay' ∧
          (∀ c ∈ between, ¬ EndsTone c) ∧
          SpeakerAllows before ∧
          (afterCalls earlier).now + delay < (afterCalls before).now + seconds 5
  silent : ∀ before between earlier call later request,
    calls = before ++ .requestTone request true :: between ++ earlier ++ call :: later →
    request ≠ 0 →
    ((∃ c ∈ between, EndsTone c) ∨
      (afterCalls before).now + seconds 5 ≤
        (afterCalls (before ++ .requestTone request true :: between)).now) →
    ¬ ReportsPlaying (before ++ .requestTone request true :: between ++ earlier) call request

section Changes

/-- The ways in which the tone changes other than by a request or a reset, with the
reports of the change. -/
inductive ToneChange : Tone → Tone → List ControlMessage → Prop
  | kept {t : Tone} : ToneChange t t []
  | ended {t t' : Tone} {reports : List ControlMessage} :
      t'.token = t.token &&& ~~~1 → t'.until' = none →
      t'.responded = (t.responded || t.until'.isSome) →
      (reports = if t.until'.isSome && tokenRequest t.token ≠ 0 then
        [DeviceControl.toneFailed (tokenRequest t.token)] else []) →
      ToneChange t t' reports
  | plays {t : Tone} {request : UInt32} {deadline deadline' : Nat} :
      request ≠ 0 → t.token = toneToken request true → t.until' = some deadline →
      t.responded = false →
      ToneChange t { t with until' := some deadline', responded := true }
        [.toneState request.toNat true false]
  | silent {t : Tone} {request : UInt32} :
      request ≠ 0 → t.token = toneToken request false → t.responded = false →
      ToneChange t { t with responded := true } [.toneState request.toNat false false]

/-- What holds of a tone at all times: a deadline is set only for an enabling request,
and an enabling request without a deadline is answered. -/
def ToneWell (t : Tone) : Prop :=
  ∃ request enabled, t.token = toneToken request enabled ∧
    (∀ deadline, t.until' = some deadline → enabled = true) ∧
    (enabled = true → t.until' = none → t.responded = true)

theorem toneWell_default : ToneWell .default :=
  ⟨0, false, by decide, fun _ h => (by cases h), fun h => (by cases h)⟩

theorem ToneChange.well {t t' : Tone} {reports : List ControlMessage}
    (h : ToneChange t t' reports) (hwell : ToneWell t) : ToneWell t' := by
  obtain ⟨request, enabled, htoken, hdeadline, hanswered⟩ := hwell
  cases h with
  | kept =>
      exact ⟨request, enabled, htoken, hdeadline, hanswered⟩
  | ended hcleared hnone _ _ =>
      refine ⟨request, false, ?_, ?_, fun h => (by cases h)⟩
      · rw [hcleared, htoken, toneToken_clear]
      · intro deadline hset
        rw [hnone] at hset
        cases hset
  | plays _ htoken' _ _ =>
      exact ⟨_, true, htoken', fun _ _ => rfl, fun _ h => (by cases h)⟩
  | silent _ htoken' _ =>
      obtain ⟨_, rfl⟩ := toneToken_injective (htoken.symm.trans htoken')
      exact ⟨request, false, htoken, hdeadline, fun h => (by cases h)⟩

/-- A method changes the tone and reports the change. -/
structure Changes (c c' : DeviceControl) : Prop where
  speaker : c'.speaker = c.speaker
  change : ∃ reports, c'.produced = c.produced ++ reports ∧ ToneChange c.tone c'.tone reports

theorem Changes.refl (c : DeviceControl) : Changes c c :=
  ⟨rfl, [], (List.append_nil _).symm, .kept⟩

theorem changes_setTone_false (c : DeviceControl) (now : Nat) :
    Changes c (c.setTone now false) := by
  refine ⟨?_, _, ?_, .ended ?_ ?_ ?_ rfl⟩
  · simp [DeviceControl.setTone, DeviceControl.stopSection]
  · simp only [DeviceControl.setTone, DeviceControl.stopSection, Bool.false_eq_true, if_false,
      DeviceControl.storePosition_produced, DeviceControl.pushFailed_produced]
    split_ifs
    · rfl
    · rfl
  · simp [DeviceControl.setTone, DeviceControl.stopSection]
  · simp [DeviceControl.setTone, DeviceControl.stopSection]
  · simp [DeviceControl.setTone, DeviceControl.stopSection]

theorem changes_expireTone (c : DeviceControl) (now : Nat) : Changes c (c.expireTone now) := by
  rw [DeviceControl.expireTone]
  split_ifs with hexpired
  · have hset : c.tone.until'.isSome = true := by
      cases hdeadline : c.tone.until' with
      | none =>
          rw [hdeadline] at hexpired
          cases hexpired
      | some deadline =>
          rfl
    refine ⟨?_, _, ?_, .ended ?_ ?_ ?_ rfl⟩
    · simp
    · rw [hset]
      simp only [DeviceControl.pushFailed_produced, Bool.true_and, decide_eq_true_eq]
      split_ifs
      · rfl
      · rfl
    · simp
    · simp
    · simp [hset]
  · exact .refl c

theorem changes_acknowledge {c : DeviceControl} (hwell : ToneWell c.tone) (now later : Nat)
    (token : UInt64) (hhalf : token >>> 1 ≠ 0) (playing : Bool) :
    (c.acknowledge now later token playing).1.speaker = c.speaker ∧
      (c.acknowledge now later token playing).1.produced = c.produced ∧
      ToneChange c.tone (c.acknowledge now later token playing).1.tone
        ((c.acknowledge now later token playing).2.toList.map (fun answer =>
          .toneState (tokenRequest token).toNat answer.1 answer.2)) := by
  obtain ⟨request, enabled, htoken, hdeadline, hanswered⟩ := hwell
  by_cases hother : token ≠ c.tone.token
  · rw [DeviceControl.acknowledge, if_pos hother]
    exact ⟨rfl, rfl, .kept⟩
  · have hsame : token = toneToken request enabled := (not_not.mp hother).trans htoken
    have hrequest : request ≠ 0 := by
      intro hzero
      rw [hsame] at hhalf
      exact hhalf ((toneToken_half request enabled).mpr hzero)
    have hid : tokenRequest token = request := by
      rw [hsame, tokenRequest_toneToken]
    have hbit : token &&& 1 ≠ 0 ↔ enabled = true := by
      rw [hsame]
      exact toneToken_enabled request enabled
    simp only [DeviceControl.acknowledge, hother, if_false]
    split_ifs with hplays hsilent hended
    · obtain ⟨henabled, _, hactive, hwaiting⟩ := hplays
      cases hset : c.tone.until' with
      | none =>
          rw [hset] at hactive
          cases hactive
      | some deadline =>
          rw [hbit.mp henabled] at htoken
          refine ⟨rfl, rfl, ?_⟩
          rw [hid]
          exact .plays hrequest htoken hset (by simpa using hwaiting)
    · obtain ⟨hdisabled, _, hwaiting⟩ := hsilent
      have henabled : enabled = false := by
        cases enabled with
        | false => rfl
        | true => exact absurd (hbit.mpr rfl) hdisabled
      rw [henabled] at htoken
      refine ⟨rfl, rfl, ?_⟩
      rw [hid]
      exact .silent hrequest htoken (by simpa using hwaiting)
    · obtain ⟨henabled, _, _, hopen⟩ := hended
      have hset : c.tone.until'.isSome = true := by
        cases hset : c.tone.until' with
        | none =>
            have hresponded := hanswered (hbit.mp henabled) hset
            rw [hset, hresponded] at hopen
            rcases hopen with hopen | hopen
            · cases hopen
            · cases hopen
        | some deadline =>
            rfl
      refine ⟨rfl, rfl, .ended rfl rfl ?_ ?_⟩
      · simp [hset]
      · have htokenid : tokenRequest c.tone.token = request := by
          rw [htoken, tokenRequest_toneToken]
        simp [hset, hid, htokenid, hrequest, DeviceControl.toneFailed]
    · exact ⟨rfl, rfl, .kept⟩

/-- `report_playback` after its call of `expire_tone`. -/
def DeviceControl.answerPlayback (c : DeviceControl) (second third : Nat) (token : UInt64)
    (playing : Bool) : DeviceControl :=
  if token >>> 1 = 0 then
    c
  else
    match c.acknowledge second third token playing with
    | (c, some (playing, failed)) =>
        c.pushReport (.toneState (tokenRequest token).toNat playing failed)
    | (c, none) => c

theorem reportPlayback_eq (c : DeviceControl) (first second third : Nat) (token : UInt64)
    (playing : Bool) :
    c.reportPlayback first second third token playing =
      (c.expireTone first).answerPlayback second third token playing := rfl

theorem answerPlayback_produced {c : DeviceControl} {second third : Nat} {token : UInt64}
    (hhalf : token >>> 1 ≠ 0) (playing : Bool) :
    (c.answerPlayback second third token playing).produced =
        (c.acknowledge second third token playing).1.produced ++
          (c.acknowledge second third token playing).2.toList.map (fun answer =>
            .toneState (tokenRequest token).toNat answer.1 answer.2) ∧
      (c.answerPlayback second third token playing).tone =
        (c.acknowledge second third token playing).1.tone ∧
      (c.answerPlayback second third token playing).speaker =
        (c.acknowledge second third token playing).1.speaker := by
  rw [DeviceControl.answerPlayback, if_neg hhalf]
  rcases c.acknowledge second third token playing with ⟨c', answer⟩
  cases answer with
  | none =>
      exact ⟨(List.append_nil _).symm, rfl, rfl⟩
  | some answer =>
      exact ⟨rfl, rfl, rfl⟩

theorem changes_answerPlayback {c : DeviceControl} (hwell : ToneWell c.tone)
    (second third : Nat) (token : UInt64) (playing : Bool) :
    Changes c (c.answerPlayback second third token playing) := by
  by_cases hhalf : token >>> 1 = 0
  · rw [DeviceControl.answerPlayback, if_pos hhalf]
    exact .refl c
  · obtain ⟨hspeaker, hproduced, hchange⟩ :=
      changes_acknowledge hwell second third token hhalf playing
    obtain ⟨hproduced', htone, hspeaker'⟩ :=
      @answerPlayback_produced c second third token hhalf playing
    rw [hproduced] at hproduced'
    rw [← htone] at hchange
    exact ⟨hspeaker'.trans hspeaker, _, hproduced', hchange⟩

end Changes

section Answers

theorem toneAnswers_append (request : UInt32) (reports reports' : List ControlMessage) :
    toneAnswers request (reports ++ reports') =
      toneAnswers request reports ++ toneAnswers request reports' :=
  List.filterMap_append

theorem toneAnswers_own (request : UInt32) (playing failed : Bool) :
    toneAnswers request [.toneState request.toNat playing failed] = [(playing, failed)] := by
  simp [toneAnswers]

theorem toneAnswers_other {request request' : UInt32} (h : request' ≠ request)
    (playing failed : Bool) :
    toneAnswers request [.toneState request'.toNat playing failed] = [] := by
  have hne : request'.toNat ≠ request.toNat := fun heq => h (UInt32.toNat_inj.mp heq)
  simp [toneAnswers, hne]

/-- What the answers to a request are, given the calls so far and the tone. -/
structure Standing (calls : List DeviceCall) (request : UInt32) (t : Tone)
    (answers : List (Bool × Bool)) : Prop where
  unasked : (∀ enabled, .requestTone request enabled ∉ calls) →
    answers = [] ∧ ∀ enabled, t.token ≠ toneToken request enabled
  enabling : .requestTone request true ∈ calls →
    EnablingAnswers answers ∧
      (t.token = toneToken request true → ∀ deadline, t.until' = some deadline →
        answers = if t.responded then [(true, false)] else []) ∧
      (t.token = toneToken request false → t.responded = true)
  disabling : .requestTone request false ∈ calls →
    DisablingAnswers answers ∧
      t.token ≠ toneToken request true ∧
      (t.token = toneToken request false → t.responded = false → answers = [])

/-- A change reports nothing for a request whose token the tone does not have. -/
theorem ToneChange.foreign {t t' : Tone} {reports : List ControlMessage}
    (h : ToneChange t t' reports) (hwell : ToneWell t) {request : UInt32}
    (hother : ∀ enabled, t.token ≠ toneToken request enabled) :
    toneAnswers request reports = [] ∧ ∀ enabled, t'.token ≠ toneToken request enabled := by
  obtain ⟨current, enabled, htoken, _, _⟩ := hwell
  have hne : current ≠ request := by
    intro heq
    rw [heq] at htoken
    exact hother enabled htoken
  cases h with
  | kept =>
      exact ⟨rfl, hother⟩
  | ended hcleared _ _ hreports =>
      refine ⟨?_, ?_⟩
      · rw [hreports, htoken, tokenRequest_toneToken]
        split_ifs
        · exact toneAnswers_other hne _ _
        · rfl
      · intro enabled' heq
        rw [hcleared, htoken, toneToken_clear] at heq
        exact hne (toneToken_injective heq).1
  | plays _ htoken' _ _ =>
      obtain ⟨rfl, _⟩ := toneToken_injective (htoken.symm.trans htoken')
      exact ⟨toneAnswers_other hne _ _, hother⟩
  | silent _ htoken' _ =>
      obtain ⟨rfl, _⟩ := toneToken_injective (htoken.symm.trans htoken')
      exact ⟨toneAnswers_other hne _ _, hother⟩

theorem standing_other {calls : List DeviceCall} {request : UInt32} {t t' : Tone}
    {answers : List (Bool × Bool)} (h : Standing calls request t answers)
    (hother : ∀ enabled, t'.token ≠ toneToken request enabled) :
    Standing calls request t' answers where
  unasked := fun hno => ⟨(h.unasked hno).1, hother⟩
  enabling := fun hasked => ⟨(h.enabling hasked).1, fun heq => absurd heq (hother _),
    fun heq => absurd heq (hother _)⟩
  disabling := fun hasked => ⟨(h.disabling hasked).1, hother _, fun heq => absurd heq (hother _)⟩

/-- While the tone of an enabling request may play. -/
theorem Standing.change_enabled {calls : List DeviceCall} {request : UInt32} {t t' : Tone}
    {answers : List (Bool × Bool)} {reports : List ControlMessage}
    (h : Standing calls request t answers) (hrequest : request ≠ 0) (hwell : ToneWell t)
    (htoken : t.token = toneToken request true) (hchange : ToneChange t t' reports) :
    Standing calls request t' (answers ++ toneAnswers request reports) := by
  obtain ⟨current, enabled, htoken', _, hanswered⟩ := hwell
  obtain ⟨rfl, rfl⟩ := toneToken_injective (htoken'.symm.trans htoken)
  refine ⟨fun hno => absurd htoken ((h.unasked hno).2 true), ?_,
    fun hasked => absurd htoken (h.disabling hasked).2.1⟩
  intro hasked
  obtain ⟨hshape, hlive, _⟩ := h.enabling hasked
  cases hchange with
  | kept =>
      simpa [toneAnswers] using h.enabling hasked
  | ended hcleared hnone hresponded hreports =>
      have hcleared' : t'.token = toneToken current false := by
        rw [hcleared, htoken, toneToken_clear]
      have hleft : t'.token ≠ toneToken current true := by
        intro heq
        cases (toneToken_injective (hcleared'.symm.trans heq)).2
      rw [htoken, tokenRequest_toneToken] at hreports
      cases hset : t.until' with
      | none =>
          rw [hset] at hreports hresponded
          have hnothing : toneAnswers current reports = [] := by
            rw [hreports]
            rfl
          rw [hnothing, List.append_nil]
          refine ⟨hshape, fun heq => absurd heq hleft, fun _ => ?_⟩
          rw [hresponded, hanswered rfl hset]
          rfl
      | some deadline =>
          have hanswers := hlive htoken deadline hset
          have hfailed : toneAnswers current reports = [(false, true)] := by
            rw [hreports, hset]
            simp only [Option.isSome_some, Bool.true_and, decide_eq_true_eq, if_pos hrequest]
            exact toneAnswers_own current false true
          rw [hfailed, hanswers]
          refine ⟨?_, fun heq => absurd heq hleft, fun _ => ?_⟩
          · split_ifs
            · exact Or.inl (List.prefix_refl _)
            · exact Or.inr rfl
          · rw [hresponded, hset]
            exact Bool.or_true _
  | plays _ htoken'' hset hwaiting =>
      obtain ⟨rfl, _⟩ := toneToken_injective (htoken.symm.trans htoken'')
      have hanswers := hlive htoken _ hset
      rw [hwaiting] at hanswers
      rw [hanswers, toneAnswers_own]
      refine ⟨Or.inl ⟨[(false, true)], rfl⟩, fun _ _ _ => rfl, fun heq => ?_⟩
      cases (toneToken_injective (htoken.symm.trans heq)).2
  | silent _ htoken'' _ =>
      cases (toneToken_injective (htoken.symm.trans htoken'')).2

/-- While the tone of a request has been disabled. -/
theorem Standing.change_disabled {calls : List DeviceCall} {request : UInt32} {t t' : Tone}
    {answers : List (Bool × Bool)} {reports : List ControlMessage}
    (h : Standing calls request t answers) (hwell : ToneWell t)
    (htoken : t.token = toneToken request false) (hchange : ToneChange t t' reports) :
    Standing calls request t' (answers ++ toneAnswers request reports) := by
  obtain ⟨current, enabled, htoken', hdeadline, _⟩ := hwell
  obtain ⟨rfl, rfl⟩ := toneToken_injective (htoken'.symm.trans htoken)
  cases hchange with
  | kept =>
      simpa [toneAnswers] using h
  | ended hcleared hnone hresponded hreports =>
      have hset : t.until' = none := by
        cases hset : t.until' with
        | none => rfl
        | some deadline => cases hdeadline deadline hset
      have htoken'' : t'.token = t.token := by
        rw [hcleared, htoken, toneToken_clear]
      have hnothing : toneAnswers current reports = [] := by
        rw [hreports, hset]
        rfl
      have hresponded' : t'.responded = t.responded := by
        rw [hresponded, hset]
        exact Bool.or_false _
      rw [hnothing, List.append_nil]
      refine ⟨?_, ?_, ?_⟩
      · rw [htoken'']
        exact h.unasked
      · rw [htoken'', hresponded', hnone, ← hset]
        exact h.enabling
      · rw [htoken'', hresponded']
        exact h.disabling
  | plays _ htoken'' _ _ =>
      cases (toneToken_injective (htoken.symm.trans htoken'')).2
  | silent _ htoken'' hwaiting =>
      obtain ⟨rfl, _⟩ := toneToken_injective (htoken.symm.trans htoken'')
      refine ⟨fun hno => absurd htoken ((h.unasked hno).2 false), ?_, ?_⟩
      · intro hasked
        have hresponded := (h.enabling hasked).2.2 htoken
        rw [hwaiting] at hresponded
        cases hresponded
      · intro hasked
        obtain ⟨_, hdisabled, hsilent⟩ := h.disabling hasked
        rw [hsilent htoken hwaiting, toneAnswers_own]
        exact ⟨List.prefix_refl _, hdisabled, fun _ hfalse => (by cases hfalse)⟩

theorem Standing.change {calls : List DeviceCall} {request : UInt32} {t t' : Tone}
    {answers : List (Bool × Bool)} {reports : List ControlMessage}
    (h : Standing calls request t answers) (hrequest : request ≠ 0) (hwell : ToneWell t)
    (hchange : ToneChange t t' reports) :
    Standing calls request t' (answers ++ toneAnswers request reports) := by
  by_cases hother : ∀ enabled, t.token ≠ toneToken request enabled
  · obtain ⟨hnothing, hother'⟩ := hchange.foreign hwell hother
    rw [hnothing, List.append_nil]
    exact standing_other h hother'
  · obtain ⟨enabled, htoken⟩ := not_forall.mp hother
    cases enabled with
    | true => exact h.change_enabled hrequest hwell (not_not.mp htoken) hchange
    | false => exact h.change_disabled hwell (not_not.mp htoken) hchange

end Answers

section Invariant

/-- The invariant of a `DeviceControl` after a list of calls. -/
structure ToneInv (calls : List DeviceCall) (c : DeviceControl) : Prop where
  well : ToneWell c.tone
  speaker : c.speaker = true → SpeakerAllows calls
  standing : ∀ request, request ≠ 0 →
    Standing calls request c.tone (toneAnswers request c.produced)
  live : ∀ request deadline, request ≠ 0 → c.tone.token = toneToken request true →
    c.tone.until' = some deadline →
    ∃ before between, calls = before ++ .requestTone request true :: between ∧
      (∀ call ∈ between, ¬ EndsTone call) ∧
      SpeakerAllows before ∧
      (c.tone.responded = false → deadline = (afterCalls before).now + seconds 5)

theorem toneInv_start : ToneInv [] .default where
  well := toneWell_default
  speaker := fun h => by cases h
  standing := by
    intro request hrequest
    refine ⟨fun _ => ⟨rfl, ?_⟩, fun h => (by cases h), fun h => (by cases h)⟩
    intro enabled heq
    have hzero : toneToken 0 false = toneToken request enabled := heq
    exact hrequest (toneToken_injective hzero).1.symm
  live := fun _ _ _ _ h => by cases h

theorem ToneInv.change {calls : List DeviceCall} {c c' : DeviceControl} (h : ToneInv calls c)
    (hchanges : Changes c c') : ToneInv calls c' := by
  obtain ⟨hspeaker, reports, hproduced, hchange⟩ := hchanges
  refine ⟨hchange.well h.well, ?_, ?_, ?_⟩
  · rw [hspeaker]
    exact h.speaker
  · intro request hrequest
    rw [hproduced, toneAnswers_append]
    exact (h.standing request hrequest).change hrequest h.well hchange
  · intro request deadline hrequest htoken hset
    generalize c'.tone = t' at hchange htoken hset
    cases hchange with
    | kept =>
        exact h.live request deadline hrequest htoken hset
    | ended _ hnone _ _ =>
        rw [hnone] at hset
        cases hset
    | plays _ _ hset' _ =>
        obtain ⟨before, between, hcalls, hbetween, hallowed, _⟩ :=
          h.live request _ hrequest htoken hset'
        exact ⟨before, between, hcalls, hbetween, hallowed, fun hfalse => (by cases hfalse)⟩
    | silent _ htoken' _ =>
        cases (toneToken_injective (htoken'.symm.trans htoken)).2

theorem Standing.append {calls : List DeviceCall} {call : DeviceCall} {request : UInt32} {t : Tone}
    {answers : List (Bool × Bool)} (h : Standing calls request t answers)
    (hcall : ∀ enabled, call ≠ .requestTone request enabled) :
    Standing (calls ++ [call]) request t answers := by
  have hmem : ∀ enabled, DeviceCall.requestTone request enabled ∈ calls ++ [call] ↔
      .requestTone request enabled ∈ calls := by
    intro enabled
    rw [List.mem_append, List.mem_singleton]
    exact or_iff_left (fun heq => hcall enabled heq.symm)
  refine ⟨?_, ?_, ?_⟩
  · intro hno
    exact h.unasked (fun enabled hin => hno enabled ((hmem enabled).mpr hin))
  · intro hasked
    exact h.enabling ((hmem true).mp hasked)
  · intro hasked
    exact h.disabling ((hmem false).mp hasked)

theorem lastStatus_append (calls : List DeviceCall) (call : DeviceCall) :
    lastStatus (calls ++ [call]) =
      match call with
      | .report status => some status
      | .reset => none
      | _ => lastStatus calls := by
  rw [lastStatus, List.foldl_append]
  rfl

/-- A call that ends no tone. -/
theorem ToneInv.neutral {calls : List DeviceCall} {call : DeviceCall} {c c' : DeviceControl}
    (h : ToneInv calls c) (hcall : ¬ EndsTone call) (htone : c'.tone = c.tone)
    (hanswers : ∀ request, toneAnswers request c'.produced = toneAnswers request c.produced)
    (hspeaker : c'.speaker = true → SpeakerAllows (calls ++ [call])) :
    ToneInv (calls ++ [call]) c' := by
  refine ⟨?_, hspeaker, ?_, ?_⟩
  · rw [htone]
    exact h.well
  · intro request hrequest
    rw [htone, hanswers]
    refine (h.standing request hrequest).append ?_
    rintro enabled rfl
    exact hcall trivial
  · intro request deadline hrequest htoken hset
    rw [htone] at htoken hset ⊢
    obtain ⟨before, between, hcalls, hbetween, hallowed, hdeadline⟩ :=
      h.live request deadline hrequest htoken hset
    refine ⟨before, between ++ [call], ?_, ?_, hallowed, hdeadline⟩
    · rw [hcalls, List.append_assoc, List.cons_append]
    · intro c hc
      rcases List.mem_append.mp hc with hc | hc
      · exact hbetween c hc
      · rw [List.mem_singleton.mp hc]
        exact hcall

/-- A call that leaves no tone. -/
theorem toneInv_over {calls : List DeviceCall} {call : DeviceCall} {c' : DeviceControl}
    (hcall : ∀ request enabled, call ≠ .requestTone request enabled) (hwell : ToneWell c'.tone)
    (hnone : c'.tone.until' = none)
    (hstanding : ∀ request, request ≠ 0 →
      Standing calls request c'.tone (toneAnswers request c'.produced))
    (hspeaker : c'.speaker = true → SpeakerAllows (calls ++ [call])) :
    ToneInv (calls ++ [call]) c' := by
  refine ⟨hwell, hspeaker, ?_, ?_⟩
  · intro request hrequest
    exact (hstanding request hrequest).append (hcall request)
  · intro request deadline _ _ hset
    rw [hnone] at hset
    cases hset

theorem requestTone_tone (c : DeviceControl) (now : Nat) (request : UInt32) (enabled : Bool) :
    (c.requestTone now request enabled).tone =
      { token := toneToken request enabled
        until' := if enabled && c.toneAllowed enabled then some (now + seconds 5) else none
        responded := request = 0 || !c.toneAllowed enabled } := by
  simp [DeviceControl.requestTone, DeviceControl.setRequest]

theorem requestTone_produced (c : DeviceControl) (now : Nat) (request : UInt32) (enabled : Bool) :
    (c.requestTone now request enabled).produced =
      c.produced ++ if !c.toneAllowed enabled && request ≠ 0 then
        [DeviceControl.toneFailed request] else [] := by
  simp [DeviceControl.requestTone, DeviceControl.setRequest]

theorem requestTone_speaker (c : DeviceControl) (now : Nat) (request : UInt32) (enabled : Bool) :
    (c.requestTone now request enabled).speaker = c.speaker := by
  simp [DeviceControl.requestTone, DeviceControl.setRequest]

theorem toneWell_requestTone (c : DeviceControl) (now : Nat) (request : UInt32) (enabled : Bool) :
    ToneWell (c.requestTone now request enabled).tone := by
  rw [requestTone_tone]
  refine ⟨request, enabled, rfl, ?_, ?_⟩
  · intro deadline hset
    cases enabled with
    | false => cases hset
    | true => rfl
  · rintro rfl hnone
    cases hallowed : c.toneAllowed true with
    | false => simp
    | true =>
        rw [hallowed] at hnone
        cases hnone

/-- A new request supersedes the one before. -/
theorem standing_requestTone_other {calls : List DeviceCall} {c : DeviceControl} {now : Nat}
    {request request' : UInt32} {enabled : Bool} (hne : request' ≠ request)
    (h : Standing calls request c.tone (toneAnswers request c.produced)) :
    Standing calls request (c.requestTone now request' enabled).tone
      (toneAnswers request (c.requestTone now request' enabled).produced) := by
  have hother : ∀ enabled', (c.requestTone now request' enabled).tone.token ≠
      toneToken request enabled' := by
    intro enabled' heq
    rw [requestTone_tone] at heq
    exact hne (toneToken_injective heq).1
  have hnothing : toneAnswers request (c.requestTone now request' enabled).produced =
      toneAnswers request c.produced := by
    rw [requestTone_produced, toneAnswers_append]
    split_ifs
    · rw [DeviceControl.toneFailed, toneAnswers_other hne, List.append_nil]
    · exact List.append_nil _
  rw [hnothing]
  exact standing_other h hother

/-- The first answers to a new request. -/
theorem standing_requestTone_own {calls : List DeviceCall} {c : DeviceControl} {now : Nat}
    {request : UInt32} {enabled : Bool} (hrequest : request ≠ 0)
    (hfresh : ∀ enabled', .requestTone request enabled' ∉ calls)
    (h : Standing calls request c.tone (toneAnswers request c.produced)) :
    Standing (calls ++ [.requestTone request enabled]) request
      (c.requestTone now request enabled).tone
      (toneAnswers request (c.requestTone now request enabled).produced) := by
  have hmem : ∀ enabled', DeviceCall.requestTone request enabled' ∈
      calls ++ [.requestTone request enabled] → enabled' = enabled := by
    intro enabled' hin
    rcases List.mem_append.mp hin with hin | hin
    · exact absurd hin (hfresh enabled')
    · cases List.mem_singleton.mp hin
      rfl
  rw [requestTone_produced, toneAnswers_append, (h.unasked hfresh).1, List.nil_append,
    requestTone_tone]
  refine ⟨?_, ?_, ?_⟩
  · intro hno
    exact absurd (List.mem_append_right _ List.mem_cons_self) (hno enabled)
  · intro hasked
    obtain rfl := hmem true hasked
    have hkeeps : toneToken request true ≠ toneToken request false := by
      intro heq
      cases (toneToken_injective heq).2
    cases hallowed : c.toneAllowed true with
    | true =>
        refine ⟨Or.inl (List.nil_prefix), ?_, fun heq => absurd heq hkeeps⟩
        simp [hrequest, toneAnswers]
    | false =>
        simp only [Bool.not_false, Bool.true_and, decide_eq_true_eq, if_pos hrequest]
        rw [DeviceControl.toneFailed, toneAnswers_own]
        refine ⟨Or.inr rfl, ?_, fun heq => absurd heq hkeeps⟩
        simp
  · intro hasked
    obtain rfl := hmem false hasked
    refine ⟨?_, ?_, fun _ _ => ?_⟩
    · simp [DeviceControl.toneAllowed, toneAnswers, DisablingAnswers]
    · intro heq
      cases (toneToken_injective heq).2
    · simp [DeviceControl.toneAllowed, toneAnswers]

theorem not_mem_of_fresh {calls : List DeviceCall} {request : UInt32} {enabled : Bool}
    (hrequest : request ≠ 0)
    (hfresh : (toneRequestIds (calls ++ [.requestTone request enabled])).Nodup) :
    ∀ enabled', .requestTone request enabled' ∉ calls := by
  intro enabled' hin
  rw [toneRequestIds, List.filterMap_append, List.nodup_append] at hfresh
  have hold : request ∈ toneRequestIds calls :=
    List.mem_filterMap.mpr ⟨_, hin, if_neg hrequest⟩
  exact hfresh.2.2 request hold request (by simp [hrequest]) rfl

theorem ToneInv.requestTone {calls : List DeviceCall} {c : DeviceControl} (h : ToneInv calls c)
    (request : UInt32) (enabled : Bool)
    (hfresh : (toneRequestIds (calls ++ [.requestTone request enabled])).Nodup) :
    ToneInv (calls ++ [.requestTone request enabled])
      (c.requestTone (afterCalls calls).now request enabled) := by
  refine ⟨toneWell_requestTone _ _ _ _, ?_, ?_, ?_⟩
  · intro hspeaker
    rw [requestTone_speaker] at hspeaker
    rw [SpeakerAllows, lastStatus_append]
    exact h.speaker hspeaker
  · intro request' hrequest'
    by_cases hsame : request = request'
    · subst hsame
      exact standing_requestTone_own hrequest' (not_mem_of_fresh hrequest' hfresh)
        (h.standing request hrequest')
    · refine (standing_requestTone_other hsame (h.standing request' hrequest')).append ?_
      rintro enabled' heq
      cases heq
      exact hsame rfl
  · intro request' deadline hrequest' htoken hset
    rw [requestTone_tone] at htoken hset ⊢
    obtain ⟨rfl, rfl⟩ := toneToken_injective htoken
    cases hspeaker : c.speaker with
    | false =>
        rw [DeviceControl.toneAllowed, hspeaker] at hset
        cases hset
    | true =>
        refine ⟨calls, [], rfl, fun _ hc => (by cases hc), h.speaker hspeaker, fun _ => ?_⟩
        rw [DeviceControl.toneAllowed, hspeaker] at hset
        exact (Option.some.inj hset).symm

/-- `set_tone(true)` is a request that nobody waits for. -/
theorem ToneInv.setTone_true {calls : List DeviceCall} {c : DeviceControl} (h : ToneInv calls c)
    (now : Nat) : ToneInv (calls ++ [.setTone true]) (c.setTone now true) := by
  rw [DeviceControl.setTone, if_pos rfl]
  refine ⟨toneWell_requestTone _ _ _ _, ?_, ?_, ?_⟩
  · intro hspeaker
    rw [requestTone_speaker] at hspeaker
    rw [SpeakerAllows, lastStatus_append]
    exact h.speaker hspeaker
  · intro request hrequest
    exact (standing_requestTone_other hrequest.symm (h.standing request hrequest)).append
      (fun _ heq => (by cases heq))
  · intro request deadline hrequest htoken
    rw [requestTone_tone] at htoken
    exact absurd (toneToken_injective htoken).1.symm hrequest

theorem setTone_false_until (c : DeviceControl) (now : Nat) :
    (c.setTone now false).tone.until' = none := by
  simp [DeviceControl.setTone, DeviceControl.stopSection]

theorem ToneInv.setTone_false {calls : List DeviceCall} {c : DeviceControl} (h : ToneInv calls c)
    (now : Nat) : ToneInv (calls ++ [.setTone false]) (c.setTone now false) := by
  have hchanged := h.change (changes_setTone_false c now)
  refine toneInv_over (fun _ _ heq => (by cases heq)) hchanged.well (setTone_false_until c now)
    hchanged.standing ?_
  rw [SpeakerAllows, lastStatus_append]
  exact hchanged.speaker

theorem toneAnswers_pushStatus (c : DeviceControl) (status : DeviceStatus) (request : UInt32) :
    toneAnswers request (c.pushReport (.deviceStatus status)).produced =
      toneAnswers request c.produced := by
  rw [DeviceControl.pushReport_produced, toneAnswers_append]
  exact List.append_nil _

theorem ToneInv.report {calls : List DeviceCall} {c : DeviceControl} (h : ToneInv calls c)
    (now : Nat) (status : DeviceStatus) :
    ToneInv (calls ++ [.report status]) (c.report now status) := by
  have hallows : (status.speaker && !status.failed) = true →
      SpeakerAllows (calls ++ [.report status]) := by
    intro hgood
    rw [Bool.and_eq_true, Bool.not_eq_true'] at hgood
    exact ⟨status, lastStatus_append calls _, hgood⟩
  cases hbad : !status.speaker || status.failed with
  | true =>
      have hchanged : ∀ request, request ≠ 0 → Standing calls request
          ((c.storeSpeaker status).setTone now false).tone
          (toneAnswers request ((c.storeSpeaker status).setTone now false).produced) := by
        intro request hrequest
        obtain ⟨_, reports, hproduced, hchange⟩ :=
          changes_setTone_false (c.storeSpeaker status) now
        rw [hproduced, toneAnswers_append]
        exact (h.standing request hrequest).change hrequest h.well hchange
      have hwell : ToneWell ((c.storeSpeaker status).setTone now false).tone := by
        obtain ⟨_, reports, _, hchange⟩ := changes_setTone_false (c.storeSpeaker status) now
        exact hchange.well h.well
      rw [DeviceControl.report]
      simp only [hbad, if_true]
      refine toneInv_over (fun _ _ heq => (by cases heq)) hwell
        (setTone_false_until (c.storeSpeaker status) now) ?_ ?_
      · intro request hrequest
        rw [toneAnswers_pushStatus]
        exact hchanged request hrequest
      · intro hspeaker
        rw [DeviceControl.pushReport_speaker, (changes_setTone_false _ now).speaker] at hspeaker
        exact hallows hspeaker
  | false =>
      rw [DeviceControl.report]
      simp only [hbad, Bool.false_eq_true, if_false]
      refine h.neutral ?_ rfl ?_ hallows
      · intro hends
        rw [Bool.or_eq_false_iff] at hbad
        rcases hends with hends | hends
        · rw [hends] at hbad
          cases hbad.1
        · rw [hends] at hbad
          cases hbad.2
      · intro request
        exact toneAnswers_pushStatus (c.storeSpeaker status) status request

theorem ToneInv.reset {calls : List DeviceCall} {c : DeviceControl} (h : ToneInv calls c) :
    ToneInv (calls ++ [.reset]) c.reset := by
  refine toneInv_over (fun _ _ heq => (by cases heq)) toneWell_default rfl ?_
    (fun hspeaker => (by cases hspeaker))
  intro request hrequest
  refine standing_other (h.standing request hrequest) ?_
  intro enabled heq
  have hzero : toneToken 0 false = toneToken request enabled := heq
  exact hrequest (toneToken_injective hzero).1.symm

theorem readTone_control (c : DeviceControl) (first second length : Nat) :
    (c.readTone first second length).1.tone = (c.expireTone first).tone ∧
      (c.readTone first second length).1.produced = (c.expireTone first).produced ∧
      (c.readTone first second length).1.speaker = (c.expireTone first).speaker := by
  rw [DeviceControl.readTone, DeviceControl.toneActive]
  cases (c.expireTone first).tone.until'.any (fun deadline => second < deadline) with
  | false => exact ⟨rfl, rfl, rfl⟩
  | true => exact ⟨rfl, rfl, rfl⟩

theorem enqueueOperation_control (c : DeviceControl) (now : Nat) (request : UInt32)
    (operation : UInt8) (value : UInt16) :
    (c.enqueueOperation now request operation value).1.tone = c.tone ∧
      (c.enqueueOperation now request operation value).1.produced = c.produced ∧
      (c.enqueueOperation now request operation value).1.speaker = c.speaker := by
  rw [DeviceControl.enqueueOperation]
  by_cases hfull : 32 ≤ c.commands.length
  · rw [if_pos hfull]
    exact ⟨rfl, rfl, rfl⟩
  · rw [if_neg hfull]
    exact ⟨rfl, rfl, rfl⟩

theorem takeCommandAt_control (c : DeviceControl) (now : Nat) :
    (c.takeCommandAt now).1.tone = c.tone ∧
      (c.takeCommandAt now).1.produced = c.produced ∧
      (c.takeCommandAt now).1.speaker = c.speaker := by
  rw [DeviceControl.takeCommandAt]
  cases c.commands with
  | nil => exact ⟨rfl, rfl, rfl⟩
  | cons command rest => exact ⟨rfl, rfl, rfl⟩

/-- A call that touches neither the tone nor the reports nor the speaker flag. -/
theorem ToneInv.unrelated {calls : List DeviceCall} {call : DeviceCall} {c c' : DeviceControl}
    (h : ToneInv calls c) (hcall : ¬ EndsTone call)
    (hstatus : lastStatus (calls ++ [call]) = lastStatus calls)
    (hsame : c'.tone = c.tone ∧ c'.produced = c.produced ∧ c'.speaker = c.speaker) :
    ToneInv (calls ++ [call]) c' := by
  obtain ⟨htone, hproduced, hspeaker⟩ := hsame
  refine h.neutral hcall htone (fun request => by rw [hproduced]) ?_
  rw [SpeakerAllows, hstatus, hspeaker]
  exact h.speaker

theorem ToneInv.step {calls : List DeviceCall} (h : ToneInv calls (afterCalls calls).control)
    (call : DeviceCall) (hfresh : (toneRequestIds (calls ++ [call])).Nodup) :
    ToneInv (calls ++ [call]) (afterCalls (calls ++ [call])).control := by
  have hsame : ∀ c : DeviceControl,
      c.tone = c.tone ∧ c.produced = c.produced ∧ c.speaker = c.speaker :=
    fun _ => ⟨rfl, rfl, rfl⟩
  have hexpired := h.change (changes_expireTone (afterCalls calls).control (afterCalls calls).now)
  rw [afterCalls, run_concat]
  cases call with
  | requestTone request enabled =>
      exact h.requestTone request enabled hfresh
  | setTone enabled =>
      cases enabled with
      | true => exact h.setTone_true (afterCalls calls).now
      | false => exact h.setTone_false (afterCalls calls).now
  | report status =>
      exact h.report _ status
  | playbackRequest =>
      exact hexpired.unrelated id (lastStatus_append _ _) (hsame _)
  | toneActive delay =>
      exact hexpired.unrelated id (lastStatus_append _ _) (hsame _)
  | readTone length delay =>
      exact hexpired.unrelated id (lastStatus_append _ _) (readTone_control _ _ _ _)
  | reportPlayback token playing delay delay' =>
      have hanswered := hexpired.change (changes_answerPlayback hexpired.well
        ((afterCalls calls).now + delay) ((afterCalls calls).now + delay + delay') token playing)
      exact hanswered.unrelated id (lastStatus_append _ _) (hsame _)
  | enqueueOperation request operation value =>
      exact h.unrelated id (lastStatus_append _ _) (enqueueOperation_control _ _ _ _ _)
  | takeCommand =>
      exact h.unrelated id (lastStatus_append _ _) (takeCommandAt_control _ _)
  | takeReport =>
      exact h.unrelated id (lastStatus_append _ _) (hsame _)
  | reset =>
      exact h.reset
  | wait duration =>
      exact h.unrelated id (lastStatus_append _ _) (hsame _)

theorem toneInv_afterCalls {calls : List DeviceCall} (hfresh : (toneRequestIds calls).Nodup) :
    ToneInv calls (afterCalls calls).control := by
  induction calls using List.reverseRecOn with
  | nil =>
      exact toneInv_start
  | append_singleton calls call ih =>
      have hearlier : (toneRequestIds calls).Nodup := by
        rw [toneRequestIds, List.filterMap_append, List.nodup_append] at hfresh
        exact hfresh.1
      exact (ih hearlier).step call hfresh

end Invariant

section Playing

/-- Whatever was reported in between, it was not that a tone plays. -/
def Quiet (c c' : DeviceControl) : Prop :=
  ∃ reports, c'.produced = c.produced ++ reports ∧ ∀ id, .toneState id true false ∉ reports

theorem quiet_of_eq {c c' : DeviceControl} (h : c'.produced = c.produced) : Quiet c c' :=
  ⟨[], by rw [h, List.append_nil], fun _ hin => by cases hin⟩

theorem Quiet.trans {c c' c'' : DeviceControl} (h : Quiet c c') (h' : Quiet c' c'') :
    Quiet c c'' := by
  obtain ⟨reports, hproduced, hquiet⟩ := h
  obtain ⟨reports', hproduced', hquiet'⟩ := h'
  refine ⟨reports ++ reports', by rw [hproduced', hproduced, List.append_assoc], ?_⟩
  intro id hin
  rcases List.mem_append.mp hin with hin | hin
  · exact hquiet id hin
  · exact hquiet' id hin

theorem quiet_pushReport (c : DeviceControl) {report : ControlMessage}
    (h : ∀ id, report ≠ .toneState id true false) : Quiet c (c.pushReport report) :=
  ⟨[report], rfl, fun id hin => h id (List.mem_singleton.mp hin).symm⟩

theorem quiet_pushFailed (c : DeviceControl) (failed : Option UInt32) :
    Quiet c (c.pushFailed failed) := by
  cases failed with
  | none =>
      exact quiet_of_eq rfl
  | some request =>
      exact quiet_pushReport c (fun _ heq => (by cases heq))

theorem quiet_requestTone (c : DeviceControl) (now : Nat) (request : UInt32) (enabled : Bool) :
    Quiet c (c.requestTone now request enabled) := by
  refine ⟨_, requestTone_produced c now request enabled, ?_⟩
  intro id hin
  split_ifs at hin with hrefused
  · cases List.mem_singleton.mp hin
  · cases hin

theorem quiet_setTone (c : DeviceControl) (now : Nat) (enabled : Bool) :
    Quiet c (c.setTone now enabled) := by
  cases enabled with
  | true =>
      exact quiet_requestTone c now 0 true
  | false =>
      have hstopped : Quiet c c.stopSection.1 := quiet_of_eq rfl
      exact (hstopped.trans (quiet_pushFailed _ _)).trans (quiet_of_eq rfl)

theorem quiet_report (c : DeviceControl) (now : Nat) (status : DeviceStatus) :
    Quiet c (c.report now status) := by
  have hstored : Quiet c (c.storeSpeaker status) := quiet_of_eq rfl
  rw [DeviceControl.report]
  refine Quiet.trans ?_ (quiet_pushReport _ (fun _ heq => (by cases heq)))
  split_ifs
  · exact hstored.trans (quiet_setTone _ now false)
  · exact hstored

theorem quiet_expireTone (c : DeviceControl) (now : Nat) : Quiet c (c.expireTone now) := by
  rw [DeviceControl.expireTone]
  split_ifs
  · exact quiet_pushFailed
      { c with tone := { token := c.tone.token &&& ~~~1, until' := none, responded := true } } _
  · exact quiet_of_eq rfl

/-- Only `report_playback` reports that a tone plays. -/
theorem quiet_step (s : TimedControl) {call : DeviceCall}
    (hcall : ∀ token playing delay delay', call ≠ .reportPlayback token playing delay delay') :
    Quiet s.control (s.step call).control := by
  cases call with
  | requestTone request enabled => exact quiet_requestTone _ _ _ _
  | setTone enabled => exact quiet_setTone _ _ _
  | report status => exact quiet_report _ _ _
  | playbackRequest => exact quiet_expireTone _ _
  | toneActive delay => exact quiet_expireTone _ _
  | readTone length delay =>
      exact (quiet_expireTone s.control s.now).trans
        (quiet_of_eq (readTone_control s.control s.now (s.now + delay) length).2.1)
  | reportPlayback token playing delay delay' => exact absurd rfl (hcall _ _ _ _)
  | enqueueOperation request operation value =>
      exact quiet_of_eq (enqueueOperation_control s.control s.now request operation value).2.1
  | takeCommand => exact quiet_of_eq (takeCommandAt_control s.control s.now).2.1
  | takeReport => exact quiet_of_eq rfl
  | reset => exact quiet_of_eq rfl
  | wait duration => exact quiet_of_eq rfl

theorem not_playing_of_quiet {c c' : DeviceControl} (h : Quiet c c')
    {reports : List ControlMessage} (hproduced : c'.produced = c.produced ++ reports) (id : Nat) :
    .toneState id true false ∉ reports := by
  obtain ⟨reports', hproduced', hquiet⟩ := h
  rw [List.append_cancel_left (hproduced.symm.trans hproduced')]
  exact hquiet id

theorem acknowledge_playing {c : DeviceControl} {now later : Nat} {token : UInt64} {playing : Bool}
    (h : (c.acknowledge now later token playing).2 = some (true, false)) :
    token = c.tone.token ∧ token &&& 1 ≠ 0 ∧ playing = true ∧
      (∃ deadline, c.tone.until' = some deadline ∧ now < deadline) ∧
      c.tone.responded = false := by
  simp only [DeviceControl.acknowledge] at h
  split_ifs at h with hother hplays hsilent hended
  · obtain ⟨henabled, hplaying, hactive, hwaiting⟩ := hplays
    refine ⟨not_not.mp hother, henabled, hplaying, ?_, by simpa using hwaiting⟩
    cases hset : c.tone.until' with
    | none =>
        rw [hset] at hactive
        cases hactive
    | some deadline =>
        rw [hset] at hactive
        exact ⟨deadline, rfl, by simpa using hactive⟩
  · cases h
  · cases h

theorem expireTone_of_set {c : DeviceControl} {now deadline : Nat}
    (h : (c.expireTone now).tone.until' = some deadline) : c.expireTone now = c := by
  rw [DeviceControl.expireTone] at h ⊢
  by_cases hexpired : c.tone.until'.any (fun deadline => deadline ≤ now) = true
  · rw [if_pos hexpired] at h
    rw [DeviceControl.pushFailed_tone] at h
    cases h
  · rw [if_neg hexpired]

/-- When `report_playback` reports that a tone plays. -/
theorem reportPlayback_playing {c : DeviceControl} (hwell : ToneWell c.tone)
    {first second third : Nat} {token : UInt64} {playing : Bool} {reports : List ControlMessage}
    (hproduced : (c.reportPlayback first second third token playing).produced =
      c.produced ++ reports)
    {request : UInt32} (hin : .toneState request.toNat true false ∈ reports) :
    request ≠ 0 ∧ token = toneToken request true ∧ playing = true ∧
      c.tone.token = toneToken request true ∧ c.tone.responded = false ∧
      ∃ deadline, c.tone.until' = some deadline ∧ second < deadline := by
  rw [reportPlayback_eq] at hproduced
  have hexpire := quiet_expireTone c first
  have hwell' : ToneWell (c.expireTone first).tone := by
    obtain ⟨_, _, _, hchange⟩ := changes_expireTone c first
    exact hchange.well hwell
  by_cases hhalf : token >>> 1 = 0
  · rw [DeviceControl.answerPlayback, if_pos hhalf] at hproduced
    exact absurd hin (not_playing_of_quiet hexpire hproduced _)
  · obtain ⟨_, hkept, _⟩ := changes_acknowledge hwell' second third token hhalf playing
    obtain ⟨hanswered, _, _⟩ :=
      @answerPlayback_produced (c.expireTone first) second third token hhalf playing
    obtain ⟨reports', hproduced', hquiet⟩ := hexpire
    rw [hkept, hproduced', List.append_assoc] at hanswered
    rw [List.append_cancel_left (hproduced.symm.trans hanswered)] at hin
    rcases List.mem_append.mp hin with hin | hin
    · exact absurd hin (hquiet _)
    · obtain ⟨answer, hanswer, heq⟩ := List.mem_map.mp hin
      rw [Option.mem_toList] at hanswer
      obtain ⟨playing', failed'⟩ := answer
      injection heq with hid hplaying' hfailed'
      obtain rfl : playing' = true := hplaying'
      obtain rfl : failed' = false := hfailed'
      obtain ⟨htoken, henabled, hplaying, ⟨deadline, hset, hbefore⟩, hwaiting⟩ :=
        acknowledge_playing hanswer
      have hsame := expireTone_of_set hset
      rw [hsame] at htoken hset hwaiting
      obtain ⟨current, enabled, hcurrent, _, _⟩ := hwell
      rw [hcurrent] at htoken
      rw [htoken, tokenRequest_toneToken] at hid
      obtain rfl : current = request := UInt32.toNat_inj.mp hid
      rw [htoken] at henabled
      obtain rfl := (toneToken_enabled current enabled).mp henabled
      refine ⟨?_, htoken, hplaying, hcurrent, hwaiting, deadline, hset, hbefore⟩
      intro hzero
      rw [htoken] at hhalf
      exact hhalf ((toneToken_half current true).mpr hzero)

end Playing

section Acknowledgement

theorem fresh_of_append {calls calls' : List DeviceCall}
    (h : (toneRequestIds (calls ++ calls')).Nodup) : (toneRequestIds calls).Nodup := by
  rw [toneRequestIds, List.filterMap_append, List.nodup_append] at h
  exact h.1

theorem reportsPlaying_spec {calls : List DeviceCall} {call : DeviceCall} {request : UInt32}
    (hfresh : (toneRequestIds calls).Nodup) (h : ReportsPlaying calls call request) :
    (afterCalls calls).control.tone.token = toneToken request true ∧
      ∃ before between delay delay',
        calls = before ++ .requestTone request true :: between ∧
        call = .reportPlayback (toneToken request true) true delay delay' ∧
        (∀ c ∈ between, ¬ EndsTone c) ∧
        SpeakerAllows before ∧
        (afterCalls calls).now + delay < (afterCalls before).now + seconds 5 := by
  obtain ⟨reports, hproduced, hin⟩ := h
  have hinv := toneInv_afterCalls hfresh
  have hstep : afterCalls (calls ++ [call]) = (afterCalls calls).step call := run_concat _ _ _ _
  rw [hstep] at hproduced
  by_cases hcall : ∀ token playing delay delay',
      call ≠ .reportPlayback token playing delay delay'
  · exact absurd hin (not_playing_of_quiet (quiet_step _ hcall) hproduced _)
  · simp only [not_forall, not_not] at hcall
    obtain ⟨token, playing, delay, delay', rfl⟩ := hcall
    obtain ⟨hrequest, rfl, rfl, htoken, hwaiting, deadline, hset, hbefore⟩ :=
      reportPlayback_playing hinv.well hproduced hin
    obtain ⟨before, between, hcalls, hbetween, hallowed, hdeadline⟩ :=
      hinv.live request deadline hrequest htoken hset
    refine ⟨htoken, before, between, delay, delay', hcalls, rfl, hbetween, hallowed, ?_⟩
    rw [← hdeadline hwaiting]
    exact hbefore

/-- A request id that is used once is used at one place. -/
theorem request_place_unique {request : UInt32} (hrequest : request ≠ 0) {enabled : Bool}
    {before between before' between' : List DeviceCall}
    (hfresh : (toneRequestIds (before ++ .requestTone request enabled :: between)).Nodup)
    (h : before ++ .requestTone request enabled :: between =
      before' ++ .requestTone request enabled :: between') :
    before = before' ∧ between = between' := by
  have hids : ∀ calls : List DeviceCall,
      toneRequestIds (.requestTone request enabled :: calls) = request :: toneRequestIds calls := by
    intro calls
    simp [toneRequestIds, hrequest]
  have honce : request ∉ toneRequestIds before ∧ request ∉ toneRequestIds between := by
    rw [toneRequestIds, List.filterMap_append, ← toneRequestIds, ← toneRequestIds, hids,
      List.nodup_append, List.nodup_cons] at hfresh
    refine ⟨?_, hfresh.2.1.1⟩
    intro hin
    exact hfresh.2.2 request hin request List.mem_cons_self rfl
  have hmem : ∀ calls : List DeviceCall, .requestTone request enabled ∈ calls →
      request ∈ toneRequestIds calls := by
    intro calls hin
    exact List.mem_filterMap.mpr ⟨_, hin, if_neg hrequest⟩
  rcases List.append_eq_append_iff.mp h with ⟨extra, hbefore', hrest⟩ | ⟨extra, hbefore, hrest⟩
  · cases extra with
    | nil =>
        rw [List.append_nil] at hbefore'
        exact ⟨hbefore'.symm, (List.cons.inj hrest).2⟩
    | cons first extra =>
        obtain ⟨_, hbetween⟩ := List.cons.inj hrest
        refine absurd (hmem between ?_) honce.2
        rw [hbetween]
        exact List.mem_append_right _ List.mem_cons_self
  · cases extra with
    | nil =>
        rw [List.append_nil] at hbefore
        exact ⟨hbefore, (List.cons.inj hrest).2.symm⟩
    | cons first extra =>
        obtain ⟨hfirst, _⟩ := List.cons.inj hrest
        refine absurd (hmem before ?_) honce.1
        rw [hbefore, ← hfirst]
        exact List.mem_append_right _ List.mem_cons_self

theorem now_le_step (s : TimedControl) (call : DeviceCall) : s.now ≤ (s.step call).now := by
  cases call with
  | toneActive delay => exact Nat.le_add_right _ _
  | readTone length delay => exact Nat.le_add_right _ _
  | reportPlayback token playing delay delay' =>
      exact (Nat.le_add_right _ _).trans (Nat.le_add_right _ _)
  | wait duration => exact Nat.le_add_right _ _
  | _ => exact Nat.le_refl _

theorem now_le_afterCalls (calls calls' : List DeviceCall) :
    (afterCalls calls).now ≤ (afterCalls (calls ++ calls')).now := by
  rw [afterCalls, afterCalls, run_append]
  refine run_preserves (fun s : TimedControl =>
    (run TimedControl.step .start calls).now ≤ s.now) ?_ le_rfl calls'
  intro s call hs
  exact hs.trans (now_le_step s call)

/-- **Tones are acknowledged in order.**  Whatever the server, the Android side and the
audio worker call, and however much time passes: the answers to an enabling request are
that it plays and then that it has ended, or only the latter; those to a disabling
request are at most that it is silent.  That a tone plays is reported only when the
worker confirms the token of the latest request, which a good speaker status allowed
and which has neither expired nor ended, and never again after it has. -/
theorem tones_are_acknowledged {calls : List DeviceCall}
    (hfresh : (toneRequestIds calls).Nodup) : ToneAcknowledged calls := by
  have hinv := toneInv_afterCalls hfresh
  refine ⟨?_, ?_, ?_, ?_⟩
  · intro request hrequest hasked
    exact ((hinv.standing request hrequest).enabling hasked).1
  · intro request hrequest hasked
    exact ((hinv.standing request hrequest).disabling hasked).1
  · intro earlier call later hcalls request hplaying
    rw [hcalls] at hfresh
    exact reportsPlaying_spec (fresh_of_append hfresh) hplaying
  · intro before between earlier call later request hcalls hrequest hover hplaying
    rw [hcalls] at hfresh
    have hearlier := fresh_of_append hfresh
    obtain ⟨_, before', between', delay, delay', hplace, _, hbetween, _, hbefore⟩ :=
      reportsPlaying_spec hearlier hplaying
    rw [List.append_assoc, List.cons_append] at hplace hearlier
    obtain ⟨rfl, rfl⟩ := request_place_unique hrequest hearlier hplace
    rcases hover with ⟨c, hc, hends⟩ | hexpired
    · exact hbetween c (List.mem_append_left _ hc) hends
    · have hlater := now_le_afterCalls (before ++ .requestTone request true :: between) earlier
      omega

/-- A tone that plays, is stopped by a bad status, and a stale worker. -/
def stoppedTone : List DeviceCall :=
  [.report
      { requestId := 0, deviceId := "phone", name := "Phone", volume := 5, minimum := 0,
        maximum := 15, fixed := false, speaker := true, failed := false },
    .requestTone 7 true, .playbackRequest, .wait 1000, .reportPlayback 15 true 0 0,
    .report
      { requestId := 0, deviceId := "phone", name := "Phone", volume := 5, minimum := 0,
        maximum := 15, fixed := false, speaker := false, failed := false },
    .reportPlayback 15 true 0 0, .requestTone 8 false, .reportPlayback 16 false 0 0]

theorem tones_are_acknowledged_stopped :
    ToneAcknowledged stoppedTone ∧
      toneAnswers 7 (afterCalls stoppedTone).control.produced = [(true, false), (false, true)] ∧
      toneAnswers 8 (afterCalls stoppedTone).control.produced = [(false, false)] :=
  ⟨tones_are_acknowledged (by decide), by decide, by decide⟩

end Acknowledgement

end Soundwave

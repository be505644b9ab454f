import Soundwave.ToneProtocol

/-!
# The playback worker

Model of `AudioTrackPlayback.run`, the loop that feeds the audio track, together with the
`DeviceControl` it asks and reports to.  Every native call of the loop is a step, and
between two steps the other threads may make any call and any time may pass.  The main
thread may pause and flush the track at any moment, as `stopPlayback` does; the local
`playing` does not hear of it, so that it says what the worker has done to the track and
not whether the track plays.

The server takes the answer that a tone plays as the start of its measurement.  The
worker asks for the current request again and again, so that an answer about one request
is never given for the audio of another one; and since a request id is used once, the
audio it has read in between was the tone.
-/

namespace Soundwave

/-- A chunk of audio, or a part of it, on its way to the track: the request that was
current when it was read, and whether it was read from the tone. -/
structure Chunk where
  request : UInt64
  tone : Bool
deriving DecidableEq

/-- Where the loop stands: what it does next, with the values it has read so far. -/
inductive LoopPoint where
  | top
  | requested (request : UInt64)
  | reading (request : UInt64)
  | read (chunk : Chunk) (available : Nat)
  | silent (request : UInt64)
  | writing (chunk : Chunk) (offset : Nat)
  | offering (chunk : Chunk) (offset : Nat)
  | offered (chunk : Chunk) (offset : Nat)
  | finishing (chunk : Chunk) (offset : Nat)
  | confirming (chunk : Chunk)
  | ended
deriving DecidableEq

namespace LoopPoint

/-- The chunk in the hands of the worker. -/
def chunk : LoopPoint → Option Chunk
  | read chunk _ | writing chunk _ | offering chunk _ | offered chunk _ | finishing chunk _
  | confirming chunk => some chunk
  | top | requested _ | reading _ | silent _ | ended => none

/-- The request of the current round. -/
def request : LoopPoint → Option UInt64
  | requested request | reading request | silent request => some request
  | read chunk _ | writing chunk _ | offering chunk _ | offered chunk _ | finishing chunk _
  | confirming chunk => some chunk.request
  | top | ended => none

/-- The request of the current round, once it has been compared with the last one. -/
def compared : LoopPoint → Option UInt64
  | requested _ => none
  | point => point.request

end LoopPoint

/-- What a step of the loop meets: whether it should continue, how many samples the ring
has, how many samples the track takes (or an error), and the time between looks at the
clock. -/
structure LoopInput where
  continues : Bool
  available : Nat
  written : Option Nat
  delay : Nat
  delay' : Nat
deriving DecidableEq

/-- A worker with its locals and its track.  `calls`, `queued` and `finished` are logs: the
calls of `DeviceControl` so far, what was written to the track since it was flushed, and
the chunks that were written whole to a track that the worker has let play. -/
structure PlaybackWorker where
  device : TimedControl
  calls : List DeviceCall
  point : LoopPoint
  playing : Bool
  playbackRequest : UInt64
  queued : List Chunk
  finished : List Chunk
deriving DecidableEq

/-- A step of the worker, a call by another thread, what `stopPlayback` does to the track,
or the start of a new worker. -/
inductive WorkerEvent where
  | loop (input : LoopInput)
  | other (call : DeviceCall)
  | stopPlayback
  | restart
deriving DecidableEq

/-- `FRAME_SAMPLES`: 5 ms of stereo audio. -/
def frameSamples : Nat := 48000 / 200 * 2

namespace PlaybackWorker

section Model

/-- No call has been made yet. -/
def start : PlaybackWorker where
  device := .start
  calls := []
  point := .ended
  playing := false
  playbackRequest := 0
  queued := []
  finished := []

/-- A call of `DeviceControl`. -/
def call (s : PlaybackWorker) (c : DeviceCall) : PlaybackWorker :=
  { s with device := s.device.step c, calls := s.calls ++ [c] }

/-- `nativeGetPlaybackRequest`: the state after it, and the token. -/
def nativeGetPlaybackRequest (s : PlaybackWorker) : PlaybackWorker × UInt64 :=
  (s.call .playbackRequest, (s.device.control.playbackRequest s.device.now).2)

/-- `nativeReadPcm`: the state after it, and whether it was the tone that was read. -/
def nativeReadPcm (s : PlaybackWorker) (delay : Nat) : PlaybackWorker × Bool :=
  (s.call (.readTone frameSamples delay),
    (s.device.control.readTone s.device.now (s.device.now + delay) frameSamples).2)

/-- `nativeReportPlayback`. -/
def nativeReportPlayback (s : PlaybackWorker) (request : UInt64) (playing : Bool)
    (delay delay' : Nat) : PlaybackWorker :=
  s.call (.reportPlayback request playing delay delay')

/-- The comparison of a request with the one of the last round. -/
def compareRequest (s : PlaybackWorker) (request : UInt64) (delay delay' : Nat) :
    PlaybackWorker :=
  if request = s.playbackRequest then
    { s with point := .reading request }
  else
    let flushed :=
      { s with
          point := .reading request
          playing := false
          playbackRequest := request
          queued := [] }
    if request ≠ 0 ∧ request &&& 1 = 0 then
      flushed.nativeReportPlayback request false delay delay'
    else
      flushed

/-- The branch of a round without audio. -/
def pause (s : PlaybackWorker) (request : UInt64) (delay delay' : Nat) : PlaybackWorker :=
  let paused :=
    if s.playing then { s with point := .top, playing := false, queued := [] }
    else { s with point := .top }
  if request ≠ 0 then paused.nativeReportPlayback request false delay delay' else paused

/-- `track.write`, with what follows on its result. -/
def write (s : PlaybackWorker) (chunk : Chunk) (offset : Nat) : Option Nat → PlaybackWorker
  | none => { s with point := .ended }
  | some 0 => { s with point := .writing chunk offset }
  | some (written + 1) =>
      { s with
          point := .offered chunk (min frameSamples (offset + (written + 1)))
          queued := s.queued ++ [chunk] }

/-- The end of a round: a chunk that was written whole after `track.play()`. -/
def finish (s : PlaybackWorker) (chunk : Chunk) (offset : Nat) : PlaybackWorker :=
  if chunk.request ≠ 0 ∧ s.playing ∧ offset = frameSamples then
    let logged := { s with finished := s.finished ++ [chunk] }
    { logged.nativeGetPlaybackRequest.1 with
        point :=
          if logged.nativeGetPlaybackRequest.2 = chunk.request then .confirming chunk
          else .top }
  else
    { s with point := .top }

/-- The next step of the loop. -/
def loop (s : PlaybackWorker) (input : LoopInput) : PlaybackWorker :=
  match s.point with
  | .top =>
      if input.continues then
        { s.nativeGetPlaybackRequest.1 with point := .requested s.nativeGetPlaybackRequest.2 }
      else
        { s with point := .ended }
  | .requested request => s.compareRequest request input.delay input.delay'
  | .reading request =>
      let tone := (s.nativeReadPcm input.delay).2
      { (s.nativeReadPcm input.delay).1 with
          point := .read ⟨request, tone⟩ (if tone then frameSamples else input.available) }
  | .read chunk available =>
      { s.nativeGetPlaybackRequest.1 with
          point :=
            if s.nativeGetPlaybackRequest.2 ≠ chunk.request then .top
            else if available = 0 then .silent chunk.request
            else .writing chunk 0 }
  | .silent request => s.pause request input.delay input.delay'
  | .writing chunk offset =>
      if offset < frameSamples ∧ input.continues then
        { s.nativeGetPlaybackRequest.1 with
            point :=
              if s.nativeGetPlaybackRequest.2 = chunk.request then .offering chunk offset
              else .finishing chunk offset }
      else
        { s with point := .finishing chunk offset }
  | .offering chunk offset => s.write chunk offset input.written
  | .offered chunk offset =>
      if !s.playing ∧ input.continues then
        { s.nativeGetPlaybackRequest.1 with
            point := .writing chunk offset
            playing := s.nativeGetPlaybackRequest.2 = chunk.request }
      else
        { s with point := .writing chunk offset }
  | .finishing chunk offset => s.finish chunk offset
  | .confirming chunk =>
      { s.nativeReportPlayback chunk.request true input.delay input.delay' with point := .top }
  | .ended => s

/-- One step.  A new worker starts when the one before has ended. -/
def step (s : PlaybackWorker) : WorkerEvent → PlaybackWorker
  | .loop input => s.loop input
  | .other c => s.call c
  | .stopPlayback => { s with queued := [] }
  | .restart =>
      if s.point = .ended then
        { s with point := .top, playing := false, playbackRequest := 0, queued := [] }
      else
        s

end Model

section Live

/-- The tone of a request is waiting for the answer that it plays. -/
def LiveAt (t : Tone) (now : Nat) (request : UInt32) : Prop :=
  t.token = toneToken request true ∧ t.responded = false ∧
    ∃ deadline, t.until' = some deadline ∧ now < deadline

/-- The tone of a request is waiting for the answer that it plays. -/
def Live (d : TimedControl) (request : UInt32) : Prop :=
  LiveAt d.control.tone d.now request

theorem not_live_of_change {t t' : Tone} {reports : List ControlMessage} {now now' : Nat}
    {request : UInt32} (h : ToneChange t t' reports) (hnow : now ≤ now')
    (hdead : ¬LiveAt t now request) : ¬LiveAt t' now' request := by
  rintro ⟨htoken, hwaiting, deadline, hset, hbefore⟩
  cases h with
  | kept => exact hdead ⟨htoken, hwaiting, deadline, hset, Nat.lt_of_le_of_lt hnow hbefore⟩
  | ended _ hnone =>
      rw [hnone] at hset
      cases hset
  | plays => cases hwaiting
  | silent => cases hwaiting

theorem not_live_of_other {c : DeviceControl} {now now' : Nat} {request request' : UInt32}
    {enabled : Bool} (hne : request' ≠ request) :
    ¬LiveAt (c.requestTone now request' enabled).tone now' request := by
  rintro ⟨htoken, _⟩
  rw [requestTone_tone] at htoken
  exact hne (toneToken_injective htoken).1

/-- A tone that is no longer waiting will not wait again, unless it is requested anew. -/
theorem not_live_step {d : TimedControl} {request : UInt32} {c : DeviceCall}
    (hwell : ToneWell d.control.tone) (hrequest : request ≠ 0)
    (hother : ∀ enabled, c ≠ .requestTone request enabled) (hdead : ¬Live d request) :
    ¬Live (d.step c) request := by
  have hexpired : ∀ now', d.now ≤ now' →
      ¬LiveAt (d.control.expireTone d.now).tone now' request := by
    intro now' hnow
    obtain ⟨_, _, _, hchange⟩ := changes_expireTone d.control d.now
    exact not_live_of_change hchange hnow hdead
  have hkept : ∀ now', d.now ≤ now' → ¬LiveAt d.control.tone now' request :=
    fun now' hnow => not_live_of_change .kept hnow hdead
  cases c with
  | requestTone request' enabled =>
      exact not_live_of_other fun heq => hother enabled (by rw [heq])
  | setTone enabled =>
      cases enabled with
      | true => exact not_live_of_other fun heq => hrequest heq.symm
      | false =>
          obtain ⟨_, _, _, hchange⟩ := changes_setTone_false d.control d.now
          exact not_live_of_change hchange (Nat.le_refl _) hdead
  | report status =>
      show ¬LiveAt (d.control.report d.now status).tone d.now request
      rw [DeviceControl.report]
      split
      · obtain ⟨_, _, _, hchange⟩ := changes_setTone_false (d.control.storeSpeaker status) d.now
        exact not_live_of_change hchange (Nat.le_refl _) hdead
      · exact hdead
  | playbackRequest => exact hexpired _ (Nat.le_refl _)
  | toneActive delay => exact hexpired _ (Nat.le_add_right _ _)
  | readTone length delay =>
      have htone := (readTone_control d.control d.now (d.now + delay) length).1
      show ¬LiveAt (d.control.readTone d.now (d.now + delay) length).1.tone _ request
      rw [htone]
      exact hexpired _ (Nat.le_add_right _ _)
  | reportPlayback token playing delay delay' =>
      obtain ⟨_, _, _, hexpire⟩ := changes_expireTone d.control d.now
      obtain ⟨_, _, _, hanswer⟩ := changes_answerPlayback (hexpire.well hwell) (d.now + delay)
        (d.now + delay + delay') token playing
      refine not_live_of_change hanswer ?_ (hexpired d.now (Nat.le_refl _))
      show d.now ≤ d.now + delay + delay'
      omega
  | enqueueOperation request' operation value =>
      have htone := (enqueueOperation_control d.control d.now request' operation value).1
      show ¬LiveAt (d.control.enqueueOperation d.now request' operation value).1.tone _ request
      rw [htone]
      exact hdead
  | takeCommand =>
      have htone := (takeCommandAt_control d.control d.now).1
      show ¬LiveAt (d.control.takeCommandAt d.now).1.tone _ request
      rw [htone]
      exact hdead
  | takeReport => exact hdead
  | reset =>
      rintro ⟨_, _, deadline, hset, _⟩
      cases hset
  | wait duration => exact hkept _ (Nat.le_add_right _ _)

end Live

section Invariant

/-- What holds of a worker at all times. -/
structure Holds (s : PlaybackWorker) : Prop where
  device : s.device = afterCalls s.calls
  used : ∀ token, s.point.request = some token → ∀ request, request ≠ 0 →
    token = toneToken request true → request ∈ toneRequestIds s.calls
  dead : ∀ chunk, s.point.chunk = some chunk → chunk.tone = false → ∀ request, request ≠ 0 →
    chunk.request = toneToken request true → ¬Live s.device request
  current : ∀ token, s.point.compared = some token → s.playbackRequest = token
  queued : ∀ chunk ∈ s.queued, chunk.request = s.playbackRequest
  logged : ∀ chunk, s.point = .confirming chunk → chunk ∈ s.finished
  heard : ∀ request : UInt32,
    .toneState request.toNat true false ∈ s.device.control.produced →
      ⟨toneToken request true, true⟩ ∈ s.finished

theorem start_holds : start.Holds where
  device := rfl
  used := fun token h => by cases h
  dead := fun chunk h => by cases h
  current := fun token h => by cases h
  queued := fun chunk h => by cases h
  logged := fun chunk h => by cases h
  heard := fun request h => by cases h

theorem mem_toneRequestIds {calls : List DeviceCall} {request : UInt32} {enabled : Bool}
    (hrequest : request ≠ 0) (h : .requestTone request enabled ∈ calls) :
    request ∈ toneRequestIds calls :=
  List.mem_filterMap.mpr ⟨_, h, by simp [hrequest]⟩

/-- A token comes from a request. -/
theorem requested_of_token {calls : List DeviceCall} (hfresh : (toneRequestIds calls).Nodup)
    {request : UInt32} (enabled : Bool) (hrequest : request ≠ 0)
    (htoken : (afterCalls calls).control.tone.token = toneToken request enabled) :
    request ∈ toneRequestIds calls := by
  have hstanding := (toneInv_afterCalls hfresh).standing request hrequest
  by_contra hnot
  exact (hstanding.unasked fun enabled' hasked =>
    hnot (mem_toneRequestIds hrequest hasked)).2 enabled htoken

theorem reportPlayback_produced {c : DeviceControl} (hwell : ToneWell c.tone)
    (first second third : Nat) (token : UInt64) (playing : Bool) :
    ∃ reports, (c.reportPlayback first second third token playing).produced =
      c.produced ++ reports := by
  obtain ⟨_, reports, hproduced, hexpire⟩ := changes_expireTone c first
  obtain ⟨_, reports', hproduced', _⟩ :=
    changes_answerPlayback (hexpire.well hwell) second third token playing
  refine ⟨reports ++ reports', ?_⟩
  rw [reportPlayback_eq, hproduced', hproduced, List.append_assoc]

/-- Only the answer of the worker reports that a tone plays. -/
theorem not_playing_step {d : TimedControl} (hwell : ToneWell d.control.tone) {c : DeviceCall}
    (hanswer : ∀ token delay delay', c ≠ .reportPlayback token true delay delay')
    {request : UInt32} (h : .toneState request.toNat true false ∈ (d.step c).control.produced) :
    .toneState request.toNat true false ∈ d.control.produced := by
  by_cases hother : ∀ token playing delay delay', c ≠ .reportPlayback token playing delay delay'
  · obtain ⟨reports, hproduced, hquiet⟩ := quiet_step d hother
    rw [hproduced] at h
    exact (List.mem_append.mp h).resolve_right (hquiet _)
  · simp only [not_forall, not_not] at hother
    obtain ⟨token, playing, delay, delay', rfl⟩ := hother
    obtain ⟨reports, hproduced⟩ := reportPlayback_produced hwell d.now (d.now + delay)
      (d.now + delay + delay') token playing
    refine (List.mem_append.mp (hproduced ▸ h)).resolve_right fun hin => ?_
    obtain ⟨_, _, hplaying, _⟩ := reportPlayback_playing hwell hproduced hin
    exact hanswer token delay delay' (by rw [hplaying])

theorem request_of_chunk {point : LoopPoint} {chunk : Chunk} (h : point.chunk = some chunk) :
    point.request = some chunk.request := by
  cases point with
  | read held _ | writing held _ | offering held _ | offered held _ | finishing held _
  | confirming held =>
      cases h
      rfl
  | top | requested _ | reading _ | silent _ | ended => cases h

/-- The request of a chunk in hand has been used, so that it is not made again. -/
theorem Holds.not_again {s : PlaybackWorker} (h : s.Holds) {c : DeviceCall} {chunk : Chunk}
    (hheld : s.point.chunk = some chunk) {request : UInt32} (hrequest : request ≠ 0)
    (htoken : chunk.request = toneToken request true)
    (hfresh : (toneRequestIds (s.calls ++ [c])).Nodup) (enabled : Bool) :
    c ≠ .requestTone request enabled := by
  intro heq
  have hused := h.used _ (request_of_chunk hheld) request hrequest htoken
  rw [heq, toneRequestIds, List.filterMap_append, List.nodup_append] at hfresh
  exact hfresh.2.2 request hused request (by simp [hrequest]) rfl

/-- A call of another thread, or one of the worker that is no answer. -/
theorem Holds.call {s : PlaybackWorker} (h : s.Holds) {c : DeviceCall}
    (hanswer : ∀ token delay delay', c ≠ .reportPlayback token true delay delay')
    (hfresh : (toneRequestIds (s.calls ++ [c])).Nodup) : (s.call c).Holds := by
  have hwell : ToneWell s.device.control.tone := by
    rw [h.device]
    exact (toneInv_afterCalls (fresh_of_append hfresh)).well
  refine ⟨?_, ?_, ?_, h.current, h.queued, h.logged,
    fun request hin => h.heard request (not_playing_step hwell hanswer hin)⟩
  · show s.device.step c = afterCalls (s.calls ++ [c])
    rw [h.device, afterCalls, afterCalls, run_concat]
  · intro token htoken request hrequest heq
    show request ∈ toneRequestIds (s.calls ++ [c])
    rw [toneRequestIds, List.filterMap_append]
    exact List.mem_append_left _ (h.used token htoken request hrequest heq)
  · intro chunk hheld htone request hrequest heq
    exact not_live_step hwell hrequest (h.not_again hheld hrequest heq hfresh)
      (h.dead chunk hheld htone request hrequest heq)

/-- The worker goes on without a call. -/
theorem Holds.proceed {s : PlaybackWorker} (h : s.Holds) (point : LoopPoint)
    (hrequest : ∀ token, point.request = some token → s.point.request = some token)
    (hchunk : ∀ chunk, point.chunk = some chunk → s.point.chunk = some chunk)
    (hcompared : ∀ token, point.compared = some token → s.point.compared = some token)
    (hpoint : ∀ chunk, point ≠ .confirming chunk) : { s with point := point }.Holds :=
  ⟨h.device, fun token htoken => h.used token (hrequest token htoken),
    fun chunk hheld => h.dead chunk (hchunk chunk hheld),
    fun token htoken => h.current token (hcompared token htoken), h.queued,
    fun chunk heq => absurd heq (hpoint chunk), h.heard⟩

/-- The worker forgets what it has in hand. -/
theorem Holds.forget {s : PlaybackWorker} (h : s.Holds) (point : LoopPoint)
    (hpoint : point = .top ∨ point = .ended) : { s with point := point }.Holds := by
  rcases hpoint with rfl | rfl
  · exact h.proceed .top (fun _ heq => by cases heq) (fun _ heq => by cases heq)
      (fun _ heq => by cases heq) fun _ heq => by cases heq
  · exact h.proceed .ended (fun _ heq => by cases heq) (fun _ heq => by cases heq)
      (fun _ heq => by cases heq) fun _ heq => by cases heq

/-- `track.play`. -/
theorem Holds.play {s : PlaybackWorker} (h : s.Holds) (playing : Bool) :
    { s with playing := playing }.Holds :=
  ⟨h.device, h.used, h.dead, h.current, h.queued, h.logged, h.heard⟩

/-- `flush`: the track starts anew for a request. -/
theorem Holds.flush {s : PlaybackWorker} (h : s.Holds) {token : UInt64}
    (hpoint : s.point = .requested token) :
    { s with
        point := .reading token
        playing := false
        playbackRequest := token
        queued := [] }.Holds := by
  refine ⟨h.device, ?_, (fun chunk heq => by cases heq), ?_, (fun chunk hin => by cases hin),
    (fun chunk heq => by cases heq), h.heard⟩
  · intro token' heq
    cases heq
    exact h.used token (by rw [hpoint]; rfl)
  · intro token' heq
    cases heq
    rfl

theorem Holds.compareRequest {s : PlaybackWorker} (h : s.Holds) {token : UInt64}
    (hpoint : s.point = .requested token) {delay delay' : Nat}
    (hfresh : (toneRequestIds (s.compareRequest token delay delay').calls).Nodup) :
    (s.compareRequest token delay delay').Holds := by
  simp only [PlaybackWorker.compareRequest] at hfresh ⊢
  split
  · rename_i hsame
    refine ⟨h.device, ?_, (fun chunk heq => by cases heq), ?_, h.queued,
      (fun chunk heq => by cases heq), h.heard⟩
    · intro token' heq
      cases heq
      exact h.used token (by rw [hpoint]; rfl)
    · intro token' heq
      cases heq
      exact hsame.symm
  · rename_i hdiffers
    rw [if_neg hdiffers] at hfresh
    split
    · rename_i hstopped
      rw [if_pos hstopped] at hfresh
      exact (h.flush hpoint).call (fun _ _ _ heq => by cases heq) hfresh
    · exact h.flush hpoint

theorem readTone_of_live {c : DeviceControl} {first second length deadline : Nat}
    (hset : (c.readTone first second length).1.tone.until' = some deadline)
    (hbefore : second < deadline) : (c.readTone first second length).2 = true := by
  rw [(readTone_control c first second length).1] at hset
  have hactive : (c.toneActive first second).2 = true := by
    simp [DeviceControl.toneActive, hset, hbefore]
  rw [DeviceControl.readTone]
  simp only [hactive, if_true]

theorem Holds.readPcm {s : PlaybackWorker} (h : s.Holds) {token : UInt64}
    (hpoint : s.point = .reading token) (delay available : Nat)
    (hfresh : (toneRequestIds (s.calls ++ [.readTone frameSamples delay])).Nodup) :
    { (s.nativeReadPcm delay).1 with
        point := .read ⟨token, (s.nativeReadPcm delay).2⟩ available }.Holds := by
  have hread := h.call (fun _ _ _ heq => by cases heq) hfresh
  refine ⟨hread.device, ?_, ?_, ?_, hread.queued, (fun chunk heq => by cases heq), hread.heard⟩
  · intro token' heq
    cases heq
    exact hread.used token (by rw [show (s.call _).point = s.point from rfl, hpoint]; rfl)
  · intro chunk heq htone request hrequest hchunk
    cases heq
    -- a tone that is live at the second look at the clock has been read
    rintro ⟨_, _, deadline, hset, hbefore⟩
    have hactive : (s.nativeReadPcm delay).2 = true := readTone_of_live hset hbefore
    rw [hactive] at htone
    cases htone
  · intro token' heq
    cases heq
    exact hread.current token (by rw [show (s.call _).point = s.point from rfl, hpoint]; rfl)

theorem Holds.ask {s : PlaybackWorker} (h : s.Holds)
    (hfresh : (toneRequestIds (s.calls ++ [.playbackRequest])).Nodup) :
    s.nativeGetPlaybackRequest.1.Holds :=
  h.call (fun _ _ _ heq => by cases heq) hfresh

theorem Holds.pause {s : PlaybackWorker} (h : s.Holds) {token : UInt64} {delay delay' : Nat}
    (hfresh : (toneRequestIds (s.pause token delay delay').calls).Nodup) :
    (s.pause token delay delay').Holds := by
  have hpaused : (if s.playing then { s with point := .top, playing := false, queued := [] }
      else { s with point := .top } : PlaybackWorker).Holds := by
    split
    · refine ⟨h.device, (fun _ heq => by cases heq), (fun _ heq => by cases heq),
        (fun _ heq => by cases heq), (fun _ hin => by cases hin), (fun _ heq => by cases heq),
        h.heard⟩
    · exact h.forget .top (Or.inl rfl)
  simp only [PlaybackWorker.pause] at hfresh ⊢
  split
  · rename_i hasked
    rw [if_pos hasked] at hfresh
    exact hpaused.call (fun _ _ _ heq => by cases heq) hfresh
  · exact hpaused

theorem Holds.write {s : PlaybackWorker} (h : s.Holds) {chunk : Chunk} {offset : Nat}
    (hpoint : s.point = .offering chunk offset) (written : Option Nat) :
    (s.write chunk offset written).Holds := by
  cases written with
  | none => exact h.forget .ended (Or.inr rfl)
  | some written =>
      cases written with
      | zero =>
          refine h.proceed (.writing chunk offset) ?_ ?_ ?_ fun _ heq => by cases heq
          all_goals
            rw [hpoint]
            exact fun _ heq => heq
      | succ written =>
          refine ⟨h.device, ?_, ?_, ?_, ?_, (fun _ heq => by cases heq), h.heard⟩
          · intro token heq
            exact h.used token (by rw [hpoint]; exact heq)
          · intro held heq
            exact h.dead held (by rw [hpoint]; exact heq)
          · intro token heq
            exact h.current token (by rw [hpoint]; exact heq)
          · intro held hin
            rcases List.mem_append.mp hin with hin | hin
            · exact h.queued held hin
            · rw [List.mem_singleton.mp hin]
              exact (h.current chunk.request (by rw [hpoint]; rfl)).symm

theorem Holds.log {s : PlaybackWorker} (h : s.Holds) (chunk : Chunk) :
    { s with finished := s.finished ++ [chunk] }.Holds :=
  ⟨h.device, h.used, h.dead, h.current, h.queued,
    fun held heq => List.mem_append_left _ (h.logged held heq),
    fun request hin => List.mem_append_left _ (h.heard request hin)⟩

theorem Holds.finish {s : PlaybackWorker} (h : s.Holds) {chunk : Chunk} {offset : Nat}
    (hpoint : s.point = .finishing chunk offset)
    (hfresh : (toneRequestIds (s.finish chunk offset).calls).Nodup) :
    (s.finish chunk offset).Holds := by
  simp only [PlaybackWorker.finish] at hfresh ⊢
  split
  · rename_i hwhole
    rw [if_pos hwhole] at hfresh
    have hasked := (h.log chunk).ask hfresh
    by_cases hsame : (PlaybackWorker.nativeGetPlaybackRequest
        { s with finished := s.finished ++ [chunk] }).2 = chunk.request
    · rw [if_pos hsame]
      refine ⟨hasked.device, ?_, ?_, ?_, hasked.queued, ?_, hasked.heard⟩
      · intro token heq
        exact hasked.used token (hpoint ▸ heq)
      · intro held heq
        exact hasked.dead held (hpoint ▸ heq)
      · intro token heq
        exact hasked.current token (hpoint ▸ heq)
      · intro held heq
        cases heq
        exact List.mem_append_right _ List.mem_cons_self
    · rw [if_neg hsame]
      exact hasked.forget .top (Or.inl rfl)
  · exact h.forget .top (Or.inl rfl)

/-- The answer is given only if the chunk was read from the tone. -/
theorem Holds.confirm {s : PlaybackWorker} (h : s.Holds) {chunk : Chunk}
    (hpoint : s.point = .confirming chunk) {delay delay' : Nat}
    (hfresh : (toneRequestIds
      (s.calls ++ [.reportPlayback chunk.request true delay delay'])).Nodup) :
    { s.nativeReportPlayback chunk.request true delay delay' with point := .top }.Holds := by
  have hwell : ToneWell s.device.control.tone := by
    rw [h.device]
    exact (toneInv_afterCalls (fresh_of_append hfresh)).well
  refine ⟨?_, (fun _ heq => by cases heq), (fun _ heq => by cases heq), (fun _ heq => by cases heq),
    h.queued, (fun _ heq => by cases heq), ?_⟩
  · show s.device.step (.reportPlayback chunk.request true delay delay') =
      afterCalls (s.calls ++ [.reportPlayback chunk.request true delay delay'])
    rw [h.device, afterCalls, afterCalls, run_concat]
  · intro request hin
    obtain ⟨reports, hproduced⟩ := reportPlayback_produced hwell s.device.now
      (s.device.now + delay) (s.device.now + delay + delay') chunk.request true
    rcases List.mem_append.mp (hproduced ▸ hin) with hearlier | hnew
    · exact h.heard request hearlier
    · obtain ⟨hrequest, htoken, _, hcurrent, hwaiting, deadline, hset, hbefore⟩ :=
        reportPlayback_playing hwell hproduced hnew
      have hheld : s.point.chunk = some chunk := by rw [hpoint]; rfl
      have hlive : Live s.device request :=
        ⟨hcurrent, hwaiting, deadline, hset, Nat.lt_of_le_of_lt (Nat.le_add_right _ _) hbefore⟩
      have htone : chunk.tone = true := by
        cases htone : chunk.tone with
        | true => rfl
        | false => exact absurd hlive (h.dead chunk hheld htone request hrequest htoken)
      have hlogged := h.logged chunk hpoint
      rw [← htoken, ← htone]
      exact hlogged

theorem loop_holds {s : PlaybackWorker} (h : s.Holds) (input : LoopInput)
    (hfresh : (toneRequestIds (s.loop input).calls).Nodup) : (s.loop input).Holds := by
  cases hpoint : s.point with
  | top =>
      simp only [loop, hpoint] at hfresh ⊢
      split
      · rename_i hcontinues
        rw [if_pos hcontinues] at hfresh
        have hasked := h.ask hfresh
        refine ⟨hasked.device, ?_, (fun _ heq => by cases heq), (fun _ heq => by cases heq),
          hasked.queued, (fun _ heq => by cases heq), hasked.heard⟩
        intro token heq request hrequest htoken
        cases heq
        refine requested_of_token hfresh true hrequest ?_
        rw [← htoken]
        exact congrArg (fun d => d.control.tone.token) hasked.device.symm
      · exact h.forget .ended (Or.inr rfl)
  | requested token =>
      simp only [loop, hpoint] at hfresh ⊢
      exact h.compareRequest hpoint hfresh
  | reading token =>
      simp only [loop, hpoint] at hfresh ⊢
      exact h.readPcm hpoint input.delay _ hfresh
  | read chunk available =>
      simp only [loop, hpoint] at hfresh ⊢
      have hasked := h.ask hfresh
      have hat : s.nativeGetPlaybackRequest.1.point = .read chunk available := hpoint
      split
      · exact hasked.forget .top (Or.inl rfl)
      · split
        · exact hasked.proceed (.silent chunk.request) (by rw [hat]; exact fun _ heq => heq)
            (fun _ heq => by cases heq) (by rw [hat]; exact fun _ heq => heq)
            fun _ heq => by cases heq
        · exact hasked.proceed (.writing chunk 0) (by rw [hat]; exact fun _ heq => heq)
            (by rw [hat]; exact fun _ heq => heq) (by rw [hat]; exact fun _ heq => heq)
            fun _ heq => by cases heq
  | silent token =>
      simp only [loop, hpoint] at hfresh ⊢
      exact h.pause hfresh
  | writing chunk offset =>
      simp only [loop, hpoint] at hfresh ⊢
      split
      · rename_i hmore
        rw [if_pos hmore] at hfresh
        have hasked := h.ask hfresh
        have hat : s.nativeGetPlaybackRequest.1.point = .writing chunk offset := hpoint
        split
        · exact hasked.proceed (.offering chunk offset) (by rw [hat]; exact fun _ heq => heq)
            (by rw [hat]; exact fun _ heq => heq) (by rw [hat]; exact fun _ heq => heq)
            fun _ heq => by cases heq
        · exact hasked.proceed (.finishing chunk offset) (by rw [hat]; exact fun _ heq => heq)
            (by rw [hat]; exact fun _ heq => heq) (by rw [hat]; exact fun _ heq => heq)
            fun _ heq => by cases heq
      · exact h.proceed (.finishing chunk offset) (by rw [hpoint]; exact fun _ heq => heq)
          (by rw [hpoint]; exact fun _ heq => heq) (by rw [hpoint]; exact fun _ heq => heq)
          fun _ heq => by cases heq
  | offering chunk offset =>
      simp only [loop, hpoint]
      exact h.write hpoint input.written
  | offered chunk offset =>
      simp only [loop, hpoint] at hfresh ⊢
      split
      · rename_i hstart
        rw [if_pos hstart] at hfresh
        have hasked := h.ask hfresh
        have hat : s.nativeGetPlaybackRequest.1.point = .offered chunk offset := hpoint
        exact (hasked.proceed (.writing chunk offset) (by rw [hat]; exact fun _ heq => heq)
          (by rw [hat]; exact fun _ heq => heq) (by rw [hat]; exact fun _ heq => heq)
          fun _ heq => by cases heq).play _
      · exact h.proceed (.writing chunk offset) (by rw [hpoint]; exact fun _ heq => heq)
          (by rw [hpoint]; exact fun _ heq => heq) (by rw [hpoint]; exact fun _ heq => heq)
          fun _ heq => by cases heq
  | finishing chunk offset =>
      simp only [loop, hpoint] at hfresh ⊢
      exact h.finish hpoint hfresh
  | confirming chunk =>
      simp only [loop, hpoint] at hfresh ⊢
      exact h.confirm hpoint hfresh
  | ended =>
      simp only [loop, hpoint]
      exact h

/-- A new worker has read nothing yet. -/
theorem Holds.restart {s : PlaybackWorker} (h : s.Holds) :
    { s with point := .top, playing := false, playbackRequest := 0, queued := [] }.Holds :=
  ⟨h.device, (fun _ heq => by cases heq), (fun _ heq => by cases heq), (fun _ heq => by cases heq),
    (fun _ hin => by cases hin), (fun _ heq => by cases heq), h.heard⟩

/-- The other threads leave it to the worker to answer that a tone plays. -/
def LeavesAnswer : WorkerEvent → Prop
  | .other (.reportPlayback _ playing _ _) => playing = false
  | .other _ | .loop _ | .stopPlayback | .restart => True

instance : DecidablePred LeavesAnswer
  | .other (.reportPlayback _ playing _ _) => inferInstanceAs (Decidable (playing = false))
  | .other (.requestTone _ _) | .other (.setTone _) | .other (.report _) | .other .playbackRequest
  | .other (.toneActive _) | .other (.readTone _ _) | .other (.enqueueOperation _ _ _)
  | .other .takeCommand | .other .takeReport | .other .reset | .other (.wait _) | .loop _
  | .stopPlayback | .restart => isTrue trivial

theorem step_holds {s : PlaybackWorker} (h : s.Holds) {e : WorkerEvent} (hleaves : LeavesAnswer e)
    (hfresh : (toneRequestIds (s.step e).calls).Nodup) : (s.step e).Holds := by
  cases e with
  | loop input => exact loop_holds h input hfresh
  | other c =>
      refine h.call (fun token delay delay' heq => ?_) hfresh
      rw [heq] at hleaves
      cases hleaves
  | stopPlayback =>
      exact ⟨h.device, h.used, h.dead, h.current, (fun _ hin => by cases hin), h.logged, h.heard⟩
  | restart =>
      simp only [step]
      split
      · exact h.restart
      · exact h

end Invariant

section Calls

/-- No call is undone. -/
theorem calls_step (s : PlaybackWorker) (e : WorkerEvent) : s.calls <+: (s.step e).calls := by
  have hcall : ∀ c, s.calls <+: s.calls ++ [c] := fun c => List.prefix_append _ _
  cases e with
  | loop input =>
      simp only [step, loop]
      cases s.point with
      | top | writing _ _ | offered _ _ =>
          dsimp only
          split
          · exact hcall _
          · exact List.prefix_rfl
      | requested token =>
          simp only [compareRequest]
          split
          · exact List.prefix_rfl
          · split
            · exact hcall _
            · exact List.prefix_rfl
      | silent token =>
          simp only [pause]
          split <;> split
          · exact hcall _
          · exact hcall _
          · exact List.prefix_rfl
          · exact List.prefix_rfl
      | offering chunk offset =>
          simp only [write]
          split <;> exact List.prefix_rfl
      | finishing chunk offset =>
          simp only [finish]
          split
          · exact hcall _
          · exact List.prefix_rfl
      | reading _ | read _ _ | confirming _ => exact hcall _
      | ended => exact List.prefix_rfl
  | other c => exact hcall c
  | stopPlayback => exact List.prefix_rfl
  | restart =>
      simp only [step]
      split <;> exact List.prefix_rfl

theorem calls_run (s : PlaybackWorker) (es : List WorkerEvent) :
    s.calls <+: (run step s es).calls :=
  run_preserves (fun t => s.calls <+: t.calls)
    (fun t e h => h.trans (calls_step t e)) List.prefix_rfl es

end Calls

section Runs

theorem run_holds {es : List WorkerEvent} (hleaves : ∀ e ∈ es, LeavesAnswer e) :
    ∀ {s : PlaybackWorker}, s.Holds → (toneRequestIds (run step s es).calls).Nodup →
      (run step s es).Holds := by
  induction es with
  | nil => exact fun h _ => h
  | cons e es ih =>
      intro s h hfresh
      obtain ⟨later, hlater⟩ := calls_run (s.step e) es
      have hfirst : (toneRequestIds (s.step e).calls).Nodup :=
        fresh_of_append (hlater.symm ▸ hfresh)
      exact ih (fun e he => hleaves e (List.mem_cons_of_mem _ he))
        (step_holds h (hleaves e List.mem_cons_self) hfirst) hfresh

/-- The answer that a tone plays is only given once a whole chunk of that tone has been
written to a track that the worker has let play, however the other threads and the clock
interfere; and the track never holds audio of an earlier request. -/
theorem acknowledged_tones_were_played {es : List WorkerEvent} (hleaves : ∀ e ∈ es, LeavesAnswer e)
    (hfresh : (toneRequestIds (run step start es).calls).Nodup) :
    (∀ request : UInt32,
      .toneState request.toNat true false ∈ (run step start es).device.control.produced →
        ⟨toneToken request true, true⟩ ∈ (run step start es).finished) ∧
      ∀ chunk ∈ (run step start es).queued,
        chunk.request = (run step start es).playbackRequest :=
  have h := run_holds hleaves start_holds hfresh
  ⟨h.heard, h.queued⟩

/-- A round of the loop that plays a chunk of the tone of request 7. -/
def toneRound : List WorkerEvent :=
  .other (.report
      { requestId := 0, deviceId := "phone", name := "Phone", volume := 5, minimum := 0,
        maximum := 15, fixed := false, speaker := true, failed := false }) ::
    .other (.requestTone 7 true) :: .restart ::
    List.replicate 10
      (.loop
        { continues := true, available := 0, written := some frameSamples, delay := 1,
          delay' := 0 })

theorem acknowledged_tones_were_played_round :
    ⟨toneToken 7 true, true⟩ ∈ (run step start toneRound).finished :=
  (acknowledged_tones_were_played (by decide) (by decide)).1 7 (by decide)

end Runs

end PlaybackWorker

end Soundwave

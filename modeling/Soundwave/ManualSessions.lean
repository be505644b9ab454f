import Soundwave.CalibrationLog
import Soundwave.DesktopController

/-!
# Sessions of the manual calibration

A receiver is in a session from the moment its Begin is queued, before the Begin is
confirmed.  `Orderly` ties the sessions, the open requests and the log together: the
receivers of a session have had their Begin confirmed, or still wait for it and have no
other request meanwhile.  So a calibration volume is queued only to a receiver that has
confirmed a Begin which nothing has ended since.
-/

namespace Soundwave

section Logs

/-- A Begin and what the log says after it; the sessions were not cleared. -/
def OpenSince (log : List ManualRecord) (id request expected : Nat)
    (later : List ManualRecord) : Prop :=
  (∃ earlier, log = earlier ++ .begun id request expected :: later) ∧
    .closed ∉ later ∧ .cleared ∉ later

/-- The reply of an adjustable speaker that stands where it was expected. -/
structure Confirms (request expected : Nat) (reply : DeviceStatus) : Prop where
  number : reply.requestId = request
  failed : reply.failed = false
  fixed : reply.fixed = false
  speaker : reply.speaker = true
  volume : reply.volume = expected

/-- A Begin of the receiver was confirmed, and nothing has ended the session since. -/
def InSession (log : List ManualRecord) (id : Nat) : Prop :=
  ∃ request expected later reply, OpenSince log id request expected later ∧
    .answered id request reply ∈ later ∧ Confirms request expected reply

/-- The requests to a receiver that were neither answered nor given up. -/
def unanswered (id : Nat) (log : List ManualRecord) : List Nat :=
  log.foldl (fun open' record =>
    match record with
    | .begun id' request _ => if id' = id then open' ++ [request] else open'
    | .volume id' request _ => if id' = id then open' ++ [request] else open'
    | .answered id' request _ => if id' = id then open'.erase request else open'
    | .abandoned id' request => if id' = id then open'.erase request else open'
    | .closed => open'
    | .cleared => open') []

/-- The record ends a request. -/
def ManualRecord.Ends (record : ManualRecord) (id request : Nat) : Prop :=
  (∃ reply, record = .answered id request reply) ∨ record = .abandoned id request

/-- The record is of a request that was queued. -/
def ManualRecord.Sends (record : ManualRecord) (id request : Nat) : Prop :=
  (∃ expected, record = .begun id request expected) ∨ ∃ index, record = .volume id request index

/-- Records that clear no session. -/
def Calm (record : ManualRecord) : Prop :=
  record ≠ .closed ∧ record ≠ .cleared

theorem OpenSince.append {log later : List ManualRecord} {id request expected : Nat}
    (h : OpenSince log id request expected later) {record : ManualRecord} (hcalm : Calm record) :
    OpenSince (log ++ [record]) id request expected (later ++ [record]) := by
  obtain ⟨⟨earlier, rfl⟩, hclosed, hcleared⟩ := h
  refine ⟨⟨earlier, by rw [List.append_assoc, List.cons_append]⟩, ?_, ?_⟩
  · intro hmem
    rcases List.mem_append.mp hmem with hmem | hmem
    · exact hclosed hmem
    · exact hcalm.1 (List.mem_singleton.mp hmem).symm
  · intro hmem
    rcases List.mem_append.mp hmem with hmem | hmem
    · exact hcleared hmem
    · exact hcalm.2 (List.mem_singleton.mp hmem).symm

theorem openSince_begun (log : List ManualRecord) (id request expected : Nat) :
    OpenSince (log ++ [.begun id request expected]) id request expected [] :=
  ⟨⟨log, rfl⟩, List.not_mem_nil, List.not_mem_nil⟩

theorem InSession.append {log : List ManualRecord} {id : Nat} (h : InSession log id)
    {record : ManualRecord} (hcalm : Calm record) : InSession (log ++ [record]) id := by
  obtain ⟨request, expected, later, reply, hopen, hanswered, hconfirms⟩ := h
  exact ⟨request, expected, later ++ [record], reply, hopen.append hcalm,
    List.mem_append_left _ hanswered, hconfirms⟩

/-- The answer to the Begin makes it a session. -/
theorem OpenSince.answered {log later : List ManualRecord} {id request expected : Nat}
    {reply : DeviceStatus} (h : OpenSince log id request expected later)
    (hconfirms : Confirms request expected reply) :
    InSession (log ++ [.answered id request reply]) id :=
  ⟨request, expected, later ++ [.answered id request reply], reply,
    h.append (by constructor <;> nofun), List.mem_append_right _ (List.mem_singleton_self _),
    hconfirms⟩

/-- What holds of every prefix of a log, also holds of those of a longer one. -/
theorem prefixes_append {P : List ManualRecord → Prop} {log : List ManualRecord}
    (h : ∀ before after, log = before ++ after → P before) {record : ManualRecord}
    (hnew : P (log ++ [record])) :
    ∀ before after, log ++ [record] = before ++ after → P before := by
  intro before after heq
  rcases List.eq_nil_or_concat after with rfl | ⟨init, last, rfl⟩
  · rw [List.append_nil] at heq
    rw [← heq]
    exact hnew
  · rw [List.concat_eq_append, ← List.append_assoc] at heq
    exact h before init (List.append_inj' heq rfl).1

/-- What holds before every volume request of a log. -/
theorem volumes_append {P : List ManualRecord → Nat → Prop} {log : List ManualRecord}
    (h : ∀ before id request index after,
      log = before ++ .volume id request index :: after → P before id)
    {record : ManualRecord}
    (hnew : ∀ id request index, record = .volume id request index → P log id)
    (before : List ManualRecord) (id request index : Nat) (after : List ManualRecord)
    (heq : log ++ [record] = before ++ .volume id request index :: after) : P before id := by
  rcases concat_eq_append_cons heq with ⟨-, rfl, hlast⟩ | ⟨earlier, -, hearlier⟩
  · exact hnew id request index hlast
  · exact h before id request index earlier hearlier

theorem ManualRecord.Ends.calm {record : ManualRecord} {id request : Nat}
    (h : record.Ends id request) : Calm record := by
  rcases h with ⟨reply, rfl⟩ | rfl
  · exact ⟨nofun, nofun⟩
  · exact ⟨nofun, nofun⟩

theorem ManualRecord.Sends.calm {record : ManualRecord} {id request : Nat}
    (h : record.Sends id request) : Calm record := by
  rcases h with ⟨expected, rfl⟩ | ⟨index, rfl⟩
  · exact ⟨nofun, nofun⟩
  · exact ⟨nofun, nofun⟩

theorem unanswered_append (id : Nat) (log : List ManualRecord) (record : ManualRecord) :
    unanswered id (log ++ [record]) =
      match record with
      | .begun id' request _ =>
          if id' = id then unanswered id log ++ [request] else unanswered id log
      | .volume id' request _ =>
          if id' = id then unanswered id log ++ [request] else unanswered id log
      | .answered id' request _ =>
          if id' = id then (unanswered id log).erase request else unanswered id log
      | .abandoned id' request =>
          if id' = id then (unanswered id log).erase request else unanswered id log
      | .closed => unanswered id log
      | .cleared => unanswered id log := by
  rw [unanswered, List.foldl_append]
  rfl

theorem ManualRecord.Ends.unanswered {record : ManualRecord} {id request : Nat}
    (h : record.Ends id request) (log : List ManualRecord) (id' : Nat) :
    Soundwave.unanswered id' (log ++ [record]) =
      if id = id' then (Soundwave.unanswered id' log).erase request
      else Soundwave.unanswered id' log := by
  rcases h with ⟨reply, rfl⟩ | rfl
  · exact unanswered_append id' log _
  · exact unanswered_append id' log _

theorem ManualRecord.Sends.unanswered {record : ManualRecord} {id request : Nat}
    (h : record.Sends id request) (log : List ManualRecord) (id' : Nat) :
    Soundwave.unanswered id' (log ++ [record]) =
      if id = id' then Soundwave.unanswered id' log ++ [request]
      else Soundwave.unanswered id' log := by
  rcases h with ⟨expected, rfl⟩ | ⟨index, rfl⟩
  · exact unanswered_append id' log _
  · exact unanswered_append id' log _

end Logs

section Numbers

namespace Registry

/-- Every reply that waits carries the number it is stored under. -/
def Numbered (r : Registry) : Prop :=
  ∀ id n status, r.HasReply id n status → status.requestId = n

theorem Numbered.of_noNew {r r' : Registry} (h : r.Numbered) (hfewer : r.NoNewReplies r') :
    r'.Numbered :=
  fun id n status hreply => h id n status (hfewer.1 id n status hreply)

theorem numbered_react {r : Registry} (h : r.Numbered) (e : RegistryEvent) :
    (r.react e).Numbered := by
  intro id n status hreply
  rcases react_hasReply hreply with hreply | ⟨raw, _, hn, hstatus⟩
  · exact h id n status hreply
  · rw [← hstatus]
    exact hn

theorem noNewReplies_volumeRequestWithBarrier (r : Registry) (refusal : Nat → Option String)
    (id index : Nat) (purpose : VolumePurpose) (barrier : Bool) :
    r.NoNewReplies (r.volumeRequestWithBarrier refusal id index purpose barrier).2 := by
  rcases r.volumeRequestWithBarrier_cases refusal id index purpose barrier with ⟨e, heq⟩ | heq
  · rw [heq]
    exact noNewReplies_of_eq rfl
  · rw [heq]
    exact noNewReplies_modify r id _ (fun _ => .of_eq rfl rfl)

theorem noNewReplies_mapValues (r : Registry) (f : Nat → Receiver → Receiver)
    (hf : ∀ id receiver, (f id receiver).replies = receiver.replies ∧
      (f id receiver).toneReplies = receiver.toneReplies) :
    r.NoNewReplies { r with receivers := r.receivers.mapValues f } := by
  refine noNewReplies_of_receivers (fun id receiver' hget => ?_)
  rw [SortedMap.get?_mapValues] at hget
  obtain ⟨receiver, hold, rfl⟩ := Option.map_eq_some_iff.mp hget
  exact ⟨receiver, hold, .of_eq (hf id receiver).1 (hf id receiver).2⟩

/-- No call of any thread stores a reply under another number. -/
theorem numbered_rules : World.TickRules environment (fun r _ _ => r.Numbered) where
  environment := fun _ _ _ e h => numbered_react h e
  denyAll := fun r _ _ h => h.of_noNew (noNewReplies_mapValues r _ (fun _ _ => ⟨rfl, rfl⟩))
  restore := fun r _ _ refusal id index h =>
    h.of_noNew (noNewReplies_volumeRequest r refusal id index .restoreSpeaker)
  panel := fun r _ _ refusal id index _ _ h =>
    h.of_noNew (noNewReplies_volumeRequestWithBarrier r refusal id index .restoreSpeaker true)
  panelRefused := fun r _ _ refusal id index _ _ h =>
    h.of_noNew (noNewReplies_volumeRequestWithBarrier r refusal id index .restoreSpeaker true)
  takeReply := fun r _ _ id request h => h.of_noNew (noNewReplies_takeReply r id request)
  stored := fun _ _ _ _ _ h => h
  silence := fun r _ _ refusal h => h.of_noNew (noNewReplies_broadcast r refusal _)
  cancel := fun r _ _ refusal h => h.of_noNew (noNewReplies_broadcast r refusal _)
  approve := fun r _ _ _ h => h.of_noNew (noNewReplies_mapValues r _ (fun _ _ => ⟨rfl, rfl⟩))
  takeUnsolicited := fun r _ _ id h =>
    h.of_noNew (noNewReplies_modify r id r.issued (fun _ => .of_eq rfl rfl))
  confirmed := fun _ _ _ _ _ h => h

/-- The numbers in a world. -/
theorem numbered_step (encode : Library → List UInt8) {w : World Unit RegistryEvent}
    (h : w.registry.Numbered) (e : WorldEvent RegistryEvent) :
    (w.step environment encode e).registry.Numbered :=
  World.step_holds encode numbered_rules
    (fun r k i id _ _ hP => numbered_rules.takeUnsolicited r k i id hP) h e

theorem numbered_operate (encode : Library → List UInt8) {w : World Unit RegistryEvent}
    (h : w.registry.Numbered) {o : Operation} (ho : o ≠ .tick) :
    (w.operate environment encode o).registry.Numbered :=
  World.operate_holds_of_ne_tick encode numbered_rules.toCallRules h o ho

end Registry

end Numbers

namespace Controller

variable (encode : Library → List UInt8)

section Frames

/-- Nothing of the manual calibration changes, except perhaps slider values. -/
structure Aside (c c' : Controller Unit RegistryEvent) : Prop where
  replies : c'.replies = c.replies
  sessions : c'.sessions = c.sessions
  log : c'.log = c.log
  numbered : c.world.registry.Numbered → c'.world.registry.Numbered

theorem Aside.refl (c : Controller Unit RegistryEvent) : c.Aside c :=
  ⟨rfl, rfl, rfl, id⟩

theorem Aside.trans {a b c : Controller Unit RegistryEvent} (h : a.Aside b) (h' : b.Aside c) :
    a.Aside c :=
  ⟨h'.replies.trans h.replies, h'.sessions.trans h.sessions, h'.log.trans h.log,
    fun hn => h'.numbered (h.numbered hn)⟩

instance : IsPreorder (Controller Unit RegistryEvent) Aside where
  refl := Aside.refl
  trans := fun _ _ _ => Aside.trans

theorem pause_aside (c : Controller Unit RegistryEvent) :
    c.Aside (c.pause Registry.environment encode) := by
  rw [pause]
  cases c.script with
  | nil =>
      exact ⟨rfl, rfl, rfl, id⟩
  | cons turn script =>
      refine ⟨rfl, rfl, rfl, ?_⟩
      intro h
      exact run_preserves (fun w : World Unit RegistryEvent => w.registry.Numbered)
        (fun w e hw => Registry.numbered_step encode hw e) h turn.world

theorem registry_aside {β : Type} {f : (Nat → Option String) → Registry → β × Registry}
    (hf : ∀ refusal r, Registry.NoNewReplies r (f refusal r).2)
    (c : Controller Unit RegistryEvent) :
    c.Aside (c.registry Registry.environment encode f).2 := by
  have hpause := pause_aside encode c
  refine hpause.trans ⟨rfl, rfl, rfl, ?_⟩
  intro h
  exact World.call_holds (P := fun r _ _ => r.Numbered)
    Registry.numbered_rules.toRequestRules h f (fun r _ _ refusal hr => hr.of_noNew (hf refusal r))

theorem volume_aside {β : Type} {f : World Unit RegistryEvent → β × World Unit RegistryEvent}
    (hf : ∀ w, w.registry.Numbered → (f w).2.registry.Numbered)
    (c : Controller Unit RegistryEvent) :
    c.Aside (c.volume Registry.environment encode f).2 :=
  (pause_aside encode c).trans ⟨rfl, rfl, rfl, hf _⟩

theorem automatic_aside {β : Type}
    (f : Option String → CalibrationController → β × CalibrationController)
    (c : Controller Unit RegistryEvent) :
    c.Aside (c.automatic Registry.environment encode f).2 :=
  (pause_aside encode c).trans ⟨rfl, rfl, rfl, id⟩

end Frames

section Handlers

theorem within_registry {β : Type} {f : (Nat → Option String) → Registry → β × Registry}
    (hf : ∀ refusal r, Registry.NoNewReplies r (f refusal r).2) :
    Within Aside (.lift (registry Registry.environment encode f) :
      Acting Unit RegistryEvent β) :=
  registry_aside encode hf

theorem within_volume {β : Type} {f : World Unit RegistryEvent → β × World Unit RegistryEvent}
    (hf : ∀ w, w.registry.Numbered → (f w).2.registry.Numbered) :
    Within Aside (.lift (volume Registry.environment encode f) : Acting Unit RegistryEvent β) :=
  volume_aside encode hf

theorem within_automatic {β : Type}
    (f : Option String → CalibrationController → β × CalibrationController) :
    Within Aside (.lift (automatic Registry.environment encode f) :
      Acting Unit RegistryEvent β) :=
  automatic_aside encode f

theorem within_current : Within Aside (current : Acting Unit RegistryEvent _) :=
  within_gets _

theorem within_ensure (condition : Bool) (text : String) :
    Within Aside (ensure condition text : Acting Unit RegistryEvent Unit) :=
  within_ite (within_pure ()) (within_throw text)

theorem within_context {α : Type} (o : Option α) (text : String) :
    Within Aside (context o text : Acting Unit RegistryEvent α) := by
  cases o with
  | none => exact within_throw text
  | some a => exact within_pure a

theorem within_question {α : Type} (result : Except String α) :
    Within Aside (question result : Acting Unit RegistryEvent α) := by
  cases result with
  | error text => exact within_throw text
  | ok a => exact within_pure a

theorem within_view :
    Within Aside (view Registry.environment encode : Acting Unit RegistryEvent ControlState) :=
  within_volume encode (fun _ h => h)

theorem within_tryVolume
    {f : World Unit RegistryEvent → Except String Unit × World Unit RegistryEvent}
    (hf : ∀ w, w.registry.Numbered → (f w).2.registry.Numbered) :
    Within Aside (tryVolume Registry.environment encode f) :=
  within_bind (within_volume encode hf) within_question

theorem within_broadcast (message : ControlMessage) :
    Within Aside (broadcast Registry.environment encode message : Acting Unit RegistryEvent Unit) :=
  within_registry encode (fun refusal r => r.noNewReplies_broadcast refusal message)

theorem within_setNotice (text : String) :
    Within Aside (setNotice text : Acting Unit RegistryEvent Unit) :=
  within_modify (fun _ => ⟨rfl, rfl, rfl, id⟩)

theorem within_setPoint (point : Nat) :
    Within Aside (setPoint point : Acting Unit RegistryEvent Unit) :=
  within_modify (fun _ => ⟨rfl, rfl, rfl, id⟩)

/-- The operations of the volume controller, as commands use them. -/
theorem within_operation {o : Operation} (ho : o ≠ .tick)
    {f : World Unit RegistryEvent → Except String Unit × World Unit RegistryEvent}
    (hf : ∀ w, (f w).2 = w.operate Registry.environment encode o) :
    Within Aside (tryVolume Registry.environment encode f) := by
  apply within_tryVolume
  intro w h
  rw [hf w]
  exact Registry.numbered_operate encode h ho

theorem within_prelude :
    Within Aside (prelude Registry.environment encode : Acting Unit RegistryEvent Unit) := by
  refine within_bind (within_automatic encode _) (fun status => ?_)
  refine within_bind (within_ensure _ _) (fun _ => ?_)
  refine within_bind (within_automatic encode _) (fun result => ?_)
  cases result with
  | none =>
      exact within_bind (within_pure ()) (fun _ => within_automatic encode _)
  | some profile =>
      exact within_bind (within_operation encode (o := .setDraft profile) nofun (fun _ => rfl))
        (fun _ => within_automatic encode _)

theorem within_deviceVolume (id index : Nat) :
    Within Aside (deviceVolume Registry.environment encode id index :
      Acting Unit RegistryEvent Unit) := by
  refine within_bind (within_view encode) (fun view => ?_)
  refine within_bind within_current (fun c => ?_)
  apply within_ite
  · refine within_bind (within_context _ _) (fun device => ?_)
    refine within_bind (within_ensure _ _) (fun _ => ?_)
    refine within_bind (within_volume encode ?_) (fun _ => ?_)
    · exact fun w h => Registry.numbered_operate encode h (o := .remember id device) nofun
    · have hlast : ∀ index, Within Aside (do
          Throwing.modify (fun c : Controller Unit RegistryEvent =>
            { c with pending := c.pending.insert id (index, c.world.now) })
          setNotice "" : Acting Unit RegistryEvent Unit) := fun index =>
        within_bind (within_modify (fun _ => ⟨rfl, rfl, rfl, fun h => h⟩))
          (fun _ => within_setNotice "")
      apply within_ite
      · exact within_bind (within_setPoint _) (fun _ => hlast _)
      · exact hlast _
  · refine within_bind (within_context _ _) (fun profile => ?_)
    refine within_bind (within_ensure _ _) (fun _ => ?_)
    exact within_bind (within_operation encode (o := .setVolume index) nofun (fun _ => rfl))
      (fun _ => within_setNotice "")

theorem within_setMaster (id : Nat) :
    Within Aside (setMaster Registry.environment encode id : Acting Unit RegistryEvent Unit) := by
  refine within_bind within_current (fun c => ?_)
  refine within_bind (within_ensure _ _) (fun _ => ?_)
  refine within_bind (within_context _ _) (fun device => ?_)
  exact within_bind (within_operation encode (o := .setMaster device) nofun (fun _ => rfl))
    (fun _ => within_setPoint _)

theorem within_masterPoint (index : Nat) :
    Within Aside (masterPoint Registry.environment encode index :
      Acting Unit RegistryEvent Unit) := by
  refine within_bind (within_view encode) (fun view => ?_)
  refine within_bind (within_context _ _) (fun draft => ?_)
  refine within_bind within_current (fun c => ?_)
  refine within_bind (within_context _ _) (fun receiver => ?_)
  exact within_bind (within_prelude encode) (fun _ => within_deviceVolume encode _ _)

theorem within_masterPosition (position : Nat) :
    Within Aside (masterPosition Registry.environment encode position :
      Acting Unit RegistryEvent Unit) := by
  refine within_bind (within_view encode) (fun view => ?_)
  refine within_bind (within_context _ _) (fun profile => ?_)
  refine within_bind within_current (fun c => ?_)
  refine within_bind (within_context _ _) (fun index => ?_)
  exact within_bind (within_operation encode (o := .setVolume index) nofun (fun _ => rfl))
    (fun _ => within_setNotice "")

theorem within_record (id : Nat) :
    Within Aside (record Registry.environment encode id : Acting Unit RegistryEvent Unit) := by
  refine within_bind (within_view encode) (fun first => ?_)
  refine within_bind within_current (fun c => ?_)
  refine within_bind (within_ensure _ _) (fun _ => ?_)
  refine within_bind (within_context _ _) (fun device => ?_)
  refine within_bind (within_view encode) (fun second => ?_)
  refine within_bind (within_context _ _) (fun draft => ?_)
  refine within_bind (within_ensure _ _) (fun _ => ?_)
  exact within_bind (within_operation encode (o := .edit (recordPoint c.point device)) nofun
    (fun _ => rfl)) (fun _ => within_setNotice _)

theorem within_removePoint (id : Nat) :
    Within Aside (removePoint Registry.environment encode id :
      Acting Unit RegistryEvent Unit) := by
  refine within_bind within_current (fun c => ?_)
  refine within_bind (within_context _ _) (fun device => ?_)
  exact within_operation encode (o := .edit (removeRecorded c.point device)) nofun (fun _ => rfl)

theorem within_startTones (ids : List Nat) :
    Within Aside (startTones Registry.environment encode ids :
      Acting Unit RegistryEvent Unit) := by
  induction ids with
  | nil =>
      exact within_pure ()
  | cons target rest ih =>
      refine within_bind (within_registry encode
        (fun refusal r => r.noNewReplies_plainRequest refusal target _)) (fun result => ?_)
      cases result with
      | ok request =>
          exact ih
      | error text =>
          exact within_bind (within_broadcast encode _) (fun _ => within_throw text)

theorem within_preview (pair : Bool) (id : Nat) :
    Within Aside (preview Registry.environment encode pair id :
      Acting Unit RegistryEvent Unit) := by
  refine within_bind (within_view encode) (fun view => ?_)
  refine within_bind within_current (fun c => ?_)
  refine within_bind (within_ensure _ _) (fun _ => ?_)
  apply within_ite
  · refine within_bind (within_context _ _) (fun profile => ?_)
    refine within_bind (within_context _ _) (fun follower => ?_)
    refine within_bind (within_ensure _ _) (fun _ => ?_)
    refine within_bind (within_context _ _) (fun master => ?_)
    exact within_bind (within_broadcast encode _) (fun _ => within_startTones encode _)
  · exact within_bind (within_broadcast encode _) (fun _ => within_startTones encode _)

theorem within_queryAll (receivers : List ReceiverSnapshot) :
    Within Aside (queryAll Registry.environment encode receivers :
      Acting Unit RegistryEvent Unit) := by
  induction receivers with
  | nil =>
      exact within_pure ()
  | cons receiver rest ih =>
      exact within_bind (within_registry encode
        (fun refusal r => r.noNewReplies_plainRequest refusal receiver.id _)) (fun _ => ih)

theorem within_selectProfile (id : Nat) :
    Within Aside (selectProfile Registry.environment encode id :
      Acting Unit RegistryEvent Unit) := by
  refine within_bind within_current (fun c => ?_)
  refine within_bind (within_ensure _ _) (fun _ => ?_)
  refine within_bind (within_operation encode (o := .select id) nofun (fun _ => rfl)) (fun _ => ?_)
  refine within_bind (within_queryAll encode _) (fun _ => ?_)
  refine within_bind (within_view encode) (fun view => ?_)
  exact within_bind (within_setPoint _) (fun _ => within_setNotice "")

theorem within_saveProfile (name : String) (copy : Bool) :
    Within Aside (saveProfile Registry.environment encode name copy :
      Acting Unit RegistryEvent Unit) := by
  refine within_bind within_current (fun c => ?_)
  refine within_bind (within_ensure _ _) (fun _ => ?_)
  refine within_bind (within_operation encode (o := .edit _) nofun (fun _ => rfl)) (fun _ => ?_)
  exact within_bind (within_operation encode (o := .saveDraft name copy) nofun (fun _ => rfl))
    (fun _ => within_setNotice _)

theorem within_adjustAll (steps : Int) :
    Within Aside (adjustAll Registry.environment encode steps :
      Acting Unit RegistryEvent Unit) := by
  refine within_bind (within_view encode) (fun view => ?_)
  refine within_bind (within_context _ _) (fun profile => ?_)
  refine within_bind (within_registry encode (fun _ _ => Registry.noNewReplies_of_eq rfl))
    (fun snapshots => ?_)
  dsimp only
  cases nextVolume steps profile (profile.available
      (profile.participating (snapshots.filterMap ReceiverSnapshot.device))) with
  | none =>
      exact within_pure ()
  | some index =>
      exact within_operation encode (o := .setVolume index) nofun (fun _ => rfl)

/-- **Most commands leave the manual calibration alone.**  Only two end sessions. -/
theorem within_handle (command : Command) (hclose : command ≠ .closeCalibration)
    (hcalibrate : command ≠ .calibrate) :
    Within Aside (handle Registry.environment encode command :
      Acting Unit RegistryEvent Unit) := by
  cases command with
  | «show» page =>
      exact within_modify (fun _ => ⟨rfl, rfl, rfl, id⟩)
  | toggle =>
      refine within_bind (within_view encode) (fun view => ?_)
      refine within_bind (within_ensure _ _) (fun _ => ?_)
      exact within_modify (fun _ => ⟨rfl, rfl, rfl, id⟩)
  | adjustAll steps =>
      exact within_adjustAll encode steps
  | openCalibration =>
      refine within_bind (within_operation encode (o := .open) nofun (fun _ => rfl)) (fun _ => ?_)
      refine within_bind (within_view encode) (fun view => ?_)
      exact within_bind (within_setPoint _) (fun _ => within_setNotice "")
  | closeCalibration =>
      exact absurd rfl hclose
  | setMaster id =>
      exact within_setMaster encode id
  | deviceVolume id index =>
      exact within_deviceVolume encode id index
  | masterPoint index =>
      exact within_masterPoint encode index
  | masterPosition position =>
      exact within_masterPosition encode position
  | record id =>
      exact within_record encode id
  | removePoint id =>
      exact within_removePoint encode id
  | previewDevice id =>
      exact within_preview encode false id
  | previewPair id =>
      exact within_preview encode true id
  | stopTone =>
      exact within_broadcast encode _
  | calibrate =>
      exact absurd rfl hcalibrate
  | cancel =>
      exact within_pure ()
  | profile id =>
      exact within_selectProfile encode id
  | newProfile =>
      exact within_bind (within_operation encode (o := .newDraft) nofun (fun _ => rfl))
        (fun _ => within_setPoint 0)
  | saveProfile name copy =>
      exact within_saveProfile encode name copy
  | deleteProfile =>
      refine within_bind (within_view encode) (fun view => ?_)
      cases view.draft with
      | none =>
          exact within_pure ()
      | some draft =>
          exact within_operation encode (o := .delete draft.id) nofun (fun _ => rfl)
  | exit =>
      exact within_pure ()
  | copyPairing =>
      exact within_pure ()
  | copyFingerprint =>
      exact within_pure ()

end Handlers

section Invariant

/-- The sessions, the open requests and the log agree. -/
structure Orderly (c : Controller Unit RegistryEvent) : Prop where
  numbered : c.world.registry.Numbered
  sessions : ∀ id, c.sessions.contains id = true → InSession c.log id ∨
    ∃ m later, c.replies.get? id = some m ∧ m.beginning = true ∧
      OpenSince c.log id m.request m.index later
  volumes : ∀ before id request index after,
    c.log = before ++ .volume id request index :: after → InSession before id
  awaited : ∀ id, unanswered id c.log = ((c.replies.get? id).map ManualRequest.request).toList
  single : ∀ before after, c.log = before ++ after → ∀ id, (unanswered id before).length ≤ 1

variable {c c' : Controller Unit RegistryEvent}

theorem Orderly.of_aside (h : c.Orderly) (haside : c.Aside c') : c'.Orderly where
  numbered := haside.numbered h.numbered
  sessions := by
    rw [haside.sessions, haside.log, haside.replies]
    exact h.sessions
  volumes := by
    rw [haside.log]
    exact h.volumes
  awaited := by
    rw [haside.log, haside.replies]
    exact h.awaited
  single := by
    rw [haside.log]
    exact h.single

/-- Sessions may be given up at any time. -/
theorem Orderly.of_fewer (h : c.Orderly) (hworld : c'.world = c.world) (hlog : c'.log = c.log)
    (hreplies : c'.replies = c.replies)
    (hsessions : ∀ id, c'.sessions.contains id = true → c.sessions.contains id = true) :
    c'.Orderly where
  numbered := hworld ▸ h.numbered
  sessions := by
    intro id hid
    rw [hlog, hreplies]
    exact h.sessions id (hsessions id hid)
  volumes := by
    rw [hlog]
    exact h.volumes
  awaited := by
    rw [hlog, hreplies]
    exact h.awaited
  single := by
    rw [hlog]
    exact h.single

/-- All sessions end at once. -/
theorem Orderly.clear (h : c.Orderly) {record : ManualRecord}
    (hrecord : record = .closed ∨ record = .cleared) :
    ({ c.note record with sessions := .empty } : Controller Unit RegistryEvent).Orderly := by
  have hunanswered : ∀ id, unanswered id (c.log ++ [record]) = unanswered id c.log := by
    intro id
    rcases hrecord with rfl | rfl
    · exact unanswered_append id c.log _
    · exact unanswered_append id c.log _
  refine ⟨h.numbered, (fun id hid => by cases hid), ?_, ?_, ?_⟩
  · refine volumes_append h.volumes ?_
    intro id request index hvolume
    rcases hrecord with rfl | rfl
    · cases hvolume
    · cases hvolume
  · intro id
    exact (hunanswered id).trans (h.awaited id)
  · refine prefixes_append h.single ?_
    intro id
    rw [hunanswered]
    exact h.single c.log [] (List.append_nil _).symm id

/-- A request ends.  A session stays only if it is confirmed or was before. -/
theorem Orderly.ended (h : c.Orderly) {id : Nat} {m : ManualRequest} {record : ManualRecord}
    (hget : c.replies.get? id = some m) (hrecord : record.Ends id m.request)
    (hworld : c'.world = c.world) (hlog : c'.log = c.log ++ [record])
    (hreplies : c'.replies = c.replies.erase id)
    (hsessions : ∀ id', c'.sessions.contains id' = true → c.sessions.contains id' = true ∧
      (id' = id → m.beginning = true → InSession (c.log ++ [record]) id)) :
    c'.Orderly := by
  refine ⟨hworld ▸ h.numbered, ?_, ?_, ?_, ?_⟩
  · intro id' hid'
    obtain ⟨hold, hbeginning⟩ := hsessions id' hid'
    rw [hlog, hreplies, SortedMap.get?_erase]
    rcases h.sessions id' hold with hin | ⟨m', later, hget', hbeginning', hopen⟩
    · exact Or.inl (hin.append hrecord.calm)
    · by_cases heq : id' = id
      · subst heq
        rw [hget] at hget'
        cases hget'
        exact Or.inl (hbeginning rfl hbeginning')
      · rw [if_neg heq]
        exact Or.inr ⟨m', later ++ [record], hget', hbeginning', hopen.append hrecord.calm⟩
  · rw [hlog]
    refine volumes_append h.volumes ?_
    intro id' request index hvolume
    rcases hrecord with ⟨reply, rfl⟩ | rfl
    · cases hvolume
    · cases hvolume
  · intro id'
    rw [hlog, hreplies, SortedMap.get?_erase, hrecord.unanswered]
    by_cases heq : id = id'
    · subst heq
      rw [if_pos rfl, if_pos rfl, h.awaited, hget]
      simp
    · rw [if_neg heq, if_neg (Ne.symm heq)]
      exact h.awaited id'
  · rw [hlog]
    refine prefixes_append h.single ?_
    intro id'
    have hbefore := h.single c.log [] (List.append_nil _).symm id'
    rw [hrecord.unanswered]
    split_ifs
    · exact le_trans List.length_erase_le hbefore
    · exact hbefore

/-- A request is queued to a receiver without one; a volume only within a session. -/
theorem Orderly.sent (h : c.Orderly) {id : Nat} {m : ManualRequest} {record : ManualRecord}
    (hget : c.replies.get? id = none) (hrecord : record.Sends id m.request)
    (hworld : c'.world = c.world) (hlog : c'.log = c.log ++ [record])
    (hreplies : c'.replies = c.replies.insert id m)
    (hvolume : ∀ id' request index, record = .volume id' request index → InSession c.log id')
    (hsessions : ∀ id', c'.sessions.contains id' = true →
      (id' ≠ id ∧ c.sessions.contains id' = true) ∨ (id' = id ∧ InSession c.log id) ∨
      (id' = id ∧ m.beginning = true ∧ record = .begun id m.request m.index)) :
    c'.Orderly := by
  have hnone : unanswered id c.log = [] := by
    rw [h.awaited, hget]
    rfl
  refine ⟨hworld ▸ h.numbered, ?_, ?_, ?_, ?_⟩
  · intro id' hid'
    rw [hlog, hreplies, SortedMap.get?_insert]
    rcases hsessions id' hid' with ⟨hne, hold⟩ | ⟨rfl, hin⟩ | ⟨rfl, hbeginning, hbegun⟩
    · rw [if_neg hne]
      rcases h.sessions id' hold with hin | ⟨m', later, hget', hbeginning', hopen⟩
      · exact Or.inl (hin.append hrecord.calm)
      · exact Or.inr ⟨m', later ++ [record], hget', hbeginning', hopen.append hrecord.calm⟩
    · exact Or.inl (hin.append hrecord.calm)
    · rw [if_pos rfl, hbegun]
      exact Or.inr ⟨m, [], rfl, hbeginning, openSince_begun c.log id' m.request m.index⟩
  · rw [hlog]
    exact volumes_append h.volumes hvolume
  · intro id'
    rw [hlog, hreplies, SortedMap.get?_insert, hrecord.unanswered]
    by_cases heq : id = id'
    · subst heq
      rw [if_pos rfl, if_pos rfl, hnone]
      rfl
    · rw [if_neg heq, if_neg (Ne.symm heq)]
      exact h.awaited id'
  · rw [hlog]
    refine prefixes_append h.single ?_
    intro id'
    rw [hrecord.unanswered]
    split_ifs with heq
    · rw [← heq, hnone]
      simp
    · exact h.single c.log [] (List.append_nil _).symm id'

end Invariant

section Refreshing

variable {c c' : Controller Unit RegistryEvent}

/-- A reply that is taken has the number that was asked for. -/
theorem number_of_takeReply {id request : Nat} {reply : DeviceStatus}
    (hnumbered : c.world.registry.Numbered)
    (h : c.registry Registry.environment encode (fun _ r => r.takeReply id request) =
      (some reply, c')) : reply.requestId = request := by
  have hpaused := (pause_aside encode c).numbered hnumbered
  have hinterrupted := World.interrupt_holds (P := fun r _ _ => r.Numbered)
    Registry.numbered_rules.toRequestRules
    (w := (c.pause Registry.environment encode).world) hpaused
  have hreply := congrArg Prod.fst h
  obtain ⟨receiver, hget, hstored⟩ := Option.bind_eq_some_iff.mp hreply
  exact hinterrupted id request reply ⟨receiver, hget, hstored⟩

theorem accepts_confirms {m : ManualRequest} {reply : DeviceStatus}
    (h : accepts m reply = true) (hnumber : reply.requestId = m.request) :
    Confirms m.request m.index reply := by
  simp only [accepts, Bool.and_eq_true, Bool.not_eq_true', decide_eq_true_eq] at h
  exact ⟨hnumber, h.1.1.1, h.2, h.1.2, h.1.1.2⟩

theorem contains_erase {m : SortedMap Nat Unit} {id id' : Nat}
    (h : (m.erase id).contains id' = true) : m.contains id' = true ∧ id' ≠ id := by
  rw [SortedMap.contains_eq_true_iff] at h ⊢
  obtain ⟨u, hu⟩ := h
  rw [SortedMap.get?_erase] at hu
  split_ifs at hu with heq
  exact ⟨⟨u, hu⟩, heq⟩

/-- A failed request ends; with a Begin its session ends too. -/
theorem Orderly.failed (h : c.Orderly) {id : Nat} {m : ManualRequest} {record : ManualRecord}
    (hget : c.replies.get? id = some m) (hrecord : record.Ends id m.request) (notice : String) :
    ((c.note record).fail id m notice).Orderly := by
  refine h.ended hget hrecord rfl rfl rfl ?_
  intro id' hid'
  simp only [fail, note] at hid'
  split_ifs at hid' with hbeginning
  · obtain ⟨hold, hne⟩ := contains_erase hid'
    exact ⟨hold, fun heq => absurd heq hne⟩
  · exact ⟨hid', fun _ htrue => absurd htrue hbeginning⟩

/-- The entries that are still to be reviewed. -/
theorem entries_of_erase {entries : List (Nat × ManualRequest)} {id : Nat} {m : ManualRequest}
    {replies : SortedMap Nat ManualRequest}
    (h : ∀ e ∈ (id, m) :: entries, replies.get? e.1 = some e.2)
    (hnodup : (((id, m) :: entries).map Prod.fst).Nodup) :
    (∀ e ∈ entries, (replies.erase id).get? e.1 = some e.2) ∧ (entries.map Prod.fst).Nodup := by
  rw [List.map_cons, List.nodup_cons] at hnodup
  refine ⟨?_, hnodup.2⟩
  intro e he
  have hne : e.1 ≠ id := by
    rintro rfl
    exact hnodup.1 (List.mem_map.mpr ⟨e, he, rfl⟩)
  rw [SortedMap.get?_erase, if_neg hne]
  exact h e (List.mem_cons_of_mem _ he)

theorem reviewReplies_orderly (h : c.Orderly) {entries : List (Nat × ManualRequest)}
    (hentries : ∀ e ∈ entries, c.replies.get? e.1 = some e.2)
    (hnodup : (entries.map Prod.fst).Nodup) :
    (c.reviewReplies Registry.environment encode entries).Orderly := by
  induction entries generalizing c with
  | nil =>
      exact h
  | cons e rest ih =>
      obtain ⟨id, m⟩ := e
      have haside := registry_aside encode (f := fun _ r => r.takeReply id m.request)
        (fun _ r => r.noNewReplies_takeReply id m.request) c
      rw [reviewReplies]
      rcases hresult : c.registry Registry.environment encode
        (fun _ r => r.takeReply id m.request) with ⟨reply, c1⟩
      rw [hresult] at haside
      have h1 := h.of_aside haside
      have hentries1 : ∀ e ∈ (id, m) :: rest, c1.replies.get? e.1 = some e.2 := by
        intro e he
        rw [haside.replies]
        exact hentries e he
      have hget := hentries1 (id, m) List.mem_cons_self
      obtain ⟨hrest, hnodup'⟩ := entries_of_erase hentries1 hnodup
      cases reply with
      | some reply =>
          have hends : (ManualRecord.answered id m.request reply).Ends id m.request :=
            Or.inl ⟨reply, rfl⟩
          simp only
          split_ifs with haccepts
          · refine ih ?_ hrest hnodup'
            refine h1.ended hget hends rfl rfl rfl ?_
            intro id' hid'
            refine ⟨hid', ?_⟩
            rintro rfl hbeginning
            rcases h1.sessions id' hid' with hin | ⟨m', later, hget', _, hopen⟩
            · exact hin.append hends.calm
            · rw [hget] at hget'
              cases hget'
              exact hopen.answered (accepts_confirms haccepts
                (number_of_takeReply encode h.numbered hresult))
          · exact ih (h1.failed hget hends _) hrest hnodup'
      | none =>
          simp only
          split_ifs
          · exact ih (h1.failed hget (Or.inr rfl) _) hrest hnodup'
          · refine ih h1 (fun e he => hentries1 e (List.mem_cons_of_mem _ he)) hnodup'

theorem keys_nodup (m : SortedMap Nat (Nat × Nat)) (test : Nat × Nat × Nat → Bool) :
    ((m.entries.filter test).map Prod.fst).Nodup := by
  have hsorted := m.sorted.imp (fun h => ne_of_lt h)
  exact List.Nodup.sublist (List.filter_sublist.map Prod.fst) hsorted

theorem sendReady_orderly (h : c.Orderly) {ready : List (Nat × Nat)}
    (hfree : ∀ e ∈ ready, c.replies.get? e.1 = none) (hnodup : (ready.map Prod.fst).Nodup) :
    (c.sendReady Registry.environment encode ready).Orderly := by
  induction ready generalizing c with
  | nil =>
      exact h
  | cons e rest ih =>
      obtain ⟨id, index⟩ := e
      rw [List.map_cons, List.nodup_cons] at hnodup
      have hget := hfree (id, index) List.mem_cons_self
      have hrest : ∀ e ∈ rest, c.replies.get? e.1 = none := fun e he =>
        hfree e (List.mem_cons_of_mem _ he)
      have hinserted : ∀ m, ∀ e ∈ rest, (c.replies.insert id m).get? e.1 = none := by
        intro m e he
        have hne : e.1 ≠ id := by
          rintro rfl
          exact hnodup.1 (List.mem_map.mpr ⟨e, he, rfl⟩)
        rw [SortedMap.get?_insert, if_neg hne]
        exact hrest e he
      rw [sendReady]
      by_cases hsession : c.sessions.contains id = true
      · rw [if_pos hsession]
        have hfirst : c.Aside { c with pending := c.pending.erase id } :=
          ⟨rfl, rfl, rfl, fun hn => hn⟩
        have haside := hfirst.trans (registry_aside encode
          (fun refusal r => r.noNewReplies_volumeRequest refusal id index .calibration)
          { c with pending := c.pending.erase id })
        rcases hresult : Controller.registry Registry.environment encode
          (fun refusal r => r.volumeRequest refusal id index .calibration)
          { c with pending := c.pending.erase id } with ⟨answer, c1⟩
        simp only [hresult]
        rw [hresult] at haside
        have h1 := h.of_aside haside
        have hget1 : c1.replies.get? id = none := haside.replies ▸ hget
        have hsession1 : c1.sessions.contains id = true := haside.sessions ▸ hsession
        have hin : InSession c1.log id := by
          rcases h1.sessions id hsession1 with hin | ⟨m, later, hm, _, _⟩
          · exact hin
          · rw [hget1] at hm
            cases hm
        cases answer with
        | error text =>
            exact ih (h1.of_fewer rfl rfl rfl (fun _ hid => hid))
              (fun e he => haside.replies ▸ hrest e he) hnodup.2
        | ok request =>
            refine ih (h1.sent hget1 (Or.inr ⟨index, rfl⟩) rfl rfl rfl ?_ ?_)
              (fun e he => haside.replies ▸ hinserted _ e he) hnodup.2
            · intro id' request' index' hvolume
              cases hvolume
              exact hin
            · intro id' hid'
              by_cases heq : id' = id
              · exact Or.inr (Or.inl ⟨heq, hin⟩)
              · exact Or.inl ⟨heq, hid'⟩
      · rw [if_neg hsession]
        have haside := registry_aside encode
          (fun refusal r => r.noNewReplies_plainRequest refusal id
            (fun request => .calibrationSession request .begin)) c
        rcases hresult : c.registry Registry.environment encode
          (fun refusal r => r.calibrationRequest refusal id .begin) with ⟨answer, c1⟩
        simp only
        simp only [Registry.calibrationRequest] at hresult
        rw [hresult] at haside
        have h1 := h.of_aside haside
        have hget1 : c1.replies.get? id = none := haside.replies ▸ hget
        cases answer with
        | error text =>
            exact ih (h1.of_fewer rfl rfl rfl (fun _ hid => hid))
              (fun e he => haside.replies ▸ hrest e he) hnodup.2
        | ok request =>
            refine ih (h1.sent hget1 (Or.inl ⟨_, rfl⟩) rfl rfl rfl ?_ ?_)
              (fun e he => haside.replies ▸ hinserted _ e he) hnodup.2
            · intro id' request' index' hvolume
              cases hvolume
            · intro id' hid'
              by_cases heq : id' = id
              · exact Or.inr (Or.inr ⟨heq, rfl, rfl⟩)
              · refine Or.inl ⟨heq, ?_⟩
                simpa [SortedMap.contains, SortedMap.get?_insert, heq, note] using hid'

theorem takeDraft_orderly (h : c.Orderly) :
    (c.takeDraft Registry.environment encode).Orderly := by
  have htaken := h.of_aside (automatic_aside encode (fun _ k => k.takeResult) c)
  rw [takeDraft]
  rcases hresult : c.automatic Registry.environment encode (fun _ k => k.takeResult) with
    ⟨result, c1⟩
  rw [hresult] at htaken
  cases result with
  | none =>
      exact htaken
  | some profile =>
      have hnumbered : ∀ w : World Unit RegistryEvent, w.registry.Numbered →
          (w.setDraft profile).2.registry.Numbered := by
        intro w hw
        have ho : Operation.setDraft profile ≠ .tick := fun heq => by cases heq
        have hoperate := Registry.numbered_operate encode hw ho
        rwa [World.operate] at hoperate
      have hset := htaken.of_aside (volume_aside encode hnumbered c1)
      simp only
      rcases houtcome : c1.volume Registry.environment encode (fun w => w.setDraft profile) with
        ⟨outcome, c2⟩
      rw [houtcome] at hset
      cases outcome with
      | ok u =>
          exact hset
      | error text =>
          exact hset.of_fewer rfl rfl rfl (fun _ hid => hid)

theorem refresh_orderly (h : c.Orderly) :
    (c.refresh Registry.environment encode).Orderly := by
  have hsnapshots := h.of_aside (registry_aside encode
    (f := fun _ r => (r.snapshots, r)) (fun _ _ => Registry.noNewReplies_of_eq rfl) c)
  simp only [refresh]
  rcases hresult : c.registry Registry.environment encode (fun _ r => (r.snapshots, r)) with
    ⟨snapshots, c1⟩
  rw [hresult] at hsnapshots
  have hshown : ({ c1 with receivers := snapshots } : Controller Unit RegistryEvent).Orderly :=
    hsnapshots.of_fewer rfl rfl rfl (fun _ hid => hid)
  have hdraft := takeDraft_orderly encode hshown
  generalize Controller.takeDraft Registry.environment encode
    { c1 with receivers := snapshots } = c2 at hdraft ⊢
  have hconnected : ({ c2 with
      sessions := c2.sessions.filter (fun id _ => c2.receivers.any (fun r => r.id = id)) } :
      Controller Unit RegistryEvent).Orderly := by
    refine hdraft.of_fewer rfl rfl rfl ?_
    intro id hid
    rw [SortedMap.contains_eq_true_iff] at hid ⊢
    obtain ⟨u, hu⟩ := hid
    rw [SortedMap.get?_filter, Option.filter_eq_some_iff] at hu
    exact ⟨u, hu.1⟩
  have hreviewed := reviewReplies_orderly encode hconnected
    (fun e he => (SortedMap.get?_eq_some_iff _ _ _).mpr he)
    (c2.replies.sorted.imp (fun h => ne_of_lt h))
  have hpolled := hreviewed.of_aside (automatic_aside encode (fun _ k => (k.status, k)) _)
  split_ifs
  · exact hpolled
  · refine sendReady_orderly encode hpolled ?_ ?_
    · intro e he
      obtain ⟨x, hx, rfl⟩ := List.mem_map.mp he
      have hfree := (List.mem_filter.mp hx).2
      simp only [Bool.and_eq_true, Bool.not_eq_true'] at hfree
      exact (SortedMap.contains_eq_false_iff _ _).mp hfree.2
    · rw [ready, List.map_map]
      exact keys_nodup _ _

end Refreshing

section Runs

variable {c c' : Controller Unit RegistryEvent}

/-- The invariant is kept. -/
def Ordered (c c' : Controller Unit RegistryEvent) : Prop :=
  c.Orderly → c'.Orderly

instance : IsPreorder (Controller Unit RegistryEvent) Ordered where
  refl := fun _ h => h
  trans := fun _ _ _ hab hbc h => hbc (hab h)

theorem ordered_of_aside {α : Type} {x : Acting Unit RegistryEvent α} (h : Within Aside x) :
    Within Ordered x :=
  fun c hc => hc.of_aside (h c)

theorem ordered_closeCalibration :
    Within Ordered (closeCalibration Registry.environment encode :
      Acting Unit RegistryEvent Unit) := by
  refine within_bind (ordered_of_aside within_current) (fun c => ?_)
  refine within_bind (ordered_of_aside (within_ensure _ _)) (fun _ => ?_)
  refine within_bind (ordered_of_aside (within_volume encode ?_)) (fun _ => ?_)
  · exact fun w h => Registry.numbered_operate encode h (o := .close) nofun
  refine within_bind (within_modify (fun c hc => hc.clear (Or.inl rfl))) (fun _ => ?_)
  exact ordered_of_aside (within_setNotice "")

theorem ordered_calibrate :
    Within Ordered (calibrate Registry.environment encode : Acting Unit RegistryEvent Unit) := by
  refine within_bind (ordered_of_aside (within_view encode)) (fun first => ?_)
  refine within_bind (ordered_of_aside within_current) (fun c => ?_)
  refine within_bind (ordered_of_aside (within_ensure _ _)) (fun _ => ?_)
  refine within_bind (ordered_of_aside (within_view encode)) (fun second => ?_)
  refine within_bind (ordered_of_aside (within_context _ _)) (fun profile => ?_)
  refine within_bind (ordered_of_aside (within_context _ _)) (fun _ => ?_)
  refine within_bind (ordered_of_aside (within_broadcast encode _)) (fun _ => ?_)
  refine within_bind (ordered_of_aside (within_broadcast encode _)) (fun _ => ?_)
  refine within_bind (within_modify (fun c hc => hc.clear (Or.inr rfl))) (fun _ => ?_)
  refine within_bind (ordered_of_aside (within_automatic encode _)) (fun started => ?_)
  exact within_bind (ordered_of_aside (within_question started))
    (fun _ => ordered_of_aside (within_setNotice ""))

theorem ordered_execute (command : Command) :
    Within Ordered (execute Registry.environment encode command :
      Acting Unit RegistryEvent Unit) := by
  have hhandle : Within Ordered (handle Registry.environment encode command :
      Acting Unit RegistryEvent Unit) := by
    by_cases hclose : command = .closeCalibration
    · rw [hclose]
      exact ordered_closeCalibration encode
    · by_cases hcalibrate : command = .calibrate
      · rw [hcalibrate]
        exact ordered_calibrate encode
      · exact ordered_of_aside (within_handle encode command hclose hcalibrate)
  have hboth := within_bind (ordered_of_aside (within_prelude encode)) (fun _ => hhandle)
  cases command with
  | cancel =>
      exact ordered_of_aside (within_automatic encode _)
  | exit =>
      exact ordered_of_aside (within_automatic encode _)
  | _ => exact hboth

theorem step_orderly (h : c.Orderly) (e : DesktopEvent RegistryEvent) :
    (c.step Registry.environment encode e).Orderly := by
  have hscript : ∀ script, ({ c with script := script } : Controller Unit RegistryEvent).Orderly :=
    fun _ => h.of_fewer rfl rfl rfl (fun _ hid => hid)
  cases e with
  | others turn =>
      exact (hscript [turn]).of_aside (pause_aside encode _)
  | refresh script =>
      exact refresh_orderly encode (hscript script)
  | command command script =>
      have hexecuted := ordered_execute encode command { c with script := script } (hscript script)
      simp only [step, Controller.command]
      rcases hresult : execute Registry.environment encode command
        { c with script := script } with ⟨result, c1⟩
      rw [hresult] at hexecuted
      cases result with
      | ok u =>
          exact hexecuted
      | error text =>
          exact hexecuted.of_fewer rfl rfl rfl (fun _ hid => hid)

theorem new_orderly {world : World Unit RegistryEvent} (h : world.registry.Numbered)
    (script : List (AccessTurn RegistryEvent)) :
    (new Registry.environment encode world script).Orderly := by
  refine refresh_orderly encode ⟨h, (fun id hid => by cases hid), ?_, fun _ => rfl, ?_⟩
  · intro before id request index after heq
    cases before with
    | nil => cases heq
    | cons _ _ => cases heq
  · intro before after heq id
    obtain ⟨rfl, _⟩ := List.append_eq_nil_iff.mp heq.symm
    exact Nat.zero_le 1

/-- The window closes only when nothing is waited for. -/
theorem closeCalibration_settled {c c' : Controller Unit RegistryEvent}
    (h : execute Registry.environment encode .closeCalibration c = (.ok (), c')) :
    c'.pending.size = 0 ∧ c'.replies.size = 0 := by
  obtain ⟨_, c1, _, h⟩ := Throwing.bind_eq_ok_iff.mp h
  obtain ⟨_, _, hcurrent, h⟩ := Throwing.bind_eq_ok_iff.mp h
  cases hcurrent
  obtain ⟨_, c2, hensure, h⟩ := Throwing.bind_eq_ok_iff.mp h
  obtain ⟨_, c3, hclose, h⟩ := Throwing.bind_eq_ok_iff.mp h
  obtain ⟨_, c4, hclear, h⟩ := Throwing.bind_eq_ok_iff.mp h
  have hsettled : c1.settled = true ∧ c2 = c1 := by
    rw [ensure] at hensure
    split_ifs at hensure with hsettled
    · cases hensure
      exact ⟨hsettled, rfl⟩
    · cases hensure
  have hpaused : ∀ c : Controller Unit RegistryEvent,
      (c.pause Registry.environment encode).pending = c.pending ∧
        (c.pause Registry.environment encode).replies = c.replies := by
    intro c
    rw [pause]
    cases c.script with
    | nil => exact ⟨rfl, rfl⟩
    | cons turn script => exact ⟨rfl, rfl⟩
  obtain ⟨hsettled, rfl⟩ := hsettled
  cases hclose
  cases hclear
  cases h
  simp only [settled, Bool.and_eq_true, decide_eq_true_eq] at hsettled
  refine ⟨?_, ?_⟩
  · exact (congrArg SortedMap.size (hpaused c2).1).trans hsettled.1
  · exact (congrArg SortedMap.size (hpaused c2).2).trans hsettled.2

/-- **Manual calibration sessions.**  In every run, whatever the phones answer, however
queues, timeouts, disconnects and automatic calibrations interfere: a calibration volume
is queued only to a receiver whose Begin was answered as expected, by a reply with its
number, after which the window was neither closed nor the sessions cleared; at no time has
a receiver more than one manual request that is neither answered nor given up; and when the
window closes, no request and no slider value is left. -/
theorem manual_volumes_need_a_confirmed_session
    (decode : List UInt8 → Except String (Library × List UInt8)) (file : ProfileFile)
    (now : Nat) (script : List (AccessTurn RegistryEvent))
    (es : List (DesktopEvent RegistryEvent)) :
    let c := run (step Registry.environment encode)
      (new Registry.environment encode (World.start RegistryEvent decode file () now) script) es
    (∀ before id request index after,
      c.log = before ++ .volume id request index :: after →
        ∃ earlier begun expected later reply,
          before = earlier ++ .begun id begun expected :: later ∧
          .closed ∉ later ∧ .cleared ∉ later ∧ .answered id begun reply ∈ later ∧
          reply.requestId = begun ∧ reply.failed = false ∧ reply.fixed = false ∧
          reply.speaker = true ∧ reply.volume = expected) ∧
      (∀ before after, c.log = before ++ after → ∀ id, (unanswered id before).length ≤ 1) ∧
      ∀ script' c', execute Registry.environment encode .closeCalibration
          { c with script := script' } = (.ok (), c') →
        c'.pending.size = 0 ∧ c'.replies.size = 0 := by
  intro c
  have hstart : (World.start RegistryEvent decode file () now).registry.Numbered := by
    rintro id n status ⟨receiver, hget, _⟩
    cases hget
  have hc : c.Orderly := run_preserves Orderly (fun c e hc => step_orderly encode hc e)
    (new_orderly encode hstart script) es
  refine ⟨?_, hc.single, fun script' c' h => closeCalibration_settled encode h⟩
  intro before id request index after heq
  obtain ⟨begun, expected, later, reply, ⟨⟨earlier, hbefore⟩, hclosed, hcleared⟩, hanswered,
    hconfirms⟩ := hc.volumes before id request index after heq
  exact ⟨earlier, begun, expected, later, reply, hbefore, hclosed, hcleared, hanswered,
    hconfirms.number, hconfirms.failed, hconfirms.fixed, hconfirms.speaker, hconfirms.volume⟩

end Runs

end Controller

end Soundwave

import Soundwave.DeviceRequests

/-!
# Progress of the request threads

A weight bounds the steps that the threads of a session can still make when nothing
comes from outside.  A command weighs as much as the two statuses that the main thread
reports for it, a status as much as the two messages that it may lead to, and a message
as much as the push, the notification and the writing that follow.
-/

namespace Soundwave

namespace DeviceRequests

section Progress

/-- The steps that the main thread still stands for. -/
def mainWeight : ApplyStage → Nat
  | .idle => 0
  | .away | .looking => 1
  | .pushing messages statuses => 2 + 6 * messages.length + 13 * statuses.length
  | .notifying messages statuses => 5 + 6 * messages.length + 13 * statuses.length

/-- The steps that the session still stands for, with those that its notification leads to. -/
def sessionWeight : SessionStage → Nat
  | .announcing | .notifying => 5
  | .selecting | .ended => 0
  | .draining => 1
  | .sending _ => 2

/-- The status thread has not seen the revision. -/
def unseen (s : DeviceRequests) : Bool :=
  AudioService.toJlong s.revision ≠ s.seen

/-- What the queues, the notifications, the main thread and the session stand for. -/
def queueWeight (s : DeviceRequests) : Nat :=
  28 * s.device.commands.length + 2 * s.device.reports.length + 2 * s.permit.toNat +
    3 * s.unnotified + 2 * s.posted + mainWeight s.main + sessionWeight s.session

/-- A bound on the steps that can still follow if nothing comes from outside. -/
def weight (s : DeviceRequests) : Nat :=
  s.queueWeight + 3 * s.posting.toNat + 4 * s.unseen.toNat

/-- The events are steps of the threads. -/
def Inside : RequestEvent → Prop
  | .notify | .session _ | .watch | .main _ => True
  | .receive _ _ | .leave | .push _ | .announce | .tone _ | .audio _ | .turn _ => False

/-- The thread has something to do. -/
def Busy (s : DeviceRequests) : RequestEvent → Prop
  | .notify => 0 < s.unnotified
  | .session _ => s.session ≠ .ended ∧ (s.session = .selecting → s.permit = true)
  | .watch => s.posting = true ∨ s.unseen = true
  | .main _ => s.main ≠ .idle ∨ 0 < s.posted
  | .receive _ _ | .leave | .push _ | .announce | .tone _ | .audio _ | .turn _ => False

instance (s : DeviceRequests) : DecidablePred s.Busy
  | .notify => inferInstanceAs (Decidable (_ < _))
  | .session _ => inferInstanceAs (Decidable (_ ∧ _))
  | .watch => inferInstanceAs (Decidable (_ ∨ _))
  | .main _ => inferInstanceAs (Decidable (_ ∨ _))
  | .receive _ _ | .leave | .push _ | .announce | .tone _ | .audio _ | .turn _ =>
      inferInstanceAs (Decidable False)

variable {s s' : DeviceRequests}

/-- A step that the status thread does not notice. -/
theorem weight_lt (hrevision : s'.revision = s.revision) (hseen : s'.seen = s.seen)
    (hposting : s'.posting = s.posting) (h : s'.queueWeight < s.queueWeight) :
    s'.weight < s.weight := by
  have hunseen : s'.unseen = s.unseen := by
    rw [unseen, unseen, hrevision, hseen]
  rw [weight, weight, hunseen, hposting]
  omega

theorem unseen_iff : s.unseen = true ↔ AudioService.toJlong s.revision ≠ s.seen :=
  decide_eq_true_iff

theorem notifyChanged_weight (hsession : sessionWeight s.session = 5) :
    weight { s.notifyChanged with session := .selecting } < s.weight := by
  have hunseen := Bool.toNat_le (unseen { s.notifyChanged with session := .selecting })
  have hweight : weight { s.notifyChanged with session := .selecting } =
      28 * s.device.commands.length + 2 * s.device.reports.length + 2 * s.permit.toNat +
        3 * s.unnotified + 2 * s.posted + mainWeight s.main + 3 * s.posting.toNat +
        4 * (unseen { s.notifyChanged with session := .selecting }).toNat := rfl
  rw [hweight, weight, queueWeight, hsession]
  omega

theorem session_weight {written : Bool} (h : s.Busy (.session written)) :
    (s.sessionStep written).weight < s.weight := by
  rw [sessionStep]
  split
  · exact notifyChanged_weight (by rw [‹s.session = _›]; rfl)
  · exact notifyChanged_weight (by rw [‹s.session = _›]; rfl)
  · rename_i hsession
    have hpermit := h.2 hsession
    rw [if_pos hpermit]
    refine weight_lt rfl rfl rfl ?_
    simp only [queueWeight, hpermit, hsession, sessionWeight, Bool.toNat_true, Bool.toNat_false]
    omega
  · rename_i hsession
    split
    · rename_i report htaken
      obtain ⟨rfl, hreport⟩ := Prod.mk.inj htaken
      obtain ⟨rest, hreports⟩ := List.head?_eq_some_iff.mp hreport
      refine weight_lt rfl rfl rfl ?_
      simp only [queueWeight, hsession, sessionWeight, hreports, List.tail_cons, List.length_cons]
      omega
    · refine weight_lt rfl rfl rfl ?_
      simp only [queueWeight, hsession, sessionWeight]
      omega
  · rename_i report hsession
    split
    · refine weight_lt rfl rfl rfl ?_
      simp only [queueWeight, hsession, sessionWeight]
      omega
    · refine weight_lt rfl rfl rfl ?_
      simp only [queueWeight, hsession, sessionWeight]
      omega
  · exact absurd ‹s.session = _› h.1

theorem watch_weight (h : s.Busy .watch) : s.watch.weight < s.weight := by
  rw [watch]
  split
  · rename_i hposting
    have hweight : weight { s with posting := false, posted := s.posted + 1 } =
        28 * s.device.commands.length + 2 * s.device.reports.length + 2 * s.permit.toNat +
          3 * s.unnotified + 2 * (s.posted + 1) + mainWeight s.main + sessionWeight s.session +
          4 * s.unseen.toNat := rfl
    rw [hweight, weight, queueWeight, hposting, Bool.toNat_true]
    omega
  · rename_i hposting
    have hunseen := h.resolve_left hposting
    rw [if_neg (unseen_iff.mp hunseen)]
    have hweight : weight { s with seen := AudioService.toJlong s.revision, posting := true } =
        s.queueWeight + 3 +
          4 * (unseen { s with seen := AudioService.toJlong s.revision, posting := true }).toNat :=
      rfl
    have hnow :
        unseen { s with seen := AudioService.toJlong s.revision, posting := true } = false :=
      decide_eq_false fun hne => hne rfl
    rw [hweight, hnow, weight, hunseen, Bool.toNat_true, Bool.toNat_false]
    omega

theorem pushReport_length (c : DeviceControl) (report : ControlMessage) :
    (c.pushReport report).reports.length ≤ c.reports.length + 1 := by
  simp only [DeviceControl.pushReport]
  split_ifs
  · rw [List.length_append, List.length_tail, List.length_singleton]
    omega
  · rw [List.length_append, List.length_singleton]

theorem handOver_weight {status : DeviceStatus} {statuses : List DeviceStatus}
    (hmain : s.main = .pushing [] (status :: statuses)) :
    (s.handOver status statuses).weight < s.weight := by
  rw [handOver]
  split
  · have hfew : ∀ failed : Option UInt32,
        (failed.toList.map DeviceControl.toneFailed ++
          [ControlMessage.deviceStatus status]).length ≤ 2 := by
      intro failed
      cases failed with
      | none => exact (by decide : 1 ≤ 2)
      | some request => exact Nat.le_refl 2
    have hlength := hfew (s.device.storeSpeaker status).stopSection.2
    have hcommands :
        (s.device.storeSpeaker status).stopSection.1.commands = s.device.commands := rfl
    have hreports : (s.device.storeSpeaker status).stopSection.1.reports = s.device.reports := rfl
    refine weight_lt rfl rfl rfl ?_
    simp only [queueWeight, hmain, mainWeight, hcommands, hreports, List.length_nil,
      List.length_cons]
    omega
  · refine weight_lt rfl rfl rfl ?_
    simp only [queueWeight, hmain, mainWeight, List.length_nil, List.length_cons,
      DeviceControl.storeSpeaker]
    omega

/-- At most two statuses are reported for a command. -/
theorem applyCommand_length {phone : DeviceVolumeControl} (hconnected : phone.connected = true)
    (hreports : phone.reports = []) {command : UInt64} (hcommand : command ≠ 0) :
    (phone.applyCommand command).reports.length ≤ 2 := by
  obtain ⟨observed, answer, hanswers, hfew, -⟩ :=
    DeviceVolumeControl.applyCommand_answers hconnected hcommand
  rw [hanswers, hreports, List.nil_append, List.length_append, List.length_singleton]
  exact Nat.succ_le_succ hfew

/-- What a round of `applyPending` leaves to report. -/
theorem applyPending_cases (s : DeviceRequests) (now : Nat) :
    s.applyPending now = { s with device := (s.device.takeCommandAt now).1, main := .idle } ∨
      s.device.commands ≠ [] ∧ ∃ phone : DeviceVolumeControl, phone.reports.length ≤ 2 ∧
        s.applyPending now =
          { s with
              device := (s.device.takeCommandAt now).1
              phone := phone
              main := .pushing [] phone.reports } := by
  simp only [applyPending]
  split_ifs with hword
  · exact Or.inl rfl
  · refine Or.inr ⟨fun hempty => hword ?_, _, applyCommand_length rfl rfl hword, rfl⟩
    rw [DeviceControl.takeCommandAt, hempty]

theorem takeCommandAt_queues (c : DeviceControl) (now : Nat) :
    (c.takeCommandAt now).1 = { c with commands := c.commands.tail } := by
  rw [DeviceControl.takeCommandAt]
  split
  · rename_i hempty
    rw [hempty]
    cases c
    cases hempty
    rfl
  · rename_i hcommands
    rw [hcommands]
    rfl

theorem applyPending_weight (hlooking : s.main = .looking) (now : Nat) :
    (s.applyPending now).weight < s.weight := by
  have htail := List.length_tail (l := s.device.commands)
  rcases s.applyPending_cases now with heq | ⟨hne, phone, hfew, heq⟩
  · rw [heq, takeCommandAt_queues]
    refine weight_lt rfl rfl rfl ?_
    simp only [queueWeight, hlooking, mainWeight, htail]
    omega
  · have hpos := List.length_pos_of_ne_nil hne
    rw [heq, takeCommandAt_queues]
    refine weight_lt rfl rfl rfl ?_
    simp only [queueWeight, hlooking, mainWeight, htail, List.length_nil]
    omega

theorem main_weight {now : Nat} (h : s.Busy (.main now)) : (s.mainStep now).weight < s.weight := by
  rw [mainStep]
  split
  · rename_i hmain
    refine weight_lt rfl rfl rfl ?_
    simp only [queueWeight, hmain, mainWeight]
    omega
  · rename_i hmain
    have hposted := h.resolve_left fun hne => hne hmain
    rw [if_neg (Nat.pos_iff_ne_zero.mp hposted)]
    refine weight_lt rfl rfl rfl ?_
    simp only [queueWeight, hmain, mainWeight]
    omega
  · exact applyPending_weight ‹_› now
  · rename_i hmain
    refine weight_lt rfl rfl rfl ?_
    simp only [queueWeight, hmain, mainWeight]
    omega
  · exact handOver_weight ‹_›
  · rename_i report reports statuses hmain
    have hlength := pushReport_length s.device report
    have hcommands : (s.device.pushReport report).commands = s.device.commands := rfl
    refine weight_lt rfl rfl rfl ?_
    simp only [queueWeight, hmain, mainWeight, pushReport, hcommands, List.length_cons]
    omega
  · rename_i hmain
    refine weight_lt rfl rfl rfl ?_
    simp only [queueWeight, hmain, mainWeight, Bool.toNat_true]
    omega

/-- A step of a busy thread leaves less to do. -/
theorem busy_weight {e : RequestEvent} (h : s.Busy e) : (s.step e).weight < s.weight := by
  cases e with
  | notify =>
      have hunnotified : 0 < s.unnotified := h
      rw [step, if_neg (Nat.pos_iff_ne_zero.mp h)]
      refine weight_lt rfl rfl rfl ?_
      simp only [queueWeight, Bool.toNat_true]
      omega
  | session written => exact session_weight h
  | watch => exact watch_weight h
  | main now => exact main_weight h
  | receive _ _ | leave | push _ | announce | tone _ | audio _ | turn _ => exact h.elim

/-- Only busy threads change anything. -/
theorem step_of_not_busy {e : RequestEvent} (hinside : Inside e) (h : ¬s.Busy e) :
    s.step e = s := by
  cases e with
  | notify => exact if_pos (Nat.eq_zero_of_not_pos h)
  | session written =>
      rw [Busy, not_and, not_forall] at h
      by_cases hended : s.session = .ended
      · simp only [step, sessionStep, hended]
      · obtain ⟨hselecting, hpermit⟩ := h hended
        simp only [step, sessionStep, hselecting, if_neg hpermit]
  | watch =>
      obtain ⟨hposting, hseen⟩ := not_or.mp h
      have hsame := not_not.mp (mt unseen_iff.mpr hseen)
      simp only [step, watch, if_neg hposting, if_pos hsame]
  | main now =>
      obtain ⟨hidle, hposted⟩ := not_or.mp h
      simp only [step, mainStep, not_not.mp hidle, if_pos (Nat.eq_zero_of_not_pos hposted)]
  | receive _ _ | leave | push _ | announce | tone _ | audio _ | turn _ => exact hinside.elim

/-- When no thread is busy and the session has not ended, every thread waits. -/
theorem resting_of_not_busy (h : ∀ e, ¬s.Busy e) (hlasts : s.session ≠ .ended) : s.Resting := by
  have hsession := h (.session true)
  rw [Busy, not_and, not_forall] at hsession
  obtain ⟨hselecting, hpermit⟩ := hsession hlasts
  obtain ⟨hposting, hseen⟩ := not_or.mp (h .watch)
  obtain ⟨hmain, hposted⟩ := not_or.mp (h (.main 0))
  exact ⟨hselecting, Bool.eq_false_iff.mpr hpermit, Nat.eq_zero_of_not_pos (h .notify),
    not_not.mp (mt unseen_iff.mpr hseen), Bool.eq_false_iff.mpr hposting,
    Nat.eq_zero_of_not_pos hposted, not_not.mp hmain⟩

/-- **Every request is answered in the end.**  When nothing comes from outside any more,
the threads can make only so many steps, in whatever order: each step of a busy thread
leaves less to do, and a thread that is not busy changes nothing.  Once no thread is busy
the session has ended, or every thread waits and, as long as revisions have not wrapped,
every request has been answered. -/
theorem requests_settle {s₀ : DeviceRequests} (hfresh : s₀.Fresh) (es : List RequestEvent)
    {inside : List RequestEvent} (h : Along step Busy (run step s₀ es) inside) :
    inside.length + (run step s₀ (es ++ inside)).weight ≤ (run step s₀ es).weight ∧
      (∀ e, Inside e → ¬(run step s₀ (es ++ inside)).Busy e →
        (run step s₀ (es ++ inside)).step e = run step s₀ (es ++ inside)) ∧
      ((∀ e, ¬(run step s₀ (es ++ inside)).Busy e) →
        (run step s₀ (es ++ inside)).session = .ended ∨
          (run step s₀ (es ++ inside)).Resting ∧
            ((run step s₀ (es ++ inside)).notified < 2 ^ 63 →
              answersIn (run step s₀ (es ++ inside)).device.produced =
                s₀.stale ++ requestsOf (run step s₀ (es ++ inside)).accepted)) := by
  refine ⟨?_, fun e hinside hidle => step_of_not_busy hinside hidle, fun hidle => ?_⟩
  · rw [run_append]
    generalize run step s₀ es = s at h
    induction inside generalizing s with
    | nil => exact Nat.le_of_eq (Nat.zero_add _)
    | cons e rest ih =>
        obtain ⟨hbusy, hrest⟩ := h
        have hless := busy_weight hbusy
        have hlater := ih (s.step e) hrest
        simp only [List.length_cons, run_cons] at hlater ⊢
        omega
  · by_cases hended : (run step s₀ (es ++ inside)).session = .ended
    · exact Or.inl hended
    · have hrest := resting_of_not_busy hidle hended
      have hanswered := answered_of_serving (run_serving hfresh (es ++ inside))
      exact Or.inr ⟨hrest, fun hbound => hanswered.answered hbound hrest⟩

/-- The steps that answer a query, after it has arrived. -/
def answering : List RequestEvent :=
  [.session true, .watch, .watch] ++ List.replicate 9 (.main 0) ++ List.replicate 4 (.session true)

theorem requests_settle_query :
    answering.length + (run step connecting (asking.take 4 ++ answering)).weight ≤
        (run step connecting (asking.take 4)).weight ∧
      (run step connecting (asking.take 4 ++ answering)).weight = 0 :=
  ⟨(requests_settle connecting_fresh (asking.take 4) (by decide +kernel)).1, by decide +kernel⟩

end Progress

end DeviceRequests

end Soundwave

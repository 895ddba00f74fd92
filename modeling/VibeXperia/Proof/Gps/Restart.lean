import VibeXperia.Proof.Gps.Engine
import VibeXperia.Gps.Session

namespace VibeXperia.Proof.Gps
open Lib VibeXperia.Gps

variable {conf : EngineConf} {answers : EngineAnswers} {data : LocEngData} {eng : LocEng}
variable {e : EngineEvent} {msg : LocMsg} {criteria : LocPosMode}

/-! ## Criteria but for their mode -/

def erased (criteria : LocPosMode) : LocPosMode := { criteria with mode := .invalid }

theorem eq_erased_iff : criteria = erased criteria ↔ criteria.mode = .invalid := by
  constructor
  · intro same
    rw [same, erased]
  · intro invalid
    obtain ⟨mode, recurrence, minInterval, accuracy, time, credentials, provider⟩ := criteria
    rw [erased]
    congr

theorem setInSession_erased (inSession : Bool) :
    erased (data.setInSession inSession).adapter.mFixCriteria =
      erased data.adapter.mFixCriteria := by
  cases inSession <;> rfl

theorem startHandler_erased :
    erased (locEngStartHandler answers data).1.adapter.mFixCriteria =
      erased data.adapter.mFixCriteria := by
  rw [locEngStartHandler]
  split_ifs <;> rfl

def erasedSent (msg : LocMsg) : Option LocPosMode := (positionModeSent msg).map erased

theorem proc_erased :
    erased (msg.proc conf answers data).1.adapter.mFixCriteria =
      (erasedSent msg).getD (erased data.adapter.mFixCriteria) := by
  cases msg with
  | init | positionMode | setServer | down => rfl
  | startFix => exact startHandler_erased
  | stopFix =>
      rw [LocMsg.proc, silent, locEngStopHandler]
      split <;> rfl
  | delAidData flags =>
      rw [LocMsg.proc, silent, updateAidingDataForDeletion]
      split <;> rfl
  | reportPosition position =>
      obtain same | ⟨location, same⟩ | ⟨location, stops, -, -, same⟩ :=
        @reportPosition_cases conf data position <;> rw [LocMsg.proc, silent, same] <;> rfl
  | reportSv =>
      rw [LocMsg.proc]
      split <;> rfl
  | reportStatus status =>
      rw [LocMsg.proc, updateAidingDataForDeletion]
      dsimp only
      split <;> rfl
  | requestNi privacyOverride =>
      rw [LocMsg.proc]
      split <;> rfl
  | up =>
      rw [LocMsg.proc, locEngHandleEngineUp]
      dsimp only
      split
      · exact startHandler_erased.trans (setInSession_erased false)
      · rfl

/-! ## The criteria of the last call -/

structure CriteriaKept (ts : List EngineTransition) (eng : LocEng) : Prop where
  born : Born eng
  uncalled : eng.data.created = false → lastWrite positionModeCalled ts = none
  called : ∀ criteria, lastWrite positionModeCalled ts = some criteria →
    settled erasedSent (erased eng.data.adapter.mFixCriteria) eng.msgs = erased criteria

theorem erased_standaloneOnly : erased (standaloneOnly conf criteria) = erased criteria := by
  rw [standaloneOnly]
  split <;> rfl

theorem erasedSent_setServer (sent : ∃ server, msg = .setServer server) :
    erasedSent msg = none := by
  obtain ⟨server, rfl⟩ := sent
  rfl

theorem perform_erasedSent {call : EngineCall} {resolve : Resolver}
    (created : eng.data.created = true) :
    lastWrite erasedSent (call.perform conf resolve eng.data).2 =
      (positionModeCalled (react (LocEng.step conf) eng (.call call resolve))).map erased := by
  cases call with
  | init =>
      rw [EngineCall.perform, if_pos created]
      rfl
  | agpsInit =>
      apply lastWrite_eq_none.mpr
      exact fun msg sent => erasedSent_setServer (mem_agpsInit sent)
  | setServer type hostname port =>
      apply lastWrite_eq_none.mpr
      exact fun msg sent => erasedSent_setServer (mem_setServerCall sent)
  | setPositionMode params =>
      rw [EngineCall.perform, if_pos created, positionModeCalled, react]
      dsimp only
      rw [if_pos created]
      exact congrArg some erased_standaloneOnly
  | start | stop | deleteAidingData =>
      rw [EngineCall.perform, if_pos created]
      rfl
  | cleanup =>
      rw [EngineCall.perform]
      split <;> rfl

theorem report_erasedSent {report : ModemReport} :
    lastWrite erasedSent (report.sent conf) = none := by
  rw [lastWrite, report_silent (fun _ => rfl) rfl (fun _ => rfl) (fun _ => rfl) rfl rfl]
  rfl

theorem CriteriaKept.step {ts : List EngineTransition} (kept : CriteriaKept ts eng)
    (e : EngineEvent) :
    CriteriaKept (ts ++ [react (LocEng.step conf) eng e]) (eng.step conf e).1 := by
  have born := @Born.step conf eng e kept.born
  cases created : eng.data.created with
  | false =>
      have uncalled : lastWrite positionModeCalled (ts ++ [react (LocEng.step conf) eng e]) =
          none := by
        have now : positionModeCalled (react (LocEng.step conf) eng e) = none := by
          rw [react, positionModeCalled, created]
          split <;> rfl
        rw [lastWrite_snoc, now, kept.uncalled created]
        rfl
      refine ⟨born, fun _ => uncalled, fun criteria called => ?_⟩
      rw [uncalled] at called
      cases called
  | true =>
      refine ⟨born, fun never => ?_, fun criteria called => ?_⟩
      · rw [step_created created] at never
        cases never
      · rw [lastWrite_snoc] at called
        cases e with
        | call call resolve =>
            have same := @perform_sameRun conf eng.data call resolve created
            have sent := @perform_erasedSent conf eng call resolve created
            rw [LocEng.step]
            dsimp only
            rw [settled_sent, sent, same.adapter]
            cases now : positionModeCalled (react (LocEng.step conf) eng (.call call resolve)) with
            | none =>
                rw [now] at called
                exact kept.called criteria called
            | some params =>
                rw [now, Option.some_or, Option.some_inj] at called
                rw [called]
                rfl
        | report report =>
            rw [LocEng.step, if_pos created]
            dsimp only
            rw [settled_sent, report_erasedSent]
            exact kept.called criteria called
        | proc answers =>
            have before := kept.called criteria called
            cases waiting : eng.msgs with
            | nil => rwa [step_proc_nil waiting]
            | cons msg msgs =>
                have silent : lastWrite erasedSent (msg.proc conf answers eng.data).2.1 = none :=
                  lastWrite_eq_none.mpr fun m sent => erasedSent_setServer (mem_proc_sent sent)
                rw [waiting, settled_cons, ← proc_erased] at before
                rw [step_proc_cons waiting]
                dsimp only
                rw [settled_sent, silent]
                exact before

theorem run_criteriaKept (events : List EngineEvent) :
    CriteriaKept (trace (LocEng.step conf) .zero events)
      (final (LocEng.step conf) .zero events) := by
  have zero : CriteriaKept [] .zero := ⟨fun _ => zero_unborn, fun _ => rfl, nofun⟩
  exact @history_invariant LocEng EngineEvent EngineEffect (LocEng.step conf) CriteriaKept
    (fun _ => True) (fun _ _ e kept _ => kept.step e) .zero events zero fun _ _ => trivial

/-! ## The restart -/

theorem engineUp_startFix (navigating : data.adapter.mNavigating = true) :
    .startFix criteria ∈ (locEngHandleEngineUp answers data).2.2 ↔
      criteria = erased data.adapter.mFixCriteria := by
  have on : .startFix criteria ∉ (locEngReportStatus data .engineOn).2 := by
    rw [locEngReportStatus]
    dsimp only
    split <;> simp
  have kept : (locEngReportStatus data .engineOn).1.adapter = data.adapter := rfl
  rw [locEngHandleEngineUp]
  dsimp only
  rw [kept, if_pos navigating]
  dsimp only
  rw [List.mem_append, or_iff_right on, List.mem_cons, or_iff_right (by simp),
    startHandler_resting rfl]
  split
  · simp [erased, LocEngData.setInSession, LocEngAdapter.setInSession, kept]
  · simp [erased, LocEngData.setInSession, LocEngAdapter.setInSession, kept]

/-- When the modem comes up again in a session, the fix is not started again with the criteria of
the last call, unless their mode was invalid. -/
theorem restarted_iff {events : List EngineEvent} {criteria : LocPosMode}
    (answers : EngineAnswers)
    (called : lastWrite positionModeCalled (trace (LocEng.step conf) .zero events) =
      some criteria)
    (taken : lastWrite positionModeSent (final (LocEng.step conf) .zero events).msgs = none)
    (up : (final (LocEng.step conf) .zero events).msgs.head? = some .up)
    (navigating : (final (LocEng.step conf) .zero events).data.adapter.mNavigating = true) :
    .startFix criteria ∈
        ((final (LocEng.step conf) .zero events).step conf (.proc answers)).2 ↔
      criteria.mode = .invalid := by
  have kept := (@run_criteriaKept conf events).called criteria called
  generalize final (LocEng.step conf) .zero events = eng at *
  have silent : ∀ msg ∈ eng.msgs, erasedSent msg = none := by
    intro msg member
    rw [erasedSent, lastWrite_eq_none.mp taken msg member]
    rfl
  rw [settled_of_silent silent] at kept
  obtain ⟨msgs, waiting⟩ := List.head?_eq_some_iff.mp up
  rw [step_proc_cons waiting]
  exact (engineUp_startFix navigating).trans (by rw [kept, eq_erased_iff])

def criteriaAsked : LocPosMode := ⟨.msBased, .periodic, 1000, 50, 120000, [], []⟩

def restartedFix : List EngineEvent :=
  [.call .init unresolved, .proc obliging, .call (.setPositionMode criteriaAsked) unresolved,
    .proc obliging, .call .start unresolved, .proc obliging, .report .engineDown, .proc obliging,
    .report .engineUp]

theorem restarted_iff_msBased :
    .startFix criteriaAsked ∈
        ((final (LocEng.step phone) .zero restartedFix).step phone (.proc obliging)).2 ↔
      criteriaAsked.mode = .invalid :=
  restarted_iff obliging (by decide) (by decide) (by decide) (by decide)

/-- The fix that was started as asked is started again with an invalid mode. -/
theorem restarted_without_mode :
    .startFix criteriaAsked ∈ outputs (LocEng.step phone) .zero restartedFix ∧
      ((final (LocEng.step phone) .zero restartedFix).step phone (.proc obliging)).2 =
        [.statusCb .engineOn, .setPositionMode criteriaAsked,
          .startFix { criteriaAsked with mode := .invalid }, .statusCb .sessionBegin] ∧
      .startFix criteriaAsked ∉
        ((final (LocEng.step phone) .zero restartedFix).step phone (.proc obliging)).2 := by
  decide

end VibeXperia.Proof.Gps

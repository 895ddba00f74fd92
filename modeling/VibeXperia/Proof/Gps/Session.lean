import VibeXperia.Proof.Gps.Engine
import VibeXperia.Gps.Session

namespace VibeXperia.Proof.Gps
open Lib VibeXperia.Gps

variable {conf : EngineConf} {answers : EngineAnswers} {data : LocEngData} {eng : LocEng}
variable {e : EngineEvent} {msg : LocMsg} {msgs : List LocMsg}

/-! ## Periodic fixes without muting -/

def LocMsg.Plain : LocMsg → Prop
  | .positionMode mode => mode.recurrence = .periodic
  | .requestNi privacyOverride => privacyOverride = false
  | _ => True

structure PlainData (data : LocEngData) : Prop where
  periodic : data.adapter.mFixCriteria.recurrence = .periodic
  unmuted : data.muteSessionState = .none

structure PlainEng (eng : LocEng) : Prop where
  born : Born eng
  data : PlainData eng.data
  msgs : ∀ msg ∈ eng.msgs, LocMsg.Plain msg

theorem setInSession_recurrence (inSession : Bool) :
    (data.setInSession inSession).adapter.mFixCriteria.recurrence =
      data.adapter.mFixCriteria.recurrence := by
  cases inSession <;> rfl

theorem PlainData.setInSession (plain : PlainData data) (inSession : Bool) :
    PlainData (data.setInSession inSession) :=
  ⟨(setInSession_recurrence inSession).trans plain.periodic, plain.unmuted⟩

theorem PlainData.startHandler (plain : PlainData data) :
    PlainData (locEngStartHandler answers data).1 := by
  rw [locEngStartHandler]
  split_ifs
  · exact plain
  · exact plain.setInSession true
  · exact plain

theorem PlainData.reportStatus (plain : PlainData data) (status : GpsStatusValue) :
    PlainData (locEngReportStatus data status).1 := by
  refine ⟨plain.periodic, ?_⟩
  rw [locEngReportStatus, plain.unmuted]
  simp [switchMute]

theorem PlainData.updateAidingData (plain : PlainData data) :
    PlainData (updateAidingDataForDeletion data).1 := by
  rw [updateAidingDataForDeletion]
  split
  · exact ⟨plain.periodic, plain.unmuted⟩
  · exact plain

theorem PlainData.reportPosition (plain : PlainData data) (position : PositionReport) :
    PlainData (reportPositionProc conf data position).1 := by
  obtain same | ⟨location, same⟩ | ⟨location, stops, -, -, same⟩ :=
    @reportPosition_cases conf data position <;> rw [same]
  · exact plain
  · exact plain
  · exact plain.setInSession false

theorem PlainData.proc (plain : PlainData data) (ordinary : LocMsg.Plain msg) :
    PlainData (msg.proc conf answers data).1 := by
  cases msg with
  | init | setServer => exact plain
  | startFix => exact plain.startHandler
  | stopFix =>
      rw [LocMsg.proc, silent, locEngStopHandler]
      split
      · exact plain.setInSession false
      · exact plain
  | positionMode mode => exact ⟨ordinary, plain.unmuted⟩
  | delAidData flags =>
      have stored : PlainData { data with aidingDataForDeletion := flags } :=
        ⟨plain.periodic, plain.unmuted⟩
      exact stored.updateAidingData
  | reportPosition position => exact plain.reportPosition position
  | reportSv =>
      rw [LocMsg.proc]
      split <;> exact plain
  | reportStatus status => exact (plain.reportStatus status).updateAidingData
  | requestNi privacyOverride =>
      rw [LocMsg.proc, if_neg]
      · exact plain
      · rintro ⟨-, muting⟩
        rw [ordinary] at muting
        cases muting
  | down => exact plain.reportStatus .engineOff
  | up =>
      rw [LocMsg.proc, locEngHandleEngineUp]
      dsimp only
      split
      · exact ((plain.reportStatus .engineOn).setInSession false).startHandler
      · exact plain.reportStatus .engineOn

theorem setServer_plain (sent : ∃ server, msg = .setServer server) : LocMsg.Plain msg := by
  obtain ⟨server, rfl⟩ := sent
  exact trivial

theorem perform_plain {call : EngineCall} {resolve : Resolver}
    (plain : EngineEvent.Plain (.call call resolve)) :
    ∀ msg ∈ (call.perform conf resolve data).2, LocMsg.Plain msg := by
  intro msg sent
  cases call with
  | init =>
      rw [EngineCall.perform] at sent
      split at sent
      · cases sent
      · rw [List.mem_singleton.mp sent]
        exact trivial
  | agpsInit => exact setServer_plain (mem_agpsInit sent)
  | setServer type hostname port => exact setServer_plain (mem_setServerCall sent)
  | setPositionMode params =>
      rw [EngineCall.perform] at sent
      dsimp only at sent
      split at sent
      · rw [List.mem_singleton.mp sent, LocMsg.Plain, standaloneOnly]
        split <;> exact plain
      · cases sent
  | start | stop | deleteAidingData | cleanup =>
      rw [EngineCall.perform] at sent
      dsimp only at sent
      split at sent
      · rw [List.mem_singleton.mp sent]
        exact trivial
      · cases sent

theorem report_plain {report : ModemReport} (plain : EngineEvent.Plain (.report report)) :
    ∀ msg ∈ report.sent conf, LocMsg.Plain msg := by
  intro msg sent
  cases report with
  | niNotify privacyOverride =>
      rw [ModemReport.sent] at sent
      split at sent
      · rw [List.mem_singleton.mp sent]
        exact plain
      · cases sent
  | position | sv | status | engineDown | engineUp =>
      rw [List.mem_singleton.mp sent]
      exact trivial

theorem PlainEng.step (plain : PlainEng eng) (ordinary : e.Plain) :
    PlainEng (eng.step conf e).1 := by
  cases created : eng.data.created with
  | false =>
      rcases ((plain.born created).step e).2 with unborn | ⟨-, fresh⟩
      · have data : PlainData (eng.step conf e).1.data := by
          refine ⟨?_, unborn.muteSessionState⟩
          rw [unborn.adapter]
          rfl
        refine ⟨fun _ => unborn, data, ?_⟩
        rw [unborn.msgs]
        simp
      · rw [fresh]
        refine ⟨nofun, ⟨rfl, rfl⟩, fun msg member => ?_⟩
        rw [List.mem_singleton.mp member]
        exact trivial
  | true =>
      cases e with
      | call call resolve =>
          have same := @perform_sameRun conf eng.data call resolve created
          refine ⟨plain.born.step, ⟨?_, ?_⟩, fun msg member => ?_⟩
          · exact (congrArg (·.mFixCriteria.recurrence) same.adapter).trans plain.data.periodic
          · exact same.muteSessionState.trans plain.data.unmuted
          · rcases List.mem_append.mp member with earlier | sent
            · exact plain.msgs msg earlier
            · exact perform_plain ordinary msg sent
      | report report =>
          rw [LocEng.step, if_pos created]
          refine ⟨fun never => ?_, plain.data, fun msg member => ?_⟩
          · rw [created] at never
            cases never
          · rcases List.mem_append.mp member with earlier | sent
            · exact plain.msgs msg earlier
            · exact report_plain ordinary msg sent
      | proc answers =>
          have born := @Born.step conf eng (.proc answers) plain.born
          cases waiting : eng.msgs with
          | nil => rwa [step_proc_nil waiting]
          | cons msg msgs =>
              have listed := plain.msgs
              rw [step_proc_cons waiting] at born ⊢
              rw [waiting, List.forall_mem_cons] at listed
              refine ⟨born, plain.data.proc listed.1, fun m member => ?_⟩
              rcases List.mem_append.mp member with earlier | sent
              · exact listed.2 m earlier
              · exact setServer_plain (mem_proc_sent sent)

/-! ## What the framework is told -/

theorem startHandler_session :
    settled toldSession data.adapter.mNavigating (locEngStartHandler answers data).2 =
      (locEngStartHandler answers data).1.adapter.mNavigating := by
  rw [locEngStartHandler]
  split_ifs <;> rfl

theorem stopHandler_session :
    settled toldSession data.adapter.mNavigating (locEngStopHandler answers data).2 =
        (locEngStopHandler answers data).1.adapter.mNavigating ↔
      (data.adapter.mNavigating = true → answers.stopFix = .success) := by
  rw [locEngStopHandler]
  split_ifs with navigating stopped
  · exact iff_of_true rfl fun _ => stopped
  · refine iff_of_false ?_ fun must => stopped (must navigating)
    rw [navigating]
    intro told
    cases told
  · exact iff_of_true rfl fun must => absurd must navigating

theorem reportStatus_session (status : GpsStatusValue) :
    settled toldSession data.adapter.mNavigating (locEngReportStatus data status).2 =
      data.adapter.mNavigating := by
  rw [locEngReportStatus]
  dsimp only
  split_ifs with told
  · obtain ⟨-, end_, begin_, -⟩ := told
    cases status with
    | none | engineOn | engineOff => rfl
    | sessionBegin =>
        have navigating : data.adapter.mNavigating = true := by simpa using begin_
        rw [navigating]
        rfl
    | sessionEnd =>
        have resting : data.adapter.mNavigating = false := by simpa using end_
        rw [resting]
        rfl
  · rfl

theorem updateAidingData_session (status : Bool) :
    settled toldSession status (updateAidingDataForDeletion data).2 = status ∧
      (updateAidingDataForDeletion data).1.adapter = data.adapter := by
  rw [updateAidingDataForDeletion]
  split <;> exact ⟨rfl, rfl⟩

theorem reportPosition_session (plain : PlainData data) (position : PositionReport) :
    settled toldSession data.adapter.mNavigating (reportPositionProc conf data position).2 =
      (reportPositionProc conf data position).1.adapter.mNavigating := by
  obtain same | ⟨location, same⟩ | ⟨location, stops, single, -, -⟩ :=
    @reportPosition_cases conf data position
  · rw [same]
    rfl
  · rw [same]
    rfl
  · cases single.symm.trans plain.periodic

theorem engineUp_session :
    settled toldSession data.adapter.mNavigating (locEngHandleEngineUp answers data).2.2 =
        (locEngHandleEngineUp answers data).1.adapter.mNavigating ↔
      (data.adapter.mNavigating = true →
        answers.startFix = .success ∨ answers.startFix = .engineDown) := by
  have on := @reportStatus_session data .engineOn
  rw [locEngHandleEngineUp]
  dsimp only
  have kept : (locEngReportStatus data .engineOn).1.adapter = data.adapter := rfl
  rw [kept]
  split
  · rename_i navigating
    have restarted : settled toldSession data.adapter.mNavigating
        ((locEngReportStatus data .engineOn).2 ++
          .setPositionMode data.adapter.mFixCriteria ::
            (locEngStartHandler answers
              ((locEngReportStatus data .engineOn).1.setInSession false)).2) =
        settled toldSession true (locEngStartHandler answers
          ((locEngReportStatus data .engineOn).1.setInSession false)).2 := by
      rw [settled_append, on, navigating, settled_cons]
      rfl
    rw [restarted, startHandler_resting rfl]
    by_cases started : answers.startFix = .success ∨ answers.startFix = .engineDown
    · rw [if_pos started]
      exact iff_of_true rfl fun _ => started
    · rw [if_neg started]
      refine iff_of_false ?_ fun must => started (must navigating)
      intro told
      cases told
  · rename_i resting
    exact iff_of_true on fun must => absurd must resting

/-- What is told and what is so agree after a message if they did before, unless the modem does
not answer as asked. -/
theorem proc_session (plain : PlainData data) :
    settled toldSession data.adapter.mNavigating (msg.proc conf answers data).2.2 =
        (msg.proc conf answers data).1.adapter.mNavigating ↔
      (data.adapter.mNavigating = true →
        (msg = .stopFix → answers.stopFix = .success) ∧
        (msg = .up → answers.startFix = .success ∨ answers.startFix = .engineDown)) := by
  cases msg with
  | init | positionMode | setServer => exact iff_of_true rfl fun _ => by simp
  | startFix => exact iff_of_true startHandler_session fun _ => by simp
  | stopFix =>
      refine stopHandler_session.trans (forall_congr' fun _ => ?_)
      exact ⟨fun stopped => ⟨fun _ => stopped, by simp⟩, fun both => both.1 rfl⟩
  | delAidData flags =>
      refine iff_of_true ?_ fun _ => by simp
      have updated := @updateAidingData_session { data with aidingDataForDeletion := flags }
        data.adapter.mNavigating
      exact updated.1.trans (congrArg (·.mNavigating) updated.2).symm
  | reportPosition position =>
      exact iff_of_true (reportPosition_session plain position) fun _ => by simp
  | reportSv =>
      refine iff_of_true ?_ fun _ => by simp
      rw [LocMsg.proc]
      split <;> rfl
  | reportStatus status =>
      refine iff_of_true ?_ fun _ => by simp
      have updated := @updateAidingData_session (locEngReportStatus data status).1
        data.adapter.mNavigating
      rw [LocMsg.proc]
      dsimp only
      rw [settled_append, reportStatus_session, updated.1, updated.2]
      rfl
  | requestNi privacyOverride =>
      refine iff_of_true ?_ fun _ => by simp
      rw [LocMsg.proc]
      split <;> rfl
  | down => exact iff_of_true (reportStatus_session .engineOff) fun _ => by simp
  | up =>
      refine engineUp_session.trans (forall_congr' fun _ => ?_)
      exact ⟨fun started => ⟨by simp, fun _ => started⟩, fun both => both.2 rfl⟩

theorem step_session {told : List EngineEffect} (plain : PlainEng eng)
    (agrees : SessionAgrees told eng) :
    SessionAgrees (told ++ (eng.step conf e).2) (eng.step conf e).1 ↔ SessionAnswered eng e := by
  rw [SessionAgrees, settled_append, agrees]
  cases e with
  | call call resolve =>
      refine iff_of_true ?_ trivial
      cases created : eng.data.created with
      | true =>
          exact (congrArg (·.mNavigating)
            (@perform_sameRun conf eng.data call resolve created).adapter).symm
      | false =>
          have before := (plain.born created).adapter
          obtain ⟨-, unborn | ⟨-, fresh⟩⟩ :=
            @Unborn.step conf eng (plain.born created) (.call call resolve)
          · rw [unborn.adapter, before]
            rfl
          · rw [fresh, before]
            rfl
  | report report =>
      refine iff_of_true ?_ trivial
      rw [LocEng.step]
      split <;> rfl
  | proc answers =>
      cases waiting : eng.msgs with
      | nil =>
          rw [step_proc_nil waiting]
          refine iff_of_true rfl fun _ => ?_
          rw [waiting]
          simp
      | cons msg msgs =>
          rw [step_proc_cons waiting, SessionAnswered, waiting]
          simp only [List.head?_cons, Option.some.injEq]
          exact proc_session plain.data

/-- In a run with periodic fixes and without muting, what the framework was told of its session
agrees with the adapter after every event exactly as long as the modem answers as asked. -/
theorem session_agrees (conf : EngineConf) {events : List EngineEvent}
    (plain : ∀ e ∈ events, e.Plain) :
    (∀ before after, events = before ++ after →
      SessionAgrees (outputs (LocEng.step conf) .zero before)
        (final (LocEng.step conf) .zero before)) ↔
      ∀ t ∈ trace (LocEng.step conf) .zero events, SessionAnswered t.before t.event := by
  have zero : PlainEng .zero := ⟨fun _ => zero_unborn, ⟨rfl, rfl⟩, nofun⟩
  exact @outputs_iff LocEng EngineEvent EngineEffect (LocEng.step conf) PlainEng
    EngineEvent.Plain SessionAgrees SessionAnswered (fun _ _ => PlainEng.step)
    (fun _ _ _ kept _ => step_session kept) .zero events zero rfl plain

def restartedSession : List EngineEvent :=
  [.call .init unresolved, .proc obliging, .call .start unresolved, .proc obliging,
    .report .engineDown, .proc obliging, .report .engineUp, .proc obliging,
    .call .stop unresolved, .proc obliging]

theorem session_agrees_restarted :
    SessionAgrees (outputs (LocEng.step phone) .zero restartedSession)
      (final (LocEng.step phone) .zero restartedSession) := by
  refine (session_agrees phone ?_).mpr ?_ restartedSession [] (List.append_nil _).symm
  · intro e member
    simp only [restartedSession, List.mem_cons, List.not_mem_nil, or_false] at member
    rcases member with rfl | rfl | rfl | rfl | rfl | rfl | rfl | rfl | rfl | rfl <;> trivial
  · intro t member
    simp only [restartedSession, trace_cons, trace_nil, List.mem_cons, List.not_mem_nil,
      or_false] at member
    rcases member with rfl | rfl | rfl | rfl | rfl | rfl | rfl | rfl | rfl | rfl <;>
      first
      | trivial
      | exact fun _ => ⟨fun _ => rfl, fun _ => .inl rfl⟩

/-- The modem does not stop the session when asked: the adapter has none any more, and the
framework was not told. -/
theorem session_end_untold :
    ¬ SessionAgrees
      (outputs (LocEng.step phone) .zero
        [.call .init unresolved, .proc obliging, .call .start unresolved, .proc obliging,
          .call .stop unresolved, .proc { obliging with stopFix := .generalFailure }])
      (final (LocEng.step phone) .zero
        [.call .init unresolved, .proc obliging, .call .start unresolved, .proc obliging,
          .call .stop unresolved, .proc { obliging with stopFix := .generalFailure }]) := by
  unfold SessionAgrees
  decide

end VibeXperia.Proof.Gps

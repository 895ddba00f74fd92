import VibeXperia.Gps.Engine

namespace VibeXperia.Proof.Gps
open Lib VibeXperia.Gps

variable {conf : EngineConf} {answers : EngineAnswers} {data : LocEngData} {eng : LocEng}
variable {e : EngineEvent} {msg : LocMsg} {msgs : List LocMsg}

/-! ## What one message does -/

structure SameSetup (data data' : LocEngData) : Prop where
  created : data'.created = data.created
  agpsStatusCb : data'.agpsStatusCb = data.agpsStatusCb
  suplHost : data'.suplHost = data.suplHost
  c2kHost : data'.c2kHost = data.c2kHost

theorem SameSetup.refl (data : LocEngData) : SameSetup data data := ⟨rfl, rfl, rfl, rfl⟩

theorem startHandler_sameSetup : SameSetup data (locEngStartHandler answers data).1 := by
  rw [locEngStartHandler]
  split_ifs <;> exact ⟨rfl, rfl, rfl, rfl⟩

theorem startHandler_resting (resting : data.adapter.mNavigating = false) :
    locEngStartHandler answers data =
      if answers.startFix = .success ∨ answers.startFix = .engineDown then
        (data.setInSession true, [.startFix data.adapter.mFixCriteria, .statusCb .sessionBegin])
      else (data, [.startFix data.adapter.mFixCriteria]) := by
  rw [locEngStartHandler, resting, if_neg Bool.false_ne_true]

theorem stopHandler_sameSetup : SameSetup data (locEngStopHandler answers data).1 := by
  rw [locEngStopHandler]
  split_ifs <;> exact ⟨rfl, rfl, rfl, rfl⟩

theorem updateAidingData_sameSetup : SameSetup data (updateAidingDataForDeletion data).1 := by
  rw [updateAidingDataForDeletion]
  split_ifs <;> exact ⟨rfl, rfl, rfl, rfl⟩

theorem reportPosition_cases (position : PositionReport) :
    reportPositionProc conf data position = (data, []) ∨
      (∃ location, reportPositionProc conf data position = (data, [.locationCb location])) ∨
      ∃ location stops, data.adapter.mFixCriteria.recurrence = .single ∧
        (stops = [] ∨ stops = [.stopFix]) ∧
        reportPositionProc conf data position =
          (data.setInSession false, .locationCb location :: stops) := by
  rw [reportPositionProc]
  split
  · exact .inl rfl
  · cases position.reported conf with
    | none => exact .inl rfl
    | some location =>
        dsimp only
        split
        · rename_i single
          refine .inr (.inr ⟨location, _, single, ?_, rfl⟩)
          split
          · exact .inr rfl
          · exact .inl rfl
        · exact .inr (.inl ⟨location, rfl⟩)

theorem reportPosition_sameSetup (position : PositionReport) :
    SameSetup data (reportPositionProc conf data position).1 := by
  obtain same | ⟨location, same⟩ | ⟨location, stops, -, -, same⟩ :=
    @reportPosition_cases conf data position <;> rw [same]
  · exact SameSetup.refl data
  · exact SameSetup.refl data
  · exact ⟨rfl, rfl, rfl, rfl⟩

theorem engineUp_sameSetup : SameSetup data (locEngHandleEngineUp answers data).1 := by
  rw [locEngHandleEngineUp]
  dsimp only
  split
  · have started := @startHandler_sameSetup answers
      ((locEngReportStatus data .engineOn).1.setInSession false)
    exact ⟨started.created, started.agpsStatusCb, started.suplHost, started.c2kHost⟩
  · exact ⟨rfl, rfl, rfl, rfl⟩

theorem proc_sameSetup : SameSetup data (msg.proc conf answers data).1 := by
  cases msg with
  | init | positionMode | setServer | down => exact ⟨rfl, rfl, rfl, rfl⟩
  | startFix => exact startHandler_sameSetup
  | stopFix => exact stopHandler_sameSetup
  | delAidData flags =>
      have updated := @updateAidingData_sameSetup { data with aidingDataForDeletion := flags }
      exact ⟨updated.created, updated.agpsStatusCb, updated.suplHost, updated.c2kHost⟩
  | reportPosition position => exact reportPosition_sameSetup position
  | reportSv =>
      rw [LocMsg.proc]
      split <;> exact SameSetup.refl data
  | reportStatus status =>
      have updated := @updateAidingData_sameSetup (locEngReportStatus data status).1
      exact ⟨updated.created, updated.agpsStatusCb, updated.suplHost, updated.c2kHost⟩
  | requestNi privacyOverride =>
      rw [LocMsg.proc]
      split <;> exact ⟨rfl, rfl, rfl, rfl⟩
  | up => exact engineUp_sameSetup

/-! ## Calls of the framework -/

structure SameRun (data data' : LocEngData) : Prop where
  adapter : data'.adapter = data.adapter
  engineStatus : data'.engineStatus = data.engineStatus
  aidingDataForDeletion : data'.aidingDataForDeletion = data.aidingDataForDeletion
  muteSessionState : data'.muteSessionState = data.muteSessionState

theorem SameRun.refl (data : LocEngData) : SameRun data data := ⟨rfl, rfl, rfl, rfl⟩

theorem perform_sameRun {call : EngineCall} {resolve : Resolver} (created : data.created = true) :
    SameRun data (call.perform conf resolve data).1 := by
  cases call with
  | init =>
      rw [EngineCall.perform, if_pos created]
      exact SameRun.refl data
  | agpsInit =>
      rw [EngineCall.perform]
      split <;> exact ⟨rfl, rfl, rfl, rfl⟩
  | setServer =>
      rw [EngineCall.perform, locEngSetServerProxy.eq_def, if_pos created]
      exact SameRun.refl data
  | setPositionMode | start | stop | deleteAidingData | cleanup => exact SameRun.refl data

/-! ## What is sent along -/

theorem mem_setServer {resolve : Resolver} {type : LocServerType} {hostname : CString}
    {port : Int} (sent : msg ∈ locEngSetServer resolve type hostname port) :
    ∃ server, msg = .setServer server := by
  rw [locEngSetServer.eq_def] at sent
  cases type
  case agpsSupl =>
      dsimp only at sent
      split at sent
      · exact ⟨_, List.mem_singleton.mp sent⟩
      · cases sent
  all_goals
    dsimp only at sent
    split at sent
    · cases sent
    · exact ⟨_, List.mem_singleton.mp sent⟩

theorem mem_agpsReinit {resolve : Resolver} (sent : msg ∈ locEngAgpsReinit data resolve) :
    ∃ server, msg = .setServer server := by
  have buffered {type : LocServerType} {buf : Option HostBuf}
      (sent : msg ∈ setBuffered resolve type buf) : ∃ server, msg = .setServer server := by
    cases buf with
    | none => cases sent
    | some buf => exact mem_setServer sent
  rw [locEngAgpsReinit, List.mem_append] at sent
  exact sent.elim buffered buffered

theorem mem_proc_sent {m : LocMsg} (sent : m ∈ (msg.proc conf answers data).2.1) :
    ∃ server, m = .setServer server := by
  cases msg
  case up =>
    have reinit : m ∈ if data.agpsStatusCb then locEngAgpsReinit data answers.resolveInAddr
        else [] := by
      rw [LocMsg.proc, locEngHandleEngineUp] at sent
      dsimp only at sent
      split at sent <;> exact sent
    split at reinit
    · exact mem_agpsReinit reinit
    · cases reinit
  case reportSv =>
    rw [LocMsg.proc] at sent
    split at sent <;> cases sent
  case requestNi =>
    rw [LocMsg.proc] at sent
    split at sent <;> cases sent
  all_goals cases sent

theorem mem_agpsInit {resolve : Resolver}
    (sent : msg ∈ (EngineCall.agpsInit.perform conf resolve data).2) :
    ∃ server, msg = .setServer server := by
  rw [EngineCall.perform] at sent
  split at sent
  · dsimp only at sent
    split at sent
    · cases sent
    · exact mem_agpsReinit sent
  · cases sent

theorem mem_setServerCall {resolve : Resolver} {type : LocServerType} {hostname : CString}
    {port : Int}
    (sent : msg ∈ ((EngineCall.setServer type hostname port).perform conf resolve data).2) :
    ∃ server, msg = .setServer server := by
  rw [EngineCall.perform, locEngSetServerProxy.eq_def] at sent
  split at sent
  · exact mem_setServer sent
  · cases type <;> cases sent

/-! ## What one event does -/

theorem step_proc_nil (empty : eng.msgs = []) : eng.step conf (.proc answers) = (eng, []) := by
  rw [LocEng.step, empty]

theorem step_proc_cons (waiting : eng.msgs = msg :: msgs) :
    eng.step conf (.proc answers) =
      (⟨(msg.proc conf answers eng.data).1, msgs ++ (msg.proc conf answers eng.data).2.1⟩,
        (msg.proc conf answers eng.data).2.2) := by
  rw [LocEng.step, waiting]

structure Unborn (eng : LocEng) : Prop where
  msgs : eng.msgs = []
  created : eng.data.created = false
  adapter : eng.data.adapter = LocEngData.zero.adapter
  aidingDataForDeletion : eng.data.aidingDataForDeletion = 0
  muteSessionState : eng.data.muteSessionState = .none

theorem zero_unborn : Unborn .zero := ⟨rfl, rfl, rfl, rfl, rfl⟩

theorem Unborn.step (unborn : Unborn eng) (e : EngineEvent) :
    (eng.step conf e).2 = [] ∧
      (Unborn (eng.step conf e).1 ∨
        (∃ resolve, e = .call .init resolve) ∧ (eng.step conf e).1 = ⟨.fresh, [.init]⟩) := by
  obtain ⟨msgs, created, adapter, aiding, mute⟩ := unborn
  cases e with
  | call call resolve =>
      refine ⟨rfl, ?_⟩
      cases call with
      | init =>
          right
          refine ⟨⟨resolve, rfl⟩, ?_⟩
          simp [LocEng.step, EngineCall.perform, created, msgs]
      | setServer type hostname port =>
          left
          rw [LocEng.step, EngineCall.perform, locEngSetServerProxy.eq_def,
            if_neg (by simp [created])]
          cases type <;> exact ⟨by simp [msgs], created, adapter, aiding, mute⟩
      | agpsInit | setPositionMode | start | stop | deleteAidingData | cleanup =>
          left
          simp only [LocEng.step, EngineCall.perform, created, msgs, Bool.false_eq_true,
            if_false, false_and]
          exact ⟨rfl, created, adapter, aiding, mute⟩
  | report report =>
      rw [LocEng.step, created, if_neg Bool.false_ne_true]
      exact ⟨rfl, .inl ⟨msgs, created, adapter, aiding, mute⟩⟩
  | proc answers =>
      rw [step_proc_nil msgs]
      exact ⟨rfl, .inl ⟨msgs, created, adapter, aiding, mute⟩⟩

theorem step_created (created : eng.data.created = true) :
    (eng.step conf e).1.data.created = true := by
  cases e with
  | call call resolve =>
      cases call with
      | init => simp [LocEng.step, EngineCall.perform, created]
      | agpsInit =>
          simp only [LocEng.step, EngineCall.perform]
          split_ifs <;> exact created
      | setServer =>
          simp only [LocEng.step, EngineCall.perform, locEngSetServerProxy, created, if_true]
      | setPositionMode | start | stop | deleteAidingData | cleanup => exact created
  | report report =>
      rw [LocEng.step, if_pos created]
      exact created
  | proc answers =>
      cases waiting : eng.msgs with
      | nil => rwa [step_proc_nil waiting]
      | cons msg msgs =>
          rw [step_proc_cons waiting]
          exact proc_sameSetup.created.trans created

def Born (eng : LocEng) : Prop := eng.data.created = false → Unborn eng

theorem Born.step (born : Born eng) : Born (eng.step conf e).1 := by
  intro created
  cases before : eng.data.created with
  | true =>
      rw [step_created before] at created
      cases created
  | false =>
      rcases ((born before).step e).2 with unborn | ⟨-, fresh⟩
      · exact unborn
      · rw [fresh] at created
        cases created

/-! ## Reports -/

theorem report_silent {β : Type} {f : LocMsg → Option β} {report : ModemReport}
    (position : ∀ p, f (.reportPosition p) = none) (sv : f .reportSv = none)
    (status : ∀ st, f (.reportStatus st) = none) (ni : ∀ silent, f (.requestNi silent) = none)
    (down : f .down = none) (up : f .up = none) : (report.sent conf).filterMap f = [] := by
  cases report with
  | niNotify privacyOverride =>
      rw [ModemReport.sent]
      split <;> simp [ni]
  | position | sv | status | engineDown | engineUp => simp [ModemReport.sent, *]

/-! ## A phone -/

def obliging : EngineAnswers := ⟨.success, .success, fun _ => none, true⟩

def phone : EngineConf := ⟨0, 0, .msm, true⟩

def unresolved : Resolver := fun _ => none

def initialised : List EngineEvent := [.call .init unresolved, .proc obliging]

end VibeXperia.Proof.Gps

import VibeXperia.Proof.Gps.Engine
import VibeXperia.Gps.Session

namespace VibeXperia.Proof.Gps
open Lib VibeXperia.Gps

variable {conf : EngineConf} {answers : EngineAnswers} {data : LocEngData} {eng : LocEng}
variable {e : EngineEvent} {msg : LocMsg} {ts : List EngineTransition} {t : EngineTransition}

/-! ## Histories of muting -/

def MuteWaits (ts : List EngineTransition) : Prop :=
  ∃ before r between, ts = before ++ r :: between ∧ MuteRequested r ∧ ∀ t ∈ between, ¬ Begins t

theorem muteWaits_snoc :
    MuteWaits (ts ++ [t]) ↔ MuteRequested t ∨ MuteWaits ts ∧ ¬ Begins t := by
  constructor
  · rintro ⟨before, r, between, split, requested, unbegun⟩
    rcases split_snoc split with ⟨-, rfl, -⟩ | ⟨rest, rfl, rfl⟩
    · exact .inl requested
    · rw [List.forall_mem_append, List.forall_mem_singleton] at unbegun
      exact .inr ⟨⟨before, r, rest, rfl, requested, unbegun.1⟩, unbegun.2⟩
  · rintro (requested | ⟨⟨before, r, between, rfl, requested, unbegun⟩, now⟩)
    · exact ⟨ts, t, [], rfl, requested, List.forall_mem_nil _⟩
    · refine ⟨before, r, between ++ [t], by simp, requested, ?_⟩
      rw [List.forall_mem_append, List.forall_mem_singleton]
      exact ⟨unbegun, now⟩

theorem inMuted_snoc :
    InMuted (ts ++ [t]) ↔
      InMuted ts ∧ ¬ Ends t ∧ ¬ MuteRequested t ∨ MuteWaits ts ∧ Begins t := by
  constructor
  · rintro ⟨before, r, between, b, rest, split, requested, unbegun, begun, lasting⟩
    rw [← List.cons_append, ← List.append_assoc] at split
    rcases split_snoc split with ⟨rfl, rfl, -⟩ | ⟨rest, rfl, rfl⟩
    · exact .inr ⟨⟨before, r, between, rfl, requested, unbegun⟩, begun⟩
    · rw [List.forall_mem_append, List.forall_mem_singleton] at lasting
      refine .inl ⟨⟨before, r, between, b, rest, ?_, requested, unbegun, begun, lasting.1⟩, lasting.2⟩
      rw [List.append_assoc, List.cons_append]
  · rintro (⟨⟨before, r, between, b, rest, rfl, requested, unbegun, begun, lasting⟩, now⟩ |
      ⟨⟨before, r, between, rfl, requested, unbegun⟩, begun⟩)
    · refine ⟨before, r, between, b, rest ++ [t], by simp, requested, unbegun, begun, ?_⟩
      rw [List.forall_mem_append, List.forall_mem_singleton]
      exact ⟨lasting, now⟩
    · exact ⟨before, r, between, t, [], by simp, requested, unbegun, begun, List.forall_mem_nil _⟩

/-! ## The state of muting -/

theorem updateAidingData_mute :
    (updateAidingDataForDeletion data).1.muteSessionState = data.muteSessionState := by
  rw [updateAidingDataForDeletion]
  split <;> rfl

theorem startHandler_mute :
    (locEngStartHandler answers data).1.muteSessionState = data.muteSessionState := by
  rw [locEngStartHandler]
  split_ifs <;> rfl

def muteAfter (answers : EngineAnswers) (msg : LocMsg) (mute : LocMuteSession) : LocMuteSession :=
  match msg with
  | .reportStatus status => switchMute status mute
  | .down => switchMute .engineOff mute
  | .up => switchMute .engineOn mute
  | .requestNi privacyOverride => if answers.niTaken ∧ privacyOverride then .wait else mute
  | _ => mute

theorem proc_mute :
    (msg.proc conf answers data).1.muteSessionState =
      muteAfter answers msg data.muteSessionState := by
  cases msg with
  | init | positionMode | setServer | down => rfl
  | startFix => exact startHandler_mute
  | stopFix =>
      rw [LocMsg.proc, silent, locEngStopHandler]
      split <;> rfl
  | delAidData flags => exact updateAidingData_mute
  | reportPosition position =>
      obtain same | ⟨location, same⟩ | ⟨location, stops, -, -, same⟩ :=
        @reportPosition_cases conf data position <;> rw [LocMsg.proc, silent, same] <;> rfl
  | reportSv =>
      rw [LocMsg.proc]
      split <;> rfl
  | reportStatus status => exact updateAidingData_mute
  | requestNi privacyOverride =>
      rw [LocMsg.proc, muteAfter]
      split <;> rfl
  | up =>
      rw [LocMsg.proc, locEngHandleEngineUp]
      dsimp only
      split
      · exact startHandler_mute
      · rfl

theorem muteAfter_wait (mute : LocMuteSession) :
    muteAfter answers msg mute = .wait ↔
      msg = .requestNi true ∧ answers.niTaken = true ∨ mute = .wait ∧ msg.begins = false := by
  cases msg with
  | reportStatus status =>
      cases status <;> cases mute <;> simp [muteAfter, switchMute, LocMsg.begins, beginStatus]
  | down | up => cases mute <;> simp [muteAfter, switchMute, LocMsg.begins]
  | requestNi privacyOverride =>
      rw [muteAfter]
      split
      · rename_i both
        simp [both]
      · rename_i not
        cases privacyOverride <;> simp_all [LocMsg.begins]
  | _ => simp [muteAfter, LocMsg.begins]

theorem muteAfter_inSession (mute : LocMuteSession) :
    muteAfter answers msg mute = .inSession ↔
      mute = .inSession ∧ msg.ends = false ∧ ¬ (msg = .requestNi true ∧ answers.niTaken = true) ∨
        mute = .wait ∧ msg.begins = true := by
  cases msg with
  | reportStatus status =>
      cases status <;> cases mute <;>
        simp [muteAfter, switchMute, LocMsg.begins, LocMsg.ends, beginStatus, endStatus]
  | down | up => cases mute <;> simp [muteAfter, switchMute, LocMsg.begins, LocMsg.ends]
  | requestNi privacyOverride =>
      rw [muteAfter]
      split
      · rename_i both
        simp [both, LocMsg.begins]
      · rename_i not
        cases privacyOverride <;> simp_all [LocMsg.begins, LocMsg.ends]
  | _ => simp [muteAfter, LocMsg.begins, LocMsg.ends]

structure MuteAgrees (ts : List EngineTransition) (eng : LocEng) : Prop where
  born : Born eng
  waits : eng.data.muteSessionState = .wait ↔ MuteWaits ts
  muted : eng.data.muteSessionState = .inSession ↔ InMuted ts

/-- A reaction that handles no message leaves the muting as it is. -/
theorem MuteAgrees.unhandled (agrees : MuteAgrees ts eng)
    (born : Born t.after) (unhandled : handledIn t = none)
    (same : t.after.data.muteSessionState = eng.data.muteSessionState) :
    MuteAgrees (ts ++ [t]) t.after := by
  have unbegun : ¬ Begins t := by
    rintro ⟨msg, handled, -⟩
    rw [unhandled] at handled
    cases handled
  have unended : ¬ Ends t := by
    rintro ⟨msg, handled, -⟩
    rw [unhandled] at handled
    cases handled
  have unrequested : ¬ MuteRequested t := by
    rintro ⟨answers, event, -, handled⟩
    rw [handledIn, event] at unhandled
    cases handled.symm.trans unhandled
  refine ⟨born, ?_, ?_⟩
  · rw [same, agrees.waits, muteWaits_snoc]
    simp [unbegun, unrequested]
  · rw [same, agrees.muted, inMuted_snoc]
    simp [unbegun, unended, unrequested]

theorem handled_marks (event : t.event = .proc answers) (handled : handledIn t = some msg) :
    (MuteRequested t ↔ msg = .requestNi true ∧ answers.niTaken = true) ∧
      (Begins t ↔ msg.begins = true) ∧ (Ends t ↔ msg.ends = true) := by
  have head : t.before.msgs.head? = some msg := by
    rw [handledIn, event] at handled
    exact handled
  refine ⟨?_, ?_, ?_⟩
  · rw [MuteRequested, event, head]
    simp [and_comm]
  · simp [Begins, handled]
  · simp [Ends, handled]

theorem MuteAgrees.step (agrees : MuteAgrees ts eng) (e : EngineEvent) :
    MuteAgrees (ts ++ [react (LocEng.step conf) eng e]) (eng.step conf e).1 := by
  have born := @Born.step conf eng e agrees.born
  cases e with
  | call call resolve =>
      apply agrees.unhandled (t := react (LocEng.step conf) eng (.call call resolve)) born rfl
      cases created : eng.data.created with
      | true => exact (@perform_sameRun conf eng.data call resolve created).muteSessionState
      | false =>
          have unborn := agrees.born created
          obtain ⟨-, still | ⟨-, fresh⟩⟩ := @Unborn.step conf eng unborn (.call call resolve)
          · exact still.muteSessionState.trans unborn.muteSessionState.symm
          · rw [unborn.muteSessionState]
            exact congrArg (·.data.muteSessionState) fresh
  | report report =>
      apply agrees.unhandled (t := react (LocEng.step conf) eng (.report report)) born rfl
      show ((eng.step conf (.report report)).1.data.muteSessionState = _)
      rw [LocEng.step]
      split <;> rfl
  | proc answers =>
      cases waiting : eng.msgs with
      | nil =>
          apply agrees.unhandled (t := react (LocEng.step conf) eng (.proc answers)) born
          · exact congrArg List.head? waiting
          · exact congrArg (·.1.data.muteSessionState) (step_proc_nil waiting)
      | cons msg msgs =>
          have handled : handledIn (react (LocEng.step conf) eng (.proc answers)) = some msg :=
            congrArg List.head? waiting
          obtain ⟨requested, begun, ended⟩ :=
            @handled_marks answers msg (react (LocEng.step conf) eng (.proc answers)) rfl handled
          have mute : (eng.step conf (.proc answers)).1.data.muteSessionState =
              muteAfter answers msg eng.data.muteSessionState := by
            rw [step_proc_cons waiting]
            exact proc_mute
          refine ⟨born, ?_, ?_⟩
          · rw [mute, muteAfter_wait, muteWaits_snoc, requested, begun, agrees.waits,
              Bool.not_eq_true]
          · rw [mute, muteAfter_inSession, inMuted_snoc, requested, begun, ended, agrees.waits,
              agrees.muted, Bool.not_eq_true]

theorem run_muteAgrees (events : List EngineEvent) :
    MuteAgrees (trace (LocEng.step conf) .zero events)
      (final (LocEng.step conf) .zero events) := by
  have zero : MuteAgrees [] .zero := by
    refine ⟨fun _ => zero_unborn, iff_of_false nofun ?_, iff_of_false nofun ?_⟩
    · rintro ⟨before, r, between, split, -⟩
      exact List.append_ne_nil_of_right_ne_nil before (List.cons_ne_nil _ _) split.symm
    · rintro ⟨before, r, between, b, rest, split, -⟩
      exact List.append_ne_nil_of_right_ne_nil before (List.cons_ne_nil _ _) split.symm
  exact @history_invariant LocEng EngineEvent EngineEffect (LocEng.step conf) MuteAgrees
    (fun _ => True) (fun _ _ e agrees _ => agrees.step e) .zero events zero fun _ _ => trivial

/-! ## What is told -/

theorem updateAidingData_told {effect : EngineEffect}
    (told : effect ∈ (updateAidingDataForDeletion data).2) : effect.isReport = false := by
  rw [updateAidingDataForDeletion] at told
  split at told
  · rw [List.mem_singleton.mp told]
    rfl
  · cases told

theorem proc_suppressed (report : msg.isReport = true)
    (muted : (msg.proc conf answers data).1.muteSessionState = .inSession)
    {effect : EngineEffect} (put : effect ∈ (msg.proc conf answers data).2.2) :
    effect.isReport = false := by
  rw [proc_mute] at muted
  cases msg with
  | reportPosition position =>
      replace muted : data.muteSessionState = .inSession := muted
      rw [LocMsg.proc, silent, reportPositionProc, if_pos muted] at put
      cases put
  | reportSv =>
      replace muted : data.muteSessionState = .inSession := muted
      rw [LocMsg.proc, if_pos muted] at put
      cases put
  | reportStatus status =>
      rw [LocMsg.proc] at put
      rcases List.mem_append.mp put with told | deleted
      · rw [locEngReportStatus] at told
        dsimp only at told
        rw [if_neg fun all => all.2.2.2 muted] at told
        cases told
      · exact updateAidingData_told deleted
  | _ => cases report

theorem reportStatus_told {status : GpsStatusValue} :
    .statusCb status ∈ ((LocMsg.reportStatus status).proc conf answers data).2.2 ↔
      status ≠ .none ∧ ¬ (status = .sessionEnd ∧ data.adapter.mNavigating = true) ∧
        ¬ (status = .sessionBegin ∧ ¬ data.adapter.mNavigating = true) ∧
        switchMute status data.muteSessionState ≠ .inSession := by
  have deleted : .statusCb status ∉
      (updateAidingDataForDeletion (locEngReportStatus data status).1).2 := by
    intro told
    cases updateAidingData_told told
  rw [LocMsg.proc]
  dsimp only
  rw [List.mem_append, or_iff_left deleted, locEngReportStatus]
  dsimp only
  split
  · rename_i all
    simpa using all
  · rename_i all
    simpa using all

theorem switchMute_sessionEnd (mute : LocMuteSession) :
    switchMute .sessionEnd mute ≠ .inSession := by
  cases mute <;> decide

theorem handled_agrees {before after : List EngineTransition} {events : List EngineEvent}
    (split : trace (LocEng.step conf) .zero events = before ++ t :: after)
    (handled : handledIn t = some msg) :
    ∃ answers, t.outputs = (msg.proc conf answers t.before.data).2.2 ∧
      MuteAgrees before t.before ∧ MuteAgrees (before ++ [t]) t.after ∧
      t.after.data = (msg.proc conf answers t.before.data).1 := by
  obtain ⟨es₁, e, es₂, -, rfl, rfl, -⟩ := trace_eq_append_cons split
  cases e with
  | call | report => cases handled
  | proc answers =>
      have earlier := @run_muteAgrees conf es₁
      have later := @MuteAgrees.step conf _ _ earlier (.proc answers)
      obtain ⟨msgs, waiting⟩ := List.head?_eq_some_iff.mp handled
      refine ⟨answers, ?_, earlier, later, ?_⟩
      · exact congrArg Prod.snd (step_proc_cons waiting)
      · exact congrArg (·.1.data) (step_proc_cons waiting)

/-- In every run, a muted session is not noticed but for its end, and an unmuted one is noticed
when it begins while the framework navigates, and when it ends while it does not. -/
theorem muting_kept (conf : EngineConf) (events : List EngineEvent) :
    MutingKept (trace (LocEng.step conf) .zero events) := by
  constructor
  case suppressed =>
    rintro before t after split muted ⟨msg, handled, report⟩ effect put
    obtain ⟨answers, outputs, -, agrees, data⟩ := handled_agrees split handled
    rw [outputs] at put
    rw [← agrees.muted, data] at muted
    exact proc_suppressed report muted put
  case begun =>
    intro before t after split handled
    obtain ⟨answers, outputs, earlier, agrees, data⟩ := handled_agrees split handled
    have mute : switchMute .sessionBegin t.before.data.muteSessionState = .inSession ↔
        InMuted (before ++ [t]) := by
      rw [← agrees.muted, data, proc_mute]
      rfl
    rw [outputs, reportStatus_told, ne_eq _ (LocMuteSession.inSession), mute]
    simp
  case ended =>
    intro before t after split handled unmuted
    obtain ⟨answers, outputs, -⟩ := handled_agrees split handled
    rw [outputs, reportStatus_told]
    simp [switchMute_sessionEnd]

/-- The end of a session is told, and its begin was not, though nothing was muted. -/
theorem end_told_alone :
    outputs (LocEng.step phone) .zero
      (initialised ++ [.report (.status .sessionBegin), .proc obliging,
        .report (.status .sessionEnd), .proc obliging]) = [.statusCb .sessionEnd] := by
  decide

end VibeXperia.Proof.Gps

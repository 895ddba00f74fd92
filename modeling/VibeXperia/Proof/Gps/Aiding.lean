import VibeXperia.Proof.Gps.Engine
import VibeXperia.Gps.Aiding

namespace VibeXperia.Proof.Gps
open Lib VibeXperia.Gps

variable {conf : EngineConf} {answers : EngineAnswers} {data : LocEngData} {eng : LocEng}
variable {e : EngineEvent} {msg : LocMsg} {msgs : List LocMsg}

/-! ## Unions -/

@[simp] theorem flagUnion_nil : flagUnion [] = 0#16 := rfl

@[simp] theorem flagUnion_cons (first : GpsAidingData) (rest : List GpsAidingData) :
    flagUnion (first :: rest) = first ||| flagUnion rest := rfl

theorem flagUnion_append (first second : List GpsAidingData) :
    flagUnion (first ++ second) = flagUnion first ||| flagUnion second := by
  induction first with
  | nil => exact BitVec.zero_or.symm
  | cons flags first ih =>
      rw [List.cons_append, flagUnion_cons, flagUnion_cons, ih, BitVec.or_assoc]

theorem or_eq_of_asked {deferred type : GpsAidingData} (asked : deferred &&& ~~~type = 0#16) :
    deferred ||| type = type := by
  ext i inside
  have bit : (deferred &&& ~~~type)[i] = (0#16)[i] := by rw [asked]
  rw [BitVec.getElem_and, BitVec.getElem_not, BitVec.getElem_zero] at bit
  rw [BitVec.getElem_or]
  generalize deferred[i] = old at *
  cases old with
  | true => simpa using bit
  | false => rfl

/-! ## What one message does -/

def passedFlags (outs : List EngineEffect) : GpsAidingData :=
  flagUnion (outs.filterMap deletionPassed)

theorem passedFlags_append (first second : List EngineEffect) :
    passedFlags (first ++ second) = passedFlags first ||| passedFlags second := by
  rw [passedFlags, List.filterMap_append, flagUnion_append]
  rfl

theorem updateAidingData_flags :
    passedFlags (updateAidingDataForDeletion data).2 |||
        (updateAidingDataForDeletion data).1.aidingDataForDeletion =
      data.aidingDataForDeletion := by
  rw [updateAidingDataForDeletion]
  split
  · simp [passedFlags, deletionPassed]
  · simp [passedFlags]

theorem locEngReportStatus_flags (status : GpsStatusValue) :
    passedFlags (locEngReportStatus data status).2 = 0#16 := by
  rw [locEngReportStatus]
  dsimp only
  split <;> rfl

theorem startHandler_flags :
    passedFlags (locEngStartHandler answers data).2 = 0#16 ∧
      (locEngStartHandler answers data).1.aidingDataForDeletion = data.aidingDataForDeletion := by
  rw [locEngStartHandler]
  split_ifs <;> exact ⟨rfl, rfl⟩

theorem reportPosition_flags (position : PositionReport) :
    passedFlags (reportPositionProc conf data position).2 = 0#16 ∧
      (reportPositionProc conf data position).1.aidingDataForDeletion =
        data.aidingDataForDeletion := by
  obtain same | ⟨location, same⟩ | ⟨location, stops, -, stopped, same⟩ :=
    @reportPosition_cases conf data position <;> rw [same]
  · exact ⟨rfl, rfl⟩
  · exact ⟨rfl, rfl⟩
  · rcases stopped with rfl | rfl <;> exact ⟨rfl, rfl⟩

theorem engineUp_flags :
    passedFlags (locEngHandleEngineUp answers data).2.2 = 0#16 ∧
      (locEngHandleEngineUp answers data).1.aidingDataForDeletion =
        data.aidingDataForDeletion := by
  have on := @locEngReportStatus_flags data .engineOn
  rw [locEngHandleEngineUp]
  dsimp only
  split
  · have started := @startHandler_flags answers
      ((locEngReportStatus data .engineOn).1.setInSession false)
    refine ⟨?_, started.2⟩
    rw [passedFlags_append, on, BitVec.zero_or]
    exact started.1
  · exact ⟨on, rfl⟩

theorem proc_flags
    (asked : ∀ type, msg = .delAidData type → data.aidingDataForDeletion &&& ~~~type = 0#16) :
    passedFlags (msg.proc conf answers data).2.2 |||
        (msg.proc conf answers data).1.aidingDataForDeletion =
      data.aidingDataForDeletion ||| flagUnion (deletionSent msg).toList := by
  have untouched {after : GpsAidingData} {outs : List EngineEffect} (passed : passedFlags outs = 0#16)
      (same : after = data.aidingDataForDeletion) :
      passedFlags outs ||| after = data.aidingDataForDeletion ||| flagUnion [] := by
    rw [passed, same, flagUnion_nil, BitVec.zero_or, BitVec.or_zero]
  cases msg with
  | init | positionMode | setServer => exact untouched rfl rfl
  | startFix => exact untouched startHandler_flags.1 startHandler_flags.2
  | stopFix =>
      rw [LocMsg.proc, silent, locEngStopHandler]
      split
      · refine untouched ?_ rfl
        dsimp only
        split <;> rfl
      · exact untouched rfl rfl
  | delAidData type =>
      refine updateAidingData_flags.trans ?_
      rw [deletionSent, Option.toList_some, flagUnion_cons, flagUnion_nil, BitVec.or_zero,
        or_eq_of_asked (asked type rfl)]
  | reportPosition position =>
      exact untouched (reportPosition_flags position).1 (reportPosition_flags position).2
  | reportSv =>
      rw [LocMsg.proc]
      split <;> exact untouched rfl rfl
  | reportStatus status =>
      have updated := @updateAidingData_flags (locEngReportStatus data status).1
      rw [LocMsg.proc]
      dsimp only
      rw [passedFlags_append, locEngReportStatus_flags, BitVec.zero_or, updated]
      exact BitVec.or_zero.symm
  | requestNi privacyOverride =>
      rw [LocMsg.proc]
      split <;> exact untouched rfl rfl
  | down => exact untouched (locEngReportStatus_flags .engineOff) rfl
  | up => exact untouched engineUp_flags.1 engineUp_flags.2

/-! ## What one event does -/

theorem setServer_noDeletion (sent : ∃ server, msg = .setServer server) :
    deletionSent msg = none := by
  obtain ⟨server, rfl⟩ := sent
  rfl

theorem perform_deletions {call : EngineCall} {resolve : Resolver}
    (created : data.created = true) :
    (call.perform conf resolve data).2.filterMap deletionSent =
      (deletionRequested (.call call resolve)).toList := by
  cases call with
  | init =>
      rw [EngineCall.perform, if_pos created]
      rfl
  | agpsInit =>
      apply List.filterMap_eq_nil_iff.mpr
      exact fun msg sent => setServer_noDeletion (mem_agpsInit sent)
  | setServer type hostname port =>
      apply List.filterMap_eq_nil_iff.mpr
      exact fun msg sent => setServer_noDeletion (mem_setServerCall sent)
  | setPositionMode | start | stop | deleteAidingData =>
      rw [EngineCall.perform, if_pos created]
      rfl
  | cleanup =>
      rw [EngineCall.perform]
      split <;> rfl

theorem report_deletions {report : ModemReport} :
    (report.sent conf).filterMap deletionSent = [] :=
  report_silent (fun _ => rfl) rfl (fun _ => rfl) (fun _ => rfl) rfl rfl

theorem step_flags (created : eng.data.created = true) (asked : deferredAsked eng e = true) :
    passedFlags (eng.step conf e).2 ||| outstandingFlags (eng.step conf e).1 =
      outstandingFlags eng ||| flagUnion (deletionRequested e).toList := by
  cases e with
  | call call resolve =>
      have same := @perform_sameRun conf eng.data call resolve created
      rw [LocEng.step]
      dsimp only
      rw [outstandingFlags, same.aidingDataForDeletion, List.filterMap_append, flagUnion_append,
        perform_deletions created, outstandingFlags, BitVec.or_assoc]
      exact BitVec.zero_or
  | report report =>
      rw [LocEng.step, if_pos created, outstandingFlags, List.filterMap_append, report_deletions,
        List.append_nil]
      exact BitVec.zero_or.trans BitVec.or_zero.symm
  | proc answers =>
      cases waiting : eng.msgs with
      | nil =>
          rw [step_proc_nil waiting]
          exact BitVec.zero_or.trans BitVec.or_zero.symm
      | cons msg msgs =>
          have deferred : ∀ type, msg = .delAidData type →
              eng.data.aidingDataForDeletion &&& ~~~type = 0#16 := by
            rintro type rfl
            simpa [deferredAsked, waiting, deletionSent] using asked
          have handled := @proc_flags conf answers eng.data msg deferred
          have sent : (msg.proc conf answers eng.data).2.1.filterMap deletionSent = [] :=
            List.filterMap_eq_nil_iff.mpr fun m member => setServer_noDeletion (mem_proc_sent member)
          have queued : flagUnion (eng.msgs.filterMap deletionSent) =
              flagUnion (deletionSent msg).toList ||| flagUnion (msgs.filterMap deletionSent) := by
            rw [waiting, List.filterMap_cons]
            cases deletionSent msg <;> simp
          rw [step_proc_cons waiting, outstandingFlags, outstandingFlags, List.filterMap_append,
            sent, List.append_nil, queued, ← BitVec.or_assoc, handled, BitVec.or_assoc,
            BitVec.or_assoc]
          simp [deletionRequested]

theorem run_flags {es : List EngineEvent} (created : eng.data.created = true)
    (asked : ∀ t ∈ trace (LocEng.step conf) eng es, deferredAsked t.before t.event = true) :
    passedFlags (outputs (LocEng.step conf) eng es) |||
        outstandingFlags (final (LocEng.step conf) eng es) =
      outstandingFlags eng ||| flagUnion (es.filterMap deletionRequested) := by
  induction es generalizing eng with
  | nil => simp [passedFlags, outputs]
  | cons e es ih =>
      rw [trace_cons, List.forall_mem_cons] at asked
      have first := @step_flags conf eng e created asked.1
      have later := ih (step_created created) asked.2
      have all : outputs (LocEng.step conf) eng (e :: es) =
          (eng.step conf e).2 ++ outputs (LocEng.step conf) (eng.step conf e).1 es := rfl
      have requests : flagUnion ((e :: es).filterMap deletionRequested) =
          flagUnion (deletionRequested e).toList |||
            flagUnion (es.filterMap deletionRequested) := by
        rw [List.filterMap_cons]
        cases deletionRequested e <;> simp
      calc
        _ = passedFlags (eng.step conf e).2 |||
            (outstandingFlags (eng.step conf e).1 |||
              flagUnion (es.filterMap deletionRequested)) := by
          rw [all, final_cons, passedFlags_append, BitVec.or_assoc, later]
        _ = _ := by rw [requests, ← BitVec.or_assoc, first, BitVec.or_assoc]

theorem nonePending_flags (nonePending : NonePending eng) : outstandingFlags eng = 0#16 := by
  rw [outstandingFlags, nonePending.deferred, nonePending.queued]
  rfl

/-- Between two moments without pending deletions, the modem is to delete what was requested, if
no request takes the place of others that were deferred. -/
theorem deletions_kept (conf : EngineConf) {before es : List EngineEvent}
    (created : (final (LocEng.step conf) .zero before).data.created = true)
    (start : NonePending (final (LocEng.step conf) .zero before))
    (now : NonePending (final (LocEng.step conf) .zero (before ++ es)))
    (asked : ∀ t ∈ trace (LocEng.step conf) (final (LocEng.step conf) .zero before) es,
      deferredAsked t.before t.event = true) :
    flagUnion ((outputs (LocEng.step conf) (final (LocEng.step conf) .zero before) es).filterMap
        deletionPassed) =
      flagUnion (es.filterMap deletionRequested) := by
  have kept := run_flags created asked
  rw [final_append] at now
  rwa [nonePending_flags start, nonePending_flags now, BitVec.or_zero, BitVec.zero_or] at kept

def deferredDeletions (first second : GpsAidingData) : List EngineEvent :=
  [.report (.status .engineOn), .proc obliging,
    .call (.deleteAidingData first) unresolved, .proc obliging,
    .call (.deleteAidingData second) unresolved, .proc obliging,
    .report (.status .engineOff), .proc obliging]

theorem deletions_kept_larger :
    flagUnion ((outputs (LocEng.step phone) (final (LocEng.step phone) .zero initialised)
        (deferredDeletions 1 3)).filterMap deletionPassed) =
      flagUnion ((deferredDeletions 1 3).filterMap deletionRequested) :=
  deletions_kept phone rfl ⟨rfl, rfl⟩ ⟨by decide, by decide⟩ (by decide)

/-- The second of two deferred requests takes the place of the first. -/
theorem deferred_deletion_lost :
    NonePending (final (LocEng.step phone) .zero initialised) ∧
      NonePending (final (LocEng.step phone) .zero (initialised ++ deferredDeletions 1 2)) ∧
      (final (LocEng.step phone) .zero
        (initialised ++ deferredDeletions 1 2)).data.engineStatus = .engineOff ∧
      flagUnion ((outputs (LocEng.step phone) (final (LocEng.step phone) .zero initialised)
        (deferredDeletions 1 2)).filterMap deletionPassed) = 2 ∧
      flagUnion ((deferredDeletions 1 2).filterMap deletionRequested) = 3 :=
  ⟨⟨rfl, rfl⟩, ⟨by decide, by decide⟩, by decide, by decide, by decide⟩

end VibeXperia.Proof.Gps

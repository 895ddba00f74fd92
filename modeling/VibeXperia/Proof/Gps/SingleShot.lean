import VibeXperia.Gps.SingleShot
import VibeXperia.Proof.Gps.Engine

namespace VibeXperia.Proof.Gps
open Lib VibeXperia.Gps

variable {conf : EngineConf} {answers : EngineAnswers} {data : LocEngData} {eng : LocEng}
variable {e : EngineEvent} {msg : LocMsg} {t : EngineTransition}

/-! ## Calls of `location_cb` -/

theorem startHandler_locations :
    (locEngStartHandler answers data).2.countP EngineEffect.isLocation = 0 := by
  rw [locEngStartHandler]
  split_ifs <;> rfl

theorem reportStatus_locations (status : GpsStatusValue) :
    (locEngReportStatus data status).2.countP EngineEffect.isLocation = 0 := by
  rw [locEngReportStatus]
  dsimp only
  split <;> rfl

theorem updateAidingData_locations :
    (updateAidingDataForDeletion data).2.countP EngineEffect.isLocation = 0 := by
  rw [updateAidingDataForDeletion]
  split <;> rfl

theorem proc_locations (other : ∀ position, msg ≠ .reportPosition position) :
    (msg.proc conf answers data).2.2.countP EngineEffect.isLocation = 0 := by
  cases msg with
  | init | positionMode | setServer => rfl
  | reportPosition position => exact absurd rfl (other position)
  | startFix => exact startHandler_locations
  | stopFix =>
      rw [LocMsg.proc, silent, locEngStopHandler]
      split_ifs <;> rfl
  | delAidData flags => exact updateAidingData_locations
  | reportSv =>
      rw [LocMsg.proc]
      split <;> rfl
  | reportStatus status =>
      rw [LocMsg.proc, List.countP_append, reportStatus_locations, updateAidingData_locations]
  | requestNi privacyOverride =>
      rw [LocMsg.proc]
      split <;> rfl
  | down => exact reportStatus_locations .engineOff
  | up =>
      rw [LocMsg.proc, locEngHandleEngineUp]
      dsimp only
      split
      · rw [List.countP_append, reportStatus_locations, List.countP_cons_of_neg Bool.false_ne_true,
          startHandler_locations]
      · exact reportStatus_locations .engineOn

/-! ## One reaction -/

theorem passes_of_handled {position : PositionReport}
    (handled : handledIn t = some (.reportPosition position)) :
    passes conf t = true ↔ t.before.data.muteSessionState ≠ .inSession ∧
      (position.reported conf).isSome := by
  simp [passes, handled]

theorem passes_other (handled : handledIn t = some msg)
    (other : ∀ position, msg ≠ .reportPosition position) : passes conf t = false := by
  unfold passes
  rw [handled]
  cases msg
  case reportPosition position => exact absurd rfl (other position)
  all_goals rfl

theorem handledIn_react (same : t = react (LocEng.step conf) t.before t.event) :
    (handledIn t = none ∧ t.outputs = []) ∨
      ∃ msg answers, handledIn t = some msg ∧
        t.outputs = (msg.proc conf answers t.before.data).2.2 ∧
        t.after.data = (msg.proc conf answers t.before.data).1 := by
  obtain ⟨before, event, outputs, after⟩ := t
  simp only [react, Transition.mk.injEq, true_and] at same
  obtain ⟨rfl, rfl⟩ := same
  cases event with
  | call call resolve => exact .inl ⟨rfl, rfl⟩
  | report report =>
      refine .inl ⟨rfl, ?_⟩
      dsimp only [LocEng.step]
      split <;> rfl
  | proc answers =>
      cases waiting : before.msgs with
      | nil =>
          refine .inl ⟨by simp [handledIn, waiting], ?_⟩
          dsimp only
          rw [step_proc_nil waiting]
      | cons msg msgs =>
          refine .inr ⟨msg, answers, by simp [handledIn, waiting], ?_, ?_⟩
          · dsimp only
            rw [step_proc_cons waiting]
          · dsimp only
            rw [step_proc_cons waiting]

theorem reportPositionProc_passed {position : PositionReport}
    (unmuted : data.muteSessionState ≠ .inSession) {location : Option PositionReport}
    (reported : position.reported conf = some location) :
    reportPositionProc conf data position =
      if data.adapter.mFixCriteria.recurrence = .single then
        (data.setInSession false,
          .locationCb location :: if position.status = .intermediate then [.stopFix] else [])
      else (data, [.locationCb location]) := by
  rw [reportPositionProc, if_neg unmuted, reported]

theorem reaction_locations (same : t = react (LocEng.step conf) t.before t.event) :
    t.outputs.countP EngineEffect.isLocation = if passes conf t = true then 1 else 0 := by
  rcases handledIn_react same with ⟨none, silent⟩ | ⟨msg, answers, handled, outputs, -⟩
  · rw [silent, passes, none]
    rfl
  · rw [outputs]
    by_cases isPosition : ∃ position, msg = .reportPosition position
    · obtain ⟨position, rfl⟩ := isPosition
      have passed := @passes_of_handled conf t position handled
      rw [LocMsg.proc, silent]
      dsimp only
      by_cases muted : t.before.data.muteSessionState = .inSession
      · rw [if_neg (fun yes => (passed.mp yes).1 muted), reportPositionProc, if_pos muted]
        rfl
      · cases reported : position.reported conf with
        | none =>
            have stopped : ¬ passes conf t = true := by
              rw [passed, reported]
              simp
            rw [reportPositionProc, if_neg muted, reported, if_neg stopped]
            rfl
        | some location =>
            rw [if_pos (passed.mpr ⟨muted, by rw [reported]; rfl⟩),
              reportPositionProc_passed muted reported]
            split_ifs <;> rfl
    · have other : ∀ position, msg ≠ .reportPosition position := fun position same =>
        isPosition ⟨position, same⟩
      rw [proc_locations other, passes_other handled other]
      rfl

theorem callsLocation_iff (same : t = react (LocEng.step conf) t.before t.event) :
    CallsLocation t ↔ passes conf t = true := by
  have count := reaction_locations same
  rw [CallsLocation, ← List.countP_pos_iff, count]
  split_ifs with passed <;> simp [passed]

theorem ends_iff (same : t = react (LocEng.step conf) t.before t.event)
    (passed : passes conf t = true) :
    (t.after.data.adapter.mNavigating = false ∧ (Intermediate t → .stopFix ∈ t.outputs)) ↔
      EndsWithFix t := by
  rcases handledIn_react same with ⟨none, -⟩ | ⟨msg, answers, handled, outputs, after⟩
  · rw [passes, none] at passed
    cases passed
  · have isPosition : ∃ position, msg = .reportPosition position := by
      rw [passes, handled] at passed
      cases msg <;> first | exact ⟨_, rfl⟩ | cases passed
    obtain ⟨position, rfl⟩ := isPosition
    obtain ⟨unmuted, reported⟩ := (passes_of_handled handled).mp passed
    obtain ⟨location, reported⟩ := Option.isSome_iff_exists.mp reported
    have intermediate : Intermediate t ↔ position.status = .intermediate := by
      unfold Intermediate
      rw [handled]
      simp
    rw [LocMsg.proc, silent] at outputs after
    dsimp only at outputs after
    rw [reportPositionProc_passed unmuted reported] at outputs after
    rw [EndsWithFix, intermediate, outputs, after]
    by_cases single : t.before.data.adapter.mFixCriteria.recurrence = .single
    · rw [if_pos single]
      refine iff_of_true ⟨rfl, fun yes => ?_⟩ (.inl single)
      rw [if_pos yes]
      simp
    · rw [if_neg single, or_iff_right single]
      simp

/-! ## Sessions -/

theorem count_locations {between : List EngineTransition}
    (run : ∀ t ∈ between, t = react (LocEng.step conf) t.before t.event) :
    (between.flatMap Transition.outputs).countP EngineEffect.isLocation =
      between.countP (passes conf) := by
  induction between with
  | nil => rfl
  | cons t between ih =>
      obtain ⟨first, rest⟩ := List.forall_mem_cons.mp run
      rw [List.flatMap_cons, List.countP_append, ih rest, reaction_locations first,
        List.countP_cons]
      omega

theorem deliversOnce_iff {between : List EngineTransition}
    (run : ∀ t ∈ between, t = react (LocEng.step conf) t.before t.event) :
    DeliversOnce between ↔ PassesOnce conf between := by
  constructor
  · intro delivers
    refine ⟨?_, ?_⟩
    · rw [← count_locations run]
      exact delivers.once
    · intro t member passed
      have calls := (callsLocation_iff (run t member)).mpr passed
      exact (ends_iff (run t member) passed).mp
        ⟨delivers.off t member calls, delivers.stopped t member calls⟩
  · intro passing
    have ended (t : EngineTransition) (member : t ∈ between) (calls : CallsLocation t) := by
      have passed := (callsLocation_iff (run t member)).mp calls
      exact (ends_iff (run t member) passed).mpr (passing.ends t member passed)
    refine ⟨?_, fun t member calls => (ended t member calls).1,
      fun t member calls => (ended t member calls).2⟩
    rw [count_locations run]
    exact passing.once

/-- In a run of the engine, every session for a single fix delivers one at most and ends with it
exactly when at most one report that passes the filter is handled in it, under the criteria that
the session was started with. -/
theorem single_shot_iff (conf : EngineConf) (es : List EngineEvent) :
    (∀ between, SingleSession (trace (LocEng.step conf) .zero es) between →
        DeliversOnce between) ↔
      ∀ between, SingleSession (trace (LocEng.step conf) .zero es) between →
        PassesOnce conf between := by
  apply forall_congr'
  intro between
  apply imp_congr_right
  intro session
  apply deliversOnce_iff
  obtain ⟨before, start, after, split, -⟩ := session
  intro t member
  have listed : t ∈ trace (LocEng.step conf) .zero es := by
    rw [split]
    simp [member]
  exact eq_react_of_mem listed

def singleFix : LocPosMode := ⟨.standalone, .single, 1000, 0, 0, [], []⟩

def satelliteFix : PositionReport := ⟨.success, 1, false, 0⟩

def twoFixes : List EngineEvent :=
  initialised ++ [.call (.setPositionMode singleFix) unresolved, .call .start unresolved,
    .report (.position satelliteFix), .report (.position satelliteFix), .proc obliging]

theorem single_shot_twice : ¬ ∀ between,
    SingleSession (trace (LocEng.step phone) .zero
      (twoFixes ++ [.proc obliging, .proc obliging, .proc obliging])) between →
    DeliversOnce between := by
  intro all
  have split : trace (LocEng.step phone) .zero
      (twoFixes ++ [.proc obliging, .proc obliging, .proc obliging]) =
        trace (LocEng.step phone) .zero twoFixes ++
          react (LocEng.step phone) (final (LocEng.step phone) .zero twoFixes) (.proc obliging) ::
          (trace (LocEng.step phone) (LocEng.step phone
            (final (LocEng.step phone) .zero twoFixes) (.proc obliging)).1
              [.proc obliging, .proc obliging] ++ []) := by
    rw [trace_append, List.append_nil]
    rfl
  have delivers := all _ ⟨_, _, [], split, by decide, by decide, ?_⟩
  · exact absurd delivers.once (by decide)
  · rw [trace_cons, trace_cons, trace_nil, List.forall_mem_cons, List.forall_mem_singleton]
    decide

/-! ## The filter of positions -/

variable {position : PositionReport}

theorem reported_eq_self_iff (working : position.status ≠ .failure) :
    position.reported conf = some (some position) ↔
      position.status = .success ∧ finalTechMask &&& position.techMask ≠ 0 ∨
        AcceptsIntermediate conf ∧ ¬ Inaccurate conf position := by
  rw [PositionReport.reported, if_neg working, AcceptsIntermediate, Inaccurate]
  split_ifs with passed
  · exact iff_of_true rfl passed
  · exact iff_of_false nofun passed

theorem delivered_eq_reported (unmuted : data.muteSessionState ≠ .inSession) :
    Delivered conf data position ↔ position.reported conf = some (some position) := by
  rw [Delivered, reportPositionProc, if_neg unmuted]
  cases told : position.reported conf with
  | none => simp
  | some location =>
      dsimp only
      split_ifs <;> simp [eq_comm]

/-- Outside a muted session a position is delivered as the two kinds of fixes are meant to be,
exactly when it is not a final fix that gets through as if it were an intermediate one. -/
theorem delivered_wanted_iff (conf : EngineConf) (data : LocEngData) (position : PositionReport)
    (unmuted : data.muteSessionState ≠ .inSession) (working : position.status ≠ .failure) :
    (Delivered conf data position ↔ Wanted conf position) ↔
      ¬ PassesAsIntermediate conf position := by
  rw [delivered_eq_reported unmuted, reported_eq_self_iff working, Wanted, PassesAsIntermediate]
  cases status : position.status with
  | success =>
      simp only [true_and, reduceCtorEq, false_and, or_false]
      tauto
  | intermediate => simp only [true_and, reduceCtorEq, false_and, not_false_eq_true, false_or]
  | failure => exact absurd status working

def cellFix : PositionReport := ⟨.success, 2, false, 0⟩

theorem delivered_wanted_iff_cell :
    (Delivered ⟨0, 0, .msm, true⟩ LocEng.zero.data cellFix ↔ Wanted ⟨0, 0, .msm, true⟩ cellFix) ↔
      ¬ PassesAsIntermediate ⟨0, 0, .msm, true⟩ cellFix :=
  delivered_wanted_iff _ _ _ (by decide) (by decide)

theorem cell_delivered : ¬ (Delivered ⟨1, 0, .msm, true⟩ LocEng.zero.data cellFix ↔
    Wanted ⟨1, 0, .msm, true⟩ cellFix) := by
  intro filtered
  have delivered : Delivered ⟨1, 0, .msm, true⟩ LocEng.zero.data cellFix := by
    unfold Delivered
    decide
  obtain ⟨-, technology⟩ | ⟨status, -⟩ := filtered.mp delivered
  · exact technology (by decide)
  · cases status

end VibeXperia.Proof.Gps

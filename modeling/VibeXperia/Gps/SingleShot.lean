import VibeXperia.Gps.Engine

namespace VibeXperia.Gps
open Lib

/-! ## Sessions for a single fix -/

/-- What is handled from a start with single recurrence on, as long as no other start is. -/
def SingleSession (ts between : List EngineTransition) : Prop :=
  ∃ before start after, ts = before ++ start :: (between ++ after) ∧
    handledIn start = some .startFix ∧
    start.before.data.adapter.mFixCriteria.recurrence = .single ∧
    ∀ t ∈ between, handledIn t ≠ some .startFix

def EngineEffect.isLocation : EngineEffect → Bool
  | .locationCb _ => true
  | _ => false

def CallsLocation (t : EngineTransition) : Prop := ∃ effect ∈ t.outputs, effect.isLocation = true

def Intermediate (t : EngineTransition) : Prop :=
  ∃ position, handledIn t = some (.reportPosition position) ∧ position.status = .intermediate

structure DeliversOnce (between : List EngineTransition) : Prop where
  once : (between.flatMap Transition.outputs).countP EngineEffect.isLocation ≤ 1
  off : ∀ t ∈ between, CallsLocation t → t.after.data.adapter.mNavigating = false
  stopped : ∀ t ∈ between, CallsLocation t → Intermediate t → .stopFix ∈ t.outputs

/-- A report is handled that is not muted and that passes the filter of its status, technology and
accuracy. -/
def passes (conf : EngineConf) (t : EngineTransition) : Bool :=
  match handledIn t with
  | some (.reportPosition position) =>
      t.before.data.muteSessionState ≠ .inSession && (position.reported conf).isSome
  | _ => false

/-- The criteria are still those of a single fix, or there is nothing left to end. -/
def EndsWithFix (t : EngineTransition) : Prop :=
  t.before.data.adapter.mFixCriteria.recurrence = .single ∨
    t.before.data.adapter.mNavigating = false ∧ ¬ Intermediate t

structure PassesOnce (conf : EngineConf) (between : List EngineTransition) : Prop where
  once : between.countP (passes conf) ≤ 1
  ends : ∀ t ∈ between, passes conf t = true → EndsWithFix t

/-! ## The filter of positions -/

section Filter
variable (conf : EngineConf) (data : LocEngData) (position : PositionReport)

def Delivered : Prop := .locationCb (some position) ∈ (reportPositionProc conf data position).2

/-- What `LOC_SESS_INTERMEDIATE` is compared with is a byte. -/
def AcceptsIntermediate : Prop := conf.INTERMEDIATE_POS % 2 ^ 8 = 1

/-- There is inaccuracy, we care about it, and it exceeds our tolerance. -/
def Inaccurate : Prop :=
  position.hasAccuracy = true ∧ conf.ACCURACY_THRES ≠ 0 ∧
    (conf.ACCURACY_THRES : Rat) < position.accuracy

/-- A final fix of a satellite, sensor or hybrid technology, or an intermediate fix that is
accurate enough. -/
def Wanted : Prop :=
  position.status = .success ∧ finalTechMask &&& position.techMask ≠ 0 ∨
    position.status = .intermediate ∧ AcceptsIntermediate conf ∧ ¬ Inaccurate conf position

/-- A final fix of another technology that would do as an intermediate one. -/
def PassesAsIntermediate : Prop :=
  position.status = .success ∧ finalTechMask &&& position.techMask = 0 ∧
    AcceptsIntermediate conf ∧ ¬ Inaccurate conf position

end Filter

end VibeXperia.Gps

import VibeXperia.Gps.Engine
import VibeXperia.Lib.Pending

namespace VibeXperia.Gps
open Lib

/-! ## What the framework was told -/

def toldSession : EngineEffect → Option Bool
  | .statusCb .sessionBegin => some true
  | .statusCb .sessionEnd => some false
  | _ => none

/-- The last status of a session that the framework was told; nothing told counts as an end. -/
def SessionAgrees (told : List EngineEffect) (eng : LocEng) : Prop :=
  settled toldSession false told = eng.data.adapter.mNavigating

/-- Fixes are periodic, and no session is to be muted. -/
def EngineEvent.Plain : EngineEvent → Prop
  | .call (.setPositionMode params) _ => params.recurrence = .periodic
  | .report (.niNotify privacyOverride) => privacyOverride = false
  | _ => True

/-- The modem stops a session when it is asked to, and takes it up again after a restart. -/
def SessionAnswered (eng : LocEng) : EngineEvent → Prop
  | .proc answers =>
      eng.data.adapter.mNavigating = true →
        (eng.msgs.head? = some .stopFix → answers.stopFix = .success) ∧
        (eng.msgs.head? = some .up →
          answers.startFix = .success ∨ answers.startFix = .engineDown)
  | .call .. | .report _ => True

/-! ## Criteria -/

/-- The criteria of a call that the engine takes. -/
def positionModeCalled (t : EngineTransition) : Option LocPosMode :=
  match t.event with
  | .call (.setPositionMode params) _ => if t.before.data.created then some params else none
  | _ => none

def positionModeSent : LocMsg → Option LocPosMode
  | .positionMode mode => some mode
  | _ => none

/-! ## Muted sessions -/

/-- The request of the network, taken up by its handler, is not to be noticed. -/
def MuteRequested (t : EngineTransition) : Prop :=
  ∃ answers, t.event = .proc answers ∧ answers.niTaken = true ∧
    t.before.msgs.head? = some (.requestNi true)

def beginStatus (status : GpsStatusValue) : Bool := status = .sessionBegin || status = .engineOn

def endStatus (status : GpsStatusValue) : Bool := status = .sessionEnd || status = .engineOff

/-- The message begins a session that was to be muted. -/
def LocMsg.begins : LocMsg → Bool
  | .reportStatus status => beginStatus status
  | .up => true
  | _ => false

def LocMsg.ends : LocMsg → Bool
  | .reportStatus status => endStatus status
  | .down => true
  | _ => false

def Begins (t : EngineTransition) : Prop := ∃ msg, handledIn t = some msg ∧ msg.begins = true

def Ends (t : EngineTransition) : Prop := ∃ msg, handledIn t = some msg ∧ msg.ends = true

/-- A session that was to be muted has begun, and neither ended nor was another to be muted. -/
def InMuted (ts : List EngineTransition) : Prop :=
  ∃ before r between b rest, ts = before ++ r :: (between ++ b :: rest) ∧ MuteRequested r ∧
    (∀ t ∈ between, ¬ Begins t) ∧ Begins b ∧ ∀ t ∈ rest, ¬ Ends t ∧ ¬ MuteRequested t

/-- The calls that reports lead to. -/
def EngineEffect.isReport : EngineEffect → Bool
  | .statusCb _ | .locationCb _ | .svStatusCb => true
  | _ => false

/-- A position, satellite or status report is handled. -/
def LocMsg.isReport : LocMsg → Bool
  | .reportPosition _ | .reportSv | .reportStatus _ => true
  | _ => false

structure MutingKept (ts : List EngineTransition) : Prop where
  /-- From its begin on, but for its end, a muted session is not noticed. -/
  suppressed : ∀ before t after, ts = before ++ t :: after → InMuted (before ++ [t]) →
    (∃ msg, handledIn t = some msg ∧ msg.isReport = true) →
      ∀ effect ∈ t.outputs, effect.isReport = false
  /-- A begin is told while the framework navigates and the session is not muted. -/
  begun : ∀ before t after, ts = before ++ t :: after →
    handledIn t = some (.reportStatus .sessionBegin) →
      (.statusCb .sessionBegin ∈ t.outputs ↔
        t.before.data.adapter.mNavigating = true ∧ ¬ InMuted (before ++ [t]))
  /-- The end of a session that was not muted is told while the framework does not navigate. -/
  ended : ∀ before t after, ts = before ++ t :: after →
    handledIn t = some (.reportStatus .sessionEnd) → ¬ InMuted before →
      (.statusCb .sessionEnd ∈ t.outputs ↔ t.before.data.adapter.mNavigating = false)

end VibeXperia.Gps

import VibeXperia.Agps.Ds

namespace VibeXperia.Agps
open Lib

/-! ## The requests of `ds_nif` that wait for their outcome -/

/-- An event of `ds_nif`; a report may be the outcome of a request made before. -/
structure CallEvent where
  event : DsEvent
  outcomeOf : Option AGpsStatusValue

namespace DsEvent

def isReport : DsEvent → Bool
  | .granted | .released _ | .denied _ => true
  | _ => false

def answers : DsEvent → Answers
  | .subscribe _ answers | .retry answers | .released answers | .denied answers => answers
  | _ => noAnswers

def reportsRelease : DsEvent → Bool
  | .released _ | .denied _ => true
  | _ => false

end DsEvent

namespace Effect

def acceptedStart (answers : Answers) : Effect → Bool
  | .dataCall .requestAgpsDataConn => answers.requestRsrc == LOC_API_ADAPTER_ERR_SUCCESS
  | _ => false

def stopsDataCall : Effect → Bool
  | .dataCall .releaseAgpsDataConn => true
  | _ => false

def reaches (ID : UInt32) : Effect → Bool
  | .told subscriber _ _ => subscriber.ID == ID
  | _ => false

end Effect

/-- `starts` were accepted; a stop is always accepted. -/
structure DataCalls where
  system : DsSystem
  starts : Nat
  stops : Nat

namespace DataCalls

def new : DataCalls := ⟨.new, 0, 0⟩

def deliver (s : DataCalls) (e : CallEvent) : DataCalls :=
  if e.event.isReport then
    match e.outcomeOf with
    | some .requestAgpsDataConn => { s with starts := s.starts - 1 }
    | some .releaseAgpsDataConn => { s with stops := s.stops - 1 }
    | none => s
  else s

def step (s : DataCalls) (e : CallEvent) : DataCalls × List Effect :=
  let acted := s.system.step e.event
  ({ system := acted.1
     starts := (s.deliver e).starts + acted.2.countP (Effect.acceptedStart e.event.answers)
     stops := (s.deliver e).stops + acted.2.countP Effect.stopsDataCall }, acted.2)

def Outstanding (s : DataCalls) : Prop := 0 < s.starts ∨ 0 < s.stops ∨ s.system.retryPending

def PendingForSomething (s : DataCalls) : Prop :=
  s.system.machine.mState = .pending → s.Outstanding

instance (s : DataCalls) : Decidable s.Outstanding :=
  inferInstanceAs (Decidable (_ ∨ _ ∨ _))

instance (s : DataCalls) : Decidable s.PendingForSomething :=
  inferInstanceAs (Decidable (_ → _))

/-- The request for a data call is accepted, or a timer will make it again. -/
def renews (mRetries : UInt8) (answers : Answers) : Bool :=
  answers.requestRsrc == LOC_API_ADAPTER_ERR_SUCCESS ||
    answers.requestRsrc == LOC_API_ADAPTER_ERR_ENGINE_BUSY && answers.timerStarted &&
      !DsSystem.fallsBack mRetries answers

/-- A release that finds active clients in Releasing has its request renewed, and the message of a
retry is not spent in Pending, unless something else is outstanding. -/
def Renewed (s : DataCalls) (e : CallEvent) : Prop :=
  match e.event with
  | .released answers =>
      s.system.machine.mState = .releasing → s.system.active →
        renews s.system.machine.mRetries answers ∨ (s.deliver e).Outstanding
  | .denied answers =>
      s.system.machine.mState = .releasing → s.system.active →
        renews s.system.retriesDenied answers ∨ (s.deliver e).Outstanding
  | .retry _ =>
      s.system.machine.mState = .pending →
        { s with system := { s.system with retries := s.system.retries.tail } }.Outstanding
  | _ => True

end DataCalls

/-! ## Subscribing again -/

namespace DsSystem

def holds (s : DsSystem) (ID : UInt32) : Prop :=
  ∃ c ∈ s.machine.mSubscribers, c.ID = ID ∧ c.isInactive = false

/-- The handle waits for its close to complete. -/
def left (s : DsSystem) (ID : UInt32) : Prop :=
  ∃ c ∈ s.machine.mSubscribers, c.ID = ID ∧ c.isInactive = true

instance (s : DsSystem) (ID : UInt32) : Decidable (s.holds ID) :=
  inferInstanceAs (Decidable (∃ c ∈ s.machine.mSubscribers, _ ∧ _))

instance (s : DsSystem) (ID : UInt32) : Decidable (s.left ID) :=
  inferInstanceAs (Decidable (∃ c ∈ s.machine.mSubscribers, _ ∧ _))

/-- What a handle that has just subscribed relies on while the events `es` come. -/
structure Subscribed (s : DsSystem) (ID : UInt32) (es : List DsEvent) : Prop where
  entry : s.holds ID
  kept : ∀ t ∈ trace step s (es.takeWhile (· ≠ .unsubscribe ID)),
    t.outputs.any Effect.stopsDataCall = false
  told : ∀ t ∈ trace step s (es.takeWhile (· ≠ .unsubscribe ID)),
    t.before.listed ID → ¬ t.after.listed ID → t.outputs.any (Effect.reaches ID) = true

end DsSystem

end VibeXperia.Agps

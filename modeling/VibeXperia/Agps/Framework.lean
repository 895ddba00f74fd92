import VibeXperia.Agps.Clients

namespace VibeXperia.Agps

/-! ## A machine and the connectivity framework -/

inductive Answer
  | granted (apn : List UInt8) (bearerType : Int)
  | denied
  | released
  deriving DecidableEq, Repr

/-- The message that brings an answer to the machine. -/
def Answer.msg : Answer → AgpsMsg
  | granted apn bearerType => .openSuccess apn bearerType
  | denied => .openFailed
  | released => .closed

/-- `requests` and `answers` are in flight, the oldest first; `holds` is the framework's. -/
structure Connection where
  machine : AgpsStateMachine
  requests : List AGpsStatusValue
  answers : List Answer
  holds : Bool
  deriving DecidableEq, Repr

inductive ConnectionEvent
  | subscribe (subscriber : Subscriber)
  | unsubscribe (subscriber : Subscriber)
  /-- The framework takes the oldest request; `apn` says whether it grants one for a connection. -/
  | handle (apn : Option (List UInt8 × Int))
  | deliver
  deriving DecidableEq, Repr

def statusOf : Effect → Option AGpsStatusValue
  | .requested nifRequest => some nifRequest.status
  | _ => none

namespace Connection

def new (mType : Int) : Connection := ⟨.new mType false, [], [], false⟩

def proc (s : Connection) (msg : AgpsMsg) : Connection :=
  let processed := s.machine.proc msg
  { s with
    machine := processed.1
    requests := s.requests ++ processed.2.filterMap statusOf }

def handle (s : Connection) (apn : Option (List UInt8 × Int)) : Connection :=
  match s.requests with
  | [] => s
  | .releaseAgpsDataConn :: rest =>
      { s with requests := rest, answers := s.answers ++ [.released], holds := false }
  | .requestAgpsDataConn :: rest =>
      match apn with
      | some (apn, bearerType) =>
          { s with requests := rest, answers := s.answers ++ [.granted apn bearerType], holds := true }
      | none => { s with requests := rest, answers := s.answers ++ [.denied] }

def deliver (s : Connection) : Connection :=
  match s.answers with
  | [] => s
  | answer :: rest => { s with answers := rest }.proc answer.msg

def step (s : Connection) : ConnectionEvent → Connection × List Unit
  | .subscribe subscriber => (s.proc (.subscribe subscriber), [])
  | .unsubscribe subscriber => (s.proc (.unsubscribe subscriber), [])
  | .handle apn => (s.handle apn, [])
  | .deliver => (s.deliver, [])

/-- Every request for the connection has its answer delivered. -/
def answered (s : Connection) : Bool :=
  s.requests.all (· == .releaseAgpsDataConn) && s.answers.all (· == .released)

end Connection

def ConnectionEvent.client : ConnectionEvent → Option Subscriber
  | .subscribe subscriber | .unsubscribe subscriber => some subscriber
  | _ => none

/-- No client comes to a released machine before its last request has been answered. -/
def Unhurried (s : Connection) : ConnectionEvent → Prop
  | .subscribe _ => s.machine.mState = .released → s.answered = true
  | _ => True

instance (s : Connection) (e : ConnectionEvent) : Decidable (Unhurried s e) :=
  match e with
  | .subscribe _ =>
      inferInstanceAs (Decidable (s.machine.mState = .released → s.answered = true))
  | .unsubscribe _ | .handle _ | .deliver => inferInstanceAs (Decidable True)

/-- With nothing in flight both sides have the connection or neither has it. -/
def Agree (s : Connection) : Prop :=
  s.requests = [] → s.answers = [] →
    (s.machine.mState = .acquired ↔ s.holds = true) ∧
    (s.machine.mState = .released ↔ s.holds = false)

instance (s : Connection) : Decidable (Agree s) :=
  inferInstanceAs (Decidable (s.requests = [] → s.answers = [] →
    (s.machine.mState = .acquired ↔ s.holds = true) ∧
    (s.machine.mState = .released ↔ s.holds = false)))

end VibeXperia.Agps

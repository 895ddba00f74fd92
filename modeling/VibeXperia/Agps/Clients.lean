import Mathlib.Algebra.Ring.Nat
import VibeXperia.Agps.States
import VibeXperia.Lib.Run

namespace VibeXperia.Agps
open Lib

/-! ## What clients see of a machine -/

abbrev AgpsTransition := Transition AgpsStateMachine AgpsMsg Effect

def AgpsMsg.client : AgpsMsg → Option Subscriber
  | .subscribe subscriber | .unsubscribe subscriber => some subscriber
  | _ => none

def AgpsMsg.isUnsubscribe : AgpsMsg → Bool
  | .unsubscribe _ => true
  | _ => false

def listed (c : Subscriber) (m : AgpsStateMachine) : Bool :=
  m.mSubscribers.any fun s => s.equals c

def Effect.tells (c : Subscriber) (status : AgpsRsrcStatus) : Effect → Bool
  | .told subscriber status' _ => subscriber.equals c && status' == status
  | _ => false

/-- The statuses that end a client's stay. -/
def Effect.closes (c : Subscriber) (e : Effect) : Bool :=
  e.tells c .unsubscribe || e.tells c .released || e.tells c .denied

def Effect.mentions (c : Subscriber) : Effect → Bool
  | .told subscriber _ _ => subscriber.equals c
  | _ => false

def Effect.requests (action : AGpsStatusValue) : Effect → Bool
  | .requested nifRequest => nifRequest.status == action
  | _ => false

/-- Whether a client was told `granted` since it last was not in the list. -/
def grantedSince (c : Subscriber) (history : List AgpsTransition) : Bool :=
  history.foldl (fun granted t =>
    listed c t.after && (listed c t.before && granted || t.outputs.any (Effect.tells c .granted)))
    false

/-- What holds of a machine whose clients are all of one kind, and of the steps that led to it. -/
structure ClientsServed (kind : SubscriberKind) (m : AgpsStateMachine)
    (history : List AgpsTransition) : Prop where
  released : m.mState = .released ↔ m.mSubscribers = []
  distinct : m.mSubscribers.Pairwise fun c d => c.equals d = false
  granted : m.mState = .acquired → ∀ c ∈ m.mSubscribers, grantedSince c history = true
  waiting : m.mState = .pending → ∀ c ∈ m.mSubscribers, grantedSince c history = false
  closed : ∀ t ∈ history, ∀ c ∈ t.before.mSubscribers,
    t.outputs.countP (Effect.closes c) = if listed c t.after then 0 else 1
  others : ∀ t ∈ history, ∀ s c, t.event = .unsubscribe s → c.kind = kind → c.equals s = false →
    listed c t.after = listed c t.before ∧ ∀ e ∈ t.outputs, e.mentions c = false
  asked : ∀ t ∈ history, t.outputs.countP (Effect.requests .requestAgpsDataConn) =
    if t.before.mState = .released ∧ t.after.mState = .pending then 1 else 0
  givenBack : ∀ t ∈ history, t.outputs.countP (Effect.requests .releaseAgpsDataConn) =
    if t.event.isUnsubscribe ∧ t.before.mSubscribers ≠ [] ∧ t.after.mSubscribers = [] then 1 else 0

/-! ## The wifi connection -/

/-- An answer `releaseSuccess` or `failure` to the sender `senderId`. -/
def Effect.closesFor (senderId : UInt32) : Effect → Bool
  | .told _ _ (some (.dataConn sender result)) => sender == senderId && result != .requestSuccess
  | _ => false

def AgpsMsg.isSubscribe : AgpsMsg → Bool
  | .subscribe _ => true
  | _ => false

/-- The framework reports that the connection is closed or could not be opened. -/
def AgpsMsg.isReport : AgpsMsg → Bool
  | .closed | .openFailed => true
  | _ => false

/-- Whether the sender `senderId` holds or awaits the connection. -/
def entered (senderId : UInt32) (m : AgpsStateMachine) : Bool :=
  m.mSubscribers.any fun s => s.ID == senderId

/-- How often the sender `senderId` came into the list. -/
def entries (senderId : UInt32) (history : List AgpsTransition) : Nat :=
  history.countP fun t => !entered senderId t.before && entered senderId t.after

/-- The closing answers it got, but for denials of a request. -/
def closings (senderId : UInt32) (history : List AgpsTransition) : Nat :=
  ((history.filter fun t => !t.event.isSubscribe).map
    fun t => t.outputs.countP (Effect.closesFor senderId)).sum

/-! ## Restarts of the modem -/

/-- `engineUp` is what `loc_eng_handle_engine_up` does to the machine. -/
inductive EngineMsg
  | agps (msg : AgpsMsg)
  | engineUp
  deriving DecidableEq, Repr

def AgpsStateMachine.procEngine (m : AgpsStateMachine) :
    EngineMsg → AgpsStateMachine × List Effect
  | .agps msg => m.proc msg
  | .engineUp => ((Act.mk m []).dropAllSubscribers.machine, [])

abbrev EngineTransition := Transition AgpsStateMachine EngineMsg Effect

def AgpsStateMachine.wantsConnection (m : AgpsStateMachine) : Prop :=
  m.mState = .pending ∨ m.mState = .acquired

/-- The connection is held for somebody: never without a client, asked for with the first one
and given back when a client's leaving or a restart has taken the last one. -/
structure HeldForSomebody (t : EngineTransition) : Prop where
  used : t.after.wantsConnection → t.after.mSubscribers ≠ []
  asked : ∀ s, t.event = .agps (.subscribe s) → t.before.mSubscribers = [] →
    t.outputs.countP (Effect.requests .requestAgpsDataConn) = 1
  givenBack : (∃ s, t.event = .agps (.unsubscribe s)) ∨ t.event = .engineUp →
    t.before.wantsConnection → t.after.mSubscribers = [] →
      t.outputs.countP (Effect.requests .releaseAgpsDataConn) = 1

end VibeXperia.Agps

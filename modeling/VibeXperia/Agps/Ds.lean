import VibeXperia.Agps.States
import VibeXperia.Lib.Run

namespace VibeXperia.Agps
open Lib

/-! ## Handles of emergency calls -/

/-- The handle that is granted, or sent to the normal ATL. -/
def Call.uses : Call → Option UInt32
  | .atlOpenStatus handle true .. => some handle
  | .requestATL connHandle _ => some connHandle
  | _ => none

/-- The handle that is sent to the normal ATL, or whose close is confirmed. -/
def Call.finishes : Call → Option UInt32
  | .atlCloseStatus handle true => some handle
  | .requestATL connHandle _ => some connHandle
  | _ => none

/-- A handle is also used when it is picked for a retry. -/
def Effect.uses : Effect → Option UInt32
  | .told _ _ call | .informed _ _ call => call.bind Call.uses
  | .retried connHandle => some connHandle
  | _ => none

def Effect.finishes : Effect → Option UInt32
  | .told _ _ call | .informed _ _ call => call.bind Call.finishes
  | _ => none

def observe (finished : List UInt32) (e : Effect) : List UInt32 :=
  e.finishes.toList ++ finished

def Effect.spares (finished : List UInt32) (e : Effect) : Bool :=
  finished.all fun ID => e.uses != some ID

/-- No effect uses a handle that was finished before it. -/
def FinishedStay : List UInt32 → List Effect → Bool
  | _, [] => true
  | finished, e :: es => e.spares finished && FinishedStay (observe finished e) es

/-! ## `ds_nif` with its timers and the messages of its retries -/

/-- `retries` are the `LocEngRequestSuplEs` sent by retries, the oldest first. `finished` only
records what the effects say. -/
structure DsSystem where
  machine : AgpsStateMachine
  timers : Nat
  retries : List UInt32
  finished : List UInt32
  deriving DecidableEq, Repr

inductive DsEvent
  | subscribe (ID : UInt32) (answers : Answers)
  | unsubscribe (ID : UInt32)
  | timer
  /-- The oldest message of a retry is handled. -/
  | retry (answers : Answers)
  | granted
  | released (answers : Answers)
  | denied (answers : Answers)
  deriving DecidableEq, Repr

namespace DsSystem

def new : DsSystem := ⟨DSStateMachine.new, 0, [], []⟩

def startsTimer : Effect → Bool
  | .timerStart _ => true
  | _ => false

/-- One action of the machine. -/
def act (s : DsSystem) (action : Act → Act) : DsSystem × List Effect :=
  let acted := action ⟨s.machine, []⟩
  ({ s with
      machine := acted.machine
      timers := s.timers + acted.log.countP startsTimer
      finished := acted.log.foldl observe s.finished }, acted.log)

/-- A handle that subscribes is not finished any more. -/
def resume (s : DsSystem) (ID : UInt32) : DsSystem :=
  { s with finished := s.finished.filter (· ≠ ID) }

/-- `LocEngReleaseATL::proc` where no other machine knows the handle. -/
def releaseATL (s : DsSystem) (ID : UInt32) : DsSystem × List Effect :=
  let unsubscribe := AgpsStateMachine.unsubscribeRsrc noAnswers (.ds ID false)
  if (unsubscribe ⟨s.machine, []⟩).1 then s.act fun a => (unsubscribe a).2
  else (s, [.informed ID .unsubscribe (some (.atlCloseStatus ID false))])

/-- `delay_callback` of a pending timer. -/
def fire (s : DsSystem) : DsSystem × List Effect :=
  match s.timers with
  | 0 => (s, [])
  | timers + 1 =>
      match DSStateMachine.retryCallback s.machine with
      | some ID => ({ s with timers, retries := s.retries ++ [ID] }, [.retried ID])
      | none => ({ s with timers }, [])

def step (s : DsSystem) : DsEvent → DsSystem × List Effect
  | .subscribe ID answers =>
      (s.resume ID).act (AgpsStateMachine.subscribeRsrc answers (.ds ID false))
  | .unsubscribe ID => s.releaseATL ID
  | .timer => s.fire
  | .retry answers =>
      match s.retries with
      | [] => (s, [])
      | ID :: retries =>
          { s with retries }.act (AgpsStateMachine.subscribeRsrc answers (.ds ID false))
  | .granted => s.act (DSStateMachine.onRsrcEvent noAnswers .granted)
  | .released answers => s.act (DSStateMachine.onRsrcEvent answers .released)
  | .denied answers => s.act (DSStateMachine.onRsrcEvent answers .denied)

/-- The handles that are finished when the effects of an event begin. -/
def finishedAt (s : DsSystem) : DsEvent → List UInt32
  | .subscribe ID _ => (s.resume ID).finished
  | _ => s.finished

/-- A timer runs, or the message of one that has fired is on its way. -/
def retryPending (s : DsSystem) : Prop := 0 < s.timers ∨ s.retries ≠ []

def Idle (s : DsSystem) : Prop :=
  s.machine.mState = .released → ¬ s.retryPending → s.machine.mSubscribers = []

instance (s : DsSystem) : Decidable s.retryPending :=
  inferInstanceAs (Decidable (0 < s.timers ∨ s.retries ≠ []))

instance (s : DsSystem) : Decidable s.Idle :=
  inferInstanceAs (Decidable (_ → ¬ s.retryPending → _))

/-! ## Orderly events -/

/-- The results of the request for a data call after which a handle is sent to the normal ATL. -/
def fallsBack (mRetries : UInt8) (answers : Answers) : Bool :=
  answers.requestRsrc == LOC_API_ADAPTER_ERR_UNSUPPORTED || answers.requestRsrc == -1 ||
    answers.requestRsrc == LOC_API_ADAPTER_ERR_ENGINE_BUSY &&
      mRetries + 1 > MAX_START_DATA_CALL_RETRIES

/-- The request for a data call is sent, or will be made again. -/
def StartsOrWaits (s : DsSystem) (answers : Answers) : Prop :=
  fallsBack s.machine.mRetries answers = false ∧
    (answers.requestRsrc = LOC_API_ADAPTER_ERR_SUCCESS ∨
      answers.requestRsrc = LOC_API_ADAPTER_ERR_ENGINE_BUSY ∧ answers.timerStarted = true ∨
      s.retryPending)

instance (s : DsSystem) (answers : Answers) : Decidable (s.StartsOrWaits answers) :=
  inferInstanceAs (Decidable (_ ∧ (_ ∨ _ ∧ _ ∨ _)))

def listed (s : DsSystem) (ID : UInt32) : Prop := ∃ c ∈ s.machine.mSubscribers, c.ID = ID

def active (s : DsSystem) : Prop := ∃ c ∈ s.machine.mSubscribers, c.isInactive = false

instance (s : DsSystem) (ID : UInt32) : Decidable (s.listed ID) :=
  inferInstanceAs (Decidable (∃ c ∈ s.machine.mSubscribers, c.ID = ID))

instance (s : DsSystem) : Decidable s.active :=
  inferInstanceAs (Decidable (∃ c ∈ s.machine.mSubscribers, c.isInactive = false))

/-- The message of a retry comes while its handle is open, or finds it in a list that waits. -/
def RetryInTime (s : DsSystem) (answers : Answers) : List UInt32 → Prop
  | [] => True
  | ID :: retries =>
      (ID ∈ s.finished → s.machine.mState ≠ .acquired ∧ s.listed ID) ∧
      (s.machine.mState = .released → { s with retries }.StartsOrWaits answers)

instance (s : DsSystem) (answers : Answers) (retries : List UInt32) :
    Decidable (s.RetryInTime answers retries) :=
  match retries with
  | [] => inferInstanceAs (Decidable True)
  | _ :: _ => inferInstanceAs (Decidable ((_ → _ ∧ _) ∧ (_ → _)))

/-- The count of retries once the inactive clients have been denied. -/
def retriesDenied (s : DsSystem) : UInt8 :=
  if s.machine.mSubscribers.any Subscriber.isInactive then 0 else s.machine.mRetries

/-- The events that do not bring a finished handle back. -/
def Orderly (s : DsSystem) : DsEvent → Prop
  | .subscribe _ answers => s.machine.mState = .released → s.StartsOrWaits answers
  | .unsubscribe ID => s.machine.mState = .released → ¬ s.listed ID
  | .timer | .granted => True
  | .retry answers => s.RetryInTime answers s.retries
  | .released answers =>
      (s.machine.mState = .pending → ∀ c ∈ s.machine.mSubscribers, c.ID ∉ s.finished) ∧
      (s.machine.mState = .releasing → s.active →
        fallsBack s.machine.mRetries answers = false)
  | .denied answers =>
      (s.machine.mState = .pending → ∀ c ∈ s.machine.mSubscribers, c.ID ∉ s.finished) ∧
      (s.machine.mState = .releasing →
        (∀ c ∈ s.machine.mSubscribers, c.isInactive = true → c.ID ∉ s.finished) ∧
        (s.active → fallsBack s.retriesDenied answers = false))

instance (s : DsSystem) (e : DsEvent) : Decidable (s.Orderly e) :=
  match e with
  | .subscribe _ _ | .unsubscribe _ => inferInstanceAs (Decidable (_ → _))
  | .timer | .granted => inferInstanceAs (Decidable True)
  | .retry _ => inferInstanceAs (Decidable (RetryInTime _ _ _))
  | .released _ => inferInstanceAs (Decidable ((_ → ∀ c ∈ s.machine.mSubscribers, _) ∧ (_ → _ → _)))
  | .denied _ =>
      inferInstanceAs (Decidable ((_ → ∀ c ∈ s.machine.mSubscribers, _) ∧
        (_ → (∀ c ∈ s.machine.mSubscribers, _ → _) ∧ (_ → _))))

end DsSystem

end VibeXperia.Agps

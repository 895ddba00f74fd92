import VibeXperia.Agps.Machine

namespace VibeXperia.Agps
open Act

/-! ## The four state classes -/

/-- An event with its `data`: the caller's object, or the object of the list at `entry`. -/
inductive RsrcEvent
  | subscribe (data : Subscriber)
  | unsubscribe (data : Subscriber) (entry : Nat)
  | granted
  | released
  | denied
  deriving DecidableEq, Repr

/-- `setInactive` of the list's object at `entry`; a DS client has its close confirmed at once. -/
def setInactive (data : Subscriber) (entry : Nat) (a : Act) : Act :=
  let marked := a.setSubscribers (a.machine.mSubscribers.modify entry Subscriber.markInactive)
  if data.kind = .ds then
    (marked.informStatus .unsubscribe).effect
      (.informed data.ID .unsubscribe (informCall .unsubscribe data.ID))
  else marked

/-- The beginning of every `RSRC_UNSUBSCRIBE` but that of the released state. -/
def leave (data : Subscriber) (entry : Nat) (a : Act) : Act :=
  if data.waitForCloseComplete then setInactive data entry a
  else notifySubscribers ⟨.rcver data, .unsubscribe, true⟩ a

def AgpsReleasedState.onRsrcEvent (answers : Answers) (event : RsrcEvent) (a : Act) :
    AgpsState × Act :=
  match event with
  | .subscribe data =>
      let sent := sendRsrcRequest answers .requestAgpsDataConn (addSubscriber data a)
      if sent.1 = 0 then (.pending, sent.2) else (.released, sent.2)
  | .unsubscribe data _ =>
      (.released, (notifyRsrcStatus data ⟨.rcver data, .unsubscribe, false⟩ a).2)
  | .granted | .released | .denied => (.released, a)

def AgpsPendingState.onRsrcEvent (answers : Answers) (event : RsrcEvent) (a : Act) :
    AgpsState × Act :=
  match event with
  | .subscribe data => (.pending, addSubscriber data a)
  | .unsubscribe data entry =>
      let left := leave data entry a
      if !left.hasSubscribers then
        (.released, (sendRsrcRequest answers .releaseAgpsDataConn left).2)
      else if !left.hasActiveSubscribers then
        (.releasing, (sendRsrcRequest answers .releaseAgpsDataConn left).2)
      else (.pending, left)
  | .granted => (.acquired, notifySubscribers ⟨.broadcastActive, .granted, false⟩ a)
  | .released => (.pending, a)
  | .denied => (.released, notifySubscribers ⟨.broadcastAll, .denied, true⟩ a)

def AgpsAcquiredState.onRsrcEvent (answers : Answers) (event : RsrcEvent) (a : Act) :
    AgpsState × Act :=
  match event with
  | .subscribe data =>
      (.acquired, addSubscriber data (notifyRsrcStatus data ⟨.rcver data, .granted, false⟩ a).2)
  | .unsubscribe data entry =>
      let left := leave data entry a
      if !left.hasSubscribers then
        (.released, (sendRsrcRequest answers .releaseAgpsDataConn left).2)
      else if !left.hasActiveSubscribers then
        (.releasing, (sendRsrcRequest answers .releaseAgpsDataConn left).2)
      else (.acquired, left)
  | .granted => (.acquired, a)
  | .released => (.released, notifySubscribers ⟨.broadcastAll, .released, true⟩ a)
  | .denied => (.acquired, a)

/-- The result of the request in `RSRC_RELEASED` is not looked at. -/
def AgpsReleasingState.onRsrcEvent (answers : Answers) (event : RsrcEvent) (a : Act) :
    AgpsState × Act :=
  let closed (status : AgpsRsrcStatus) : AgpsState × Act :=
    let told := notifySubscribers ⟨.broadcastInactive, status, true⟩ a
    if told.hasActiveSubscribers then
      (.pending, (sendRsrcRequest answers .requestAgpsDataConn told).2)
    else (.released, told)
  match event with
  | .subscribe data => (.releasing, addSubscriber data a)
  | .unsubscribe data entry =>
      let left := leave data entry a
      if !left.hasSubscribers then (.released, left) else (.releasing, left)
  | .denied => closed .denied
  | .released => closed .released
  | .granted => (.releasing, a)

/-- `mStatePtr = mStatePtr->onRsrcEvent(event, data)`. -/
def onStateEvent (answers : Answers) (event : RsrcEvent) (a : Act) : Act :=
  let next := match a.machine.mState with
    | .released => AgpsReleasedState.onRsrcEvent answers event a
    | .pending => AgpsPendingState.onRsrcEvent answers event a
    | .acquired => AgpsAcquiredState.onRsrcEvent answers event a
    | .releasing => AgpsReleasingState.onRsrcEvent answers event a
  next.2.setState next.1

/-! ## The machine's own methods -/

namespace AgpsStateMachine

def subscribeRsrc (answers : Answers) (subscriber : Subscriber) (a : Act) : Act :=
  if a.machine.mEnforceSingleSubscriber && a.hasSubscribers then
    (notifySubscriber ⟨.broadcastAll, .denied, true⟩ subscriber a).2
  else onStateEvent answers (.subscribe subscriber) a

def unsubscribeRsrc (answers : Answers) (subscriber : Subscriber) (a : Act) : Bool × Act :=
  match a.findSubscriber (.rcver subscriber) with
  | none => (false, a)
  | some s =>
      let entry := a.machine.mSubscribers.findIdx fun s =>
        s.forMe (.search (.rcver subscriber))
      (true, onStateEvent answers (.unsubscribe s entry) a)

def setBearer (bearer : Int) (a : Act) : Act :=
  { a with machine := { a.machine with mBearer := bearer } }

def setAPN (apn : List UInt8) (a : Act) : Act :=
  { a with machine := { a.machine with mAPN := some apn } }

end AgpsStateMachine

/-- `DSStateMachine::onRsrcEvent` takes a release that changes nothing for a denial. -/
def DSStateMachine.onRsrcEvent (answers : Answers) (event : RsrcEvent) (a : Act) : Act :=
  match event with
  | .granted => onStateEvent answers .granted a
  | .released =>
      let released := onStateEvent answers .released a
      if released.machine.mState ≠ a.machine.mState then released
      else onStateEvent answers .denied released
  | .denied => onStateEvent answers .denied a
  | _ => a

/-- `retryCallback`: the handle that is sent to `requestSuplES`. -/
def DSStateMachine.retryCallback (m : AgpsStateMachine) : Option UInt32 :=
  ((Act.mk m []).findSubscriber .broadcastActive).map Subscriber.ID

/-! ## The messages of `loc_eng.cpp` for a machine of ATL, BIT or WIFI clients -/

/-- Requests and releases of clients, `LocEngAtlOpenSuccess`, `LocEngAtlClosed`,
`LocEngAtlOpenFailed`. -/
inductive AgpsMsg
  | subscribe (subscriber : Subscriber)
  | unsubscribe (subscriber : Subscriber)
  | openSuccess (apn : List UInt8) (bearerType : Int)
  | closed
  | openFailed
  deriving DecidableEq, Repr

/-- No request of these machines looks at an answer. -/
def noAnswers : Answers := ⟨0, false⟩

def AgpsMsg.procAct (msg : AgpsMsg) (a : Act) : Act :=
  match msg with
  | .subscribe subscriber => AgpsStateMachine.subscribeRsrc noAnswers subscriber a
  | .unsubscribe subscriber => (AgpsStateMachine.unsubscribeRsrc noAnswers subscriber a).2
  | .openSuccess apn bearerType =>
      onStateEvent noAnswers .granted
        (AgpsStateMachine.setAPN apn (AgpsStateMachine.setBearer bearerType a))
  | .closed => onStateEvent noAnswers .released a
  | .openFailed => onStateEvent noAnswers .denied a

def AgpsStateMachine.proc (m : AgpsStateMachine) (msg : AgpsMsg) :
    AgpsStateMachine × List Effect :=
  let acted := msg.procAct ⟨m, []⟩
  (acted.machine, acted.log)

end VibeXperia.Agps

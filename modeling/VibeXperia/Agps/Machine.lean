import VibeXperia.Agps.Subscriber
import VibeXperia.Gps.LinkedList

namespace VibeXperia.Agps
open Gps

/-! ## What a state machine does to the outside -/

/-- `AGpsExtStatus`; an address that was never written is `none`. -/
structure AGpsExtStatus where
  type : Int
  status : AGpsStatusValue
  addresses : Option (UInt32 × List UInt8)
  ssid : List UInt8
  password : List UInt8
  deriving DecidableEq, Repr

inductive GpsoneResult
  | requestSuccess
  | releaseSuccess
  | failure
  deriving DecidableEq, Repr

/-- The calls by which a client learns of a resource status. -/
inductive Call
  | dataConn (senderId : UInt32) (result : GpsoneResult)
  | atlOpenStatus (handle : UInt32) (isSuccess : Bool) (apn : Option (List UInt8)) (bearer : Int)
      (agpsType : Int)
  | atlCloseStatus (handle : UInt32) (isSuccess : Bool)
  | closeDataCall
  | requestATL (connHandle : UInt32) (agpsType : Int)
  deriving DecidableEq, Repr

inductive Effect
  | told (subscriber : Subscriber) (status : AgpsRsrcStatus) (call : Option Call)
  /-- `setInactive` of a DS client, or a fallback that no entry of the list asked for. -/
  | informed (ID : UInt32) (status : AgpsRsrcStatus) (call : Option Call)
  | requested (nifRequest : AGpsExtStatus)
  | dataCall (action : AGpsStatusValue)
  | timerStart (msec : Nat)
  /-- `requestSuplES` of a retry. -/
  | retried (connHandle : UInt32)
  deriving DecidableEq, Repr

/-! ## The state machines -/

inductive AgpsState
  | released
  | acquired
  | pending
  | releasing
  deriving DecidableEq, Repr

inductive MachineClass
  | agps
  | ds
  deriving DecidableEq, Repr

/-- `mRetries` belongs to the class `DSStateMachine`. -/
structure AgpsStateMachine where
  machineClass : MachineClass
  mState : AgpsState
  mSubscribers : List Subscriber
  mType : Int
  mAPN : Option (List UInt8)
  mBearer : Int
  mEnforceSingleSubscriber : Bool
  mRetries : UInt8
  deriving DecidableEq, Repr

def AgpsStateMachine.new (mType : Int) (mEnforceSingleSubscriber : Bool) : AgpsStateMachine :=
  { machineClass := .agps
    mState := .released
    mSubscribers := []
    mType
    mAPN := none
    mBearer := AGPS_APN_BEARER_INVALID
    mEnforceSingleSubscriber
    mRetries := 0 }

def DSStateMachine.new : AgpsStateMachine :=
  { AgpsStateMachine.new AGPS_TYPE_INVALID false with machineClass := .ds }

/-- A machine in the middle of an event, with the effects so far. -/
structure Act where
  machine : AgpsStateMachine
  log : List Effect
  deriving DecidableEq, Repr

/-- What the servicer of a DS machine and `loc_timer_start` return during one event. -/
structure Answers where
  requestRsrc : Int
  timerStarted : Bool
  deriving DecidableEq, Repr

def LOC_API_ADAPTER_ERR_SUCCESS : Int := 0
def LOC_API_ADAPTER_ERR_UNSUPPORTED : Int := 2
def LOC_API_ADAPTER_ERR_ENGINE_BUSY : Int := 6

def MAX_START_DATA_CALL_RETRIES : UInt8 := 4
def DATA_CALL_RETRY_DELAY_MSEC : Nat := 500

namespace Act

def effect (a : Act) (e : Effect) : Act := { a with log := a.log ++ [e] }

def setSubscribers (a : Act) (mSubscribers : List Subscriber) : Act :=
  { a with machine := { a.machine with mSubscribers } }

def setState (a : Act) (mState : AgpsState) : Act :=
  { a with machine := { a.machine with mState } }

/-- The adapter call of `DSStateMachine::informStatus`. -/
def informCall (status : AgpsRsrcStatus) (ID : UInt32) : Option Call :=
  match status with
  | .unsubscribe => some (.atlCloseStatus ID true)
  | .released => some .closeDataCall
  | .denied => some (.requestATL ID AGPS_TYPE_SUPL)
  | .granted => some (.atlOpenStatus ID true none AGPS_APN_BEARER_INVALID AGPS_TYPE_INVALID)
  | _ => none

/-- `informStatus` but for the call itself, which the effects show. -/
def informStatus (a : Act) (status : AgpsRsrcStatus) : Act :=
  if status = .denied then { a with machine := { a.machine with mRetries := 0 } } else a

/-- The call that tells a client of a status it is interested in. -/
def statusCall (m : AgpsStateMachine) (this : Subscriber) (status : AgpsRsrcStatus) :
    Option Call :=
  match this, status with
  | .bit .., .unsubscribe | .bit .., .released =>
      some (.dataConn LOC_ENG_IF_REQUEST_SENDER_ID_GPSONE_DAEMON .releaseSuccess)
  | .bit .., .denied => some (.dataConn LOC_ENG_IF_REQUEST_SENDER_ID_GPSONE_DAEMON .failure)
  | .bit .., .granted =>
      some (.dataConn LOC_ENG_IF_REQUEST_SENDER_ID_GPSONE_DAEMON .requestSuccess)
  | .atl ID _, .unsubscribe | .atl ID _, .released => some (.atlCloseStatus ID true)
  | .atl ID mBackwardCompatibleMode, .denied =>
      some (.atlOpenStatus ID false m.mAPN m.mBearer
        (if mBackwardCompatibleMode then AGPS_TYPE_INVALID else m.mType))
  | .atl ID mBackwardCompatibleMode, .granted =>
      some (.atlOpenStatus ID true m.mAPN m.mBearer
        (if mBackwardCompatibleMode then AGPS_TYPE_INVALID else m.mType))
  | .wifi senderId .., .released => some (.dataConn senderId .releaseSuccess)
  | .wifi senderId .., .denied => some (.dataConn senderId .failure)
  | .wifi senderId .., .granted => some (.dataConn senderId .requestSuccess)
  | .ds ID _, status => informCall status ID
  | _, _ => none

/-- The four `notifyRsrcStatus` methods: the status reaches whom it is for. -/
def notifyRsrcStatus (this : Subscriber) (notification : Notification) (a : Act) : Bool × Act :=
  if this.forMe notification then
    match notification.rsrcStatus with
    | .unsubscribe | .released | .denied | .granted =>
        let told := a.effect (.told this notification.rsrcStatus
          (statusCall a.machine this notification.rsrcStatus))
        (true, if this.kind = .ds then told.informStatus notification.rsrcStatus else told)
    | _ => (false, a)
  else (false, a)

def notifySubscriber (notification : Notification) (s1 : Subscriber) (a : Act) : Bool × Act :=
  let notified := notifyRsrcStatus s1 notification a
  (notified.1 && notification.postNotifyDelete, notified.2)

/-- The loop of `notifySubscribers`. Each search but the last removes a subscriber, so no list needs
more `turns` than it has places and one. -/
def notifyLoop (notification : Notification) : Nat → List Subscriber → Act → Act
  | 0, list, a => a.setSubscribers list
  | turns + 1, list, a =>
      match linkedListSearch (notifySubscriber notification) true list a with
      | (none, rest, told) => told.setSubscribers rest
      | (some _, rest, told) => notifyLoop notification turns rest told

def notifySubscribers (notification : Notification) (a : Act) : Act :=
  let list := a.machine.mSubscribers
  if notification.postNotifyDelete then notifyLoop notification (list.length + 1) list a
  else (linkedListSearch (notifySubscriber notification) false list a).2.2

/-- A search with `hasSubscriber`, which changes nothing. -/
def findSubscriber (a : Act) (receiver : Receiver) : Option Subscriber :=
  (linkedListSearch (fun s (_ : Unit) => (s.forMe (.search receiver), ())) false
    a.machine.mSubscribers ()).1

def hasSubscribers (a : Act) : Bool := !linkedListEmpty a.machine.mSubscribers

def hasActiveSubscribers (a : Act) : Bool := (a.findSubscriber .broadcastActive).isSome

def addSubscriber (subscriber : Subscriber) (a : Act) : Act :=
  match a.findSubscriber (.rcver subscriber) with
  | none => a.setSubscribers (linkedListAdd a.machine.mSubscribers subscriber.clone)
  | some _ => a

def dropAllSubscribers (a : Act) : Act := a.setSubscribers []

/-- `AgpsStateMachine::sendRsrcRequest`. -/
def sendAgpsRequest (action : AGpsStatusValue) (a : Act) : Int × Act :=
  match a.findSubscriber .broadcastActive with
  | none =>
      if action = .releaseAgpsDataConn then
        (0, a.effect (.requested ⟨a.machine.mType, action, some (INADDR_NONE, [0]), [0], [0]⟩))
      else (0, a)
  | some s =>
      if action = .releaseAgpsDataConn then (0, a)
      else
        (0, a.effect (.requested
          ⟨a.machine.mType, action, s.setIPAddresses, s.setWifiInfo.1, s.setWifiInfo.2⟩))

/-- `DSStateMachine::sendRsrcRequest`. Only a start of the data call has a result; `connHandle` is
-1 where no subscriber is active. -/
def sendDataCallRequest (answers : Answers) (action : AGpsStatusValue) (a : Act) : Int × Act :=
  let connHandle := ((a.findSubscriber .broadcastActive).map Subscriber.ID).getD 0xffffffff
  let ret := if action = .requestAgpsDataConn then answers.requestRsrc else 0
  let a := a.effect (.dataCall action)
  let fallback (a : Act) : Act :=
    (a.informStatus .denied).effect (.informed connHandle .denied (informCall .denied connHandle))
  if ret = LOC_API_ADAPTER_ERR_ENGINE_BUSY then
    let a := { a with machine := { a.machine with mRetries := a.machine.mRetries + 1 } }
    if a.machine.mRetries > MAX_START_DATA_CALL_RETRIES then (ret, fallback a)
    -- the timer's handle counts as an error here
    else if answers.timerStarted then (-1, a.effect (.timerStart DATA_CALL_RETRY_DELAY_MSEC))
    else (ret, a)
  else if ret = LOC_API_ADAPTER_ERR_UNSUPPORTED then (ret, fallback a)
  else if ret = LOC_API_ADAPTER_ERR_SUCCESS then (ret, a)
  else if ret = -1 then (ret, fallback a)
  else (ret, a)

def sendRsrcRequest (answers : Answers) (action : AGpsStatusValue) (a : Act) : Int × Act :=
  match a.machine.machineClass with
  | .agps => sendAgpsRequest action a
  | .ds => sendDataCallRequest answers action a

end Act

end VibeXperia.Agps

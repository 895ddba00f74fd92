import VibeXperia.Agps.Clients

namespace VibeXperia.Agps

/-! ## `loc_eng_dmn_conn_handler.cpp` -/

/-- `struct ctrl_msg_if_request`, with the enumerations as numbers. -/
structure CtrlMsgIfRequest where
  type : UInt32
  senderId : UInt32
  ipv4Addr : UInt32
  ipv6Addr : List UInt8
  ssid : List UInt8
  password : List UInt8
  deriving DecidableEq, Repr

inductive IfMsg
  | reqRelWifi (type : Int) (senderId : UInt32) (ssid password : List UInt8) (isReq : Bool)
  | reqRelBIT (type : Int) (ipv4 : UInt32) (ipv6 : List UInt8) (isReq : Bool)
  deriving DecidableEq, Repr

def AGPS_TYPE_ANY : Int := 0
def AGPS_TYPE_SUPL_ES : Int := 5

/-- The `switch` on `IF_REQUEST_TYPE_SUPL`, `IF_REQUEST_TYPE_WIFI` and `IF_REQUEST_TYPE_ANY`. -/
def ifRequestType (type : UInt32) : Option Int :=
  if type = 0 then some AGPS_TYPE_SUPL
  else if type = 1 then some AGPS_TYPE_WIFI
  else if type = 2 then some AGPS_TYPE_ANY
  else none

/-- Both handlers, which differ in `isReq`. The message they send, if any; `loc_api_handle` is
there since the launch. -/
def ifHandler (isReq : Bool) (r : CtrlMsgIfRequest) : Int × Option IfMsg :=
  match ifRequestType r.type with
  | none => (-1, none)
  | some type =>
      -- `IF_REQUEST_SENDER_ID_QUIPC`, `_MSAPM` and `_MSAPU`
      if r.senderId = 0 ∨ r.senderId = 1 ∨ r.senderId = 2 then
        (0, some (.reqRelWifi type r.senderId r.ssid r.password isReq))
      else if r.senderId = LOC_ENG_IF_REQUEST_SENDER_ID_GPSONE_DAEMON then
        (0, some (.reqRelBIT type r.ipv4Addr r.ipv6Addr isReq))
      else (-1, none)

/-- The queues of `loc_eng_dmn_conn_loc_api_server_data_conn`. -/
inductive ResponseQueue
  | quipc
  | msapm
  | msapu
  | locApiResp
  deriving DecidableEq, Repr

def dataConnQueue (senderId : UInt32) : Option ResponseQueue :=
  if senderId = 0 then some .quipc
  else if senderId = 1 then some .msapm
  else if senderId = 2 then some .msapu
  else if senderId = LOC_ENG_IF_REQUEST_SENDER_ID_GPSONE_DAEMON then some .locApiResp
  else none

/-! ## The machines of `loc_eng.cpp` and their messages -/

inductive Nif
  | agnss
  | internet
  | wifi
  deriving DecidableEq, Repr

/-- The machines, where there is no `ds_nif`. -/
structure Nifs where
  nif : Nif → Option AgpsStateMachine

inductive NifEvent
  | ifRequest (r : CtrlMsgIfRequest)
  | ifRelease (r : CtrlMsgIfRequest)
  | requestATL (id : UInt32) (type : Int)
  | releaseATL (id : UInt32)
  | requestSuplEs (id : UInt32)
  /-- `loc_eng_agps_open`, `loc_eng_agps_closed` and `loc_eng_agps_open_failed` -/
  | agpsOpen (type : Int) (apn : List UInt8) (bearerType : Int)
  | agpsClosed (type : Int)
  | agpsOpenFailed (type : Int)
  /-- `loc_eng_handle_engine_up` -/
  | engineUp
  deriving DecidableEq, Repr

inductive NifEffect
  | nif (n : Nif) (e : Effect)
  /-- An answer that no machine gives. -/
  | answered (call : Call)
  /-- What a handler returns. -/
  | result (r : Int)
  deriving DecidableEq, Repr

def MAX_APN_LEN : Nat := 100

def getAgpsStateMachine (agpsType : Int) : Option Nif :=
  if agpsType = AGPS_TYPE_WIFI then some .wifi
  else if agpsType = AGPS_TYPE_INVALID ∨ agpsType = AGPS_TYPE_SUPL then some .agnss
  else if agpsType = AGPS_TYPE_SUPL_ES then none
  else some .internet

namespace Nifs
variable (s : Nifs)

/-- `loc_eng_agps_init`, on a target with `agnss_nif` or without. -/
def init (agnss : Bool) : Nifs where
  nif
    | .agnss => if agnss then some (.new AGPS_TYPE_SUPL false) else none
    | .internet => some (.new AGPS_TYPE_WWAN_ANY false)
    | .wifi => some (.new AGPS_TYPE_WIFI true)

def set (n : Nif) (m : AgpsStateMachine) : Nifs := ⟨fun n' => if n' = n then some m else s.nif n'⟩

def proc (n : Nif) (msg : AgpsMsg) : Nifs × List NifEffect :=
  match s.nif n with
  | some m => (s.set n (m.proc msg).1, (m.proc msg).2.map (.nif n))
  | none => (s, [])

def procAt (n : Option Nif) (msg : AgpsMsg) : Nifs × List NifEffect :=
  match n with
  | some n => s.proc n msg
  | none => (s, [])

/-- `unsubscribeRsrc` of a machine, if it finds the client. -/
def tryRelease (id : UInt32) (n : Nif) : Option (Nifs × List NifEffect) :=
  match s.nif n with
  | none => none
  | some m =>
      let (found, act) := AgpsStateMachine.unsubscribeRsrc noAnswers (.atl id false) ⟨m, []⟩
      if found then some (s.set n act.machine, act.log.map (.nif n)) else none

/-- `LocEngReleaseATL::proc` -/
def releaseATL (id : UInt32) : Nifs × List NifEffect :=
  match s.tryRelease id .agnss with
  | some released => released
  | none =>
      match s.tryRelease id .internet with
      | some released => released
      | none => (s, [.answered (.atlCloseStatus id false)])

/-- `LocEngRequestATL::proc` -/
def requestATL (id : UInt32) (type : Int) : Nifs × List NifEffect :=
  match (getAgpsStateMachine type).filter fun n => (s.nif n).isSome with
  | some n => s.proc n (.subscribe (.atl id (type = AGPS_TYPE_INVALID)))
  | none => (s, [.answered (.atlOpenStatus id false none (-1) type)])

/-- `LocEngReqRelWifi::proc` and `LocEngReqRelBIT::proc` -/
def procIf : IfMsg → Nifs × List NifEffect
  | .reqRelWifi type senderId ssid password isReq =>
      let c : Subscriber := .wifi senderId (some ssid) (some password) false
      match s.nif .wifi with
      | some _ => s.proc .wifi (if isReq then .subscribe c else .unsubscribe c)
      | none => (s, [.answered (.atlOpenStatus senderId false none (-1) type)])
  | .reqRelBIT type ipv4 ipv6 isReq =>
      let c : Subscriber := .bit ipv4 ipv6
      s.procAt (getAgpsStateMachine type) (if isReq then .subscribe c else .unsubscribe c)

/-- A handler, and the message that it sends. -/
def handle (isReq : Bool) (r : CtrlMsgIfRequest) : Nifs × List NifEffect :=
  match ifHandler isReq r with
  | (result, none) => (s, [.result result])
  | (result, some msg) =>
      let (s, effects) := s.procIf msg
      (s, .result result :: effects)

def dropAll (n : Nif) : Nifs :=
  match s.nif n with
  | some m => s.set n (Act.mk m []).dropAllSubscribers.machine
  | none => s

def step : NifEvent → Nifs × List NifEffect
  | .ifRequest r => s.handle true r
  | .ifRelease r => s.handle false r
  | .requestATL id type => s.requestATL id type
  | .releaseATL id => s.releaseATL id
  | .requestSuplEs id => (s, [.answered (.atlOpenStatus id false none (-1) (-1))])
  | .agpsOpen type apn bearerType =>
      s.procAt (getAgpsStateMachine type) (.openSuccess (apn.take MAX_APN_LEN) bearerType)
  | .agpsClosed type => s.procAt (getAgpsStateMachine type) .closed
  | .agpsOpenFailed type => s.procAt (getAgpsStateMachine type) .openFailed
  | .engineUp => ((s.dropAll .agnss).dropAll .internet, [])

end Nifs

/-! ## Who is answered -/

inductive Addressee
  | atl (handle : UInt32)
  | queue (q : ResponseQueue)
  deriving DecidableEq, Repr

def Call.addressee : Call → Option Addressee
  | .dataConn senderId _ => (dataConnQueue senderId).map .queue
  | .atlOpenStatus handle .. | .atlCloseStatus handle _ => some (.atl handle)
  | _ => none

def NifEffect.addressee : NifEffect → Option Addressee
  | .nif _ (.told _ _ call) | .nif _ (.informed _ _ call) => call.bind Call.addressee
  | .answered call => call.addressee
  | _ => none

/-- Who asks the machine `n` for the connection. -/
def NifEvent.asks (n : Nif) : NifEvent → Option Addressee
  | .ifRequest r =>
      match (ifHandler true r).2 with
      | some (.reqRelWifi _ senderId _ _ _) =>
          if n = .wifi then (dataConnQueue senderId).map .queue else none
      | some (.reqRelBIT type _ _ _) =>
          if getAgpsStateMachine type = some n then some (.queue .locApiResp) else none
      | none => none
  | .requestATL id type => if getAgpsStateMachine type = some n then some (.atl id) else none
  | _ => none

/-- The modem's own handle in a message of the modem. -/
def NifEvent.handle : NifEvent → Option Addressee
  | .requestATL id _ | .releaseATL id | .requestSuplEs id => some (.atl id)
  | _ => none

/-- Who has asked the machine `n`, since the last restart of the modem where that empties it. -/
def asked (n : Nif) (es : List NifEvent) : List Addressee :=
  es.foldl (fun all e =>
    match e with
    | .engineUp => if n = .wifi then all else []
    | _ => (e.asks n).toList ++ all) []

end VibeXperia.Agps

import Mathlib.Algebra.Ring.Int.Defs
import Mathlib.Algebra.Ring.Nat
import VibeXperia.Lib.Run

namespace VibeXperia.Gps
open Lib

/-! ## Types of the interface -/

/-- A string of C, byte by byte. -/
abbrev CString := List Char

inductive GpsStatusValue
  | none
  | sessionBegin
  | sessionEnd
  | engineOn
  | engineOff
  deriving DecidableEq, Repr

inductive LocPositionMode
  | invalid
  | standalone
  | msBased
  | msAssisted
  | reserved (n : Nat)
  deriving DecidableEq, Repr

inductive GpsPositionRecurrence
  | periodic
  | single
  deriving DecidableEq, Repr

structure LocPosMode where
  mode : LocPositionMode
  recurrence : GpsPositionRecurrence
  minInterval : Nat
  preferredAccuracy : Nat
  preferredTime : Nat
  credentials : CString
  provider : CString
  deriving DecidableEq, Repr

inductive LocServerType
  | agpsCdmaPde
  | agpsCustomPde
  | agpsMpc
  | agpsSupl
  deriving DecidableEq, Repr

/-- A server as the modem is told of it. -/
inductive LocServer
  | url (url : CString)
  | ipv4 (ip : BitVec 32) (port : Int) (type : LocServerType)
  deriving DecidableEq, Repr

inductive LocSessStatus
  | success
  | intermediate
  | failure
  deriving DecidableEq, Repr

inductive LocApiAdapterErr
  | success
  | generalFailure
  | unsupported
  | invalidHandle
  | invalidParameter
  | engineBusy
  | phoneOffline
  | timeout
  | serviceNotPresent
  | engineDown
  | failure
  | unknown
  deriving DecidableEq, Repr

inductive LocMuteSession
  | none
  | wait
  | inSession
  deriving DecidableEq, Repr

inductive GnssTarget
  | none
  | msm
  | gss
  | mdm
  | qca1530
  | unknown
  deriving DecidableEq, Repr

/-- A target that has neither assistance data connections nor other modes than standalone. -/
def GnssTarget.isStandalone (target : GnssTarget) : Bool := target = .gss || target = .qca1530

abbrev GpsAidingData := BitVec 16

/-- What a report of a position is judged by. -/
structure PositionReport where
  status : LocSessStatus
  techMask : BitVec 32
  hasAccuracy : Bool
  accuracy : Rat
  deriving DecidableEq, Repr

/-! ## `loc_eng_data_s_type` -/

/-- `gps_conf`, and what the target and the libraries next to this one are. -/
structure EngineConf where
  INTERMEDIATE_POS : Nat
  ACCURACY_THRES : Nat
  gnssType : GnssTarget
  mAgpsEnabled : Bool

structure LocEngAdapter where
  mFixCriteria : LocPosMode
  mNavigating : Bool
  deriving DecidableEq, Repr

/-- `*_host_buf` and `*_port_buf` -/
structure HostBuf where
  host : CString
  port : Int
  deriving DecidableEq, Repr

/-- The framework gives all callbacks but `agps_status_cb` with the first initialisation. -/
structure LocEngData where
  /-- `adapter` is not `NULL`. -/
  created : Bool
  adapter : LocEngAdapter
  /-- `agps_status_cb` is not `NULL`. -/
  agpsStatusCb : Bool
  engineStatus : GpsStatusValue
  fixSessionStatus : GpsStatusValue
  aidingDataForDeletion : GpsAidingData
  muteSessionState : LocMuteSession
  suplHost : Option HostBuf
  c2kHost : Option HostBuf
  deriving DecidableEq, Repr

/-- Messages to the thread of the engine; data connections and configuration have others. -/
inductive LocMsg
  | init
  | startFix
  | stopFix
  | positionMode (mode : LocPosMode)
  | setServer (server : LocServer)
  | delAidData (type : GpsAidingData)
  | reportPosition (position : PositionReport)
  | reportSv
  | reportStatus (status : GpsStatusValue)
  | requestNi (privacyOverride : Bool)
  | down
  | up
  deriving DecidableEq, Repr

/-- Calls of the modem, and of the framework. -/
inductive EngineEffect
  | startFix (criteria : LocPosMode)
  | stopFix
  | setPositionMode (criteria : LocPosMode)
  | deleteAidingData (flags : GpsAidingData)
  | setServer (server : LocServer)
  | statusCb (status : GpsStatusValue)
  /-- Nothing is located where the session failed. -/
  | locationCb (position : Option PositionReport)
  | svStatusCb
  deriving DecidableEq, Repr

abbrev Resolver := CString → Option (BitVec 32)

/-- What modem, network and notification handler answer while a message is handled. -/
structure EngineAnswers where
  startFix : LocApiAdapterErr
  stopFix : LocApiAdapterErr
  resolveInAddr : Resolver
  /-- The request of the network is taken up, as there is none at the moment. -/
  niTaken : Bool

/-! ## Handlers -/

def LocEngAdapter.setInSession (adapter : LocEngAdapter) (inSession : Bool) : LocEngAdapter where
  mNavigating := inSession
  mFixCriteria :=
    if inSession then adapter.mFixCriteria else { adapter.mFixCriteria with mode := .invalid }

section Handlers
variable (conf : EngineConf) (answers : EngineAnswers) (data : LocEngData)

def LocEngData.setInSession (inSession : Bool) : LocEngData :=
  { data with adapter := data.adapter.setInSession inSession }

def locEngStartHandler : LocEngData × List EngineEffect :=
  if data.adapter.mNavigating then (data, [])
  else if answers.startFix = .success ∨ answers.startFix = .engineDown then
    (data.setInSession true, [.startFix data.adapter.mFixCriteria, .statusCb .sessionBegin])
  else (data, [.startFix data.adapter.mFixCriteria])

def locEngStopHandler : LocEngData × List EngineEffect :=
  if data.adapter.mNavigating then
    (data.setInSession false,
      if answers.stopFix = .success then [.stopFix, .statusCb .sessionEnd] else [.stopFix])
  else (data, [])

def locEngMuteOneSession : LocEngData := { data with muteSessionState := .wait }

/-- The first two steps of `loc_eng_report_status`. -/
def switchMute (status : GpsStatusValue) (mute : LocMuteSession) : LocMuteSession :=
  let mute :=
    if (status = .sessionBegin ∨ status = .engineOn) ∧ mute = .wait then .inSession else mute
  if mute = .inSession ∧ (status = .sessionEnd ∨ status = .engineOff) then .none else mute

def locEngReportStatus (status : GpsStatusValue) : LocEngData × List EngineEffect :=
  let muteSessionState := switchMute status data.muteSessionState
  let navigating := data.adapter.mNavigating
  let told :=
    if status ≠ .none ∧ ¬ (status = .sessionEnd ∧ navigating) ∧
        ¬ (status = .sessionBegin ∧ ¬ navigating) ∧ muteSessionState ≠ .inSession then
      [.statusCb status]
    else []
  ({ data with
      muteSessionState
      engineStatus :=
        if status = .engineOn ∨ status = .engineOff then status else data.engineStatus
      fixSessionStatus :=
        if status = .sessionBegin ∨ status = .sessionEnd then status else data.fixSessionStatus },
    told)

def updateAidingDataForDeletion : LocEngData × List EngineEffect :=
  if data.engineStatus ≠ .engineOn ∧ data.aidingDataForDeletion ≠ 0 then
    ({ data with aidingDataForDeletion := 0 }, [.deleteAidingData data.aidingDataForDeletion])
  else (data, [])

/-- `LOC_POS_TECH_MASK_SATELLITE | LOC_POS_TECH_MASK_SENSORS | LOC_POS_TECH_MASK_HYBRID` -/
def finalTechMask : BitVec 32 := 0x89

/-- What `location_cb` is called with, if it is. -/
def PositionReport.reported (position : PositionReport) : Option (Option PositionReport) :=
  if position.status = .failure then some none
  else if (position.status = .success ∧ finalTechMask &&& position.techMask ≠ 0) ∨
      (conf.INTERMEDIATE_POS % 2 ^ 8 = 1 ∧
        ¬ (position.hasAccuracy ∧ conf.ACCURACY_THRES ≠ 0 ∧
          (conf.ACCURACY_THRES : Rat) < position.accuracy)) then
    some (some position)
  else none

def reportPositionProc (position : PositionReport) : LocEngData × List EngineEffect :=
  if data.muteSessionState = .inSession then (data, [])
  else
    match position.reported conf with
    | none => (data, [])
    | some location =>
        if data.adapter.mFixCriteria.recurrence = .single then
          (data.setInSession false,
            .locationCb location :: if position.status = .intermediate then [.stopFix] else [])
        else (data, [.locationCb location])

/-! ### Servers -/

def maxUrlLen : Nat := 256

/-- `"%s:%u"` -/
def serverUrl (hostname : CString) (port : Int) : CString :=
  hostname ++ ':' :: Nat.toDigits 10 (port % 2 ^ 32).toNat

def htonl (addr : BitVec 32) : BitVec 32 :=
  addr.extractLsb' 0 8 ++ addr.extractLsb' 8 8 ++ addr.extractLsb' 16 8 ++ addr.extractLsb' 24 8

/-- The message that `loc_eng_set_server` sends. -/
def locEngSetServer (resolveInAddr : Resolver) (type : LocServerType) (hostname : CString)
    (port : Int) : List LocMsg :=
  match type with
  | .agpsSupl =>
      if (serverUrl hostname port).length < maxUrlLen then
        [.setServer (.url (serverUrl hostname port))]
      else []
  | .agpsCdmaPde | .agpsCustomPde | .agpsMpc =>
      match resolveInAddr hostname with
      | none => []
      | some addr => [.setServer (.ipv4 (htonl addr) port type)]

def setBuffered (resolveInAddr : Resolver) (type : LocServerType) : Option HostBuf → List LocMsg
  | none => []
  | some buf => locEngSetServer resolveInAddr type buf.host buf.port

def locEngAgpsReinit (resolveInAddr : Resolver) : List LocMsg :=
  setBuffered resolveInAddr .agpsSupl data.suplHost ++
    setBuffered resolveInAddr .agpsCdmaPde data.c2kHost

/-- `strlcpy` to a buffer of 101 bytes. -/
def copyHost (hostname : CString) : CString := hostname.take 100

def locEngSetServerProxy (resolveInAddr : Resolver) (type : LocServerType) (hostname : CString)
    (port : Int) : LocEngData × List LocMsg :=
  if data.created then (data, locEngSetServer resolveInAddr type hostname port)
  else
    match type with
    | .agpsSupl => ({ data with suplHost := some ⟨copyHost hostname, port⟩ }, [])
    | .agpsCdmaPde => ({ data with c2kHost := some ⟨copyHost hostname, port⟩ }, [])
    | .agpsCustomPde | .agpsMpc => (data, [])

/-! ### Modem restarts -/

def locEngHandleEngineDown : LocEngData × List EngineEffect := locEngReportStatus data .engineOff

/-- The data, the messages sent and the calls; the configuration that `loc_eng_reinit` sends
again is not among them. -/
def locEngHandleEngineUp : LocEngData × List LocMsg × List EngineEffect :=
  let sent := if data.agpsStatusCb then locEngAgpsReinit data answers.resolveInAddr else []
  let on := locEngReportStatus data .engineOn
  if on.1.adapter.mNavigating then
    let started := locEngStartHandler answers (on.1.setInSession false)
    (started.1, sent, on.2 ++ .setPositionMode on.1.adapter.mFixCriteria :: started.2)
  else (on.1, sent, on.2)

/-! ### Messages -/

def silent (handled : LocEngData × List EngineEffect) :
    LocEngData × List LocMsg × List EngineEffect :=
  (handled.1, [], handled.2)

def LocMsg.proc : LocMsg → LocEngData × List LocMsg × List EngineEffect
  | .init => (data, [], [])
  | .startFix => silent (locEngStartHandler answers data)
  | .stopFix => silent (locEngStopHandler answers data)
  | .positionMode mode =>
      ({ data with adapter := { data.adapter with mFixCriteria := mode } }, [],
        [.setPositionMode mode])
  | .setServer server => (data, [], [.setServer server])
  | .delAidData type =>
      silent (updateAidingDataForDeletion { data with aidingDataForDeletion := type })
  | .reportPosition position => silent (reportPositionProc conf data position)
  | .reportSv =>
      if data.muteSessionState = .inSession then (data, [], []) else (data, [], [.svStatusCb])
  | .reportStatus status =>
      let reported := locEngReportStatus data status
      let updated := updateAidingDataForDeletion reported.1
      (updated.1, [], reported.2 ++ updated.2)
  | .requestNi privacyOverride =>
      if answers.niTaken ∧ privacyOverride then (locEngMuteOneSession data, [], [])
      else (data, [], [])
  | .down => silent (locEngHandleEngineDown data)
  | .up => locEngHandleEngineUp answers data

end Handlers

/-! ## Calls of the framework -/

inductive EngineCall
  | init
  | agpsInit
  | setServer (type : LocServerType) (hostname : CString) (port : Int)
  | setPositionMode (params : LocPosMode)
  | start
  | stop
  | deleteAidingData (flags : GpsAidingData)
  | cleanup
  deriving DecidableEq, Repr

/-- All bytes are 0. -/
def LocEngData.zero : LocEngData where
  created := false
  adapter := ⟨⟨.standalone, .periodic, 0, 0, 0, [], []⟩, false⟩
  agpsStatusCb := false
  engineStatus := .none
  fixSessionStatus := .none
  aidingDataForDeletion := 0
  muteSessionState := .none
  suplHost := none
  c2kHost := none

/-- What `loc_eng_init` leaves, after the `memset`. -/
def LocEngData.fresh : LocEngData :=
  { LocEngData.zero with
    created := true
    adapter := ⟨⟨.invalid, .periodic, 0, 0, 0, [], []⟩, false⟩ }

def standaloneOnly (conf : EngineConf) (params : LocPosMode) : LocPosMode :=
  if conf.gnssType.isStandalone ∧ params.mode ≠ .standalone then
    { params with mode := .standalone }
  else params

/-- The data, and the messages sent. -/
def EngineCall.perform (conf : EngineConf) (resolveInAddr : Resolver) (data : LocEngData) :
    EngineCall → LocEngData × List LocMsg
  | .init => if data.created then (data, []) else (.fresh, [.init])
  | .agpsInit =>
      if data.created ∧ ¬ data.agpsStatusCb then
        ({ data with agpsStatusCb := true },
          if conf.gnssType.isStandalone then [] else locEngAgpsReinit data resolveInAddr)
      else (data, [])
  | .setServer type hostname port => locEngSetServerProxy data resolveInAddr type hostname port
  | .setPositionMode params =>
      (data, if data.created then [.positionMode (standaloneOnly conf params)] else [])
  | .start => (data, if data.created then [.startFix] else [])
  | .stop => (data, if data.created then [.stopFix] else [])
  | .deleteAidingData flags => (data, if data.created then [.delAidData flags] else [])
  | .cleanup => (data, if data.created ∧ data.adapter.mNavigating then [.stopFix] else [])

/-! ## Reports of the modem -/

inductive ModemReport
  | position (position : PositionReport)
  | sv
  | status (status : GpsStatusValue)
  | niNotify (privacyOverride : Bool)
  | engineDown
  | engineUp
  deriving DecidableEq, Repr

def ModemReport.sent (conf : EngineConf) : ModemReport → List LocMsg
  | .position report => [.reportPosition report]
  | .sv => [.reportSv]
  | .status report => [.reportStatus report]
  | .niNotify privacyOverride => if conf.mAgpsEnabled then [.requestNi privacyOverride] else []
  | .engineDown => [.down]
  | .engineUp => [.up]

/-! ## The engine with the queue of its thread -/

structure LocEng where
  data : LocEngData
  msgs : List LocMsg
  deriving DecidableEq, Repr

inductive EngineEvent
  | call (call : EngineCall) (resolveInAddr : Resolver)
  /-- Reports come in as soon as there is an adapter. -/
  | report (report : ModemReport)
  /-- The thread of the engine handles the oldest message. -/
  | proc (answers : EngineAnswers)

namespace LocEng

def zero : LocEng := ⟨.zero, []⟩

def step (conf : EngineConf) (eng : LocEng) : EngineEvent → LocEng × List EngineEffect
  | .call call resolveInAddr =>
      let performed := call.perform conf resolveInAddr eng.data
      (⟨performed.1, eng.msgs ++ performed.2⟩, [])
  | .report report =>
      if eng.data.created then (⟨eng.data, eng.msgs ++ report.sent conf⟩, []) else (eng, [])
  | .proc answers =>
      match eng.msgs with
      | [] => (eng, [])
      | msg :: msgs =>
          let handled := msg.proc conf answers eng.data
          (⟨handled.1, msgs ++ handled.2.1⟩, handled.2.2)

end LocEng

abbrev EngineTransition := Transition LocEng EngineEvent EngineEffect

def handledIn (t : EngineTransition) : Option LocMsg :=
  match t.event with
  | .proc _ => t.before.msgs.head?
  | .call .. | .report _ => none

end VibeXperia.Gps

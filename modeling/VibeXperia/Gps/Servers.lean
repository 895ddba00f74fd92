import VibeXperia.Gps.Engine
import VibeXperia.Lib.Pending

namespace VibeXperia.Gps
open Lib

/-! ## The servers of the modem -/

def LocServer.type : LocServer → LocServerType
  | .url _ => .agpsSupl
  | .ipv4 _ _ type => type

def serverAsked (resolveInAddr : Resolver) (type : LocServerType) (hostname : CString)
    (port : Int) : Option LocServer :=
  match type with
  | .agpsSupl => some (.url (serverUrl hostname port))
  | .agpsCdmaPde | .agpsCustomPde | .agpsMpc =>
      (resolveInAddr hostname).map fun addr => .ipv4 (htonl addr) port type

/-- The URL fits its buffer, or the host has an address. -/
def deliverable (resolveInAddr : Resolver) (type : LocServerType) (hostname : CString)
    (port : Int) : Bool :=
  match type with
  | .agpsSupl => (serverUrl hostname port).length < maxUrlLen
  | .agpsCdmaPde | .agpsCustomPde | .agpsMpc => (resolveInAddr hostname).isSome

def setServerCalled (type : LocServerType) : EngineEvent → Bool
  | .call (.setServer called _ _) _ => called = type
  | _ => false

def serverSent (type : LocServerType) : LocMsg → Option LocServer
  | .setServer server => if server.type = type then some server else none
  | _ => none

def serverDelivered (type : LocServerType) : EngineEffect → Option LocServer
  | .setServer server => if server.type = type then some server else none
  | _ => none

/-- A modem that does not keep its servers has none after a restart. -/
def serverWritten (keeps : Bool) (type : LocServerType) (t : EngineTransition) :
    Option (Option LocServer) :=
  if handledIn t = some .up ∧ keeps = false then some none
  else (t.outputs.findSome? (serverDelivered type)).map some

def modemServer (keeps : Bool) (type : LocServerType) (ts : List EngineTransition) :
    Option LocServer :=
  settled (serverWritten keeps type) none ts

/-- The modem restarts only while there is still a server on the way to it. -/
def RestartsBefore (type : LocServerType) (ts : List EngineTransition) : Prop :=
  ∀ u ∈ ts, handledIn u = some .up → lastWrite (serverSent type) u.before.msgs ≠ none

end VibeXperia.Gps

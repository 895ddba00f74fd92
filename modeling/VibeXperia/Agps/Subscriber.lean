import Mathlib.Data.List.Basic

namespace VibeXperia.Agps

inductive AgpsRsrcStatus
  | subscribe
  | unsubscribe
  | granted
  | released
  | denied
  | max
  deriving DecidableEq, Repr

/-- `AGpsStatusValue`, as far as it is used to ask for the connection. -/
inductive AGpsStatusValue
  | requestAgpsDataConn
  | releaseAgpsDataConn
  deriving DecidableEq, Repr

def AGPS_TYPE_INVALID : Int := -1
def AGPS_TYPE_SUPL : Int := 1
def AGPS_TYPE_WWAN_ANY : Int := 3
def AGPS_TYPE_WIFI : Int := 4

def AGPS_APN_BEARER_INVALID : Int := -1

def INADDR_NONE : UInt32 := 0xffffffff

def LOC_ENG_IF_REQUEST_SENDER_ID_GPSONE_DAEMON : UInt32 := 3

/-- The clients of a state machine. An address or a name is a `char` array. -/
inductive Subscriber
  | bit (ID : UInt32) (mIPv6Addr : List UInt8)
  | atl (ID : UInt32) (mBackwardCompatibleMode : Bool)
  | wifi (senderId : UInt32) (mSSID mPassword : Option (List UInt8)) (mIsInactive : Bool)
  | ds (ID : UInt32) (mIsInactive : Bool)
  deriving DecidableEq, Repr

inductive SubscriberKind
  | bit
  | atl
  | wifi
  | ds
  deriving DecidableEq, Repr

/-- Whether `strncmp` finds no difference in the first `size` characters. -/
def strncmpEqual (a b : List UInt8) (size : Nat) : Bool :=
  (a.take size).takeWhile (· ≠ 0) == (b.take size).takeWhile (· ≠ 0)

namespace Subscriber

def kind : Subscriber → SubscriberKind
  | bit .. => .bit
  | atl .. => .atl
  | wifi .. => .wifi
  | ds .. => .ds

def ID : Subscriber → UInt32
  | bit ID _ | atl ID _ | wifi ID _ _ _ | ds ID _ => ID

/-- Empty for an object that is no `BITSubscriber`. -/
def mIPv6Addr : Subscriber → List UInt8
  | bit _ mIPv6Addr => mIPv6Addr
  | _ => []

def equals (this s : Subscriber) : Bool :=
  match this with
  | bit ID mIPv6Addr =>
      ID == s.ID && (INADDR_NONE != ID || strncmpEqual mIPv6Addr s.mIPv6Addr 16)
  | _ => this.ID == s.ID

def waitForCloseComplete : Subscriber → Bool
  | wifi .. | ds .. => true
  | _ => false

def isInactive : Subscriber → Bool
  | wifi _ _ _ mIsInactive | ds _ mIsInactive => mIsInactive
  | _ => false

def clone : Subscriber → Subscriber
  | wifi senderId mSSID mPassword _ => wifi senderId mSSID mPassword false
  | ds ID _ => ds ID false
  | s => s

/-- The field that `setInactive` sets. -/
def markInactive : Subscriber → Subscriber
  | wifi senderId mSSID mPassword _ => wifi senderId mSSID mPassword true
  | ds ID _ => ds ID true
  | s => s

/-- What is written into a fresh `ipv4_addr` and `ipv6_addr`; WIFI and DS clients write nothing. -/
def setIPAddresses : Subscriber → Option (UInt32 × List UInt8)
  | bit ID mIPv6Addr => some (ID, mIPv6Addr)
  | atl .. => some (INADDR_NONE, [0])
  | _ => none

/-- What is written into `ssid` and `password`. -/
def setWifiInfo : Subscriber → List UInt8 × List UInt8
  | wifi _ mSSID mPassword _ => (mSSID.getD [0], mPassword.getD [0])
  | _ => ([0], [0])

end Subscriber

/-- Whom a notification is for: the object `rcver`, or a `groupID` with `rcver` null. -/
inductive Receiver
  | rcver (subscriber : Subscriber)
  | broadcastAll
  | broadcastActive
  | broadcastInactive
  deriving DecidableEq, Repr

structure Notification where
  receiver : Receiver
  rsrcStatus : AgpsRsrcStatus
  postNotifyDelete : Bool
  deriving DecidableEq, Repr

/-- The constructors of `Notification` that are only used to search the list. -/
def Notification.search (receiver : Receiver) : Notification := ⟨receiver, .max, false⟩

def Subscriber.forMe (this : Subscriber) (notification : Notification) : Bool :=
  match notification.receiver with
  | .rcver subscriber => this.equals subscriber
  | .broadcastAll => true
  | .broadcastActive => !this.isInactive
  | .broadcastInactive => this.isInactive

end VibeXperia.Agps

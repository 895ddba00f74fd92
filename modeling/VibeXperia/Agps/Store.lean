import VibeXperia.Agps.Machine
import Mathlib.Logic.Function.Basic

namespace VibeXperia.Agps
open Gps

/-! ## The machine over subscriber objects in a store -/

abbrev Addr := Nat

structure Lookup where
  addr : Addr
  live : Bool
  deriving DecidableEq, Repr

/-- What the lookup with a given number reads at an address where no object is. -/
abbrev Stale := Nat → Addr → Subscriber

/-- `rcver` and `groupID` of a notification. -/
inductive Target
  | rcver (s : Addr)
  | broadcastAll
  | broadcastActive
  | broadcastInactive
  deriving DecidableEq, Repr

structure StoreNotification where
  target : Target
  rsrcStatus : AgpsRsrcStatus
  postNotifyDelete : Bool
  deriving DecidableEq, Repr

def StoreNotification.search (target : Target) : StoreNotification := ⟨target, .max, false⟩

/-- What is called with an object that was looked up: a client is told of a status, or the framework
is asked, with the addresses of an active client where there is one. -/
inductive StoreCall
  | told (this : Addr) (subscriber : Subscriber) (status : AgpsRsrcStatus)
  | requested (action : AGpsStatusValue) (subscriber : Option Subscriber)
  deriving DecidableEq, Repr

/-- `mSubscribers` are the `data_ptr` of the list's nodes. -/
structure Heap where
  store : Addr → Option Subscriber
  mSubscribers : List Addr
  lookups : List Lookup
  log : List StoreCall

namespace Heap

def new (store : Addr → Option Subscriber) (mSubscribers : List Addr) : Heap :=
  ⟨store, mSubscribers, [], []⟩

def write (s : Addr) (object : Option Subscriber) (h : Heap) : Heap :=
  { h with store := Function.update h.store s object }

def delete (s : Addr) (h : Heap) : Heap := h.write s none

def setSubscribers (mSubscribers : List Addr) (h : Heap) : Heap := { h with mSubscribers }

def call (called : StoreCall) (h : Heap) : Heap := { h with log := h.log ++ [called] }

variable (stale : Stale)

def lookup (s : Addr) (h : Heap) : Subscriber × Heap :=
  ((h.store s).getD (stale h.lookups.length s),
    { h with lookups := h.lookups ++ [⟨s, (h.store s).isSome⟩] })

def forMe (notification : StoreNotification) (this : Addr) (h : Heap) : Bool × Heap :=
  match notification.target with
  | .rcver s =>
      let left := h.lookup stale this
      let right := left.2.lookup stale s
      (left.1.equals right.1, right.2)
  | .broadcastAll => (true, h)
  | .broadcastActive =>
      let object := h.lookup stale this
      (!object.1.isInactive, object.2)
  | .broadcastInactive =>
      let object := h.lookup stale this
      (object.1.isInactive, object.2)

/-- The call itself looks the object up, as the method is virtual. -/
def notifyRsrcStatus (notification : StoreNotification) (this : Addr) (h : Heap) : Bool × Heap :=
  let object := h.lookup stale this
  let notify := forMe stale notification this object.2
  if notify.1 then
    match notification.rsrcStatus with
    | .unsubscribe | .released | .denied | .granted =>
        (true, notify.2.call (.told this object.1 notification.rsrcStatus))
    | _ => (false, notify.2)
  else (false, notify.2)

def notifySubscriber (notification : StoreNotification) (s1 : Addr) (h : Heap) : Bool × Heap :=
  let notified := notifyRsrcStatus stale notification s1 h
  (notified.1 && notification.postNotifyDelete, notified.2)

/-- As on values, but that what was found is deleted. -/
def notifyLoop (notification : StoreNotification) : Nat → Heap → Heap
  | 0, h => h
  | turns + 1, h =>
      match linkedListSearch (notifySubscriber stale notification) true h.mSubscribers h with
      | (none, rest, h) => h.setSubscribers rest
      | (some s, rest, h) => notifyLoop notification turns ((h.setSubscribers rest).delete s)

def notifySubscribers (notification : StoreNotification) (h : Heap) : Heap :=
  if notification.postNotifyDelete then
    notifyLoop stale notification (h.mSubscribers.length + 1) h
  else (linkedListSearch (notifySubscriber stale notification) false h.mSubscribers h).2.2

def findSubscriber (target : Target) (h : Heap) : Option Addr × Heap :=
  let found := linkedListSearch (forMe stale (.search target)) false h.mSubscribers h
  (found.1, found.2.2)

def hasSubscribers (h : Heap) : Bool := !linkedListEmpty h.mSubscribers

def hasActiveSubscribers (h : Heap) : Bool × Heap :=
  let found := h.findSubscriber stale .broadcastActive
  (found.1.isSome, found.2)

/-- `clone` puts the new object at the address `fresh`. -/
def addSubscriber (subscriber fresh : Addr) (h : Heap) : Heap :=
  match h.findSubscriber stale (.rcver subscriber) with
  | (none, h) =>
      let object := h.lookup stale subscriber
      (object.2.write fresh (some object.1.clone)).setSubscribers
        (linkedListAdd h.mSubscribers fresh)
  | (some _, h) => h

def sendRsrcRequest (action : AGpsStatusValue) (h : Heap) : Heap :=
  match h.findSubscriber stale .broadcastActive with
  | (none, h) =>
      if action = .releaseAgpsDataConn then h.call (.requested action none) else h
  | (some s, h) =>
      if action = .releaseAgpsDataConn then h
      else
        let object := h.lookup stale s
        object.2.call (.requested action (some object.1))

def setInactive (s : Addr) (h : Heap) : Heap :=
  let object := h.lookup stale s
  object.2.write s (some object.1.markInactive)

def leave (s : Addr) (h : Heap) : Heap :=
  let object := h.lookup stale s
  if object.1.waitForCloseComplete then setInactive stale s object.2
  else notifySubscribers stale ⟨.rcver s, .unsubscribe, true⟩ object.2

/-- The end of `RSRC_UNSUBSCRIBE` in the pending and in the acquired state. -/
def checkLeft (state : AgpsState) (left : Heap) : AgpsState × Heap :=
  if !left.hasSubscribers then (.released, left.sendRsrcRequest stale .releaseAgpsDataConn)
  else
    let active := left.hasActiveSubscribers stale
    if !active.1 then (.releasing, active.2.sendRsrcRequest stale .releaseAgpsDataConn)
    else (state, active.2)

end Heap

/-- The events of an AGPS machine; `data` is the caller's object. -/
inductive StoreEvent
  | subscribe (data fresh : Addr)
  | unsubscribe (data : Addr)
  | granted
  | released
  | denied
  deriving DecidableEq, Repr

/-- The caller's object. -/
def StoreEvent.data : StoreEvent → Option Addr
  | .subscribe data _ | .unsubscribe data => some data
  | _ => none

/-- Where a clone of the caller's object is put. -/
def StoreEvent.fresh : StoreEvent → Option Addr
  | .subscribe _ fresh => some fresh
  | _ => none

namespace Heap
variable (stale : Stale)

/-- `onRsrcEvent` of the four states, but for `RSRC_UNSUBSCRIBE`. -/
def onRsrcEvent (state : AgpsState) (event : StoreEvent) (h : Heap) : AgpsState × Heap :=
  match state, event with
  | .released, .subscribe data fresh =>
      (.pending, (h.addSubscriber stale data fresh).sendRsrcRequest stale .requestAgpsDataConn)
  | .pending, .subscribe data fresh => (.pending, h.addSubscriber stale data fresh)
  | .pending, .granted =>
      (.acquired, h.notifySubscribers stale ⟨.broadcastActive, .granted, false⟩)
  | .pending, .denied => (.released, h.notifySubscribers stale ⟨.broadcastAll, .denied, true⟩)
  | .acquired, .subscribe data fresh =>
      let told := (h.notifyRsrcStatus stale ⟨.rcver data, .granted, false⟩ data).2
      (.acquired, told.addSubscriber stale data fresh)
  | .acquired, .released =>
      (.released, h.notifySubscribers stale ⟨.broadcastAll, .released, true⟩)
  | .releasing, .subscribe data fresh => (.releasing, h.addSubscriber stale data fresh)
  | .releasing, .released | .releasing, .denied =>
      let status := if event = .denied then .denied else .released
      let told := h.notifySubscribers stale ⟨.broadcastInactive, status, true⟩
      let active := told.hasActiveSubscribers stale
      if active.1 then (.pending, active.2.sendRsrcRequest stale .requestAgpsDataConn)
      else (.released, active.2)
  | _, _ => (state, h)

/-- `RSRC_UNSUBSCRIBE` for the list's entry `s`. -/
def onUnsubscribe (state : AgpsState) (s : Addr) (h : Heap) : AgpsState × Heap :=
  match state with
  | .released => (.released, (h.notifyRsrcStatus stale ⟨.rcver s, .unsubscribe, false⟩ s).2)
  | .pending | .acquired => checkLeft stale state (h.leave stale s)
  | .releasing =>
      let left := h.leave stale s
      (if !left.hasSubscribers then .released else .releasing, left)

/-- `subscribeRsrc`, `unsubscribeRsrc` and `onRsrcEvent` of a machine for many subscribers. -/
def onEvent (state : AgpsState) (event : StoreEvent) (h : Heap) : AgpsState × Heap :=
  match event with
  | .unsubscribe data =>
      match h.findSubscriber stale (.rcver data) with
      | (none, h) => (state, h)
      | (some s, h) => h.onUnsubscribe stale state s
  | event => h.onRsrcEvent stale state event

/-! ## Lookups of deleted objects -/

def equalAt (h : Heap) (this s : Addr) : Bool :=
  match h.store this, h.store s with
  | some this, some s => this.equals s
  | _, _ => false

/-- The entries still in the list when the entry `s` is deleted as the receiver of its own
notification: those before it go first if they equal it. -/
def outlive (s : Addr) (h : Heap) : List Addr :=
  (h.mSubscribers.takeWhile (· ≠ s)).filter (fun p => !h.equalAt p s) ++
    (h.mSubscribers.dropWhile (· ≠ s)).tail

/-- An unsubscribe that finds its entry where another one outlives it. -/
def KeyOutlived (state : AgpsState) (event : StoreEvent) (h : Heap) : Prop :=
  state ≠ .released ∧ ∃ data s, event = .unsubscribe data ∧
    (h.mSubscribers.find? fun p => h.equalAt p data) = some s ∧ h.outlive s ≠ []

instance (state : AgpsState) (event : StoreEvent) (h : Heap) :
    Decidable (h.KeyOutlived state event) :=
  match event with
  | .unsubscribe data =>
      match found : h.mSubscribers.find? fun p => h.equalAt p data with
      | none => isFalse (by simp [KeyOutlived, found])
      | some s => decidable_of_iff (state ≠ .released ∧ h.outlive s ≠ []) (by
          simp [KeyOutlived, found])
  | .subscribe .. | .granted | .released | .denied => isFalse (by simp [KeyOutlived])

/-- Every object looked up during the event is there, and what is read elsewhere has no say. -/
def LiveLookups (state : AgpsState) (event : StoreEvent) (h : Heap) : Prop :=
  (∀ stale, ∀ l ∈ (h.onEvent stale state event).2.lookups, l.live = true) ∧
    ∀ stale stale', h.onEvent stale state event = h.onEvent stale' state event

end Heap

end VibeXperia.Agps

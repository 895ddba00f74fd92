import VibeXperia.Agps.Clients
import VibeXperia.Agps.Store

namespace VibeXperia.Agps
open Lib

/-! ## A machine of ATL or BIT clients over their objects -/

/-- `store` has the objects of the clients; `mSubscribers` are the addresses in the list. -/
structure StoreMachine where
  mState : AgpsState
  store : Addr → Option Subscriber
  mSubscribers : List Addr
  mType : Int
  mAPN : Option (List UInt8)
  mBearer : Int

def StoreMachine.new (mType : Int) : StoreMachine :=
  { mState := .released
    store := fun _ => none
    mSubscribers := []
    mType
    mAPN := none
    mBearer := AGPS_APN_BEARER_INVALID }

/-- A message with the address of the caller's object, which lives as long as the call, with the one
that a clone of it would get, and with what is read of freed memory meanwhile. -/
structure StoreMsg where
  msg : AgpsMsg
  data : Addr
  fresh : Addr
  stale : Stale

def StoreMsg.event (e : StoreMsg) : StoreEvent :=
  match e.msg with
  | .subscribe _ => .subscribe e.data e.fresh
  | .unsubscribe _ => .unsubscribe e.data
  | .openSuccess .. => .granted
  | .closed => .released
  | .openFailed => .denied

namespace StoreMachine

/-- `setBearer` and `setAPN` of `LocEngAtlOpenSuccess`. -/
def accept (m : StoreMachine) : AgpsMsg → StoreMachine
  | .openSuccess apn bearerType => { m with mAPN := some apn, mBearer := bearerType }
  | _ => m

/-- What the event finds: the caller's object lies at `data`. -/
def heap (m : StoreMachine) (e : StoreMsg) : Heap :=
  let kept := Heap.new m.store m.mSubscribers
  e.msg.client.elim kept fun s => kept.write e.data (some s)

/-- What the event leaves: the caller's object is gone. -/
def leave (m : StoreMachine) (e : StoreMsg) (state : AgpsState) (h : Heap) : StoreMachine :=
  let h := e.msg.client.elim h fun _ => h.delete e.data
  { m with mState := state, store := h.store, mSubscribers := h.mSubscribers }

/-- The machine on values: the list has the objects that its addresses lead to. -/
def view (m : StoreMachine) : AgpsStateMachine :=
  { AgpsStateMachine.new m.mType false with
    mState := m.mState
    mSubscribers := m.mSubscribers.filterMap m.store
    mAPN := m.mAPN
    mBearer := m.mBearer }

end StoreMachine

/-- The effect of a call by a machine with the fields of `m`. -/
def StoreCall.effect (m : AgpsStateMachine) : StoreCall → Effect
  | .told _ subscriber status => .told subscriber status (Act.statusCall m subscriber status)
  | .requested action none => .requested ⟨m.mType, action, some (INADDR_NONE, [0]), [0], [0]⟩
  | .requested action (some s) =>
      .requested ⟨m.mType, action, s.setIPAddresses, s.setWifiInfo.1, s.setWifiInfo.2⟩

def StoreMachine.proc (m : StoreMachine) (e : StoreMsg) : StoreMachine × List Effect :=
  let m := m.accept e.msg
  let next := (m.heap e).onEvent e.stale m.mState e.event
  (m.leave e next.1 next.2, next.2.log.map (StoreCall.effect m.view))

/-- The caller's object lies where no other does, and an allocation takes unused memory. -/
structure StoreMsg.Placed (m : StoreMachine) (e : StoreMsg) : Prop where
  data : m.store e.data = none
  fresh : m.store e.fresh = none
  apart : e.data ≠ e.fresh

instance (m : StoreMachine) (e : StoreMsg) : Decidable (e.Placed m) :=
  decidable_of_iff (m.store e.data = none ∧ m.store e.fresh = none ∧ e.data ≠ e.fresh)
    ⟨fun ⟨data, fresh, apart⟩ => ⟨data, fresh, apart⟩, fun h => ⟨h.data, h.fresh, h.apart⟩⟩

/-- No unsubscribe finds an entry that another one outlives. -/
def StoreMsg.KeyKept (m : StoreMachine) (e : StoreMsg) : Prop :=
  ¬ (m.heap e).KeyOutlived m.mState e.event

instance (m : StoreMachine) (e : StoreMsg) : Decidable (e.KeyKept m) :=
  inferInstanceAs (Decidable (¬ _))

/-- What clients see of a step. -/
def viewed (t : Transition StoreMachine StoreMsg Effect) : AgpsTransition :=
  ⟨t.before.view, t.event.msg, t.outputs, t.after.view⟩

end VibeXperia.Agps

import VibeXperia.Lib.Run
import VibeXperia.Gps.ListState

namespace VibeXperia.Gps

/-! ## `msg_q.c` -/

inductive MsqQErrType
  | success
  | failureGeneral
  | invalidParameter
  | invalidHandle
  | unavailableResource
  | insufficientBuffer
  deriving DecidableEq, Repr

def convertLinkedListErrType : LinkedListErrType → MsqQErrType
  | .success => .success
  | .invalidParameter => .invalidParameter
  | .invalidHandle => .invalidHandle
  | .unavailableResource => .unavailableResource
  | .insufficientBuffer => .insufficientBuffer
  | .failureGeneral => .failureGeneral

/-- What `list_mutex` guards. -/
structure MsgQ (α δ : Type) where
  msgList : ListState α δ
  unblocked : Bool

namespace MsgQ
variable {α δ : Type}

def msgQInit : MsgQ α δ := ⟨.linkedListInit, false⟩

/-- The second result says whether `list_cond` is signalled. -/
def msgQSnd (q : MsgQ α δ) (msgObj : Option α) (dealloc : Option δ) (malloc : Option Address) :
    Option (MsqQErrType × Bool × MsgQ α δ) :=
  if msgObj.isNone then some (.invalidParameter, false, q)
  else if q.unblocked then some (.unavailableResource, false, q)
  else do
    let (rv, msgList) ← q.msgList.linkedListAdd msgObj dealloc malloc
    some (convertLinkedListErrType rv, true, { q with msgList })

/-- From the loop of `msg_q_rcv` on: the first result is missing where the caller waits. -/
def waitForData (q : MsgQ α δ) : Option (Option (MsqQErrType × Option α) × MsgQ α δ) :=
  if q.msgList.linkedListEmpty && !q.unblocked then some (none, q)
  else do
    let (rv, msg, msgList) ← q.msgList.linkedListRemove
    some (some (convertLinkedListErrType rv, msg), { q with msgList })

/-- `msgObj` says whether there is a place to copy the message to. -/
def msgQRcv (q : MsgQ α δ) (msgObj : Bool) :
    Option (Option (MsqQErrType × Option α) × MsgQ α δ) :=
  if !msgObj then some (some (.invalidParameter, none), q)
  else if q.unblocked then some (some (.unavailableResource, none), q)
  else q.waitForData

def msgQFlush (q : MsgQ α δ) : Option (MsqQErrType × List (δ × α) × MsgQ α δ) := do
  let (rv, calls, msgList) ← q.msgList.linkedListFlush
  some (convertLinkedListErrType rv, calls, { q with msgList })

/-- The second result says whether `list_cond` is broadcast. -/
def msgQUnblock (q : MsgQ α δ) : MsqQErrType × Bool × MsgQ α δ :=
  if q.unblocked then (.unavailableResource, false, q)
  else (.success, true, { q with unblocked := true })

end MsgQ

/-! ## Its threads -/

/-- Where a thread stands: at `list_cond`, released from it, or outside of `msg_q_rcv`. -/
inductive Waiting
  | no
  | atCond
  | released
  deriving DecidableEq, Repr

structure MsgQSystem (τ α δ : Type) where
  q : MsgQ α δ
  waiting : τ → Waiting

/-- A signal releases at least one of the threads that wait. -/
structure Signal {τ : Type} (before after : τ → Waiting) : Prop where
  only : ∀ t, after t = before t ∨ before t = .atCond ∧ after t = .released
  one : (∃ t, before t = .atCond) → ∃ t, before t = .atCond ∧ after t = .released

def broadcast {τ : Type} (before : τ → Waiting) (t : τ) : Waiting :=
  if before t = .atCond then .released else before t

inductive MsgQEvent (τ α δ : Type)
  | snd (thread : τ) (msgObj : Option α) (dealloc : Option δ) (rv : MsqQErrType)
  | rcv (thread : τ) (rv : MsqQErrType) (msg : Option α)
  | wait (thread : τ)
  | flush (thread : τ) (rv : MsqQErrType) (calls : List (δ × α))
  | unblock (thread : τ) (rv : MsqQErrType)

section Step
variable {τ α δ : Type} [DecidableEq τ]

/-- One locked block of one thread. `malloc` returns no element that is allocated. -/
inductive MsgQStep : MsgQSystem τ α δ → MsgQEvent τ α δ → MsgQSystem τ α δ → Prop
  | snd {s thread msgObj dealloc malloc rv q} (outside : s.waiting thread = .no)
      (fresh : ∀ elem ∈ malloc, elem ∉ s.q.msgList.elements)
      (body : s.q.msgQSnd msgObj dealloc malloc = some (rv, false, q)) :
      MsgQStep s (.snd thread msgObj dealloc rv) ⟨q, s.waiting⟩
  | sndSignal {s thread msgObj dealloc malloc rv q waiting} (outside : s.waiting thread = .no)
      (fresh : ∀ elem ∈ malloc, elem ∉ s.q.msgList.elements)
      (body : s.q.msgQSnd msgObj dealloc malloc = some (rv, true, q))
      (signal : Signal s.waiting waiting) :
      MsgQStep s (.snd thread msgObj dealloc rv) ⟨q, waiting⟩
  | rcv {s thread msgObj rv msg q} (outside : s.waiting thread = .no)
      (body : s.q.msgQRcv msgObj = some (some (rv, msg), q)) :
      MsgQStep s (.rcv thread rv msg) ⟨q, s.waiting⟩
  | rcvWait {s thread msgObj q} (outside : s.waiting thread = .no)
      (body : s.q.msgQRcv msgObj = some (none, q)) :
      MsgQStep s (.wait thread) ⟨q, Function.update s.waiting thread .atCond⟩
  | wake {s thread rv msg q} (released : s.waiting thread = .released)
      (body : s.q.waitForData = some (some (rv, msg), q)) :
      MsgQStep s (.rcv thread rv msg) ⟨q, Function.update s.waiting thread .no⟩
  | wakeWait {s thread q} (released : s.waiting thread = .released)
      (body : s.q.waitForData = some (none, q)) :
      MsgQStep s (.wait thread) ⟨q, Function.update s.waiting thread .atCond⟩
  | flush {s thread rv calls q} (outside : s.waiting thread = .no)
      (body : s.q.msgQFlush = some (rv, calls, q)) :
      MsgQStep s (.flush thread rv calls) ⟨q, s.waiting⟩
  | unblock {s thread rv signalled q} (outside : s.waiting thread = .no)
      (body : s.q.msgQUnblock = (rv, signalled, q)) :
      MsgQStep s (.unblock thread rv) ⟨q, if signalled then broadcast s.waiting else s.waiting⟩

def MsgQSystem.start : MsgQSystem τ α δ := ⟨.msgQInit, fun _ => .no⟩

end Step

section Logs
variable {τ α δ : Type}

/-- The messages whose send succeeded, with their dealloc functions. -/
def accepted (es : List (MsgQEvent τ α δ)) : List (α × Option δ) :=
  es.filterMap fun
    | .snd _ (some msg) dealloc .success => some (msg, dealloc)
    | _ => none

/-- What the receives that succeeded have copied out. -/
def handed (es : List (MsgQEvent τ α δ)) : List (Option α) :=
  es.filterMap fun
    | .rcv _ .success msg => some msg
    | _ => none

def deallocated (es : List (MsgQEvent τ α δ)) : List (δ × α) :=
  es.flatMap fun
    | .flush _ _ calls => calls
    | _ => []

end Logs

end VibeXperia.Gps

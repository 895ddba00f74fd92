import VibeXperia.Lib.Run

namespace VibeXperia.Gps
open Lib

/-! ## `loc_timer.c` -/

inductive TimerState
  | ready | waiting | done | abort
  deriving DecidableEq, Repr

def etimedout : Int := 110

/-- Where `timer_thread` is. `pthread_cond_timedwait` gives the mutex away and, when the wait is
over, has to get it again before it can return. -/
inductive TimerThread
  | entered
  | timedWait
  | waited (ret : Int)
  | unlocked (ret : Int)
  | called
  | freed
  deriving DecidableEq, Repr

/-- Where a call of `loc_timer_stop` is, with the state that its locked block has overwritten. -/
inductive StopCall
  | locking
  | unlocked (aborted : Option TimerState)
  | returned (aborted : Option TimerState)
  deriving DecidableEq, Repr

structure LocTimer where
  state : TimerState
  thread : TimerThread
  /-- `loc_timer_start` has returned the handle. -/
  started : Bool
  /-- The calls of `loc_timer_stop`, each with a number of its own. -/
  stops : Nat → Option StopCall

/-- The callback is run, or a call of `loc_timer_stop` returns. -/
inductive TimerEffect
  | callbackFunc (result : Int)
  | stopped (aborted : Option TimerState)
  deriving DecidableEq, Repr

/-- Steps of the caller of `loc_timer_start`, of the thread and of the callers of
`loc_timer_stop`. The wait is over by a time-out or, for no reason, by itself; a signal that ends it
is part of `stopLocks`. -/
inductive TimerStep
  | startReturns
  | locks
  | timesOut
  | wakesUp
  | locksAgain
  | calls
  | frees
  | stopChecks (caller : Nat)
  | stopLocks (caller : Nat)
  | stopReturns (caller : Nat)
  deriving DecidableEq, Repr

namespace LocTimer

/-- `READY == t->state || WAITING == t->state` -/
def pending (s : LocTimer) : Bool := s.state = .ready || s.state = .waiting

def setStop (s : LocTimer) (caller : Nat) (call : StopCall) : LocTimer :=
  { s with stops := Function.update s.stops caller (some call) }

/-- `pthread_cond_signal` -/
def signal : TimerThread → TimerThread
  | .timedWait => .waited 0
  | thread => thread

/-- The thread's steps, each from the place it is for. -/
def threadStep (s : LocTimer) : TimerStep → LocTimer × List TimerEffect
  | .locks =>
      match s.thread with
      | .entered =>
          if s.state = .ready then ({ s with state := .waiting, thread := .timedWait }, [])
          else ({ s with thread := .unlocked (-etimedout) }, [])
      | _ => (s, [])
  | .timesOut =>
      match s.thread with
      | .timedWait => ({ s with thread := .waited etimedout }, [])
      | _ => (s, [])
  | .wakesUp =>
      match s.thread with
      | .timedWait => ({ s with thread := .waited 0 }, [])
      | _ => (s, [])
  | .locksAgain =>
      match s.thread with
      | .waited ret => ({ s with state := .done, thread := .unlocked ret }, [])
      | _ => (s, [])
  | .calls =>
      match s.thread with
      | .unlocked ret =>
          ({ s with thread := .called }, if ret = etimedout then [.callbackFunc ret] else [])
      | _ => (s, [])
  | .frees =>
      match s.thread with
      | .called => ({ s with thread := .freed }, [])
      | _ => (s, [])
  | _ => (s, [])

/-- The locked block of `loc_timer_stop`. -/
def stopBlock (s : LocTimer) (caller : Nat) : LocTimer :=
  if s.pending then
    { s with state := .abort, thread := signal s.thread }.setStop caller (.unlocked (some s.state))
  else s.setStop caller (.unlocked none)

def step (s : LocTimer) : TimerStep → LocTimer × List TimerEffect
  | .startReturns => ({ s with started := true }, [])
  | .stopChecks caller =>
      if s.started && (s.stops caller).isNone then
        (s.setStop caller (if s.pending then .locking else .unlocked none), [])
      else (s, [])
  | .stopLocks caller =>
      match s.stops caller with
      | some .locking => (s.stopBlock caller, [])
      | _ => (s, [])
  | .stopReturns caller =>
      match s.stops caller with
      | some (.unlocked aborted) => (s.setStop caller (.returned aborted), [.stopped aborted])
      | _ => (s, [])
  | e => s.threadStep e

/-- The thread is created; `loc_timer_start` has not yet returned. -/
def created : LocTimer := ⟨.ready, .entered, false, fun _ => none⟩

/-- `loc_timer_start`, where memory and threads are not short. -/
def start (msec : Nat) (cbFunc : Bool) : Option LocTimer :=
  if !cbFunc || msec = 0 then none else some created

end LocTimer

/-! ## What is expected of a timer -/

/-- No callback runs after a call of `loc_timer_stop` that aborted the wait has returned. -/
def SilentOnceStopped (effects : List TimerEffect) : Prop :=
  Throughout (fun before effect => ∀ result, effect = .callbackFunc result →
    .stopped (some .waiting) ∉ before) effects

def callbacks (effects : List TimerEffect) : Nat :=
  effects.countP fun effect => effect matches .callbackFunc _

/-- `loc_timer_stop` was never called. -/
def NeverStopped (steps : List TimerStep) : Prop := ∀ caller, .stopChecks caller ∉ steps

/-- The wait does not end by itself in a timer that nobody stops, and nobody aborts a wait that
has timed out while the thread has yet to get the mutex. -/
def Timely (s : LocTimer) : TimerStep → Prop
  | .wakesUp => s.thread = .timedWait → ∃ caller, s.stops caller ≠ none
  | .stopLocks caller =>
      s.stops caller = some .locking → s.state = .waiting → s.thread ≠ .waited etimedout
  | _ => True

def TimelyRun (s : LocTimer) (steps : List TimerStep) : Prop :=
  ∀ t ∈ trace LocTimer.step s steps, Timely t.before t.event

/-- The callback has run once when the thread is through with it and not before, and the thread
can get there. -/
structure CallsOnce (effects : List TimerEffect) (s : LocTimer) : Prop where
  once : callbacks effects = if s.thread = .called ∨ s.thread = .freed then 1 else 0
  ends : ∃ steps, NeverStopped steps ∧ TimelyRun s steps ∧
    (final LocTimer.step s steps).thread = .freed

end VibeXperia.Gps

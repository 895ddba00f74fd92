import VibeXperia.Lib.Run

namespace VibeXperia.Gps
open Lib

/-! ## `loc_eng_dmn_conn_thread_helper.c` -/

inductive Callback
  | init | pre | proc | post
  deriving DecidableEq, Repr

/-- Which of the callbacks are not null. -/
structure Callbacks where
  threadProcInit : Bool
  threadProcPre : Bool
  threadProc : Bool
  threadProcPost : Bool

/-- Where `thelper_main` is. -/
inductive Worker
  | absent
  | created
  | init
  /-- `thread_proc_init` has failed and `thelper_signal_ready` comes next. -/
  | failing
  | ready
  | started
  | pre
  | loop
  | proc
  /-- `thread_exit` is read next. -/
  | test
  | leaves
  | post
  | finished
  deriving DecidableEq, Repr

/-- Where `loc_eng_dmn_conn_launch_thelper` is. -/
inductive Launcher
  | idle
  /-- In front of `thelper_signal_wait`. -/
  | created
  | waiting
  /-- Back from `pthread_cond_wait`, in front of the mutex. -/
  | woken
  | leaves
  | returned
  deriving DecidableEq, Repr

structure Thelper where
  threadExit : Bool
  threadReady : Bool
  worker : Worker
  launcher : Launcher
  deriving DecidableEq, Repr

inductive ThelperStep
  | launch (creates : Bool)
  /-- `thelper_signal_wait` has the mutex. -/
  | locks
  /-- `pthread_cond_wait` returns although nothing was signalled. -/
  | wakes
  | returns
  /-- The next step of `thelper_main` outside of the callbacks. -/
  | runs
  | callbackReturns (result : Int)
  | unblock
  deriving DecidableEq, Repr

inductive ThelperEffect
  | calls (callback : Callback)
  | callbackReturned (callback : Callback) (result : Int)
  | launchReturns (result : Int)
  deriving DecidableEq, Repr

def Thelper.initial : Thelper := ⟨false, false, .absent, .idle⟩

namespace Thelper
variable (c : Callbacks) (s : Thelper)

/-- `thelper_signal_ready` -/
def signalReady : Thelper :=
  { s with
    threadReady := true
    launcher := if s.launcher = .waiting then .woken else s.launcher }

def runs : Thelper × List ThelperEffect :=
  match s.worker with
  | .created =>
      if c.threadProcInit then ({ s with worker := .init }, [.calls .init])
      else ({ s with worker := .ready }, [])
  | .failing => ({ s.signalReady with worker := .finished }, [])
  | .ready => ({ s.signalReady with worker := .started }, [])
  | .started =>
      if c.threadProcPre then ({ s with worker := .pre }, [.calls .pre])
      else ({ s with worker := .loop }, [])
  | .loop =>
      if c.threadProc then ({ s with worker := .proc }, [.calls .proc])
      else ({ s with worker := .test }, [])
  | .test => ({ s with worker := if s.threadExit then .leaves else .loop }, [])
  | .leaves =>
      if c.threadProcPost then ({ s with worker := .post }, [.calls .post])
      else ({ s with worker := .finished }, [])
  | _ => (s, [])

/-- What a negative result does is done with the return. -/
def callbackReturns (result : Int) : Thelper × List ThelperEffect :=
  let exits := s.threadExit || result < 0
  match s.worker with
  | .init =>
      ({ s with threadExit := exits, worker := if result < 0 then .failing else .ready },
        [.callbackReturned .init result])
  | .pre =>
      ({ s with threadExit := exits, worker := if result < 0 then .finished else .loop },
        [.callbackReturned .pre result])
  | .proc => ({ s with threadExit := exits, worker := .test }, [.callbackReturned .proc result])
  | .post => ({ s with worker := .finished }, [.callbackReturned .post result])
  | _ => (s, [])

/-- A step that cannot be taken changes nothing. -/
def step : ThelperStep → Thelper × List ThelperEffect
  | .launch creates =>
      if s.launcher = .idle then
        if creates then (⟨false, false, .created, .created⟩, [])
        else (⟨false, false, .absent, .returned⟩, [.launchReturns (-1)])
      else (s, [])
  | .locks =>
      match s.launcher with
      | .created =>
          ({ s with launcher := if s.threadReady || s.threadExit then .leaves else .waiting }, [])
      | .woken => ({ s with launcher := .leaves }, [])
      | _ => (s, [])
  | .wakes => ({ s with launcher := if s.launcher = .waiting then .woken else s.launcher }, [])
  | .returns =>
      if s.launcher = .leaves then
        ({ s with launcher := .returned }, [.launchReturns (if s.threadExit then 1 else 0)])
      else (s, [])
  | .runs => s.runs c
  | .callbackReturns result => s.callbackReturns result
  | .unblock => ({ s with threadExit := true }, [])

end Thelper

/-! What the callers rely on -/

def Callbacks.has (c : Callbacks) : Callback → Bool
  | .init => c.threadProcInit
  | .pre => c.threadProcPre
  | .proc => c.threadProc
  | .post => c.threadProcPost

def Callback.rank : Callback → Nat
  | .init => 0
  | .pre => 1
  | .proc => 2
  | .post => 3

/-- A callback that has returned, and one that is called later. -/
def Callback.mayFollow (later earlier : Callback) (result : Int) : Prop :=
  (earlier.rank < later.rank ∨ earlier = .proc ∧ later = .proc) ∧
    (result < 0 → earlier = .proc ∧ later = .post)

def ThelperEffect.isCall : ThelperEffect → Bool
  | .calls _ => true
  | _ => false

def ThelperEffect.isReturn : ThelperEffect → Bool
  | .callbackReturned _ _ => true
  | _ => false

/-! ## `loc_eng_dmn_conn.cpp`: the thread that serves the pipe -/

inductive ControlType
  | ifRequest | ifRelease | unblock | unsupported
  deriving DecidableEq, Repr

/-- Where `loc_eng_dmn_conn_loc_api_server_unblock` is. -/
inductive Unblocker
  | idle
  | exitSet
  | sent
  deriving DecidableEq, Repr

/-- The messages in the pipe are whole and read one by one. -/
structure Server where
  thelper : Thelper
  pipe : List ControlType
  unblocker : Unblocker
  deriving DecidableEq, Repr

inductive ServerStep
  /-- Of `launch` and of the callbacks other than `loc_api_server_proc`. -/
  | thelper (e : ThelperStep)
  | arrives (type : ControlType)
  | outOfMemory
  | receiveFails
  | receives
  | unblockThelper
  | unblockProc (fails : Bool)
  deriving DecidableEq, Repr

def Callbacks.server : Callbacks := ⟨true, true, true, true⟩

namespace Server
variable (s : Server)

def initial : Server := ⟨.initial, [], .idle⟩

def thelperStep (e : ThelperStep) : Server × List ThelperEffect :=
  ({ s with thelper := (s.thelper.step .server e).1 }, (s.thelper.step .server e).2)

/-- `loc_api_server_proc` returns. -/
def procReturns (result : Int) : Server × List ThelperEffect :=
  if s.thelper.worker = .proc then s.thelperStep (.callbackReturns result) else (s, [])

/-- A read from an empty pipe waits. -/
def step : ServerStep → Server × List ThelperEffect
  | .thelper e =>
      match e with
      | .callbackReturns _ => if s.thelper.worker = .proc then (s, []) else s.thelperStep e
      | .unblock => (s, [])
      | _ => s.thelperStep e
  | .arrives type => ({ s with pipe := s.pipe ++ [type] }, [])
  | .outOfMemory => s.procReturns (-1)
  | .receiveFails => s.procReturns 0
  | .receives =>
      match s.thelper.worker, s.pipe with
      | .proc, _ :: pipe => { s with pipe := pipe }.procReturns 0
      | _, _ => (s, [])
  | .unblockThelper => { s with unblocker := .exitSet }.thelperStep .unblock
  | .unblockProc fails =>
      if s.unblocker = .exitSet then
        -- Before `loc_api_server_proc_init` the message does not go to the pipe.
        if fails || s.thelper.worker = .absent || s.thelper.worker = .created then
          ({ s with unblocker := .idle }, [])
        else ({ s with pipe := s.pipe ++ [.unblock], unblocker := .sent }, [])
      else (s, [])

end Server

/-- How far `thelper_main` has come once `thread_exit` is set. -/
def Worker.progress : Worker → Nat
  | .absent => 0
  | .created => 1
  | .init => 2
  | .ready => 3
  | .started => 4
  | .pre => 5
  | .loop => 6
  | .proc => 7
  | .test => 8
  | .leaves => 9
  | .post => 10
  | .failing => 11
  | .finished => 12

end VibeXperia.Gps

import VibeXperia.Sensord.Agreement
import VibeXperia.Lib.Run

namespace VibeXperia.Sensord
open Lib

/-! ## The signals that commands send -/

section Signals
variable (b : Build) (calls : HwCalls)

/-- `op_blk` is 0 for all providers. -/
def spEnableChSignals (sp : ProviderName) (ch : Sensor) (enable : Bool) (s : Daemon) :
    List ProviderName :=
  let s := spEnableCh b calls sp ch enable s
  if (s.channel ch).cfg.bypassProc then []
  else if enable && (s.sp sp).ref == 1 then [sp] else []

def channelSetStateSignals (ch : Sensor) (state : ChannelState) (s : Daemon) :
    List ProviderName :=
  match (s.channel ch).sp with
  | none => []
  | some sp =>
      match state with
      | .sleep =>
          if (s.channel ch).state ≠ .sleep then spEnableChSignals b calls sp ch false s else []
      | .normal | .bg =>
          if (s.channel ch).state = .sleep then spEnableChSignals b calls sp ch true s else []

def channelOnCmdReceivedSignals (calls : Sensor → HwCalls) (handle cmd value : Int)
    (s : Daemon) : List ProviderName :=
  match channelGetCh b handle with
  | none => []
  | some ch =>
      if (s.channel ch).cfg.availability = .unavailable then []
      else if cmd = setSensorActive then
        channelSetStateSignals b (calls ch) ch (if value ≠ 0 then .normal else .sleep) s
      else []

end Signals

/-! ## The threads of the providers -/

/-- Where a thread is when `lock_ref` is free: at the lock, or in `pthread_cond_wait`, and then
without a signal or with one. -/
inductive ReState
  | running
  | waiting
  | signaled
  deriving DecidableEq, Repr

def ReState.signal : ReState → ReState
  | .running => .running
  | .waiting | .signaled => .signaled

/-- The daemon with the threads that run `re_proc`. -/
structure Threads where
  daemon : Daemon
  re : ProviderName → ReState

/-- What is done while `lock_ref` of one provider is held. -/
inductive LockedBlock
  | command (handle cmd value : Int) (calls : Sensor → HwCalls)
  /-- The thread takes the lock and tests `sp->ref`. -/
  | locks (sp : ProviderName)
  /-- `pthread_cond_wait` returns, also where no signal was sent. -/
  | wakes (sp : ProviderName) (err : Int)

/-- The channels of a provider whose data the thread reports when their time has come. -/
def Daemon.reported (s : Daemon) (sp : ProviderName) : List Sensor :=
  (s.sp sp).clients.filter fun ch =>
    (s.channel ch).state == .normal && !(s.channel ch).cfg.bypassProc

/-- One time around the loop of `re_proc`. -/
structure Turn where
  sp : ProviderName
  reported : List Sensor
  deriving DecidableEq, Repr

namespace Threads
variable (b : Build)

def setRe (t : Threads) (sp : ProviderName) (re : ReState) : Threads :=
  { t with re := Function.update t.re sp re }

def signal (t : Threads) (sp : ProviderName) : Threads := t.setRe sp (t.re sp).signal

/-- From the test of `sp->ref` on, which is not repeated after the wait. -/
def proc (t : Threads) (sp : ProviderName) : Threads × List Turn :=
  (t.setRe sp .running, [⟨sp, t.daemon.reported sp⟩])

def step (t : Threads) : LockedBlock → Threads × List Turn
  | .command handle cmd value calls =>
      let handled := { t with daemon :=
        (channelOnCmdReceived b calls handle cmd value t.daemon).2 }
      ((channelOnCmdReceivedSignals b calls handle cmd value t.daemon).foldl signal handled, [])
  | .locks sp =>
      if t.re sp = .running then
        if (t.daemon.sp sp).ref = 0 then (t.setRe sp .waiting, []) else t.proc sp
      else (t, [])
  | .wakes sp err =>
      if t.re sp = .running then (t, [])
      else if err ≠ 0 then (t.setRe sp .running, []) else t.proc sp

/-- The threads when the providers are initialised. -/
def start (errs : InitErrs) : Threads := ⟨Sensord.start b errs, fun _ => .running⟩

/-- What the thread of a provider does next on its own. -/
def next (t : Threads) (sp : ProviderName) : LockedBlock :=
  if t.re sp = .running then .locks sp else .wakes sp 0

end Threads

/-- The thread does not wait in vain, and every channel that is switched on is reported. -/
structure Reports (b : Build) (t : Threads) (sp : ProviderName) : Prop where
  woken : 0 < (t.daemon.sp sp).ref → t.re sp ≠ .waiting
  reported : ∀ ch, t.daemon.awake ch = true → t.daemon.processed ch = true →
    t.daemon.clientOf sp ch = true →
      ∃ channels, (t.step b (t.next sp)).2 = [⟨sp, channels⟩] ∧ ch ∈ channels

end VibeXperia.Sensord

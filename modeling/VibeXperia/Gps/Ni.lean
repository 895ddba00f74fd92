import VibeXperia.Lib.Counting
import VibeXperia.Lib.Run

namespace VibeXperia.Gps
open Lib

/-! ## `loc_eng_ni.cpp` -/

def LOC_NI_NO_RESPONSE_TIME : Int := 20

/-- The values of `GpsUserResponseType` are `ρ`. A raw request is the number of the request whose
data it points to. -/
structure LocEngNiData (ρ : Type) where
  respTimeLeft : Int
  respRecvd : Bool
  rawRequest : Option Nat
  reqID : Int
  resp : ρ

/-- What is next in the thread that calls `loc_eng_ni_request_handler` and
`loc_eng_ni_reset_on_engine_restart`. -/
inductive NiHandler
  | idle
  | save (passThrough : Option Nat) (request : Nat) (timeout : Int)
  | identify (request : Nat) (timeout : Int)
  | setTime (request : Nat) (id timeout : Int)
  | create (request : Nat) (id : Int)
  | notify (request : Nat) (id : Int)
  | free
  | clear
  | wake
  deriving DecidableEq, Repr

/-- What is next in the `ni_thread_proc` that was created for a request. -/
inductive NiThread (ρ : Type)
  | absent
  | start
  | waiting (expireTime : Int)
  | woken (expireTime : Int)
  | timedOut
  | clearTime (msg : Option (ρ × Nat))
  | countUp (msg : Option (ρ × Nat))
  | send (msg : Option (ρ × Nat))
  | done
  deriving DecidableEq, Repr

namespace NiThread
variable {ρ : Type}

def isWaiting : NiThread ρ → Bool
  | .waiting _ => true
  | _ => false

def wakeUp : NiThread ρ → NiThread ρ
  | .waiting expireTime => .woken expireTime
  | t => t

def isOpen : NiThread ρ → Bool
  | .absent | .start | .waiting _ | .woken _ | .timedOut => true
  | _ => false

def isCounted : NiThread ρ → Bool
  | .send _ | .done => true
  | _ => false

end NiThread

/-- What a step shows, by the number of the request. The time is in microseconds. -/
inductive NiOutput (ρ : Type)
  | accepted (request : Nat) (hasData : Bool) (timeout : Int)
  | identified (request : Nat) (id : Int)
  | notified (request : Nat) (id : Int)
  | started (request : Nat) (time : Int)
  | timedOut (request : Nat) (time : Int)
  | given (notifId : Int) (userResponse : ρ)
  | answered (rawRequest : Option Nat) (notifId : Int) (userResponse : ρ)
  | sent (request : Nat) (resp : ρ)
  deriving DecidableEq, Repr

/-- The threads `υ` call `loc_eng_ni_respond`; one of them has an entry in `users` where it has
made its check. -/
structure NiSystem (υ ρ : Type) where
  data : LocEngNiData ρ
  now : Int
  handler : NiHandler
  requests : Nat
  threads : Nat → NiThread ρ
  users : υ → Option (Int × ρ)

inductive NiEvent (υ ρ : Type)
  | tick (time : Nat)
  | request (hasData : Bool) (timeout : Int)
  | restart
  | handler (created : Bool) (first : Nat)
  | thread (request : Nat)
  | expire (request : Nat)
  | spurious (request : Nat)
  | respond (user : υ) (notifId : Int) (userResponse : ρ)
  | answer (user : υ) (first : Nat)
  deriving DecidableEq, Repr

def respTime (timeout : Int) : Int :=
  signed 32 (5 + if timeout ≠ 0 then timeout else LOC_NI_NO_RESPONSE_TIME)

namespace LocEngNiData
variable {ρ : Type} (d : LocEngNiData ρ)

/-- The end of the locked block of `ni_thread_proc`. -/
def take : LocEngNiData ρ × NiThread ρ :=
  ({ d with respRecvd := false, rawRequest := none },
    .clearTime (d.rawRequest.map fun request => (d.resp, request)))

/-- The loop of `ni_thread_proc`, up to the next wait. -/
def waitForResponse (expireTime : Int) : LocEngNiData ρ × NiThread ρ :=
  if d.respRecvd then d.take else (d, .waiting expireTime)

end LocEngNiData

namespace NiSystem
variable {υ ρ : Type} [DecidableEq υ]

def start (resp : ρ) : NiSystem υ ρ :=
  { data := { respTimeLeft := 0, respRecvd := false, rawRequest := none, reqID := 0, resp }
    now := 0
    handler := .idle
    requests := 0
    threads := fun _ => .absent
    users := fun _ => none }

/-- `pthread_cond_signal` wakes `first` if it waits, and else another one that waits. -/
def signal (s : NiSystem υ ρ) (first i : Nat) : NiThread ρ :=
  if (first :: List.range s.requests).find? (fun n => (s.threads n).isWaiting) = some i then
    (s.threads i).wakeUp
  else s.threads i

def locEngNiRequestHandler (s : NiSystem υ ρ) (hasData : Bool) (timeout : Int) :
    NiSystem υ ρ × List (NiOutput ρ) :=
  if s.data.rawRequest.isSome then (s, [])
  else
    ({ s with
        handler := .save (if hasData then some s.requests else none) s.requests timeout
        requests := s.requests + 1 },
      [.accepted s.requests hasData timeout])

def locEngNiResetOnEngineRestart (s : NiSystem υ ρ) : NiSystem υ ρ :=
  if s.data.rawRequest.isSome then { s with handler := .free } else s

/-- The next statement of the handler. `created` says whether `pthread_create` succeeds. -/
def handle (s : NiSystem υ ρ) (created : Bool) (first : Nat) : NiSystem υ ρ × List (NiOutput ρ) :=
  match s.handler with
  | .idle => (s, [])
  | .save passThrough request timeout =>
      ({ s with
          data := { s.data with rawRequest := passThrough }
          handler := .identify request timeout }, [])
  | .identify request timeout =>
      ({ s with handler := .setTime request s.data.reqID timeout },
        [.identified request s.data.reqID])
  | .setTime request id timeout =>
      ({ s with
          data := { s.data with respTimeLeft := respTime timeout }
          handler := .create request id }, [])
  | .create request id =>
      ({ s with
          handler := .notify request id
          threads := if created then Function.update s.threads request .start else s.threads }, [])
  | .notify request id => ({ s with handler := .idle }, [.notified request id])
  -- the data of the request are freed
  | .free => ({ s with handler := .clear }, [])
  | .clear => ({ s with data := { s.data with rawRequest := none }, handler := .wake }, [])
  | .wake =>
      ({ s with
          data := { s.data with respRecvd := true }
          handler := .idle
          threads := s.signal first }, [])

def niThreadProc (noResp : ρ) (s : NiSystem υ ρ) (request : Nat) :
    NiSystem υ ρ × List (NiOutput ρ) :=
  match s.threads request with
  | .start =>
      let (data, t) := s.data.waitForResponse (s.now + 1000000 * s.data.respTimeLeft)
      ({ s with data, threads := Function.update s.threads request t }, [.started request s.now])
  | .woken expireTime =>
      let (data, t) := s.data.waitForResponse expireTime
      ({ s with data, threads := Function.update s.threads request t }, [])
  | .timedOut =>
      let (data, t) := LocEngNiData.take { s.data with resp := noResp }
      ({ s with data, threads := Function.update s.threads request t }, [])
  | .clearTime msg =>
      ({ s with
          data := { s.data with respTimeLeft := 0 }
          threads := Function.update s.threads request (.countUp msg) }, [])
  | .countUp msg =>
      ({ s with
          data := { s.data with reqID := signed 32 (s.data.reqID + 1) }
          threads := Function.update s.threads request (.send msg) }, [])
  | .send msg =>
      ({ s with threads := Function.update s.threads request .done },
        (msg.map fun p => .sent p.2 p.1).toList)
  | _ => (s, [])

/-- `pthread_cond_timedwait` ends by itself, where its time is over or without a reason. -/
def expire (s : NiSystem υ ρ) (request : Nat) : NiSystem υ ρ × List (NiOutput ρ) :=
  match s.threads request with
  | .waiting expireTime =>
      if expireTime ≤ s.now then
        ({ s with threads := Function.update s.threads request .timedOut },
          [.timedOut request s.now])
      else (s, [])
  | _ => (s, [])

def wakeSpuriously (s : NiSystem υ ρ) (request : Nat) : NiSystem υ ρ :=
  { s with threads := Function.update s.threads request (s.threads request).wakeUp }

/-- The check of `loc_eng_ni_respond`. -/
def locEngNiRespond (s : NiSystem υ ρ) (user : υ) (notifId : Int) (userResponse : ρ) :
    NiSystem υ ρ × List (NiOutput ρ) :=
  match s.users user with
  | some _ => (s, [])
  | none =>
      if notifId = s.data.reqID ∧ s.data.rawRequest.isSome then
        ({ s with users := Function.update s.users user (some (notifId, userResponse)) },
          [.given notifId userResponse])
      else (s, [.given notifId userResponse])

/-- Its locked block. -/
def answer (s : NiSystem υ ρ) (user : υ) (first : Nat) : NiSystem υ ρ × List (NiOutput ρ) :=
  match s.users user with
  | none => (s, [])
  | some (notifId, userResponse) =>
      ({ s with
          data := { s.data with resp := userResponse, respRecvd := true }
          threads := s.signal first
          users := Function.update s.users user none },
        [.answered s.data.rawRequest notifId userResponse])

end NiSystem

/-- A thread goes on, or time goes by. Where what is next in the thread is something else, nothing
happens. -/
def niStep {υ ρ : Type} [DecidableEq υ] (noResp : ρ) (s : NiSystem υ ρ) :
    NiEvent υ ρ → NiSystem υ ρ × List (NiOutput ρ)
  | .tick time => ({ s with now := s.now + time }, [])
  | .request hasData timeout =>
      if s.handler = .idle then s.locEngNiRequestHandler hasData timeout else (s, [])
  | .restart => (if s.handler = .idle then s.locEngNiResetOnEngineRestart else s, [])
  | .handler created first => s.handle created first
  | .thread request => s.niThreadProc noResp request
  | .expire request => s.expire request
  | .spurious request => (s.wakeSpuriously request, [])
  | .respond user notifId userResponse => s.locEngNiRespond user notifId userResponse
  | .answer user first => s.answer user first

end VibeXperia.Gps

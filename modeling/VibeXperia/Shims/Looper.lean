import VibeXperia.Lib.Mailbox
import VibeXperia.Lib.Pending

namespace VibeXperia.Shims
open Lib

/-! ## `Looper.h` -/

def llongMax : Int := 9223372036854775807

def intMax : Int := 2147483647

def pollWake : Int := -1
def pollCallback : Int := -2
def pollTimeout : Int := -3
def pollError : Int := -4

def eventInput : Nat := 1
def eventOutput : Nat := 2
def eventError : Nat := 4
def eventHangup : Nat := 8

def epollin : Nat := 1
def epollout : Nat := 4
def epollerr : Nat := 8
def epollhup : Nat := 16

structure Message where
  what : Int
  deriving DecidableEq, Repr

/-- Handlers, callbacks and data are pointers. -/
structure MessageEnvelope where
  uptime : Int
  handler : Nat
  message : Message
  deriving DecidableEq, Repr

structure Request where
  fd : Int
  ident : Int
  callback : Option Nat
  data : Nat
  deriving DecidableEq, Repr

structure Response where
  events : Nat
  request : Request
  deriving DecidableEq, Repr

structure Looper where
  mAllowNonCallbacks : Bool
  mMessageEnvelopes : List MessageEnvelope
  mSendingMessage : Bool
  mPolling : Bool
  mRequests : Int → Option Request
  mResponses : List Response
  mResponseIndex : Nat
  mNextMessageUptime : Int

/-! ## What the looper is built on -/

structure Platform where
  /-- Of `Timers.h`: the milliseconds to wait from the first time to the second. -/
  toMillisecondTimeoutDelay : Int → Int → Int
  /-- What fits into the wake pipe. -/
  pipeSize : Nat
  mWakeReadPipeFd : Int

/-- Rounded up to the next millisecond; nothing to wait for where the time is past, and -1 where it
is further away than an `int` can tell. -/
structure Platform.Documented (p : Platform) : Prop where
  past : ∀ now due, due ≤ now → p.toMillisecondTimeoutDelay now due = 0
  near : ∀ now due, now < due → due - now ≤ (intMax - 1) * 1000000 →
    p.toMillisecondTimeoutDelay now due = (due - now + 999999) / 1000000
  far : ∀ now due, intMax * 1000000 < due - now → p.toMillisecondTimeoutDelay now due = -1
  pipe : 0 < p.pipeSize

def Platform.plain : Platform where
  toMillisecondTimeoutDelay now due :=
    if due ≤ now then 0
    else if due - now ≤ (intMax - 1) * 1000000 then (due - now + 999999) / 1000000
    else -1
  pipeSize := 65536
  mWakeReadPipeFd := 3

inductive EpollOp
  | add | mod | del
  deriving DecidableEq, Repr

/-- What `epoll_wait` returns: the events, none of them at a time-out, or an error. -/
inductive EpollWait
  | events (items : List (Int × Nat))
  | eintr
  | error
  deriving DecidableEq, Repr

/-- Adding what is watched already and changing or deleting what is not are refused; anything else
may fail as well. -/
def epollCtl (epoll : Int → Option Nat) (op : EpollOp) (fd : Int) (events : Nat) (fails : Bool) :
    Int × (Int → Option Nat) :=
  match op with
  | .add =>
      if (epoll fd).isSome || fails then (-1, epoll)
      else (0, Function.update epoll fd (some events))
  | .mod =>
      if (epoll fd).isNone || fails then (-1, epoll)
      else (0, Function.update epoll fd (some events))
  | .del =>
      if (epoll fd).isNone || fails then (-1, epoll) else (0, Function.update epoll fd none)

/-! ## `Looper.cpp` -/

/-- Where the thread that polls is. `timeoutMillis` is the argument of `pollOnce`. -/
inductive PollThread
  | outside
  /-- At the head of the loop of `pollOnce`. -/
  | once (timeoutMillis result : Int)
  /-- In `epoll_wait`, with the time-out that was chosen at the time `chosen`. -/
  | waiting (timeoutMillis timeout chosen : Int)
  | returned (timeoutMillis : Int) (polled : EpollWait)
  | sending (timeoutMillis : Int) (envelope : MessageEnvelope)
  /-- At response `i` of the loop that invokes the callbacks. -/
  | responses (timeoutMillis : Int) (i : Nat) (result : Int)
  | callback (timeoutMillis : Int) (i : Nat)
  /-- `handleEvent` was called through a null pointer. -/
  | nullCallback
  deriving DecidableEq, Repr

/-- A looper with its pipe, its epoll instance, its thread and the clock. -/
structure LooperSystem where
  looper : Looper
  wakePipe : Nat
  epoll : Int → Option Nat
  thread : PollThread
  /-- The threads that are on their way from the lock of `sendMessageAtTime` to `wake`. -/
  wakers : Nat
  clock : Int

inductive LooperEffect
  | sent (envelope : MessageEnvelope)
  | removed (handler : Nat) (what : Option Int)
  | delivered (envelope : MessageEnvelope) (now : Int)
  | epollCtl (op : EpollOp) (fd : Int) (result : Int)
  | addFdReturns (fd result : Int)
  | removeFdReturns (fd result : Int)
  /-- The events of an `epoll_wait` have become responses. -/
  | pushed (responses : List Response)
  | handleEvent (response : Response)
  /-- `pollOnce` returns, with a response or with zeros in the out parameters. -/
  | returned (result : Int) (out : Option Response)
  deriving DecidableEq, Repr

/-- The steps of the polling thread, of the threads that call the looper, and of the clock. -/
inductive LooperStep
  | pollOnce (timeoutMillis : Int)
  | loops
  | epollReturns (polled : EpollWait)
  | locks
  | handled
  | calls
  | callbackReturns (callbackResult : Int) (epollFails : Bool)
  | sendMessageAtTime (uptime : Int) (handler : Nat) (message : Message)
  | wakes
  | wake
  | removeMessages (handler : Nat) (what : Option Int)
  | addFd (fd ident : Int) (events : Nat) (callback : Option Nat) (data : Nat) (epollFails : Bool)
  | removeFd (fd : Int) (epollFails : Bool)
  | time (now : Int)
  deriving DecidableEq, Repr

/-- How far the loop of `sendMessageAtTime` goes. -/
def sendIndex (uptime : Int) : List MessageEnvelope → Nat
  | [] => 0
  | envelope :: envelopes =>
      if uptime ≥ envelope.uptime then sendIndex uptime envelopes + 1 else 0

def MessageEnvelope.isFor (handler : Nat) (what : Option Int) (envelope : MessageEnvelope) : Bool :=
  envelope.handler = handler &&
    match what with
    | none => true
    | some what => envelope.message.what = what

/-- The loop of both versions of `removeMessages`, from the back. -/
def removeLoop (handler : Nat) (what : Option Int) (envelopes : List MessageEnvelope) :
    Nat → List MessageEnvelope
  | 0 => envelopes
  | i + 1 =>
      if envelopes[i]?.any (MessageEnvelope.isFor handler what) then
        removeLoop handler what (envelopes.eraseIdx i) i
      else removeLoop handler what envelopes i

/-- The loop of `pollOnce` over the responses from `i` on. -/
def nextResponse : List Response → Nat → Nat × Option Response
  | [], i => (i, none)
  | response :: responses, i =>
      if response.request.ident ≥ 0 then (i + 1, some response) else nextResponse responses (i + 1)

/-- The read loop of `awoken`. -/
def awoken (bytes : Nat) : Nat := if bytes ≥ 16 then awoken (bytes - 16) else 0

def toEpoll (events : Nat) : Nat :=
  (if events &&& eventInput ≠ 0 then epollin else 0) |||
    (if events &&& eventOutput ≠ 0 then epollout else 0)

def ofEpoll (epollEvents : Nat) : Nat :=
  (if epollEvents &&& epollin ≠ 0 then eventInput else 0) |||
    (if epollEvents &&& epollout ≠ 0 then eventOutput else 0) |||
    (if epollEvents &&& epollerr ≠ 0 then eventError else 0) |||
    (if epollEvents &&& epollhup ≠ 0 then eventHangup else 0)

namespace LooperSystem
variable (p : Platform)

def setThread (s : LooperSystem) (thread : PollThread) : LooperSystem := { s with thread := thread }

def wake (s : LooperSystem) : LooperSystem :=
  { s with wakePipe := if s.wakePipe < p.pipeSize then s.wakePipe + 1 else s.wakePipe }

def sendMessageAtTime (s : LooperSystem) (envelope : MessageEnvelope) : LooperSystem :=
  let i := sendIndex envelope.uptime s.looper.mMessageEnvelopes
  let envelopes := s.looper.mMessageEnvelopes.insertIdx i envelope
  { s with
    looper := { s.looper with mMessageEnvelopes := envelopes }
    wakers := if !s.looper.mSendingMessage && i = 0 then s.wakers + 1 else s.wakers }

def removeMessages (s : LooperSystem) (handler : Nat) (what : Option Int) : LooperSystem :=
  let envelopes := s.looper.mMessageEnvelopes
  { s with looper := { s.looper with
      mMessageEnvelopes := removeLoop handler what envelopes envelopes.length } }

def setRequest (s : LooperSystem) (fd : Int) (request : Option Request) : LooperSystem :=
  { s with looper := { s.looper with
      mRequests := Function.update s.looper.mRequests fd request } }

/-- `epoll_ctl`, and the change of `mRequests` where it did not fail. -/
def control (s : LooperSystem) (op : EpollOp) (fd : Int) (events : Nat) (fails : Bool)
    (request : Option Request) (returns : Int → LooperEffect) :
    LooperSystem × List LooperEffect :=
  let (epollResult, epoll) := Shims.epollCtl s.epoll op fd events fails
  if epollResult < 0 then (s, [.epollCtl op fd epollResult, returns (-1)])
  else ({ s with epoll := epoll }.setRequest fd request, [.epollCtl op fd epollResult, returns 1])

def addFd (s : LooperSystem) (fd ident : Int) (events : Nat) (callback : Option Nat) (data : Nat)
    (fails : Bool) : LooperSystem × List LooperEffect :=
  if callback.isNone && !s.looper.mAllowNonCallbacks then (s, [.addFdReturns fd (-1)])
  else if callback.isNone && ident < 0 then (s, [.addFdReturns fd (-1)])
  else
    let ident := if callback.isNone then ident else pollCallback
    let request : Request := ⟨fd, ident, callback, data⟩
    match s.looper.mRequests fd with
    | none => s.control .add fd (toEpoll events) fails (some request) (.addFdReturns fd)
    | some _ => s.control .mod fd (toEpoll events) fails (some request) (.addFdReturns fd)

def removeFd (s : LooperSystem) (fd : Int) (fails : Bool) : LooperSystem × List LooperEffect :=
  match s.looper.mRequests fd with
  | none => (s, [.removeFdReturns fd 0])
  | some _ => s.control .del fd 0 fails none (.removeFdReturns fd)

/-- The time-out of `pollInner`. -/
def adjusted (s : LooperSystem) (timeoutMillis : Int) : Int :=
  if timeoutMillis ≠ 0 ∧ s.looper.mNextMessageUptime ≠ llongMax then
    let messageTimeoutMillis := p.toMillisecondTimeoutDelay s.clock s.looper.mNextMessageUptime
    if messageTimeoutMillis ≥ 0 ∧ (timeoutMillis < 0 ∨ messageTimeoutMillis < timeoutMillis) then
      messageTimeoutMillis
    else timeoutMillis
  else timeoutMillis

/-- The loop of `pollOnce`, as far as `epoll_wait`. -/
def once (s : LooperSystem) (timeoutMillis result : Int) : LooperSystem × List LooperEffect :=
  let i := s.looper.mResponseIndex
  match nextResponse (s.looper.mResponses.drop i) i with
  | (i, some response) =>
      ({ s with looper := { s.looper with mResponseIndex := i }, thread := .outside },
        [.returned response.request.ident (some response)])
  | (i, none) =>
      if result ≠ 0 then
        ({ s with looper := { s.looper with mResponseIndex := i }, thread := .outside },
          [.returned result none])
      else
        ({ s with
          looper := { s.looper with mResponses := [], mResponseIndex := 0, mPolling := true }
          thread := .waiting timeoutMillis (s.adjusted p timeoutMillis) s.clock }, [])

/-- The handling of one event of `epoll_wait`. -/
def handleEvent (s : LooperSystem) (item : Int × Nat) : LooperSystem :=
  if item.1 = p.mWakeReadPipeFd then
    if item.2 &&& epollin ≠ 0 then { s with wakePipe := awoken s.wakePipe } else s
  else
    match s.looper.mRequests item.1 with
    | some request =>
        { s with looper := { s.looper with
            mResponses := s.looper.mResponses ++ [⟨ofEpoll item.2, request⟩] } }
    | none => s

/-- The events of `epoll_wait` and the result so far. -/
def handlePolled (s : LooperSystem) : EpollWait → LooperSystem × Int
  | .eintr => (s, pollWake)
  | .error => (s, pollError)
  | .events [] => (s, pollTimeout)
  | .events items => (items.foldl (handleEvent p) s, pollWake)

/-- The loop over the pending messages, to the next one that is handled or to its end. -/
def deliver (s : LooperSystem) (timeoutMillis result : Int) : LooperSystem × List LooperEffect :=
  match s.looper.mMessageEnvelopes with
  | [] => (s.setThread (.responses timeoutMillis 0 result), [])
  | envelope :: envelopes =>
      if envelope.uptime ≤ s.clock then
        ({ s with
          looper := { s.looper with mMessageEnvelopes := envelopes, mSendingMessage := true }
          thread := .sending timeoutMillis envelope }, [.delivered envelope s.clock])
      else
        ({ s with looper := { s.looper with mNextMessageUptime := envelope.uptime } }.setThread
          (.responses timeoutMillis 0 result), [])

/-- From the lock that is taken when `epoll_wait` has returned. -/
def locked (s : LooperSystem) (timeoutMillis : Int) (polled : EpollWait) :
    LooperSystem × List LooperEffect :=
  let (s, result) := s.handlePolled p polled
  let pushed := s.looper.mResponses
  let (s, effects) := { s with looper := { s.looper with
    mNextMessageUptime := llongMax } }.deliver timeoutMillis result
  (s, .pushed pushed :: effects)

/-- One response in the loop that invokes the callbacks. -/
def call (s : LooperSystem) (timeoutMillis : Int) (i : Nat) (result : Int) :
    LooperSystem × List LooperEffect :=
  match s.looper.mResponses[i]? with
  | none => (s.setThread (.once timeoutMillis result), [])
  | some response =>
      if response.request.ident = pollCallback then
        match response.request.callback with
        | some _ => (s.setThread (.callback timeoutMillis i), [.handleEvent response])
        | none => (s.setThread .nullCallback, [])
      else (s.setThread (.responses timeoutMillis (i + 1) result), [])

/-- `response.request.callback.clear()` -/
def clearCallback (response : Response) : Response :=
  { response with request := { response.request with callback := none } }

/-- After `handleEvent`. -/
def called (s : LooperSystem) (timeoutMillis : Int) (i : Nat) (callbackResult : Int)
    (fails : Bool) : LooperSystem × List LooperEffect :=
  let (s, effects) :=
    match s.looper.mResponses[i]? with
    | some response =>
        if callbackResult = 0 then s.removeFd response.request.fd fails else (s, [])
    | none => (s, [])
  ({ s with looper := { s.looper with
      mResponses := s.looper.mResponses.modify i clearCallback } }.setThread
    (.responses timeoutMillis (i + 1) pollCallback), effects)

def threadStep (s : LooperSystem) : LooperStep → LooperSystem × List LooperEffect
  | .pollOnce timeoutMillis =>
      match s.thread with
      | .outside => (s.setThread (.once timeoutMillis 0), [])
      | _ => (s, [])
  | .loops =>
      match s.thread with
      | .once timeoutMillis result => s.once p timeoutMillis result
      | _ => (s, [])
  | .epollReturns polled =>
      match s.thread with
      | .waiting timeoutMillis _ _ =>
          ({ s with looper := { s.looper with mPolling := false } }.setThread
            (.returned timeoutMillis polled), [])
      | _ => (s, [])
  | .locks =>
      match s.thread with
      | .returned timeoutMillis polled => s.locked p timeoutMillis polled
      | _ => (s, [])
  | .handled =>
      match s.thread with
      | .sending timeoutMillis _ =>
          { s with looper := { s.looper with mSendingMessage := false } }.deliver timeoutMillis
            pollCallback
      | _ => (s, [])
  | .calls =>
      match s.thread with
      | .responses timeoutMillis i result => s.call timeoutMillis i result
      | _ => (s, [])
  | .callbackReturns callbackResult fails =>
      match s.thread with
      | .callback timeoutMillis i => s.called timeoutMillis i callbackResult fails
      | _ => (s, [])
  | _ => (s, [])

def step (s : LooperSystem) : LooperStep → LooperSystem × List LooperEffect
  | .sendMessageAtTime uptime handler message =>
      (s.sendMessageAtTime ⟨uptime, handler, message⟩, [.sent ⟨uptime, handler, message⟩])
  | .wakes => if 0 < s.wakers then ({ s with wakers := s.wakers - 1 }.wake p, []) else (s, [])
  | .wake => (s.wake p, [])
  | .removeMessages handler what => (s.removeMessages handler what, [.removed handler what])
  | .addFd fd ident events callback data fails => s.addFd fd ident events callback data fails
  | .removeFd fd fails => s.removeFd fd fails
  | .time now => ({ s with clock := max s.clock now }, [])
  | e => s.threadStep p e

/-- The looper when it is constructed: the epoll instance watches the wake pipe. -/
def create (allowNonCallbacks : Bool) (now : Int) : LooperSystem where
  looper := ⟨allowNonCallbacks, [], false, false, fun _ => none, [], 0, llongMax⟩
  wakePipe := 0
  epoll := Function.update (fun _ => none) p.mWakeReadPipeFd (some epollin)
  thread := .outside
  wakers := 0
  clock := now

end LooperSystem

/-! ## What is expected of a looper -/

def byUptime (a b : MessageEnvelope) : Bool := a.uptime ≤ b.uptime

def LooperEffect.mail : LooperEffect → Option (MailEvent MessageEnvelope)
  | .sent envelope => some (.put envelope)
  | .delivered envelope _ => some (.take envelope)
  | .removed handler what => some (.drop (MessageEnvelope.isFor handler what))
  | _ => none

/-- `LLONG_MAX` stands for no message. -/
def LooperStep.Timed : LooperStep → Prop
  | .sendMessageAtTime uptime _ _ => uptime < llongMax
  | _ => True

/-- `wake` has been called, by a sender or by itself, while the thread was in `epoll_wait`, which has
not returned since. -/
def WokenSince (p : Platform) (start : LooperSystem) (steps : List LooperStep) : Prop :=
  ∃ before call after timeoutMillis timeout chosen, steps = before ++ call :: after ∧
    (call = .wake ∨ call = .wakes ∧ 0 < (final (LooperSystem.step p) start before).wakers) ∧
    (final (LooperSystem.step p) start before).thread = .waiting timeoutMillis timeout chosen ∧
    ∀ polled, .epollReturns polled ∉ after

/-- A wait of `timeout` milliseconds from `chosen` on ends less than one of them after `uptime`. -/
def EndsInTime (chosen timeout uptime : Int) : Prop :=
  0 ≤ timeout ∧ chosen + timeout * 1000000 < max chosen uptime + 1000000

def Response.calls (response : Response) : Bool := response.request.ident = pollCallback

def Response.returns (response : Response) : Bool := response.request.ident ≥ 0

/-- What has to become of the responses of one `epoll_wait`: the callbacks are invoked, then
`pollOnce` returns the others. -/
def handOver (responses : List Response) : List Response :=
  responses.filter Response.calls ++ responses.filter Response.returns

/-- What one event of `epoll_wait` becomes. -/
def respond (p : Platform) (requests : Int → Option Request) (item : Int × Nat) : Option Response :=
  if item.1 = p.mWakeReadPipeFd then none else (requests item.1).map (⟨ofEpoll item.2, ·⟩)

def collect (p : Platform) (requests : Int → Option Request) : EpollWait → List Response
  | .events items => items.filterMap (respond p requests)
  | .eintr | .error => []

/-- The responses to what `epoll_wait` reports in a run, as they are to be handed over for each of its
answers that is handled; `polled` is the last one before the run. -/
def reported (p : Platform) :
    EpollWait → List (Transition LooperSystem LooperStep LooperEffect) → List Response
  | _, [] => []
  | polled, t :: history =>
      match t.event, t.before.thread with
      | .epollReturns polled, .waiting _ _ _ => reported p polled history
      | .locks, .returned _ _ =>
          handOver (collect p t.before.looper.mRequests polled) ++ reported p polled history
      | _, _ => reported p polled history

def LooperEffect.planned : LooperEffect → List Response
  | .pushed responses => handOver responses
  | _ => []

def LooperEffect.handedOver : LooperEffect → List Response
  | .handleEvent response => [response]
  | .returned _ (some response) => [response]
  | _ => []

/-- The responses that are still to be handed over. -/
def LooperSystem.due (s : LooperSystem) : List Response :=
  match s.thread with
  | .outside | .once _ _ => (s.looper.mResponses.drop s.looper.mResponseIndex).filter
      Response.returns
  | .waiting _ _ _ | .returned _ _ | .nullCallback => []
  | .sending _ _ => handOver s.looper.mResponses
  | .responses _ i _ => (s.looper.mResponses.drop i).filter Response.calls ++
      s.looper.mResponses.filter Response.returns
  | .callback _ i => (s.looper.mResponses.drop (i + 1)).filter Response.calls ++
      s.looper.mResponses.filter Response.returns

/-- What a step leaves registered for `fd`, with the events that are watched for; `none` where it
registers and unregisters nothing. -/
def registers (fd : Int) (t : Transition LooperSystem LooperStep LooperEffect) :
    Option (Option (Request × Nat)) :=
  if .removeFdReturns fd 1 ∈ t.outputs then some none
  else if .addFdReturns fd 1 ∈ t.outputs then
    match t.event with
    | .addFd _ ident events callback data _ =>
        some (some (⟨fd, if callback.isNone then ident else pollCallback, callback, data⟩,
          toEpoll events))
    | _ => none
  else none

/-- Of a request, what `addFd` sees to. -/
def Request.Sound (request : Request) : Prop :=
  request.ident = pollCallback ∧ request.callback.isSome ∨
    0 ≤ request.ident ∧ request.callback = none

/-- How many of the responses are for `fd`. -/
def countFd (fd : Int) (responses : List Response) : Nat :=
  (responses.map fun response => response.request.fd).count fd

/-- The thread is in the callback of `fd`. -/
def LooperSystem.InCallback (s : LooperSystem) (fd : Int) : Prop :=
  ∃ timeoutMillis i response, s.thread = .callback timeoutMillis i ∧
    s.looper.mResponses[i]? = some response ∧ response.request.fd = fd

/-- `epoll_wait` reports each file descriptor once. -/
def LooperStep.Reported : LooperStep → Prop
  | .epollReturns (.events items) => (items.map Prod.fst).Nodup
  | _ => True

end VibeXperia.Shims

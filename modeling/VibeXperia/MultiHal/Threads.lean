import VibeXperia.Lib.Run
import VibeXperia.MultiHal.Poll

namespace VibeXperia.MultiHal

/-! ## The writer threads and the caller of `poll` together -/

inductive Poller
  | idle
  | blocked (maxReads : Int)
  deriving DecidableEq, Repr

/-- All that the lock guards. `dataAvailableCond` is where the caller of `poll` stands at
`data_available_cond`, on which no other thread waits. -/
structure System where
  subHals : List (SubHalQueue SensorsEvent)
  nextReadIndex : Nat
  waitingForData : Bool
  dataAvailableCond : Waiter
  poller : Poller

namespace System

def start (mDatas : List (Nat → SensorsEvent)) : System :=
  { subHals := mDatas.map (SubHalQueue.new SENSOR_EVENT_QUEUE_CAPACITY)
    nextReadIndex := 0
    waitingForData := false
    dataAvailableCond := .running
    poller := .idle }

def queues (s : System) : List (SensorEventQueue SensorsEvent) := s.subHals.map (·.queue)

/-- The writers stay where they are while `poll` changes their queues. -/
def putBack (subHals : List (SubHalQueue SensorsEvent))
    (queues : List (SensorEventQueue SensorsEvent)) : List (SubHalQueue SensorsEvent) :=
  subHals.zipWith (fun subHal queue => { subHal with queue }) queues

/-- The body of `poll` from where it has the lock, `eventsRead` and `empties` being 0, up to where
it gives the lock away: in `pthread_cond_wait` or on return. -/
def pollBlock (maps : HandleMaps) (maxReads : Int) (s : System) : System :=
  let scanned := PollState.scan maps maxReads ⟨s.queues, s.nextReadIndex, 0, []⟩
  let subHals := putBack s.subHals scanned.queues
  if scanned.data.length = 0 then
    { subHals
      nextReadIndex := scanned.nextReadIndex
      waitingForData := true
      dataAvailableCond := .waiting
      poller := .blocked maxReads }
  else
    { subHals
      nextReadIndex := scanned.nextReadIndex
      waitingForData := s.waitingForData
      dataAvailableCond := .running
      poller := .idle }

/-- What a writer does to the caller of `poll` when it has marked events as written. -/
def announce (s : System) : System :=
  { s with
    dataAvailableCond :=
      if s.waitingForData then s.dataAvailableCond.broadcast else s.dataAvailableCond }

end System

inductive Thread
  | writer (i : Nat)
  | poller
  deriving DecidableEq, Repr

/-- One locked block, or one step outside the lock, of one thread. A wait may end without a
broadcast. -/
inductive SystemStep (maps : HandleMaps) : System → Thread → System → Prop
  | writer (s i before after) (place : s.subHals[i]? = some before)
      (step : QueueStep before .silent after) :
      SystemStep maps s (.writer i) { s with subHals := s.subHals.set i after }
  | commit (s i before events after) (place : s.subHals[i]? = some before)
      (step : QueueStep before (.marked events) after) :
      SystemStep maps s (.writer i) { s.announce with subHals := s.subHals.set i after }
  | poll (s maxReads) (idle : s.poller = .idle) :
      SystemStep maps s .poller (s.pollBlock maps maxReads)
  | wake (s maxReads) (blocked : s.poller = .blocked maxReads) :
      SystemStep maps s .poller (System.pollBlock maps maxReads { s with waitingForData := false })

end VibeXperia.MultiHal

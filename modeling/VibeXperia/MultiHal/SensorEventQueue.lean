import VibeXperia.Lib.Ring

namespace VibeXperia.MultiHal

/-- Where the one thread that uses a condition variable stands. -/
inductive Waiter
  | running
  | waiting
  | woken
  deriving DecidableEq, Repr

def Waiter.broadcast : Waiter → Waiter
  | .waiting => .woken
  | waiter => waiter

/-- `SensorEventQueue.h`. The slots of `mData` are addressed relative to its start; the only thread
that ever waits on `mSpaceAvailableCondition` is the queue's single writer. -/
structure SensorEventQueue (α : Type*) where
  mCapacity : Nat
  mStart : Nat
  mSize : Nat
  mData : Nat → α
  mSpaceAvailableCondition : Waiter

namespace SensorEventQueue
variable {α : Type*}

def new (capacity : Nat) (mData : Nat → α) : SensorEventQueue α :=
  { mCapacity := capacity, mStart := 0, mSize := 0, mData, mSpaceAvailableCondition := .running }

/-- The index in `mData` put into `*out` (`none` for `NULL`) and the returned length. -/
def getWritableRegion (q : SensorEventQueue α) (requestedLength : Nat) : Option Nat × Nat :=
  if q.mSize = q.mCapacity ∨ requestedLength = 0 then (none, 0)
  else
    let firstWritable := (q.mStart + q.mSize) % q.mCapacity
    let lastWritable := firstWritable + requestedLength - 1
    let lastWritable := if lastWritable > q.mCapacity - 1 then q.mCapacity - 1 else lastWritable
    let lastWritable :=
      if firstWritable < q.mStart ∧ lastWritable ≥ q.mStart then q.mStart - 1 else lastWritable
    (some firstWritable, lastWritable - firstWritable + 1)

def markAsWritten (q : SensorEventQueue α) (count : Nat) : SensorEventQueue α :=
  { q with mSize := q.mSize + count }

def getSize (q : SensorEventQueue α) : Nat := q.mSize

def peek (q : SensorEventQueue α) : Option α :=
  if q.mSize = 0 then none else some (q.mData q.mStart)

def dequeue (q : SensorEventQueue α) : SensorEventQueue α :=
  if q.mSize = 0 then q
  else
    { q with
      mSpaceAvailableCondition :=
        if q.mSize = q.mCapacity then q.mSpaceAvailableCondition.broadcast
        else q.mSpaceAvailableCondition
      mSize := q.mSize - 1
      mStart := (q.mStart + 1) % q.mCapacity }

/-- One test of the loop of `waitForSpace`: `none` when the loop is left, otherwise the queue
with the calling thread put to sleep. -/
def waitForSpace (q : SensorEventQueue α) : Option (SensorEventQueue α) :=
  if q.mSize = q.mCapacity then some { q with mSpaceAvailableCondition := .waiting } else none

/-- What the sub-HAL's `poll` does to `mData` while nobody holds the lock. -/
def store (q : SensorEventQueue α) (i : Nat) (event : α) : SensorEventQueue α :=
  { q with mData := Function.update q.mData i event }

/-- The readable records, oldest first. -/
def unread (q : SensorEventQueue α) : List α :=
  Lib.Ring.window q.mCapacity q.mStart q.mSize q.mData

end SensorEventQueue

/-! ## The writer thread of one queue -/

def SENSOR_EVENT_QUEUE_CAPACITY : Nat := 36

/-- Where `writerTask` stands: about to take the lock, asleep in `waitForSpace`, inside the
sub-HAL's `poll`, or back from it with at least one event and about to take the lock again. -/
inductive WriterState
  | ready
  | blocked
  | polling (buffer : Option Nat) (bufferSize : Nat)
  | polled (buffer : Option Nat) (bufferSize eventsPolled : Nat)
  deriving DecidableEq, Repr

/-- The region the writer is using, if any. -/
def WriterState.region : WriterState → Option (Option Nat × Nat)
  | .ready | .blocked => none
  | .polling buffer bufferSize | .polled buffer bufferSize _ => some (buffer, bufferSize)

structure SubHalQueue (α : Type*) where
  queue : SensorEventQueue α
  writer : WriterState

namespace SubHalQueue
variable {α : Type*}

def new (capacity : Nat) (mData : Nat → α) : SubHalQueue α := ⟨.new capacity mData, .ready⟩

/-- The block of `writerTask` up to the first unlock, entered with the lock held. -/
def acquire (queue : SensorEventQueue α) : SubHalQueue α :=
  match queue.waitForSpace with
  | some asleep => ⟨asleep, .blocked⟩
  | none =>
      let region := queue.getWritableRegion SENSOR_EVENT_QUEUE_CAPACITY
      ⟨{ queue with mSpaceAvailableCondition := .running }, .polling region.1 region.2⟩

end SubHalQueue

/-- The events of the first `count` slots of a region. -/
def regionEvents {α : Type*} (queue : SensorEventQueue α) (buffer count : Nat) : List α :=
  (List.range count).map fun i => queue.mData (buffer + i)

inductive QueueLabel (α : Type*)
  | silent
  | marked (events : List α)
  | took (event : α)

/-- Every step the writer and the reader of one queue can take. A wait may end without a
broadcast, so `wake` is open to every blocked writer. -/
inductive QueueStep {α : Type*} : SubHalQueue α → QueueLabel α → SubHalQueue α → Prop
  | enter (queue) : QueueStep ⟨queue, .ready⟩ .silent (SubHalQueue.acquire queue)
  | wake (queue) : QueueStep ⟨queue, .blocked⟩ .silent (SubHalQueue.acquire queue)
  | write (queue buffer bufferSize i event) (inRegion : i < bufferSize) :
      QueueStep ⟨queue, .polling (some buffer) bufferSize⟩ .silent
        ⟨queue.store (buffer + i) event, .polling (some buffer) bufferSize⟩
  | nothing (queue buffer bufferSize) (eventsPolled : Int) (none : eventsPolled ≤ 0) :
      QueueStep ⟨queue, .polling buffer bufferSize⟩ .silent ⟨queue, .ready⟩
  | polled (queue buffer bufferSize eventsPolled) (some : 0 < eventsPolled)
      (contract : eventsPolled ≤ bufferSize) :
      QueueStep ⟨queue, .polling buffer bufferSize⟩ .silent
        ⟨queue, .polled buffer bufferSize eventsPolled⟩
  | commit (queue buffer bufferSize eventsPolled) :
      QueueStep ⟨queue, .polled (some buffer) bufferSize eventsPolled⟩
        (.marked (regionEvents queue buffer eventsPolled))
        ⟨queue.markAsWritten eventsPolled, .ready⟩
  | read (queue writer event) (head : queue.peek = some event) :
      QueueStep ⟨queue, writer⟩ (.took event) ⟨queue.dequeue, writer⟩

def QueueLabel.markedEvents {α : Type*} : QueueLabel α → List α
  | .marked events => events
  | _ => []

def QueueLabel.takenEvents {α : Type*} : QueueLabel α → List α
  | .took event => [event]
  | _ => []

/-- All events marked as written by the steps of a run, oldest first. -/
def marked {α : Type*} (labels : List (QueueLabel α)) : List α :=
  labels.flatMap QueueLabel.markedEvents

/-- All events the reader took in the steps of a run, oldest first. -/
def taken {α : Type*} (labels : List (QueueLabel α)) : List α :=
  labels.flatMap QueueLabel.takenEvents

end VibeXperia.MultiHal

import VibeXperia.Lib.RoundRobin
import VibeXperia.MultiHal.Threads

namespace VibeXperia.MultiHal
open Lib

/-! ## What one call of `poll` is to hand over -/

/-- An event with the place of the queue that it waits in. -/
abbrev QueuedEvent := Nat × SensorsEvent

/-- The event as `poll` hands it over, unless it drops it. -/
def delivery (maps : HandleMaps) (queued : QueuedEvent) : Option SensorsEvent :=
  let copied := copyEventRemapHandle maps queued.2 queued.1
  if copied.sensor = -1 then none else some copied

def waiting (queues : List (SensorEventQueue SensorsEvent)) : List (List QueuedEvent) :=
  queues.zipIdx.map fun queue => queue.1.unread.map fun event => (queue.2, event)

/-- The order in which the queues give their events, taking turns from `nextReadIndex` on. -/
def turns (queues : List (SensorEventQueue SensorsEvent)) (nextReadIndex : Nat) :
    List QueuedEvent :=
  RoundRobin.merge ((waiting queues).rotate nextReadIndex)

def unreadAt (queues : List (SensorEventQueue SensorsEvent)) (i : Nat) : List SensorsEvent :=
  (queues[i]?.map SensorEventQueue.unread).getD []

def fromQueue (i : Nat) (visited : List QueuedEvent) : List SensorsEvent :=
  (visited.filter fun queued => queued.1 = i).map Prod.snd

/-- The queues begin inside their arrays, and `nextReadIndex` names one of them, if there is any. -/
structure Readable (queues : List (SensorEventQueue SensorsEvent)) (nextReadIndex : Nat) :
    Prop where
  start_lt : ∀ queue ∈ queues, queue.mStart < queue.mCapacity
  next_lt : queues ≠ [] → nextReadIndex < queues.length

/-- The inner loop of `poll`, entered with no events read. -/
def pollScan (maps : HandleMaps) (maxReads : Int)
    (queues : List (SensorEventQueue SensorsEvent)) (nextReadIndex : Nat) : PollState :=
  PollState.scan maps maxReads ⟨queues, nextReadIndex, 0, []⟩

/-- The scan of `poll` visits `visited` and stops there. -/
structure Polled (maps : HandleMaps) (maxReads : Int)
    (queues : List (SensorEventQueue SensorsEvent)) (nextReadIndex : Nat)
    (visited : List QueuedEvent) : Prop where
  /-- The events come in turns. -/
  order : ∃ rest, turns queues nextReadIndex = visited ++ rest
  /-- Those that can be delivered are handed over. -/
  data : (pollScan maps maxReads queues nextReadIndex).data = visited.filterMap (delivery maps)
  /-- They are the first of all that can be delivered. -/
  first : (pollScan maps maxReads queues nextReadIndex).data =
    ((turns queues nextReadIndex).filterMap (delivery maps)).take maxReads.toNat
  /-- What was visited is removed, and nothing else. -/
  removed : ∀ i, unreadAt queues i = fromQueue i visited ++
    unreadAt (pollScan maps maxReads queues nextReadIndex).queues i
  /-- There was room for an event until the last visit. -/
  stops : visited ≠ [] → (visited.dropLast.filterMap (delivery maps)).length < maxReads
  /-- Room is left only if no queue has an event. -/
  emptied : (pollScan maps maxReads queues nextReadIndex).data.length < maxReads →
    ∀ queue ∈ (pollScan maps maxReads queues nextReadIndex).queues, queue.mSize = 0

end VibeXperia.MultiHal

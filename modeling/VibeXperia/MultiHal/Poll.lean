import VibeXperia.MultiHal.Calls

namespace VibeXperia.MultiHal

/-! ## Events coming up -/

def copyEventRemapHandle (maps : HandleMaps) (src : SensorsEvent) (subIndex : Nat) :
    SensorsEvent :=
  if src.type = SENSOR_TYPE_META_DATA then
    { src with metaDataSensor := maps.getGlobalHandle ⟨subIndex, src.metaDataSensor⟩ }
  else { src with sensor := maps.getGlobalHandle ⟨subIndex, src.sensor⟩ }

/-- The queues, `nextReadIndex` and the locals of `poll`; `eventsRead` is the length of `data`. -/
structure PollState where
  queues : List (SensorEventQueue SensorsEvent)
  nextReadIndex : Nat
  empties : Nat
  data : List SensorsEvent

namespace PollState

/-- One turn of the inner loop at the queue `nextReadIndex` names. -/
def visit (maps : HandleMaps) (s : PollState) (queue : SensorEventQueue SensorsEvent) :
    PollState :=
  let nextReadIndex := (s.nextReadIndex + 1) % s.queues.length
  match queue.peek with
  | none => { s with empties := s.empties + 1, nextReadIndex }
  | some event =>
      let copied := copyEventRemapHandle maps event s.nextReadIndex
      { queues := s.queues.set s.nextReadIndex queue.dequeue
        nextReadIndex
        empties := 0
        data := if copied.sensor = -1 then s.data else s.data ++ [copied] }

/-- The number of events left in the queues. -/
def pending (s : PollState) : Nat := (s.queues.map SensorEventQueue.getSize).sum

theorem visit_queues_length (maps : HandleMaps) (s : PollState)
    (queue : SensorEventQueue SensorsEvent) :
    (s.visit maps queue).queues.length = s.queues.length := by
  unfold visit
  cases queue.peek <;> simp

theorem sum_map_set_lt {α : Type*} (f : α → Nat) {xs : List α} {i : Nat} {x y : α}
    (found : xs[i]? = some x) (less : f y < f x) : ((xs.set i y).map f).sum < (xs.map f).sum := by
  induction xs generalizing i with
  | nil => simp at found
  | cons z xs ih =>
      cases i with
      | zero =>
          obtain rfl : z = x := by simpa using found
          simpa using less
      | succ i => simpa using ih (by simpa using found)

/-- A turn takes an event out of the queues or leaves them and counts one more empty queue. -/
theorem visit_decreases {maps : HandleMaps} {s : PollState} {queue : SensorEventQueue SensorsEvent}
    (found : s.queues[s.nextReadIndex]? = some queue) :
    (s.visit maps queue).pending < s.pending ∨
      (s.visit maps queue).pending = s.pending ∧
        (s.visit maps queue).empties = s.empties + 1 := by
  by_cases empty : queue.mSize = 0
  · right
    simp [visit, SensorEventQueue.peek, empty, pending]
  · left
    have smaller : queue.dequeue.getSize < queue.getSize := by
      simp only [SensorEventQueue.dequeue, if_neg empty, SensorEventQueue.getSize]
      omega
    simpa [visit, SensorEventQueue.peek, empty, pending] using
      sum_map_set_lt SensorEventQueue.getSize found smaller

/-- The inner loop. A `nextReadIndex` outside the vector, where `at` would throw, ends it. -/
def scan (maps : HandleMaps) (maxReads : Int) (s : PollState) : PollState :=
  if s.empties < s.queues.length ∧ s.data.length < maxReads then
    match _found : s.queues[s.nextReadIndex]? with
    | some queue => scan maps maxReads (s.visit maps queue)
    | none => s
  else s
termination_by (s.pending, s.queues.length - s.empties)
decreasing_by
  rcases visit_decreases _found with less | ⟨same, more⟩
  · exact Prod.Lex.left _ _ less
  · rw [same, more, visit_queues_length]
    exact Prod.Lex.right _ (by omega)

end PollState

end VibeXperia.MultiHal

import VibeXperia.Lib.Run
import VibeXperia.MultiHal.SensorEventQueue

namespace VibeXperia.Proof.MultiHal
open VibeXperia.MultiHal VibeXperia.Lib

variable {α : Type*}

/-! ## The operations of the queue -/

theorem peek_eq_some {q : SensorEventQueue α} {event : α} :
    q.peek = some event ↔ q.mSize ≠ 0 ∧ q.mData q.mStart = event := by
  unfold SensorEventQueue.peek
  split_ifs with h <;> simp [h]

theorem unread_dequeue {q : SensorEventQueue α} {event : α} (start : q.mStart < q.mCapacity)
    (head : q.peek = some event) : q.unread = event :: q.dequeue.unread := by
  obtain ⟨nonempty, rfl⟩ := peek_eq_some.mp head
  obtain ⟨size, hsize⟩ := Nat.exists_eq_succ_of_ne_zero nonempty
  simp only [SensorEventQueue.unread, SensorEventQueue.dequeue, if_neg nonempty]
  rw [hsize, Nat.succ_eq_add_one, Ring.window_succ start, Nat.add_sub_cancel]

theorem unread_markAsWritten {q : SensorEventQueue α} {buffer count : Nat}
    (first : buffer = (q.mStart + q.mSize) % q.mCapacity) (inside : buffer + count ≤ q.mCapacity) :
    (q.markAsWritten count).unread = q.unread ++ regionEvents q buffer count := by
  simp only [SensorEventQueue.unread, SensorEventQueue.markAsWritten, Ring.window_add]
  rw [← first, Ring.window_contiguous inside]
  rfl

theorem unread_store {q : SensorEventQueue α} {k : Nat} {event : α}
    (free : ∀ j < q.mSize, k ≠ (q.mStart + j) % q.mCapacity) :
    (q.store k event).unread = q.unread :=
  Ring.window_congr fun j hj => Function.update_of_ne (free j hj).symm _ _

theorem getWritableRegion_spec {q : SensorEventQueue α} {requestedLength : Nat}
    (start : q.mStart < q.mCapacity) (space : q.mSize < q.mCapacity) (asked : 0 < requestedLength) :
    ∃ size, q.getWritableRegion requestedLength =
        (some ((q.mStart + q.mSize) % q.mCapacity), size) ∧
      1 ≤ size ∧ (q.mStart + q.mSize) % q.mCapacity + size ≤ q.mCapacity ∧
      q.mSize + size ≤ q.mCapacity := by
  have enabled : ¬(q.mSize = q.mCapacity ∨ requestedLength = 0) := by omega
  simp only [SensorEventQueue.getWritableRegion, if_neg enabled]
  refine ⟨_, rfl, ?_⟩
  by_cases wraps : q.mStart + q.mSize < q.mCapacity
  · rw [Nat.mod_eq_of_lt wraps]
    split_ifs <;> omega
  · have wrapped : (q.mStart + q.mSize) % q.mCapacity = q.mStart + q.mSize - q.mCapacity := by
      rw [Nat.mod_eq_sub_mod (by omega), Nat.mod_eq_of_lt (by omega)]
    rw [wrapped]
    split_ifs <;> omega

/-! ## The invariant of one writer and one reader -/

structure RegionOk (capacity : Nat) (q : SensorEventQueue α) (buffer : Option Nat)
    (bufferSize : Nat) : Prop where
  first : buffer = some ((q.mStart + q.mSize) % capacity)
  nonempty : 1 ≤ bufferSize
  inside : (q.mStart + q.mSize) % capacity + bufferSize ≤ capacity
  room : q.mSize + bufferSize ≤ capacity

structure QueueInv (capacity : Nat) (labels : List (QueueLabel α)) (s : SubHalQueue α) : Prop where
  capacity_eq : s.queue.mCapacity = capacity
  size_le : s.queue.mSize ≤ capacity
  start_lt : s.queue.mStart < capacity
  region : ∀ buffer size, s.writer.region = some (buffer, size) →
    RegionOk capacity s.queue buffer size
  polled_le : ∀ buffer size count, s.writer = .polled buffer size count → count ≤ size
  asleep : s.writer = .blocked → s.queue.mSpaceAvailableCondition = .waiting →
    s.queue.mSize = capacity
  fifo : marked labels = taken labels ++ s.queue.unread

theorem RegionOk.disjoint {capacity : Nat} {q : SensorEventQueue α} {buffer : Option Nat}
    {bufferSize first i j : Nat} (ok : RegionOk capacity q buffer bufferSize)
    (start : buffer = some first) (hi : i < bufferSize) (hj : j < q.mSize) :
    first + i ≠ (q.mStart + j) % capacity := by
  have same : first = (q.mStart + q.mSize) % capacity := by
    rw [ok.first] at start
    exact (Option.some.inj start).symm
  have inside := ok.inside
  have room := ok.room
  have slot : first + i = (q.mStart + (q.mSize + i)) % capacity := by
    rw [← Nat.add_assoc, ← Nat.mod_add_mod, ← same, Nat.mod_eq_of_lt (by omega)]
  rw [slot]
  intro equal
  have := Ring.slot_injective (by omega) (by omega) equal
  omega

theorem marked_append (labels : List (QueueLabel α)) (l : QueueLabel α) :
    marked (labels ++ [l]) = marked labels ++ l.markedEvents := by simp [marked]

theorem taken_append (labels : List (QueueLabel α)) (l : QueueLabel α) :
    taken (labels ++ [l]) = taken labels ++ l.takenEvents := by simp [taken]

theorem new_inv {capacity : Nat} (room : 1 ≤ capacity) (mData : Nat → α) :
    QueueInv capacity [] (SubHalQueue.new capacity mData) where
  capacity_eq := rfl
  size_le := Nat.zero_le _
  start_lt := room
  region := by simp [SubHalQueue.new, WriterState.region]
  polled_le := by simp [SubHalQueue.new]
  asleep := by simp [SubHalQueue.new]
  fifo := rfl

theorem acquire_inv {capacity : Nat} {labels : List (QueueLabel α)} {queue : SensorEventQueue α}
    {writer : WriterState} (h : QueueInv capacity labels ⟨queue, writer⟩) :
    QueueInv capacity (labels ++ [.silent]) (SubHalQueue.acquire queue) := by
  have fifo : marked (labels ++ [.silent]) = taken (labels ++ [.silent]) ++ queue.unread := by
    simpa [marked_append, taken_append, QueueLabel.markedEvents, QueueLabel.takenEvents] using h.fifo
  by_cases full : queue.mSize = queue.mCapacity
  · rw [SubHalQueue.acquire, SensorEventQueue.waitForSpace, if_pos full]
    exact ⟨h.capacity_eq, h.size_le, h.start_lt, by simp [WriterState.region], by simp,
      fun _ _ => full.trans h.capacity_eq, fifo⟩
  · have cap : queue.mCapacity = capacity := h.capacity_eq
    have space : queue.mSize < queue.mCapacity :=
      lt_of_le_of_ne (h.size_le.trans_eq cap.symm) full
    obtain ⟨size, region, nonempty, inside, room⟩ := getWritableRegion_spec
      (h.start_lt.trans_eq cap.symm) space (by decide : 0 < SENSOR_EVENT_QUEUE_CAPACITY)
    rw [SubHalQueue.acquire, SensorEventQueue.waitForSpace, if_neg full]
    simp only [region]
    refine ⟨cap, h.size_le, h.start_lt, ?_, by simp, by simp, fifo⟩
    rintro buffer bufferSize ⟨⟩
    rw [cap] at inside room ⊢
    exact ⟨rfl, nonempty, inside, room⟩

theorem step_inv {capacity : Nat} {labels : List (QueueLabel α)} {s t : SubHalQueue α}
    {l : QueueLabel α} (h : QueueInv capacity labels s) (step : QueueStep s l t) :
    QueueInv capacity (labels ++ [l]) t := by
  cases step with
  | enter queue => exact acquire_inv h
  | wake queue => exact acquire_inv h
  | write queue buffer bufferSize i event inRegion =>
      have ok := h.region _ _ rfl
      have cap : queue.mCapacity = capacity := h.capacity_eq
      refine ⟨cap, h.size_le, h.start_lt, ?_, by simp, by simp, ?_⟩
      · rintro _ _ ⟨⟩
        exact ⟨ok.first, ok.nonempty, ok.inside, ok.room⟩
      -- the writer's region is disjoint from what the reader may still read
      · rw [unread_store fun j hj => by rw [cap]; exact ok.disjoint rfl inRegion hj]
        simpa [marked_append, taken_append, QueueLabel.markedEvents, QueueLabel.takenEvents]
          using h.fifo
  | nothing queue buffer bufferSize eventsPolled none =>
      refine ⟨h.capacity_eq, h.size_le, h.start_lt, by simp [WriterState.region], by simp, by simp, ?_⟩
      simpa [marked_append, taken_append, QueueLabel.markedEvents, QueueLabel.takenEvents]
        using h.fifo
  | polled queue buffer bufferSize eventsPolled some contract =>
      refine ⟨h.capacity_eq, h.size_le, h.start_lt, h.region, ?_, by simp, ?_⟩
      · rintro _ _ _ ⟨⟩
        exact_mod_cast contract
      · simpa [marked_append, taken_append, QueueLabel.markedEvents, QueueLabel.takenEvents]
          using h.fifo
  | commit queue buffer bufferSize eventsPolled =>
      have ok := h.region _ _ rfl
      have count := h.polled_le _ _ _ rfl
      have cap : queue.mCapacity = capacity := h.capacity_eq
      have first : buffer = (queue.mStart + queue.mSize) % capacity := Option.some.inj ok.first
      have inside : buffer + bufferSize ≤ capacity := first ▸ ok.inside
      refine ⟨cap, ?_, h.start_lt, by simp [WriterState.region], by simp, by simp, ?_⟩
      · have := ok.room
        simp only [SensorEventQueue.markAsWritten] at this ⊢
        omega
      · rw [unread_markAsWritten (cap.symm ▸ first) (by omega), marked_append, taken_append, h.fifo]
        simp [QueueLabel.markedEvents, QueueLabel.takenEvents]
  | read queue writer event head =>
      have cap : queue.mCapacity = capacity := h.capacity_eq
      have unread := unread_dequeue (h.start_lt.trans_eq cap.symm) head
      have nonempty := (peek_eq_some.mp head).1
      have size_le : queue.mSize ≤ capacity := h.size_le
      have start_lt : queue.mStart < capacity := h.start_lt
      -- the reader moves the readable records' start, never the slot behind their end
      have stays : ((queue.mStart + 1) % capacity + (queue.mSize - 1)) % capacity =
          (queue.mStart + queue.mSize) % capacity := by
        rw [Nat.mod_add_mod]
        congr 1
        omega
      refine ⟨?_, ?_, ?_, ?_, h.polled_le, ?_, ?_⟩
      · simp [SensorEventQueue.dequeue, nonempty, cap]
      · simp only [SensorEventQueue.dequeue, if_neg nonempty]
        omega
      · simp only [SensorEventQueue.dequeue, if_neg nonempty, cap]
        exact Nat.mod_lt _ (by omega)
      · intro buffer size inUse
        have ok := h.region buffer size inUse
        have room : queue.mSize + size ≤ capacity := ok.room
        simp only [SensorEventQueue.dequeue, if_neg nonempty, cap]
        refine ⟨?_, ok.nonempty, ?_, ?_⟩
        · rw [stays]
          exact ok.first
        · rw [stays]
          exact ok.inside
        · simp only
          omega
      · intro blocked waiting
        -- a writer that waits found the queue full, so this is the read that wakes it up
        have asleep := h.asleep blocked
        simp only [SensorEventQueue.dequeue, if_neg nonempty] at waiting
        split_ifs at waiting with full
        · cases hw : queue.mSpaceAvailableCondition <;> simp [Waiter.broadcast, hw] at waiting
        · exact absurd ((asleep waiting).trans cap.symm) full
      · rw [marked_append, taken_append, h.fifo]
        simp [QueueLabel.markedEvents, QueueLabel.takenEvents, unread]

theorem run_inv {capacity : Nat} {mData : Nat → α} {labels : List (QueueLabel α)}
    {s : SubHalQueue α} (room : 1 ≤ capacity)
    (run : Run QueueStep (SubHalQueue.new capacity mData) labels s) : QueueInv capacity labels s :=
  run.invariant (new_inv room mData) fun _ _ _ _ h step => step_inv h step

/-- What one writer and one reader can rely on, whatever the order of their steps. -/
theorem queue_fifo {capacity : Nat} {mData : Nat → α} {labels : List (QueueLabel α)}
    {s : SubHalQueue α} (room : 1 ≤ capacity)
    (run : Run QueueStep (SubHalQueue.new capacity mData) labels s) :
    s.queue.mCapacity = capacity ∧ s.queue.mSize ≤ capacity ∧ s.queue.mStart < capacity ∧
    (∀ buffer bufferSize, s.writer.region = some (buffer, bufferSize) →
      ∃ first, buffer = some first ∧ 1 ≤ bufferSize ∧ first + bufferSize ≤ capacity ∧
        ∀ i < bufferSize, ∀ j < s.queue.mSize, first + i ≠ (s.queue.mStart + j) % capacity) ∧
    marked labels = taken labels ++ s.queue.unread := by
  have h := run_inv room run
  refine ⟨h.capacity_eq, h.size_le, h.start_lt, ?_, h.fifo⟩
  intro buffer bufferSize inUse
  have ok := h.region buffer bufferSize inUse
  exact ⟨_, ok.first, ok.nonempty, ok.inside, fun i hi j hj => ok.disjoint ok.first hi hj⟩

/-- Of four events that are written into three slots, two at once and the last into the slot of the
first, three are read. -/
theorem queue_fifo_filled_and_emptied :
    ∃ (labels : List (QueueLabel Nat)) (s : SubHalQueue Nat),
      Run QueueStep (SubHalQueue.new 3 fun _ => 0) labels s ∧
      taken labels = [7, 8, 9] ∧ s.queue.unread = [10] ∧ marked labels = [7, 8, 9, 10] := by
  have start : Run QueueStep (SubHalQueue.new 3 fun _ => 0) [] _ := .refl
  have two := ((((start.tail (.enter _)).tail (.write _ 0 3 0 7 (by decide))).tail
    (.write _ 0 3 1 8 (by decide))).tail (.polled _ _ _ 2 (by decide) (by decide))).tail
    (.commit _ _ _ _)
  have third := (((two.tail (.read _ _ 7 rfl)).tail (.enter _)).tail
    (.write _ 2 1 0 9 (by decide))).tail (.polled _ _ _ 1 (by decide) (by decide))
  have fourth := ((((third.tail (.commit _ _ _ _)).tail (.read _ _ 8 rfl)).tail (.enter _)).tail
    (.write _ 0 2 0 10 (by decide))).tail (.polled _ _ _ 1 (by decide) (by decide))
  have read := (fourth.tail (.commit _ _ _ _)).tail (.read _ _ 9 rfl)
  exact ⟨_, _, read, rfl, rfl, (queue_fifo (by decide) read).2.2.2.2⟩

end VibeXperia.Proof.MultiHal

import VibeXperia.MultiHal.Merge
import VibeXperia.Proof.MultiHal.Threads

namespace VibeXperia.Proof.MultiHal
open VibeXperia.MultiHal VibeXperia.Lib

variable {maps : HandleMaps} {maxReads : Int} {s : PollState}
variable {queues : List (SensorEventQueue SensorsEvent)} {queue : SensorEventQueue SensorsEvent}

/-! ## Turns -/

theorem waiting_getElem? {i : Nat} (found : queues[i]? = some queue) :
    (waiting queues)[i]? = some (queue.unread.map fun event => (i, event)) := by
  simp [waiting, found]

theorem waiting_set {i : Nat} (changed : SensorEventQueue SensorsEvent) :
    waiting (queues.set i changed) =
      (waiting queues).set i (changed.unread.map fun event => (i, event)) := by
  apply List.ext_getElem?
  intro j
  by_cases same : i = j
  · subst same
    by_cases inside : i < queues.length <;> simp [waiting, inside]
  · simp [waiting, List.getElem?_set_ne same]

theorem waiting_length : (waiting queues).length = queues.length := by simp [waiting]

theorem unread_of_size (empty : queue.mSize = 0) : queue.unread = [] := by
  simp [SensorEventQueue.unread, empty]

theorem unread_of_peek (head : queue.peek = none) : queue.unread = [] := by
  unfold SensorEventQueue.peek at head
  split_ifs at head with empty
  exact unread_of_size empty

theorem turns_empty {i : Nat} (found : queues[i]? = some queue) (head : queue.peek = none) :
    turns queues i = turns queues ((i + 1) % queues.length) := by
  have slot := waiting_getElem? found
  rw [unread_of_peek head, List.map_nil] at slot
  have kept : (waiting queues).set i [] = waiting queues := by
    obtain ⟨inside, same⟩ := List.getElem?_eq_some_iff.mp slot
    rw [← same, List.set_getElem_self]
  have next := RoundRobin.rotate_next slot []
  rw [kept, waiting_length] at next
  rw [turns, turns, RoundRobin.rotate_at slot, RoundRobin.merge_nil_cons, next]

theorem turns_event {i : Nat} {event : SensorsEvent} (found : queues[i]? = some queue)
    (start : queue.mStart < queue.mCapacity) (head : queue.peek = some event) :
    turns queues i =
      (i, event) :: turns (queues.set i queue.dequeue) ((i + 1) % queues.length) := by
  have slot := waiting_getElem? found
  have next := RoundRobin.rotate_next slot (queue.dequeue.unread.map fun event => (i, event))
  rw [turns, turns, RoundRobin.rotate_at slot, unread_dequeue start head, List.map_cons,
    RoundRobin.merge_cons, waiting_set, ← waiting_length, next]

theorem turns_eq_nil {i : Nat} (empty : ∀ queue ∈ queues, queue.mSize = 0) :
    turns queues i = [] := by
  apply RoundRobin.merge_eq_nil
  intro events member
  obtain ⟨⟨queue, place⟩, listed, rfl⟩ := List.mem_map.mp (List.mem_rotate.mp member)
  rw [unread_of_size (empty queue (List.fst_mem_of_mem_zipIdx listed)), List.map_nil]

theorem fromQueue_turns (queues : List (SensorEventQueue SensorsEvent)) (nextReadIndex i : Nat) :
    fromQueue i (turns queues nextReadIndex) = unreadAt queues i := by
  let events (queue : SensorEventQueue SensorsEvent × Nat) : List QueuedEvent :=
    queue.1.unread.map fun event => (queue.2, event)
  have rotated : (waiting queues).rotate nextReadIndex =
      (queues.zipIdx.rotate nextReadIndex).map events := by rw [waiting, List.map_rotate]
  have strange {others : List (SensorEventQueue SensorsEvent × Nat)}
      (apart : ∀ queue ∈ others, queue.2 ≠ i) : ∀ queued ∈ others.map events, ∀ x ∈ queued,
        (decide (x.1 = i) = false) := by
    intro queued listed x member
    obtain ⟨queue, other, rfl⟩ := List.mem_map.mp listed
    obtain ⟨event, -, rfl⟩ := List.mem_map.mp member
    exact decide_eq_false (apart queue other)
  rw [fromQueue, turns, rotated]
  cases found : queues[i]? with
  | none =>
      rw [RoundRobin.filter_merge_eq_nil, unreadAt, found]
      · rfl
      · apply strange
        intro queue listed same
        have place := List.mem_zipIdx_iff_getElem?.mp (List.mem_rotate.mp listed)
        rw [same, found] at place
        exact Option.some_ne_none _ place.symm
  | some queue =>
      have member : (queue, i) ∈ queues.zipIdx.rotate nextReadIndex :=
        List.mem_rotate.mpr (List.mem_zipIdx_iff_getElem?.mpr found)
      obtain ⟨before, after, split⟩ := List.append_of_mem member
      have places : ((queues.zipIdx.rotate nextReadIndex).map Prod.snd).Nodup := by
        rw [List.map_rotate, List.zipIdx_map_snd, List.nodup_rotate]
        exact List.nodup_range'
      rw [split, List.map_append, List.map_cons, List.nodup_middle, List.nodup_cons,
        ← List.map_append] at places
      have apart : ∀ other ∈ before ++ after, other.2 ≠ i := fun other listed same =>
        places.1 (List.mem_map.mpr ⟨other, listed, same⟩)
      rw [split, List.map_append, List.map_cons, RoundRobin.filter_merge, unreadAt, found]
      · simp [events]
      · intro x listed
        obtain ⟨event, -, rfl⟩ := List.mem_map.mp listed
        simp
      · rw [← List.map_append]
        exact strange apart

/-! ## The scan -/

theorem visit_delivers (maps : HandleMaps) (s : PollState) {event : SensorsEvent}
    (head : queue.peek = some event) :
    s.visit maps queue =
      { queues := s.queues.set s.nextReadIndex queue.dequeue
        nextReadIndex := (s.nextReadIndex + 1) % s.queues.length
        empties := 0
        data := s.data ++ [(s.nextReadIndex, event)].filterMap (delivery maps) } := by
  simp only [PollState.visit, head, delivery, List.filterMap_cons, List.filterMap_nil]
  split_ifs <;> simp

theorem start_lt_dequeue (start : queue.mStart < queue.mCapacity) :
    queue.dequeue.mStart < queue.dequeue.mCapacity := by
  by_cases empty : queue.mSize = 0
  · rw [SensorEventQueue.dequeue, if_pos empty]
    exact start
  · rw [SensorEventQueue.dequeue, if_neg empty]
    exact Nat.mod_lt _ (Nat.zero_lt_of_lt start)

theorem visit_readable (h : Readable s.queues s.nextReadIndex)
    (found : s.queues[s.nextReadIndex]? = some queue) :
    Readable (s.visit maps queue).queues (s.visit maps queue).nextReadIndex := by
  have inside : 0 < s.queues.length :=
    Nat.zero_lt_of_lt (List.getElem?_eq_some_iff.mp found).1
  cases head : queue.peek with
  | none =>
      rw [visit_empty head]
      exact ⟨h.start_lt, fun _ => Nat.mod_lt _ inside⟩
  | some event =>
      rw [visit_delivers maps s head]
      refine ⟨?_, ?_⟩
      · intro other member
        rcases List.mem_or_eq_of_mem_set member with old | rfl
        · exact h.start_lt other old
        · exact start_lt_dequeue (h.start_lt queue (List.mem_of_getElem? found))
      · intro _
        rw [List.length_set]
        exact Nat.mod_lt _ inside

structure Scanned (maps : HandleMaps) (maxReads : Int) (s t : PollState)
    (visited : List QueuedEvent) : Prop where
  order : turns s.queues s.nextReadIndex = visited ++ turns t.queues t.nextReadIndex
  data : t.data = s.data ++ visited.filterMap (delivery maps)
  stops : visited ≠ [] →
    s.data.length + (visited.dropLast.filterMap (delivery maps)).length < maxReads
  readable : Readable t.queues t.nextReadIndex

theorem Scanned.nothing (h : Readable s.queues s.nextReadIndex) : Scanned maps maxReads s s [] where
  order := rfl
  data := (List.append_nil _).symm
  stops := fun some => absurd rfl some
  readable := h

theorem Scanned.visit {t : PollState} {visited : List QueuedEvent}
    (h : Readable s.queues s.nextReadIndex) (room : s.data.length < maxReads)
    (found : s.queues[s.nextReadIndex]? = some queue)
    (rest : Scanned maps maxReads (s.visit maps queue) t visited) :
    ∃ visited, Scanned maps maxReads s t visited := by
  have order := rest.order
  have data := rest.data
  have stops := rest.stops
  cases head : queue.peek with
  | none =>
      rw [visit_empty head] at order data stops
      refine ⟨visited, ?_, data, stops, rest.readable⟩
      rw [turns_empty found head]
      exact order
  | some event =>
      have start := h.start_lt queue (List.mem_of_getElem? found)
      rw [visit_delivers maps s head] at order data stops
      refine ⟨(s.nextReadIndex, event) :: visited, ?_, ?_, ?_, rest.readable⟩
      · rw [turns_event found start head, List.cons_append]
        exact congrArg _ order
      · rw [data, List.append_assoc, ← List.filterMap_append, List.singleton_append]
      · intro _
        cases visited with
        | nil => simpa using room
        | cons next visited =>
            have later := stops (List.cons_ne_nil _ _)
            rw [List.dropLast_cons_cons, ← List.singleton_append, List.filterMap_append,
              List.length_append]
            rw [List.length_append] at later
            push_cast at later ⊢
            omega

theorem scan_visits (h : Readable s.queues s.nextReadIndex) :
    ∃ visited, Scanned maps maxReads s (PollState.scan maps maxReads s) visited := by
  fun_induction PollState.scan maps maxReads s with
  | case1 s more queue found ih =>
      obtain ⟨visited, rest⟩ := ih (visit_readable h found)
      exact rest.visit h more.2 found
  | case2 s more outside => exact ⟨[], .nothing h⟩
  | case3 s done => exact ⟨[], .nothing h⟩

/-! ## What `poll` hands over -/

theorem pollScan_empties {nextReadIndex : Nat} (h : Readable queues nextReadIndex)
    (room : (pollScan maps maxReads queues nextReadIndex).data.length < maxReads) :
    ∀ queue ∈ (pollScan maps maxReads queues nextReadIndex).queues, queue.mSize = 0 := by
  intro queue member
  have size := (scan_reads maps maxReads ⟨queues, nextReadIndex, 0, []⟩).length_eq
  have some : queues ≠ [] := by
    rw [← List.length_pos_iff]
    exact (List.length_pos_of_mem member).trans_eq size.symm
  exact scan_empties (h.next_lt some) room member

theorem pollScan_polled {nextReadIndex : Nat} (h : Readable queues nextReadIndex)
    (room : 0 < maxReads) :
    ∃ visited, Polled maps maxReads queues nextReadIndex visited := by
  obtain ⟨visited, scanned⟩ :=
    @scan_visits maps maxReads ⟨queues, nextReadIndex, 0, []⟩ h
  have order : turns queues nextReadIndex = visited ++
      turns (pollScan maps maxReads queues nextReadIndex).queues
        (pollScan maps maxReads queues nextReadIndex).nextReadIndex := scanned.order
  have data : (pollScan maps maxReads queues nextReadIndex).data =
      visited.filterMap (delivery maps) := scanned.data.trans (List.nil_append _)
  have stops (some : visited ≠ []) :
      ((visited.dropLast.filterMap (delivery maps)).length : Int) < maxReads := by
    simpa using scanned.stops some
  refine ⟨visited, ⟨⟨_, order⟩, data, ?_, ?_, stops, pollScan_empties h⟩⟩
  · rw [order, List.filterMap_append, ← data]
    by_cases full : (pollScan maps maxReads queues nextReadIndex).data.length < maxReads
    · rw [turns_eq_nil (pollScan_empties h full), List.filterMap_nil, List.append_nil,
        List.take_of_length_le (by omega)]
    · have most : ((visited.filterMap (delivery maps)).length : Int) ≤ maxReads := by
        rcases List.eq_nil_or_concat visited with none | ⟨init, last, rfl⟩
        · rw [none]
          exact room.le
        · have before := stops (by simp)
          have one := List.length_filterMap_le (delivery maps) [last]
          rw [List.concat_eq_append, List.dropLast_concat] at before
          rw [List.concat_eq_append, List.filterMap_append, List.length_append]
          push_cast
          rw [List.length_singleton] at one
          omega
      rw [← data] at most
      rw [List.take_left' (by omega)]
  · intro i
    have all := fromQueue_turns queues nextReadIndex i
    rw [order, fromQueue, List.filter_append, List.map_append] at all
    exact all.symm.trans (congrArg _ (fromQueue_turns _ _ i))

theorem putBack_queues {subHals : List (SubHalQueue SensorsEvent)}
    (same : subHals.length = queues.length) :
    (System.putBack subHals queues).map (·.queue) = queues := by
  rw [System.putBack, List.map_zipWith]
  apply List.ext_getElem
  · simp [same]
  · intro i _ _
    simp

theorem pollBlock_queues (maps : HandleMaps) (maxReads : Int) (s : System) :
    (s.pollBlock maps maxReads).queues = (pollScan maps maxReads s.queues s.nextReadIndex).queues := by
  have size := (scan_reads maps maxReads ⟨s.queues, s.nextReadIndex, 0, []⟩).length_eq
  have same : s.subHals.length =
      (pollScan maps maxReads s.queues s.nextReadIndex).queues.length := by
    rw [pollScan, ← size, System.queues, List.length_map]
  unfold System.pollBlock
  dsimp only
  split_ifs <;> exact putBack_queues same

theorem pollBlock_idle (maps : HandleMaps) (maxReads : Int) (s : System) :
    (s.pollBlock maps maxReads).poller = .idle ↔
      (pollScan maps maxReads s.queues s.nextReadIndex).data ≠ [] := by
  rw [ne_eq, ← List.length_eq_zero_iff]
  unfold System.pollBlock pollScan
  dsimp only
  split_ifs with nothing <;> simp [nothing]

/-- A `poll` with room for events hands over the first that can be delivered, the queues taking
turns, and returns, unless there are none. -/
theorem poll_takes_turns {s : System} (readable : Readable s.queues s.nextReadIndex)
    (room : 0 < maxReads) :
    (∃ visited, Polled maps maxReads s.queues s.nextReadIndex visited) ∧
    (s.pollBlock maps maxReads).queues =
      (pollScan maps maxReads s.queues s.nextReadIndex).queues ∧
    ((s.pollBlock maps maxReads).poller = .idle ↔
      (turns s.queues s.nextReadIndex).filterMap (delivery maps) ≠ []) := by
  obtain ⟨visited, polled⟩ := @pollScan_polled maps maxReads _ _ readable room
  have most : maxReads.toNat ≠ 0 := by omega
  refine ⟨⟨visited, polled⟩, pollBlock_queues maps maxReads s, ?_⟩
  rw [pollBlock_idle, polled.first, ne_eq, List.take_eq_nil_iff, not_or]
  exact and_iff_right most

theorem SystemInv.readable {s : System} (h : SystemInv s) :
    Readable s.queues s.nextReadIndex where
  start_lt := by
    intro queue member
    obtain ⟨subHal, listed, rfl⟩ := List.mem_map.mp member
    obtain ⟨mData, labels, run⟩ := h.reachable subHal listed
    have queue := run_inv (by decide) run
    exact queue.start_lt.trans_eq queue.capacity_eq.symm
  next_lt := by
    intro some
    rw [System.queues, List.length_map]
    apply h.next_lt
    rintro none
    exact some (by rw [System.queues, none, List.map_nil])

def twoSubHals : System :=
  { oneSubHal with
    subHals := [⟨⟨36, 0, 1, fun _ => ⟨5, 1, 0, 10⟩, .running⟩, .ready⟩,
      ⟨⟨36, 35, 2, fun i => ⟨if i = 35 then 6 else 7, 1, 0, 20⟩, .running⟩, .ready⟩]
    nextReadIndex := 1 }

theorem poll_takes_turns_twoSubHals :
    (∃ visited, Polled ((HandleMaps.empty.assignGlobalHandle 0 5).2.assignGlobalHandle 1 7).2 2
      twoSubHals.queues 1 visited) := by
  have readable : Readable twoSubHals.queues twoSubHals.nextReadIndex := by
    refine ⟨?_, fun _ => by decide⟩
    simp [twoSubHals, System.queues]
  exact (poll_takes_turns readable (by decide)).1

end VibeXperia.Proof.MultiHal

import Mathlib.Data.List.Forall2
import VibeXperia.MultiHal.Threads
import VibeXperia.Proof.MultiHal.Queue

namespace VibeXperia.Proof.MultiHal
open VibeXperia.MultiHal VibeXperia.Lib

/-! ## The scan of `poll` -/

theorem visit_empty {maps : HandleMaps} {s : PollState} {queue : SensorEventQueue SensorsEvent}
    (head : queue.peek = none) :
    s.visit maps queue =
      { s with
        empties := s.empties + 1
        nextReadIndex := (s.nextReadIndex + 1) % s.queues.length } := by
  simp [PollState.visit, head]

theorem visit_event (maps : HandleMaps) (s : PollState) {queue : SensorEventQueue SensorsEvent}
    {event : SensorsEvent} (head : queue.peek = some event) :
    ∃ data, s.visit maps queue =
      { queues := s.queues.set s.nextReadIndex queue.dequeue
        nextReadIndex := (s.nextReadIndex + 1) % s.queues.length
        empties := 0
        data } := by
  simp [PollState.visit, head]

theorem scan_done {maps : HandleMaps} {maxReads : Int} {s : PollState}
    (done : ¬ (s.empties < s.queues.length ∧ s.data.length < maxReads)) :
    PollState.scan maps maxReads s = s := by
  rw [PollState.scan, if_neg done]

theorem scan_more {maps : HandleMaps} {maxReads : Int} {s : PollState}
    {queue : SensorEventQueue SensorsEvent}
    (more : s.empties < s.queues.length ∧ s.data.length < maxReads)
    (found : s.queues[s.nextReadIndex]? = some queue) :
    PollState.scan maps maxReads s = PollState.scan maps maxReads (s.visit maps queue) := by
  rw [PollState.scan, if_pos more]
  split
  · simp_all
  · simp_all

theorem scan_invariant {maps : HandleMaps} {maxReads : Int} {inv : PollState → Prop}
    (keep : ∀ s queue, inv s → s.queues[s.nextReadIndex]? = some queue →
      inv (s.visit maps queue)) {s : PollState} (start : inv s) :
    inv (PollState.scan maps maxReads s) := by
  fun_induction PollState.scan maps maxReads s with
  | case1 s more queue found ih => exact ih (keep s queue start found)
  | case2 s more outside => exact start
  | case3 s done => exact start

/-- A scan that stays inside the vector goes on until all queues were empty in a row or `data`
is full. -/
theorem scan_stops {maps : HandleMaps} {maxReads : Int} {s : PollState}
    (inside : (PollState.scan maps maxReads s).nextReadIndex <
      (PollState.scan maps maxReads s).queues.length) :
    (PollState.scan maps maxReads s).queues.length ≤ (PollState.scan maps maxReads s).empties ∨
      maxReads ≤ (PollState.scan maps maxReads s).data.length := by
  fun_induction PollState.scan maps maxReads s with
  | case1 s more queue found ih => exact ih inside
  | case2 s more outside =>
      rw [List.getElem?_eq_none_iff] at outside
      omega
  | case3 s done => omega

/-- The queue at `j` was one of the last `empties` queues visited before `next`, of `n`. -/
def Recent (n next empties j : Nat) : Prop :=
  j < next ∧ next ≤ j + empties ∨ next ≤ j ∧ n + next ≤ j + empties

structure ScanInv (n : Nat) (s : PollState) : Prop where
  length_eq : s.queues.length = n
  next_lt : s.nextReadIndex < n
  empty : ∀ (j : Nat) (queue : SensorEventQueue SensorsEvent), s.queues[j]? = some queue →
    Recent n s.nextReadIndex s.empties j → queue.mSize = 0

theorem visit_inv {maps : HandleMaps} {n : Nat} {s : PollState}
    {queue : SensorEventQueue SensorsEvent} (h : ScanInv n s)
    (found : s.queues[s.nextReadIndex]? = some queue) : ScanInv n (s.visit maps queue) := by
  have length_eq := h.length_eq
  have next_lt := h.next_lt
  have next : (s.nextReadIndex + 1) % n =
      if s.nextReadIndex + 1 = n then 0 else s.nextReadIndex + 1 := by
    split_ifs with last
    · rw [last, Nat.mod_self]
    · exact Nat.mod_eq_of_lt (by omega)
  cases head : queue.peek with
  | none =>
      rw [visit_empty head]
      refine ⟨length_eq, ?_, ?_⟩
      · simp only [length_eq]
        exact Nat.mod_lt _ (by omega)
      · intro j other place recent
        simp only [length_eq, next] at recent place
        by_cases here : j = s.nextReadIndex
        · obtain rfl : queue = other := by
            rw [here, found] at place
            exact Option.some.inj place
          unfold SensorEventQueue.peek at head
          split_ifs at head with empty
          exact empty
        · have := (List.getElem?_eq_some_iff.mp place).1
          refine h.empty j other place ?_
          unfold Recent at recent ⊢
          split_ifs at recent <;> omega
  | some event =>
      obtain ⟨data, turn⟩ := visit_event maps s head
      rw [turn]
      refine ⟨by simp [length_eq], ?_, ?_⟩
      · simp only [length_eq]
        exact Nat.mod_lt _ (by omega)
      · intro j other place recent
        have := (List.getElem?_eq_some_iff.mp place).1
        simp only [List.length_set] at this
        unfold Recent at recent
        dsimp only at recent
        omega

theorem scan_inv (maps : HandleMaps) (maxReads : Int)
    {queues : List (SensorEventQueue SensorsEvent)} {nextReadIndex : Nat}
    (inside : nextReadIndex < queues.length) :
    ScanInv queues.length (PollState.scan maps maxReads ⟨queues, nextReadIndex, 0, []⟩) := by
  refine scan_invariant (fun s queue h found => visit_inv h found) ⟨rfl, inside, ?_⟩
  intro j queue place recent
  have := (List.getElem?_eq_some_iff.mp place).1
  unfold Recent at recent
  dsimp only at recent this
  omega

theorem scan_empties {maps : HandleMaps} {maxReads : Int}
    {queues : List (SensorEventQueue SensorsEvent)} {nextReadIndex : Nat}
    (inside : nextReadIndex < queues.length)
    (room : (PollState.scan maps maxReads ⟨queues, nextReadIndex, 0, []⟩).data.length < maxReads)
    {queue : SensorEventQueue SensorsEvent}
    (member : queue ∈ (PollState.scan maps maxReads ⟨queues, nextReadIndex, 0, []⟩).queues) :
    queue.mSize = 0 := by
  have result := scan_inv maps maxReads inside
  have stopped := scan_stops (result.next_lt.trans_eq result.length_eq.symm)
  obtain ⟨j, hj, rfl⟩ := List.getElem_of_mem member
  refine result.empty j _ (List.getElem?_eq_getElem hj) ?_
  have length_eq := result.length_eq
  have next_lt := result.next_lt
  unfold Recent
  omega

/-! ## What `poll` does to a queue -/

def Reads (q q' : SensorEventQueue SensorsEvent) : Prop :=
  ∀ writer, ∃ labels, Run QueueStep ⟨q, writer⟩ labels ⟨q', writer⟩

theorem Reads.refl (q : SensorEventQueue SensorsEvent) : Reads q q := fun _ => ⟨[], .refl⟩

theorem Reads.dequeue {q q' : SensorEventQueue SensorsEvent} {event : SensorsEvent}
    (reads : Reads q q') (head : q'.peek = some event) : Reads q q'.dequeue := by
  intro writer
  obtain ⟨labels, run⟩ := reads writer
  exact ⟨_, run.tail (QueueStep.read q' writer event head)⟩

theorem forall₂_set {α β : Type*} {r : α → β → Prop} {xs : List α} {ys : List β} {i : Nat}
    {y y' : β} (related : List.Forall₂ r xs ys) (place : ys[i]? = some y)
    (keep : ∀ x, r x y → r x y') : List.Forall₂ r xs (ys.set i y') := by
  induction related generalizing i with
  | nil => simp at place
  | @cons x z xs ys first rest ih =>
      cases i with
      | zero =>
          obtain rfl : z = y := by simpa using place
          exact .cons (keep x first) rest
      | succ i => exact .cons first (ih (by simpa using place))

theorem scan_reads (maps : HandleMaps) (maxReads : Int) (s : PollState) :
    List.Forall₂ Reads s.queues (PollState.scan maps maxReads s).queues := by
  have start : List.Forall₂ Reads s.queues s.queues := List.forall₂_same.mpr fun q _ => .refl q
  refine @scan_invariant maps maxReads (fun t => List.Forall₂ Reads s.queues t.queues) ?_ s start
  intro t queue reads found
  cases head : queue.peek with
  | none =>
      rw [visit_empty head]
      exact reads
  | some event =>
      obtain ⟨data, turn⟩ := visit_event maps t head
      rw [turn]
      exact forall₂_set reads found fun q before => before.dequeue head

/-! ## The invariant of all threads -/

def SubHalReachable (subHal : SubHalQueue SensorsEvent) : Prop :=
  ∃ mData labels, Run QueueStep (SubHalQueue.new SENSOR_EVENT_QUEUE_CAPACITY mData) labels subHal

theorem SubHalReachable.step {s t : SubHalQueue SensorsEvent} {l : QueueLabel SensorsEvent}
    (reachable : SubHalReachable s) (step : QueueStep s l t) : SubHalReachable t := by
  obtain ⟨mData, labels, run⟩ := reachable
  exact ⟨mData, _, run.tail step⟩

theorem SubHalReachable.reads {queue queue' : SensorEventQueue SensorsEvent} {writer : WriterState}
    (reachable : SubHalReachable ⟨queue, writer⟩) (reads : Reads queue queue') :
    SubHalReachable ⟨queue', writer⟩ := by
  obtain ⟨mData, labels, run⟩ := reachable
  obtain ⟨more, rest⟩ := reads writer
  exact ⟨mData, _, run.trans rest⟩

theorem reachable_of_reads {subHals : List (SubHalQueue SensorsEvent)}
    {queues : List (SensorEventQueue SensorsEvent)}
    (reads : List.Forall₂ Reads (subHals.map (·.queue)) queues)
    (reachable : ∀ subHal ∈ subHals, SubHalReachable subHal) :
    ∀ subHal ∈ System.putBack subHals queues, SubHalReachable subHal := by
  unfold System.putBack
  induction subHals generalizing queues with
  | nil => simp
  | cons first rest ih =>
      rw [List.map_cons, List.forall₂_cons_left_iff] at reads
      obtain ⟨queue, others, readsFirst, readsRest, rfl⟩ := reads
      intro subHal member
      rw [List.zipWith_cons_cons, List.mem_cons] at member
      rcases member with rfl | member
      · exact (reachable first (by simp)).reads readsFirst
      · exact ih readsRest (fun x h => reachable x (by simp [h])) subHal member

structure SystemInv (s : System) : Prop where
  next_lt : s.subHals ≠ [] → s.nextReadIndex < s.subHals.length
  reachable : ∀ subHal ∈ s.subHals, SubHalReachable subHal
  asleep : ∀ maxReads, s.poller = .blocked maxReads → s.dataAvailableCond = .waiting →
    s.waitingForData = true ∧ (0 < maxReads → ∀ subHal ∈ s.subHals, subHal.queue.mSize = 0)

theorem start_inv (mDatas : List (Nat → SensorsEvent)) : SystemInv (System.start mDatas) where
  next_lt := by
    intro some
    simpa [System.start, List.length_pos_iff] using some
  reachable := by
    intro subHal member
    obtain ⟨mData, -, rfl⟩ := List.mem_map.mp member
    exact ⟨mData, [], .refl⟩
  asleep := by simp [System.start]

theorem pollBlock_inv {maps : HandleMaps} {maxReads : Int} {s : System}
    (next_lt : s.subHals ≠ [] → s.nextReadIndex < s.subHals.length)
    (reachable : ∀ subHal ∈ s.subHals, SubHalReachable subHal) :
    SystemInv (s.pollBlock maps maxReads) := by
  have reads := scan_reads maps maxReads ⟨s.queues, s.nextReadIndex, 0, []⟩
  have queues : s.queues.length = s.subHals.length := by simp [System.queues]
  have size : (System.putBack s.subHals (PollState.scan maps maxReads
      ⟨s.queues, s.nextReadIndex, 0, []⟩).queues).length = s.subHals.length := by
    simp [System.putBack, ← reads.length_eq, queues]
  have inside (subHal) (member : subHal ∈ System.putBack s.subHals (PollState.scan maps maxReads
      ⟨s.queues, s.nextReadIndex, 0, []⟩).queues) : s.nextReadIndex < s.queues.length := by
    have some := List.length_pos_of_mem member
    rw [size, List.length_pos_iff] at some
    exact (next_lt some).trans_eq queues.symm
  have next_lt' (some : System.putBack s.subHals (PollState.scan maps maxReads
      ⟨s.queues, s.nextReadIndex, 0, []⟩).queues ≠ []) :
      (PollState.scan maps maxReads ⟨s.queues, s.nextReadIndex, 0, []⟩).nextReadIndex <
        (System.putBack s.subHals (PollState.scan maps maxReads
          ⟨s.queues, s.nextReadIndex, 0, []⟩).queues).length := by
    obtain ⟨subHal, member⟩ := List.exists_mem_of_ne_nil _ some
    rw [size, ← queues]
    exact (scan_inv maps maxReads (inside subHal member)).next_lt
  unfold System.pollBlock
  dsimp only
  split_ifs with nothing
  · refine ⟨next_lt', reachable_of_reads reads reachable, fun _ blocked _ => ⟨rfl, ?_⟩⟩
    obtain rfl := Poller.blocked.inj blocked
    intro room subHal member
    have start := inside subHal member
    obtain ⟨j, hj, rfl⟩ := List.getElem_of_mem member
    simp only [System.putBack, List.getElem_zipWith]
    exact scan_empties start (by omega) (List.getElem_mem _)
  · exact ⟨next_lt', reachable_of_reads reads reachable, by simp⟩

theorem mSize_of_silent {s t : SubHalQueue SensorsEvent} (step : QueueStep s .silent t) :
    t.queue.mSize = s.queue.mSize := by
  have acquired (queue : SensorEventQueue SensorsEvent) :
      (SubHalQueue.acquire queue).queue.mSize = queue.mSize := by
    unfold SubHalQueue.acquire SensorEventQueue.waitForSpace
    split_ifs <;> rfl
  cases step with
  | enter queue => exact acquired queue
  | wake queue => exact acquired queue
  | write => rfl
  | nothing => rfl
  | polled => rfl

theorem set_reachable {subHals : List (SubHalQueue SensorsEvent)} {i : Nat}
    {before after : SubHalQueue SensorsEvent} {l : QueueLabel SensorsEvent}
    (reachable : ∀ subHal ∈ subHals, SubHalReachable subHal) (place : subHals[i]? = some before)
    (step : QueueStep before l after) : ∀ subHal ∈ subHals.set i after, SubHalReachable subHal := by
  intro subHal member
  rcases List.mem_or_eq_of_mem_set member with old | rfl
  · exact reachable subHal old
  · exact (reachable before (List.mem_of_getElem? place)).step step

theorem system_step_inv {maps : HandleMaps} {s t : System} {thread : Thread} (h : SystemInv s)
    (step : SystemStep maps s thread t) : SystemInv t := by
  cases step with
  | writer i before after place step =>
      refine ⟨by simpa using h.next_lt, set_reachable h.reachable place step, ?_⟩
      intro maxReads blocked waiting
      obtain ⟨flag, empty⟩ := h.asleep maxReads blocked waiting
      refine ⟨flag, fun room subHal member => ?_⟩
      rcases List.mem_or_eq_of_mem_set member with old | rfl
      · exact empty room subHal old
      · rw [mSize_of_silent step]
        exact empty room before (List.mem_of_getElem? place)
  | commit i before events after place step =>
      refine ⟨by simpa [System.announce] using h.next_lt, set_reachable h.reachable place step, ?_⟩
      intro maxReads blocked waiting
      -- whoever sleeps has set the flag, so the broadcast is made and nobody is left waiting
      cases cond : s.dataAvailableCond <;> cases flag : s.waitingForData <;>
        simp [System.announce, cond, flag, Waiter.broadcast] at waiting
      exact absurd (h.asleep maxReads blocked cond).1 (by simp [flag])
  | poll maxReads idle => exact pollBlock_inv h.next_lt h.reachable
  | wake maxReads blocked => exact pollBlock_inv h.next_lt h.reachable

/-- A caller of `poll` with room for events sleeps only while there are none, and a writer sleeps
only while its queue is full, unless a broadcast is on its way. -/
theorem no_lost_wake_up {maps : HandleMaps} {mDatas : List (Nat → SensorsEvent)}
    {threads : List Thread} {s : System}
    (run : Run (SystemStep maps) (System.start mDatas) threads s) :
    (∀ maxReads, 1 ≤ maxReads → s.poller = .blocked maxReads → s.dataAvailableCond = .waiting →
      ∀ subHal ∈ s.subHals, subHal.queue.mSize = 0) ∧
    ∀ subHal ∈ s.subHals, subHal.writer = .blocked →
      subHal.queue.mSpaceAvailableCondition = .waiting →
      subHal.queue.mSize = subHal.queue.mCapacity := by
  have h : SystemInv s := run.invariant (start_inv mDatas) fun _ _ _ _ => system_step_inv
  refine ⟨fun maxReads room blocked waiting => (h.asleep maxReads blocked waiting).2 room, ?_⟩
  intro subHal member blocked waiting
  obtain ⟨mData, labels, run⟩ := h.reachable subHal member
  have queue := run_inv (by decide) run
  exact (queue.asleep blocked waiting).trans queue.capacity_eq.symm

def unknownSubHals : System := System.start [fun _ => ⟨0, 1, 0, 0⟩, fun _ => ⟨0, 1, 0, 0⟩]

theorem pollBlock_asleep {maps : HandleMaps} {maxReads : Int} {s : System}
    (none : (PollState.scan maps maxReads ⟨s.queues, s.nextReadIndex, 0, []⟩).data.length = 0) :
    (s.pollBlock maps maxReads).poller = .blocked maxReads ∧
      (s.pollBlock maps maxReads).dataAvailableCond = .waiting := by
  rw [System.pollBlock, if_pos none]
  exact ⟨rfl, rfl⟩

theorem unknownSubHals_events : ∃ threads s, Run (SystemStep .empty) unknownSubHals threads s ∧
    s.poller = .idle ∧
    (PollState.scan .empty 1 ⟨s.queues, s.nextReadIndex, 0, []⟩).data.length = 0 := by
  have start : Run (SystemStep .empty) unknownSubHals [] _ := .refl
  have two := ((start.tail (SystemStep.writer _ 0 _ _ rfl (.enter _))).tail
    (SystemStep.writer _ 0 _ _ rfl (.polled _ (some 0) 36 2 (by omega) (by omega)))).tail
    (SystemStep.commit _ 0 _ _ _ rfl (.commit _ 0 36 2))
  refine ⟨_, _, two, rfl, ?_⟩
  rw [scan_more (by decide) rfl, scan_more (by decide) rfl, scan_more (by decide) rfl,
    scan_more (by decide) rfl, scan_more (by decide) rfl, scan_done (by decide)]
  rfl

/-- `poll` drops the events and goes to sleep, and so does a writer that has filled its queue. -/
theorem no_lost_wake_up_both_asleep :
    (∃ threads s, Run (SystemStep .empty) unknownSubHals threads s ∧
      s.poller = .blocked 1 ∧ s.dataAvailableCond = .waiting ∧
      ∀ subHal ∈ s.subHals, subHal.queue.mSize = 0) ∧
    ∃ threads s subHal, Run (SystemStep .empty) unknownSubHals threads s ∧ subHal ∈ s.subHals ∧
      subHal.writer = .blocked ∧ subHal.queue.mSpaceAvailableCondition = .waiting ∧
      subHal.queue.mSize = subHal.queue.mCapacity := by
  constructor
  · obtain ⟨threads, s, two, idle, none⟩ := unknownSubHals_events
    obtain ⟨blocked, waiting⟩ := pollBlock_asleep none
    have poll := two.tail (SystemStep.poll s 1 idle)
    exact ⟨_, _, poll, blocked, waiting, (no_lost_wake_up poll).1 1 (by decide) blocked waiting⟩
  · have start : Run (SystemStep .empty) unknownSubHals [] _ := .refl
    have full := (((start.tail (SystemStep.writer _ 0 _ _ rfl (.enter _))).tail
      (SystemStep.writer _ 0 _ _ rfl (.polled _ (some 0) 36 36 (by omega) (by omega)))).tail
      (SystemStep.commit _ 0 _ _ _ rfl (.commit _ 0 36 36))).tail
      (SystemStep.writer _ 0 _ _ rfl (.enter _))
    refine ⟨_, _, _, full, List.mem_cons_self, rfl, rfl, ?_⟩
    exact (no_lost_wake_up full).2 _ List.mem_cons_self rfl rfl

def oneSubHal : System := System.start [fun _ => ⟨0, 0, 0, 0⟩]

/-- Called without room for a single event, `poll` sleeps over one that is there. -/
theorem poll_without_room_sleeps :
    ∃ threads s, Run (SystemStep .empty) oneSubHal threads s ∧
      s.poller = .blocked 0 ∧ s.dataAvailableCond = .waiting ∧
      ∃ subHal ∈ s.subHals, subHal.queue.mSize ≠ 0 := by
  have start : Run (SystemStep .empty) oneSubHal [] _ := .refl
  have enter := start.tail (SystemStep.writer _ 0 _ _ rfl (.enter _))
  have polled := enter.tail (SystemStep.writer _ 0 _ _ rfl
    (.polled _ (some 0) 36 1 (by omega) (by omega)))
  have commit := polled.tail (SystemStep.commit _ 0 _ _ _ rfl (.commit _ 0 36 1))
  have poll := commit.tail (SystemStep.poll _ 0 rfl)
  refine ⟨_, _, poll, ?_⟩
  rw [System.pollBlock, scan_done (by simp)]
  exact ⟨rfl, rfl, _, List.mem_singleton_self _, by decide⟩

end VibeXperia.Proof.MultiHal

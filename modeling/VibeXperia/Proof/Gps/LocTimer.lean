import VibeXperia.Gps.LocTimer

namespace VibeXperia.Proof.Gps
open Lib VibeXperia.Gps

variable {s : LocTimer} {e : TimerStep} {effects : List TimerEffect}

/-! ## Steps -/

inductive TimerMoves (s : LocTimer) : TimerStep → LocTimer → List TimerEffect → Prop
  | nothing (e : TimerStep) : TimerMoves s e s []
  | startReturns : TimerMoves s .startReturns { s with started := true } []
  | waits (thread : s.thread = .entered) (ready : s.state = .ready) :
      TimerMoves s .locks { s with state := .waiting, thread := .timedWait } []
  | cancelled (thread : s.thread = .entered) (state : s.state ≠ .ready) :
      TimerMoves s .locks { s with thread := .unlocked (-etimedout) } []
  | timesOut (thread : s.thread = .timedWait) :
      TimerMoves s .timesOut { s with thread := .waited etimedout } []
  | wakesUp (thread : s.thread = .timedWait) :
      TimerMoves s .wakesUp { s with thread := .waited 0 } []
  | locksAgain (ret : Int) (thread : s.thread = .waited ret) :
      TimerMoves s .locksAgain { s with state := .done, thread := .unlocked ret } []
  | calls (thread : s.thread = .unlocked etimedout) :
      TimerMoves s .calls { s with thread := .called } [.callbackFunc etimedout]
  | skips (ret : Int) (thread : s.thread = .unlocked ret) (other : ret ≠ etimedout) :
      TimerMoves s .calls { s with thread := .called } []
  | frees (thread : s.thread = .called) : TimerMoves s .frees { s with thread := .freed } []
  | stopChecks (caller : Nat) (call : StopCall) (unmarked : call = .locking ∨ call = .unlocked none) :
      TimerMoves s (.stopChecks caller) (s.setStop caller call) []
  | stopAborts (caller : Nat) (call : s.stops caller = some .locking)
      (pending : s.state = .ready ∨ s.state = .waiting) :
      TimerMoves s (.stopLocks caller)
        ({ s with state := .abort, thread := LocTimer.signal s.thread }.setStop caller
          (.unlocked (some s.state))) []
  | stopMisses (caller : Nat) (call : s.stops caller = some .locking) :
      TimerMoves s (.stopLocks caller) (s.setStop caller (.unlocked none)) []
  | stopReturns (caller : Nat) (aborted : Option TimerState)
      (call : s.stops caller = some (.unlocked aborted)) :
      TimerMoves s (.stopReturns caller) (s.setStop caller (.returned aborted)) [.stopped aborted]

theorem timerStep_moves : TimerMoves s e (s.step e).1 (s.step e).2 := by
  cases e with
  | startReturns => exact .startReturns
  | locks =>
      unfold LocTimer.step LocTimer.threadStep
      cases thread : s.thread with
      | entered =>
          dsimp only
          split_ifs with ready
          · exact .waits thread ready
          · exact .cancelled thread ready
      | _ => exact .nothing _
  | timesOut =>
      unfold LocTimer.step LocTimer.threadStep
      cases thread : s.thread with
      | timedWait => exact .timesOut thread
      | _ => exact .nothing _
  | wakesUp =>
      unfold LocTimer.step LocTimer.threadStep
      cases thread : s.thread with
      | timedWait => exact .wakesUp thread
      | _ => exact .nothing _
  | locksAgain =>
      unfold LocTimer.step LocTimer.threadStep
      cases thread : s.thread with
      | waited ret => exact .locksAgain ret thread
      | _ => exact .nothing _
  | calls =>
      unfold LocTimer.step LocTimer.threadStep
      cases thread : s.thread with
      | unlocked ret =>
          dsimp only
          split_ifs with same
          · subst same
            exact .calls thread
          · exact .skips ret thread same
      | _ => exact .nothing _
  | frees =>
      unfold LocTimer.step LocTimer.threadStep
      cases thread : s.thread with
      | called => exact .frees thread
      | _ => exact .nothing _
  | stopChecks caller =>
      unfold LocTimer.step
      dsimp only
      split_ifs
      · exact .stopChecks caller _ (.inl rfl)
      · exact .stopChecks caller _ (.inr rfl)
      · exact .nothing _
  | stopLocks caller =>
      unfold LocTimer.step
      dsimp only
      cases call : s.stops caller with
      | none => exact .nothing _
      | some phase =>
          cases phase with
          | locking =>
              dsimp only
              rw [LocTimer.stopBlock]
              split_ifs with pending
              · exact .stopAborts caller call (by simpa [LocTimer.pending] using pending)
              · exact .stopMisses caller call
          | _ => exact .nothing _
  | stopReturns caller =>
      unfold LocTimer.step
      dsimp only
      cases call : s.stops caller with
      | none => exact .nothing _
      | some phase =>
          cases phase with
          | unlocked aborted => exact .stopReturns caller aborted call
          | _ => exact .nothing _

/-! ## No callback after a stop -/

def StopCall.aborted : StopCall → Option TimerState
  | .locking => none
  | .unlocked aborted | .returned aborted => aborted

structure Quiet (effects : List TimerEffect) (s : LocTimer) : Prop where
  thread : s.thread = .waited 0 ∨ s.thread = .unlocked 0 ∨ s.thread = .called ∨ s.thread = .freed
  silent : ∀ result, .callbackFunc result ∉ effects

structure StopKept (effects : List TimerEffect) (s : LocTimer) : Prop where
  waiting : s.state = .waiting →
    s.thread = .timedWait ∨ s.thread = .waited 0 ∨ s.thread = .waited etimedout
  timedWait : s.thread = .timedWait → s.state = .waiting
  aborted : ∀ caller call, s.stops caller = some call → StopCall.aborted call = some .waiting →
    Quiet effects s
  reported : .stopped (some .waiting) ∈ effects → Quiet effects s
  called : ∀ result, .callbackFunc result ∈ effects → s.thread = .called ∨ s.thread = .freed
  silent : SilentOnceStopped effects

theorem quiet_moves {s' : LocTimer} {outs : List TimerEffect} (quiet : Quiet effects s)
    (moves : TimerMoves s e s' outs) : Quiet (effects ++ outs) s' := by
  obtain ⟨thread, silent⟩ := quiet
  constructor
  case thread =>
    cases moves with
    | stopAborts caller call pending =>
        rcases thread with thread | thread | thread | thread <;>
          simp [LocTimer.setStop, LocTimer.signal, thread]
    | locksAgain ret waited => simp_all
    | _ => simp_all [LocTimer.setStop]
  case silent =>
    intro result member
    rcases List.mem_append.mp member with member | member
    · exact silent result member
    · cases moves with
      | calls unlocked => simp_all [etimedout]
      | _ => simp_all

/-- A wait that a call has aborted was ended by its signal. -/
theorem quiet_stopAborts {caller : Nat} (kept : StopKept effects s)
    (timely : Timely s (.stopLocks caller)) (call : s.stops caller = some .locking)
    (waiting : s.state = .waiting) {aborted : StopCall} :
    Quiet effects
      ({ s with state := .abort, thread := LocTimer.signal s.thread }.setStop caller aborted) := by
  have pending := kept.waiting waiting
  have inTime : s.thread ≠ .waited etimedout := timely call waiting
  constructor
  case thread =>
    rcases pending with thread | thread | thread
    · simp [LocTimer.setStop, LocTimer.signal, thread]
    · simp [LocTimer.setStop, LocTimer.signal, thread]
    · exact absurd thread inTime
  case silent =>
    intro result member
    have called := kept.called result member
    rcases pending with thread | thread | thread <;> simp [thread] at called

theorem stops_setStop {caller caller' : Nat} {call call' : StopCall}
    (stop : (s.setStop caller' call').stops caller = some call) :
    caller = caller' ∧ call' = call ∨ s.stops caller = some call := by
  unfold LocTimer.setStop at stop
  dsimp only at stop
  by_cases same : caller = caller'
  · rw [same, Function.update_self] at stop
    exact .inl ⟨same, Option.some_inj.mp stop⟩
  · rw [Function.update_of_ne same] at stop
    exact .inr stop

theorem quiet_of_aborted {s' : LocTimer} {outs : List TimerEffect} (kept : StopKept effects s)
    (timely : Timely s e) (moves : TimerMoves s e s' outs) {caller : Nat} {call : StopCall}
    (stop : s'.stops caller = some call) (aborted : StopCall.aborted call = some .waiting) :
    Quiet (effects ++ outs) s' := by
  have earlier (other : StopCall) (before : s.stops caller = some other)
      (same : StopCall.aborted other = some .waiting) : Quiet (effects ++ outs) s' :=
    quiet_moves (kept.aborted caller other before same) moves
  cases moves with
  | stopChecks caller' call' unmarked =>
      rcases stops_setStop stop with ⟨rfl, rfl⟩ | before
      · rcases unmarked with rfl | rfl <;> cases aborted
      · exact earlier call before aborted
  | stopAborts caller' locking pending =>
      rcases stops_setStop stop with ⟨rfl, rfl⟩ | before
      · rw [List.append_nil]
        exact quiet_stopAborts kept timely locking (Option.some_inj.mp aborted)
      · exact earlier call before aborted
  | stopMisses caller' locking =>
      rcases stops_setStop stop with ⟨rfl, rfl⟩ | before
      · cases aborted
      · exact earlier call before aborted
  | stopReturns caller' overwritten unlocked =>
      rcases stops_setStop stop with ⟨rfl, rfl⟩ | before
      · exact earlier _ unlocked aborted
      · exact earlier call before aborted
  | _ => exact earlier call stop aborted

theorem stopKept_moves {s' : LocTimer} {outs : List TimerEffect} (kept : StopKept effects s)
    (timely : Timely s e) (moves : TimerMoves s e s' outs) : StopKept (effects ++ outs) s' := by
  constructor
  case waiting =>
    have waiting := kept.waiting
    cases moves with
    | cancelled thread state => simp_all
    | _ => simp_all [LocTimer.setStop]
  case timedWait =>
    have timedWait := kept.timedWait
    cases moves with
    | stopAborts caller call pending =>
        intro thread
        cases before : s.thread <;> simp [LocTimer.setStop, LocTimer.signal, before] at thread
    | _ => simp_all [LocTimer.setStop]
  case aborted => exact fun caller call => quiet_of_aborted kept timely moves
  case reported =>
    intro member
    rcases List.mem_append.mp member with member | member
    · exact quiet_moves (kept.reported member) moves
    · cases moves with
      | stopReturns caller aborted call =>
          obtain rfl : some .waiting = aborted := by simpa using member
          exact quiet_moves (kept.aborted caller _ call rfl) (.stopReturns caller _ call)
      | _ => simp at member
  case called =>
    intro result member
    rcases List.mem_append.mp member with member | member
    · have called := kept.called result member
      cases moves with
      | stopAborts caller call pending =>
          rcases called with thread | thread <;> simp [LocTimer.setStop, LocTimer.signal, thread]
      | _ => simp_all [LocTimer.setStop]
    · cases moves with
      | calls thread => exact .inl rfl
      | _ => simp at member
  case silent =>
    have silent := kept.silent
    cases moves with
    | calls unlocked =>
        apply Throughout.snoc silent
        intro result _ reported
        have quiet := (kept.reported reported).thread
        simp [unlocked, etimedout] at quiet
    | stopReturns caller aborted call => exact Throughout.snoc silent nofun
    | _ => rwa [List.append_nil]

theorem created_stopKept : StopKept [] LocTimer.created := by
  constructor
  case silent => exact throughout_nil
  all_goals simp [LocTimer.created]

/-! ## One callback without a stop -/

structure Alone (effects : List TimerEffect) (s : LocTimer) : Prop where
  stops : ∀ caller, s.stops caller = none
  entered : s.thread = .entered → s.state = .ready
  ret : ∀ ret, s.thread = .waited ret ∨ s.thread = .unlocked ret → ret = etimedout
  once : callbacks effects = if s.thread = .called ∨ s.thread = .freed then 1 else 0

theorem alone_moves {s' : LocTimer} {outs : List TimerEffect} (alone : Alone effects s)
    (timely : Timely s e) (unstopped : ∀ caller, e ≠ .stopChecks caller)
    (moves : TimerMoves s e s' outs) : Alone (effects ++ outs) s' := by
  obtain ⟨stops, entered, ret, once⟩ := alone
  cases moves with
  | stopChecks caller => exact absurd rfl (unstopped caller)
  | stopAborts caller call => simp [stops] at call
  | stopMisses caller call => simp [stops] at call
  | stopReturns caller aborted call => simp [stops] at call
  | wakesUp thread =>
      obtain ⟨caller, stopped⟩ := timely thread
      exact absurd (stops caller) stopped
  | cancelled thread state => exact absurd (entered thread) state
  | skips r thread other => exact absurd (ret r (.inr thread)) other
  | calls thread =>
      refine ⟨stops, nofun, by simp, ?_⟩
      rw [thread] at once
      rw [callbacks, List.countP_append, ← callbacks, once]
      rfl
  | nothing e => exact ⟨stops, entered, ret, by rwa [List.append_nil]⟩
  | startReturns => exact ⟨stops, entered, ret, by rwa [List.append_nil]⟩
  | _ => constructor <;> simp_all

theorem created_alone : Alone [] LocTimer.created := by
  constructor <;> simp [LocTimer.created, callbacks]

def restOfThread : TimerThread → List TimerStep
  | .entered => [.locks, .timesOut, .locksAgain, .calls, .frees]
  | .timedWait => [.timesOut, .locksAgain, .calls, .frees]
  | .waited _ => [.locksAgain, .calls, .frees]
  | .unlocked _ => [.calls, .frees]
  | .called => [.frees]
  | .freed => []

theorem timely_restOfThread {thread : TimerThread} (member : e ∈ restOfThread thread) :
    Timely s e := by
  cases e <;> cases thread <;> simp [restOfThread, Timely] at member ⊢

theorem neverStopped_restOfThread (thread : TimerThread) : NeverStopped (restOfThread thread) := by
  cases thread <;> simp [NeverStopped, restOfThread]

theorem restOfThread_ends (alone : Alone effects s) :
    (final LocTimer.step s (restOfThread s.thread)).thread = .freed := by
  cases thread : s.thread with
  | entered =>
      simp [restOfThread, LocTimer.step, LocTimer.threadStep, thread, alone.entered thread]
  | _ => simp [restOfThread, LocTimer.step, LocTimer.threadStep, thread]

/-! ## Whole runs -/

/-- As long as its steps are timely, a timer that is stopped stays silent and one that is not
stopped runs its callback once. -/
theorem timer_contract {msec : Nat} {cbFunc : Bool} {s : LocTimer} {steps : List TimerStep}
    (started : LocTimer.start msec cbFunc = some s) (timely : TimelyRun s steps) :
    SilentOnceStopped (outputs LocTimer.step s steps) ∧
      (NeverStopped steps →
        CallsOnce (outputs LocTimer.step s steps) (final LocTimer.step s steps)) := by
  obtain rfl : LocTimer.created = s := by
    rw [LocTimer.start] at started
    split_ifs at started
    exact Option.some_inj.mp started
  constructor
  · have kept : StopKept (outputs LocTimer.step LocTimer.created steps)
        (final LocTimer.step LocTimer.created steps) := by
      refine outputs_invariant (fun effects s e kept timely => ?_) created_stopKept timely
      exact stopKept_moves kept timely timerStep_moves
    exact kept.silent
  · intro unstopped
    have alone : Alone (outputs LocTimer.step LocTimer.created steps)
        (final LocTimer.step LocTimer.created steps) := by
      refine @outputs_invariant _ _ _ _ _ (fun s e => Timely s e ∧ ∀ caller, e ≠ .stopChecks caller)
        (fun effects s e alone allowed => ?_) _ _ created_alone fun t member => ?_
      · exact alone_moves alone allowed.1 allowed.2 timerStep_moves
      · refine ⟨timely t member, fun caller same => unstopped caller ?_⟩
        rw [← same]
        exact event_mem_of_mem member
    exact ⟨alone.once, _, neverStopped_restOfThread _,
      fun t member => timely_restOfThread (event_mem_of_mem member), restOfThread_ends alone⟩

/-- The first call of `loc_timer_stop` finds the thread in its wait. -/
theorem timer_contract_stopped :
    SilentOnceStopped (outputs LocTimer.step LocTimer.created
      [.startReturns, .locks, .stopChecks 0, .stopLocks 0, .stopReturns 0, .locksAgain, .calls,
        .frees]) := by
  refine (@timer_contract 1000 true LocTimer.created _ rfl ?_).1
  simp [TimelyRun, trace, react, Timely, LocTimer.step, LocTimer.threadStep, LocTimer.created,
    LocTimer.setStop, LocTimer.pending, LocTimer.stopBlock, LocTimer.signal]

/-- `loc_timer_stop` aborts a wait that has just timed out, and the callback runs after it has
returned; and a timer that nobody stops ends without its callback when its wait ends by itself. -/
theorem timer_contract_broken :
    (∃ steps, ¬ SilentOnceStopped (outputs LocTimer.step LocTimer.created steps)) ∧
      ∃ steps, NeverStopped steps ∧ (final LocTimer.step LocTimer.created steps).thread = .freed ∧
        callbacks (outputs LocTimer.step LocTimer.created steps) = 0 := by
  refine ⟨⟨[.startReturns, .locks, .timesOut, .stopChecks 0, .stopLocks 0, .stopReturns 0,
    .locksAgain, .calls], ?_⟩, [.startReturns, .locks, .wakesUp, .locksAgain, .calls, .frees], ?_⟩
  · intro silent
    exact silent [.stopped (some .waiting)] (.callbackFunc etimedout) [] rfl etimedout rfl
      (List.mem_singleton_self _)
  · exact ⟨by simp [NeverStopped], rfl, rfl⟩

end VibeXperia.Proof.Gps

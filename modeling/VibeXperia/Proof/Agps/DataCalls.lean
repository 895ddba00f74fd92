import VibeXperia.Proof.Agps.DsCases

namespace VibeXperia.Proof.Agps
open VibeXperia.Agps VibeXperia.Agps.Act VibeXperia.Agps.DsSystem VibeXperia.Agps.DataCalls
open VibeXperia.Lib

/-! ## What a step leaves outstanding -/

def opens (answers : Answers) (effect : Effect) : Bool :=
  effect.acceptedStart answers || effect.stopsDataCall || startsTimer effect

theorem opens_afterStart (mRetries : UInt8) (answers : Answers) (connHandle : UInt32) :
    (.dataCall .requestAgpsDataConn :: afterStart mRetries answers connHandle).any (opens answers) =
      renews mRetries answers := by
  cases falls : fallsBack mRetries answers with
  | true => simp [afterStart, falls, renews, opens, Effect.acceptedStart, Effect.stopsDataCall,
      startsTimer]
  | false =>
      simp only [afterStart, falls, waiting, renews, Bool.false_eq_true, if_false, Bool.not_false,
        Bool.and_true, List.any_cons, opens, Effect.acceptedStart, Effect.stopsDataCall,
        startsTimer, Bool.or_false]
      by_cases again : answers.requestRsrc = LOC_API_ADAPTER_ERR_ENGINE_BUSY ∧
          answers.timerStarted = true
      · simp [again, opens, startsTimer]
      · have quiet : (answers.requestRsrc == LOC_API_ADAPTER_ERR_ENGINE_BUSY &&
            answers.timerStarted) = false := by simpa using again
        simp [if_neg again, quiet]

theorem opens_told (answers : Answers) (m : AgpsStateMachine) (status : AgpsRsrcStatus)
    (heard : List Subscriber) : (heard.map (tell m status)).any (opens answers) = false := by
  simp [tell, opens, Effect.acceptedStart, Effect.stopsDataCall, startsTimer]

section Step
variable {s : DataCalls} {e : CallEvent}

theorem deliver_system (s : DataCalls) (e : CallEvent) : (s.deliver e).system = s.system := by
  unfold deliver
  split_ifs
  · split <;> rfl
  · rfl

theorem releaseATL_cases (s : DsSystem) (ID : UInt32) :
    (∃ action, s.releaseATL ID = s.act action) ∨
      s.releaseATL ID = (s, [.informed ID .unsubscribe (some (.atlCloseStatus ID false))]) := by
  by_cases known : (AgpsStateMachine.unsubscribeRsrc noAnswers (.ds ID false) ⟨s.machine, []⟩).1
  · exact .inl ⟨_, if_pos known⟩
  · exact .inr (if_neg known)

theorem step_timers {s : DsSystem} {e : DsEvent} (other : e ≠ .timer) :
    (s.step e).1.timers = s.timers + (s.step e).2.countP startsTimer := by
  cases e with
  | timer => exact absurd rfl other
  | unsubscribe ID =>
      show (s.releaseATL ID).1.timers = s.timers + (s.releaseATL ID).2.countP startsTimer
      rcases releaseATL_cases s ID with ⟨action, same⟩ | same <;> rw [same] <;> rfl
  | retry answers => cases queue : s.retries <;> simp [DsSystem.step, queue, DsSystem.act]
  | _ => rfl

def unspent (retries : List UInt32) : DsEvent → List UInt32
  | .retry _ => retries.tail
  | _ => retries

theorem step_retries {s : DsSystem} {e : DsEvent} (other : e ≠ .timer) :
    (s.step e).1.retries = unspent s.retries e := by
  cases e with
  | timer => exact absurd rfl other
  | unsubscribe ID =>
      show (s.releaseATL ID).1.retries = s.retries
      rcases releaseATL_cases s ID with ⟨action, same⟩ | same <;> rw [same]; rfl
  | retry answers => cases queue : s.retries <;> simp [DsSystem.step, queue, DsSystem.act, unspent]
  | _ => rfl

theorem outstanding_step (other : e.event ≠ .timer) :
    (s.step e).1.Outstanding ↔
      { s.deliver e with system :=
        { s.system with retries := (s.system.step e.event).1.retries } }.Outstanding ∨
      (s.system.step e.event).2.any (opens e.event.answers) = true := by
  have timers := @step_timers s.system e.event other
  have positive (p : Effect → Bool) (log : List Effect) : 0 < log.countP p ↔ ∃ x ∈ log, p x = true :=
    List.countP_pos_iff
  have some : (s.system.step e.event).2.any (opens e.event.answers) = true ↔
      0 < (s.system.step e.event).2.countP (Effect.acceptedStart e.event.answers) ∨
      0 < (s.system.step e.event).2.countP Effect.stopsDataCall ∨
      0 < (s.system.step e.event).2.countP startsTimer := by
    simp only [positive, List.any_eq_true, opens, Bool.or_eq_true, and_or_left, exists_or, or_assoc]
  rw [some]
  simp only [Outstanding, DataCalls.step, retryPending, timers, Nat.add_pos_iff_pos_or_pos]
  tauto

theorem timer_outstanding {outcomeOf : Option AGpsStatusValue} (h : DsShape s.system.machine)
    (before : s.PendingForSomething) :
    (s.step ⟨.timer, outcomeOf⟩).1.PendingForSomething := by
  show s.system.fire.1.machine.mState = .pending →
    0 < s.starts + s.system.fire.2.countP _ ∨ 0 < s.stops + s.system.fire.2.countP _ ∨
      s.system.fire.1.retryPending
  unfold fire
  cases running : s.system.timers with
  | zero => exact before
  | succ timers =>
      dsimp only
      rw [retryCallback_eq]
      cases first : s.system.machine.mSubscribers.find? fun c => !c.isInactive with
      | some c => exact fun _ => .inr (.inr (.inr (by simp)))
      | none =>
          intro waits
          obtain ⟨c, member, awake⟩ := h.pending waits
          have inactive := List.find?_eq_none.mp first c member
          simp [awake] at inactive

theorem pending_step (h : DsShape s.system.machine) (before : s.PendingForSomething) :
    (s.step e).1.PendingForSomething ↔ s.Renewed e := by
  obtain ⟨event, outcomeOf⟩ := e
  by_cases timer : event = .timer
  · subst timer
    exact ⟨fun _ => trivial, fun _ => timer_outstanding h before⟩
  have moved := step_moved h.machine event
  have next := @outstanding_step s ⟨event, outcomeOf⟩ timer
  have retries := @step_retries s.system event timer
  show ((s.system.step event).1.machine.mState = .pending →
    (s.step ⟨event, outcomeOf⟩).1.Outstanding) ↔ _
  rw [next, retries]
  dsimp only
  generalize (s.system.step event).1.machine = m at moved ⊢
  generalize (s.system.step event).2 = log at moved ⊢
  cases moved with
  | stayed why quiet =>
      cases event with
      | subscribe => exact absurd why id
      | timer => exact absurd rfl timer
      | unsubscribe ID => exact ⟨fun _ => trivial, fun _ waits => .inl (before waits)⟩
      | granted => exact ⟨fun _ => trivial, fun _ waits => absurd waits why⟩
      | released answers =>
          exact ⟨fun _ closing => (by cases why.symm.trans closing),
            fun _ waits => (by cases why.symm.trans waits)⟩
      | denied answers =>
          rcases why with idle | held
          · exact ⟨fun _ closing => (by cases idle.symm.trans closing),
              fun _ waits => (by cases idle.symm.trans waits)⟩
          · exact ⟨fun _ closing => (by cases held.symm.trans closing),
              fun _ waits => (by cases held.symm.trans waits)⟩
      | retry answers =>
          -- there is no retry that could have been taken from the list
          have same : s.system.retries.tail = s.system.retries := by
            rw [show s.system.retries = [] from why]
            rfl
          have kept (waits : s.system.machine.mState = .pending) :
              { s with system :=
                { s.system with retries := s.system.retries.tail } }.Outstanding := by
            rw [same]
            exact before waits
          exact ⟨fun _ => kept, fun _ waits => .inl (kept waits)⟩
  | @started _ ID answers mRetries connHandle idle joins =>
      have renewed : s.Renewed ⟨event, outcomeOf⟩ := by
        rcases joins with rfl | ⟨rfl, -⟩
        · trivial
        · exact fun waits => absurd (idle.symm.trans waits) (by simp)
      have same : event.answers = answers := by rcases joins with rfl | ⟨rfl, -⟩ <;> rfl
      refine ⟨fun _ => renewed, fun _ waits => .inr ?_⟩
      rw [same, opens_afterStart]
      by_cases ok : answers.requestRsrc = LOC_API_ADAPTER_ERR_SUCCESS
      · simp [renews, ok]
      · simp [ok] at waits
  | @joined _ ID answers used joins =>
      have silent (waits : s.system.machine.mState = .pending) :
          (if s.system.machine.mState = .acquired then
            [tell s.system.machine .granted (.ds ID false)] else []).any (opens event.answers) =
              false := by simp [waits]
      -- nobody asks the modem for a call while the machine is in use
      rcases joins with rfl | ⟨rfl, -⟩
      · exact ⟨fun _ => trivial, fun _ waits => .inl (before waits)⟩
      · constructor
        · intro outstanding waits
          rcases outstanding waits with kept | opened
          · exact kept
          · exact absurd opened (by simp [silent waits])
        · exact fun kept waits => .inl (kept waits)
  | departed => exact ⟨fun _ => trivial, fun _ waits => .inl (before waits)⟩
  | lastDeparted | granted => exact ⟨fun _ => trivial, by simp⟩
  | ended reports used =>
      have open' : s.system.machine.mState ≠ .releasing := by
        rcases used with state | state <;> simp [state]
      refine ⟨fun _ => ?_, by simp⟩
      cases event with
      | released | denied => exact fun closing => absurd closing open'
      | _ => cases reports
  | closed reports closing nobody =>
      have idle : ¬ s.system.active := by
        rintro ⟨c, member, awake⟩
        simp [nobody c member] at awake
      refine ⟨fun _ => ?_, by simp⟩
      cases event with
      | released | denied => exact fun _ active => absurd active idle
      | _ => cases reports
  | @reopened _ answers status retried mRetries connHandle reports closing active =>
      have kept (e : CallEvent) : { s.deliver e with system := s.system } = s.deliver e := by
        rw [← deliver_system s e]
      have renewed : s.Renewed ⟨event, outcomeOf⟩ ↔
          (renews retried answers = true ∨ (s.deliver ⟨event, outcomeOf⟩).Outstanding) := by
        rcases reports with ⟨rfl, rfl⟩ | ⟨rfl, rfl⟩ <;>
          exact ⟨fun h => h closing active, fun h _ _ => h⟩
      have same : event.answers = answers := by rcases reports with ⟨rfl, -⟩ | ⟨rfl, -⟩ <;> rfl
      have all : unspent s.system.retries event = s.system.retries := by
        rcases reports with ⟨rfl, -⟩ | ⟨rfl, -⟩ <;> rfl
      rw [List.any_append, opens_told, Bool.false_or, same, opens_afterStart, renewed, all, kept,
        or_comm]
      exact ⟨fun h => h rfl, fun h _ => h⟩

end Step

/-! ## Runs -/

theorem pending_run {s : DataCalls} (h : DsShape s.system.machine) (before : s.PendingForSomething)
    (es : List CallEvent) :
    (∀ t ∈ trace DataCalls.step s es, t.after.PendingForSomething) ↔
      ∀ t ∈ trace DataCalls.step s es, t.before.Renewed t.event := by
  apply @run_iff DataCalls CallEvent _ DataCalls.step
    (fun s => DsShape s.system.machine ∧ s.PendingForSomething) DataCalls.Renewed
    fun t => t.after.PendingForSomething
  · rintro s e ⟨h, before⟩
    exact pending_step h before
  · rintro s e ⟨h, before⟩ renewed
    exact ⟨shape_step s.system e.event h, (pending_step h before).mpr renewed⟩
  · exact ⟨h, before⟩

/-- `ds_nif` is never in Pending with nothing outstanding, in exactly the runs whose steps are all
renewed. -/
theorem pending_means_outstanding (es : List CallEvent) :
    (∀ t ∈ trace DataCalls.step .new es, t.after.PendingForSomething) ↔
      ∀ t ∈ trace DataCalls.step .new es, t.before.Renewed t.event :=
  pending_run new_shape (fun waits => by cases waits) es

def unsupportedAfterRelease : List CallEvent :=
  [⟨.subscribe 1 noAnswers, none⟩, ⟨.granted, some .requestAgpsDataConn⟩, ⟨.unsubscribe 1, none⟩,
    ⟨.subscribe 2 noAnswers, none⟩,
    ⟨.released ⟨LOC_API_ADAPTER_ERR_UNSUPPORTED, false⟩, some .releaseAgpsDataConn⟩]

theorem pending_for_nothing :
    ¬ ∀ t ∈ trace DataCalls.step .new unsupportedAfterRelease, t.after.PendingForSomething := by
  intro all
  have stuck := all (react DataCalls.step (final DataCalls.step .new
    (unsupportedAfterRelease.take 4)) (unsupportedAfterRelease.getLast (by decide)))
    (by simp [unsupportedAfterRelease])
  revert stuck
  decide

end VibeXperia.Proof.Agps

import VibeXperia.Agps.Attempts
import VibeXperia.Proof.Agps.DataCalls

namespace VibeXperia.Proof.Agps
open VibeXperia.Agps VibeXperia.Agps.Act VibeXperia.Agps.DsSystem VibeXperia.Lib

variable {s t : DsSystem} {m : AgpsStateMachine} {answers : Answers} {ID : UInt32} {e : DsEvent}

/-! ## Events that do not ask for the data call -/

structure Quiet (s : DsSystem) (acted : DsSystem × List Effect) : Prop where
  calls : ∀ effect ∈ acted.2, effect ≠ .dataCall .requestAgpsDataConn ∧ startsTimer effect = false
  counted : acted.1.machine.mRetries = s.machine.mRetries ∨ acted.1.machine.mRetries = 0

theorem quiet_act {action : Act → Act} {log : List Effect} (same : t.machine = s.machine)
    (done : action ⟨s.machine, []⟩ = ⟨m, log⟩)
    (calls : ∀ effect ∈ log, effect ≠ .dataCall .requestAgpsDataConn ∧ startsTimer effect = false)
    (counted : m.mRetries = s.machine.mRetries ∨ m.mRetries = 0) : Quiet s (t.act action) := by
  rw [act_eq (same ▸ done)]
  exact ⟨calls, counted⟩

theorem tell_quiet (m : AgpsStateMachine) (status : AgpsRsrcStatus) (heard : List Subscriber) :
    ∀ effect ∈ heard.map (tell m status),
      effect ≠ .dataCall .requestAgpsDataConn ∧ startsTimer effect = false := by
  rw [List.forall_mem_map]
  intro c _
  exact ⟨nofun, rfl⟩

theorem retriesAfter_cases (status : AgpsRsrcStatus) (heard : List Subscriber) (mRetries : UInt8) :
    retriesAfter status heard mRetries = mRetries ∨ retriesAfter status heard mRetries = 0 := by
  unfold retriesAfter
  split_ifs
  · exact .inr rfl
  · exact .inl rfl

theorem unsubscribe_quiet (h : DsMachine s.machine) : Quiet s (s.releaseATL ID) := by
  by_cases listed : s.listed ID
  · obtain ⟨c, member, same⟩ := listed
    by_cases idle : s.machine.mState = .released
    · obtain ⟨d, done⟩ := unsubscribe_idle h idle member same
      rw [releaseATL_known done]
      exact quiet_act rfl (congrArg Prod.snd done) (tell_quiet _ _ [d]) (.inl rfl)
    · have done := unsubscribe_known h idle member same
      rw [releaseATL_known done]
      split_ifs at done with last
      · exact quiet_act rfl (congrArg Prod.snd done) (by simp [startsTimer]) (.inl rfl)
      · exact quiet_act rfl (congrArg Prod.snd done) (by simp [startsTimer]) (.inl rfl)
  · rw [releaseATL_unlisted h listed]
    exact ⟨by simp [startsTimer], .inl rfl⟩

theorem subscribe_quiet (h : DsMachine s.machine) (same : t.machine = s.machine)
    (used : s.machine.mState ≠ .released) :
    Quiet s (t.act (AgpsStateMachine.subscribeRsrc answers (.ds ID false))) := by
  apply quiet_act same (subscribe_used h used) _ (.inl rfl)
  split_ifs
  · exact tell_quiet _ _ [.ds ID false]
  · simp

theorem granted_quiet : Quiet s (s.step .granted) := by
  by_cases waits : s.machine.mState = .pending
  · exact quiet_act rfl (granted_pending waits) (tell_quiet _ _ _) (.inl rfl)
  · exact quiet_act rfl (granted_ignored waits) (by simp) (.inl rfl)

theorem closing_quiet {action : Act → Act} {event : RsrcEvent} {status : AgpsRsrcStatus}
    (closing : s.machine.mState = .releasing) (resting : ¬ s.active)
    (acts : action ⟨s.machine, []⟩ = onStateEvent answers event ⟨s.machine, []⟩)
    (reports : event = .released ∧ status = .released ∨ event = .denied ∧ status = .denied) :
    Quiet s (s.act action) := by
  have last : (s.machine.mSubscribers.filter fun c => !c.isInactive) = [] := by
    rw [List.filter_eq_nil_iff]
    intro c member awake
    exact resting ⟨c, member, by simpa using awake⟩
  have closed := acts.trans (closing_eq closing reports)
  rw [if_pos last] at closed
  exact quiet_act rfl closed (tell_quiet _ _ _) (retriesAfter_cases _ _ _)

theorem denied_quiet (waits : s.machine.mState = .releasing → ¬ s.active) :
    Quiet s (s.step (.denied answers)) := by
  cases state : s.machine.mState with
  | released => exact quiet_act rfl (denied_ignored (.inl state)) (by simp) (.inl rfl)
  | acquired => exact quiet_act rfl (denied_ignored (.inr state)) (by simp) (.inl rfl)
  | pending =>
      exact quiet_act rfl (denied_pending state) (tell_quiet _ _ _) (retriesAfter_cases _ _ _)
  | releasing => exact closing_quiet state (waits state) rfl (.inr ⟨rfl, rfl⟩)

theorem released_quiet (waits : s.machine.mState = .releasing → ¬ s.active) :
    Quiet s (s.step (.released answers)) := by
  cases state : s.machine.mState with
  | released =>
      exact quiet_act rfl ((released_denied (.inl state)).trans (denied_ignored (.inl state)))
        (by simp) (.inl rfl)
  | acquired =>
      exact quiet_act rfl (released_acquired state) (tell_quiet _ _ _)
        (retriesAfter_cases .released s.machine.mSubscribers _)
  | pending =>
      exact quiet_act rfl ((released_denied (.inr state)).trans (denied_pending state))
        (tell_quiet _ _ _) (retriesAfter_cases _ _ _)
  | releasing =>
      exact closing_quiet state (waits state) (released_releasing state) (.inl ⟨rfl, rfl⟩)

/-! ## Requests for the data call -/

/-- No timer runs and no retry is on its way, and not too many retries were counted. -/
structure AtRest (s : DsSystem) : Prop where
  shape : DsShape s.machine
  timers : s.timers = 0
  retries : s.retries = []
  bounded : s.machine.mRetries.toNat ≤ 4

theorem Quiet.atRest (rested : AtRest s) {acted : DsSystem × List Effect}
    (quiet : Quiet s acted) (shape : DsShape acted.1.machine)
    (timers : acted.1.timers = s.timers + acted.2.countP startsTimer)
    (retries : acted.1.retries = []) : AtRest acted.1 := by
  refine ⟨shape, ?_, retries, ?_⟩
  · have none : acted.2.countP startsTimer = 0 := by
      rw [List.countP_eq_zero]
      intro effect member
      rw [(quiet.calls effect member).2]
      exact Bool.false_ne_true
    rw [timers, rested.timers, none]
  · rcases quiet.counted with same | none
    · rw [same]
      exact rested.bounded
    · rw [none]
      decide

theorem Quiet.no_call {acted : DsSystem × List Effect} (quiet : Quiet s acted) :
    .dataCall .requestAgpsDataConn ∉ acted.2 := fun member => (quiet.calls _ member).1 rfl

theorem follow_idle (idle : s.timers = 0) (n : Nat) (later : Nat → Answers) :
    follow n s later = (s, []) := by
  cases n with
  | zero => rfl
  | succ n => rw [follow, if_pos idle]

theorem follow_running (running : s.timers ≠ 0) (n : Nat) (later : Nat → Answers) :
    let fired := s.step .timer
    let retried := fired.1.step (.retry (later 0))
    let rest := follow n retried.1 fun i => later (i + 1)
    follow (n + 1) s later = (rest.1, fired.2 ++ retried.2 ++ rest.2) := by
  rw [follow, if_neg running]

theorem exceeds_iff {mRetries : UInt8} (few : mRetries.toNat ≤ 4) :
    mRetries + 1 > MAX_START_DATA_CALL_RETRIES ↔ mRetries.toNat = 4 := by
  have most : MAX_START_DATA_CALL_RETRIES.toNat = 4 := rfl
  have one : (1 : UInt8).toNat = 1 := rfl
  rw [gt_iff_lt, UInt8.lt_iff_toNat_lt, UInt8.toNat_add, most, one]
  omega

theorem afterStart_cases {mRetries : UInt8} (few : mRetries.toNat ≤ 4) (connHandle : UInt32) :
    (answers.requestRsrc = LOC_API_ADAPTER_ERR_ENGINE_BUSY ∧ mRetries.toNat < 4 ∧
      afterStart mRetries answers connHandle =
        (if answers.timerStarted then [.timerStart DATA_CALL_RETRY_DELAY_MSEC] else []) ∧
      (retriesNext mRetries answers).toNat = mRetries.toNat + 1) ∨
    ((answers.requestRsrc = LOC_API_ADAPTER_ERR_ENGINE_BUSY ∧ mRetries.toNat = 4 ∨
        answers.requestRsrc ≠ LOC_API_ADAPTER_ERR_ENGINE_BUSY ∧
          givesUp answers.requestRsrc = true) ∧
      afterStart mRetries answers connHandle =
        [.informed connHandle .denied (informCall .denied connHandle)] ∧
      retriesNext mRetries answers = 0) ∨
    (answers.requestRsrc ≠ LOC_API_ADAPTER_ERR_ENGINE_BUSY ∧
      givesUp answers.requestRsrc = false ∧ afterStart mRetries answers connHandle = [] ∧
      retriesNext mRetries answers = mRetries) := by
  have exceeds := exceeds_iff few
  by_cases busy : answers.requestRsrc = LOC_API_ADAPTER_ERR_ENGINE_BUSY
  · have other : (LOC_API_ADAPTER_ERR_ENGINE_BUSY == LOC_API_ADAPTER_ERR_UNSUPPORTED ||
        LOC_API_ADAPTER_ERR_ENGINE_BUSY == -1) = false := by decide
    by_cases last : mRetries.toNat = 4
    · have falls : fallsBack mRetries answers = true := by
        simp [fallsBack, busy, exceeds.mpr last]
      refine .inr (.inl ⟨.inl ⟨busy, last⟩, ?_, ?_⟩)
      · rw [afterStart, if_pos falls]
      · rw [retriesNext, if_pos falls]
    · have stays : fallsBack mRetries answers = false := by
        rw [fallsBack, busy, other]
        simpa using mt exceeds.mp last
      refine .inl ⟨busy, by omega, ?_, ?_⟩
      · rw [afterStart, stays, if_neg Bool.false_ne_true, waiting]
        simp [busy]
      · have one : (1 : UInt8).toNat = 1 := rfl
        rw [retriesNext, stays, if_neg Bool.false_ne_true, if_pos busy, UInt8.toNat_add, one]
        omega
  · have falls : fallsBack mRetries answers = givesUp answers.requestRsrc := by
      rw [Bool.eq_iff_iff]
      simp [fallsBack, givesUp, busy]
    cases gives : givesUp answers.requestRsrc with
    | true =>
        rw [gives] at falls
        refine .inr (.inl ⟨.inr ⟨busy, rfl⟩, ?_, ?_⟩)
        · rw [afterStart, if_pos falls]
        · rw [retriesNext, if_pos falls]
    | false =>
        rw [gives] at falls
        refine .inr (.inr ⟨busy, rfl, ?_, ?_⟩)
        · rw [afterStart, falls, if_neg Bool.false_ne_true, waiting, if_neg fun both => busy both.1]
        · rw [retriesNext, falls, if_neg Bool.false_ne_true, if_neg busy]

def retriedPlan : Nat → (Nat → Answers) → List CallEffect
  | 0, answers => attemptPlan 0 answers
  | left + 1, answers =>
      if (answers 0).requestRsrc = LOC_API_ADAPTER_ERR_ENGINE_BUSY then
        if (answers 0).timerStarted then
          .request :: .retryAfter DATA_CALL_RETRY_DELAY_MSEC ::
            retriedPlan left fun i => answers (i + 1)
        else [.request]
      else attemptPlan 0 answers

/-- The state after a request for the data call that `before` retries precede. -/
structure Requested (before : UInt8) (answers : Answers) (acted : DsSystem × List Effect) :
    Prop where
  shape : DsShape acted.1.machine
  active : acted.1.active
  retries : acted.1.retries = []
  log : ∃ told connHandle, acted.2 =
    told ++ .dataCall .requestAgpsDataConn :: afterStart before answers connHandle ∧
      told.filterMap Effect.ofCall = [] ∧ told.countP startsTimer = 0
  timers : acted.1.timers = acted.2.countP startsTimer
  counted : acted.1.machine.mRetries = retriesNext before answers

theorem requested (rested : AtRest s) (idle : s.machine.mState = .released)
    (same : t.machine = s.machine) (timers : t.timers = 0) (retries : t.retries = []) :
    let acted := t.act (AgpsStateMachine.subscribeRsrc answers (.ds ID false))
    Requested s.machine.mRetries answers acted ∧
      (answers.requestRsrc ≠ LOC_API_ADAPTER_ERR_SUCCESS →
        acted.1.machine.mState = .released) := by
  obtain ⟨connHandle, done⟩ := @subscribe_idle s.machine answers ID rested.shape.machine idle
  have moved := @subscribe_moved s (.subscribe ID answers) answers ID rested.shape.machine t same
    (.inl rfl)
  have shape := moved.shape rested.shape
  rw [← same] at done
  rw [act_eq done] at shape ⊢
  refine ⟨⟨shape, ?_, retries, ⟨[], connHandle, ?_, rfl, rfl⟩, ?_, ?_⟩, ?_⟩
  · obtain ⟨c, member⟩ := List.exists_mem_of_ne_nil _
      (@enlist_ne_nil (.ds ID false) t.machine.mSubscribers)
    refine ⟨c, member, ?_⟩
    rcases mem_enlist member with old | ⟨rfl, -⟩
    · rw [same] at old
      exact rested.shape.released idle c old
    · rfl
  · rw [same]
    rfl
  · rw [timers, Nat.zero_add]
  · rw [same]
  · intro failed
    exact if_neg failed

/-! ## Retries -/

theorem retried_step (active : s.active) (timers : s.timers = 1) (retries : s.retries = [])
    (answers : Answers) :
    ∃ ID, (s.step .timer).2 = [.retried ID] ∧
      (s.step .timer).1.step (.retry answers) =
        { s with timers := 0 }.act (AgpsStateMachine.subscribeRsrc answers (.ds ID false)) := by
  cases first : s.machine.mSubscribers.find? fun c => !c.isInactive with
  | none =>
      obtain ⟨c, member, awake⟩ := active
      have inactive := List.find?_eq_none.mp first c member
      simp [awake] at inactive
  | some c =>
      have fired : s.step .timer =
          ({ s with timers := 0, retries := [c.ID] }, [.retried c.ID]) := by
        show s.fire = _
        simp [fire, timers, retries, retryCallback_eq, first]
      refine ⟨c.ID, by rw [fired], ?_⟩
      rw [fired, ← retries]
      rfl

theorem last_start {left : Nat} {answers : Nat → Answers} {mRetries : UInt8}
    (count : mRetries.toNat + left = 4) (connHandle : UInt32)
    (last : (answers 0).requestRsrc = LOC_API_ADAPTER_ERR_ENGINE_BUSY →
      left = 0 ∨ (answers 0).timerStarted = false) :
    let log := .dataCall .requestAgpsDataConn :: afterStart mRetries (answers 0) connHandle
    log.filterMap Effect.ofCall = retriedPlan left answers ∧ log.countP startsTimer = 0 := by
  intro log
  have few : mRetries.toNat ≤ 4 := by omega
  rcases @afterStart_cases (answers 0) mRetries few connHandle with
    ⟨busy, more, after, -⟩ | ⟨falls, after, -⟩ | ⟨idle, stays, after, -⟩
  · rcases last busy with rfl | untimed
    · omega
    · obtain ⟨left, rfl⟩ : ∃ before, left = before + 1 := ⟨left - 1, by omega⟩
      rw [untimed, if_neg Bool.false_ne_true] at after
      simp [log, after, retriedPlan, busy, untimed, Effect.ofCall, startsTimer]
  · have plan : retriedPlan left answers = [.request, .fallback] := by
      rcases falls with ⟨busy, none⟩ | ⟨other, gives⟩
      · obtain rfl : left = 0 := by omega
        simp [retriedPlan, attemptPlan, busy]
      · cases left <;> simp [retriedPlan, attemptPlan, other, gives]
    rw [plan]
    simp [log, after, Effect.ofCall, startsTimer]
  · have plan : retriedPlan left answers = [.request] := by
      cases left <;> simp [retriedPlan, attemptPlan, idle, stays]
    rw [plan]
    simp [log, after, Effect.ofCall, startsTimer]

theorem retriesNext_le {mRetries : UInt8} (few : mRetries.toNat ≤ 4) (answers : Answers) :
    (retriesNext mRetries answers).toNat ≤ 4 := by
  rcases @afterStart_cases answers mRetries few 0 with
    ⟨-, more, -, next⟩ | ⟨-, -, next⟩ | ⟨-, -, -, next⟩
  · omega
  · rw [next]
    decide
  · rw [next]
    exact few

theorem Requested.atRest {before : UInt8} {acted : DsSystem × List Effect}
    (asked : Requested before answers acted) (few : before.toNat ≤ 4) :
    AtRest { acted.1 with timers := 0 } where
  shape := asked.shape
  timers := rfl
  retries := asked.retries
  bounded := by
    show acted.1.machine.mRetries.toNat ≤ 4
    rw [asked.counted]
    exact retriesNext_le few answers

theorem Requested.ends {answers : Nat → Answers} {before : UInt8} {acted : DsSystem × List Effect}
    (asked : Requested before (answers 0) acted) {left : Nat} (count : before.toNat + left = 4)
    (last : (answers 0).requestRsrc = LOC_API_ADAPTER_ERR_ENGINE_BUSY →
      left = 0 ∨ (answers 0).timerStarted = false) (n : Nat) (later : Nat → Answers) :
    (acted.2 ++ (follow n acted.1 later).2).filterMap Effect.ofCall = retriedPlan left answers ∧
      AtRest (follow n acted.1 later).1 := by
  obtain ⟨told, connHandle, log, silent, untimed⟩ := asked.log
  obtain ⟨calls, timers⟩ := last_start count connHandle last
  have idle : acted.1.timers = 0 := by
    rw [asked.timers, log, List.countP_append, untimed, timers]
  have rest := asked.atRest (by omega)
  rw [← idle] at rest
  rw [follow_idle idle, List.append_nil, log, List.filterMap_append, silent, calls]
  exact ⟨rfl, rest⟩

theorem requested_follow {left n : Nat} {answers : Nat → Answers} (rested : AtRest s)
    (idle : s.machine.mState = .released) (same : t.machine = s.machine) (timers : t.timers = 0)
    (retries : t.retries = []) (count : s.machine.mRetries.toNat + left = 4) (fuel : left ≤ n) :
    let first := t.act (AgpsStateMachine.subscribeRsrc (answers 0) (.ds ID false))
    let rest := follow n first.1 fun i => answers (i + 1)
    (first.2 ++ rest.2).filterMap Effect.ofCall = retriedPlan left answers ∧ AtRest rest.1 := by
  induction left generalizing s t ID answers n with
  | zero =>
      have asked := (@requested s t (answers 0) ID rested idle same timers retries).1
      exact asked.ends count (fun _ => .inl rfl) n _
  | succ left ih =>
      intro first rest
      obtain ⟨asked, waits⟩ : Requested s.machine.mRetries (answers 0) first ∧
          ((answers 0).requestRsrc ≠ LOC_API_ADAPTER_ERR_SUCCESS →
            first.1.machine.mState = .released) := requested rested idle same timers retries
      by_cases again : (answers 0).requestRsrc = LOC_API_ADAPTER_ERR_ENGINE_BUSY ∧
          (answers 0).timerStarted = true
      · obtain ⟨busy, timed⟩ := again
        obtain ⟨told, connHandle, log, silent, untimed⟩ := asked.log
        rcases @afterStart_cases (answers 0) s.machine.mRetries rested.bounded connHandle with
          ⟨-, more, after, next⟩ | ⟨⟨-, none⟩ | ⟨other, -⟩, -⟩ | ⟨other, -⟩
        · have running : first.1.timers = 1 := by
            rw [asked.timers, log, after, if_pos timed, List.countP_append, untimed]
            rfl
          have counted : first.1.machine.mRetries.toNat + left = 4 := by
            rw [asked.counted, next]
            omega
          obtain ⟨ID', fired, retried⟩ :=
            retried_step asked.active running asked.retries (answers 1)
          obtain ⟨n, rfl⟩ : ∃ before, n = before + 1 := ⟨n - 1, by omega⟩
          have later := @ih { first.1 with timers := 0 } { first.1 with timers := 0 } ID' n
            (fun i => answers (i + 1)) (asked.atRest rested.bounded)
            (waits (by rw [busy]; decide)) rfl rfl asked.retries counted (by omega)
          rw [← retried] at later
          have followed : rest = _ :=
            follow_running (by simp [running]) n fun i => answers (i + 1)
          rw [followed]
          refine ⟨?_, later.2⟩
          rw [retriedPlan, if_pos busy, if_pos timed, ← later.1, log, after, if_pos timed, fired]
          simp [silent, List.filterMap_cons, Effect.ofCall]
        · omega
        · exact absurd busy other
        · exact absurd busy other
      · apply asked.ends count
        intro busy
        exact .inr (by simpa [busy] using again)

/-! ## What the code makes of the plan -/

theorem plan_cons {left : Nat} {answers : Nat → Answers} :
    ∃ rest, attemptPlan left answers = .request :: rest := by
  cases left <;> unfold attemptPlan <;> split_ifs <;> exact ⟨_, rfl⟩

theorem retriedPlan_iff {left used : Nat} {answers : Nat → Answers} :
    retriedPlan left answers = attemptPlan (left + used) answers ↔
      (used = 0 ∨ ∃ i ≤ left, (answers i).requestRsrc ≠ LOC_API_ADAPTER_ERR_ENGINE_BUSY) ∧
      ∀ i < left, (∀ j ≤ i, (answers j).requestRsrc = LOC_API_ADAPTER_ERR_ENGINE_BUSY) →
        (answers i).timerStarted = true := by
  induction left generalizing answers with
  | zero =>
      simp only [Nat.le_zero, exists_eq_left, Nat.not_lt_zero, false_implies, implies_true,
        and_true, Nat.zero_add, retriedPlan]
      cases used with
      | zero => simp
      | succ used =>
          by_cases busy : (answers 0).requestRsrc = LOC_API_ADAPTER_ERR_ENGINE_BUSY
          · simp [attemptPlan, busy]
          · simp [attemptPlan, busy]
  | succ left ih =>
      have shifted : left + 1 + used = left + used + 1 := by omega
      rw [shifted]
      by_cases busy : (answers 0).requestRsrc = LOC_API_ADAPTER_ERR_ENGINE_BUSY
      · cases timed : (answers 0).timerStarted with
        | true =>
            rw [retriedPlan, if_pos busy, if_pos timed, attemptPlan, if_pos busy]
            simp only [List.cons.injEq, true_and, ih]
            apply and_congr
            · apply or_congr Iff.rfl
              constructor
              · intro ⟨i, within, idle⟩
                exact ⟨i + 1, Nat.succ_le_succ within, idle⟩
              · intro ⟨i, within, idle⟩
                cases i with
                | zero => exact absurd busy idle
                | succ i => exact ⟨i, Nat.le_of_succ_le_succ within, idle⟩
            · constructor
              · intro all i within keeps
                cases i with
                | zero => exact timed
                | succ i =>
                    exact all i (Nat.lt_of_succ_lt_succ within) fun j earlier =>
                      keeps (j + 1) (Nat.succ_le_succ earlier)
              · intro all i within keeps
                apply all (i + 1) (Nat.succ_lt_succ within)
                intro j earlier
                cases j with
                | zero => exact busy
                | succ j => exact keeps j (Nat.le_of_succ_le_succ earlier)
        | false =>
            have retried : retriedPlan (left + 1) answers = [.request] := by
              simp [retriedPlan, busy, timed]
            have planned : attemptPlan (left + used + 1) answers ≠ [.request] := by
              simp [attemptPlan, busy]
            refine iff_of_false (retried ▸ planned.symm) ?_
            intro ⟨_, all⟩
            have started := all 0 (Nat.succ_pos left) fun j first => by
              rw [Nat.le_zero.mp first]
              exact busy
            rw [timed] at started
            cases started
      · have same : retriedPlan (left + 1) answers = attemptPlan (left + used + 1) answers := by
          simp [retriedPlan, attemptPlan, busy]
        refine iff_of_true same ⟨.inr ⟨0, Nat.zero_le _, busy⟩, ?_⟩
        intro i _ keeps
        exact absurd (keeps 0 (Nat.zero_le i)) busy

/-! ## Requests in Releasing -/

theorem tell_silent (m : AgpsStateMachine) (status : AgpsRsrcStatus) (heard : List Subscriber) :
    (heard.map (tell m status)).filterMap Effect.ofCall = [] ∧
      (heard.map (tell m status)).countP startsTimer = 0 := by
  constructor
  · rw [List.filterMap_eq_nil_iff, List.forall_mem_map]
    exact fun _ _ => rfl
  · rw [List.countP_eq_zero, List.forall_mem_map]
    exact fun _ _ => Bool.false_ne_true

theorem reopened {action : Act → Act} {event : RsrcEvent} {status : AgpsRsrcStatus}
    (rested : AtRest s) (closing : s.machine.mState = .releasing) (active : s.active)
    (acts : action ⟨s.machine, []⟩ = onStateEvent answers event ⟨s.machine, []⟩)
    (reports : event = .released ∧ status = .released ∨ event = .denied ∧ status = .denied)
    (shape : DsShape (s.act action).1.machine) :
    ∃ before : UInt8, before.toNat ≤ 4 ∧ Requested before answers (s.act action) ∧
      (s.act action).1.machine.mState = .pending := by
  obtain ⟨connHandle, done⟩ := closing_active rested.shape.machine closing active acts reports
  rw [act_eq done] at shape ⊢
  obtain ⟨silent, untimed⟩ := tell_silent s.machine status
    (s.machine.mSubscribers.filter Subscriber.isInactive)
  refine ⟨_, ?_, ⟨shape, shape.pending rfl, rested.retries, ⟨_, connHandle, rfl, silent, untimed⟩,
    ?_, rfl⟩, rfl⟩
  · unfold retriesDenied
    split_ifs
    · decide
    · exact rested.bounded
    · exact rested.bounded
  · rw [rested.timers, Nat.zero_add]

theorem reopened_busy {before : UInt8} {acted : DsSystem × List Effect}
    (few : before.toNat ≤ 4) (asked : Requested before answers acted)
    (pending : acted.1.machine.mState = .pending)
    (busy : answers.requestRsrc = LOC_API_ADAPTER_ERR_ENGINE_BUSY) (n : Nat)
    (later : Nat → Answers) :
    ((acted.2 ++ (follow n acted.1 later).2).filterMap Effect.ofCall).length ≤ 2 := by
  obtain ⟨told, connHandle, log, silent, untimed⟩ := asked.log
  obtain ⟨one, timers⟩ : (afterStart before answers connHandle).length ≤ 1 ∧
      (afterStart before answers connHandle).countP startsTimer ≤ 1 := by
    rcases @afterStart_cases answers before few connHandle with
      ⟨-, -, after, -⟩ | ⟨-, after, -⟩ | ⟨other, -⟩
    · rw [after]
      split_ifs <;> simp [startsTimer]
    · rw [after]
      simp [startsTimer]
    · exact absurd busy other
  have first : (acted.2.filterMap Effect.ofCall).length ≤ 2 := by
    rw [log, List.filterMap_append, silent, List.nil_append]
    calc _ ≤ (.dataCall .requestAgpsDataConn :: afterStart before answers connHandle).length :=
          List.length_filterMap_le ..
      _ ≤ 2 := Nat.succ_le_succ one
  have running : acted.1.timers ≤ 1 := by
    rw [asked.timers, log, List.countP_append, untimed]
    simpa [startsTimer] using timers
  have rest : (follow n acted.1 later).2.filterMap Effect.ofCall = [] := by
    rcases Nat.le_one_iff_eq_zero_or_eq_one.mp running with idle | single
    · rw [follow_idle idle]
      rfl
    · cases n with
      | zero => rfl
      | succ n =>
          obtain ⟨ID, fired, retried⟩ := retried_step asked.active single asked.retries (later 0)
          have used : acted.1.machine.mState ≠ .released := by simp [pending]
          have joined := @subscribe_used acted.1.machine (later 0) ID asked.shape.machine used
          rw [if_neg (by simp [pending])] at joined
          rw [@act_eq { acted.1 with timers := 0 } _ _ _ joined] at retried
          rw [follow_running (by simp [single]), fired, retried, follow_idle rfl]
          rfl
  rw [List.filterMap_append, rest, List.append_nil]
  exact first

/-! ## Runs of attempts -/

structure Meets (s : DsSystem) (attempt : Attempt) : Prop where
  plan : FollowsPlan (react DsSystem.attempt s attempt) ↔ s.HasRetries attempt
  rest : s.HasRetries attempt → AtRest (s.attempt attempt).1

theorem Quiet.meets {attempt : Attempt} (quiet : Quiet s (s.step attempt.event))
    (rest : AtRest (s.step attempt.event).1) (has : s.HasRetries attempt) : Meets s attempt where
  plan := iff_of_true (fun starts => absurd starts quiet.no_call) has
  rest _ := by
    rw [DsSystem.attempt, follow_idle rest.timers]
    exact rest

theorem Quiet.meets_step {attempt : Attempt} (rested : AtRest s) (other : attempt.event ≠ .timer)
    (quiet : Quiet s (s.step attempt.event)) (has : s.HasRetries attempt) : Meets s attempt := by
  apply quiet.meets _ has
  apply quiet.atRest rested (shape_step s _ rested.shape) (step_timers other)
  rw [step_retries other, rested.retries]
  cases attempt.event <;> rfl

theorem still_meets {attempt : Attempt} (rested : AtRest s)
    (still : s.step attempt.event = (s, [])) (has : s.HasRetries attempt) : Meets s attempt := by
  apply Quiet.meets _ _ has
  · rw [still]
    exact ⟨by simp, .inl rfl⟩
  · rw [still]
    exact rested

theorem subscribe_meets (rested : AtRest s) (idle : s.machine.mState = .released)
    (later : Nat → Answers) : Meets s ⟨.subscribe ID answers, later⟩ := by
  let attempt : Attempt := ⟨.subscribe ID answers, later⟩
  obtain ⟨left, count⟩ : ∃ left, s.machine.mRetries.toNat + left = 4 :=
    ⟨4 - s.machine.mRetries.toNat, Nat.add_sub_of_le rested.bounded⟩
  obtain ⟨calls, rest⟩ := @requested_follow s (s.resume ID) ID left 4 attempt.answers rested idle
    rfl rested.timers rested.retries count (by omega)
  have starts : s.startsCall attempt.event := by
    obtain ⟨told, connHandle, log, -⟩ :=
      (@requested s (s.resume ID) answers ID rested idle rfl rested.timers rested.retries).1.log
    show _ ∈ ((s.resume ID).act _).2
    rw [log]
    simp
  refine ⟨?_, fun _ => rest⟩
  have total : 4 = left + s.machine.mRetries.toNat := by omega
  have none : s.machine.mRetries.toNat = 0 ↔ s.machine.mRetries = 0 :=
    (@UInt8.toNat_inj s.machine.mRetries 0)
  have most : MAX_START_DATA_CALL_RETRIES.toNat = 4 := rfl
  calc FollowsPlan (react DsSystem.attempt s attempt) ↔
        retriedPlan left attempt.answers = attemptPlan 4 attempt.answers := by
          rw [← calls]
          exact ⟨fun follows => follows starts, fun follows _ => follows⟩
    _ ↔ _ := by
          rw [total, retriedPlan_iff, none]
    _ ↔ s.HasRetries attempt := by
          have within (i : Nat) : i + s.machine.mRetries.toNat ≤ 4 ↔ i ≤ left := by omega
          have before (i : Nat) : i + s.machine.mRetries.toNat < 4 ↔ i < left := by omega
          simp only [DsSystem.HasRetries, attempt, idle, true_implies, most, within, before,
            Attempt.busy, and_comm]

theorem reopened_meets {attempt : Attempt} {action : Act → Act} {event : RsrcEvent}
    {status : AgpsRsrcStatus} (rested : AtRest s) (closing : s.machine.mState = .releasing)
    (active : s.active) (steps : s.step attempt.event = s.act action)
    (acts : action ⟨s.machine, []⟩ = onStateEvent attempt.event.answers event ⟨s.machine, []⟩)
    (reports : event = .released ∧ status = .released ∨ event = .denied ∧ status = .denied)
    (has : s.HasRetries attempt ↔ ¬ attempt.busy 0) : Meets s attempt := by
  have shape := shape_step s attempt.event rested.shape
  rw [steps] at shape
  obtain ⟨before, few, asked, pending⟩ :=
    reopened rested closing active acts reports shape
  have starts : s.startsCall attempt.event := by
    obtain ⟨told, connHandle, log, -⟩ := asked.log
    rw [startsCall, steps, log]
    simp
  have ran : s.attempt attempt = ((follow 4 (s.act action).1 attempt.later).1,
      (s.act action).2 ++ (follow 4 (s.act action).1 attempt.later).2) := by
    rw [← steps]
    rfl
  have plan : FollowsPlan (react DsSystem.attempt s attempt) ↔
      (s.attempt attempt).2.filterMap Effect.ofCall = attemptPlan 4 attempt.answers :=
    ⟨fun follows => follows starts, fun follows _ => follows⟩
  by_cases busy : attempt.busy 0
  · refine ⟨iff_of_false ?_ (by simp [has, busy]), fun retries => absurd busy (has.mp retries)⟩
    rw [plan, ran]
    intro follows
    have short := reopened_busy few asked pending busy 4 attempt.later
    obtain ⟨rest, more⟩ := @plan_cons 3 fun i => attempt.answers (i + 1)
    have planned : attemptPlan 4 attempt.answers =
        .request :: .retryAfter DATA_CALL_RETRY_DELAY_MSEC :: .request :: rest := by
      rw [attemptPlan, if_pos (show _ = LOC_API_ADAPTER_ERR_ENGINE_BUSY from busy), more]
    rw [follows, planned] at short
    simp at short
  · obtain ⟨left, count⟩ : ∃ left, before.toNat + left = 4 :=
      ⟨4 - before.toNat, Nat.add_sub_of_le few⟩
    obtain ⟨calls, rest⟩ := @Requested.ends attempt.answers before _ asked left count
      (fun again => absurd again busy) 4 attempt.later
    have total : 4 = left + before.toNat := by omega
    refine ⟨iff_of_true ?_ (has.mpr busy), fun _ => ?_⟩
    · rw [plan, ran, calls, total, retriedPlan_iff]
      refine ⟨.inr ⟨0, Nat.zero_le left, busy⟩, ?_⟩
      intro i _ keeps
      exact absurd (keeps 0 (Nat.zero_le i)) busy
    · rw [ran]
      exact rest

theorem attempt_meets (rested : AtRest s) (attempt : Attempt) : Meets s attempt := by
  obtain ⟨event, later⟩ := attempt
  cases event with
  | subscribe ID answers =>
      by_cases idle : s.machine.mState = .released
      · exact subscribe_meets rested idle later
      · apply Quiet.meets_step rested
        · simp
        · exact @subscribe_quiet s (s.resume ID) answers ID rested.shape.machine rfl idle
        · exact fun released => absurd released idle
  | unsubscribe ID =>
      have quiet : Quiet s (s.step (.unsubscribe ID)) := unsubscribe_quiet rested.shape.machine
      exact @Quiet.meets_step s ⟨_, later⟩ rested (by simp) quiet trivial
  | granted => exact @Quiet.meets_step s ⟨_, later⟩ rested (by simp) granted_quiet trivial
  | timer =>
      have still : s.step .timer = (s, []) := by
        show s.fire = _
        simp [fire, rested.timers]
      exact still_meets rested still trivial
  | retry answers =>
      have still : s.step (.retry answers) = (s, []) := by
        simp [DsSystem.step, rested.retries]
      exact still_meets rested still trivial
  | denied answers =>
      by_cases waits : s.machine.mState = .releasing ∧ s.active
      · apply reopened_meets rested waits.1 waits.2 rfl rfl (.inr ⟨rfl, rfl⟩)
        exact ⟨fun has => has waits.1 waits.2, fun idle _ _ => idle⟩
      · have resting (closing) (active) : False := waits ⟨closing, active⟩
        apply Quiet.meets_step rested
        · simp
        · exact denied_quiet resting
        · exact fun closing active => absurd active (resting closing)
  | released answers =>
      by_cases waits : s.machine.mState = .releasing ∧ s.active
      · apply reopened_meets rested waits.1 waits.2 rfl (released_releasing waits.1)
          (.inl ⟨rfl, rfl⟩)
        exact ⟨fun has => has waits.1 waits.2, fun idle _ _ => idle⟩
      · have resting (closing) (active) : False := waits ⟨closing, active⟩
        apply Quiet.meets_step rested
        · simp
        · exact released_quiet resting
        · exact fun closing active => absurd active (resting closing)

theorem new_rested : AtRest .new where
  shape := new_shape
  timers := rfl
  retries := rfl
  bounded := by decide

/-- Every attempt of a run has its retries exactly in the runs that leave no retries over, meet
no busy modem in Releasing and have their timers started. -/
theorem attempts_follow_plan_iff (attempts : List Attempt) :
    (∀ t ∈ trace DsSystem.attempt .new attempts, FollowsPlan t) ↔
      ∀ t ∈ trace DsSystem.attempt .new attempts, t.before.HasRetries t.event :=
  run_iff (fun _ attempt rested => (attempt_meets rested attempt).plan)
    (fun _ attempt rested => (attempt_meets rested attempt).rest) new_rested

def succeedsThird : List Attempt :=
  [⟨.subscribe 1 ⟨LOC_API_ADAPTER_ERR_ENGINE_BUSY, true⟩, fun
      | 0 => ⟨LOC_API_ADAPTER_ERR_ENGINE_BUSY, true⟩
      | _ => noAnswers⟩,
    ⟨.granted, fun _ => noAnswers⟩, ⟨.unsubscribe 1, fun _ => noAnswers⟩,
    ⟨.released noAnswers, fun _ => noAnswers⟩]

def alwaysBusy : Attempt :=
  ⟨.subscribe 2 ⟨LOC_API_ADAPTER_ERR_ENGINE_BUSY, true⟩,
    fun _ => ⟨LOC_API_ADAPTER_ERR_ENGINE_BUSY, true⟩⟩

/-- The retries of the first attempt are missing from the second. -/
theorem retries_carried_over :
    ¬ ∀ t ∈ trace DsSystem.attempt .new (succeedsThird ++ [alwaysBusy]), FollowsPlan t := by
  intro all
  have follows := all (react DsSystem.attempt (final DsSystem.attempt .new succeedsThird)
    alwaysBusy) (by simp [trace_append])
  have given : (react DsSystem.attempt (final DsSystem.attempt .new succeedsThird)
      alwaysBusy).outputs.filterMap Effect.ofCall =
      [.request, .retryAfter DATA_CALL_RETRY_DELAY_MSEC, .request,
        .retryAfter DATA_CALL_RETRY_DELAY_MSEC, .request, .fallback] := by
    decide
  have started : (final DsSystem.attempt .new succeedsThird).startsCall alwaysBusy.event := by
    unfold startsCall
    decide
  have planned := given.symm.trans (follows started)
  revert planned
  decide

end VibeXperia.Proof.Agps

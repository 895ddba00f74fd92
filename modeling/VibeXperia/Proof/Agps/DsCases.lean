import VibeXperia.Agps.DataCalls
import VibeXperia.Proof.Agps.Ds

namespace VibeXperia.Proof.Agps
open VibeXperia.Agps VibeXperia.Agps.Act VibeXperia.Agps.DsSystem VibeXperia.Lib

/-! ## What every event does to the machine -/

section Equations
variable {m : AgpsStateMachine} {a : Act} {answers : Answers} {ID : UInt32}

def afterStart (mRetries : UInt8) (answers : Answers) (connHandle : UInt32) : List Effect :=
  if fallsBack mRetries answers then
    [.informed connHandle .denied (informCall .denied connHandle)]
  else waiting answers

def retriesNext (mRetries : UInt8) (answers : Answers) : UInt8 :=
  if fallsBack mRetries answers then 0
  else if answers.requestRsrc = LOC_API_ADAPTER_ERR_ENGINE_BUSY then mRetries + 1
  else mRetries

theorem start_any : ∃ ret connHandle,
    sendDataCallRequest answers .requestAgpsDataConn a =
      (ret, ⟨{ a.machine with mRetries := retriesNext a.machine.mRetries answers },
        a.log ++ .dataCall .requestAgpsDataConn :: afterStart a.machine.mRetries answers connHandle⟩) ∧
      (ret = 0 ↔ answers.requestRsrc = LOC_API_ADAPTER_ERR_SUCCESS) := by
  cases falls : fallsBack a.machine.mRetries answers with
  | false =>
      obtain ⟨ret, mRetries, sent, success⟩ := start_eq falls
      have counted : (sendDataCallRequest answers .requestAgpsDataConn a).2.machine.mRetries =
          retriesNext a.machine.mRetries answers := by
        simp only [retriesNext, falls, Bool.false_eq_true, if_false]
        simp only [fallsBack, Bool.or_eq_false_iff, Bool.and_eq_false_iff,
          beq_eq_false_iff_ne] at falls
        obtain ⟨⟨supported, sound⟩, few⟩ := falls
        unfold sendDataCallRequest
        by_cases busy : answers.requestRsrc = LOC_API_ADAPTER_ERR_ENGINE_BUSY
        · have retries : ¬ a.machine.mRetries + 1 > MAX_START_DATA_CALL_RETRIES := by
            simpa [busy] using few
          cases timer : answers.timerStarted <;> simp [busy, retries, effect]
        · simp only [if_true, busy, supported, sound, if_false, ite_self, effect]
      rw [sent] at counted
      refine ⟨ret, 0, ?_, success⟩
      rw [sent, ← counted]
      simp [afterStart, falls]
  | true =>
      refine ⟨answers.requestRsrc,
        ((a.findSubscriber .broadcastActive).map Subscriber.ID).getD 0xffffffff, ?_, .rfl⟩
      have gone : answers.requestRsrc = LOC_API_ADAPTER_ERR_ENGINE_BUSY ∧
            a.machine.mRetries + 1 > MAX_START_DATA_CALL_RETRIES ∨
          answers.requestRsrc ≠ LOC_API_ADAPTER_ERR_ENGINE_BUSY ∧
            (answers.requestRsrc = LOC_API_ADAPTER_ERR_UNSUPPORTED ∨ answers.requestRsrc = -1) := by
        simp only [fallsBack, Bool.or_eq_true, Bool.and_eq_true, beq_iff_eq,
          decide_eq_true_eq] at falls
        rcases falls with (unsupported | wrong) | busy
        · exact .inr ⟨by simp [unsupported, LOC_API_ADAPTER_ERR_UNSUPPORTED,
            LOC_API_ADAPTER_ERR_ENGINE_BUSY], .inl unsupported⟩
        · exact .inr ⟨by simp [wrong, LOC_API_ADAPTER_ERR_ENGINE_BUSY], .inr wrong⟩
        · exact .inl busy
      unfold sendDataCallRequest
      rcases gone with ⟨busy, many⟩ | ⟨-, unsupported | wrong⟩
      · simp [busy, many, afterStart, retriesNext, falls, informStatus, effect]
      · simp [unsupported, afterStart, retriesNext, falls, informStatus, effect,
          LOC_API_ADAPTER_ERR_UNSUPPORTED, LOC_API_ADAPTER_ERR_ENGINE_BUSY]
      · simp [wrong, afterStart, retriesNext, falls, informStatus, effect,
          LOC_API_ADAPTER_ERR_UNSUPPORTED, LOC_API_ADAPTER_ERR_ENGINE_BUSY,
          LOC_API_ADAPTER_ERR_SUCCESS]

theorem subscribe_idle (h : DsMachine m) (idle : m.mState = .released) :
    ∃ connHandle, AgpsStateMachine.subscribeRsrc answers (.ds ID false) ⟨m, []⟩ =
      ⟨{ m with
          mState := if answers.requestRsrc = LOC_API_ADAPTER_ERR_SUCCESS then .pending else .released
          mSubscribers := enlist (.ds ID false) m.mSubscribers
          mRetries := retriesNext m.mRetries answers },
        .dataCall .requestAgpsDataConn :: afterStart m.mRetries answers connHandle⟩ := by
  obtain ⟨ret, connHandle, sent, success⟩ := @start_any
    ((⟨m, []⟩ : Act).setSubscribers (enlist (.ds ID false) m.mSubscribers)) answers
  exact ⟨connHandle, subscribe_sent h idle sent success⟩

theorem unsubscribe_idle (h : DsMachine m) (idle : m.mState = .released) {c : Subscriber}
    (member : c ∈ m.mSubscribers) (same : c.ID = ID) :
    ∃ d, AgpsStateMachine.unsubscribeRsrc noAnswers (.ds ID false) ⟨m, []⟩ =
      (true, ⟨m, [tell m .unsubscribe d]⟩) := by
  obtain ⟨d, -, -, search⟩ := listed_found h member same
  have mine : d.forMe ⟨.rcver d, .unsubscribe, false⟩ = true := equals_self d
  refine ⟨d, ?_⟩
  simp only [AgpsStateMachine.unsubscribeRsrc, search, onStateEvent, idle,
    AgpsReleasedState.onRsrcEvent]
  rw [notifyRsrcStatus_eq (by simp [Tellable]), if_pos mine]
  simp [tellAll, retriesAfter, setState, ← idle]

end Equations

/-! ## The cases of an event -/

inductive Moved (s : DsSystem) : DsEvent → AgpsStateMachine → List Effect → Prop
  | stayed {e log} (why : match e with
        | .unsubscribe ID => s.machine.mState = .released ∨ ¬ s.listed ID
        | .granted => s.machine.mState ≠ .pending
        | .released _ => s.machine.mState = .released
        | .denied _ => s.machine.mState = .released ∨ s.machine.mState = .acquired
        | .retry _ => s.retries = []
        | .timer => True
        | .subscribe .. => False)
      (quiet : ∀ effect ∈ log, ∀ action, effect ≠ .dataCall action) : Moved s e s.machine log
  | started {e ID answers mRetries connHandle} (idle : s.machine.mState = .released)
      (joins : e = .subscribe ID answers ∨ e = .retry answers ∧ s.retries.head? = some ID) :
      Moved s e
        { s.machine with
          mState := if answers.requestRsrc = LOC_API_ADAPTER_ERR_SUCCESS then .pending else .released
          mSubscribers := enlist (.ds ID false) s.machine.mSubscribers
          mRetries }
        (.dataCall .requestAgpsDataConn :: afterStart s.machine.mRetries answers connHandle)
  | joined {e ID answers} (used : s.machine.mState ≠ .released)
      (joins : e = .subscribe ID answers ∨ e = .retry answers ∧ s.retries.head? = some ID) :
      Moved s e { s.machine with mSubscribers := enlist (.ds ID false) s.machine.mSubscribers }
        (if s.machine.mState = .acquired then [tell s.machine .granted (.ds ID false)] else [])
  | departed {ID} (used : s.machine.mState ≠ .released) (listed : s.listed ID)
      (others : s.machine.mState = .releasing ∨
        ∃ d ∈ markHandle ID s.machine.mSubscribers, d.isInactive = false) :
      Moved s (.unsubscribe ID)
        { s.machine with mSubscribers := markHandle ID s.machine.mSubscribers }
        [.informed ID .unsubscribe (informCall .unsubscribe ID)]
  | lastDeparted {ID} (used : s.machine.mState = .pending ∨ s.machine.mState = .acquired)
      (listed : s.listed ID)
      (last : ∀ d ∈ markHandle ID s.machine.mSubscribers, d.isInactive) :
      Moved s (.unsubscribe ID)
        { s.machine with
          mState := .releasing
          mSubscribers := markHandle ID s.machine.mSubscribers }
        [.informed ID .unsubscribe (informCall .unsubscribe ID), .dataCall .releaseAgpsDataConn]
  | granted (waits : s.machine.mState = .pending) :
      Moved s .granted { s.machine with mState := .acquired }
        ((s.machine.mSubscribers.filter fun c => !c.isInactive).map (tell s.machine .granted))
  | ended {e status mRetries} (reports : e.reportsRelease = true)
      (used : s.machine.mState = .pending ∨ s.machine.mState = .acquired) :
      Moved s e { s.machine with mState := .released, mSubscribers := [], mRetries }
        (s.machine.mSubscribers.map (tell s.machine status))
  | closed {e status mRetries} (reports : e.reportsRelease = true)
      (closing : s.machine.mState = .releasing)
      (nobody : ∀ c ∈ s.machine.mSubscribers, c.isInactive) :
      Moved s e { s.machine with mState := .released, mSubscribers := [], mRetries }
        (s.machine.mSubscribers.map (tell s.machine status))
  | reopened {e answers status before mRetries connHandle}
      (reports : e = .released answers ∧ before = s.machine.mRetries ∨
        e = .denied answers ∧ before = s.retriesDenied)
      (closing : s.machine.mState = .releasing) (active : s.active) :
      Moved s e
        { s.machine with
          mState := .pending
          mSubscribers := s.machine.mSubscribers.filter fun c => !c.isInactive
          mRetries }
        ((s.machine.mSubscribers.filter Subscriber.isInactive).map (tell s.machine status) ++
          .dataCall .requestAgpsDataConn :: afterStart before answers connHandle)

section Moved
variable {s : DsSystem} {e : DsEvent} {answers : Answers} {ID : UInt32}

theorem Moved.of_act {action : Act → Act} {m : AgpsStateMachine} {log : List Effect}
    (moved : Moved s e m log) {t : DsSystem} (same : t.machine = s.machine)
    (done : action ⟨s.machine, []⟩ = ⟨m, log⟩) :
    Moved s e (t.act action).1.machine (t.act action).2 := by
  rw [act_eq (same ▸ done)]
  exact moved

theorem subscribe_moved (h : DsMachine s.machine) {t : DsSystem} (same : t.machine = s.machine)
    (joins : e = .subscribe ID answers ∨ e = .retry answers ∧ s.retries.head? = some ID) :
    Moved s e (t.act (AgpsStateMachine.subscribeRsrc answers (.ds ID false))).1.machine
      (t.act (AgpsStateMachine.subscribeRsrc answers (.ds ID false))).2 := by
  by_cases idle : s.machine.mState = .released
  · obtain ⟨connHandle, done⟩ := @subscribe_idle s.machine answers ID h idle
    exact (Moved.started idle joins).of_act same done
  · exact (Moved.joined idle joins).of_act same (subscribe_used h idle)

theorem unsubscribe_moved (h : DsMachine s.machine) :
    Moved s (.unsubscribe ID) (s.releaseATL ID).1.machine (s.releaseATL ID).2 := by
  by_cases listed : s.listed ID
  · obtain ⟨c, member, same⟩ := id listed
    by_cases idle : s.machine.mState = .released
    · obtain ⟨d, done⟩ := unsubscribe_idle h idle member same
      rw [releaseATL_known done]
      apply Moved.of_act _ rfl (congrArg Prod.snd done)
      exact .stayed (.inl idle) (by simp [tell])
    · have done := unsubscribe_known h idle member same
      rw [releaseATL_known done]
      split_ifs at done with last
      · have used : s.machine.mState = .pending ∨ s.machine.mState = .acquired := by
          cases state : s.machine.mState <;> simp_all
        exact (Moved.lastDeparted used listed last.2).of_act rfl (congrArg Prod.snd done)
      · have others : s.machine.mState = .releasing ∨
            ∃ d ∈ markHandle ID s.machine.mSubscribers, d.isInactive = false := by
          by_cases closing : s.machine.mState = .releasing
          · exact .inl closing
          · simpa [closing] using last
        exact (Moved.departed idle listed others).of_act rfl (congrArg Prod.snd done)
  · rw [releaseATL_unlisted h listed]
    exact .stayed (.inr listed) (by simp)

theorem closing_active (h : DsMachine s.machine) {event : RsrcEvent} {status : AgpsRsrcStatus}
    {action : Act → Act} (closing : s.machine.mState = .releasing) (active : s.active)
    (acts : action ⟨s.machine, []⟩ = onStateEvent answers event ⟨s.machine, []⟩)
    (reports : event = .released ∧ status = .released ∨ event = .denied ∧ status = .denied) :
    let before := if status = .denied then s.retriesDenied else s.machine.mRetries
    ∃ connHandle, action ⟨s.machine, []⟩ =
      ⟨{ s.machine with
          mState := .pending
          mSubscribers := s.machine.mSubscribers.filter fun c => !c.isInactive
          mRetries := retriesNext before answers },
        (s.machine.mSubscribers.filter Subscriber.isInactive).map (tell s.machine status) ++
          .dataCall .requestAgpsDataConn :: afterStart before answers connHandle⟩ := by
  have closed := acts.trans (closing_eq closing reports)
  have others : (s.machine.mSubscribers.filter fun c => !c.isInactive) ≠ [] := by
    obtain ⟨c, member, awake⟩ := active
    exact List.ne_nil_of_mem (List.mem_filter.mpr ⟨member, by simp [awake]⟩)
  have before : retriesAfter status (s.machine.mSubscribers.filter Subscriber.isInactive)
      s.machine.mRetries = if status = .denied then s.retriesDenied else s.machine.mRetries := by
    rcases reports with ⟨-, rfl⟩ | ⟨-, rfl⟩
    · simp [retriesAfter]
    · exact retriesAfter_denied h
  rw [if_neg others, sendRsrcRequest_ds (by exact h.machineClass)] at closed
  obtain ⟨ret, connHandle, sent, -⟩ := @start_any
    ⟨{ s.machine with
        mSubscribers := s.machine.mSubscribers.filter fun c => !c.isInactive
        mRetries := retriesAfter status (s.machine.mSubscribers.filter Subscriber.isInactive)
          s.machine.mRetries },
      (s.machine.mSubscribers.filter Subscriber.isInactive).map (tell s.machine status)⟩ answers
  rw [sent, before] at closed
  exact ⟨connHandle, closed⟩

theorem closing_moved (h : DsMachine s.machine) {event : RsrcEvent} {status : AgpsRsrcStatus}
    {action : Act → Act} (closing : s.machine.mState = .releasing)
    (acts : action ⟨s.machine, []⟩ = onStateEvent answers event ⟨s.machine, []⟩)
    (reports : event = .released ∧ status = .released ∧ e = .released answers ∨
      event = .denied ∧ status = .denied ∧ e = .denied answers) :
    Moved s e (s.act action).1.machine (s.act action).2 := by
  have event_status : event = .released ∧ status = .released ∨
      event = .denied ∧ status = .denied := by
    rcases reports with ⟨rfl, rfl, -⟩ | ⟨rfl, rfl, -⟩ <;> simp
  have release : e.reportsRelease = true := by
    rcases reports with ⟨-, -, rfl⟩ | ⟨-, -, rfl⟩ <;> rfl
  by_cases active : s.active
  · obtain ⟨connHandle, closed⟩ := closing_active h closing active acts event_status
    apply Moved.of_act _ rfl closed
    apply Moved.reopened _ closing active
    rcases reports with ⟨-, rfl, rfl⟩ | ⟨-, rfl, rfl⟩
    · exact .inl ⟨rfl, rfl⟩
    · exact .inr ⟨rfl, rfl⟩
  · have nobody : ∀ c ∈ s.machine.mSubscribers, c.isInactive := by
      intro c member
      by_contra awake
      exact active ⟨c, member, eq_false_of_ne_true awake⟩
    have last : (s.machine.mSubscribers.filter fun c => !c.isInactive) = [] := by
      simpa [List.filter_eq_nil_iff] using nobody
    have all : s.machine.mSubscribers.filter Subscriber.isInactive = s.machine.mSubscribers :=
      List.filter_eq_self.mpr nobody
    have closed := acts.trans (closing_eq closing event_status)
    rw [if_pos last, all] at closed
    exact (Moved.closed release closing nobody).of_act rfl closed

theorem step_moved (h : DsMachine s.machine) (e : DsEvent) :
    Moved s e (s.step e).1.machine (s.step e).2 := by
  cases e with
  | subscribe ID answers => exact subscribe_moved h rfl (.inl rfl)
  | unsubscribe ID => exact unsubscribe_moved h
  | timer =>
      have machine : s.fire.1.machine = s.machine := by
        unfold fire
        cases s.timers with
        | zero => rfl
        | succ timers => cases DSStateMachine.retryCallback s.machine <;> rfl
      have quiet : ∀ effect ∈ s.fire.2, ∀ action, effect ≠ .dataCall action := by
        unfold fire
        cases s.timers with
        | zero => simp
        | succ timers => cases DSStateMachine.retryCallback s.machine <;> simp
      show Moved s .timer s.fire.1.machine s.fire.2
      rw [machine]
      exact .stayed trivial quiet
  | retry answers =>
      cases queue : s.retries with
      | nil =>
          have nothing : s.step (.retry answers) = (s, []) := by simp [DsSystem.step, queue]
          rw [nothing]
          exact .stayed queue (by simp)
      | cons ID retries =>
          have handled : s.step (.retry answers) =
              { s with retries }.act (AgpsStateMachine.subscribeRsrc answers (.ds ID false)) := by
            simp [DsSystem.step, queue]
          rw [handled]
          exact subscribe_moved h rfl (.inr ⟨rfl, by simp [queue]⟩)
  | granted =>
      by_cases waits : s.machine.mState = .pending
      · exact (Moved.granted waits).of_act rfl (granted_pending waits)
      · apply Moved.of_act _ rfl (granted_ignored waits)
        exact .stayed waits (by simp)
  | denied answers =>
      cases state : s.machine.mState with
      | released =>
          apply Moved.of_act _ rfl (denied_ignored (.inl state))
          exact .stayed (.inl state) (by simp)
      | acquired =>
          apply Moved.of_act _ rfl (denied_ignored (.inr state))
          exact .stayed (.inr state) (by simp)
      | pending => exact (Moved.ended rfl (.inl state)).of_act rfl (denied_pending state)
      | releasing => exact closing_moved h state rfl (.inr ⟨rfl, rfl, rfl⟩)
  | released answers =>
      cases state : s.machine.mState with
      | released =>
          apply Moved.of_act _ rfl ((released_denied (.inl state)).trans (denied_ignored (.inl state)))
          exact .stayed state (by simp)
      | acquired => exact (Moved.ended rfl (.inr state)).of_act rfl (released_acquired state)
      | pending =>
          apply Moved.of_act _ rfl ((released_denied (.inr state)).trans (denied_pending state))
          exact .ended rfl (.inl state)
      | releasing =>
          exact closing_moved h state (released_releasing state) (.inl ⟨rfl, rfl, rfl⟩)

end Moved

/-! ## The shape of every machine that is reached -/

structure DsShape (m : AgpsStateMachine) : Prop where
  machine : DsMachine m
  released : m.mState = .released → ∀ c ∈ m.mSubscribers, c.isInactive = false
  pending : m.mState = .pending → ∃ c ∈ m.mSubscribers, c.isInactive = false

theorem enlist_shape {m : AgpsStateMachine} (h : DsMachine m) (ID : UInt32) (mState : AgpsState)
    (mRetries : UInt8) :
    DsMachine { m with mState, mSubscribers := enlist (.ds ID false) m.mSubscribers, mRetries } :=
  ⟨h.machineClass, h.many, (enlist_machine h).1, (enlist_machine h).2⟩

theorem Moved.shape {s : DsSystem} {e : DsEvent} {m : AgpsStateMachine} {log : List Effect}
    (moved : Moved s e m log) (h : DsShape s.machine) : DsShape m := by
  cases moved with
  | stayed => exact h
  | @started _ ID answers mRetries connHandle idle joins =>
      have awake : ∀ c ∈ enlist (.ds ID false) s.machine.mSubscribers, c.isInactive = false := by
        intro c member
        rcases mem_enlist member with old | ⟨rfl, -⟩
        · exact h.released idle c old
        · rfl
      refine ⟨enlist_shape h.machine ID _ mRetries, fun _ => awake, fun _ => ?_⟩
      obtain ⟨c, member⟩ := List.exists_mem_of_ne_nil _
        (@enlist_ne_nil (.ds ID false) s.machine.mSubscribers)
      exact ⟨c, member, awake c member⟩
  | @joined _ ID answers used joins =>
      refine ⟨enlist_shape h.machine ID _ _, fun idle => absurd idle used, fun waits => ?_⟩
      obtain ⟨c, member, awake⟩ := h.pending waits
      exact ⟨c, subset_enlist member, awake⟩
  | departed used listed others =>
      refine ⟨markHandle_machine h.machine _, fun idle => absurd idle used, fun waits => ?_⟩
      rcases others with closing | some
      · cases closing.symm.trans waits
      · exact some
  | lastDeparted => exact ⟨markHandle_machine h.machine _, by simp, by simp⟩
  | granted => exact ⟨h.machine.sublist (List.Sublist.refl _) .acquired _, by simp, by simp⟩
  | ended | closed =>
      exact ⟨h.machine.sublist (List.nil_sublist _) .released _, by simp, by simp⟩
  | reopened reports closing active =>
      refine ⟨h.machine.sublist List.filter_sublist .pending _, by simp, fun _ => ?_⟩
      obtain ⟨c, member, awake⟩ := active
      exact ⟨c, List.mem_filter.mpr ⟨member, by simp [awake]⟩, awake⟩

theorem new_shape : DsShape DsSystem.new.machine where
  machine := new_ds.core.machine
  released := by simp [DsSystem.new, DSStateMachine.new, AgpsStateMachine.new]
  pending := by simp [DsSystem.new, DSStateMachine.new, AgpsStateMachine.new]

theorem shape_step (s : DsSystem) (e : DsEvent) (h : DsShape s.machine) :
    DsShape (s.step e).1.machine :=
  (step_moved h.machine e).shape h

theorem reached_shape (es : List DsEvent) : DsShape (final DsSystem.step .new es).machine :=
  (invariant (fun s e h => shape_step s e h) new_shape es).1

end VibeXperia.Proof.Agps

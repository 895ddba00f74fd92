import VibeXperia.Agps.Ds
import VibeXperia.Proof.Agps.Clients
import Mathlib.Data.List.Nodup

namespace VibeXperia.Proof.Agps
open VibeXperia.Agps VibeXperia.Agps.Act VibeXperia.Agps.DsSystem VibeXperia.Lib

/-! ## What effects use and finish -/

section Effects
variable {finished : List UInt32} {es fs : List Effect} {list : List Subscriber}

theorem mem_observe {ID : UInt32} :
    ID ∈ es.foldl observe finished ↔ ID ∈ finished ∨ ∃ e ∈ es, e.finishes = some ID := by
  induction es generalizing finished with
  | nil => simp
  | cons e es ih =>
      rw [List.foldl_cons, ih]
      simp only [observe, List.mem_append, Option.mem_toList, List.mem_cons, exists_eq_or_imp]
      tauto

theorem spares_iff {e : Effect} :
    e.spares finished = true ↔ ∀ ID, e.uses = some ID → ID ∉ finished := by
  simp only [Effect.spares, List.all_eq_true, bne_iff_ne]
  exact ⟨fun apart ID uses member => apart ID member uses,
    fun apart ID member uses => apart ID uses member⟩

theorem finishedStay_cons {e : Effect} :
    FinishedStay finished (e :: es) = true ↔
      (∀ ID, e.uses = some ID → ID ∉ finished) ∧ FinishedStay (observe finished e) es = true := by
  rw [FinishedStay, Bool.and_eq_true, spares_iff]

theorem finishedStay_append :
    FinishedStay finished (es ++ fs) = true ↔
      FinishedStay finished es = true ∧ FinishedStay (es.foldl observe finished) fs = true := by
  induction es generalizing finished with
  | nil => simp [FinishedStay]
  | cons e es ih => simp [finishedStay_cons, ih, and_assoc]

theorem tell_ds {c : Subscriber} (m : AgpsStateMachine) (status : AgpsRsrcStatus)
    (ds : c.kind = .ds) : tell m status c = .told c status (informCall status c.ID) := by
  cases c with
  | ds => cases status <;> rfl
  | _ => cases ds

theorem granted_stay (m : AgpsStateMachine) (kinds : ∀ c ∈ list, c.kind = .ds)
    (apart : ∀ c ∈ list, c.ID ∉ finished) :
    FinishedStay finished (list.map (tell m .granted)) := by
  induction list with
  | nil => rfl
  | cons c list ih =>
      have told := tell_ds m .granted (kinds c (by simp))
      have rest := ih (fun d member => kinds d (by simp [member]))
        fun d member => apart d (by simp [member])
      refine finishedStay_cons.mpr ⟨?_, ?_⟩
      · simpa [told, Effect.uses, informCall, Call.uses] using apart c (by simp)
      · simpa [told, observe, Effect.finishes, informCall, Call.finishes] using rest

theorem unused_stay (unused : ∀ e ∈ es, e.uses = none) : FinishedStay finished es := by
  induction es generalizing finished with
  | nil => rfl
  | cons e es ih =>
      exact finishedStay_cons.mpr ⟨by simp [unused e (by simp)],
        ih fun e member => unused e (by simp [member])⟩

theorem denied_stay (m : AgpsStateMachine) (kinds : ∀ c ∈ list, c.kind = .ds)
    (distinct : (list.map Subscriber.ID).Nodup) (apart : ∀ c ∈ list, c.ID ∉ finished) :
    FinishedStay finished (list.map (tell m .denied)) := by
  induction list generalizing finished with
  | nil => rfl
  | cons c list ih =>
      have told := tell_ds m .denied (kinds c (by simp))
      obtain ⟨new, distinct⟩ := List.nodup_cons.mp distinct
      refine finishedStay_cons.mpr ⟨?_, ?_⟩
      · simpa [told, Effect.uses, informCall, Call.uses] using apart c (by simp)
      · refine ih (fun d member => kinds d (by simp [member])) distinct fun d member => ?_
        have other : d.ID ≠ c.ID := fun same => new (same ▸ List.mem_map_of_mem member)
        simp [told, observe, Effect.finishes, informCall, Call.finishes, other,
          apart d (by simp [member])]

theorem finishes_told {m : AgpsStateMachine} {status : AgpsRsrcStatus} {ID : UInt32}
    (kinds : ∀ c ∈ list, c.kind = .ds)
    (open' : status = .granted ∨ status = .released) :
    ¬ ∃ e ∈ list.map (tell m status), e.finishes = some ID := by
  rintro ⟨e, told, finishes⟩
  obtain ⟨c, member, rfl⟩ := List.mem_map.mp told
  rcases open' with rfl | rfl <;>
    simp [tell_ds m _ (kinds c member), Effect.finishes, informCall, Call.finishes] at finishes

end Effects

/-! ## The machine of emergency calls -/

structure DsMachine (m : AgpsStateMachine) : Prop where
  machineClass : m.machineClass = .ds
  many : m.mEnforceSingleSubscriber = false
  clients : ∀ c ∈ m.mSubscribers, c.kind = .ds
  distinct : (m.mSubscribers.map Subscriber.ID).Nodup

def waiting (answers : Answers) : List Effect :=
  if answers.requestRsrc = LOC_API_ADAPTER_ERR_ENGINE_BUSY ∧ answers.timerStarted = true then
    [.timerStart DATA_CALL_RETRY_DELAY_MSEC]
  else []

section Equations
variable {m : AgpsStateMachine} {a : Act} {answers : Answers} {ID : UInt32}

theorem start_eq (stays : fallsBack a.machine.mRetries answers = false) :
    ∃ ret mRetries, sendDataCallRequest answers .requestAgpsDataConn a =
      (ret, ⟨{ a.machine with mRetries },
        a.log ++ .dataCall .requestAgpsDataConn :: waiting answers⟩) ∧
      (ret = 0 ↔ answers.requestRsrc = LOC_API_ADAPTER_ERR_SUCCESS) := by
  simp only [fallsBack, Bool.or_eq_false_iff, Bool.and_eq_false_iff, beq_eq_false_iff_ne] at stays
  obtain ⟨⟨supported, sound⟩, few⟩ := stays
  unfold sendDataCallRequest waiting
  by_cases busy : answers.requestRsrc = LOC_API_ADAPTER_ERR_ENGINE_BUSY
  · have retries : ¬ a.machine.mRetries + 1 > MAX_START_DATA_CALL_RETRIES := by simpa [busy] using few
    have failed : answers.requestRsrc ≠ LOC_API_ADAPTER_ERR_SUCCESS := by simp [busy,
      LOC_API_ADAPTER_ERR_ENGINE_BUSY, LOC_API_ADAPTER_ERR_SUCCESS]
    cases timer : answers.timerStarted with
    | true =>
        refine ⟨-1, a.machine.mRetries + 1, ?_, by simp [failed]⟩
        simp [busy, retries, effect]
    | false =>
        refine ⟨answers.requestRsrc, a.machine.mRetries + 1, ?_, .rfl⟩
        simp [busy, retries, effect]
  · refine ⟨answers.requestRsrc, a.machine.mRetries, ?_, .rfl⟩
    simp only [if_true, busy, supported, sound, false_and, if_false, ite_self, effect,
      List.append_assoc, List.singleton_append]

theorem stop_eq : sendDataCallRequest answers .releaseAgpsDataConn a =
    (0, a.effect (.dataCall .releaseAgpsDataConn)) := rfl

theorem sendRsrcRequest_ds (ds : a.machine.machineClass = .ds) (action : AGpsStatusValue) :
    sendRsrcRequest answers action a = sendDataCallRequest answers action a := by
  rw [sendRsrcRequest, ds]

/-! ## Subscribing -/

theorem subscribe_eq (h : DsMachine m) (subscriber : Subscriber) :
    AgpsStateMachine.subscribeRsrc answers subscriber ⟨m, []⟩ =
      onStateEvent answers (.subscribe subscriber) ⟨m, []⟩ := by
  simp [AgpsStateMachine.subscribeRsrc, h.many]

theorem subscribe_sent (h : DsMachine m) (idle : m.mState = .released) {ret : Int}
    {machine : AgpsStateMachine} {log : List Effect}
    (sent : sendDataCallRequest answers .requestAgpsDataConn
      ((⟨m, []⟩ : Act).setSubscribers (enlist (.ds ID false) m.mSubscribers)) =
        (ret, ⟨machine, log⟩))
    (success : ret = 0 ↔ answers.requestRsrc = LOC_API_ADAPTER_ERR_SUCCESS) :
    AgpsStateMachine.subscribeRsrc answers (.ds ID false) ⟨m, []⟩ =
      ⟨{ machine with
          mState := if answers.requestRsrc = LOC_API_ADAPTER_ERR_SUCCESS then .pending
            else .released }, log⟩ := by
  rw [subscribe_eq h]
  simp only [onStateEvent, idle, AgpsReleasedState.onRsrcEvent, addSubscriber_eq]
  rw [sendRsrcRequest_ds (by exact h.machineClass), sent]
  by_cases ok : answers.requestRsrc = LOC_API_ADAPTER_ERR_SUCCESS
  · simp [success.mpr ok, ok, setState]
  · simp [mt success.mp ok, ok, setState]

theorem subscribe_released (h : DsMachine m) (idle : m.mState = .released)
    (stays : fallsBack m.mRetries answers = false) :
    ∃ mRetries, AgpsStateMachine.subscribeRsrc answers (.ds ID false) ⟨m, []⟩ =
      ⟨{ m with
          mState := if answers.requestRsrc = LOC_API_ADAPTER_ERR_SUCCESS then .pending else .released
          mSubscribers := enlist (.ds ID false) m.mSubscribers
          mRetries },
        .dataCall .requestAgpsDataConn :: waiting answers⟩ := by
  obtain ⟨ret, mRetries, sent, success⟩ := @start_eq
    ((⟨m, []⟩ : Act).setSubscribers (enlist (.ds ID false) m.mSubscribers)) answers stays
  exact ⟨mRetries, subscribe_sent h idle sent success⟩

theorem subscribe_used (h : DsMachine m) (used : m.mState ≠ .released) :
    AgpsStateMachine.subscribeRsrc answers (.ds ID false) ⟨m, []⟩ =
      ⟨{ m with mSubscribers := enlist (.ds ID false) m.mSubscribers },
        if m.mState = .acquired then [tell m .granted (.ds ID false)] else []⟩ := by
  rw [subscribe_eq h]
  cases state : m.mState with
  | released => exact absurd state used
  | pending | releasing =>
      simp [onStateEvent, state, AgpsPendingState.onRsrcEvent, AgpsReleasingState.onRsrcEvent,
        addSubscriber_eq, setState, setSubscribers]
  | acquired =>
      have mine : (Subscriber.ds ID false).forMe ⟨.rcver (.ds ID false), .granted, false⟩ = true :=
        equals_self (.ds ID false)
      simp only [onStateEvent, state, AgpsAcquiredState.onRsrcEvent]
      rw [notifyRsrcStatus_eq (by simp [Tellable]), if_pos mine, addSubscriber_eq]
      simp [tellAll, retriesAfter, setState, setSubscribers]

end Equations

/-! ## Invariants -/

/-- Only handles that are not finished are active; before the connection is asked for all are. -/
structure DsCore (s : DsSystem) : Prop where
  machine : DsMachine s.machine
  active : ∀ c ∈ s.machine.mSubscribers, c.isInactive = false → c.ID ∉ s.finished
  idle : s.machine.mState = .released → ∀ c ∈ s.machine.mSubscribers, c.isInactive = false

structure DsInv (s : DsSystem) : Prop where
  core : DsCore s
  waits : s.machine.mState = .released → s.machine.mSubscribers ≠ [] → s.retryPending

def Keeps (s : DsSystem) (acted : DsSystem × List Effect) : Prop :=
  DsInv acted.1 ∧ FinishedStay s.finished acted.2

theorem act_eq {s : DsSystem} {action : Act → Act} {m : AgpsStateMachine} {log : List Effect}
    (done : action ⟨s.machine, []⟩ = ⟨m, log⟩) :
    s.act action = ({ s with
      machine := m
      timers := s.timers + log.countP startsTimer
      finished := log.foldl observe s.finished }, log) := by
  unfold act
  rw [done]

theorem act_congr {s : DsSystem} {first second : Act → Act}
    (same : first ⟨s.machine, []⟩ = second ⟨s.machine, []⟩) : s.act first = s.act second := by
  unfold act
  rw [same]

section Subscribe
variable {s : DsSystem} {m : AgpsStateMachine} {answers : Answers} {ID : UInt32}

theorem ds_equals {c d : Subscriber} (ds : c.kind = .ds) : c.equals d = (c.ID == d.ID) := by
  cases c with
  | ds => rfl
  | _ => cases ds

theorem enlist_machine (h : DsMachine m) :
    (∀ c ∈ enlist (.ds ID false) m.mSubscribers, c.kind = .ds) ∧
      ((enlist (.ds ID false) m.mSubscribers).map Subscriber.ID).Nodup := by
  unfold enlist
  split_ifs with present
  · exact ⟨h.clients, h.distinct⟩
  · refine ⟨by simpa [Subscriber.clone, Subscriber.kind] using h.clients, ?_⟩
    rw [List.map_cons, List.nodup_cons]
    refine ⟨fun member => present ?_, h.distinct⟩
    obtain ⟨c, inside, same⟩ := List.mem_map.mp member
    refine List.any_eq_true.mpr ⟨c, inside, ?_⟩
    rw [ds_equals (h.clients c inside)]
    simpa [Subscriber.clone] using same

/-- The effects of a start neither use nor finish a handle. -/
theorem start_quiet (finished : List UInt32) (action : AGpsStatusValue) :
    FinishedStay finished (.dataCall action :: waiting answers) ∧
      (Effect.dataCall action :: waiting answers).foldl observe finished = finished := by
  unfold waiting
  split_ifs <;> simp [FinishedStay, spares_iff, observe, Effect.uses, Effect.finishes]

theorem active_enlist (h : DsCore s)
    (known : ID ∈ s.finished → s.listed ID) {c : Subscriber}
    (member : c ∈ enlist (.ds ID false) s.machine.mSubscribers) (active : c.isInactive = false) :
    c.ID ∉ s.finished := by
  rcases mem_enlist member with old | ⟨rfl, new⟩
  · exact h.active c old active
  · intro finished
    obtain ⟨c, inside, same⟩ := known finished
    have differs := new c inside
    rw [ds_equals (h.machine.clients c inside), same] at differs
    simp [Subscriber.ID] at differs

theorem subscribe_keeps (h : DsCore s)
    (known : ID ∈ s.finished → s.machine.mState ≠ .acquired ∧ s.listed ID)
    (starts : s.machine.mState = .released → s.StartsOrWaits answers) :
    Keeps s (s.act (AgpsStateMachine.subscribeRsrc answers (.ds ID false))) := by
  have enlisted : DsMachine { s.machine with
      mSubscribers := enlist (.ds ID false) s.machine.mSubscribers } :=
    ⟨h.machine.machineClass, h.machine.many, (enlist_machine h.machine).1,
      (enlist_machine h.machine).2⟩
  have active := fun c member => @active_enlist s ID h (fun finished => (known finished).2) c member
  by_cases idle : s.machine.mState = .released
  · obtain ⟨stays, again⟩ := starts idle
    obtain ⟨mRetries, same⟩ := @subscribe_released _ _ ID h.machine idle stays
    obtain ⟨quiet, unfinished⟩ := @start_quiet answers s.finished .requestAgpsDataConn
    rw [act_eq same, unfinished]
    refine ⟨⟨⟨⟨enlisted.machineClass, enlisted.many, enlisted.clients, enlisted.distinct⟩, active,
      fun _ c member => ?_⟩, fun stays _ => ?_⟩, quiet⟩
    · rcases mem_enlist member with old | ⟨rfl, -⟩
      · exact h.idle idle c old
      · rfl
    · have failed : answers.requestRsrc ≠ LOC_API_ADAPTER_ERR_SUCCESS := by
        intro ok
        simp [ok] at stays
      rcases again with ok | waits | pending
      · exact absurd ok failed
      · exact .inl (by simp [waiting, waits, startsTimer])
      · exact pending.imp_left fun running => Nat.lt_of_lt_of_le running (Nat.le_add_right _ _)
  · have same := @subscribe_used _ answers ID h.machine idle
    rw [act_eq same]
    by_cases held : s.machine.mState = .acquired
    · have stays : ID ∉ s.finished := fun finished => (known finished).1 held
      have told := tell_ds (c := .ds ID false) s.machine .granted rfl
      rw [if_pos held, told]
      refine ⟨⟨⟨enlisted, ?_, fun released => absurd released idle⟩,
        fun released => absurd released idle⟩, ?_⟩
      · simpa [observe, Effect.finishes, informCall, Call.finishes] using active
      · simpa [FinishedStay, spares_iff, Effect.uses, informCall, Call.uses, Subscriber.ID] using stays
    · rw [if_neg held]
      exact ⟨⟨⟨enlisted, active, fun released => absurd released idle⟩,
        fun released => absurd released idle⟩, rfl⟩

end Subscribe

/-! ## Unsubscribing -/

section Unsubscribe
variable {s : DsSystem} {m : AgpsStateMachine} {ID : UInt32}

/-- The entry that is marked inactive, by what it holds and not by where it is. -/
theorem modify_entry {list : List Subscriber} {p : Subscriber → Bool}
    (distinct : (list.map Subscriber.ID).Nodup) (handle : ∀ c ∈ list, p c = (c.ID == ID))
    (f : Subscriber → Subscriber) :
    list.modify (list.findIdx p) f = list.map fun c => if c.ID = ID then f c else c := by
  induction list with
  | nil => rfl
  | cons c list ih =>
      obtain ⟨new, distinct⟩ := List.nodup_cons.mp distinct
      have first := handle c (by simp)
      by_cases mine : c.ID = ID
      · have others : (list.map fun d => if d.ID = ID then f d else d) = list := by
          have same : ∀ d ∈ list, (if d.ID = ID then f d else d) = id d := by
            intro d member
            have other : d.ID ≠ ID := by
              rintro rfl
              exact new (mine ▸ List.mem_map_of_mem member)
            rw [if_neg other]
            rfl
          rw [List.map_congr_left same, List.map_id]
        simp [List.findIdx_cons, first, mine, others]
      · have other : p c = false := by simpa [first] using mine
        have rest := ih distinct fun d member => handle d (by simp [member])
        simp [List.findIdx_cons, other, mine, rest]

def markHandle (ID : UInt32) (list : List Subscriber) : List Subscriber :=
  list.map fun c => if c.ID = ID then c.markInactive else c

theorem forMe_handle (h : DsMachine m) :
    ∀ c ∈ m.mSubscribers, c.forMe (.search (.rcver (.ds ID false))) = (c.ID == ID) :=
  fun c member => ds_equals (h.clients c member)

theorem unsubscribe_unknown (h : DsMachine m) (unknown : ∀ c ∈ m.mSubscribers, c.ID ≠ ID) :
    AgpsStateMachine.unsubscribeRsrc noAnswers (.ds ID false) ⟨m, []⟩ = (false, ⟨m, []⟩) := by
  have none : (Act.mk m []).findSubscriber (.rcver (.ds ID false)) = none := by
    rw [findSubscriber_eq, List.find?_eq_none]
    intro c member
    rw [forMe_handle h c member]
    simpa using unknown c member
  simp [AgpsStateMachine.unsubscribeRsrc, none]

theorem listed_found (h : DsMachine m) {c : Subscriber} (member : c ∈ m.mSubscribers)
    (same : c.ID = ID) :
    ∃ d ∈ m.mSubscribers, d.ID = ID ∧
      (Act.mk m []).findSubscriber (.rcver (.ds ID false)) = some d := by
  rw [findSubscriber_eq]
  cases found : m.mSubscribers.find? fun d => d.forMe (.search (.rcver (.ds ID false))) with
  | none =>
      have absent := List.find?_eq_none.mp found c member
      rw [forMe_handle h c member] at absent
      simp [same] at absent
  | some d =>
      have inside := List.mem_of_find?_eq_some found
      have hit := List.find?_some found
      rw [forMe_handle h d inside] at hit
      exact ⟨d, inside, by simpa using hit, rfl⟩

theorem unsubscribe_known (h : DsMachine m) (used : m.mState ≠ .released) {c : Subscriber}
    (member : c ∈ m.mSubscribers) (same : c.ID = ID) :
    AgpsStateMachine.unsubscribeRsrc noAnswers (.ds ID false) ⟨m, []⟩ =
      (true, if m.mState ≠ .releasing ∧ ∀ d ∈ markHandle ID m.mSubscribers, d.isInactive then
          ⟨{ m with mState := .releasing, mSubscribers := markHandle ID m.mSubscribers },
            [.informed ID .unsubscribe (informCall .unsubscribe ID),
              .dataCall .releaseAgpsDataConn]⟩
        else
          ⟨{ m with mSubscribers := markHandle ID m.mSubscribers },
            [.informed ID .unsubscribe (informCall .unsubscribe ID)]⟩) := by
  obtain ⟨d, inside, mine, search⟩ := listed_found h member same
  have handle := @forMe_handle m ID h
  have ds := h.clients d inside
  have left : leave d (m.mSubscribers.findIdx fun d => d.forMe (.search (.rcver (.ds ID false))))
      ⟨m, []⟩ = ⟨{ m with mSubscribers := markHandle ID m.mSubscribers },
        [.informed ID .unsubscribe (informCall .unsubscribe ID)]⟩ := by
    have waits : d.waitForCloseComplete = true := by
      cases d with
      | ds => rfl
      | _ => cases ds
    rw [leave, if_pos waits, setInactive, if_pos ds]
    simp [setSubscribers, informStatus, effect, modify_entry h.distinct handle, mine, markHandle]
  have some : markHandle ID m.mSubscribers ≠ [] := by
    simpa [markHandle] using List.ne_nil_of_mem member
  simp only [AgpsStateMachine.unsubscribeRsrc, search, Prod.mk.injEq, true_and]
  by_cases closing : m.mState = .releasing
  · simp [closing, onStateEvent, AgpsReleasingState.onRsrcEvent, left, hasSubscribers_eq, some,
      setState]
  · have held : m.mState = .pending ∨ m.mState = .acquired := by
      cases state : m.mState <;> simp_all
    have release : sendRsrcRequest noAnswers .releaseAgpsDataConn
        ⟨{ m with mSubscribers := markHandle ID m.mSubscribers },
          [.informed ID .unsubscribe (informCall .unsubscribe ID)]⟩ = _ :=
      (sendRsrcRequest_ds h.machineClass _).trans stop_eq
    rw [onStateEvent_unsubscribe noAnswers d _ held, left]
    dsimp only
    rw [if_neg some, release]
    simp only [closing, not_false_eq_true, ne_eq, true_and]
    split_ifs <;> rfl

theorem markHandle_machine (h : DsMachine m) (mState : AgpsState) :
    DsMachine { m with mState, mSubscribers := markHandle ID m.mSubscribers } where
  machineClass := h.machineClass
  many := h.many
  clients := by
    intro c member
    obtain ⟨d, inside, rfl⟩ := List.mem_map.mp member
    split_ifs
    · exact (kind_markInactive d).trans (h.clients d inside)
    · exact h.clients d inside
  distinct := by
    have same : (markHandle ID m.mSubscribers).map Subscriber.ID =
        m.mSubscribers.map Subscriber.ID := by
      rw [markHandle, List.map_map]
      refine List.map_congr_left fun c _ => ?_
      simp only [Function.comp]
      split_ifs
      · exact ID_markInactive c
      · rfl
    exact same ▸ h.distinct

theorem active_markHandle (h : DsMachine m) {c : Subscriber}
    (member : c ∈ markHandle ID m.mSubscribers) (active : c.isInactive = false) :
    c ∈ m.mSubscribers ∧ c.ID ≠ ID := by
  obtain ⟨d, inside, rfl⟩ := List.mem_map.mp member
  split_ifs at active ⊢ with mine
  · have ds := h.clients d inside
    cases d with
    | ds => simp [Subscriber.markInactive, Subscriber.isInactive] at active
    | _ => cases ds
  · exact ⟨inside, mine⟩

theorem releaseATL_known {s : DsSystem} {ID : UInt32} {acted : Act}
    (done : AgpsStateMachine.unsubscribeRsrc noAnswers (.ds ID false) ⟨s.machine, []⟩ =
      (true, acted)) :
    s.releaseATL ID = s.act fun a => (AgpsStateMachine.unsubscribeRsrc noAnswers (.ds ID false) a).2 :=
  if_pos (congrArg Prod.fst done)

theorem releaseATL_unlisted {s : DsSystem} {ID : UInt32} (h : DsMachine s.machine)
    (unlisted : ¬ s.listed ID) :
    s.releaseATL ID = (s, [.informed ID .unsubscribe (some (.atlCloseStatus ID false))]) := by
  have unknown : ∀ c ∈ s.machine.mSubscribers, c.ID ≠ ID := by
    simpa [DsSystem.listed] using unlisted
  simp [releaseATL, unsubscribe_unknown h unknown]

theorem unsubscribe_keeps (h : DsInv s)
    (known : s.machine.mState = .released → ¬ s.listed ID) : Keeps s (s.releaseATL ID) := by
  by_cases listed : s.listed ID
  · have used : s.machine.mState ≠ .released := fun idle => known idle listed
    obtain ⟨c, member, same⟩ := listed
    have left := unsubscribe_known h.core.machine used member same
    have active : ∀ c ∈ markHandle ID s.machine.mSubscribers, c.isInactive = false →
        c.ID ∉ ID :: s.finished := by
      intro c member active
      obtain ⟨inside, other⟩ := active_markHandle h.core.machine member active
      simpa [other] using h.core.active c inside active
    rw [releaseATL_known left]
    split_ifs at left with last
    · rw [act_eq (congrArg Prod.snd left)]
      refine ⟨⟨⟨markHandle_machine h.core.machine .releasing, ?_, by simp⟩, by simp⟩, ?_⟩
      · simpa [observe, Effect.finishes, informCall, Call.finishes] using active
      · simp [FinishedStay, spares_iff, Effect.uses, informCall, Call.uses]
    · rw [act_eq (congrArg Prod.snd left)]
      refine ⟨⟨⟨markHandle_machine h.core.machine s.machine.mState, ?_,
        fun idle => absurd idle used⟩, fun idle => absurd idle used⟩, ?_⟩
      · simpa [observe, Effect.finishes, informCall, Call.finishes] using active
      · simp [FinishedStay, spares_iff, Effect.uses, informCall, Call.uses]
  · rw [releaseATL_unlisted h.core.machine listed]
    exact ⟨h, by simp [FinishedStay, spares_iff, Effect.uses, Call.uses]⟩

end Unsubscribe

/-! ## Reports of the data call -/

section Reports
variable {s : DsSystem} {m : AgpsStateMachine} {answers : Answers}

theorem granted_pending (waits : m.mState = .pending) :
    DSStateMachine.onRsrcEvent answers .granted ⟨m, []⟩ =
      ⟨{ m with mState := .acquired },
        (m.mSubscribers.filter fun c => !c.isInactive).map (tell m .granted)⟩ := by
  simp only [DSStateMachine.onRsrcEvent, onStateEvent, waits, AgpsPendingState.onRsrcEvent]
  rw [notifySubscribers_keep (by simp [Tellable]) rfl]
  simp [tellAll, retriesAfter, Subscriber.forMe, setState]

theorem granted_ignored (other : m.mState ≠ .pending) :
    DSStateMachine.onRsrcEvent answers .granted ⟨m, []⟩ = ⟨m, []⟩ := by
  cases state : m.mState <;>
    simp_all [DSStateMachine.onRsrcEvent, onStateEvent, AgpsReleasedState.onRsrcEvent,
      AgpsAcquiredState.onRsrcEvent, AgpsReleasingState.onRsrcEvent, setState_self]

theorem ended {status : AgpsRsrcStatus} (told : Tellable status) :
    (notifySubscribers ⟨.broadcastAll, status, true⟩ ⟨m, []⟩).setState .released =
      ⟨{ m with
          mState := .released
          mSubscribers := []
          mRetries := retriesAfter status m.mSubscribers m.mRetries },
        m.mSubscribers.map (tell m status)⟩ := by
  rw [notifySubscribers_delete told rfl]
  simp [Subscriber.forMe, tellAll, setSubscribers, setState]

theorem closing_eq {event : RsrcEvent} {status : AgpsRsrcStatus} (closing : m.mState = .releasing)
    (reports : event = .released ∧ status = .released ∨ event = .denied ∧ status = .denied) :
    onStateEvent answers event ⟨m, []⟩ =
      if (m.mSubscribers.filter fun c => !c.isInactive) = [] then
        ⟨{ m with
            mState := .released
            mSubscribers := []
            mRetries :=
              retriesAfter status (m.mSubscribers.filter Subscriber.isInactive) m.mRetries },
          (m.mSubscribers.filter Subscriber.isInactive).map (tell m status)⟩
      else
        (sendRsrcRequest answers .requestAgpsDataConn
          ⟨{ m with
              mSubscribers := m.mSubscribers.filter fun c => !c.isInactive
              mRetries :=
                retriesAfter status (m.mSubscribers.filter Subscriber.isInactive) m.mRetries },
            (m.mSubscribers.filter Subscriber.isInactive).map (tell m status)⟩).2.setState
          .pending := by
  generalize inactive_eq : m.mSubscribers.filter Subscriber.isInactive = inactive
  generalize active_eq : (m.mSubscribers.filter fun c => !c.isInactive) = active
  generalize retries_eq : retriesAfter status inactive m.mRetries = retries
  have told : notifySubscribers ⟨.broadcastInactive, status, true⟩ ⟨m, []⟩ =
      ⟨{ m with mSubscribers := active, mRetries := retries }, inactive.map (tell m status)⟩ := by
    have tellable : Tellable status := by
      rcases reports with ⟨-, rfl⟩ | ⟨-, rfl⟩ <;> simp [Tellable]
    rw [notifySubscribers_delete tellable rfl]
    simp [Subscriber.forMe, tellAll, setSubscribers, inactive_eq, active_eq, retries_eq]
  have used : (Act.mk { m with mSubscribers := active, mRetries := retries }
      (inactive.map (tell m status))).hasActiveSubscribers = !active.isEmpty := by
    rw [hasActiveSubscribers_eq, ← active_eq]
    dsimp only
    rw [Bool.eq_iff_iff]
    simp [List.filter_eq_nil_iff]
  have next : onStateEvent answers event ⟨m, []⟩ =
      (AgpsReleasingState.onRsrcEvent answers event ⟨m, []⟩).2.setState
        (AgpsReleasingState.onRsrcEvent answers event ⟨m, []⟩).1 := by
    rw [onStateEvent, closing]
  rw [next]
  rcases reports with ⟨rfl, rfl⟩ | ⟨rfl, rfl⟩ <;>
    simp only [AgpsReleasingState.onRsrcEvent, told, used] <;> cases active <;> rfl

theorem closed_releasing (h : DsMachine m) {event : RsrcEvent} {status : AgpsRsrcStatus}
    (closing : m.mState = .releasing)
    (reports : event = .released ∧ status = .released ∨ event = .denied ∧ status = .denied)
    (stays : (∃ c ∈ m.mSubscribers, c.isInactive = false) →
      fallsBack (retriesAfter status (m.mSubscribers.filter Subscriber.isInactive) m.mRetries)
        answers = false) :
    ∃ mState mRetries again,
      onStateEvent answers event ⟨m, []⟩ =
        ⟨{ m with
            mState
            mSubscribers := m.mSubscribers.filter fun c => !c.isInactive
            mRetries },
          (m.mSubscribers.filter Subscriber.isInactive).map (tell m status) ++ again⟩ ∧
      (mState = .released ∧ (m.mSubscribers.filter fun c => !c.isInactive) = [] ∧ again = [] ∨
        mState = .pending ∧ again = .dataCall .requestAgpsDataConn :: waiting answers) := by
  rw [closing_eq closing reports]
  by_cases last : (m.mSubscribers.filter fun c => !c.isInactive) = []
  · rw [if_pos last]
    exact ⟨.released,
      retriesAfter status (m.mSubscribers.filter Subscriber.isInactive) m.mRetries, [],
      by simp [last], .inl ⟨rfl, last, rfl⟩⟩
  · obtain ⟨c, member⟩ := List.exists_mem_of_ne_nil _ last
    rw [List.mem_filter] at member
    obtain ⟨ret, mRetries, sent, -⟩ := @start_eq
      ⟨{ m with
          mSubscribers := m.mSubscribers.filter fun c => !c.isInactive
          mRetries :=
            retriesAfter status (m.mSubscribers.filter Subscriber.isInactive) m.mRetries },
        (m.mSubscribers.filter Subscriber.isInactive).map (tell m status)⟩ answers
      (stays ⟨c, member.1, by simpa using member.2⟩)
    rw [if_neg last, sendRsrcRequest_ds (by exact h.machineClass), sent]
    exact ⟨.pending, mRetries, _, rfl, .inr ⟨rfl, rfl⟩⟩

theorem released_releasing (closing : m.mState = .releasing) :
    DSStateMachine.onRsrcEvent answers .released ⟨m, []⟩ =
      onStateEvent answers .released ⟨m, []⟩ := by
  have moves : (onStateEvent answers .released ⟨m, []⟩).machine.mState ≠ m.mState := by
    rw [closing_eq closing (.inl ⟨rfl, rfl⟩), closing]
    split_ifs <;> simp [setState]
  rw [DSStateMachine.onRsrcEvent, if_pos moves]

theorem retriesAfter_denied (h : DsMachine s.machine) :
    retriesAfter .denied (s.machine.mSubscribers.filter Subscriber.isInactive)
      s.machine.mRetries = s.retriesDenied := by
  have same : ((s.machine.mSubscribers.filter Subscriber.isInactive).any fun c => c.kind = .ds) =
      s.machine.mSubscribers.any Subscriber.isInactive := by
    rw [Bool.eq_iff_iff]
    simp only [List.any_eq_true, List.mem_filter, decide_eq_true_eq]
    constructor
    · rintro ⟨c, ⟨member, inactive⟩, -⟩
      exact ⟨c, member, inactive⟩
    · rintro ⟨c, member, inactive⟩
      exact ⟨c, ⟨member, inactive⟩, h.clients c member⟩
  simp [retriesAfter, same, retriesDenied]

theorem denied_pending (waits : m.mState = .pending) :
    DSStateMachine.onRsrcEvent answers .denied ⟨m, []⟩ =
      ⟨{ m with
          mState := .released
          mSubscribers := []
          mRetries := retriesAfter .denied m.mSubscribers m.mRetries },
        m.mSubscribers.map (tell m .denied)⟩ := by
  simp only [DSStateMachine.onRsrcEvent, onStateEvent, waits, AgpsPendingState.onRsrcEvent]
  exact ended (by simp [Tellable])

theorem denied_ignored (other : m.mState = .released ∨ m.mState = .acquired) :
    DSStateMachine.onRsrcEvent answers .denied ⟨m, []⟩ = ⟨m, []⟩ := by
  rcases other with state | state <;>
    simp [DSStateMachine.onRsrcEvent, onStateEvent, state, AgpsReleasedState.onRsrcEvent,
      AgpsAcquiredState.onRsrcEvent, setState_self]

theorem released_acquired (held : m.mState = .acquired) :
    DSStateMachine.onRsrcEvent answers .released ⟨m, []⟩ =
      ⟨{ m with
          mState := .released
          mSubscribers := []
          mRetries := retriesAfter .released m.mSubscribers m.mRetries },
        m.mSubscribers.map (tell m .released)⟩ := by
  have all := @ended m .released (by simp [Tellable])
  simp [DSStateMachine.onRsrcEvent, onStateEvent, held, AgpsAcquiredState.onRsrcEvent, all]

theorem released_denied (other : m.mState = .released ∨ m.mState = .pending) :
    DSStateMachine.onRsrcEvent answers .released ⟨m, []⟩ =
      DSStateMachine.onRsrcEvent answers .denied ⟨m, []⟩ := by
  have same : onStateEvent answers .released ⟨m, []⟩ = ⟨m, []⟩ := by
    rcases other with state | state <;>
      simp [onStateEvent, state, AgpsReleasedState.onRsrcEvent, AgpsPendingState.onRsrcEvent,
        setState_self]
  simp [DSStateMachine.onRsrcEvent, same]

theorem DsMachine.sublist (h : DsMachine m) {list : List Subscriber}
    (kept : list.Sublist m.mSubscribers) (mState : AgpsState) (mRetries : UInt8) :
    DsMachine { m with mState, mSubscribers := list, mRetries } where
  machineClass := h.machineClass
  many := h.many
  clients c member := h.clients c (kept.subset member)
  distinct := h.distinct.sublist (kept.map _)

theorem granted_keeps (h : DsInv s) :
    Keeps s (s.act (DSStateMachine.onRsrcEvent noAnswers .granted)) := by
  by_cases waits : s.machine.mState = .pending
  · have kinds : ∀ c ∈ s.machine.mSubscribers.filter fun c => !c.isInactive, c.kind = .ds :=
      fun c member => h.core.machine.clients c (List.mem_of_mem_filter member)
    have apart : ∀ c ∈ s.machine.mSubscribers.filter fun c => !c.isInactive,
        c.ID ∉ s.finished := by
      intro c member
      obtain ⟨inside, active⟩ := List.mem_filter.mp member
      exact h.core.active c inside (by simpa using active)
    rw [act_eq (granted_pending waits)]
    refine ⟨⟨⟨h.core.machine.sublist (List.Sublist.refl _) .acquired _, fun c member active => ?_,
      by simp⟩, by simp⟩, granted_stay s.machine kinds apart⟩
    rw [mem_observe]
    rintro (finished | told)
    · exact h.core.active c member active finished
    · exact finishes_told kinds (.inl rfl) told
  · rw [act_eq (granted_ignored waits)]
    exact ⟨h, rfl⟩

theorem emptied_inv (h : DsInv s) (mRetries : UInt8) (timers : Nat) (finished : List UInt32) :
    DsInv { s with
      machine := { s.machine with mState := .released, mSubscribers := [], mRetries }
      timers, finished } :=
  ⟨⟨h.core.machine.sublist (List.nil_sublist _) .released mRetries, by simp, by simp⟩, by simp⟩

theorem denied_pending_keeps (h : DsInv s) (waits : s.machine.mState = .pending)
    (apart : ∀ c ∈ s.machine.mSubscribers, c.ID ∉ s.finished) :
    Keeps s (s.act (DSStateMachine.onRsrcEvent answers .denied)) := by
  rw [act_eq (denied_pending waits)]
  exact ⟨emptied_inv h _ _ _, denied_stay s.machine h.core.machine.clients h.core.machine.distinct
    apart⟩

theorem released_acquired_keeps (h : DsInv s) (held : s.machine.mState = .acquired) :
    Keeps s (s.act (DSStateMachine.onRsrcEvent answers .released)) := by
  rw [act_eq (released_acquired held)]
  refine ⟨emptied_inv h _ _ _, unused_stay fun e told => ?_⟩
  obtain ⟨c, member, rfl⟩ := List.mem_map.mp told
  simp [tell_ds s.machine .released (h.core.machine.clients c member), Effect.uses, informCall,
    Call.uses]

theorem closed_keeps (h : DsInv s) {event : RsrcEvent} {status : AgpsRsrcStatus}
    {action : Act → Act} (closing : s.machine.mState = .releasing)
    (acts : action ⟨s.machine, []⟩ = onStateEvent answers event ⟨s.machine, []⟩)
    (reports : event = .released ∧ status = .released ∨ event = .denied ∧ status = .denied)
    (apart : status = .denied →
      ∀ c ∈ s.machine.mSubscribers, c.isInactive = true → c.ID ∉ s.finished)
    (stays : s.active → fallsBack
      (retriesAfter status (s.machine.mSubscribers.filter Subscriber.isInactive)
        s.machine.mRetries) answers = false) : Keeps s (s.act action) := by
  obtain ⟨mState, mRetries, again, closed, next⟩ :=
    closed_releasing h.core.machine closing reports stays
  have kinds : ∀ c ∈ s.machine.mSubscribers.filter Subscriber.isInactive, c.kind = .ds :=
    fun c member => h.core.machine.clients c (List.mem_of_mem_filter member)
  have quiet (finished : List UInt32) :
      FinishedStay finished again ∧ again.foldl observe finished = finished := by
    rcases next with ⟨-, -, rfl⟩ | ⟨-, rfl⟩
    · exact ⟨rfl, rfl⟩
    · exact start_quiet finished .requestAgpsDataConn
  rw [act_eq (acts.trans closed), List.foldl_append, (quiet _).2]
  refine ⟨⟨⟨h.core.machine.sublist (List.filter_sublist) mState mRetries, ?_, ?_⟩, ?_⟩, ?_⟩
  · intro c member active
    rw [mem_observe]
    rintro (finished | ⟨e, told, finishes⟩)
    · exact h.core.active c (List.mem_of_mem_filter member) active finished
    · rcases reports with ⟨-, rfl⟩ | ⟨-, rfl⟩
      · exact finishes_told kinds (.inr rfl) ⟨e, told, finishes⟩
      · obtain ⟨d, inside, rfl⟩ := List.mem_map.mp told
        obtain ⟨inside, inactive⟩ := List.mem_filter.mp inside
        rw [tell_ds s.machine .denied (h.core.machine.clients d inside)] at finishes
        have same : d.ID = c.ID := by
          simpa [Effect.finishes, informCall, Call.finishes] using finishes
        have equal := List.inj_on_of_nodup_map h.core.machine.distinct inside
          (List.mem_of_mem_filter member) same
        simp [← equal, inactive] at active
  · intro _ c member
    simpa using (List.mem_filter.mp member).2
  · intro released some
    rcases next with ⟨-, none, -⟩ | ⟨rfl, -⟩
    · exact absurd none some
    · cases released
  · refine finishedStay_append.mpr ⟨?_, (quiet _).1⟩
    rcases reports with ⟨-, rfl⟩ | ⟨-, rfl⟩
    · refine unused_stay fun e told => ?_
      obtain ⟨c, member, rfl⟩ := List.mem_map.mp told
      simp [tell_ds s.machine .released (kinds c member), Effect.uses, informCall, Call.uses]
    · refine denied_stay s.machine kinds ?_ fun c member => ?_
      · exact h.core.machine.distinct.sublist (List.filter_sublist.map _)
      · obtain ⟨inside, inactive⟩ := List.mem_filter.mp member
        exact apart rfl c inside inactive

end Reports

/-! ## Timers -/

theorem retryCallback_eq (m : AgpsStateMachine) :
    DSStateMachine.retryCallback m =
      (m.mSubscribers.find? fun c => !c.isInactive).map Subscriber.ID := by
  rw [DSStateMachine.retryCallback, findActive_eq]

theorem fire_keeps {s : DsSystem} (h : DsInv s) : Keeps s s.fire := by
  unfold fire
  cases running : s.timers with
  | zero => exact ⟨h, rfl⟩
  | succ timers =>
      dsimp only
      rw [retryCallback_eq]
      cases first : s.machine.mSubscribers.find? fun c => !c.isInactive with
      | none =>
          refine ⟨⟨⟨h.core.machine, h.core.active, h.core.idle⟩, fun idle some => ?_⟩, rfl⟩
          -- a released machine has only active clients
          obtain ⟨c, member⟩ := List.exists_mem_of_ne_nil _ some
          have inactive := List.find?_eq_none.mp first c member
          simp [h.core.idle idle c member] at inactive
      | some c =>
          have active : c.isInactive = false := by simpa using List.find?_some first
          have stays := h.core.active c (List.mem_of_find?_eq_some first) active
          refine ⟨⟨⟨h.core.machine, h.core.active, h.core.idle⟩, fun _ _ => .inr (by simp)⟩, ?_⟩
          simpa [FinishedStay, spares_iff, Effect.uses] using stays

/-! ## Events -/

theorem resume_core {s : DsSystem} (h : DsCore s) (ID : UInt32) : DsCore (s.resume ID) where
  machine := h.machine
  active c member active finished :=
    h.active c member active (List.mem_of_mem_filter finished)
  idle := h.idle

theorem ds_step {s : DsSystem} {e : DsEvent} (h : DsInv s) (orderly : s.Orderly e) :
    DsInv (s.step e).1 ∧ FinishedStay (s.finishedAt e) (s.step e).2 := by
  cases e with
  | subscribe ID answers =>
      have fresh : ID ∉ (s.resume ID).finished := by simp [resume]
      exact @subscribe_keeps (s.resume ID) answers ID (resume_core h.core ID)
        (fun finished => absurd finished fresh) orderly
  | unsubscribe ID => exact unsubscribe_keeps h orderly
  | timer => exact fire_keeps h
  | granted => exact granted_keeps h
  | retry answers =>
      cases queue : s.retries with
      | nil =>
          have nothing : s.step (.retry answers) = (s, []) := by simp [step, queue]
          rw [nothing]
          exact ⟨h, rfl⟩
      | cons ID retries =>
          obtain ⟨known, starts⟩ : s.RetryInTime answers (ID :: retries) := by
            simpa only [Orderly, queue] using orderly
          have handled : s.step (.retry answers) =
              { s with retries }.act (AgpsStateMachine.subscribeRsrc answers (.ds ID false)) := by
            simp [step, queue]
          rw [handled]
          exact @subscribe_keeps { s with retries } answers ID
            ⟨h.core.machine, h.core.active, h.core.idle⟩ known starts
  | denied answers =>
      cases state : s.machine.mState with
      | pending => exact denied_pending_keeps h state (orderly.1 state)
      | released | acquired =>
          have nothing : s.step (.denied answers) = (s, []) :=
            act_eq (denied_ignored (by simp [state]))
          rw [nothing]
          exact ⟨h, rfl⟩
      | releasing =>
          obtain ⟨apart, stays⟩ := orderly.2 state
          refine closed_keeps h state rfl (.inr ⟨rfl, rfl⟩) (fun _ => apart) fun active => ?_
          rw [retriesAfter_denied h.core.machine]
          exact stays active
  | released answers =>
      have denies (other : s.machine.mState = .released ∨ s.machine.mState = .pending) :
          s.step (.released answers) = s.step (.denied answers) :=
        act_congr (released_denied other)
      cases state : s.machine.mState with
      | acquired => exact released_acquired_keeps h state
      | pending =>
          rw [denies (.inr state)]
          exact denied_pending_keeps h state (orderly.1 state)
      | released =>
          have nothing : s.step (.denied answers) = (s, []) :=
            act_eq (denied_ignored (.inl state))
          rw [denies (.inl state), nothing]
          exact ⟨h, rfl⟩
      | releasing =>
          have stays := orderly.2 state
          refine closed_keeps h state (released_releasing state) (.inl ⟨rfl, rfl⟩) (by simp) ?_
          intro active
          simpa [retriesAfter] using stays active

/-! ## Runs -/

theorem new_ds : DsInv .new where
  core := ⟨⟨rfl, rfl, by simp [new, DSStateMachine.new, AgpsStateMachine.new],
    by simp [new, DSStateMachine.new, AgpsStateMachine.new]⟩,
    by simp [new, DSStateMachine.new, AgpsStateMachine.new],
    by simp [new, DSStateMachine.new, AgpsStateMachine.new]⟩
  waits := by simp [new, DSStateMachine.new, AgpsStateMachine.new]

theorem DsInv.idle {s : DsSystem} (h : DsInv s) : Idle s := by
  intro released calm
  by_contra some
  exact calm (h.waits released some)

/-- In an orderly run no finished handle is used before it subscribes again, and a released machine
without a retry on its way has an empty list. -/
theorem finished_handles_stay {es : List DsEvent}
    (orderly : ∀ t ∈ trace DsSystem.step .new es, t.before.Orderly t.event) :
    (∀ t ∈ trace DsSystem.step .new es, FinishedStay (t.before.finishedAt t.event) t.outputs ∧
      Idle t.before ∧ Idle t.after) ∧ Idle (final DsSystem.step .new es) := by
  have keep : ∀ s e, DsInv s → s.Orderly e → DsInv (s.step e).1 :=
    fun s e h orderly => (ds_step h orderly).1
  obtain ⟨last, inside⟩ := invariant_of_allowed keep new_ds orderly
  refine ⟨fun t member => ⟨?_, (inside t member).1.idle, (inside t member).2.idle⟩, last.idle⟩
  have stays := (ds_step (inside t member).1 (orderly t member)).2
  have outputs : t.outputs = (t.before.step t.event).2 :=
    congrArg Transition.outputs (eq_react_of_mem member)
  rw [outputs]
  exact stays

def orderlyCalls : List DsEvent :=
  [.subscribe 1 ⟨LOC_API_ADAPTER_ERR_ENGINE_BUSY, true⟩, .timer,
    .retry ⟨LOC_API_ADAPTER_ERR_SUCCESS, false⟩, .granted, .subscribe 2 noAnswers, .unsubscribe 1,
    .unsubscribe 2, .released noAnswers]

theorem finished_handles_stay_orderly : Idle (final DsSystem.step .new orderlyCalls) :=
  (finished_handles_stay (by decide)).2

/-- The first request finds no profile and falls back, but its handle stays in the list; with the
next handle's connection it is granted too. -/
theorem fallen_back_is_granted :
    ¬ ∀ t ∈ trace DsSystem.step .new
        [.subscribe 1 ⟨LOC_API_ADAPTER_ERR_UNSUPPORTED, false⟩, .subscribe 2 noAnswers, .granted],
      FinishedStay (t.before.finishedAt t.event) t.outputs ∧ Idle t.after := by
  intro stay
  have grant := (stay (react DsSystem.step (final DsSystem.step .new
    [.subscribe 1 ⟨LOC_API_ADAPTER_ERR_UNSUPPORTED, false⟩, .subscribe 2 noAnswers]) .granted)
    (by simp)).1
  revert grant
  decide

end VibeXperia.Proof.Agps

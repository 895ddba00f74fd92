import VibeXperia.Proof.Agps.Machine

namespace VibeXperia.Proof.Agps
open VibeXperia.Agps VibeXperia.Agps.Act

/-! ## Clients -/

def identity : Subscriber → UInt32 × List UInt8
  | .bit ID mIPv6Addr =>
      (ID, if ID = INADDR_NONE then (mIPv6Addr.take 16).takeWhile (· ≠ 0) else [])
  | s => (s.ID, [])

theorem equals_iff {s t : Subscriber} (same : s.kind = t.kind) :
    s.equals t = true ↔ identity s = identity t := by
  cases s with
  | bit ID mIPv6Addr =>
      cases t with
      | bit ID' mIPv6Addr' =>
          simp only [Subscriber.equals, Subscriber.ID, Subscriber.mIPv6Addr, strncmpEqual,
            identity, Bool.and_eq_true, Bool.or_eq_true, beq_iff_eq, bne_iff_ne, Prod.mk.injEq]
          constructor
          · rintro ⟨rfl, other | equal⟩
            · simp [Ne.symm other]
            · rw [equal]
              exact ⟨rfl, rfl⟩
          · rintro ⟨rfl, equal⟩
            by_cases none : ID = INADDR_NONE
            · exact ⟨rfl, .inr (by simpa [none] using equal)⟩
            · exact ⟨rfl, .inl (Ne.symm none)⟩
      | _ => simp [Subscriber.kind] at same
  | _ => cases t <;> simp_all [Subscriber.kind, Subscriber.equals, Subscriber.ID, identity]

theorem equals_self (s : Subscriber) : s.equals s = true := (equals_iff rfl).mpr rfl

theorem equals_comm {s t : Subscriber} (same : s.kind = t.kind) : s.equals t = t.equals s := by
  rw [Bool.eq_iff_iff, equals_iff same, equals_iff same.symm]
  exact eq_comm

@[simp] theorem kind_markInactive (c : Subscriber) : c.markInactive.kind = c.kind := by
  cases c <;> rfl

@[simp] theorem ID_markInactive (c : Subscriber) : c.markInactive.ID = c.ID := by cases c <;> rfl

@[simp] theorem ID_clone (c : Subscriber) : c.clone.ID = c.ID := by cases c <;> rfl

def Immediate (s : Subscriber) : Prop := s.kind = .atl ∨ s.kind = .bit

instance (s : Subscriber) : Decidable (Immediate s) :=
  inferInstanceAs (Decidable (s.kind = .atl ∨ s.kind = .bit))

section Immediate
variable {s : Subscriber}

theorem Immediate.waits (immediate : Immediate s) : s.waitForCloseComplete = false := by
  rcases immediate with h | h <;> cases s <;> cases h <;> rfl

theorem Immediate.active (immediate : Immediate s) : s.isInactive = false := by
  rcases immediate with h | h <;> cases s <;> cases h <;> rfl

theorem Immediate.clone (immediate : Immediate s) : s.clone = s := by
  rcases immediate with h | h <;> cases s <;> cases h <;> rfl

theorem Immediate.not_ds (immediate : Immediate s) : s.kind ≠ .ds := by
  rcases immediate with h | h <;> simp [h]

end Immediate

/-! ## Machines of ATL and BIT clients -/

/-- `agnss_nif` or `internet_nif` but for its restarts. -/
structure ClientMachine (m : AgpsStateMachine) : Prop where
  machineClass : m.machineClass = .agps
  many : m.mEnforceSingleSubscriber = false
  clients : ∀ s ∈ m.mSubscribers, Immediate s
  state : m.mState ≠ .releasing
  released : m.mState = .released → m.mSubscribers = []

section Equations
variable {m : AgpsStateMachine} {s : Subscriber}

theorem tellAll_not_ds {heard : List Subscriber} (status : AgpsRsrcStatus) (a : Act)
    (clients : ∀ s ∈ heard, s.kind ≠ .ds) :
    tellAll status heard a = { a with log := a.log ++ heard.map (tell a.machine status) } := by
  have none : (heard.any fun s => s.kind = .ds) = false := by simpa using clients
  simp [tellAll, retriesAfter, none]

theorem leave_immediate {c : Subscriber} (immediate : Immediate c) (entry : Nat) (a : Act)
    (clients : ∀ s ∈ a.machine.mSubscribers, Immediate s) :
    leave c entry a =
      { machine := { a.machine with
          mSubscribers := a.machine.mSubscribers.filter fun e => !e.equals c }
        log := a.log ++ (a.machine.mSubscribers.filter fun e => e.equals c).map
          (tell a.machine .unsubscribe) } := by
  have heard : ∀ s ∈ a.machine.mSubscribers.filter fun e => e.equals c, s.kind ≠ .ds :=
    fun s member => (clients s (List.mem_of_mem_filter member)).not_ds
  rw [leave, immediate.waits, notifySubscribers_delete (by simp [Tellable]) rfl]
  simp only [Subscriber.forMe, tellAll_not_ds _ _ heard]
  rfl

theorem proc_subscribe (h : ClientMachine m) (immediate : Immediate s) :
    m.proc (.subscribe s) =
      match m.mState with
      | .released =>
          ({ m with mState := .pending, mSubscribers := [s] }, [.requested (connRequest m s)])
      | .acquired => ({ m with mSubscribers := enlist s m.mSubscribers }, [tell m .granted s])
      | _ => ({ m with mSubscribers := enlist s m.mSubscribers }, []) := by
  obtain ⟨machineClass, mState, mSubscribers, mType, mAPN, mBearer, single, mRetries⟩ := m
  obtain ⟨rfl, rfl, clients, state, released⟩ := h
  have clone := immediate.clone
  have active := immediate.active
  simp only [AgpsStateMachine.proc, AgpsMsg.procAct, AgpsStateMachine.subscribeRsrc,
    Bool.false_and, Bool.false_eq_true, if_false, onStateEvent]
  cases mState with
  | released =>
      obtain rfl : mSubscribers = [] := released rfl
      simp only [AgpsReleasedState.onRsrcEvent, addSubscriber_eq, sendRsrcRequest]
      simp [enlist, clone, setSubscribers, active, sendAgpsRequest, findActive_eq, connRequest,
        effect, setState]
  | acquired =>
      have mine : s.forMe ⟨.rcver s, .granted, false⟩ = true := equals_self s
      have client : ∀ t ∈ [s], t.kind ≠ .ds := by simpa using immediate.not_ds
      rw [AgpsAcquiredState.onRsrcEvent, notifyRsrcStatus_eq (by simp [Tellable]), if_pos mine,
        tellAll_not_ds _ _ client, addSubscriber_eq]
      rfl
  | pending =>
      simp only [AgpsPendingState.onRsrcEvent, addSubscriber_eq]
      rfl
  | releasing => exact absurd rfl state

theorem proc_unsubscribe (h : ClientMachine m) :
    m.proc (.unsubscribe s) =
      match m.mSubscribers.find? fun e => e.equals s with
      | none => (m, [])
      | some c =>
          let told := (m.mSubscribers.filter fun e => e.equals c).map (tell m .unsubscribe)
          let left := m.mSubscribers.filter fun e => !e.equals c
          if left = [] then
            ({ m with mState := .released, mSubscribers := [] },
              told ++ [.requested (connRelease m)])
          else ({ m with mSubscribers := left }, told) := by
  have search : (Act.mk m []).findSubscriber (.rcver s) = m.mSubscribers.find? fun e => e.equals s :=
    findSubscriber_eq _ _
  simp only [AgpsStateMachine.proc, AgpsMsg.procAct, AgpsStateMachine.unsubscribeRsrc, search]
  cases found : m.mSubscribers.find? fun e => e.equals s with
  | none => rfl
  | some c =>
      have member := List.mem_of_find?_eq_some found
      have listed : m.mState ≠ .released := fun idle => by simp [h.released idle] at member
      have state : m.mState = .pending ∨ m.mState = .acquired := by
        have := h.state
        cases mState : m.mState <;> simp_all
      have left := leave_immediate (h.clients c member)
        (m.mSubscribers.findIdx fun e => e.forMe (.search (.rcver s))) ⟨m, []⟩ h.clients
      dsimp only
      rw [onStateEvent_unsubscribe noAnswers c _ state, left]
      dsimp only
      split_ifs with last idle
      · rw [last, sendRsrcRequest_agps _ _ h.machineClass, sendAgpsRequest_release (by simp)]
        rfl
      · obtain ⟨e, inside⟩ := List.exists_mem_of_ne_nil _ last
        have active := (h.clients e (List.mem_of_mem_filter inside)).active
        simp [idle e inside] at active
      · rfl

theorem heard_all (h : ClientMachine m) (status : AgpsRsrcStatus) (delete : Bool) :
    (m.mSubscribers.filter fun e => e.forMe ⟨.broadcastActive, status, delete⟩) = m.mSubscribers := by
  refine List.filter_eq_self.mpr fun e member => ?_
  simp [Subscriber.forMe, (h.clients e member).active]

theorem ClientMachine.not_ds (h : ClientMachine m) : ∀ s ∈ m.mSubscribers, s.kind ≠ .ds :=
  fun s member => (h.clients s member).not_ds

theorem proc_openSuccess (h : ClientMachine m)
    (apn : List UInt8) (bearerType : Int) :
    m.proc (.openSuccess apn bearerType) =
      match m.mState with
      | .pending =>
          ({ m with mState := .acquired, mBearer := bearerType, mAPN := some apn },
            m.mSubscribers.map
              (tell { m with mBearer := bearerType, mAPN := some apn } .granted))
      | _ => ({ m with mBearer := bearerType, mAPN := some apn }, []) := by
  have heard := heard_all h .granted false
  have clients := h.not_ds
  obtain ⟨machineClass, mState, mSubscribers, mType, mAPN, mBearer, single, mRetries⟩ := m
  cases mState with
  | pending =>
      simp only [AgpsStateMachine.proc, AgpsMsg.procAct, onStateEvent, AgpsStateMachine.setAPN,
        AgpsStateMachine.setBearer, AgpsPendingState.onRsrcEvent]
      rw [notifySubscribers_keep (by simp [Tellable]) rfl, heard, tellAll_not_ds _ _ clients]
      rfl
  | releasing => exact absurd rfl h.state
  | _ => rfl

theorem dropped {status : AgpsRsrcStatus} (told : Tellable status) {a : Act}
    (clients : ∀ s ∈ a.machine.mSubscribers, s.kind ≠ .ds) :
    notifySubscribers ⟨.broadcastAll, status, true⟩ a =
      { machine := { a.machine with mSubscribers := [] }
        log := a.log ++ a.machine.mSubscribers.map (tell a.machine status) } := by
  rw [notifySubscribers_delete told rfl]
  have all : (a.machine.mSubscribers.filter fun e => e.forMe ⟨.broadcastAll, status, true⟩) =
      a.machine.mSubscribers := by simp [Subscriber.forMe]
  have none : (a.machine.mSubscribers.filter fun e => !e.forMe ⟨.broadcastAll, status, true⟩) =
      [] := by simp [Subscriber.forMe]
  rw [all, none, tellAll_not_ds _ _ clients]
  rfl

theorem proc_closed (h : ClientMachine m) :
    m.proc .closed =
      match m.mState with
      | .acquired =>
          ({ m with mState := .released, mSubscribers := [] },
            m.mSubscribers.map (tell m .released))
      | _ => (m, []) := by
  have clients := h.not_ds
  obtain ⟨machineClass, mState, mSubscribers, mType, mAPN, mBearer, single, mRetries⟩ := m
  cases mState with
  | acquired =>
      simp only [AgpsStateMachine.proc, AgpsMsg.procAct, onStateEvent,
        AgpsAcquiredState.onRsrcEvent]
      rw [dropped (by simp [Tellable]) clients]
      rfl
  | releasing => exact absurd rfl h.state
  | _ => rfl

theorem proc_openFailed (h : ClientMachine m) :
    m.proc .openFailed =
      match m.mState with
      | .pending =>
          ({ m with mState := .released, mSubscribers := [] },
            m.mSubscribers.map (tell m .denied))
      | _ => (m, []) := by
  have clients := h.not_ds
  obtain ⟨machineClass, mState, mSubscribers, mType, mAPN, mBearer, single, mRetries⟩ := m
  cases mState with
  | pending =>
      simp only [AgpsStateMachine.proc, AgpsMsg.procAct, onStateEvent,
        AgpsPendingState.onRsrcEvent]
      rw [dropped (by simp [Tellable]) clients]
      rfl
  | releasing => exact absurd rfl h.state
  | _ => rfl

end Equations

end VibeXperia.Proof.Agps

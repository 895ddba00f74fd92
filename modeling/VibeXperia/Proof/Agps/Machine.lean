import VibeXperia.Agps.States

namespace VibeXperia.Proof.Agps
open VibeXperia.Agps VibeXperia.Agps.Act VibeXperia.Gps

/-! ## Searches that change nothing -/

theorem linkedListSearch_find {α : Type*} (p : α → Bool) (list : List α) :
    linkedListSearch (fun s (_ : Unit) => (p s, ())) false list () = (list.find? p, list, ()) := by
  induction list with
  | nil => rfl
  | cons x xs ih => cases h : p x <;> simp [linkedListSearch, ih, h]

theorem findSubscriber_eq (a : Act) (receiver : Receiver) :
    a.findSubscriber receiver =
      a.machine.mSubscribers.find? fun s => s.forMe (.search receiver) := by
  rw [findSubscriber, linkedListSearch_find]

theorem hasActiveSubscribers_eq (a : Act) :
    a.hasActiveSubscribers = a.machine.mSubscribers.any fun s => !s.isInactive := by
  rw [hasActiveSubscribers, findSubscriber_eq, Bool.eq_iff_iff]
  simp [Subscriber.forMe, Notification.search, List.find?_isSome]

theorem hasSubscribers_eq (a : Act) : a.hasSubscribers = !a.machine.mSubscribers.isEmpty := rfl

def enlist (s : Subscriber) (list : List Subscriber) : List Subscriber :=
  if list.any fun e => e.equals s then list else s.clone :: list

section Enlist
variable {s c : Subscriber} {list : List Subscriber}

theorem mem_enlist (member : c ∈ enlist s list) :
    c ∈ list ∨ c = s.clone ∧ ∀ e ∈ list, e.equals s = false := by
  unfold enlist at member
  split_ifs at member with present
  · exact .inl member
  · rcases List.mem_cons.mp member with rfl | old
    · exact .inr ⟨rfl, by simpa using present⟩
    · exact .inl old

theorem subset_enlist (member : c ∈ list) : c ∈ enlist s list := by
  unfold enlist
  split_ifs
  · exact member
  · exact List.mem_cons_of_mem _ member

theorem enlist_ne_nil : enlist s list ≠ [] := by
  unfold enlist
  split_ifs with present
  · rintro rfl
    simp at present
  · simp

end Enlist

theorem addSubscriber_eq (s : Subscriber) (a : Act) :
    addSubscriber s a = a.setSubscribers (enlist s a.machine.mSubscribers) := by
  unfold addSubscriber enlist
  rw [findSubscriber_eq]
  cases found : a.machine.mSubscribers.find? fun e => e.forMe (.search (.rcver s)) with
  | none =>
      have absent : ¬ (a.machine.mSubscribers.any fun e => e.equals s) = true := by
        simpa [Subscriber.forMe, Notification.search] using found
      rw [if_neg absent]
      rfl
  | some e =>
      have matched : e.equals s = true := by
        simpa [Subscriber.forMe, Notification.search] using List.find?_some found
      have present : (a.machine.mSubscribers.any fun e => e.equals s) = true :=
        List.any_eq_true.mpr ⟨e, List.mem_of_find?_eq_some found, matched⟩
      rw [if_pos present]
      rfl

theorem setState_self (a : Act) {mState : AgpsState} (same : a.machine.mState = mState) :
    a.setState mState = a := by
  subst same
  rfl

/-! ## Notifications -/

def Tellable (status : AgpsRsrcStatus) : Prop :=
  status = .unsubscribe ∨ status = .released ∨ status = .denied ∨ status = .granted

def tell (m : AgpsStateMachine) (status : AgpsRsrcStatus) (s : Subscriber) : Effect :=
  .told s status (statusCall m s status)

def retriesAfter (status : AgpsRsrcStatus) (heard : List Subscriber) (mRetries : UInt8) : UInt8 :=
  if status = .denied ∧ (heard.any fun s => s.kind = .ds) then 0 else mRetries

def tellAll (status : AgpsRsrcStatus) (heard : List Subscriber) (a : Act) : Act :=
  { machine := { a.machine with mRetries := retriesAfter status heard a.machine.mRetries }
    log := a.log ++ heard.map (tell a.machine status) }

@[simp] theorem tellAll_nil (status : AgpsRsrcStatus) (a : Act) : tellAll status [] a = a := by
  simp [tellAll, retriesAfter]

theorem tellAll_append (status : AgpsRsrcStatus) (heard more : List Subscriber) (a : Act) :
    tellAll status (heard ++ more) a = tellAll status more (tellAll status heard a) := by
  have same : tell { a.machine with mRetries := retriesAfter status heard a.machine.mRetries }
      status = tell a.machine status := by
    funext s
    cases s <;> cases status <;> rfl
  simp only [tellAll, List.map_append, List.append_assoc, same, Act.mk.injEq, and_true]
  unfold retriesAfter
  simp only [List.any_append, Bool.or_eq_true]
  by_cases denied : status = .denied
  · by_cases first : (heard.any fun s => s.kind = .ds) = true <;>
      by_cases second : (more.any fun s => s.kind = .ds) = true <;> simp [denied, first, second]
  · simp [denied]

theorem notifyRsrcStatus_eq {s : Subscriber} {n : Notification} (told : Tellable n.rsrcStatus)
    (a : Act) :
    notifyRsrcStatus s n a =
      (s.forMe n, if s.forMe n then tellAll n.rsrcStatus [s] a else a) := by
  unfold notifyRsrcStatus
  by_cases mine : s.forMe n = true
  · rcases told with h | h | h | h <;>
      by_cases ds : s.kind = .ds <;>
        simp [mine, h, ds, tellAll, retriesAfter, effect, informStatus, tell]
  · simp [mine]

theorem search_nobody {n : Notification} {delete : Bool} {list : List Subscriber}
    (nobody : ∀ s ∈ list, s.forMe n = false) (a : Act) :
    linkedListSearch (notifySubscriber n) delete list a = (none, list, a) := by
  induction list with
  | nil => rfl
  | cons s rest ih =>
      have skipped : notifySubscriber n s a = (false, a) := by
        simp [notifySubscriber, notifyRsrcStatus, nobody s (by simp)]
      simp [linkedListSearch, skipped, ih fun s member => nobody s (by simp [member])]

theorem search_first {n : Notification} (told : Tellable n.rsrcStatus)
    (delete : n.postNotifyDelete = true) {before after : List Subscriber} {s : Subscriber}
    (nobody : ∀ s ∈ before, s.forMe n = false) (mine : s.forMe n = true) (a : Act) :
    linkedListSearch (notifySubscriber n) true (before ++ s :: after) a =
      (some s, before ++ after, tellAll n.rsrcStatus [s] a) := by
  induction before with
  | nil =>
      have hit : notifySubscriber n s a = (true, tellAll n.rsrcStatus [s] a) := by
        simp [notifySubscriber, notifyRsrcStatus_eq told, mine, delete]
      simp [linkedListSearch, hit]
  | cons x before ih =>
      have skipped : notifySubscriber n x a = (false, a) := by
        simp [notifySubscriber, notifyRsrcStatus, nobody x (by simp)]
      simp [linkedListSearch, skipped, ih fun s member => nobody s (by simp [member])]

theorem notifyLoop_eq {n : Notification} (told : Tellable n.rsrcStatus)
    (delete : n.postNotifyDelete = true) {turns : Nat} {list : List Subscriber}
    (enough : list.length < turns) (a : Act) :
    notifyLoop n turns list a =
      (tellAll n.rsrcStatus (list.filter fun s => s.forMe n) a).setSubscribers
        (list.filter fun s => !s.forMe n) := by
  induction turns generalizing list a with
  | zero => simp at enough
  | succ turns ih =>
      cases first : list.find? fun s => s.forMe n with
      | none =>
          have nobody : ∀ s ∈ list, s.forMe n = false := by simpa using first
          have none : (list.filter fun s => s.forMe n) = [] := by
            simpa [List.filter_eq_nil_iff] using nobody
          have all : (list.filter fun s => !s.forMe n) = list := by
            simpa [List.filter_eq_self] using nobody
          rw [notifyLoop, search_nobody nobody, none, all, tellAll_nil]
      | some s =>
          obtain ⟨mine, before, after, rfl, before_not⟩ :=
            List.find?_eq_some_iff_append.mp first
          have nobody : ∀ s ∈ before, s.forMe n = false := by simpa using before_not
          have heard : ((before ++ s :: after).filter fun s => s.forMe n) =
              [s] ++ (before ++ after).filter fun s => s.forMe n := by
            have none : (before.filter fun s => s.forMe n) = [] := by
              simpa [List.filter_eq_nil_iff] using nobody
            simp [mine, none]
          have kept : ((before ++ s :: after).filter fun s => !s.forMe n) =
              (before ++ after).filter fun s => !s.forMe n := by
            simp [mine]
          have shorter : (before ++ after).length < turns := by
            simp only [List.length_append, List.length_cons] at enough ⊢
            omega
          rw [notifyLoop, search_first told delete nobody mine]
          dsimp only
          rw [ih shorter, ← tellAll_append, heard, kept]

theorem notifySubscribers_delete {n : Notification} (told : Tellable n.rsrcStatus)
    (delete : n.postNotifyDelete = true) (a : Act) :
    notifySubscribers n a =
      (tellAll n.rsrcStatus (a.machine.mSubscribers.filter fun s => s.forMe n) a).setSubscribers
        (a.machine.mSubscribers.filter fun s => !s.forMe n) := by
  rw [notifySubscribers, if_pos delete, notifyLoop_eq told delete (Nat.lt_succ_self _)]

theorem search_keep {n : Notification} (told : Tellable n.rsrcStatus)
    (keep : n.postNotifyDelete = false) (list : List Subscriber) (a : Act) :
    (linkedListSearch (notifySubscriber n) false list a).2.2 =
      tellAll n.rsrcStatus (list.filter fun s => s.forMe n) a := by
  induction list generalizing a with
  | nil => simp [linkedListSearch]
  | cons s rest ih =>
      by_cases mine : s.forMe n = true
      · have called : notifySubscriber n s a = (false, tellAll n.rsrcStatus [s] a) := by
          simp [notifySubscriber, notifyRsrcStatus_eq told, mine, keep]
        have split : ((s :: rest).filter fun s => s.forMe n) =
            [s] ++ rest.filter fun s => s.forMe n := by simp [mine]
        rw [split, tellAll_append]
        simp [linkedListSearch, called, ih]
      · have called : notifySubscriber n s a = (false, a) := by
          simp [notifySubscriber, notifyRsrcStatus, mine]
        simp [linkedListSearch, called, ih, mine]

theorem notifySubscribers_keep {n : Notification} (told : Tellable n.rsrcStatus)
    (keep : n.postNotifyDelete = false) (a : Act) :
    notifySubscribers n a =
      tellAll n.rsrcStatus (a.machine.mSubscribers.filter fun s => s.forMe n) a := by
  rw [notifySubscribers, keep, search_keep told keep]
  rfl

/-! ## Leaving -/

theorem onStateEvent_unsubscribe {a : Act} (answers : Answers) (data : Subscriber) (entry : Nat)
    (state : a.machine.mState = .pending ∨ a.machine.mState = .acquired) :
    onStateEvent answers (.unsubscribe data entry) a =
      if (leave data entry a).machine.mSubscribers = [] then
        (sendRsrcRequest answers .releaseAgpsDataConn (leave data entry a)).2.setState .released
      else if ∀ s ∈ (leave data entry a).machine.mSubscribers, s.isInactive then
        (sendRsrcRequest answers .releaseAgpsDataConn (leave data entry a)).2.setState .releasing
      else (leave data entry a).setState a.machine.mState := by
  have empty : (!(leave data entry a).hasSubscribers) = true ↔
      (leave data entry a).machine.mSubscribers = [] := by
    simp [hasSubscribers_eq]
  have idle : (!(leave data entry a).hasActiveSubscribers) = true ↔
      ∀ s ∈ (leave data entry a).machine.mSubscribers, s.isInactive := by
    simp [hasActiveSubscribers_eq]
  rcases state with h | h
  · simp only [onStateEvent, h, AgpsPendingState.onRsrcEvent, empty, idle]
    split_ifs <;> rfl
  · simp only [onStateEvent, h, AgpsAcquiredState.onRsrcEvent, empty, idle]
    split_ifs <;> rfl

/-! ## Requests to the framework -/

def connRequest (m : AgpsStateMachine) (s : Subscriber) : AGpsExtStatus :=
  ⟨m.mType, .requestAgpsDataConn, s.setIPAddresses, s.setWifiInfo.1, s.setWifiInfo.2⟩

def connRelease (m : AgpsStateMachine) : AGpsExtStatus :=
  ⟨m.mType, .releaseAgpsDataConn, some (INADDR_NONE, [0]), [0], [0]⟩

theorem findActive_eq (a : Act) :
    a.findSubscriber .broadcastActive = a.machine.mSubscribers.find? fun s => !s.isInactive :=
  findSubscriber_eq a .broadcastActive

theorem sendRsrcRequest_agps {a : Act} (answers : Answers) (action : AGpsStatusValue)
    (agps : a.machine.machineClass = .agps) :
    sendRsrcRequest answers action a = sendAgpsRequest action a := by
  rw [sendRsrcRequest, agps]

theorem sendAgpsRequest_request {a : Act} {s : Subscriber}
    (first : (a.machine.mSubscribers.find? fun s => !s.isInactive) = some s) :
    sendAgpsRequest .requestAgpsDataConn a =
      (0, a.effect (.requested (connRequest a.machine s))) := by
  simp [sendAgpsRequest, findActive_eq, first, connRequest]

theorem sendAgpsRequest_release {a : Act} (nobody : ∀ s ∈ a.machine.mSubscribers, s.isInactive) :
    sendAgpsRequest .releaseAgpsDataConn a =
      (0, a.effect (.requested (connRelease a.machine))) := by
  have none : (a.machine.mSubscribers.find? fun s => !s.isInactive) = none := by
    simpa using nobody
  simp [sendAgpsRequest, findActive_eq, none, connRelease]

end VibeXperia.Proof.Agps

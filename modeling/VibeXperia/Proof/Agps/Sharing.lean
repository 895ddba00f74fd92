import VibeXperia.Agps.Clients
import VibeXperia.Proof.Agps.Clients

namespace VibeXperia.Proof.Agps
open VibeXperia.Agps VibeXperia.Lib

/-! ## One message -/

def FromKind (kind : SubscriberKind) (msg : AgpsMsg) : Prop :=
  ∀ s ∈ msg.client, s.kind = kind

instance (kind : SubscriberKind) (msg : AgpsMsg) : Decidable (FromKind kind msg) :=
  inferInstanceAs (Decidable (∀ s ∈ msg.client, s.kind = kind))

def FromClients (msg : AgpsMsg) : Prop := ∀ s ∈ msg.client, Immediate s

instance (msg : AgpsMsg) : Decidable (FromClients msg) :=
  inferInstanceAs (Decidable (∀ s ∈ msg.client, Immediate s))

inductive ClientStep (m : AgpsStateMachine) :
    AgpsMsg → AgpsStateMachine → List Effect → Prop
  | ask (s) (idle : m.mState = .released) :
      ClientStep m (.subscribe s) { m with mState := .pending, mSubscribers := [s] }
        [.requested (connRequest m s)]
  | join (s) (waiting : m.mState = .pending) :
      ClientStep m (.subscribe s) { m with mSubscribers := enlist s m.mSubscribers } []
  | share (s) (held : m.mState = .acquired) :
      ClientStep m (.subscribe s) { m with mSubscribers := enlist s m.mSubscribers }
        [tell m .granted s]
  | stranger (s) (unknown : ∀ e ∈ m.mSubscribers, e.equals s = false) :
      ClientStep m (.unsubscribe s) m []
  | leave (s c) (member : c ∈ m.mSubscribers) (same : c.equals s = true)
      (others : (m.mSubscribers.filter fun e => !e.equals c) ≠ []) :
      ClientStep m (.unsubscribe s)
        { m with mSubscribers := m.mSubscribers.filter fun e => !e.equals c }
        ((m.mSubscribers.filter fun e => e.equals c).map (tell m .unsubscribe))
  | quit (s c) (member : c ∈ m.mSubscribers) (same : c.equals s = true)
      (last : (m.mSubscribers.filter fun e => !e.equals c) = []) :
      ClientStep m (.unsubscribe s) { m with mState := .released, mSubscribers := [] }
        ((m.mSubscribers.filter fun e => e.equals c).map (tell m .unsubscribe) ++
          [.requested (connRelease m)])
  | grant (apn bearerType) (waiting : m.mState = .pending) :
      ClientStep m (.openSuccess apn bearerType)
        { m with mState := .acquired, mBearer := bearerType, mAPN := some apn }
        (m.mSubscribers.map (tell { m with mBearer := bearerType, mAPN := some apn } .granted))
  | late (apn bearerType) (answered : m.mState ≠ .pending) :
      ClientStep m (.openSuccess apn bearerType)
        { m with mBearer := bearerType, mAPN := some apn } []
  | lose (held : m.mState = .acquired) :
      ClientStep m .closed { m with mState := .released, mSubscribers := [] }
        (m.mSubscribers.map (tell m .released))
  | nothingLost (free : m.mState ≠ .acquired) : ClientStep m .closed m []
  | refuse (waiting : m.mState = .pending) :
      ClientStep m .openFailed { m with mState := .released, mSubscribers := [] }
        (m.mSubscribers.map (tell m .denied))
  | nothingRefused (answered : m.mState ≠ .pending) : ClientStep m .openFailed m []

section Step
variable {m : AgpsStateMachine} {msg : AgpsMsg}

theorem proc_step (h : ClientMachine m) (client : FromClients msg) :
    ClientStep m msg (m.proc msg).1 (m.proc msg).2 := by
  cases msg with
  | subscribe s =>
      rw [proc_subscribe h (client s rfl)]
      cases state : m.mState with
      | releasing => exact absurd state h.state
      | released => exact .ask s state
      | acquired =>
          have step := ClientStep.share (m := m) s state
          simpa only [state] using step
      | pending =>
          have step := ClientStep.join (m := m) s state
          simpa only [state] using step
  | unsubscribe s =>
      rw [proc_unsubscribe h]
      cases found : m.mSubscribers.find? fun e => e.equals s with
      | none => exact .stranger s (by simpa using found)
      | some c =>
          have member := List.mem_of_find?_eq_some found
          have same : c.equals s = true := by simpa using List.find?_some found
          dsimp only
          split_ifs with last
          · exact .quit s c member same last
          · exact .leave s c member same last
  | openSuccess apn bearerType =>
      rw [proc_openSuccess h]
      by_cases waiting : m.mState = .pending
      · simp only [waiting]
        exact .grant apn bearerType waiting
      · have step := ClientStep.late (m := m) apn bearerType waiting
        cases state : m.mState <;> simp_all
  | closed =>
      rw [proc_closed h]
      by_cases held : m.mState = .acquired
      · simp only [held]
        exact .lose held
      · have step := ClientStep.nothingLost held
        cases state : m.mState <;> simp_all
  | openFailed =>
      rw [proc_openFailed h]
      by_cases waiting : m.mState = .pending
      · simp only [waiting]
        exact .refuse waiting
      · have step := ClientStep.nothingRefused waiting
        cases state : m.mState <;> simp_all

end Step

/-! ## The machine keeps its shape -/

theorem clients_step {p : Subscriber → Prop} {t : AgpsTransition} (immediate : FromClients t.event)
    (listed : ∀ s ∈ t.before.mSubscribers, p s) (client : ∀ s ∈ t.event.client, p s)
    (step : ClientStep t.before t.event t.after t.outputs) : ∀ s ∈ t.after.mSubscribers, p s := by
  obtain ⟨m, event, outputs, after⟩ := t
  dsimp only at *
  cases step with
  | ask s idle => simpa using client s rfl
  | join s | share s =>
      intro c member
      rcases mem_enlist member with old | ⟨rfl, -⟩
      · exact listed c old
      · rw [(immediate s rfl).clone]
        exact client s rfl
  | leave s c member same others => exact fun e inside => listed e (List.mem_of_mem_filter inside)
  | quit | lose | refuse => simp
  | grant | late | stranger | nothingLost | nothingRefused => exact listed

theorem machine_step {t : AgpsTransition} (h : ClientMachine t.before)
    (client : FromClients t.event) (step : ClientStep t.before t.event t.after t.outputs) :
    ClientMachine t.after := by
  have clients := clients_step client h.clients client step
  obtain ⟨m, event, outputs, after⟩ := t
  dsimp only at *
  cases step with
  | ask s idle => exact ⟨h.machineClass, h.many, clients, by simp, by simp⟩
  | join s waiting => exact ⟨h.machineClass, h.many, clients, h.state, by simp [waiting]⟩
  | share s held => exact ⟨h.machineClass, h.many, clients, h.state, by simp [held]⟩
  | leave s c member same others =>
      refine ⟨h.machineClass, h.many, clients, h.state, fun idle => ?_⟩
      simp [h.released idle] at member
  | grant apn bearerType waiting => exact ⟨h.machineClass, h.many, clients, by simp, by simp⟩
  | late apn bearerType answered => exact ⟨h.machineClass, h.many, clients, h.state, h.released⟩
  | quit | lose | refuse => exact ⟨h.machineClass, h.many, clients, by simp, by simp⟩
  | stranger | nothingLost | nothingRefused => exact h

theorem new_machine (mType : Int) : ClientMachine (AgpsStateMachine.new mType false) :=
  ⟨rfl, rfl, by simp [AgpsStateMachine.new], by simp [AgpsStateMachine.new], fun _ => rfl⟩

/-! ## Who has been told what -/

theorem grantedSince_snoc (c : Subscriber) (history : List AgpsTransition) (t : AgpsTransition) :
    grantedSince c (history ++ [t]) =
      (listed c t.after && (listed c t.before && grantedSince c history ||
        t.outputs.any (Effect.tells c .granted))) := by
  simp [grantedSince]

theorem listed_of_mem {c : Subscriber} {m : AgpsStateMachine} (member : c ∈ m.mSubscribers) :
    listed c m = true := List.any_eq_true.mpr ⟨c, member, equals_self c⟩

theorem grantedSince_of_silent {c : Subscriber} {history : List AgpsTransition}
    {t : AgpsTransition} (before : c ∈ t.before.mSubscribers) (after : c ∈ t.after.mSubscribers)
    (silent : ∀ e ∈ t.outputs, e.tells c .granted = false) :
    grantedSince c (history ++ [t]) = grantedSince c history := by
  have none : t.outputs.any (Effect.tells c .granted) = false := by simpa using silent
  rw [grantedSince_snoc, listed_of_mem before, listed_of_mem after, none]
  simp

structure SharingInv (kind : SubscriberKind) (history : List AgpsTransition)
    (m : AgpsStateMachine) : Prop where
  machine : ClientMachine m
  kinds : ∀ s ∈ m.mSubscribers, s.kind = kind
  used : m.mSubscribers = [] → m.mState = .released
  distinct : m.mSubscribers.Pairwise fun c d => c.equals d = false
  granted : m.mState = .acquired → ∀ c ∈ m.mSubscribers, grantedSince c history = true
  waiting : m.mState = .pending → ∀ c ∈ m.mSubscribers, grantedSince c history = false

theorem enlist_distinct {kind : SubscriberKind} {s : Subscriber} {list : List Subscriber}
    (immediate : Immediate s) (same : s.kind = kind) (kinds : ∀ c ∈ list, c.kind = kind)
    (distinct : list.Pairwise fun c d => c.equals d = false) :
    (enlist s list).Pairwise fun c d => c.equals d = false := by
  unfold enlist
  split_ifs with present
  · exact distinct
  · rw [immediate.clone]
    refine List.pairwise_cons.mpr ⟨fun e member => ?_, distinct⟩
    rw [equals_comm (same.trans (kinds e member).symm)]
    simpa using List.any_eq_false.mp (by simpa using present) e member

theorem tells_tell {c s : Subscriber} {m : AgpsStateMachine} {status status' : AgpsRsrcStatus} :
    (tell m status s).tells c status' = (s.equals c && status == status') := rfl

theorem not_tells_of_mem_map {c : Subscriber} {m : AgpsStateMachine}
    {status status' : AgpsRsrcStatus} {heard : List Subscriber} {e : Effect}
    (member : e ∈ heard.map (tell m status)) (other : status ≠ status') :
    e.tells c status' = false := by
  obtain ⟨s, -, rfl⟩ := List.mem_map.mp member
  simp [tells_tell, other]

theorem sharing_step {kind : SubscriberKind} {history : List AgpsTransition} {t : AgpsTransition}
    (immediate : FromClients t.event) (h : SharingInv kind history t.before)
    (client : FromKind kind t.event) (step : ClientStep t.before t.event t.after t.outputs) :
    SharingInv kind (history ++ [t]) t.after := by
  have machine := machine_step h.machine immediate step
  have kinds := clients_step immediate h.kinds client step
  obtain ⟨m, event, outputs, after⟩ := t
  dsimp only at *
  have granted := h.granted
  have pending := h.waiting
  have keeps := fun c before now silent =>
    @grantedSince_of_silent c history ⟨m, event, outputs, after⟩ before now silent
  cases step with
  | ask s idle =>
      refine ⟨machine, kinds, by simp, by simp, by simp, fun _ c member => ?_⟩
      simp [grantedSince_snoc, listed, h.machine.released idle, Effect.tells]
  | join s waiting =>
      have distinct := enlist_distinct (immediate s rfl) (client s rfl) h.kinds h.distinct
      refine ⟨machine, kinds, fun empty => absurd empty enlist_ne_nil, distinct, by simp [waiting],
        fun _ c member => ?_⟩
      rcases mem_enlist member with old | ⟨rfl, new⟩
      · rw [keeps c old member (by simp)]
        exact pending waiting c old
      · have absent : listed s.clone m = false := by
          rw [(immediate s rfl).clone]
          exact List.any_eq_false.mpr (by simpa using new)
        simp [grantedSince_snoc, absent]
  | share s held =>
      have distinct := enlist_distinct (immediate s rfl) (client s rfl) h.kinds h.distinct
      refine ⟨machine, kinds, fun empty => absurd empty enlist_ne_nil, distinct, fun _ c member => ?_,
        by simp [held]⟩
      have now : listed c { m with mSubscribers := enlist s m.mSubscribers } = true :=
        listed_of_mem member
      rcases mem_enlist member with old | ⟨rfl, new⟩
      · simp [grantedSince_snoc, now, listed_of_mem old, granted held c old]
      -- the new client is told at once, as the others were before
      · rw [(immediate s rfl).clone] at now ⊢
        simp [grantedSince_snoc, now, tells_tell, equals_self]
  | leave s c member same others =>
      refine ⟨machine, kinds, fun empty => absurd empty others, h.distinct.filter _,
        fun held e inside => ?_, fun waiting e inside => ?_⟩
      · rw [keeps e (List.mem_of_mem_filter inside) inside fun _ told =>
          not_tells_of_mem_map told (by simp)]
        exact granted held e (List.mem_of_mem_filter inside)
      · rw [keeps e (List.mem_of_mem_filter inside) inside fun _ told =>
          not_tells_of_mem_map told (by simp)]
        exact pending waiting e (List.mem_of_mem_filter inside)
  | grant apn bearerType waiting =>
      refine ⟨machine, kinds, fun empty => absurd (h.used empty) (by simp [waiting]), h.distinct,
        fun _ c member => ?_, by simp⟩
      have told : (m.mSubscribers.map
          (tell { m with mBearer := bearerType, mAPN := some apn } .granted)).any
            (Effect.tells c .granted) = true :=
        List.any_eq_true.mpr ⟨_, List.mem_map_of_mem member, by simp [tells_tell, equals_self]⟩
      have now : listed c { m with mState := .acquired, mBearer := bearerType, mAPN := some apn } =
          true := listed_of_mem member
      rw [grantedSince_snoc, now, told]
      simp
  | late apn bearerType answered =>
      refine ⟨machine, kinds, h.used, h.distinct, fun held c member => ?_, fun waiting c member => ?_⟩
      · rw [keeps c member member (by simp)]
        exact granted held c member
      · exact absurd waiting answered
  | quit | lose | refuse => exact ⟨machine, kinds, by simp, by simp, by simp, by simp⟩
  | stranger | nothingLost | nothingRefused =>
      refine ⟨machine, kinds, h.used, h.distinct, fun held c member => ?_, fun waiting c member => ?_⟩
      · rw [keeps c member member (by simp)]
        exact granted held c member
      · rw [keeps c member member (by simp)]
        exact pending waiting c member

theorem new_sharing (kind : SubscriberKind) (mType : Int) :
    SharingInv kind [] (AgpsStateMachine.new mType false) where
  machine := new_machine mType
  kinds := by simp [AgpsStateMachine.new]
  used _ := rfl
  distinct := .nil
  granted := by simp [AgpsStateMachine.new]
  waiting := by simp [AgpsStateMachine.new]

/-! ## What one message tells whom -/

section Told
variable {kind : SubscriberKind} {m : AgpsStateMachine} {c : Subscriber}

theorem closes_tell (m : AgpsStateMachine) (c s : Subscriber) (status : AgpsRsrcStatus) :
    (tell m status s).closes c =
      (s.equals c && (status == .unsubscribe || status == .released || status == .denied)) := by
  simp only [Effect.closes, tells_tell]
  cases s.equals c <;> simp

theorem countP_equals (list : List Subscriber) (kinds : ∀ s ∈ list, s.kind = kind)
    (distinct : list.Pairwise fun c d => c.equals d = false) (member : c ∈ list) :
    list.countP (fun s => s.equals c) = 1 := by
  induction list with
  | nil => simp at member
  | cons s rest ih =>
      obtain ⟨first, others⟩ := List.pairwise_cons.mp distinct
      have rest_kinds : ∀ s ∈ rest, s.kind = kind := fun s h => kinds s (by simp [h])
      rcases List.mem_cons.mp member with rfl | inside
      · have none : rest.countP (fun s => s.equals c) = 0 := by
          refine List.countP_eq_zero.mpr fun e h => ?_
          rw [equals_comm ((rest_kinds e h).trans (kinds c (by simp)).symm), first e h]
          simp
        simp [equals_self, none]
      · simp [first c inside, ih rest_kinds others inside]

theorem closings_of_told {told : List Subscriber} {status : AgpsRsrcStatus}
    (closing : status = .unsubscribe ∨ status = .released ∨ status = .denied) :
    (told.map (tell m status)).countP (Effect.closes c) = told.countP fun s => s.equals c := by
  rw [List.countP_map]
  congr 1
  funext s
  rcases closing with rfl | rfl | rfl <;> simp [closes_tell]

theorem countP_left {d : Subscriber} {list : List Subscriber}
    (kinds : ∀ s ∈ list, s.kind = kind) (distinct : list.Pairwise fun c d => c.equals d = false)
    (member : c ∈ list) (left : d ∈ list) :
    (list.filter fun e => e.equals d).countP (fun s => s.equals c) =
      if (list.filter fun e => !e.equals d).any (fun s => s.equals c) then 0 else 1 := by
  have same : ∀ e ∈ list, e.equals c = true → e.equals d = c.equals d := by
    intro e inside equal
    rw [Bool.eq_iff_iff, equals_iff ((kinds e inside).trans (kinds d left).symm),
      equals_iff ((kinds c member).trans (kinds d left).symm),
      (equals_iff ((kinds e inside).trans (kinds c member).symm)).mp equal]
  rw [List.countP_filter]
  cases leaving : c.equals d with
  | true =>
      have all : list.countP (fun e => e.equals c && e.equals d) =
          list.countP fun e => e.equals c := by
        refine List.countP_congr fun e inside => ?_
        cases equal : e.equals c with
        | true => simp [same e inside equal, leaving]
        | false => simp
      have gone : ((list.filter fun e => !e.equals d).any fun s => s.equals c) = false := by
        simp only [List.any_eq_false, List.mem_filter]
        rintro e ⟨inside, stays⟩ equal
        simp [same e inside equal, leaving] at stays
      rw [all, gone, countP_equals list kinds distinct member]
      rfl
  | false =>
      have none : list.countP (fun e => e.equals c && e.equals d) = 0 := by
        refine List.countP_eq_zero.mpr fun e inside both => ?_
        simp only [Bool.and_eq_true] at both
        rw [same e inside both.1, leaving] at both
        simp at both
      have stays : ((list.filter fun e => !e.equals d).any fun s => s.equals c) = true :=
        List.any_eq_true.mpr ⟨c, List.mem_filter.mpr ⟨member, by simp [leaving]⟩, equals_self c⟩
      rw [none, stays]
      rfl

end Told

section Transitions
variable {kind : SubscriberKind} {history : List AgpsTransition} {t : AgpsTransition}

theorem closings_step (h : SharingInv kind history t.before)
    (step : ClientStep t.before t.event t.after t.outputs) {c : Subscriber}
    (member : c ∈ t.before.mSubscribers) :
    t.outputs.countP (Effect.closes c) = if listed c t.after then 0 else 1 := by
  obtain ⟨m, event, outputs, after⟩ := t
  dsimp only at *
  have kinds := h.kinds
  have one := countP_equals m.mSubscribers kinds h.distinct member
  cases step with
  | ask s idle => simp [h.machine.released idle] at member
  | share s held =>
      have stays : listed c { m with mSubscribers := enlist s m.mSubscribers } = true :=
        listed_of_mem (subset_enlist member)
      simp [stays, closes_tell]
  | join s waiting =>
      have stays : listed c { m with mSubscribers := enlist s m.mSubscribers } = true :=
        listed_of_mem (subset_enlist member)
      simp [stays]
  | leave s d left same others =>
      rw [closings_of_told (.inl rfl)]
      exact countP_left kinds h.distinct member left
  | quit s d left same last =>
      have gone := countP_left kinds h.distinct member left
      rw [last] at gone
      rw [List.countP_append, closings_of_told (.inl rfl), gone]
      simp [Effect.closes, Effect.tells, listed]
  | grant apn bearerType waiting =>
      have stays : listed c { m with mState := .acquired, mBearer := bearerType, mAPN := some apn } =
          true := listed_of_mem member
      rw [stays, List.countP_map]
      exact List.countP_eq_zero.mpr fun e _ => by simp [closes_tell]
  | late apn bearerType answered =>
      have stays : listed c { m with mBearer := bearerType, mAPN := some apn } = true :=
        listed_of_mem member
      simp [stays]
  | lose held =>
      rw [closings_of_told (.inr (.inl rfl)), one]
      simp [listed]
  | refuse waiting =>
      rw [closings_of_told (.inr (.inr rfl)), one]
      simp [listed]
  | stranger | nothingLost | nothingRefused => simp [listed_of_mem member]

theorem others_step (h : SharingInv kind history t.before)
    (step : ClientStep t.before t.event t.after t.outputs) {s c : Subscriber}
    (event : t.event = .unsubscribe s) (client : s.kind = kind) (same : c.kind = kind)
    (other : c.equals s = false) :
    listed c t.after = listed c t.before ∧ ∀ e ∈ t.outputs, e.mentions c = false := by
  obtain ⟨m, msg, outputs, after⟩ := t
  dsimp only at *
  subst event
  have kinds := h.kinds
  -- whoever equals the leaving entry equals its owner, and so is not `c`
  have apart : ∀ d ∈ m.mSubscribers, d.equals s = true → ∀ e ∈ m.mSubscribers,
      e.equals d = true → e.equals c = false := by
    intro d left equal e inside matched
    have owner := (equals_iff ((kinds d left).trans client.symm)).mp equal
    have entry := (equals_iff ((kinds e inside).trans (kinds d left).symm)).mp matched
    rw [Bool.eq_false_iff]
    intro also
    have mine := (equals_iff ((kinds e inside).trans same.symm)).mp also
    have : c.equals s = true :=
      (equals_iff (same.trans client.symm)).mpr (by rw [← mine, entry, owner])
    simp [this] at other
  have stays : ∀ d ∈ m.mSubscribers, d.equals s = true →
      (m.mSubscribers.filter fun e => !e.equals d).any (fun e => e.equals c) =
        m.mSubscribers.any fun e => e.equals c := by
    intro d left equal
    rw [Bool.eq_iff_iff, List.any_eq_true, List.any_eq_true]
    constructor
    · rintro ⟨e, inside, mine⟩
      exact ⟨e, List.mem_of_mem_filter inside, mine⟩
    · rintro ⟨e, inside, mine⟩
      refine ⟨e, List.mem_filter.mpr ⟨inside, ?_⟩, mine⟩
      cases matched : e.equals d with
      | true => simp [apart d left equal e inside matched] at mine
      | false => rfl
  have silent : ∀ d ∈ m.mSubscribers, d.equals s = true →
      ∀ e ∈ (m.mSubscribers.filter fun e => e.equals d).map (tell m .unsubscribe),
        e.mentions c = false := by
    intro d left equal e told
    obtain ⟨x, inside, rfl⟩ := List.mem_map.mp told
    obtain ⟨inside, matched⟩ := List.mem_filter.mp inside
    exact apart d left equal x inside matched
  cases step with
  | stranger _ unknown => simp
  | leave _ d left equal others => exact ⟨stays d left equal, silent d left equal⟩
  | quit _ d left equal last =>
      refine ⟨?_, fun e told => ?_⟩
      · have same := stays d left equal
        rw [last] at same
        exact same
      · rcases List.mem_append.mp told with told | told
        · exact silent d left equal e told
        · rw [List.mem_singleton.mp told]
          rfl

@[simp] theorem requests_tell (action : AGpsStatusValue) (m : AgpsStateMachine)
    (status : AgpsRsrcStatus) (s : Subscriber) :
    (tell m status s).requests action = false := rfl

@[simp] theorem requests_requested (action : AGpsStatusValue) (nifRequest : AGpsExtStatus) :
    (Effect.requested nifRequest).requests action = (nifRequest.status == action) := rfl

theorem requests_step (h : SharingInv kind history t.before)
    (step : ClientStep t.before t.event t.after t.outputs) :
    t.outputs.countP (Effect.requests .requestAgpsDataConn) =
      if t.before.mState = .released ∧ t.after.mState = .pending then 1 else 0 := by
  obtain ⟨m, event, outputs, after⟩ := t
  dsimp only at *
  cases step with
  | ask s idle => simp [idle, connRequest]
  | join s waiting => simp [waiting]
  | share s held => simp [held]
  | leave s d left same others =>
      have state : m.mState ≠ .released := fun idle => by simp [h.machine.released idle] at left
      simp [state]
  | quit s d left same last => simp [connRelease]
  | grant | lose | refuse => simp
  | late | stranger | nothingLost | nothingRefused =>
      simp only [List.countP_nil]
      rw [if_neg]
      rintro ⟨idle, waiting⟩
      simp [idle] at waiting

theorem releases_step (step : ClientStep t.before t.event t.after t.outputs) :
    t.outputs.countP (Effect.requests .releaseAgpsDataConn) =
      if t.event.isUnsubscribe ∧ t.before.mSubscribers ≠ [] ∧ t.after.mSubscribers = []
      then 1 else 0 := by
  obtain ⟨m, event, outputs, after⟩ := t
  dsimp only at *
  cases step with
  | ask s idle => simp [AgpsMsg.isUnsubscribe, connRequest]
  | stranger s unknown => simp +contextual
  | leave s d left same others =>
      have empty : ¬ (AgpsMsg.isUnsubscribe (.unsubscribe s) = true ∧ m.mSubscribers ≠ [] ∧
          (m.mSubscribers.filter fun e => !e.equals d) = []) := fun alone => others alone.2.2
      rw [if_neg empty]
      simp
  | quit s d left same last =>
      simp [AgpsMsg.isUnsubscribe, connRelease, List.ne_nil_of_mem left]
  | join | share | grant | late | lose | nothingLost | refuse | nothingRefused =>
      simp [AgpsMsg.isUnsubscribe]

end Transitions

/-! ## Runs -/

theorem FromKind.clients {kind : SubscriberKind} {msg : AgpsMsg}
    (immediate : kind = .atl ∨ kind = .bit) (client : FromKind kind msg) : FromClients msg := by
  intro s member
  obtain rfl := client s member
  exact immediate

theorem run_sharing {kind : SubscriberKind} (immediate : kind = .atl ∨ kind = .bit) (mType : Int)
    {msgs : List AgpsMsg} (clients : ∀ msg ∈ msgs, FromKind kind msg) :
    SharingInv kind (trace AgpsStateMachine.proc (.new mType false) msgs)
      (final AgpsStateMachine.proc (.new mType false) msgs) := by
  apply history_invariant _ (new_sharing kind mType) clients
  intro history m msg h client
  have sender := client.clients immediate
  exact sharing_step sender h client (proc_step h.machine sender)

theorem run_served {kind : SubscriberKind} (immediate : kind = .atl ∨ kind = .bit) (mType : Int)
    {msgs : List AgpsMsg} (clients : ∀ msg ∈ msgs, FromKind kind msg) :
    ClientsServed kind (final AgpsStateMachine.proc (.new mType false) msgs)
      (trace AgpsStateMachine.proc (.new mType false) msgs) := by
  have h := run_sharing immediate mType clients
  -- each step is one of a machine that the run up to it has kept in shape
  have steps : ∀ t ∈ trace AgpsStateMachine.proc (.new mType false) msgs, FromKind kind t.event ∧
      ∃ history, SharingInv kind history t.before ∧
        ClientStep t.before t.event t.after t.outputs := by
    intro t member
    obtain ⟨earlier, later, rfl, reacted⟩ := exists_prefix member
    have before := run_sharing immediate mType fun msg member =>
      clients msg (List.mem_append_left _ member)
    have client : FromKind kind t.event := clients _ (by simp)
    have step := proc_step before.machine (client.clients immediate)
    rw [reacted]
    exact ⟨client, _, before, step⟩
  refine ⟨⟨h.machine.released, h.used⟩, h.distinct, h.granted, h.waiting, ?_, ?_, ?_, ?_⟩
  · intro t member c inside
    obtain ⟨-, _, before, step⟩ := steps t member
    exact closings_step before step inside
  · intro t member s c event same other
    obtain ⟨client, _, before, step⟩ := steps t member
    have owner : t.event.client = some s := congrArg AgpsMsg.client event
    exact others_step before step event (client s owner) same other
  · intro t member
    obtain ⟨-, _, before, step⟩ := steps t member
    exact requests_step before step
  · intro t member
    obtain ⟨-, _, before, step⟩ := steps t member
    exact releases_step step

end VibeXperia.Proof.Agps

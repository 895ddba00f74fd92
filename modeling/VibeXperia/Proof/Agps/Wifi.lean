import VibeXperia.Proof.Agps.Sharing

namespace VibeXperia.Proof.Agps
open VibeXperia.Agps VibeXperia.Agps.Act VibeXperia.Lib

/-! ## The machine of the wifi connection -/

def Fits : AgpsState → List Subscriber → Prop
  | .released, list => list = []
  | .pending, list | .acquired, list => ∃ c, list = [c] ∧ c.kind = .wifi ∧ c.isInactive = false
  | .releasing, list => ∃ c, list = [c] ∧ c.kind = .wifi ∧ c.isInactive = true

structure WifiMachine (m : AgpsStateMachine) : Prop where
  machineClass : m.machineClass = .agps
  single : m.mEnforceSingleSubscriber = true
  fits : Fits m.mState m.mSubscribers

inductive WifiStep (m : AgpsStateMachine) :
    AgpsMsg → AgpsStateMachine → List Effect → Prop
  | ask (s) (idle : m.mState = .released) :
      WifiStep m (.subscribe s) { m with mState := .pending, mSubscribers := [s.clone] }
        [.requested (connRequest m s.clone)]
  | busy (s) (used : m.mSubscribers ≠ []) : WifiStep m (.subscribe s) m [tell m .denied s]
  | stranger (s) (unknown : ∀ e ∈ m.mSubscribers, e.equals s = false) :
      WifiStep m (.unsubscribe s) m []
  | release (s c) (only : m.mSubscribers = [c]) (same : c.equals s = true)
      (active : c.isInactive = false) :
      WifiStep m (.unsubscribe s)
        { m with mState := .releasing, mSubscribers := [c.markInactive] }
        [.requested (connRelease m)]
  | again (s c) (only : m.mSubscribers = [c]) (same : c.equals s = true)
      (closing : m.mState = .releasing) :
      WifiStep m (.unsubscribe s) { m with mSubscribers := [c.markInactive] } []
  | grant (apn bearerType c) (only : m.mSubscribers = [c]) (waiting : m.mState = .pending) :
      WifiStep m (.openSuccess apn bearerType)
        { m with mState := .acquired, mBearer := bearerType, mAPN := some apn }
        [tell { m with mBearer := bearerType, mAPN := some apn } .granted c]
  | late (apn bearerType) (answered : m.mState ≠ .pending) :
      WifiStep m (.openSuccess apn bearerType)
        { m with mBearer := bearerType, mAPN := some apn } []
  | close (c) (only : m.mSubscribers = [c])
      (held : m.mState = .acquired ∨ m.mState = .releasing) :
      WifiStep m .closed { m with mState := .released, mSubscribers := [] } [tell m .released c]
  | nothingClosed (free : m.mState = .released ∨ m.mState = .pending) : WifiStep m .closed m []
  | deny (c) (only : m.mSubscribers = [c])
      (waiting : m.mState = .pending ∨ m.mState = .releasing) :
      WifiStep m .openFailed { m with mState := .released, mSubscribers := [] } [tell m .denied c]
  | nothingDenied (answered : m.mState = .released ∨ m.mState = .acquired) :
      WifiStep m .openFailed m []

section Equations
variable {m : AgpsStateMachine} {s c : Subscriber}

theorem WifiMachine.client (h : WifiMachine m) (only : m.mSubscribers = [c]) :
    c.kind = .wifi ∧ (c.isInactive = true ↔ m.mState = .releasing) := by
  have fits := h.fits
  rw [only] at fits
  cases state : m.mState with
  | released => simp [state, Fits] at fits
  | pending | acquired | releasing =>
      rw [state] at fits
      obtain ⟨d, same, wifi, inactive⟩ := fits
      obtain rfl : c = d := by simpa using same
      simp [wifi, inactive]

theorem WifiMachine.used (h : WifiMachine m) (state : m.mState ≠ .released) :
    ∃ c, m.mSubscribers = [c] ∧ c.kind = .wifi ∧
      (c.isInactive = true ↔ m.mState = .releasing) := by
  have some : ∃ c, m.mSubscribers = [c] := by
    have fits := h.fits
    cases mState : m.mState with
    | released => exact absurd mState state
    | pending | acquired | releasing =>
        rw [mState] at fits
        obtain ⟨c, only, -⟩ := fits
        exact ⟨c, only⟩
  obtain ⟨c, only⟩ := some
  exact ⟨c, only, h.client only⟩

theorem WifiMachine.released_iff (h : WifiMachine m) :
    m.mState = .released ↔ m.mSubscribers = [] := by
  constructor
  · intro idle
    have fits := h.fits
    rwa [idle] at fits
  · intro empty
    by_contra state
    obtain ⟨c, only, -⟩ := h.used state
    simp [empty] at only

theorem WifiMachine.length_le_one (h : WifiMachine m) : m.mSubscribers.length ≤ 1 := by
  by_cases idle : m.mState = .released
  · simp [h.released_iff.mp idle]
  · obtain ⟨c, only, -⟩ := h.used idle
    simp [only]

theorem WifiMachine.releasing_iff (h : WifiMachine m) :
    m.mState = .releasing ↔ ∃ c, m.mSubscribers = [c] ∧ c.isInactive = true := by
  constructor
  · intro state
    obtain ⟨c, only, -, inactive⟩ := h.used (by simp [state])
    exact ⟨c, only, inactive.mpr state⟩
  · rintro ⟨c, only, inactive⟩
    exact (h.client only).2.mp inactive

theorem WifiMachine.held_iff (h : WifiMachine m) :
    m.mState = .pending ∨ m.mState = .acquired ↔
      ∃ c, m.mSubscribers = [c] ∧ c.isInactive = false := by
  constructor
  · intro state
    obtain ⟨c, only, -, inactive⟩ := h.used (by rcases state with state | state <;> simp [state])
    refine ⟨c, only, ?_⟩
    rcases state with state | state <;> simpa [state] using inactive
  · rintro ⟨c, only, active⟩
    have open' : m.mState ≠ .releasing := by
      intro state
      simp [(h.client only).2.mpr state] at active
    have used : m.mState ≠ .released := by
      intro idle
      simp [h.released_iff.mp idle] at only
    cases state : m.mState <;> simp_all

theorem wifi_inactive (wifi : c.kind = .wifi) : c.markInactive.isInactive = true := by
  cases c <;> simp_all [Subscriber.kind, Subscriber.markInactive, Subscriber.isInactive]

theorem wifi_waits (wifi : c.kind = .wifi) : c.waitForCloseComplete = true := by
  cases c <;> simp_all [Subscriber.kind, Subscriber.waitForCloseComplete]

theorem tellAll_wifi (status : AgpsRsrcStatus) (a : Act) (wifi : c.kind = .wifi) :
    tellAll status [c] a = a.effect (tell a.machine status c) :=
  tellAll_not_ds status a (by simp [wifi])

theorem wifi_subscribe (h : WifiMachine m) (wifi : s.kind = .wifi) :
    WifiStep m (.subscribe s) (m.proc (.subscribe s)).1 (m.proc (.subscribe s)).2 := by
  simp only [AgpsStateMachine.proc, AgpsMsg.procAct, AgpsStateMachine.subscribeRsrc, h.single,
    hasSubscribers_eq, Bool.true_and]
  cases list : m.mSubscribers with
  | cons c rest =>
      have denied : notifySubscriber ⟨.broadcastAll, .denied, true⟩ s ⟨m, []⟩ =
          (true, ⟨m, [tell m .denied s]⟩) := by
        rw [notifySubscriber, notifyRsrcStatus_eq (by simp [Tellable])]
        simp [Subscriber.forMe, tellAll_wifi _ _ wifi, effect]
      simpa [denied] using WifiStep.busy s (by simp [list])
  | nil =>
      have idle : m.mState = .released := h.released_iff.mpr list
      have active : s.clone.isInactive = false := by
        cases s <;> simp_all [Subscriber.kind, Subscriber.clone, Subscriber.isInactive]
      have step := WifiStep.ask (m := m) s idle
      simpa [onStateEvent, idle, AgpsReleasedState.onRsrcEvent, addSubscriber_eq, list, enlist,
        setSubscribers, sendRsrcRequest_agps, h.machineClass, sendAgpsRequest_request, active,
        effect, setState, connRequest] using step

theorem setInactive_wifi (wifi : c.kind = .wifi) (a : Act) (only : a.machine.mSubscribers = [c]) :
    leave c 0 a = a.setSubscribers [c.markInactive] := by
  simp [leave, wifi_waits wifi, setInactive, only, wifi]

theorem wifi_unsubscribe (h : WifiMachine m) :
    WifiStep m (.unsubscribe s) (m.proc (.unsubscribe s)).1 (m.proc (.unsubscribe s)).2 := by
  have search : (Act.mk m []).findSubscriber (.rcver s) =
      m.mSubscribers.find? fun e => e.equals s := findSubscriber_eq _ _
  simp only [AgpsStateMachine.proc, AgpsMsg.procAct, AgpsStateMachine.unsubscribeRsrc, search]
  cases found : m.mSubscribers.find? fun e => e.equals s with
  | none => exact .stranger s (by simpa using found)
  | some c =>
      have member := List.mem_of_find?_eq_some found
      have same : c.equals s = true := by simpa using List.find?_some found
      have state : m.mState ≠ .released := fun idle => by
        simp [h.released_iff.mp idle] at member
      obtain ⟨d, only, wifi, inactive⟩ := h.used state
      obtain rfl : c = d := by simpa [only] using member
      have entry : (m.mSubscribers.findIdx fun e => e.forMe (.search (.rcver s))) = 0 := by
        simp [only, Subscriber.forMe, Notification.search, same]
      have left := setInactive_wifi wifi ⟨m, []⟩ only
      dsimp only
      rw [entry]
      by_cases closing : m.mState = .releasing
      · have step := WifiStep.again (m := m) s c only same closing
        simpa [onStateEvent, closing, AgpsReleasingState.onRsrcEvent, left, hasSubscribers_eq,
          setSubscribers, setState] using step
      · have held : m.mState = .pending ∨ m.mState = .acquired := by
          cases mState : m.mState <;> simp_all
        have active : c.isInactive = false := by
          simpa [closing] using inactive
        have step := WifiStep.release (m := m) s c only same active
        rw [onStateEvent_unsubscribe noAnswers c 0 held, left]
        simpa [setSubscribers, wifi_inactive wifi, sendRsrcRequest_agps, h.machineClass,
          sendAgpsRequest_release, effect, setState, connRelease] using step

theorem wifi_openSuccess (h : WifiMachine m) (apn : List UInt8) (bearerType : Int) :
    WifiStep m (.openSuccess apn bearerType) (m.proc (.openSuccess apn bearerType)).1
      (m.proc (.openSuccess apn bearerType)).2 := by
  by_cases waiting : m.mState = .pending
  · obtain ⟨c, only, wifi, inactive⟩ := h.used (by simp [waiting])
    have active : c.isInactive = false := by simpa [waiting] using inactive
    have step := WifiStep.grant apn bearerType c only waiting
    simp only [AgpsStateMachine.proc, AgpsMsg.procAct, onStateEvent, waiting,
      AgpsStateMachine.setAPN, AgpsStateMachine.setBearer, AgpsPendingState.onRsrcEvent]
    rw [notifySubscribers_keep (by simp [Tellable]) rfl]
    simpa [only, Subscriber.forMe, active, tellAll_wifi _ _ wifi, effect, setState, waiting] using step
  · have step := WifiStep.late (m := m) apn bearerType waiting
    cases state : m.mState <;>
      simp_all [AgpsStateMachine.proc, AgpsMsg.procAct, onStateEvent, AgpsStateMachine.setAPN,
        AgpsStateMachine.setBearer, AgpsReleasedState.onRsrcEvent, AgpsAcquiredState.onRsrcEvent,
        AgpsReleasingState.onRsrcEvent, setState]

theorem reported (receiver : Receiver) {status : AgpsRsrcStatus} (told : Tellable status)
    (only : m.mSubscribers = [c]) (wifi : c.kind = .wifi)
    (mine : c.forMe ⟨receiver, status, true⟩ = true) :
    notifySubscribers ⟨receiver, status, true⟩ ⟨m, []⟩ =
      ⟨{ m with mSubscribers := [] }, [tell m status c]⟩ := by
  rw [notifySubscribers_delete told rfl]
  simp [only, mine, tellAll_wifi _ _ wifi, effect, setSubscribers]

theorem wifi_closed (h : WifiMachine m) :
    WifiStep m .closed (m.proc .closed).1 (m.proc .closed).2 := by
  by_cases held : m.mState = .acquired ∨ m.mState = .releasing
  · obtain ⟨c, only, wifi, inactive⟩ := h.used (by rcases held with state | state <;> simp [state])
    have step := WifiStep.close c only held
    rcases held with state | state
    · have told := reported .broadcastAll (show Tellable .released by simp [Tellable]) only wifi rfl
      simpa [AgpsStateMachine.proc, AgpsMsg.procAct, onStateEvent, state,
        AgpsAcquiredState.onRsrcEvent, told, setState] using step
    · have told := reported .broadcastInactive (show Tellable .released by simp [Tellable]) only
        wifi (inactive.mpr state)
      simpa [AgpsStateMachine.proc, AgpsMsg.procAct, onStateEvent, state,
        AgpsReleasingState.onRsrcEvent, told, hasActiveSubscribers_eq, setState] using step
  · have free : m.mState = .released ∨ m.mState = .pending := by
      cases mState : m.mState <;> simp_all
    have step := WifiStep.nothingClosed free
    rcases free with state | state
    · simpa [AgpsStateMachine.proc, AgpsMsg.procAct, onStateEvent, state,
        AgpsReleasedState.onRsrcEvent, setState_self ⟨m, []⟩ state] using step
    · simpa [AgpsStateMachine.proc, AgpsMsg.procAct, onStateEvent, state,
        AgpsPendingState.onRsrcEvent, setState_self ⟨m, []⟩ state] using step

theorem wifi_openFailed (h : WifiMachine m) :
    WifiStep m .openFailed (m.proc .openFailed).1 (m.proc .openFailed).2 := by
  by_cases waiting : m.mState = .pending ∨ m.mState = .releasing
  · obtain ⟨c, only, wifi, inactive⟩ :=
      h.used (by rcases waiting with state | state <;> simp [state])
    have step := WifiStep.deny c only waiting
    rcases waiting with state | state
    · have told := reported .broadcastAll (show Tellable .denied by simp [Tellable]) only wifi rfl
      simpa [AgpsStateMachine.proc, AgpsMsg.procAct, onStateEvent, state,
        AgpsPendingState.onRsrcEvent, told, setState] using step
    · have told := reported .broadcastInactive (show Tellable .denied by simp [Tellable]) only
        wifi (inactive.mpr state)
      simpa [AgpsStateMachine.proc, AgpsMsg.procAct, onStateEvent, state,
        AgpsReleasingState.onRsrcEvent, told, hasActiveSubscribers_eq, setState] using step
  · have answered : m.mState = .released ∨ m.mState = .acquired := by
      cases mState : m.mState <;> simp_all
    have step := WifiStep.nothingDenied answered
    rcases answered with state | state
    · simpa [AgpsStateMachine.proc, AgpsMsg.procAct, onStateEvent, state,
        AgpsReleasedState.onRsrcEvent, setState_self ⟨m, []⟩ state] using step
    · simpa [AgpsStateMachine.proc, AgpsMsg.procAct, onStateEvent, state,
        AgpsAcquiredState.onRsrcEvent, setState_self ⟨m, []⟩ state] using step

theorem wifi_proc_step {msg : AgpsMsg} (h : WifiMachine m) (client : FromKind .wifi msg) :
    WifiStep m msg (m.proc msg).1 (m.proc msg).2 := by
  cases msg with
  | subscribe s => exact wifi_subscribe h (client s rfl)
  | unsubscribe s => exact wifi_unsubscribe h
  | openSuccess apn bearerType => exact wifi_openSuccess h apn bearerType
  | closed => exact wifi_closed h
  | openFailed => exact wifi_openFailed h

end Equations

/-! ## One message -/

theorem wifi_step {t : AgpsTransition} (h : WifiMachine t.before)
    (client : FromKind .wifi t.event) (step : WifiStep t.before t.event t.after t.outputs) :
    WifiMachine t.after := by
  obtain ⟨m, event, outputs, after⟩ := t
  dsimp only at *
  cases step with
  | ask s idle =>
      have wifi : s.kind = .wifi := client s rfl
      refine ⟨h.machineClass, h.single, s.clone, rfl, ?_⟩
      cases s <;> simp_all [Subscriber.kind, Subscriber.clone, Subscriber.isInactive]
  | release s c only same active =>
      have wifi := (h.client only).1
      exact ⟨h.machineClass, h.single, c.markInactive, rfl, by simp [wifi], wifi_inactive wifi⟩
  | again s c only same closing =>
      have wifi := (h.client only).1
      refine ⟨h.machineClass, h.single, ?_⟩
      rw [closing]
      exact ⟨c.markInactive, rfl, by simp [wifi], wifi_inactive wifi⟩
  | grant apn bearerType c only waiting =>
      refine ⟨h.machineClass, h.single, ?_⟩
      have fits := h.fits
      rw [waiting] at fits
      exact fits
  | late apn bearerType answered => exact ⟨h.machineClass, h.single, h.fits⟩
  | close | deny => exact ⟨h.machineClass, h.single, rfl⟩
  | busy | stranger | nothingClosed | nothingDenied => exact h

theorem new_wifi : WifiMachine (.new AGPS_TYPE_WIFI true) := ⟨rfl, rfl, rfl⟩

/-! ## Answers -/

section Answers
variable {t : AgpsTransition}

theorem closesFor_tell {c : Subscriber} (m : AgpsStateMachine) (status : AgpsRsrcStatus)
    (senderId : UInt32) (wifi : c.kind = .wifi) :
    (tell m status c).closesFor senderId =
      (c.ID == senderId && (status == .released || status == .denied)) := by
  cases c with
  | wifi => cases status <;> simp [tell, statusCall, Effect.closesFor, Subscriber.ID]
  | _ => cases wifi

theorem entered_nil {m : AgpsStateMachine} (empty : m.mSubscribers = []) (senderId : UInt32) :
    entered senderId m = false := by
  simp [entered, empty]

theorem busy_step (h : WifiMachine t.before) (client : FromKind .wifi t.event)
    (step : WifiStep t.before t.event t.after t.outputs) {s : Subscriber}
    (request : t.event = .subscribe s) (used : t.before.mSubscribers ≠ []) :
    t.after = t.before ∧ t.outputs = [.told s .denied (some (.dataConn s.ID .failure))] := by
  obtain ⟨m, event, outputs, after⟩ := t
  dsimp only at *
  subst request
  cases step with
  | ask _ idle => exact absurd (h.released_iff.mp idle) used
  | busy _ _ =>
      have wifi : s.kind = .wifi := client s rfl
      cases s with
      | wifi => exact ⟨rfl, rfl⟩
      | _ => cases wifi

theorem closings_wifi (h : WifiMachine t.before)
    (step : WifiStep t.before t.event t.after t.outputs) (senderId : UInt32)
    (noRequest : t.event.isSubscribe = false) :
    t.outputs.countP (Effect.closesFor senderId) =
      if entered senderId t.before && !entered senderId t.after then 1 else 0 := by
  obtain ⟨m, event, outputs, after⟩ := t
  dsimp only at *
  cases step with
  | ask s idle => simp [AgpsMsg.isSubscribe] at noRequest
  | busy s used => simp [AgpsMsg.isSubscribe] at noRequest
  | release s c only same active =>
      simp [Effect.closesFor, entered, only]
  | again s c only same closing => simp [entered, only]
  | grant apn bearerType c only waiting =>
      simp [closesFor_tell _ _ _ (h.client only).1, entered]
  | late apn bearerType answered => simp [entered]
  | close c only held =>
      cases mine : c.ID == senderId <;>
        simp [closesFor_tell _ _ _ (h.client only).1, entered, only, mine]
  | deny c only waiting =>
      cases mine : c.ID == senderId <;>
        simp [closesFor_tell _ _ _ (h.client only).1, entered, only, mine]
  | stranger | nothingClosed | nothingDenied => simp

theorem leaves_wifi (h : WifiMachine t.before)
    (step : WifiStep t.before t.event t.after t.outputs) {senderId : UInt32}
    (before : entered senderId t.before = true) (after : entered senderId t.after = false) :
    t.event.isReport = true := by
  obtain ⟨m, event, outputs, after⟩ := t
  dsimp only at *
  cases step with
  | ask s idle => simp [entered_nil (h.released_iff.mp idle)] at before
  | release s c only same active => simp_all [entered]
  | again s c only same closing => simp_all [entered]
  | close | nothingClosed | deny | nothingDenied => rfl
  | busy | stranger => simp [before] at after
  | grant | late => exact absurd (before.symm.trans after) (by simp)

end Answers

/-! ## Runs -/

structure WifiInv (history : List AgpsTransition) (m : AgpsStateMachine) : Prop where
  machine : WifiMachine m
  answered : ∀ senderId, entries senderId history =
    closings senderId history + if entered senderId m then 1 else 0

theorem wifi_keep {history : List AgpsTransition} {m : AgpsStateMachine} {msg : AgpsMsg}
    (h : WifiInv history m) (client : FromKind .wifi msg) :
    WifiInv (history ++ [react AgpsStateMachine.proc m msg]) (m.proc msg).1 := by
  have step := wifi_proc_step h.machine client
  refine ⟨@wifi_step (react AgpsStateMachine.proc m msg) h.machine client step, fun senderId => ?_⟩
  have answered := h.answered senderId
  have entry : entries senderId (history ++ [react AgpsStateMachine.proc m msg]) =
      entries senderId history +
        if !entered senderId m && entered senderId (m.proc msg).1 then 1 else 0 := by
    simp [entries, react, List.countP_singleton]
  have report := @leaves_wifi (react AgpsStateMachine.proc m msg) h.machine step senderId
  cases request : msg.isSubscribe with
  | true =>
      -- a request never takes anybody out of the list
      have silent : closings senderId (history ++ [react AgpsStateMachine.proc m msg]) =
          closings senderId history := by simp [closings, react, request]
      have stays : entered senderId m = true → entered senderId (m.proc msg).1 = true := by
        intro before
        by_contra left
        have gone : entered senderId (m.proc msg).1 = false := by simpa using left
        have reported : msg.isReport = true := report before gone
        cases msg <;> simp_all [AgpsMsg.isSubscribe, AgpsMsg.isReport]
      rw [entry, silent, answered]
      cases before : entered senderId m <;> simp_all
  | false =>
      have told := @closings_wifi (react AgpsStateMachine.proc m msg) h.machine step senderId request
      have closing : closings senderId (history ++ [react AgpsStateMachine.proc m msg]) =
          closings senderId history +
            if entered senderId m && !entered senderId (m.proc msg).1 then 1 else 0 := by
        rw [← show _ = if entered senderId m && !entered senderId (m.proc msg).1 then 1 else 0
          from told]
        simp [closings, react, request]
      rw [entry, closing, answered]
      cases entered senderId m <;> cases entered senderId (m.proc msg).1 <;> simp

theorem run_wifi {msgs : List AgpsMsg} (clients : ∀ msg ∈ msgs, FromKind .wifi msg) :
    WifiInv (trace AgpsStateMachine.proc (.new AGPS_TYPE_WIFI true) msgs)
      (final AgpsStateMachine.proc (.new AGPS_TYPE_WIFI true) msgs) := by
  apply history_invariant _ ⟨new_wifi, fun senderId => rfl⟩ clients
  intro history m msg h client
  exact wifi_keep h client

/-- The wifi connection, over any run. -/
theorem wifi_arbitration {msgs : List AgpsMsg} (clients : ∀ msg ∈ msgs, FromKind .wifi msg) :
    let m := final AgpsStateMachine.proc (.new AGPS_TYPE_WIFI true) msgs
    let history := trace AgpsStateMachine.proc (.new AGPS_TYPE_WIFI true) msgs
    m.mSubscribers.length ≤ 1 ∧
    (m.mState = .released ↔ m.mSubscribers = []) ∧
    (m.mState = .releasing ↔ ∃ c, m.mSubscribers = [c] ∧ c.isInactive = true) ∧
    (m.mState = .pending ∨ m.mState = .acquired ↔
      ∃ c, m.mSubscribers = [c] ∧ c.isInactive = false) ∧
    (∀ senderId, entries senderId history =
      closings senderId history + if entered senderId m then 1 else 0) ∧
    ∀ t ∈ history,
      (∀ s, t.event = .subscribe s → t.before.mSubscribers ≠ [] →
        t.after = t.before ∧ t.outputs = [.told s .denied (some (.dataConn s.ID .failure))]) ∧
      ∀ senderId,
        (t.event.isSubscribe = false → t.outputs.countP (Effect.closesFor senderId) =
          if entered senderId t.before && !entered senderId t.after then 1 else 0) ∧
        (entered senderId t.before = true → entered senderId t.after = false →
          t.event.isReport = true) := by
  have h := run_wifi clients
  refine ⟨h.machine.length_le_one, h.machine.released_iff, h.machine.releasing_iff,
    h.machine.held_iff, h.answered, fun t member => ?_⟩
  obtain ⟨earlier, later, rfl, reacted⟩ := exists_prefix member
  have before := (run_wifi fun msg member => clients msg (List.mem_append_left _ member)).machine
  have client : FromKind .wifi t.event := clients _ (by simp)
  have machine : WifiMachine t.before := by
    rw [reacted]
    exact before
  have step : WifiStep t.before t.event t.after t.outputs := by
    rw [reacted]
    exact wifi_proc_step before client
  refine ⟨fun s request used => busy_step machine client step request used, fun senderId => ?_⟩
  exact ⟨closings_wifi machine step senderId, leaves_wifi machine step⟩

def twoSenders : List AgpsMsg := [.subscribe (.wifi 1 none none false), .openSuccess [] 0,
  .subscribe (.wifi 2 none none false), .unsubscribe (.wifi 1 none none false),
  .unsubscribe (.wifi 1 none none false), .closed, .subscribe (.wifi 2 none none false),
  .openFailed]

/-- The second sender is turned away and asks again, when no connection is made. -/
theorem wifi_arbitration_two_senders :
    let history := trace AgpsStateMachine.proc (.new AGPS_TYPE_WIFI true) twoSenders
    closings 1 history = 1 ∧ closings 2 history = 1 ∧ ∃ t ∈ history,
      t.event = .subscribe (.wifi 2 none none false) ∧ t.after = t.before ∧
        t.outputs = [.told (.wifi 2 none none false) .denied (some (.dataConn 2 .failure))] := by
  intro history
  have clients : ∀ msg ∈ twoSenders, FromKind .wifi msg := by decide
  obtain ⟨-, -, -, -, answered, reactions⟩ := wifi_arbitration clients
  have third : ∃ t ∈ history, t.event = .subscribe (.wifi 2 none none false) ∧
      t.before.mSubscribers ≠ [] := by
    refine ⟨history[2], List.getElem_mem _, rfl, ?_⟩
    decide
  obtain ⟨t, member, request, used⟩ := third
  exact ⟨(answered 1).symm, (answered 2).symm, t, member, request,
    (reactions t member).1 _ request used⟩

end VibeXperia.Proof.Agps

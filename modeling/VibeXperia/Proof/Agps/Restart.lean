import VibeXperia.Proof.Agps.Sharing

namespace VibeXperia.Proof.Agps
open VibeXperia.Agps VibeXperia.Lib

/-! ## Restarts of the modem -/

def EngineFromClients : EngineMsg → Prop
  | .agps msg => FromClients msg
  | .engineUp => True

instance (msg : EngineMsg) : Decidable (EngineFromClients msg) :=
  match msg with
  | .agps msg => inferInstanceAs (Decidable (FromClients msg))
  | .engineUp => inferInstanceAs (Decidable True)

section Engine
variable {m : AgpsStateMachine} {msg : EngineMsg}

theorem engine_machine (h : ClientMachine m)
    (client : EngineFromClients msg) : ClientMachine (m.procEngine msg).1 := by
  cases msg with
  | agps msg =>
      exact @machine_step (react AgpsStateMachine.proc m msg) h client
        (proc_step h client)
  | engineUp => exact ⟨h.machineClass, h.many, by simp [AgpsStateMachine.procEngine,
      Act.dropAllSubscribers, Act.setSubscribers], h.state, fun _ => rfl⟩

structure UsedMachine (m : AgpsStateMachine) : Prop where
  machine : ClientMachine m
  used : m.mSubscribers = [] → m.mState = .released

theorem UsedMachine.wants (h : UsedMachine m) (wants : m.wantsConnection) :
    m.mSubscribers ≠ [] := by
  intro empty
  rcases wants with state | state <;> simp [h.used empty] at state

theorem used_step {t : AgpsTransition} (h : UsedMachine t.before)
    (step : ClientStep t.before t.event t.after t.outputs) :
    t.after.mSubscribers = [] → t.after.mState = .released := by
  obtain ⟨m, event, outputs, after⟩ := t
  dsimp only at *
  cases step with
  | ask => simp
  | join | share => exact fun empty => absurd empty enlist_ne_nil
  | leave s c member same others => exact fun empty => absurd empty others
  | quit | lose | refuse => exact fun _ => rfl
  | grant apn bearerType waiting =>
      intro empty
      exact absurd (h.used empty) (by simp [waiting])
  | late | stranger | nothingLost | nothingRefused => exact h.used

theorem engine_used (h : UsedMachine m)
    (client : EngineFromClients msg) (calm : msg = .engineUp → m.mState = .released) :
    UsedMachine (m.procEngine msg).1 := by
  refine ⟨engine_machine h.machine client, ?_⟩
  cases msg with
  | agps msg =>
      exact @used_step (react AgpsStateMachine.proc m msg) h
        (proc_step h.machine client)
  | engineUp => exact fun _ => calm rfl

theorem heldForSomebody (h : UsedMachine m)
    (client : EngineFromClients msg) (calm : msg = .engineUp → m.mState = .released) :
    HeldForSomebody (react AgpsStateMachine.procEngine m msg) where
  used := (engine_used h client calm).wants
  asked := by
    rintro s rfl empty
    have step := proc_subscribe h.machine (client s rfl)
    rw [h.used empty] at step
    simp [react, AgpsStateMachine.procEngine, step, connRequest]
  givenBack := by
    rintro (⟨s, rfl⟩ | rfl) wants empty
    · have step := proc_step h.machine client
      have count := @releases_step (react AgpsStateMachine.proc m (.unsubscribe s)) step
      rw [if_pos ⟨rfl, h.wants wants, empty⟩] at count
      exact count
    · rcases wants with state | state <;> simp [react, calm rfl] at state

end Engine

/-- The connection is held for somebody in every run, unless a restart of the modem finds the
machine holding or awaiting it. -/
theorem held_for_somebody_iff (mType : Int)
    {msgs : List EngineMsg} (clients : ∀ msg ∈ msgs, EngineFromClients msg) :
    let history := trace AgpsStateMachine.procEngine (.new mType false) msgs
    (∀ t ∈ history, HeldForSomebody t) ↔
      ∀ t ∈ history, t.event = .engineUp → t.before.mState = .released := by
  intro history
  have fromClients : ∀ t ∈ history, EngineFromClients t.event :=
    fun t member => clients t.event (event_mem_of_mem member)
  constructor
  · intro held t member restart
    have machine := (invariant_of_allowed
      (fun m msg h client => engine_machine h client)
      (new_machine mType) fromClients).2 t member
    have used := (held t member).used
    have reacted := eq_react_of_mem member
    rw [reacted, restart] at used
    have keeps : ¬ t.before.wantsConnection := fun wants => used wants rfl
    cases now : t.before.mState with
    | released => rfl
    | acquired => exact absurd (.inr now) keeps
    | pending => exact absurd (.inl now) keeps
    | releasing => exact absurd now machine.1.state
  · intro calm t member
    have start : UsedMachine (.new mType false) := ⟨new_machine mType, fun _ => rfl⟩
    have keep : ∀ m msg, UsedMachine m →
        EngineFromClients msg ∧ (msg = .engineUp → m.mState = .released) →
          UsedMachine (m.procEngine msg).1 :=
      fun m msg h allowed => engine_used h allowed.1 allowed.2
    have machine := (invariant_of_allowed keep start
      fun t member => ⟨fromClients t member, calm t member⟩).2 t member
    rw [eq_react_of_mem member]
    exact heldForSomebody machine.1 (fromClients t member) (calm t member)

/-- A client comes and goes before the modem restarts. -/
theorem held_for_somebody_calm_restart :
    HeldForSomebody (react AgpsStateMachine.procEngine
      (final AgpsStateMachine.procEngine (.new AGPS_TYPE_SUPL false)
        [.agps (.subscribe (.atl 1 false)), .agps (.unsubscribe (.atl 1 false))]) .engineUp) :=
  (@held_for_somebody_iff AGPS_TYPE_SUPL
    [.agps (.subscribe (.atl 1 false)), .agps (.unsubscribe (.atl 1 false)), .engineUp]
    (by decide)).mpr (by decide) _ (by simp)

/-- A restart over a connection in use leaves the machine acquired and its list empty; the next
client is granted at once and nothing is requested. -/
theorem restart_leaves_connection :
    let history := trace AgpsStateMachine.procEngine (.new AGPS_TYPE_SUPL false)
      [.agps (.subscribe (.atl 1 false)), .agps (.openSuccess [] 0), .engineUp,
        .agps (.subscribe (.atl 2 false))]
    (∃ t ∈ history, t.event = .engineUp ∧ t.after.mState = .acquired ∧
      t.after.mSubscribers = []) ∧
    ∃ t ∈ history, t.event = .agps (.subscribe (.atl 2 false)) ∧ t.before.mSubscribers = [] ∧
      t.outputs.countP (Effect.requests .requestAgpsDataConn) = 0 := by
  decide

end VibeXperia.Proof.Agps

import VibeXperia.Agps.Framework
import VibeXperia.Proof.Agps.Sharing

namespace VibeXperia.Proof.Agps
open VibeXperia.Agps VibeXperia.Lib

/-! ## What is in flight -/

/-- What is in flight while the machine waits for the answer to its last request. -/
inductive Waiting (s : Connection) : Prop
  | asked (releases : List AGpsStatusValue)
      (requests : s.requests = releases ++ [.requestAgpsDataConn])
      (older : ∀ r ∈ releases, r = .releaseAgpsDataConn)
      (holds : releases = [] → s.holds = false)
      (answers : ∀ a ∈ s.answers, a = .released)
  | granted (apn bearerType) (closed : List Answer) (requests : s.requests = [])
      (answers : s.answers = closed ++ [.granted apn bearerType])
      (older : ∀ a ∈ closed, a = .released) (holds : s.holds = true)
  | denied (closed : List Answer) (requests : s.requests = [])
      (answers : s.answers = closed ++ [.denied]) (older : ∀ a ∈ closed, a = .released)
      (holds : s.holds = false)

/-- A released machine will have given the connection back once its requests are handled. -/
def GivenBack (s : Connection) : Prop :=
  s.requests = [] ∧ s.holds = false ∨
    ∃ earlier, s.requests = earlier ++ [.releaseAgpsDataConn]

structure ConnectionInv (s : Connection) : Prop where
  machine : ClientMachine s.machine
  released : s.machine.mState = .released → GivenBack s
  pending : s.machine.mState = .pending → Waiting s
  acquired : s.machine.mState = .acquired →
    s.requests = [] ∧ s.answers = [] ∧ s.holds = true

theorem ConnectionInv.agree {s : Connection} (h : ConnectionInv s) :
    Agree s := by
  intro requests answers
  cases state : s.machine.mState with
  | releasing => exact absurd state h.machine.state
  | acquired => simp [(h.acquired state).2.2]
  | released =>
      rcases h.released state with ⟨-, holds⟩ | ⟨earlier, same⟩
      · simp [holds]
      · simp [requests] at same
  | pending =>
      cases h.pending state with
      | asked releases same => simp [requests] at same
      | granted apn bearerType closed _ same => simp [answers] at same
      | denied closed _ same => simp [answers] at same

theorem new_connection (mType : Int) :
    ConnectionInv (.new mType) where
  machine := new_machine mType
  released _ := .inl ⟨rfl, rfl⟩
  pending := by simp [Connection.new, AgpsStateMachine.new]
  acquired := by simp [Connection.new, AgpsStateMachine.new]

/-! ## Steps of the framework -/

section Handle
variable {s : Connection}

theorem handle_machine (s : Connection) (apn : Option (List UInt8 × Int)) :
    (s.handle apn).machine = s.machine := by
  unfold Connection.handle
  split
  · rfl
  · rfl
  · cases apn <;> rfl

theorem handle_nothing (none : s.requests = []) (apn : Option (List UInt8 × Int)) :
    s.handle apn = s := by
  simp [Connection.handle, none]

theorem handle_givenBack (back : GivenBack s) (apn : Option (List UInt8 × Int)) :
    GivenBack (s.handle apn) := by
  rcases back with ⟨none, holds⟩ | ⟨earlier, split⟩
  · rw [handle_nothing none]
    exact .inl ⟨none, holds⟩
  · cases earlier with
    | nil =>
        have only : s.requests = [.releaseAgpsDataConn] := split
        exact .inl (by simp [Connection.handle, only])
    | cons r earlier =>
        refine .inr ⟨earlier, ?_⟩
        cases r with
        | releaseAgpsDataConn => simp [Connection.handle, split]
        | requestAgpsDataConn => cases apn <;> simp [Connection.handle, split]

theorem handle_waiting (waiting : Waiting s) (apn : Option (List UInt8 × Int)) :
    Waiting (s.handle apn) := by
  cases waiting with
  | granted apn' bearerType closed none answers older holds =>
      rw [handle_nothing none]
      exact .granted apn' bearerType closed none answers older holds
  | denied closed none answers older holds =>
      rw [handle_nothing none]
      exact .denied closed none answers older holds
  | asked releases requests older holds answers =>
      cases releases with
      | nil =>
          -- the framework has come to the last request
          have only : s.requests = [.requestAgpsDataConn] := requests
          rcases apn with - | ⟨apn, bearerType⟩
          · exact .denied s.answers (by simp [Connection.handle, only])
              (by simp [Connection.handle, only]) answers
              (by simpa [Connection.handle, only] using holds rfl)
          · exact .granted apn bearerType s.answers (by simp [Connection.handle, only])
              (by simp [Connection.handle, only]) answers (by simp [Connection.handle, only])
      | cons r releases =>
          obtain rfl : r = .releaseAgpsDataConn := older r (by simp)
          have more : s.requests =
              .releaseAgpsDataConn :: (releases ++ [.requestAgpsDataConn]) := requests
          refine .asked releases (by simp [Connection.handle, more])
            (fun r member => older r (by simp [member])) (by simp [Connection.handle, more]) ?_
          intro a member
          have : a ∈ s.answers ∨ a = .released := by
            simpa [Connection.handle, more] using member
          exact this.elim (answers a) id

theorem handle_inv (h : ConnectionInv s) (apn : Option (List UInt8 × Int)) :
    ConnectionInv (s.handle apn) where
  machine := by
    rw [handle_machine]
    exact h.machine
  released state := by
    rw [handle_machine] at state
    exact handle_givenBack (h.released state) apn
  pending state := by
    rw [handle_machine] at state
    exact handle_waiting (h.pending state) apn
  acquired state := by
    rw [handle_machine] at state
    rw [handle_nothing (h.acquired state).1]
    exact h.acquired state

end Handle

/-! ## Steps of the clients -/

section Clients
variable {s : Connection} {m : AgpsStateMachine} {c : Subscriber}

theorem statusOf_tell (m : AgpsStateMachine) (status : AgpsRsrcStatus)
    (heard : List Subscriber) : (heard.map (tell m status)).filterMap statusOf = [] := by
  induction heard with
  | nil => rfl
  | cons c heard ih => exact ih

theorem Waiting.withMachine (waiting : Waiting s) : Waiting { s with machine := m } := by
  cases waiting with
  | asked releases requests older holds answers =>
      exact .asked releases requests older holds answers
  | granted apn bearerType closed requests answers older holds =>
      exact .granted apn bearerType closed requests answers older holds
  | denied closed requests answers older holds =>
      exact .denied closed requests answers older holds

theorem ConnectionInv.withMachine (h : ConnectionInv s) (machine : ClientMachine m)
    (state : m.mState = s.machine.mState) : ConnectionInv { s with machine := m } where
  machine := machine
  released idle := h.released (state ▸ idle)
  pending waiting := (h.pending (state ▸ waiting)).withMachine
  acquired held := h.acquired (state ▸ held)

theorem proc_connection (msg : AgpsMsg) (h : ClientMachine s.machine) (client : FromClients msg) :
    ∃ after outputs, ClientStep s.machine msg after outputs ∧ ClientMachine after ∧
      s.proc msg = { s with
        machine := after
        requests := s.requests ++ outputs.filterMap statusOf } := by
  have step := proc_step h client
  have machine := @machine_step ⟨s.machine, msg, _, _⟩ h client step
  exact ⟨_, _, step, machine, rfl⟩

theorem subscribe_inv (h : ConnectionInv s)
    (client : Immediate c) (unhurried : s.machine.mState = .released → s.answered = true) :
    ConnectionInv (s.proc (.subscribe c)) := by
  obtain ⟨after, outputs, step, machine, same⟩ :=
    proc_connection (.subscribe c) h.machine (by simpa [FromClients, AgpsMsg.client])
  rw [same]
  cases step with
  | ask _ idle =>
      have quiet := unhurried idle
      simp only [Connection.answered, Bool.and_eq_true, List.all_eq_true, beq_iff_eq] at quiet
      refine ⟨machine, by simp, fun _ => ?_, by simp⟩
      refine .asked s.requests rfl quiet.1 (fun none => ?_) quiet.2
      rcases h.released idle with ⟨-, holds⟩ | ⟨earlier, split⟩
      · exact holds
      · simp [none] at split
  | join _ waiting =>
      simpa using h.withMachine machine rfl
  | share _ held =>
      have silent := statusOf_tell s.machine .granted [c]
      rw [show [tell s.machine .granted c] = [c].map (tell s.machine .granted) from rfl, silent]
      simpa using h.withMachine machine rfl

theorem unsubscribe_inv (h : ConnectionInv s)
    (client : Immediate c) : ConnectionInv (s.proc (.unsubscribe c)) := by
  obtain ⟨after, outputs, step, machine, same⟩ :=
    proc_connection (.unsubscribe c) h.machine (by simpa [FromClients, AgpsMsg.client])
  rw [same]
  cases step with
  | stranger => simpa using h.withMachine machine rfl
  | leave _ d member equal others =>
      rw [statusOf_tell]
      simpa using h.withMachine machine rfl
  | quit _ d member equal last =>
      refine ⟨machine, fun _ => .inr ⟨s.requests, ?_⟩, by simp, by simp⟩
      rw [List.filterMap_append, statusOf_tell]
      rfl

end Clients

/-! ## Answers -/

section Deliver
variable {s : Connection}

theorem msg_fromClients (a : Answer) : FromClients a.msg := by
  cases a <;> simp [FromClients, AgpsMsg.client, Answer.msg]

theorem ignored_step {m after : AgpsStateMachine} {a : Answer} {outputs : List Effect}
    (step : ClientStep m a.msg after outputs)
    (ignored : m.mState = .released ∨ m.mState = .pending ∧ a = .released) :
    after.mState = m.mState ∧ outputs = [] := by
  cases a with
  | granted apn bearerType =>
      cases step with
      | grant _ _ waiting => simp [waiting] at ignored
      | late => exact ⟨rfl, rfl⟩
  | denied =>
      cases step with
      | refuse waiting => simp [waiting] at ignored
      | nothingRefused => exact ⟨rfl, rfl⟩
  | released =>
      cases step with
      | lose held => simp [held] at ignored
      | nothingLost => exact ⟨rfl, rfl⟩

theorem deliver_inv (h : ConnectionInv s) :
    ConnectionInv s.deliver := by
  cases answers : s.answers with
  | nil => simpa [Connection.deliver, answers] using h
  | cons a rest =>
      obtain ⟨after, outputs, step, machine, same⟩ :=
        proc_connection (s := { s with answers := rest }) a.msg h.machine
          (msg_fromClients a)
      dsimp only at step same
      rw [show s.deliver = { s with answers := rest }.proc a.msg by
        simp [Connection.deliver, answers], same]
      -- an answer that the machine does not wait for changes nothing
      have ignored (unasked : s.machine.mState = .released ∨
          s.machine.mState = .pending ∧ a = .released) :
          after.mState = s.machine.mState ∧
            s.requests ++ outputs.filterMap statusOf = s.requests := by
        obtain ⟨state, rfl⟩ := ignored_step step unasked
        exact ⟨state, by simp⟩
      cases state : s.machine.mState with
      | releasing => exact absurd state h.machine.state
      | acquired => simp [(h.acquired state).2.1] at answers
      | released =>
          obtain ⟨stays, requests⟩ := ignored (.inl state)
          rw [requests]
          exact ⟨machine, fun _ => h.released state, by simp [stays, state], by simp [stays, state]⟩
      | pending =>
          cases h.pending state with
          | asked releases asked older holds closed =>
              obtain ⟨stays, requests⟩ := ignored (.inr ⟨state, closed a (by simp [answers])⟩)
              rw [requests]
              refine ⟨machine, by simp [stays, state], fun _ => ?_, by simp [stays, state]⟩
              exact .asked releases asked older holds fun x member =>
                closed x (by simp [answers, member])
          | granted apn bearerType closed none split older holds =>
              cases closed with
              | nil =>
                  obtain ⟨rfl, rfl⟩ : a = .granted apn bearerType ∧ rest = [] := by
                    simpa [answers] using split
                  cases step with
                  | late _ _ answered => exact absurd state answered
                  | grant =>
                      rw [statusOf_tell, none]
                      exact ⟨machine, by simp, by simp, fun _ => ⟨rfl, rfl, holds⟩⟩
              | cons x closed =>
                  obtain ⟨rfl, rfl⟩ : a = x ∧ rest = closed ++ [.granted apn bearerType] := by
                    simpa [answers] using split
                  obtain ⟨stays, requests⟩ := ignored (.inr ⟨state, older a (by simp)⟩)
                  rw [requests]
                  refine ⟨machine, by simp [stays, state], fun _ => ?_, by simp [stays, state]⟩
                  exact .granted apn bearerType closed none rfl
                    (fun x member => older x (by simp [member])) holds
          | denied closed none split older holds =>
              cases closed with
              | nil =>
                  obtain ⟨rfl, rfl⟩ : a = .denied ∧ rest = [] := by simpa [answers] using split
                  cases step with
                  | nothingRefused answered => exact absurd state answered
                  | refuse =>
                      rw [statusOf_tell, none]
                      exact ⟨machine, fun _ => .inl ⟨rfl, holds⟩, by simp, by simp⟩
              | cons x closed =>
                  obtain ⟨rfl, rfl⟩ : a = x ∧ rest = closed ++ [.denied] := by
                    simpa [answers] using split
                  obtain ⟨stays, requests⟩ := ignored (.inr ⟨state, older a (by simp)⟩)
                  rw [requests]
                  refine ⟨machine, by simp [stays, state], fun _ => ?_, by simp [stays, state]⟩
                  exact .denied closed none rfl (fun x member => older x (by simp [member])) holds

end Deliver

/-! ## Runs -/

def EventFromClients (e : ConnectionEvent) : Prop :=
  ∀ s ∈ e.client, Immediate s

instance (e : ConnectionEvent) : Decidable (EventFromClients e) :=
  inferInstanceAs (Decidable (∀ s ∈ e.client, Immediate s))

theorem connection_step {s : Connection} {e : ConnectionEvent}
    (h : ConnectionInv s) (client : EventFromClients e)
    (unhurried : Unhurried s e) : ConnectionInv (s.step e).1 := by
  cases e with
  | subscribe c => exact subscribe_inv h (client c rfl) unhurried
  | unsubscribe c => exact unsubscribe_inv h (client c rfl)
  | handle apn => exact handle_inv h apn
  | deliver => exact deliver_inv h

/-- In an unhurried run the machine and the framework agree whenever nothing is in flight. -/
theorem agrees_with_framework (mType : Int)
    {es : List ConnectionEvent} (clients : ∀ e ∈ es, EventFromClients e)
    (unhurried : ∀ t ∈ trace Connection.step (.new mType) es, Unhurried t.before t.event) :
    Agree (final Connection.step (.new mType) es) ∧
      ∀ t ∈ trace Connection.step (.new mType) es, Agree t.before ∧ Agree t.after := by
  have allowed : ∀ t ∈ trace Connection.step (.new mType) es,
      EventFromClients t.event ∧ Unhurried t.before t.event :=
    fun t member => ⟨clients _ (event_mem_of_mem member), unhurried t member⟩
  have keep : ∀ s e, ConnectionInv s → EventFromClients e ∧ Unhurried s e →
      ConnectionInv (s.step e).1 :=
    fun s e h allowed => connection_step h allowed.1 allowed.2
  obtain ⟨last, inside⟩ := invariant_of_allowed keep (new_connection mType) allowed
  exact ⟨last.agree, fun t member => ⟨(inside t member).1.agree, (inside t member).2.agree⟩⟩

def unhurriedRun : List ConnectionEvent :=
  [.subscribe (.atl 1 false), .unsubscribe (.atl 1 false), .handle (some ([], 0)), .deliver,
    .subscribe (.atl 1 false), .handle none, .deliver, .handle (some ([], 0)), .deliver]

theorem agrees_with_framework_unhurried :
    Agree (final Connection.step (.new AGPS_TYPE_SUPL) unhurriedRun) :=
  (agrees_with_framework AGPS_TYPE_SUPL (by decide) (by decide)).1

def hurriedRun : List ConnectionEvent :=
  [.subscribe (.atl 1 false), .unsubscribe (.atl 1 false), .subscribe (.atl 2 false),
    .handle (some ([], 0)), .handle none, .handle (some ([], 0)), .deliver, .deliver, .deliver]

theorem hurried_client_disagrees :
    (∀ e ∈ hurriedRun, EventFromClients e) ∧
      ¬ Agree (final Connection.step (.new AGPS_TYPE_SUPL) hurriedRun) := by
  decide

end VibeXperia.Proof.Agps

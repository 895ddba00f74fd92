import VibeXperia.Proof.Gps.Thelper

namespace VibeXperia.Proof.Gps
open Lib VibeXperia.Gps

variable {s : Server} {e : ServerStep}

/-! ## The thread of the server is a thread helper -/

def within (s : Server) : ServerStep → List ThelperStep
  | .thelper e =>
      match e with
      | .callbackReturns _ => if s.thelper.worker = .proc then [] else [e]
      | .unblock => []
      | _ => [e]
  | .outOfMemory => if s.thelper.worker = .proc then [.callbackReturns (-1)] else []
  | .receiveFails => if s.thelper.worker = .proc then [.callbackReturns 0] else []
  | .receives => if s.thelper.worker = .proc ∧ s.pipe ≠ [] then [.callbackReturns 0] else []
  | .unblockThelper => [.unblock]
  | _ => []

theorem step_within :
    (s.step e).1.thelper = final (Thelper.step .server) s.thelper (within s e) ∧
      (s.step e).2 = outputs (Thelper.step .server) s.thelper (within s e) := by
  cases e with
  | thelper e =>
      cases e with
      | callbackReturns result =>
          simp only [Server.step, within]
          split <;> simp [outputs, react, Server.thelperStep]
      | _ => simp [Server.step, within, outputs, react, Server.thelperStep]
  | outOfMemory | receiveFails =>
      simp only [Server.step, Server.procReturns, within]
      split <;> simp [outputs, react, Server.thelperStep]
  | receives =>
      obtain ⟨⟨exit, ready, worker, launcher⟩, pipe, unblocker⟩ := s
      cases worker with
      | proc =>
        cases pipe with
        | _ => simp [Server.step, within, outputs, react, Server.procReturns, Server.thelperStep]
      | _ => simp [Server.step, within, outputs]
  | arrives type => exact ⟨rfl, rfl⟩
  | unblockThelper => simp [Server.step, within, outputs, react, Server.thelperStep]
  | unblockProc fails =>
      simp only [Server.step, within]
      split
      · split <;> simp [outputs]
      · simp [outputs]

theorem server_runs_thelper (es : List ServerStep) :
    ∃ fs, (final Server.step .initial es).thelper =
        final (Thelper.step .server) .initial fs ∧
      outputs Server.step .initial es = outputs (Thelper.step .server) .initial fs := by
  induction es using List.reverseRecOn with
  | nil => exact ⟨[], rfl, rfl⟩
  | append_singleton es e ih =>
      obtain ⟨fs, same, told⟩ := ih
      obtain ⟨after, tells⟩ := @step_within (final Server.step .initial es) e
      refine ⟨fs ++ within (final Server.step .initial es) e, ?_, ?_⟩
      · rw [final_append, final_append, ← same, ← after]
        rfl
      · rw [outputs_append, outputs_append, told, ← same, ← tells]
        simp [outputs, react]

theorem server_callbacks_in_order (es : List ServerStep) :
    Throughout (CalledInOrder .server) (outputs Server.step .initial es) := by
  obtain ⟨fs, -, same⟩ := server_runs_thelper es
  rw [same]
  exact callbacks_in_order .server fs

/-! ## Shutting down -/

structure Stopping (s : Server) : Prop where
  exiting : Exiting s.thelper
  there : 0 < s.thelper.worker.progress
  pipe : s.thelper.worker.progress ≤ Worker.proc.progress → s.pipe ≠ []

theorem step_pipe (filled : s.pipe ≠ []) : (s.step e).1.pipe ≠ [] ∨
    (s.step e).1.thelper.worker = .test := by
  obtain ⟨⟨exit, ready, worker, launcher⟩, pipe, unblocker⟩ := s
  cases e with
  | thelper e =>
      refine .inl ?_
      cases e with
      | callbackReturns result => simp only [Server.step]; split <;> exact filled
      | _ => exact filled
  | arrives type => exact .inl (by simp [Server.step])
  | outOfMemory | receiveFails =>
      refine .inl ?_
      simp only [Server.step, Server.procReturns]
      split <;> exact filled
  | receives =>
      cases worker with
      | proc =>
        cases pipe with
        | nil => exact absurd rfl filled
        | cons type pipe => exact .inr rfl
      | _ => exact .inl filled
  | unblockThelper => exact .inl filled
  | unblockProc fails =>
      refine .inl ?_
      simp only [Server.step]
      split
      · split
        · exact filled
        · simp
      · exact filled

theorem Stopping.step (stopping : Stopping s) : Stopping (s.step e).1 ∧
    s.thelper.worker.progress ≤ (s.step e).1.thelper.worker.progress := by
  have onward := stopping.exiting.run (c := .server) (within s e)
  rw [← step_within.1] at onward
  refine ⟨⟨onward.exiting, Nat.lt_of_lt_of_le stopping.there onward.progress, fun early => ?_⟩,
    onward.progress⟩
  rcases @step_pipe s e (stopping.pipe (Nat.le_trans onward.progress early)) with filled | test
  · exact filled
  · rw [test] at early
    exact absurd early (by decide)

def ownSteps : List ServerStep := [.thelper .runs, .thelper (.callbackReturns 0), .receives]

theorem Stopping.moves (stopping : Stopping s) (unfinished : s.thelper.worker ≠ .finished) :
    ∃ e ∈ ownSteps, s.thelper.worker.progress < (s.step e).1.thelper.worker.progress := by
  obtain ⟨⟨exit, ready, worker, launcher⟩, pipe, unblocker⟩ := s
  obtain rfl : exit = true := stopping.exiting.exit
  cases worker with
  | absent => exact absurd stopping.there (Nat.lt_irrefl 0)
  | finished => exact absurd rfl unfinished
  | init | pre | post => exact ⟨.thelper (.callbackReturns 0), by simp [ownSteps],
        by simp [Server.step, Server.thelperStep, Thelper.step, Thelper.callbackReturns,
          Worker.progress]⟩
  | proc =>
      cases pipe with
      | nil => exact absurd rfl (stopping.pipe (Nat.le_refl _))
      | cons type pipe => exact ⟨.receives, by simp [ownSteps], Nat.lt_succ_self _⟩
  | _ => exact ⟨.thelper .runs, by simp [ownSteps],
        by simp [Server.step, Server.thelperStep, Thelper.step, Thelper.runs, Callbacks.server,
          Worker.progress]⟩

theorem within_one (other : e ≠ .unblockThelper) :
    within s e = [] ∨ ∃ f, f ≠ .unblock ∧ within s e = [f] := by
  cases e with
  | thelper f =>
      cases f with
      | unblock => exact .inl rfl
      | callbackReturns result =>
          simp only [within]
          split
          · exact .inl rfl
          · exact .inr ⟨_, by simp, rfl⟩
      | _ => exact .inr ⟨_, by simp, rfl⟩
  | outOfMemory | receiveFails | receives =>
      simp only [within]
      split
      · exact .inr ⟨_, by simp, rfl⟩
      · exact .inl rfl
  | arrives type => exact .inl rfl
  | unblockProc fails => exact .inl rfl
  | unblockThelper => exact absurd rfl other

/-- Where `thread_exit` is set without an unblock, a callback has failed. -/
theorem step_exits {c : Callbacks} {s : Thelper} {f : ThelperStep} (other : f ≠ .unblock)
    (before : s.threadExit = false) (after : (s.step c f).1.threadExit = true) :
    Worker.proc.progress < (s.step c f).1.worker.progress := by
  obtain ⟨exit, ready, worker, launcher⟩ := s
  obtain rfl : exit = false := before
  cases f with
  | unblock => exact absurd rfl other
  | callbackReturns result =>
      cases worker with
      | init | pre | proc =>
          obtain negative : result < 0 := by
            simpa [Thelper.step, Thelper.callbackReturns] using after
          simp [Thelper.step, Thelper.callbackReturns, negative, Worker.progress]
      | _ => cases after
  | runs =>
      cases worker with
      | created | started | loop | leaves =>
          simp only [Thelper.step, Thelper.runs] at after
          split at after <;> cases after
      | _ => cases after
  | launch creates =>
      simp only [Thelper.step] at after
      split at after
      · split at after <;> cases after
      · cases after
  | locks => cases launcher <;> cases after
  | returns =>
      simp only [Thelper.step] at after
      split at after <;> cases after
  | wakes => cases after

theorem step_running {c : Callbacks} {s : Thelper} {f : ThelperStep} (unlaunched : Unlaunched s)
    (running : Worker.created.progress < s.worker.progress) :
    Worker.created.progress < (s.step c f).1.worker.progress := by
  obtain ⟨exit, ready, worker, launcher⟩ := s
  cases f with
  | launch creates =>
      simp only [Thelper.step]
      split
      · next idle =>
          obtain rfl : worker = .absent := unlaunched idle
          exact absurd running (by simp [Worker.progress])
      · exact running
  | locks => cases launcher <;> exact running
  | returns =>
      simp only [Thelper.step]
      split <;> exact running
  | runs =>
      cases worker with
      | absent | created => exact absurd running (by simp [Worker.progress])
      | started | loop | leaves =>
          simp only [Thelper.step, Thelper.runs]
          split <;> simp [Worker.progress]
      | test => cases exit <;> simp [Thelper.step, Thelper.runs, Worker.progress]
      | _ => simp [Thelper.step, Thelper.runs, Worker.progress]
  | callbackReturns result =>
      cases worker with
      | init | pre =>
          simp only [Thelper.step, Thelper.callbackReturns]
          split <;> simp [Worker.progress]
      | proc | post => simp [Thelper.step, Thelper.callbackReturns, Worker.progress]
      | _ => exact running
  | wakes => exact running
  | unblock => exact running

structure Draining (s : Server) : Prop where
  unlaunched : Unlaunched s.thelper
  running : s.unblocker = .sent → Worker.created.progress < s.thelper.worker.progress
  pipe : s.unblocker = .sent → s.thelper.threadExit = true →
    s.thelper.worker.progress ≤ Worker.proc.progress → s.pipe ≠ []

theorem Draining.stopping (draining : Draining s) (sent : s.unblocker = .sent)
    (exit : s.thelper.threadExit = true) : Stopping s where
  exiting := by
    refine ⟨exit, fun idle => ?_⟩
    have running := draining.running sent
    rw [draining.unlaunched idle] at running
    exact absurd running (by decide)
  there := Nat.lt_of_le_of_lt (Nat.zero_le _) (draining.running sent)
  pipe := draining.pipe sent exit

theorem within_unlaunched (unlaunched : Unlaunched s.thelper) :
    Unlaunched (s.step e).1.thelper := by
  rw [step_within.1]
  exact (@invariant Thelper ThelperStep ThelperEffect (Thelper.step .server) Unlaunched
    (fun _ _ => step_unlaunched) s.thelper unlaunched (within s e)).1

theorem Draining.other (draining : Draining s) (first : e ≠ .unblockThelper)
    (same : (s.step e).1.unblocker = s.unblocker) : Draining (s.step e).1 := by
  have unlaunched := @within_unlaunched s e draining.unlaunched
  refine ⟨unlaunched, fun sent => ?_, fun sent exit early => ?_⟩
  · have before := draining.running (same ▸ sent)
    rw [step_within.1]
    rcases @within_one s e first with none | ⟨f, -, one⟩
    · rwa [none]
    · rw [one]
      exact step_running draining.unlaunched before
  · cases before : s.thelper.threadExit with
    | true => exact (draining.stopping (same ▸ sent) before).step.1.pipe early
    | false =>
        rw [step_within.1] at exit early
        rcases @within_one s e first with none | ⟨f, other, one⟩
        · rw [none, final_nil, before] at exit
          cases exit
        · rw [one] at exit early
          exact absurd early (Nat.not_le_of_lt (step_exits other before exit))

theorem Draining.step (draining : Draining s) : Draining (s.step e).1 := by
  cases e with
  | unblockThelper =>
      exact ⟨within_unlaunched draining.unlaunched, fun sent => (by cases sent),
        fun sent => (by cases sent)⟩
  | unblockProc fails =>
      simp only [Server.step]
      split
      · split
        · exact ⟨draining.unlaunched, by simp, by simp⟩
        · next there =>
            refine ⟨draining.unlaunched, fun _ => ?_, by simp⟩
            obtain ⟨⟨exit, ready, worker, launcher⟩, pipe, unblocker⟩ := s
            cases worker with
            | absent | created => simp at there
            | _ => simp [Worker.progress]
      · exact draining
  | thelper f =>
      refine draining.other (by simp) ?_
      cases f with
      | callbackReturns result => simp only [Server.step]; split <;> rfl
      | _ => rfl
  | arrives type => exact draining.other (by simp) rfl
  | outOfMemory | receiveFails =>
      refine draining.other (by simp) ?_
      simp only [Server.step, Server.procReturns]
      split <;> rfl
  | receives =>
      refine draining.other (by simp) ?_
      obtain ⟨⟨exit, ready, worker, launcher⟩, pipe, unblocker⟩ := s
      cases worker with
      | proc => cases pipe <;> rfl
      | _ => rfl

/-- Once `unblock` has set `thread_exit` and sent its message, `join` comes to an end: whatever else
arrives or fails, the thread never goes back, it never waits at an empty pipe, and until it has
finished the next of its own steps takes it further. -/
theorem server_shuts_down (es fs : List ServerStep)
    (sent : (final Server.step .initial es).unblocker = .sent)
    (exit : (final Server.step .initial es).thelper.threadExit = true) :
    let s := final Server.step .initial es
    let t := final Server.step s fs
    s.thelper.worker.progress ≤ t.thelper.worker.progress ∧
      (t.thelper.worker = .proc → t.pipe ≠ []) ∧
      (t.thelper.worker = .finished ∨
        ∃ e ∈ ownSteps, t.thelper.worker.progress < (t.step e).1.thelper.worker.progress) := by
  intro s t
  have draining : Draining s := by
    refine (@invariant Server ServerStep ThelperEffect Server.step Draining
      (fun _ _ => Draining.step) .initial ?_ es).1
    exact ⟨fun _ => rfl, fun sent => (by cases sent), fun sent => (by cases sent)⟩
  have kept : Stopping t ∧ s.thelper.worker.progress ≤ t.thelper.worker.progress :=
    (@invariant Server ServerStep ThelperEffect Server.step
      (fun t => Stopping t ∧ s.thelper.worker.progress ≤ t.thelper.worker.progress)
      (fun t e kept => ⟨kept.1.step.1, Nat.le_trans kept.2 kept.1.step.2⟩) s
      ⟨draining.stopping sent exit, Nat.le_refl _⟩ fs).1
  obtain ⟨stopping, further⟩ := kept
  refine ⟨further, fun proc => stopping.pipe (proc ▸ Nat.le_refl _), ?_⟩
  by_cases finished : t.thelper.worker = .finished
  · exact .inl finished
  · exact .inr (stopping.moves finished)

theorem server_shuts_down_unblocked :
    let s := final Server.step .initial
      [.thelper (.launch true), .thelper .runs, .thelper (.callbackReturns 0), .thelper .runs,
        .thelper .runs, .thelper (.callbackReturns 0), .thelper .runs, .unblockThelper,
        .unblockProc false]
    let t := final Server.step s [.arrives .ifRequest, .receives]
    s.thelper.worker.progress ≤ t.thelper.worker.progress ∧
      (t.thelper.worker = .proc → t.pipe ≠ []) ∧
      (t.thelper.worker = .finished ∨
        ∃ e ∈ ownSteps, t.thelper.worker.progress < (t.step e).1.thelper.worker.progress) :=
  server_shuts_down _ _ (by decide) (by decide)

end VibeXperia.Proof.Gps

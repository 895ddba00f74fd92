import VibeXperia.Gps.Thelper

namespace VibeXperia.Proof.Gps
open Lib VibeXperia.Gps

variable {c : Callbacks} {s : Thelper} {outs : List ThelperEffect} {e : ThelperStep}

/-! ## What a step does -/

def ahead (s : Thelper) : List Callback :=
  match s.worker with
  | .absent | .created => [.init, .pre, .proc, .post]
  | .init | .ready | .started => [.pre, .proc, .post]
  | .pre | .loop | .proc => [.proc, .post]
  | .test => if s.threadExit then [.post] else [.proc, .post]
  | .leaves => [.post]
  | .failing | .post | .finished => []

def running : Worker → Option Callback
  | .init => some .init
  | .pre => some .pre
  | .proc => some .proc
  | .post => some .post
  | _ => none

inductive Tells (c : Callbacks) (s s' : Thelper) : List ThelperEffect → Prop
  | quiet (same : running s'.worker = running s.worker) : Tells c s s' []
  | answers (result) (reason : result = -1 ∨
      s.launcher = .leaves ∧ result = if s.threadExit then 1 else 0)
      (same : running s'.worker = running s.worker) : Tells c s s' [.launchReturns result]
  | calls (callback) (has : c.has callback) (next : callback ∈ ahead s)
      (idle : running s.worker = none) (starts : running s'.worker = some callback) :
      Tells c s s' [.calls callback]
  | returns (callback result) (runs : running s.worker = some callback)
      (ends : running s'.worker = none)
      (follow : ∀ later ∈ ahead s', later.mayFollow callback result) :
      Tells c s s' [.callbackReturned callback result]

theorem runs_tells : Tells c s (s.runs c).1 (s.runs c).2 ∧ ahead (s.runs c).1 ⊆ ahead s := by
  obtain ⟨exit, ready, worker, launcher⟩ := s
  cases worker with
  | created | started | loop | leaves =>
      simp only [Thelper.runs]
      split
      · next has => exact ⟨.calls _ has (by simp [ahead]) rfl rfl, by simp [ahead]⟩
      · exact ⟨.quiet rfl, by cases exit <;> simp [ahead]⟩
  | test =>
      cases exit with
      | _ => exact ⟨.quiet rfl, by simp [ahead, Thelper.runs]⟩
  | _ => exact ⟨.quiet rfl, by simp [ahead, Thelper.runs]⟩

theorem callbackReturns_tells {result : Int} :
    Tells c s (s.callbackReturns result).1 (s.callbackReturns result).2 ∧
      ahead (s.callbackReturns result).1 ⊆ ahead s := by
  obtain ⟨exit, ready, worker, launcher⟩ := s
  by_cases negative : result < 0
  · cases worker with
    | init | pre | proc | post =>
        simp only [Thelper.callbackReturns, negative, if_true]
        exact ⟨.returns _ _ rfl rfl (by simp [ahead, Callback.mayFollow, Callback.rank]),
          by simp [ahead]⟩
    | _ => exact ⟨.quiet rfl, fun _ member => member⟩
  · cases worker with
    | init | pre | proc | post =>
        simp only [Thelper.callbackReturns, negative, if_false]
        refine ⟨.returns _ _ rfl rfl ?_, by cases exit <;> simp [ahead]⟩
        cases exit <;> simp [ahead, Callback.mayFollow, Callback.rank, negative]
    | _ => exact ⟨.quiet rfl, fun _ member => member⟩

def Unlaunched (s : Thelper) : Prop := s.launcher = .idle → s.worker = .absent

theorem step_tells (unlaunched : Unlaunched s) :
    Tells c s (s.step c e).1 (s.step c e).2 ∧ ahead (s.step c e).1 ⊆ ahead s := by
  obtain ⟨exit, ready, worker, launcher⟩ := s
  cases e with
  | launch creates =>
      simp only [Thelper.step]
      split
      · next idle =>
          obtain rfl := unlaunched idle
          cases creates with
          | true => exact ⟨.quiet rfl, by simp [ahead]⟩
          | false => exact ⟨.answers _ (.inl rfl) rfl, by simp [ahead]⟩
      · exact ⟨.quiet rfl, fun _ member => member⟩
  | locks =>
      cases launcher with
      | _ => exact ⟨.quiet rfl, fun _ member => member⟩
  | wakes => exact ⟨.quiet rfl, fun _ member => member⟩
  | returns =>
      simp only [Thelper.step]
      split
      · next leaves => exact ⟨.answers _ (.inr ⟨leaves, rfl⟩) rfl, fun _ member => member⟩
      · exact ⟨.quiet rfl, fun _ member => member⟩
  | runs => exact runs_tells
  | callbackReturns result => exact callbackReturns_tells
  | unblock =>
      refine ⟨.quiet rfl, ?_⟩
      cases worker with
      | test => cases exit with
        | _ => simp [ahead, Thelper.step]
      | _ => exact fun _ member => member

theorem runs_launcher : (s.runs c).1.launcher = .idle ↔ s.launcher = .idle := by
  obtain ⟨exit, ready, worker, launcher⟩ := s
  cases worker with
  | created | started | loop | leaves => simp only [Thelper.runs]; split <;> rfl
  | failing | ready => cases launcher <;> simp [Thelper.runs, Thelper.signalReady]
  | _ => rfl

theorem callbackReturns_launcher {result : Int} :
    (s.callbackReturns result).1.launcher = s.launcher := by
  obtain ⟨exit, ready, worker, launcher⟩ := s
  cases worker <;> rfl

theorem step_unlaunched (unlaunched : Unlaunched s) : Unlaunched (s.step c e).1 := by
  obtain ⟨exit, ready, worker, launcher⟩ := s
  cases launcher with
  | idle =>
      obtain rfl : worker = .absent := unlaunched rfl
      cases e with
      | launch creates => cases creates <;> simp [Unlaunched, Thelper.step]
      | _ => simp [Unlaunched, Thelper.step, Thelper.runs, Thelper.callbackReturns]
  | _ =>
      refine fun idle => absurd idle ?_
      cases e with
      | runs => exact fun idle => by cases runs_launcher.mp idle
      | callbackReturns result =>
          intro idle
          rw [Thelper.step, callbackReturns_launcher] at idle
          cases idle
      | _ => simp [Thelper.step] <;> split <;> simp

/-! ## The callbacks of a run -/

/-- What has been told so far, and what is still to come. -/
structure CallsTold (outs : List ThelperEffect) (s : Thelper) : Prop where
  unlaunched : Unlaunched s
  balance : outs.countP ThelperEffect.isCall =
    outs.countP ThelperEffect.isReturn + if (running s.worker).isSome then 1 else 0
  follow : ∀ earlier result, .callbackReturned earlier result ∈ outs →
    ∀ later ∈ ahead s, later.mayFollow earlier result

def CalledInOrder (c : Callbacks) (before : List ThelperEffect) (effect : ThelperEffect) : Prop :=
  ∀ later, effect = .calls later → c.has later ∧
    before.countP ThelperEffect.isCall = before.countP ThelperEffect.isReturn ∧
    ∀ earlier result, .callbackReturned earlier result ∈ before → later.mayFollow earlier result

theorem CallsTold.step (told : CallsTold outs s) :
    CallsTold (outs ++ (s.step c e).2) (s.step c e).1 := by
  obtain ⟨tells, shrinks⟩ := @step_tells c s e told.unlaunched
  generalize next : s.step c e = after at tells shrinks
  obtain ⟨s', effects⟩ := after
  have unlaunched : Unlaunched s' := by
    have kept := @step_unlaunched c s e told.unlaunched
    rwa [next] at kept
  have earlier : ∀ earlier result, .callbackReturned earlier result ∈ outs →
      ∀ later ∈ ahead s', later.mayFollow earlier result :=
    fun earlier result member later still => told.follow earlier result member later (shrinks still)
  cases tells with
  | quiet same => exact ⟨unlaunched, by simpa [same] using told.balance, by simpa using earlier⟩
  | answers result _ same =>
      refine ⟨unlaunched, ?_, by simpa using earlier⟩
      simpa [same, ThelperEffect.isCall, ThelperEffect.isReturn] using told.balance
  | calls callback _ _ idle starts =>
      refine ⟨unlaunched, ?_, by simpa using earlier⟩
      simpa [idle, starts, ThelperEffect.isCall, ThelperEffect.isReturn] using told.balance
  | returns callback result runs ends follow =>
      refine ⟨unlaunched, ?_, fun earlier' result' member => ?_⟩
      · simpa [runs, ends, ThelperEffect.isCall, ThelperEffect.isReturn] using told.balance
      · rcases List.mem_append.mp member with member | member
        · exact earlier earlier' result' member
        · obtain ⟨rfl, rfl⟩ : earlier' = callback ∧ result' = result := by simpa using member
          exact follow

theorem calledInOrder_step (told : CallsTold outs s) (order : Throughout (CalledInOrder c) outs) :
    Throughout (CalledInOrder c) (outs ++ (s.step c e).2) := by
  obtain ⟨tells, -⟩ := @step_tells c s e told.unlaunched
  generalize s.step c e = after at tells
  obtain ⟨s', effects⟩ := after
  cases tells with
  | quiet => simpa using order
  | answers => exact order.snoc fun later call => by cases call
  | returns => exact order.snoc fun later call => by cases call
  | calls callback has next idle =>
      apply order.snoc
      intro later call
      cases call
      exact ⟨has, by simpa [idle] using told.balance,
        fun earlier result member => told.follow earlier result member _ next⟩

theorem callsTold_initial : CallsTold [] .initial := ⟨fun _ => rfl, rfl, by simp⟩

/-- However the two threads are scheduled, whatever the callbacks return and whenever the helper is
unblocked: one callback runs at a time, and they are called in the order `init`, `pre`, `proc` as
often as need be, `post`, where after a failure only `post` may come, and only if it was `proc` that
failed. -/
theorem callbacks_in_order (c : Callbacks) (es : List ThelperStep) :
    Throughout (CalledInOrder c) (outputs (Thelper.step c) .initial es) := by
  refine (@outputs_invariant Thelper ThelperStep ThelperEffect (Thelper.step c)
    (fun outs s => CallsTold outs s ∧ Throughout (CalledInOrder c) outs) (fun _ _ => True)
    (fun outs s e kept _ => ⟨kept.1.step, calledInOrder_step kept.1 kept.2⟩) .initial es
    ⟨callsTold_initial, throughout_nil⟩ fun _ _ => trivial).2

/-! ## The way out -/

def callsLeft (worker : Worker) : Nat := if worker.progress < Worker.proc.progress then 1 else 0

structure Exiting (s : Thelper) : Prop where
  exit : s.threadExit
  launched : s.launcher ≠ .idle

structure Onward (s s' : Thelper) (effects : List ThelperEffect) : Prop where
  exiting : Exiting s'
  progress : s.worker.progress ≤ s'.worker.progress
  calls : effects.count (.calls .proc) + callsLeft s'.worker ≤ callsLeft s.worker

theorem Exiting.launcher (exiting : Exiting s) {launcher : Launcher} (launched : launcher ≠ .idle)
    (none : outs.count (.calls .proc) = 0) : Onward s { s with launcher := launcher } outs :=
  ⟨⟨exiting.exit, launched⟩, Nat.le_refl _, by simp [none]⟩

theorem Exiting.stays (exiting : Exiting s) : Onward s s [] := exiting.launcher exiting.launched rfl

theorem Exiting.runs (exiting : Exiting s) : Onward s (s.runs c).1 (s.runs c).2 := by
  obtain ⟨exit, ready, worker, launcher⟩ := s
  obtain rfl : exit = true := exiting.exit
  have launched : (Thelper.runs c ⟨true, ready, worker, launcher⟩).1.launcher ≠ .idle :=
    fun idle => exiting.launched (runs_launcher.mp idle)
  cases worker with
  | created | started | loop | leaves =>
      simp only [Thelper.runs] at launched ⊢
      split
      · exact ⟨⟨rfl, exiting.launched⟩, by simp [Worker.progress],
          by simp [callsLeft, Worker.progress]⟩
      · exact ⟨⟨rfl, exiting.launched⟩, by simp [Worker.progress],
          by simp [callsLeft, Worker.progress]⟩
  | failing | ready | test =>
      exact ⟨⟨rfl, launched⟩, by simp [Thelper.runs, Worker.progress],
        by simp [Thelper.runs, callsLeft, Worker.progress]⟩
  | _ => exact exiting.stays

theorem Exiting.callbackReturns {result : Int} (exiting : Exiting s) :
    Onward s (s.callbackReturns result).1 (s.callbackReturns result).2 := by
  obtain ⟨exit, ready, worker, launcher⟩ := s
  obtain rfl : exit = true := exiting.exit
  cases worker with
  | init | pre =>
      simp only [Thelper.callbackReturns]
      split
      · exact ⟨⟨rfl, exiting.launched⟩, by simp [Worker.progress],
          by simp [callsLeft, Worker.progress]⟩
      · exact ⟨⟨rfl, exiting.launched⟩, by simp [Worker.progress],
          by simp [callsLeft, Worker.progress]⟩
  | proc | post =>
      exact ⟨⟨rfl, exiting.launched⟩, by simp [Thelper.callbackReturns, Worker.progress],
        by simp [Thelper.callbackReturns, callsLeft, Worker.progress]⟩
  | _ => exact exiting.stays

theorem Exiting.step (exiting : Exiting s) : Onward s (s.step c e).1 (s.step c e).2 := by
  cases e with
  | launch creates =>
      simp only [Thelper.step, exiting.launched, if_false]
      exact exiting.stays
  | locks =>
      simp only [Thelper.step]
      split
      · exact exiting.launcher (by split <;> simp) rfl
      · exact exiting.launcher (by simp) rfl
      · exact exiting.stays
  | wakes =>
      refine exiting.launcher ?_ rfl
      split
      · simp
      · exact exiting.launched
  | returns =>
      simp only [Thelper.step]
      split
      · exact exiting.launcher (by simp) (by simp)
      · exact exiting.stays
  | runs => exact exiting.runs
  | callbackReturns result => exact exiting.callbackReturns
  | unblock => exact ⟨⟨rfl, exiting.launched⟩, Nat.le_refl _, by simp [Thelper.step]⟩

theorem Exiting.run (exiting : Exiting s) (es : List ThelperStep) :
    Onward s (final (Thelper.step c) s es) (outputs (Thelper.step c) s es) := by
  refine @outputs_invariant Thelper ThelperStep ThelperEffect (Thelper.step c)
    (fun outs t => Onward s t outs) (fun _ _ => True) (fun outs t e so _ => ?_) s es
    ⟨exiting, Nat.le_refl _, by simp⟩ fun _ _ => trivial
  have now := @Exiting.step c t e so.exiting
  refine ⟨now.exiting, Nat.le_trans so.progress now.progress, ?_⟩
  rw [List.count_append]
  have calls := now.calls
  have before := so.calls
  omega

/-- Once a launched helper is unblocked, `thread_proc` is called at most once more. -/
theorem unblocked_thelper_leaves (c : Callbacks) (es fs : List ThelperStep)
    (launched : (final (Thelper.step c) .initial es).launcher ≠ .idle) :
    (outputs (Thelper.step c) (final (Thelper.step c) .initial (es ++ [.unblock])) fs).count
      (.calls .proc) ≤ 1 := by
  rw [final_append]
  have exiting : Exiting (final (Thelper.step c) (final (Thelper.step c) .initial es) [.unblock]) :=
    ⟨rfl, launched⟩
  have bound := (exiting.run (c := c) fs).calls
  have most (worker : Worker) : callsLeft worker ≤ 1 := by cases worker <;> decide
  calc _ ≤ _ := Nat.le_add_right _ _
    _ ≤ _ := bound
    _ ≤ 1 := most _

theorem unblocked_thelper_leaves_loop :
    (outputs (Thelper.step .server)
      (final (Thelper.step .server) .initial ([.launch true] ++ [.unblock]))
      [.runs, .callbackReturns 0, .runs, .runs, .callbackReturns 0, .runs, .callbackReturns 0,
        .runs, .runs]).count (.calls .proc) ≤ 1 :=
  unblocked_thelper_leaves .server [.launch true] _ (by decide)

/-! ## The answer of `launch` -/

def Initialised (c : Callbacks) (before : List ThelperEffect) : Prop :=
  c.threadProcInit = false ∨ ∃ result, 0 ≤ result ∧ .callbackReturned .init result ∈ before

def Failed (before : List ThelperEffect) : Prop :=
  ∃ callback result, callback ≠ .post ∧ result < 0 ∧ .callbackReturned callback result ∈ before

def Unsignalled (worker : Worker) : Prop := worker ∈ [.created, .init, .failing, .ready]

/-- `quiet` is that `pthread_cond_wait` returns only when signalled, `unblocked` that the helper is
unblocked at all. -/
structure Handshake (quiet unblocked : Prop) (c : Callbacks) (outs : List ThelperEffect)
    (s : Thelper) : Prop where
  present : s.launcher = .created ∨ s.launcher = .waiting → s.worker ≠ .absent
  signalled : s.threadReady = false → s.worker = .absent ∨ Unsignalled s.worker
  waits : s.launcher = .waiting → s.threadReady = false
  woken : quiet → s.launcher = .woken ∨ s.launcher = .leaves →
    s.threadReady = true ∨ s.threadExit = true
  unready : s.threadReady = true → s.worker = .absent ∨ Unsignalled s.worker → False
  initialised : s.threadExit = false →
    s.worker ∈ [.absent, .created, .init] ∨ Initialised c outs
  blame : s.threadExit = true → unblocked ∨ Failed outs
  failing : s.worker = .failing → s.threadExit = true

def Justified (quiet unblocked : Prop) (c : Callbacks) (before : List ThelperEffect)
    (effect : ThelperEffect) : Prop :=
  (effect = .launchReturns 0 → quiet → Initialised c before) ∧
    (effect = .launchReturns 1 → unblocked ∨ Failed before)

variable {quiet unblocked : Prop} {before more : List ThelperEffect} {effect : ThelperEffect}

theorem Justified.of_ne (zero : effect ≠ .launchReturns 0) (one : effect ≠ .launchReturns 1) :
    Justified quiet unblocked c before effect :=
  ⟨fun same => absurd same zero, fun same => absurd same one⟩

theorem Initialised.append (so : Initialised c before) : Initialised c (before ++ more) := by
  rcases so with null | ⟨result, positive, member⟩
  · exact .inl null
  · exact .inr ⟨result, positive, List.mem_append_left _ member⟩

theorem Failed.append (so : Failed before) : Failed (before ++ more) := by
  obtain ⟨callback, result, other, negative, member⟩ := so
  exact ⟨callback, result, other, negative, List.mem_append_left _ member⟩

theorem Handshake.moves {worker : Worker} {exit : Bool} (kept : Handshake quiet unblocked c outs s)
    (side : Unsignalled worker ↔ Unsignalled s.worker)
    (there : s.worker ≠ .absent ∧ worker ≠ .absent)
    (initialised : exit = false → s.worker ∈ [.absent, .created, .init] →
      worker ∈ [.absent, .created, .init] ∨ Initialised c (outs ++ more))
    (longer : s.threadExit = true → exit = true)
    (blame : exit = true → unblocked ∨ Failed (outs ++ more))
    (failing : worker = .failing → exit = true) :
    Handshake quiet unblocked c (outs ++ more)
      { s with worker := worker, threadExit := exit } where
  present _ := there.2
  signalled unready := .inr (side.mpr ((kept.signalled unready).resolve_left there.1))
  waits := kept.waits
  woken quiet leaves := (kept.woken quiet leaves).imp_right longer
  unready ready before := kept.unready ready (.inr (side.mp (before.resolve_left there.2)))
  initialised running := by
    have before : s.threadExit = false := by
      cases now : s.threadExit with
      | false => rfl
      | true => rw [longer now] at running; cases running
    rcases kept.initialised before with early | so
    · exact initialised running early
    · exact .inr so.append
  blame := blame
  failing := failing

theorem Handshake.signals (kept : Handshake quiet unblocked c outs s)
    (before : s.worker = .failing ∨ s.worker = .ready) :
    Handshake quiet unblocked c outs { s.signalReady with
      worker := if s.worker = .failing then .finished else .started } where
  present _ := by split <;> simp
  signalled := by simp [Thelper.signalReady]
  waits waiting := by
    simp only [Thelper.signalReady] at waiting
    split at waiting
    · cases waiting
    · next other => exact absurd waiting other
  woken _ _ := .inl rfl
  unready _ before := by split at before <;> simp [Unsignalled] at before
  initialised running := by
    rcases before with failing | ready
    · rw [Thelper.signalReady, kept.failing failing] at running
      cases running
    · exact .inr ((kept.initialised running).resolve_left (by simp [ready]))
  blame := kept.blame
  failing is := by split at is <;> cases is

theorem Handshake.runs (kept : Handshake quiet unblocked c outs s) :
    Handshake quiet unblocked c (outs ++ (s.runs c).2) (s.runs c).1 := by
  obtain ⟨exit, ready, worker, launcher⟩ := s
  have blame (more : List ThelperEffect) (so : exit = true) : unblocked ∨ Failed (outs ++ more) :=
    (kept.blame so).imp id Failed.append
  cases worker with
  | created =>
      simp only [Thelper.runs]
      split
      · exact kept.moves (by simp [Unsignalled]) (by simp) (by simp) id (blame _) (by simp)
      · next null =>
          exact kept.moves (by simp [Unsignalled]) (by simp)
            (fun _ _ => .inr (.inl (by simpa using null))) id (blame _) (by simp)
  | started | loop | leaves =>
      simp only [Thelper.runs]
      split
      · exact kept.moves (by simp [Unsignalled]) (by simp) (by simp) id (blame _) (by simp)
      · exact kept.moves (by simp [Unsignalled]) (by simp) (by simp) id (blame _) (by simp)
  | test =>
      cases exit with
      | _ =>
        exact kept.moves (by simp [Unsignalled]) (by simp) (by simp) id (blame _) (by simp)
  | failing => simpa [Thelper.runs] using kept.signals (.inl rfl)
  | ready => simpa [Thelper.runs] using kept.signals (.inr rfl)
  | _ => simpa [Thelper.runs] using kept

theorem Handshake.callbackReturns {result : Int} (kept : Handshake quiet unblocked c outs s) :
    Handshake quiet unblocked c (outs ++ (s.callbackReturns result).2)
      (s.callbackReturns result).1 := by
  obtain ⟨exit, ready, worker, launcher⟩ := s
  have longer (so : exit = true) : (exit || decide (result < 0)) = true := by simp [so]
  have blame {callback : Callback} (other : callback ≠ .post)
      (so : (exit || decide (result < 0)) = true) :
      unblocked ∨ Failed (outs ++ [.callbackReturned callback result]) := by
    rcases Bool.or_eq_true_iff.mp so with before | negative
    · exact (kept.blame before).imp id Failed.append
    · exact .inr ⟨callback, result, other, of_decide_eq_true negative, by simp⟩
  cases worker with
  | init =>
      refine kept.moves ?_ ?_ ?_ longer (blame (by simp)) ?_
      · split <;> simp [Unsignalled]
      · split <;> simp
      · intro so _
        have positive : 0 ≤ result := by simpa using (Bool.or_eq_false_iff.mp so).2
        refine .inr (.inr ⟨result, positive, List.mem_append_right _ ?_⟩)
        simp [Thelper.callbackReturns]
      · split <;> simp_all
  | pre =>
      refine kept.moves ?_ ?_ (by simp) longer (blame (by simp)) ?_
      · split <;> simp [Unsignalled]
      · split <;> simp
      · split <;> simp
  | proc =>
      exact kept.moves (by simp [Unsignalled]) (by simp) (by simp) longer (blame (by simp))
        (by simp)
  | post =>
      exact kept.moves (by simp [Unsignalled]) (by simp) (by simp) id
        (fun so => (kept.blame so).imp id Failed.append) (by simp)
  | _ => simpa [Thelper.callbackReturns] using kept

theorem Handshake.launcher {launcher : Launcher} (kept : Handshake quiet unblocked c outs s)
    (present : launcher ≠ .created)
    (waits : launcher = .waiting → s.worker ≠ .absent ∧ s.threadReady = false)
    (woken : quiet → launcher = .woken ∨ launcher = .leaves →
      s.threadReady = true ∨ s.threadExit = true) :
    Handshake quiet unblocked c outs { s with launcher := launcher } where
  present before := (waits (before.resolve_left present)).1
  signalled := kept.signalled
  waits waiting := (waits waiting).2
  woken := woken
  unready := kept.unready
  initialised := kept.initialised
  blame := kept.blame
  failing := kept.failing

theorem Handshake.locks (kept : Handshake quiet unblocked c outs s) :
    Handshake quiet unblocked c (outs ++ (s.step c .locks).2) (s.step c .locks).1 := by
  cases at_ : s.launcher with
  | created =>
      simp only [Thelper.step, at_, List.append_nil]
      split
      · next answered => exact kept.launcher (by simp) (by simp) fun _ _ => by simpa using answered
      · next unanswered =>
          have unready := (Bool.or_eq_false_iff.mp (eq_false_of_ne_true unanswered)).1
          exact kept.launcher (by simp) (fun _ => ⟨kept.present (.inl at_), unready⟩) (by simp)
  | woken =>
      simp only [Thelper.step, at_, List.append_nil]
      exact kept.launcher (by simp) (by simp) fun quiet _ => kept.woken quiet (.inl at_)
  | _ => simpa [Thelper.step, at_] using kept

theorem Handshake.append (kept : Handshake quiet unblocked c outs s) :
    Handshake quiet unblocked c (outs ++ more) s :=
  { kept with
    initialised := fun running => (kept.initialised running).imp_right Initialised.append
    blame := fun exit => (kept.blame exit).imp_right Failed.append }

theorem Handshake.step (kept : Handshake quiet unblocked c outs s)
    (calm : quiet → e ≠ .wakes) (asked : e = .unblock → unblocked) :
    Handshake quiet unblocked c (outs ++ (s.step c e).2) (s.step c e).1 := by
  cases e with
  | launch creates =>
      simp only [Thelper.step]
      split
      · cases creates with
        | _ => constructor <;> simp [Unsignalled]
      · simpa using kept
  | locks => exact kept.locks
  | wakes =>
      have noisy : ¬quiet := fun quiet => calm quiet rfl
      simp only [Thelper.step, List.append_nil]
      split
      · exact kept.launcher (by simp) (by simp) fun quiet => absurd quiet noisy
      · exact kept
  | returns =>
      simp only [Thelper.step]
      split
      · exact (kept.launcher (by simp) (by simp) (by simp)).append
      · simpa using kept
  | runs => exact kept.runs
  | callbackReturns result => exact kept.callbackReturns
  | unblock =>
      simp only [Thelper.step, List.append_nil]
      exact { kept with
        woken := fun _ _ => .inr rfl
        initialised := fun running => by cases running
        blame := fun _ => .inl (asked rfl)
        failing := fun _ => rfl }

theorem justified_step (unlaunched : Unlaunched s) (kept : Handshake quiet unblocked c outs s)
    (order : Throughout (Justified quiet unblocked c) outs) :
    Throughout (Justified quiet unblocked c) (outs ++ (s.step c e).2) := by
  obtain ⟨tells, -⟩ := @step_tells c s e unlaunched
  generalize s.step c e = after at tells
  obtain ⟨s', effects⟩ := after
  cases tells with
  | quiet => simpa using order
  | calls => exact order.snoc (.of_ne (by simp) (by simp))
  | returns => exact order.snoc (.of_ne (by simp) (by simp))
  | answers result reason =>
      rcases reason with rfl | ⟨leaves, rfl⟩
      · exact order.snoc (.of_ne (by simp) (by simp))
      cases exit : s.threadExit with
      | true =>
          simp only [if_true]
          exact order.snoc ⟨fun zero => by simp at zero, fun _ => kept.blame exit⟩
      | false =>
          refine order.snoc ⟨fun _ quiet => ?_, fun one => by simp at one⟩
          have ready := (kept.woken quiet (.inr leaves)).resolve_right (by simp [exit])
          refine (kept.initialised exit).resolve_left fun early => kept.unready ready ?_
          simp only [List.mem_cons, List.not_mem_nil, or_false] at early
          rcases early with absent | created | init
          · exact .inl absent
          · simp [created, Unsignalled]
          · simp [init, Unsignalled]

theorem launch_kept (c : Callbacks) (es : List ThelperStep) :
    Unlaunched (final (Thelper.step c) .initial es) ∧
      Handshake (.wakes ∉ es) (.unblock ∈ es) c (outputs (Thelper.step c) .initial es)
        (final (Thelper.step c) .initial es) ∧
      Throughout (Justified (.wakes ∉ es) (.unblock ∈ es) c)
        (outputs (Thelper.step c) .initial es) := by
  refine @outputs_invariant Thelper ThelperStep ThelperEffect (Thelper.step c)
    (fun outs s => Unlaunched s ∧ Handshake (.wakes ∉ es) (.unblock ∈ es) c outs s ∧
      Throughout (Justified (.wakes ∉ es) (.unblock ∈ es) c) outs)
    (fun _ e => e ∈ es) (fun outs s e kept member => ?_) .initial es
    ⟨fun _ => rfl, ?_, throughout_nil⟩ fun t member => event_mem_of_mem member
  · obtain ⟨unlaunched, kept, order⟩ := kept
    exact ⟨step_unlaunched unlaunched,
      kept.step (fun quiet wakes => quiet (wakes ▸ member)) fun asked => asked ▸ member,
      justified_step unlaunched kept order⟩
  · constructor <;> simp [Thelper.initial]

/-- `launch` answers with 0 only when `thread_proc_init` has returned and not failed, unless
`pthread_cond_wait` returned on its own. It answers with 1 only when a callback failed or the helper
is unblocked. As long as it waits, the thread is still to signal. -/
theorem launch_answers (c : Callbacks) (es : List ThelperStep) :
    Throughout (Justified (.wakes ∉ es) (.unblock ∈ es) c)
      (outputs (Thelper.step c) .initial es) ∧
      ((final (Thelper.step c) .initial es).launcher = .waiting →
        Unsignalled (final (Thelper.step c) .initial es).worker) := by
  obtain ⟨-, kept, order⟩ := launch_kept c es
  refine ⟨order, fun waiting => ?_⟩
  exact (kept.signalled (kept.waits waiting)).resolve_left (kept.present (.inr waiting))

end VibeXperia.Proof.Gps

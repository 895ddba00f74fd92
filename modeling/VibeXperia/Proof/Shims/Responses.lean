import VibeXperia.Proof.Shims.Wakeups

namespace VibeXperia.Proof.Shims
open Lib VibeXperia.Shims

variable {p : Platform} {s s' : LooperSystem} {e : LooperStep} {effects : List LooperEffect}
variable {timeoutMillis result fd : Int} {responses : List Response} {response : Response} {i : Nat}

/-! ## Responses that are handed over -/

/-- What is known of the responses where the thread is. -/
def KeptAt (s : LooperSystem) : PollThread → Prop
  | .outside | .once _ _ => True
  | .waiting _ _ _ | .returned _ _ => s.looper.mResponses = [] ∧ s.looper.mResponseIndex = 0
  | .sending _ _ => (∀ response ∈ s.looper.mResponses, response.request.Sound) ∧
      s.looper.mResponseIndex = 0
  | .responses _ i _ => (∀ response ∈ s.looper.mResponses.drop i, response.request.Sound) ∧
      s.looper.mResponseIndex = 0
  | .callback _ i => ((∀ response ∈ s.looper.mResponses.drop (i + 1), response.request.Sound) ∧
      ∃ response, s.looper.mResponses[i]? = some response ∧ response.calls) ∧
      s.looper.mResponseIndex = 0
  | .nullCallback => False

structure Kept (s : LooperSystem) : Prop where
  sound : ∀ fd request, s.looper.mRequests fd = some request → request.Sound
  thread : KeptAt s s.thread

theorem keptAt_same (same : s'.looper.mResponses = s.looper.mResponses)
    (index : s'.looper.mResponseIndex = s.looper.mResponseIndex) (thread : PollThread) :
    KeptAt s' thread ↔ KeptAt s thread := by
  unfold KeptAt
  rw [same, index]

theorem due_same (same : s'.looper.mResponses = s.looper.mResponses)
    (index : s'.looper.mResponseIndex = s.looper.mResponseIndex) (thread : s'.thread = s.thread) :
    s'.due = s.due := by
  unfold LooperSystem.due
  rw [same, index, thread]

theorem drop_eq_cons (here : responses[i]? = some response) :
    responses.drop i = response :: responses.drop (i + 1) := by
  obtain ⟨inside, rfl⟩ := List.getElem?_eq_some_iff.mp here
  exact List.drop_eq_getElem_cons inside

theorem drop_modify {f : Response → Response} :
    (responses.modify i f).drop (i + 1) = responses.drop (i + 1) := by
  exact List.drop_modify_of_lt _ _ _ _ (Nat.lt_succ_self i)

theorem returns_modify (here : responses[i]? = some response) (calls : response.calls) :
    (responses.modify i LooperSystem.clearCallback).filter Response.returns =
      responses.filter Response.returns := by
  obtain ⟨inside, same⟩ := List.getElem?_eq_some_iff.mp here
  have other (response : Response) (calls : response.calls) : ¬ response.returns := by
    have ident : response.request.ident = pollCallback := of_decide_eq_true calls
    simp [Response.returns, ident, pollCallback]
  rw [List.modify_eq_take_cons_drop inside, same]
  conv_rhs => rw [← List.take_append_drop i responses, List.drop_eq_getElem_cons inside, same]
  rw [List.filter_append, List.filter_append, List.filter_cons_of_neg (other response calls),
    List.filter_cons_of_neg (other (LooperSystem.clearCallback response) calls)]

theorem Controls.sound {op : EpollOp} {events : Nat} {request : Option Request}
    {returns : Int → LooperEffect} (controls : Controls s op fd events request returns s' effects)
    (sound : ∀ fd request, s.looper.mRequests fd = some request → request.Sound)
    (new : ∀ r ∈ request, r.Sound) :
    ∀ fd request, s'.looper.mRequests fd = some request → request.Sound := by
  cases controls with
  | fails => exact sound
  | done =>
      intro other r registered
      change Function.update s.looper.mRequests fd request other = some r at registered
      rw [Function.update_apply] at registered
      split_ifs at registered
      · exact new r registered
      · exact sound other r registered

theorem Adds.sound {ident : Int} {events data : Nat} {callback : Option Nat}
    (adds : Adds s fd ident events callback data s' effects)
    (sound : ∀ fd request, s.looper.mRequests fd = some request → request.Sound) :
    ∀ fd request, s'.looper.mRequests fd = some request → request.Sound := by
  cases adds with
  | refuses => exact sound
  | controls op s' effects known valid controls =>
      refine controls.sound sound ?_
      rintro r ⟨⟩
      cases callback with
      | none => exact .inr ⟨valid rfl, rfl⟩
      | some function => exact .inl ⟨rfl, rfl⟩

theorem Removes.sound (removes : Removes s fd s' effects)
    (sound : ∀ fd request, s.looper.mRequests fd = some request → request.Sound) :
    ∀ fd request, s'.looper.mRequests fd = some request → request.Sound := by
  cases removes with
  | unknown => exact sound
  | controls _ _ _ _ controls => exact controls.sound sound (by simp)

theorem collect_sound (sound : ∀ fd request, s.looper.mRequests fd = some request → request.Sound)
    (polled : EpollWait) : ∀ response ∈ collect p s.looper.mRequests polled,
      response.request.Sound := by
  intro response member
  cases polled with
  | events items =>
      obtain ⟨item, -, made⟩ := List.mem_filterMap.mp member
      unfold respond at made
      split_ifs at made
      obtain ⟨request, registered, rfl⟩ := Option.map_eq_some_iff.mp made
      exact sound item.1 request registered
  | eintr => cases member
  | error => cases member

theorem Delivers.kept (delivers : Delivers s timeoutMillis result s' effects)
    (sound : ∀ fd request, s.looper.mRequests fd = some request → request.Sound)
    (all : ∀ response ∈ s.looper.mResponses, response.request.Sound)
    (index : s.looper.mResponseIndex = 0) :
    Kept s' ∧ effects.flatMap LooperEffect.planned = [] ∧
      effects.flatMap LooperEffect.handedOver = [] ∧ s'.due = handOver s.looper.mResponses := by
  cases delivers with
  | sends => exact ⟨⟨sound, all, index⟩, rfl, rfl, rfl⟩
  | ends => exact ⟨⟨sound, all, index⟩, rfl, rfl, rfl⟩

/-- What is due before a step or is planned in it is handed over in it or is due after it. -/
theorem LooperMoves.kept (kept : Kept s) (moves : LooperMoves p s e s' effects) :
    Kept s' ∧ s.due ++ effects.flatMap LooperEffect.planned =
      effects.flatMap LooperEffect.handedOver ++ s'.due := by
  have at_thread := kept.thread
  have still {s' : LooperSystem} {effects : List LooperEffect} (thread : s'.thread = s.thread)
      (same : s'.looper.mResponses = s.looper.mResponses)
      (index : s'.looper.mResponseIndex = s.looper.mResponseIndex)
      (sound : ∀ fd request, s'.looper.mRequests fd = some request → request.Sound)
      (planned : effects.flatMap LooperEffect.planned = [])
      (handed : effects.flatMap LooperEffect.handedOver = []) :
      Kept s' ∧ s.due ++ effects.flatMap LooperEffect.planned =
        effects.flatMap LooperEffect.handedOver ++ s'.due := by
    constructor
    · refine ⟨sound, ?_⟩
      rw [thread, keptAt_same same index]
      exact kept.thread
    · rw [planned, handed, due_same same index thread, List.append_nil, List.nil_append]
  have aside {s' : LooperSystem} {effects : List LooperEffect} (aside : Aside s s' effects)
      (sound : ∀ fd request, s'.looper.mRequests fd = some request → request.Sound) :
      Kept s' ∧ s.due ++ effects.flatMap LooperEffect.planned =
        effects.flatMap LooperEffect.handedOver ++ s'.due :=
    still aside.thread aside.responses aside.index sound aside.planned aside.handedOver
  cases moves with
  | pollOnce timeoutMillis thread =>
      refine ⟨⟨kept.sound, trivial⟩, ?_⟩
      unfold LooperSystem.due
      rw [thread]
      exact List.append_nil _
  | hands timeoutMillis result i response thread next =>
      refine ⟨⟨kept.sound, trivial⟩, ?_⟩
      unfold LooperSystem.due
      rw [thread]
      exact (List.append_nil _).trans next
  | returns timeoutMillis result i thread none last =>
      refine ⟨⟨kept.sound, trivial⟩, ?_⟩
      unfold LooperSystem.due
      rw [thread]
      exact (List.append_nil _).trans (none.trans last.symm)
  | waits timeoutMillis thread none =>
      refine ⟨⟨kept.sound, rfl, rfl⟩, ?_⟩
      unfold LooperSystem.due
      rw [thread]
      exact (List.append_nil _).trans none
  | epollReturns timeoutMillis timeout chosen polled thread =>
      rw [thread] at at_thread
      refine ⟨⟨kept.sound, at_thread⟩, ?_⟩
      unfold LooperSystem.due
      rw [thread]
      rfl
  | locks timeoutMillis result polled wakePipe s' effects thread delivers =>
      rw [thread] at at_thread
      obtain ⟨empty, index⟩ := at_thread
      obtain ⟨kept', planned, handed, due⟩ := delivers.kept kept.sound (by
        rw [empty]
        exact collect_sound kept.sound polled) index
      refine ⟨kept', ?_⟩
      have before : s.due = [] := by
        unfold LooperSystem.due
        rw [thread]
      rw [before, List.flatMap_cons, planned, List.flatMap_cons, handed, due, List.append_nil]
      rfl
  | handled timeoutMillis envelope s' effects thread delivers =>
      rw [thread] at at_thread
      obtain ⟨kept', planned, handed, due⟩ := delivers.kept kept.sound at_thread.1 at_thread.2
      refine ⟨kept', ?_⟩
      have before : s.due = handOver s.looper.mResponses := by
        unfold LooperSystem.due
        rw [thread]
      rw [before, planned, handed, due, List.append_nil]
      rfl
  | calledAll timeoutMillis result i thread all =>
      rw [thread] at at_thread
      refine ⟨⟨kept.sound, trivial⟩, ?_⟩
      unfold LooperSystem.due
      rw [thread]
      dsimp only [LooperSystem.setThread]
      rw [List.drop_eq_nil_of_le all, at_thread.2]
      exact List.append_nil _
  | calls timeoutMillis result i response thread here calls callback =>
      rw [thread] at at_thread
      have split := drop_eq_cons here
      obtain ⟨all, index⟩ := at_thread
      rw [split] at all
      refine ⟨⟨kept.sound, ⟨fun r member => all r (List.mem_cons_of_mem _ member), response, here, calls⟩,
        index⟩, ?_⟩
      unfold LooperSystem.due
      rw [thread]
      dsimp only [LooperSystem.setThread]
      rw [split, List.filter_cons_of_pos calls]
      exact List.append_nil _
  | callsNull timeoutMillis result i response thread here calls callback =>
      rw [thread] at at_thread
      have member : response ∈ s.looper.mResponses.drop i := by
        rw [drop_eq_cons here]
        exact List.mem_cons_self
      rcases at_thread.1 response member with ⟨-, function⟩ | ⟨ident, -⟩
      · rw [callback] at function
        cases function
      · have code : response.request.ident = pollCallback := of_decide_eq_true calls
        rw [code] at ident
        exact absurd ident (by decide)
  | skips timeoutMillis result i response thread here other =>
      rw [thread] at at_thread
      have split := drop_eq_cons here
      obtain ⟨all, index⟩ := at_thread
      rw [split] at all
      refine ⟨⟨kept.sound, fun r member => all r (List.mem_cons_of_mem _ member), index⟩, ?_⟩
      unfold LooperSystem.due
      rw [thread]
      dsimp only [LooperSystem.setThread]
      rw [split, List.filter_cons_of_neg other]
      exact List.append_nil _
  | callbackReturns timeoutMillis i callbackResult fails s' effects thread removes =>
      rw [thread] at at_thread
      obtain ⟨⟨all, response, here, calls⟩, index⟩ := at_thread
      have before : Aside s s' effects ∧
          ∀ fd request, s'.looper.mRequests fd = some request → request.Sound := by
        rcases removes with ⟨rfl, rfl⟩ | ⟨response, here, removes⟩
        · exact ⟨⟨rfl, rfl, rfl, rfl, rfl, rfl, rfl, rfl, rfl, rfl, rfl, by simp⟩, kept.sound⟩
        · exact ⟨removes.aside, removes.sound kept.sound⟩
      obtain ⟨aside, sound⟩ := before
      constructor
      · refine ⟨sound, ?_, aside.index.trans index⟩
        intro r member
        change r ∈ (s'.looper.mResponses.modify i LooperSystem.clearCallback).drop (i + 1) at member
        rw [drop_modify, aside.responses] at member
        exact all r member
      · unfold LooperSystem.due
        rw [thread, aside.planned, aside.handedOver]
        dsimp only [LooperSystem.setThread]
        rw [drop_modify, aside.responses, returns_modify here calls]
        exact List.append_nil _
  | addFd _ _ _ _ _ _ _ _ adds =>
      exact aside adds.aside (adds.sound kept.sound)
  | removeFd _ _ _ _ removes =>
      exact aside removes.aside (removes.sound kept.sound)
  | _ => exact still rfl rfl rfl kept.sound rfl rfl

theorem kept_create (p : Platform) (allowNonCallbacks : Bool) (now : Int) :
    Kept (LooperSystem.create p allowNonCallbacks now) :=
  ⟨by simp [LooperSystem.create], trivial⟩

theorem final_kept (p : Platform) (kept : Kept s) (steps : List LooperStep) :
    Kept (final (LooperSystem.step p) s steps) ∧
      s.due ++ (outputs (LooperSystem.step p) s steps).flatMap LooperEffect.planned =
        (outputs (LooperSystem.step p) s steps).flatMap LooperEffect.handedOver ++
          (final (LooperSystem.step p) s steps).due := by
  refine @outputs_invariant _ _ _ (LooperSystem.step p) (fun outs t => Kept t ∧
    s.due ++ outs.flatMap LooperEffect.planned = outs.flatMap LooperEffect.handedOver ++ t.due)
    (fun _ _ => True) ?_ s steps ⟨kept, List.append_nil _⟩ (fun _ _ => trivial)
  rintro outs t e ⟨kept, same⟩ -
  obtain ⟨kept', step⟩ := (looperStep_moves (p := p) (e := e)).kept kept
  refine ⟨kept', ?_⟩
  rw [List.flatMap_append, ← List.append_assoc, same, List.append_assoc, step,
    List.flatMap_append, List.append_assoc]

/-! ## What is pushed -/

theorem LooperMoves.pushes (kept : Kept s) (moves : LooperMoves p s e s' effects)
    (pushed : .pushed responses ∈ effects) :
    e = .locks ∧ ∃ timeoutMillis polled, s.thread = .returned timeoutMillis polled ∧
      responses = collect p s.looper.mRequests polled := by
  have later {s s' : LooperSystem} {effects : List LooperEffect} {timeoutMillis result : Int}
      (delivers : Delivers s timeoutMillis result s' effects) : .pushed responses ∉ effects := by
    cases delivers with
    | _ => simp
  cases moves with
  | locks timeoutMillis result polled wakePipe s' effects thread delivers =>
      have at_thread := kept.thread
      rw [thread] at at_thread
      rcases List.mem_cons.mp pushed with same | member
      · cases same
        exact ⟨rfl, timeoutMillis, polled, thread, by rw [at_thread.1, List.nil_append]⟩
      · exact absurd member (later delivers)
  | handled timeoutMillis envelope s' effects thread delivers =>
      exact absurd pushed (later delivers)
  | callbackReturns timeoutMillis i callbackResult fails s' effects thread removes =>
      rcases removes with ⟨-, rfl⟩ | ⟨response, here, removes⟩
      · cases pushed
      · exact absurd pushed (removes.aside.pushed responses)
  | addFd _ _ _ _ _ _ _ _ adds => exact absurd pushed (adds.aside.pushed responses)
  | removeFd _ _ _ _ removes => exact absurd pushed (removes.aside.pushed responses)
  | _ => simp at pushed

theorem handOver_perm (sound : ∀ response ∈ responses, response.request.Sound) :
    (handOver responses).Perm responses := by
  have other : responses.filter Response.returns = responses.filter fun r => !r.calls := by
    apply List.filter_congr
    intro response member
    unfold Response.returns Response.calls
    rcases sound response member with ⟨ident, -⟩ | ⟨ident, -⟩
    · simp [ident, pollCallback]
    · have apart : response.request.ident ≠ pollCallback := by
        unfold pollCallback
        omega
      simp [ident, apart]
  rw [handOver, other]
  exact List.filter_append_perm Response.calls responses

theorem planned_of_not_pushed (silent : ∀ responses, .pushed responses ∉ effects) :
    effects.flatMap LooperEffect.planned = [] := by
  rw [List.flatMap_eq_nil_iff]
  intro effect member
  cases effect with
  | pushed responses => exact absurd member (silent responses)
  | _ => rfl

theorem Delivers.planned (delivers : Delivers s timeoutMillis result s' effects) :
    effects.flatMap LooperEffect.planned = [] := by
  cases delivers with
  | _ => rfl

/-- The answer of `epoll_wait` is taken with the requests that are registered when it is handled. -/
theorem locks_planned (kept : Kept s) {polled : EpollWait}
    (thread : s.thread = .returned timeoutMillis polled) :
    (s.step p .locks).2.flatMap LooperEffect.planned =
      handOver (collect p s.looper.mRequests polled) := by
  have at_thread := kept.thread
  rw [thread] at at_thread
  obtain ⟨wakePipe, handled⟩ := @handlePolled_spec p s polled
  have pushed : (s.handlePolled p polled).1.looper.mResponses =
      collect p s.looper.mRequests polled := by
    rw [handled]
    exact congrArg (· ++ _) at_thread.1
  have taken : s.step p .locks = s.locked p timeoutMillis polled := by
    simp [LooperSystem.step, LooperSystem.threadStep, thread]
  rw [taken]
  dsimp only [LooperSystem.locked]
  rw [List.flatMap_cons, deliver_delivers.planned, pushed]
  exact List.append_nil _

theorem other_planned (kept : Kept s)
    (other : ∀ timeoutMillis polled, e = .locks → s.thread ≠ .returned timeoutMillis polled) :
    (s.step p e).2.flatMap LooperEffect.planned = [] := by
  apply planned_of_not_pushed
  intro responses pushed
  obtain ⟨locks, timeoutMillis, polled, thread, -⟩ := looperStep_moves.pushes kept pushed
  exact other timeoutMillis polled locks thread

theorem LooperMoves.answered (moves : LooperMoves p s e s' effects) {polled : EpollWait}
    (thread' : s'.thread = .returned timeoutMillis polled) :
    s.thread = .returned timeoutMillis polled ∨ e = .epollReturns polled ∧
      ∃ timeoutMillis timeout chosen, s.thread = .waiting timeoutMillis timeout chosen := by
  cases moves with
  | epollReturns _ _ _ _ thread =>
      cases thread'
      exact .inr ⟨rfl, _, _, _, thread⟩
  | nothing | sends | wakes | wake | removes | time => exact .inl thread'
  | addFd _ _ _ _ _ _ _ _ adds => exact .inl (adds.aside.thread.symm.trans thread')
  | removeFd _ _ _ _ removes => exact .inl (removes.aside.thread.symm.trans thread')
  | locks _ _ _ _ _ _ _ delivers | handled _ _ _ _ _ delivers =>
      cases delivers with
      | _ => cases thread'
  | pollOnce | hands | returns | waits | calledAll | calls | callsNull | skips | callbackReturns =>
      cases thread'

theorem run_reported (p : Platform) (kept : Kept s) (steps : List LooperStep) {polled : EpollWait}
    (last : ∀ timeoutMillis polled', s.thread = .returned timeoutMillis polled' →
      polled' = polled) :
    s.due ++ reported p polled (trace (LooperSystem.step p) s steps) =
      (outputs (LooperSystem.step p) s steps).flatMap LooperEffect.handedOver ++
        (final (LooperSystem.step p) s steps).due := by
  induction steps generalizing s polled with
  | nil => exact List.append_nil _
  | cons e steps ih =>
      have moves := looperStep_moves (p := p) (s := s) (e := e)
      obtain ⟨kept', step⟩ := moves.kept kept
      have whole : outputs (LooperSystem.step p) s (e :: steps) =
          (s.step p e).2 ++ outputs (LooperSystem.step p) (s.step p e).1 steps := rfl
      have rest {planned : List Response} {polled' : EpollWait}
          (now : (s.step p e).2.flatMap LooperEffect.planned = planned)
          (answer : ∀ timeoutMillis polled, (s.step p e).1.thread =
            .returned timeoutMillis polled → polled = polled') :
          s.due ++ (planned ++
              reported p polled' (trace (LooperSystem.step p) (s.step p e).1 steps)) =
            (outputs (LooperSystem.step p) s (e :: steps)).flatMap LooperEffect.handedOver ++
              (final (LooperSystem.step p) s (e :: steps)).due := by
        rw [now] at step
        rw [← List.append_assoc, step, List.append_assoc, ih kept' answer, whole,
          List.flatMap_append, List.append_assoc]
        rfl
      rw [trace_cons, reported]
      dsimp only [react]
      split
      next polled' timeoutMillis timeout chosen thread =>
        refine @rest [] _ (other_planned kept (by simp)) ?_
        intro timeoutMillis' answer thread'
        rcases moves.answered thread' with same | ⟨same, -⟩
        · rw [thread] at same
          cases same
        · cases same
          rfl
      next timeoutMillis answer thread =>
        obtain rfl := last timeoutMillis answer thread
        refine rest (locks_planned kept thread) ?_
        intro timeoutMillis' answer' thread'
        rcases moves.answered thread' with same | ⟨same, -⟩
        · exact last timeoutMillis' answer' same
        · cases same
      next waits locks =>
        refine @rest [] _ (other_planned kept ?_) ?_
        · rintro timeoutMillis answer rfl thread
          exact locks timeoutMillis answer rfl thread
        · intro timeoutMillis answer thread'
          rcases moves.answered thread' with same | ⟨rfl, _, _, _, thread⟩
          · exact last timeoutMillis answer same
          · exact absurd thread (waits answer _ _ _ rfl)

/-- Every event that `epoll_wait` reports of a registered file descriptor is handed over once: for
each `epoll_wait` first the callbacks are invoked, then `pollOnce` returns the other responses, all
in the order of the events and before the next `epoll_wait`; no null callback is ever invoked. -/
theorem looper_responses (p : Platform) (allowNonCallbacks : Bool) (now : Int)
    (steps : List LooperStep) :
    let start := LooperSystem.create p allowNonCallbacks now
    let history := trace (LooperSystem.step p) start steps
    let effects := outputs (LooperSystem.step p) start steps
    let s := final (LooperSystem.step p) start steps
    reported p .eintr history = effects.flatMap LooperEffect.handedOver ++ s.due ∧
      (∀ t ∈ history, ∀ polled, (handOver (collect p t.before.looper.mRequests polled)).Perm
        (collect p t.before.looper.mRequests polled)) ∧
      s.thread ≠ .nullCallback := by
  intro start history effects s
  have created := kept_create p allowNonCallbacks now
  have kept (steps : List LooperStep) := (final_kept p created steps).1
  refine ⟨?_, ?_, ?_⟩
  · exact run_reported p created steps fun _ _ thread => by cases thread
  · intro t member polled
    obtain ⟨before, after, -, same⟩ := exists_prefix member
    rw [same]
    exact handOver_perm (collect_sound (kept before).sound polled)
  · intro thread
    have at_thread := (kept steps).thread
    rw [thread] at at_thread
    exact at_thread

/-! ## Removed file descriptors -/

structure Distinct (s : LooperSystem) : Prop where
  keys : ∀ fd request, s.looper.mRequests fd = some request → request.fd = fd
  fds : (s.looper.mResponses.map fun response => response.request.fd).Nodup
  polled : ∀ timeoutMillis items, s.thread = .returned timeoutMillis (.events items) →
    (items.map Prod.fst).Nodup

theorem Controls.keys {op : EpollOp} {events : Nat} {request : Option Request}
    {returns : Int → LooperEffect} (controls : Controls s op fd events request returns s' effects)
    (keys : ∀ fd request, s.looper.mRequests fd = some request → request.fd = fd)
    (new : ∀ r ∈ request, r.fd = fd) :
    ∀ fd request, s'.looper.mRequests fd = some request → request.fd = fd := by
  cases controls with
  | fails => exact keys
  | done =>
      intro other r registered
      change Function.update s.looper.mRequests fd request other = some r at registered
      rw [Function.update_apply] at registered
      split_ifs at registered with here
      · rw [here]
        exact new r registered
      · exact keys other r registered

theorem Adds.keys {ident : Int} {events data : Nat} {callback : Option Nat}
    (adds : Adds s fd ident events callback data s' effects)
    (keys : ∀ fd request, s.looper.mRequests fd = some request → request.fd = fd) :
    ∀ fd request, s'.looper.mRequests fd = some request → request.fd = fd := by
  cases adds with
  | refuses => exact keys
  | controls _ _ _ _ _ controls =>
      refine controls.keys keys ?_
      rintro r ⟨⟩
      rfl

theorem Removes.keys (removes : Removes s fd s' effects)
    (keys : ∀ fd request, s.looper.mRequests fd = some request → request.fd = fd) :
    ∀ fd request, s'.looper.mRequests fd = some request → request.fd = fd := by
  cases removes with
  | unknown => exact keys
  | controls _ _ _ _ controls => exact controls.keys keys (by simp)

theorem collect_fds (keys : ∀ fd request, s.looper.mRequests fd = some request → request.fd = fd)
    (items : List (Int × Nat)) :
    ((collect p s.looper.mRequests (.events items)).map fun r => r.request.fd).Sublist
      ((items.map Prod.fst).filter fun fd => (s.looper.mRequests fd).isSome) := by
  induction items with
  | nil => exact List.Sublist.slnil
  | cons item items ih =>
      rw [collect] at ih ⊢
      cases made : respond p s.looper.mRequests item with
      | none =>
          rw [List.filterMap_cons_none made, List.map_cons]
          exact ih.trans (List.Sublist.filter _ (List.sublist_cons_self _ _))
      | some response =>
          unfold respond at made
          split_ifs at made
          obtain ⟨request, registered, rfl⟩ := Option.map_eq_some_iff.mp made
          rw [List.filterMap_cons_some (by rw [respond, if_neg ‹_›, registered]; rfl),
            List.map_cons, List.map_cons, List.filter_cons_of_pos (by rw [registered]; rfl),
            keys _ _ registered]
          exact ih.cons_cons _

theorem map_fd_modify : (responses.modify i LooperSystem.clearCallback).map
    (fun response => response.request.fd) = responses.map fun response => response.request.fd := by
  apply List.ext_getElem?
  intro j
  rw [List.getElem?_map, List.getElem?_map, List.getElem?_modify]
  cases responses[j]? with
  | none => rfl
  | some response =>
      simp only [Option.map_eq_map, Option.map_some]
      split_ifs
      · rfl
      · rfl

theorem Delivers.distinct (delivers : Delivers s timeoutMillis result s' effects)
    (keys : ∀ fd request, s.looper.mRequests fd = some request → request.fd = fd)
    (fds : (s.looper.mResponses.map fun response => response.request.fd).Nodup) : Distinct s' := by
  cases delivers with
  | sends => exact ⟨keys, fds, fun _ _ thread => by cases thread⟩
  | ends => exact ⟨keys, fds, fun _ _ thread => by cases thread⟩

theorem LooperMoves.distinct (kept : Kept s) (distinct : Distinct s) (reported : e.Reported)
    (moves : LooperMoves p s e s' effects) : Distinct s' := by
  have aside {s' : LooperSystem} {effects : List LooperEffect} (aside : Aside s s' effects)
      (keys : ∀ fd request, s'.looper.mRequests fd = some request → request.fd = fd) :
      Distinct s' := by
    refine ⟨keys, ?_, ?_⟩
    · rw [aside.responses]
      exact distinct.fds
    · rw [aside.thread]
      exact distinct.polled
  cases moves with
  | waits => exact ⟨distinct.keys, .nil, fun _ _ thread => by cases thread⟩
  | epollReturns timeoutMillis timeout chosen polled thread =>
      refine ⟨distinct.keys, distinct.fds, ?_⟩
      intro _ _ thread
      cases thread
      exact reported
  | locks timeoutMillis result polled wakePipe s' effects thread delivers =>
      have at_thread := kept.thread
      rw [thread] at at_thread
      refine delivers.distinct distinct.keys ?_
      dsimp only
      rw [at_thread.1, List.nil_append]
      cases polled with
      | events items =>
          exact ((distinct.polled _ _ thread).filter _).sublist (collect_fds distinct.keys items)
      | eintr => exact .nil
      | error => exact .nil
  | handled timeoutMillis envelope s' effects thread delivers =>
      exact delivers.distinct distinct.keys distinct.fds
  | callbackReturns timeoutMillis i callbackResult fails s' effects thread removes =>
      have before : Distinct s' := by
        rcases removes with ⟨rfl, -⟩ | ⟨response, here, removes⟩
        · exact distinct
        · exact aside removes.aside (removes.keys distinct.keys)
      refine ⟨before.keys, ?_, fun _ _ thread => by cases thread⟩
      change ((s'.looper.mResponses.modify i LooperSystem.clearCallback).map _).Nodup
      rw [map_fd_modify]
      exact before.fds
  | addFd _ _ _ _ _ _ _ _ adds => exact aside adds.aside (adds.keys distinct.keys)
  | removeFd _ _ _ _ removes => exact aside removes.aside (removes.keys distinct.keys)
  | nothing => exact distinct
  | sends => exact ⟨distinct.keys, distinct.fds, distinct.polled⟩
  | wakes => exact ⟨distinct.keys, distinct.fds, distinct.polled⟩
  | wake => exact ⟨distinct.keys, distinct.fds, distinct.polled⟩
  | removes => exact ⟨distinct.keys, distinct.fds, distinct.polled⟩
  | time => exact ⟨distinct.keys, distinct.fds, distinct.polled⟩
  | _ => exact ⟨distinct.keys, distinct.fds, fun _ _ thread => by cases thread⟩

theorem countFd_due_le {calling : List Response} (sub : calling.Sublist responses) :
    countFd fd (calling.filter Response.calls ++ responses.filter Response.returns) ≤
      countFd fd responses := by
  have apart : (responses.filter Response.returns).Sublist
      (responses.filter fun response => !response.calls) := by
    apply List.monotone_filter_right
    intro response returns
    have ident : response.request.ident ≥ 0 := of_decide_eq_true returns
    have other : response.request.ident ≠ pollCallback := by
      unfold pollCallback
      omega
    simp [Response.calls, other]
  have all := List.filter_append_perm Response.calls responses
  calc countFd fd (calling.filter Response.calls ++ responses.filter Response.returns)
      ≤ countFd fd (responses.filter Response.calls ++
          responses.filter fun response => !response.calls) :=
        (((sub.filter _).append apart).map _).count_le fd
    _ = countFd fd responses := (all.map _).count_eq fd

theorem countFd_append (fd : Int) (first second : List Response) :
    countFd fd (first ++ second) = countFd fd first + countFd fd second := by
  rw [countFd, List.map_append, List.count_append, countFd, countFd]

theorem Distinct.once (distinct : Distinct s) (fd : Int) {calling : List Response}
    (sub : calling.Sublist s.looper.mResponses) :
    countFd fd (calling.filter Response.calls ++ s.looper.mResponses.filter Response.returns) ≤
      1 :=
  (countFd_due_le sub).trans (List.nodup_iff_count_le_one.mp distinct.fds fd)

theorem Distinct.due_le (distinct : Distinct s) : countFd fd s.due ≤ 1 := by
  have rest : countFd fd ((s.looper.mResponses.drop s.looper.mResponseIndex).filter
      Response.returns) ≤ 1 := by
    have sub := (List.filter_sublist (p := Response.returns)).trans
      (List.drop_sublist s.looper.mResponseIndex s.looper.mResponses)
    exact ((sub.map _).count_le fd).trans (List.nodup_iff_count_le_one.mp distinct.fds fd)
  unfold LooperSystem.due
  cases s.thread with
  | outside => exact rest
  | once => exact rest
  | waiting => exact Nat.zero_le 1
  | returned => exact Nat.zero_le 1
  | sending => exact distinct.once fd (List.Sublist.refl _)
  | responses _ i _ => exact distinct.once fd (List.drop_sublist i _)
  | callback _ i => exact distinct.once fd (List.drop_sublist (i + 1) _)
  | nullCallback => exact Nat.zero_le 1

theorem Distinct.due_inCallback (kept : Kept s) (distinct : Distinct s) (here : s.InCallback fd) :
    countFd fd s.due = 0 := by
  obtain ⟨timeoutMillis, i, response, thread, here, same⟩ := here
  have at_thread := kept.thread
  rw [thread] at at_thread
  obtain ⟨⟨-, other, there, calls⟩, -⟩ := at_thread
  obtain rfl : response = other := by simpa [here] using there
  obtain ⟨inside, same'⟩ := List.getElem?_eq_some_iff.mp here
  have once := distinct.once fd (List.drop_sublist i _)
  rw [List.drop_eq_getElem_cons inside, same', List.filter_cons_of_pos calls, List.cons_append,
    countFd, List.map_cons, List.count_cons, same, beq_self_eq_true, if_pos rfl] at once
  unfold LooperSystem.due
  rw [thread]
  exact Nat.le_zero.mp (Nat.le_of_succ_le_succ once)

theorem Controls.requests {op : EpollOp} {events : Nat} {request : Option Request}
    {returns : Int → LooperEffect} (controls : Controls s op fd events request returns s' effects) :
    s' = s ∧ effects = [.epollCtl op fd (-1), returns (-1)] ∨
      s'.looper.mRequests = Function.update s.looper.mRequests fd request ∧
        effects = [.epollCtl op fd 0, returns 1] := by
  cases controls with
  | fails => exact .inl ⟨rfl, rfl⟩
  | done => exact .inr ⟨rfl, rfl⟩

theorem Removes.requests (removes : Removes s fd s' effects) :
    s' = s ∧ (∀ other, .removeFdReturns other 1 ∉ effects) ∨
      s'.looper.mRequests = Function.update s.looper.mRequests fd none ∧
        effects = [.epollCtl .del fd 0, .removeFdReturns fd 1] := by
  cases removes with
  | unknown => exact .inl ⟨rfl, by simp⟩
  | controls _ _ _ _ controls =>
      rcases controls.requests with ⟨rfl, rfl⟩ | done
      · exact .inl ⟨rfl, by simp⟩
      · exact .inr done

theorem Adds.requests {ident : Int} {events data : Nat} {callback : Option Nat}
    (adds : Adds s fd ident events callback data s' effects) :
    s' = s ∧ (∀ other, .addFdReturns other 1 ∉ effects) ∨
      s'.looper.mRequests = Function.update s.looper.mRequests fd
        (some ⟨fd, if callback.isNone then ident else pollCallback, callback, data⟩) ∧
        ∃ op, effects = [.epollCtl op fd 0, .addFdReturns fd 1] := by
  cases adds with
  | refuses => exact .inl ⟨rfl, by simp⟩
  | controls op _ _ _ _ controls =>
      rcases controls.requests with ⟨rfl, rfl⟩ | ⟨same, rfl⟩
      · exact .inl ⟨rfl, by simp⟩
      · exact .inr ⟨same, op, rfl⟩

theorem Delivers.answers (delivers : Delivers s timeoutMillis result s' effects) :
    s'.looper.mRequests = s.looper.mRequests ∧ s'.epoll = s.epoll ∧
      ∀ other, .addFdReturns other 1 ∉ effects ∧ .removeFdReturns other 1 ∉ effects := by
  cases delivers with
  | sends => exact ⟨rfl, rfl, by simp⟩
  | ends => exact ⟨rfl, rfl, by simp⟩

theorem LooperMoves.unregistered (moves : LooperMoves p s e s' effects)
    (none : s.looper.mRequests fd = none) (notAdded : .addFdReturns fd 1 ∉ effects) :
    s'.looper.mRequests fd = Option.none := by
  have removed {other : Int} {s' : LooperSystem} {effects : List LooperEffect}
      (removes : Removes s other s' effects) : s'.looper.mRequests fd = Option.none := by
    rcases removes.requests with ⟨rfl, -⟩ | ⟨same, -⟩
    · exact none
    · rw [same, Function.update_apply]
      split_ifs
      · rfl
      · exact none
  cases moves with
  | locks _ _ _ _ _ _ _ delivers => exact (congrFun delivers.answers.1 fd).trans none
  | handled _ _ _ _ _ delivers => exact (congrFun delivers.answers.1 fd).trans none
  | callbackReturns timeoutMillis i callbackResult fails s' effects thread removes =>
      change s'.looper.mRequests fd = Option.none
      rcases removes with ⟨rfl, -⟩ | ⟨response, here, removes⟩
      · exact none
      · exact removed removes
  | addFd other _ _ _ _ _ _ _ adds =>
      rcases adds.requests with ⟨rfl, -⟩ | ⟨same, op, rfl⟩
      · exact none
      · have apart : fd ≠ other := by
          rintro rfl
          simp at notAdded
        rw [same, Function.update_of_ne apart]
        exact none
  | removeFd _ _ _ _ removes => exact removed removes
  | _ => exact none

theorem LooperMoves.removed (moves : LooperMoves p s e s' effects)
    (removed : .removeFdReturns fd 1 ∈ effects) : s'.looper.mRequests fd = none := by
  have gone {other : Int} {s' : LooperSystem} {effects : List LooperEffect}
      (removes : Removes s other s' effects) (removed : .removeFdReturns fd 1 ∈ effects) :
      s'.looper.mRequests fd = none := by
    rcases removes.requests with ⟨-, not⟩ | ⟨same, rfl⟩
    · exact absurd removed (not fd)
    · obtain rfl : fd = other := by simpa using removed
      rw [same, Function.update_self]
  cases moves with
  | locks _ _ _ _ _ _ _ delivers =>
      exact absurd ((List.mem_cons.mp removed).resolve_left (by simp)) (delivers.answers.2.2 fd).2
  | handled _ _ _ _ _ delivers => exact absurd removed (delivers.answers.2.2 fd).2
  | callbackReturns timeoutMillis i callbackResult fails s' effects thread removes =>
      rcases removes with ⟨-, rfl⟩ | ⟨response, here, removes⟩
      · cases removed
      · change s'.looper.mRequests fd = none
        exact gone removes removed
  | addFd other _ _ _ _ _ _ _ adds =>
      cases adds with
      | refuses => simp at removed
      | controls _ _ _ _ _ controls =>
          rcases controls.requests with ⟨-, rfl⟩ | ⟨-, rfl⟩
          · simp at removed
          · simp at removed
  | removeFd _ _ _ _ removes => exact gone removes removed
  | _ => simp at removed

theorem LooperMoves.plans_none (kept : Kept s) (distinct : Distinct s)
    (moves : LooperMoves p s e s' effects) (none : s.looper.mRequests fd = none) :
    countFd fd (effects.flatMap LooperEffect.planned) = 0 := by
  rw [countFd, List.count_eq_zero]
  intro member
  obtain ⟨response, planned, rfl⟩ := List.mem_map.mp member
  obtain ⟨effect, happened, planned⟩ := List.mem_flatMap.mp planned
  cases effect with
  | pushed responses =>
      obtain ⟨-, _, polled, -, rfl⟩ := moves.pushes kept happened
      have member := (handOver_perm (collect_sound kept.sound polled)).mem_iff.mp planned
      cases polled with
      | events items =>
          have known := (collect_fds distinct.keys items).subset (List.mem_map_of_mem member)
          have registered := (List.mem_filter.mp known).2
          rw [none] at registered
          cases registered
      | eintr => cases member
      | error => cases member
  | _ => cases planned

theorem final_distinct (p : Platform) (kept : Kept s) (distinct : Distinct s)
    {steps : List LooperStep} (reported : ∀ e ∈ steps, e.Reported) :
    Kept (final (LooperSystem.step p) s steps) ∧ Distinct (final (LooperSystem.step p) s steps) := by
  refine @history_invariant _ _ _ (LooperSystem.step p) (fun _ s => Kept s ∧ Distinct s)
    LooperStep.Reported ?_ s steps ⟨kept, distinct⟩ reported
  rintro _ s e ⟨kept, distinct⟩ reported
  exact ⟨(looperStep_moves.kept kept).1, looperStep_moves.distinct kept distinct reported⟩

/-- Once `removeFd` has returned 1, the file descriptor is handed over at most once more until it
is registered anew, and not at all where it was removed in its own callback. -/
theorem looper_removed_fd (p : Platform) (allowNonCallbacks : Bool) (now fd : Int)
    (before after : List LooperStep) (removal : LooperStep)
    (reported : ∀ e ∈ before ++ removal :: after, e.Reported) :
    let s := final (LooperSystem.step p) (LooperSystem.create p allowNonCallbacks now) before
    let s' := (s.step p removal).1
    let handed := (outputs (LooperSystem.step p) s' after).flatMap LooperEffect.handedOver
    .removeFdReturns fd 1 ∈ (s.step p removal).2 →
    (∀ t ∈ trace (LooperSystem.step p) s' after, .addFdReturns fd 1 ∉ t.outputs) →
      countFd fd handed ≤ 1 ∧ (s.InCallback fd → countFd fd handed = 0) := by
  intro s s' handed removed notAdded
  have created : Distinct (LooperSystem.create p allowNonCallbacks now) :=
    ⟨by simp [LooperSystem.create], .nil, fun _ _ thread => by cases thread⟩
  obtain ⟨kept, distinct⟩ := final_distinct p (kept_create p allowNonCallbacks now) created
    fun e member => reported e (List.mem_append_left _ member)
  have moves := looperStep_moves (p := p) (s := s) (e := removal)
  obtain ⟨kept', step⟩ := moves.kept kept
  have distinct' := moves.distinct kept distinct (reported removal (by simp))
  -- nothing is planned for `fd` any more, so what is handed over was due
  have silent : countFd fd ((outputs (LooperSystem.step p) s' after).flatMap
      LooperEffect.planned) = 0 := by
    refine (@outputs_invariant _ _ _ (LooperSystem.step p) (fun outs t =>
      countFd fd (outs.flatMap LooperEffect.planned) = 0 ∧ Kept t ∧ Distinct t ∧
        t.looper.mRequests fd = none)
      (fun s e => .addFdReturns fd 1 ∉ (s.step p e).2 ∧ e.Reported) ?_ s' after
      ⟨rfl, kept', distinct', moves.removed removed⟩ ?_).1
    · rintro outs t e ⟨before, kept, distinct, none⟩ ⟨notAdded, reported⟩
      have moves := looperStep_moves (p := p) (s := t) (e := e)
      refine ⟨?_, (moves.kept kept).1, moves.distinct kept distinct reported,
        moves.unregistered none notAdded⟩
      rw [List.flatMap_append, countFd_append, before, moves.plans_none kept distinct none]
    · intro t member
      have same := notAdded t member
      rw [eq_react_of_mem member] at same
      exact ⟨same, reported _ (by simp [event_mem_of_mem member])⟩
  have account : countFd fd handed ≤ countFd fd s'.due := by
    have same := congrArg (countFd fd) (final_kept p kept' after).2
    rw [countFd_append, countFd_append, silent, Nat.add_zero] at same
    rw [same]
    exact Nat.le_add_right _ _
  refine ⟨account.trans distinct'.due_le, fun inside => Nat.le_zero.mp (account.trans ?_)⟩
  -- the step that removes `fd` plans nothing where it is taken in a callback
  have idle : countFd fd ((s.step p removal).2.flatMap LooperEffect.planned) = 0 := by
    rw [countFd, List.count_eq_zero]
    intro member
    obtain ⟨response, planned, -⟩ := List.mem_map.mp member
    obtain ⟨effect, happened, planned⟩ := List.mem_flatMap.mp planned
    cases effect with
    | pushed responses =>
        obtain ⟨-, _, _, thread, -⟩ := moves.pushes kept happened
        obtain ⟨_, _, _, thread', -⟩ := inside
        rw [thread] at thread'
        cases thread'
    | _ => cases planned
  have same := congrArg (countFd fd) step
  rw [countFd_append, countFd_append, distinct.due_inCallback kept inside, idle] at same
  exact Nat.le_of_add_left_le same.ge

/-- A callback returns 0. -/
theorem looper_removed_fd_callback :
    let s := final (LooperSystem.step .plain) (LooperSystem.create .plain true 0)
      [.addFd 7 0 1 (some 5) 0 false, .pollOnce (-1), .loops, .epollReturns (.events [(7, 1)]),
        .locks, .calls]
    let s' := (s.step .plain (.callbackReturns 0 false)).1
    let handed := (outputs (LooperSystem.step .plain) s' [.calls, .loops]).flatMap
      LooperEffect.handedOver
    countFd 7 handed ≤ 1 ∧ (s.InCallback 7 → countFd 7 handed = 0) :=
  looper_removed_fd .plain true 0 7 _ [.calls, .loops] (.callbackReturns 0 false)
    (by simp [LooperStep.Reported]) (by decide) (by decide)

end VibeXperia.Proof.Shims

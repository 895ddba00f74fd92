import VibeXperia.Proof.Shims.Responses

namespace VibeXperia.Proof.Shims
open Lib VibeXperia.Shims

variable {p : Platform} {s s' : LooperSystem} {e : LooperStep} {effects : List LooperEffect}
variable {timeoutMillis result fd other : Int}

/-! ## What is registered and what is watched -/

def Follows (fd : Int) (s s' : LooperSystem) (left : Option (Option (Request × Nat))) : Prop :=
  match left with
  | none => s'.looper.mRequests fd = s.looper.mRequests fd ∧ s'.epoll fd = s.epoll fd
  | some registration => s'.looper.mRequests fd = registration.map Prod.fst ∧
      s'.epoll fd = registration.map Prod.snd

theorem registers_none (notRemoved : .removeFdReturns fd 1 ∉ effects)
    (notAdded : .addFdReturns fd 1 ∉ effects) : registers fd ⟨s, e, effects, s'⟩ = none := by
  rw [registers, if_neg notRemoved, if_neg notAdded]

theorem Controls.watched {op : EpollOp} {events : Nat} {request : Option Request}
    {returns : Int → LooperEffect}
    (controls : Controls s op other events request returns s' effects) :
    s' = s ∧ effects = [.epollCtl op other (-1), returns (-1)] ∨
      (s.epoll other).isSome = !decide (op = .add) ∧
      s'.looper.mRequests = Function.update s.looper.mRequests other request ∧
      s'.epoll = Function.update s.epoll other (if op = .del then none else some events) ∧
      effects = [.epollCtl op other 0, returns 1] := by
  cases controls with
  | fails => exact .inl ⟨rfl, rfl⟩
  | done allowed watched watching => exact .inr ⟨allowed, rfl, by rw [← watching]; rfl, rfl⟩

theorem Removes.follows (removes : Removes s other s' effects) :
    Follows fd s s' (registers fd ⟨s, e, effects, s'⟩) := by
  cases removes with
  | unknown none =>
      rw [registers_none (by simp) (by simp)]
      exact ⟨rfl, rfl⟩
  | controls request _ _ known controls =>
      rcases controls.watched with ⟨rfl, rfl⟩ | ⟨-, requests, epoll, rfl⟩
      · rw [registers_none (by simp) (by simp)]
        exact ⟨rfl, rfl⟩
      · by_cases here : fd = other
        · subst here
          rw [registers, if_pos (by simp)]
          refine ⟨?_, ?_⟩
          · rw [requests, Function.update_self]
            rfl
          · rw [epoll, Function.update_self, if_pos rfl]
            rfl
        · rw [registers_none (by simp [here]) (by simp)]
          refine ⟨?_, ?_⟩
          · rw [requests, Function.update_of_ne here]
          · rw [epoll, Function.update_of_ne here]

theorem Adds.follows {ident : Int} {events data : Nat} {callback : Option Nat} {fails : Bool}
    (adds : Adds s other ident events callback data s' effects) :
    Follows fd s s'
      (registers fd ⟨s, .addFd other ident events callback data fails, effects, s'⟩) := by
  cases adds with
  | refuses =>
      rw [registers_none (by simp) (by simp)]
      exact ⟨rfl, rfl⟩
  | controls op _ _ known valid controls =>
      rcases controls.watched with ⟨rfl, rfl⟩ | ⟨-, requests, epoll, rfl⟩
      · rw [registers_none (by simp) (by simp)]
        exact ⟨rfl, rfl⟩
      · by_cases here : fd = other
        · subst here
          have kept : op ≠ .del := by
            rw [known]
            split_ifs <;> simp
          rw [registers, if_neg (by simp), if_pos (by simp)]
          refine ⟨?_, ?_⟩
          · rw [requests, Function.update_self]
            rfl
          · rw [epoll, Function.update_self, if_neg kept]
            rfl
        · rw [registers_none (by simp) (by simp [here])]
          refine ⟨?_, ?_⟩
          · rw [requests, Function.update_of_ne here]
          · rw [epoll, Function.update_of_ne here]

theorem LooperMoves.follows (moves : LooperMoves p s e s' effects) (fd : Int) :
    Follows fd s s' (registers fd ⟨s, e, effects, s'⟩) := by
  have quiet {s' : LooperSystem} {effects : List LooperEffect}
      (requests : s'.looper.mRequests = s.looper.mRequests) (epoll : s'.epoll = s.epoll)
      (notRemoved : .removeFdReturns fd 1 ∉ effects) (notAdded : .addFdReturns fd 1 ∉ effects) :
      Follows fd s s' (registers fd ⟨s, e, effects, s'⟩) := by
    rw [registers_none notRemoved notAdded]
    exact ⟨congrFun requests fd, congrFun epoll fd⟩
  cases moves with
  | locks timeoutMillis result polled wakePipe s' effects thread delivers =>
      obtain ⟨requests, epoll, answers⟩ := delivers.answers
      refine quiet requests epoll ?_ ?_
      · simpa using (answers fd).2
      · simpa using (answers fd).1
  | handled timeoutMillis envelope s' effects thread delivers =>
      obtain ⟨requests, epoll, answers⟩ := delivers.answers
      exact quiet requests epoll (answers fd).2 (answers fd).1
  | callbackReturns timeoutMillis i callbackResult fails s' effects thread removes =>
      rcases removes with ⟨rfl, rfl⟩ | ⟨response, here, removes⟩
      · exact quiet rfl rfl (by simp) (by simp)
      · change Follows fd s s' (registers fd ⟨s, .callbackReturns callbackResult fails, effects, s'⟩)
        exact removes.follows
  | addFd _ _ _ _ _ _ _ _ adds => exact adds.follows
  | removeFd _ _ _ _ removes => exact removes.follows
  | _ => exact quiet rfl rfl (by simp) (by simp)

/-- The wake pipe is watched and never registered, and other file descriptors are watched when
they are registered. -/
structure Registered (p : Platform) (s : LooperSystem) : Prop where
  wakePipe : s.epoll p.mWakeReadPipeFd = some epollin
  unregistered : s.looper.mRequests p.mWakeReadPipeFd = none
  others : ∀ fd, fd ≠ p.mWakeReadPipeFd → (s.epoll fd).isSome = (s.looper.mRequests fd).isSome

theorem Controls.wakePipe {op : EpollOp} {events : Nat} {request : Option Request}
    {returns : Int → LooperEffect}
    (controls : Controls s op other events request returns s' effects)
    (registered : Registered p s)
    (known : op = .add ↔ s.looper.mRequests other = none) :
    s'.epoll p.mWakeReadPipeFd = some epollin ∧ s'.looper.mRequests p.mWakeReadPipeFd = none := by
  rcases controls.watched with ⟨rfl, -⟩ | ⟨allowed, requests, epoll, -⟩
  · exact ⟨registered.wakePipe, registered.unregistered⟩
  · have apart : p.mWakeReadPipeFd ≠ other := by
      rintro rfl
      rw [registered.wakePipe, known.mpr registered.unregistered] at allowed
      cases allowed
    rw [requests, epoll, Function.update_of_ne apart, Function.update_of_ne apart]
    exact ⟨registered.wakePipe, registered.unregistered⟩

theorem Removes.wakePipe (removes : Removes s other s' effects) (registered : Registered p s) :
    s'.epoll p.mWakeReadPipeFd = some epollin ∧ s'.looper.mRequests p.mWakeReadPipeFd = none := by
  cases removes with
  | unknown => exact ⟨registered.wakePipe, registered.unregistered⟩
  | controls request _ _ known controls =>
      exact controls.wakePipe registered (by simp [known])

theorem Adds.wakePipe {ident : Int} {events data : Nat} {callback : Option Nat}
    (adds : Adds s other ident events callback data s' effects) (registered : Registered p s) :
    s'.epoll p.mWakeReadPipeFd = some epollin ∧ s'.looper.mRequests p.mWakeReadPipeFd = none := by
  cases adds with
  | refuses => exact ⟨registered.wakePipe, registered.unregistered⟩
  | controls op _ _ known valid controls =>
      refine controls.wakePipe registered ?_
      rw [known]
      cases s.looper.mRequests other <;> simp

theorem LooperMoves.registered (moves : LooperMoves p s e s' effects)
    (registered : Registered p s) : Registered p s' := by
  have pipe : s'.epoll p.mWakeReadPipeFd = some epollin ∧
      s'.looper.mRequests p.mWakeReadPipeFd = none := by
    cases moves with
    | locks _ _ _ _ _ _ _ delivers =>
        obtain ⟨requests, epoll, -⟩ := delivers.answers
        rw [requests, epoll]
        exact ⟨registered.wakePipe, registered.unregistered⟩
    | handled _ _ _ _ _ delivers =>
        obtain ⟨requests, epoll, -⟩ := delivers.answers
        rw [requests, epoll]
        exact ⟨registered.wakePipe, registered.unregistered⟩
    | callbackReturns timeoutMillis i callbackResult fails s' effects thread removes =>
        rcases removes with ⟨rfl, rfl⟩ | ⟨response, here, removes⟩
        · exact ⟨registered.wakePipe, registered.unregistered⟩
        · exact removes.wakePipe registered
    | addFd _ _ _ _ _ _ _ _ adds => exact adds.wakePipe registered
    | removeFd _ _ _ _ removes => exact removes.wakePipe registered
    | _ => exact ⟨registered.wakePipe, registered.unregistered⟩
  refine ⟨pipe.1, pipe.2, fun fd apart => ?_⟩
  have follows := moves.follows fd
  unfold Follows at follows
  split at follows
  · rw [follows.1, follows.2]
    exact registered.others fd apart
  · rw [follows.1, follows.2, Option.isSome_map, Option.isSome_map]

/-- `mRequests` and the kernel agree: what is registered and watched for a file descriptor is what
the last `addFd` or `removeFd` that returned 1 left there, however the calls interleave and
whichever `epoll_ctl` fails; the wake pipe is always watched. -/
theorem looper_registrations (p : Platform) (allowNonCallbacks : Bool) (now : Int)
    (steps : List LooperStep) :
    let start := LooperSystem.create p allowNonCallbacks now
    let s := final (LooperSystem.step p) start steps
    s.epoll p.mWakeReadPipeFd = some epollin ∧ s.looper.mRequests p.mWakeReadPipeFd = none ∧
      ∀ fd, fd ≠ p.mWakeReadPipeFd →
        let last := settled (registers fd) none (trace (LooperSystem.step p) start steps)
        s.looper.mRequests fd = last.map Prod.fst ∧ s.epoll fd = last.map Prod.snd := by
  intro start s
  have created : Registered p start := by
    refine ⟨by simp [start, LooperSystem.create], rfl, fun fd apart => ?_⟩
    change (Function.update (fun _ => none) p.mWakeReadPipeFd (some epollin) fd).isSome = _
    rw [Function.update_of_ne apart]
    rfl
  have kept := @history_invariant _ _ _ (LooperSystem.step p) (fun ts s => Registered p s ∧
    ∀ fd, fd ≠ p.mWakeReadPipeFd →
      s.looper.mRequests fd = (settled (registers fd) none ts).map Prod.fst ∧
        s.epoll fd = (settled (registers fd) none ts).map Prod.snd) (fun _ => True) ?_ start steps ?_
    (fun _ _ => trivial)
  · exact ⟨kept.1.wakePipe, kept.1.unregistered, kept.2⟩
  · rintro ts s e ⟨registered, last⟩ -
    have moves := looperStep_moves (p := p) (s := s) (e := e)
    refine ⟨moves.registered registered, fun fd apart => ?_⟩
    have follows := moves.follows fd
    rw [settled_append, settled_cons, settled_nil]
    change Follows fd s (s.step p e).1 (registers fd (react (LooperSystem.step p) s e)) at follows
    unfold Follows at follows
    split at follows
    · next none =>
        rw [none, Option.getD_none]
        exact ⟨follows.1.trans (last fd apart).1, follows.2.trans (last fd apart).2⟩
    · next registration found =>
        rw [found, Option.getD_some]
        exact follows
  · refine ⟨created, fun fd apart => ⟨rfl, ?_⟩⟩
    change Function.update (fun _ => none) p.mWakeReadPipeFd (some epollin) fd = _
    rw [Function.update_of_ne apart]
    rfl

end VibeXperia.Proof.Shims

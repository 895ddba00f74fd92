import VibeXperia.Lib.Fifo
import VibeXperia.Gps.MsgQ
import VibeXperia.Proof.Gps.ListState

namespace VibeXperia.Proof.Gps
open Lib VibeXperia.Gps

variable {τ α δ : Type} {q q' : MsgQ α δ} {nodes : List Address} {entries : List (α × Option δ)}

/-! ## One call -/

theorem snd_spec (holds : Holds q.msgList nodes entries) {malloc : Option Address}
    (fresh : ∀ elem ∈ malloc, elem ∉ q.msgList.elements) (msgObj : Option α) (dealloc : Option δ) :
    ∃ rv signalled q', q.msgQSnd msgObj dealloc malloc = some (rv, signalled, q') ∧
      (rv ≠ .success ∧ q' = q ∨
        ∃ msg elem, rv = .success ∧ msgObj = some msg ∧
          Holds q'.msgList (elem :: nodes) ((msg, dealloc) :: entries)) := by
  obtain ⟨msgList, unblocked⟩ := q
  cases msgObj with
  | none => exact ⟨_, _, _, rfl, Or.inl ⟨nofun, rfl⟩⟩
  | some msg =>
      cases unblocked with
      | true => exact ⟨.unavailableResource, false, _, rfl, Or.inl ⟨nofun, rfl⟩⟩
      | false =>
          cases malloc with
          | none => exact ⟨.failureGeneral, true, _, rfl, Or.inl ⟨nofun, rfl⟩⟩
          | some elem =>
              obtain ⟨list, added, holds⟩ :=
                holds_add holds (fresh elem rfl) msg dealloc
              refine ⟨.success, true, ⟨list, false⟩, ?_, Or.inr ⟨msg, elem, rfl, rfl, holds⟩⟩
              show (msgList.linkedListAdd (some msg) dealloc (some elem)).bind _ = _
              rw [added]
              rfl

inductive Receives (q : MsgQ α δ) (entries : List (α × Option δ)) :
    Option (MsqQErrType × Option α) → MsgQ α δ → Prop
  | nothing {result} (failed : ∀ rv msg, result = some (rv, msg) → rv ≠ .success) :
      Receives q entries result q
  | oldest {nodes older oldest q'} (same : entries = older ++ [oldest])
      (holds : Holds q'.msgList nodes older) :
      Receives q entries (some (.success, some oldest.1)) q'

theorem waitForData_spec (holds : Holds q.msgList nodes entries) :
    ∃ result q', q.waitForData = some (result, q') ∧ Receives q entries result q' := by
  obtain ⟨msgList, unblocked⟩ := q
  rcases List.eq_nil_or_concat entries with rfl | ⟨older, oldest, rfl⟩
  · have empty := (linkedListEmpty_iff holds).mpr rfl
    cases unblocked with
    | false =>
        refine ⟨none, ⟨msgList, false⟩, ?_, .nothing nofun⟩
        rw [MsgQ.waitForData, empty]
        rfl
    | true =>
        refine ⟨some (.unavailableResource, none), ⟨msgList, true⟩, ?_, .nothing ?_⟩
        · rw [MsgQ.waitForData, empty, remove_empty holds]
          rfl
        · rintro rv msg ⟨⟩
          nofun
  · rw [List.concat_eq_append] at holds ⊢
    have filled : msgList.linkedListEmpty = false := by
      rw [Bool.eq_false_iff, Ne, linkedListEmpty_iff holds]
      simp
    obtain ⟨list, nodes', removed, holds⟩ := holds_remove holds
    refine ⟨some (.success, some oldest.1), ⟨list, unblocked⟩, ?_, .oldest rfl holds⟩
    rw [MsgQ.waitForData, filled, removed]
    rfl

theorem rcv_spec (holds : Holds q.msgList nodes entries) (msgObj : Bool) :
    ∃ result q', q.msgQRcv msgObj = some (result, q') ∧ Receives q entries result q' := by
  cases msgObj with
  | false =>
      refine ⟨some (.invalidParameter, none), q, rfl, .nothing ?_⟩
      rintro rv msg ⟨⟩
      nofun
  | true =>
      cases unblocked : q.unblocked with
      | false =>
          have later : q.msgQRcv true = q.waitForData := by
            rw [MsgQ.msgQRcv, unblocked]
            rfl
          rw [later]
          exact waitForData_spec holds
      | true =>
          refine ⟨some (.unavailableResource, none), q, ?_, .nothing ?_⟩
          · rw [MsgQ.msgQRcv, unblocked]
            rfl
          · rintro rv msg ⟨⟩
            nofun

theorem flush_spec (holds : Holds q.msgList nodes entries) :
    ∃ list, q.msgQFlush = some (.success, dealloced entries, { q with msgList := list }) ∧
      Holds list [] [] := by
  obtain ⟨list, flushed, holds⟩ := holds_flush holds
  refine ⟨list, ?_, holds⟩
  rw [MsgQ.msgQFlush, flushed]
  rfl

/-! ## All calls so far -/

/-- Each message that was accepted was received once, was flushed once, with a call of its dealloc
function if it has one, or is in the list. -/
def Conserved (es : List (MsgQEvent τ α δ)) (q : MsgQ α δ) : Prop :=
  ∃ nodes entries received flushed, Holds q.msgList nodes entries ∧
    Accounted (accepted es) entries.reverse received flushed ∧
    handed es = received.map (fun p => some p.1) ∧ deallocated es = dealloced flushed

variable {es : List (MsgQEvent τ α δ)} {e : MsgQEvent τ α δ}

theorem accepted_append (es fs : List (MsgQEvent τ α δ)) :
    accepted (es ++ fs) = accepted es ++ accepted fs := List.filterMap_append

theorem handed_append (es fs : List (MsgQEvent τ α δ)) :
    handed (es ++ fs) = handed es ++ handed fs := List.filterMap_append

theorem deallocated_append (es fs : List (MsgQEvent τ α δ)) :
    deallocated (es ++ fs) = deallocated es ++ deallocated fs := List.flatMap_append

theorem conserved_start : Conserved ([] : List (MsgQEvent τ α δ)) (.msgQInit : MsgQ α δ) :=
  ⟨[], [], [], [], holds_init, accounted_start, rfl, rfl⟩

theorem Conserved.quiet (conserved : Conserved es q) (sent : accepted [e] = [])
    (received : handed [e] = []) (flushed : deallocated [e] = []) : Conserved (es ++ [e]) q := by
  rw [Conserved, accepted_append, handed_append, deallocated_append, sent, received, flushed,
    List.append_nil, List.append_nil, List.append_nil]
  exact conserved

theorem Conserved.snd {signalled : Bool} {msgObj : Option α} {dealloc : Option δ}
    {malloc : Option Address} {rv : MsqQErrType} {thread : τ} (conserved : Conserved es q)
    (fresh : ∀ elem ∈ malloc, elem ∉ q.msgList.elements)
    (body : q.msgQSnd msgObj dealloc malloc = some (rv, signalled, q')) :
    Conserved (es ++ [.snd thread msgObj dealloc rv]) q' := by
  have kept := conserved
  obtain ⟨nodes, entries, received, flushed, holds, accounted, handed', deallocated'⟩ := conserved
  obtain ⟨rv', signalled', q'', returned, effect⟩ := snd_spec holds fresh msgObj dealloc
  rw [returned] at body
  cases body
  rcases effect with ⟨rejected, rfl⟩ | ⟨msg, elem, rfl, rfl, holds⟩
  · apply kept.quiet
    · cases msgObj <;> cases rv <;> first | rfl | exact absurd rfl rejected
    · rfl
    · rfl
  · refine ⟨_, _, received, flushed, holds, ?_, ?_, ?_⟩
    · rw [accepted_append, List.reverse_cons]
      exact accounted.push (msg, dealloc)
    · rw [handed_append, handed']
      exact List.append_nil _
    · rw [deallocated_append, deallocated']
      exact List.append_nil _

theorem Conserved.rcv {rv : MsqQErrType} {msg : Option α} {thread : τ} (conserved : Conserved es q)
    (receives : ∀ nodes entries, Holds q.msgList nodes entries →
      Receives q entries (some (rv, msg)) q') :
    Conserved (es ++ [.rcv thread rv msg]) q' := by
  have kept := conserved
  obtain ⟨nodes, entries, received, flushed, holds, accounted, handed', deallocated'⟩ := conserved
  cases receives nodes entries holds with
  | nothing failed =>
      have failed := failed rv msg rfl
      apply kept.quiet
      · rfl
      · cases rv <;> first | rfl | exact absurd rfl failed
      · rfl
  | @oldest nodes' older oldest _ same left =>
      subst same
      rw [List.reverse_append, List.reverse_singleton] at accounted
      have none' : accepted [.rcv thread .success (some oldest.1)] = ([] : List (α × Option δ)) := rfl
      refine ⟨nodes', older, received ++ [oldest], flushed, left, ?_, ?_, ?_⟩
      · rw [accepted_append, none', List.append_nil]
        exact accounted.pop
      · rw [handed_append, handed', List.map_append]
        rfl
      · rw [deallocated_append, deallocated']
        exact List.append_nil _

theorem Conserved.flush {rv : MsqQErrType} {calls : List (δ × α)} {thread : τ}
    (conserved : Conserved es q) (body : q.msgQFlush = some (rv, calls, q')) :
    Conserved (es ++ [.flush thread rv calls]) q' := by
  obtain ⟨nodes, entries, received, flushed, holds, accounted, handed', deallocated'⟩ := conserved
  obtain ⟨list, returned, holds⟩ := flush_spec holds
  rw [returned] at body
  cases body
  have none' : accepted [.flush thread .success (dealloced entries)] =
      ([] : List (α × Option δ)) := rfl
  refine ⟨[], [], received, flushed ++ entries, holds, ?_, ?_, ?_⟩
  · rw [accepted_append, none', List.append_nil]
    exact accounted.drop entries.reverse_perm.symm
  · rw [handed_append, handed']
    exact List.append_nil _
  · have called : deallocated [.flush thread .success (dealloced entries)] = dealloced entries :=
      List.append_nil _
    rw [deallocated_append, deallocated', called]
    exact List.filterMap_append.symm

theorem waitForData_receives {result : Option (MsqQErrType × Option α)}
    (body : q.waitForData = some (result, q')) (holds : Holds q.msgList nodes entries) :
    Receives q entries result q' := by
  obtain ⟨result', q'', returned, receives⟩ := waitForData_spec holds
  rw [returned] at body
  cases body
  exact receives

theorem rcv_receives {msgObj : Bool} {result : Option (MsqQErrType × Option α)}
    (body : q.msgQRcv msgObj = some (result, q')) (holds : Holds q.msgList nodes entries) :
    Receives q entries result q' := by
  obtain ⟨result', q'', returned, receives⟩ := rcv_spec holds msgObj
  rw [returned] at body
  cases body
  exact receives

theorem Conserved.wait {thread : τ} (conserved : Conserved es q)
    (receives : ∀ nodes entries, Holds q.msgList nodes entries → Receives q entries none q') :
    Conserved (es ++ [.wait thread]) q' := by
  obtain ⟨nodes, entries, received, flushed, holds, -⟩ := id conserved
  cases receives nodes entries holds with
  | nothing failed => exact conserved.quiet rfl rfl rfl

theorem Conserved.unblock {rv : MsqQErrType} {signalled : Bool} {thread : τ}
    (conserved : Conserved es q) (body : q.msgQUnblock = (rv, signalled, q')) :
    Conserved (es ++ [.unblock thread rv]) q' := by
  have list : q'.msgList = q.msgList := by
    rw [MsgQ.msgQUnblock] at body
    split_ifs at body
    · cases body
      rfl
    · cases body
      rfl
  have kept : Conserved (es ++ [.unblock thread rv]) q := conserved.quiet rfl rfl rfl
  rw [Conserved, ← list] at kept
  exact kept

section Step
variable [DecidableEq τ] {s u : MsgQSystem τ α δ}

theorem conserved_step (conserved : Conserved es s.q) (step : MsgQStep s e u) :
    Conserved (es ++ [e]) u.q := by
  cases step with
  | snd outside fresh body => exact conserved.snd fresh body
  | sndSignal outside fresh body signal => exact conserved.snd fresh body
  | rcv outside body => exact conserved.rcv fun _ _ => rcv_receives body
  | rcvWait outside body => exact conserved.wait fun _ _ => rcv_receives body
  | wake released body => exact conserved.rcv fun _ _ => waitForData_receives body
  | wakeWait released body => exact conserved.wait fun _ _ => waitForData_receives body
  | flush outside body => exact conserved.flush body
  | unblock outside body => exact conserved.unblock body

end Step

/-! ## All runs -/

structure Defined (q : MsgQ α δ) : Prop where
  snd : ∀ msgObj dealloc malloc, (∀ elem ∈ malloc, elem ∉ q.msgList.elements) →
    (q.msgQSnd msgObj dealloc malloc).isSome
  rcv : ∀ msgObj, (q.msgQRcv msgObj).isSome
  waitForData : q.waitForData.isSome
  flush : q.msgQFlush.isSome

theorem Conserved.defined (conserved : Conserved es q) : Defined q := by
  obtain ⟨nodes, entries, received, flushed, holds, -⟩ := conserved
  constructor
  · intro msgObj dealloc malloc fresh
    obtain ⟨_, _, _, returned, -⟩ := snd_spec holds fresh msgObj dealloc
    rw [returned]
    rfl
  · intro msgObj
    obtain ⟨_, _, returned, -⟩ := rcv_spec holds msgObj
    rw [returned]
    rfl
  · obtain ⟨_, _, returned, -⟩ := waitForData_spec holds
    rw [returned]
    rfl
  · obtain ⟨_, returned, -⟩ := flush_spec holds
    rw [returned]
    rfl

theorem snd_rejected {signalled : Bool} {msgObj : Option α} {dealloc : Option δ}
    {malloc : Option Address} {rv : MsqQErrType} (conserved : Conserved es q)
    (fresh : ∀ elem ∈ malloc, elem ∉ q.msgList.elements)
    (body : q.msgQSnd msgObj dealloc malloc = some (rv, signalled, q')) (failed : rv ≠ .success) :
    q' = q := by
  obtain ⟨nodes, entries, received, flushed, holds, -⟩ := conserved
  obtain ⟨rv', signalled', q'', returned, effect⟩ := snd_spec holds fresh msgObj dealloc
  rw [returned] at body
  cases body
  rcases effect with ⟨-, same⟩ | ⟨msg, elem, succeeded, -⟩
  · exact same
  · exact absurd succeeded failed

variable [DecidableEq τ] {s : MsgQSystem τ α δ}

/-- Whatever the threads do. -/
theorem messages_conserved (run : Run MsgQStep (.start : MsgQSystem τ α δ) es s) :
    Conserved es s.q ∧ Defined s.q ∧ ∀ thread msgObj dealloc rv u,
      MsgQStep s (.snd thread msgObj dealloc rv) u → rv ≠ .success → u.q = s.q := by
  have conserved : Conserved es s.q := by
    apply @Run.invariant _ _ _ (fun es s => Conserved es s.q) _ _ _ run conserved_start
    intro es s e u conserved step
    exact conserved_step conserved step
  refine ⟨conserved, conserved.defined, ?_⟩
  intro thread msgObj dealloc rv u step failed
  cases step with
  | snd outside fresh body => exact snd_rejected conserved fresh body failed
  | sndSignal outside fresh body signal => exact snd_rejected conserved fresh body failed

omit [DecidableEq τ] in
theorem signal_none : Signal (fun _ : τ => Waiting.no) (fun _ => Waiting.no) := by
  constructor
  · intro t
    exact Or.inl rfl
  · rintro ⟨t, at_cond⟩
    cases at_cond

theorem signal_one (thread : τ) : Signal (Function.update (fun _ => Waiting.no) thread .atCond)
    (Function.update (fun _ => Waiting.no) thread .released) := by
  constructor
  · intro t
    by_cases here : t = thread
    · subst here
      right
      rw [Function.update_self, Function.update_self]
      exact ⟨rfl, rfl⟩
    · left
      rw [Function.update_of_ne here, Function.update_of_ne here]
  · intro _
    exact ⟨thread, Function.update_self .., Function.update_self ..⟩

theorem step_sent {q : MsgQ α δ} {waiting : τ → Waiting} (thread : τ) (msg : α) (dealloc : Option δ)
    (elem : Address) (outside : s.waiting thread = .no) (fresh : elem ∉ s.q.msgList.elements)
    (body : s.q.msgQSnd (some msg) dealloc (some elem) = some (.success, true, q))
    (signal : Signal s.waiting waiting) :
    MsgQStep s (.snd thread (some msg) dealloc .success) ⟨q, waiting⟩ := by
  apply MsgQStep.sndSignal outside _ body signal
  rintro _ ⟨⟩
  exact fresh

/-- Of four messages from one thread, another that waits for the first receives two, and the others,
one of which has no dealloc function, are flushed. -/
theorem messages_conserved_sent :
    let es : List (MsgQEvent Bool Nat Nat) := [.wait false, .snd true (some 5) (some 7) .success,
      .rcv false .success (some 5), .snd true (some 6) none .success,
      .snd true (some 8) (some 9) .success, .rcv false .success (some 6),
      .snd true (some 4) none .success, .flush false .success [(9, 8)]]
    ∃ s, Run MsgQStep .start es s ∧ Conserved es s.q ∧ Defined s.q := by
  intro es
  have waits : MsgQStep (.start : MsgQSystem Bool Nat Nat) (.wait false) _ :=
    .rcvWait rfl (rfl : MsgQ.msgQRcv _ true = _)
  have first := (Run.single waits).tail (step_sent true 5 (some 7) 0 rfl (by decide) rfl
    (signal_one false))
  have received := first.tail (l := .rcv false .success (some 5)) (.wake rfl rfl)
  rw [Function.update_idem, Function.update_eq_self] at received
  have second := received.tail (step_sent true 6 none 0 rfl (by decide) rfl signal_none)
  have third := second.tail (step_sent true 8 (some 9) 1 rfl (by decide) rfl signal_none)
  have again := third.tail (l := .rcv false .success (some 6))
    (.rcv rfl (rfl : MsgQ.msgQRcv _ true = _))
  have fourth := again.tail (step_sent true 4 none 0 rfl (by decide) rfl signal_none)
  have flushed := fourth.tail (l := .flush false .success [(9, 8)]) (.flush rfl rfl)
  obtain ⟨conserved, defined, -⟩ := messages_conserved flushed
  exact ⟨_, flushed, conserved, defined⟩

/-- A message without a dealloc function is flushed, and another one is in the list when the queue
is unblocked: neither is received or deallocated. -/
theorem neither_received_nor_deallocated :
    let flushing : List (MsgQEvent Unit Nat Nat) :=
      [.snd () (some 5) none .success, .flush () .success []]
    let unblocking : List (MsgQEvent Unit Nat Nat) :=
      [.snd () (some 5) (some 7) .success, .unblock () .success]
    (∃ s, Run MsgQStep .start flushing s ∧ s.q.msgList.linkedListEmpty = true) ∧
      accepted flushing = [(5, none)] ∧ handed flushing = [] ∧ deallocated flushing = [] ∧
    (∃ s, Run MsgQStep .start unblocking s ∧
      s.q.msgQRcv true = some (some (.unavailableResource, none), s.q)) ∧
      accepted unblocking = [(5, some 7)] ∧ handed unblocking = [] ∧
        deallocated unblocking = [] := by
  intro flushing unblocking
  refine ⟨?_, rfl, rfl, rfl, ?_, rfl, rfl, rfl⟩
  · exact ⟨_, (Run.single (step_sent () 5 none 0 rfl (by decide) rfl signal_none)).tail (.flush rfl rfl), rfl⟩
  · exact ⟨_, (Run.single (step_sent () 5 (some 7) 0 rfl (by decide) rfl signal_none)).tail (.unblock rfl rfl), rfl⟩

end VibeXperia.Proof.Gps

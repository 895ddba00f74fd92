import VibeXperia.Proof.Shims.Looper

namespace VibeXperia.Proof.Shims
open Lib VibeXperia.Shims

variable {p : Platform} {s s' : LooperSystem} {e : LooperStep} {effects : List LooperEffect}
variable {timeoutMillis result fd : Int} {box : List MessageEnvelope}

/-! ## Messages -/

theorem byUptime_order : WeakOrder byUptime := weakOrder_of_key MessageEnvelope.uptime

theorem byUptime_iff {a b : MessageEnvelope} : byUptime a b ↔ a.uptime ≤ b.uptime :=
  decide_eq_true_iff

structure Aside (s s' : LooperSystem) (effects : List LooperEffect) : Prop where
  thread : s'.thread = s.thread
  queue : s'.looper.mMessageEnvelopes = s.looper.mMessageEnvelopes
  sending : s'.looper.mSendingMessage = s.looper.mSendingMessage
  next : s'.looper.mNextMessageUptime = s.looper.mNextMessageUptime
  responses : s'.looper.mResponses = s.looper.mResponses
  index : s'.looper.mResponseIndex = s.looper.mResponseIndex
  wakePipe : s'.wakePipe = s.wakePipe
  wakers : s'.wakers = s.wakers
  mail : effects.filterMap LooperEffect.mail = []
  planned : effects.flatMap LooperEffect.planned = []
  handedOver : effects.flatMap LooperEffect.handedOver = []
  pushed : ∀ responses, .pushed responses ∉ effects

theorem aside_refl (effect : LooperEffect) (answer : ∃ result, effect = .addFdReturns fd result ∨
    effect = .removeFdReturns fd result) : Aside s s [effect] := by
  obtain ⟨result, rfl | rfl⟩ := answer
  · exact ⟨rfl, rfl, rfl, rfl, rfl, rfl, rfl, rfl, rfl, rfl, rfl, by simp⟩
  · exact ⟨rfl, rfl, rfl, rfl, rfl, rfl, rfl, rfl, rfl, rfl, rfl, by simp⟩

theorem Controls.aside {op : EpollOp} {events : Nat} {request : Option Request}
    {returns : Int → LooperEffect} (controls : Controls s op fd events request returns s' effects)
    (answer : returns = .addFdReturns fd ∨ returns = .removeFdReturns fd) :
    Aside s s' effects := by
  rcases answer with rfl | rfl
  · cases controls with
    | _ => exact ⟨rfl, rfl, rfl, rfl, rfl, rfl, rfl, rfl, rfl, rfl, rfl, by simp⟩
  · cases controls with
    | _ => exact ⟨rfl, rfl, rfl, rfl, rfl, rfl, rfl, rfl, rfl, rfl, rfl, by simp⟩

theorem Adds.aside {ident : Int} {events data : Nat} {callback : Option Nat}
    (adds : Adds s fd ident events callback data s' effects) : Aside s s' effects := by
  cases adds with
  | refuses => exact aside_refl _ ⟨-1, .inl rfl⟩
  | controls _ _ _ _ _ controls => exact controls.aside (.inl rfl)

theorem Removes.aside (removes : Removes s fd s' effects) : Aside s s' effects := by
  cases removes with
  | unknown => exact aside_refl _ ⟨0, .inr rfl⟩
  | controls _ _ _ _ controls => exact controls.aside (.inr rfl)

theorem Delivers.mailbox (delivers : Delivers s timeoutMillis result s' effects)
    (sorting : StableSort byUptime s.looper.mMessageEnvelopes box) :
    ∃ box', Run (Mailbox byUptime) box (effects.filterMap LooperEffect.mail) box' ∧
      StableSort byUptime s'.looper.mMessageEnvelopes box' := by
  cases delivers with
  | sends envelope envelopes queue due =>
      rw [queue] at sorting
      obtain ⟨box', taken, rest⟩ := Mailbox.take_sorted byUptime_order sorting
      exact ⟨box', .single taken, rest⟩
  | ends next empty first => exact ⟨box, .refl, sorting⟩

theorem LooperMoves.mailbox (moves : LooperMoves p s e s' effects)
    (sorting : StableSort byUptime s.looper.mMessageEnvelopes box) :
    ∃ box', Run (Mailbox byUptime) box (effects.filterMap LooperEffect.mail) box' ∧
      StableSort byUptime s'.looper.mMessageEnvelopes box' := by
  have quiet {s' : LooperSystem} {effects : List LooperEffect}
      (mail : effects.filterMap LooperEffect.mail = [])
      (queue : s'.looper.mMessageEnvelopes = s.looper.mMessageEnvelopes) :
      ∃ box', Run (Mailbox byUptime) box (effects.filterMap LooperEffect.mail) box' ∧
        StableSort byUptime s'.looper.mMessageEnvelopes box' := by
    rw [mail, queue]
    exact ⟨box, .refl, sorting⟩
  cases moves with
  | locks timeoutMillis result polled wakePipe s' effects thread delivers =>
      exact delivers.mailbox sorting
  | handled timeoutMillis envelope s' effects thread delivers => exact delivers.mailbox sorting
  | callbackReturns timeoutMillis i callbackResult fails s' effects thread removes =>
      rcases removes with ⟨rfl, rfl⟩ | ⟨response, here, removes⟩
      · exact quiet rfl rfl
      · exact quiet removes.aside.mail removes.aside.queue
  | sends envelope first second wakers queue before behind woken =>
      rw [queue] at sorting
      obtain ⟨box', arrived, rest⟩ := Mailbox.put_sorted byUptime_order sorting
        (x := envelope) (fun y member => byUptime_iff.mpr (before y member)) (by
          intro y member
          -- the first of the rest is later, and so are those behind it
          obtain ⟨_, later, _⟩ := List.pairwise_append.mp sorting.pairwise
          rw [byUptime_iff, not_le]
          cases second with
          | nil => cases member
          | cons z second =>
              have sooner := behind z rfl
              rcases List.mem_cons.mp member with rfl | member
              · exact sooner
              · exact sooner.trans_le (byUptime_iff.mp (List.rel_of_pairwise_cons later member)))
      exact ⟨box', .single arrived, rest⟩
  | removes handler what =>
      obtain ⟨box', dropped, rest⟩ :=
        Mailbox.drop_sorted sorting (MessageEnvelope.isFor handler what)
      exact ⟨box', .single dropped, rest⟩
  | addFd _ _ _ _ _ _ _ _ adds => exact quiet adds.aside.mail adds.aside.queue
  | removeFd _ _ _ _ removes => exact quiet removes.aside.mail removes.aside.queue
  | _ => exact quiet rfl rfl

theorem LooperMoves.punctual (moves : LooperMoves p s e s' effects) {envelope : MessageEnvelope}
    {now : Int} (delivered : .delivered envelope now ∈ effects) : envelope.uptime ≤ now := by
  have told {s s' : LooperSystem} {effects : List LooperEffect} {timeoutMillis result : Int}
      (delivers : Delivers s timeoutMillis result s' effects)
      (delivered : .delivered envelope now ∈ effects) : envelope.uptime ≤ now := by
    cases delivers with
    | sends first envelopes queue due =>
        cases List.mem_singleton.mp delivered
        exact due
    | ends => cases delivered
  have silent {effects : List LooperEffect} (mail : effects.filterMap LooperEffect.mail = []) :
      .delivered envelope now ∉ effects := by
    intro member
    cases List.filterMap_eq_nil_iff.mp mail _ member
  cases moves with
  | locks timeoutMillis result polled wakePipe s' effects thread delivers =>
      exact told delivers ((List.mem_cons.mp delivered).resolve_left (by simp))
  | handled timeoutMillis envelope s' effects thread delivers => exact told delivers delivered
  | callbackReturns timeoutMillis i callbackResult fails s' effects thread removes =>
      rcases removes with ⟨rfl, rfl⟩ | ⟨response, here, removes⟩
      · cases delivered
      · exact absurd delivered (silent removes.aside.mail)
  | addFd _ _ _ _ _ _ _ _ adds => exact absurd delivered (silent adds.aside.mail)
  | removeFd _ _ _ _ removes => exact absurd delivered (silent removes.aside.mail)
  | sends => simp at delivered
  | removes => simp at delivered
  | hands => simp at delivered
  | returns => simp at delivered
  | calls => simp at delivered
  | _ => cases delivered

/-- In every run the messages are delivered as a mailbox in the order of arrival gives out the
first of its earliest, none before its time; each that was sent is delivered once, or a call of
`removeMessages` was for it, or it is still in the queue. -/
theorem looper_messages (p : Platform) (allowNonCallbacks : Bool) (now : Int)
    (steps : List LooperStep) :
    let start := LooperSystem.create p allowNonCallbacks now
    let effects := outputs (LooperSystem.step p) start steps
    let queue := (final (LooperSystem.step p) start steps).looper.mMessageEnvelopes
    (∃ box, Run (Mailbox byUptime) [] (effects.filterMap LooperEffect.mail) box ∧
      queue = box.mergeSort byUptime) ∧
    (∀ envelope now, .delivered envelope now ∈ effects → envelope.uptime ≤ now) ∧
    ∃ lost, ((effects.filterMap LooperEffect.mail).filterMap MailEvent.puts).Perm
        ((effects.filterMap LooperEffect.mail).filterMap MailEvent.takes ++ lost ++ queue) ∧
      ∀ envelope ∈ lost, ∃ handler what, .removed handler what ∈ effects ∧
        envelope.isFor handler what := by
  intro start effects queue
  have kept : ∃ box, Run (Mailbox byUptime) [] (effects.filterMap LooperEffect.mail) box ∧
      StableSort byUptime queue box := by
    refine @outputs_invariant _ _ _ (LooperSystem.step p) (fun outs s =>
      ∃ box, Run (Mailbox byUptime) [] (outs.filterMap LooperEffect.mail) box ∧
        StableSort byUptime s.looper.mMessageEnvelopes box) (fun _ _ => True) ?_ start steps
      ⟨[], .refl, stableSort_nil⟩ (fun _ _ => trivial)
    rintro outs s e ⟨box, run, sorting⟩ -
    obtain ⟨box', more, rest⟩ := (looperStep_moves (e := e)).mailbox sorting
    rw [List.filterMap_append]
    exact ⟨box', run.trans more, rest⟩
  obtain ⟨box, run, sorting⟩ := kept
  refine ⟨⟨box, run, sorting.eq_mergeSort byUptime_order⟩, ?_, ?_⟩
  · intro envelope now delivered
    obtain ⟨t, member, told⟩ := List.mem_flatMap.mp delivered
    rw [eq_react_of_mem member] at told
    exact looperStep_moves.punctual told
  · obtain ⟨lost, same, dropped⟩ := Mailbox.accounted run
    refine ⟨lost, same.trans ((sorting.perm byUptime_order).symm.append_left _), ?_⟩
    intro envelope member
    obtain ⟨gone, told, here⟩ := dropped envelope member
    obtain ⟨effect, happened, mail⟩ := List.mem_filterMap.mp told
    cases effect with
    | removed handler what =>
        cases mail
        exact ⟨handler, what, happened, here⟩
    | _ => cases mail

/-! ## Wake-ups -/

def isSending : PollThread → Bool
  | .sending _ _ => true
  | _ => false

def Signalled (s : LooperSystem) : Prop :=
  0 < s.wakePipe ∨ 0 < s.wakers ∨
    ∀ envelope ∈ s.looper.mMessageEnvelopes, s.looper.mNextMessageUptime ≤ envelope.uptime

structure Woken (p : Platform) (s : LooperSystem) : Prop where
  sorted : s.looper.mMessageEnvelopes.Pairwise fun a b => a.uptime ≤ b.uptime
  timed : ∀ envelope ∈ s.looper.mMessageEnvelopes, envelope.uptime < llongMax
  flag : s.looper.mSendingMessage = isSending s.thread
  signalled : isSending s.thread = false → Signalled s
  chosen : ∀ timeoutMillis timeout chosen, s.thread = .waiting timeoutMillis timeout chosen →
    timeout = LooperSystem.adjusted p { s with clock := chosen } timeoutMillis

theorem Woken.same (woken : Woken p s)
    (queue : s'.looper.mMessageEnvelopes = s.looper.mMessageEnvelopes)
    (next : s'.looper.mNextMessageUptime = s.looper.mNextMessageUptime)
    (flag : s'.looper.mSendingMessage = s.looper.mSendingMessage)
    (wakePipe : s'.wakePipe = s.wakePipe) (wakers : s'.wakers = s.wakers)
    (phase : isSending s'.thread = isSending s.thread)
    (chosen : ∀ timeoutMillis timeout chosen, s'.thread = .waiting timeoutMillis timeout chosen →
      timeout = LooperSystem.adjusted p { s' with clock := chosen } timeoutMillis) :
    Woken p s' where
  sorted := by rw [queue]; exact woken.sorted
  timed := by rw [queue]; exact woken.timed
  flag := by rw [flag, phase, woken.flag]
  signalled awake := by
    rw [phase] at awake
    rw [Signalled, queue, next, wakePipe, wakers]
    exact woken.signalled awake
  chosen := chosen

theorem Woken.goes (woken : Woken p s) {responses : List Response} {i : Nat} {polling : Bool}
    {thread : PollThread} (phase : isSending thread = isSending s.thread)
    (elsewhere : ∀ timeoutMillis timeout chosen, thread ≠ .waiting timeoutMillis timeout chosen) :
    Woken p { s with
      looper := { s.looper with
        mResponses := responses, mResponseIndex := i, mPolling := polling }
      thread := thread } :=
  woken.same rfl rfl rfl rfl rfl phase fun timeoutMillis timeout chosen same =>
    absurd same (elsewhere timeoutMillis timeout chosen)

theorem Woken.aside (woken : Woken p s) (aside : Aside s s' effects) : Woken p s' := by
  refine woken.same aside.queue aside.next aside.sending aside.wakePipe aside.wakers
    (by rw [aside.thread]) ?_
  intro timeoutMillis timeout chosen thread
  rw [aside.thread] at thread
  have same := woken.chosen timeoutMillis timeout chosen thread
  unfold LooperSystem.adjusted at same ⊢
  dsimp only at same ⊢
  rwa [aside.next]

theorem Delivers.woken (delivers : Delivers s timeoutMillis result s' effects)
    (sorted : s.looper.mMessageEnvelopes.Pairwise fun a b => a.uptime ≤ b.uptime)
    (timed : ∀ envelope ∈ s.looper.mMessageEnvelopes, envelope.uptime < llongMax)
    (flag : s.looper.mSendingMessage = false) : Woken p s' := by
  cases delivers with
  | sends envelope envelopes queue due =>
      rw [queue] at sorted timed
      refine ⟨sorted.of_cons, fun later member => timed later (by simp [member]), rfl, ?_, ?_⟩
      · intro idle
        cases idle
      · intro _ _ _ thread
        cases thread
  | ends next empty first =>
      refine ⟨sorted, timed, flag, fun _ => .inr (.inr ?_), ?_⟩
      · intro envelope member
        change envelope ∈ s.looper.mMessageEnvelopes at member
        change next ≤ envelope.uptime
        cases queue : s.looper.mMessageEnvelopes with
        | nil =>
            rw [queue] at member
            cases member
        | cons head envelopes =>
            rw [queue] at sorted first member
            rw [first head rfl]
            rcases List.mem_cons.mp member with rfl | member
            · exact le_rfl
            · exact List.rel_of_pairwise_cons sorted member
      · intro _ _ _ thread
        cases thread

theorem wake_signalled (pipe : 0 < p.pipeSize) : 0 < (s.wake p).wakePipe := by
  unfold LooperSystem.wake
  dsimp only
  split_ifs <;> omega

theorem pairwise_insert {envelope : MessageEnvelope} {first second : List MessageEnvelope}
    (sorted : (first ++ second).Pairwise fun a b => a.uptime ≤ b.uptime)
    (before : ∀ y ∈ first, y.uptime ≤ envelope.uptime)
    (behind : ∀ y ∈ second.head?, envelope.uptime < y.uptime) :
    (first ++ envelope :: second).Pairwise fun a b => a.uptime ≤ b.uptime := by
  obtain ⟨left, right, across⟩ := List.pairwise_append.mp sorted
  have sooner (y) (member : y ∈ second) : envelope.uptime < y.uptime := by
    cases second with
    | nil => cases member
    | cons z second =>
        rcases List.mem_cons.mp member with rfl | member
        · exact behind y rfl
        · exact (behind z rfl).trans_le (List.rel_of_pairwise_cons right member)
  rw [List.pairwise_append, List.pairwise_cons]
  refine ⟨left, ⟨fun y member => (sooner y member).le, right⟩, ?_⟩
  intro y member z later
  rcases List.mem_cons.mp later with rfl | later
  · exact before y member
  · exact across y member z later

theorem Woken.sends (woken : Woken p s) {envelope : MessageEnvelope}
    {first second : List MessageEnvelope} {wakers : Nat} (timed : envelope.uptime < llongMax)
    (queue : s.looper.mMessageEnvelopes = first ++ second)
    (before : ∀ y ∈ first, y.uptime ≤ envelope.uptime)
    (behind : ∀ y ∈ second.head?, envelope.uptime < y.uptime)
    (wakes : wakers = if s.looper.mSendingMessage = false ∧ first = [] then s.wakers + 1
      else s.wakers) :
    Woken p { s with
      looper := { s.looper with mMessageEnvelopes := first ++ envelope :: second }
      wakers := wakers } := by
  have member_iff (y) : y ∈ first ++ envelope :: second ↔
      y = envelope ∨ y ∈ s.looper.mMessageEnvelopes := by
    rw [queue]
    simp only [List.mem_append, List.mem_cons]
    tauto
  refine ⟨pairwise_insert (queue ▸ woken.sorted) before behind, ?_, woken.flag, ?_, woken.chosen⟩
  · intro y member
    rcases (member_iff y).mp member with rfl | member
    · exact timed
    · exact woken.timed y member
  · intro awake
    have flag := woken.flag.trans awake
    rcases woken.signalled awake with full | waking | told
    · exact .inl full
    · refine .inr (.inl ?_)
      change 0 < wakers
      rw [wakes]
      split_ifs <;> omega
    · -- either the message is the new head, or the old head is no later
      cases first with
      | nil =>
          refine .inr (.inl ?_)
          change 0 < wakers
          rw [wakes, if_pos ⟨flag, rfl⟩]
          exact Nat.succ_pos _
      | cons head first =>
          refine .inr (.inr ?_)
          intro y member
          rcases (member_iff y).mp member with rfl | member
          · exact (told head (by simp [queue])).trans (before head (by simp))
          · exact told y member

theorem LooperMoves.woken (documented : p.Documented) (woken : Woken p s) (timed : e.Timed)
    (moves : LooperMoves p s e s' effects) : Woken p s' := by
  cases moves with
  | nothing => exact woken
  | pollOnce timeoutMillis thread =>
      exact woken.goes (by rw [thread]; rfl) (by simp)
  | hands timeoutMillis result i response thread next =>
      exact woken.goes (by rw [thread]; rfl) (by simp)
  | returns timeoutMillis result i thread =>
      exact woken.goes (by rw [thread]; rfl) (by simp)
  | waits timeoutMillis thread =>
      refine woken.same rfl rfl rfl rfl rfl (by rw [thread]; rfl) ?_
      intro _ _ _ thread
      cases thread
      rfl
  | epollReturns timeoutMillis timeout chosen polled thread =>
      exact woken.goes (by rw [thread]; rfl) (by simp)
  | locks timeoutMillis result polled wakePipe s' effects thread delivers =>
      refine delivers.woken woken.sorted woken.timed ?_
      exact woken.flag.trans (by rw [thread]; rfl)
  | handled timeoutMillis envelope s' effects thread delivers =>
      exact delivers.woken woken.sorted woken.timed rfl
  | calledAll timeoutMillis result i thread =>
      exact woken.goes (by rw [thread]; rfl) (by simp)
  | calls timeoutMillis result i response thread =>
      exact woken.goes (by rw [thread]; rfl) (by simp)
  | callsNull timeoutMillis result i response thread =>
      exact woken.goes (by rw [thread]; rfl) (by simp)
  | skips timeoutMillis result i response thread =>
      exact woken.goes (by rw [thread]; rfl) (by simp)
  | callbackReturns timeoutMillis i callbackResult fails s' effects thread removes =>
      have before : Woken p s' ∧ s'.thread = s.thread := by
        rcases removes with ⟨rfl, -⟩ | ⟨response, here, removes⟩
        · exact ⟨woken, rfl⟩
        · exact ⟨woken.aside removes.aside, removes.aside.thread⟩
      exact before.1.goes (by rw [before.2, thread]; rfl) (by simp)
  | sends envelope first second wakers queue before behind wakes =>
      exact woken.sends timed queue before behind wakes
  | wakes waker =>
      refine ⟨woken.sorted, woken.timed, woken.flag, fun _ => .inl ?_, woken.chosen⟩
      exact wake_signalled documented.pipe
  | wake =>
      refine ⟨woken.sorted, woken.timed, woken.flag, fun _ => .inl ?_, woken.chosen⟩
      exact wake_signalled documented.pipe
  | removes handler what =>
      have sub (y) (member : y ∈ s.looper.mMessageEnvelopes.filter fun envelope =>
          !envelope.isFor handler what) : y ∈ s.looper.mMessageEnvelopes :=
        (List.mem_filter.mp member).1
      refine ⟨woken.sorted.filter _, fun y member => woken.timed y (sub y member), woken.flag,
        ?_, woken.chosen⟩
      intro awake
      rcases woken.signalled awake with full | waking | told
      · exact .inl full
      · exact .inr (.inl waking)
      · exact .inr (.inr fun y member => told y (sub y member))
  | addFd _ _ _ _ _ _ _ _ adds => exact woken.aside adds.aside
  | removeFd _ _ _ _ removes => exact woken.aside removes.aside
  | time now => exact woken.same rfl rfl rfl rfl rfl rfl woken.chosen

/-- How long `pollInner` waits when it knows of a message. -/
theorem adjusted_inTime (documented : p.Documented) {due : Int}
    (first : s.looper.mNextMessageUptime ≤ due) (some : due < llongMax)
    (near : due - s.clock ≤ (intMax - 1) * 1000000) :
    EndsInTime s.clock (s.adjusted p timeoutMillis) due := by
  have told : s.looper.mNextMessageUptime ≠ llongMax := by omega
  have delay : 0 ≤ p.toMillisecondTimeoutDelay s.clock s.looper.mNextMessageUptime ∧
      s.clock + p.toMillisecondTimeoutDelay s.clock s.looper.mNextMessageUptime * 1000000 <
        max s.clock due + 1000000 := by
    by_cases past : s.looper.mNextMessageUptime ≤ s.clock
    · rw [documented.past _ _ past]
      omega
    · rw [documented.near _ _ (by omega) (by omega)]
      omega
  unfold LooperSystem.adjusted EndsInTime
  dsimp only
  split_ifs with adjusts sooner
  · exact delay
  · have longer : 0 ≤ timeoutMillis ∧
        timeoutMillis ≤ p.toMillisecondTimeoutDelay s.clock s.looper.mNextMessageUptime := by
      by_contra other
      exact sooner ⟨delay.1, by omega⟩
    omega
  · have immediately : timeoutMillis = 0 := by
      by_contra other
      exact adjusts ⟨other, told⟩
    omega

theorem LooperMoves.asleep (moves : LooperMoves p s e s' effects) {timeout chosen : Int}
    (waiting : s.thread = .waiting timeoutMillis timeout chosen)
    (sleeps : ∀ polled, e ≠ .epollReturns polled) :
    s'.thread = s.thread ∧ s.wakePipe ≤ s'.wakePipe := by
  have more (s : LooperSystem) : s.wakePipe ≤ (s.wake p).wakePipe := by
    unfold LooperSystem.wake
    dsimp only
    split_ifs <;> omega
  cases moves with
  | epollReturns _ _ _ polled => exact absurd rfl (sleeps polled)
  | wakes waker => exact ⟨rfl, more { s with wakers := s.wakers - 1 }⟩
  | wake => exact ⟨rfl, more s⟩
  | addFd _ _ _ _ _ _ _ _ adds => exact ⟨adds.aside.thread, adds.aside.wakePipe.ge⟩
  | removeFd _ _ _ _ removes => exact ⟨removes.aside.thread, removes.aside.wakePipe.ge⟩
  | nothing | sends | removes | time => exact ⟨rfl, le_rfl⟩
  | pollOnce _ thread | hands _ _ _ _ thread | returns _ _ _ thread | waits _ thread
  | locks _ _ _ _ _ _ thread | handled _ _ _ _ thread | calledAll _ _ _ thread
  | calls _ _ _ _ thread | callsNull _ _ _ _ thread | skips _ _ _ _ thread
  | callbackReturns _ _ _ _ _ _ thread =>
      rw [thread] at waiting
      cases waiting

theorem wokenSince_readable {start : LooperSystem} {steps : List LooperStep}
    (documented : p.Documented) (woken : WokenSince p start steps) :
    0 < (final (LooperSystem.step p) start steps).wakePipe := by
  obtain ⟨before, call, after, timeoutMillis, timeout, chosen, rfl, wakes, waiting, sleeps⟩ := woken
  rw [final_append, final_cons]
  generalize final (LooperSystem.step p) start before = s at waiting wakes
  have called : (s.step p call).1.thread = s.thread ∧ 0 < (s.step p call).1.wakePipe := by
    rcases wakes with rfl | ⟨rfl, waker⟩
    · exact ⟨rfl, wake_signalled documented.pipe⟩
    · rw [LooperSystem.step, if_pos waker]
      exact ⟨rfl, wake_signalled documented.pipe⟩
  -- the bytes stay in the pipe until `epoll_wait` has returned
  refine (@history_invariant _ _ _ (LooperSystem.step p) (fun _ s =>
    s.thread = .waiting timeoutMillis timeout chosen ∧ 0 < s.wakePipe)
    (fun e => ∀ polled, e ≠ .epollReturns polled) ?_ _ after
    ⟨called.1.trans waiting, called.2⟩ ?_).2
  · rintro _ s e ⟨waiting, readable⟩ sleeps
    obtain ⟨thread, more⟩ := looperStep_moves.asleep (p := p) waiting sleeps
    exact ⟨thread.trans waiting, readable.trans_le more⟩
  · rintro e member polled rfl
    exact sleeps polled member

/-- No wake-up is lost while the thread waits in `epoll_wait`. Where `wake` has been called since,
its pipe is readable. Where it is not, and no sender is on its way to it, the wait ends in time
for every message in the queue that an `int` of milliseconds could reach when it was chosen. -/
theorem looper_no_lost_wakeup (p : Platform) (documented : p.Documented) (allowNonCallbacks : Bool)
    (now : Int) (steps : List LooperStep) (timed : ∀ e ∈ steps, e.Timed)
    (timeoutMillis timeout chosen : Int)
    (waiting : (final (LooperSystem.step p) (LooperSystem.create p allowNonCallbacks now)
      steps).thread = .waiting timeoutMillis timeout chosen) :
    let start := LooperSystem.create p allowNonCallbacks now
    let s := final (LooperSystem.step p) start steps
    (WokenSince p start steps → 0 < s.wakePipe) ∧
    (0 < s.wakePipe ∨ 0 < s.wakers ∨ ∀ envelope ∈ s.looper.mMessageEnvelopes,
      envelope.uptime - chosen ≤ (intMax - 1) * 1000000 →
        EndsInTime chosen timeout envelope.uptime) := by
  intro first s
  have start : Woken p (LooperSystem.create p allowNonCallbacks now) := by
    refine ⟨.nil, by simp [LooperSystem.create], rfl, fun _ => .inr (.inr ?_), ?_⟩
    · simp [LooperSystem.create]
    · intro _ _ _ thread
      cases thread
  have woken : Woken p s := by
    refine @history_invariant _ _ _ (LooperSystem.step p) (fun _ s => Woken p s)
      LooperStep.Timed ?_ _ steps start timed
    intro _ s e woken timed
    exact looperStep_moves.woken documented woken timed
  have awake : isSending s.thread = false := by
    rw [waiting]
    rfl
  refine ⟨wokenSince_readable documented, ?_⟩
  rcases woken.signalled awake with full | waking | told
  · exact .inl full
  · exact .inr (.inl waking)
  · refine .inr (.inr ?_)
    intro envelope member near
    rw [woken.chosen _ _ _ waiting]
    exact adjusted_inTime (s := { s with clock := chosen }) documented (told envelope member)
      (woken.timed envelope member) near

theorem plain_documented : Platform.plain.Documented where
  past now due past := if_pos past
  near now due future near := by
    unfold Platform.plain
    dsimp only
    rw [if_neg (by omega), if_pos near]
  far now due far := by
    unfold Platform.plain intMax at *
    dsimp only
    rw [if_neg (by omega), if_neg (by omega)]
  pipe := by decide

def waitingSteps : List LooperStep :=
  [.sendMessageAtTime 5000000 1 ⟨0⟩, .wakes, .pollOnce (-1), .loops, .epollReturns (.events [(3, 1)]),
    .locks, .calls, .loops, .pollOnce (-1), .loops]

theorem waitingSteps_thread : (final (LooperSystem.step .plain)
    (LooperSystem.create .plain true 0) waitingSteps).thread = .waiting (-1) 5 0 := rfl

theorem looper_no_lost_wakeup_waiting :
    let start := LooperSystem.create .plain true 0
    let s := final (LooperSystem.step .plain) start waitingSteps
    let woken := final (LooperSystem.step .plain) start (waitingSteps ++ [.wake])
    (0 < s.wakePipe ∨ 0 < s.wakers ∨ ∀ envelope ∈ s.looper.mMessageEnvelopes,
      envelope.uptime - 0 ≤ (intMax - 1) * 1000000 → EndsInTime 0 5 envelope.uptime) ∧
      0 < woken.wakePipe := by
  have timed : ∀ e ∈ waitingSteps ++ [.wake], e.Timed := by
    simp [waitingSteps, LooperStep.Timed, llongMax]
  have asleep : (final (LooperSystem.step .plain) (LooperSystem.create .plain true 0)
      (waitingSteps ++ [.wake])).thread = .waiting (-1) 5 0 := by
    rw [final_append]
    exact waitingSteps_thread
  constructor
  · exact (looper_no_lost_wakeup .plain plain_documented true 0 waitingSteps
      (fun e member => timed e (List.mem_append_left _ member)) _ _ _ waitingSteps_thread).2
  · have signalled :=
      looper_no_lost_wakeup .plain plain_documented true 0 (waitingSteps ++ [.wake]) timed
    exact (signalled _ _ _ asleep).1
      ⟨waitingSteps, .wake, [], -1, 5, 0, rfl, .inl rfl, waitingSteps_thread, by simp⟩

end VibeXperia.Proof.Shims

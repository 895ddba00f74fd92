import VibeXperia.Shims.Looper

namespace VibeXperia.Proof.Shims
open Lib VibeXperia.Shims

variable {p : Platform} {s s' : LooperSystem} {e : LooperStep} {effects : List LooperEffect}
variable {timeoutMillis result fd : Int} {fails : Bool}

/-! ## Functions -/

def pushAll (s : LooperSystem) (responses : List Response) : LooperSystem :=
  { s with looper := { s.looper with mResponses := s.looper.mResponses ++ responses } }

theorem pushAll_nil : pushAll s [] = s := by
  rw [pushAll, List.append_nil]

theorem handleEvent_spec (item : Int × Nat) : ∃ wakePipe, s.handleEvent p item =
    { pushAll s (respond p s.looper.mRequests item).toList with wakePipe := wakePipe } := by
  unfold LooperSystem.handleEvent respond
  split_ifs
  · exact ⟨awoken s.wakePipe, by rw [Option.toList_none, pushAll_nil]⟩
  · exact ⟨s.wakePipe, by rw [Option.toList_none, pushAll_nil]⟩
  · cases s.looper.mRequests item.1 with
    | none => exact ⟨s.wakePipe, by rw [Option.map_none, Option.toList_none, pushAll_nil]⟩
    | some request => exact ⟨s.wakePipe, rfl⟩

theorem handlePolled_spec (polled : EpollWait) : ∃ wakePipe, (s.handlePolled p polled).1 =
    { pushAll s (collect p s.looper.mRequests polled) with wakePipe := wakePipe } := by
  have handle (items : List (Int × Nat)) : ∃ wakePipe, items.foldl (LooperSystem.handleEvent p) s =
      { pushAll s (items.filterMap (respond p s.looper.mRequests)) with
        wakePipe := wakePipe } := by
    induction items generalizing s with
    | nil => exact ⟨s.wakePipe, by rw [List.filterMap_nil, pushAll_nil]; rfl⟩
    | cons item items ih =>
        obtain ⟨wakePipe, first⟩ := @handleEvent_spec p s item
        rw [List.foldl_cons, first]
        obtain ⟨wakePipe, rest⟩ := @ih _
        refine ⟨wakePipe, rest.trans ?_⟩
        dsimp only [pushAll]
        cases made : respond p s.looper.mRequests item with
        | none => rw [List.filterMap_cons_none made, Option.toList_none, List.append_nil]
        | some response =>
            rw [List.filterMap_cons_some made, Option.toList_some, List.append_assoc]
            rfl
  cases polled with
  | events items =>
      cases items with
      | nil => exact ⟨s.wakePipe, by rw [collect, List.filterMap_nil, pushAll_nil]; rfl⟩
      | cons item items => exact handle (item :: items)
  | eintr => exact ⟨s.wakePipe, by rw [collect, pushAll_nil]; rfl⟩
  | error => exact ⟨s.wakePipe, by rw [collect, pushAll_nil]; rfl⟩

theorem removeLoop_eq (handler : Nat) (what : Option Int) (envelopes : List MessageEnvelope) :
    removeLoop handler what envelopes envelopes.length =
      envelopes.filter fun envelope => !envelope.isFor handler what := by
  -- the envelopes from `i` on have been looked at
  have loop (front back : List MessageEnvelope) :
      removeLoop handler what (front ++ back) front.length =
        (front.filter fun envelope => !envelope.isFor handler what) ++ back := by
    induction front using List.reverseRecOn generalizing back with
    | nil => rfl
    | append_singleton front envelope ih =>
        rw [List.append_assoc, List.singleton_append, List.length_append, List.length_singleton,
          removeLoop, List.getElem?_append_right le_rfl, Nat.sub_self, List.getElem?_cons_zero,
          Option.any_some, List.filter_append]
        by_cases gone : MessageEnvelope.isFor handler what envelope
        · rw [if_pos gone, List.eraseIdx_append_of_length_le le_rfl, Nat.sub_self,
            List.eraseIdx_cons_zero, ih, List.filter_cons_of_neg (by simp [gone])]
          simp
        · rw [if_neg gone, ih, List.filter_cons_of_pos (by simp [gone])]
          simp
  have whole := loop envelopes []
  rwa [List.append_nil, List.append_nil] at whole

theorem sendIndex_spec (uptime : Int) (envelopes : List MessageEnvelope) :
    ∃ first second, envelopes = first ++ second ∧ sendIndex uptime envelopes = first.length ∧
      (∀ y ∈ first, y.uptime ≤ uptime) ∧ ∀ y ∈ second.head?, uptime < y.uptime := by
  induction envelopes with
  | nil => exact ⟨[], [], rfl, rfl, by simp, by simp⟩
  | cons envelope envelopes ih =>
      rw [sendIndex]
      split_ifs with later
      · obtain ⟨first, second, rfl, index, before, behind⟩ := ih
        refine ⟨envelope :: first, second, rfl, by rw [index]; rfl, ?_, behind⟩
        exact List.forall_mem_cons.mpr ⟨later, before⟩
      · exact ⟨[], envelope :: envelopes, rfl, rfl, by simp, by simpa using later⟩

theorem nextResponse_spec (responses : List Response) (i : Nat) :
    match nextResponse responses i with
    | (j, some response) => i ≤ j ∧ responses.filter Response.returns =
        response :: (responses.drop (j - i)).filter Response.returns
    | (j, none) => j = i + responses.length ∧ responses.filter Response.returns = [] := by
  induction responses generalizing i with
  | nil => exact ⟨rfl, rfl⟩
  | cons first responses ih =>
      rw [nextResponse]
      by_cases ident : first.request.ident ≥ 0
      · rw [if_pos ident]
        refine ⟨Nat.le_succ i, ?_⟩
        have taken : first.returns := decide_eq_true ident
        rw [List.filter_cons_of_pos taken, Nat.add_sub_cancel_left]
        rfl
      · have skipped : ¬ first.returns := by simpa [Response.returns] using ident
        have rest := ih (i + 1)
        rw [if_neg ident, List.filter_cons_of_neg skipped]
        split at rest
        · obtain ⟨further, same⟩ := rest
          refine ⟨by omega, ?_⟩
          rw [same, show ∀ j, i + 1 ≤ j → j - i = (j - (i + 1)) + 1 by omega]
          · rfl
          · exact further
        · exact ⟨by rw [rest.1, List.length_cons]; omega, rest.2⟩

/-! ## Steps -/

/-- How the loop over the pending messages goes on. -/
inductive Delivers (s : LooperSystem) (timeoutMillis result : Int) :
    LooperSystem → List LooperEffect → Prop
  | sends (envelope : MessageEnvelope) (envelopes : List MessageEnvelope)
      (queue : s.looper.mMessageEnvelopes = envelope :: envelopes)
      (due : envelope.uptime ≤ s.clock) :
      Delivers s timeoutMillis result
        { s with
          looper := { s.looper with mMessageEnvelopes := envelopes, mSendingMessage := true }
          thread := .sending timeoutMillis envelope }
        [.delivered envelope s.clock]
  | ends (next : Int) (empty : s.looper.mMessageEnvelopes = [] → next = s.looper.mNextMessageUptime)
      (first : ∀ envelope ∈ s.looper.mMessageEnvelopes.head?, next = envelope.uptime) :
      Delivers s timeoutMillis result
        ({ s with looper := { s.looper with mNextMessageUptime := next } }.setThread
          (.responses timeoutMillis 0 result)) []

theorem deliver_delivers : Delivers s timeoutMillis result
    (s.deliver timeoutMillis result).1 (s.deliver timeoutMillis result).2 := by
  unfold LooperSystem.deliver
  split
  · next queue => exact .ends s.looper.mNextMessageUptime (fun _ => rfl) (by simp [queue])
  · next envelope envelopes queue =>
      split_ifs with due
      · exact .sends envelope envelopes queue due
      · exact .ends envelope.uptime (by simp [queue]) (by simp [queue])

inductive Controls (s : LooperSystem) (op : EpollOp) (fd : Int) (events : Nat)
    (request : Option Request) (returns : Int → LooperEffect) :
    LooperSystem → List LooperEffect → Prop
  | fails : Controls s op fd events request returns s [.epollCtl op fd (-1), returns (-1)]
  | done (allowed : (s.epoll fd).isSome = !decide (op = .add)) (watched : Option Nat)
      (watching : watched = if op = .del then none else some events) :
      Controls s op fd events request returns
        ({ s with epoll := Function.update s.epoll fd watched }.setRequest fd request)
        [.epollCtl op fd 0, returns 1]

theorem epollCtl_spec (epoll : Int → Option Nat) (op : EpollOp) (events : Nat) :
    epollCtl epoll op fd events fails = (-1, epoll) ∨ (epoll fd).isSome = !decide (op = .add) ∧
      epollCtl epoll op fd events fails =
        (0, Function.update epoll fd (if op = .del then none else some events)) := by
  unfold epollCtl
  cases fails with
  | true =>
      left
      cases op with
      | _ => simp
  | false =>
      cases watched : epoll fd with
      | none =>
          cases op with
          | add => exact .inr ⟨rfl, rfl⟩
          | mod => exact .inl rfl
          | del => exact .inl rfl
      | some events =>
          cases op with
          | add => exact .inl rfl
          | mod => exact .inr ⟨rfl, rfl⟩
          | del => exact .inr ⟨rfl, rfl⟩

theorem control_controls {op : EpollOp} {events : Nat} {request : Option Request}
    {returns : Int → LooperEffect} :
    Controls s op fd events request returns
      (s.control op fd events fails request returns).1
      (s.control op fd events fails request returns).2 := by
  unfold LooperSystem.control
  rcases @epollCtl_spec fd fails s.epoll op events with same | ⟨allowed, same⟩
  · rw [same]
    exact .fails
  · rw [same]
    exact .done allowed _ rfl

inductive Adds (s : LooperSystem) (fd ident : Int) (events : Nat) (callback : Option Nat)
    (data : Nat) : LooperSystem → List LooperEffect → Prop
  | refuses : Adds s fd ident events callback data s [.addFdReturns fd (-1)]
  | controls (op : EpollOp) (s' : LooperSystem) (effects : List LooperEffect)
      (known : op = if (s.looper.mRequests fd).isSome then .mod else .add)
      (valid : callback = none → 0 ≤ ident)
      (controls : Controls s op fd (toEpoll events)
        (some ⟨fd, if callback.isNone then ident else pollCallback, callback, data⟩)
        (.addFdReturns fd) s' effects) :
      Adds s fd ident events callback data s' effects

theorem addFd_adds {ident : Int} {events : Nat} {callback : Option Nat} {data : Nat} :
    Adds s fd ident events callback data
      (s.addFd fd ident events callback data fails).1
      (s.addFd fd ident events callback data fails).2 := by
  unfold LooperSystem.addFd
  by_cases forbidden : callback.isNone && !s.looper.mAllowNonCallbacks
  · rw [if_pos forbidden]
    exact .refuses
  by_cases unnamed : callback.isNone && ident < 0
  · rw [if_neg forbidden, if_pos unnamed]
    exact .refuses
  rw [if_neg forbidden, if_neg unnamed]
  have valid : callback = none → 0 ≤ ident := by
    rintro rfl
    simpa using unnamed
  dsimp only
  cases registered : s.looper.mRequests fd with
  | none => exact .controls .add _ _ (by simp [registered]) valid control_controls
  | some request => exact .controls .mod _ _ (by simp [registered]) valid control_controls

inductive Removes (s : LooperSystem) (fd : Int) : LooperSystem → List LooperEffect → Prop
  | unknown (none : s.looper.mRequests fd = none) : Removes s fd s [.removeFdReturns fd 0]
  | controls (request : Request) (s' : LooperSystem) (effects : List LooperEffect)
      (known : s.looper.mRequests fd = some request)
      (controls : Controls s .del fd 0 none (.removeFdReturns fd) s' effects) :
      Removes s fd s' effects

theorem removeFd_removes : Removes s fd (s.removeFd fd fails).1 (s.removeFd fd fails).2 := by
  unfold LooperSystem.removeFd
  cases registered : s.looper.mRequests fd with
  | none => exact .unknown registered
  | some request => exact .controls request _ _ registered control_controls

inductive LooperMoves (p : Platform) (s : LooperSystem) :
    LooperStep → LooperSystem → List LooperEffect → Prop
  | nothing (e : LooperStep) : LooperMoves p s e s []
  | pollOnce (timeoutMillis : Int) (thread : s.thread = .outside) :
      LooperMoves p s (.pollOnce timeoutMillis) (s.setThread (.once timeoutMillis 0)) []
  | hands (timeoutMillis result : Int) (i : Nat) (response : Response)
      (thread : s.thread = .once timeoutMillis result)
      (next : (s.looper.mResponses.drop s.looper.mResponseIndex).filter Response.returns =
        response :: (s.looper.mResponses.drop i).filter Response.returns) :
      LooperMoves p s .loops
        { s with looper := { s.looper with mResponseIndex := i }, thread := .outside }
        [.returned response.request.ident (some response)]
  | returns (timeoutMillis result : Int) (i : Nat) (thread : s.thread = .once timeoutMillis result)
      (none : (s.looper.mResponses.drop s.looper.mResponseIndex).filter Response.returns = [])
      (last : (s.looper.mResponses.drop i).filter Response.returns = []) :
      LooperMoves p s .loops
        { s with looper := { s.looper with mResponseIndex := i }, thread := .outside }
        [.returned result Option.none]
  | waits (timeoutMillis : Int) (thread : s.thread = .once timeoutMillis 0)
      (none : (s.looper.mResponses.drop s.looper.mResponseIndex).filter Response.returns = []) :
      LooperMoves p s .loops
        { s with
          looper := { s.looper with mResponses := [], mResponseIndex := 0, mPolling := true }
          thread := .waiting timeoutMillis (s.adjusted p timeoutMillis) s.clock } []
  | epollReturns (timeoutMillis timeout chosen : Int) (polled : EpollWait)
      (thread : s.thread = .waiting timeoutMillis timeout chosen) :
      LooperMoves p s (.epollReturns polled)
        ({ s with looper := { s.looper with mPolling := false } }.setThread
          (.returned timeoutMillis polled)) []
  | locks (timeoutMillis result : Int) (polled : EpollWait) (wakePipe : Nat) (s' : LooperSystem)
      (effects : List LooperEffect) (thread : s.thread = .returned timeoutMillis polled)
      (delivers : Delivers
        { s with
          looper := { s.looper with
            mResponses := s.looper.mResponses ++ collect p s.looper.mRequests polled
            mNextMessageUptime := llongMax }
          wakePipe := wakePipe } timeoutMillis result s' effects) :
      LooperMoves p s .locks s'
        (.pushed (s.looper.mResponses ++ collect p s.looper.mRequests polled) :: effects)
  | handled (timeoutMillis : Int) (envelope : MessageEnvelope) (s' : LooperSystem)
      (effects : List LooperEffect) (thread : s.thread = .sending timeoutMillis envelope)
      (delivers : Delivers { s with looper := { s.looper with mSendingMessage := false } }
        timeoutMillis pollCallback s' effects) :
      LooperMoves p s .handled s' effects
  | calledAll (timeoutMillis result : Int) (i : Nat)
      (thread : s.thread = .responses timeoutMillis i result)
      (all : s.looper.mResponses.length ≤ i) :
      LooperMoves p s .calls (s.setThread (.once timeoutMillis result)) []
  | calls (timeoutMillis result : Int) (i : Nat) (response : Response)
      (thread : s.thread = .responses timeoutMillis i result)
      (here : s.looper.mResponses[i]? = some response) (calls : response.calls)
      (callback : response.request.callback.isSome) :
      LooperMoves p s .calls (s.setThread (.callback timeoutMillis i)) [.handleEvent response]
  | callsNull (timeoutMillis result : Int) (i : Nat) (response : Response)
      (thread : s.thread = .responses timeoutMillis i result)
      (here : s.looper.mResponses[i]? = some response) (calls : response.calls)
      (callback : response.request.callback = none) :
      LooperMoves p s .calls (s.setThread .nullCallback) []
  | skips (timeoutMillis result : Int) (i : Nat) (response : Response)
      (thread : s.thread = .responses timeoutMillis i result)
      (here : s.looper.mResponses[i]? = some response) (other : ¬ response.calls) :
      LooperMoves p s .calls (s.setThread (.responses timeoutMillis (i + 1) result)) []
  | callbackReturns (timeoutMillis : Int) (i : Nat) (callbackResult : Int) (fails : Bool)
      (s' : LooperSystem)
      (effects : List LooperEffect) (thread : s.thread = .callback timeoutMillis i)
      (removes : s' = s ∧ effects = [] ∨ ∃ response, s.looper.mResponses[i]? = some response ∧
        Removes s response.request.fd s' effects) :
      LooperMoves p s (.callbackReturns callbackResult fails)
        ({ s' with looper := { s'.looper with
          mResponses := s'.looper.mResponses.modify i LooperSystem.clearCallback } }.setThread
          (.responses timeoutMillis (i + 1) pollCallback)) effects
  | sends (envelope : MessageEnvelope) (first second : List MessageEnvelope) (wakers : Nat)
      (queue : s.looper.mMessageEnvelopes = first ++ second)
      (before : ∀ y ∈ first, y.uptime ≤ envelope.uptime)
      (behind : ∀ y ∈ second.head?, envelope.uptime < y.uptime)
      (woken : wakers = if s.looper.mSendingMessage = false ∧ first = [] then s.wakers + 1
        else s.wakers) :
      LooperMoves p s (.sendMessageAtTime envelope.uptime envelope.handler envelope.message)
        { s with
          looper := { s.looper with mMessageEnvelopes := first ++ envelope :: second }
          wakers := wakers } [.sent envelope]
  | wakes (waker : 0 < s.wakers) :
      LooperMoves p s .wakes ({ s with wakers := s.wakers - 1 }.wake p) []
  | wake : LooperMoves p s .wake (s.wake p) []
  | removes (handler : Nat) (what : Option Int) :
      LooperMoves p s (.removeMessages handler what)
        { s with looper := { s.looper with
          mMessageEnvelopes := s.looper.mMessageEnvelopes.filter fun envelope =>
            !envelope.isFor handler what } } [.removed handler what]
  | addFd (fd ident : Int) (events : Nat) (callback : Option Nat) (data : Nat)
      (fails : Bool) (s' : LooperSystem) (effects : List LooperEffect)
      (adds : Adds s fd ident events callback data s' effects) :
      LooperMoves p s (.addFd fd ident events callback data fails) s' effects
  | removeFd (fd : Int) (fails : Bool) (s' : LooperSystem) (effects : List LooperEffect)
      (removes : Removes s fd s' effects) :
      LooperMoves p s (.removeFd fd fails) s' effects
  | time (now : Int) : LooperMoves p s (.time now) { s with clock := max s.clock now } []

theorem once_moves (thread : s.thread = .once timeoutMillis result) :
    LooperMoves p s .loops (s.once p timeoutMillis result).1 (s.once p timeoutMillis result).2 := by
  unfold LooperSystem.once
  have next := nextResponse_spec (s.looper.mResponses.drop s.looper.mResponseIndex)
    s.looper.mResponseIndex
  dsimp only
  split
  · next i response found =>
      rw [found] at next
      refine .hands timeoutMillis result i response thread ?_
      rw [next.2, List.drop_drop, Nat.add_sub_cancel' next.1]
  · next i found =>
      rw [found] at next
      split_ifs with waits
      · refine .returns timeoutMillis result i thread next.2 ?_
        rw [List.drop_eq_nil_of_le, List.filter_nil]
        have := next.1
        rw [List.length_drop] at this
        omega
      · obtain rfl : result = 0 := not_not.mp waits
        exact .waits timeoutMillis thread next.2

theorem looperStep_moves : LooperMoves p s e (s.step p e).1 (s.step p e).2 := by
  cases e with
  | pollOnce timeoutMillis =>
      unfold LooperSystem.step LooperSystem.threadStep
      cases thread : s.thread with
      | outside => exact .pollOnce timeoutMillis thread
      | _ => exact .nothing _
  | loops =>
      unfold LooperSystem.step LooperSystem.threadStep
      cases thread : s.thread with
      | once timeoutMillis result => exact once_moves thread
      | _ => exact .nothing _
  | epollReturns polled =>
      unfold LooperSystem.step LooperSystem.threadStep
      cases thread : s.thread with
      | waiting timeoutMillis timeout chosen =>
          exact .epollReturns timeoutMillis timeout chosen polled thread
      | _ => exact .nothing _
  | locks =>
      unfold LooperSystem.step LooperSystem.threadStep
      cases thread : s.thread with
      | returned timeoutMillis polled =>
          obtain ⟨wakePipe, handled⟩ := @handlePolled_spec p s polled
          dsimp only [LooperSystem.locked]
          rw [handled]
          exact .locks timeoutMillis _ polled wakePipe _ _ thread deliver_delivers
      | _ => exact .nothing _
  | handled =>
      unfold LooperSystem.step LooperSystem.threadStep
      cases thread : s.thread with
      | sending timeoutMillis envelope =>
          exact .handled timeoutMillis envelope _ _ thread deliver_delivers
      | _ => exact .nothing _
  | calls =>
      unfold LooperSystem.step LooperSystem.threadStep
      cases thread : s.thread with
      | responses timeoutMillis i result =>
          dsimp only [LooperSystem.call]
          cases here : s.looper.mResponses[i]? with
          | none =>
              exact .calledAll timeoutMillis result i thread (List.getElem?_eq_none_iff.mp here)
          | some response =>
              dsimp only
              split_ifs with calls
              · have calls : response.calls := decide_eq_true calls
                cases callback : response.request.callback with
                | none => exact .callsNull timeoutMillis result i response thread here calls callback
                | some function =>
                    refine .calls timeoutMillis result i response thread here calls ?_
                    rw [callback]
                    rfl
              · refine .skips timeoutMillis result i response thread here ?_
                simpa [Response.calls] using calls
      | _ => exact .nothing _
  | callbackReturns callbackResult fails =>
      unfold LooperSystem.step LooperSystem.threadStep
      cases thread : s.thread with
      | callback timeoutMillis i =>
          dsimp only [LooperSystem.called]
          cases here : s.looper.mResponses[i]? with
          | none => exact .callbackReturns timeoutMillis i callbackResult fails s [] thread (.inl ⟨rfl, rfl⟩)
          | some response =>
              by_cases unregisters : callbackResult = 0
              · dsimp only
                rw [if_pos unregisters]
                exact .callbackReturns timeoutMillis i callbackResult fails _ _ thread
                  (.inr ⟨response, here, removeFd_removes⟩)
              · dsimp only
                rw [if_neg unregisters]
                exact .callbackReturns timeoutMillis i callbackResult fails s [] thread (.inl ⟨rfl, rfl⟩)
      | _ => exact .nothing _
  | sendMessageAtTime uptime handler message =>
      obtain ⟨first, second, queue, index, before, behind⟩ :=
        sendIndex_spec uptime s.looper.mMessageEnvelopes
      unfold LooperSystem.step LooperSystem.sendMessageAtTime
      dsimp only
      rw [index, queue, insertIdx_length_append]
      refine .sends ⟨uptime, handler, message⟩ first second _ queue before behind ?_
      simp [List.length_eq_zero_iff]
  | wakes =>
      unfold LooperSystem.step
      dsimp only
      split_ifs with waker
      · exact .wakes waker
      · exact .nothing _
  | wake => exact .wake
  | removeMessages handler what =>
      unfold LooperSystem.step LooperSystem.removeMessages
      dsimp only
      rw [removeLoop_eq]
      exact .removes handler what
  | addFd fd ident events callback data fails =>
      exact .addFd fd ident events callback data fails _ _ addFd_adds
  | removeFd fd fails => exact .removeFd fd fails _ _ removeFd_removes
  | time now => exact .time now

end VibeXperia.Proof.Shims

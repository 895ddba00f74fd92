import VibeXperia.Agps.Objects
import VibeXperia.Proof.Agps.Sharing
import VibeXperia.Proof.Agps.Store

namespace VibeXperia.Proof.Agps
open VibeXperia.Agps VibeXperia.Agps.Heap VibeXperia.Gps VibeXperia.Lib

/-! ## Freed memory that reads as before -/

def remember (was : Addr → Subscriber) : Stale := fun _ => was

/-- The objects of `h` are those that `was` has, and its list stays within `nodes`. -/
structure Remembered (was : Addr → Subscriber) (nodes : List Addr) (h : Heap) : Prop where
  store : ∀ p s, h.store p = some s → was p = s
  within : h.mSubscribers ⊆ nodes

def Target.on (was : Addr → Subscriber) : Target → Receiver
  | .rcver s => .rcver (was s)
  | .broadcastAll => .broadcastAll
  | .broadcastActive => .broadcastActive
  | .broadcastInactive => .broadcastInactive

def StoreNotification.on (was : Addr → Subscriber) (n : StoreNotification) : Notification :=
  ⟨Target.on was n.target, n.rsrcStatus, n.postNotifyDelete⟩

/-- The machine on values in the middle of the same event, with `list` as its subscribers. -/
def mirrorAt (m : AgpsStateMachine) (list : List Subscriber) (h : Heap) : Act :=
  ⟨{ m with mSubscribers := list }, h.log.map (StoreCall.effect m)⟩

def mirror (was : Addr → Subscriber) (m : AgpsStateMachine) (h : Heap) : Act :=
  mirrorAt m (h.mSubscribers.map was) h

structure Untouched (h h' : Heap) : Prop where
  store : h'.store = h.store
  mSubscribers : h'.mSubscribers = h.mSubscribers

/-- Nothing but lookups. -/
structure OnlyLooked (h h' : Heap) : Prop extends Untouched h h' where
  log : h'.log = h.log

section Remember
variable {was : Addr → Subscriber} {nodes : List Addr} {m : AgpsStateMachine} {h h' : Heap}
  {n : StoreNotification} {list : List Subscriber} {p s : Addr}

theorem Untouched.trans {h'' : Heap} (first : Untouched h h') (second : Untouched h' h'') :
    Untouched h h'' :=
  ⟨second.store.trans first.store, second.mSubscribers.trans first.mSubscribers⟩

theorem OnlyLooked.refl (h : Heap) : OnlyLooked h h := ⟨⟨rfl, rfl⟩, rfl⟩

theorem OnlyLooked.trans {h'' : Heap} (first : OnlyLooked h h') (second : OnlyLooked h' h'') :
    OnlyLooked h h'' :=
  ⟨first.toUntouched.trans second.toUntouched, second.log.trans first.log⟩

theorem Untouched.remembered (same : Untouched h h') (r : Remembered was nodes h) :
    Remembered was nodes h' :=
  ⟨same.store ▸ r.store, same.mSubscribers ▸ r.within⟩

theorem OnlyLooked.mirrorAt (quiet : OnlyLooked h h') : mirrorAt m list h' = mirrorAt m list h := by
  simp [Agps.mirrorAt, quiet.log]

theorem OnlyLooked.mirror (quiet : OnlyLooked h h') : mirror was m h' = mirror was m h := by
  simp [Agps.mirror, quiet.mSubscribers, quiet.mirrorAt]

theorem lookup_was (r : Remembered was nodes h) (p : Addr) :
    ∃ h', h.lookup (remember was) p = (was p, h') ∧ OnlyLooked h h' := by
  refine ⟨{ h with lookups := h.lookups ++ [⟨p, (h.store p).isSome⟩] }, ?_, ⟨rfl, rfl⟩, rfl⟩
  cases found : h.store p with
  | none => simp [Heap.lookup, found, remember]
  | some s => simp [Heap.lookup, found, r.store p s found]

theorem forMe_was (r : Remembered was nodes h) (n : StoreNotification) (p : Addr) :
    ∃ h', h.forMe (remember was) n p = ((was p).forMe (StoreNotification.on was n), h') ∧
      OnlyLooked h h' := by
  obtain ⟨h₁, first, quiet⟩ := lookup_was r p
  cases target : n.target with
  | rcver s =>
      obtain ⟨h₂, second, quiet'⟩ := lookup_was (quiet.remembered r) s
      refine ⟨h₂, ?_, quiet.trans quiet'⟩
      simp [forMe, target, first, second, Subscriber.forMe, StoreNotification.on, Target.on]
  | broadcastAll =>
      refine ⟨h, ?_, .refl h⟩
      simp [forMe, target, Subscriber.forMe, StoreNotification.on, Target.on]
  | broadcastActive | broadcastInactive =>
      refine ⟨h₁, ?_, quiet⟩
      simp [forMe, target, first, Subscriber.forMe, StoreNotification.on, Target.on]

theorem notifyRsrcStatus_was (r : Remembered was nodes h) (immediate : Immediate (was p))
    (n : StoreNotification) (list : List Subscriber) :
    ∃ b h', h.notifyRsrcStatus (remember was) n p = (b, h') ∧
      Act.notifyRsrcStatus (was p) (StoreNotification.on was n) (mirrorAt m list h) =
        (b, mirrorAt m list h') ∧ Untouched h h' := by
  obtain ⟨h₁, called, quiet⟩ := lookup_was r p
  obtain ⟨h₂, asked, quiet'⟩ := forMe_was (quiet.remembered r) n p
  have quiet := quiet.trans quiet'
  have told : mirrorAt m list (h₂.call (.told p (was p) n.rsrcStatus)) =
      (mirrorAt m list h).effect (.told (was p) n.rsrcStatus
        (Act.statusCall (mirrorAt m list h).machine (was p) n.rsrcStatus)) := by
    simp only [mirrorAt, Heap.call, quiet.log, List.map_append, Act.effect]
    rfl
  unfold Heap.notifyRsrcStatus Act.notifyRsrcStatus
  rw [called]
  dsimp only
  rw [asked]
  dsimp only
  cases heard : (was p).forMe (StoreNotification.on was n) with
  | false => exact ⟨false, h₂, by simp, by simp [quiet.mirrorAt], quiet.toUntouched⟩
  | true =>
      have also : Untouched h (h₂.call (.told p (was p) n.rsrcStatus)) :=
        ⟨quiet.store, quiet.mSubscribers⟩
      have status : (StoreNotification.on was n).rsrcStatus = n.rsrcStatus := rfl
      rw [if_pos rfl, if_pos rfl, if_neg immediate.not_ds, status]
      cases same : n.rsrcStatus with
      | subscribe | max => exact ⟨false, h₂, rfl, by simp [quiet.mirrorAt], quiet.toUntouched⟩
      | unsubscribe | granted | released | denied =>
          rw [same] at told also
          exact ⟨true, _, rfl, by rw [told], also⟩

theorem notifySubscriber_was (r : Remembered was nodes h) (immediate : Immediate (was p))
    (n : StoreNotification) (list : List Subscriber) :
    ∃ b h', h.notifySubscriber (remember was) n p = (b, h') ∧
      Act.notifySubscriber (StoreNotification.on was n) (was p) (mirrorAt m list h) =
        (b, mirrorAt m list h') ∧ Untouched h h' := by
  obtain ⟨b, h', called, called', same⟩ := notifyRsrcStatus_was (m := m) r immediate n list
  refine ⟨b && n.postNotifyDelete, h', ?_, ?_, same⟩
  · rw [Heap.notifySubscriber, called]
  · rw [Act.notifySubscriber, called']
    rfl

theorem search_was {equal : Addr → Heap → Bool × Heap} {equal' : Subscriber → Act → Bool × Act}
    (remove : Bool) (searched : List Addr) (r : Remembered was nodes h)
    (called : ∀ p h, Remembered was nodes h → ∃ b h', equal p h = (b, h') ∧
      equal' (was p) (mirrorAt m list h) = (b, mirrorAt m list h') ∧ Untouched h h') :
    ∃ found rest h', linkedListSearch equal remove searched h = (found, rest, h') ∧
      linkedListSearch equal' remove (searched.map was) (mirrorAt m list h) =
        (found.map was, rest.map was, mirrorAt m list h') ∧
      rest ⊆ searched ∧ Untouched h h' := by
  induction searched generalizing h with
  | nil => exact ⟨none, [], h, rfl, rfl, by simp, rfl, rfl⟩
  | cons p others ih =>
      obtain ⟨b, h₁, first, first', same⟩ := called p h r
      cases b with
      | true =>
          refine ⟨some p, if remove then others else p :: others, h₁, ?_, ?_, ?_, same⟩
          · simp [linkedListSearch, first]
          · cases remove <;> simp [linkedListSearch, first']
          · cases remove <;> simp
      | false =>
          obtain ⟨found, rest, h₂, left, right, within, same'⟩ := ih (same.remembered r)
          refine ⟨found, p :: rest, h₂, ?_, ?_, ?_, same.trans same'⟩
          · simp [linkedListSearch, first, left]
          · simp [linkedListSearch, first', right]
          · exact List.cons_subset_cons p within

theorem find_was (r : Remembered was nodes h) (target : Target) :
    ∃ found h', h.findSubscriber (remember was) target = (found, h') ∧
      (mirror was m h).findSubscriber (Target.on was target) = found.map was ∧ OnlyLooked h h' := by
  let test (p : Addr) : Bool := (was p).forMe (.search (Target.on was target))
  have called : ∀ p ∈ h.mSubscribers, ∀ h', OnlyLooked h h' → ∃ h'', (∀ _ : Unit,
      h'.forMe (remember was) (.search target) p = (test p, h'')) ∧ OnlyLooked h' h'' := by
    intro p _ h' quiet
    obtain ⟨h'', asked, quiet'⟩ := forMe_was (quiet.remembered r) (.search target) p
    exact ⟨h'', fun _ => asked, quiet'⟩
  obtain ⟨h', searched, quiet⟩ := search_related OnlyLooked.refl OnlyLooked.trans false called
  refine ⟨h.mSubscribers.find? test, h', ?_, ?_, quiet⟩
  · simp [findSubscriber, searched ()]
  · rw [findSubscriber_eq]
    exact List.find?_map ..

/-! ## The machine's methods -/

theorem notifyLoop_was (immediate : ∀ p, Immediate (was p)) (n : StoreNotification) (turns : Nat)
    (list : List Subscriber) (r : Remembered was nodes h) :
    Act.notifyLoop (StoreNotification.on was n) turns (h.mSubscribers.map was)
        (mirrorAt m list h) = mirror was m (h.notifyLoop (remember was) n turns) ∧
      Remembered was nodes (h.notifyLoop (remember was) n turns) := by
  induction turns generalizing h with
  | zero => exact ⟨rfl, r⟩
  | succ turns ih =>
      have called (p : Addr) (h : Heap) (r : Remembered was nodes h) :=
        notifySubscriber_was (m := m) r (immediate p) n list
      obtain ⟨found, rest, h₁, searched, mirrored, within, same⟩ :=
        search_was true h.mSubscribers r called
      rw [Heap.notifyLoop, Act.notifyLoop, searched, mirrored]
      have kept : rest ⊆ nodes := List.Subset.trans within r.within
      cases found with
      | none => exact ⟨rfl, same.store ▸ r.store, kept⟩
      | some s =>
          refine @ih ((h₁.setSubscribers rest).delete s) ⟨fun p object found => ?_, kept⟩
          by_cases deleted : p = s
          · simp [Heap.delete, write, deleted] at found
          · refine r.store p object ?_
            rw [← same.store]
            simpa [Heap.delete, write, deleted, setSubscribers] using found

theorem notifySubscribers_was (immediate : ∀ p, Immediate (was p)) (n : StoreNotification)
    (r : Remembered was nodes h) :
    Act.notifySubscribers (StoreNotification.on was n) (mirror was m h) =
        mirror was m (h.notifySubscribers (remember was) n) ∧
      Remembered was nodes (h.notifySubscribers (remember was) n) := by
  unfold Act.notifySubscribers Heap.notifySubscribers
  have delete : (StoreNotification.on was n).postNotifyDelete = n.postNotifyDelete := rfl
  have size : (h.mSubscribers.map was).length = h.mSubscribers.length := List.length_map ..
  have nodes' : (mirror was m h).machine.mSubscribers = h.mSubscribers.map was := rfl
  simp only [delete, nodes', size]
  split_ifs with deletes
  · exact notifyLoop_was immediate n _ _ r
  · have called (p : Addr) (h' : Heap) (r : Remembered was nodes h') :=
      notifySubscriber_was (m := m) r (immediate p) n (h.mSubscribers.map was)
    obtain ⟨found, rest, h₁, searched, mirrored, -, same⟩ :=
      search_was false h.mSubscribers r called
    refine ⟨?_, ?_⟩
    · rw [mirror, mirrored, searched, mirror, same.mSubscribers]
    · rw [searched]
      exact same.remembered r

theorem hasSubscribers_was : (mirror was m h).hasSubscribers = h.hasSubscribers := by
  simp [Act.hasSubscribers, Heap.hasSubscribers, mirror, mirrorAt, linkedListEmpty]

theorem hasActiveSubscribers_was (r : Remembered was nodes h) :
    ∃ h', h.hasActiveSubscribers (remember was) = ((mirror was m h).hasActiveSubscribers, h') ∧
      OnlyLooked h h' := by
  obtain ⟨found, h', searched, mirrored, quiet⟩ := find_was (m := m) r .broadcastActive
  refine ⟨h', ?_, quiet⟩
  rw [Heap.hasActiveSubscribers, searched, Act.hasActiveSubscribers]
  have same : (mirror was m h).findSubscriber .broadcastActive = found.map was := mirrored
  simp [same]

theorem addSubscriber_was {data fresh : Addr} (cloned : was fresh = (was data).clone)
    (inside : fresh ∈ nodes) (r : Remembered was nodes h) :
    Act.addSubscriber (was data) (mirror was m h) =
        mirror was m (h.addSubscriber (remember was) data fresh) ∧
      Remembered was nodes (h.addSubscriber (remember was) data fresh) := by
  obtain ⟨found, h₁, searched, mirrored, quiet⟩ := find_was (m := m) r (.rcver data)
  have same : (mirror was m h).findSubscriber (.rcver (was data)) = found.map was := mirrored
  unfold Act.addSubscriber Heap.addSubscriber
  rw [same, searched]
  cases found with
  | some s => exact ⟨quiet.mirror.symm, quiet.remembered r⟩
  | none =>
      have r₁ := quiet.remembered r
      obtain ⟨h₂, called, quiet'⟩ := lookup_was r₁ data
      dsimp only [Option.map_none]
      rw [called]
      refine ⟨?_, fun p s stored => ?_, ?_⟩
      · simp [mirror, mirrorAt, Heap.setSubscribers, Act.setSubscribers, write, linkedListAdd,
          cloned, quiet.mSubscribers, (quiet.trans quiet').log]
      · by_cases new : p = fresh
        · subst new
          rw [cloned]
          simpa [Heap.setSubscribers, write] using stored
        · refine (quiet'.remembered r₁).store p s ?_
          simpa [Heap.setSubscribers, write, new] using stored
      · exact List.cons_subset.mpr ⟨inside, r₁.within⟩

theorem sendRsrcRequest_was (agps : m.machineClass = .agps) (answers : Answers)
    (action : AGpsStatusValue) (r : Remembered was nodes h) :
    Act.sendRsrcRequest answers action (mirror was m h) =
        (0, mirror was m (h.sendRsrcRequest (remember was) action)) ∧
      Remembered was nodes (h.sendRsrcRequest (remember was) action) := by
  obtain ⟨found, h₁, searched, mirrored, quiet⟩ := find_was (m := m) r .broadcastActive
  have same : (mirror was m h).findSubscriber .broadcastActive = found.map was := mirrored
  have r₁ := quiet.remembered r
  have called (h₂ : Heap) (quiet : OnlyLooked h h₂) (call : StoreCall) :
      (mirror was m h).effect (call.effect m) = mirror was m (h₂.call call) := by
    simp [mirror, mirrorAt, Act.effect, Heap.call, quiet.mSubscribers, quiet.log]
  rw [sendRsrcRequest_agps answers action agps]
  unfold Act.sendAgpsRequest Heap.sendRsrcRequest
  rw [same, searched]
  cases found with
  | none =>
      dsimp only [Option.map_none]
      split_ifs
      · exact ⟨congrArg _ (called h₁ quiet (.requested action none)), r₁.store, r₁.within⟩
      · exact ⟨congrArg _ quiet.mirror.symm, r₁⟩
  | some s =>
      obtain ⟨h₂, object, quiet'⟩ := lookup_was r₁ s
      dsimp only [Option.map_some]
      rw [object]
      split_ifs
      · exact ⟨congrArg _ quiet.mirror.symm, r₁⟩
      · have r₂ := quiet'.remembered r₁
        have sent := called h₂ (quiet.trans quiet') (.requested action (some (was s)))
        exact ⟨congrArg _ sent, r₂.store, r₂.within⟩

theorem leave_was (immediate : ∀ p, Immediate (was p)) (entry : Nat)
    (r : Remembered was nodes h) :
    Agps.leave (was s) entry (mirror was m h) = mirror was m (h.leave (remember was) s) ∧
      Remembered was nodes (h.leave (remember was) s) := by
  obtain ⟨h₁, called, quiet⟩ := lookup_was r s
  unfold Agps.leave Heap.leave
  rw [called]
  dsimp only
  rw [(immediate s).waits, if_neg (by simp), if_neg (by simp), ← quiet.mirror]
  exact notifySubscribers_was immediate (leaving s) (quiet.remembered r)

/-! ## Events -/

/-- `a` is where the machine on values is after what led to the state and the heap `r`. -/
def Mirrors (was : Addr → Subscriber) (nodes : List Addr) (m : AgpsStateMachine)
    (r : AgpsState × Heap) (a : Act) : Prop :=
  a = (mirror was m r.2).setState r.1 ∧ Remembered was nodes r.2

theorem subscribe_was (agps : m.machineClass = .agps) (immediate : ∀ p, Immediate (was p))
    (answers : Answers) {data fresh : Addr} (cloned : was fresh = (was data).clone)
    (inside : fresh ∈ nodes) (r : Remembered was nodes h) :
    Mirrors was nodes m (h.onRsrcEvent (remember was) m.mState (.subscribe data fresh))
      (onStateEvent answers (.subscribe (was data)) (mirror was m h)) := by
  have state : (mirror was m h).machine.mState = m.mState := rfl
  obtain ⟨added, r₁⟩ := addSubscriber_was (m := m) cloned inside r
  unfold Mirrors onStateEvent
  rw [state]
  cases m.mState with
  | released =>
      obtain ⟨sent, r₂⟩ := sendRsrcRequest_was agps answers .requestAgpsDataConn r₁
      refine ⟨?_, r₂⟩
      simp only [AgpsReleasedState.onRsrcEvent, added, sent, if_true]
      rfl
  | pending => exact ⟨congrArg (Act.setState · .pending) added, r₁⟩
  | releasing => exact ⟨congrArg (Act.setState · .releasing) added, r₁⟩
  | acquired =>
      obtain ⟨b, h₁, told, told', same⟩ := notifyRsrcStatus_was (m := m) r (immediate data)
        ⟨.rcver data, .granted, false⟩ (h.mSubscribers.map was)
      obtain ⟨added, r₂⟩ := addSubscriber_was (m := m) cloned inside (same.remembered r)
      have granted : Act.notifyRsrcStatus (was data) ⟨.rcver (was data), .granted, false⟩
          (mirror was m h) = (b, mirror was m h₁) := by
        rw [mirror, mirror, same.mSubscribers]
        exact told'
      rw [Heap.onRsrcEvent, told]
      refine ⟨?_, r₂⟩
      simp only [AgpsAcquiredState.onRsrcEvent, granted, added]

theorem closed_was (agps : m.machineClass = .agps) (immediate : ∀ p, Immediate (was p))
    (answers : Answers) (status : AgpsRsrcStatus) (r : Remembered was nodes h) :
    let told := h.notifySubscribers (remember was) ⟨.broadcastInactive, status, true⟩
    let active := told.hasActiveSubscribers (remember was)
    let told' := Act.notifySubscribers ⟨.broadcastInactive, status, true⟩ (mirror was m h)
    Mirrors was nodes m
      (if active.1 then
        (.pending, active.2.sendRsrcRequest (remember was) .requestAgpsDataConn)
      else (.released, active.2))
      (let next := if told'.hasActiveSubscribers then
          (AgpsState.pending, (Act.sendRsrcRequest answers .requestAgpsDataConn told').2)
        else (.released, told')
      next.2.setState next.1) := by
  obtain ⟨told, r₁⟩ := notifySubscribers_was (m := m) immediate
    ⟨.broadcastInactive, status, true⟩ r
  have told' : Act.notifySubscribers ⟨.broadcastInactive, status, true⟩ (mirror was m h) = _ := told
  obtain ⟨h₂, asked, quiet⟩ := hasActiveSubscribers_was (m := m) r₁
  dsimp only
  rw [told', asked]
  have r₂ := quiet.remembered r₁
  split_ifs
  · obtain ⟨sent, r₃⟩ := sendRsrcRequest_was agps answers .requestAgpsDataConn r₂
    rw [← quiet.mirror, sent]
    exact ⟨rfl, r₃⟩
  · exact ⟨by rw [quiet.mirror], r₂⟩

def StoreEvent.report : StoreEvent → Option RsrcEvent
  | .granted => some .granted
  | .released => some .released
  | .denied => some .denied
  | _ => none

theorem report_was (agps : m.machineClass = .agps) (immediate : ∀ p, Immediate (was p))
    (answers : Answers) {event : StoreEvent} {event' : RsrcEvent}
    (report : StoreEvent.report event = some event') (r : Remembered was nodes h) :
    Mirrors was nodes m (h.onRsrcEvent (remember was) m.mState event)
      (onStateEvent answers event' (mirror was m h)) := by
  have state : (mirror was m h).machine.mState = m.mState := rfl
  have told (n : StoreNotification) := notifySubscribers_was (m := m) immediate n r
  have closed (status : AgpsRsrcStatus) :=
    closed_was (m := m) agps immediate answers status r
  unfold onStateEvent
  rw [state]
  cases event with
  | subscribe | unsubscribe => cases report
  | granted =>
      cases report
      cases m.mState with
      | pending =>
          obtain ⟨same, r₁⟩ := told ⟨.broadcastActive, .granted, false⟩
          exact ⟨congrArg (Act.setState · .acquired) same, r₁⟩
      | released | acquired | releasing => exact ⟨rfl, r⟩
  | released =>
      cases report
      cases m.mState with
      | acquired =>
          obtain ⟨same, r₁⟩ := told ⟨.broadcastAll, .released, true⟩
          exact ⟨congrArg (Act.setState · .released) same, r₁⟩
      | releasing => exact closed .released
      | released | pending => exact ⟨rfl, r⟩
  | denied =>
      cases report
      cases m.mState with
      | pending =>
          obtain ⟨same, r₁⟩ := told ⟨.broadcastAll, .denied, true⟩
          exact ⟨congrArg (Act.setState · .released) same, r₁⟩
      | releasing => exact closed .denied
      | released | acquired => exact ⟨rfl, r⟩

theorem checkLeft_was (agps : m.machineClass = .agps) (answers : Answers) (state : AgpsState)
    (r : Remembered was nodes h) :
    Mirrors was nodes m (h.checkLeft (remember was) state)
      (let left := mirror was m h
      let next := if !left.hasSubscribers then
          (AgpsState.released, (Act.sendRsrcRequest answers .releaseAgpsDataConn left).2)
        else if !left.hasActiveSubscribers then
          (.releasing, (Act.sendRsrcRequest answers .releaseAgpsDataConn left).2)
        else (state, left)
      next.2.setState next.1) := by
  unfold Heap.checkLeft
  dsimp only
  rw [hasSubscribers_was]
  obtain ⟨h₁, asked, quiet⟩ := hasActiveSubscribers_was (m := m) r
  have r₁ := quiet.remembered r
  rw [asked]
  split_ifs
  · obtain ⟨sent, r₂⟩ := sendRsrcRequest_was agps answers .releaseAgpsDataConn r
    rw [sent]
    exact ⟨rfl, r₂⟩
  · obtain ⟨sent, r₂⟩ := sendRsrcRequest_was agps answers .releaseAgpsDataConn r₁
    rw [← quiet.mirror, sent]
    exact ⟨rfl, r₂⟩
  · exact ⟨by rw [quiet.mirror], r₁⟩

theorem onUnsubscribe_was (agps : m.machineClass = .agps) (immediate : ∀ p, Immediate (was p))
    (answers : Answers) (entry : Nat) (r : Remembered was nodes h) :
    Mirrors was nodes m (h.onUnsubscribe (remember was) m.mState s)
      (onStateEvent answers (.unsubscribe (was s) entry) (mirror was m h)) := by
  have state : (mirror was m h).machine.mState = m.mState := rfl
  obtain ⟨left, r₁⟩ := leave_was (m := m) (s := s) immediate entry r
  have checked (state : AgpsState) := checkLeft_was (m := m) agps answers state r₁
  unfold onStateEvent
  rw [state]
  cases m.mState with
  | released =>
      obtain ⟨b, h₁, told, told', same⟩ := notifyRsrcStatus_was (m := m) r (immediate s)
        ⟨.rcver s, .unsubscribe, false⟩ (h.mSubscribers.map was)
      have gone : Act.notifyRsrcStatus (was s) ⟨.rcver (was s), .unsubscribe, false⟩
          (mirror was m h) = (b, mirror was m h₁) := by
        rw [mirror, mirror, same.mSubscribers]
        exact told'
      rw [Heap.onUnsubscribe, told]
      simp only [AgpsReleasedState.onRsrcEvent, gone]
      exact ⟨rfl, same.remembered r⟩
  | pending =>
      simp only [AgpsPendingState.onRsrcEvent, left]
      exact checked .pending
  | acquired =>
      simp only [AgpsAcquiredState.onRsrcEvent, left]
      exact checked .acquired
  | releasing =>
      simp only [AgpsReleasingState.onRsrcEvent, left, hasSubscribers_was, Heap.onUnsubscribe]
      split_ifs <;> exact ⟨rfl, r₁⟩

theorem unsubscribe_was (agps : m.machineClass = .agps) (immediate : ∀ p, Immediate (was p))
    (answers : Answers) (data : Addr) (r : Remembered was nodes h) :
    Mirrors was nodes m (h.onEvent (remember was) m.mState (.unsubscribe data))
      (AgpsStateMachine.unsubscribeRsrc answers (was data) (mirror was m h)).2 := by
  obtain ⟨found, h₁, searched, mirrored, quiet⟩ := find_was (m := m) r (.rcver data)
  have same : (mirror was m h).findSubscriber (.rcver (was data)) = found.map was := mirrored
  unfold AgpsStateMachine.unsubscribeRsrc Heap.onEvent
  dsimp only
  rw [same, searched]
  cases found with
  | none =>
      refine ⟨?_, quiet.remembered r⟩
      rw [quiet.mirror]
      exact (setState_self _ rfl).symm
  | some s =>
      dsimp only [Option.map_some]
      rw [← quiet.mirror]
      exact onUnsubscribe_was agps immediate answers _ (quiet.remembered r)

end Remember

/-! ## A message -/

structure Whole (m : StoreMachine) : Prop where
  distinct : m.mSubscribers.Nodup
  live : ∀ p ∈ m.mSubscribers, (m.store p).isSome
  immediate : ∀ p s, m.store p = some s → Immediate s

def objectOf (m : StoreMachine) (e : StoreMsg) (p : Addr) : Subscriber :=
  let caller := e.msg.client.getD (.atl 0 false)
  if p = e.fresh then caller.clone else ((m.heap e).store p).getD (.atl 0 false)

section Message
variable {m : StoreMachine} {e : StoreMsg}

@[simp] theorem accept_mState (msg : AgpsMsg) : (m.accept msg).mState = m.mState := by
  cases msg <;> rfl

@[simp] theorem accept_heap (msg : AgpsMsg) : (m.accept msg).heap e = m.heap e := by
  cases msg <;> rfl

@[simp] theorem heap_mSubscribers : (m.heap e).mSubscribers = m.mSubscribers := by
  cases client : e.msg.client <;> simp [StoreMachine.heap, client, Heap.new, write]

@[simp] theorem heap_log : (m.heap e).log = [] := by
  cases client : e.msg.client <;> simp [StoreMachine.heap, client, Heap.new, write]

@[simp] theorem heap_lookups : (m.heap e).lookups = [] := by
  cases client : e.msg.client <;> simp [StoreMachine.heap, client, Heap.new, write]

theorem heap_store {p : Addr} (other : p ≠ e.data) : (m.heap e).store p = m.store p := by
  cases client : e.msg.client <;> simp [StoreMachine.heap, client, Heap.new, write, other]

theorem heap_data {s : Subscriber} (client : e.msg.client = some s) :
    (m.heap e).store e.data = some s := by
  simp [StoreMachine.heap, client, write]

theorem heap_free (placed : e.Placed m) : (m.heap e).store e.fresh = none := by
  rw [heap_store placed.apart.symm, placed.fresh]

theorem not_data {p : Addr} (placed : e.Placed m) (stored : (m.store p).isSome) : p ≠ e.data := by
  rintro rfl
  simp [placed.data] at stored

theorem leave_fields (m : StoreMachine) (e : StoreMsg) (state : AgpsState) (h : Heap) :
    (m.leave e state h).mSubscribers = h.mSubscribers ∧
      (∀ p, p ≠ e.data → (m.leave e state h).store p = h.store p) ∧
      ∀ p s, (m.leave e state h).store p = some s → h.store p = some s := by
  cases client : e.msg.client with
  | none => simp [StoreMachine.leave, client]
  | some caller =>
      refine ⟨by simp [StoreMachine.leave, client, Heap.delete, write], fun p other => ?_,
        fun p s found => ?_⟩
      · simp [StoreMachine.leave, client, Heap.delete, write, other]
      · by_cases own : p = e.data
        · simp [StoreMachine.leave, client, Heap.delete, write, own] at found
        · simpa [StoreMachine.leave, client, Heap.delete, write, own] using found

theorem leave_view (m : StoreMachine) (e : StoreMsg) (state : AgpsState) (h : Heap) :
    (m.leave e state h).view =
      { m.view with
        mState := state
        mSubscribers := (m.leave e state h).mSubscribers.filterMap (m.leave e state h).store } :=
  rfl

/-- Of the store's objects, all are those of clients while the event lasts. -/
theorem heap_immediate (whole : Whole m) (client : FromClients e.msg) (p : Addr) (s : Subscriber)
    (found : (m.heap e).store p = some s) : Immediate s := by
  by_cases own : p = e.data
  · subst own
    cases caller : e.msg.client with
    | none =>
        rw [StoreMachine.heap, caller] at found
        exact whole.immediate _ s found
    | some s' =>
        rw [heap_data caller] at found
        cases found
        exact client s caller
  · rw [heap_store own] at found
    exact whole.immediate p s found

theorem immediate_objectOf (whole : Whole m) (client : FromClients e.msg) (p : Addr) :
    Immediate (objectOf m e p) := by
  have anybody : Immediate (.atl 0 false) := .inl rfl
  unfold objectOf
  dsimp only
  split_ifs with new
  · cases caller : e.msg.client with
    | none => exact anybody
    | some s =>
        rw [Option.getD_some, (client s caller).clone]
        exact client s caller
  · cases found : (m.heap e).store p with
    | none => exact anybody
    | some s => exact heap_immediate whole client p s found

theorem remembered_heap (placed : e.Placed m) :
    Remembered (objectOf m e) (e.fresh :: m.mSubscribers) (m.heap e) := by
  refine ⟨fun p s found => ?_, by simp⟩
  have other : p ≠ e.fresh := by
    rintro rfl
    simp [heap_free placed] at found
  simp [objectOf, other, found]

theorem clients_heap (whole : Whole m) (placed : e.Placed m) (client : FromClients e.msg) :
    Clients (m.heap e) e.event := by
  have live : ∀ p ∈ (m.heap e).mSubscribers, Live (m.heap e) p := by
    intro p member
    rw [heap_mSubscribers] at member
    have stored := whole.live p member
    rwa [Live, heap_store (not_data placed stored)]
  refine ⟨⟨by simpa using whole.distinct, live, by simp⟩, fun p member => ?_, ?_, ?_⟩
  · obtain ⟨s, found⟩ := Option.isSome_iff_exists.mp (live p member)
    simpa [objectAt, found] using heap_immediate whole client p s found
  · intro p caller
    cases msg : e.msg <;> simp [StoreMsg.event, msg, StoreEvent.data] at caller
    all_goals
      subst caller
      simp [Live, heap_data (congrArg AgpsMsg.client msg)]
  · intro p fresh
    cases msg : e.msg <;> simp [StoreMsg.event, msg, StoreEvent.fresh] at fresh
    subst fresh
    exact heap_free placed

theorem filterMap_store {store : Addr → Option Subscriber} {was : Addr → Subscriber}
    {list : List Addr} (live : ∀ p ∈ list, (store p).isSome)
    (same : ∀ p s, store p = some s → was p = s) : list.filterMap store = list.map was := by
  rw [← List.filterMap_eq_map]
  refine List.filterMap_congr fun p member => ?_
  obtain ⟨s, found⟩ := Option.isSome_iff_exists.mp (live p member)
  rw [found, Function.comp_apply, same p s found]

theorem mirror_heap (whole : Whole m) (placed : e.Placed m) :
    mirror (objectOf m e) (m.accept e.msg).view (m.heap e) = ⟨(m.accept e.msg).view, []⟩ := by
  have listed : m.mSubscribers.filterMap m.store = m.mSubscribers.map (objectOf m e) := by
    refine filterMap_store whole.live fun p s found => (remembered_heap placed).store p s ?_
    rwa [heap_store (not_data placed (by simp [found]))]
  have list : (m.accept e.msg).view.mSubscribers = m.mSubscribers.filterMap m.store := by
    cases e.msg <;> rfl
  rw [mirror, mirrorAt, heap_mSubscribers, ← listed, ← list, heap_log]
  rfl

theorem event_was (whole : Whole m) (placed : e.Placed m) (client : FromClients e.msg) :
    Mirrors (objectOf m e) (e.fresh :: m.mSubscribers) (m.accept e.msg).view
      ((m.heap e).onEvent (remember (objectOf m e)) m.mState e.event)
      (e.msg.procAct ⟨m.view, []⟩) := by
  have start := mirror_heap whole placed
  have immediate := immediate_objectOf whole client
  have r := remembered_heap placed
  have own (s : Subscriber) (caller : e.msg.client = some s) : objectOf m e e.data = s := by
    simp [objectOf, placed.apart, heap_data caller]
  cases msg : e.msg with
  | subscribe s =>
      have caller := own s (congrArg AgpsMsg.client msg)
      have cloned : objectOf m e e.fresh = (objectOf m e e.data).clone := by
        rw [caller]
        simp [objectOf, msg, AgpsMsg.client]
      have followed := subscribe_was (m := (m.accept e.msg).view) rfl immediate noAnswers cloned
        (by simp) r
      rw [start, caller] at followed
      rw [msg] at followed
      rw [StoreMsg.event, msg]
      exact followed
  | unsubscribe s =>
      have caller := own s (congrArg AgpsMsg.client msg)
      have followed := unsubscribe_was (m := (m.accept e.msg).view) rfl immediate noAnswers e.data r
      rw [start, caller] at followed
      rw [msg] at followed
      rw [StoreMsg.event, msg]
      exact followed
  | openSuccess apn bearerType =>
      have report : StoreEvent.report .granted = some .granted := rfl
      have followed := report_was (m := (m.accept e.msg).view) rfl immediate noAnswers report r
      rw [start] at followed
      rw [msg] at followed
      rw [StoreMsg.event, msg]
      exact followed
  | closed =>
      have report : StoreEvent.report .released = some .released := rfl
      have followed := report_was (m := (m.accept e.msg).view) rfl immediate noAnswers report r
      rw [start] at followed
      rw [msg] at followed
      rw [StoreMsg.event, msg]
      exact followed
  | openFailed =>
      have report : StoreEvent.report .denied = some .denied := rfl
      have followed := report_was (m := (m.accept e.msg).view) rfl immediate noAnswers report r
      rw [start] at followed
      rw [msg] at followed
      rw [StoreMsg.event, msg]
      exact followed

/-- Where no key is outlived, a message does what it does on values, whatever freed memory holds. -/
theorem proc_view (whole : Whole m) (placed : e.Placed m) (client : FromClients e.msg)
    (kept : e.KeyKept m) :
    m.view.proc e.msg = ((m.proc e).1.view, (m.proc e).2) ∧ Whole (m.proc e).1 := by
  obtain ⟨r, same, sound⟩ := onEvent_settled (clients_heap whole placed client) kept
  obtain ⟨acted, remembered⟩ := event_was whole placed client
  rw [same] at acted remembered
  have reached : m.proc e = ((m.accept e.msg).leave e r.1 r.2,
      r.2.log.map (StoreCall.effect (m.accept e.msg).view)) := by
    simp [StoreMachine.proc, same]
  obtain ⟨nodes, stored, within⟩ := leave_fields (m.accept e.msg) e r.1 r.2
  have other : ∀ p ∈ r.2.mSubscribers, p ≠ e.data := by
    intro p member
    rcases List.mem_cons.mp (remembered.within member) with rfl | old
    · exact placed.apart.symm
    · exact not_data placed (whole.live p old)
  have live : ∀ p ∈ r.2.mSubscribers,
      (((m.accept e.msg).leave e r.1 r.2).store p).isSome := by
    intro p member
    rw [stored p (other p member)]
    exact sound.live p member
  have objects : ∀ p s, ((m.accept e.msg).leave e r.1 r.2).store p = some s →
      objectOf m e p = s := fun p s found => remembered.store p s (within p s found)
  have list := filterMap_store live objects
  rw [reached]
  refine ⟨?_, ?_, ?_, ?_⟩
  · rw [AgpsStateMachine.proc, acted, leave_view, nodes, list]
    rfl
  · rw [nodes]
    exact sound.distinct
  · rw [nodes]
    exact live
  · intro p s found
    rw [← objects p s found]
    exact immediate_objectOf whole client p

end Message

/-! ## Runs -/

theorem new_whole (mType : Int) : Whole (.new mType) where
  distinct := .nil
  live := by simp [StoreMachine.new]
  immediate := by simp [StoreMachine.new]

/-- A run in which no key is outlived is one of the machine on values. -/
theorem run_view (mType : Int) {es : List StoreMsg} (clients : ∀ e ∈ es, FromClients e.msg)
    (placed : ∀ t ∈ trace StoreMachine.proc (.new mType) es, t.event.Placed t.before)
    (kept : ∀ t ∈ trace StoreMachine.proc (.new mType) es, t.event.KeyKept t.before) :
    Whole (final StoreMachine.proc (.new mType) es) ∧
      final AgpsStateMachine.proc (.new mType false) (es.map StoreMsg.msg) =
        (final StoreMachine.proc (.new mType) es).view ∧
      trace AgpsStateMachine.proc (.new mType false) (es.map StoreMsg.msg) =
        (trace StoreMachine.proc (.new mType) es).map viewed := by
  let allowed (m : StoreMachine) (e : StoreMsg) : Prop :=
    e.Placed m ∧ FromClients e.msg ∧ e.KeyKept m
  have run : ∀ t ∈ trace StoreMachine.proc (.new mType) es, allowed t.before t.event :=
    fun t member => ⟨placed t member, clients _ (event_mem_of_mem member), kept t member⟩
  have step (m : StoreMachine) (e : StoreMsg) (whole : Whole m) (h : allowed m e) :=
    proc_view whole h.1 h.2.1 h.2.2
  have keep (m : StoreMachine) (e : StoreMsg) (whole : Whole m) (h : allowed m e) :
      Whole (m.proc e).1 := (step m e whole h).2
  have agrees (m : StoreMachine) (e : StoreMsg) (whole : Whole m) (h : allowed m e) :
      m.view.proc e.msg = ((m.proc e).1.view, (m.proc e).2) := (step m e whole h).1
  exact ⟨(invariant_of_allowed keep (new_whole mType) run).1,
    view_run agrees keep (new_whole mType) run⟩

/-- A machine of ATL or BIT clients, over any run in which no key is outlived. -/
theorem agps_clients {kind : SubscriberKind} (immediate : kind = .atl ∨ kind = .bit) (mType : Int)
    {es : List StoreMsg} (clients : ∀ e ∈ es, FromKind kind e.msg)
    (placed : ∀ t ∈ trace StoreMachine.proc (.new mType) es, t.event.Placed t.before)
    (kept : ∀ t ∈ trace StoreMachine.proc (.new mType) es, t.event.KeyKept t.before) :
    let m := final StoreMachine.proc (.new mType) es
    (∀ p ∈ m.mSubscribers, (m.store p).isSome) ∧
      ClientsServed kind m.view ((trace StoreMachine.proc (.new mType) es).map viewed) := by
  have senders : ∀ e ∈ es, FromClients e.msg :=
    fun e member => (clients e member).clients immediate
  obtain ⟨whole, last, history⟩ := run_view mType senders placed kept
  refine ⟨whole.live, ?_⟩
  rw [← last, ← history]
  apply run_served immediate mType
  intro msg member
  obtain ⟨e, inside, rfl⟩ := List.mem_map.mp member
  exact clients e inside

def sharedRun : List StoreMsg :=
  [⟨.subscribe (.atl 1 false), 9, 1, fun _ _ => .atl 0 false⟩,
    ⟨.openSuccess [] 0, 9, 2, fun _ _ => .atl 0 false⟩,
    ⟨.subscribe (.atl 2 false), 9, 2, fun _ _ => .atl 0 false⟩,
    ⟨.closed, 9, 3, fun _ _ => .atl 0 false⟩,
    ⟨.subscribe (.atl 1 false), 9, 2, fun _ _ => .atl 0 false⟩,
    ⟨.unsubscribe (.atl 1 false), 9, 3, fun _ _ => .atl 0 false⟩]

theorem agps_clients_two :
    (∀ c ∈ [Subscriber.atl 1 false, .atl 2 false], grantedSince c
      ((trace StoreMachine.proc (.new AGPS_TYPE_SUPL) (sharedRun.take 3)).map viewed) = true) ∧
    ∀ t ∈ (trace StoreMachine.proc (.new AGPS_TYPE_SUPL) sharedRun).map viewed,
      ∀ c ∈ t.before.mSubscribers,
        t.outputs.countP (Effect.closes c) = if listed c t.after then 0 else 1 := by
  constructor
  · intro c member
    refine (@agps_clients .atl (.inl rfl) AGPS_TYPE_SUPL (sharedRun.take 3) (by decide)
      (by decide) (by decide)).2.granted (by decide) c ?_
    revert c
    decide
  · exact (agps_clients (.inl rfl) AGPS_TYPE_SUPL (by decide) (by decide) (by decide)).2.closed

def confusedRun : List StoreMsg :=
  [⟨.subscribe (.atl 10 false), 9, 1, fun _ _ => .atl 10 false⟩,
    ⟨.openSuccess [] 0, 9, 2, fun _ _ => .atl 10 false⟩,
    ⟨.subscribe (.atl 20 false), 9, 2, fun _ _ => .atl 10 false⟩,
    ⟨.unsubscribe (.atl 20 false), 9, 3, fun _ _ => .atl 10 false⟩]

/-- The client that stays is told and removed by the other one's unsubscribe. -/
theorem freed_key_removes_another :
    (∀ t ∈ trace StoreMachine.proc (.new AGPS_TYPE_SUPL) confusedRun, t.event.Placed t.before) ∧
      ¬ ClientsServed .atl (final StoreMachine.proc (.new AGPS_TYPE_SUPL) confusedRun).view
        ((trace StoreMachine.proc (.new AGPS_TYPE_SUPL) confusedRun).map viewed) := by
  refine ⟨by decide, fun served => ?_⟩
  have last : ∃ t ∈ (trace StoreMachine.proc (.new AGPS_TYPE_SUPL) confusedRun).map viewed,
      t.event = .unsubscribe (.atl 20 false) ∧
        listed (.atl 10 false) t.after ≠ listed (.atl 10 false) t.before := by decide
  obtain ⟨t, member, event, differs⟩ := last
  exact differs (served.others t member _ (.atl 10 false) event rfl rfl).1

end VibeXperia.Proof.Agps

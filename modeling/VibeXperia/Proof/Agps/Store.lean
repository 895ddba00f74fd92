import VibeXperia.Agps.Store
import VibeXperia.Proof.Agps.Clients
import Mathlib.Data.List.Find
import Mathlib.Data.List.Nodup

namespace VibeXperia.Proof.Agps
open VibeXperia.Agps VibeXperia.Agps.Heap VibeXperia.Gps

/-! ## Lookups of what is there -/

section Live
variable {h h' : Heap} {n : StoreNotification} {p s : Addr}

def Live (h : Heap) (p : Addr) : Prop := (h.store p).isSome = true

def objectAt (h : Heap) (p : Addr) : Subscriber := (h.store p).getD (.atl 0 false)

/-- `h'` has looked up live objects and told some of them since `h`. -/
structure Looked (h h' : Heap) : Prop where
  store : h'.store = h.store
  mSubscribers : h'.mSubscribers = h.mSubscribers
  lookups : ∀ l ∈ h'.lookups, l ∈ h.lookups ∨ l.live = true

theorem Looked.refl (h : Heap) : Looked h h := ⟨rfl, rfl, fun _ => .inl⟩

theorem Looked.trans {h'' : Heap} (first : Looked h h') (second : Looked h' h'') :
    Looked h h'' where
  store := second.store.trans first.store
  mSubscribers := second.mSubscribers.trans first.mSubscribers
  lookups l member := (second.lookups l member).elim (first.lookups l) .inr

theorem lookup_live (live : Live h p) :
    ∃ h', (∀ stale, h.lookup stale p = (objectAt h p, h')) ∧ Looked h h' := by
  obtain ⟨object, found⟩ := Option.isSome_iff_exists.mp live
  refine ⟨{ h with lookups := h.lookups ++ [⟨p, true⟩] }, fun stale => ?_, rfl, rfl, ?_⟩
  · simp [lookup, found, objectAt]
  · intro l member
    rcases List.mem_append.mp member with old | new
    · exact .inl old
    · exact .inr (by simp [List.mem_singleton.mp new])

theorem Looked.live (looked : Looked h h') : Live h' p ↔ Live h p := by
  simp [Live, looked.store]

theorem Looked.objectAt (looked : Looked h h') : objectAt h' p = objectAt h p := by
  simp [Agps.objectAt, looked.store]

def mine (h : Heap) (n : StoreNotification) (p : Addr) : Bool :=
  match n.target with
  | .rcver s => (objectAt h p).equals (objectAt h s)
  | .broadcastAll => true
  | .broadcastActive => !(objectAt h p).isInactive
  | .broadcastInactive => (objectAt h p).isInactive

theorem Looked.mine (looked : Looked h h') : mine h' n = mine h n := by
  funext p
  simp [Agps.mine, looked.objectAt]

def KeyLive (h : Heap) (n : StoreNotification) : Prop := ∀ s, n.target = .rcver s → Live h s

theorem Looked.keyLive (looked : Looked h h') : KeyLive h' n ↔ KeyLive h n := by
  simp [KeyLive, looked.live]

theorem forMe_live (key : KeyLive h n) (live : Live h p) :
    ∃ h', (∀ stale, h.forMe stale n p = (mine h n p, h')) ∧ Looked h h' := by
  obtain ⟨h₁, first, looked⟩ := lookup_live live
  cases target : n.target with
  | rcver s =>
      obtain ⟨h₂, second, looked'⟩ := lookup_live (looked.live.mpr (key s target))
      refine ⟨h₂, fun stale => ?_, looked.trans looked'⟩
      simp [forMe, target, first, second, mine, looked.objectAt]
  | broadcastAll => exact ⟨h, fun stale => by simp [forMe, target, mine], .refl h⟩
  | broadcastActive => exact ⟨h₁, fun stale => by simp [forMe, target, first, mine], looked⟩
  | broadcastInactive => exact ⟨h₁, fun stale => by simp [forMe, target, first, mine], looked⟩

theorem notifySubscriber_live (told : Tellable n.rsrcStatus) (key : KeyLive h n)
    (live : Live h p) :
    ∃ h', (∀ stale, h.notifySubscriber stale n p = (mine h n p && n.postNotifyDelete, h')) ∧
      Looked h h' := by
  obtain ⟨h₁, called, looked⟩ := lookup_live live
  obtain ⟨h₂, asked, looked'⟩ := forMe_live (looked.keyLive.mpr key) (looked.live.mpr live)
  rw [looked.mine] at asked
  cases heard : mine h n p with
  | false =>
      refine ⟨h₂, fun stale => ?_, looked.trans looked'⟩
      simp [notifySubscriber, notifyRsrcStatus, called, asked, heard]
  | true =>
      refine ⟨h₂.call (.told p (objectAt h p) n.rsrcStatus), fun stale => ?_, ?_⟩
      · rcases told with status | status | status | status <;>
          simp [notifySubscriber, notifyRsrcStatus, called, asked, heard, status]
      · exact (looked.trans looked').trans ⟨rfl, rfl, fun _ => .inl⟩

theorem search_related {ι : Type*} {R : Heap → Heap → Prop} (refl : ∀ h, R h h)
    (trans : ∀ {h h' h''}, R h h' → R h' h'' → R h h'')
    {equal : ι → Addr → Heap → Bool × Heap} {test : Addr → Bool} {nodes : List Addr}
    (remove : Bool)
    (called : ∀ p ∈ nodes, ∀ h', R h h' → ∃ h'', (∀ i, equal i p h' = (test p, h'')) ∧ R h' h'') :
    ∃ h', (∀ i, linkedListSearch (equal i) remove nodes h =
      (nodes.find? test, if remove then nodes.eraseP test else nodes, h')) ∧ R h h' := by
  induction nodes generalizing h with
  | nil => exact ⟨h, fun i => by simp [linkedListSearch], refl h⟩
  | cons p rest ih =>
      obtain ⟨h₁, first, related⟩ := called p (by simp) h (refl h)
      cases found : test p with
      | true =>
          refine ⟨h₁, fun i => ?_, related⟩
          simp [linkedListSearch, first, found]
      | false =>
          obtain ⟨h₂, others, related'⟩ := @ih h₁ fun q member h' more =>
            called q (by simp [member]) h' (trans related more)
          refine ⟨h₂, fun i => ?_, trans related related'⟩
          cases remove <;> simp [linkedListSearch, first, found, others]

end Live

/-! ## Sound heaps -/

/-- The nodes of the list have live objects of their own, and all lookups so far were live. -/
structure Sound (h : Heap) : Prop where
  distinct : h.mSubscribers.Nodup
  live : ∀ p ∈ h.mSubscribers, Live h p
  lookups : ∀ l ∈ h.lookups, l.live = true

section Sound
variable {h h' : Heap} {n : StoreNotification} {p s : Addr}

theorem Looked.sound (looked : Looked h h') (sound : Sound h) : Sound h' where
  distinct := looked.mSubscribers ▸ sound.distinct
  live p member := looked.live.mpr (sound.live p (looked.mSubscribers ▸ member))
  lookups l member := (looked.lookups l member).elim (sound.lookups l) id

theorem find_live (sound : Sound h) {target : Target} (key : KeyLive h (.search target)) :
    ∃ h', (∀ stale, h.findSubscriber stale target =
      (h.mSubscribers.find? (mine h (.search target)), h')) ∧ Looked h h' := by
  have called : ∀ p ∈ h.mSubscribers, ∀ h', Looked h h' → ∃ h'', (∀ stale,
      forMe stale (.search target) p h' = (mine h (.search target) p, h'')) ∧ Looked h' h'' := by
    intro p member h' looked
    rw [← looked.mine]
    exact forMe_live (looked.keyLive.mpr key) (looked.live.mpr (sound.live p member))
  obtain ⟨h', searched, looked⟩ := search_related Looked.refl Looked.trans false called
  exact ⟨h', fun stale => by simp [findSubscriber, searched], looked⟩

theorem notify_keep_live (sound : Sound h) (told : Tellable n.rsrcStatus)
    (keep : n.postNotifyDelete = false) (key : KeyLive h n) :
    ∃ h', (∀ stale, h.notifySubscribers stale n = h') ∧ Looked h h' := by
  have called : ∀ p ∈ h.mSubscribers, ∀ h', Looked h h' → ∃ h'', (∀ stale,
      notifySubscriber stale n p h' = (false, h'')) ∧ Looked h' h'' := by
    intro p member h' looked
    have notified := notifySubscriber_live told (looked.keyLive.mpr key)
      (looked.live.mpr (sound.live p member))
    simpa [keep] using notified
  obtain ⟨h', searched, looked⟩ := search_related Looked.refl Looked.trans false called
  exact ⟨h', fun stale => by simp [notifySubscribers, keep, searched], looked⟩

theorem round_live (sound : Sound h) (told : Tellable n.rsrcStatus)
    (delete : n.postNotifyDelete = true) (key : KeyLive h n) :
    ∃ h', (∀ stale, linkedListSearch (notifySubscriber stale n) true h.mSubscribers h =
      (h.mSubscribers.find? (mine h n), h.mSubscribers.eraseP (mine h n), h')) ∧ Looked h h' := by
  have called : ∀ p ∈ h.mSubscribers, ∀ h', Looked h h' → ∃ h'', (∀ stale,
      notifySubscriber stale n p h' = (mine h n p, h'')) ∧ Looked h' h'' := by
    intro p member h' looked
    have notified := notifySubscriber_live told (looked.keyLive.mpr key)
      (looked.live.mpr (sound.live p member))
    simpa [delete, looked.mine] using notified
  obtain ⟨h', searched, looked⟩ := search_related Looked.refl Looked.trans true called
  exact ⟨h', fun stale => by simpa using searched stale, looked⟩

theorem delete_live (different : p ≠ s) : Live (h.delete s) p ↔ Live h p := by
  simp [Live, Heap.delete, write, different]

theorem delete_objectAt (different : p ≠ s) : objectAt (h.delete s) p = objectAt h p := by
  simp [objectAt, Heap.delete, write, different]

theorem Sound.removed (sound : Sound h) {before after : List Addr}
    (split : h.mSubscribers = before ++ p :: after) :
    Sound ((h.setSubscribers (before ++ after)).delete p) := by
  have distinct := sound.distinct
  rw [split, List.nodup_middle, List.nodup_cons] at distinct
  refine ⟨distinct.2, fun q member => ?_, sound.lookups⟩
  have other : q ≠ p := fun same => distinct.1 (same ▸ member)
  rw [delete_live other]
  exact sound.live q (by
    rw [split]
    rcases List.mem_append.mp member with inside | inside <;> simp [inside])

theorem round_first {test : Addr → Bool} {nodes before after : List Addr}
    (split : nodes = before ++ p :: after) (nobody : ∀ q ∈ before, test q = false)
    (hit : test p = true) :
    nodes.find? test = some p ∧ nodes.eraseP test = before ++ after := by
  have skipped : ∀ q ∈ before, ¬ test q = true := by simpa using nobody
  subst split
  constructor
  · rw [List.find?_append, List.find?_eq_none.mpr skipped]
    simp [hit]
  · rw [List.eraseP_append_right _ skipped, List.eraseP_cons_of_pos hit]

theorem exists_first {test : Addr → Bool} {nodes : List Addr} (found : nodes.find? test = some p) :
    ∃ before after, nodes = before ++ p :: after ∧ (∀ q ∈ before, test q = false) ∧
      test p = true := by
  obtain ⟨hit, before, after, split, skipped⟩ := List.find?_eq_some_iff_append.mp found
  exact ⟨before, after, split, by simpa using skipped, hit⟩

theorem round_nobody {test : Addr → Bool} (none : h.mSubscribers.find? test = none) :
    h.mSubscribers.eraseP test = h.mSubscribers :=
  List.eraseP_of_forall_not (by simpa using none)

/-! ## The loop that deletes -/

theorem Looked.setSubscribers_self (looked : Looked h h') :
    h'.setSubscribers h.mSubscribers = h' := by
  simp [setSubscribers, ← looked.mSubscribers]

theorem broadcast_loop_live (told : Tellable n.rsrcStatus) (delete : n.postNotifyDelete = true)
    (broadcast : ∀ s, n.target ≠ .rcver s) {turns : Nat} (sound : Sound h)
    (enough : h.mSubscribers.length < turns) :
    ∃ h', (∀ stale, h.notifyLoop stale n turns = h') ∧ Sound h' := by
  induction turns generalizing h with
  | zero => simp at enough
  | succ turns ih =>
      have key : KeyLive h n := fun s same => absurd same (broadcast s)
      obtain ⟨h₁, searched, looked⟩ := round_live sound told delete key
      cases found : h.mSubscribers.find? (mine h n) with
      | none =>
          refine ⟨h₁, fun stale => ?_, looked.sound sound⟩
          rw [notifyLoop, searched, found, round_nobody found]
          exact looked.setSubscribers_self
      | some p =>
          obtain ⟨before, after, split, nobody, hit⟩ := exists_first found
          have erased := (round_first split nobody hit).2
          have removed := (looked.sound sound).removed (looked.mSubscribers.trans split)
          have shorter : (before ++ after).length < turns := by
            have := enough
            rw [split] at this
            simp only [List.length_append, List.length_cons] at this ⊢
            omega
          obtain ⟨h', looped, sound'⟩ := ih removed shorter
          refine ⟨h', fun stale => ?_, sound'⟩
          rw [notifyLoop, searched, found, erased]
          exact looped stale

def leaving (s : Addr) : StoreNotification := ⟨.rcver s, .unsubscribe, true⟩

theorem mine_self (h : Heap) (s : Addr) : mine h (leaving s) s = true := equals_self _

theorem mine_removed {nodes : List Addr} {q : Addr} (looked : Looked h h') (key : s ≠ p)
    (other : q ≠ p) :
    mine ((h'.setSubscribers nodes).delete p) (leaving s) q = mine h (leaving s) q := by
  have objects (q : Addr) (other : q ≠ p) :
      objectAt ((h'.setSubscribers nodes).delete p) q = objectAt h q :=
    (delete_objectAt other).trans looked.objectAt
  simp [mine, leaving, objects q other, objects s key]

theorem leaving_live (sound : Sound h) (member : s ∈ h.mSubscribers) : KeyLive h (leaving s) := by
  intro _ same
  cases same
  exact sound.live s member

theorem keyed_loop_live {turns : Nat} {before : List Addr} (sound : Sound h)
    (split : h.mSubscribers = before ++ [s])
    (same : ∀ p ∈ before, mine h (leaving s) p = true) (enough : h.mSubscribers.length < turns) :
    ∃ h', (∀ stale, h.notifyLoop stale (leaving s) turns = h') ∧
      Sound h' ∧ h'.mSubscribers = [] := by
  induction before generalizing h turns with
  | nil =>
      have key : KeyLive h (leaving s) := leaving_live sound (by simp [split])
      obtain ⟨h₁, searched, looked⟩ := round_live sound (by simp [Tellable, leaving]) rfl key
      obtain ⟨found, erased⟩ := round_first split (by simp) (mine_self h s)
      have removed := (looked.sound sound).removed (looked.mSubscribers.trans split)
      obtain ⟨turns, rfl⟩ : ∃ t, turns = t + 2 := ⟨turns - 2, by
        rw [split] at enough
        simp only [List.length_append, List.length_nil, List.length_singleton] at enough
        omega⟩
      refine ⟨(h₁.setSubscribers []).delete s, fun stale => ?_, removed, rfl⟩
      rw [notifyLoop, searched, found, erased]
      rfl
  | cons p before ih =>
      have key : KeyLive h (leaving s) := leaving_live sound (by simp [split])
      obtain ⟨h₁, searched, looked⟩ := round_live sound (by simp [Tellable, leaving]) rfl key
      obtain ⟨found, erased⟩ := @round_first p (mine h (leaving s)) _ [] (before ++ [s]) split
        (by simp) (same p (by simp))
      have first : h₁.mSubscribers = [] ++ p :: (before ++ [s]) := looked.mSubscribers.trans split
      have removed := (looked.sound sound).removed first
      have distinct := sound.distinct
      rw [split, List.cons_append, List.nodup_cons] at distinct
      have others : ∀ q ∈ before ++ [s], q ≠ p := fun q member equal => distinct.1 (equal ▸ member)
      obtain ⟨turns, rfl⟩ : ∃ t, turns = t + 1 := ⟨turns - 1, by omega⟩
      have shorter : (before ++ [s]).length < turns := by
        rw [split] at enough
        simpa using enough
      obtain ⟨h', looped, sound', empty⟩ := ih removed rfl (fun q member => by
        rw [mine_removed looked (others s (by simp)) (others q (by simp [member]))]
        exact same q (by simp [member])) shorter
      refine ⟨h', fun stale => ?_, sound', empty⟩
      rw [notifyLoop, searched, found, erased]
      exact looped stale

end Sound

/-! ## A key that is gone -/

section Dead
variable {h : Heap} {n : StoreNotification} {p s : Addr} {stale : Stale}

def Dead (h : Heap) : Prop := ∃ l ∈ h.lookups, l.live = false

theorem lookup_grows (stale : Stale) (p : Addr) (h : Heap) :
    h.lookups ⊆ (h.lookup stale p).2.lookups := by
  simp [lookup]

theorem forMe_grows (stale : Stale) (n : StoreNotification) (p : Addr) (h : Heap) :
    h.lookups ⊆ (h.forMe stale n p).2.lookups := by
  unfold forMe
  split
  · exact List.Subset.trans (lookup_grows stale p h) (lookup_grows stale _ _)
  · exact List.Subset.refl _
  · exact lookup_grows stale p h
  · exact lookup_grows stale p h

theorem notifyRsrcStatus_grows (stale : Stale) (n : StoreNotification) (p : Addr) (h : Heap) :
    h.lookups ⊆ (h.notifyRsrcStatus stale n p).2.lookups := by
  have asked := List.Subset.trans (lookup_grows stale p h) (forMe_grows stale n p _)
  unfold notifyRsrcStatus
  dsimp only
  split
  · split <;> exact asked
  · exact asked

theorem search_grows {equal : Addr → Heap → Bool × Heap}
    (grows : ∀ p h, h.lookups ⊆ (equal p h).2.lookups) (remove : Bool) (nodes : List Addr)
    (h : Heap) : h.lookups ⊆ (linkedListSearch equal remove nodes h).2.2.lookups := by
  induction nodes generalizing h with
  | nil => exact List.Subset.refl _
  | cons p rest ih =>
      rw [linkedListSearch]
      dsimp only
      split
      · exact grows p h
      · exact List.Subset.trans (grows p h) (ih _)

theorem round_grows (stale : Stale) (n : StoreNotification) (remove : Bool) (nodes : List Addr)
    (h : Heap) :
    h.lookups ⊆ (linkedListSearch (notifySubscriber stale n) remove nodes h).2.2.lookups :=
  @search_grows (notifySubscriber stale n) (fun p h => notifyRsrcStatus_grows stale n p h)
    remove nodes h

theorem first_round_grows {turns : Nat}
    (later : ∀ h : Heap, h.lookups ⊆ (h.notifyLoop stale n turns).lookups) (h : Heap) :
    (linkedListSearch (notifySubscriber stale n) true h.mSubscribers h).2.2.lookups ⊆
      (h.notifyLoop stale n (turns + 1)).lookups := by
  rw [notifyLoop]
  split
  next _ rest h' same =>
    rw [same]
    exact List.Subset.refl _
  next _ p rest h' same =>
    rw [same]
    exact later ((h'.setSubscribers rest).delete p)

theorem notifyLoop_grows (stale : Stale) (n : StoreNotification) (turns : Nat) (h : Heap) :
    h.lookups ⊆ (h.notifyLoop stale n turns).lookups := by
  induction turns generalizing h with
  | zero => exact List.Subset.refl _
  | succ turns ih =>
      exact List.Subset.trans (round_grows stale n true h.mSubscribers h) (first_round_grows ih h)

theorem find_grows (stale : Stale) (target : Target) (h : Heap) :
    h.lookups ⊆ (h.findSubscriber stale target).2.lookups :=
  search_grows (fun p h => forMe_grows stale (.search target) p h) false h.mSubscribers h

theorem sendRsrcRequest_grows (stale : Stale) (action : AGpsStatusValue) (h : Heap) :
    h.lookups ⊆ (h.sendRsrcRequest stale action).lookups := by
  have searched := find_grows stale .broadcastActive h
  unfold sendRsrcRequest
  split
  next _ h' same =>
    rw [same] at searched
    split <;> exact searched
  next _ s h' same =>
    rw [same] at searched
    split
    · exact searched
    · exact List.Subset.trans searched (lookup_grows stale s h')

theorem checkLeft_grows (stale : Stale) (state : AgpsState) (h : Heap) :
    h.lookups ⊆ (h.checkLeft stale state).2.lookups := by
  have searched : h.lookups ⊆ (h.hasActiveSubscribers stale).2.lookups :=
    find_grows stale .broadcastActive h
  unfold checkLeft
  dsimp only
  split
  · exact sendRsrcRequest_grows stale _ h
  · split
    · exact List.Subset.trans searched (sendRsrcRequest_grows stale _ _)
    · exact searched

theorem Dead.of_subset {h h' : Heap} (dead : Dead h) (grows : h.lookups ⊆ h'.lookups) :
    Dead h' := by
  obtain ⟨l, member, gone⟩ := dead
  exact ⟨l, grows member, gone⟩

theorem round_dead {rest : List Addr} {q : Addr} (stale : Stale) (nodes : h.mSubscribers = q :: rest)
    (gone : h.store s = none) :
    Dead (linkedListSearch (notifySubscriber stale (leaving s)) true h.mSubscribers h).2.2 := by
  have called : Dead (h.notifySubscriber stale (leaving s) q).2 := by
    refine ⟨⟨s, false⟩, ?_, rfl⟩
    have asked : ⟨s, false⟩ ∈ ((h.lookup stale q).2.forMe stale (leaving s) q).2.lookups := by
      simp [forMe, leaving, lookup, gone]
    unfold notifySubscriber notifyRsrcStatus
    dsimp only
    split <;> exact asked
  rw [nodes, linkedListSearch]
  dsimp only
  split
  · exact called
  · exact called.of_subset (round_grows stale (leaving s) true rest _)

theorem keyed_loop_dead (stale : Stale) {turns : Nat} {before after : List Addr} (sound : Sound h)
    (split : h.mSubscribers = before ++ s :: after)
    (left : after ≠ [] ∨ ∃ p ∈ before, mine h (leaving s) p = false)
    (enough : h.mSubscribers.length < turns) : Dead (h.notifyLoop stale (leaving s) turns) := by
  induction turns generalizing h before with
  | zero => simp at enough
  | succ turns ih =>
      have key : KeyLive h (leaving s) := leaving_live sound (by simp [split])
      obtain ⟨h₁, searched, looked⟩ := round_live sound (by simp [Tellable, leaving]) rfl key
      rw [notifyLoop, searched]
      cases first : before.find? (mine h (leaving s)) with
      | none =>
          -- the key itself is found, and the loop goes on with the rest
          have nobody : ∀ q ∈ before, mine h (leaving s) q = false := by simpa using first
          obtain ⟨found, erased⟩ := round_first split nobody (mine_self h s)
          rw [found, erased]
          dsimp only
          have others : before ++ after ≠ [] := by
            rcases left with left | ⟨p, member, -⟩
            · simp [left]
            · simp [List.ne_nil_of_mem member]
          obtain ⟨q, rest, nodes⟩ := List.exists_cons_of_ne_nil others
          obtain ⟨turns, rfl⟩ : ∃ t, turns = t + 1 := ⟨turns - 1, by
            have longer := congrArg List.length nodes
            rw [split] at enough
            simp only [List.length_append, List.length_cons] at enough longer
            omega⟩
          have gone : ((h₁.setSubscribers (before ++ after)).delete s).store s = none := by
            simp [Heap.delete, write]
          have dead := round_dead stale
            (h := (h₁.setSubscribers (before ++ after)).delete s) nodes gone
          exact dead.of_subset
            (first_round_grows (fun h => notifyLoop_grows stale (leaving s) turns h) _)
      | some p =>
          obtain ⟨b, a, apart, nobody, hit⟩ := exists_first first
          have split' : h.mSubscribers = b ++ p :: (a ++ s :: after) := by
            rw [split, apart]
            simp
          obtain ⟨found, erased⟩ := round_first split' nobody hit
          have first' : h₁.mSubscribers = b ++ p :: (a ++ s :: after) :=
            looked.mSubscribers.trans split'
          have removed := (looked.sound sound).removed first'
          have distinct := sound.distinct
          rw [split', List.nodup_middle, List.nodup_cons] at distinct
          have others : ∀ q ∈ b ++ (a ++ s :: after), q ≠ p :=
            fun q member equal => distinct.1 (equal ▸ member)
          rw [found, erased]
          have split₂ : ((h₁.setSubscribers (b ++ (a ++ s :: after))).delete p).mSubscribers =
              (b ++ a) ++ s :: after := by simp [setSubscribers, Heap.delete, write]
          refine ih removed split₂ ?_ ?_
          · refine left.imp_right ?_
            rintro ⟨q, member, differs⟩
            have other : q ∈ b ++ a := by
              rw [apart] at member
              have : q ≠ p := fun equal => by simp [equal, hit] at differs
              simpa [this] using member
            refine ⟨q, other, ?_⟩
            rw [mine_removed looked (others s (by simp)) (others q _)]
            · exact differs
            · rcases List.mem_append.mp other with inside | inside <;> simp [inside]
          · rw [split'] at enough
            simp only [List.length_append, List.length_cons] at enough
            simp only [setSubscribers, Heap.delete, write, List.length_append, List.length_cons]
            omega

end Dead

/-! ## Events -/

section Events
variable {h : Heap} {s : Addr}

theorem outlive_split {before after : List Addr} (sound : Sound h)
    (split : h.mSubscribers = before ++ s :: after) :
    h.outlive s ≠ [] ↔ after ≠ [] ∨ ∃ p ∈ before, mine h (leaving s) p = false := by
  have distinct := sound.distinct
  rw [split, List.nodup_middle, List.nodup_cons] at distinct
  have apart : ∀ p ∈ before, p ≠ s := fun p member same => distinct.1 (by simp [← same, member])
  have equal : ∀ p ∈ before, h.equalAt p s = mine h (leaving s) p := by
    intro p member
    obtain ⟨this, found⟩ := Option.isSome_iff_exists.mp (sound.live p (by simp [split, member]))
    obtain ⟨key, found'⟩ := Option.isSome_iff_exists.mp (sound.live s (by simp [split]))
    simp [equalAt, mine, leaving, objectAt, found, found']
  have taken : (before ++ s :: after).takeWhile (· ≠ s) = before := by
    rw [List.takeWhile_append_of_pos (by simpa using apart)]
    simp
  have dropped : (before ++ s :: after).dropWhile (· ≠ s) = s :: after := by
    rw [List.dropWhile_append_of_pos (by simpa using apart)]
    simp
  rw [outlive, split, taken, dropped, List.tail_cons]
  by_cases last : after = []
  · subst last
    simp only [List.append_nil, ne_eq, List.filter_eq_nil_iff, not_true_eq_false, false_or]
    constructor
    · intro differs
      by_contra none
      refine differs fun p member => ?_
      rw [equal p member]
      cases same : mine h (leaving s) p with
      | true => simp
      | false => exact absurd ⟨p, member, same⟩ none
    · rintro ⟨p, member, differs⟩ all
      have := all p member
      simp [equal p member, differs] at this
  · simp [last]

/-- What an event leaves does not depend on stale memory, and all its lookups are live. -/
def Settled (f : Stale → Heap) : Prop := ∃ h', (∀ stale, f stale = h') ∧ Sound h'

theorem findActive_live (sound : Sound h) :
    ∃ found h', (∀ stale, h.findSubscriber stale .broadcastActive = (found, h')) ∧ Looked h h' ∧
      ∀ s, found = some s → Live h s := by
  have key : KeyLive h (.search .broadcastActive) := by simp [KeyLive, StoreNotification.search]
  obtain ⟨h', found, looked⟩ := find_live sound key
  exact ⟨_, h', found, looked, fun s same => sound.live s (List.mem_of_find?_eq_some same)⟩

theorem hasActiveSubscribers_live (sound : Sound h) :
    ∃ active h', (∀ stale, h.hasActiveSubscribers stale = (active, h')) ∧ Sound h' := by
  obtain ⟨found, h', searched, looked, -⟩ := findActive_live sound
  refine ⟨found.isSome, h', fun stale => ?_, looked.sound sound⟩
  rw [hasActiveSubscribers, searched]

theorem sendRsrcRequest_live (sound : Sound h) (action : AGpsStatusValue) :
    Settled fun stale => h.sendRsrcRequest stale action := by
  obtain ⟨found, h₁, searched, looked, live⟩ := findActive_live sound
  have sound' := looked.sound sound
  have requested (h' : Heap) (sound : Sound h') (called : StoreCall) : Sound (h'.call called) :=
    ⟨sound.distinct, sound.live, sound.lookups⟩
  cases found with
  | none =>
      cases action with
      | releaseAgpsDataConn =>
          exact ⟨h₁.call (.requested .releaseAgpsDataConn none),
            fun stale => by simp [sendRsrcRequest, searched], requested h₁ sound' _⟩
      | requestAgpsDataConn => exact ⟨h₁, fun stale => by simp [sendRsrcRequest, searched], sound'⟩
  | some s =>
      obtain ⟨h₂, called, looked'⟩ := lookup_live (looked.live.mpr (live s rfl))
      cases action with
      | releaseAgpsDataConn => exact ⟨h₁, fun stale => by simp [sendRsrcRequest, searched], sound'⟩
      | requestAgpsDataConn =>
          exact ⟨h₂.call (.requested .requestAgpsDataConn (some (objectAt h₁ s))),
            fun stale => by simp [sendRsrcRequest, searched, called],
            requested h₂ (looked'.sound sound') _⟩

theorem addSubscriber_live (sound : Sound h) {data fresh : Addr} (caller : Live h data)
    (unused : h.store fresh = none) : Settled fun stale => h.addSubscriber stale data fresh := by
  have key : KeyLive h (.search (.rcver data)) := by
    rintro _ ⟨rfl⟩
    exact caller
  obtain ⟨h₁, searched, looked⟩ := find_live sound key
  cases found : h.mSubscribers.find? (mine h (.search (.rcver data))) with
  | some s => exact ⟨h₁, fun stale => by simp [addSubscriber, searched, found], looked.sound sound⟩
  | none =>
      obtain ⟨h₂, called, looked'⟩ := lookup_live (looked.live.mpr caller)
      have same := looked.trans looked'
      have new : fresh ∉ h.mSubscribers := fun member => by
        simpa [Live, unused] using sound.live fresh member
      refine ⟨(h₂.write fresh (some (objectAt h₁ data).clone)).setSubscribers
        (linkedListAdd h₁.mSubscribers fresh), fun stale => ?_, ?_⟩
      · simp [addSubscriber, searched, found, called]
      · refine ⟨?_, fun p member => ?_, (same.sound sound).lookups⟩
        · simpa [setSubscribers, linkedListAdd, looked.mSubscribers, new] using sound.distinct
        · rcases List.mem_cons.mp member with rfl | old
          · simp [Live, setSubscribers, write]
          · rw [looked.mSubscribers] at old
            have other : p ≠ fresh := fun equal => new (equal ▸ old)
            simpa [Live, setSubscribers, write, other] using same.live.mpr (sound.live p old)

theorem broadcast_live (sound : Sound h) {n : StoreNotification} (told : Tellable n.rsrcStatus)
    (broadcast : ∀ s, n.target ≠ .rcver s) : Settled fun stale => h.notifySubscribers stale n := by
  cases delete : n.postNotifyDelete with
  | true =>
      obtain ⟨h', looped, sound'⟩ := broadcast_loop_live told delete broadcast sound
        (Nat.lt_succ_self _)
      exact ⟨h', fun stale => by simp [notifySubscribers, delete, looped], sound'⟩
  | false =>
      obtain ⟨h', searched, looked⟩ := notify_keep_live sound told delete
        fun s same => absurd same (broadcast s)
      exact ⟨h', searched, looked.sound sound⟩

theorem leave_live {before : List Addr} (sound : Sound h) (client : Immediate (objectAt h s))
    (split : h.mSubscribers = before ++ [s])
    (same : ∀ p ∈ before, mine h (leaving s) p = true) :
    ∃ h', (∀ stale, h.leave stale s = h') ∧ Sound h' ∧ h'.mSubscribers = [] := by
  obtain ⟨h₁, called, looked⟩ := lookup_live (sound.live s (by simp [split]))
  obtain ⟨h', looped, sound', empty⟩ := keyed_loop_live (looked.sound sound)
    (looked.mSubscribers.trans split) (fun p member => by
      rw [looked.mine]
      exact same p member) (Nat.lt_succ_self _)
  refine ⟨h', fun stale => ?_, sound', empty⟩
  rw [Heap.leave, called]
  dsimp only
  rw [client.waits, if_neg (by simp)]
  exact looped stale

theorem leave_dead (stale : Stale) {before after : List Addr} (sound : Sound h)
    (client : Immediate (objectAt h s)) (split : h.mSubscribers = before ++ s :: after)
    (left : after ≠ [] ∨ ∃ p ∈ before, mine h (leaving s) p = false) :
    Dead (h.leave stale s) := by
  obtain ⟨h₁, called, looked⟩ := lookup_live (sound.live s (by simp [split]))
  have dead := keyed_loop_dead stale (looked.sound sound) (looked.mSubscribers.trans split)
    (by rwa [looked.mine]) (Nat.lt_succ_self _)
  rw [Heap.leave, called]
  dsimp only
  rw [client.waits, if_neg (by simp)]
  exact dead

theorem checkLeft_live (sound : Sound h) (state : AgpsState) :
    ∃ r, (∀ stale, h.checkLeft stale state = r) ∧ Sound r.2 := by
  cases used : h.hasSubscribers with
  | false =>
      obtain ⟨h', sent, sound'⟩ := sendRsrcRequest_live sound .releaseAgpsDataConn
      exact ⟨(.released, h'), fun stale => by simp [checkLeft, used, sent], sound'⟩
  | true =>
      obtain ⟨active, h₁, asked, sound₁⟩ := hasActiveSubscribers_live sound
      cases active with
      | true => exact ⟨(state, h₁), fun stale => by simp [checkLeft, used, asked], sound₁⟩
      | false =>
          obtain ⟨h', sent, sound'⟩ := sendRsrcRequest_live sound₁ .releaseAgpsDataConn
          exact ⟨(.releasing, h'), fun stale => by simp [checkLeft, used, asked, sent], sound'⟩

theorem notify_self_live {status : AgpsRsrcStatus} (told : Tellable status) {data : Addr}
    (live : Live h data) :
    ∃ h', (∀ stale, (h.notifyRsrcStatus stale ⟨.rcver data, status, false⟩ data).2 = h') ∧
      Looked h h' := by
  have key : KeyLive h ⟨.rcver data, status, false⟩ := by
    rintro _ ⟨rfl⟩
    exact live
  obtain ⟨h', notified, looked⟩ := @notifySubscriber_live h ⟨.rcver data, status, false⟩ _ told
    key live
  exact ⟨h', fun stale => congrArg Prod.snd (notified stale), looked⟩

theorem closed_live (sound : Sound h) {status : AgpsRsrcStatus} (told : Tellable status) :
    ∃ r, (∀ stale,
      (let told := h.notifySubscribers stale ⟨.broadcastInactive, status, true⟩
      let active := told.hasActiveSubscribers stale
      if active.1 then
        (AgpsState.pending, active.2.sendRsrcRequest stale .requestAgpsDataConn)
      else (.released, active.2)) = r) ∧ Sound r.2 := by
  obtain ⟨h₁, notified, sound₁⟩ := broadcast_live sound
    (n := ⟨.broadcastInactive, status, true⟩) told (by simp)
  obtain ⟨active, h₂, asked, sound₂⟩ := hasActiveSubscribers_live sound₁
  cases active with
  | false => exact ⟨(.released, h₂), fun stale => by simp [notified, asked], sound₂⟩
  | true =>
      obtain ⟨h₃, sent, sound₃⟩ := sendRsrcRequest_live sound₂ .requestAgpsDataConn
      exact ⟨(.pending, h₃), fun stale => by simp [notified, asked, sent], sound₃⟩

structure Clients (h : Heap) (event : StoreEvent) : Prop where
  sound : Sound h
  immediate : ∀ p ∈ h.mSubscribers, Immediate (objectAt h p)
  caller : ∀ p ∈ event.data, Live h p
  fresh : ∀ p ∈ event.fresh, h.store p = none

variable {state : AgpsState} {event : StoreEvent}

theorem onRsrcEvent_live (clients : Clients h event) (state : AgpsState) :
    ∃ r, (∀ stale, h.onRsrcEvent stale state event = r) ∧ Sound r.2 := by
  have sound := clients.sound
  have ignored : ∃ r, (∀ _ : Stale, (state, h) = r) ∧ Sound r.2 := ⟨_, fun _ => rfl, sound⟩
  cases event with
  | subscribe data fresh =>
      have caller := clients.caller data rfl
      have unused := clients.fresh fresh rfl
      obtain ⟨h₁, added, sound₁⟩ := addSubscriber_live sound caller unused
      cases state with
      | released =>
          obtain ⟨h₂, sent, sound₂⟩ := sendRsrcRequest_live sound₁ .requestAgpsDataConn
          exact ⟨(.pending, h₂), fun stale => by simp [onRsrcEvent, added, sent], sound₂⟩
      | pending => exact ⟨(.pending, h₁), fun stale => by simp [onRsrcEvent, added], sound₁⟩
      | releasing => exact ⟨(.releasing, h₁), fun stale => by simp [onRsrcEvent, added], sound₁⟩
      | acquired =>
          obtain ⟨h₁, told, looked⟩ :=
            notify_self_live (show Tellable .granted by simp [Tellable]) caller
          obtain ⟨h₂, added, sound₂⟩ := addSubscriber_live (looked.sound sound)
            (looked.live.mpr caller) (by rwa [looked.store])
          exact ⟨(.acquired, h₂), fun stale => by simp [onRsrcEvent, told, added], sound₂⟩
  | unsubscribe data => cases state <;> exact ignored
  | granted =>
      cases state with
      | pending =>
          obtain ⟨h₁, told, sound₁⟩ := broadcast_live sound
            (n := ⟨.broadcastActive, .granted, false⟩) (by simp [Tellable]) (by simp)
          exact ⟨(.acquired, h₁), fun stale => by simp [onRsrcEvent, told], sound₁⟩
      | released | acquired | releasing => exact ignored
  | released =>
      cases state with
      | acquired =>
          obtain ⟨h₁, told, sound₁⟩ := broadcast_live sound
            (n := ⟨.broadcastAll, .released, true⟩) (by simp [Tellable]) (by simp)
          exact ⟨(.released, h₁), fun stale => by simp [onRsrcEvent, told], sound₁⟩
      | releasing =>
          obtain ⟨r, closed, sound₁⟩ :=
            closed_live sound (show Tellable .released by simp [Tellable])
          exact ⟨r, fun stale => by simpa [onRsrcEvent] using closed stale, sound₁⟩
      | released | pending => exact ignored
  | denied =>
      cases state with
      | pending =>
          obtain ⟨h₁, told, sound₁⟩ := broadcast_live sound
            (n := ⟨.broadcastAll, .denied, true⟩) (by simp [Tellable]) (by simp)
          exact ⟨(.released, h₁), fun stale => by simp [onRsrcEvent, told], sound₁⟩
      | releasing =>
          obtain ⟨r, closed, sound₁⟩ :=
            closed_live sound (show Tellable .denied by simp [Tellable])
          exact ⟨r, fun stale => by simpa [onRsrcEvent] using closed stale, sound₁⟩
      | released | acquired => exact ignored

theorem find_entry (sound : Sound h) {data : Addr} (caller : Live h data) :
    ∃ h', (∀ stale, h.findSubscriber stale (.rcver data) =
      (h.mSubscribers.find? fun p => h.equalAt p data, h')) ∧ Looked h h' := by
  have key : KeyLive h (.search (.rcver data)) := by
    rintro _ ⟨rfl⟩
    exact caller
  obtain ⟨h', searched, looked⟩ := find_live sound key
  refine ⟨h', fun stale => ?_, looked⟩
  rw [searched, List.find?_congr fun p member => ?_]
  obtain ⟨this, found⟩ := Option.isSome_iff_exists.mp (sound.live p member)
  obtain ⟨own, found'⟩ := Option.isSome_iff_exists.mp caller
  simp [equalAt, mine, StoreNotification.search, objectAt, found, found']

theorem onUnsubscribe_live (sound : Sound h) (member : s ∈ h.mSubscribers)
    (client : Immediate (objectAt h s)) (last : state ≠ .released → h.outlive s = []) :
    ∃ r, (∀ stale, h.onUnsubscribe stale state s = r) ∧ Sound r.2 := by
  by_cases idle : state = .released
  · obtain ⟨h', told, looked⟩ := notify_self_live (show Tellable .unsubscribe by simp [Tellable])
      (sound.live s member)
    exact ⟨(.released, h'), fun stale => by simp [onUnsubscribe, idle, told], looked.sound sound⟩
  · obtain ⟨before, after, split⟩ := List.append_of_mem member
    have none := mt (outlive_split sound split).mpr (by simpa using last idle)
    obtain ⟨nobody, equal⟩ := not_or.mp none
    obtain rfl : after = [] := by simpa using nobody
    have same : ∀ p ∈ before, mine h (leaving s) p = true := by simpa using equal
    obtain ⟨h', left, sound', empty⟩ := leave_live sound client split same
    obtain ⟨r, checked, sound₂⟩ := checkLeft_live sound' state
    cases state with
    | released => exact absurd rfl idle
    | pending | acquired =>
        exact ⟨r, fun stale => by simpa [onUnsubscribe, left] using checked stale, sound₂⟩
    | releasing =>
        exact ⟨(.released, h'), fun stale => by simp [onUnsubscribe, left, hasSubscribers, empty,
          linkedListEmpty], sound'⟩

theorem onUnsubscribe_dead (stale : Stale) (sound : Sound h) (member : s ∈ h.mSubscribers)
    (client : Immediate (objectAt h s)) (used : state ≠ .released) (outlived : h.outlive s ≠ []) :
    Dead (h.onUnsubscribe stale state s).2 := by
  obtain ⟨before, after, split⟩ := List.append_of_mem member
  have dead := leave_dead stale sound client split ((outlive_split sound split).mp outlived)
  cases state with
  | released => exact absurd rfl used
  | pending | acquired => exact dead.of_subset (checkLeft_grows stale _ _)
  | releasing => exact dead

theorem looked_outlive {h' : Heap} (looked : Looked h h') : h'.outlive s = h.outlive s := by
  simp [outlive, equalAt, looked.store, looked.mSubscribers]

theorem liveLookups_of_settled
    (settled : ∃ r, (∀ stale, h.onEvent stale state event = r) ∧ Sound r.2) :
    LiveLookups state event h := by
  obtain ⟨r, same, sound⟩ := settled
  refine ⟨fun stale l member => sound.lookups l (by rwa [← same stale]), fun stale stale' => ?_⟩
  rw [same stale, same stale']

/-- Without a key that is outlived, an event does not depend on what freed memory holds. -/
theorem onEvent_settled (clients : Clients h event) (kept : ¬ KeyOutlived state event h) :
    ∃ r, (∀ stale, h.onEvent stale state event = r) ∧ Sound r.2 := by
  cases event with
  | subscribe | granted | released | denied => exact onRsrcEvent_live clients state
  | unsubscribe data =>
      obtain ⟨h₁, searched, looked⟩ := find_entry clients.sound (clients.caller data rfl)
      have sound₁ := looked.sound clients.sound
      cases found : h.mSubscribers.find? fun p => h.equalAt p data with
      | none => exact ⟨(state, h₁), fun stale => by simp [onEvent, searched, found], sound₁⟩
      | some s =>
          have member := List.mem_of_find?_eq_some found
          have client : Immediate (objectAt h₁ s) := by
            rw [looked.objectAt]
            exact clients.immediate s member
          have last : state ≠ .released → h₁.outlive s = [] := by
            intro used
            rw [looked_outlive looked]
            by_contra others
            exact kept ⟨used, data, s, rfl, found, others⟩
          obtain ⟨r, same, sound₂⟩ :=
            onUnsubscribe_live sound₁ (looked.mSubscribers ▸ member) client last
          refine ⟨r, fun stale => ?_, sound₂⟩
          simp only [onEvent, searched, found]
          exact same stale

/-- An outlived key is looked up. -/
theorem onEvent_dead (stale : Stale) (clients : Clients h event)
    (outlived : KeyOutlived state event h) : Dead (h.onEvent stale state event).2 := by
  obtain ⟨used, data, s, rfl, found, others⟩ := outlived
  obtain ⟨h₁, searched, looked⟩ := find_entry clients.sound (clients.caller data rfl)
  have member := List.mem_of_find?_eq_some found
  have client : Immediate (objectAt h₁ s) := by
    rw [looked.objectAt]
    exact clients.immediate s member
  rw [onEvent, searched, found]
  exact onUnsubscribe_dead stale (looked.sound clients.sound) (looked.mSubscribers ▸ member) client
    used (by rwa [looked_outlive looked])

/-- The lookups of an event are of live objects unless the key of an unsubscribe is outlived. -/
theorem live_lookups_iff {store : Addr → Option Subscriber} {nodes : List Addr}
    (state : AgpsState) {event : StoreEvent} (clients : Clients (.new store nodes) event) :
    LiveLookups state event (.new store nodes) ↔ ¬ KeyOutlived state event (.new store nodes) := by
  constructor
  · intro live outlived
    have stale : Stale := fun _ _ => .atl 0 false
    obtain ⟨l, inside, gone⟩ := onEvent_dead stale clients outlived
    simp [live.1 stale l inside] at gone
  · intro kept
    exact liveLookups_of_settled (onEvent_settled clients kept)

theorem outlive_alone {data : Addr} {kind : SubscriberKind} (sound : Sound h)
    (kinds : ∀ p ∈ h.mSubscribers, (objectAt h p).kind = kind) (caller : Live h data)
    (same : (objectAt h data).kind = kind)
    (found : (h.mSubscribers.find? fun p => h.equalAt p data) = some s) :
    h.outlive s = [] ↔ h.mSubscribers = [s] := by
  obtain ⟨before, after, split, nobody, hit⟩ := exists_first found
  have member (p : Addr) (inside : p ∈ before ∨ p = s) : p ∈ h.mSubscribers := by
    rcases inside with inside | rfl <;> simp [*]
  have equal (p : Addr) (inside : p ∈ before ∨ p = s) :
      h.equalAt p data = (objectAt h p).equals (objectAt h data) := by
    obtain ⟨this, found⟩ := Option.isSome_iff_exists.mp (sound.live p (member p inside))
    obtain ⟨own, found'⟩ := Option.isSome_iff_exists.mp caller
    simp [equalAt, objectAt, found, found']
  have other : ∀ p ∈ before, mine h (leaving s) p = false := by
    intro p inside
    rw [equal s (.inr rfl), equals_iff ((kinds s (member s (.inr rfl))).trans same.symm)] at hit
    have apart := nobody p inside
    rw [equal p (.inl inside), Bool.eq_false_iff, ne_eq,
      equals_iff ((kinds p (member p (.inl inside))).trans same.symm)] at apart
    rw [Bool.eq_false_iff]
    intro equal
    have entry := (equals_iff ((kinds p (member p (.inl inside))).trans
      (kinds s (member s (.inr rfl))).symm)).mp equal
    exact apart (entry.trans hit)
  have none := not_congr (outlive_split sound split)
  rw [not_not] at none
  rw [none, split]
  constructor
  · intro alone
    obtain ⟨last, equal⟩ := not_or.mp alone
    obtain rfl : after = [] := by simpa using last
    cases before with
    | nil => rfl
    | cons p before => exact absurd ⟨p, by simp, other p (by simp)⟩ equal
  · intro single
    cases before with
    | nil => simpa using single
    | cons p before => simp at single

end Events

def twoClients : Addr → Option Subscriber
  | 1 => some (.atl 10 false)
  | 2 => some (.atl 20 false)
  | 3 => some (.atl 20 false)
  | _ => none

theorem live_lookups_iff_alone :
    LiveLookups .acquired (.unsubscribe 3) (.new twoClients [2]) := by
  have clients : Clients (.new twoClients [2]) (.unsubscribe 3) :=
    ⟨⟨by decide, by simp [Heap.new, Live, twoClients], by simp [Heap.new]⟩, by
      simp [Heap.new, objectAt, twoClients, Immediate, Subscriber.kind],
      by simp [StoreEvent.data, Live, Heap.new, twoClients], by simp [StoreEvent.fresh]⟩
  refine (live_lookups_iff .acquired clients).mpr ?_
  rintro ⟨-, data, s, -, found, others⟩
  have member : s ∈ [2] := List.mem_of_find?_eq_some found
  obtain rfl : s = 2 := by simpa using member
  exact others (by decide)

/-- The first of two clients leaves: the second is compared with what is left of it, and is told
that it has unsubscribed where the old memory happens to hold its own identity. -/
theorem deleted_key_is_looked_up :
    ¬ LiveLookups .acquired (.unsubscribe 3) (.new twoClients [2, 1]) ∧
      ∃ stale, .told 1 (.atl 10 false) .unsubscribe ∈
        ((Heap.new twoClients [2, 1]).onEvent stale .acquired (.unsubscribe 3)).2.log := by
  refine ⟨fun live => ?_, fun _ _ => .atl 10 false, by decide⟩
  have gone : ⟨2, false⟩ ∈
      ((Heap.new twoClients [2, 1]).onEvent (fun _ _ => .atl 10 false) .acquired
        (.unsubscribe 3)).2.lookups := by decide
  exact absurd (live.1 _ _ gone) (by decide)

end VibeXperia.Proof.Agps

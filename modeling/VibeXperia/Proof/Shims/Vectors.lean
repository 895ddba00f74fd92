import VibeXperia.Proof.Shims.VectorCalls

namespace VibeXperia.Proof.Shims
open VibeXperia.Lib VibeXperia.Shims

/-! ## The vectors together -/

section Heap
variable {α : Type} {h h' h'' : Heap α} {v : VectorImpl} {itemSize : Nat}

def refsOf (h : Heap α) (a : Addr) : Option Nat := (h a).map Block.refs

def Untouched (h h' : Heap α) (v : VectorImpl) : Prop :=
  ∀ a block, v.mStorage = some a → h a = some block →
    ∃ refs, 0 < refs ∧ h' a = some { block with refs := refs }

theorem Untouched.held (same : Untouched h h' v) (held : Held itemSize h v) :
    Held itemSize h' v where
  empty := held.empty
  held a storage := by
    obtain ⟨block, here, -, room, size⟩ := held.held a storage
    obtain ⟨refs, positive, there⟩ := same a block storage here
    exact ⟨_, there, positive, room, size⟩

theorem Untouched.itemsOf (same : Untouched h h' v) (held : Held itemSize h v) :
    itemsOf h' v = itemsOf h v := by
  cases storage : v.mStorage with
  | none => rw [Shims.itemsOf, Shims.itemsOf, storage]; rfl
  | some a =>
      obtain ⟨block, here, -⟩ := held.held a storage
      obtain ⟨refs, -, there⟩ := same a block storage here
      rw [itemsOf_eq storage here, itemsOf_eq storage there]

theorem Untouched.listOf (same : Untouched h h' v) (held : Held itemSize h v) :
    listOf h' v = listOf h v := by
  rw [Shims.listOf, Shims.listOf, same.itemsOf held]

theorem refsOf_update (h : Heap α) (a : Addr) (block : Option (Block α)) :
    refsOf (Function.update h a block) = Function.update (refsOf h) a (block.map Block.refs) := by
  funext c
  by_cases here : c = a
  · subst here
    rw [refsOf, Function.update_self, Function.update_self]
  · rw [refsOf, Function.update_of_ne here, Function.update_of_ne here, refsOf]

theorem refsOf_dropOwner (h : Heap α) (s : Option Addr) :
    refsOf (dropOwner h s) = letGo (refsOf h) s := by
  cases s with
  | none => rfl
  | some a =>
      rw [dropOwner, refsOf_update, letGo]
      congr 1
      rw [refsOf]
      cases here : h a with
      | none => rfl
      | some block =>
          by_cases last : block.refs = 1
          · simp [last]
          · simp [last]

end Heap

section World
variable {M ι α : Type} [Fintype ι] [DecidableEq ι] {b : SharedBuffers M α} {t : Traits α}
  {look : M → Addr → Option (Block α)} {w w' : Vectors M ι} {i j : ι} {m' : M} {v' : VectorImpl}

/-- A buffer belongs to the vectors whose storage it is, and has room for their items. -/
structure Owned (t : Traits α) (look : M → Addr → Option (Block α)) (w : Vectors M ι) : Prop where
  counted : Counted (fun i => (w.vector i).mStorage) (refsOf (look w.mem))
  held : ∀ i, Held t.mItemSize (look w.mem) (w.vector i)

omit [Fintype ι] in
@[simp] theorem set_mem (w : Vectors M ι) (i : ι) (m : M) (v : VectorImpl) :
    (w.set i m v).mem = m := rfl

omit [Fintype ι] in
@[simp] theorem set_self (w : Vectors M ι) (i : ι) (m : M) (v : VectorImpl) :
    (w.set i m v).vector i = v := Function.update_self _ _ _

omit [Fintype ι] in
theorem set_other (w : Vectors M ι) (m : M) (v : VectorImpl) (other : j ≠ i) :
    (w.set i m v).vector j = w.vector j := Function.update_of_ne other _ _

omit [Fintype ι] in
theorem storage_set (w : Vectors M ι) (i : ι) (m : M) (v : VectorImpl) :
    (fun j => ((w.set i m v).vector j).mStorage) =
      Function.update (fun j => (w.vector j).mStorage) i v.mStorage := by
  funext j
  by_cases here : j = i
  · subst here
    rw [set_self, Function.update_self]
  · rw [set_other w m v here, Function.update_of_ne here]

theorem Owned.dropOwner (owned : Owned t look w) (other : j ≠ i) :
    Untouched (look w.mem) (dropOwner (look w.mem) (w.vector i).mStorage) (w.vector j) := by
  intro a block storage here
  have positive : 0 < block.refs := by
    obtain ⟨block', here', positive, -⟩ := (owned.held j).held a storage
    rw [here] at here'
    cases here'
    exact positive
  cases mine : (w.vector i).mStorage with
  | none => exact ⟨block.refs, positive, here⟩
  | some c =>
      rw [Shims.dropOwner]
      by_cases shared : a = c
      · subst shared
        have several : 1 < owners (fun i => (w.vector i).mStorage) a :=
          one_lt_owners other mine storage
        have refs := owned.counted.refs_of_hold (i := i) mine
        rw [refsOf, here, Option.map_some, Option.some.injEq] at refs
        rw [← refs] at several
        refine ⟨block.refs - 1, by omega, ?_⟩
        rw [Function.update_self, here, Option.bind_some, if_neg (by omega)]
      · rw [Function.update_of_ne shared]
        exact ⟨block.refs, positive, here⟩

theorem Owned.set (owned : Owned t look w) {i : ι} {m : M} {v : VectorImpl}
    (counted : Counted (Function.update (fun j => (w.vector j).mStorage) i v.mStorage)
      (refsOf (look m)))
    (held : Held t.mItemSize (look m) v)
    (others : ∀ j, j ≠ i → Untouched (look w.mem) (look m) (w.vector j)) :
    Owned t look (w.set i m v) where
  counted := by
    rw [storage_set]
    exact counted
  held j := by
    by_cases here : j = i
    · subst here
      rw [set_self]
      exact held
    · rw [set_other w m v here]
      exact (others j here).held (owned.held j)

theorem Owned.moved (owned : Owned t look w)
    (moved : Moved t.mItemSize (look w.mem) (look m') (w.vector i) v') :
    Owned t look (w.set i m' v') ∧
      ∀ j, j ≠ i → Untouched (look w.mem) (look m') (w.vector j) := by
  rcases moved with ⟨same, rfl⟩ | ⟨a, block, storage, alone, room, size⟩
  · have others (j) (_ : j ≠ i) : Untouched (look w.mem) (look m') (w.vector j) := by
      intro a block storage here
      obtain ⟨block', here', positive, -⟩ := (owned.held j).held a storage
      rw [here] at here'
      cases here'
      rw [same]
      exact ⟨block.refs, positive, here⟩
    refine ⟨owned.set ?_ ?_ others, others⟩
    · rw [same, Function.update_eq_self]
      exact owned.counted
    · rw [same]
      exact owned.held i
  · have others (j) (other : j ≠ i) : Untouched (look w.mem) (look m') (w.vector j) := by
      intro c block' storage' here
      obtain ⟨refs, positive, there⟩ := owned.dropOwner other c block' storage' here
      have apart : c ≠ a := by
        rintro rfl
        rw [alone.free] at there
        cases there
      refine ⟨refs, positive, ?_⟩
      rw [alone.heap, Function.update_of_ne apart]
      exact there
    refine ⟨owned.set ?_ ?_ others, others⟩
    · have free : refsOf (Shims.dropOwner (look w.mem) (w.vector i).mStorage) a = none := by
        rw [refsOf, alone.free, Option.map_none]
      rw [refsOf_dropOwner] at free
      have counted := (owned.counted.letGo i).fresh (Function.update_self _ _ _) free
      rw [Function.update_idem] at counted
      rw [storage, alone.heap, refsOf_update, refsOf_dropOwner, Option.map_some, alone.refs]
      exact counted
    · refine ⟨fun none => ?_, fun c here => ?_⟩
      · rw [storage] at none
        cases none
      · rw [storage] at here
        cases here
        exact ⟨block, alone.self, by rw [alone.refs]; exact Nat.one_pos, room, size⟩

theorem Untouched.trans {h h' h'' : Heap α} {v : VectorImpl} (first : Untouched h h' v)
    (second : Untouched h' h'' v) : Untouched h h'' v := by
  intro a block storage here
  obtain ⟨refs, -, there⟩ := first a block storage here
  exact second a { block with refs := refs } storage there

omit [DecidableEq ι] in
theorem Owned.untouched (owned : Owned t look w) (i : ι) :
    Untouched (look w.mem) (look w.mem) (w.vector i) := by
  intro a block storage here
  obtain ⟨block', here', positive, -⟩ := (owned.held i).held a storage
  rw [here] at here'
  cases here'
  exact ⟨block.refs, positive, here⟩

theorem held_empty (h : Heap α) : Held t.mItemSize h .empty :=
  ⟨fun _ => rfl, fun a storage => by cases storage⟩

theorem Owned.released (documented : b.Documented t.mItemSize look) (owned : Owned t look w)
    (i : ι) :
    Owned t look (w.set i ((w.vector i).releaseStorage b t w.mem) .empty) ∧
      ∀ j, j ≠ i →
        Untouched (look w.mem) (look ((w.vector i).releaseStorage b t w.mem)) (w.vector j) := by
  have released : look ((w.vector i).releaseStorage b t w.mem) =
      Shims.dropOwner (look w.mem) (w.vector i).mStorage := by
    apply look_releaseStorage documented
    intro a storage
    obtain ⟨block, here, -⟩ := (owned.held i).held a storage
    exact ⟨block, here⟩
  rw [released]
  have others (j) (other : j ≠ i) := owned.dropOwner other
  refine ⟨owned.set ?_ ?_ ?_, others⟩
  · rw [released, refsOf_dropOwner]
    exact owned.counted.letGo i
  · exact held_empty _
  · rw [released]
    exact others

theorem Owned.copied (documented : b.Documented t.mItemSize look) (owned : Owned t look w)
    (empty : (w.vector i).mStorage = none)
    (copied : VectorImpl.copy b w.mem (w.vector j) = (m', v')) :
    Owned t look (w.set i m' v') ∧
      (∀ k, k ≠ i → Untouched (look w.mem) (look m') (w.vector k)) ∧
      listOf (look m') v' = listOf (look w.mem) (w.vector j) := by
  rw [VectorImpl.copy] at copied
  cases storage : (w.vector j).mStorage with
  | none =>
      rw [storage] at copied
      cases copied
      refine ⟨owned.set ?_ (owned.held j) fun k _ => owned.untouched k,
        fun k _ => owned.untouched k, rfl⟩
      rw [storage, ← empty, Function.update_eq_self]
      exact owned.counted
  | some a =>
      rw [storage] at copied
      cases copied
      obtain ⟨block, here, positive, -⟩ := (owned.held j).held a storage
      have acquired := documented.acquire w.mem a block here
      have shared (k) : Untouched (look w.mem) (look (b.acquire w.mem a)) (w.vector k) := by
        intro c block' storage' here'
        rw [acquired]
        by_cases same : c = a
        · subst same
          rw [here] at here'
          cases here'
          exact ⟨block.refs + 1, Nat.succ_pos _, Function.update_self _ _ _⟩
        · rw [Function.update_of_ne same]
          exact owned.untouched k c block' storage' here'
      refine ⟨owned.set ?_ ((shared j).held (owned.held j)) fun k _ => shared k,
        fun k _ => shared k, (shared j).listOf (owned.held j)⟩
      have known : refsOf (look w.mem) a = some block.refs := by
        rw [refsOf, here, Option.map_some]
      rw [acquired, refsOf_update, storage]
      exact owned.counted.join empty known

theorem Owned.assigned (documented : b.Documented t.mItemSize look) (owned : Owned t look w)
    (other : j ≠ i)
    (assigned : (w.vector i).assign b t w.mem (w.vector j) = (m', v')) :
    Owned t look (w.set i m' v') ∧
      (∀ k, k ≠ i → Untouched (look w.mem) (look m') (w.vector k)) ∧
      listOf (look m') v' = listOf (look w.mem) (w.vector j) := by
  obtain ⟨released, others⟩ := owned.released documented i
  rw [VectorImpl.assign] at assigned
  split_ifs at assigned with any
  · have again : (w.set i ((w.vector i).releaseStorage b t w.mem) .empty).set i m' v' =
        w.set i m' v' := by
      rw [Vectors.set, Vectors.set, Vectors.set, Function.update_idem]
    have source := set_other w ((w.vector i).releaseStorage b t w.mem) VectorImpl.empty other
    rw [← source] at assigned
    obtain ⟨copied, shared, same⟩ := released.copied documented (by rw [set_self]; rfl) assigned
    rw [again] at copied
    refine ⟨copied, fun k apart => (others k apart).trans ?_, ?_⟩
    · have kept := shared k apart
      rwa [set_other w _ _ apart] at kept
    · rw [same, source]
      exact (others j other).listOf (owned.held j)
  · cases assigned
    refine ⟨released, others, ?_⟩
    rw [listOf, listOf, not_not.mp any]
    rfl

omit [DecidableEq ι] in
theorem contents_eq (documented : b.Documented t.mItemSize look) (owned : Owned t look w) (i : ι) :
    w.contents b i = listOf (look w.mem) (w.vector i) := by
  rw [Vectors.contents, VectorImpl.contents, arrayImpl_eq documented (owned.held i), listOf]

/-- A call on one vector changes only its own items. -/
theorem contents_set (documented : b.Documented t.mItemSize look) (owned : Owned t look w)
    {v : VectorImpl} (owned' : Owned t look (w.set i m' v))
    (others : ∀ j, j ≠ i → Untouched (look w.mem) (look m') (w.vector j)) :
    (w.set i m' v).contents b = Function.update (w.contents b) i (listOf (look m') v) := by
  funext j
  rw [contents_eq documented owned']
  by_cases here : j = i
  · subst here
    rw [set_self, Function.update_self, set_mem]
  · rw [set_other w m' v here, Function.update_of_ne here, contents_eq documented owned, set_mem]
    exact (others j here).listOf (owned.held j)

theorem Owned.insertVectorAt (documented : b.Documented t.mItemSize look)
    (positive : 0 < t.mItemSize) (owned : Owned t look w)
    (small : 2 * (w.vector i).mCount ≤ sizeMax) (other : j ≠ i) {index : Nat} {result : Int}
    (call : (w.vector i).insertVectorAt b t w.mem (w.vector j) index = some (result, m', v')) :
    Moved t.mItemSize (look w.mem) (look m') (w.vector i) v' ∧
      Inserted t (b.Short w.mem (w.vector i).mStorage) index (listOf (look w.mem) (w.vector j))
        (listOf (look w.mem) (w.vector i)) result (listOf (look m') v') := by
  obtain ⟨moved, m₁, v₁, before, inserted⟩ :=
    insertArrayAt_spec documented positive (owned.held i) small call
  have source : (List.range (w.vector j).mCount).map
      (VectorImpl.readArray b m₁ (.vector (w.vector j))) = listOf (look w.mem) (w.vector j) := by
    have kept := (owned.moved before).2 j other
    have there := kept.held (owned.held j)
    rw [VectorImpl.readArray, arrayImpl_eq documented there, kept.itemsOf (owned.held j), listOf]
  rw [source] at inserted
  exact ⟨moved, inserted⟩

omit [Fintype ι] [DecidableEq ι] in
theorem map_readArray (m : M) (array : List α) :
    (List.range array.length).map (VectorImpl.readArray b m (.elsewhere array)) =
      array.map some := by
  apply List.ext_getElem?
  intro k
  rw [List.getElem?_map, List.getElem?_map]
  by_cases inside : k < array.length
  · rw [List.getElem?_range inside, Option.map_some]
    dsimp only [VectorImpl.readArray]
    rw [List.getElem?_eq_getElem inside, Option.map_some]
  · rw [List.getElem?_eq_none (by simpa using inside),
      List.getElem?_eq_none (by simpa using inside)]
    rfl

/-- One call keeps the buffers in order and does to the items what it is for. -/
theorem vectorStep_spec (documented : b.Documented t.mItemSize look) (positive : 0 < t.mItemSize)
    (fits : kMinVectorCapacity * t.mItemSize ≤ sizeMax) (owned : Owned t look w)
    {c : VectorCall ι α} (step : VectorStep b t w c w') :
    Owned t look w' ∧ ∃ l', w'.contents b = Function.update (w.contents b) c.i l' ∧
      c.op.Acts t (b.Short w.mem (w.vector c.i).mStorage) (w.contents b) (w.contents b c.i)
        c.result l' := by
  obtain ⟨small, proper, called⟩ := step
  obtain ⟨i, op, result⟩ := c
  have held := owned.held i
  have contents (j) : w.contents b j = listOf (look w.mem) (w.vector j) :=
    contents_eq documented owned j
  -- the calls on one vector
  have single {m' : M} {v' : VectorImpl} {acts : List (Option α) → Prop}
      (spec : Moved t.mItemSize (look w.mem) (look m') (w.vector i) v' ∧ acts (listOf (look m') v')) :
      Owned t look (w.set i m' v') ∧ ∃ l', (w.set i m' v').contents b =
        Function.update (w.contents b) i l' ∧ acts l' := by
    obtain ⟨after, others⟩ := owned.moved spec.1
    exact ⟨after, _, contents_set documented owned after others, spec.2⟩
  dsimp only at proper called ⊢
  cases op with
  | copy rhs =>
      simp only [Vectors.call, Option.map_some, Option.some.injEq, Prod.mk.injEq] at called
      obtain ⟨rfl, rfl⟩ := called
      obtain ⟨after, others, same⟩ := owned.copied documented proper Prod.mk.eta.symm
      exact ⟨after, _, contents_set documented owned after others, rfl, by rw [same, contents]⟩
  | assign rhs =>
      simp only [Vectors.call, Option.map_some] at called
      by_cases self : i = rhs
      · rw [if_pos self] at called
        cases called
        exact ⟨owned, _, (Function.update_eq_self i _).symm, rfl, by rw [self]⟩
      · rw [if_neg self, Option.some.injEq, Prod.mk.injEq] at called
        obtain ⟨rfl, rfl⟩ := called
        obtain ⟨after, others, same⟩ := owned.assigned documented (Ne.symm self) Prod.mk.eta.symm
        exact ⟨after, _, contents_set documented owned after others, rfl, by rw [same, contents]⟩
  | finishVector =>
      simp only [Vectors.call, Option.map_some, Option.some.injEq, Prod.mk.injEq] at called
      obtain ⟨rfl, rfl⟩ := called
      obtain ⟨after, others⟩ := owned.released documented i
      exact ⟨after, _, contents_set documented owned after others, rfl, rfl⟩
  | setCapacity newCapacity =>
      obtain ⟨⟨result', m', v'⟩, done, same⟩ := Option.map_eq_some_iff.mp called
      cases same
      apply single
      simp only [VectorOp.Acts, contents i, length_listOf]
      exact setCapacity_spec documented held proper done
  | resize size =>
      obtain ⟨⟨result', m', v'⟩, done, same⟩ := Option.map_eq_some_iff.mp called
      cases same
      apply single
      simp only [VectorOp.Acts, contents i, length_listOf]
      exact resize_spec documented positive fits held (small i) proper done
  | insertVectorAt vector index =>
      obtain ⟨⟨result', m', v'⟩, done, same⟩ := Option.map_eq_some_iff.mp called
      cases same
      apply single
      simp only [VectorOp.Acts, contents]
      exact owned.insertVectorAt documented positive (small i) proper done
  | insertArrayAt array index =>
      obtain ⟨⟨result', m', v'⟩, done, same⟩ := Option.map_eq_some_iff.mp called
      cases same
      apply single
      obtain ⟨moved, m₁, v₁, -, inserted⟩ :=
        insertArrayAt_spec documented positive held (small i) done
      rw [map_readArray] at inserted
      rw [contents i]
      exact ⟨moved, inserted⟩
  | insertAt item index numItems =>
      obtain ⟨⟨result', m', v'⟩, done, same⟩ := Option.map_eq_some_iff.mp called
      cases same
      apply single
      rw [contents i]
      exact insertAt_spec documented positive held (small i) done
  | add item =>
      obtain ⟨⟨result', m', v'⟩, done, same⟩ := Option.map_eq_some_iff.mp called
      cases same
      apply single
      simp only [VectorOp.Acts, contents i, length_listOf]
      exact insertAt_spec documented positive held (small i) done
  | pop =>
      obtain ⟨⟨m', v'⟩, done, same⟩ := Option.map_eq_some_iff.mp called
      cases same
      apply single
      simp only [VectorOp.Acts, contents i, length_listOf]
      obtain ⟨moved, removed⟩ := pop_spec documented positive fits held (small i) done
      exact ⟨moved, trivial, removed⟩
  | replaceAt prototype index =>
      obtain ⟨⟨result', m', v'⟩, done, same⟩ := Option.map_eq_some_iff.mp called
      cases same
      apply single
      simp only [VectorOp.Acts, contents i, length_listOf]
      exact replaceAt_spec documented positive held (small i) done
  | removeItemsAt index count =>
      obtain ⟨⟨result', m', v'⟩, done, same⟩ := Option.map_eq_some_iff.mp called
      cases same
      apply single
      simp only [VectorOp.Acts, contents i, length_listOf]
      exact removeItemsAt_spec documented positive fits held (small i) proper done
  | clear =>
      obtain ⟨⟨m', v'⟩, done, same⟩ := Option.map_eq_some_iff.mp called
      cases same
      apply single
      simp only [VectorOp.Acts, contents i, length_listOf]
      obtain ⟨moved, removed⟩ := clear_spec documented positive fits held done
      exact ⟨moved, trivial, removed⟩
  | sort cmp mallocFails =>
      simp only [Vectors.call] at called
      obtain ⟨⟨result', m', v'⟩, done, same⟩ := Option.map_eq_some_iff.mp called
      cases same
      apply single
      rw [contents i]
      exact sort_spec documented positive held (small i) done

omit [DecidableEq ι] in
theorem Owned.start {start : Vectors M ι} (fresh : ∀ a, look start.mem a = none)
    (empty : ∀ i, start.vector i = .empty) : Owned t look start where
  counted a := by
    have nobody : owners (fun i => (start.vector i).mStorage) a = 0 := by
      rw [owners, Finset.card_eq_zero, Finset.filter_eq_empty_iff]
      intro i _ storage
      rw [empty i] at storage
      cases storage
    rw [if_pos nobody, refsOf, fresh a, Option.map_none]
  held i := by
    rw [empty i]
    exact held_empty _

theorem Owned.run (documented : b.Documented t.mItemSize look) (positive : 0 < t.mItemSize)
    (fits : kMinVectorCapacity * t.mItemSize ≤ sizeMax) {start : Vectors M ι}
    {cs : List (VectorCall ι α)} (fresh : ∀ a, look start.mem a = none)
    (empty : ∀ i, start.vector i = .empty) (run : Run (VectorStep b t) start cs w) :
    Owned t look w := by
  induction run with
  | refl => exact .start fresh empty
  | tail _ last ih => exact (vectorStep_spec documented positive fits ih last).1

end World

/-! ### Buffers in an arena -/

structure Arena (α : Type) where
  next : Nat
  blocks : Nat → Option (Block α)

namespace Arena
variable {α : Type}

def look (m : Arena α) (a : Addr) : Option (Block α) := if a < m.next then m.blocks a else none

def put (m : Arena α) (a : Addr) (block : Option (Block α)) : Arena α :=
  ⟨m.next, Function.update m.blocks a block⟩

def change (m : Arena α) (a : Addr) (f : Block α → Block α) : Arena α :=
  m.put a ((m.look a).map f)

def push (m : Arena α) (block : Block α) : Arena α :=
  ⟨m.next + 1, Function.update m.blocks m.next (some block)⟩

def buffers (itemSize : Nat) : SharedBuffers (Arena α) α where
  alloc m size := (some m.next, m.push ⟨1, size, fun _ => none⟩)
  acquire m a := m.change a fun block => { block with refs := block.refs + 1 }
  release m a := (((m.look a).map Block.refs).getD 0,
    m.change a fun block => { block with refs := block.refs - 1 })
  dealloc m a := m.put a none
  attemptEdit m a := if (m.look a).map Block.refs = some 1 then some a else none
  editResize m a size := match m.look a with
    | none => (none, m)
    | some block =>
        let items := block.upTo itemSize (min size block.size)
        if block.refs = 1 then (some a, m.put a (some ⟨1, size, items⟩))
        else (some m.next, (m.change a fun block => { block with refs := block.refs - 1 }).push
          ⟨1, size, items⟩)
  size m a := ((m.look a).map Block.size).getD 0
  load m a := ((m.look a).map Block.items).getD fun _ => none
  store m a items := m.change a fun block => { block with items := items }

variable {m : Arena α} {a : Addr} {block : Block α}

theorem lt_next (here : m.look a = some block) : a < m.next := by
  rw [look] at here
  split_ifs at here with below
  exact below

theorem look_put (m : Arena α) (a : Addr) (block : Option (Block α))
    (known : a < m.next ∨ block = none) :
    (m.put a block).look = Function.update m.look a block := by
  funext c
  rw [look, put]
  dsimp only
  by_cases here : c = a
  · subst here
    rw [Function.update_self, Function.update_self]
    rcases known with below | rfl
    · exact if_pos below
    · exact ite_self _
  · rw [Function.update_of_ne here, Function.update_of_ne here, look]

theorem look_change (here : m.look a = some block) (f : Block α → Block α) :
    (m.change a f).look = Function.update m.look a (some (f block)) := by
  rw [change, look_put _ _ _ (.inl (lt_next here)), here, Option.map_some]

theorem look_push (m : Arena α) (block : Block α) :
    (m.push block).look = Function.update m.look m.next (some block) := by
  funext c
  rw [look, push]
  dsimp only
  by_cases here : c = m.next
  · subst here
    rw [Function.update_self, Function.update_self, if_pos (Nat.lt_succ_self _)]
  · rw [Function.update_of_ne here, Function.update_of_ne here, look]
    by_cases below : c < m.next
    · rw [if_pos below, if_pos (Nat.lt_succ_of_lt below)]
    · have above : ¬ c < m.next + 1 := fun within =>
        (Nat.lt_succ_iff_lt_or_eq.mp within).elim below here
      rw [if_neg below, if_neg above]

theorem look_next (m : Arena α) : m.look m.next = none := if_neg (Nat.lt_irrefl _)

theorem documented (itemSize : Nat) :
    (buffers itemSize : SharedBuffers (Arena α) α).Documented itemSize look where
  load m a block here := by simp [buffers, here]
  size m a block here := by simp [buffers, here]
  store m a block items here := look_change here _
  alloc m size m' a allocated := by
    cases allocated
    exact ⟨look_next m, look_push m _⟩
  allocFails m size m' failed := by cases failed
  acquire m a block here := look_change here _
  release m a block here := ⟨by simp [buffers, here], look_change here _⟩
  dealloc m a := look_put m a none (.inr rfl)
  attemptEdit m a block here := by simp [buffers, here]
  editResize m a block size m' a' here edited := by
    simp only [buffers, here] at edited
    split_ifs at edited ⊢ with refs
    · cases edited
      refine ⟨.inl ⟨rfl, refs⟩, ?_⟩
      rw [look_put _ _ _ (.inl (lt_next here)), Function.update_idem]
    · cases edited
      exact ⟨.inr (look_next m), by rw [look_push, look_change here]; rfl⟩
  editResizeFails m a size m' failed := by
    cases here : m.look a with
    | none =>
        simp only [buffers, here] at failed
        cases failed
        rfl
    | some block =>
        simp only [buffers, here] at failed
        split_ifs at failed <;> cases failed

end Arena

/-! Two vectors of `int` -/

def intTraits : Traits Nat where
  mItemSize := 4
  hasTrivialCtor := true
  hasTrivialDtor := true
  hasTrivialCopy := true
  initial := 0

abbrev IntVectors := Vectors (Arena Nat) Bool

def noVectors : IntVectors := ⟨⟨0, fun _ => none⟩, fun _ => .empty⟩

def called (w : IntVectors) (i : Bool) (op : VectorOp Bool Nat) : IntVectors :=
  ((w.call (Arena.buffers 4) intTraits i op).map Prod.snd).getD w

theorem called_step {w : IntVectors} {c : VectorCall Bool Nat}
    (small : ∀ i, 2 * (w.vector i).mCount ≤ sizeMax) (proper : c.op.Proper w c.i)
    (returns : (w.call (Arena.buffers 4) intTraits c.i c.op).map Prod.fst = some c.result) :
    VectorStep (Arena.buffers 4) intTraits w c (called w c.i c.op) := by
  refine ⟨small, proper, ?_⟩
  obtain ⟨⟨result, w'⟩, done, rfl⟩ := Option.map_eq_some_iff.mp returns
  rw [called, done]
  rfl

def sharedItem : IntVectors := called (called noVectors true (.add (some 5))) false (.copy true)

theorem sharedItem_run : Run (VectorStep (Arena.buffers 4) intTraits) noVectors
    [⟨true, .add (some 5), 0⟩, ⟨false, .copy true, 0⟩] sharedItem := by
  have first : VectorStep (Arena.buffers 4) intTraits noVectors ⟨true, .add (some 5), 0⟩ _ :=
    called_step (by decide +kernel) trivial (by decide +kernel)
  have second : VectorStep (Arena.buffers 4) intTraits _ ⟨false, .copy true, 0⟩ _ :=
    called_step (w := called noVectors true (.add (some 5))) (by decide +kernel) rfl
      (by decide +kernel)
  exact (Run.single first).tail second

/-! ### What holds of all runs -/

section Results
variable {M ι α : Type} [Fintype ι] [DecidableEq ι] {b : SharedBuffers M α} {t : Traits α}
  {look : M → Addr → Option (Block α)} {w w' : Vectors M ι} {i : ι}

/-- Vectors that share buffers behave like lists of their own. -/
theorem vectors_act_as_lists (documented : b.Documented t.mItemSize look)
    (positive : 0 < t.mItemSize) (fits : kMinVectorCapacity * t.mItemSize ≤ sizeMax)
    {start : Vectors M ι} {cs : List (VectorCall ι α)} (fresh : ∀ a, look start.mem a = none)
    (empty : ∀ i, start.vector i = .empty) (run : Run (VectorStep b t) start cs w)
    {c : VectorCall ι α} (step : VectorStep b t w c w') :
    ∃ l', w'.contents b = Function.update (w.contents b) c.i l' ∧
      c.op.Acts t (b.Short w.mem (w.vector c.i).mStorage) (w.contents b) (w.contents b c.i)
        c.result l' :=
  (vectorStep_spec documented positive fits (.run documented positive fits fresh empty run) step).2

/-- An item is added to one of two vectors that share their items. -/
theorem vectors_act_as_lists_shared : ∃ w w' l', Run (VectorStep (Arena.buffers 4) intTraits)
      noVectors [⟨true, .add (some 5), 0⟩, ⟨false, .copy true, 0⟩] w ∧
    VectorStep (Arena.buffers 4) intTraits w ⟨false, .add (some 7), 1⟩ w' ∧
    w'.contents (Arena.buffers 4) = Function.update (w.contents (Arena.buffers 4)) false l' ∧
    VectorOp.Acts intTraits ((Arena.buffers 4).Short w.mem (w.vector false).mStorage)
      (w.contents (Arena.buffers 4)) (w.contents (Arena.buffers 4) false) 1 l'
      (.add (some 7) : VectorOp Bool Nat) := by
  have third : VectorStep (Arena.buffers 4) intTraits sharedItem ⟨false, .add (some 7), 1⟩ _ :=
    called_step (by decide +kernel) trivial (by decide +kernel)
  obtain ⟨l', changed, acts⟩ := vectors_act_as_lists (Arena.documented 4) (by decide) (by decide)
    (fun a => ite_self _) (fun _ => rfl) sharedItem_run third
  exact ⟨_, _, l', sharedItem_run, third, changed, acts⟩

/-- There is a buffer as long as a vector has it for storage, with as many references as such
vectors, and it has room for their items. -/
theorem vector_buffers_owned (documented : b.Documented t.mItemSize look)
    (positive : 0 < t.mItemSize) (fits : kMinVectorCapacity * t.mItemSize ≤ sizeMax)
    {start : Vectors M ι} {cs : List (VectorCall ι α)} (fresh : ∀ a, look start.mem a = none)
    (empty : ∀ i, start.vector i = .empty) (run : Run (VectorStep b t) start cs w) :
    Counted (fun i => (w.vector i).mStorage) (fun a => (look w.mem a).map Block.refs) ∧
      ∀ i a, (w.vector i).mStorage = some a →
        ∃ block, look w.mem a = some block ∧ (w.vector i).mCount * t.mItemSize ≤ block.size := by
  have owned := Owned.run documented positive fits fresh empty run
  refine ⟨owned.counted, fun i a storage => ?_⟩
  obtain ⟨block, here, -, room, -⟩ := (owned.held i).held a storage
  exact ⟨block, here, room⟩

/-- Two vectors share their items. -/
theorem vector_buffers_owned_shared : ∃ w, Run (VectorStep (Arena.buffers 4) intTraits)
      noVectors [⟨true, .add (some 5), 0⟩, ⟨false, .copy true, 0⟩] w ∧
    Counted (fun i => (w.vector i).mStorage) (fun a => (w.mem.look a).map Block.refs) ∧
    ∀ i a, (w.vector i).mStorage = some a →
      ∃ block, w.mem.look a = some block ∧ (w.vector i).mCount * 4 ≤ block.size := by
  exact ⟨_, sharedItem_run, vector_buffers_owned (Arena.documented 4) (by decide) (by decide)
    (fun a => ite_self _) (fun _ => rfl) sharedItem_run⟩

/-- The process is ended only where a shared buffer cannot be copied or by a call for more items
than there can be. -/
theorem vectors_end (documented : b.Documented t.mItemSize look) (positive : 0 < t.mItemSize)
    (fits : kMinVectorCapacity * t.mItemSize ≤ sizeMax) {start : Vectors M ι}
    {cs : List (VectorCall ι α)} (fresh : ∀ a, look start.mem a = none)
    (empty : ∀ i, start.vector i = .empty) (run : Run (VectorStep b t) start cs w)
    {op : VectorOp ι α} (proper : op.Proper w i) (ends : w.call b t i op = none) :
    b.Uncopied w.mem (w.vector i).mStorage ∨ op.Exceeds t w i := by
  have held := (Owned.run documented positive fits fresh empty run).held i
  have count := held.count_le positive
  simp only [Vectors.call] at ends
  cases op with
  | copy rhs => cases ends
  | assign rhs =>
      dsimp only at ends
      split_ifs at ends
      cases ends
  | finishVector => cases ends
  | setCapacity newCapacity =>
      exact .inr (setCapacity_none (Option.map_eq_none_iff.mp ends))
  | resize size =>
      have ends := Option.map_eq_none_iff.mp (Option.map_eq_none_iff.mp ends)
      split_ifs at ends with more fewer
      · rcases inserting_none positive fits ends with short | exceeds
        · exact .inl short
        · rw [Nat.add_sub_cancel' more.le] at exceeds
          exact .inr ⟨more, exceeds⟩
      · exact .inl (removeItemsAt_none (by omega) ends)
  | insertVectorAt vector index =>
      exact inserting_none positive fits (Option.map_eq_none_iff.mp ends)
  | insertArrayAt array index =>
      exact inserting_none positive fits (Option.map_eq_none_iff.mp ends)
  | insertAt item index numItems =>
      exact inserting_none positive fits (Option.map_eq_none_iff.mp ends)
  | add item =>
      exact inserting_none positive fits (Option.map_eq_none_iff.mp ends)
  | pop =>
      have ends := Option.map_eq_none_iff.mp ends
      rw [VectorImpl.pop] at ends
      split_ifs at ends with any
      exact .inl (removeItemsAt_none (by omega) (Option.map_eq_none_iff.mp ends))
  | replaceAt prototype index =>
      exact .inl (replaceAt_none (Option.map_eq_none_iff.mp ends))
  | removeItemsAt index count =>
      exact .inl (removeItemsAt_none proper (Option.map_eq_none_iff.mp ends))
  | clear =>
      exact .inl (shrink_none le_rfl (Option.map_eq_none_iff.mp ends))
  | sort cmp mallocFails =>
      exact .inl (sort_none (Option.map_eq_none_iff.mp ends))

/-- As many items as there are bytes are inserted into a vector that shares its item. -/
theorem vectors_end_on_overflow : ∃ w, Run (VectorStep (Arena.buffers 4) intTraits)
      noVectors [⟨true, .add (some 5), 0⟩, ⟨false, .copy true, 0⟩] w ∧
    w.call (Arena.buffers 4) intTraits true (.insertAt (some 5) 0 sizeMax) = none ∧
    (VectorOp.insertAt (some 5) 0 sizeMax : VectorOp Bool Nat).Exceeds intTraits w true := by
  have ends : sharedItem.call (Arena.buffers 4) intTraits true (.insertAt (some 5) 0 sizeMax) =
      none := by
    rw [← Option.isNone_iff_eq_none]
    decide +kernel
  have proper : (VectorOp.insertAt (some 5) 0 sizeMax : VectorOp Bool Nat).Proper sharedItem
    true := trivial
  refine ⟨_, sharedItem_run, ends, (vectors_end (Arena.documented 4) (by decide) (by decide)
    (fun a => ite_self _) (fun _ => rfl) sharedItem_run proper ends).resolve_left ?_⟩
  rintro ⟨a, -, -, none⟩
  cases none

end Results

end VibeXperia.Proof.Shims

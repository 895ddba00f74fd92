import VibeXperia.Shims.Vectors

namespace VibeXperia.Proof.Shims
open VibeXperia.Lib VibeXperia.Shims

/-! ## Buffers and their owners -/

abbrev Heap (α : Type) := Addr → Option (Block α)

section Heap
variable {α : Type} {h h' : Heap α} {v v' : VectorImpl} {s : Option Addr} {a a' : Addr}
  {block : Block α} {itemSize : Nat}

def dropOwner (h : Heap α) : Option Addr → Heap α
  | none => h
  | some a => Function.update h a ((h a).bind fun block =>
      if block.refs = 1 then none else some { block with refs := block.refs - 1 })

def itemsOf (h : Heap α) (v : VectorImpl) : Nat → Option α :=
  match v.mStorage.bind h with
  | some block => block.items
  | none => fun _ => none

def listOf (h : Heap α) (v : VectorImpl) : List (Option α) := (List.range v.mCount).map (itemsOf h v)

structure Held (itemSize : Nat) (h : Heap α) (v : VectorImpl) : Prop where
  empty : v.mStorage = none → v.mCount = 0
  held : ∀ a, v.mStorage = some a → ∃ block, h a = some block ∧ 0 < block.refs ∧
    v.mCount * itemSize ≤ block.size ∧ block.size ≤ sizeMax

theorem Held.count_le (held : Held itemSize h v) (positive : 0 < itemSize) : v.mCount ≤ sizeMax := by
  cases storage : v.mStorage with
  | none =>
      rw [held.empty storage]
      exact Nat.zero_le _
  | some a =>
      obtain ⟨block, -, -, room, size⟩ := held.held a storage
      exact ((Nat.le_mul_of_pos_right _ positive).trans room).trans size

structure Alone (h h' : Heap α) (s : Option Addr) (a : Addr) (block : Block α) : Prop where
  refs : block.refs = 1
  free : dropOwner h s a = none
  heap : h' = Function.update (dropOwner h s) a (some block)

def Rebuilt (itemSize : Nat) (h h' : Heap α) (v v' : VectorImpl) : Prop :=
  ∃ a block, v'.mStorage = some a ∧ Alone h h' v.mStorage a block ∧
    v'.mCount * itemSize ≤ block.size ∧ block.size ≤ sizeMax

def Moved (itemSize : Nat) (h h' : Heap α) (v v' : VectorImpl) : Prop :=
  h' = h ∧ v' = v ∨ Rebuilt itemSize h h' v v'

@[simp] theorem length_listOf : (listOf h v).length = v.mCount := by simp [listOf]

theorem itemsOf_eq (storage : v.mStorage = some a) (here : h a = some block) :
    itemsOf h v = block.items := by
  rw [itemsOf, storage, Option.bind_some, here]

theorem listOf_congr (count : v'.mCount = v.mCount)
    (same : ∀ k, k < v.mCount → itemsOf h' v' k = itemsOf h v k) : listOf h' v' = listOf h v := by
  rw [listOf, listOf, count]
  apply List.map_congr_left
  intro k member
  exact same k (List.mem_range.mp member)

theorem Alone.self (alone : Alone h h' s a block) : h' a = some block := by
  rw [alone.heap, Function.update_self]

theorem Alone.kept (here : h a = some block) (refs : block.refs = 1) :
    Alone h h (some a) a block where
  refs := refs
  free := by rw [dropOwner, Function.update_self, here, Option.bind_some, if_pos refs]
  heap := by
    rw [dropOwner, Function.update_idem, ← here, Function.update_eq_self]

theorem Alone.change (alone : Alone h h' s a block) (items : Nat → Option α) :
    Alone h (Function.update h' a (some { block with items := items })) s a
      { block with items := items } where
  refs := alone.refs
  free := alone.free
  heap := by rw [alone.heap, Function.update_idem]

theorem Alone.items (alone : Alone h h' s a block) (storage : v'.mStorage = some a) :
    itemsOf h' v' = block.items :=
  itemsOf_eq storage alone.self

end Heap

/-! ## What the functions do with the buffers -/

section Buffers
variable {M α : Type} {b : SharedBuffers M α} {t : Traits α} {look : M → Addr → Option (Block α)}
  {m m' : M} {v v' : VectorImpl} {a : Addr} {block : Block α}

theorem look_releaseStorage (documented : b.Documented t.mItemSize look)
    (here : ∀ a, v.mStorage = some a → ∃ block, look m a = some block) :
    look (v.releaseStorage b t m) = dropOwner (look m) v.mStorage := by
  rw [VectorImpl.releaseStorage]
  cases storage : v.mStorage with
  | none => rfl
  | some a =>
      obtain ⟨block, here⟩ := here a storage
      obtain ⟨previous, after⟩ := documented.release m a block here
      have left : look (b.release m a).2 a = some { block with refs := block.refs - 1 } := by
        rw [after, Function.update_self]
      simp only [dropOwner, here, Option.bind_some, previous]
      split_ifs with last
      · rw [documented.dealloc, documented.store _ _ _ _ left, after, Function.update_idem,
          Function.update_idem]
      · exact after

theorem alone_of_alloc (documented : b.Documented t.mItemSize look)
    (held : Held t.mItemSize (look m) v) {size : Nat} {m₁ : M} (items : Nat → Option α)
    (alloc : b.alloc m size = (some a, m₁)) :
    Alone (look m) (look (v.releaseStorage b t (b.store m₁ a items))) v.mStorage a
      ⟨1, size, items⟩ := by
  obtain ⟨free, added⟩ := documented.alloc m size m₁ a alloc
  have there : look m₁ a = some ⟨1, size, fun _ => none⟩ := by rw [added, Function.update_self]
  have other {c : Addr} (storage : v.mStorage = some c) : c ≠ a := by
    rintro rfl
    obtain ⟨block, here, -⟩ := held.held c storage
    rw [free] at here
    cases here
  have stored : look (b.store m₁ a items) = Function.update (look m) a (some ⟨1, size, items⟩) := by
    rw [documented.store _ _ _ _ there, added, Function.update_idem]
  rw [look_releaseStorage documented]
  · rw [stored]
    cases storage : v.mStorage with
    | none => exact ⟨rfl, free, rfl⟩
    | some c =>
        refine ⟨rfl, ?_, ?_⟩
        · rw [dropOwner, Function.update_of_ne (other storage).symm, free]
        · rw [dropOwner, dropOwner, Function.update_of_ne (other storage),
            Function.update_comm (other storage).symm]
  · intro c storage
    obtain ⟨block, here, -⟩ := held.held c storage
    refine ⟨block, ?_⟩
    rw [stored, Function.update_of_ne (other storage), here]

theorem load_alloc (documented : b.Documented t.mItemSize look) {size : Nat} {m₁ : M} {c : Addr}
    (alloc : b.alloc m size = (some a, m₁)) (here : look m c = some block) :
    b.load m₁ a = (fun _ => none) ∧ b.load m₁ c = block.items := by
  obtain ⟨free, added⟩ := documented.alloc m size m₁ a alloc
  have other : c ≠ a := by
    rintro rfl
    rw [free] at here
    cases here
  constructor
  · exact documented.load _ _ ⟨1, size, fun _ => none⟩ (by rw [added, Function.update_self])
  · exact documented.load _ _ _ (by rw [added, Function.update_of_ne other, here])

theorem editArrayImpl_spec (documented : b.Documented t.mItemSize look)
    (held : Held t.mItemSize (look m) v) (storage : v.mStorage = some a)
    (here : look m a = some block) (edited : v.editArrayImpl b t m = some (m', v')) :
    ∃ a' items, v' = ⟨some a', v.mCount⟩ ∧
      Alone (look m) (look m') v.mStorage a' ⟨1, block.size, items⟩ ∧
      ∀ k, k < v.mCount → items k = block.items k := by
  simp only [VectorImpl.editArrayImpl, storage] at edited
  rw [documented.attemptEdit m a block here] at edited
  by_cases refs : block.refs = 1
  · rw [if_pos refs] at edited
    cases edited
    have alone := Alone.kept here refs
    rw [← refs]
    exact ⟨a, block.items, by rw [← storage], storage ▸ alone, fun k _ => rfl⟩
  · rw [if_neg refs, documented.size m a block here] at edited
    cases alloc : b.alloc m block.size with
    | mk array m₁ =>
        rw [alloc] at edited
        cases array with
        | none => cases edited
        | some array =>
            obtain ⟨fresh, old⟩ := load_alloc documented alloc here
            cases edited
            refine ⟨array, _, rfl, alone_of_alloc documented held _ alloc, ?_⟩
            intro k within
            rw [old, doCopy, if_pos (by omega)]
            congr 1
            omega

theorem editArrayImpl_none (storage : v.mStorage = none) :
    v.editArrayImpl b t m = some (m, v) := by
  rw [VectorImpl.editArrayImpl, storage]

theorem uncopied_of_editArrayImpl (ends : v.editArrayImpl b t m = none) :
    b.Uncopied m v.mStorage := by
  cases storage : v.mStorage with
  | none =>
      rw [editArrayImpl_none storage] at ends
      cases ends
  | some a =>
      simp only [VectorImpl.editArrayImpl, storage] at ends
      cases edit : b.attemptEdit m a with
      | some _ =>
          rw [edit] at ends
          cases ends
      | none =>
          rw [edit] at ends
          cases alloc : b.alloc m (b.size m a) with
          | mk array m₁ =>
              rw [alloc] at ends
              cases array with
              | none => exact ⟨a, rfl, edit, by rw [alloc]⟩
              | some array => cases ends

theorem replaceStorage_spec (documented : b.Documented t.mItemSize look)
    (held : Held t.mItemSize (look m) v) {size : Nat}
    {make : (Nat → Option α) → (Nat → Option α) → Nat → Option α} {replaced : Option VectorImpl}
    (call : v.replaceStorage b t m size make = (m', replaced)) :
    replaced = none ∧ look m' = look m ∧ b.Short m v.mStorage size ∨
      ∃ a, replaced = some ⟨some a, v.mCount⟩ ∧ Alone (look m) (look m') v.mStorage a
        ⟨1, size, make (fun _ => none) (itemsOf (look m) v)⟩ := by
  rw [VectorImpl.replaceStorage] at call
  cases alloc : b.alloc m size with
  | mk array m₁ =>
      rw [alloc] at call
      cases array with
      | none =>
          cases call
          exact .inl ⟨rfl, documented.allocFails _ _ _ alloc, .inl (by rw [alloc])⟩
      | some array =>
          cases call
          refine .inr ⟨array, rfl, ?_⟩
          have alone (items) := alone_of_alloc documented held items alloc
          obtain ⟨free, added⟩ := documented.alloc m size m₁ array alloc
          have fresh : b.load m₁ array = fun _ => none :=
            documented.load _ _ ⟨1, size, fun _ => none⟩ (by rw [added, Function.update_self])
          have old : v.arrayImpl b m₁ = itemsOf (look m) v := by
            rw [VectorImpl.arrayImpl]
            cases storage : v.mStorage with
            | none => rw [itemsOf, storage, Option.bind_none]
            | some c =>
                obtain ⟨block, here, -⟩ := held.held c storage
                rw [itemsOf_eq storage here]
                exact (load_alloc documented alloc here).2
          rw [fresh, old]
          exact alone _

theorem resizeStorage_spec (documented : b.Documented t.mItemSize look)
    (storage : v.mStorage = some a) (here : look m a = some block) {size : Nat}
    {resized : Option VectorImpl} (call : v.resizeStorage b m size = (m', resized)) :
    resized = none ∧ look m' = look m ∧ b.Short m v.mStorage size ∨
      ∃ a', resized = some ⟨some a', v.mCount⟩ ∧ Alone (look m) (look m') v.mStorage a'
        ⟨1, size, block.upTo t.mItemSize (min size block.size)⟩ := by
  simp only [VectorImpl.resizeStorage, storage] at call
  cases edit : b.editResize m a size with
  | mk sb m₁ =>
      rw [edit] at call
      cases sb with
      | none =>
          cases call
          exact .inl ⟨rfl, documented.editResizeFails _ _ _ _ edit, .inr ⟨a, storage, by rw [edit]⟩⟩
      | some a' =>
          cases call
          obtain ⟨place, after⟩ := documented.editResize m a block size _ a' here edit
          have drop : dropOwner (look m) (some a) = Function.update (look m) a
              (if block.refs = 1 then none else some { block with refs := block.refs - 1 }) := by
            rw [dropOwner, here, Option.bind_some]
          refine .inr ⟨a', rfl, rfl, ?_, ?_⟩
          · rw [storage, drop]
            rcases place with ⟨rfl, refs⟩ | free
            · rw [Function.update_self, if_pos refs]
            · have other : a' ≠ a := by
                rintro rfl
                rw [free] at here
                cases here
              rw [Function.update_of_ne other, free]
          · rw [storage, drop, after]

theorem capacity_spec (documented : b.Documented t.mItemSize look)
    (storage : v.mStorage = some a) (here : look m a = some block) :
    v.capacity b t m = block.size / t.mItemSize := by
  simp only [VectorImpl.capacity, storage]
  rw [documented.size m a block here]

theorem Rebuilt.edit (documented : b.Documented t.mItemSize look) {h : Heap α}
    (rebuilt : Rebuilt t.mItemSize h (look m) v v') (change : (Nat → Option α) → Nat → Option α) :
    Rebuilt t.mItemSize h (look (v'.edit b m change)) v v' ∧
      itemsOf (look (v'.edit b m change)) v' = change (itemsOf (look m) v') := by
  obtain ⟨a, block, storage, alone, room, size⟩ := rebuilt
  have stored : look (v'.edit b m change) =
      Function.update (look m) a (some { block with items := change block.items }) := by
    simp only [VectorImpl.edit, storage]
    rw [documented.load _ _ _ alone.self, documented.store _ _ _ _ alone.self]
  have changed := alone.change (change block.items)
  rw [← stored] at changed
  exact ⟨⟨a, _, storage, changed, room, size⟩,
    by rw [changed.items storage, alone.items storage]⟩

end Buffers

end VibeXperia.Proof.Shims

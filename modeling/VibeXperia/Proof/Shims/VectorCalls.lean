import VibeXperia.Proof.Shims.Resizing
import VibeXperia.Proof.Shims.Sorting

namespace VibeXperia.Proof.Shims
open VibeXperia.Lib VibeXperia.Shims

/-! ## The calls on one vector -/

theorem ssize_of_le {n : Nat} (small : 2 * n ≤ sizeMax) : ssize n = n := by
  rw [ssize]
  apply Int.bmod_eq_of_le
  · rw [sizeMax] at *
    omega
  · rw [sizeMax] at *
    omega

section Items
variable {α : Type} {t : Traits α} {items : Nat → Option α} {first num k : Nat} {x : α}

theorem fill_in (low : first ≤ k) (high : k < first + num) : fill items first num x k = some x :=
  if_pos ⟨low, high⟩

theorem fill_out (outside : k < first ∨ first + num ≤ k) : fill items first num x k = items k :=
  if_neg (by omega)

theorem put_out (item : Option α) (outside : k < first ∨ first + num ≤ k) :
    VectorImpl.put t item first num items k = items k := by
  cases item with
  | some x => exact fill_out outside
  | none =>
      rw [VectorImpl.put, doConstruct]
      split_ifs
      · rfl
      · exact fill_out outside

theorem made_put (item : Option α) :
    Made t item num ((List.range num).map fun k => VectorImpl.put t item first num items (first + k)) := by
  have filled (x : α) : (List.range num).map (fun k => fill items first num x (first + k)) =
      List.replicate num (some x) := by
    apply List.eq_replicate_iff.mpr
    refine ⟨by simp, fun y member => ?_⟩
    obtain ⟨k, inside, rfl⟩ := List.mem_map.mp member
    have below := List.mem_range.mp inside
    exact fill_in (Nat.le_add_right _ _) (by omega)
  cases item with
  | some x => exact filled x
  | none =>
      refine ⟨by simp, fun constructed => ?_⟩
      have same : VectorImpl.put t none first num items = fill items first num t.initial := by
        rw [VectorImpl.put, doConstruct, constructed]
        rfl
      rw [same]
      exact filled t.initial

end Items

section Calls
variable {M α : Type} {b : SharedBuffers M α} {t : Traits α} {look : M → Addr → Option (Block α)}
  {m m' : M} {v v' : VectorImpl} {result : Int}

theorem Moved.refl (m : M) (v : VectorImpl) : Moved t.mItemSize (look m) (look m) v v :=
  .inl ⟨rfl, rfl⟩

/-- `change` fills the place that has been opened, in a memory in which only the vector itself has
moved. -/
theorem inserting_spec (documented : b.Documented t.mItemSize look) (positive : 0 < t.mItemSize)
    (held : Held t.mItemSize (look m) v) (small : 2 * v.mCount ≤ sizeMax) {index amount : Nat}
    {change : M → (Nat → Option α) → Nat → Option α}
    (others : ∀ m items k, k < index ∨ index + amount ≤ k → change m items k = items k)
    (call : v.inserting b t m index amount change = some (result, m', v')) :
    Moved t.mItemSize (look m) (look m') v v' ∧ ∃ m₁ v₁ items,
      Moved t.mItemSize (look m) (look m₁) v v₁ ∧
      Inserted t (b.Short m v.mStorage) index ((List.range amount).map fun k => change m₁ items (index + k))
        (listOf (look m) v) result (listOf (look m') v') := by
  rw [VectorImpl.inserting] at call
  simp only [Inserted, length_listOf]
  by_cases outside : index > v.mCount
  · rw [if_pos outside] at call
    cases call
    exact ⟨.refl m v, m, v, fun _ => none, .refl m v, by rw [if_pos outside]; exact ⟨rfl, rfl⟩⟩
  rw [if_neg outside] at call
  have inside : index ≤ v.mCount := Nat.not_lt.mp outside
  cases grown : v.grow b t m index amount with
  | none =>
      rw [grown] at call
      cases call
  | some grown' =>
  obtain ⟨found, m₁, v₁⟩ := grown'
  rw [grown] at call
  simp only [if_neg outside]
  rcases grow_cases documented positive held inside grown with
    ⟨rfl, same, rfl, why⟩ | ⟨rebuilt, opened, found'⟩
  · cases call
    have moved : Moved t.mItemSize (look m) (look m') v' v' := .inl ⟨same, rfl⟩
    refine ⟨moved, m', v', fun _ => none, moved, .inr ⟨rfl, by rw [same], ?_⟩⟩
    rw [List.length_map, List.length_range]
    rcases why with short | rfl
    · exact .inl short
    · exact .inr rfl
  · cases found with
    | false =>
        obtain rfl : amount = 0 := found'.resolve_left Bool.noConfusion
        cases call
        exact ⟨.inr rebuilt, m', v', fun _ => none, .inr rebuilt,
          .inr ⟨rfl, opened.listOf_zero, .inr rfl⟩⟩
    | true =>
        simp only [Option.some.injEq, Prod.mk.injEq] at call
        obtain ⟨rfl, rfl, rfl⟩ := call
        obtain ⟨moved, changed⟩ := rebuilt.edit documented (change m₁)
        have filled : Opened (look m) (look (v₁.edit b m₁ (change m₁))) v v₁ index amount := by
          refine ⟨opened.count, fun k front => ?_, fun k above within => ?_⟩
          · rw [changed, others _ _ _ (.inl front)]
            exact opened.front k front
          · rw [changed, others _ _ _ (.inr (by omega))]
            exact opened.back k above within
        refine ⟨.inr moved, m₁, v₁, itemsOf (look m₁) v₁, .inr rebuilt, .inl ⟨?_, ?_⟩⟩
        · exact ssize_of_le (by omega)
        · apply filled.listOf inside (by simp)
          intro k below
          rw [List.getElem?_map, List.getElem?_range below, Option.map_some, changed]

theorem insertAt_spec (documented : b.Documented t.mItemSize look) (positive : 0 < t.mItemSize)
    (held : Held t.mItemSize (look m) v) (small : 2 * v.mCount ≤ sizeMax) {item : Option α}
    {index numItems : Nat} (call : v.insertAt b t m item index numItems = some (result, m', v')) :
    Moved t.mItemSize (look m) (look m') v v' ∧ ∃ new, Made t item numItems new ∧
      Inserted t (b.Short m v.mStorage) index new (listOf (look m) v) result (listOf (look m') v') := by
  obtain ⟨moved, m₁, v₁, items, -, inserted⟩ :=
    inserting_spec documented positive held small (fun _ _ _ => put_out item) call
  exact ⟨moved, _, made_put item, inserted⟩

theorem insertArrayAt_spec (documented : b.Documented t.mItemSize look)
    (positive : 0 < t.mItemSize) (held : Held t.mItemSize (look m) v)
    (small : 2 * v.mCount ≤ sizeMax) {array : ItemArray α} {index length : Nat}
    (call : v.insertArrayAt b t m array index length = some (result, m', v')) :
    Moved t.mItemSize (look m) (look m') v v' ∧ ∃ m₁ v₁,
      Moved t.mItemSize (look m) (look m₁) v v₁ ∧
      Inserted t (b.Short m v.mStorage) index ((List.range length).map (VectorImpl.readArray b m₁ array))
        (listOf (look m) v) result (listOf (look m') v') := by
  obtain ⟨moved, m₁, v₁, items, before, inserted⟩ :=
    inserting_spec documented positive held small (fun _ _ _ => doCopy_out) call
  have copied : ((List.range length).map fun k =>
      doCopy items index length (VectorImpl.readArray b m₁ array) 0 (index + k)) =
      (List.range length).map (VectorImpl.readArray b m₁ array) := by
    apply List.map_congr_left
    intro k inside
    have below := List.mem_range.mp inside
    rw [doCopy_in (Nat.le_add_right _ _) (by omega), Nat.zero_add, Nat.add_sub_cancel_left]
  rw [copied] at inserted
  exact ⟨moved, m₁, v₁, before, inserted⟩

theorem shrink_spec (documented : b.Documented t.mItemSize look) (positive : 0 < t.mItemSize)
    (fits : kMinVectorCapacity * t.mItemSize ≤ sizeMax) (held : Held t.mItemSize (look m) v)
    {index count : Nat} (inside : index + count ≤ v.mCount)
    (call : v.shrink b t m index count = some (m', v')) :
    Moved t.mItemSize (look m) (look m') v v' ∧
      Removed t (b.Short m v.mStorage) index count (listOf (look m) v) (listOf (look m') v') := by
  rcases shrink_cases documented positive fits held inside call with
    ⟨same, rfl, why⟩ | ⟨rebuilt, closed⟩
  · refine ⟨.inl ⟨same, rfl⟩, ?_⟩
    rw [same]
    rcases why with short | empty
    · exact .inr ⟨rfl, by rwa [length_listOf]⟩
    · have none : listOf (look m) v' = [] := by
        rw [listOf, empty, List.range_zero, List.map_nil]
      left
      rw [none, List.take_nil, List.drop_nil, List.append_nil]
  · exact ⟨.inr rebuilt, .inl (closed.listOf inside)⟩

theorem removeItemsAt_spec (documented : b.Documented t.mItemSize look)
    (positive : 0 < t.mItemSize) (fits : kMinVectorCapacity * t.mItemSize ≤ sizeMax)
    (held : Held t.mItemSize (look m) v) (small : 2 * v.mCount ≤ sizeMax) {index count : Nat}
    (proper : index + count ≤ sizeMax)
    (call : v.removeItemsAt b t m index count = some (result, m', v')) :
    Moved t.mItemSize (look m) (look m') v v' ∧
      if v.mCount < index + count then result = badValue ∧ listOf (look m') v' = listOf (look m) v
      else result = index ∧
        Removed t (b.Short m v.mStorage) index count (listOf (look m) v) (listOf (look m') v') := by
  rw [VectorImpl.removeItemsAt, Nat.mod_eq_of_lt (Nat.lt_succ_of_le proper)] at call
  split_ifs at call ⊢ with outside
  · cases call
    exact ⟨.refl m v, rfl, rfl⟩
  · obtain ⟨⟨m₁, v₁⟩, shrunk, same⟩ := Option.map_eq_some_iff.mp call
    simp only [Prod.mk.injEq] at same
    obtain ⟨rfl, rfl, rfl⟩ := same
    obtain ⟨moved, removed⟩ :=
      shrink_spec documented positive fits held (Nat.not_lt.mp outside) shrunk
    exact ⟨moved, ssize_of_le (by omega), removed⟩

theorem pop_spec (documented : b.Documented t.mItemSize look) (positive : 0 < t.mItemSize)
    (fits : kMinVectorCapacity * t.mItemSize ≤ sizeMax) (held : Held t.mItemSize (look m) v)
    (small : 2 * v.mCount ≤ sizeMax) (call : v.pop b t m = some (m', v')) :
    Moved t.mItemSize (look m) (look m') v v' ∧
      Removed t (b.Short m v.mStorage) (v.mCount - 1) 1 (listOf (look m) v)
        (listOf (look m') v') := by
  rw [VectorImpl.pop] at call
  split_ifs at call with any
  · obtain ⟨⟨result, m₁, v₁⟩, removed, same⟩ := Option.map_eq_some_iff.mp call
    cases same
    have spec := removeItemsAt_spec documented positive fits held small (by omega) removed
    rw [if_neg (by omega)] at spec
    exact ⟨spec.1, spec.2.2⟩
  · cases call
    have none : listOf (look m) v = [] := by
      rw [listOf, not_not.mp any, List.range_zero, List.map_nil]
    refine ⟨.refl m v, .inl ?_⟩
    rw [none, List.take_nil, List.drop_nil, List.append_nil]

theorem clear_spec (documented : b.Documented t.mItemSize look) (positive : 0 < t.mItemSize)
    (fits : kMinVectorCapacity * t.mItemSize ≤ sizeMax) (held : Held t.mItemSize (look m) v)
    (call : v.clear b t m = some (m', v')) :
    Moved t.mItemSize (look m) (look m') v v' ∧
      Removed t (b.Short m v.mStorage) 0 v.mCount (listOf (look m) v) (listOf (look m') v') :=
  shrink_spec documented positive fits held (Nat.zero_add _).le call

theorem resize_spec (documented : b.Documented t.mItemSize look) (positive : 0 < t.mItemSize)
    (fits : kMinVectorCapacity * t.mItemSize ≤ sizeMax) (held : Held t.mItemSize (look m) v)
    (small : 2 * v.mCount ≤ sizeMax) {size : Nat} (proper : 2 * size ≤ sizeMax)
    (call : v.resize b t m size = some (result, m', v')) :
    Moved t.mItemSize (look m) (look m') v v' ∧
      if v.mCount < size then
        ∃ new, Made t none (size - v.mCount) new ∧
          (result = size ∧ listOf (look m') v' = listOf (look m) v ++ new ∨
            result = noMemory ∧ listOf (look m') v' = listOf (look m) v ∧
              b.Short m v.mStorage (t.grown size))
      else result = size ∧ Removed t (b.Short m v.mStorage) size (v.mCount - size)
        (listOf (look m) v) (listOf (look m') v') := by
  have natural (n : Nat) (other : Int) : (if (n : Int) < 0 then other else ssize size) = size := by
    rw [if_neg (by omega), ssize_of_le proper]
  rw [VectorImpl.resize] at call
  obtain ⟨⟨inner, m₁, v₁⟩, done, same⟩ := Option.map_eq_some_iff.mp call
  simp only [Prod.mk.injEq] at same
  obtain ⟨rfl, rfl, rfl⟩ := same
  by_cases more : v.mCount < size
  · rw [if_pos more] at done ⊢
    obtain ⟨moved, new, made, inserted⟩ := insertAt_spec documented positive held small done
    refine ⟨moved, new, made, ?_⟩
    rw [Inserted, length_listOf, if_neg (Nat.lt_irrefl _)] at inserted
    rcases inserted with ⟨rfl, same⟩ | ⟨rfl, same, why⟩
    · refine .inl ⟨natural _ _, ?_⟩
      rw [same, List.take_of_length_le (by simp), List.drop_of_length_le (by simp), List.append_nil]
    · have length : new.length = size - v.mCount := made.1
      rw [length, Nat.add_sub_cancel' more.le] at why
      refine .inr ⟨rfl, same, why.resolve_right ?_⟩
      rintro rfl
      rw [List.length_nil] at length
      omega
  · rw [if_neg more] at done ⊢
    by_cases fewer : size < v.mCount
    · rw [if_pos fewer] at done
      have spec := removeItemsAt_spec documented positive fits held small (by omega) done
      rw [if_neg (by omega)] at spec
      obtain ⟨moved, rfl, removed⟩ := spec
      exact ⟨moved, natural _ _, removed⟩
    · rw [if_neg fewer] at done
      simp only [Option.some.injEq, Prod.mk.injEq] at done
      obtain ⟨rfl, rfl, rfl⟩ := done
      refine ⟨.refl m v, natural 0 _, .inl ?_⟩
      rw [List.take_of_length_le (by simp; omega), List.drop_of_length_le (by simp; omega),
        List.append_nil]

theorem setCapacity_spec (documented : b.Documented t.mItemSize look)
    (held : Held t.mItemSize (look m) v) {newCapacity : Nat} (proper : 2 * newCapacity ≤ sizeMax)
    (call : v.setCapacity b t m newCapacity = some (result, m', v')) :
    Moved t.mItemSize (look m) (look m') v v' ∧ listOf (look m') v' = listOf (look m) v ∧
      (v.mCount < newCapacity → result = newCapacity ∨
        result = noMemory ∧ b.Short m v.mStorage (newCapacity * t.mItemSize)) := by
  rw [VectorImpl.setCapacity] at call
  split_ifs at call with enough overflow
  · simp only [Option.some.injEq, Prod.mk.injEq] at call
    obtain ⟨-, rfl, rfl⟩ := call
    exact ⟨.refl m v, rfl, fun more => by omega⟩
  · cases replaced : v.replaceStorage b t m (newCapacity * t.mItemSize) fun array old =>
        doCopy array 0 v.mCount old 0 with
    | mk m₁ v₁ =>
    rw [replaced] at call
    have room : v.mCount * t.mItemSize ≤ newCapacity * t.mItemSize :=
      Nat.mul_le_mul_right _ (by omega)
    rcases replaced_spec documented held (Nat.not_lt.mp overflow) room replaced with
      ⟨rfl, same, short⟩ | ⟨a, rfl, rebuilt, here⟩
    · cases call
      exact ⟨.inl ⟨same, rfl⟩, by rw [same], fun _ => .inr ⟨rfl, short⟩⟩
    · simp only [Option.some.injEq, Prod.mk.injEq] at call
      obtain ⟨rfl, rfl, rfl⟩ := call
      refine ⟨.inr rebuilt, listOf_congr rfl fun k inside => ?_, fun _ => .inl (ssize_of_le proper)⟩
      rw [itemsOf_eq rfl here]
      dsimp only
      rw [doCopy_in (Nat.zero_le _) (by omega), Nat.zero_add, Nat.sub_zero]

theorem listOf_set {h h' : Heap α} {index : Nat} (count : v'.mCount = v.mCount)
    (same : ∀ k, k ≠ index → k < v.mCount → itemsOf h' v' k = itemsOf h v k) :
    listOf h' v' = (listOf h v).set index (itemsOf h' v' index) := by
  apply List.ext_getElem?
  intro k
  rw [List.getElem?_set, getElem?_listOf, getElem?_listOf, count, length_listOf]
  by_cases here : index = k
  · rw [if_pos here, here]
  · rw [if_neg here]
    split_ifs with inside
    · rw [same k (Ne.symm here) inside]
    · rfl

theorem own_spec (documented : b.Documented t.mItemSize look) (positive : 0 < t.mItemSize)
    (held : Held t.mItemSize (look m) v) (any : 0 < v.mCount)
    (edited : v.editArrayImpl b t m = some (m', v')) :
    Rebuilt t.mItemSize (look m) (look m') v v' ∧ v'.mStorage.isSome ∧ v'.mCount = v.mCount ∧
      ∀ k, k < v.mCount → itemsOf (look m') v' k = itemsOf (look m) v k := by
  rcases edited_spec documented held positive (count_le_capacity documented positive held)
    edited with ⟨storage, -, -⟩ | ⟨a, block, rfl, rebuilt, here, -, kept⟩
  · have none := held.empty storage
    omega
  · refine ⟨rebuilt, rfl, rfl, fun k inside => ?_⟩
    rw [itemsOf_eq rfl here]
    exact kept k inside

theorem replaceAt_spec (documented : b.Documented t.mItemSize look) (positive : 0 < t.mItemSize)
    (held : Held t.mItemSize (look m) v) (small : 2 * v.mCount ≤ sizeMax) {prototype : Option α}
    {index : Nat} (call : v.replaceAt b t m prototype index = some (result, m', v')) :
    Moved t.mItemSize (look m) (look m') v v' ∧
      if v.mCount ≤ index then result = badIndex ∧ listOf (look m') v' = listOf (look m) v
      else ∃ x, Made t prototype 1 [x] ∧ result = index ∧
        listOf (look m') v' = (listOf (look m) v).set index x := by
  rw [VectorImpl.replaceAt] at call
  by_cases outside : v.mCount ≤ index
  · rw [if_pos outside] at call ⊢
    cases call
    exact ⟨.refl m v, rfl, rfl⟩
  rw [if_neg outside] at call ⊢
  have room := count_le_capacity documented positive held
  rw [VectorImpl.editItemLocation, if_pos (by omega)] at call
  cases edited : v.editArrayImpl b t m with
  | none =>
      rw [edited] at call
      cases call
  | some result' =>
  obtain ⟨m₁, v₁⟩ := result'
  obtain ⟨rebuilt, stored, count, kept⟩ := own_spec documented positive held (by omega) edited
  rw [edited] at call
  simp only [stored, Option.some.injEq, Prod.mk.injEq] at call
  obtain ⟨rfl, rfl, rfl⟩ := call
  obtain ⟨destroyed, first⟩ := rebuilt.edit documented fun items => doDestroy t items index 1
  obtain ⟨moved, second⟩ := destroyed.edit documented (VectorImpl.put t prototype index 1)
  rw [first] at second
  refine ⟨.inr moved, _, ?_, ssize_of_le (by omega), listOf_set count ?_⟩
  · rw [second]
    exact made_put prototype
  · intro k other inside
    rw [second, put_out prototype (by omega), doDestroy_out (by omega)]
    exact kept k inside

theorem arrayImpl_eq (documented : b.Documented t.mItemSize look)
    (held : Held t.mItemSize (look m) v) : v.arrayImpl b m = itemsOf (look m) v := by
  rw [VectorImpl.arrayImpl]
  cases storage : v.mStorage with
  | none => rw [itemsOf, storage, Option.bind_none]
  | some a =>
      obtain ⟨block, here, -⟩ := held.held a storage
      rw [itemsOf_eq storage here]
      exact documented.load m a block here

theorem sort_spec (documented : b.Documented t.mItemSize look) (positive : 0 < t.mItemSize)
    (held : Held t.mItemSize (look m) v) (small : 2 * v.mCount ≤ sizeMax)
    {cmp : Option α → Option α → Int} {mallocFails : Bool}
    (call : v.sort b t cmp m mallocFails = some (result, m', v')) :
    Moved t.mItemSize (look m) (look m') v v' ∧
      (result = noMemory ∧ listOf (look m') v' = listOf (look m) v ∧ mallocFails ∨
        result = noError ∧ (listOf (look m') v').Perm (listOf (look m) v) ∧
          (WeakOrder (notGreater cmp) →
            listOf (look m') v' = (listOf (look m) v).mergeSort (notGreater cmp))) := by
  -- what the loop from item `i` on does to an array with the items of the vector
  have sorted (array : Nat → Option α) (i left : Nat) (count : i + left = v.mCount)
      (same : ∀ k, k < v.mCount → array k = itemsOf (look m) v k)
      (ordered : ∀ k, 0 < k → k < i →
        ¬ cmp (itemsOf (look m) v (k - 1)) (itemsOf (look m) v k) > 0) :
      ((List.range v.mCount).map (VectorImpl.sortItems cmp array i left)).Perm (listOf (look m) v) ∧
        (WeakOrder (notGreater cmp) →
          (List.range v.mCount).map (VectorImpl.sortItems cmp array i left) =
            (listOf (look m) v).mergeSort (notGreater cmp)) := by
    have items : (List.range v.mCount).map array = listOf (look m) v := by
      apply List.map_congr_left
      intro k member
      exact same k (List.mem_range.mp member)
    rw [← items, ← count]
    refine ⟨sortItems_perm array i left, fun order => ?_⟩
    refine (sortItems_stable order array i left fun k positive below => ?_).eq_mergeSort order
    rw [same _ (by omega), same _ (by omega)]
    exact ordered k positive below
  rw [VectorImpl.sort, ssize_of_le small, arrayImpl_eq documented held] at call
  have search := @firstUnsorted_spec α cmp (itemsOf (look m) v) 1 (v.mCount - 1)
  by_cases several : (v.mCount : Int) > 1
  · rw [if_pos several] at call
    cases found : VectorImpl.firstUnsorted cmp (itemsOf (look m) v) 1 (v.mCount - 1) with
    | none =>
        rw [found] at call search
        cases call
        obtain ⟨perm, merged⟩ := sorted (itemsOf (look m) v) v.mCount 0 rfl (fun _ _ => rfl)
          fun k positive below => search k positive (by omega)
        exact ⟨.refl m v, .inr ⟨rfl, perm, merged⟩⟩
    | some i =>
        rw [found] at call search
        obtain ⟨low, high, ordered⟩ := search
        cases edited : v.editArrayImpl b t m with
        | none =>
            rw [edited] at call
            cases call
        | some result' =>
        obtain ⟨m₁, v₁⟩ := result'
        obtain ⟨rebuilt, stored, count, kept⟩ :=
          own_spec documented positive held (by omega) edited
        rw [edited] at call
        dsimp only at call
        rw [Option.isNone_eq_false_iff.mpr stored, Bool.false_or] at call
        cases mallocFails with
        | true =>
            cases call
            exact ⟨.inr rebuilt, .inl ⟨rfl, listOf_congr count kept, rfl⟩⟩
        | false =>
            cases call
            obtain ⟨moved, changed⟩ := rebuilt.edit documented fun array =>
              VectorImpl.sortItems cmp array i (v'.mCount - i)
            obtain ⟨perm, merged⟩ := sorted (itemsOf (look m₁) v') i (v'.mCount - i) (by omega) kept
              fun k positive below => ordered k positive below
            rw [← count, ← changed] at perm merged
            exact ⟨.inr moved, .inr ⟨rfl, perm, merged⟩⟩
  · rw [if_neg several] at call
    cases call
    obtain ⟨perm, merged⟩ := sorted (itemsOf (look m) v) v.mCount 0 rfl (fun _ _ => rfl)
      fun k positive below => by omega
    exact ⟨.refl m v, .inr ⟨rfl, perm, merged⟩⟩

theorem inserting_none (positive : 0 < t.mItemSize)
    (fits : kMinVectorCapacity * t.mItemSize ≤ sizeMax) {index amount : Nat} {change : M → (Nat → Option α) → Nat → Option α}
    (ends : v.inserting b t m index amount change = none) :
    b.Uncopied m v.mStorage ∨ t.TooMany (v.mCount + amount) := by
  rw [VectorImpl.inserting] at ends
  split_ifs at ends
  cases grown : v.grow b t m index amount with
  | none => exact grow_none positive fits grown
  | some result =>
      obtain ⟨found, m₁, v₁⟩ := result
      rw [grown] at ends
      cases found <;> cases ends

theorem removeItemsAt_none {index count : Nat} (proper : index + count ≤ sizeMax)
    (ends : v.removeItemsAt b t m index count = none) : b.Uncopied m v.mStorage := by
  rw [VectorImpl.removeItemsAt, Nat.mod_eq_of_lt (Nat.lt_succ_of_le proper)] at ends
  split_ifs at ends with outside
  rw [Option.map_eq_none_iff] at ends
  exact shrink_none (by omega) ends

theorem setCapacity_none {newCapacity : Nat} (ends : v.setCapacity b t m newCapacity = none) :
    sizeMax < newCapacity * t.mItemSize := by
  rw [VectorImpl.setCapacity] at ends
  split_ifs at ends with enough overflow
  · exact overflow
  · cases replaced : v.replaceStorage b t m (newCapacity * t.mItemSize) fun array old =>
        doCopy array 0 v.mCount old 0 with
    | mk m₁ v₁ =>
    rw [replaced] at ends
    cases v₁ <;> cases ends

theorem replaceAt_none {prototype : Option α} {index : Nat}
    (ends : v.replaceAt b t m prototype index = none) : b.Uncopied m v.mStorage := by
  rw [VectorImpl.replaceAt] at ends
  by_cases outside : index ≥ v.mCount
  · rw [if_pos outside] at ends
    cases ends
  rw [if_neg outside, VectorImpl.editItemLocation] at ends
  by_cases within : index < v.capacity b t m
  · rw [if_pos within] at ends
    cases edited : v.editArrayImpl b t m with
    | none => exact uncopied_of_editArrayImpl edited
    | some result =>
        obtain ⟨m₁, v₁⟩ := result
        rw [edited] at ends
        dsimp only at ends
        cases stored : v₁.mStorage.isSome with
        | true =>
            rw [stored] at ends
            cases ends
        | false =>
            rw [stored] at ends
            cases ends
  · rw [if_neg within] at ends
    cases ends

theorem sort_none {cmp : Option α → Option α → Int} {mallocFails : Bool}
    (ends : v.sort b t cmp m mallocFails = none) : b.Uncopied m v.mStorage := by
  rw [VectorImpl.sort] at ends
  split_ifs at ends
  cases found : VectorImpl.firstUnsorted cmp (v.arrayImpl b m) 1 (v.mCount - 1) with
  | none =>
      rw [found] at ends
      cases ends
  | some i =>
      rw [found] at ends
      cases edited : v.editArrayImpl b t m with
      | none => exact uncopied_of_editArrayImpl edited
      | some result =>
          obtain ⟨m₁, v₁⟩ := result
          rw [edited] at ends
          dsimp only at ends
          split_ifs at ends

end Calls

end VibeXperia.Proof.Shims

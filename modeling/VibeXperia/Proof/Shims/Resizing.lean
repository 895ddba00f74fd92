import VibeXperia.Proof.Shims.Vector

namespace VibeXperia.Proof.Shims
open VibeXperia.Lib VibeXperia.Shims

/-! ## Growing and shrinking -/

section Cells
variable {α : Type} {h h' : Heap α} {v v' : VectorImpl} {itemSize place amount : Nat}

structure Opened (h h' : Heap α) (v v' : VectorImpl) (place amount : Nat) : Prop where
  count : v'.mCount = v.mCount + amount
  front : ∀ k, k < place → itemsOf h' v' k = itemsOf h v k
  back : ∀ k, place ≤ k → k < v.mCount → itemsOf h' v' (k + amount) = itemsOf h v k

structure Closed (h h' : Heap α) (v v' : VectorImpl) (place amount : Nat) : Prop where
  count : v'.mCount + amount = v.mCount
  front : ∀ k, k < place → itemsOf h' v' k = itemsOf h v k
  back : ∀ k, place ≤ k → k < v'.mCount → itemsOf h' v' k = itemsOf h v (k + amount)

theorem getElem?_listOf (k : Nat) :
    (listOf h v)[k]? = if k < v.mCount then some (itemsOf h v k) else none := by
  rw [listOf, List.getElem?_map]
  split_ifs with inside
  · rw [List.getElem?_range inside, Option.map_some]
  · rw [List.getElem?_eq_none (by simpa using inside), Option.map_none]

section Places
variable {items source : Nat → Option α} {first num start k : Nat}

theorem doCopy_in (low : first ≤ k) (high : k < first + num) :
    doCopy items first num source start k = source (start + (k - first)) := if_pos ⟨low, high⟩

theorem doCopy_out (outside : k < first ∨ first + num ≤ k) :
    doCopy items first num source start k = items k := if_neg (by omega)

theorem doCopy_front {place : Nat} (front : k < place) (behind : place ≤ first) :
    doCopy (doCopy items 0 place source 0) first num source start k = source k := by
  rw [doCopy_out (by omega), doCopy_in (by omega) (by omega), Nat.zero_add, Nat.sub_zero]

theorem doMove_in (low : first ≤ k) (high : k < first + num) :
    doMove items first num start k = items (start + (k - first)) := if_pos ⟨low, high⟩

theorem doMove_out (outside : k < first ∨ first + num ≤ k) (apart : k < start ∨ start + num ≤ k) :
    doMove items first num start k = items k := by
  rw [doMove, if_neg (by omega), if_neg (by omega)]

theorem doDestroy_out {t : Traits α} (outside : k < first ∨ first + num ≤ k) :
    doDestroy t items first num k = items k := by
  rw [doDestroy]
  split_ifs
  · rfl
  · exact if_neg (by omega)

end Places

theorem Opened.listOf_zero (opened : Opened h h' v v' place 0) : listOf h' v' = listOf h v := by
  apply listOf_congr opened.count
  intro k inside
  by_cases front : k < place
  · exact opened.front k front
  · exact opened.back k (Nat.not_lt.mp front) inside

theorem Opened.listOf (opened : Opened h h' v v' place amount) (inside : place ≤ v.mCount)
    {new : List (Option α)} (length : new.length = amount)
    (filled : ∀ k, k < amount → new[k]? = some (itemsOf h' v' (place + k))) :
    listOf h' v' = (listOf h v).take place ++ new ++ (listOf h v).drop place := by
  have taken : ((Shims.listOf h v).take place).length = place := by
    rw [List.length_take, length_listOf, Nat.min_eq_left inside]
  apply List.ext_getElem?
  intro k
  rw [getElem?_listOf, opened.count, List.append_assoc]
  by_cases front : k < place
  · rw [List.getElem?_append_left (by omega), List.getElem?_take_of_lt front, getElem?_listOf,
      if_pos (by omega), if_pos (by omega), opened.front k front]
  rw [List.getElem?_append_right (by omega), taken]
  by_cases middle : k < place + amount
  · rw [List.getElem?_append_left (by omega), filled _ (by omega), if_pos (by omega)]
    congr 2
    omega
  · rw [List.getElem?_append_right (by omega), List.getElem?_drop, getElem?_listOf, length]
    have moved : place + (k - place - amount) = k - amount := by omega
    rw [moved]
    by_cases within : k < v.mCount + amount
    · have back := opened.back (k - amount) (by omega) (by omega)
      rw [Nat.sub_add_cancel (by omega)] at back
      rw [if_pos within, if_pos (by omega), back]
    · rw [if_neg within, if_neg (by omega)]

theorem Closed.listOf (closed : Closed h h' v v' place amount)
    (inside : place + amount ≤ v.mCount) :
    listOf h' v' = (listOf h v).take place ++ (listOf h v).drop (place + amount) := by
  have count := closed.count
  have taken : ((Shims.listOf h v).take place).length = place := by
    rw [List.length_take, length_listOf, Nat.min_eq_left (by omega)]
  apply List.ext_getElem?
  intro k
  rw [getElem?_listOf]
  by_cases front : k < place
  · rw [List.getElem?_append_left (by omega), List.getElem?_take_of_lt front, getElem?_listOf,
      if_pos (by omega), if_pos (by omega), closed.front k front]
  · rw [List.getElem?_append_right (by omega), taken, List.getElem?_drop, getElem?_listOf]
    have moved : place + amount + (k - place) = k + amount := by omega
    rw [moved]
    by_cases within : k < v'.mCount
    · rw [if_pos within, if_pos (by omega), closed.back k (by omega) within]
    · rw [if_neg within, if_neg (by omega)]

end Cells

section Sizes
variable {M α : Type} {b : SharedBuffers M α} {t : Traits α} {look : M → Addr → Option (Block α)}
  {m m' : M} {v v' : VectorImpl} {place amount : Nat}

theorem upTo_of_lt {block : Block α} {itemSize size count k : Nat} (inside : k < count)
    (room : count * itemSize ≤ block.size) (kept : count * itemSize ≤ size) :
    block.upTo itemSize (min size block.size) k = block.items k := by
  have this : (k + 1) * itemSize ≤ count * itemSize := Nat.mul_le_mul_right _ inside
  rw [Block.upTo, if_pos (by omega)]

theorem count_le_capacity (documented : b.Documented t.mItemSize look)
    (positive : 0 < t.mItemSize) (held : Held t.mItemSize (look m) v) :
    v.mCount ≤ v.capacity b t m := by
  cases storage : v.mStorage with
  | none =>
      rw [held.empty storage]
      exact Nat.zero_le _
  | some a =>
      obtain ⟨block, here, -, room, -⟩ := held.held a storage
      rw [capacity_spec documented storage here, Nat.le_div_iff_mul_le positive]
      exact room

theorem replaced_spec (documented : b.Documented t.mItemSize look)
    (held : Held t.mItemSize (look m) v) {size count : Nat} (fits : size ≤ sizeMax)
    (room : count * t.mItemSize ≤ size) {replaced : Option VectorImpl}
    {make : (Nat → Option α) → (Nat → Option α) → Nat → Option α}
    (call : v.replaceStorage b t m size make = (m', replaced)) :
    replaced = none ∧ look m' = look m ∧ b.Short m v.mStorage size ∨
      ∃ a, replaced = some ⟨some a, v.mCount⟩ ∧
        Rebuilt t.mItemSize (look m) (look m') v ⟨some a, count⟩ ∧
        look m' a = some ⟨1, size, make (fun _ => none) (itemsOf (look m) v)⟩ := by
  rcases replaceStorage_spec documented held call with short | ⟨a, rfl, alone⟩
  · exact .inl short
  · exact .inr ⟨a, rfl, ⟨a, _, rfl, alone, room, fits⟩, alone.self⟩

theorem resized_spec (documented : b.Documented t.mItemSize look)
    (held : Held t.mItemSize (look m) v) (stored : v.mStorage.isSome) {size count : Nat}
    (fits : size ≤ sizeMax) (room : count * t.mItemSize ≤ size) {resized : Option VectorImpl}
    (call : v.resizeStorage b m size = (m', resized)) :
    resized = none ∧ look m' = look m ∧ b.Short m v.mStorage size ∨
      ∃ a items, resized = some ⟨some a, v.mCount⟩ ∧
        Rebuilt t.mItemSize (look m) (look m') v ⟨some a, count⟩ ∧
        look m' a = some ⟨1, size, items⟩ ∧
        ∀ k, k < v.mCount → k < count → items k = itemsOf (look m) v k := by
  obtain ⟨a, storage⟩ := Option.isSome_iff_exists.mp stored
  obtain ⟨block, here, -, there, -⟩ := held.held a storage
  rcases resizeStorage_spec documented storage here call with short | ⟨a', rfl, alone⟩
  · exact .inl short
  · refine .inr ⟨a', _, rfl, ⟨a', _, rfl, alone, room, fits⟩, alone.self, ?_⟩
    intro k old new
    rw [itemsOf_eq storage here]
    have both : min v.mCount count * t.mItemSize ≤ block.size :=
      (Nat.mul_le_mul_right _ (Nat.min_le_left _ _)).trans there
    have kept : min v.mCount count * t.mItemSize ≤ size :=
      (Nat.mul_le_mul_right _ (Nat.min_le_right _ _)).trans room
    exact upTo_of_lt (Nat.lt_min.mpr ⟨old, new⟩) both kept

theorem located_spec (documented : b.Documented t.mItemSize look) {a : Addr} {block : Block α}
    (storage : v.mStorage = some a) (here : look m a = some block) :
    v.located b t m place = decide (place < block.size / t.mItemSize) := by
  rw [VectorImpl.located, capacity_spec documented storage here, storage]
  simp

theorem found_of_rebuilt (documented : b.Documented t.mItemSize look)
    (positive : 0 < t.mItemSize) (rebuilt : Rebuilt t.mItemSize (look m) (look m') v v')
    (within : place < v'.mCount) : v'.located b t m' place = true := by
  obtain ⟨a, block, storage, alone, room, -⟩ := rebuilt
  rw [located_spec documented storage alone.self]
  rw [← Nat.le_div_iff_mul_le positive] at room
  exact decide_eq_true (by omega)

theorem edited_spec (documented : b.Documented t.mItemSize look)
    (held : Held t.mItemSize (look m) v) {count : Nat} (positive : 0 < t.mItemSize)
    (room : count ≤ v.capacity b t m) (edited : v.editArrayImpl b t m = some (m', v')) :
    v.mStorage = none ∧ m' = m ∧ v' = v ∨
      ∃ a block, v' = ⟨some a, v.mCount⟩ ∧
        Rebuilt t.mItemSize (look m) (look m') v ⟨some a, count⟩ ∧ look m' a = some block ∧
        count ≤ block.size / t.mItemSize ∧
        ∀ k, k < v.mCount → block.items k = itemsOf (look m) v k := by
  cases storage : v.mStorage with
  | none =>
      rw [editArrayImpl_none storage] at edited
      cases edited
      exact .inl ⟨rfl, rfl, rfl⟩
  | some a =>
      obtain ⟨block, here, -, -, fits⟩ := held.held a storage
      rw [capacity_spec documented storage here] at room
      obtain ⟨a', items, rfl, alone, same⟩ :=
        editArrayImpl_spec documented held storage here edited
      refine .inr ⟨a', _, rfl, ⟨a', _, rfl, alone, ?_, fits⟩, alone.self, room, ?_⟩
      · rwa [← Nat.le_div_iff_mul_le positive]
      · intro k inside
        rw [itemsOf_eq storage here]
        exact same k inside

theorem grow_cases (documented : b.Documented t.mItemSize look) (positive : 0 < t.mItemSize)
    (held : Held t.mItemSize (look m) v) (inside : place ≤ v.mCount) {found : Bool}
    (grown : v.grow b t m place amount = some (found, m', v')) :
    found = false ∧ look m' = look m ∧ v' = v ∧
        (b.Short m v.mStorage (t.grown (v.mCount + amount)) ∨ amount = 0) ∨
      Rebuilt t.mItemSize (look m) (look m') v v' ∧ Opened (look m) (look m') v v' place amount ∧
        (found = true ∨ amount = 0) := by
  have most := count_le_capacity documented positive held
  simp only [VectorImpl.grow] at grown
  split_ifs at grown with overflow₁ full overflow₂ overflow₃ overflow₄ last
  · -- the end of the storage is extended
    rw [Bool.and_eq_true, Bool.and_eq_true, decide_eq_true_iff] at last
    obtain ⟨⟨stored, rfl⟩, -⟩ := last
    cases call : v.resizeStorage b m
        (max kMinVectorCapacity (v.mCount + amount + (v.mCount + amount) / 2 + 1) * t.mItemSize) with
    | mk m₁ resized =>
    rw [call] at grown
    have room : (v.mCount + amount) * t.mItemSize ≤
        max kMinVectorCapacity (v.mCount + amount + (v.mCount + amount) / 2 + 1) * t.mItemSize :=
      Nat.mul_le_mul_right _ (by omega)
    rcases resized_spec documented held stored (Nat.not_lt.mp overflow₄) room call with
      ⟨rfl, same, short⟩ | ⟨a, items, rfl, rebuilt, here, kept⟩
    · cases grown
      exact .inl ⟨rfl, same, rfl, .inl short⟩
    · cases grown
      refine .inr ⟨rebuilt, ⟨rfl, fun k front => ?_, fun k behind within => by omega⟩, .inl ?_⟩
      · rw [itemsOf_eq rfl here]
        exact kept k front (by omega)
      · exact found_of_rebuilt documented positive rebuilt (by dsimp only; omega)
  · -- the items go to a new buffer
    cases call : v.replaceStorage b t m
        (max kMinVectorCapacity (v.mCount + amount + (v.mCount + amount) / 2 + 1) * t.mItemSize)
        fun array old =>
          doCopy (doCopy array 0 place old 0) (place + amount) (v.mCount - place) old place with
    | mk m₁ replaced =>
    rw [call] at grown
    have room : (v.mCount + amount) * t.mItemSize ≤
        max kMinVectorCapacity (v.mCount + amount + (v.mCount + amount) / 2 + 1) * t.mItemSize :=
      Nat.mul_le_mul_right _ (by omega)
    rcases replaced_spec documented held (Nat.not_lt.mp overflow₄) room call with
      ⟨rfl, same, short⟩ | ⟨a, rfl, rebuilt, here⟩
    · cases grown
      exact .inl ⟨rfl, same, rfl, .inl short⟩
    · cases grown
      refine .inr ⟨rebuilt, ⟨rfl, fun k front => ?_, fun k behind within => ?_⟩, .inl ?_⟩
      · rw [itemsOf_eq rfl here]
        exact doCopy_front front (by omega)
      · rw [itemsOf_eq rfl here]
        dsimp only
        rw [doCopy_in (by omega) (by omega)]
        congr 1
        omega
      · exact found_of_rebuilt documented positive rebuilt (by dsimp only; omega)
  · -- there is room behind the items
    cases edited : v.editArrayImpl b t m with
    | none =>
        rw [edited] at grown
        cases grown
    | some result =>
    obtain ⟨m₁, v₁⟩ := result
    rw [edited] at grown
    rcases edited_spec documented held positive (Nat.not_lt.mp full) edited with
      ⟨storage, rfl, rfl⟩ | ⟨a, block, rfl, rebuilt, here, room, kept⟩
    · have empty : v₁.mCount = 0 := held.empty storage
      have capacity : v₁.capacity b t m₁ = 0 := by rw [VectorImpl.capacity, storage]
      obtain rfl : amount = 0 := by omega
      obtain rfl : place = v₁.mCount := by omega
      simp only [ne_eq, not_true_eq_false, if_false, VectorImpl.located, storage] at grown
      cases grown
      have same : (⟨none, v₁.mCount⟩ : VectorImpl) = v₁ := by rw [← storage]
      exact .inl ⟨by simp, rfl, same, .inr rfl⟩
    · have items : itemsOf (look m₁) ⟨some a, v.mCount + amount⟩ = block.items :=
        itemsOf_eq rfl here
      dsimp only at grown
      by_cases behind : place = v.mCount
      · rw [if_neg (by simpa using behind)] at grown
        cases grown
        refine .inr ⟨rebuilt, ⟨rfl, fun k front => ?_, fun k behind within => by omega⟩, ?_⟩
        · rw [items]
          exact kept k (by omega)
        · by_cases nothing : amount = 0
          · exact .inr nothing
          · exact .inl (found_of_rebuilt documented positive rebuilt (by dsimp only; omega))
      · rw [if_pos (by simpa using behind)] at grown
        obtain ⟨moved, changed⟩ := rebuilt.edit documented fun items =>
          doMove items (place + amount) (v.mCount - place) place
        cases grown
        rw [items] at changed
        refine .inr ⟨moved, ⟨rfl, fun k front => ?_, fun k behind within => ?_⟩, ?_⟩
        · refine (congrFun changed k).trans ?_
          rw [doMove_out (by omega) (by omega)]
          exact kept k (by omega)
        · refine (congrFun changed (k + amount)).trans ?_
          rw [doMove_in (by omega) (by omega)]
          have back : place + (k + amount - (place + amount)) = k := by omega
          rw [back]
          exact kept k within
        · by_cases nothing : amount = 0
          · exact .inr nothing
          · exact .inl (found_of_rebuilt documented positive moved (by dsimp only; omega))

theorem grow_none (positive : 0 < t.mItemSize) (fits : kMinVectorCapacity * t.mItemSize ≤ sizeMax)
    (ends : v.grow b t m place amount = none) :
    b.Uncopied m v.mStorage ∨
      sizeMax < (v.mCount + amount + (v.mCount + amount) / 2 + 1) * t.mItemSize := by
  have more {n : Nat} (greater : n > sizeMax)
      (below : n ≤ v.mCount + amount + (v.mCount + amount) / 2 + 1) :
      sizeMax < (v.mCount + amount + (v.mCount + amount) / 2 + 1) * t.mItemSize :=
    (Nat.lt_of_lt_of_le greater below).trans_le (Nat.le_mul_of_pos_right _ positive)
  simp only [VectorImpl.grow] at ends
  split_ifs at ends with overflow₁ full overflow₂ overflow₃ overflow₄ last
  · exact .inr (more overflow₁ (by omega))
  · exact .inr (more overflow₂ (by omega))
  · exact .inr (more overflow₃ le_rfl)
  · right
    rcases Nat.le_total kMinVectorCapacity (v.mCount + amount + (v.mCount + amount) / 2 + 1) with
      most | least
    · rwa [Nat.max_eq_right most] at overflow₄
    · rw [Nat.max_eq_left least] at overflow₄
      exact absurd fits (Nat.not_le.mpr overflow₄)
  · cases call : v.resizeStorage b m
        (max kMinVectorCapacity (v.mCount + amount + (v.mCount + amount) / 2 + 1) * t.mItemSize) with
    | mk m₁ resized =>
    rw [call] at ends
    cases resized <;> cases ends
  · cases call : v.replaceStorage b t m
        (max kMinVectorCapacity (v.mCount + amount + (v.mCount + amount) / 2 + 1) * t.mItemSize)
        fun array old =>
          doCopy (doCopy array 0 place old 0) (place + amount) (v.mCount - place) old place with
    | mk m₁ replaced =>
    rw [call] at ends
    cases replaced <;> cases ends
  · cases edited : v.editArrayImpl b t m with
    | none => exact .inl (uncopied_of_editArrayImpl edited)
    | some result =>
        rw [edited] at ends
        cases ends

theorem shrink_cases (documented : b.Documented t.mItemSize look) (positive : 0 < t.mItemSize)
    (fits : kMinVectorCapacity * t.mItemSize ≤ sizeMax) (held : Held t.mItemSize (look m) v)
    (inside : place + amount ≤ v.mCount) (shrunk : v.shrink b t m place amount = some (m', v')) :
    look m' = look m ∧ v' = v ∧
        (b.Short m v.mStorage (t.shrunk (v.mCount - amount)) ∨ v.mCount = 0) ∨
      Rebuilt t.mItemSize (look m) (look m') v v' ∧
        Closed (look m) (look m') v v' place amount := by
  have most := count_le_capacity documented positive held
  simp only [VectorImpl.shrink] at shrunk
  by_cases storage : v.mStorage.isNone
  · rw [if_pos storage] at shrunk
    cases shrunk
    exact .inl ⟨rfl, rfl, .inr (held.empty (Option.isNone_iff_eq_none.mp storage))⟩
  have stored : v.mStorage.isSome :=
    Option.isSome_iff_ne_none.mpr fun missing => storage (Option.isNone_iff_eq_none.mpr missing)
  obtain ⟨a, here⟩ := Option.isSome_iff_exists.mp stored
  obtain ⟨block, there, -, -, size⟩ := held.held a here
  rw [if_neg storage, if_neg (by omega)] at shrunk
  by_cases small : v.mCount - amount < v.capacity b t m / 2
  · rw [if_pos small] at shrunk
    -- the size of the smaller buffer does not wrap
    have whole : max kMinVectorCapacity ((v.mCount - amount) * 2) * t.mItemSize ≤ sizeMax := by
      rcases Nat.le_total kMinVectorCapacity ((v.mCount - amount) * 2) with most | least
      · rw [Nat.max_eq_right most]
        have below : (v.mCount - amount) * 2 ≤ block.size / t.mItemSize := by
          rw [← capacity_spec documented here there]
          omega
        rw [Nat.le_div_iff_mul_le positive] at below
        exact below.trans size
      · rwa [Nat.max_eq_left least]
    rw [Nat.mod_eq_of_lt (Nat.lt_succ_of_le whole)] at shrunk
    have room : (v.mCount - amount) * t.mItemSize ≤
        max kMinVectorCapacity ((v.mCount - amount) * 2) * t.mItemSize :=
      Nat.mul_le_mul_right _ (by omega)
    split_ifs at shrunk with last
    · rw [Bool.and_eq_true, decide_eq_true_iff] at last
      obtain ⟨rfl, -⟩ := last
      cases call : v.resizeStorage b m
          (max kMinVectorCapacity ((v.mCount - amount) * 2) * t.mItemSize) with
      | mk m₁ resized =>
      rw [call] at shrunk
      rcases resized_spec documented held stored whole room call with
        ⟨rfl, same, short⟩ | ⟨c, items, rfl, rebuilt, now, kept⟩
      · cases shrunk
        exact .inl ⟨same, rfl, .inl short⟩
      · cases shrunk
        refine .inr ⟨rebuilt, ⟨by dsimp only; omega, fun k front => ?_, fun k behind within => ?_⟩⟩
        · rw [itemsOf_eq rfl now]
          exact kept k (by omega) front
        · dsimp only at within
          omega
    · cases call : v.replaceStorage b t m
          (max kMinVectorCapacity ((v.mCount - amount) * 2) * t.mItemSize) fun array old =>
            doCopy (doCopy array 0 place old 0) place (v.mCount - amount - place) old
              (place + amount) with
      | mk m₁ replaced =>
      rw [call] at shrunk
      rcases replaced_spec documented held whole room call with
        ⟨rfl, same, short⟩ | ⟨c, rfl, rebuilt, now⟩
      · cases shrunk
        exact .inl ⟨same, rfl, .inl short⟩
      · cases shrunk
        refine .inr ⟨rebuilt, ⟨by dsimp only; omega, fun k front => ?_, fun k behind within => ?_⟩⟩
        · rw [itemsOf_eq rfl now]
          exact doCopy_front front le_rfl
        · dsimp only at within
          rw [itemsOf_eq rfl now]
          dsimp only
          rw [doCopy_in (by omega) (by omega)]
          congr 1
          omega
  · rw [if_neg small] at shrunk
    cases edited : v.editArrayImpl b t m with
    | none =>
        rw [edited] at shrunk
        cases shrunk
    | some result =>
    obtain ⟨m₁, v₁⟩ := result
    rw [edited] at shrunk
    have less : v.mCount - amount ≤ v.capacity b t m := by omega
    rcases edited_spec documented held positive less edited with
      ⟨missing, -, -⟩ | ⟨c, block', rfl, rebuilt, now, -, kept⟩
    · rw [missing] at here
      cases here
    · have items : itemsOf (look m₁) ⟨some c, v.mCount - amount⟩ = block'.items :=
        itemsOf_eq rfl now
      obtain ⟨destroyed, changed⟩ := rebuilt.edit documented fun items =>
        doDestroy t items place amount
      rw [items] at changed
      have untouched {k : Nat} (outside : k < place ∨ place + amount ≤ k) (old : k < v.mCount) :
          doDestroy t block'.items place amount k = itemsOf (look m) v k := by
        rw [doDestroy_out outside]
        exact kept k old
      dsimp only at shrunk
      by_cases behind : place = v.mCount - amount
      · rw [if_neg (by simpa using behind)] at shrunk
        cases shrunk
        refine .inr ⟨destroyed, ⟨by dsimp only; omega, fun k front => ?_, ?_⟩⟩
        · exact (congrFun changed k).trans (untouched (.inl front) (by omega))
        · intro k above within
          dsimp only at within
          omega
      · rw [if_pos (by simpa using behind)] at shrunk
        obtain ⟨moved, closed⟩ := destroyed.edit documented fun items =>
          doMove items place (v.mCount - amount - place) (place + amount)
        rw [changed] at closed
        cases shrunk
        refine .inr ⟨moved, ⟨by dsimp only; omega, fun k front => ?_, fun k above within => ?_⟩⟩
        · refine (congrFun closed k).trans ?_
          rw [doMove_out (by omega) (by omega)]
          exact untouched (.inl front) (by omega)
        · dsimp only at within
          refine (congrFun closed k).trans ?_
          rw [doMove_in (by omega) (by omega)]
          have back : place + amount + (k - place) = k + amount := by omega
          rw [back]
          exact untouched (.inr (by omega)) (by omega)

theorem shrink_none (inside : amount ≤ v.mCount) (ends : v.shrink b t m place amount = none) :
    b.Uncopied m v.mStorage := by
  simp only [VectorImpl.shrink] at ends
  by_cases storage : v.mStorage.isNone
  · rw [if_pos storage] at ends
    cases ends
  rw [if_neg storage, if_neg (by omega)] at ends
  by_cases small : v.mCount - amount < v.capacity b t m / 2
  · rw [if_pos small] at ends
    split_ifs at ends with last
    · cases call : v.resizeStorage b m (max kMinVectorCapacity ((v.mCount - amount) * 2) *
          t.mItemSize % (sizeMax + 1)) with
      | mk m₁ resized =>
      rw [call] at ends
      cases resized <;> cases ends
    · cases call : v.replaceStorage b t m (max kMinVectorCapacity ((v.mCount - amount) * 2) *
          t.mItemSize % (sizeMax + 1)) fun array old =>
            doCopy (doCopy array 0 place old 0) place (v.mCount - amount - place) old
              (place + amount) with
      | mk m₁ replaced =>
      rw [call] at ends
      cases replaced <;> cases ends
  · rw [if_neg small] at ends
    cases edited : v.editArrayImpl b t m with
    | none => exact uncopied_of_editArrayImpl edited
    | some result =>
        rw [edited] at ends
        cases ends

end Sizes

end VibeXperia.Proof.Shims

import VibeXperia.Shims.SortedVector
import VibeXperia.Proof.Shims.Vectors

namespace VibeXperia.Proof.Shims
open VibeXperia.Lib VibeXperia.Shims

/-! ## The binary search -/

section Search
variable {α : Type} {doCompare : Option α → Option α → Int} {array : Nat → Option α}
  {item : Option α} {n : Nat}

/-- Either an item that compares equal is found, or the place in front of which all items are less
and from which on all are greater. -/
def Searched (doCompare : Option α → Option α → Int) (array : Nat → Option α) (item : Option α)
    (n : Nat) (result : Int × Int) : Prop :=
  (∃ i, i < n ∧ result = (↑i, ↑i) ∧ doCompare (array i) item = 0) ∨
    ∃ i, i ≤ n ∧ result = (nameNotFound, ↑i) ∧ (∀ k, k < i → doCompare (array k) item < 0) ∧
      ∀ k, i ≤ k → k < n → 0 < doCompare (array k) item

/-- Between `l` and `h` stands what is not yet known to be less or greater. -/
theorem search_spec (less : ∀ i j, i < j → j < n → doCompare (array j) item < 0 →
      doCompare (array i) item < 0)
    (greater : ∀ i j, i < j → j < n → 0 < doCompare (array i) item →
      0 < doCompare (array j) item)
    (rounds : Nat) (l : Nat) (h : Int) (low : (l : Int) ≤ h + 1) (high : h < n)
    (enough : h + 1 - l ≤ rounds) (below : ∀ k, k < l → doCompare (array k) item < 0)
    (above : ∀ k : Nat, h < k → k < n → 0 < doCompare (array k) item) :
    Searched doCompare array item n (SortedVectorImpl.search doCompare array item rounds l h) := by
  have done (passed : h < l) : Searched doCompare array item n (nameNotFound, ↑l) :=
    .inr ⟨l, by omega, rfl, below, fun k from_l => above k (by omega)⟩
  induction rounds generalizing l h with
  | zero => exact done (by omega)
  | succ rounds ih =>
      rw [SortedVectorImpl.search]
      by_cases more : (l : Int) ≤ h
      · rw [if_pos more]
        obtain ⟨mid, middle⟩ : ∃ mid : Nat, (mid : Int) = l + (h - l) / 2 :=
          ⟨(l + (h - l) / 2).toNat, by omega⟩
        simp only [← middle, Int.toNat_natCast]
        split_ifs with equal smaller
        · exact .inl ⟨mid, by omega, rfl, equal⟩
        · have all (k : Nat) (before : k < mid + 1) : doCompare (array k) item < 0 := by
            by_cases here : k = mid
            · rwa [here]
            · exact less k mid (by omega) (by omega) smaller
          exact ih (mid + 1) h (by omega) high (by omega) all above
            fun passed => .inr ⟨mid + 1, by omega, rfl, all, fun k from_l => above k (by omega)⟩
        · have larger : 0 < doCompare (array mid) item := by omega
          have all (k : Nat) (behind : (mid : Int) - 1 < k) (within : k < n) :
              0 < doCompare (array k) item := by
            by_cases here : k = mid
            · rwa [here]
            · exact greater mid k (by omega) within larger
          exact ih l (mid - 1) (by omega) (by omega) (by omega) below all
            fun passed => .inr ⟨l, by omega, rfl, below, fun k from_l => all k (by omega)⟩
      · rw [if_neg more]
        exact done (by omega)

end Search

theorem ssize_pred {n : Nat} (small : 2 * n ≤ sizeMax) : ssize (n + sizeMax) = n - 1 := by
  have wraps : ((n + sizeMax : Nat) : Int) = (n - 1) + ((sizeMax + 1 : Nat) : Int) := by omega
  rw [ssize, wraps]
  rw [Int.add_bmod_right]
  apply Int.bmod_eq_of_le
  · rw [sizeMax] at *
    omega
  · rw [sizeMax] at *
    omega

/-! ## The calls on one sorted vector -/

section Sorted
variable {M α κ : Type} [LinearOrder κ] {b : SharedBuffers M α} {t : Traits α}
  {look : M → Addr → Option (Block α)} {key : α → κ} {doCompare : Option α → Option α → Int}
  {m m' : M} {v v' : VectorImpl} {xs lower upper : List α} {item : α} {result : Int}

theorem greater_iff (compares : Compares key doCompare) (x y : α) :
    0 < doCompare (some x) (some y) ↔ key y < key x := by
  have less := (compares x y).1
  have equal := (compares x y).2
  rw [← not_le, ← not_le, le_iff_lt_or_eq, le_iff_lt_or_eq, less, equal]

structure Lists (key : α → κ) (h : Heap α) (v : VectorImpl) (xs : List α) : Prop where
  items : listOf h v = xs.map some
  keyed : Keyed key xs

theorem Lists.count {h : Heap α} (lists : Lists key h v xs) : v.mCount = xs.length := by
  have same := congrArg List.length lists.items
  rwa [length_listOf, List.length_map] at same

theorem Lists.itemsOf {h : Heap α} {k : Nat} (lists : Lists key h v xs) (inside : k < xs.length) :
    Shims.itemsOf h v k = some xs[k] := by
  have same : (listOf h v)[k]? = (xs.map some)[k]? := by rw [lists.items]
  rw [getElem?_listOf, if_pos (by rw [lists.count]; exact inside), List.getElem?_map,
    List.getElem?_eq_getElem inside, Option.map_some] at same
  exact Option.some.inj same

theorem Lists.first (documented : b.Documented t.mItemSize look)
    (held : Held t.mItemSize (look m) v) (lists : Lists key (look m) v xs) (any : xs ≠ []) :
    v.arrayImpl b m 0 = some (xs.head any) := by
  rw [arrayImpl_eq documented held, lists.itemsOf (List.length_pos_iff.mpr any),
    List.head_eq_getElem]

theorem Lists.last (documented : b.Documented t.mItemSize look) (positive : 0 < t.mItemSize)
    (held : Held t.mItemSize (look m) v) (lists : Lists key (look m) v xs) (any : xs ≠ []) :
    SortedVectorImpl.itemAt b t m v ((v.mCount + sizeMax) % (sizeMax + 1)) =
      some (xs.getLast any) := by
  have room := count_le_capacity documented positive held
  have most := held.count_le positive
  have length := List.length_pos_iff.mpr any
  have count := lists.count
  have place : (v.mCount + sizeMax) % (sizeMax + 1) = xs.length - 1 := by
    have wraps : v.mCount + sizeMax = (xs.length - 1) + (sizeMax + 1) := by omega
    rw [wraps, Nat.add_mod_right, Nat.mod_eq_of_lt (by omega)]
  have located : v.located b t m (xs.length - 1) = true := by
    rw [VectorImpl.located, Bool.and_eq_true, decide_eq_true_iff]
    refine ⟨by omega, ?_⟩
    rw [Option.isSome_iff_ne_none]
    intro none
    have empty := held.empty none
    omega
  rw [place, SortedVectorImpl.itemAt, if_pos located, arrayImpl_eq documented held,
    lists.itemsOf (by omega), List.getLast_eq_getElem]

inductive Found (key : α → κ) (xs : List α) (item : α) : Int × Int → Prop
  | here (lower : List α) (y : α) (upper : List α) (split : xs = lower ++ y :: upper)
      (same : key y = key item) : Found key xs item (lower.length, lower.length)
  | missing (lower upper : List α) (split : xs = lower ++ upper)
      (below : ∀ y ∈ lower, key y < key item) (above : ∀ y ∈ upper, key item < key y) :
      Found key xs item (nameNotFound, lower.length)

theorem indexOrderOf_spec (documented : b.Documented t.mItemSize look)
    (held : Held t.mItemSize (look m) v) (small : 2 * v.mCount ≤ sizeMax)
    (compares : Compares key doCompare) (lists : Lists key (look m) v xs) (item : α) :
    Found key xs item (SortedVectorImpl.indexOrderOf b doCompare m v (some item)) := by
  have count := lists.count
  have increasing (i j : Nat) (order : i < j) (inside : j < xs.length) : key xs[i] < key xs[j] :=
    List.pairwise_iff_getElem.mp lists.keyed i j _ _ order
  have searched : Searched doCompare (itemsOf (look m) v) (some item) v.mCount
      (SortedVectorImpl.indexOrderOf b doCompare m v (some item)) := by
    rw [SortedVectorImpl.indexOrderOf, arrayImpl_eq documented held, ssize_pred small]
    refine search_spec (fun i j order inside less => ?_) (fun i j order inside greater => ?_)
      v.mCount 0 _ (by omega) (by omega) (by omega) (fun k => by omega) fun k => by omega
    · rw [lists.itemsOf (by omega), (compares _ _).1] at less ⊢
      exact (increasing i j order (by omega)).trans less
    · rw [lists.itemsOf (by omega), greater_iff compares] at greater ⊢
      exact greater.trans (increasing i j order (by omega))
  rcases searched with ⟨i, inside, same, equal⟩ | ⟨i, inside, same, below, above⟩
  · rw [count] at inside
    rw [lists.itemsOf inside, (compares _ _).2] at equal
    have length : (xs.take i).length = i := by rw [List.length_take, Nat.min_eq_left inside.le]
    have split : xs = xs.take i ++ xs[i] :: xs.drop (i + 1) := by
      rw [← List.drop_eq_getElem_cons inside, List.take_append_drop]
    rw [same, ← length]
    exact .here (xs.take i) _ (xs.drop (i + 1)) split equal
  · rw [count] at inside
    have length : (xs.take i).length = i := by rw [List.length_take, Nat.min_eq_left inside]
    rw [same, ← length]
    refine .missing (xs.take i) (xs.drop i) (List.take_append_drop i xs).symm ?_ ?_
    · intro y member
      obtain ⟨k, within, rfl⟩ := List.getElem_of_mem member
      rw [length] at within
      have less := below k within
      rw [lists.itemsOf (by omega), (compares _ _).1] at less
      rwa [List.getElem_take]
    · intro y member
      obtain ⟨k, within, rfl⟩ := List.getElem_of_mem member
      rw [List.length_drop] at within
      have greater := above (i + k) (by omega) (by omega)
      rw [lists.itemsOf (by omega), greater_iff compares] at greater
      rwa [List.getElem_drop]

theorem add_spec (documented : b.Documented t.mItemSize look) (positive : 0 < t.mItemSize)
    (held : Held t.mItemSize (look m) v) (small : 2 * v.mCount ≤ sizeMax)
    (compares : Compares key doCompare) (lists : Lists key (look m) v xs)
    (call : SortedVectorImpl.add b t doCompare m v (some item) = some (result, m', v')) :
    Moved t.mItemSize (look m) (look m') v v' ∧ ∃ xs', Lists key (look m') v' xs' ∧
      xs'.length ≤ xs.length + 1 ∧
      (result = noMemory ∧ xs' = xs ∧ b.Short m v.mStorage (t.grown (xs.length + 1)) ∨
        0 ≤ result ∧ xs'[result.toNat]? = some item ∧
          lookup key xs' = Function.update (lookup key xs) (key item) (some item)) := by
  have found := indexOrderOf_spec documented held small compares lists item
  have count := lists.count
  have keyed := lists.keyed
  rw [SortedVectorImpl.add] at call
  generalize SortedVectorImpl.indexOrderOf b doCompare m v (some item) = place at call found
  cases found with
  | here lower y upper split same =>
      subst split
      rw [List.length_append, List.length_cons] at count
      simp only [Int.toNat_natCast] at call
      rw [if_neg (by omega)] at call
      obtain ⟨moved, spec⟩ := replaceAt_spec documented positive held small call
      rw [if_neg (by omega)] at spec
      obtain ⟨x, made, rfl, set⟩ := spec
      obtain rfl : x = some item := by simpa [Made] using made
      refine ⟨moved, lower ++ item :: upper, ⟨?_, keyed.replace same.symm⟩, by simp, .inr
        ⟨by omega, by simp, keyed.lookup_replace same.symm⟩⟩
      rw [set, lists.items, ← List.map_set, List.set_append_right _ _ le_rfl, Nat.sub_self,
        List.set_cons_zero]
  | missing lower upper split below above =>
      subst split
      rw [List.length_append] at count
      simp only [Int.toNat_natCast] at call
      rw [if_pos (by decide)] at call
      obtain ⟨moved, new, made, inserted⟩ := insertAt_spec documented positive held small call
      obtain rfl : new = [some item] := made
      rw [Inserted, length_listOf, if_neg (by omega)] at inserted
      rcases inserted with ⟨rfl, items⟩ | ⟨rfl, items, why⟩
      · refine ⟨moved, lower ++ item :: upper, ⟨?_, keyed.insert below above⟩, by simp; omega, .inr
          ⟨by omega, by simp, lookup_insert fun y member => (below y member).ne⟩⟩
        rw [items, lists.items, List.map_append, List.take_left' (List.length_map _),
          List.drop_left' (List.length_map _), List.map_append, List.map_cons, List.append_assoc,
          List.singleton_append]
      · refine ⟨moved, lower ++ upper, ⟨items.trans lists.items, keyed⟩, by omega, .inl
          ⟨rfl, rfl, ?_⟩⟩
        rw [List.length_append, ← count]
        exact why.resolve_right (by simp)

theorem remove_spec (documented : b.Documented t.mItemSize look) (positive : 0 < t.mItemSize)
    (fits : kMinVectorCapacity * t.mItemSize ≤ sizeMax) (held : Held t.mItemSize (look m) v)
    (small : 2 * v.mCount ≤ sizeMax) (compares : Compares key doCompare)
    (lists : Lists key (look m) v xs)
    (call : SortedVectorImpl.remove b t doCompare m v (some item) = some (result, m', v')) :
    Moved t.mItemSize (look m) (look m') v v' ∧ ∃ xs', Lists key (look m') v' xs' ∧
      (lookup key xs (key item) = none ∧ result = nameNotFound ∧ xs' = xs ∨
        (∃ (i : Nat) (x : α), xs[i]? = some x ∧ key x = key item ∧ result = i) ∧
          (xs' = xs ∧ b.Short m v.mStorage (t.shrunk (xs.length - 1)) ∨
            lookup key xs' = Function.update (lookup key xs) (key item) none)) := by
  have found := indexOrderOf_spec documented held small compares lists item
  have count := lists.count
  have keyed := lists.keyed
  rw [SortedVectorImpl.remove, SortedVectorImpl.indexOf] at call
  generalize SortedVectorImpl.indexOrderOf b doCompare m v (some item) = place at call found
  cases found with
  | here lower y upper split same =>
      subst split
      rw [List.length_append, List.length_cons] at count
      simp only [Int.toNat_natCast] at call
      rw [if_pos (by omega)] at call
      obtain ⟨⟨removed', m₁, v₁⟩, done, equal⟩ := Option.map_eq_some_iff.mp call
      cases equal
      have total := held.count_le positive
      obtain ⟨moved, spec⟩ :=
        removeItemsAt_spec documented positive fits held small (by omega) done
      rw [if_neg (by omega)] at spec
      have which : ∃ (i : Nat) (x : α), (lower ++ y :: upper)[i]? = some x ∧
          key x = key item ∧ (lower.length : Int) = i := ⟨lower.length, y, by simp, same, rfl⟩
      rcases spec.2 with items | ⟨items, short⟩
      · refine ⟨moved, lower ++ upper, ⟨?_, keyed.erase⟩, .inr ⟨which, .inr ?_⟩⟩
        · rw [items, lists.items, List.map_append, List.map_cons,
            List.take_left' (List.length_map _), ← List.drop_drop,
            List.drop_left' (List.length_map _), List.drop_one, List.tail_cons, List.map_append]
        · rw [keyed.lookup_erase, same]
      · rw [lists.items, List.length_map] at short
        exact ⟨moved, _, ⟨items.trans lists.items, keyed⟩, .inr ⟨which, .inl ⟨rfl, short⟩⟩⟩
  | missing lower upper split below above =>
      subst split
      simp only at call
      rw [if_neg (by decide)] at call
      cases call
      refine ⟨.refl m v, _, lists, .inl ⟨?_, rfl, rfl⟩⟩
      rw [lookup_eq_none]
      intro x member
      rcases List.mem_append.mp member with member | member
      · exact (below x member).ne
      · exact (above x member).ne'

theorem merged_cons {y : α} {ys zs : List α}
    (added : lookup key zs = Function.update (lookup key xs) (key y) (some y)) :
    Merged key ys zs = Merged key (y :: ys) xs := by
  funext k
  rw [Merged, Merged, added, List.reverse_cons, lookup_append]
  dsimp only
  rw [lookup_cons, Option.or_assoc]
  by_cases here : k = key y
  · rw [here, Function.update_self, if_pos rfl, Option.some_or]
  · rw [Function.update_of_ne here, if_neg (Ne.symm here)]
    rfl

theorem merged_nil : Merged key [] xs = lookup key xs := rfl

theorem merged_keyed {ys : List α} (keyed : Keyed key ys) :
    Merged key ys xs = fun k => (lookup key ys k).or (lookup key xs k) := by
  funext k
  rw [Merged, keyed.lookup_reverse]

end Sorted

end VibeXperia.Proof.Shims

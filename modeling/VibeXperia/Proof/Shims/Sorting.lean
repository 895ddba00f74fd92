import VibeXperia.Shims.Vectors

namespace VibeXperia.Proof.Shims
open VibeXperia.Lib VibeXperia.Shims
open VectorImpl (shift sortItem sortItems firstUnsorted)

/-! ## The insertion sort -/

section Sorting
variable {α : Type} {cmp : Option α → Option α → Int} {array : Nat → Option α}

structure Shifted (cmp : Option α → Option α → Int) (temp : Option α) (array : Nat → Option α)
    (next : Nat) (shifted : Nat → Option α) (hole : Nat) : Prop where
  down : hole ≤ next
  others : ∀ k, k < hole ∨ next < k → shifted k = array k
  moved : ∀ k, hole ≤ k → k < next → shifted (k + 1) = array k ∧ cmp (array k) temp > 0
  stops : 0 < hole → ¬ cmp (array (hole - 1)) temp > 0

theorem shift_spec {temp : Option α} (next : Nat) (array : Nat → Option α)
    (greater : 0 < next → cmp (array (next - 1)) temp > 0) :
    Shifted cmp temp array next (shift cmp temp array next).1 (shift cmp temp array next).2 := by
  induction next generalizing array with
  | zero => exact ⟨le_rfl, fun k _ => rfl, fun k _ below => by omega, fun above => by cases above⟩
  | succ next ih =>
      have below (k : Nat) (other : k ≠ next + 1) :
          Function.update array (next + 1) (array next) k = array k :=
        Function.update_of_ne other _ _
      have here := greater next.succ_pos
      rw [Nat.add_sub_cancel] at here
      simp only [shift]
      split_ifs with more
      · rw [Bool.and_eq_true, decide_eq_true_iff, decide_eq_true_iff] at more
        have rest := ih _ fun _ => more.2
        refine ⟨rest.down.trans next.le_succ, fun k outside => ?_, fun k above within => ?_, ?_⟩
        · rw [rest.others k (by omega), below k (by have := rest.down; omega)]
        · by_cases last : k = next
          · subst last
            rw [rest.others (k + 1) (by omega), Function.update_self]
            exact ⟨rfl, here⟩
          · have earlier := rest.moved k above (by omega)
            rwa [below k (by omega)] at earlier
        · intro positive
          have stops := rest.stops positive
          rwa [below _ (by have := rest.down; omega)] at stops
      · refine ⟨next.le_succ, fun k outside => below k (by omega), fun k above within => ?_, ?_⟩
        · dsimp only at above
          obtain rfl : k = next := by omega
          exact ⟨Function.update_self _ _ _, here⟩
        · intro positive greater
          rw [Bool.and_eq_true, decide_eq_true_iff, decide_eq_true_iff, below _ (by omega)] at more
          exact more ⟨positive, greater⟩

theorem sortItem_spec (cmp : Option α → Option α → Int) (array : Nat → Option α) (i : Nat) :
    ∃ hole, hole ≤ i ∧ (∀ k, i < k → sortItem cmp array i k = array k) ∧
      (List.range (i + 1)).map (sortItem cmp array i) = ((List.range i).map array).take hole ++
        array i :: ((List.range i).map array).drop hole ∧
      (∀ k, hole ≤ k → k < i → cmp (array k) (array i) > 0) ∧
      (0 < hole → ¬ cmp (array (hole - 1)) (array i) > 0) := by
  by_cases greater : cmp (array (i - 1)) (array i) > 0
  · have spec := shift_spec i array fun _ => greater
    have same : sortItem cmp array i = Function.update (shift cmp (array i) array i).1
        (shift cmp (array i) array i).2 (array i) := if_pos greater
    rw [same]
    generalize shift cmp (array i) array i = result at spec
    obtain ⟨shifted, hole⟩ := result
    have down : hole ≤ i := spec.down
    refine ⟨hole, down, fun k behind => ?_, ?_, fun k above within => (spec.moved k above within).2,
      spec.stops⟩
    · dsimp only
      rw [Function.update_of_ne (by omega)]
      exact spec.others k (.inr behind)
    · have taken : (((List.range i).map array).take hole).length = hole := by simp [down]
      apply List.ext_getElem?
      intro k
      by_cases before : k < hole
      · rw [List.getElem?_append_left (by omega), List.getElem?_take_of_lt before,
          List.getElem?_map, List.getElem?_map, List.getElem?_range (by omega),
          List.getElem?_range (by omega), Option.map_some, Option.map_some,
          Function.update_of_ne (by dsimp only; omega)]
        exact congrArg some (spec.others k (.inl before))
      rw [List.getElem?_append_right (by omega), taken]
      by_cases here : k = hole
      · subst here
        rw [Nat.sub_self, List.getElem?_cons_zero, List.getElem?_map,
          List.getElem?_range (by omega), Option.map_some, Function.update_self]
      · obtain ⟨j, rfl⟩ := Nat.exists_eq_add_of_lt (show hole < k by omega)
        have place : hole + j + 1 - hole = j + 1 := by omega
        rw [place, List.getElem?_cons_succ, List.getElem?_drop, List.getElem?_map,
          List.getElem?_map]
        by_cases within : hole + j < i
        · rw [List.getElem?_range (by omega), List.getElem?_range within, Option.map_some,
            Option.map_some, Function.update_of_ne (by dsimp only; omega)]
          exact congrArg some (spec.moved (hole + j) (Nat.le_add_right _ _) within).1
        · rw [List.getElem?_eq_none (by simpa using within),
            List.getElem?_eq_none (by simpa using within)]
          rfl
  · have same : sortItem cmp array i = array := if_neg greater
    rw [same]
    refine ⟨i, le_rfl, fun k _ => rfl, ?_, fun k above within => by omega, fun _ => greater⟩
    rw [List.range_succ, List.map_append, List.take_of_length_le (by simp),
      List.drop_of_length_le (by simp), List.map_singleton]

theorem range_succ_map (array : Nat → Option α) (i : Nat) :
    (List.range (i + 1)).map array = (List.range i).map array ++ [array i] := by
  rw [List.range_succ, List.map_append, List.map_singleton]

/-- The loop keeps any relation of the items in order to those it was given that one insertion
keeps. -/
theorem sortItems_induct {R : List (Option α) → List (Option α) → Prop}
    (insert : ∀ array i done, R ((List.range i).map array) done →
      R ((List.range (i + 1)).map (sortItem cmp array i)) (done ++ [array i]))
    (left : Nat) (array : Nat → Option α) (i : Nat) (done : List (Option α))
    (start : R ((List.range i).map array) done) :
    R ((List.range (i + left)).map (sortItems cmp array i left))
      (done ++ (List.range' i left).map array) := by
  induction left generalizing array i done with
  | zero => simpa [sortItems] using start
  | succ left ih =>
      have next := ih _ _ _ (insert array i done start)
      obtain ⟨hole, -, others, -⟩ := sortItem_spec cmp array i
      have behind : (List.range' (i + 1) left).map (sortItem cmp array i) =
          (List.range' (i + 1) left).map array := by
        apply List.map_congr_left
        intro k member
        exact others k (List.mem_range'_1.mp member).1
      rw [behind, List.append_assoc, Nat.add_right_comm] at next
      exact next

theorem range_map_split (array : Nat → Option α) (i left : Nat) :
    (List.range i).map array ++ (List.range' i left).map array =
      (List.range (i + left)).map array := by
  have split := @List.range'_append_1 0 i left
  rw [Nat.zero_add] at split
  rw [← List.map_append, List.range_eq_range', List.range_eq_range', split]

theorem sortItems_perm (array : Nat → Option α) (i left : Nat) :
    ((List.range (i + left)).map (sortItems cmp array i left)).Perm
      ((List.range (i + left)).map array) := by
  rw [← range_map_split array]
  apply sortItems_induct (R := List.Perm)
  · intro array i done perm
    obtain ⟨hole, -, -, inserted, -⟩ := sortItem_spec cmp array i
    rw [inserted]
    apply List.perm_middle.trans
    rw [List.take_append_drop]
    exact (perm.cons _).trans (List.perm_append_singleton _ _).symm
  · exact List.Perm.refl _

theorem notGreater_iff {x y : Option α} : notGreater cmp x y ↔ ¬ cmp x y > 0 := by
  rw [notGreater, decide_eq_true_iff, Int.not_lt]

theorem ordered_of_neighbours (order : WeakOrder (notGreater cmp)) {i : Nat}
    (sorted : ∀ k, 0 < k → k < i → ¬ cmp (array (k - 1)) (array k) > 0) :
    ((List.range i).map array).Pairwise fun x y => notGreater cmp x y := by
  induction i with
  | zero => exact .nil
  | succ i ih =>
      have before := ih fun k positive below => sorted k positive (by omega)
      rw [range_succ_map]
      refine List.pairwise_append.mpr ⟨before, List.pairwise_singleton _ _, ?_⟩
      intro x member y here
      rw [List.mem_singleton] at here
      subst here
      cases i with
      | zero => cases member
      | succ i =>
          have last := notGreater_iff.mpr (sorted (i + 1) i.succ_pos (Nat.lt_succ_self _))
          rw [range_succ_map] at before member
          exact order.le_of_last before last member

/-- From the first item that is out of order on, the loop sorts. -/
theorem sortItems_stable (order : WeakOrder (notGreater cmp)) (array : Nat → Option α)
    (i left : Nat) (sorted : ∀ k, 0 < k → k < i → ¬ cmp (array (k - 1)) (array k) > 0) :
    StableSort (notGreater cmp) ((List.range (i + left)).map (sortItems cmp array i left))
      ((List.range (i + left)).map array) := by
  rw [← range_map_split array]
  apply sortItems_induct (R := StableSort (notGreater cmp))
  · intro array i done sorting
    obtain ⟨hole, down, -, inserted, above, below⟩ := sortItem_spec cmp array i
    rw [inserted]
    rw [← List.take_append_drop hole ((List.range i).map array)] at sorting
    refine sorting.insert order ?_ ?_
    · -- the item in front of the hole is the greatest of those before it
      intro y member
      cases hole with
      | zero => simp at member
      | succ hole =>
          have last := notGreater_iff.mpr (below hole.succ_pos)
          rw [Nat.add_sub_cancel] at last
          have front : ((List.range i).map array).take (hole + 1) =
              (List.range hole).map array ++ [array hole] := by
            rw [← List.map_take, List.take_range, Nat.min_eq_left down, range_succ_map]
          have ordered := (List.pairwise_append.mp sorting.pairwise).1
          rw [front] at ordered member
          exact order.le_of_last ordered last member
    · intro y member
      rw [notGreater_iff, not_not]
      obtain ⟨k, inside, rfl⟩ := List.getElem_of_mem member
      rw [List.getElem_drop, List.getElem_map, List.getElem_range]
      rw [List.length_drop, List.length_map, List.length_range] at inside
      have within : hole + k < i := by omega
      exact above _ (Nat.le_add_right _ _) within
  · exact stableSort_self (ordered_of_neighbours order sorted)

theorem firstUnsorted_spec (array : Nat → Option α) (i left : Nat) :
    match firstUnsorted cmp array i left with
    | none => ∀ k, i ≤ k → k < i + left → ¬ cmp (array (k - 1)) (array k) > 0
    | some j => i ≤ j ∧ j < i + left ∧
        ∀ k, i ≤ k → k < j → ¬ cmp (array (k - 1)) (array k) > 0 := by
  induction left generalizing i with
  | zero =>
      intro k above below
      omega
  | succ left ih =>
      rw [firstUnsorted]
      split_ifs with greater
      · exact ⟨le_rfl, by omega, fun k above below => by omega⟩
      · have rest := ih (i + 1)
        cases found : firstUnsorted cmp array (i + 1) left with
        | none =>
            rw [found] at rest
            intro k above below
            rcases Nat.eq_or_lt_of_le above with rfl | later
            · exact greater
            · exact rest k later (by omega)
        | some j =>
            rw [found] at rest
            obtain ⟨low, high, ordered⟩ := rest
            refine ⟨by omega, by omega, fun k above below => ?_⟩
            rcases Nat.eq_or_lt_of_le above with rfl | later
            · exact greater
            · exact ordered k later below

end Sorting

end VibeXperia.Proof.Shims

import Mathlib.Data.List.Sort

namespace VibeXperia.Lib

/-! ## Stable sorting -/

section StableSort
variable {α : Type*} {le : α → α → Bool}

/-- Any two elements can be compared; elements may be tied without being equal. -/
structure WeakOrder (le : α → α → Bool) : Prop where
  total : ∀ a b, le a b ∨ le b a
  trans : ∀ {a b c}, le a b → le b c → le a c

variable (le) in
def tied (a b : α) : Bool := le a b && le b a

variable (le) in
/-- `sorted` has the elements of `l` in order, and tied ones as they follow each other in `l`. -/
structure StableSort (sorted l : List α) : Prop where
  pairwise : sorted.Pairwise fun a b => le a b
  stable : ∀ c, sorted.filter (tied le c) = l.filter (tied le c)

variable {sorted l first second : List α} {a b c x : α}

theorem WeakOrder.refl (order : WeakOrder le) : le a a := (order.total a a).elim id id

theorem tied_iff : tied le a b ↔ le a b ∧ le b a := by rw [tied, Bool.and_eq_true]

theorem WeakOrder.tied_refl (order : WeakOrder le) : tied le a a :=
  tied_iff.mpr ⟨order.refl, order.refl⟩

theorem tied_symm (same : tied le a b) : tied le b a := tied_iff.mpr (tied_iff.mp same).symm

theorem WeakOrder.tied_trans (order : WeakOrder le) (first : tied le a b) (second : tied le b c) :
    tied le a c := by
  rw [tied_iff] at *
  exact ⟨order.trans first.1 second.1, order.trans second.2 first.2⟩

theorem WeakOrder.le_of_not (order : WeakOrder le) (greater : ¬ le a b) : le b a :=
  (order.total a b).resolve_left greater

/-- The order of keys. -/
theorem weakOrder_of_key {κ : Type*} [LinearOrder κ] (key : α → κ) :
    WeakOrder fun a b => decide (key a ≤ key b) where
  total a b := by simpa using le_total (key a) (key b)
  trans first second := by
    rw [decide_eq_true_iff] at *
    exact first.trans second

theorem stableSort_nil : StableSort le [] [] := ⟨.nil, fun _ => rfl⟩

theorem stableSort_self (sorted : l.Pairwise fun a b => le a b) : StableSort le l l :=
  ⟨sorted, fun _ => rfl⟩

/-- What the last element is not greater than, none of the sorted ones is. -/
theorem WeakOrder.le_of_last (order : WeakOrder le)
    (sorted : (l ++ [b]).Pairwise fun a b => le a b) (last : le b c) (member : a ∈ l ++ [b]) :
    le a c := by
  rcases List.mem_append.mp member with earlier | here
  · exact order.trans ((List.pairwise_append.mp sorted).2.2 a earlier b (by simp)) last
  · rw [List.mem_singleton] at here
    rwa [here]

theorem StableSort.mem_iff (order : WeakOrder le) (sorting : StableSort le sorted l) :
    a ∈ sorted ↔ a ∈ l := by
  have same := sorting.stable a
  constructor
  · intro member
    have kept := List.mem_filter.mpr ⟨member, order.tied_refl (a := a)⟩
    rw [same] at kept
    exact (List.mem_filter.mp kept).1
  · intro member
    have kept := List.mem_filter.mpr ⟨member, order.tied_refl (a := a)⟩
    rw [← same] at kept
    exact (List.mem_filter.mp kept).1

/-- A new element goes behind those that are not greater and in front of the others. -/
theorem StableSort.insert (order : WeakOrder le) (sorting : StableSort le (first ++ second) l)
    (before : ∀ y ∈ first, le y x) (behind : ∀ y ∈ second, ¬ le y x) :
    StableSort le (first ++ x :: second) (l ++ [x]) where
  pairwise := by
    obtain ⟨left, right, across⟩ := List.pairwise_append.mp sorting.pairwise
    rw [List.pairwise_append, List.pairwise_cons]
    refine ⟨left, ⟨fun y member => order.le_of_not (behind y member), right⟩, ?_⟩
    intro y member z later
    rcases List.mem_cons.mp later with rfl | later
    · exact before y member
    · exact across y member z later
  stable c := by
    have same := sorting.stable c
    rw [List.filter_append] at same
    rw [List.filter_append, List.filter_append, ← same]
    by_cases here : tied le c x
    · -- nothing behind `x` is tied with it
      have none : second.filter (tied le c) = [] := by
        rw [List.filter_eq_nil_iff]
        intro y member tie
        have tie := order.tied_trans (tied_symm here) tie
        exact behind y member (tied_iff.mp tie).2
      rw [none, List.filter_cons_of_pos here, none, List.filter_cons_of_pos here]
      simp
    · rw [List.filter_cons_of_neg here, List.filter_cons_of_neg here]
      simp

/-- In front stands the first of the least elements. -/
theorem StableSort.uncons (order : WeakOrder le) (sorting : StableSort le (x :: sorted) l) :
    ∃ first second, l = first ++ x :: second ∧ (∀ y ∈ first, ¬ le y x) ∧
      (∀ y ∈ second, le x y) ∧ StableSort le sorted (first ++ second) := by
  have same := sorting.stable x
  rw [List.filter_cons_of_pos order.tied_refl] at same
  obtain ⟨first, second, rfl, others, -, -⟩ := List.filter_eq_cons_iff.mp same.symm
  have least (y) (member : y ∈ first ++ x :: second) : le x y := by
    rw [← sorting.mem_iff order] at member
    rcases List.mem_cons.mp member with rfl | member
    · exact order.refl
    · exact List.rel_of_pairwise_cons sorting.pairwise member
  refine ⟨first, second, rfl, ?_, fun y member => least y (by simp [member]), ?_⟩
  · intro y member below
    exact others y member (tied_iff.mpr ⟨least y (by simp [member]), below⟩)
  refine ⟨sorting.pairwise.of_cons, fun c => ?_⟩
  have same := sorting.stable c
  rw [List.filter_append] at same
  rw [List.filter_append]
  by_cases here : tied le c x
  · have none : first.filter (tied le c) = [] := by
      rw [List.filter_eq_nil_iff]
      intro y member tie
      exact others y member (order.tied_trans (tied_symm here) tie)
    rw [List.filter_cons_of_pos here, List.filter_cons_of_pos here, none] at same
    rw [none]
    exact (List.cons.inj same).2
  · rwa [List.filter_cons_of_neg here, List.filter_cons_of_neg here] at same

theorem StableSort.filter (sorting : StableSort le sorted l) (p : α → Bool) :
    StableSort le (sorted.filter p) (l.filter p) where
  pairwise := sorting.pairwise.filter p
  stable c := by
    rw [List.filter_comm, sorting.stable c, List.filter_comm]

/-- There is one stable sort of a list. -/
theorem StableSort.unique (order : WeakOrder le) {other : List α}
    (sorting : StableSort le sorted l) (too : StableSort le other l) : sorted = other := by
  induction sorted generalizing other l with
  | nil =>
      rw [eq_comm, List.eq_nil_iff_forall_not_mem]
      intro a member
      rw [too.mem_iff order, ← sorting.mem_iff order] at member
      cases member
  | cons x sorted ih =>
      cases other with
      | nil =>
          have member : x ∈ x :: sorted := by simp
          rw [sorting.mem_iff order, ← too.mem_iff order] at member
          cases member
      | cons y other =>
          have le_head {z z' : α} {zs zs' : List α} (one : StableSort le (z :: zs) l)
              (two : StableSort le (z' :: zs') l) : le z z' := by
            have member : z' ∈ z' :: zs' := by simp
            rw [two.mem_iff order, ← one.mem_iff order] at member
            rcases List.mem_cons.mp member with rfl | member
            · exact order.refl
            · exact List.rel_of_pairwise_cons one.pairwise member
          have tie := tied_iff.mpr ⟨le_head sorting too, le_head too sorting⟩
          -- both heads are the first element of `l` that is tied with them
          have heads := (sorting.stable x).trans (too.stable x).symm
          rw [List.filter_cons_of_pos order.tied_refl, List.filter_cons_of_pos tie] at heads
          obtain rfl := (List.cons.inj heads).1
          obtain ⟨first, second, rfl, others, -, rest⟩ := sorting.uncons order
          obtain ⟨first', second', same, others', -, rest'⟩ := too.uncons order
          have tails : first ++ second = first' ++ second' := by
            rcases List.append_eq_append_iff.mp same with ⟨more, rfl, tail⟩ | ⟨more, rfl, tail⟩
            · cases more with
              | nil => simpa using (List.cons.inj tail).2
              | cons z more =>
                  obtain ⟨rfl, -⟩ := List.cons.inj tail
                  exact absurd order.refl (others' _ (by simp))
            · cases more with
              | nil => simpa using (List.cons.inj tail).2.symm
              | cons z more =>
                  obtain ⟨rfl, -⟩ := List.cons.inj tail
                  exact absurd order.refl (others _ (by simp))
          rw [← tails] at rest'
          rw [ih rest rest']

theorem stableSort_mergeSort (order : WeakOrder le) : StableSort le (l.mergeSort le) l where
  pairwise := by
    apply List.pairwise_mergeSort
    · exact fun a b c => order.trans
    · intro a b
      rw [Bool.or_eq_true]
      exact order.total a b
  stable c := by
    have ordered : (l.filter (tied le c)).Pairwise fun a b => le a b := by
      apply List.pairwise_of_forall_mem_list
      intro a left b right
      have below := tied_iff.mp (List.mem_filter.mp left).2
      have above := tied_iff.mp (List.mem_filter.mp right).2
      exact order.trans below.2 above.1
    have total (a b : α) : (le a b || le b a) = true := by
      rw [Bool.or_eq_true]
      exact order.total a b
    have trans (a b c : α) : le a b → le b c → le a c := order.trans
    have sub := (List.sublist_mergeSort trans total ordered List.filter_sublist).filter (tied le c)
    rw [List.filter_filter] at sub
    simp only [Bool.and_self] at sub
    have same := ((List.mergeSort_perm l le).filter (tied le c)).length_eq
    exact (sub.eq_of_length same.symm).symm

theorem StableSort.eq_mergeSort (order : WeakOrder le) (sorting : StableSort le sorted l) :
    sorted = l.mergeSort le :=
  sorting.unique order (stableSort_mergeSort order)

theorem StableSort.perm (order : WeakOrder le) (sorting : StableSort le sorted l) :
    sorted.Perm l := by
  rw [sorting.eq_mergeSort order]
  exact List.mergeSort_perm l le

end StableSort

end VibeXperia.Lib

import Mathlib.Algebra.Order.BigOperators.Group.List
import Mathlib.Algebra.Order.Group.Nat
import Mathlib.Algebra.Ring.Nat
import Mathlib.Data.List.Rotate

namespace VibeXperia.Lib.RoundRobin

variable {α : Type*}

/-! ## Turns -/

/-- Round number `r` takes the entry number `r` of every queue that is that long. -/
def round (queues : List (List α)) (r : Nat) : List α := queues.filterMap (·[r]?)

/-- The merge of the queues, which take turns; there are as many rounds as entries, and those after
the last entry are empty. -/
def merge (queues : List (List α)) : List α :=
  (List.range (queues.map List.length).sum).flatMap (round queues)

@[simp] theorem round_nil (r : Nat) : round ([] : List (List α)) r = [] := rfl

theorem round_cons (q : List α) (queues : List (List α)) (r : Nat) :
    round (q :: queues) r = q[r]?.toList ++ round queues r := by
  rw [round, List.filterMap_cons]
  cases q[r]? <;> rfl

theorem round_append (queues others : List (List α)) (r : Nat) :
    round (queues ++ others) r = round queues r ++ round others r := List.filterMap_append

theorem round_singleton (q : List α) (r : Nat) : round [q] r = q[r]?.toList := by
  rw [round_cons, round_nil, List.append_nil]

theorem length_le_sum {q : List α} {queues : List (List α)} (member : q ∈ queues) :
    q.length ≤ (queues.map List.length).sum :=
  List.le_sum_of_mem (List.mem_map_of_mem member)

theorem round_eq_nil {queues : List (List α)} {r : Nat} (short : ∀ q ∈ queues, q.length ≤ r) :
    round queues r = [] := by
  rw [round, List.filterMap_eq_nil_iff]
  intro q member
  exact List.getElem?_eq_none (short q member)

/-- What comes first in each round may be counted to the round before. -/
theorem flatMap_shift (a b : Nat → List α) (n : Nat) :
    (List.range (n + 1)).flatMap (fun r => a r ++ b r) =
      a 0 ++ (List.range n).flatMap (fun r => b r ++ a (r + 1)) ++ b n := by
  induction n with
  | zero => simp
  | succ n ih =>
      rw [List.range_succ, List.flatMap_append, ih, List.range_succ (n := n), List.flatMap_append]
      simp

/-- The queue whose turn it is gives its first entry and gets to the end of the line. -/
theorem merge_cons (x : α) (q : List α) (queues : List (List α)) :
    merge ((x :: q) :: queues) = x :: merge (queues ++ [q]) := by
  have total : ((queues ++ [q]).map List.length).sum = (queues.map List.length).sum + q.length := by
    simp
  have more : (((x :: q) :: queues).map List.length).sum =
      ((queues ++ [q]).map List.length).sum + 1 := by
    rw [total, List.map_cons, List.sum_cons, List.length_cons]
    omega
  have last : round queues ((queues ++ [q]).map List.length).sum = [] := by
    apply round_eq_nil
    intro p member
    have := length_le_sum member
    omega
  rw [merge, merge, more]
  have split : round ((x :: q) :: queues) = fun r => (x :: q)[r]?.toList ++ round queues r :=
    funext (round_cons _ _)
  have turned : round (queues ++ [q]) = fun r => round queues r ++ q[r]?.toList := by
    funext r
    rw [round_append, round_singleton]
  rw [split, turned, flatMap_shift, last, List.append_nil]
  rfl

/-- An empty queue waits for its next turn. -/
theorem merge_nil_cons (queues : List (List α)) : merge ([] :: queues) = merge (queues ++ [[]]) := by
  have same : round ([] :: queues) = round (queues ++ [[]]) := by
    funext r
    rw [round_cons, round_append, round_singleton]
    simp
  rw [merge, merge, same]
  simp

theorem merge_eq_nil {queues : List (List α)} (empty : ∀ q ∈ queues, q = []) :
    merge queues = [] := by
  rw [merge, List.flatMap_eq_nil_iff]
  intro r _
  apply round_eq_nil
  intro q member
  rw [empty q member]
  exact Nat.zero_le r

/-! ## The order within a queue -/

theorem flatMap_getElem? (q : List α) {n : Nat} (all : q.length ≤ n) :
    (List.range n).flatMap (fun r => q[r]?.toList) = q := by
  induction q generalizing n with
  | nil => simp
  | cons x q ih =>
      obtain ⟨m, rfl⟩ : ∃ m, n = m + 1 := ⟨n - 1, by rw [List.length_cons] at all; omega⟩
      rw [List.range_succ_eq_map, List.flatMap_cons, List.flatMap_map]
      have rest := ih (Nat.le_of_succ_le_succ all)
      simpa using rest

theorem filter_round_eq_nil {p : α → Bool} {queues : List (List α)} (r : Nat)
    (strange : ∀ q ∈ queues, ∀ x ∈ q, p x = false) : (round queues r).filter p = [] := by
  rw [List.filter_eq_nil_iff]
  intro x member
  obtain ⟨q, listed, found⟩ := List.mem_filterMap.mp member
  rw [strange q listed x (List.mem_of_getElem? found)]
  simp

theorem filter_merge_eq_nil {p : α → Bool} {queues : List (List α)}
    (strange : ∀ q ∈ queues, ∀ x ∈ q, p x = false) : (merge queues).filter p = [] := by
  rw [merge, List.filter_flatMap, List.flatMap_eq_nil_iff]
  intro r _
  exact filter_round_eq_nil r strange

/-- The entries of one queue, told apart from the others by `p`, are merged in their order. -/
theorem filter_merge {p : α → Bool} {before after : List (List α)} {q : List α}
    (own : ∀ x ∈ q, p x = true) (others : ∀ r ∈ before ++ after, ∀ x ∈ r, p x = false) :
    (merge (before ++ q :: after)).filter p = q := by
  have each (r : Nat) : (round (before ++ q :: after) r).filter p = q[r]?.toList := by
    have mine : q[r]?.toList.filter p = q[r]?.toList := by
      rw [List.filter_eq_self]
      intro x member
      exact own x (List.mem_of_getElem? (Option.mem_toList.mp member))
    rw [round_append, round_cons, List.filter_append, List.filter_append, mine,
      filter_round_eq_nil r fun q listed => others q (List.mem_append_left _ listed),
      filter_round_eq_nil r fun q listed => others q (List.mem_append_right _ listed)]
    simp
  rw [merge, List.filter_flatMap]
  simp only [each]
  exact flatMap_getElem? q (length_le_sum (by simp))

/-! ## Whose turn it is -/

theorem rotate_at {l : List α} {i : Nat} {x : α} (found : l[i]? = some x) :
    l.rotate i = x :: (l.drop (i + 1) ++ l.take i) := by
  obtain ⟨inside, rfl⟩ := List.getElem?_eq_some_iff.mp found
  rw [List.rotate_eq_drop_append_take inside.le, List.drop_eq_getElem_cons inside,
    List.cons_append]

theorem rotate_next {l : List α} {i : Nat} {x : α} (found : l[i]? = some x) (y : α) :
    (l.set i y).rotate ((i + 1) % l.length) = l.drop (i + 1) ++ l.take i ++ [y] := by
  obtain ⟨inside, -⟩ := List.getElem?_eq_some_iff.mp found
  have same : l.length = (l.set i y).length := by simp
  rw [same, List.rotate_mod, List.rotate_eq_drop_append_take (by simp; omega),
    List.drop_set_of_lt (Nat.lt_succ_self i), List.take_add_one, List.take_set_of_le (le_refl i)]
  simp [inside]

end VibeXperia.Lib.RoundRobin

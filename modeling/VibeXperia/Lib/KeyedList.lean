import Mathlib.Data.List.Pairwise
import Mathlib.Order.Lattice
import Mathlib.Logic.Function.Basic

namespace VibeXperia.Lib

/-! ## Maps as lists in the order of their keys -/

section KeyedList
variable {α κ : Type*} [LinearOrder κ] {key : α → κ} {xs ys lower upper : List α} {x y : α} {k : κ}

variable (key) in
def Keyed (xs : List α) : Prop := xs.Pairwise fun x y => key x < key y

variable (key) in
def lookup (xs : List α) (k : κ) : Option α := xs.find? fun x => decide (key x = k)

theorem lookup_append (xs ys : List α) :
    lookup key (xs ++ ys) = fun k => (lookup key xs k).or (lookup key ys k) := by
  funext k
  exact List.find?_append

theorem lookup_cons (x : α) (xs : List α) :
    lookup key (x :: xs) k = if key x = k then some x else lookup key xs k := by
  rw [lookup, List.find?_cons]
  split_ifs with here
  · rw [decide_eq_true here]
  · rw [decide_eq_false here]
    rfl

theorem lookup_eq_none : lookup key xs k = none ↔ ∀ x ∈ xs, key x ≠ k := by
  simp [lookup]

theorem Keyed.insert (keyed : Keyed key (lower ++ upper)) (above : ∀ y ∈ lower, key y < key x)
    (below : ∀ y ∈ upper, key x < key y) : Keyed key (lower ++ x :: upper) := by
  obtain ⟨left, right, across⟩ := List.pairwise_append.mp keyed
  refine List.pairwise_append.mpr ⟨left, List.pairwise_cons.mpr ⟨below, right⟩, ?_⟩
  intro y member z later
  rcases List.mem_cons.mp later with rfl | later
  · exact above y member
  · exact across y member z later

theorem lookup_insert (above : ∀ y ∈ lower, key y ≠ key x) :
    lookup key (lower ++ x :: upper) =
      Function.update (lookup key (lower ++ upper)) (key x) (some x) := by
  funext k
  rw [lookup_append, lookup_append]
  dsimp only
  rw [lookup_cons]
  by_cases here : k = key x
  · subst here
    rw [lookup_eq_none.mpr above, if_pos rfl, Function.update_self, Option.none_or]
  · rw [if_neg (Ne.symm here), Function.update_of_ne here]

/-- The keys on both sides of an element differ from its own. -/
theorem Keyed.sides (keyed : Keyed key (lower ++ y :: upper)) :
    (∀ z ∈ lower, key z < key y) ∧ ∀ z ∈ upper, key y < key z := by
  obtain ⟨-, right, across⟩ := List.pairwise_append.mp keyed
  exact ⟨fun z member => across z member y (by simp), fun z => List.rel_of_pairwise_cons right⟩

theorem Keyed.erase (keyed : Keyed key (lower ++ y :: upper)) : Keyed key (lower ++ upper) :=
  keyed.sublist (List.Sublist.append_left (List.sublist_cons_self y upper) lower)

theorem Keyed.lookup_erase (keyed : Keyed key (lower ++ y :: upper)) :
    lookup key (lower ++ upper) =
      Function.update (lookup key (lower ++ y :: upper)) (key y) none := by
  obtain ⟨below, above⟩ := keyed.sides
  rw [lookup_insert fun z member => (below z member).ne, Function.update_idem]
  have none : lookup key (lower ++ upper) (key y) = none := by
    rw [lookup_eq_none]
    intro z member
    rcases List.mem_append.mp member with member | member
    · exact (below z member).ne
    · exact (above z member).ne'
  rw [← none, Function.update_eq_self]

theorem Keyed.replace (keyed : Keyed key (lower ++ y :: upper)) (same : key x = key y) :
    Keyed key (lower ++ x :: upper) := by
  obtain ⟨below, above⟩ := keyed.sides
  rw [← same] at below above
  exact keyed.erase.insert below above

theorem Keyed.lookup_replace (keyed : Keyed key (lower ++ y :: upper)) (same : key x = key y) :
    lookup key (lower ++ x :: upper) =
      Function.update (lookup key (lower ++ y :: upper)) (key x) (some x) := by
  obtain ⟨below, -⟩ := keyed.sides
  rw [lookup_insert fun z member => same ▸ (below z member).ne,
    lookup_insert fun z member => (below z member).ne, same, Function.update_idem]

theorem Keyed.le_getLast (keyed : Keyed key xs) (some : xs ≠ []) (member : x ∈ xs) :
    key x ≤ key (xs.getLast some) := by
  have split := List.dropLast_concat_getLast some
  rw [← split] at keyed member
  rcases List.mem_append.mp member with member | here
  · exact ((List.pairwise_append.mp keyed).2.2 x member _ (by simp)).le
  · rw [List.mem_singleton] at here
    rw [← here]

theorem Keyed.head_le (keyed : Keyed key xs) (some : xs ≠ []) (member : x ∈ xs) :
    key (xs.head some) ≤ key x := by
  cases xs with
  | nil => cases member
  | cons y xs =>
      rcases List.mem_cons.mp member with rfl | member
      · exact le_rfl
      · exact (List.rel_of_pairwise_cons keyed member).le

/-- Two keyed lists make one when the keys of the first are less. -/
theorem keyed_append_iff (left : Keyed key xs) (right : Keyed key ys) (some : xs ≠ [])
    (any : ys ≠ []) :
    Keyed key (xs ++ ys) ↔ key (xs.getLast some) < key (ys.head any) := by
  constructor
  · intro keyed
    exact (List.pairwise_append.mp keyed).2.2 _ (List.getLast_mem some) _ (List.head_mem any)
  · intro less
    refine List.pairwise_append.mpr ⟨left, right, fun z member z' member' => ?_⟩
    exact ((left.le_getLast some member).trans_lt less).trans_le (right.head_le any member')

/-- No key is in both parts. -/
theorem Keyed.lookup_append (keyed : Keyed key (xs ++ ys)) :
    lookup key (xs ++ ys) = fun k => (lookup key ys k).or (lookup key xs k) := by
  funext k
  rw [Lib.lookup_append]
  dsimp only
  cases found : lookup key ys k with
  | none => rw [Option.or_none, Option.none_or]
  | some y =>
      have member := List.mem_of_find?_eq_some found
      have here : key y = k := by simpa using List.find?_some found
      have none : lookup key xs k = none := by
        rw [lookup_eq_none, ← here]
        intro x left
        exact ((List.pairwise_append.mp keyed).2.2 x left y member).ne
      rw [none, Option.none_or, Option.some_or]

theorem countP_below (below : ∀ y ∈ lower, key y < k) (above : ∀ y ∈ upper, k ≤ key y) :
    (lower ++ upper).countP (fun x => decide (key x < k)) = lower.length := by
  rw [List.countP_append, List.countP_eq_length.mpr, List.countP_eq_zero.mpr, Nat.add_zero]
  · intro y member
    simpa using above y member
  · intro y member
    simpa using below y member

/-- Looking up in what comes last first changes nothing where no key comes twice. -/
theorem Keyed.lookup_reverse (keyed : Keyed key xs) : lookup key xs.reverse = lookup key xs := by
  induction xs with
  | nil => rfl
  | cons x xs ih =>
      funext k
      rw [List.reverse_cons, Lib.lookup_append, lookup_cons]
      dsimp only
      rw [ih keyed.of_cons]
      by_cases here : key x = k
      · have none : lookup key xs k = none := by
          rw [lookup_eq_none, ← here]
          intro y member
          exact (List.rel_of_pairwise_cons keyed member).ne'
        rw [none, if_pos here, Option.none_or, lookup_cons, if_pos here]
      · rw [if_neg here, lookup_cons, if_neg here]
        exact Option.or_none

end KeyedList

end VibeXperia.Lib

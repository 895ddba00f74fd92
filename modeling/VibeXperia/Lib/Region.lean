import Mathlib.Data.List.Basic

namespace VibeXperia.Lib

/-! ## Lists that are stored at a place of a memory -/

section Region
variable {α : Type*} {mem : Nat → α} {start place n : Nat} {xs ys : List α}

def store (mem : Nat → α) (start : Nat) (xs : List α) : Nat → α :=
  fun i => if start ≤ i then (xs[i - start]?).getD (mem i) else mem i

def load (mem : Nat → α) (start n : Nat) : List α := (List.range n).map fun k => mem (start + k)

@[simp] theorem length_load : (load mem start n).length = n := by simp [load]

@[simp] theorem load_zero : load mem start 0 = [] := rfl

theorem load_add (m : Nat) : load mem start (m + n) = load mem start m ++ load mem (start + m) n := by
  simp [load, List.range_add, Function.comp_def, Nat.add_assoc]

theorem store_in {k : Nat} (inside : k < xs.length) : store mem start xs (start + k) = xs[k] := by
  simp [store, List.getElem?_eq_getElem inside]

theorem store_out {i : Nat} (apart : i < start ∨ start + xs.length ≤ i) :
    store mem start xs i = mem i := by
  rw [store]
  split
  · next behind =>
      have past : xs.length ≤ i - start := by omega
      rw [List.getElem?_eq_none past, Option.getD_none]
  · rfl

/-- What is stored is loaded again. -/
theorem load_store : load (store mem start xs) start xs.length = xs := by
  apply List.ext_getElem
  · simp
  · intro k _ inside
    rw [← @store_in _ mem start xs k inside]
    simp [load]

/-- A place apart from what is stored stays as it is. -/
theorem load_store_apart (apart : place + n ≤ start ∨ start + xs.length ≤ place) :
    load (store mem start xs) place n = load mem place n := by
  apply List.map_congr_left
  intro k member
  have inside := List.mem_range.mp member
  exact store_out (by omega)

end Region

end VibeXperia.Lib

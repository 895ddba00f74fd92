import Mathlib.Data.List.Basic
import Mathlib.Data.Nat.ModEq

namespace VibeXperia.Lib.Ring

/-! ## Windows of consecutive slots in a circular array -/

variable {α : Type*}

/-- The `size` entries from `start` on, wrapping at `capacity`. -/
def window (capacity start size : Nat) (data : Nat → α) : List α :=
  (List.range size).map fun i => data ((start + i) % capacity)

theorem slot_injective {capacity start i j : Nat} (hi : i < capacity) (hj : j < capacity)
    (same : (start + i) % capacity = (start + j) % capacity) : i = j := by
  have h : i ≡ j [MOD capacity] := Nat.ModEq.add_left_cancel' start same
  rwa [Nat.ModEq, Nat.mod_eq_of_lt hi, Nat.mod_eq_of_lt hj] at h

@[simp] theorem window_zero (capacity start : Nat) (data : Nat → α) :
    window capacity start 0 data = [] := rfl

@[simp] theorem window_length (capacity start size : Nat) (data : Nat → α) :
    (window capacity start size data).length = size := by simp [window]

theorem window_add (capacity start m n : Nat) (data : Nat → α) :
    window capacity start (m + n) data =
      window capacity start m data ++ window capacity ((start + m) % capacity) n data := by
  simp only [window, List.range_add, List.map_append, List.map_map]
  congr 1
  apply List.map_congr_left
  intro i _
  simp only [Function.comp_apply, Nat.mod_add_mod, Nat.add_assoc]

theorem window_succ {capacity start : Nat} (bound : start < capacity) (size : Nat)
    (data : Nat → α) :
    window capacity start (size + 1) data =
      data start :: window capacity ((start + 1) % capacity) size data := by
  rw [Nat.add_comm size 1, window_add]
  simp [window, Nat.mod_eq_of_lt bound]

theorem window_congr {capacity start size : Nat} {data data' : Nat → α}
    (same : ∀ i < size, data ((start + i) % capacity) = data' ((start + i) % capacity)) :
    window capacity start size data = window capacity start size data' :=
  List.map_congr_left fun i member => same i (List.mem_range.mp member)

theorem window_contiguous {capacity start size : Nat} (inside : start + size ≤ capacity)
    (data : Nat → α) :
    window capacity start size data = (List.range size).map fun i => data (start + i) := by
  apply List.map_congr_left
  intro i member
  have := List.mem_range.mp member
  rw [Nat.mod_eq_of_lt (by omega)]

end VibeXperia.Lib.Ring

import Mathlib.Algebra.Order.Ring.Nat
import Mathlib.Algebra.Ring.Int.Defs
import Mathlib.Algebra.Ring.Nat
import Mathlib.Data.List.Basic

namespace VibeXperia.Lib

/-! ## Numbers in memory, least byte first -/

section LittleEndian

def leBytes : Nat → Nat → List UInt8
  | 0, _ => []
  | w + 1, n => UInt8.ofNat n :: leBytes w (n / 256)

def leNat (bytes : List UInt8) : Nat := bytes.foldr (fun byte n => byte.toNat + 256 * n) 0

@[simp] theorem length_leBytes (w n : Nat) : (leBytes w n).length = w := by
  induction w generalizing n with
  | zero => rfl
  | succ w ih => rw [leBytes, List.length_cons, ih]

theorem leNat_leBytes {w n : Nat} (small : n < 256 ^ w) : leNat (leBytes w n) = n := by
  induction w generalizing n with
  | zero =>
      rw [pow_zero] at small
      exact (Nat.lt_one_iff.mp small).symm
  | succ w ih =>
      have rest : n / 256 < 256 ^ w := by
        apply Nat.div_lt_of_lt_mul
        rwa [pow_succ, Nat.mul_comm] at small
      show (UInt8.ofNat n).toNat + 256 * leNat (leBytes w (n / 256)) = n
      rw [ih rest, UInt8.toNat_ofNat']
      exact Nat.mod_add_div n 256

end LittleEndian

/-! ## Records of one size -/

section Records
variable {β : Type*} {n : Nat} {xs ys : List (List β)} {rest : List β}

/-- Records that begin a stream of records are the first ones of it. -/
theorem exists_of_flatten_append (positive : 0 < n) (ours : ∀ x ∈ xs, x.length = n)
    (theirs : ∀ y ∈ ys, y.length = n) (same : xs.flatten ++ rest = ys.flatten) :
    ∃ zs, ys = xs ++ zs ∧ rest = zs.flatten := by
  induction xs generalizing ys with
  | nil => exact ⟨ys, rfl, same⟩
  | cons x xs ih =>
      have size := ours x (by simp)
      cases ys with
      | nil =>
          have empty : x = [] := by simp_all
          rw [empty] at size
          exact absurd size (Nat.ne_of_lt positive)
      | cons y ys =>
          rw [List.flatten_cons, List.flatten_cons, List.append_assoc] at same
          obtain ⟨rfl, tail⟩ := List.append_inj same (size.trans (theirs y (by simp)).symm)
          obtain ⟨zs, rfl, rest⟩ := ih (fun x' member => ours x' (by simp [member]))
            (fun y' member => theirs y' (by simp [member])) tail
          exact ⟨zs, rfl, rest⟩

end Records

end VibeXperia.Lib

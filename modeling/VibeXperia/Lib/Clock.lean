import Mathlib.Algebra.Ring.Int.Defs
import Mathlib.Algebra.Ring.Nat
import Mathlib.Data.List.Chain

namespace VibeXperia.Lib

/-! ## Clocks whose readings wrap -/

section Clock
variable {w : Nat}

/-- The time that passes from one reading of a clock through the readings after it. -/
def elapsed : BitVec w → List (BitVec w) → Nat
  | _, [] => 0
  | t, u :: us => (u - t).toNat + elapsed u us

/-- From one reading on, each is later than the one before it, by at most `limit`. -/
def Steady (limit : Int) (t : BitVec w) (us : List (BitVec w)) : Prop :=
  List.IsChain (fun t u => 0 < (u - t).toNat ∧ ((u - t).toNat : Int) ≤ limit) (t :: us)

@[simp] theorem elapsed_nil (t : BitVec w) : elapsed t [] = 0 := rfl

@[simp] theorem elapsed_cons (t u : BitVec w) (us : List (BitVec w)) :
    elapsed t (u :: us) = (u - t).toNat + elapsed u us := rfl

theorem Steady.first {limit : Int} {t u : BitVec w} {us : List (BitVec w)}
    (steady : Steady limit t (u :: us)) : 0 < (u - t).toNat ∧ ((u - t).toNat : Int) ≤ limit :=
  (List.isChain_cons_cons.mp steady).1

theorem Steady.rest {limit : Int} {t u : BitVec w} {us : List (BitVec w)}
    (steady : Steady limit t (u :: us)) : Steady limit u us :=
  (List.isChain_cons_cons.mp steady).2

/-- A later reading is larger by the time that passed, unless the clock wrapped in between. -/
theorem toInt_later (t u : BitVec w) :
    u.toInt = t.toInt + (u - t).toNat ∨ u.toInt = t.toInt + (u - t).toNat - 2 ^ w := by
  have width : ((2 ^ w : Nat) : Int) = 2 ^ w := by push_cast; rfl
  have passed : ((u - t).toNat : Int) = u.toNat - t.toNat ∨
      ((u - t).toNat : Int) = u.toNat - t.toNat + 2 ^ w := by
    rw [BitVec.toNat_sub]
    have := t.isLt
    have := u.isLt
    by_cases later : t.toNat ≤ u.toNat
    · rw [show 2 ^ w - t.toNat + u.toNat = u.toNat - t.toNat + 2 ^ w by omega, Nat.add_mod_right,
        Nat.mod_eq_of_lt (by omega)]
      omega
    · rw [Nat.mod_eq_of_lt (by omega)]
      omega
  rw [BitVec.toInt_eq_toNat_cond, BitVec.toInt_eq_toNat_cond, width]
  have := t.isLt
  have := u.isLt
  split <;> split <;> omega

end Clock

end VibeXperia.Lib

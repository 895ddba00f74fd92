import Mathlib.Data.Fintype.Card
import Mathlib.Data.Finset.Card

namespace VibeXperia.Lib

/-! ## Objects that count those who hold them -/

section Sharing
variable {ι κ : Type*} [Fintype ι] [DecidableEq ι] [DecidableEq κ]

def owners (hold : ι → Option κ) (a : κ) : Nat :=
  (Finset.univ.filter fun i => hold i = some a).card

/-- An object is there as long as somebody holds it, and counts how many do. -/
def Counted (hold : ι → Option κ) (refs : κ → Option Nat) : Prop :=
  ∀ a, refs a = if owners hold a = 0 then none else some (owners hold a)

/-- The last owner takes the object along. -/
def letGo (refs : κ → Option Nat) (s : Option κ) : κ → Option Nat :=
  match s with
  | none => refs
  | some a => Function.update refs a (if refs a = some 1 then none else (refs a).map (· - 1))

variable {hold : ι → Option κ} {refs : κ → Option Nat} {i : ι} {a : κ}

/-- One owner and the others. -/
theorem owners_split (hold : ι → Option κ) (i : ι) (a : κ) : owners hold a =
    ((Finset.univ.erase i).filter fun j => hold j = some a).card +
      if hold i = some a then 1 else 0 := by
  rw [owners, ← Finset.insert_erase (Finset.mem_univ i), Finset.filter_insert]
  have absent : i ∉ (Finset.univ.erase i).filter fun j => hold j = some a := by simp
  split_ifs with here
  · rw [Finset.card_insert_of_notMem absent, Finset.erase_insert (Finset.notMem_erase i _)]
  · rw [Finset.erase_insert (Finset.notMem_erase i _), Nat.add_zero]

theorem owners_update (hold : ι → Option κ) (i : ι) (s : Option κ) (a : κ) :
    owners (Function.update hold i s) a + (if hold i = some a then 1 else 0) =
      owners hold a + if s = some a then 1 else 0 := by
  have others : ((Finset.univ.erase i).filter fun j => Function.update hold i s j = some a) =
      (Finset.univ.erase i).filter fun j => hold j = some a := by
    apply Finset.filter_congr
    intro j member
    rw [Function.update_of_ne (Finset.ne_of_mem_erase member)]
  rw [owners_split _ i, owners_split hold i, others, Function.update_self]
  omega

theorem owners_pos (holds : hold i = some a) : 0 < owners hold a := by
  rw [owners_split hold i, if_pos holds]
  exact Nat.succ_pos _

theorem one_lt_owners {j : ι} (other : j ≠ i) (holds : hold i = some a) (too : hold j = some a) :
    1 < owners hold a := by
  have member : j ∈ (Finset.univ.erase i).filter fun j => hold j = some a := by simp [other, too]
  have positive := Finset.card_pos.mpr ⟨j, member⟩
  rw [owners_split hold i, if_pos holds]
  exact Nat.succ_lt_succ positive

theorem Counted.refs_of_hold (counted : Counted hold refs) (holds : hold i = some a) :
    refs a = some (owners hold a) := by
  rw [counted a, if_neg (owners_pos holds).ne']

theorem Counted.letGo (counted : Counted hold refs) (i : ι) :
    Counted (Function.update hold i none) (letGo refs (hold i)) := by
  intro c
  have update := owners_update hold i none c
  have before := counted c
  cases held : hold i with
  | none =>
      have same : owners (Function.update hold i none) c = owners hold c := by
        simpa [held] using update
      rw [same]
      exact before
  | some a =>
      rw [held] at update
      change Function.update refs a _ c = _
      by_cases here : c = a
      · subst here
        have fewer : owners (Function.update hold i none) c + 1 = owners hold c := by
          simpa using update
        rw [Function.update_self, counted.refs_of_hold held, ← fewer]
        cases owners (Function.update hold i none) c with
        | zero => rfl
        | succ n => simp
      · have same : owners (Function.update hold i none) c = owners hold c := by
          simpa [Ne.symm here] using update
        rw [Function.update_of_ne here, same]
        exact before

/-- An object that nobody holds yet. -/
theorem Counted.fresh (counted : Counted hold refs) (empty : hold i = none) (fresh : refs a = none) :
    Counted (Function.update hold i (some a)) (Function.update refs a (some 1)) := by
  intro c
  have update := owners_update hold i (some a) c
  rw [empty, if_neg (by simp)] at update
  have before := counted c
  by_cases here : c = a
  · subst here
    rw [fresh] at before
    have nobody : owners hold c = 0 := by
      by_contra some
      rw [if_neg some] at before
      cases before
    rw [if_pos rfl, nobody] at update
    rw [Function.update_self, show owners (Function.update hold i (some c)) c = 1 from update]
    rfl
  · rw [if_neg (by simpa using Ne.symm here)] at update
    rw [Function.update_of_ne here, show owners (Function.update hold i (some a)) c =
      owners hold c from update]
    exact before

/-- One more owner. -/
theorem Counted.join {n : Nat} (counted : Counted hold refs) (empty : hold i = none)
    (known : refs a = some n) :
    Counted (Function.update hold i (some a)) (Function.update refs a (some (n + 1))) := by
  intro c
  have update := owners_update hold i (some a) c
  rw [empty, if_neg (by simp)] at update
  have before := counted c
  by_cases here : c = a
  · subst here
    rw [known] at before
    have same : owners hold c = n := by
      split_ifs at before
      exact (Option.some.inj before).symm
    rw [if_pos rfl, same] at update
    rw [Function.update_self, show owners (Function.update hold i (some c)) c = n + 1 from update]
    rfl
  · rw [if_neg (by simpa using Ne.symm here)] at update
    rw [Function.update_of_ne here, show owners (Function.update hold i (some a)) c =
      owners hold c from update]
    exact before

end Sharing

end VibeXperia.Lib

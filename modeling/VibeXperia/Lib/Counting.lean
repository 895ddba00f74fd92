import Mathlib.Algebra.Ring.Int.Defs
import Mathlib.Algebra.Ring.Nat
import Mathlib.Data.List.Nodup
import Mathlib.Logic.Function.Basic

namespace VibeXperia.Lib

/-! ## Signed bit-fields -/

/-- What a signed bit-field of `width` bits holds after `value` was stored in it. -/
def signed (width : Nat) (value : Int) : Int := value.bmod (2 ^ width)

theorem signed_of_lt {width : Nat} {value : Int} (low : 0 ≤ value)
    (high : 2 * value < (2 ^ width : Nat)) : signed width value = value := by
  apply Int.bmod_eq_of_le_mul_two
  · omega
  · omega

/-! ## Looking up the one that matches -/

theorem find?_of_iff {α : Type*} [DecidableEq α] {l : List α} {p : α → Bool} {c : α}
    (only : ∀ x, p x = true ↔ x = c) : l.find? p = if c ∈ l then some c else none := by
  split_ifs with listed
  · cases found : l.find? p with
    | none => exact absurd ((only c).mpr rfl) (List.find?_eq_none.mp found c listed)
    | some x => rw [(only x).mp (List.find?_some found)]
  · rw [List.find?_eq_none]
    intro x member matching
    exact listed ((only x).mp matching ▸ member)

/-! ## Clients that use a resource while they are awake -/

section Tally
variable {α : Type*}

/-- How many clients use the resource now. -/
def tally (clients : List α) (awake uses : α → Bool) : Nat :=
  clients.countP fun c => awake c && uses c

variable {clients : List α} {awake uses : α → Bool} {c : α}

theorem tally_pos : 0 < tally clients awake uses ↔ ∃ c ∈ clients, awake c ∧ uses c := by
  simp [tally, List.countP_pos_iff]

theorem tally_le_length : tally clients awake uses ≤ clients.length := List.countP_le_length

theorem tally_of_asleep (asleep : ∀ c ∈ clients, awake c = false) :
    tally clients awake uses = 0 := by
  rw [tally, List.countP_eq_zero]
  intro c listed
  simp [asleep c listed]

variable [DecidableEq α]

theorem tally_update_of_notMem (absent : c ∉ clients) (on : Bool) :
    tally clients (Function.update awake c on) uses = tally clients awake uses := by
  apply List.countP_congr
  intro other listed
  have : other ≠ c := fun same => absent (same ▸ listed)
  rw [Function.update_of_ne this]

theorem tally_wake (distinct : clients.Nodup) (listed : c ∈ clients) (asleep : awake c = false) :
    tally clients (Function.update awake c true) uses =
      tally clients awake uses + (uses c).toNat := by
  induction clients with
  | nil => cases listed
  | cons first rest ih =>
      obtain ⟨absent, distinct⟩ := List.nodup_cons.mp distinct
      simp only [tally, List.countP_cons]
      rcases List.mem_cons.mp listed with rfl | listed
      · have same : tally rest (Function.update awake c true) uses = tally rest awake uses :=
          tally_update_of_notMem absent true
        rw [tally, tally] at same
        cases uses c <;> simp [same, asleep]
      · have other : first ≠ c := fun same => absent (same ▸ listed)
        have := ih distinct listed
        rw [tally, tally] at this
        rw [this, Function.update_of_ne other]
        omega

/-- What a client adds to the count of the others. -/
theorem tally_update (distinct : clients.Nodup) (listed : c ∈ clients) (on : Bool) :
    tally clients (Function.update awake c on) uses =
      tally clients (Function.update awake c false) uses + (on && uses c).toNat := by
  cases on with
  | false => simp
  | true =>
      rw [Bool.true_and, ← tally_wake distinct listed (Function.update_self c false awake),
        Function.update_idem]

theorem tally_self (distinct : clients.Nodup) (listed : c ∈ clients) :
    tally clients awake uses =
      tally clients (Function.update awake c false) uses + (awake c && uses c).toNat := by
  rw [← tally_update distinct listed, Function.update_eq_self]

/-! ## Counters that follow their users -/

/-- `tracks x n` says that the counter `x` stands at `n`; `change` counts one user up or down. -/
structure Counter {σ : Type*} (tracks : σ → Nat → Prop) (change : σ → Bool → σ) (bound : Nat) :
    Prop where
  up : ∀ {x n}, n < bound → tracks x n → tracks (change x true) (n + 1)
  down : ∀ {x n}, n < bound → tracks x (n + 1) → tracks (change x false) n

/-- A counter that is changed when one of its users wakes or falls asleep. -/
theorem Counter.switch {σ : Type*} {tracks : σ → Nat → Prop} {change : σ → Bool → σ} {bound : Nat}
    (counter : Counter tracks change bound) {x : σ} {on : Bool} (distinct : clients.Nodup)
    (few : clients.length < bound) (listed : c ∈ clients) (opposite : awake c = !on)
    (tracked : tracks x (tally clients awake uses)) :
    tracks (if uses c then change x on else x)
      (tally clients (Function.update awake c on) uses) := by
  have bounded : tally clients (Function.update awake c false) uses < bound :=
    Nat.lt_of_le_of_lt tally_le_length few
  rw [tally_self distinct listed, opposite] at tracked
  rw [tally_update distinct listed]
  cases used : uses c
  · simpa [used] using tracked
  · cases on
    · simp only [used, Bool.not_false, Bool.and_true, Bool.toNat_true] at tracked
      exact counter.down bounded tracked
    · simp only [used, Bool.not_true, Bool.and_true, Bool.toNat_false] at tracked
      exact counter.up bounded tracked

end Tally

end VibeXperia.Lib

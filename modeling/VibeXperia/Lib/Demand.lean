import Mathlib.Data.List.MinMax
import Mathlib.Order.Nat

namespace VibeXperia.Lib

/-! ## The highest demand of the clients that are awake -/

section Demand
variable {α β : Type*}

def highest (clients : List α) (awake : α → Bool) (demand : α → Nat) : Nat :=
  ((clients.filter awake).map demand).foldr max 0

variable {clients : List α} {awake : α → Bool} {demand : α → Nat} {c : α} {n : Nat}

@[simp] theorem highest_nil : highest [] awake demand = 0 := rfl

theorem highest_cons :
    highest (c :: clients) awake demand =
      max (if awake c then demand c else 0) (highest clients awake demand) := by
  cases up : awake c <;> simp [highest, up]

theorem le_highest (listed : c ∈ clients) (up : awake c = true) :
    demand c ≤ highest clients awake demand := by
  have counted : demand c ∈ (clients.filter awake).map demand :=
    List.mem_map_of_mem (List.mem_filter.mpr ⟨listed, up⟩)
  exact List.le_max_of_le counted le_rfl

theorem highest_lt (positive : 0 < n) (bounded : ∀ c ∈ clients, awake c = true → demand c < n) :
    highest clients awake demand < n := by
  induction clients with
  | nil => exact positive
  | cons first rest ih =>
      have later := ih fun c listed => bounded c (List.mem_cons_of_mem _ listed)
      have now := bounded first List.mem_cons_self
      rw [highest_cons, max_lt_iff]
      refine ⟨?_, later⟩
      split_ifs with up
      · exact now up
      · exact positive

theorem highest_congr {awake' : α → Bool} {demand' : α → Nat}
    (same : ∀ c ∈ clients, awake c = awake' c)
    (alike : ∀ c ∈ clients, awake c = true → demand c = demand' c) :
    highest clients awake demand = highest clients awake' demand' := by
  induction clients with
  | nil => rfl
  | cons first rest ih =>
      have later := ih (fun c listed => same c (List.mem_cons_of_mem _ listed))
        (fun c listed => alike c (List.mem_cons_of_mem _ listed))
      have now := alike first List.mem_cons_self
      rw [highest_cons, highest_cons, later, ← same first List.mem_cons_self]
      congr 1
      split_ifs with up
      · exact now up
      · rfl

theorem highest_map {f : β → α} {l : List β} :
    highest (l.map f) awake demand = highest l (awake ∘ f) (demand ∘ f) := by
  rw [highest, highest, List.filter_map, List.map_map]

/-- A loop that keeps the highest demand so far finds the highest one. -/
theorem foldl_highest :
    clients.foldl (fun most c => if awake c && most < demand c then demand c else most) n =
      max n (highest clients awake demand) := by
  induction clients generalizing n with
  | nil => simp
  | cons first rest ih =>
      rw [List.foldl_cons, ih, highest_cons, ← max_assoc]
      congr 1
      cases awake first with
      | false => simp
      | true =>
          by_cases more : n < demand first
          · simp [more, max_eq_right (Nat.le_of_lt more)]
          · simp [more, max_eq_left (Nat.le_of_not_lt more)]

end Demand

end VibeXperia.Lib

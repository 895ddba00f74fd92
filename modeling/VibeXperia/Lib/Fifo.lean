import Mathlib.Data.List.Perm.Basic

namespace VibeXperia.Lib

/-! ## Queues whose elements are taken in order or dropped together -/

inductive Fate
  | taken
  | dropped
  deriving DecidableEq, Repr

section Fifo
variable {β : Type*}

def withFate (fate : Fate) (settled : List (Fate × β)) : List β :=
  (settled.filter fun p => p.1 = fate).map Prod.snd

/-- All that was pushed was taken or dropped once, or is still in the queue, oldest first; what
was taken was taken in the order in which it was pushed. -/
def Accounted (pushed queue taken dropped : List β) : Prop :=
  ∃ settled : List (Fate × β), pushed = settled.map Prod.snd ++ queue ∧
    taken = withFate .taken settled ∧ dropped.Perm (withFate .dropped settled)

variable {pushed queue taken dropped : List β} {x : β} {fate other : Fate}
variable {settled more : List (Fate × β)}

theorem withFate_append :
    withFate fate (settled ++ more) = withFate fate settled ++ withFate fate more := by
  rw [withFate, List.filter_append, List.map_append, withFate, withFate]

theorem withFate_same : withFate fate (queue.map fun x => (fate, x)) = queue := by
  induction queue with
  | nil => rfl
  | cons x queue ih =>
      rw [withFate] at ih ⊢
      rw [List.map_cons, List.filter_cons_of_pos (by simp), List.map_cons, ih]

theorem withFate_other (apart : other ≠ fate) :
    withFate fate (queue.map fun x => (other, x)) = [] := by
  rw [withFate, List.map_eq_nil_iff, List.filter_eq_nil_iff]
  intro p member
  obtain ⟨x, -, rfl⟩ := List.mem_map.mp member
  simpa using apart

theorem accounted_start : Accounted ([] : List β) [] [] [] := ⟨[], rfl, rfl, List.Perm.refl _⟩

theorem Accounted.push (accounted : Accounted pushed queue taken dropped) (x : β) :
    Accounted (pushed ++ [x]) (queue ++ [x]) taken dropped := by
  obtain ⟨settled, rfl, taken, dropped⟩ := accounted
  exact ⟨settled, List.append_assoc .., taken, dropped⟩

theorem Accounted.pop (accounted : Accounted pushed (x :: queue) taken dropped) :
    Accounted pushed queue (taken ++ [x]) dropped := by
  obtain ⟨settled, rfl, rfl, dropped⟩ := accounted
  refine ⟨settled ++ [(.taken, x)], ?_, ?_, ?_⟩
  · rw [List.map_append, List.append_assoc]
    rfl
  · rw [withFate_append]
    rfl
  · rw [withFate_append]
    exact dropped.trans (List.Perm.of_eq (List.append_nil _).symm)

/-- In whatever order the queue is dropped. -/
theorem Accounted.drop {gone : List β} (accounted : Accounted pushed queue taken dropped)
    (all : gone.Perm queue) : Accounted pushed [] taken (dropped ++ gone) := by
  obtain ⟨settled, rfl, rfl, dropped⟩ := accounted
  refine ⟨settled ++ queue.map fun x => (.dropped, x), ?_, ?_, ?_⟩
  · rw [List.map_append, List.map_map, List.append_nil]
    congr 1
    exact (List.map_id queue).symm
  · rw [withFate_append, withFate_other (by decide), List.append_nil]
  · rw [withFate_append, withFate_same]
    exact dropped.append all

end Fifo

end VibeXperia.Lib

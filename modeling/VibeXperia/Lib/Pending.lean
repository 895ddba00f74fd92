import Mathlib.Data.List.Basic

namespace VibeXperia.Lib

/-! ## A register that is written through a queue of messages -/

section Pending
variable {μ β : Type*}

/-- The last write among the messages, oldest first. -/
def lastWrite (writes : μ → Option β) (queue : List μ) : Option β :=
  (queue.filterMap writes).getLast?

variable {writes : μ → Option β} {queue : List μ} {m : μ}

@[simp] theorem lastWrite_nil : lastWrite writes [] = none := rfl

theorem lastWrite_append (first second : List μ) :
    lastWrite writes (first ++ second) =
      (lastWrite writes second).or (lastWrite writes first) := by
  rw [lastWrite, List.filterMap_append, List.getLast?_append]
  rfl

theorem lastWrite_cons :
    lastWrite writes (m :: queue) = (lastWrite writes queue).or (writes m) := by
  rw [← List.singleton_append, lastWrite_append]
  cases written : writes m <;> simp [lastWrite, written]

theorem lastWrite_snoc :
    lastWrite writes (queue ++ [m]) = (writes m).or (lastWrite writes queue) := by
  rw [lastWrite_append]
  cases written : writes m <;> simp [lastWrite, written]

theorem lastWrite_eq_none : lastWrite writes queue = none ↔ ∀ m ∈ queue, writes m = none := by
  simp [lastWrite]

/-- What the register holds once the queue is empty. -/
def settled (writes : μ → Option β) (register : β) (queue : List μ) : β :=
  (lastWrite writes queue).getD register

@[simp] theorem settled_nil (register : β) : settled writes register [] = register := rfl

/-- Handling the oldest message does not change what the register will hold. -/
theorem settled_cons (register : β) :
    settled writes register (m :: queue) = settled writes ((writes m).getD register) queue := by
  rw [settled, settled, lastWrite_cons]
  cases lastWrite writes queue <;> rfl

theorem settled_append (register : β) (first second : List μ) :
    settled writes register (first ++ second) =
      settled writes (settled writes register first) second := by
  induction first generalizing register with
  | nil => rfl
  | cons m first ih => rw [List.cons_append, settled_cons, settled_cons, ih]

theorem settled_sent (register : β) (first second : List μ) :
    settled writes register (first ++ second) =
      (lastWrite writes second).getD (settled writes register first) := by
  rw [settled_append, settled]

theorem settled_of_silent {register : β} (silent : ∀ m ∈ queue, writes m = none) :
    settled writes register queue = register := by
  rw [settled, lastWrite_eq_none.mpr silent]
  rfl

end Pending

end VibeXperia.Lib

import Mathlib.Data.List.Nodup
import Mathlib.Logic.Function.Basic

namespace VibeXperia.Lib

variable {α : Type*}

/-! ## Nodes that are linked to their successors -/

/-- From `head` on, the links lead through the nodes `l` and then end. -/
inductive Chain (next : α → Option α) : Option α → List α → Prop
  | nil : Chain next none []
  | cons {a l} : Chain next (next a) l → Chain next (some a) (a :: l)

variable {next : α → Option α} {head : Option α} {l l₁ l₂ : List α} {a b : α}

theorem Chain.head_eq (chain : Chain next head l) : head = l.head? := by
  cases chain <;> rfl

@[simp] theorem chain_nil : Chain next head [] ↔ head = none := by
  constructor
  · intro chain
    exact chain.head_eq
  · rintro rfl
    exact .nil

@[simp] theorem chain_cons : Chain next head (a :: l) ↔ head = some a ∧ Chain next (next a) l := by
  constructor
  · rintro (_ | rest)
    exact ⟨rfl, rest⟩
  · rintro ⟨rfl, rest⟩
    exact .cons rest

theorem Chain.unique (first : Chain next head l₁) (second : Chain next head l₂) : l₁ = l₂ := by
  induction first generalizing l₂ with
  | nil => simpa using second.head_eq.symm
  | cons _ ih =>
      cases second with
      | cons rest => rw [ih rest]

theorem Chain.suffix (chain : Chain next head (l₁ ++ l₂)) : ∃ mid, Chain next mid l₂ := by
  induction l₁ generalizing head with
  | nil => exact ⟨head, chain⟩
  | cons a l₁ ih =>
      rw [List.cons_append, chain_cons] at chain
      exact ih chain.2

/-- A chain that ends comes through no node twice. -/
theorem Chain.nodup (chain : Chain next head l) : l.Nodup := by
  induction chain with
  | nil => exact List.nodup_nil
  | @cons a l rest ih =>
      rw [List.nodup_cons]
      refine ⟨fun again => ?_, ih⟩
      obtain ⟨l₁, l₂, rfl⟩ := List.append_of_mem again
      obtain ⟨mid, later⟩ := rest.suffix
      rw [chain_cons] at later
      have same := congrArg List.length (rest.unique later.2)
      simp at same
      omega

theorem Chain.notMem_others (chain : Chain next head (l₁ ++ a :: l₂)) : a ∉ l₁ ++ l₂ := by
  have distinct := chain.nodup
  rw [List.nodup_middle, List.nodup_cons] at distinct
  exact distinct.1

theorem Chain.congr {next' : α → Option α} (chain : Chain next head l)
    (same : ∀ a ∈ l, next' a = next a) : Chain next' head l := by
  induction chain with
  | nil => exact .nil
  | @cons a l rest ih =>
      rw [chain_cons, same a (by simp)]
      exact ⟨rfl, ih fun a member => same a (by simp [member])⟩

theorem Chain.after (chain : Chain next head (l₁ ++ a :: l₂)) : Chain next (next a) l₂ := by
  obtain ⟨mid, rest⟩ := chain.suffix
  rw [chain_cons] at rest
  exact rest.2

/-- Where the links in the other direction lead through the same nodes, they lead back. -/
theorem Chain.linked_back {prev : α → Option α} {tail : Option α} (forth : Chain next head l)
    (back : Chain prev tail l.reverse) (node : a ∈ l) (linked : next a = some b) :
    prev b = some a := by
  obtain ⟨l₁, l₂, rfl⟩ := List.append_of_mem node
  have follows := forth.after
  rw [linked] at follows
  cases follows with
  | cons rest =>
      simp only [List.reverse_append, List.reverse_cons, List.append_assoc, List.cons_append] at back
      have before := back.after
      exact before.head_eq

variable [DecidableEq α]

/-- A node that the chain does not come through may be linked to anything. -/
theorem Chain.update (chain : Chain next head l) (absent : a ∉ l) (successor : Option α) :
    Chain (Function.update next a successor) head l := by
  apply chain.congr
  intro other member
  rw [Function.update_of_ne]
  rintro rfl
  exact absent member

theorem Chain.push (chain : Chain next head l) (absent : a ∉ l) :
    Chain (Function.update next a head) (some a) (a :: l) := by
  rw [chain_cons, Function.update_self]
  exact ⟨rfl, chain.update absent head⟩

/-- The link to a node is replaced by the node's own link. -/
theorem Chain.unlink (chain : Chain next head (l₁ ++ a :: b :: l₂)) :
    Chain (Function.update next a (next b)) head (l₁ ++ a :: l₂) := by
  have distinct := chain.nodup
  induction l₁ generalizing head with
  | nil =>
      simp only [List.nil_append, chain_cons] at chain ⊢
      obtain ⟨rfl, -, rest⟩ := chain
      rw [Function.update_self]
      refine ⟨rfl, rest.update ?_ _⟩
      simp only [List.nil_append, List.nodup_cons, List.mem_cons, not_or] at distinct
      exact distinct.1.2
  | cons c l₁ ih =>
      simp only [List.cons_append, chain_cons] at chain ⊢
      rw [List.cons_append, List.nodup_cons] at distinct
      have other : c ≠ a := by
        rintro rfl
        exact distinct.1 (by simp)
      rw [Function.update_of_ne other]
      exact ⟨chain.1, ih chain.2 distinct.2⟩

/-- A new node behind the last one. -/
theorem Chain.extend (chain : Chain next head (l ++ [a])) (absent : b ∉ l ++ [a]) :
    Chain (Function.update (Function.update next b none) a (some b)) head (l ++ [a, b]) := by
  have distinct := chain.nodup
  have apart : b ≠ a := by
    rintro rfl
    exact absent (by simp)
  induction l generalizing head with
  | nil =>
      simp only [List.nil_append, chain_cons, chain_nil] at chain ⊢
      rw [Function.update_self, Function.update_of_ne apart, Function.update_self]
      exact ⟨chain.1, rfl, rfl⟩
  | cons c l ih =>
      simp only [List.cons_append, chain_cons] at chain ⊢
      rw [List.cons_append, List.nodup_cons] at distinct
      rw [List.cons_append, List.mem_cons, not_or] at absent
      have other : c ≠ a := by
        rintro rfl
        exact distinct.1 (by simp)
      rw [Function.update_of_ne other, Function.update_of_ne (Ne.symm absent.1)]
      exact ⟨chain.1, ih chain.2 absent.2 distinct.2⟩

end VibeXperia.Lib

import VibeXperia.Gps.ListState
import VibeXperia.Lib.Chain

namespace VibeXperia.Gps
open Lib

variable {α δ : Type}

/-! ## Calls of `linked_list.c` one after the other -/

/-- `malloc` is what `malloc` returns during the call. -/
inductive ListCall (α δ : Type)
  | add (dataObj : Option α) (dealloc : Option δ) (malloc : Option Address)
  | remove
  | search (equal : α → Bool) (dataP rmIfFound : Bool)
  | flush

/-- What a call returns and copies out, and the dealloc functions that it calls. -/
structure ListAnswer (α δ : Type) where
  err : LinkedListErrType
  data : Option α
  dealloced : List (δ × α)

def ListState.call (list : ListState α δ) :
    ListCall α δ → Option (ListState α δ × ListAnswer α δ)
  | .add dataObj dealloc malloc => do
      let (err, list) ← list.linkedListAdd dataObj dealloc malloc
      some (list, ⟨err, none, []⟩)
  | .remove => do
      let (err, data, list) ← list.linkedListRemove
      some (list, ⟨err, data, []⟩)
  | .search equal dataP rmIfFound => do
      let (err, searched) ← list.linkedListSearch (fun x s => (equal x, s)) dataP rmIfFound ()
      some (searched.list, ⟨err, searched.data, searched.dealloced⟩)
  | .flush => do
      let (err, dealloced, list) ← list.linkedListFlush
      some (list, ⟨err, none, dealloced⟩)

def ListState.calls (list : ListState α δ) :
    List (ListCall α δ) → Option (ListState α δ × List (ListAnswer α δ))
  | [] => some (list, [])
  | call :: rest => do
      let (list, answer) ← list.call call
      let (list, answers) ← list.calls rest
      some (list, answer :: answers)

/-- `malloc` returns nothing that is still allocated. -/
def ListCall.Fresh (list : ListState α δ) : ListCall α δ → Prop
  | .add _ _ (some elem) => elem ∉ list.elements
  | _ => True

instance (list : ListState α δ) : (call : ListCall α δ) → Decidable (call.Fresh list)
  | .add _ _ (some elem) => inferInstanceAs (Decidable (elem ∉ list.elements))
  | .add _ _ none | .remove | .search _ _ _ | .flush => .isTrue trivial

def FreshCalls (list : ListState α δ) : List (ListCall α δ) → Prop
  | [] => True
  | call :: rest => call.Fresh list ∧
      ∀ list' answer, list.call call = some (list', answer) → FreshCalls list' rest

/-! ## The queue that the list is -/

/-- Oldest first, each element with its dealloc function. -/
abbrev Queue (α δ : Type) := List (α × Option δ)

def deallocCalls (entries : List (α × Option δ)) : List (δ × α) :=
  entries.filterMap fun p => p.2.map fun dealloc => (dealloc, p.1)

/-- An element is added at the back and removed at the front, and a search begins at the back. -/
def Queue.call (queue : Queue α δ) : ListCall α δ → Queue α δ × ListAnswer α δ
  | .add none _ _ => (queue, ⟨.invalidParameter, none, []⟩)
  | .add (some _) _ none => (queue, ⟨.failureGeneral, none, []⟩)
  | .add (some dataObj) dealloc (some _) => (queue ++ [(dataObj, dealloc)], ⟨.success, none, []⟩)
  | .remove =>
      match queue with
      | [] => ([], ⟨.unavailableResource, none, []⟩)
      | oldest :: queue => (queue, ⟨.success, some oldest.1, []⟩)
  | .search equal dataP rmIfFound =>
      if queue.isEmpty then (queue, ⟨.unavailableResource, none, []⟩)
      else
        let found := queue.reverse.find? fun p => equal p.1
        (if rmIfFound then (queue.reverse.eraseP fun p => equal p.1).reverse else queue,
          ⟨.success, if dataP then found.map Prod.fst else none,
            if rmIfFound && !dataP then deallocCalls found.toList else []⟩)
  | .flush => ([], ⟨.success, none, deallocCalls queue.reverse⟩)

def Queue.calls (queue : Queue α δ) : List (ListCall α δ) → Queue α δ × List (ListAnswer α δ)
  | [] => (queue, [])
  | call :: rest =>
      let called := Queue.call queue call
      let more := Queue.calls called.1 rest
      (more.1, called.2 :: more.2)

namespace ListState

def next (list : ListState α δ) (a : Address) : Option Address :=
  (list.elements.lookup a).bind ListElement.next

def prev (list : ListState α δ) (a : Address) : Option Address :=
  (list.elements.lookup a).bind ListElement.prev

def content (list : ListState α δ) (a : Address) : Option (α × Option δ) :=
  (list.elements.lookup a).map fun e => (e.dataPtr, e.deallocFunc)

/-- The links in both directions list the same elements, which are all that are allocated, and hold
the queue. -/
structure WellFormed (list : ListState α δ) (queue : Queue α δ) : Prop where
  ends : list.pHead = none ↔ list.pTail = none
  inverse : ∀ a b, list.next a = some b ↔ list.prev b = some a
  nodes : ∃ nodes, Chain list.next list.pHead nodes ∧ Chain list.prev list.pTail nodes.reverse ∧
    (∀ a, a ∈ list.elements ↔ a ∈ nodes) ∧ nodes.reverse.map list.content = queue.map some

end ListState

end VibeXperia.Gps

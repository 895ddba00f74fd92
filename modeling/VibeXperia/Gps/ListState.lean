import Mathlib.Data.List.AList

namespace VibeXperia.Gps

/-! ## `linked_list.c` on the memory of its elements -/

inductive LinkedListErrType
  | success
  | failureGeneral
  | invalidParameter
  | invalidHandle
  | unavailableResource
  | insufficientBuffer
  deriving DecidableEq, Repr

abbrev Address := Nat

/-- A pointer is `none` where it is `NULL`. -/
structure ListElement (α δ : Type) where
  next : Option Address
  prev : Option Address
  dataPtr : α
  deallocFunc : Option δ

/-- The elements that are allocated. -/
abbrev Elements (α δ : Type) := AList fun _ : Address => ListElement α δ

structure ListState (α δ : Type) where
  elements : Elements α δ
  pHead : Option Address
  pTail : Option Address

namespace ListState
variable {α δ : Type}

/-! A function has no result where it would use an element that is not allocated. -/

def linkedListInit : ListState α δ := ⟨∅, none, none⟩

/-- `malloc` is what `malloc` returns. -/
def linkedListAdd (list : ListState α δ) (dataObj : Option α) (dealloc : Option δ)
    (malloc : Option Address) : Option (LinkedListErrType × ListState α δ) :=
  match dataObj, malloc with
  | none, _ => some (.invalidParameter, list)
  | some _, none => some (.failureGeneral, list)
  | some dataObj, some elem =>
      let elements := list.elements.insert elem ⟨list.pHead, none, dataObj, dealloc⟩
      match list.pHead with
      | some tmp => do
          let old ← elements.lookup tmp
          some (.success, ⟨elements.insert tmp { old with prev := some elem }, some elem, list.pTail⟩)
      | none => some (.success, ⟨elements, some elem, some elem⟩)

/-- The second result is what is copied to `*data_obj`. -/
def linkedListRemove (list : ListState α δ) :
    Option (LinkedListErrType × Option α × ListState α δ) :=
  match list.pTail with
  | none => some (.unavailableResource, none, list)
  | some tmp => do
      let elem ← list.elements.lookup tmp
      match elem.prev with
      | some prev => do
          let last ← list.elements.lookup prev
          let elements := list.elements.insert prev ⟨none, last.prev, last.dataPtr, last.deallocFunc⟩
          let elem ← elements.lookup tmp
          some (.success, some elem.dataPtr, ⟨elements.erase tmp, list.pHead, some prev⟩)
      | none =>
          some (.success, some elem.dataPtr, ⟨list.elements.erase tmp, none, none⟩)

def linkedListEmpty (list : ListState α δ) : Bool := list.pHead.isNone

/-- The loop of `linked_list_flush`, with the calls of the dealloc functions. -/
def flushFrom : Nat → Elements α δ → Option Address → Option (List (δ × α) × Elements α δ)
  | _, elements, none => some ([], elements)
  | 0, _, some _ => none
  | fuel + 1, elements, some pHead => do
      let elem ← elements.lookup pHead
      let (calls, rest) ← flushFrom fuel (elements.erase pHead) elem.next
      match elem.deallocFunc with
      | some dealloc => some ((dealloc, elem.dataPtr) :: calls, rest)
      | none => some (calls, rest)

/-- The loop frees one of the elements each time. -/
def linkedListFlush (list : ListState α δ) :
    Option (LinkedListErrType × List (δ × α) × ListState α δ) := do
  let (calls, elements) ← flushFrom list.elements.keys.length list.elements list.pHead
  some (.success, calls, ⟨elements, none, none⟩)

/-! ### Searching -/

/-- The link to the element `tmp` from the head's side. -/
def unlinkNext (list : ListState α δ) (tmp : ListElement α δ) : Option (ListState α δ) :=
  match tmp.prev with
  | none => some { list with pHead := tmp.next }
  | some prev => do
      let before ← list.elements.lookup prev
      some { list with elements := list.elements.insert prev { before with next := tmp.next } }

/-- The link to the element `tmp` from the tail's side. -/
def unlinkPrev (list : ListState α δ) (tmp : ListElement α δ) : Option (ListState α δ) :=
  match tmp.next with
  | none => some { list with pTail := tmp.prev }
  | some next => do
      let after ← list.elements.lookup next
      some { list with elements := list.elements.insert next { after with prev := tmp.prev } }

/-- What is done to a list element that is found if `rm_if_found`. -/
def unlink (list : ListState α δ) (tmp : Address) : Option (ListState α δ) := do
  let list ← list.unlinkNext (← list.elements.lookup tmp)
  let list ← list.unlinkPrev (← list.elements.lookup tmp)
  some { list with elements := list.elements.erase tmp }

structure Searched (α δ σ : Type) where
  /-- `*data_p`, if there is one. -/
  data : Option α
  dealloced : List (δ × α)
  list : ListState α δ
  state : σ

section Search
variable {σ : Type} (equal : α → σ → Bool × σ) (dataP rmIfFound : Bool)

/-- The loop of `linked_list_search`; `equal` may act on a state. -/
def searchFrom : Nat → ListState α δ → Option Address → σ → Option (Searched α δ σ)
  | _, list, none, s => some ⟨none, [], list, s⟩
  | 0, _, some _, _ => none
  | fuel + 1, list, some tmp, s => do
      let elem ← list.elements.lookup tmp
      let called := equal elem.dataPtr s
      if called.1 then
        let data := if dataP then some elem.dataPtr else none
        if rmIfFound then do
          let rest ← list.unlink tmp
          let dealloced := if dataP then [] else (elem.deallocFunc.map (·, elem.dataPtr)).toList
          some ⟨data, dealloced, rest, called.2⟩
        else some ⟨data, [], list, called.2⟩
      else searchFrom fuel list elem.next called.2

/-- No element is come to twice. -/
def linkedListSearch (list : ListState α δ) (s : σ) :
    Option (LinkedListErrType × Searched α δ σ) :=
  match list.pTail with
  | none => some (.unavailableResource, ⟨none, [], list, s⟩)
  | some _ => do
      let searched ← searchFrom equal dataP rmIfFound list.elements.keys.length list list.pHead s
      some (.success, searched)

end Search

end ListState

end VibeXperia.Gps

import VibeXperia.Gps.ListCalls
import VibeXperia.Proof.Gps.ListState

namespace VibeXperia.Proof.Gps
open Lib VibeXperia.Gps

variable {α δ : Type} {list : ListState α δ} {nodes : List Address} {queue : Queue α δ}
variable {entries : List (α × Option δ)}

/-! ## Well-formed lists -/

theorem wellFormed_of_holds (holds : Holds list nodes queue.reverse) : list.WellFormed queue := by
  have forth : Chain list.next list.pHead nodes := holds.nexts
  have back : Chain list.prev list.pTail nodes.reverse := holds.prevs
  have mirror : Chain list.next list.pHead nodes.reverse.reverse := by
    rw [List.reverse_reverse]
    exact forth
  have known {β : Type} {field : ListElement α δ → Option β} {a : Address} {b : β}
      (linked : (list.elements.lookup a).bind field = some b) : a ∈ nodes := by
    obtain ⟨e, found, -⟩ := Option.bind_eq_some_iff.mp linked
    rw [← holds.allocated, ← AList.lookup_isSome, found]
    rfl
  constructor
  case ends =>
    rw [forth.head_eq, back.head_eq]
    simp
  case inverse =>
    intro a b
    constructor
    · intro linked
      exact forth.linked_back back (known linked) linked
    · intro linked
      exact back.linked_back mirror (List.mem_reverse.mpr (known linked)) linked
  case nodes =>
    refine ⟨nodes, forth, back, holds.allocated, ?_⟩
    have stored := congrArg List.reverse holds.stored
    rw [← List.map_reverse, ← List.map_reverse, List.reverse_reverse] at stored
    rw [← stored]
    apply List.map_congr_left
    intro a _
    rw [ListState.content, read]
    cases list.elements.lookup a <;> rfl

/-! ## One call -/

theorem searched_pure {equal : α → Bool} {rmIfFound : Bool} :
    searched (fun x s => (equal x, s)) rmIfFound entries () =
      (entries.find? fun p => equal p.1,
        if rmIfFound then entries.eraseP fun p => equal p.1 else entries, ()) := by
  induction entries with
  | nil => cases rmIfFound <;> rfl
  | cons p entries ih =>
      by_cases hit : equal p.1 = true
      · rw [searched_hit hit]
        simp [hit]
      · rw [searched_miss hit, ih]
        cases rmIfFound <;> simp [hit]

theorem call_spec (holds : Holds list nodes queue.reverse) (call : ListCall α δ)
    (fresh : call.Fresh list) :
    ∃ list' nodes', list.call call = some (list', (Queue.call queue call).2) ∧
      Holds list' nodes' (Queue.call queue call).1.reverse := by
  cases call with
  | add dataObj dealloc malloc =>
      cases dataObj with
      | none => exact ⟨list, nodes, rfl, holds⟩
      | some dataObj =>
          cases malloc with
          | none => exact ⟨list, nodes, rfl, holds⟩
          | some elem =>
              obtain ⟨list', added, holds'⟩ := holds_add holds fresh dataObj dealloc
              refine ⟨list', elem :: nodes, ?_, ?_⟩
              · rw [ListState.call, added]
                rfl
              · rw [Queue.call, List.reverse_append]
                exact holds'
  | remove =>
      cases queue with
      | nil =>
          have empty := remove_empty holds
          refine ⟨list, nodes, ?_, holds⟩
          rw [ListState.call, empty]
          rfl
      | cons oldest queue =>
          rw [List.reverse_cons] at holds
          obtain ⟨list', nodes', removed, holds'⟩ := holds_remove holds
          refine ⟨list', nodes', ?_, holds'⟩
          rw [ListState.call, removed]
          rfl
  | search equal dataP rmIfFound =>
      by_cases empty : queue = []
      · subst empty
        refine ⟨list, nodes, ?_, holds⟩
        rw [ListState.call, search_empty holds]
        rfl
      · obtain ⟨list', nodes', ended, holds'⟩ := @holds_search _ _ list nodes queue.reverse _
          (fun x s => (equal x, s)) dataP rmIfFound () holds (by simpa using empty)
        rw [searched_pure] at ended holds'
        have filled : ¬ List.isEmpty queue = true := fun is => empty (List.isEmpty_iff.mp is)
        refine ⟨list', nodes', ?_, ?_⟩
        · simp only [ListState.call, ended, Queue.call, if_neg filled, Option.bind_eq_bind,
            Option.bind_some]
          rfl
        · rw [Queue.call, if_neg filled]
          cases rmIfFound with
          | true => simpa using holds'
          | false => simpa using holds'
  | flush =>
      obtain ⟨list', flushed, holds'⟩ := holds_flush holds
      refine ⟨list', [], ?_, holds'⟩
      rw [ListState.call, flushed]
      rfl

/-! ## Sequences of calls -/

theorem calls_spec (calls : List (ListCall α δ)) (holds : Holds list nodes queue.reverse)
    (fresh : FreshCalls list calls) :
    ∃ list' nodes', list.calls calls = some (list', (Queue.calls queue calls).2) ∧
      Holds list' nodes' (Queue.calls queue calls).1.reverse := by
  induction calls generalizing list nodes queue with
  | nil => exact ⟨list, nodes, rfl, holds⟩
  | cons call rest ih =>
      obtain ⟨list', nodes', called, holds'⟩ := call_spec holds call fresh.1
      obtain ⟨list'', nodes'', more, holds''⟩ := ih holds' (fresh.2 list' _ called)
      refine ⟨list'', nodes'', ?_, holds''⟩
      simp only [ListState.calls, called, Option.bind_eq_bind, Option.bind_some, more]
      rfl

/-- Whatever is called, in whichever order, the list is the queue: it is linked in both directions
through the same elements, and every call answers as the queue does. -/
theorem linked_list_queue (calls : List (ListCall α δ))
    (fresh : FreshCalls .linkedListInit calls) :
    ∃ list, ListState.calls .linkedListInit calls = some (list, (Queue.calls [] calls).2) ∧
      list.WellFormed (Queue.calls [] calls).1 := by
  obtain ⟨list, nodes, called, holds⟩ := @calls_spec _ _ _ [] [] calls holds_init fresh
  exact ⟨list, called, wellFormed_of_holds holds⟩

def twoAdded : List (ListCall Nat Nat) :=
  [.add (some 7) (some 70) (some 1), .add (some 8) (some 80) (some 2),
    .search (fun x => x = 7) true true, .flush]

theorem linked_list_queue_two :
    ∃ list, ListState.calls .linkedListInit twoAdded = some (list, (Queue.calls [] twoAdded).2) ∧
      list.WellFormed (Queue.calls [] twoAdded).1 := by
  apply linked_list_queue twoAdded
  refine ⟨by decide, fun list answer called => ?_⟩
  obtain ⟨rfl, rfl⟩ := Prod.mk.inj (Option.some.inj called)
  refine ⟨by decide, fun list answer called => ⟨trivial, fun list answer called => ⟨trivial, ?_⟩⟩⟩
  exact fun _ _ _ => trivial

end VibeXperia.Proof.Gps

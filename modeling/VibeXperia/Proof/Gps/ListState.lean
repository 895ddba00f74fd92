import VibeXperia.Lib.Chain
import VibeXperia.Gps.LinkedList
import VibeXperia.Gps.ListState

namespace VibeXperia.Proof.Gps
open Lib VibeXperia.Gps

variable {α δ : Type} {list : ListState α δ} {elements : Elements α δ}
variable {nodes : List Address} {entries : List (α × Option δ)} {elem tmp : Address}

/-! ## Reading elements -/

def read {β : Type} (field : ListElement α δ → Option β) (elements : Elements α δ) (a : Address) :
    Option β :=
  (elements.lookup a).bind field

def entry (e : ListElement α δ) : Option (α × Option δ) := some (e.dataPtr, e.deallocFunc)

section Read
variable {β : Type} {field : ListElement α δ → Option β}

theorem read_insert (e : ListElement α δ) :
    read field (elements.insert elem e) = Function.update (read field elements) elem (field e) := by
  funext a
  by_cases same : a = elem
  · subst same
    rw [Function.update_self, read, AList.lookup_insert, Option.bind_some]
  · rw [Function.update_of_ne same, read, AList.lookup_insert_ne same, read]

theorem read_erase :
    read field (elements.erase elem) = Function.update (read field elements) elem none := by
  funext a
  by_cases same : a = elem
  · subst same
    rw [Function.update_self, read, AList.lookup_erase, Option.bind_none]
  · rw [Function.update_of_ne same, read, AList.lookup_erase_ne same, read]

theorem read_of_lookup {e : ListElement α δ} (found : elements.lookup elem = some e) :
    read field elements elem = field e := by
  rw [read, found, Option.bind_some]

theorem exists_lookup (allocated : elem ∈ elements) : ∃ e, elements.lookup elem = some e :=
  Option.isSome_iff_exists.mp (AList.lookup_isSome.mpr allocated)

theorem read_insert_same {old : ListElement α δ} (e : ListElement α δ)
    (found : elements.lookup elem = some old) (same : field e = field old) :
    read field (elements.insert elem e) = read field elements := by
  have kept : read field elements elem = field old := read_of_lookup found
  rw [read_insert, same, ← kept, Function.update_eq_self]

end Read

/-! ## Lists in memory -/

/-- The elements at `nodes`, head first, are linked both ways, hold `entries`, and no other
element is allocated. -/
structure Holds (list : ListState α δ) (nodes : List Address) (entries : List (α × Option δ)) :
    Prop where
  nexts : Chain (read ListElement.next list.elements) list.pHead nodes
  prevs : Chain (read ListElement.prev list.elements) list.pTail nodes.reverse
  stored : nodes.map (read entry list.elements) = entries.map some
  allocated : ∀ a, a ∈ list.elements ↔ a ∈ nodes

theorem Holds.lookup (holds : Holds list nodes entries) {a : Address} (node : a ∈ nodes) :
    ∃ e, list.elements.lookup a = some e :=
  exists_lookup ((holds.allocated a).mpr node)

theorem map_update {β : Type} {f : Address → Option β} {v : Option β} (absent : elem ∉ nodes) :
    nodes.map (Function.update f elem v) = nodes.map f := by
  apply List.map_congr_left
  intro a node
  rw [Function.update_of_ne]
  rintro rfl
  exact absent node

theorem holds_init : Holds (.linkedListInit : ListState α δ) [] [] := by
  refine ⟨.nil, .nil, rfl, ?_⟩
  intro a
  simp [ListState.linkedListInit]

theorem linkedListEmpty_iff (holds : Holds list nodes entries) :
    list.linkedListEmpty = true ↔ entries = [] := by
  have length := congrArg List.length holds.stored
  rw [List.length_map, List.length_map] at length
  rw [ListState.linkedListEmpty, holds.nexts.head_eq, ← List.length_eq_zero_iff, ← length,
    List.length_eq_zero_iff]
  cases nodes <;> simp

theorem holds_add (holds : Holds list nodes entries) (fresh : elem ∉ list.elements) (x : α)
    (dealloc : Option δ) :
    ∃ list', list.linkedListAdd (some x) dealloc (some elem) = some (.success, list') ∧
      Holds list' (elem :: nodes) ((x, dealloc) :: entries) := by
  have absent : elem ∉ nodes := fun node => fresh ((holds.allocated elem).mpr node)
  have head := holds.nexts.head_eq
  have added : ((elem :: nodes).map (Function.update (read entry list.elements) elem
      (some (x, dealloc)))) = ((x, dealloc) :: entries).map some := by
    rw [List.map_cons, Function.update_self, map_update absent, holds.stored, List.map_cons]
  cases nodes with
  | nil =>
      rw [List.head?_nil] at head
      refine ⟨⟨list.elements.insert elem ⟨list.pHead, none, x, dealloc⟩, some elem, some elem⟩,
        ?_, ?_⟩
      · simp only [ListState.linkedListAdd, head]
      · constructor
        · rw [read_insert]
          exact holds.nexts.push absent
        · rw [read_insert]
          exact Chain.push Chain.nil absent
        · rw [read_insert]
          exact added
        · intro a
          rw [AList.mem_insert, holds.allocated, List.mem_cons]
  | cons tmp nodes =>
      rw [List.head?_cons] at head
      obtain ⟨old, found⟩ := holds.lookup (List.mem_cons_self ..)
      have apart : tmp ≠ elem := by
        rintro rfl
        exact absent (List.mem_cons_self ..)
      have found : (list.elements.insert elem ⟨list.pHead, none, x, dealloc⟩).lookup tmp =
          some old := by
        rw [AList.lookup_insert_ne apart, found]
      refine ⟨⟨(list.elements.insert elem ⟨list.pHead, none, x, dealloc⟩).insert tmp
        { old with prev := some elem }, some elem, list.pTail⟩, ?_, ?_⟩
      · simp only [ListState.linkedListAdd, head] at found ⊢
        rw [found]
        rfl
      · constructor
        · rw [read_insert_same { old with prev := some elem } found rfl, read_insert]
          exact holds.nexts.push absent
        · have prevs := holds.prevs
          rw [List.reverse_cons] at prevs
          rw [read_insert, read_insert, List.reverse_cons, List.reverse_cons, List.append_assoc]
          apply prevs.extend
          simpa [or_comm] using absent
        · rw [read_insert_same { old with prev := some elem } found rfl, read_insert]
          exact added
        · intro a
          rw [AList.mem_insert, AList.mem_insert, holds.allocated, List.mem_cons, List.mem_cons,
            List.mem_cons]
          tauto

/-! ## Unlinking -/

structure Link (link : ListElement α δ → Option Address)
    (set : ListElement α δ → Option Address → ListElement α δ) : Prop where
  get : ∀ e a, link (set e a) = a
  entry : ∀ e a, entry (set e a) = entry e

theorem link_next : Link (α := α) (δ := δ) ListElement.next fun e next => { e with next } :=
  ⟨fun _ _ => rfl, fun _ _ => rfl⟩

theorem link_prev : Link (α := α) (δ := δ) ListElement.prev fun e prev => { e with prev } :=
  ⟨fun _ _ => rfl, fun _ _ => rfl⟩

structure Relinked (tmp : Address) (elements elements' : Elements α δ) : Prop where
  found : elements'.lookup tmp = elements.lookup tmp
  entries : read entry elements' = read entry elements
  allocated : ∀ a, a ∈ elements' ↔ a ∈ elements

inductive Skips (link : ListElement α δ → Option Address)
    (set : ListElement α δ → Option Address → ListElement α δ) (e : ListElement α δ)
    (elements : Elements α δ) (head : Option Address) :
    Option Address → Elements α δ → Option Address → Prop
  | first : Skips link set e elements head none elements (link e)
  | later (a p) (found : elements.lookup a = some p) :
      Skips link set e elements head (some a) (elements.insert a (set p (link e))) head

theorem skips_spec {link : ListElement α δ → Option Address}
    {set : ListElement α δ → Option Address → ListElement α δ} (is : Link link set)
    (other : ListElement α δ → Option Address) (kept : ∀ e a, other (set e a) = other e)
    {front back : List Address} {head : Option Address} {e : ListElement α δ}
    (chain : Chain (read link elements) head (front ++ tmp :: back))
    (found : elements.lookup tmp = some e) (allocated : ∀ a ∈ front, a ∈ elements) :
    ∃ elements' head', Skips link set e elements head front.getLast? elements' head' ∧
      Chain (read link elements') head' (front ++ back) ∧
      read other elements' = read other elements ∧ Relinked tmp elements elements' := by
  have succ : read link elements tmp = link e := read_of_lookup found
  rcases List.eq_nil_or_concat' front with rfl | ⟨others, prev, rfl⟩
  -- nothing before `tmp`: the head is moved, and no element is written
  · have after := chain.after
    rw [succ] at after
    exact ⟨_, _, .first, after, rfl, rfl, rfl, fun _ => Iff.rfl⟩
  · have node : prev ∈ others ++ [prev] := List.mem_append_right _ (List.mem_singleton_self prev)
    have apart : tmp ≠ prev := by
      rintro rfl
      exact chain.notMem_others (List.mem_append_left back node)
    obtain ⟨p, foundPrev⟩ := exists_lookup (allocated prev node)
    rw [List.append_assoc] at chain
    have skipped := chain.unlink
    rw [succ] at skipped
    rw [List.getLast?_concat]
    refine ⟨_, _, .later prev p foundPrev, ?_, ?_, ?_, ?_, ?_⟩
    · rw [read_insert, is.get, List.append_assoc]
      exact skipped
    · exact read_insert_same _ foundPrev (kept p _)
    · rw [AList.lookup_insert_ne apart]
    · exact read_insert_same _ foundPrev (is.entry p _)
    · intro a
      rw [AList.mem_insert]
      apply or_iff_right_of_imp
      rintro rfl
      exact allocated a node

theorem unlinkNext_eq {e : ListElement α δ} {elements' : Elements α δ} {pHead : Option Address}
    (skips : Skips ListElement.next (fun e next => { e with next }) e list.elements list.pHead
      e.prev elements' pHead) :
    list.unlinkNext e = some ⟨elements', pHead, list.pTail⟩ := by
  rw [ListState.unlinkNext]
  generalize e.prev = prev at skips
  cases skips with
  | first => rfl
  | later a p found => simp only [found, Option.bind_eq_bind, Option.bind_some]

theorem unlinkPrev_eq {e : ListElement α δ} {elements' : Elements α δ} {pTail : Option Address}
    (skips : Skips ListElement.prev (fun e prev => { e with prev }) e list.elements list.pTail
      e.next elements' pTail) :
    list.unlinkPrev e = some ⟨elements', list.pHead, pTail⟩ := by
  rw [ListState.unlinkPrev]
  generalize e.next = next at skips
  cases skips with
  | first => rfl
  | later a p found => simp only [found, Option.bind_eq_bind, Option.bind_some]

theorem Holds.stored_split {front back : List Address} {newer older : List (α × Option δ)}
    {p : α × Option δ} (holds : Holds list (front ++ tmp :: back) (newer ++ p :: older))
    (same : front.length = newer.length) :
    front.map (read entry list.elements) = newer.map some ∧
      read entry list.elements tmp = some p ∧
      back.map (read entry list.elements) = older.map some := by
  have stored := holds.stored
  rw [List.map_append, List.map_append, List.map_cons, List.map_cons] at stored
  obtain ⟨first, rest⟩ := List.append_inj stored (by rw [List.length_map, List.length_map, same])
  exact ⟨first, List.head_eq_of_cons_eq rest, List.tail_eq_of_cons_eq rest⟩

theorem Holds.linked {front back : List Address} {e : ListElement α δ}
    (holds : Holds list (front ++ tmp :: back) entries)
    (found : list.elements.lookup tmp = some e) :
    e.prev = front.getLast? ∧ e.next = back.head? := by
  have prevs := holds.prevs
  rw [List.reverse_append, List.reverse_cons, List.append_assoc, List.singleton_append] at prevs
  have before : read ListElement.prev list.elements tmp = e.prev := read_of_lookup found
  have after : read ListElement.next list.elements tmp = e.next := read_of_lookup found
  rw [← before, ← after, prevs.after.head_eq, holds.nexts.after.head_eq, List.head?_reverse]
  exact ⟨rfl, rfl⟩

theorem holds_unlink {front back : List Address} {newer older : List (α × Option δ)}
    {p : α × Option δ} (holds : Holds list (front ++ tmp :: back) (newer ++ p :: older))
    (same : front.length = newer.length) :
    ∃ list', list.unlink tmp = some list' ∧ Holds list' (front ++ back) (newer ++ older) := by
  obtain ⟨e, found⟩ := holds.lookup (a := tmp) (by simp)
  have absent := holds.nexts.notMem_others
  have allocated (a : Address) (node : a ∈ front ∨ a ∈ back) : a ∈ list.elements := by
    rw [holds.allocated, List.mem_append, List.mem_cons]
    exact node.imp id .inr
  have prevs := holds.prevs
  rw [List.reverse_append, List.reverse_cons, List.append_assoc, List.singleton_append] at prevs
  obtain ⟨before, after⟩ := holds.linked found
  rw [← List.getLast?_reverse] at after
  -- each of the two steps sets one kind of link and leaves the chain of the other kind alone
  obtain ⟨elements₁, head, skips₁, nexts₁, prevs₁, relinked₁⟩ := skips_spec link_next
    ListElement.prev (fun _ _ => rfl) holds.nexts found fun a node => allocated a (.inl node)
  rw [← prevs₁] at prevs
  obtain ⟨elements₂, tail, skips₂, prevs₂, nexts₂, relinked₂⟩ := skips_spec link_prev
    ListElement.next (fun _ _ => rfl) prevs (relinked₁.found.trans found) fun a node => by
      rw [relinked₁.allocated]
      exact allocated a (.inr (List.mem_reverse.mp node))
  rw [← before] at skips₁
  rw [← after] at skips₂
  refine ⟨⟨elements₂.erase tmp, head, tail⟩, ?_, ?_, ?_, ?_, ?_⟩
  · have second : (⟨elements₁, head, list.pTail⟩ : ListState α δ).unlinkPrev e =
        some ⟨elements₂, head, tail⟩ := unlinkPrev_eq skips₂
    simp only [ListState.unlink, found, Option.bind_eq_bind, Option.bind_some, unlinkNext_eq skips₁,
      relinked₁.found, second]
  · rw [read_erase, nexts₂]
    exact nexts₁.update absent none
  · rw [read_erase, List.reverse_append]
    apply prevs₂.update
    simpa [or_comm] using absent
  · obtain ⟨first, -, rest⟩ := holds.stored_split same
    rw [read_erase, map_update absent, relinked₂.entries, relinked₁.entries, List.map_append, first,
      rest, List.map_append]
  · intro a
    rw [AList.mem_erase, relinked₂.allocated, relinked₁.allocated, holds.allocated]
    simp only [List.mem_append, List.mem_cons, not_or] at absent ⊢
    constructor
    · rintro ⟨other, node | rfl | node⟩
      · exact .inl node
      · exact absurd rfl other
      · exact .inr node
    · rintro (node | node)
      · exact ⟨fun same => absent.1 (same ▸ node), .inl node⟩
      · exact ⟨fun same => absent.2 (same ▸ node), .inr (.inr node)⟩

/-! ## Removing -/

theorem remove_eq_unlink {e : ListElement α δ} (tail : list.pTail = some tmp)
    (found : list.elements.lookup tmp = some e) (ends : e.next = none)
    (apart : e.prev ≠ some tmp) :
    list.linkedListRemove =
      (list.unlink tmp).map fun rest => (.success, some e.dataPtr, rest) := by
  cases before : e.prev with
  | none =>
      simp [ListState.linkedListRemove, ListState.unlink, ListState.unlinkNext,
        ListState.unlinkPrev, tail, found, before, ends]
  | some prev =>
      have other : tmp ≠ prev := by
        rintro rfl
        exact apart before
      cases foundPrev : list.elements.lookup prev with
      | none =>
          simp [ListState.linkedListRemove, ListState.unlink, ListState.unlinkNext, tail, found,
            before, foundPrev]
      | some p =>
          simp [ListState.linkedListRemove, ListState.unlink, ListState.unlinkNext,
            ListState.unlinkPrev, tail, found, before, ends, foundPrev, AList.lookup_insert_ne other]

theorem holds_remove {oldest : α × Option δ} (holds : Holds list nodes (entries ++ [oldest])) :
    ∃ list' nodes', list.linkedListRemove = some (.success, some oldest.1, list') ∧
      Holds list' nodes' entries := by
  have lengths := congrArg List.length holds.stored
  rw [List.length_map, List.length_map, List.length_append, List.length_singleton] at lengths
  obtain rfl | ⟨front, tmp, rfl⟩ := List.eq_nil_or_concat' nodes
  · cases lengths
  rw [List.length_append, List.length_singleton] at lengths
  have same : front.length = entries.length := Nat.succ.inj lengths
  obtain ⟨e, found⟩ := holds.lookup (List.mem_append_right front (List.mem_singleton_self tmp))
  obtain ⟨before, after⟩ := holds.linked found
  have content := (holds.stored_split same).2.1
  rw [read_of_lookup found] at content
  have data : e.dataPtr = oldest.1 := congrArg Prod.fst (Option.some.inj content)
  have tail : list.pTail = some tmp := by
    rw [holds.prevs.head_eq, List.head?_reverse, List.getLast?_concat]
  have apart : e.prev ≠ some tmp := by
    intro loops
    rw [loops] at before
    exact holds.nexts.notMem_others
      (List.mem_append_left [] (List.mem_of_getLast? before.symm))
  obtain ⟨list', unlinked, holds'⟩ := holds_unlink holds same
  rw [List.append_nil, List.append_nil] at holds'
  refine ⟨list', front, ?_, holds'⟩
  rw [remove_eq_unlink tail found after apart, unlinked, data]
  rfl

theorem Holds.tail_of_nil (holds : Holds list nodes ([] : List (α × Option δ))) :
    list.pTail = none := by
  have none' : nodes = [] := List.map_eq_nil_iff.mp holds.stored
  subst none'
  exact holds.prevs.head_eq

theorem remove_empty (holds : Holds list nodes ([] : List (α × Option δ))) :
    list.linkedListRemove = some (.unavailableResource, none, list) := by
  rw [ListState.linkedListRemove, holds.tail_of_nil]

/-! ## Flushing -/

def dealloced (entries : List (α × Option δ)) : List (δ × α) :=
  entries.filterMap fun p => p.2.map fun dealloc => (dealloc, p.1)

theorem flushFrom_eq {fuel : Nat} {head : Option Address}
    (nexts : Chain (read ListElement.next elements) head nodes)
    (stored : nodes.map (read entry elements) = entries.map some)
    (allocated : ∀ a, a ∈ elements ↔ a ∈ nodes) (enough : nodes.length ≤ fuel) :
    ∃ rest, ListState.flushFrom fuel elements head = some (dealloced entries, rest) ∧
      ∀ a, a ∉ rest := by
  induction nodes generalizing elements head entries fuel with
  | nil =>
      rw [chain_nil] at nexts
      subst nexts
      have none' : entries = [] := List.map_eq_nil_iff.mp stored.symm
      subst none'
      refine ⟨elements, ?_, ?_⟩
      · cases fuel <;> rfl
      · intro a
        rw [allocated]
        exact List.not_mem_nil
  | cons pHead nodes ih =>
      have absent := (List.nodup_cons.mp nexts.nodup).1
      rw [chain_cons] at nexts
      obtain ⟨rfl, nexts⟩ := nexts
      obtain ⟨e, found⟩ := exists_lookup ((allocated pHead).mpr (List.mem_cons_self ..))
      rw [read_of_lookup found] at nexts
      cases entries with
      | nil => cases stored
      | cons first entries =>
          rw [List.map_cons, List.map_cons, List.cons.injEq, read_of_lookup found] at stored
          obtain ⟨content, stored⟩ := stored
          have content : (e.dataPtr, e.deallocFunc) = first := Option.some.inj content
          subst content
          cases fuel with
          | zero => cases enough
          | succ fuel =>
              have others : ∀ a, a ∈ elements.erase pHead ↔ a ∈ nodes := by
                intro a
                rw [AList.mem_erase, allocated, List.mem_cons]
                constructor
                · rintro ⟨other, same | node⟩
                  · exact absurd same other
                  · exact node
                · intro node
                  refine ⟨?_, Or.inr node⟩
                  rintro rfl
                  exact absent node
              -- the link was read before the element is freed, and no later one comes back to it
              have nexts' := nexts.update absent none
              rw [← read_erase] at nexts'
              rw [← map_update absent, ← read_erase] at stored
              obtain ⟨rest, flushed, freed⟩ := ih nexts' stored others (Nat.le_of_succ_le_succ enough)
              refine ⟨rest, ?_, freed⟩
              simp only [ListState.flushFrom, found, Option.bind_eq_bind, Option.bind_some, flushed]
              cases e.deallocFunc <;> simp [dealloced]

theorem length_nodes_le (holds : Holds list nodes entries) :
    nodes.length ≤ list.elements.keys.length := by
  apply List.Subperm.length_le
  apply List.subperm_of_subset holds.nexts.nodup
  intro a node
  exact (holds.allocated a).mpr node

theorem holds_flush (holds : Holds list nodes entries) :
    ∃ list', list.linkedListFlush = some (.success, dealloced entries, list') ∧
      Holds list' [] [] := by
  obtain ⟨rest, flushed, freed⟩ :=
    flushFrom_eq holds.nexts holds.stored holds.allocated (length_nodes_le holds)
  refine ⟨⟨rest, none, none⟩, ?_, .nil, .nil, rfl, ?_⟩
  · simp only [ListState.linkedListFlush, flushed, Option.bind_eq_bind, Option.bind_some]
  · intro a
    exact iff_of_false (freed a) List.not_mem_nil

/-! ## Searching -/

section Search
variable {σ : Type} {equal : α → σ → Bool × σ} {dataP rmIfFound : Bool} {s : σ}

def searched (equal : α → σ → Bool × σ) (rmIfFound : Bool) (entries : List (α × Option δ)) (s : σ) :
    Option (α × Option δ) × List (α × Option δ) × σ :=
  linkedListSearch (fun p => equal p.1) rmIfFound entries s

def answer (dataP rmIfFound : Bool) (found : Option (α × Option δ)) : Option α × List (δ × α) :=
  (if dataP then found.map Prod.fst else none,
    if rmIfFound && !dataP then dealloced found.toList else [])

theorem searched_hit {p : α × Option δ} {older : List (α × Option δ)}
    (hit : (equal p.1 s).1 = true) : searched equal rmIfFound (p :: older) s =
      (some p, if rmIfFound then older else p :: older, (equal p.1 s).2) := by
  rw [searched, linkedListSearch, if_pos hit]

theorem searched_miss {p : α × Option δ} {older : List (α × Option δ)}
    (miss : ¬ (equal p.1 s).1 = true) : searched equal rmIfFound (p :: older) s =
      ((searched equal rmIfFound older (equal p.1 s).2).1,
        p :: (searched equal rmIfFound older (equal p.1 s).2).2.1,
        (searched equal rmIfFound older (equal p.1 s).2).2.2) := by
  rw [searched, linkedListSearch, if_neg miss]
  rfl

theorem searchFrom_spec {fuel : Nat} {mid : Option Address} (front : List Address)
    {back : List Address} (newer : List (α × Option δ)) {older : List (α × Option δ)}
    (holds : Holds list (front ++ back) (newer ++ older))
    (same : front.length = newer.length)
    (rest : Chain (read ListElement.next list.elements) mid back) (enough : back.length ≤ fuel) :
    ∃ list' nodes', ListState.searchFrom equal dataP rmIfFound fuel list mid s =
        some ⟨(answer dataP rmIfFound (searched equal rmIfFound older s).1).1,
          (answer dataP rmIfFound (searched equal rmIfFound older s).1).2, list',
          (searched equal rmIfFound older s).2.2⟩ ∧
      Holds list' nodes' (newer ++ (searched equal rmIfFound older s).2.1) := by
  induction back generalizing front newer older mid fuel s with
  | nil =>
      rw [chain_nil] at rest
      subst rest
      have none' : older = [] := by
        have lengths := congrArg List.length holds.stored
        simp only [List.length_map, List.length_append, List.length_nil] at lengths
        exact List.length_eq_zero_iff.mp (by omega)
      subst none'
      refine ⟨list, _, ?_, holds⟩
      cases fuel <;> cases dataP <;> cases rmIfFound <;> rfl
  | cons tmp back ih =>
      obtain ⟨p, older, rfl⟩ : ∃ p rest, older = p :: rest := by
        cases older with
        | nil =>
            have lengths := congrArg List.length holds.stored
            simp only [List.length_map, List.length_append, List.length_cons, List.length_nil] at lengths
            omega
        | cons p older => exact ⟨p, older, rfl⟩
      obtain ⟨e, found⟩ := holds.lookup (a := tmp) (by simp)
      have content : entry e = some p := by
        rw [← (holds.stored_split same).2.1]
        exact (read_of_lookup found).symm
      obtain rfl : (e.dataPtr, e.deallocFunc) = p := Option.some.inj content
      rw [chain_cons, read_of_lookup found] at rest
      obtain ⟨rfl, rest⟩ := rest
      cases fuel with
      | zero => cases enough
      | succ fuel =>
          by_cases hit : (equal e.dataPtr s).1 = true
          · rw [searched_hit hit]
            cases rmIfFound with
            | true =>
                obtain ⟨list', unlinked, holds'⟩ := holds_unlink holds same
                refine ⟨list', _, ?_, holds'⟩
                simp only [ListState.searchFrom, found, Option.bind_eq_bind, Option.bind_some, hit,
                  if_true, unlinked]
                cases dataP <;> cases e.deallocFunc <;> simp [answer, dealloced]
            | false =>
                refine ⟨list, _, ?_, holds⟩
                simp only [ListState.searchFrom, found, Option.bind_eq_bind, Option.bind_some, hit,
                  if_true]
                cases dataP <;> simp [answer]
          -- the element joins those that were passed, on both sides of the invariant
          · rw [searched_miss hit]
            rw [List.append_cons, List.append_cons newer] at holds
            have lengths : (front ++ [tmp]).length =
                (newer ++ [(e.dataPtr, e.deallocFunc)]).length := by simp [same]
            obtain ⟨list', nodes', ended, holds'⟩ := ih (s := (equal e.dataPtr s).2) _ _ holds
              lengths rest (Nat.le_of_succ_le_succ enough)
            refine ⟨list', nodes', ?_, ?_⟩
            · simp only [ListState.searchFrom, found, Option.bind_eq_bind, Option.bind_some, hit, ended]
              rfl
            · rw [List.append_assoc] at holds'
              exact holds'

theorem holds_search (holds : Holds list nodes entries) (some : entries ≠ []) :
    ∃ list' nodes', list.linkedListSearch equal dataP rmIfFound s =
        Option.some (.success, ⟨(answer dataP rmIfFound (searched equal rmIfFound entries s).1).1,
          (answer dataP rmIfFound (searched equal rmIfFound entries s).1).2, list',
          (searched equal rmIfFound entries s).2.2⟩) ∧
      Holds list' nodes' (searched equal rmIfFound entries s).2.1 := by
  have lengths := congrArg List.length holds.stored
  rw [List.length_map, List.length_map] at lengths
  have last : list.pTail = nodes.reverse.head? := holds.prevs.head_eq
  obtain ⟨list', nodes', ended, holds'⟩ := @searchFrom_spec _ _ list _ equal dataP rmIfFound s
    _ _ [] _ [] _ holds rfl holds.nexts (length_nodes_le holds)
  refine ⟨list', nodes', ?_, holds'⟩
  cases tail : list.pTail with
  | none =>
      rw [tail, eq_comm, List.head?_eq_none_iff, List.reverse_eq_nil_iff] at last
      subst last
      exact absurd (List.length_eq_zero_iff.mp lengths.symm) some
  | some tmp =>
      simp only [ListState.linkedListSearch, tail, ended, Option.bind_eq_bind, Option.bind_some]

theorem search_empty (holds : Holds list nodes ([] : List (α × Option δ))) :
    list.linkedListSearch equal dataP rmIfFound s =
      some (.unavailableResource, ⟨none, [], list, s⟩) := by
  rw [ListState.linkedListSearch, holds.tail_of_nil]

end Search

end VibeXperia.Proof.Gps

import VibeXperia.Lib.Run
import VibeXperia.Lib.StableSort

namespace VibeXperia.Lib

/-! ## A mailbox that gives out its least messages first -/

inductive MailEvent (α : Type*)
  | put (x : α)
  | take (x : α)
  | drop (gone : α → Bool)

section Mailbox
variable {α : Type*} {le : α → α → Bool}

variable (le) in
/-- The messages are kept as they came. The one that is taken is the first of the least. -/
inductive Mailbox : List α → MailEvent α → List α → Prop
  | put (box : List α) (x : α) : Mailbox box (.put x) (box ++ [x])
  | take (first second : List α) (x : α) (least : ∀ y ∈ first, ¬ le y x)
      (behind : ∀ y ∈ second, le x y) : Mailbox (first ++ x :: second) (.take x) (first ++ second)
  | drop (box : List α) (gone : α → Bool) :
      Mailbox box (.drop gone) (box.filter fun x => !gone x)

def MailEvent.puts : MailEvent α → Option α
  | .put x => some x
  | _ => none

def MailEvent.takes : MailEvent α → Option α
  | .take x => some x
  | _ => none

variable {box : List α} {events : List (MailEvent α)}

/-- Every message that was put in was taken once, was dropped or is still there. -/
theorem Mailbox.accounted (run : Run (Mailbox le) [] events box) :
    ∃ lost, (events.filterMap MailEvent.puts).Perm
        (events.filterMap MailEvent.takes ++ lost ++ box) ∧
      ∀ x ∈ lost, ∃ gone, .drop gone ∈ events ∧ gone x := by
  induction run with
  | refl => exact ⟨[], List.Perm.refl _, by simp⟩
  | @tail events box _ _ _ last ih =>
      obtain ⟨lost, same, dropped⟩ := ih
      have kept (event : MailEvent α) (x) (member : x ∈ lost) :
          ∃ gone, .drop gone ∈ events ++ [event] ∧ gone x := by
        obtain ⟨gone, told, here⟩ := dropped x member
        exact ⟨gone, List.mem_append_left _ told, here⟩
      rw [List.filterMap_append, List.filterMap_append]
      cases last with
      | put _ x =>
          refine ⟨lost, ?_, kept _⟩
          simp only [List.filterMap_cons, MailEvent.puts, MailEvent.takes, List.filterMap_nil,
            List.append_nil]
          rw [← List.append_assoc]
          exact same.append_right [x]
      | take first second x least behind =>
          refine ⟨lost, ?_, kept _⟩
          simp only [List.filterMap_cons, MailEvent.puts, MailEvent.takes, List.filterMap_nil,
            List.append_nil]
          refine same.trans ?_
          rw [List.append_assoc, List.append_assoc, List.append_assoc, List.singleton_append]
          apply List.Perm.append_left
          rw [← List.append_assoc, ← List.append_assoc]
          exact List.perm_middle
      | drop _ gone =>
          refine ⟨lost ++ box.filter gone, ?_, ?_⟩
          · simp only [List.filterMap_cons, MailEvent.puts, MailEvent.takes, List.filterMap_nil,
              List.append_nil]
            refine same.trans ?_
            rw [List.append_assoc, List.append_assoc, List.append_assoc]
            apply List.Perm.append_left
            apply List.Perm.append_left
            exact (List.filter_append_perm gone box).symm
          · intro x member
            rcases List.mem_append.mp member with member | member
            · exact kept _ x member
            · exact ⟨gone, by simp, (List.mem_filter.mp member).2⟩

/-! ## Kept in a sorted queue -/

variable {queue first second : List α} {x : α}

theorem insertIdx_length_append (first second : List α) (x : α) :
    (first ++ second).insertIdx first.length x = first ++ x :: second := by
  induction first with
  | nil => rfl
  | cons y first ih => rw [List.cons_append, List.length_cons, List.insertIdx_succ_cons, ih]; rfl

theorem Mailbox.put_sorted (order : WeakOrder le) (sorting : StableSort le (first ++ second) box)
    (before : ∀ y ∈ first, le y x) (behind : ∀ y ∈ second, ¬ le y x) :
    ∃ box', Mailbox le box (.put x) box' ∧ StableSort le (first ++ x :: second) box' :=
  ⟨_, .put box x, sorting.insert order before behind⟩

theorem Mailbox.take_sorted (order : WeakOrder le) (sorting : StableSort le (x :: queue) box) :
    ∃ box', Mailbox le box (.take x) box' ∧ StableSort le queue box' := by
  obtain ⟨first, second, rfl, least, behind, rest⟩ := sorting.uncons order
  exact ⟨_, .take first second x least behind, rest⟩

theorem Mailbox.drop_sorted (sorting : StableSort le queue box) (gone : α → Bool) :
    ∃ box', Mailbox le box (.drop gone) box' ∧
      StableSort le (queue.filter fun x => !gone x) box' :=
  ⟨_, .drop box gone, sorting.filter _⟩

end Mailbox

end VibeXperia.Lib

import Mathlib.Data.List.Basic

namespace VibeXperia.Gps

variable {α σ : Type*}

/-! ## `linked_list.c` on the data of its nodes, head first -/

def linkedListAdd (list : List α) (dataObj : α) : List α := dataObj :: list

def linkedListEmpty (list : List α) : Bool := list.isEmpty

/-- `equal` may act on a state. The results are `*data_p`, the list (without what was found if
`rmIfFound`), and the state that the calls of `equal` leave. -/
def linkedListSearch (equal : α → σ → Bool × σ) (rmIfFound : Bool) :
    List α → σ → Option α × List α × σ
  | [], s => (none, [], s)
  | x :: xs, s =>
      let called := equal x s
      if called.1 then (some x, if rmIfFound then xs else x :: xs, called.2)
      else
        let rest := linkedListSearch equal rmIfFound xs called.2
        (rest.1, x :: rest.2.1, rest.2.2)

end VibeXperia.Gps

import Mathlib.Data.List.ReduceOption
import VibeXperia.Lib.KeyedList
import VibeXperia.Shims.Vectors

namespace VibeXperia.Shims
open Lib

/-! ## `SortedVectorImpl` -/

namespace SortedVectorImpl
variable {M α : Type} (b : SharedBuffers M α) (t : Traits α)
  (doCompare : Option α → Option α → Int)

/-- The loop of `_indexOrderOf`, for at most `rounds` rounds: `err` and `*order`. -/
def search (array : Nat → Option α) (item : Option α) : Nat → Int → Int → Int × Int
  | 0, l, _ => (nameNotFound, l)
  | rounds + 1, l, h =>
      if l ≤ h then
        let mid := l + (h - l) / 2
        let c := doCompare (array mid.toNat) item
        if c = 0 then (mid, mid)
        else if c < 0 then search array item rounds (mid + 1) h
        else search array item rounds l (mid - 1)
      else (nameNotFound, l)

/-- `size() - 1` wraps before it is signed. -/
def indexOrderOf (m : M) (v : VectorImpl) (item : Option α) : Int × Int :=
  search doCompare (v.arrayImpl b m) item v.mCount 0 (ssize (v.mCount + sizeMax))

def indexOf (m : M) (v : VectorImpl) (item : Option α) : Int :=
  (indexOrderOf b doCompare m v item).1

def orderOf (m : M) (v : VectorImpl) (item : Option α) : Nat :=
  (indexOrderOf b doCompare m v item).2.toNat

def add (m : M) (v : VectorImpl) (item : Option α) : Option (Int × M × VectorImpl) :=
  let (index, order) := indexOrderOf b doCompare m v item
  if index < 0 then v.insertAt b t m item order.toNat 1 else v.replaceAt b t m item index.toNat

/-- The loop of `merge`, for `left` items of `vector` from item `i` on; `none` also where an item
without a value is read. -/
def mergeItems (vector : VectorImpl) : Nat → Nat → M → VectorImpl → Option (Int × M × VectorImpl)
  | 0, _, m, v => some (noError, m, v)
  | left + 1, i, m, v =>
      match vector.arrayImpl b m i with
      | none => none
      | some item =>
          match add b t doCompare m v (some item) with
          | none => none
          | some (err, m, v) =>
              if err < 0 then some (err, m, v) else mergeItems vector left (i + 1) m v

/-- There is no memory for the next item when `n` items of `vector` have been merged. -/
def MergeShort (m : M) (v vector : VectorImpl) (i n : Nat) : Prop :=
  ∃ m' v', mergeItems b t doCompare vector n i m v = some (noError, m', v') ∧
    b.Short m' v'.mStorage (t.grown (v'.mCount + 1))

def merge (m : M) (v vector : VectorImpl) : Option (Int × M × VectorImpl) :=
  if vector.mCount ≠ 0 then mergeItems b t doCompare vector vector.mCount 0 m v
  else some (noError, m, v)

/-- The item at `itemLocation(index)`, if there is one. -/
def itemAt (m : M) (v : VectorImpl) (index : Nat) : Option α :=
  if v.located b t m index then v.arrayImpl b m index else none

/-- `merge` of a sorted vector. -/
def mergeSorted (m : M) (v vector : VectorImpl) : Option (Int × M × VectorImpl) :=
  if vector.mCount ≠ 0 then
    if doCompare (itemAt b t m vector ((vector.mCount + sizeMax) % (sizeMax + 1)))
        (v.arrayImpl b m 0) ≤ 0 then
      v.insertVectorAt b t m vector 0
    else if doCompare (vector.arrayImpl b m 0)
        (itemAt b t m v ((v.mCount + sizeMax) % (sizeMax + 1))) ≥ 0 then
      v.insertVectorAt b t m vector v.mCount
    else merge b t doCompare m v vector
  else some (noError, m, v)

def remove (m : M) (v : VectorImpl) (item : Option α) : Option (Int × M × VectorImpl) :=
  let i := indexOf b doCompare m v item
  if i ≥ 0 then
    (v.removeItemsAt b t m i.toNat 1).map fun (_, m, v) => (i, m, v)
  else some (i, m, v)

end SortedVectorImpl

/-- What is done with a sorted vector; the rest it has from `VectorImpl`. -/
inductive SortedOp (ι α : Type)
  | base (op : VectorOp ι α)
  | add (item : α)
  | merge (vector : ι)
  | mergeSorted (vector : ι)
  | remove (item : α)

namespace Vectors
variable {M ι α : Type} [DecidableEq ι] (b : SharedBuffers M α) (t : Traits α)
  (doCompare : Option α → Option α → Int)

def sortedCall (w : Vectors M ι) (i : ι) (op : SortedOp ι α) : Option (Int × Vectors M ι) :=
  let v := w.vector i
  let returns (done : Option (Int × M × VectorImpl)) :=
    done.map fun (result, m, v) => (result, w.set i m v)
  match op with
  | .base op => w.call b t i op
  | .add item => returns (SortedVectorImpl.add b t doCompare w.mem v (some item))
  | .merge vector => returns (SortedVectorImpl.merge b t doCompare w.mem v (w.vector vector))
  | .mergeSorted vector =>
      returns (SortedVectorImpl.mergeSorted b t doCompare w.mem v (w.vector vector))
  | .remove item => returns (SortedVectorImpl.remove b t doCompare w.mem v (some item))

/-- The items that have a value. -/
def items (w : Vectors M ι) (i : ι) : List α := (w.contents b i).reduceOption

end Vectors

/-- A call on one of the sorted vectors and its result. -/
structure SortedCall (ι α : Type) where
  i : ι
  op : SortedOp ι α
  result : Int

/-! What the calls are for -/

section Meaning
variable {α κ : Type} [LinearOrder κ] (key : α → κ)

/-- `doCompare` compares keys. -/
def Compares (doCompare : Option α → Option α → Int) : Prop :=
  ∀ x y, (doCompare (some x) (some y) < 0 ↔ key x < key y) ∧
    (doCompare (some x) (some y) = 0 ↔ key x = key y)

/-- The ends at which two sorted vectors may be put together. -/
def EndsApart (xs ys : List α) : Prop :=
  (∀ x ∈ xs.getLast?, ∀ y ∈ ys.head?, key x ≠ key y) ∧
    ∀ x ∈ xs.head?, ∀ y ∈ ys.getLast?, key x ≠ key y

/-- The calls that a sorted vector leaves to its callers, and what they see to: a vector is not
merged into itself, nor a sorted one into an empty one or where they have an end in common. -/
def SortedOp.Proper {M ι : Type} (w : Vectors M ι) (items : ι → List α) (i : ι) :
    SortedOp ι α → Prop
  | .base (.copy _) => (w.vector i).mStorage = none
  | .base (.assign _) | .base .finishVector | .base .clear => True
  | .base (.setCapacity newCapacity) => 2 * newCapacity ≤ sizeMax
  | .base (.removeItemsAt index count) => index + count ≤ sizeMax
  | .base _ => False
  | .add _ | .remove _ => True
  | .merge vector => vector ≠ i ∧ 2 * ((items i).length + (items vector).length) ≤ sizeMax
  | .mergeSorted vector => vector ≠ i ∧
      2 * ((items i).length + (items vector).length) ≤ sizeMax ∧
      (items vector ≠ [] → items i ≠ []) ∧
      EndsApart key (items i) (items vector)

/-- The first items of `new` are put into the map `xs`, those of equal key replacing each other. -/
def Merged (new xs : List α) (k : κ) : Option α := (lookup key new.reverse k).or (lookup key xs k)

/-- Items are merged up to the one for which there is no memory. -/
def StuckMerge (stuck : Nat → Prop) (new xs xs' : List α) : Prop :=
  ∃ n, n < new.length ∧ stuck n ∧ lookup key xs' = Merged key (new.take n) xs

/-- The meaning of a call on a sorted vector with the items `xs`; `short` tells for which buffers
there is no memory, and `stuck` after how many items of another vector there is none. -/
def SortedOp.Acts {ι : Type} (t : Traits α) (short : Nat → Prop) (stuck : ι → Nat → Prop)
    (items : ι → List α) (xs : List α) (result : Int) (xs' : List α) : SortedOp ι α → Prop
  | .base op => op.Acts t short (fun i => (items i).map some) (xs.map some) result (xs'.map some)
  | .add item => result = noMemory ∧ xs' = xs ∧ short (t.grown (xs.length + 1)) ∨
      0 ≤ result ∧ xs'[result.toNat]? = some item ∧
        lookup key xs' = Function.update (lookup key xs) (key item) (some item)
  | .merge vector => result = noMemory ∧ StuckMerge key (stuck vector) (items vector) xs xs' ∨
      0 ≤ result ∧ lookup key xs' = Merged key (items vector) xs
  | .mergeSorted vector => result = noMemory ∧
        (xs' = xs ∧ short (t.grown (xs.length + (items vector).length)) ∨
          StuckMerge key (stuck vector) (items vector) xs xs') ∨
      0 ≤ result ∧ lookup key xs' = Merged key (items vector) xs
  | .remove item => lookup key xs (key item) = none ∧ result = nameNotFound ∧ xs' = xs ∨
      (∃ (i : Nat) (x : α), xs[i]? = some x ∧ key x = key item ∧ result = i) ∧
        (xs' = xs ∧ short (t.shrunk (xs.length - 1)) ∨
          lookup key xs' = Function.update (lookup key xs) (key item) none)

/-- A call that does not end the process. -/
def SortedStep {M ι : Type} [DecidableEq ι] (b : SharedBuffers M α) (t : Traits α)
    (doCompare : Option α → Option α → Int) (w : Vectors M ι) (c : SortedCall ι α)
    (w' : Vectors M ι) : Prop :=
  (∀ i, 2 * (w.vector i).mCount ≤ sizeMax) ∧ c.op.Proper key w (w.items b) c.i ∧
    w.sortedCall b t doCompare c.i c.op = some (c.result, w')

end Meaning

end VibeXperia.Shims

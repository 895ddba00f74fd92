import VibeXperia.Lib.Sharing
import VibeXperia.Shims.Vector

namespace VibeXperia.Shims
open Lib

/-! ## Several vectors that share their buffers -/

/-- What is done with one vector; `ι` names the others. -/
inductive VectorOp (ι α : Type)
  | copy (rhs : ι)
  | assign (rhs : ι)
  | finishVector
  | setCapacity (newCapacity : Nat)
  | resize (size : Nat)
  | insertVectorAt (vector : ι) (index : Nat)
  | insertArrayAt (array : List α) (index : Nat)
  | insertAt (item : Option α) (index numItems : Nat)
  | add (item : Option α)
  | pop
  | replaceAt (prototype : Option α) (index : Nat)
  | removeItemsAt (index count : Nat)
  | clear
  | sort (cmp : Option α → Option α → Int) (mallocFails : Bool)

structure Vectors (M ι : Type) where
  mem : M
  vector : ι → VectorImpl

namespace Vectors
variable {M ι α : Type} [DecidableEq ι] (b : SharedBuffers M α) (t : Traits α)

def set (w : Vectors M ι) (i : ι) (m : M) (v : VectorImpl) : Vectors M ι :=
  ⟨m, Function.update w.vector i v⟩

/-- The result of a call is 0 where it has none. -/
def call (w : Vectors M ι) (i : ι) (op : VectorOp ι α) : Option (Int × Vectors M ι) :=
  let v := w.vector i
  let void (done : Option (M × VectorImpl)) := done.map fun (m, v) => ((0 : Int), w.set i m v)
  let returns (done : Option (Int × M × VectorImpl)) :=
    done.map fun (result, m, v) => (result, w.set i m v)
  match op with
  | .copy rhs => void (some (VectorImpl.copy b w.mem (w.vector rhs)))
  | .assign rhs => if i = rhs then some (0, w) else void (some (v.assign b t w.mem (w.vector rhs)))
  | .finishVector => void (some (v.finishVector b t w.mem))
  | .setCapacity newCapacity => returns (v.setCapacity b t w.mem newCapacity)
  | .resize size => returns (v.resize b t w.mem size)
  | .insertVectorAt vector index => returns (v.insertVectorAt b t w.mem (w.vector vector) index)
  | .insertArrayAt array index =>
      returns (v.insertArrayAt b t w.mem (.elsewhere array) index array.length)
  | .insertAt item index numItems => returns (v.insertAt b t w.mem item index numItems)
  | .add item => returns (v.add b t w.mem item)
  | .pop => void (v.pop b t w.mem)
  | .replaceAt prototype index => returns (v.replaceAt b t w.mem prototype index)
  | .removeItemsAt index count => returns (v.removeItemsAt b t w.mem index count)
  | .clear => void (v.clear b t w.mem)
  | .sort cmp mallocFails => returns (v.sort b t cmp w.mem mallocFails)

def contents (w : Vectors M ι) (i : ι) : List (Option α) := (w.vector i).contents b w.mem

end Vectors

/-- A call on one of the vectors and its result. -/
structure VectorCall (ι α : Type) where
  i : ι
  op : VectorOp ι α
  result : Int

/-- What the callers see to: the copy constructor is called on no vector that exists, no vector is
inserted into itself, no sum of sizes wraps and all sizes are less than the greatest `ssize_t`. -/
def VectorOp.Proper {M ι α : Type} (w : Vectors M ι) (i : ι) : VectorOp ι α → Prop
  | .copy _ => (w.vector i).mStorage = none
  | .insertVectorAt vector _ => vector ≠ i
  | .removeItemsAt index count => index + count ≤ sizeMax
  | .resize size => 2 * size ≤ sizeMax
  | .setCapacity newCapacity => 2 * newCapacity ≤ sizeMax
  | _ => True

/-- The bytes for a vector that has grown to `count` items do not fit a size. -/
def Traits.TooMany {α : Type} (t : Traits α) (count : Nat) : Prop :=
  sizeMax < (count + count / 2 + 1) * t.mItemSize

/-- The call is for more items than there can be. -/
def VectorOp.Exceeds {M ι α : Type} (t : Traits α) (w : Vectors M ι) (i : ι) :
    VectorOp ι α → Prop
  | .setCapacity newCapacity => sizeMax < newCapacity * t.mItemSize
  | .resize size => (w.vector i).mCount < size ∧ t.TooMany size
  | .insertVectorAt vector _ => t.TooMany ((w.vector i).mCount + (w.vector vector).mCount)
  | .insertArrayAt array _ => t.TooMany ((w.vector i).mCount + array.length)
  | .insertAt _ _ numItems => t.TooMany ((w.vector i).mCount + numItems)
  | .add _ => t.TooMany ((w.vector i).mCount + 1)
  | _ => False

/-- A call that does not end the process. -/
def VectorStep {M ι α : Type} [DecidableEq ι] (b : SharedBuffers M α) (t : Traits α)
    (w : Vectors M ι) (c : VectorCall ι α) (w' : Vectors M ι) : Prop :=
  (∀ i, 2 * (w.vector i).mCount ≤ sizeMax) ∧ c.op.Proper w c.i ∧
    w.call b t c.i c.op = some (c.result, w')

/-! ## What the calls are for -/

section Meaning
variable {α : Type}

/-- As many items as are constructed or copied from `item`. -/
def Made (t : Traits α) (item : Option α) (numItems : Nat) (new : List (Option α)) : Prop :=
  match item with
  | some x => new = List.replicate numItems (some x)
  | none => new.length = numItems ∧
      (t.hasTrivialCtor = false → new = List.replicate numItems (some t.initial))

/-- `new` is inserted into `l`. When there is no memory for the buffer that has grown, nothing
happens; nor can nothing be inserted at the end of the memory. -/
def Inserted (t : Traits α) (short : Nat → Prop) (index : Nat) (new l : List (Option α))
    (result : Int) (l' : List (Option α)) : Prop :=
  if l.length < index then result = badIndex ∧ l' = l
  else result = index ∧ l' = l.take index ++ new ++ l.drop index ∨
    result = noMemory ∧ l' = l ∧ (short (t.grown (l.length + new.length)) ∨ new = [])

/-- Without memory for the smaller buffer the items stay. -/
def Removed (t : Traits α) (short : Nat → Prop) (index count : Nat) (l l' : List (Option α)) :
    Prop :=
  l' = l.take index ++ l.drop (index + count) ∨ l' = l ∧ short (t.shrunk (l.length - count))

/-- The order of `cmp`. -/
def notGreater (cmp : Option α → Option α → Int) (x y : Option α) : Bool := decide (cmp x y ≤ 0)

/-- The meaning of a call on a vector with the items `l`, those of all vectors being `items`;
`short` tells for which buffers there is no memory. -/
def VectorOp.Acts {ι : Type} (t : Traits α) (short : Nat → Prop) (items : ι → List (Option α))
    (l : List (Option α)) (result : Int) (l' : List (Option α)) : VectorOp ι α → Prop
  | .copy rhs | .assign rhs => result = 0 ∧ l' = items rhs
  | .finishVector => result = 0 ∧ l' = []
  | .setCapacity newCapacity => l' = l ∧
      (l.length < newCapacity → result = newCapacity ∨
        result = noMemory ∧ short (newCapacity * t.mItemSize))
  | .resize size =>
      if l.length < size then
        ∃ new, Made t none (size - l.length) new ∧
          (result = size ∧ l' = l ++ new ∨ result = noMemory ∧ l' = l ∧ short (t.grown size))
      else result = size ∧ Removed t short size (l.length - size) l l'
  | .insertVectorAt vector index => Inserted t short index (items vector) l result l'
  | .insertArrayAt array index => Inserted t short index (array.map some) l result l'
  | .insertAt item index numItems =>
      ∃ new, Made t item numItems new ∧ Inserted t short index new l result l'
  | .add item => ∃ new, Made t item 1 new ∧ Inserted t short l.length new l result l'
  | .pop => result = 0 ∧ Removed t short (l.length - 1) 1 l l'
  | .replaceAt prototype index =>
      if l.length ≤ index then result = badIndex ∧ l' = l
      else ∃ x, Made t prototype 1 [x] ∧ result = index ∧ l' = l.set index x
  | .removeItemsAt index count =>
      if l.length < index + count then result = badValue ∧ l' = l
      else result = index ∧ Removed t short index count l l'
  | .clear => result = 0 ∧ Removed t short 0 l.length l l'
  | .sort cmp mallocFails => result = noMemory ∧ l' = l ∧ mallocFails ∨
      result = noError ∧ l'.Perm l ∧
        (WeakOrder (notGreater cmp) → l' = l.mergeSort (notGreater cmp))

end Meaning

end VibeXperia.Shims

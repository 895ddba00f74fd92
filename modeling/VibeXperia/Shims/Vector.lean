import VibeXperia.Lib.StableSort
import VibeXperia.Lib.Run

namespace VibeXperia.Shims
open Lib

/-! ## What the vectors are built on -/

abbrev Addr := Nat

/-- Of `SharedBuffer.h` and of the memory that it manages: `load` and `store` access the items of a
buffer by their place. -/
structure SharedBuffers (M α : Type) where
  alloc : M → Nat → Option Addr × M
  acquire : M → Addr → M
  /-- With `eKeepStorage`; the result is the number of references before. -/
  release : M → Addr → Nat × M
  dealloc : M → Addr → M
  attemptEdit : M → Addr → Option Addr
  editResize : M → Addr → Nat → Option Addr × M
  size : M → Addr → Nat
  load : M → Addr → Nat → Option α
  store : M → Addr → (Nat → Option α) → M

/-- A buffer: its references, its bytes and its items. Where there is no item, or one whose value is
indeterminate, is `none`. -/
structure Block (α : Type) where
  refs : Nat
  size : Nat
  items : Nat → Option α

/-- There is no memory for a buffer of `size` bytes that takes the place of the storage. -/
def SharedBuffers.Short {M α : Type} (b : SharedBuffers M α) (m : M) (mStorage : Option Addr)
    (size : Nat) : Prop :=
  (b.alloc m size).1 = none ∨ ∃ a, mStorage = some a ∧ (b.editResize m a size).1 = none

/-- The storage has several owners, and there is no memory for a copy. -/
def SharedBuffers.Uncopied {M α : Type} (b : SharedBuffers M α) (m : M)
    (mStorage : Option Addr) : Prop :=
  ∃ a, mStorage = some a ∧ b.attemptEdit m a = none ∧ (b.alloc m (b.size m a)).1 = none

/-- The items of the first `size` bytes. -/
def Block.upTo {α : Type} (block : Block α) (itemSize size : Nat) : Nat → Option α := fun k =>
  if (k + 1) * itemSize ≤ size then block.items k else none

/-- What `SharedBuffer.h` says of the buffers, which `look` shows in a memory. -/
structure SharedBuffers.Documented {M α : Type} (b : SharedBuffers M α) (itemSize : Nat)
    (look : M → Addr → Option (Block α)) : Prop where
  load : ∀ m a block, look m a = some block → b.load m a = block.items
  size : ∀ m a block, look m a = some block → b.size m a = block.size
  store : ∀ m a block items, look m a = some block →
    look (b.store m a items) = Function.update (look m) a (some { block with items := items })
  alloc : ∀ m n m' a, b.alloc m n = (some a, m') → look m a = none ∧
    look m' = Function.update (look m) a (some ⟨1, n, fun _ => none⟩)
  allocFails : ∀ m n m', b.alloc m n = (none, m') → look m' = look m
  acquire : ∀ m a block, look m a = some block →
    look (b.acquire m a) = Function.update (look m) a (some { block with refs := block.refs + 1 })
  release : ∀ m a block, look m a = some block → (b.release m a).1 = block.refs ∧
    look (b.release m a).2 =
      Function.update (look m) a (some { block with refs := block.refs - 1 })
  dealloc : ∀ m a, look (b.dealloc m a) = Function.update (look m) a none
  attemptEdit : ∀ m a block, look m a = some block →
    b.attemptEdit m a = if block.refs = 1 then some a else none
  /-- The only owner's buffer may move; the buffer of several is left to the others. -/
  editResize : ∀ m a block n m' a', look m a = some block → b.editResize m a n = (some a', m') →
    (a' = a ∧ block.refs = 1 ∨ look m a' = none) ∧
    look m' = Function.update (Function.update (look m) a
      (if block.refs = 1 then none else some { block with refs := block.refs - 1 })) a'
      (some ⟨1, n, block.upTo itemSize (min n block.size)⟩)
  editResizeFails : ∀ m a n m', b.editResize m a n = (none, m') → look m' = look m

/-! ## `VectorImpl.cpp` -/

def noError : Int := 0
def noMemory : Int := -12
def badIndex : Int := -75
def badValue : Int := -22
def nameNotFound : Int := -2

/-- Of `size_t`. -/
def sizeMax : Nat := 4294967295

/-- A `size_t` as `ssize_t`. -/
def ssize (n : Nat) : Int := Int.bmod n (sizeMax + 1)

def kMinVectorCapacity : Nat := 4

/-- `mItemSize`, `mFlags` and what `do_construct` puts in place, which all vectors of one element
type share. -/
structure Traits (α : Type) where
  mItemSize : Nat
  hasTrivialCtor : Bool
  hasTrivialDtor : Bool
  hasTrivialCopy : Bool
  initial : α

/-- The bytes of the buffer that `_grow` asks for when there are to be `count` items. -/
def Traits.grown {α : Type} (t : Traits α) (count : Nat) : Nat :=
  max kMinVectorCapacity (count + count / 2 + 1) * t.mItemSize

/-- The bytes of the smaller buffer that `_shrink` asks for. -/
def Traits.shrunk {α : Type} (t : Traits α) (count : Nat) : Nat :=
  max kMinVectorCapacity (count * 2) * t.mItemSize

structure VectorImpl where
  mStorage : Option Addr
  mCount : Nat
  deriving DecidableEq, Repr

/-- Where the items of `insertArrayAt` are. -/
inductive ItemArray (α : Type)
  | elsewhere (items : List α)
  | vector (v : VectorImpl)

/-! What is done with `num` items, the first at place `first` -/

section Items
variable {α : Type} (t : Traits α) (items : Nat → Option α) (first num : Nat)

def fill (x : α) : Nat → Option α := fun k =>
  if first ≤ k ∧ k < first + num then some x else items k

def doConstruct : Nat → Option α :=
  if t.hasTrivialCtor then items else fill items first num t.initial

def doDestroy : Nat → Option α :=
  if t.hasTrivialDtor then items else fun k => if first ≤ k ∧ k < first + num then none else items k

def doCopy (source : Nat → Option α) (start : Nat) : Nat → Option α := fun k =>
  if first ≤ k ∧ k < first + num then source (start + (k - first)) else items k

/-- `do_move_forward` and `do_move_backward`: nothing is left where the items come from. -/
def doMove (start : Nat) : Nat → Option α := fun k =>
  if first ≤ k ∧ k < first + num then items (start + (k - first))
  else if start ≤ k ∧ k < start + num then none
  else items k

end Items

namespace VectorImpl
variable {M α : Type} (b : SharedBuffers M α) (t : Traits α)

def empty : VectorImpl := ⟨none, 0⟩

/-- The items at `arrayImpl()`. -/
def arrayImpl (m : M) (v : VectorImpl) : Nat → Option α :=
  match v.mStorage with
  | some a => b.load m a
  | none => fun _ => none

def capacity (m : M) (v : VectorImpl) : Nat :=
  match v.mStorage with
  | some a => b.size m a / t.mItemSize
  | none => 0

def releaseStorage (m : M) (v : VectorImpl) : M :=
  match v.mStorage with
  | some a =>
      let (previous, m) := b.release m a
      if previous = 1 then b.dealloc (b.store m a (doDestroy t (b.load m a) 0 v.mCount)) a else m
  | none => m

/-- `none` where `LOG_ALWAYS_FATAL_IF` ends the process, here and below. -/
def editArrayImpl (m : M) (v : VectorImpl) : Option (M × VectorImpl) :=
  match v.mStorage with
  | none => some (m, v)
  | some a =>
      match b.attemptEdit m a with
      | some _ => some (m, v)
      | none =>
          match b.alloc m (b.size m a) with
          | (none, _) => none
          | (some editable, m) =>
              let m := b.store m editable (doCopy (b.load m editable) 0 v.mCount (b.load m a) 0)
              some (v.releaseStorage b t m, { v with mStorage := some editable })

def edit (m : M) (v : VectorImpl) (change : (Nat → Option α) → Nat → Option α) : M :=
  match v.mStorage with
  | some a => b.store m a (change (b.load m a))
  | none => m

/-- Whether `itemLocation(index)` is not null. -/
def located (m : M) (v : VectorImpl) (index : Nat) : Bool :=
  index < v.capacity b t m && v.mStorage.isSome

/-- A new buffer of `size` bytes takes the place of the storage, with the items that `make` builds
from those of the new buffer and of the old. -/
def replaceStorage (m : M) (v : VectorImpl) (size : Nat)
    (make : (Nat → Option α) → (Nat → Option α) → Nat → Option α) : M × Option VectorImpl :=
  match b.alloc m size with
  | (none, m) => (m, none)
  | (some array, m) =>
      let m := b.store m array (make (b.load m array) (v.arrayImpl b m))
      (v.releaseStorage b t m, some { v with mStorage := some array })

/-- `editResize` of the storage. -/
def resizeStorage (m : M) (v : VectorImpl) (size : Nat) : M × Option VectorImpl :=
  match v.mStorage with
  | some a =>
      match b.editResize m a size with
      | (some sb, m) => (m, some { v with mStorage := some sb })
      | (none, m) => (m, none)
  | none => (m, none)

def trivially : Bool := t.hasTrivialCopy && t.hasTrivialDtor

/-- The result tells whether the location that is returned is not null. -/
def grow (m : M) (v : VectorImpl) (place amount : Nat) : Option (Bool × M × VectorImpl) :=
  let newSize := v.mCount + amount
  if newSize > sizeMax then none
  else if v.capacity b t m < newSize then
    let newCapacity := newSize + newSize / 2
    if newCapacity > sizeMax then none
    else if newCapacity + 1 > sizeMax then none
    else
      let newCapacity := max kMinVectorCapacity (newCapacity + 1)
      let newAllocSize := newCapacity * t.mItemSize
      if newAllocSize > sizeMax then none
      else
        let (m, grown) :=
          if v.mStorage.isSome && v.mCount = place && trivially t then
            v.resizeStorage b m newAllocSize
          else
            v.replaceStorage b t m newAllocSize fun array old =>
              doCopy (doCopy array 0 place old 0) (place + amount) (v.mCount - place) old place
        match grown with
        | none => some (false, m, v)
        | some v =>
            let v := { v with mCount := newSize }
            some (v.located b t m place, m, v)
  else
    match v.editArrayImpl b t m with
    | none => none
    | some (m, v) =>
        let m := if place ≠ v.mCount then
          v.edit b m fun items => doMove items (place + amount) (v.mCount - place) place
        else m
        let v := { v with mCount := newSize }
        some (v.located b t m place, m, v)

def shrink (m : M) (v : VectorImpl) (place amount : Nat) : Option (M × VectorImpl) :=
  if v.mStorage.isNone then some (m, v)
  else if v.mCount < amount then none
  else
    let newSize := v.mCount - amount
    if newSize < v.capacity b t m / 2 then
      let newCapacity := max kMinVectorCapacity (newSize * 2)
      let newAllocSize := newCapacity * t.mItemSize % (sizeMax + 1)
      let (m, shrunk) :=
        if place = newSize && trivially t then v.resizeStorage b m newAllocSize
        else
          v.replaceStorage b t m newAllocSize fun array old =>
            doCopy (doCopy array 0 place old 0) place (newSize - place) old (place + amount)
      match shrunk with
      | none => some (m, v)
      | some v => some (m, { v with mCount := newSize })
    else
      match v.editArrayImpl b t m with
      | none => none
      | some (m, v) =>
          let m := v.edit b m fun items => doDestroy t items place amount
          let m := if place ≠ newSize then
            v.edit b m fun items => doMove items place (newSize - place) (place + amount)
          else m
          some (m, { v with mCount := newSize })

/-- The copy constructor. -/
def copy (m : M) (rhs : VectorImpl) : M × VectorImpl :=
  match rhs.mStorage with
  | some a => (b.acquire m a, rhs)
  | none => (m, rhs)

/-- `operator =` where the right side is another vector. -/
def assign (m : M) (v rhs : VectorImpl) : M × VectorImpl :=
  let m := v.releaseStorage b t m
  if rhs.mCount ≠ 0 then copy b m rhs else (m, empty)

def finishVector (m : M) (v : VectorImpl) : M × VectorImpl := (v.releaseStorage b t m, empty)

def readArray (m : M) : ItemArray α → Nat → Option α
  | .elsewhere items => fun k => items[k]?
  | .vector v => v.arrayImpl b m

/-- What the insertions share: the place is found and then changed. -/
def inserting (m : M) (v : VectorImpl) (index amount : Nat)
    (change : M → (Nat → Option α) → Nat → Option α) : Option (Int × M × VectorImpl) :=
  if index > v.mCount then some (badIndex, m, v)
  else
    match v.grow b t m index amount with
    | none => none
    | some (false, m, v) => some (noMemory, m, v)
    | some (true, m, v) => some (ssize index, v.edit b m (change m), v)

def insertArrayAt (m : M) (v : VectorImpl) (array : ItemArray α) (index length : Nat) :
    Option (Int × M × VectorImpl) :=
  v.inserting b t m index length fun m items => doCopy items index length (readArray b m array) 0

def insertVectorAt (m : M) (v vector : VectorImpl) (index : Nat) : Option (Int × M × VectorImpl) :=
  v.insertArrayAt b t m (.vector vector) index vector.mCount

/-- Without an item, items are constructed. -/
def put (item : Option α) (first num : Nat) (items : Nat → Option α) : Nat → Option α :=
  match item with
  | some x => fill items first num x
  | none => doConstruct t items first num

def insertAt (m : M) (v : VectorImpl) (item : Option α) (index numItems : Nat) :
    Option (Int × M × VectorImpl) :=
  v.inserting b t m index numItems fun _ => put t item index numItems

def editItemLocation (m : M) (v : VectorImpl) (index : Nat) : Option (Bool × M × VectorImpl) :=
  if index < v.capacity b t m then
    match v.editArrayImpl b t m with
    | none => none
    | some (m, v) => some (v.mStorage.isSome, m, v)
  else some (false, m, v)

def replaceAt (m : M) (v : VectorImpl) (prototype : Option α) (index : Nat) :
    Option (Int × M × VectorImpl) :=
  if index ≥ v.mCount then some (badIndex, m, v)
  else
    match v.editItemLocation b t m index with
    | none => none
    | some (false, m, v) => some (if prototype.isNone then ssize index else noMemory, m, v)
    | some (true, m, v) =>
        let m := v.edit b m fun items => doDestroy t items index 1
        some (ssize index, v.edit b m (put t prototype index 1), v)

/-- The sum of two sizes wraps. -/
def removeItemsAt (m : M) (v : VectorImpl) (index count : Nat) : Option (Int × M × VectorImpl) :=
  if (index + count) % (sizeMax + 1) > v.mCount then some (badValue, m, v)
  else (v.shrink b t m index count).map fun (m, v) => (ssize index, m, v)

def clear (m : M) (v : VectorImpl) : Option (M × VectorImpl) := v.shrink b t m 0 v.mCount

def add (m : M) (v : VectorImpl) (item : Option α) : Option (Int × M × VectorImpl) :=
  v.insertAt b t m item v.mCount 1

def pop (m : M) (v : VectorImpl) : Option (M × VectorImpl) :=
  if v.mCount ≠ 0 then (v.removeItemsAt b t m (v.mCount - 1) 1).map Prod.snd else some (m, v)

def setCapacity (m : M) (v : VectorImpl) (newCapacity : Nat) : Option (Int × M × VectorImpl) :=
  if newCapacity ≤ v.mCount then some (ssize (v.capacity b t m), m, v)
  else if newCapacity * t.mItemSize > sizeMax then none
  else
    match v.replaceStorage b t m (newCapacity * t.mItemSize) fun array old =>
      doCopy array 0 v.mCount old 0 with
    | (m, none) => some (noMemory, m, v)
    | (m, some v) => some (ssize newCapacity, m, v)

def resize (m : M) (v : VectorImpl) (size : Nat) : Option (Int × M × VectorImpl) :=
  let resized := if size > v.mCount then v.insertAt b t m none v.mCount (size - v.mCount)
    else if size < v.mCount then v.removeItemsAt b t m size (v.mCount - size)
    else some (noError, m, v)
  resized.map fun (result, m, v) => (if result < 0 then result else ssize size, m, v)

/-! ### `sort` -/

section Sorting
variable (cmp : Option α → Option α → Int)

/-- The inner loop, which moves the item in front of `next` behind it. -/
def shift (temp : Option α) : (Nat → Option α) → Nat → (Nat → Option α) × Nat
  | array, 0 => (array, 0)
  | array, next + 1 =>
      let array := Function.update array (next + 1) (array next)
      if 0 < next && cmp (array (next - 1)) temp > 0 then shift temp array next else (array, next)

def sortItem (array : Nat → Option α) (i : Nat) : Nat → Option α :=
  if cmp (array (i - 1)) (array i) > 0 then
    let (shifted, next) := shift cmp (array i) array i
    Function.update shifted next (array i)
  else array

/-- The first item that is not in order behind those before it. -/
def firstUnsorted (array : Nat → Option α) (i : Nat) : Nat → Option Nat
  | 0 => none
  | left + 1 =>
      if cmp (array (i - 1)) (array i) > 0 then some i else firstUnsorted array (i + 1) left

/-- The outer loop, from item `i` on and for as many as are left. -/
def sortItems (array : Nat → Option α) (i : Nat) : Nat → Nat → Option α
  | 0 => array
  | left + 1 => sortItems (sortItem cmp array i) (i + 1) left

def sort (m : M) (v : VectorImpl) (mallocFails : Bool) : Option (Int × M × VectorImpl) :=
  if ssize v.mCount > 1 then
    match firstUnsorted cmp (v.arrayImpl b m) 1 (v.mCount - 1) with
    | none => some (noError, m, v)
    | some i =>
        match v.editArrayImpl b t m with
        | none => none
        | some (m, v) =>
            if v.mStorage.isNone || mallocFails then some (noMemory, m, v)
            else some (noError, v.edit b m fun array => sortItems cmp array i (v.mCount - i), v)
  else some (noError, m, v)

end Sorting

/-- The items of a vector. -/
def contents (m : M) (v : VectorImpl) : List (Option α) :=
  (List.range v.mCount).map (v.arrayImpl b m)

end VectorImpl

end VibeXperia.Shims

import VibeXperia.Lib.Region
import VibeXperia.Lib.Run
import Mathlib.Logic.Function.Basic
import Mathlib.Algebra.Ring.Int.Defs
import Mathlib.Algebra.Ring.Nat

namespace VibeXperia.Shims
open Lib

/-- The numbers of both kinds are of type `int`. -/
structure NativeHandle where
  fds : List (BitVec 32)
  ints : List (BitVec 32)
  deriving DecidableEq, Repr

namespace NativeHandle
variable (h : NativeHandle)

def numFds : BitVec 32 := BitVec.ofNat 32 h.fds.length

def numInts : BitVec 32 := BitVec.ofNat 32 h.ints.length

end NativeHandle

inductive Status
  | noError
  | noMemory
  | badType
  | badValue
  | invalidOperation
  /-- An error of the gralloc module. -/
  | failed (err : Int)
  deriving DecidableEq, Repr

/-! ## `GraphicBuffer.cpp`: flattening -/

/-- Of a buffer, what is flattened. -/
structure Image where
  width : BitVec 32
  height : BitVec 32
  stride : BitVec 32
  format : BitVec 32
  usage : BitVec 32
  handle : Option NativeHandle
  deriving DecidableEq, Repr

def Image.blank : Image := ⟨0, 0, 0, 0, 0, none⟩

/-- The memory at `buffer`, in units of an `int`, and that at `fds`. -/
structure Parcel where
  ints : Nat → BitVec 32
  fds : Nat → BitVec 32

/-- `size` is in bytes. -/
structure Cursor where
  buffer : Nat
  size : Nat
  fds : Nat
  count : Nat
  deriving DecidableEq, Repr

def gbfr : BitVec 32 := 0x47424652#32

namespace Image
variable (x : Image)

def numFds : Nat := (x.handle.map fun h => h.fds.length).getD 0

def numInts : Nat := (x.handle.map fun h => h.ints.length).getD 0

def getFlattenedSize : Nat := (8 + x.numInts) * 4 % 2 ^ 32

def getFdCount : Nat := x.numFds

/-- The pointer `buffer` is moved by as many `int`s as `sizeNeeded` has bytes. -/
def advance (c : Cursor) (sizeNeeded fdCountNeeded : Nat) : Cursor :=
  ⟨c.buffer + sizeNeeded, c.size - sizeNeeded, c.fds + fdCountNeeded, c.count - fdCountNeeded⟩

def words : List (BitVec 32) :=
  [gbfr, x.width, x.height, x.stride, x.format, x.usage,
    (x.handle.map NativeHandle.numFds).getD 0, (x.handle.map NativeHandle.numInts).getD 0] ++
      (x.handle.map NativeHandle.ints).getD []

def flatten (p : Parcel) (c : Cursor) : Status × Parcel × Cursor :=
  let sizeNeeded := x.getFlattenedSize
  if c.size < sizeNeeded then (.noMemory, p, c)
  else
    let fdCountNeeded := x.getFdCount
    if c.count < fdCountNeeded then (.noMemory, p, c)
    else
      (.noError,
        { ints := store p.ints c.buffer x.words
          fds := store p.fds c.fds ((x.handle.map NativeHandle.fds).getD []) },
        advance c sizeNeeded fdCountNeeded)

end Image

/-! ## `GraphicBufferAllocator.cpp` -/

/-- What the headers of the platform say of formats and usages. -/
structure Gralloc where
  bytesPerPixel : BitVec 32 → Int
  allocMask : BitVec 32

structure AllocRec where
  width : BitVec 32
  height : BitVec 32
  stride : BitVec 32
  format : BitVec 32
  usage : BitVec 32
  size : BitVec 32
  deriving DecidableEq, Repr

/-- What the device answers to `alloc`. -/
inductive AllocAnswer
  | fails (err : Int)
  | gives (handle : NativeHandle) (stride : BitVec 32)
  deriving DecidableEq, Repr

inductive GraphicsEffect
  /-- The device allocates a handle. -/
  | allocates (handle : Nat) (width height format usage : BitVec 32)
  /-- The device is asked to free a handle. -/
  | frees (handle : Nat)
  /-- `native_handle_create` -/
  | creates (handle : Nat)
  | registers (handle : Nat)
  | unregisters (handle : Nat)
  /-- `native_handle_close` and `native_handle_delete` -/
  | closes (handle : Nat)
  | returns (status : Status)
  deriving DecidableEq, Repr

/-! ## `GraphicBuffer.cpp`: handles -/

inductive Owner
  | ownNone | ownHandle | ownData
  deriving DecidableEq, Repr

structure GraphicBuffer where
  width : BitVec 32
  height : BitVec 32
  stride : BitVec 32
  format : BitVec 32
  usage : BitVec 32
  handle : Option Nat
  mOwner : Owner
  mInitCheck : Status
  deriving DecidableEq, Repr

/-- The buffers and the handles that exist. Handles are named in the order in which they are
made. -/
structure Graphics (ι : Type*) where
  buffer : ι → Option GraphicBuffer
  native : Nat → Option NativeHandle
  next : Nat
  sAllocList : Nat → Option AllocRec

inductive GraphicsStep (ι : Type*)
  /-- A handle that somebody else makes. -/
  | foreign (handle : NativeHandle)
  | create (i : ι)
  | createSized (i : ι) (inWidth inHeight inFormat inUsage : BitVec 32) (answer : AllocAnswer)
  | createFrom (i : ι) (inWidth inHeight inFormat inUsage inStride : BitVec 32)
      (inHandle : Option Nat) (keepOwnership : Bool)
  | wrap (i : ι) (buffer : ι) (keepOwnership : Bool)
  | reallocate (i : ι) (inWidth inHeight inFormat inUsage : BitVec 32) (freed : Bool)
      (answer : AllocAnswer)
  /-- `registers` is what `registerBuffer` returns. -/
  | unflatten (i : ι) (p : Parcel) (c : Cursor) (creates freed : Bool) (registers : Int)
  | destroy (i : ι) (freed : Bool)

namespace GraphicBuffer

/-- `GraphicBuffer::GraphicBuffer()` -/
def empty : GraphicBuffer := ⟨0, 0, 0, 0, 0, none, .ownData, .noError⟩

def cleared (g : GraphicBuffer) : GraphicBuffer :=
  { g with width := 0, height := 0, stride := 0, format := 0, usage := 0, handle := none }

end GraphicBuffer

namespace Graphics
variable {ι : Type*} [DecidableEq ι] (gralloc : Gralloc) (s : Graphics ι)

def initial : Graphics ι := ⟨fun _ => none, fun _ => none, 0, fun _ => none⟩

def set (i : ι) (g : GraphicBuffer) : Graphics ι :=
  { s with buffer := Function.update s.buffer i (some g) }

def image (g : GraphicBuffer) : Image :=
  ⟨g.width, g.height, g.stride, g.format, g.usage, g.handle.bind s.native⟩

/-- A new handle. -/
def made (handle : NativeHandle) : Graphics ι :=
  { s with native := Function.update s.native s.next (some handle), next := s.next + 1 }

/-- `GraphicBufferAllocator::alloc` -/
def alloc (width height format usage : BitVec 32) (answer : AllocAnswer) :
    Status × Option (Nat × BitVec 32) × Graphics ι × List GraphicsEffect :=
  let (width, height) := if width = 0 ∨ height = 0 then (1, 1) else (width, height)
  let usage := usage &&& gralloc.allocMask
  match answer with
  | .fails err => (.failed err, none, s, [])
  | .gives handle stride =>
      let bpp := gralloc.bytesPerPixel format
      let bpp := if bpp < 0 then 0 else bpp
      let size := height * stride * BitVec.ofInt 32 bpp
      let rec' : AllocRec := ⟨width, height, stride, format, usage, size⟩
      (.noError, some (s.next, stride),
        { s.made handle with sAllocList := Function.update s.sAllocList s.next (some rec') },
        [.allocates s.next width height format usage])

/-- `GraphicBufferAllocator::free` -/
def free (handle : Nat) (freed : Bool) : Graphics ι × List GraphicsEffect :=
  (if freed then
      { s with
        native := Function.update s.native handle none
        sAllocList := Function.update s.sAllocList handle none }
    else s,
    [.frees handle])

/-- `GraphicBuffer::free_handle` -/
def freeHandle (g : GraphicBuffer) (handle : Nat) (freed : Bool) :
    Graphics ι × List GraphicsEffect :=
  match g.mOwner with
  | .ownHandle =>
      ({ s with native := Function.update s.native handle none },
        [.unregisters handle, .closes handle])
  | .ownData => s.free handle freed
  | .ownNone => (s, [])

/-- `if (handle) free_handle();` -/
def freeAny (g : GraphicBuffer) (freed : Bool) : Graphics ι × List GraphicsEffect :=
  match g.handle with
  | some handle => s.freeHandle g handle freed
  | none => (s, [])

def initSize (g : GraphicBuffer) (inWidth inHeight inFormat inUsage : BitVec 32)
    (answer : AllocAnswer) : Status × GraphicBuffer × Graphics ι × List GraphicsEffect :=
  match s.alloc gralloc inWidth inHeight inFormat inUsage answer with
  | (err, some (handle, outStride), s, effects) =>
      (err,
        { g with
          handle := some handle, width := inWidth, height := inHeight, format := inFormat
          usage := inUsage, stride := outStride },
        s, effects)
  | (err, none, s, effects) => (err, g, s, effects)

def reallocate (i : ι) (g : GraphicBuffer) (inWidth inHeight inFormat inUsage : BitVec 32)
    (freed : Bool) (answer : AllocAnswer) : Graphics ι × List GraphicsEffect :=
  if g.mOwner ≠ .ownData then (s, [.returns .invalidOperation])
  else if g.handle ≠ none ∧ inWidth = g.width ∧ inHeight = g.height ∧ inFormat = g.format ∧
      inUsage = g.usage then
    (s, [.returns .noError])
  else
    let (s, before) := s.freeAny g freed
    let (err, g, s, effects) :=
      s.initSize gralloc { g with handle := none } inWidth inHeight inFormat inUsage answer
    (s.set i g, before ++ effects ++ [.returns err])

/-- Beside the effects, where the reader is then. -/
def unflatten (i : ι) (g : GraphicBuffer) (p : Parcel) (c : Cursor) (creates freed : Bool)
    (registers : Int) : Graphics ι × Cursor × List GraphicsEffect :=
  let buf := fun k => p.ints (c.buffer + k)
  if c.size < 8 * 4 then (s, c, [.returns .noMemory])
  else if buf 0 ≠ gbfr then (s, c, [.returns .badType])
  else
    let numFds := (buf 6).toNat
    let numInts := (buf 7).toNat
    let maxNumber := 4096
    if numFds ≥ maxNumber ∨ numInts ≥ maxNumber - 10 then
      (s.set i g.cleared, c, [.returns .badValue])
    else
      let sizeNeeded := (8 + numInts) * 4
      if c.size < sizeNeeded then (s, c, [.returns .noMemory])
      else if c.count < numFds then (s, c, [.returns .noMemory])
      else
        let (s, before) := s.freeAny g freed
        if numFds ≠ 0 ∨ numInts ≠ 0 then
          if !creates then (s.set i g.cleared, c, before ++ [.returns .noMemory])
          else
            let h := s.next
            let s := s.made ⟨load p.fds c.fds numFds, load p.ints (c.buffer + 8) numInts⟩
            let before := before ++ [.creates h, .registers h]
            let g := { g with mOwner := .ownHandle }
            if registers ≠ 0 then
              (s.set i g.cleared, c, before ++ [.returns (.failed registers)])
            else
              (s.set i { g with
                width := buf 1, height := buf 2, stride := buf 3, format := buf 4, usage := buf 5
                handle := some h },
                Image.advance c sizeNeeded numFds, before ++ [.returns .noError])
        else
          (s.set i { g.cleared with mOwner := .ownHandle }, Image.advance c sizeNeeded numFds,
            before ++ [.returns .noError])

/-- An object is made where there is none, and everything else is called where there is one. -/
def step : GraphicsStep ι → Graphics ι × List GraphicsEffect
  | .foreign handle => (s.made handle, [])
  | .create i => if s.buffer i = none then (s.set i .empty, []) else (s, [])
  | .createSized i inWidth inHeight inFormat inUsage answer =>
      if s.buffer i = none then
        let (err, g, s, effects) :=
          s.initSize gralloc .empty inWidth inHeight inFormat inUsage answer
        (s.set i { g with mInitCheck := err }, effects)
      else (s, [])
  | .createFrom i inWidth inHeight inFormat inUsage inStride inHandle keepOwnership =>
      if s.buffer i = none then
        (s.set i ⟨inWidth, inHeight, inStride, inFormat, inUsage, inHandle,
          if keepOwnership then .ownHandle else .ownNone, .noError⟩, [])
      else (s, [])
  | .wrap i buffer keepOwnership =>
      match s.buffer i, s.buffer buffer with
      | none, some g =>
          (s.set i { g with
            mOwner := if keepOwnership then .ownHandle else .ownNone, mInitCheck := .noError }, [])
      | _, _ => (s, [])
  | .reallocate i inWidth inHeight inFormat inUsage freed answer =>
      match s.buffer i with
      | some g => s.reallocate gralloc i g inWidth inHeight inFormat inUsage freed answer
      | none => (s, [])
  | .unflatten i p c creates freed registers =>
      match s.buffer i with
      | some g =>
          let (s, _, effects) := s.unflatten i g p c creates freed registers
          (s, effects)
      | none => (s, [])
  | .destroy i freed =>
      match s.buffer i with
      | some g =>
          let (s, effects) := s.freeAny g freed
          ({ s with buffer := Function.update s.buffer i none }, effects)
      | none => (s, [])

end Graphics

end VibeXperia.Shims

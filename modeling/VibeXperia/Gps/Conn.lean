import VibeXperia.Gps.Framing
import VibeXperia.Lib.Run

namespace VibeXperia.Gps
open Lib

/-! ## `loc_eng_dmn_conn_glue_msg.c`: receives whose reads may come back short -/

/-- What a call of `read` comes to: it fails, or it takes what there is up to a number of bytes. -/
inductive PipeRead
  | fails
  | takes (most : Nat)
  deriving DecidableEq, Repr

/-- The result of `read`, the bytes that it read, and the pipe. -/
def pipereadShort (pipe : List UInt8) (read : PipeRead) (sz : BitVec 32) :
    Int × List UInt8 × List UInt8 :=
  match read with
  | .fails => (-1, [], pipe)
  | .takes most =>
      let len := min (min most sz.toNat) pipe.length
      (signed 32 len, pipe.take len, pipe.drop len)

/-- A call of `msgrcv`: the size of its buffer, which holds a length field, and its reads. -/
structure Receive where
  msgbufsz : BitVec 32
  holdsMsgsz : sizeofMsgsz ≤ msgbufsz.toNat
  first : PipeRead
  second : PipeRead

/-- Bytes that a read is asked for, and where in the buffer they go. -/
structure Asked where
  offset : Nat
  sz : BitVec 32
  deriving DecidableEq, Repr

structure Receipt where
  received : Received
  pipe : List UInt8
  asked : List Asked
  deriving DecidableEq, Repr

/-- `loc_eng_dmn_conn_glue_msgrcv` -/
def msgrcvShort (pipe : List UInt8) (call : Receive) : Receipt :=
  let field : Asked := ⟨0, 4⟩
  let (result, header, pipe) := pipereadShort pipe call.first field.sz
  if result ≠ sizeofMsgsz then ⟨.failed, pipe, [field]⟩
  else
    let msgsz := BitVec.ofNat 32 (decodeSize header)
    if call.msgbufsz < msgsz then ⟨.failed, pipe, [field]⟩
    else
      let payload : Asked := ⟨sizeofMsgsz, msgsz - 4⟩
      let (result, rest, pipe) := pipereadShort pipe call.second payload.sz
      if result ≠ payload.sz.toInt then ⟨.failed, pipe, [field, payload]⟩
      else ⟨.message msgsz.toInt (header ++ rest), pipe, [field, payload]⟩

/-- The daemon receives one message after the other; put out is what it asks for. -/
def receiveStep (pipe : List UInt8) (call : Receive) : List UInt8 × List Asked :=
  ((msgrcvShort pipe call).pipe, (msgrcvShort pipe call).asked)

def Asked.Inside (asked : Asked) (call : Receive) : Prop :=
  asked.offset + asked.sz.toNat ≤ call.msgbufsz.toNat

/-- A length field that is read whole is not smaller than itself. -/
def LengthHolds (pipe : List UInt8) (call : Receive) : Prop :=
  (∃ most, call.first = .takes most ∧ sizeofMsgsz ≤ most) → sizeofMsgsz ≤ pipe.length →
    sizeofMsgsz ≤ decodeSize (pipe.take sizeofMsgsz)

end VibeXperia.Gps

import VibeXperia.Lib.Counting

namespace VibeXperia.Gps
open Lib

/-! ## `loc_eng_dmn_conn_glue_pipe.c` -/

/-- A read that waits for all of its bytes, into memory of `room` bytes. There is no result as long
as some are missing, and none where they would be written behind the memory. -/
def piperead (pipe : List UInt8) (room sz : Nat) : Option (List UInt8 × List UInt8) :=
  if sz ≤ room ∧ sz ≤ pipe.length then some (pipe.take sz, pipe.drop sz) else none

def pipewrite (pipe buf : List UInt8) : Int × List UInt8 := (signed 32 buf.length, pipe ++ buf)

/-! ## `loc_eng_dmn_conn_glue_msg.c` -/

/-- `sizeof(pmsg->msgsz)` -/
def sizeofMsgsz : Nat := 4

/-- A `size_t` in memory, least byte first. -/
def encodeSize (n : Nat) : List UInt8 :=
  (List.range sizeofMsgsz).map fun i => UInt8.ofNat (n / 256 ^ i)

def decodeSize (bytes : List UInt8) : Nat := bytes.foldr (fun byte n => byte.toNat + 256 * n) 0

/-- The result, and the pipe. -/
def msgsnd (pipe msgp : List UInt8) (msgsz : Nat) : Int × List UInt8 :=
  let pmsg := encodeSize msgsz ++ msgp.drop sizeofMsgsz
  let (result, pipe) := pipewrite pipe (pmsg.take msgsz)
  (if result ≠ signed 32 msgsz then -1 else result, pipe)

inductive Received
  | message (result : Int) (msg : List UInt8)
  | failed
  deriving DecidableEq, Repr

/-- The size of a message is read into the buffer before it is compared with that of the buffer. -/
def msgrcv (pipe : List UInt8) (msgbufsz : Nat) : Option (Received × List UInt8) := do
  let (header, pipe) ← piperead pipe msgbufsz sizeofMsgsz
  let msgsz := decodeSize header
  if msgbufsz < msgsz then some (.failed, pipe)
  else
    let (rest, pipe) ← piperead pipe (msgbufsz - sizeofMsgsz)
      ((msgsz + 2 ^ 32 - sizeofMsgsz) % 2 ^ 32)
    some (.message (signed 32 msgsz) (header ++ rest), pipe)

/-! ## Messages on a pipe -/

/-- A message begins with its field `msgsz`, and one write can take it. -/
structure Message where
  bytes : List UInt8
  header : sizeofMsgsz ≤ bytes.length
  writable : bytes.length < 2 ^ 31

namespace Message
variable (m : Message)

def size : Nat := m.bytes.length

def payload : List UInt8 := m.bytes.drop sizeofMsgsz

def sent : List UInt8 := encodeSize m.size ++ m.payload

/-- What a receive of the message is to return. -/
def received (msgbufsz : Nat) : Received :=
  if m.size ≤ msgbufsz then .message m.size m.sent else .failed

end Message

inductive PipeEvent
  | msgsnd (m : Message)
  | msgrcv (msgbufsz : Nat)

/-- There is no result where a receive waits. -/
def pipeRun : List PipeEvent → List UInt8 → Option (List Received × List UInt8)
  | [], pipe => some ([], pipe)
  | .msgsnd m :: es, pipe => pipeRun es (msgsnd pipe m.bytes m.size).2
  | .msgrcv msgbufsz :: es, pipe => do
      let (r, pipe) ← msgrcv pipe msgbufsz
      let (rs, pipe) ← pipeRun es pipe
      some (r :: rs, pipe)

def messages : List PipeEvent → List Message
  | [] => []
  | .msgsnd m :: es => m :: messages es
  | .msgrcv _ :: es => messages es

def buffers : List PipeEvent → List Nat
  | [] => []
  | .msgsnd _ :: es => buffers es
  | .msgrcv msgbufsz :: es => msgbufsz :: buffers es

/-- Each receive comes after the send of its message; `n` messages are there already. -/
def timely : Nat → List PipeEvent → Bool
  | _, [] => true
  | n, .msgsnd _ :: es => timely (n + 1) es
  | n, .msgrcv _ :: es => 0 < n && timely (n - 1) es

def pairs (es : List PipeEvent) : List (Message × Nat) := (messages es).zip (buffers es)

def toReceive (es : List PipeEvent) : List Received := (pairs es).map fun p => p.1.received p.2

/-- The receives return their messages, or fail where they do not fit, and so do all later ones
whose messages fit. -/
def Framed (es : List PipeEvent) : Prop :=
  ∀ later, timely 0 (es ++ later) →
    (∀ p ∈ (pairs (es ++ later)).drop (buffers es).length, p.1.size ≤ p.2) →
      (pipeRun (es ++ later) []).map Prod.fst = some (toReceive (es ++ later))

end VibeXperia.Gps

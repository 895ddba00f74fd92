import Mathlib.Logic.Function.Basic

namespace VibeXperia.Gps

/-! ## `LocApiBase.cpp`: addresses of network-initiated requests -/

/-- Bytes with the index at which each is written, oldest first. -/
abbrev Writes := List (Nat × UInt8)

/-- What stands in `addr_string` after some writes. -/
def Writes.store (writes : Writes) (memory : Nat → UInt8) : Nat → UInt8 :=
  writes.foldl (fun memory write => Function.update memory write.1 write.2) memory

structure AddrString where
  writes : Writes
  idxOutput : Nat

/-- One half of a byte, which is a digit or nothing; also nothing where the string is full. -/
def AddrString.put (stringSize : Int) (nibble : UInt8) (out : AddrString) : AddrString :=
  if nibble ≤ 9 ∧ (out.idxOutput : Int) < stringSize - 1 then
    ⟨out.writes ++ [(out.idxOutput, nibble + 48)], out.idxOutput + 1⟩
  else out

/-- The body of the loop. -/
def AddrString.decode (stringSize : Int) (out : AddrString) (ch : UInt8) : AddrString :=
  (out.put stringSize (ch &&& 0x0F)).put stringSize (ch >>> 4)

/-- What is written to `addr_string`, and what is returned; nothing is known where there is no first
byte to look at. -/
def decodeAddress (stringSize : Int) (data : List UInt8) : Option (Writes × Nat) :=
  match data with
  | [] => none
  | first :: rest =>
      if first ≠ 0x91 then some ([(0, 0)], 0)
      else
        let out := rest.foldl (AddrString.decode stringSize) ⟨[], 0⟩
        some (out.writes ++ [(out.idxOutput, 0)], out.idxOutput)

/-! ## Addresses as they are sent -/

/-- Two digits to a byte, the first in its lower half; the upper half is filled up with ones. -/
def encodeDigits : List (Fin 10) → List UInt8
  | [] => []
  | [low] => [240 + UInt8.ofNat low]
  | low :: hi :: rest => (UInt8.ofNat hi * 16 + UInt8.ofNat low) :: encodeDigits rest

def encodeAddress (digits : List (Fin 10)) : List UInt8 := 0x91 :: encodeDigits digits

def digitByte (digit : Fin 10) : UInt8 := UInt8.ofNat digit + 48

/-- The string that begins at the start of the memory. -/
structure HoldsString (memory : Nat → UInt8) (text : List UInt8) : Prop where
  bytes : ∀ i (inside : i < text.length), memory i = text[i]
  terminated : memory text.length = 0
  nonzero : 0 ∉ text

end VibeXperia.Gps

import VibeXperia.Gps.Config
import VibeXperia.Lib.Buffer

namespace VibeXperia.Gps
open Lib

/-! ## `trim_space` in its buffer -/

/-- Pointers are places in the buffer; `written` has the places that were written to. -/
structure TrimPointers where
  buffer : Buffer
  scanPtr : Nat
  writePtr : Nat
  firstNonspace : Option Nat
  lastNonspace : Option Nat
  written : List Nat

namespace TrimPointers

/-- `*ptr = c` -/
def store (t : TrimPointers) (ptr : Nat) (c : Char) : Option TrimPointers :=
  (t.buffer.write ptr [c]).map fun buffer => { t with buffer, written := ptr :: t.written }

/-- The body of the loop, where `*scan_ptr` is `c`. -/
def body (t : TrimPointers) (c : Char) : Option TrimPointers :=
  let firstNonspace :=
    if isspace c = false ∧ t.firstNonspace = none then some t.scanPtr else t.firstNonspace
  if firstNonspace ≠ none then do
    let t ← t.store t.writePtr c
    let writePtr := t.writePtr + 1
    let lastNonspace := if isspace c then t.lastNonspace else some writePtr
    some { t with scanPtr := t.scanPtr + 1, writePtr, firstNonspace, lastNonspace }
  else some { t with scanPtr := t.scanPtr + 1, firstNonspace }

def loop : Nat → TrimPointers → Option TrimPointers
  | 0, _ => none
  | fuel + 1, t => do
      let c ← t.buffer[t.scanPtr]?
      if c.toNat = 0 then some t
      else do
        let t ← t.body c
        loop fuel t

end TrimPointers

/-- No string in the buffer has more bytes than the buffer. -/
def trimSpaceIn (orgString : Buffer) : Option TrimPointers := do
  let t ← TrimPointers.loop orgString.length ⟨orgString, 0, 0, none, none, []⟩
  match t.lastNonspace with
  | some lastNonspace => t.store lastNonspace '\x00'
  | none => some t

/-- The string is left without the spaces around it, and nothing is written behind its old end. -/
structure TrimsInPlace (text : CString) (t : TrimPointers) : Prop where
  string : cString t.buffer = trimmed text
  inside : ∀ place ∈ t.written, place ≤ text.length

end VibeXperia.Gps

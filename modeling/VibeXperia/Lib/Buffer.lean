import VibeXperia.Lib.Text

namespace VibeXperia.Lib

/-! ## Strings in a buffer -/

abbrev Buffer := List Char

/-- A string can hold the text: no byte of it is zero. -/
def ZeroFree (text : List Char) : Prop := ∀ c ∈ text, c.toNat ≠ 0

namespace Buffer

/-- From `pos` on the bytes are overwritten, if the buffer does not end before. -/
def write (buffer : Buffer) (pos : Nat) (bytes : List Char) : Option Buffer :=
  if pos + bytes.length ≤ buffer.length then
    some (buffer.take pos ++ bytes ++ buffer.drop (pos + bytes.length))
  else none

def strlen (buffer : Buffer) : Nat := (cString buffer).length

def strcat (buffer : Buffer) (src : List Char) : Option Buffer :=
  buffer.write buffer.strlen (src ++ ['\x00'])

/-- The text, and zeros up to the end of the buffer. -/
def filled (size : Nat) (text : List Char) : Buffer :=
  text ++ List.replicate (size - text.length) '\x00'

end Buffer

section Filled
variable {size : Nat} {text bytes src : List Char} {c : Char}

theorem zeroFree_cons : ZeroFree (c :: text) ↔ c.toNat ≠ 0 ∧ ZeroFree text := List.forall_mem_cons

theorem zeroFree_append : ZeroFree (text ++ src) ↔ ZeroFree text ∧ ZeroFree src :=
  List.forall_mem_append

theorem cString_terminated (free : ZeroFree text) (rest : List Char) :
    cString (text ++ '\x00' :: rest) = text := by
  rw [cString, List.takeWhile_append_of_pos fun c member => by simp [free c member]]
  simp

theorem cString_filled (free : ZeroFree text) : cString (Buffer.filled size text) = text := by
  rw [cString, Buffer.filled, List.takeWhile_append_of_pos fun c member => by simp [free c member]]
  cases size - text.length with
  | zero => simp
  | succ left => simp [List.replicate_succ]

theorem strlen_filled (free : ZeroFree text) : (Buffer.filled size text).strlen = text.length := by
  rw [Buffer.strlen, cString_filled free]

theorem length_filled (fits : text.length ≤ size) : (Buffer.filled size text).length = size := by
  rw [Buffer.filled, List.length_append, List.length_replicate]
  omega

theorem write_filled (within : text.length ≤ size) :
    (Buffer.filled size text).write text.length bytes =
      if text.length + bytes.length ≤ size then some (Buffer.filled size (text ++ bytes))
      else none := by
  rw [Buffer.write, length_filled within]
  split_ifs with fits
  · have left : size - text.length - bytes.length = size - (text ++ bytes).length := by
      rw [List.length_append]
      omega
    rw [Buffer.filled, List.take_left, List.drop_append, List.drop_replicate, Buffer.filled, ← left]
    simp
  · rfl

theorem filled_zero (fits : text.length < size) :
    Buffer.filled size (text ++ ['\x00']) = Buffer.filled size text := by
  have left : size - text.length = size - (text ++ ['\x00']).length + 1 := by
    rw [List.length_append, List.length_singleton]
    omega
  rw [Buffer.filled, Buffer.filled, left, List.replicate_succ]
  simp

/-- A string is appended where there is room for it and the zero behind it. -/
theorem strcat_filled (within : text.length ≤ size) (free : ZeroFree text) :
    (Buffer.filled size text).strcat src =
      if (text ++ src).length < size then some (Buffer.filled size (text ++ src)) else none := by
  rw [Buffer.strcat, strlen_filled free, write_filled within]
  have room : text.length + (src ++ ['\x00']).length ≤ size ↔ (text ++ src).length < size := by
    simp only [List.length_append, List.length_singleton]
    omega
  by_cases fits : (text ++ src).length < size
  · rw [if_pos fits, if_pos (room.mpr fits), ← List.append_assoc, filled_zero fits]
  · rw [if_neg fits, if_neg (room.not.mpr fits)]

end Filled

end VibeXperia.Lib

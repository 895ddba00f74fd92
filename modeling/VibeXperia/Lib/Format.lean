import Mathlib.Data.List.Basic

namespace VibeXperia.Lib

/-! ## Numbers as they are printed -/

/-- The conversion `%0<width>d`; a sign takes one of the places. -/
def decimalText (width : Nat) (value : Int) : List Char :=
  let digits := Nat.toDigits 10 value.natAbs
  if value < 0 then '-' :: digits.leftpad (width - 1) '0' else digits.leftpad width '0'

/-- The conversion `%02X` of a byte. -/
def hexText (byte : UInt8) : List Char :=
  let digit (nibble : Nat) : Char :=
    if nibble < 10 then Char.ofNat (48 + nibble) else Char.ofNat (55 + nibble)
  [digit (byte.toNat / 16), digit (byte.toNat % 16)]

def readNumber (digits : List Char) : Nat := Nat.ofDigitChars 10 digits 0

/-- What `snprintf` leaves in a buffer of `size` bytes, and what it returns. -/
def snprintf (size : Nat) (text : List Char) : List Char × Nat := (text.take (size - 1), text.length)

theorem snprintf_of_lt {size : Nat} {text : List Char} (fits : text.length < size) :
    snprintf size text = (text, text.length) := by
  rw [snprintf, List.take_of_length_le (by omega)]

theorem mem_decimalText {width : Nat} {value : Int} {c : Char}
    (member : c ∈ decimalText width value) : c = '-' ∨ c.isDigit := by
  have digit {places : Nat} (padded : c ∈ (Nat.toDigits 10 value.natAbs).leftpad places '0') :
      c.isDigit := by
    rcases List.mem_append.mp padded with zero | digit
    · rw [List.eq_of_mem_replicate zero]
      rfl
    · exact Nat.isDigit_of_mem_toDigits (by decide) (by decide) digit
  unfold decimalText at member
  dsimp only at member
  split at member
  · rcases List.mem_cons.mp member with sign | rest
    · exact .inl sign
    · exact .inr (digit rest)
  · exact .inr (digit member)

/-- A number of `int` takes eleven places at most. -/
theorem length_decimalText_le (width : Nat) (value : BitVec 32) (narrow : width ≤ 10) :
    (decimalText width value.toInt).length ≤ 11 := by
  have bounds : value.toInt.natAbs < 10 ^ 10 := by
    have := value.toInt_lt
    have := value.le_toInt
    omega
  have digits := (Nat.length_toDigits_le_iff (by decide) (by decide)).mpr bounds
  unfold decimalText
  dsimp only
  split
  · rw [List.length_cons, List.length_leftpad]
    omega
  · rw [List.length_leftpad]
    omega

theorem readNumber_decimalText (width number : Nat) :
    readNumber (decimalText width number) = number := by
  have nonneg : ¬ (number : Int) < 0 := by omega
  unfold readNumber decimalText
  dsimp only
  rw [if_neg nonneg, Int.natAbs_natCast, List.leftpad, Nat.ofDigitChars_append,
    Nat.ofDigitChars_replicate_zero, Nat.mul_zero, Nat.ofDigitChars_toDigits (by decide) (by decide)]

/-! ## Fields behind separators -/

section Fields
variable {α : Type*}

/-- Each field with the separator in front of it. -/
def separated (sep : α) (fields : List (List α)) : List α := fields.flatMap fun field => sep :: field

@[simp] theorem separated_nil (sep : α) : separated sep [] = [] := rfl

@[simp] theorem separated_cons (sep : α) (field : List α) (fields : List (List α)) :
    separated sep (field :: fields) = sep :: (field ++ separated sep fields) := rfl

theorem separated_append (sep : α) (fields others : List (List α)) :
    separated sep (fields ++ others) = separated sep fields ++ separated sep others := by
  simp [separated]

theorem splitOn_separated [BEq α] [LawfulBEq α] {sep : α} {first : List α}
    {fields : List (List α)} (free : ∀ field ∈ first :: fields, sep ∉ field) :
    (first ++ separated sep fields).splitOn sep = first :: fields := by
  induction fields generalizing first with
  | nil =>
      rw [separated_nil, List.append_nil]
      exact List.splitOn_eq_singleton (free first (by simp))
  | cons field fields ih =>
      have rest : ∀ other ∈ field :: fields, sep ∉ other := fun other member =>
        free other (List.mem_cons_of_mem _ member)
      rw [separated_cons, List.splitOn_append_cons_self_of_not_mem (free first (by simp)), ih rest]

end Fields

end VibeXperia.Lib

import Mathlib.Data.List.Induction
import VibeXperia.Gps.Address

namespace VibeXperia.Proof.Gps
open VibeXperia.Gps

/-! ## A string that is written from its start -/

def enumerate (text : List UInt8) : Writes := text.mapIdx Prod.mk

theorem enumerate_append (text : List UInt8) (byte : UInt8) :
    enumerate (text ++ [byte]) = enumerate text ++ [(text.length, byte)] := by
  simp [enumerate]

theorem store_append (writes : Writes) (write : Nat × UInt8) (memory : Nat → UInt8) :
    (writes ++ [write]).store memory =
      Function.update (writes.store memory) write.1 write.2 := by
  simp [Writes.store]

theorem store_enumerate (text : List UInt8) (memory : Nat → UInt8) (i : Nat)
    (inside : i < text.length) : (enumerate text).store memory i = text[i] := by
  induction text using List.reverseRecOn with
  | nil => cases inside
  | append_singleton text byte ih =>
      rw [enumerate_append, store_append]
      by_cases last : i = text.length
      · subst last
        simp
      · have earlier : i < text.length := by
          rw [List.length_append, List.length_singleton] at inside
          omega
        rw [Function.update_of_ne last, ih earlier, List.getElem_append_left earlier]

theorem holdsString_store {text : List UInt8} (nonzero : 0 ∉ text) (memory : Nat → UInt8) :
    HoldsString ((enumerate text ++ [(text.length, 0)]).store memory) text := by
  constructor
  case nonzero => exact nonzero
  case terminated =>
    rw [store_append, Function.update_self]
  case bytes =>
    intro i inside
    have other : i ≠ text.length := Nat.ne_of_lt inside
    rw [store_append, Function.update_of_ne other, store_enumerate text memory i inside]

theorem mem_enumerate {text : List UInt8} {write : Nat × UInt8} (member : write ∈ enumerate text) :
    write.1 < text.length := by
  rw [enumerate, List.mem_mapIdx] at member
  obtain ⟨i, inside, rfl⟩ := member
  exact inside

/-! ## The loop -/

def nibbles (data : List UInt8) : List UInt8 := data.flatMap fun ch => [ch &&& 0x0F, ch >>> 4]

def digitBytes (halves : List UInt8) : List UInt8 :=
  (halves.filter (· ≤ 9)).map (· + 48)

def written (text : List UInt8) : AddrString := ⟨enumerate text, text.length⟩

theorem put_written (stringSize : Int) (nibble : UInt8) (text : List UInt8) :
    (written text).put stringSize nibble =
      written (if nibble ≤ 9 ∧ (text.length : Int) < stringSize - 1 then text ++ [nibble + 48]
        else text) := by
  unfold AddrString.put
  by_cases fits : nibble ≤ 9 ∧ (text.length : Int) < stringSize - 1
  · rw [if_pos fits, written, if_pos fits, written, enumerate_append, List.length_append]
    rfl
  · rw [if_neg fits, written, if_neg fits]

theorem foldl_put (stringSize : Int) (halves : List UInt8) :
    halves.foldl (fun out nibble => out.put stringSize nibble) (written []) =
      written ((digitBytes halves).take (stringSize - 1).toNat) := by
  induction halves using List.reverseRecOn with
  | nil => simp [digitBytes]
  | append_singleton halves nibble ih =>
      rw [List.foldl_append, ih, List.foldl_cons, List.foldl_nil, put_written]
      congr 1
      by_cases digit : nibble ≤ 9
      · have more : digitBytes (halves ++ [nibble]) = digitBytes halves ++ [nibble + 48] := by
          simp [digitBytes, digit]
        rw [more]
        by_cases room : (digitBytes halves).length < (stringSize - 1).toNat
        · have fits : (digitBytes halves ++ [nibble + 48]).length ≤ (stringSize - 1).toNat := by
            rw [List.length_append, List.length_singleton]
            omega
          rw [List.take_of_length_le (Nat.le_of_lt room), List.take_of_length_le fits,
            if_pos ⟨digit, by omega⟩]
        · have full := Nat.le_of_not_lt room
          have length : ((digitBytes halves).take (stringSize - 1).toNat).length =
              (stringSize - 1).toNat := by
            rw [List.length_take, Nat.min_eq_left full]
          rw [if_neg (by rw [length]; omega), List.take_append_of_le_length full]
      · have same : digitBytes (halves ++ [nibble]) = digitBytes halves := by
          simp [digitBytes, digit]
        rw [same, if_neg fun both => digit both.1]

def decoded (stringSize : Int) (rest : List UInt8) : List UInt8 :=
  (digitBytes (nibbles rest)).take (stringSize - 1).toNat

theorem decodeAddress_eq (stringSize : Int) (rest : List UInt8) :
    decodeAddress stringSize (0x91 :: rest) =
      some (enumerate (decoded stringSize rest) ++ [((decoded stringSize rest).length, 0)],
        (decoded stringSize rest).length) := by
  have loop : rest.foldl (AddrString.decode stringSize) ⟨[], 0⟩ =
      written (decoded stringSize rest) := by
    rw [decoded, ← foldl_put, nibbles, List.foldl_flatMap]
    rfl
  rw [decodeAddress, if_neg (by decide), loop]
  rfl

/-! ## Addresses -/

theorem nibbles_pair (low hi : Fin 10) :
    nibbles [UInt8.ofNat hi * 16 + UInt8.ofNat low] = [UInt8.ofNat low, UInt8.ofNat hi] := by
  revert low hi
  decide

theorem nibbles_filled (low : Fin 10) :
    nibbles [240 + UInt8.ofNat low] = [UInt8.ofNat low, 15] := by
  revert low
  decide

theorem ofNat_le (digit : Fin 10) : UInt8.ofNat digit ≤ 9 := by
  revert digit
  decide

theorem digitBytes_cons (digit : Fin 10) (halves : List UInt8) :
    digitBytes (UInt8.ofNat digit :: halves) = digitByte digit :: digitBytes halves := by
  simp [digitBytes, ofNat_le, digitByte]

theorem nibbles_cons (ch : UInt8) (rest : List UInt8) :
    nibbles (ch :: rest) = nibbles [ch] ++ nibbles rest := rfl

theorem digitBytes_encodeDigits (digits : List (Fin 10)) :
    digitBytes (nibbles (encodeDigits digits)) = digits.map digitByte := by
  induction digits using encodeDigits.induct with
  | case1 => rfl
  | case2 low =>
      rw [encodeDigits, nibbles_filled, digitBytes_cons]
      rfl
  | case3 low hi rest ih =>
      rw [encodeDigits, nibbles_cons, nibbles_pair, List.cons_append, List.singleton_append,
        digitBytes_cons, digitBytes_cons, ih]
      rfl

theorem nonzero_digitBytes (halves : List UInt8) : 0 ∉ digitBytes halves := by
  intro member
  obtain ⟨half, listed, zero⟩ := List.mem_map.mp member
  have digit : half ≤ 9 := by simpa using (List.mem_filter.mp listed).2
  have small := UInt8.le_iff_toNat_le.mp digit
  have sum := congrArg UInt8.toNat zero
  rw [UInt8.toNat_add] at sum
  have : (48 : UInt8).toNat = 48 := rfl
  have : (9 : UInt8).toNat = 9 := rfl
  have : (0 : UInt8).toNat = 0 := rfl
  omega

theorem nonzero_decoded (stringSize : Int) (rest : List UInt8) : 0 ∉ decoded stringSize rest :=
  fun member => nonzero_digitBytes (nibbles rest) (List.mem_of_mem_take member)

/-- The digits come out that fit with the terminating zero, and no input makes the function write
outside of a string that has any room at all, or leave it without an end. -/
theorem decodeAddress_safe :
    (∀ digits stringSize, ∃ writes, let text := (digits.map digitByte).take (stringSize - 1).toNat
      decodeAddress stringSize (encodeAddress digits) = some (writes, text.length) ∧
        ∀ memory, HoldsString (writes.store memory) text) ∧
    ∀ first rest, ∀ room : Nat, ∃ writes returned,
      decodeAddress (room + 1) (first :: rest) = some (writes, returned) ∧
        (∀ write ∈ writes, write.1 < room + 1) ∧
        ∀ memory, ∃ text, text.length < room + 1 ∧ HoldsString (writes.store memory) text := by
  constructor
  · intro digits stringSize
    have text : decoded stringSize (encodeDigits digits) =
        (digits.map digitByte).take (stringSize - 1).toNat := by
      rw [decoded, digitBytes_encodeDigits]
    rw [encodeAddress, decodeAddress_eq, text]
    refine ⟨_, rfl, fun memory => holdsString_store ?_ memory⟩
    rw [← text]
    exact nonzero_decoded stringSize _
  · intro first rest room
    by_cases wanted : first = 0x91
    · subst wanted
      have short : (decoded (room + 1) rest).length ≤ room := by
        rw [decoded, List.length_take]
        omega
      refine ⟨_, _, decodeAddress_eq _ _, ?_, ?_⟩
      · intro write member
        rcases List.mem_append.mp member with digit | last
        · have := mem_enumerate digit
          omega
        · rw [List.mem_singleton.mp last]
          exact Nat.lt_succ_of_le short
      · intro memory
        exact ⟨_, Nat.lt_succ_of_le short, holdsString_store (nonzero_decoded _ _) memory⟩
    · refine ⟨[(0, 0)], 0, ?_, ?_, ?_⟩
      · rw [decodeAddress, if_pos wanted]
      · simp
      · intro memory
        exact ⟨[], by simp, holdsString_store List.not_mem_nil memory⟩

end VibeXperia.Proof.Gps

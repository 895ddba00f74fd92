import Mathlib.Algebra.Ring.Int.Defs
import Mathlib.Algebra.Ring.Nat
import Mathlib.Data.List.DropRight
import Mathlib.Tactic.SplitIfs

namespace VibeXperia.Lib

/-! ## Text as C reads it -/

/-- The white space of the C locale. -/
def isspace (c : Char) : Bool := c = ' ' || (9 ≤ c.toNat && c.toNat ≤ 13)

/-- The part in front of the first byte that is zero. -/
def cString (text : List Char) : List Char := text.takeWhile fun c => c.toNat ≠ 0

def blank (text : List Char) : Bool := text.all isspace

def trimmed (text : List Char) : List Char := (text.dropWhile isspace).rdropWhile isspace

def digitValue (c : Char) : Option Nat :=
  if '0' ≤ c ∧ c ≤ '9' then some (c.toNat - '0'.toNat)
  else if 'a' ≤ c ∧ c ≤ 'z' then some (c.toNat - 'a'.toNat + 10)
  else if 'A' ≤ c ∧ c ≤ 'Z' then some (c.toNat - 'A'.toNat + 10)
  else none

def leadingDigits (base : Nat) : List Char → Nat → Nat
  | [], number => number
  | c :: text, number =>
      match digitValue c with
      | some digit => if digit < base then leadingDigits base text (number * base + digit) else number
      | none => number

/-- `strtol` where `long` has 32 bits; what it cannot hold becomes its nearest value. -/
def strtol (base : Nat) (text : List Char) : Int :=
  let (negative, digits) := match text.dropWhile isspace with
    | '-' :: digits => (true, digits)
    | '+' :: digits => (false, digits)
    | digits => (false, digits)
  let digits := match base, digits with
    | 16, '0' :: 'x' :: digits | 16, '0' :: 'X' :: digits => digits
    | _, digits => digits
  let number : Int := leadingDigits base digits 0
  if negative then max (-2 ^ 31) (-number) else min (2 ^ 31 - 1) number

def atoi (text : List Char) : Int := strtol 10 text

/-- The next token and what is left for the next call. -/
def strtok (delimiter : Char) (text : List Char) : Option (List Char × List Char) :=
  match text.dropWhile (· = delimiter) with
  | [] => none
  | start => some (start.takeWhile (· ≠ delimiter), (start.dropWhile (· ≠ delimiter)).drop 1)

/-- The parts between the delimiters that are not empty. -/
def tokens (delimiter : Char) (text : List Char) : List (List Char) :=
  (text.splitOn delimiter).filter (· ≠ [])

/-- The strings that `fgets` returns, one call after the other, to a buffer of `size` bytes; `line`
is what the current call has read. -/
def fgetsLoop (size : Nat) (line : List Char) : List Char → List (List Char)
  | [] => if line = [] then [] else [line]
  | c :: stream =>
      if c = '\n' ∨ line.length + 1 = size - 1 then
        (line ++ [c]) :: fgetsLoop size [] stream
      else fgetsLoop size (line ++ [c]) stream

def fgetsAll (size : Nat) (stream : List Char) : List (List Char) := fgetsLoop size [] stream

/-- The lines behind the part `line` of the first of them, each with the newline that ends it. -/
def linesFrom (line : List Char) : List Char → List (List Char)
  | [] => if line = [] then [] else [line]
  | c :: stream =>
      if c = '\n' then (line ++ [c]) :: linesFrom [] stream else linesFrom (line ++ [c]) stream

def linesOf (stream : List Char) : List (List Char) := linesFrom [] stream

example : strtol 16 "0xFFFFFFFF".toList = 2147483647 ∧ atoi " -12a".toList = -12 := by decide

/-! ## Spaces -/

section Spaces
variable {text : List Char} {c : Char}

theorem blank_iff (text : List Char) : blank text = true ↔ text.dropWhile isspace = [] := by
  rw [blank, List.all_eq_true, List.dropWhile_eq_nil_iff]

theorem trimmed_append_space (space : isspace c = true) :
    trimmed (text ++ [c]) = trimmed text := by
  unfold trimmed
  rw [List.dropWhile_append]
  split_ifs with nothing
  · rw [List.isEmpty_iff.mp nothing]
    simp [space]
  · exact List.rdropWhile_concat_pos isspace _ c space

theorem trimmed_append (visible : isspace c = false) :
    trimmed (text ++ [c]) = text.dropWhile isspace ++ [c] := by
  have last (front : List Char) : (front ++ [c]).rdropWhile isspace = front ++ [c] :=
    List.rdropWhile_concat_neg isspace front c (by simp [visible])
  unfold trimmed
  rw [List.dropWhile_append]
  split_ifs with nothing
  · rw [List.isEmpty_iff.mp nothing, List.dropWhile_cons_of_neg (by simp [visible])]
    exact last []
  · exact last _

end Spaces

/-! ## Tokens -/

section Tokens
variable {delimiter : Char} {text : List Char}

theorem splitOn_eq (delimiter : Char) (text : List Char) :
    text.splitOn delimiter = text.takeWhile (· ≠ delimiter) ::
      match text.dropWhile (· ≠ delimiter) with
      | [] => []
      | _ :: rest => rest.splitOn delimiter := by
  induction text with
  | nil => rfl
  | cons c text ih =>
      rw [List.splitOn_cons_eq_if_modifyHead]
      by_cases same : c = delimiter
      · simp [same]
      · rw [if_neg (by simpa using same), ih]
        simp [same]

theorem strtok_cases (delimiter : Char) (text : List Char) :
    strtok delimiter text = none ∧ tokens delimiter text = [] ∨
      ∃ token rest, strtok delimiter text = some (token, rest) ∧
        tokens delimiter text = token :: tokens delimiter rest := by
  induction text with
  | nil => exact .inl ⟨rfl, rfl⟩
  | cons c text ih =>
      by_cases same : c = delimiter
      · have skipped : strtok delimiter (c :: text) = strtok delimiter text := by
          simp [strtok, same]
        have nothing : tokens delimiter (c :: text) = tokens delimiter text := by
          simp [tokens, same, splitOn_eq delimiter (delimiter :: text)]
        rw [skipped, nothing]
        exact ih
      · refine .inr ⟨(c :: text).takeWhile (· ≠ delimiter),
          ((c :: text).dropWhile (· ≠ delimiter)).drop 1, by simp [strtok, same], ?_⟩
        rw [tokens, splitOn_eq, List.filter_cons_of_pos (by simp [same])]
        congr 1
        cases rest : (c :: text).dropWhile (· ≠ delimiter) <;> simp [tokens]

theorem length_of_mem_splitOn {part : List Char} (member : part ∈ text.splitOn delimiter) :
    part.length ≤ text.length := by
  induction text generalizing part with
  | nil => simp_all
  | cons c text ih =>
      rw [List.splitOn_cons_eq_if_modifyHead] at member
      split_ifs at member with same
      · rcases List.mem_cons.mp member with rfl | later
        · exact Nat.zero_le _
        · exact Nat.le_succ_of_le (ih later)
      · cases parts : text.splitOn delimiter with
        | nil => exact absurd parts (List.splitOn_ne_nil delimiter text)
        | cons first rest =>
            rw [parts] at ih member
            rcases List.mem_cons.mp member with rfl | later
            · exact Nat.succ_le_succ (ih (List.mem_cons_self ..))
            · exact Nat.le_succ_of_le (ih (List.mem_cons_of_mem first later))

theorem length_of_mem_tokens {token : List Char} (member : token ∈ tokens delimiter text) :
    token.length ≤ text.length := length_of_mem_splitOn (List.mem_of_mem_filter member)

end Tokens

/-! ## Lines -/

/-- The first line holds what was read of it, and more if more follows. -/
theorem linesFrom_head (line : List Char) (c : Char) (stream : List Char) :
    ∃ first ∈ linesFrom line (c :: stream), line.length < first.length := by
  induction stream generalizing line c with
  | nil =>
      refine ⟨line ++ [c], ?_, by simp⟩
      unfold linesFrom
      split_ifs <;> simp [linesFrom]
  | cons d stream ih =>
      unfold linesFrom
      split_ifs with ends
      · exact ⟨line ++ [c], by simp, by simp⟩
      · obtain ⟨first, member, longer⟩ := ih (line ++ [c]) d
        refine ⟨first, member, ?_⟩
        rw [List.length_append] at longer
        omega

theorem fgetsLoop_of_short {size : Nat} {line stream : List Char}
    (short : ∀ read ∈ linesFrom line stream, read.length < size) :
    fgetsLoop size line stream = linesFrom line stream := by
  induction stream generalizing line with
  | nil => rfl
  | cons c stream ih =>
      unfold fgetsLoop
      unfold linesFrom at short ⊢
      by_cases ends : c = '\n'
      · rw [if_pos ends] at short
        rw [if_pos (.inl ends), if_pos ends, ih fun read member => short read (by simp [member])]
      · rw [if_neg ends] at short
        rw [if_neg ends]
        by_cases full : line.length + 1 = size - 1
        · -- nothing follows in a line that fills the buffer
          have last : stream = [] := by
            cases stream with
            | nil => rfl
            | cons d stream =>
                obtain ⟨first, member, longer⟩ := linesFrom_head (line ++ [c]) d stream
                have fits := short first member
                rw [List.length_append, List.length_singleton] at longer
                omega
          rw [last, if_pos (.inr full)]
          simp [fgetsLoop, linesFrom]
        · rw [if_neg (by simp [ends, full]), ih short]

theorem fgetsAll_of_short {size : Nat} {stream : List Char}
    (short : ∀ line ∈ linesOf stream, line.length < size) :
    fgetsAll size stream = linesOf stream := fgetsLoop_of_short short

section Pieces
variable {size : Nat} {line piece stream : List Char}

/-- `line` is what was read of a line, `piece` what the current call has of it. -/
theorem fgetsLoop_lines {earlier : List (List Char)}
    (read : ∀ rest, fgetsAll size (line ++ rest) = earlier ++ fgetsLoop size piece rest) :
    earlier ++ fgetsLoop size piece stream = (linesFrom line stream).flatMap (fgetsAll size) := by
  induction stream generalizing line piece earlier with
  | nil =>
      rw [← read [], List.append_nil, linesFrom]
      split_ifs with nothing
      · rw [nothing]
        rfl
      · simp
  | cons c stream ih =>
      have next := read (c :: stream)
      unfold linesFrom
      by_cases ends : c = '\n'
      · have whole : fgetsAll size (line ++ [c]) = earlier ++ [piece ++ [c]] := by
          rw [read, fgetsLoop, if_pos (.inl ends)]
          rfl
        have rest := @ih [] [] [] fun _ => rfl
        rw [if_pos ends, List.flatMap_cons, whole, ← rest, fgetsLoop, if_pos (.inl ends)]
        simp
      · rw [if_neg ends]
        by_cases full : piece.length + 1 = size - 1
        · rw [fgetsLoop, if_pos (.inr full)]
          have rest := @ih (line ++ [c]) [] (earlier ++ [piece ++ [c]]) fun rest => by
            rw [List.append_assoc, List.singleton_append, read, fgetsLoop, if_pos (.inr full)]
            simp
          rw [← rest]
          simp
        · rw [fgetsLoop, if_neg (by simp [ends, full])]
          apply ih
          intro rest
          rw [List.append_assoc, List.singleton_append, read, fgetsLoop, if_neg (by simp [ends, full])]

/-- A line is read on its own: no piece has parts of two. -/
theorem fgetsAll_lines (size : Nat) (stream : List Char) :
    fgetsAll size stream = (linesOf stream).flatMap (fgetsAll size) :=
  @fgetsLoop_lines size [] [] stream [] fun _ => rfl

theorem linesFrom_single (read : ∀ rest, linesOf (line ++ rest) = linesFrom line rest) :
    ∀ one ∈ linesFrom line stream, linesOf one = [one] := by
  induction stream generalizing line with
  | nil =>
      intro one listed
      have whole := read []
      unfold linesFrom at listed whole
      split_ifs at listed whole with nothing
      · simp at listed
      · obtain rfl := List.mem_singleton.mp listed
        rwa [List.append_nil] at whole
  | cons c stream ih =>
      intro one listed
      unfold linesFrom at listed
      split_ifs at listed with ends
      · rcases List.mem_cons.mp listed with rfl | later
        · rw [read, linesFrom, if_pos ends]
          rfl
        · exact @ih [] (fun _ => rfl) one later
      · refine @ih (line ++ [c]) (fun rest => ?_) one listed
        rw [List.append_assoc, List.singleton_append, read, linesFrom, if_neg ends]

theorem fgetsAll_short {one : List Char} (listed : one ∈ linesOf stream) (short : one.length < size) :
    fgetsAll size one = [one] := by
  have single : linesOf one = [one] := @linesFrom_single [] stream (fun _ => rfl) one listed
  rw [fgetsAll_of_short (by rw [single]; simpa using short), single]

end Pieces

/-! ## What the last of several writes leaves -/

section Last
variable {σ α β : Type*} {step : σ → α → σ} {observed : σ → β} {written : α → Option β}

theorem foldl_last (writes : ∀ s a, observed (step s a) = (written a).getD (observed s)) (s : σ)
    (as : List α) :
    observed (as.foldl step s) = (as.filterMap written).getLast?.getD (observed s) := by
  induction as using List.reverseRecOn with
  | nil => rfl
  | append_singleton as a ih =>
      rw [List.foldl_append, List.foldl_cons, List.foldl_nil, writes, ih, List.filterMap_append,
        List.getLast?_append]
      cases first : written a <;> simp [first]

theorem foldl_mark {marks : α → Bool} {mark : β}
    (writes : ∀ s a, observed (step s a) = if marks a then mark else observed s) (s : σ)
    (as : List α) :
    observed (as.foldl step s) = if as.any marks then mark else observed s := by
  induction as generalizing s with
  | nil => rfl
  | cons a as ih =>
      rw [List.foldl_cons, ih, writes, List.any_cons]
      cases marks a <;> simp

/-- What is written last comes of what was read last, if it does not depend on what was read whether
anything is written. -/
theorem getLast?_filterMap_bind {γ : Type*} {f : α → Option γ} {g : γ → Option β}
    (alike : ∀ x y, (g x).isSome = (g y).isSome) (as : List α) :
    (as.filterMap fun a => (f a).bind g).getLast? = (as.filterMap f).getLast?.bind g := by
  induction as using List.reverseRecOn with
  | nil => rfl
  | append_singleton as a ih =>
      rw [List.filterMap_append, List.filterMap_append, List.getLast?_append, List.getLast?_append,
        ih]
      cases found : f a with
      | none => simp [found]
      | some x =>
          cases made : g x with
          | some y => simp [found, made]
          | none =>
              have never (z : γ) : g z = none := by
                rw [← Option.isNone_iff_eq_none, ← Option.not_isSome, alike z x, made]
                rfl
              simp [found, never]

end Last

end VibeXperia.Lib

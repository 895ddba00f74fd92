import VibeXperia.Gps.TrimSpace
import VibeXperia.Proof.Gps.Config

namespace VibeXperia.Proof.Gps
open Lib VibeXperia.Gps

variable {text rest front : List Char} {c : Char} {t : TrimPointers}

/-! ## The scan -/

theorem write_behind {written whole : List Char} (room : written.length < whole.length) :
    Buffer.write (written ++ whole.drop written.length) written.length [c] =
      some (written ++ [c] ++ whole.drop (written.length + 1)) := by
  rw [Buffer.write, if_pos]
  · rw [List.take_left, List.drop_append, List.drop_drop, List.drop_eq_nil_of_le (by simp)]
    simp
  · simp only [List.length_append, List.length_drop, List.length_singleton]
    omega

def scanned (front : List Char) : TrimSpace := front.foldl TrimSpace.scan ⟨false, [], none⟩

structure Scanned (whole front : List Char) (t : TrimPointers) : Prop where
  buffer : t.buffer = (scanned front).written ++ whole.drop (scanned front).written.length
  scanPtr : t.scanPtr = front.length
  writePtr : t.writePtr = (scanned front).written.length
  firstNonspace : t.firstNonspace.isSome = (scanned front).firstNonspace
  lastNonspace : t.lastNonspace = (scanned front).lastNonspace
  behind : (scanned front).written.length ≤ front.length
  inside : ∀ place ∈ t.written, place < front.length

theorem Scanned.read {whole : List Char} (s : Scanned whole front t) :
    t.buffer[t.scanPtr]? = whole[front.length]? := by
  rw [s.buffer, s.scanPtr, List.getElem?_append_right s.behind, List.getElem?_drop]
  congr 1
  have behind := s.behind
  omega

theorem scanned_snoc (front : List Char) (c : Char) :
    scanned (front ++ [c]) = (scanned front).scan c := by
  rw [scanned, List.foldl_append]
  rfl

theorem body_scanned {whole : List Char} (s : Scanned whole front t)
    (room : front.length < whole.length) :
    ∃ t', t.body c = some t' ∧ Scanned whole (front ++ [c]) t' := by
  let firstNonspace :=
    if isspace c = false ∧ t.firstNonspace = none then some t.scanPtr else t.firstNonspace
  have first : firstNonspace.isSome = ((scanned front).firstNonspace || !isspace c) := by
    rw [← s.firstNonspace]
    cases space : isspace c <;> cases before : t.firstNonspace <;> simp [firstNonspace, space, before]
  have earlier (place : Nat) (member : place ∈ t.written) : place < (front ++ [c]).length :=
    (s.inside place member).trans_le (by simp)
  have summary := scanned_snoc front c
  rw [TrimSpace.scan] at summary
  cases going : ((scanned front).firstNonspace || !isspace c) with
  | true =>
      -- `write_ptr` is not ahead of `scan_ptr`, so what is still to be scanned stays as it was
      simp only [going, if_true] at summary
      have stored : t.buffer.write t.writePtr [c] = some ((scanned front).written ++ [c] ++
          whole.drop ((scanned front).written.length + 1)) := by
        rw [s.buffer, s.writePtr]
        exact write_behind (s.behind.trans_lt room)
      have begun : firstNonspace ≠ none := by
        rw [going] at first
        exact Option.isSome_iff_ne_none.mp first
      let next : TrimPointers := ⟨(scanned front).written ++ [c] ++
          whole.drop ((scanned front).written.length + 1), t.scanPtr + 1, t.writePtr + 1,
        firstNonspace, if isspace c then t.lastNonspace else some (t.writePtr + 1),
        t.writePtr :: t.written⟩
      refine ⟨next, ?_, ?_⟩
      · rw [TrimPointers.body]
        simp only [TrimPointers.store, stored, Option.map_some, Option.bind_eq_bind, Option.bind_some]
        exact if_pos begun
      · constructor
        case buffer => simp [summary, next]
        case scanPtr => simp [s.scanPtr, next]
        case writePtr => simp [summary, s.writePtr, next]
        case firstNonspace => rw [summary, first, going]
        case lastNonspace => simp [summary, s.lastNonspace, s.writePtr, next]
        case behind => simpa [summary] using s.behind
        case inside =>
          intro place member
          obtain rfl | member := List.mem_cons.mp member
          · rw [s.writePtr, List.length_append, List.length_singleton]
            exact Nat.lt_succ_of_le s.behind
          · exact earlier place member
  | false =>
      simp only [going, Bool.false_eq_true, if_false] at summary
      have waiting : ¬ firstNonspace ≠ none := by
        rw [going, Option.isSome_eq_false_iff, Option.isNone_iff_eq_none] at first
        exact not_ne_iff.mpr first
      refine ⟨_, if_neg waiting, ?_⟩
      constructor
      case buffer => simp [summary, s.buffer]
      case scanPtr => simp [s.scanPtr]
      case writePtr => rw [summary, s.writePtr]
      case firstNonspace =>
        rw [Bool.or_eq_false_iff] at going
        rw [summary, first, going.1, going.2]
        rfl
      case lastNonspace => rw [summary, s.lastNonspace]
      case behind =>
        rw [summary]
        exact s.behind.trans (by simp)
      case inside => exact earlier

theorem loop_scanned {back : List Char} {fuel : Nat}
    (s : Scanned (front ++ back ++ '\x00' :: rest) front t) (string : ZeroFree back)
    (enough : back.length < fuel) :
    ∃ t', TrimPointers.loop fuel t = some t' ∧
      Scanned (front ++ back ++ '\x00' :: rest) (front ++ back) t' := by
  induction back generalizing front t fuel with
  | nil =>
      cases fuel with
      | zero => cases enough
      | succ fuel =>
          rw [List.append_nil] at s ⊢
          have ended : t.buffer[t.scanPtr]? = some '\x00' := by
            rw [s.read, List.getElem?_append_right (le_refl _)]
            simp
          refine ⟨t, ?_, s⟩
          rw [TrimPointers.loop, ended]
          rfl
  | cons c back ih =>
      cases fuel with
      | zero => cases enough
      | succ fuel =>
          rw [zeroFree_cons] at string
          have current : t.buffer[t.scanPtr]? = some c := by
            rw [s.read, List.append_assoc, List.getElem?_append_right (le_refl _)]
            simp
          obtain ⟨t', done, s'⟩ := body_scanned (c := c) s (by simp)
          have split : front ++ c :: back = front ++ [c] ++ back := List.append_cons ..
          rw [split] at s' ⊢
          obtain ⟨t'', ended, s''⟩ := ih s' string.2 (Nat.lt_of_succ_lt_succ enough)
          refine ⟨t'', ?_, s''⟩
          rw [TrimPointers.loop, current, Option.bind_eq_bind, Option.bind_some, if_neg string.1, done]
          exact ended

/-! ## The end of the string -/

theorem trimmed_sublist (text : List Char) : (trimmed text).Sublist text :=
  (List.rdropWhile_prefix isspace _).sublist.trans (List.dropWhile_suffix isspace).sublist

theorem zeroFree_trimmed (string : ZeroFree text) : ZeroFree (trimmed text) :=
  fun c member => string c ((trimmed_sublist text).subset member)

/-- What `trim_space` leaves in the buffer is what `trimSpace` gives, and no place behind the end of
the string is written to. -/
theorem trimSpaceIn_eq (string : ZeroFree text) :
    ∃ t, trimSpaceIn (text ++ '\x00' :: rest) = some t ∧ cString t.buffer = trimSpace text ∧
      ∀ place ∈ t.written, place ≤ text.length := by
  have start : Scanned ([] ++ text ++ '\x00' :: rest) []
      ⟨text ++ '\x00' :: rest, 0, 0, none, none, []⟩ :=
    ⟨rfl, rfl, rfl, rfl, rfl, le_refl _, nofun⟩
  have enough : text.length < (text ++ '\x00' :: rest).length := by simp
  obtain ⟨t, ended, s⟩ := loop_scanned start string enough
  rw [List.nil_append] at s
  have summary := scan_eq text
  have last := s.lastNonspace
  rw [scanned, summary] at last
  rw [trimSpaceIn, ended, Option.bind_eq_bind, Option.bind_some, trimSpace_eq]
  cases nothing : blank text with
  | true =>
      rw [nothing] at last
      refine ⟨t, by rw [last]; rfl, ?_, fun place member => (s.inside place member).le⟩
      rw [s.buffer, scanned, summary, (blank_iff text).mp nothing]
      exact cString_terminated string rest
  | false =>
      rw [nothing, if_neg Bool.false_ne_true] at last
      -- the text was copied with the spaces behind it, which the zero cuts off
      have front : trimmed text <+: text.dropWhile isspace := List.rdropWhile_prefix isspace _
      obtain ⟨behind, split⟩ := front
      have inBuffer : t.buffer = trimmed text ++ (behind ++
          (text ++ '\x00' :: rest).drop (scanned text).written.length) := by
        rw [s.buffer, ← List.append_assoc, split, scanned, summary]
      have short : (trimmed text).length ≤ text.length := (trimmed_sublist text).length_le
      have whole : t.buffer.length = (text ++ '\x00' :: rest).length := by
        rw [s.buffer, List.length_append, List.length_drop]
        have within := s.behind
        simp only [List.length_append]
        omega
      obtain ⟨buffer, stored, left⟩ : ∃ buffer,
          t.buffer.write (trimmed text).length ['\x00'] = some buffer ∧
            cString buffer = trimmed text := by
        refine ⟨_, if_pos ?_, ?_⟩
        · rw [whole]
          simp
          omega
        · rw [inBuffer, List.take_left, List.append_assoc]
          exact cString_terminated (zeroFree_trimmed string) _
      refine ⟨{ t with buffer, written := (trimmed text).length :: t.written }, ?_, left, ?_⟩
      · simp only [last, TrimPointers.store, stored, Option.map_some]
      · intro place member
        obtain rfl | member := List.mem_cons.mp member
        · exact short
        · exact (s.inside place member).le

/-- The string is trimmed in place unless it has nothing but spaces. -/
theorem trimSpaceIn_iff (text rest : List Char) (string : ZeroFree text) :
    ∃ t, trimSpaceIn (text ++ '\x00' :: rest) = some t ∧
      (TrimsInPlace text t ↔ (blank text = true → text = [])) := by
  obtain ⟨t, ended, left, inside⟩ := @trimSpaceIn_eq text rest string
  refine ⟨t, ended, ?_⟩
  rw [trimSpace_eq] at left
  cases nothing : blank text with
  | true =>
      have none' : trimmed text = [] := by rw [trimmed, (blank_iff text).mp nothing]; rfl
      rw [nothing, if_pos rfl] at left
      constructor
      · intro trims _
        rw [← left, trims.string, none']
      · intro empty
        exact ⟨by rw [left, none', empty rfl], inside⟩
  | false =>
      rw [nothing, if_neg Bool.false_ne_true] at left
      exact iff_of_true ⟨left, inside⟩ nofun

theorem trimSpaceIn_iff_key : ∃ t, trimSpaceIn [' ', 'A', ' ', '\x00'] = some t ∧
    (TrimsInPlace [' ', 'A', ' '] t ↔ (blank [' ', 'A', ' '] = true → [' ', 'A', ' '] = [])) :=
  trimSpaceIn_iff [' ', 'A', ' '] [] (by simp [ZeroFree])

theorem spaces_left : ∃ t, trimSpaceIn [' ', ' ', '\x00'] = some t ∧ ¬ TrimsInPlace [' ', ' '] t := by
  refine ⟨_, rfl, fun trims => ?_⟩
  exact absurd trims.string (by decide)

end VibeXperia.Proof.Gps

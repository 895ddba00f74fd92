import VibeXperia.Gps.Config
import Mathlib.Data.List.Nodup

namespace VibeXperia.Proof.Gps
open VibeXperia.Gps VibeXperia.Lib

/-! ## Spaces around a token -/

theorem scan_eq (text : CString) :
    text.foldl TrimSpace.scan ⟨false, [], none⟩ =
      ⟨!blank text, text.dropWhile isspace,
        if blank text then none else some (trimmed text).length⟩ := by
  induction text using List.reverseRecOn with
  | nil => rfl
  | append_singleton text c ih =>
      have all : blank (text ++ [c]) = (blank text && isspace c) := by simp [blank]
      have front : (text ++ [c]).dropWhile isspace =
          if blank text then (if isspace c then [] else [c])
          else text.dropWhile isspace ++ [c] := by
        rw [List.dropWhile_append]
        by_cases nothing : blank text = true
        · simp [(blank_iff text).mp nothing, nothing, List.dropWhile_cons]
        · simp [mt (blank_iff text).mpr nothing, nothing]
      rw [List.foldl_append, ih, all, front]
      cases space : isspace c with
      | true =>
          rw [trimmed_append_space space]
          cases nothing : blank text with
          | true => simp [TrimSpace.scan, space, (blank_iff text).mp nothing]
          | false => simp [TrimSpace.scan, space]
      | false =>
          rw [trimmed_append space]
          cases nothing : blank text with
          | true => simp [TrimSpace.scan, space, (blank_iff text).mp nothing]
          | false => simp [TrimSpace.scan, space]

theorem trimSpace_eq (text : CString) :
    trimSpace text = if blank text then text else trimmed text := by
  unfold trimSpace
  rw [scan_eq]
  cases nothing : blank text with
  | true => rfl
  | false =>
      have front : trimmed text <+: text.dropWhile isspace := List.rdropWhile_prefix isspace _
      simpa using (List.prefix_iff_eq_take.mp front).symm

theorem length_trimSpace_le (text : CString) : (trimSpace text).length ≤ text.length := by
  rw [trimSpace_eq]
  split_ifs
  · exact Nat.le_refl _
  · calc (trimmed text).length ≤ (text.dropWhile isspace).length :=
          (List.rdropWhile_prefix isspace _).length_le
      _ ≤ text.length := (List.dropWhile_suffix isspace).length_le

/-! ## One line -/

section Line
variable {V F δ : Type*} {lib : Doubles δ} {entry : LocParamS V F} {line : CString}

def takenValue (lib : Doubles δ) (entry : LocParamS V F) (line : CString) : Option (ParamValue δ) :=
  (taken entry.paramName line).bind (storedValue lib entry.paramType)

theorem storedValue_alike (lib : Doubles δ) (paramType : Char) (x y : CString) :
    (storedValue lib paramType x).isSome = (storedValue lib paramType y).isSome := by
  unfold storedValue valueOf
  split_ifs <;> simp_all

variable [DecidableEq V] [DecidableEq F]

def writeEntry (lib : Doubles δ) (line : CString) (m : ParamMemory V F δ)
    (entry : LocParamS V F) : ParamMemory V F δ :=
  match entry.paramPtr, takenValue lib entry line with
  | some v, some value => m.write v entry.paramSet value
  | _, _ => m

theorem parseValue_eq (lib : Doubles δ) (name value : CString) :
    parseValue lib name value =
      ⟨trimSpace name, trimSpace value,
        if isHex (trimSpace value) then strtol 16 ((trimSpace value).drop 2)
          else atoi (trimSpace value),
        if isHex (trimSpace value) then lib.zero else lib.atof (trimSpace value)⟩ := by
  unfold parseValue
  dsimp only
  split_ifs <;> rfl

theorem locSetConfigEntry_eq {name value : CString} {rest : List CString}
    (parts : tokens '=' (cString line) = name :: value :: rest) (m : ParamMemory V F δ) :
    locSetConfigEntry entry (parseValue lib name value) m = writeEntry lib line m entry := by
  rw [parseValue_eq]
  unfold locSetConfigEntry writeEntry
  cases entry.paramPtr with
  | none => rfl
  | some v =>
      dsimp only
      by_cases same : entry.paramName = trimSpace name
      · have found : taken entry.paramName line = some (trimSpace value) := by
          simp [taken, parts, same]
        rw [takenValue, found, if_pos same, Option.bind_some, storedValue, valueOf]
        split_ifs <;> simp_all
      · have missed : taken entry.paramName line = none := by
          simp [taken, parts, Ne.symm same]
        rw [takenValue, missed, if_neg same]
        rfl

theorem readLine_caller (table : List (LocParamS V F)) (s : ConfState V F δ) (line : CString) :
    (readLine lib table s line).caller = table.foldl (writeEntry lib line) s.caller := by
  have untouched (few : ∀ name, taken name line = none) :
      table.foldl (writeEntry lib line) s.caller = s.caller := by
    have still (m : ParamMemory V F δ) (entry : LocParamS V F) : writeEntry lib line m entry = m := by
      unfold writeEntry takenValue
      rw [few]
      cases entry.paramPtr <;> rfl
    exact List.foldl_fixed' (still s.caller) table
  unfold readLine
  rcases strtok_cases '=' (cString line) with ⟨none, parts⟩ | ⟨name, lasts, first, parts⟩
  · rw [none, untouched fun name => by simp [taken, parts]]
  · rw [first]
    rcases strtok_cases '=' lasts with ⟨none, more⟩ | ⟨value, rest, second, more⟩
    · dsimp only
      rw [none, untouched fun name => by simp [taken, parts, more]]
    · dsimp only
      rw [second]
      rw [more] at parts
      dsimp only
      congr 1
      funext m entry
      exact locSetConfigEntry_eq parts m

theorem writeEntry_value (m : ParamMemory V F δ) (v : V) :
    (writeEntry lib line m entry).values v =
      (if entry.paramPtr = some v then takenValue lib entry line else none).getD (m.values v) := by
  unfold writeEntry
  cases pointer : entry.paramPtr with
  | none => simp
  | some w =>
      cases made : takenValue lib entry line with
      | none => simp
      | some value =>
          by_cases same : w = v
          · simp [ParamMemory.write, same]
          · simp [ParamMemory.write, same, Function.update_of_ne (Ne.symm same)]

theorem foldl_value (table : List (LocParamS V F)) (m : ParamMemory V F δ) (v : V) :
    (table.foldl (writeEntry lib line) m).values v =
      (table.filterMap fun entry =>
        if entry.paramPtr = some v then takenValue lib entry line else none).getLast?.getD
          (m.values v) :=
  @foldl_last _ _ _ (writeEntry lib line) (fun m => m.values v) _
    (fun m _ => writeEntry_value m v) m table

theorem line_value {table : List (LocParamS V F)}
    (separate : (table.filterMap LocParamS.paramPtr).Nodup) (member : entry ∈ table) {v : V}
    (points : entry.paramPtr = some v) (s : ConfState V F δ) :
    (readLine lib table s line).caller.values v =
      (takenValue lib entry line).getD (s.caller.values v) := by
  rw [readLine_caller, foldl_value]
  obtain ⟨front, back, rfl⟩ := List.append_of_mem member
  rw [List.filterMap_append, List.filterMap_cons_some points] at separate
  have apart := (List.nodup_cons.mp (List.nodup_middle.mp separate)).1
  have others (side : List (LocParamS V F)) (inside : ∀ e ∈ side, e ∈ front ++ back) :
      (side.filterMap fun e => if e.paramPtr = some v then takenValue lib e line else none) = [] := by
    rw [List.filterMap_eq_nil_iff]
    intro e among
    apply if_neg
    intro same
    apply apart
    rw [← List.filterMap_append]
    exact List.mem_filterMap.mpr ⟨e, inside e among, same⟩
  rw [List.filterMap_append, List.filterMap_cons, others front (by simp +contextual), if_pos points,
    others back (by simp +contextual)]
  cases takenValue lib entry line <;> rfl

theorem line_other {table : List (LocParamS V F)} {v : V}
    (absent : some v ∉ table.map LocParamS.paramPtr) (s : ConfState V F δ) :
    (readLine lib table s line).caller.values v = s.caller.values v := by
  have nothing : (table.filterMap fun entry =>
      if entry.paramPtr = some v then takenValue lib entry line else none) = [] := by
    rw [List.filterMap_eq_nil_iff]
    intro e among
    exact if_neg fun same => absent (List.mem_map.mpr ⟨e, among, same⟩)
  rw [readLine_caller, foldl_value, nothing]
  rfl

def marks (lib : Doubles δ) (table : List (LocParamS V F)) (flag : F) (line : CString) : Bool :=
  table.any fun entry =>
    entry.paramPtr.isSome && entry.paramSet == some flag && (takenValue lib entry line).isSome

theorem line_flag (table : List (LocParamS V F)) (flag : F) (s : ConfState V F δ) :
    (readLine lib table s line).caller.flags flag =
      if marks lib table flag line then 1 else s.caller.flags flag := by
  rw [readLine_caller]
  apply @foldl_mark _ _ _ (writeEntry lib line) (fun m => m.flags flag)
  intro m entry
  unfold writeEntry
  cases entry.paramPtr with
  | none => rfl
  | some v =>
      cases takenValue lib entry line with
      | none => simp
      | some value =>
          cases set : entry.paramSet with
          | none => simp [ParamMemory.write]
          | some other =>
              by_cases same : other = flag
              · simp [ParamMemory.write, same]
              · simp [ParamMemory.write, same, Function.update_of_ne (Ne.symm same)]

end Line

/-! ## Lines and what they give -/

section Given
variable {V F δ : Type*} {lib : Doubles δ} {entry : LocParamS V F}

theorem ne_nil_of_visible {text : CString} (visible : blank text = false) : text ≠ [] := by
  rintro rfl
  cases visible

theorem assignment_of_given {name text line : CString} (gives : given name line = some text) :
    ∃ first value, (cString line).splitOn '=' = [first, value] ∧
      isComment line = false ∧ blank first = false ∧ blank value = false ∧
      trimmed first = name ∧ trimmed value = text := by
  unfold given assignment at gives
  split at gives
  case h_1 first value parts =>
    by_cases malformed : (isComment line || blank first || blank value) = true
    · rw [if_pos malformed] at gives
      cases gives
    rw [if_neg malformed, Option.bind_some] at gives
    simp only [Bool.or_eq_true, not_or, Bool.not_eq_true] at malformed
    obtain ⟨⟨comment, named⟩, valued⟩ := malformed
    dsimp only at gives
    split_ifs at gives with same
    exact ⟨first, value, parts, comment, named, valued, same, Option.some.inj gives⟩
  case h_2 => cases gives

theorem taken_of_given {name text line : CString} (gives : given name line = some text) :
    taken name line = some text := by
  obtain ⟨first, value, parts, -, named, valued, rfl, rfl⟩ := assignment_of_given gives
  have both : tokens '=' (cString line) = [first, value] := by
    simp [tokens, parts, ne_nil_of_visible named, ne_nil_of_visible valued]
  simp [taken, both, trimSpace_eq, named, valued]

theorem blank_trimmed {text : CString} (visible : blank text = false) :
    blank (trimmed text) = false := by
  have some : trimmed text ≠ [] := by
    intro nothing
    have all : (text.dropWhile isspace).rdropWhile isspace = [] := nothing
    rw [List.rdropWhile_eq_nil_iff] at all
    have left : blank (text.dropWhile isspace) = true := List.all_eq_true.mpr all
    rw [blank_iff, List.dropWhile_idempotent, ← blank_iff, visible] at left
    cases left
  -- the last character of what is left is no space
  have last := List.rdropWhile_last_not isspace (text.dropWhile isspace) some
  rw [← Bool.not_eq_true, blank, List.all_eq_true]
  intro all
  exact last (all _ (List.getLast_mem some))

theorem blank_of_given {name text line : CString} (gives : given name line = some text) :
    blank text = false := by
  obtain ⟨first, value, -, -, -, valued, -, rfl⟩ := assignment_of_given gives
  exact blank_trimmed valued

theorem ne_nil_of_taken {name text line : CString} (takes : taken name line = some text) :
    text ≠ [] := by
  unfold taken at takes
  split at takes
  case h_1 first value rest parts =>
    split_ifs at takes
    obtain rfl := Option.some.inj takes
    have token : value ∈ tokens '=' (cString line) := by rw [parts]; simp
    have some : value ≠ [] := by simpa using (List.mem_filter.mp token).2
    rw [trimSpace_eq]
    split_ifs with empty
    · exact some
    · exact ne_nil_of_visible (blank_trimmed (Bool.not_eq_true _ ▸ empty))
  case h_2 => cases takes

theorem length_taken_le {name text line : CString} (takes : taken name line = some text) :
    text.length ≤ line.length := by
  unfold taken at takes
  split at takes
  case h_1 first value rest parts =>
    split_ifs at takes with same
    obtain rfl := Option.some.inj takes
    calc (trimSpace value).length ≤ value.length := length_trimSpace_le value
      _ ≤ (cString line).length := by
          apply length_of_mem_tokens
          rw [parts]
          simp
      _ ≤ line.length := (List.takeWhile_prefix _).length_le
  case h_2 => cases takes

theorem storedValue_iff {text : CString} (fits : text.length ≤ locMaxParamString)
    (paramType : Char) (before : ParamValue δ) :
    (storedValue lib paramType text).getD before = (valueOf lib paramType text).getD before ↔
      (paramType = 'f' → isHex text = true → lib.atof text = lib.zero) := by
  by_cases isString : paramType = 's'
  · simp [storedValue, valueOf, isString, List.take_of_length_le fits]
  · by_cases special : paramType = 'f' ∧ isHex text = true
    · obtain ⟨rfl, hex⟩ := special
      simp [storedValue, valueOf, hex, eq_comm]
    · have same : storedValue lib paramType text = valueOf lib paramType text := by
        rw [storedValue, if_neg isString, if_neg special]
      rw [same]
      exact iff_of_true rfl fun float hex => absurd ⟨float, hex⟩ special

theorem filterMap_takers {β : Type*} {name : CString} {f : CString → Option β}
    (within : ∀ line x, f line = some x → (taken name line).isSome = true) (lines : List CString) :
    lines.filterMap f = (lines.filter fun line => (taken name line).isSome).filterMap f := by
  rw [List.filterMap_filter]
  congr 1
  funext line
  cases made : f line with
  | none => simp
  | some x => rw [if_pos (within line x made)]

theorem lastTaken_append {lines : List CString} {line : CString}
    (last : lastTaken entry.paramName lines = some line) :
    ∃ earlier, lines.filter (fun line => (taken entry.paramName line).isSome) = earlier ++ [line] ∧
      line ∈ lines := by
  obtain ⟨earlier, takes⟩ := List.getLast?_eq_some_iff.mp last
  have member : line ∈ lines.filter fun line => (taken entry.paramName line).isSome := by
    rw [takes]
    simp
  exact ⟨earlier, takes, (List.mem_filter.mp member).1⟩

theorem last_text {lines : List CString} {line text : CString}
    (last : lastTaken entry.paramName lines = some line)
    (takes : taken entry.paramName line = some text) :
    (lines.filterMap (taken entry.paramName)).getLast? = some text ∧
      ((given entry.paramName line).isSome → lastGiven entry.paramName lines = some text) := by
  have takers := @filterMap_takers _ entry.paramName (taken entry.paramName)
    (fun line x takes => by rw [takes]; rfl) lines
  have givers := @filterMap_takers _ entry.paramName (given entry.paramName)
    (fun line x gives => by rw [taken_of_given gives]; rfl) lines
  obtain ⟨earlier, all, -⟩ := lastTaken_append last
  rw [all] at takers givers
  constructor
  · rw [takers]
    simp [takes]
  · intro gives
    obtain ⟨value, gives⟩ := Option.isSome_iff_exists.mp gives
    obtain rfl : text = value := Option.some.inj (takes.symm.trans (taken_of_given gives))
    rw [lastGiven, givers]
    simp [gives]

theorem filterMap_none_of_lastTaken {lines : List CString}
    (none : lastTaken entry.paramName lines = none) :
    lines.filterMap (taken entry.paramName) = [] ∧ lastGiven entry.paramName lines = Option.none := by
  have takers := @filterMap_takers _ entry.paramName (taken entry.paramName)
    (fun line x takes => by rw [takes]; rfl) lines
  have givers := @filterMap_takers _ entry.paramName (given entry.paramName)
    (fun line x gives => by rw [taken_of_given gives]; rfl) lines
  rw [lastTaken, List.getLast?_eq_none_iff] at none
  rw [none] at takers givers
  exact ⟨takers, by rw [lastGiven, givers]; rfl⟩

theorem expected_iff {lines : List CString} (wellFormed : TakesWellFormed entry.paramName lines)
    (short : ∀ line ∈ lines, line.length ≤ locMaxParamString) (before : ParamValue δ) :
    ((lines.filterMap (taken entry.paramName)).getLast?.bind
        (storedValue lib entry.paramType)).getD before = expected lib entry lines before ↔
      HexIsZero lib entry (lastGiven entry.paramName lines) := by
  unfold expected HexIsZero
  cases last : lastTaken entry.paramName lines with
  | none =>
      obtain ⟨nothing, never⟩ := filterMap_none_of_lastTaken last
      simp [nothing, never]
  | some line =>
      have gives := wellFormed line last
      obtain ⟨text, found⟩ := Option.isSome_iff_exists.mp gives
      have takes := taken_of_given found
      obtain ⟨stored, meant⟩ := last_text last takes
      obtain ⟨-, -, member⟩ := lastTaken_append last
      have fits : text.length ≤ locMaxParamString :=
        Nat.le_trans (length_taken_le takes) (short line member)
      rw [stored, meant gives, Option.bind_some, Option.bind_some, storedValue_iff fits]
      simp

theorem blank_number {text : CString} (empty : blank text = true) :
    isHex text = false ∧ atoi text = 0 := by
  have nothing := (blank_iff text).mp empty
  constructor
  · unfold isHex
    split
    case h_1 c rest =>
      simp [blank, isspace] at empty
    case h_2 => rfl
  · simp only [atoi, strtol, nothing, leadingDigits]
    decide

theorem blank_unexpected {lines : List CString} (takesBlank : TakesBlank lib entry lines)
    (short : ∀ line ∈ lines, line.length ≤ locMaxParamString) (before : ParamValue δ) :
    ((lines.filterMap (taken entry.paramName)).getLast?.bind
        (storedValue lib entry.paramType)).getD before ≠ expected lib entry lines before := by
  obtain ⟨line, value, last, takes, empty⟩ := takesBlank.last
  obtain ⟨text, gives, other⟩ := takesBlank.gives
  obtain ⟨-, -, member⟩ := lastTaken_append last
  have fits : value.length ≤ locMaxParamString :=
    Nat.le_trans (length_taken_le takes) (short line member)
  rw [(last_text last takes).1, expected, gives, Option.bind_some, Option.bind_some]
  have types := takesBlank.paramType
  simp only [List.mem_cons, List.not_mem_nil, or_false] at types
  rcases types with number | string
  · obtain ⟨hex, zero⟩ := blank_number empty
    have stored : storedValue lib entry.paramType value = some (.number 0) := by
      simp [storedValue, valueOf, number, hex, zero]
    rw [stored, Option.getD_some]
    intro same
    apply other
    obtain ⟨meant, made⟩ : ∃ meant, valueOf lib entry.paramType text = some meant := by
      simp [valueOf, number]
    rw [made, Option.getD_some] at same
    rw [made, same]
  · obtain ⟨giver, -, found⟩ :=
      List.mem_filterMap.mp (List.mem_of_mem_getLast? (Option.mem_def.mpr gives))
    have visible := blank_of_given found
    have named : value ≠ "NULL".toList := by
      rintro rfl
      cases empty
    have stored : storedValue lib entry.paramType value = some (.string value) := by
      simp only [storedValue, string, if_true, if_neg named, List.take_of_length_le fits]
    have meant : valueOf lib entry.paramType text =
        some (.string (if text = "NULL".toList then [] else text)) := by
      simp only [valueOf, string, if_true]
    rw [stored, meant, Option.getD_some, Option.getD_some]
    intro same
    have same := ParamValue.string.inj same
    split_ifs at same
    · exact ne_nil_of_taken takes same
    · rw [same, visible] at empty
      cases empty

end Given

/-! ## Files -/

theorem clearFlags_flag {V F δ : Type*} [DecidableEq F] {table : List (LocParamS V F)}
    (m : ParamMemory V F δ) (flag : F) :
    (clearFlags table m).flags flag =
      if (table.filterMap LocParamS.paramSet).any (· == flag) then 0 else m.flags flag := by
  apply @foldl_mark _ _ _ (fun flags other => Function.update flags other 0) (fun flags => flags flag)
  intro flags other
  by_cases same : other = flag
  · simp [same]
  · simp [same, Function.update_of_ne (Ne.symm same)]

section Files
variable {V F δ : Type*} [DecidableEq V] [DecidableEq F] {lib : Doubles δ} {entry : LocParamS V F}
  {table : List (LocParamS V F)}

theorem read_value (separate : (table.filterMap LocParamS.paramPtr).Nodup)
    (member : entry ∈ table) {v : V} (points : entry.paramPtr = some v) (file : Option CString)
    (s : ConfState V F δ) :
    (locReadConf lib table file s).caller.values v =
      (((ConfFiles.pieces file).filterMap (taken entry.paramName)).getLast?.bind
        (storedValue lib entry.paramType)).getD (s.caller.values v) := by
  cases file with
  | none => rfl
  | some contents =>
      have pieces : ConfFiles.pieces (some contents) = fgetsAll locMaxParamLine contents := by
        simp [ConfFiles.pieces]
      rw [pieces, ← getLast?_filterMap_bind (storedValue_alike lib entry.paramType)]
      exact @foldl_last _ _ _ (readLine lib table) (fun s => s.caller.values v) _
        (fun s _ => line_value separate member points s) _ _

theorem read_other {v : V} (absent : some v ∉ table.map LocParamS.paramPtr)
    (file : Option CString) (s : ConfState V F δ) :
    (locReadConf lib table file s).caller.values v = s.caller.values v := by
  cases file with
  | none => rfl
  | some contents =>
      have still := @foldl_last _ _ _ (readLine lib table) (fun s => s.caller.values v)
        (fun _ => none) (fun s _ => line_other absent s)
        { s with caller := clearFlags table s.caller } (fgetsAll locMaxParamLine contents)
      rw [List.filterMap_none] at still
      exact still

theorem read_flag (contents : CString) (s : ConfState V F δ) (flag : F) :
    (locReadConf lib table (some contents) s).caller.flags flag =
      if (fgetsAll locMaxParamLine contents).any (marks lib table flag) then 1
      else (clearFlags table s.caller).flags flag :=
  @foldl_mark _ _ _ (readLine lib table) (fun s => s.caller.flags flag) _ _
    (fun s _ => line_flag table flag s) _ _

end Files

/-! ## The reader -/

theorem any_marks_of_order {V F δ : Type*} [DecidableEq F] {lib : Doubles δ}
    {table : List (LocParamS V F)} {flag : F} {lines others : List CString}
    (order : SameOrder lines others) :
    lines.any (marks lib table flag) = others.any (marks lib table flag) := by
  have within {lines others : List CString} (order : SameOrder lines others)
      (some : lines.any (marks lib table flag) = true) :
      others.any (marks lib table flag) = true := by
    obtain ⟨line, member, sets⟩ := List.any_eq_true.mp some
    obtain ⟨entry, -, through⟩ := List.any_eq_true.mp sets
    have takes : (taken entry.paramName line).isSome = true := by
      cases found : taken entry.paramName line with
      | none => simp [takenValue, found] at through
      | some text => rfl
    have kept : line ∈ lines.filter fun line => (taken entry.paramName line).isSome :=
      List.mem_filter.mpr ⟨member, takes⟩
    rw [order entry.paramName] at kept
    exact List.any_eq_true.mpr ⟨line, (List.mem_filter.mp kept).1, sets⟩
  rw [Bool.eq_iff_iff]
  exact ⟨within order, within fun name => (order name).symm⟩

section Reader
variable {V F δ : Type*} [DecidableEq V] [DecidableEq F]

theorem pieces_of_short {file : CString}
    (short : ∀ line ∈ linesOf file, line.length < locMaxParamLine) :
    ConfFiles.pieces (some file) = linesOf file := by
  simp [ConfFiles.pieces, fgetsAll_of_short short]

/-- Where the last line that the reader takes for each parameter is well formed, it leaves in every
variable the value given last, exactly if no float is given in base 16. A line with a blank value
that comes last is taken all the same. Lines of different parameters may change places. -/
theorem reads_last_iff (lib : Doubles δ) (table : List (LocParamS V F)) (file : CString)
    (s : ConfState V F δ) (short : ∀ line ∈ linesOf file, line.length < locMaxParamLine)
    (separate : (table.filterMap LocParamS.paramPtr).Nodup) :
    ((∀ entry ∈ table, entry.paramPtr.isSome →
        TakesWellFormed entry.paramName (linesOf file)) →
      (ReadsLast lib table (linesOf file) s.caller.values
          (locReadConf lib table (some file) s).caller.values ↔
        ∀ entry ∈ table, entry.paramPtr.isSome →
          HexIsZero lib entry (lastGiven entry.paramName (linesOf file)))) ∧
    (∀ entry ∈ table, entry.paramPtr.isSome → TakesBlank lib entry (linesOf file) →
      ¬ ReadsLast lib table (linesOf file) s.caller.values
        (locReadConf lib table (some file) s).caller.values) ∧
    ∀ other, (∀ line ∈ linesOf other, line.length < locMaxParamLine) →
      SameOrder (linesOf other) (linesOf file) →
        (locReadConf lib table (some other) s).caller =
          (locReadConf lib table (some file) s).caller := by
  have fits : ∀ line ∈ linesOf file, line.length ≤ locMaxParamString :=
    fun line inside => Nat.le_of_lt (short line inside)
  have stored (entry : LocParamS V F) (member : entry ∈ table) (v : V)
      (points : entry.paramPtr = some v) :
      (locReadConf lib table (some file) s).caller.values v =
        (((linesOf file).filterMap (taken entry.paramName)).getLast?.bind
          (storedValue lib entry.paramType)).getD (s.caller.values v) := by
    rw [read_value separate member points, pieces_of_short short]
  refine ⟨fun wellFormed => ?_, fun entry member pointed takesBlank reads => ?_, ?_⟩
  case refine_1 =>
    constructor
    · intro reads entry member pointed
      obtain ⟨v, points⟩ := Option.isSome_iff_exists.mp pointed
      rw [← expected_iff (wellFormed entry member pointed) fits (s.caller.values v),
        ← stored entry member v points]
      exact reads.entries entry member v points
    · intro hexIsZero
      refine ⟨fun entry member v points => ?_, fun v absent => read_other absent (some file) s⟩
      have pointed : entry.paramPtr.isSome := by rw [points]; rfl
      rw [stored entry member v points, expected_iff (wellFormed entry member pointed) fits]
      exact hexIsZero entry member pointed
  case refine_2 =>
    obtain ⟨v, points⟩ := Option.isSome_iff_exists.mp pointed
    apply blank_unexpected takesBlank fits (s.caller.values v)
    rw [← stored entry member v points]
    exact reads.entries entry member v points
  case refine_3 =>
    intro other within order
    apply ParamMemory.ext
    · funext v
      by_cases listed : some v ∈ table.map LocParamS.paramPtr
      · obtain ⟨entry, member, points⟩ := List.mem_map.mp listed
        have takers (lines : List CString) := @filterMap_takers _ entry.paramName
          (taken entry.paramName) (fun line x takes => by rw [takes]; rfl) lines
        rw [read_value separate member points, read_value separate member points, pieces_of_short within,
          pieces_of_short short, takers, takers (linesOf file), order]
      · rw [read_other listed, read_other listed]
    · funext flag
      rw [read_flag, read_flag, fgetsAll_of_short within, fgetsAll_of_short short]
      rw [any_marks_of_order order]

end Reader

def wholeDoubles : Doubles Int := ⟨0, atoi⟩

def walkTable : List (LocParamS Unit Empty) := [⟨"WALK".toList, some (), none, 'f'⟩]

def walkState : ConfState Unit Empty Int :=
  ⟨⟨fun _ => .float 7, nofun⟩, ⟨fun _ => .number 0, nofun⟩⟩

theorem reads_last_walk :
    ReadsLast wholeDoubles walkTable (linesOf "#WALK=1\n WALK = 2 \nWALK\n".toList)
      walkState.caller.values (locReadConf wholeDoubles walkTable
        (some "#WALK=1\n WALK = 2 \nWALK\n".toList) walkState).caller.values := by
  have reads := (reads_last_iff wholeDoubles walkTable "#WALK=1\n WALK = 2 \nWALK\n".toList
    walkState (by decide) (by decide)).1
  refine (reads fun entry member _ line last => ?_).mpr fun entry member _ _ hex gives base => ?_
  · obtain rfl := List.mem_singleton.mp member
    have found : lastTaken "WALK".toList (linesOf "#WALK=1\n WALK = 2 \nWALK\n".toList) =
        some " WALK = 2 \n".toList := by decide
    obtain rfl := Option.some.inj (found.symm.trans last)
    decide
  · obtain rfl := List.mem_singleton.mp member
    have value : lastGiven "WALK".toList (linesOf "#WALK=1\n WALK = 2 \nWALK\n".toList) =
        some "2".toList := by decide
    obtain rfl := Option.some.inj (value.symm.trans gives)
    revert base
    decide

/-- A line without a value sets its parameter to 0 after all. -/
theorem blank_line_is_taken :
    ¬ ReadsLast wholeDoubles walkTable (linesOf "WALK=2\nWALK=\n".toList)
      walkState.caller.values (locReadConf wholeDoubles walkTable
        (some "WALK=2\nWALK=\n".toList) walkState).caller.values := by
  intro reads
  have kept := reads.entries ⟨"WALK".toList, some (), none, 'f'⟩ (by simp [walkTable]) () rfl
  revert kept
  decide

/-! ## The two files of `loc_eng_read_config` -/

section ReadConfig
variable {δ : Type*} {lib : Doubles δ} {entry : LocParamS ConfField ConfFlag} {files : ConfFiles}

theorem table_separate : (locParameterTable.filterMap LocParamS.paramPtr).Nodup := by decide

/-- Every parameter with a flag is a float with a variable, and has the flag alone. -/
theorem flagged_entry : ∀ entry ∈ locParameterTable, entry.paramSet.isSome →
    entry.paramType = 'f' ∧ entry.paramPtr.isSome ∧
      ∀ other ∈ locParameterTable, other.paramSet = entry.paramSet → other = entry := by
  decide

theorem storedValue_float (lib : Doubles δ) (text : CString) :
    (storedValue lib 'f' text).isSome := by
  simp [storedValue, valueOf, apply_ite]

theorem takenValue_flagged (float : entry.paramType = 'f') (piece : CString) :
    (takenValue lib entry piece).isSome = (taken entry.paramName piece).isSome := by
  unfold takenValue
  cases taken entry.paramName piece with
  | none => rfl
  | some text =>
      rw [float]
      exact storedValue_float lib text

theorem marks_flagged (member : entry ∈ locParameterTable) {flag : ConfFlag}
    (set : entry.paramSet = some flag) (piece : CString) :
    marks lib locParameterTable flag piece = (taken entry.paramName piece).isSome := by
  obtain ⟨float, pointer, alone⟩ := flagged_entry entry member (by rw [set]; rfl)
  rw [← @takenValue_flagged δ lib entry float, Bool.eq_iff_iff, marks, List.any_eq_true]
  constructor
  · intro ⟨other, among, sets⟩
    simp only [Bool.and_eq_true, beq_iff_eq] at sets
    obtain rfl := alone other among (sets.1.2.trans set.symm)
    exact sets.2
  · intro writes
    exact ⟨entry, member, by simp [pointer, set, writes]⟩

theorem clear_flag (member : entry ∈ locParameterTable) {flag : ConfFlag}
    (set : entry.paramSet = some flag) (m : ParamMemory ConfField ConfFlag δ) :
    (clearFlags locParameterTable m).flags flag = 0 := by
  rw [clearFlags_flag, if_pos]
  exact List.any_eq_true.mpr ⟨flag, List.mem_filterMap.mpr ⟨entry, member, set⟩, beq_self_eq_true flag⟩

def readBoth (lib : Doubles δ) (conf : ConfState ConfField ConfFlag δ) (files : ConfFiles) :
    ParamMemory ConfField ConfFlag δ :=
  (locEngReadConfig lib ⟨false, conf⟩ files).conf.caller

theorem read_again (lib : Doubles δ) (conf : ConfState ConfField ConfFlag δ)
    (files : ConfFiles) (later : List ConfFiles) :
    (later.foldl (locEngReadConfig lib) (locEngReadConfig lib ⟨false, conf⟩ files)).conf.caller =
      readBoth lib conf files := by
  rw [List.foldl_fixed' (fun _ => rfl) later]
  rfl

theorem readBoth_flag (member : entry ∈ locParameterTable) {flag : ConfFlag}
    (set : entry.paramSet = some flag) (conf : ConfState ConfField ConfFlag δ) :
    (readBoth lib conf files).flags flag =
      if (ConfFiles.pieces files.lastRead).any fun piece => (taken entry.paramName piece).isSome
      then 1 else 0 := by
  have read (contents : CString) (s : ConfState ConfField ConfFlag δ) :
      (locReadConf lib locParameterTable (some contents) s).caller.flags flag =
        if (ConfFiles.pieces (some contents)).any fun piece => (taken entry.paramName piece).isSome
        then 1 else 0 := by
    have pieces : ConfFiles.pieces (some contents) = fgetsAll locMaxParamLine contents := by
      simp [ConfFiles.pieces]
    have same : marks lib locParameterTable flag = fun piece =>
        (taken entry.paramName piece).isSome := funext (marks_flagged member set)
    rw [read_flag, clear_flag member set, pieces, same]
  obtain ⟨gps, sap⟩ := files
  cases sap with
  | some contents => exact read contents _
  | none =>
      cases gps with
      | some contents => exact read contents _
      | none => rfl

theorem readBoth_value (member : entry ∈ locParameterTable) {v : ConfField}
    (points : entry.paramPtr = some v) (float : entry.paramType = 'f')
    (conf : ConfState ConfField ConfFlag δ) {last : CString}
    (takes : ((ConfFiles.pieces files.gps ++ ConfFiles.pieces files.sap).filterMap
      (taken entry.paramName)).getLast? = some last) :
    some ((readBoth lib conf files).values v) = storedValue lib entry.paramType last := by
  obtain ⟨value, stored⟩ := Option.isSome_iff_exists.mp (storedValue_float lib last)
  rw [List.filterMap_append, List.getLast?_append] at takes
  show some ((locReadConf lib locParameterTable files.sap (locReadConf lib locParameterTable files.gps
    { conf with caller := locDefaultParameters lib conf.caller })).caller.values v) = _
  rw [read_value table_separate member points, read_value table_separate member points, float, stored]
  cases sap : ((ConfFiles.pieces files.sap).filterMap (taken entry.paramName)).getLast? with
  | some text =>
      rw [sap, Option.some_or] at takes
      obtain rfl := Option.some.inj takes
      rw [Option.bind_some, stored]
      rfl
  | none =>
      rw [sap, Option.none_or] at takes
      rw [takes, Option.bind_some, stored]
      rfl

theorem read_line {name line : CString} {stream : CString} (listed : line ∈ linesOf stream)
    (read : if line.length < locMaxParamLine then (taken name line).isSome → (given name line).isSome
      else given name line = none ∧ ∀ piece ∈ fgetsAll locMaxParamLine line, taken name piece = none) :
    (fgetsAll locMaxParamLine line).filterMap (taken name) = (given name line).toList := by
  split_ifs at read with short
  · rw [fgetsAll_short listed short]
    cases gives : given name line with
    | some text => simp [taken_of_given gives]
    | none =>
        have untaken : taken name line = none := by
          rw [gives, Option.isSome_none] at read
          simpa using read
        simp [untaken]
  · rw [read.1, List.filterMap_eq_nil_iff.mpr read.2]
    rfl

theorem pieces_read {name : CString} {file : Option CString} (read : LinesRead name file) :
    (ConfFiles.pieces file).filterMap (taken name) =
      (file.toList.flatMap linesOf).filterMap (given name) := by
  cases file with
  | none => rfl
  | some contents =>
      have lines : ConfFiles.pieces (some contents) =
          (linesOf contents).flatMap (fgetsAll locMaxParamLine) := by
        simp [ConfFiles.pieces, fgetsAll_lines]
      have own : (some contents).toList.flatMap linesOf = linesOf contents := by simp
      rw [LinesRead, own] at read
      rw [lines, own, List.filterMap_flatMap, List.filterMap_eq_flatMap_toList]
      exact List.flatMap_congr fun line listed => read_line listed (read line listed)

theorem named_iff {name : CString} {file : Option CString} (read : LinesRead name file) :
    (∃ piece ∈ ConfFiles.pieces file, (taken name piece).isSome) ↔
      ∃ line ∈ file.toList.flatMap linesOf, (given name line).isSome := by
  have some {lines : List CString} {f : CString → Option CString} :
      (∃ line ∈ lines, (f line).isSome) ↔ lines.filterMap f ≠ [] := by
    rw [Ne, List.filterMap_eq_nil_iff]
    simp [Option.isSome_iff_ne_none]
  rw [some, some, pieces_read read]

theorem lastRead_gives_iff {name : CString} :
    ((∃ line ∈ files.lastRead.toList.flatMap linesOf, (given name line).isSome) ↔
      files.Gives name) ↔ SapCarries files name := by
  obtain ⟨gps, sap⟩ := files
  rw [ConfFiles.Gives, ConfFiles.lines, ConfFiles.lastRead, SapCarries]
  cases sap with
  | none => simp
  | some sap =>
      cases gps with
      | none => simp
      | some gps =>
          simp only [Option.some_or, Option.toList_some, List.flatMap_cons, List.flatMap_nil,
            List.append_nil, List.mem_append, or_and_right, exists_or]
          constructor
          · rintro all _ _ ⟨⟩ ⟨⟩ gives
            exact all.mpr (.inl gives)
          · intro carries
            exact ⟨.inr, fun gives => gives.elim (carries gps sap rfl rfl) id⟩

/-- Where the reader gets the lines that concern a parameter, its flag and its value are right exactly
if what the first file gives is given again by the second, and not in base 16. -/
theorem valid_iff (member : entry ∈ locParameterTable) (set : entry.paramSet.isSome)
    (gps : LinesRead entry.paramName files.gps) (sap : LinesRead entry.paramName files.sap)
    (conf : ConfState ConfField ConfFlag δ) :
    ValidWhenGiven lib files entry (readBoth lib conf files) ↔
      SapCarries files entry.paramName ∧
        HexIsZero lib entry (lastGiven entry.paramName files.lines) := by
  obtain ⟨float, pointer, -⟩ := flagged_entry entry member set
  obtain ⟨flag, set⟩ := Option.isSome_iff_exists.mp set
  obtain ⟨v, points⟩ := Option.isSome_iff_exists.mp pointer
  have readLast : LinesRead entry.paramName files.lastRead := by
    obtain ⟨first, second⟩ := files
    cases second with
    | none => exact gps
    | some contents => exact sap
  have flags : (readBoth lib conf files).flags flag = 1 ↔
      ∃ line ∈ files.lastRead.toList.flatMap linesOf, (given entry.paramName line).isSome := by
    rw [← named_iff readLast, readBoth_flag member set, ← List.any_eq_true]
    split_ifs with names <;> simp [names]
  have values (text : CString) (gives : lastGiven entry.paramName files.lines = some text) :
      some ((readBoth lib conf files).values v) = valueOf lib entry.paramType text ↔
        (isHex text → lib.atof text = lib.zero) := by
    have takes : ((ConfFiles.pieces files.gps ++ ConfFiles.pieces files.sap).filterMap
        (taken entry.paramName)).getLast? = some text := by
      rw [List.filterMap_append, pieces_read gps, pieces_read sap, ← List.filterMap_append]
      exact gives
    rw [readBoth_value member points float conf takes, float]
    by_cases hex : isHex text = true
    · simp [storedValue, valueOf, hex, eq_comm]
    · simp [storedValue, valueOf, hex]
  rw [← lastRead_gives_iff, ← flags]
  constructor
  · intro valid
    exact ⟨valid.flag flag set, fun _ text gives => (values text gives).mp (valid.value v text points gives)⟩
  · rintro ⟨carries, hexIsZero⟩
    constructor
    case flag =>
      intro other same
      obtain rfl := Option.some.inj (set.symm.trans same)
      exact carries
    case value =>
      intro w text points' gives
      obtain rfl := Option.some.inj (points.symm.trans points')
      exact (values text gives).mpr (hexIsZero float text gives)

/-- A parameter that is given, but that no piece of the file read last names. -/
theorem not_valid_of_unnamed (member : entry ∈ locParameterTable) (set : entry.paramSet.isSome)
    (gives : files.Gives entry.paramName)
    (unnamed : ∀ piece ∈ ConfFiles.pieces files.lastRead, taken entry.paramName piece = none)
    (conf : ConfState ConfField ConfFlag δ) :
    ¬ ValidWhenGiven lib files entry (readBoth lib conf files) := by
  intro valid
  obtain ⟨flag, set⟩ := Option.isSome_iff_exists.mp set
  have one := (valid.flag flag set).mpr gives
  rw [readBoth_flag member set, if_neg] at one
  · exact absurd one (by decide)
  · rw [List.any_eq_true]
    rintro ⟨piece, listed, names⟩
    rw [unnamed piece listed] at names
    cases names

/-- For each parameter with a flag whose lines the reader gets, the flag says whether it was given and
the parameter holds it, exactly if `sap.conf`, where it opens, gives what `gps.conf` does, and no
value but zero is in base 16. If the file read last does not name it at all, they never agree. Later
calls read nothing. -/
theorem validity_flags_iff (lib : Doubles δ) (conf : ConfState ConfField ConfFlag δ)
    (files : ConfFiles) (later : List ConfFiles) :
    ∀ entry ∈ locParameterTable, entry.paramSet.isSome →
      (LinesRead entry.paramName files.gps → LinesRead entry.paramName files.sap →
        (ValidWhenGiven lib files entry (later.foldl (locEngReadConfig lib)
            (locEngReadConfig lib ⟨false, conf⟩ files)).conf.caller ↔
          SapCarries files entry.paramName ∧
            HexIsZero lib entry (lastGiven entry.paramName files.lines))) ∧
      (files.Gives entry.paramName →
        (∀ piece ∈ ConfFiles.pieces files.lastRead, taken entry.paramName piece = none) →
        ¬ ValidWhenGiven lib files entry (later.foldl (locEngReadConfig lib)
          (locEngReadConfig lib ⟨false, conf⟩ files)).conf.caller) := by
  intro entry member set
  rw [read_again]
  exact ⟨fun gps sap => valid_iff member set gps sap conf,
    fun gives unnamed => not_valid_of_unnamed member set gives unnamed conf⟩

end ReadConfig

def walkEntry : LocParamS ConfField ConfFlag :=
  ⟨"GYRO_BIAS_RANDOM_WALK".toList, some .gyroBiasRandomWalk, some .gyroBiasRandomWalkValid, 'f'⟩

def freshConf : ConfState ConfField ConfFlag Int :=
  ⟨⟨fun _ => .number 0, fun _ => 0⟩, ⟨fun _ => .number 0, nofun⟩⟩

def againFiles : ConfFiles :=
  ⟨some "GYRO_BIAS_RANDOM_WALK=3\n".toList,
    some "# WALK=5\nGYRO_BIAS_RANDOM_WALK = 4\nSENSOR_USAGE=1\n".toList⟩

theorem validity_flags_again :
    ValidWhenGiven wholeDoubles againFiles walkEntry
      (locEngReadConfig wholeDoubles ⟨false, freshConf⟩ againFiles).conf.caller := by
  have flags := (validity_flags_iff wholeDoubles freshConf againFiles [] walkEntry (by decide) rfl).1
  refine (flags ?_ ?_).mpr ⟨?_, ?_⟩
  · unfold LinesRead
    decide
  · unfold LinesRead
    decide
  · rintro _ _ ⟨⟩ ⟨⟩ _
    decide
  · intro _ hex gives base
    have value : lastGiven walkEntry.paramName againFiles.lines = some "4".toList := by decide
    obtain rfl := Option.some.inj (value.symm.trans gives)
    revert base
    decide

def apartFiles : ConfFiles :=
  ⟨some "GYRO_BIAS_RANDOM_WALK=3\n".toList, some "SENSOR_USAGE=1\n".toList⟩

/-- The second file takes the flag back that the first has set. -/
theorem flag_taken_back :
    ¬ ∀ entry ∈ locParameterTable, entry.paramSet.isSome →
      ValidWhenGiven wholeDoubles apartFiles entry
        (locEngReadConfig wholeDoubles ⟨false, freshConf⟩ apartFiles).conf.caller := by
  intro valid
  have walk := valid walkEntry (by decide) rfl
  have given : apartFiles.Gives walkEntry.paramName :=
    ⟨"GYRO_BIAS_RANDOM_WALK=3\n".toList, by decide, by decide⟩
  have set := (walk.flag .gyroBiasRandomWalkValid rfl).mpr given
  revert set
  decide

end VibeXperia.Proof.Gps

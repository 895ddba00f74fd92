import VibeXperia.Shims.GraphicBuffer

namespace VibeXperia.Proof.Shims
open Lib VibeXperia.Shims

/-! ## Flattened buffers -/

variable {x : Image} {p p' : Parcel} {c c' : Cursor}

/-- What `unflatten` accepts. -/
def Small (x : Image) : Prop := x.numFds < 4096 ∧ x.numInts < 4096 - 10

def kept (x : Image) : Image := if x.numFds = 0 ∧ x.numInts = 0 then .blank else x

structure Stands (p : Parcel) (c : Cursor) (x : Image) : Prop where
  ints : load p.ints c.buffer (8 + x.numInts) = x.words
  fds : load p.fds c.fds x.numFds = (x.handle.map NativeHandle.fds).getD []

theorem length_words : x.words.length = 8 + x.numInts := by
  cases handle : x.handle with
  | none => simp [Image.words, Image.numInts, handle]
  | some h =>
      simp only [Image.words, Image.numInts, handle, Option.map_some, Option.getD_some,
        List.length_append, List.length_cons, List.length_nil]

theorem length_fds : ((x.handle.map NativeHandle.fds).getD []).length = x.numFds := by
  cases handle : x.handle with
  | none => simp [Image.numFds, handle]
  | some h => simp [Image.numFds, handle]

theorem flatten_cases {status : Status} (flattened : x.flatten p c = (status, p', c')) :
    status = .noMemory ∧ p' = p ∧ c' = c ∨
    status = .noError ∧ x.getFlattenedSize ≤ c.size ∧ x.numFds ≤ c.count ∧ Stands p' c x ∧
      c' = Image.advance c x.getFlattenedSize x.numFds := by
  simp only [Image.flatten] at flattened
  by_cases room : c.size < x.getFlattenedSize
  · rw [if_pos room] at flattened
    cases flattened
    exact .inl ⟨rfl, rfl, rfl⟩
  rw [if_neg room] at flattened
  by_cases count : c.count < x.getFdCount
  · rw [if_pos count] at flattened
    cases flattened
    exact .inl ⟨rfl, rfl, rfl⟩
  rw [if_neg count] at flattened
  cases flattened
  refine .inr ⟨rfl, Nat.le_of_not_lt room, Nat.le_of_not_lt count, ⟨?_, ?_⟩, rfl⟩
  · rw [← length_words]
    exact load_store
  · rw [← length_fds]
    exact load_store

/-- The bytes of an image fit a size. -/
def SizeFits (x : Image) : Prop := (8 + x.numInts) * 4 < 2 ^ 32

theorem getFlattenedSize_fits (fits : SizeFits x) : x.getFlattenedSize = (8 + x.numInts) * 4 := by
  rw [Image.getFlattenedSize, Nat.mod_eq_of_lt fits]

theorem Small.fits (small : Small x) : SizeFits x := by
  have bound := small.2
  rw [SizeFits]
  omega

theorem getFlattenedSize_small (small : Small x) : x.getFlattenedSize = (8 + x.numInts) * 4 :=
  getFlattenedSize_fits small.fits

theorem Stands.word (stands : Stands p c x) {k : Nat} (inside : k < x.words.length) :
    p.ints (c.buffer + k) = x.words[k] := by
  have same := stands.ints
  have here : (load p.ints c.buffer (8 + x.numInts))[k]? = x.words[k]? := by rw [same]
  rw [length_words] at inside
  simpa [load, inside, length_words, List.getElem?_eq_getElem] using here

theorem Stands.contents (stands : Stands p c x) {h : NativeHandle} (handle : x.handle = some h) :
    (⟨load p.fds c.fds x.numFds, load p.ints (c.buffer + 8) x.numInts⟩ : NativeHandle) = h := by
  have fds := stands.fds
  have ints := stands.ints
  rw [handle] at fds
  rw [load_add, Image.words, handle] at ints
  obtain ⟨-, ints⟩ := List.append_inj ints length_load
  rw [fds, ints]
  rfl

theorem handle_of_words (words : x.numFds ≠ 0 ∨ x.numInts ≠ 0) : ∃ h, x.handle = some h := by
  cases handle : x.handle with
  | none => simp [Image.numFds, Image.numInts, handle] at words
  | some h => exact ⟨h, rfl⟩

section Unflatten
variable {ι : Type*} [DecidableEq ι] {s s' : Graphics ι} {i : ι} {g : GraphicBuffer}

def Restored (s s' : Graphics ι) (i : ι) (x : Image) : Prop :=
  ∃ g, s'.buffer = Function.update s.buffer i (some g) ∧ s'.image g = x ∧
    ∀ h, g.handle = some h → h = s.next ∧ h < s'.next

omit [DecidableEq ι] in
theorem freeAny_same (freed : Bool) : (s.freeAny g freed).1.buffer = s.buffer ∧
    (s.freeAny g freed).1.next = s.next ∧
    ∀ h, g.handle ≠ some h → (s.freeAny g freed).1.native h = s.native h := by
  rw [Graphics.freeAny]
  split
  · next handle here =>
      have other {h : Nat} (apart : g.handle ≠ some h) :
          Function.update s.native handle none h = s.native h := by
        apply Function.update_of_ne
        rintro rfl
        exact apart here
      rw [Graphics.freeHandle]
      split
      · exact ⟨rfl, rfl, fun h => other⟩
      · cases freed with
        | false => exact ⟨rfl, rfl, fun _ _ => rfl⟩
        | true => exact ⟨rfl, rfl, fun h => other⟩
      · exact ⟨rfl, rfl, fun _ _ => rfl⟩
  · exact ⟨rfl, rfl, fun _ _ => rfl⟩

def announced (p : Parcel) (c : Cursor) : Nat × Nat :=
  ((p.ints (c.buffer + 6)).toNat, (p.ints (c.buffer + 7)).toNat)

def Headed (p : Parcel) (c : Cursor) : Prop := 8 * 4 ≤ c.size ∧ p.ints (c.buffer + 0) = gbfr

def TooLarge (p : Parcel) (c : Cursor) : Prop :=
  Headed p c ∧ ((announced p c).1 ≥ 4096 ∨ (announced p c).2 ≥ 4096 - 10)

def Accepted (p : Parcel) (c : Cursor) : Prop :=
  Headed p c ∧ (announced p c).1 < 4096 ∧ (announced p c).2 < 4096 - 10 ∧
    (8 + (announced p c).2) * 4 ≤ c.size ∧ (announced p c).1 ≤ c.count

def Worded (p : Parcel) (c : Cursor) : Prop := (announced p c).1 ≠ 0 ∨ (announced p c).2 ≠ 0

inductive Unflattens (s : Graphics ι) (i : ι) (g : GraphicBuffer) (p : Parcel) (c : Cursor)
    (creates freed : Bool) (registers : Int) : Graphics ι → List GraphicsEffect → Prop
  | refuses (status) (small : ¬TooLarge p c) (refused : ¬Accepted p c) :
      Unflattens s i g p c creates freed registers s [.returns status]
  | tooLarge (large : TooLarge p c) :
      Unflattens s i g p c creates freed registers (s.set i g.cleared) [.returns .badValue]
  | uncreated (accepted : Accepted p c) (fails : creates = false) :
      Unflattens s i g p c creates freed registers ((s.freeAny g freed).1.set i g.cleared)
        ((s.freeAny g freed).2 ++ [.returns .noMemory])
  | unregistered (handle) (accepted : Accepted p c) (words : Worded p c)
      (created : creates = true) (fails : registers ≠ 0) :
      Unflattens s i g p c creates freed registers
        (((s.freeAny g freed).1.made handle).set i { g.cleared with mOwner := .ownHandle })
        ((s.freeAny g freed).2 ++ [.creates (s.freeAny g freed).1.next,
          .registers (s.freeAny g freed).1.next, .returns (.failed registers)])
  | restores (handle g') (accepted : Accepted p c) (succeeds : registers = 0)
      (here : g'.handle = some (s.freeAny g freed).1.next) (owner : g'.mOwner = .ownHandle) :
      Unflattens s i g p c creates freed registers (((s.freeAny g freed).1.made handle).set i g')
        ((s.freeAny g freed).2 ++ [.creates (s.freeAny g freed).1.next,
          .registers (s.freeAny g freed).1.next, .returns .noError])
  | empties (accepted : Accepted p c) (words : ¬Worded p c) :
      Unflattens s i g p c creates freed registers
        ((s.freeAny g freed).1.set i { g.cleared with mOwner := .ownHandle })
        ((s.freeAny g freed).2 ++ [.returns .noError])

theorem unflatten_unflattens (creates freed : Bool) (registers : Int) :
    Unflattens s i g p c creates freed registers
      (s.unflatten i g p c creates freed registers).1
      (s.unflatten i g p c creates freed registers).2.2 := by
  simp only [Graphics.unflatten]
  split_ifs with size magic large room count words uncreated registers
  · exact .refuses _ (fun large => by have := large.1.1; omega) fun accepted => by
      have := accepted.1.1
      omega
  · exact .refuses _ (fun large => magic large.1.2) fun accepted => magic accepted.1.2
  · exact .tooLarge ⟨⟨Nat.le_of_not_lt size, not_not.mp magic⟩, large⟩
  · exact .refuses _ (fun so => large so.2) fun accepted =>
      Nat.not_lt.mpr accepted.2.2.2.1 room
  · exact .refuses _ (fun so => large so.2) fun accepted =>
      Nat.not_lt.mpr accepted.2.2.2.2 count
  all_goals
    obtain ⟨fewFds, fewInts⟩ := not_or.mp large
    have accepted : Accepted p c :=
      ⟨⟨Nat.le_of_not_lt size, not_not.mp magic⟩, Nat.lt_of_not_le fewFds,
        Nat.lt_of_not_le fewInts, Nat.le_of_not_lt room, Nat.le_of_not_lt count⟩
  · exact .uncreated accepted (by simpa using uncreated)
  · rw [List.append_assoc]
    exact .unregistered _ accepted words (by simpa using uncreated) registers
  · rw [List.append_assoc]
    exact .restores _ _ accepted (not_not.mp registers) rfl rfl
  · exact .empties accepted words

theorem Unflattens.frame {creates freed : Bool} {registers : Int} {effects : List GraphicsEffect}
    (moves : Unflattens s i g p c creates freed registers s' effects) :
    (∀ j, j ≠ i → s'.buffer j = s.buffer j) ∧ s.next ≤ s'.next ∧
      ∀ h < s.next, g.handle ≠ some h → s'.native h = s.native h := by
  obtain ⟨buffer, next, native⟩ := @freeAny_same ι s g freed
  cases moves with
  | refuses => exact ⟨fun _ _ => rfl, Nat.le_refl _, fun _ _ _ => rfl⟩
  | tooLarge =>
      exact ⟨fun j other => Function.update_of_ne other _ _, Nat.le_refl _, fun _ _ _ => rfl⟩
  | uncreated | empties =>
      refine ⟨fun j other => ?_, Nat.le_of_eq next.symm, fun h _ => native h⟩
      simp only [Graphics.set, Function.update_of_ne other, buffer]
  | unregistered | restores =>
      refine ⟨fun j other => ?_, Nat.le_succ_of_le (Nat.le_of_eq next.symm),
        fun h below apart => ?_⟩
      · simp only [Graphics.set, Graphics.made, Function.update_of_ne other, buffer]
      · simp only [Graphics.set, Graphics.made, next]
        rw [Function.update_of_ne (Nat.ne_of_lt below), native h apart]

theorem header_words (stands : Stands p c x) :
    p.ints (c.buffer + 0) = gbfr ∧ p.ints (c.buffer + 1) = x.width ∧
      p.ints (c.buffer + 2) = x.height ∧ p.ints (c.buffer + 3) = x.stride ∧
      p.ints (c.buffer + 4) = x.format ∧ p.ints (c.buffer + 5) = x.usage ∧
      p.ints (c.buffer + 6) = (x.handle.map NativeHandle.numFds).getD 0 ∧
      p.ints (c.buffer + 7) = (x.handle.map NativeHandle.numInts).getD 0 := by
  have inside {k : Nat} (small : k < 8) : k < x.words.length := by
    rw [length_words]
    omega
  exact ⟨stands.word (inside (by decide)), stands.word (inside (by decide)),
    stands.word (inside (by decide)), stands.word (inside (by decide)),
    stands.word (inside (by decide)), stands.word (inside (by decide)),
    stands.word (inside (by decide)), stands.word (inside (by decide))⟩

theorem header_counts (stands : Stands p c x) (small : Small x) :
    (p.ints (c.buffer + 6)).toNat = x.numFds ∧ (p.ints (c.buffer + 7)).toNat = x.numInts := by
  obtain ⟨-, -, -, -, -, -, fds, ints⟩ := header_words stands
  obtain ⟨fewFds, fewInts⟩ := small
  rw [fds, ints]
  rw [Image.numFds] at fewFds ⊢
  rw [Image.numInts] at fewInts ⊢
  cases handle : x.handle with
  | none => exact ⟨rfl, rfl⟩
  | some h =>
      rw [handle] at fewFds fewInts
      simp only [Option.map_some, Option.getD_some, NativeHandle.numFds, NativeHandle.numInts,
        BitVec.toNat_ofNat] at fewFds fewInts ⊢
      exact ⟨Nat.mod_eq_of_lt (by omega), Nat.mod_eq_of_lt (by omega)⟩

theorem unflatten_stands (stands : Stands p c x) (small : Small x)
    (room : (8 + x.numInts) * 4 ≤ c.size) (count : x.numFds ≤ c.count) (freed : Bool) :
    ∃ s' effects, s.unflatten i g p c true freed 0 =
        (s', Image.advance c x.getFlattenedSize x.numFds, effects ++ [.returns .noError]) ∧
      Restored s s' i (kept x) := by
  obtain ⟨magic, width, height, stride, format, usage, -, -⟩ := header_words stands
  obtain ⟨numFds, numInts⟩ := header_counts stands small
  obtain ⟨fewFds, fewInts⟩ := small
  obtain ⟨buffer, next, -⟩ := @freeAny_same ι s g freed
  have header : ¬c.size < 8 * 4 := by omega
  have few : ¬(x.numFds ≥ 4096 ∨ x.numInts ≥ 4096 - 10) := by omega
  simp only [Graphics.unflatten, magic, width, height, stride, format, usage, numFds, numInts]
  rw [if_neg header, if_neg (not_not_intro rfl), if_neg few, if_neg (Nat.not_lt.mpr room),
    if_neg (Nat.not_lt.mpr count), getFlattenedSize_small ⟨fewFds, fewInts⟩]
  by_cases words : x.numFds ≠ 0 ∨ x.numInts ≠ 0
  · rw [if_pos words]
    refine ⟨_, _, rfl, _, congrArg (Function.update · i _) buffer, ?_, ?_⟩
    · obtain ⟨h, handle⟩ := handle_of_words words
      have some_words : ¬(x.numFds = 0 ∧ x.numInts = 0) := by omega
      rw [kept, if_neg some_words, Graphics.image]
      simp only [Graphics.set, Graphics.made, Option.bind_some, Function.update_self,
        stands.contents handle]
      rw [← handle]
    · intro h here
      cases here
      exact ⟨next, Nat.lt_succ_self _⟩
  · rw [if_neg words]
    refine ⟨_, _, rfl, _, congrArg (Function.update · i _) buffer, ?_, ?_⟩
    · have no_words : x.numFds = 0 ∧ x.numInts = 0 := by omega
      rw [kept, if_pos no_words]
      rfl
    · intro h here
      cases here

/-! ### Several in a row -/

def flattenAll : List Image → Parcel → Cursor → Option (Parcel × Cursor)
  | [], p, c => some (p, c)
  | x :: xs, p, c =>
      match x.flatten p c with
      | (.noError, p, c) => flattenAll xs p c
      | _ => none

/-- Buffers are restored one after the other, without a failure of `native_handle_create` or of the
gralloc module. -/
def unflattenAll (s : Graphics ι) : List ι → Parcel → Cursor → Graphics ι × Cursor
  | [], _, c => (s, c)
  | i :: is, p, c =>
      match s.buffer i with
      | some g =>
          let (s, c, _) := s.unflatten i g p c true true 0
          unflattenAll s is p c
      | none => (s, c)

theorem flattenAll_cons {xs : List Image} (flattened : flattenAll (x :: xs) p c = some (p', c')) :
    ∃ q, x.flatten p c = (.noError, q, Image.advance c x.getFlattenedSize x.numFds) ∧
      x.getFlattenedSize ≤ c.size ∧ x.numFds ≤ c.count ∧ Stands q c x ∧
      flattenAll xs q (Image.advance c x.getFlattenedSize x.numFds) = some (p', c') := by
  rw [flattenAll] at flattened
  split at flattened
  · next q after first =>
      rcases flatten_cases first with ⟨failed, -, -⟩ | ⟨-, room, count, stands, rfl⟩
      · cases failed
      · exact ⟨q, first, room, count, stands, flattened⟩
  · cases flattened

theorem flattenAll_behind {xs : List Image} (flattened : flattenAll xs p c = some (p', c')) :
    (∀ place n, place + n ≤ c.buffer → load p'.ints place n = load p.ints place n) ∧
      ∀ place n, place + n ≤ c.fds → load p'.fds place n = load p.fds place n := by
  induction xs generalizing p c with
  | nil =>
      cases flattened
      exact ⟨fun _ _ _ => rfl, fun _ _ _ => rfl⟩
  | cons x xs ih =>
      obtain ⟨q, first, -, -, -, rest⟩ := flattenAll_cons flattened
      obtain ⟨ints, fds⟩ := ih rest
      have written : q.ints = store p.ints c.buffer x.words ∧
          q.fds = store p.fds c.fds ((x.handle.map NativeHandle.fds).getD []) := by
        simp only [Image.flatten] at first
        split at first
        · cases first
        · split at first
          · cases first
          · cases first
            exact ⟨rfl, rfl⟩
      constructor
      · intro place n front
        rw [ints place n (Nat.le_add_right_of_le front), written.1]
        exact load_store_apart (.inl front)
      · intro place n front
        rw [fds place n (Nat.le_add_right_of_le front), written.2]
        exact load_store_apart (.inl front)

/-- The handle of each of the buffers, if any, has been made. -/
def Known (s : Graphics ι) (is : List ι) : Prop :=
  ∀ i ∈ is, ∀ g h, s.buffer i = some g → g.handle = some h → h < s.next

omit [DecidableEq ι] in
theorem Known.rest {i : ι} {is : List ι} (known : Known s (i :: is)) (absent : i ∉ is)
    (others : ∀ j, j ≠ i → s'.buffer j = s.buffer j) (next : s.next ≤ s'.next) :
    Known s' is := by
  intro j member g h here handle
  rw [others j fun same => absent (same ▸ member)] at here
  exact Nat.lt_of_lt_of_le (known j (by simp [member]) g h here handle) next

theorem unflattenAll_frame {is : List ι} (apart : is.Nodup) :
    (∀ j, j ∉ is → (unflattenAll s is p c).1.buffer j = s.buffer j) ∧
      ∀ h < s.next, (∀ j ∈ is, ∀ g, s.buffer j = some g → g.handle ≠ some h) →
        (unflattenAll s is p c).1.native h = s.native h := by
  induction is generalizing s c with
  | nil => exact ⟨fun _ _ => rfl, fun _ _ _ => rfl⟩
  | cons i is ih =>
      obtain ⟨absent, apart⟩ := List.nodup_cons.mp apart
      rw [unflattenAll]
      split
      · next g here =>
          obtain ⟨others, next, native⟩ :=
            (@unflatten_unflattens p c ι _ s i g true true 0).frame
          obtain ⟨others', native'⟩ := @ih (s.unflatten i g p c true true 0).2.1
            (s.unflatten i g p c true true 0).1 apart
          refine ⟨fun j absent => ?_, fun h below unused => ?_⟩
          · obtain ⟨other, absent⟩ := List.ne_and_not_mem_of_not_mem_cons absent
            rw [others' j absent, others j other]
          · rw [native' h (Nat.lt_of_lt_of_le below next) fun j member g' here' => ?_,
              native h below (unused i (by simp) g here)]
            rw [others j fun same => absent (same ▸ member)] at here'
            exact unused j (by simp [member]) g' here'
      · exact ⟨fun _ _ => rfl, fun _ _ _ => rfl⟩

/-- Buffers that are flattened in a row all come back. -/
theorem flattened_come_back {xs : List Image} {is : List ι}
    (flattened : flattenAll xs p c = some (p', c')) (small : ∀ x ∈ xs, Small x)
    (many : is.length = xs.length) (apart : is.Nodup) (there : ∀ i ∈ is, s.buffer i ≠ none)
    (known : Known s is) :
    (unflattenAll s is p' c).2 = c' ∧
      List.Forall₂ (fun i x => ∃ g, (unflattenAll s is p' c).1.buffer i = some g ∧
        (unflattenAll s is p' c).1.image g = kept x) is xs := by
  induction xs generalizing s is p c with
  | nil =>
      obtain rfl := List.length_eq_zero_iff.mp many
      cases flattened
      exact ⟨rfl, .nil⟩
  | cons x xs ih =>
      cases is with
      | nil => cases many
      | cons i is =>
      obtain ⟨q, -, room, count, stands, rest⟩ := flattenAll_cons flattened
      obtain ⟨absent, apart⟩ := List.nodup_cons.mp apart
      have few := small x (by simp)
      have size := getFlattenedSize_small few
      -- the images behind do not reach into this one
      obtain ⟨ints, fds⟩ := flattenAll_behind rest
      have stands : Stands p' c x := by
        refine ⟨?_, ?_⟩
        · rw [ints c.buffer (8 + x.numInts) (by simp only [Image.advance]; omega), stands.ints]
        · rw [fds c.fds x.numFds (Nat.le_refl _), stands.fds]
      obtain ⟨g, here⟩ := Option.ne_none_iff_exists'.mp (there i (by simp))
      obtain ⟨s₁, effects, unflattened, g', buffer, image, made⟩ :=
        @unflatten_stands x p' c ι _ s i g stands few (size ▸ room) count true
      have next : s.next ≤ s₁.next := by
        have frame := (@unflatten_unflattens p' c ι _ s i g true true 0).frame.2.1
        rwa [unflattened] at frame
      have others (j) (other : j ≠ i) : s₁.buffer j = s.buffer j := by
        rw [buffer, Function.update_of_ne other]
      have there' (j) (member : j ∈ is) : s₁.buffer j ≠ none := by
        rw [others j fun same => absent (same ▸ member)]
        exact there j (by simp [member])
      obtain ⟨reader, images⟩ := @ih q _ s₁ is rest (fun y member => small y (by simp [member]))
        (Nat.succ.inj many) apart there' (known.rest absent others next)
      obtain ⟨frame, natives⟩ := @unflattenAll_frame p'
        (Image.advance c x.getFlattenedSize x.numFds) ι _ s₁ is apart
      simp only [unflattenAll, here, unflattened]
      refine ⟨reader, .cons ⟨g', ?_, ?_⟩ images⟩
      · rw [frame i absent, buffer, Function.update_self]
      · rw [← image, Graphics.image, Graphics.image]
        congr 1
        cases handle : g'.handle with
        | none => rfl
        | some h =>
            obtain ⟨rfl, below⟩ := made h handle
            refine natives s.next below fun j member g₁ here₁ handle₁ => ?_
            rw [others j fun same => absent (same ▸ member)] at here₁
            exact Nat.lt_irrefl _ (known j (by simp [member]) g₁ s.next here₁ handle₁)

end Unflatten

/-! ### The room that several need -/

section Packed
variable {xs : List Image} {limit : Nat}

/-- Nothing is written from `limit` on while images are flattened in a row. -/
def WrittenBelow (limit : Nat) : List Image → Cursor → Prop
  | [], _ => True
  | x :: xs, c => c.buffer + x.words.length ≤ limit ∧
      WrittenBelow limit xs (Image.advance c x.getFlattenedSize x.numFds)

def flattenedSize (xs : List Image) : Nat := (xs.map fun x => x.getFlattenedSize).sum

def fdCount (xs : List Image) : Nat := (xs.map fun x => x.getFdCount).sum

theorem WrittenBelow.last (below : WrittenBelow limit (xs ++ [x]) c) :
    c.buffer + flattenedSize xs + x.words.length ≤ limit := by
  induction xs generalizing c with
  | nil => exact below.1
  | cons y xs ih =>
      have rest := ih below.2
      simp only [Image.advance] at rest
      simp only [flattenedSize, List.map_cons, List.sum_cons] at rest ⊢
      omega

theorem flattenAll_enough (room : flattenedSize xs ≤ c.size) (count : fdCount xs ≤ c.count) :
    ∃ p' c', flattenAll xs p c = some (p', c') := by
  induction xs generalizing p c with
  | nil => exact ⟨p, c, rfl⟩
  | cons x xs ih =>
      simp only [flattenedSize, fdCount, List.map_cons, List.sum_cons] at room count
      have first : x.flatten p c = (.noError,
          { ints := store p.ints c.buffer x.words
            fds := store p.fds c.fds ((x.handle.map NativeHandle.fds).getD []) },
          Image.advance c x.getFlattenedSize x.getFdCount) := by
        simp only [Image.flatten]
        rw [if_neg (by omega), if_neg (by omega)]
      rw [flattenAll, first]
      apply ih
      · exact Nat.le_sub_of_add_le' room
      · exact Nat.le_sub_of_add_le' count

/-- Images that are flattened in a row, into memory of exactly the size that they say, fit as far as
`flatten` can tell, but stay inside it only if there is but one. -/
theorem packed_images_overrun (fits : ∀ x ∈ xs, SizeFits x) (p : Parcel) (start fds : Nat) :
    let c : Cursor := ⟨start, flattenedSize xs, fds, fdCount xs⟩
    (∃ p' c', flattenAll xs p c = some (p', c')) ∧
      (WrittenBelow (start + flattenedSize xs / 4) xs c ↔ xs.length ≤ 1) := by
  intro c
  refine ⟨flattenAll_enough (Nat.le_refl _) (Nat.le_refl _), fun below => ?_, fun few => ?_⟩
  · rcases List.eq_nil_or_concat xs with rfl | ⟨before, x, rfl⟩
    · exact Nat.zero_le _
    · rw [List.concat_eq_append] at *
      cases before with
      | nil => exact Nat.le_refl _
      | cons y before =>
          have last := below.last
          have first := getFlattenedSize_fits (fits y (by simp))
          have own := getFlattenedSize_fits (fits x (by simp))
          rw [length_words] at last
          simp only [flattenedSize, List.map_append, List.map_cons, List.map_nil, List.sum_append,
            List.sum_cons, List.sum_nil, c] at last
          omega
  · cases xs with
    | nil => trivial
    | cons x xs =>
        obtain rfl : xs = [] :=
          List.length_eq_zero_iff.mp (Nat.le_zero.mp (Nat.le_of_succ_le_succ few))
        refine ⟨?_, trivial⟩
        have own := getFlattenedSize_fits (fits x (by simp))
        rw [length_words]
        simp only [flattenedSize, List.map_cons, List.map_nil, List.sum_cons, List.sum_nil, c]
        omega

end Packed

/-! A buffer with a handle and one without. -/

def twoImages : List Image := [⟨2, 2, 2, 1, 0, some ⟨[5], [7, 8]⟩⟩, .blank]

def emptyParcel : Parcel := ⟨fun _ => 0, fun _ => 0⟩

def twoBuffers : Graphics Bool := (Graphics.initial.set true .empty).set false .empty

theorem twoImages_small : ∀ x ∈ twoImages, Small x := by
  simp [twoImages, Small, Image.numFds, Image.numInts, Image.blank]

theorem flattened_come_back_two : ∃ p' c',
    flattenAll twoImages emptyParcel ⟨0, 72, 0, 1⟩ = some (p', c') ∧
      (unflattenAll twoBuffers [true, false] p' ⟨0, 72, 0, 1⟩).2 = c' ∧
      List.Forall₂ (fun i x => ∃ g,
        (unflattenAll twoBuffers [true, false] p' ⟨0, 72, 0, 1⟩).1.buffer i = some g ∧
        (unflattenAll twoBuffers [true, false] p' ⟨0, 72, 0, 1⟩).1.image g = kept x)
        [true, false] twoImages := by
  obtain ⟨p', c', flattened⟩ := @flattenAll_enough emptyParcel ⟨0, 72, 0, 1⟩ twoImages
    (by decide) (by decide)
  refine ⟨p', c', flattened, ?_⟩
  refine flattened_come_back flattened twoImages_small rfl (by decide) (by decide) ?_
  intro i _ g h here handle
  cases i with
  | _ =>
    obtain rfl : GraphicBuffer.empty = g := Option.some.inj here
    cases handle

theorem packed_images_overrun_two :
    (∃ p' c', flattenAll twoImages emptyParcel
      ⟨0, flattenedSize twoImages, 0, fdCount twoImages⟩ = some (p', c')) ∧
      (WrittenBelow (0 + flattenedSize twoImages / 4) twoImages
        ⟨0, flattenedSize twoImages, 0, fdCount twoImages⟩ ↔ twoImages.length ≤ 1) :=
  packed_images_overrun (fun x member => (twoImages_small x member).fits) emptyParcel 0 0

end VibeXperia.Proof.Shims

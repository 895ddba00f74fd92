import VibeXperia.Proof.Shims.Flattening

namespace VibeXperia.Proof.Shims
open Lib VibeXperia.Shims

variable {ι : Type*} {gralloc : Gralloc} {s s' : Graphics ι} {i j : ι} {g g' : GraphicBuffer}
variable {h : Nat} {freed : Bool}

/-! ## Who owns the handles -/

def Owns (s : Graphics ι) (i : ι) (h : Nat) : Prop :=
  ∃ g, s.buffer i = some g ∧ g.handle = some h ∧ g.mOwner ≠ .ownNone

def Free (s : Graphics ι) (h : Nat) : Prop :=
  s.native h ≠ none ∧ s.sAllocList h = none ∧ ∀ i, ¬Owns s i h

def Spent (s : Graphics ι) (h : Nat) : Prop :=
  h < s.next ∧ (∀ i, ¬Owns s i h) ∧ (s.native h = none ∨ s.sAllocList h ≠ none)

/-- What the callers of the constructors that take a handle answer for. -/
def Permitted (s : Graphics ι) : GraphicsStep ι → Prop
  | .createFrom _ _ _ _ _ _ inHandle keepOwnership =>
      ∀ h, inHandle = some h → h < s.next ∧ (keepOwnership = true → Free s h)
  | .wrap _ buffer keepOwnership =>
      ∀ g h, s.buffer buffer = some g → g.handle = some h → keepOwnership = true → Free s h
  | _ => True

/-- `GraphicBufferAllocator` notes what a buffer asked for, but for sizes without an extent. -/
def Noted (gralloc : Gralloc) (g : GraphicBuffer) (noted : AllocRec) : Prop :=
  (noted.width, noted.height) =
      (if g.width = 0 ∨ g.height = 0 then (1, 1) else (g.width, g.height)) ∧
    noted.stride = g.stride ∧ noted.format = g.format ∧
    noted.usage = g.usage &&& gralloc.allocMask ∧
    noted.size = noted.height * noted.stride *
      BitVec.ofInt 32 (max (gralloc.bytesPerPixel g.format) 0)

def Fits (gralloc : Gralloc) (s : Graphics ι) (g : GraphicBuffer) (h : Nat) : Owner → Prop
  | .ownNone => True
  | .ownHandle => s.native h ≠ none ∧ s.sAllocList h = none
  | .ownData => s.native h ≠ none ∧ ∃ noted, s.sAllocList h = some noted ∧ Noted gralloc g noted

structure Sound (gralloc : Gralloc) (s : Graphics ι) : Prop where
  below : ∀ i g h, s.buffer i = some g → g.handle = some h → h < s.next
  native : ∀ h, s.next ≤ h → s.native h = none
  live : ∀ h, s.sAllocList h ≠ none → s.native h ≠ none
  one : ∀ i j h, Owns s i h → Owns s j h → i = j
  fits : ∀ i g h, s.buffer i = some g → g.handle = some h → Fits gralloc s g h g.mOwner

theorem sound_initial : Sound gralloc (.initial : Graphics ι) where
  below i g h here := by cases here
  native _ _ := rfl
  live h listed := absurd rfl listed
  one i j h owns := by
    obtain ⟨g, here, -⟩ := owns
    cases here
  fits i g h here := by cases here

theorem Fits.live {owner : Owner} (fits : Fits gralloc s g h owner) (owned : owner ≠ .ownNone) :
    s.native h ≠ none := by
  cases owner with
  | ownNone => exact absurd rfl owned
  | ownHandle => exact fits.1
  | ownData => exact fits.1

theorem Fits.congr {owner : Owner} (fits : Fits gralloc s g h owner)
    (native : s'.native h = s.native h) (listed : s'.sAllocList h = s.sAllocList h) :
    Fits gralloc s' g h owner := by
  cases owner with
  | ownNone => trivial
  | ownHandle => exact ⟨native ▸ fits.1, listed ▸ fits.2⟩
  | ownData => exact ⟨native ▸ fits.1, listed ▸ fits.2⟩

theorem Owns.of_here (owns : Owns s i h) (here : s.buffer i = some g) :
    g.handle = some h ∧ g.mOwner ≠ .ownNone := by
  obtain ⟨g', here', handle, owner⟩ := owns
  obtain rfl : g = g' := Option.some.inj (here.symm.trans here')
  exact ⟨handle, owner⟩

theorem absent_owns (absent : s.buffer i = none) : ¬Owns s i h := by
  rintro ⟨g, here, -⟩
  rw [absent] at here
  cases here

theorem Sound.listed (sound : Sound gralloc s) (beyond : s.next ≤ h) : s.sAllocList h = none :=
  by_contra fun listed => sound.live h listed (sound.native h beyond)

theorem Sound.owned (sound : Sound gralloc s) (owns : Owns s i h) :
    h < s.next ∧ s.native h ≠ none := by
  obtain ⟨g, here, handle, owner⟩ := owns
  exact ⟨sound.below i g h here handle, (sound.fits i g h here handle).live owner⟩

theorem Sound.unmade (sound : Sound gralloc s) : ¬Owns s i s.next :=
  fun owns => Nat.lt_irrefl _ (sound.owned owns).1

def SameAt (s s' : Graphics ι) (h : Nat) : Prop :=
  s'.native h = s.native h ∧ s'.sAllocList h = s.sAllocList h

variable [DecidableEq ι]

/-- One buffer is replaced, or none, by another that owns nothing that others own. -/
structure Replaces (gralloc : Gralloc) (s s' : Graphics ι) (i : ι) (o : Option GraphicBuffer) :
    Prop where
  buffer : s'.buffer = Function.update s.buffer i o
  next : s.next ≤ s'.next
  native : ∀ h, s'.next ≤ h → s'.native h = none
  live : ∀ h, s'.sAllocList h ≠ none → s'.native h ≠ none
  same : ∀ h, h < s.next → ¬Owns s i h → SameAt s s' h
  own : ∀ g h, o = some g → g.handle = some h → h < s'.next ∧ Fits gralloc s' g h g.mOwner ∧
    (g.mOwner ≠ .ownNone → ¬Spent s h ∧ ∀ j, j ≠ i → ¬Owns s j h)

section Replaces
variable {o : Option GraphicBuffer}

theorem Replaces.others (replaces : Replaces gralloc s s' i o) (other : j ≠ i) :
    s'.buffer j = s.buffer j := by
  rw [replaces.buffer, Function.update_of_ne other]

theorem Replaces.self (replaces : Replaces gralloc s s' i o) : s'.buffer i = o := by
  rw [replaces.buffer, Function.update_self]

theorem Replaces.owns_iff (replaces : Replaces gralloc s s' i o) (other : j ≠ i) :
    Owns s' j h ↔ Owns s j h := by
  rw [Owns, Owns, replaces.others other]

theorem Replaces.mine (replaces : Replaces gralloc s s' i o) (owns : Owns s' i h) :
    ∃ g, o = some g ∧ g.handle = some h ∧ g.mOwner ≠ .ownNone := by
  obtain ⟨g, here, owner⟩ := owns
  exact ⟨g, replaces.self ▸ here, owner⟩

theorem Replaces.not_owns (replaces : Replaces gralloc s s' i o)
    (bare : ∀ g, o = some g → g.handle = none) : ¬Owns s' i h := by
  intro owns
  obtain ⟨g, some_g, handle, -⟩ := replaces.mine owns
  rw [bare g some_g] at handle
  cases handle

theorem Replaces.sound (replaces : Replaces gralloc s s' i o) (sound : Sound gralloc s) :
    Sound gralloc s' := by
  refine ⟨fun j g h here handle => ?_, replaces.native, replaces.live,
    fun j k h first second => ?_, fun j g h here handle => ?_⟩
  · by_cases other : j = i
    · subst other
      exact (replaces.own g h (replaces.self ▸ here) handle).1
    · rw [replaces.others other] at here
      exact Nat.lt_of_lt_of_le (sound.below j g h here handle) replaces.next
  · by_cases left : j = i
    · by_cases right : k = i
      · rw [left, right]
      · subst left
        obtain ⟨g, here, handle, owner⟩ := replaces.mine first
        exact absurd ((replaces.owns_iff right).mp second)
          (((replaces.own g h here handle).2.2 owner).2 k right)
    · by_cases right : k = i
      · subst right
        obtain ⟨g, here, handle, owner⟩ := replaces.mine second
        exact absurd ((replaces.owns_iff left).mp first)
          (((replaces.own g h here handle).2.2 owner).2 j left)
      · exact sound.one j k h ((replaces.owns_iff left).mp first)
          ((replaces.owns_iff right).mp second)
  · by_cases other : j = i
    · subst other
      exact (replaces.own g h (replaces.self ▸ here) handle).2.1
    · rw [replaces.others other] at here
      have fits := sound.fits j g h here handle
      cases owner : g.mOwner with
      | ownNone => trivial
      | _ =>
        rw [owner] at fits
        have owns : Owns s j h := ⟨g, here, handle, by simp [owner]⟩
        obtain ⟨native, listed⟩ := replaces.same h (sound.owned owns).1
          fun mine => other (sound.one j i h owns mine)
        exact fits.congr native listed

theorem Replaces.gone (replaces : Replaces gralloc s s' i o) (sound : Sound gralloc s)
    (below : h < s.next) (gone : s.native h = none) : s'.native h = none :=
  (replaces.same h below fun owns => (sound.owned owns).2 gone).1.trans gone

theorem Replaces.spent (replaces : Replaces gralloc s s' i o) (spent : Spent s h) :
    Spent s' h := by
  obtain ⟨below, unowned, barred⟩ := spent
  obtain ⟨native, listed⟩ := replaces.same h below (unowned i)
  refine ⟨Nat.lt_of_lt_of_le below replaces.next, fun j owns => ?_, native ▸ listed ▸ barred⟩
  by_cases other : j = i
  · subst other
    obtain ⟨g, here, handle, owner⟩ := replaces.mine owns
    exact ((replaces.own g h here handle).2.2 owner).1 ⟨below, unowned, barred⟩
  · exact unowned j ((replaces.owns_iff other).mp owns)

theorem Replaces.spends (replaces : Replaces gralloc s s' i o) (sound : Sound gralloc s)
    (owns : Owns s i h) (lost : ¬Owns s' i h)
    (barred : s'.native h = none ∨ s'.sAllocList h ≠ none) :
    Spent s' h := by
  refine ⟨Nat.lt_of_lt_of_le (sound.owned owns).1 replaces.next, fun j again => ?_, barred⟩
  by_cases other : j = i
  · exact lost (other ▸ again)
  · exact other (sound.one j i h ((replaces.owns_iff other).mp again) owns)

end Replaces

/-! ### Releasing a handle -/

/-- Nothing has been lost but what the buffer owned. -/
structure Reduced (s s' : Graphics ι) (i : ι) : Prop where
  buffer : s'.buffer = s.buffer
  next : s'.next = s.next
  each : ∀ h, SameAt s s' h ∨ Owns s i h ∧ s'.native h = none ∧ s'.sAllocList h = none

section Reduced
omit [DecidableEq ι]

theorem reduced_self : Reduced s s i :=
  ⟨rfl, rfl, fun _ => .inl ⟨rfl, rfl⟩⟩

theorem Reduced.native (reduced : Reduced s s' i) (gone : s.native h = none) :
    s'.native h = none :=
  (reduced.each h).elim (fun same => same.1.trans gone) fun erased => erased.2.1

theorem Reduced.listed (reduced : Reduced s s' i) (unlisted : s.sAllocList h = none) :
    s'.sAllocList h = none :=
  (reduced.each h).elim (fun same => same.2.trans unlisted) fun erased => erased.2.2

theorem Reduced.same (reduced : Reduced s s' i) (unowned : ¬Owns s i h) : SameAt s s' h :=
  (reduced.each h).resolve_right fun erased => unowned erased.1

theorem Reduced.live (reduced : Reduced s s' i) (sound : Sound gralloc s)
    (listed : s'.sAllocList h ≠ none) : s'.native h ≠ none := by
  rcases reduced.each h with ⟨native, lists⟩ | erased
  · rw [native]
    exact sound.live h (lists ▸ listed)
  · exact absurd erased.2.2 listed

end Reduced

theorem Reduced.cleared {o : Option GraphicBuffer} (reduced : Reduced s s' i)
    (sound : Sound gralloc s) (bare : ∀ g, o = some g → g.handle = none) :
    Replaces gralloc s { s' with buffer := Function.update s'.buffer i o } i o where
  buffer := by rw [reduced.buffer]
  next := Nat.le_of_eq reduced.next.symm
  native h beyond := reduced.native (sound.native h (reduced.next ▸ beyond))
  live _ := reduced.live sound
  same _ _ := reduced.same
  own g h some_g handle := by
    rw [bare g some_g] at handle
    cases handle

theorem Reduced.given {handle : NativeHandle} {noted : Nat → Option AllocRec}
    (reduced : Reduced s s' i) (sound : Sound gralloc s)
    (lists : ∀ h, h ≠ s'.next → noted h = s'.sAllocList h)
    (takes : ∀ h, g.handle = some h → h = s'.next ∧
      Fits gralloc { (s'.made handle).set i g with sAllocList := noted } g h g.mOwner) :
    Replaces gralloc s { (s'.made handle).set i g with sAllocList := noted } i (some g) where
  buffer := by rw [Graphics.set, Graphics.made, reduced.buffer]
  next := Nat.le_succ_of_le (Nat.le_of_eq reduced.next.symm)
  native h beyond := by
    have apart : h ≠ s'.next := (Nat.ne_of_lt beyond).symm
    simp only [Graphics.set, Graphics.made, Function.update_of_ne apart]
    exact reduced.native (sound.native h (reduced.next ▸ Nat.le_of_succ_le beyond))
  live h listed := by
    simp only [Graphics.set, Graphics.made]
    by_cases new : h = s'.next
    · rw [new, Function.update_self]
      exact Option.some_ne_none handle
    · rw [Function.update_of_ne new]
      exact reduced.live sound (lists h new ▸ listed)
  same h below unowned := by
    have apart : h ≠ s'.next := Nat.ne_of_lt (reduced.next ▸ below)
    obtain ⟨native, listed⟩ := reduced.same unowned
    refine ⟨?_, (lists h apart).trans listed⟩
    simp only [Graphics.set, Graphics.made, Function.update_of_ne apart, native]
  own g' h same handle := by
    cases same
    obtain ⟨rfl, fits⟩ := takes h handle
    refine ⟨Nat.lt_succ_self _, fits, fun _ => ⟨fun spent => ?_, fun j _ owns => ?_⟩⟩
    · exact Nat.ne_of_lt spent.1 reduced.next
    · exact sound.unmade (reduced.next ▸ owns)

/-! ### What a step does with the handles -/

def makes : GraphicsEffect → Option Nat
  | .allocates handle _ _ _ _ | .creates handle => some handle
  | _ => none

def releases : GraphicsEffect → Option Nat
  | .frees handle | .closes handle => some handle
  | _ => none

/-- What is released is there, and was made in the way in which it is released. -/
def Rightful (s : Graphics ι) : GraphicsEffect → Prop
  | .frees h => s.native h ≠ none ∧ s.sAllocList h ≠ none
  | .unregisters h | .closes h => s.native h ≠ none ∧ s.sAllocList h = none
  | _ => True

/-- What is owned or made is owned afterwards, or gone. -/
def KeptBy (s s' : Graphics ι) (effects : List GraphicsEffect) : Prop :=
  ∀ h, (∃ i, Owns s i h) ∨ h ∈ effects.filterMap makes → (∃ i, Owns s' i h) ∨ s'.native h = none

def HoldsData (s : Graphics ι) (i : ι) : Prop :=
  ∃ g, s.buffer i = some g ∧ g.handle ≠ none ∧ g.mOwner = .ownData

/-- The steps that lose a handle: the device does not free it, or `unflatten` forgets the old one
or the new one. -/
def Loses (s : Graphics ι) : GraphicsStep ι → Prop
  | .reallocate i inWidth inHeight inFormat inUsage freed _ =>
      freed = false ∧ HoldsData s i ∧ ∀ g, s.buffer i = some g →
        ¬(inWidth = g.width ∧ inHeight = g.height ∧ inFormat = g.format ∧ inUsage = g.usage)
  | .unflatten i p c creates freed registers =>
      s.buffer i ≠ none ∧ (TooLarge p c ∧ (∃ h, Owns s i h) ∨
        Accepted p c ∧ (freed = false ∧ HoldsData s i ∨
          Worded p c ∧ creates = true ∧ registers ≠ 0))
  | .destroy i freed => freed = false ∧ HoldsData s i
  | _ => False

structure Outcome (gralloc : Gralloc) (s : Graphics ι) (e : GraphicsStep ι) (s' : Graphics ι)
    (effects : List GraphicsEffect) : Prop where
  sound : Sound gralloc s'
  next : s.next ≤ s'.next
  made : ∀ h ∈ effects.filterMap makes, h < s'.next
  lists : ∀ h, s'.sAllocList h ≠ none → s.sAllocList h ≠ none ∨ h ∈ effects.filterMap makes
  rightful : ∀ effect ∈ effects, Rightful s effect
  once : (effects.filterMap releases).length ≤ 1
  owned : ∀ h ∈ effects.filterMap releases, (∃ i, Owns s i h) ∧ Spent s' h
  spent : ∀ h, Spent s h → Spent s' h
  gone : ∀ h, h < s.next → s.native h = none → s'.native h = none
  kept : KeptBy s s' effects ↔ ¬Loses s e

section Outcome
variable {o : Option GraphicBuffer} {effects : List GraphicsEffect} {e : GraphicsStep ι}

theorem Replaces.kept_iff (replaces : Replaces gralloc s s' i o) (sound : Sound gralloc s)
    (made : ∀ h ∈ effects.filterMap makes, h = s.next) :
    KeptBy s s' effects ↔ (∀ h, Owns s i h → Owns s' i h ∨ s'.native h = none) ∧
      (s.next ∈ effects.filterMap makes → Owns s' i s.next ∨ s'.native s.next = none) := by
  constructor
  · refine fun keeps => ⟨fun h owns => ?_, fun member => ?_⟩
    · refine (keeps h (.inl ⟨i, owns⟩)).imp_left fun ⟨j, owner⟩ => ?_
      by_cases other : j = i
      · exact other ▸ owner
      · exact absurd (sound.one j i h ((replaces.owns_iff other).mp owner) owns) other
    · refine (keeps s.next (.inr member)).imp_left fun ⟨j, owner⟩ => ?_
      by_cases other : j = i
      · exact other ▸ owner
      · exact absurd ((replaces.owns_iff other).mp owner) sound.unmade
  · rintro ⟨own, new⟩ h (⟨j, owns⟩ | member)
    · by_cases other : j = i
      · exact (own h (other ▸ owns)).imp_left fun owner => ⟨i, owner⟩
      · exact .inl ⟨j, (replaces.owns_iff other).mpr owns⟩
    · obtain rfl := made h member
      exact (new member).imp_left fun owner => ⟨i, owner⟩

structure Released (s s' : Graphics ι) (i : ι) (freed : Bool)
    (effects : List GraphicsEffect) : Prop where
  reduced : Reduced s s' i
  makes_none : effects.filterMap makes = []
  rightful : ∀ effect ∈ effects, Rightful s effect
  once : (effects.filterMap releases).length ≤ 1
  owned : ∀ h ∈ effects.filterMap releases,
    Owns s i h ∧ (s'.native h = none ∨ s'.sAllocList h ≠ none)
  all_gone : (∀ h, Owns s i h → s'.native h = none) ↔ ¬(freed = false ∧ HoldsData s i)

section Released
omit [DecidableEq ι]

theorem nothing_released (unowned : ∀ h, ¬Owns s i h) (clean : ¬(freed = false ∧ HoldsData s i)) :
    Released s s i freed [] where
  reduced := reduced_self
  makes_none := rfl
  rightful := by simp
  once := Nat.zero_le _
  owned := by simp
  all_gone := iff_of_true (fun h owns => absurd owns (unowned h)) clean

theorem absent_released (absent : s.buffer i = none) : Released s s i true [] :=
  nothing_released (fun _ => absent_owns absent) (by simp)

theorem erased_released (here : s.buffer i = some g) (handle : g.handle = some h)
    (owner : g.mOwner ≠ .ownNone) (buffer : s'.buffer = s.buffer) (next : s'.next = s.next)
    (same : ∀ k, k ≠ h → SameAt s s' k) (native : s'.native h = none)
    (listed : s'.sAllocList h = none) (makes_none : effects.filterMap makes = [])
    (one : effects.filterMap releases = [h]) (rightful : ∀ effect ∈ effects, Rightful s effect)
    (clean : ¬(freed = false ∧ HoldsData s i)) : Released s s' i freed effects := by
  have owns : Owns s i h := ⟨g, here, handle, owner⟩
  refine ⟨⟨buffer, next, fun k => ?_⟩, makes_none, rightful, ?_, ?_, iff_of_true ?_ clean⟩
  · by_cases other : k = h
    · exact .inr ⟨other ▸ owns, other ▸ native, other ▸ listed⟩
    · exact .inl (same k other)
  · rw [one]
    exact Nat.le_refl _
  · rw [one]
    simp [owns, native]
  · intro k again
    obtain rfl : h = k := Option.some.inj (handle.symm.trans (again.of_here here).1)
    exact native

theorem freeAny_released (sound : Sound gralloc s) (here : s.buffer i = some g) (freed : Bool) :
    Released s (s.freeAny g freed).1 i freed (s.freeAny g freed).2 := by
  have data_iff : HoldsData s i ↔ g.handle ≠ none ∧ g.mOwner = .ownData := by
    simp [HoldsData, here]
  cases handle : g.handle with
  | none =>
      simp only [Graphics.freeAny, handle]
      refine nothing_released (fun h owns => ?_) (by simp [data_iff, handle])
      have some_h := (owns.of_here here).1
      rw [handle] at some_h
      cases some_h
  | some h =>
      have fits := sound.fits i g h here handle
      cases owner : g.mOwner with
      | ownNone =>
          simp only [Graphics.freeAny, Graphics.freeHandle, handle, owner]
          exact nothing_released (fun h owns => (owns.of_here here).2 owner)
            (by simp [data_iff, owner])
      | ownHandle =>
          simp only [Graphics.freeAny, Graphics.freeHandle, handle, owner]
          rw [owner] at fits
          apply erased_released here handle (by simp [owner])
          · rfl
          · rfl
          · exact fun k other => ⟨Function.update_of_ne other _ _, rfl⟩
          · exact Function.update_self h none s.native
          · exact fits.2
          · rfl
          · rfl
          · simpa [Rightful, Fits] using fits
          · simp [data_iff, owner]
      | ownData =>
          simp only [Graphics.freeAny, Graphics.freeHandle, Graphics.free, handle, owner]
          rw [owner] at fits
          obtain ⟨live, noted, listed, -⟩ := fits
          have rightful : ∀ effect ∈ [GraphicsEffect.frees h], Rightful s effect := by
            simpa [Rightful, listed] using live
          cases freed with
          | false =>
              refine ⟨reduced_self, rfl, rightful, Nat.le_refl _, ?_, iff_of_false ?_ ?_⟩
              · simpa [releases, listed] using ⟨g, here, handle, by simp [owner]⟩
              · exact fun gone => live (gone h ⟨g, here, handle, by simp [owner]⟩)
              · simp [data_iff, handle, owner]
          | true =>
              simp only [if_true]
              apply erased_released here handle (by simp [owner])
              · rfl
              · rfl
              · exact fun k other => ⟨Function.update_of_ne other _ _,
                  Function.update_of_ne other _ _⟩
              · exact Function.update_self h none s.native
              · exact Function.update_self h none s.sAllocList
              · rfl
              · rfl
              · exact rightful
              · simp

theorem outcome_same (sound : Sound gralloc s) (harmless : ¬Loses s e)
    (plain : ∀ effect ∈ effects, ∃ status, effect = .returns status) :
    Outcome gralloc s e s effects := by
  have quiet {f : GraphicsEffect → Option Nat} (silent : ∀ status, f (.returns status) = none) :
      effects.filterMap f = [] := by
    apply List.filterMap_eq_nil_iff.mpr
    intro effect member
    obtain ⟨status, rfl⟩ := plain effect member
    exact silent status
  have makes_none : effects.filterMap makes = [] := quiet fun _ => rfl
  have releases_none : effects.filterMap releases = [] := quiet fun _ => rfl
  refine ⟨sound, Nat.le_refl _, by simp [makes_none], fun h => .inl, fun effect member => ?_,
    by simp [releases_none], by simp [releases_none], fun _ => id, fun _ _ => id,
    iff_of_true (fun h owned => ?_) harmless⟩
  · obtain ⟨status, rfl⟩ := plain effect member
    trivial
  · rw [makes_none] at owned
    exact .inl (owned.resolve_right List.not_mem_nil)

end Released

theorem Released.cleared {s₁ : Graphics ι} {status : List GraphicsEffect}
    (released : Released s s₁ i freed effects) (sound : Sound gralloc s)
    (bare : ∀ g, o = some g → g.handle = none)
    (plain : status = [] ∨ ∃ answer, status = [.returns answer])
    (loses : Loses s e ↔ freed = false ∧ HoldsData s i) :
    Outcome gralloc s e { s₁ with buffer := Function.update s₁.buffer i o } (effects ++ status) := by
  have replaces := released.reduced.cleared sound bare
  have silent : status.filterMap makes = [] ∧ status.filterMap releases = [] ∧
      ∀ effect ∈ status, Rightful s effect := by
    rcases plain with rfl | ⟨answer, rfl⟩
    · simp
    · simp [makes, releases, Rightful]
  obtain ⟨silentMakes, silentReleases, rightful⟩ := silent
  have made_none : (effects ++ status).filterMap makes = [] := by
    rw [List.filterMap_append, released.makes_none, silentMakes, List.nil_append]
  have released_same : (effects ++ status).filterMap releases = effects.filterMap releases := by
    rw [List.filterMap_append, silentReleases, List.append_nil]
  refine ⟨replaces.sound sound, replaces.next, by simp [made_none], fun h listed => ?_,
    fun effect member => ?_, ?_, fun h member => ?_, fun h => replaces.spent,
    fun h => replaces.gone sound, ?_⟩
  · exact .inl fun unlisted => listed (released.reduced.listed unlisted)
  · exact (List.mem_append.mp member).elim (released.rightful effect) (rightful effect)
  · rw [released_same]
    exact released.once
  · rw [released_same] at member
    obtain ⟨owns, barred⟩ := released.owned h member
    exact ⟨⟨i, owns⟩, replaces.spends sound owns (replaces.not_owns bare) barred⟩
  · rw [replaces.kept_iff sound (by simp [made_none]), loses, ← released.all_gone, made_none]
    simp [replaces.not_owns bare]

/-- After the old handle is released, a new one is made; `held` says whether the buffer takes it. -/
theorem Released.given {s₁ : Graphics ι} {made : List GraphicsEffect} {handle : NativeHandle}
    {noted : Nat → Option AllocRec}
    (released : Released s s₁ i freed effects) (held : Prop) (sound : Sound gralloc s)
    (lists : ∀ h, h ≠ s₁.next → noted h = s₁.sAllocList h)
    (takes : ∀ h, g'.handle = some h → h = s₁.next ∧
      Fits gralloc { (s₁.made handle).set i g' with sAllocList := noted } g' h g'.mOwner)
    (holds : g'.handle = some s₁.next ∧ g'.mOwner ≠ .ownNone ↔ held)
    (makes_one : made.filterMap makes = [s.next]) (releases_none : made.filterMap releases = [])
    (rightful : ∀ effect ∈ made, Rightful s effect)
    (loses : Loses s e ↔ freed = false ∧ HoldsData s i ∨ ¬held) :
    Outcome gralloc s e { (s₁.made handle).set i g' with sAllocList := noted } (effects ++ made) := by
  have replaces := @Reduced.given ι gralloc s s₁ i g' _ handle noted
    released.reduced sound lists takes
  have next := released.reduced.next
  have made_next : (effects ++ made).filterMap makes = [s.next] := by
    rw [List.filterMap_append, released.makes_none, makes_one, List.nil_append]
  have released_same : (effects ++ made).filterMap releases = effects.filterMap releases := by
    rw [List.filterMap_append, releases_none, List.append_nil]
  have old (h) (owns : Owns s i h) : h ≠ s₁.next := by
    rintro rfl
    exact sound.unmade (next ▸ owns)
  have lost (h) (owns : Owns s i h) :
      ¬Owns { (s₁.made handle).set i g' with sAllocList := noted } i h := by
    intro again
    obtain ⟨g₁, same, handle₁, -⟩ := replaces.mine again
    cases same
    exact old h owns (takes h handle₁).1
  have dead (h) (owns : Owns s i h) : (s₁.made handle).native h = s₁.native h := by
    simp only [Graphics.made, Function.update_of_ne (old h owns)]
  refine ⟨replaces.sound sound, replaces.next, ?_, fun h listed => ?_, fun effect member => ?_,
    ?_, fun h member => ?_, fun h => replaces.spent, fun h => replaces.gone sound, ?_⟩
  · rw [made_next, ← next]
    simp [Graphics.set, Graphics.made]
  · by_cases new : h = s.next
    · right
      simp [made_next, new]
    · left
      have other : h ≠ s₁.next := next ▸ new
      exact fun unlisted => listed ((lists h other).trans (released.reduced.listed unlisted))
  · exact (List.mem_append.mp member).elim (released.rightful effect) (rightful effect)
  · rw [released_same]
    exact released.once
  · rw [released_same] at member
    obtain ⟨owns, barred⟩ := released.owned h member
    refine ⟨⟨i, owns⟩, replaces.spends sound owns (lost h owns) ?_⟩
    exact barred.imp (fun gone => (dead h owns).trans gone)
      fun listed unlisted => listed ((lists h (old h owns)).symm.trans unlisted)
  · have alive : (s₁.made handle).native s.next ≠ none := by
      simp [Graphics.made, ← next]
    have mine : Owns { (s₁.made handle).set i g' with sAllocList := noted } i s.next ↔ held := by
      rw [← holds, next]
      constructor
      · intro owns
        obtain ⟨g₁, same, rest⟩ := replaces.mine owns
        cases same
        exact rest
      · exact fun rest => ⟨g', replaces.self, rest⟩
    rw [replaces.kept_iff sound (by simp [made_next]), made_next, loses, not_or, not_not,
      ← released.all_gone]
    refine and_congr (forall_congr' fun h => forall_congr' fun owns => ?_) ?_
    · rw [or_iff_right (lost h owns)]
      exact iff_of_eq (congrArg (· = none) (dead h owns))
    · rw [mine]
      simp only [List.mem_singleton, forall_const]
      exact or_iff_left alive

theorem unflatten_outcome (sound : Sound gralloc s) (here : s.buffer i = some g) (p : Parcel)
    (c : Cursor) (creates freed : Bool) (registers : Int) :
    Outcome gralloc s (.unflatten i p c creates freed registers)
      (s.unflatten i g p c creates freed registers).1
      (s.unflatten i g p c creates freed registers).2.2 := by
  have released := freeAny_released sound here freed
  have there : s.buffer i ≠ none := by simp [here]
  have few : Accepted p c → ¬TooLarge p c := by
    rintro ⟨-, fewFds, fewInts, -⟩ ⟨-, large⟩
    omega
  have moves := @unflatten_unflattens p c ι _ s i g creates freed registers
  generalize (s.unflatten i g p c creates freed registers).1 = s' at moves
  generalize (s.unflatten i g p c creates freed registers).2.2 = effects at moves
  cases moves with
  | refuses status small refused =>
      exact outcome_same sound (by simp [Loses, small, refused]) (by simp)
  | tooLarge large =>
      have replaces := (@reduced_self ι s i).cleared (o := some g.cleared) sound
        (by simp [GraphicBuffer.cleared])
      refine ⟨replaces.sound sound, replaces.next, by simp [makes], fun h => .inl,
        by simp [Rightful], by simp [List.filterMap, releases], by simp [releases],
        fun h => replaces.spent, fun h => replaces.gone sound, ?_⟩
      have refused : ¬Accepted p c := fun accepted => few accepted large
      refine (replaces.kept_iff sound (by simp [makes])).trans ?_
      simp only [Loses, there, large, refused, ne_eq, not_false_eq_true, true_and, false_and,
        or_false, not_exists]
      constructor
      · intro kept h owns
        exact (sound.owned owns).2 ((kept.1 h owns).resolve_left (replaces.not_owns
          (by simp [GraphicBuffer.cleared])))
      · exact fun none => ⟨fun h owns => absurd owns (none h), by simp [makes]⟩
  | uncreated accepted fails =>
      exact released.cleared sound (by simp [GraphicBuffer.cleared]) (.inr ⟨_, rfl⟩)
        (by simp [Loses, there, few accepted, accepted, fails])
  | empties accepted words =>
      exact released.cleared sound (by simp [GraphicBuffer.cleared]) (.inr ⟨_, rfl⟩)
        (by simp [Loses, there, few accepted, accepted, words])
  | unregistered handle accepted words created fails =>
      refine released.given False sound (fun h _ => rfl) (by simp [GraphicBuffer.cleared])
        (by simp [GraphicBuffer.cleared]) (by simp [makes, released.reduced.next])
        (by simp [releases]) (by simp [Rightful]) ?_
      simp [Loses, there, few accepted, accepted, words, created, fails]
  | restores handle g' accepted succeeds made owner =>
      refine released.given True sound (fun h _ => rfl) ?_ (by simp [made, owner])
        (by simp [makes, released.reduced.next]) (by simp [releases]) (by simp [Rightful]) ?_
      · intro h same
        obtain rfl := Option.some.inj (made.symm.trans same)
        rw [owner]
        refine ⟨rfl, by simp [Graphics.set, Graphics.made], ?_⟩
        exact released.reduced.listed (sound.listed (Nat.le_of_eq released.reduced.next.symm))
      · simp [Loses, there, few accepted, accepted, succeeds]

theorem initSize_outcome {s₁ : Graphics ι} (released : Released s s₁ i freed effects)
    (sound : Sound gralloc s) (bare : g.handle = none) (data : g.mOwner = .ownData)
    (inWidth inHeight inFormat inUsage : BitVec 32) (answer : AllocAnswer)
    (finish : Status → GraphicBuffer → GraphicBuffer) (status : Status → List GraphicsEffect)
    (finishes : ∀ err g, (finish err g).handle = g.handle ∧ (finish err g).mOwner = g.mOwner ∧
      ∀ noted, Noted gralloc g noted → Noted gralloc (finish err g) noted)
    (plain : ∀ err, status err = [] ∨ status err = [.returns err])
    (loses : Loses s e ↔ freed = false ∧ HoldsData s i) :
    let result := s₁.initSize gralloc g inWidth inHeight inFormat inUsage answer
    Outcome gralloc s e (result.2.2.1.set i (finish result.1 result.2.1))
      (effects ++ (result.2.2.2 ++ status result.1)) := by
  cases answer with
  | fails err =>
      simp only [Graphics.initSize, Graphics.alloc, List.nil_append]
      refine released.cleared sound ?_ ((plain _).imp_right fun so => ⟨_, so⟩) loses
      intro g' same
      cases same
      rw [(finishes _ g).1, bare]
  | gives handle stride =>
      simp only [Graphics.initSize, Graphics.alloc]
      generalize extent : (if inWidth = 0 ∨ inHeight = 0 then ((1 : BitVec 32), (1 : BitVec 32))
        else (inWidth, inHeight)) = size
      obtain ⟨width, height⟩ := size
      refine released.given True sound (fun h other => Function.update_of_ne other _ _) ?_ ?_ ?_
        ?_ ?_ ?_
      · intro h same
        obtain ⟨kept, owner, notes⟩ := finishes .noError { g with
          handle := some s₁.next, width := inWidth, height := inHeight, format := inFormat
          usage := inUsage, stride := stride }
        obtain rfl := Option.some.inj (same.symm.trans kept)
        rw [owner.trans data]
        refine ⟨rfl, by simp [Graphics.set, Graphics.made],
          ⟨width, height, stride, inFormat, inUsage &&& gralloc.allocMask, _⟩,
          Function.update_self _ _ _, ?_⟩
        apply notes
        have clipped (n : Int) : (if n < 0 then 0 else n) = max n 0 := by
          split <;> omega
        exact ⟨extent.symm, rfl, rfl, rfl, congrArg (_ * BitVec.ofInt 32 ·) (clipped _)⟩
      · simp [(finishes _ _).1, (finishes _ _).2.1, data]
      · rcases plain .noError with none | one
        · simp [none, makes, released.reduced.next]
        · simp [one, makes, released.reduced.next]
      · rcases plain .noError with none | one
        · simp [none, List.filterMap, releases]
        · simp [one, List.filterMap, releases]
      · rcases plain .noError with none | one
        · simp [none, Rightful]
        · simp [one, Rightful]
      · simpa using loses

theorem reallocate_outcome (sound : Sound gralloc s) (here : s.buffer i = some g)
    (inWidth inHeight inFormat inUsage : BitVec 32) (freed : Bool) (answer : AllocAnswer) :
    Outcome gralloc s (.reallocate i inWidth inHeight inFormat inUsage freed answer)
      (s.reallocate gralloc i g inWidth inHeight inFormat inUsage freed answer).1
      (s.reallocate gralloc i g inWidth inHeight inFormat inUsage freed answer).2 := by
  have data_iff : HoldsData s i ↔ g.handle ≠ none ∧ g.mOwner = .ownData := by
    simp [HoldsData, here]
  rw [Graphics.reallocate]
  split_ifs with other same
  · exact outcome_same sound (by simp [Loses, data_iff, other]) (by simp)
  · exact outcome_same sound (by simp [Loses, here, same]) (by simp)
  · have data : g.mOwner = .ownData := not_not.mp other
    have loses : Loses s (.reallocate i inWidth inHeight inFormat inUsage freed answer) ↔
        freed = false ∧ HoldsData s i := by
      simp only [Loses, data_iff, here, Option.some.injEq, forall_eq']
      exact ⟨fun so => ⟨so.1, so.2.1⟩, fun so => ⟨so.1, so.2, fun dims => same ⟨so.2.1, dims⟩⟩⟩
    have outcome := initSize_outcome (freeAny_released sound here freed) sound
      (g := { g with handle := none }) rfl data inWidth inHeight inFormat inUsage answer
      (fun _ g => g) (fun err => [.returns err])
      (fun _ _ => ⟨rfl, rfl, fun _ => id⟩) (fun _ => .inr rfl) loses
    simp only [← List.append_assoc] at outcome
    exact outcome

theorem destroy_outcome (sound : Sound gralloc s) (here : s.buffer i = some g) (freed : Bool) :
    Outcome gralloc s (.destroy i freed)
      { (s.freeAny g freed).1 with
        buffer := Function.update (s.freeAny g freed).1.buffer i none }
      (s.freeAny g freed).2 := by
  have outcome := (freeAny_released sound here freed).cleared (e := .destroy i freed) (o := none)
    sound (by simp) (.inl rfl) Iff.rfl
  rwa [List.append_nil] at outcome

theorem taken_outcome (sound : Sound gralloc s) (absent : s.buffer i = none)
    (harmless : ¬Loses s e) (known : ∀ h, g.handle = some h → h < s.next)
    (owner : g.mOwner = .ownNone ∨
      g.mOwner = .ownHandle ∧ ∀ h, g.handle = some h → Free s h) :
    Outcome gralloc s e (s.set i g) [] := by
  have replaces : Replaces gralloc s (s.set i g) i (some g) := by
    refine ⟨rfl, Nat.le_refl _, sound.native, sound.live, fun _ _ _ => ⟨rfl, rfl⟩, ?_⟩
    intro g' h same handle
    cases same
    refine ⟨known h handle, ?_⟩
    rcases owner with none | ⟨kept, free⟩
    · rw [none]
      exact ⟨trivial, fun owned => absurd rfl owned⟩
    · obtain ⟨live, unlisted, unowned⟩ := free h handle
      rw [kept]
      exact ⟨⟨live, unlisted⟩, fun _ => ⟨fun spent => spent.2.2.elim live (absurd unlisted),
        fun j _ => unowned j⟩⟩
  refine ⟨replaces.sound sound, Nat.le_refl _, by simp, fun h => .inl, by simp, Nat.zero_le _,
    by simp, fun h => replaces.spent, fun h => replaces.gone sound, iff_of_true ?_ harmless⟩
  refine (replaces.kept_iff sound (by simp)).mpr ⟨fun h owns => ?_, by simp⟩
  exact absurd owns (absent_owns absent)

omit [DecidableEq ι] in
theorem foreign_outcome (sound : Sound gralloc s) (handle : NativeHandle) :
    Outcome gralloc s (.foreign handle) (s.made handle) [] := by
  have old (h) (below : h < s.next) : SameAt s (s.made handle) h :=
    ⟨Function.update_of_ne (Nat.ne_of_lt below) _ _, rfl⟩
  refine ⟨⟨?_, ?_, ?_, sound.one, ?_⟩, Nat.le_succ _, by simp, fun h => .inl, by simp,
    Nat.zero_le _, by simp, ?_, fun h below gone => (old h below).1.trans gone,
    iff_of_true ?_ id⟩
  · exact fun j g h here handle => Nat.lt_succ_of_lt (sound.below j g h here handle)
  · intro h beyond
    refine (Function.update_of_ne (Nat.ne_of_lt beyond).symm _ _).trans ?_
    exact sound.native h (Nat.le_of_succ_le beyond)
  · intro h listed gone
    have live := sound.live h listed
    by_cases below : h < s.next
    · exact live ((old h below).1.symm.trans gone)
    · exact live (sound.native h (Nat.le_of_not_lt below))
  · intro j g h here handle
    obtain ⟨native, listed⟩ := old h (sound.below j g h here handle)
    exact (sound.fits j g h here handle).congr native listed
  · rintro h ⟨below, unowned, barred⟩
    obtain ⟨native, listed⟩ := old h below
    exact ⟨Nat.lt_succ_of_lt below, unowned, native ▸ listed ▸ barred⟩
  · rintro h (⟨j, owns⟩ | member)
    · exact .inl ⟨j, owns⟩
    · cases member

theorem step_outcome (sound : Sound gralloc s) (permitted : Permitted s e) :
    Outcome gralloc s e (s.step gralloc e).1 (s.step gralloc e).2 := by
  have stays (harmless : ¬Loses s e) : Outcome gralloc s e s [] :=
    outcome_same sound harmless (by simp)
  cases e with
  | foreign handle => exact foreign_outcome sound handle
  | create i =>
      simp only [Graphics.step]
      split_ifs with absent
      · exact (absent_released absent).cleared sound (by simp [GraphicBuffer.empty]) (.inl rfl)
          (by simp [Loses])
      · exact stays id
  | createSized i inWidth inHeight inFormat inUsage answer =>
      simp only [Graphics.step]
      split_ifs with absent
      · have outcome := initSize_outcome (g := .empty)
          (e := .createSized i inWidth inHeight inFormat inUsage answer) (absent_released absent)
          sound rfl rfl inWidth inHeight inFormat inUsage answer
          (fun err g => { g with mInitCheck := err }) (fun _ => [])
          (fun _ _ => ⟨rfl, rfl, fun _ => id⟩) (fun _ => .inl rfl) (by simp [Loses])
        simp only [List.nil_append, List.append_nil] at outcome
        exact outcome
      · exact stays id
  | createFrom i inWidth inHeight inFormat inUsage inStride inHandle keepOwnership =>
      simp only [Graphics.step]
      by_cases absent : s.buffer i = none
      · rw [if_pos absent]
        refine taken_outcome sound absent id (fun h here => (permitted h here).1) ?_
        cases keepOwnership with
        | false => exact .inl rfl
        | true => exact .inr ⟨rfl, fun h here => (permitted h here).2 rfl⟩
      · rw [if_neg absent]
        exact stays id
  | wrap i buffer keepOwnership =>
      simp only [Graphics.step]
      split
      · next g absent here =>
          refine taken_outcome sound absent id (sound.below buffer g · here) ?_
          cases keepOwnership with
          | false => exact .inl rfl
          | true => exact .inr ⟨rfl, fun h handle => permitted g h here handle rfl⟩
      · exact stays id
  | reallocate i inWidth inHeight inFormat inUsage freed answer =>
      simp only [Graphics.step]
      split
      · next g here => exact reallocate_outcome sound here _ _ _ _ freed answer
      · next absent => exact stays (by simp [Loses, HoldsData, absent])
  | unflatten i p c creates freed registers =>
      simp only [Graphics.step]
      split
      · next g here => exact unflatten_outcome sound here p c creates freed registers
      · next absent => exact stays (by simp [Loses, absent])
  | destroy i freed =>
      simp only [Graphics.step]
      split
      · next g here => exact destroy_outcome sound here freed
      · next absent => exact stays (by simp [Loses, HoldsData, absent])

end Outcome

/-! ## Runs -/

section Runs
variable {es : List (GraphicsStep ι)}

theorem run_sound
    (permitted : ∀ t ∈ trace (Graphics.step gralloc) Graphics.initial es,
      Permitted t.before t.event) :
    Sound gralloc (final (Graphics.step gralloc) Graphics.initial es) ∧
      ∀ t ∈ trace (Graphics.step gralloc) Graphics.initial es,
        Sound gralloc t.before ∧ Sound gralloc t.after := by
  apply invariant_of_allowed _ sound_initial permitted
  intro s e sound allowed
  exact (step_outcome sound allowed).sound

theorem run_outcome
    (permitted : ∀ t ∈ trace (Graphics.step gralloc) Graphics.initial es,
      Permitted t.before t.event) {t}
    (member : t ∈ trace (Graphics.step gralloc) (Graphics.initial : Graphics ι) es) :
    Outcome gralloc t.before t.event t.after t.outputs := by
  have outcome := step_outcome ((run_sound permitted).2 t member).1 (permitted t member)
  rw [eq_react_of_mem member]
  exact outcome

/-- No handle is released twice, nor without its owner. -/
theorem handles_released_once
    (permitted : ∀ t ∈ trace (Graphics.step gralloc) Graphics.initial es,
      Permitted t.before t.event) :
    ((outputs (Graphics.step gralloc) Graphics.initial es).filterMap releases).Nodup ∧
      ∀ t ∈ trace (Graphics.step gralloc) Graphics.initial es,
        (∀ effect ∈ t.outputs, Rightful t.before effect) ∧
        (∀ h ∈ t.outputs.filterMap releases, ∃ i, Owns t.before i h) ∧
        ∀ i j h, Owns t.after i h → Owns t.after j h → i = j := by
  refine ⟨?_, fun t member => ?_⟩
  · refine (@outputs_invariant _ _ _ (Graphics.step gralloc) (fun outs s => Sound gralloc s ∧
      (outs.filterMap releases).Nodup ∧ ∀ h ∈ outs.filterMap releases, Spent s h) Permitted
      (fun outs s e inv allowed => ?_) _ _ ⟨sound_initial, List.nodup_nil, by simp⟩ permitted).2.1
    obtain ⟨sound, once, spent⟩ := inv
    have outcome := step_outcome sound allowed
    simp only [List.filterMap_append]
    refine ⟨outcome.sound, List.nodup_append.mpr ⟨once, ?_, ?_⟩, fun h member => ?_⟩
    · have short := outcome.once
      rcases effects : (s.step gralloc e).2.filterMap releases with _ | ⟨h, _ | ⟨k, rest⟩⟩
      · exact List.nodup_nil
      · exact List.pairwise_singleton _ h
      · simp [effects] at short
    · rintro h old _ new rfl
      obtain ⟨⟨i, owns⟩, -⟩ := outcome.owned h new
      exact (spent h old).2.1 i owns
    · exact (List.mem_append.mp member).elim (fun old => outcome.spent h (spent h old))
        fun new => (outcome.owned h new).2
  · have outcome := run_outcome permitted member
    exact ⟨outcome.rightful, fun h released => (outcome.owned h released).1, outcome.sound.one⟩

def fourBytes : Gralloc := ⟨fun _ => 4, 0xffffffff#32⟩

def twoOwners : List (GraphicsStep Nat) :=
  [.foreign ⟨[3], []⟩, .createFrom 0 1 1 1 0 1 (some 0) true,
    .createSized 1 4 4 1 0 (.gives ⟨[5], [7]⟩ 4), .reallocate 1 8 4 1 0 true (.gives ⟨[6], []⟩ 8),
    .destroy 0 true]

theorem twoOwners_orderly :
    ∀ t ∈ trace (Graphics.step fourBytes) Graphics.initial twoOwners,
      Permitted t.before t.event ∧ ¬Loses t.before t.event := by
  intro t member
  simp only [twoOwners, trace_cons, trace_nil, List.mem_cons, List.not_mem_nil, or_false] at member
  obtain rfl | rfl | rfl | rfl | rfl := member
  · exact ⟨trivial, id⟩
  · refine ⟨?_, id⟩
    rintro _ ⟨⟩
    refine ⟨by decide, fun _ => ⟨by decide, by decide, ?_⟩⟩
    rintro i ⟨g, here, -⟩
    cases here
  · exact ⟨trivial, id⟩
  · exact ⟨trivial, by simp [react, Loses]⟩
  · exact ⟨trivial, by simp [react, Loses]⟩

theorem handles_released_once_two :
    ((outputs (Graphics.step fourBytes) Graphics.initial twoOwners).filterMap releases).Nodup :=
  (handles_released_once fun t member => (twoOwners_orderly t member).1).1

/-- Of the handles that are owned or made, a step loses one exactly when it `Loses` one. -/
theorem handles_kept_or_released
    (permitted : ∀ t ∈ trace (Graphics.step gralloc) Graphics.initial es,
      Permitted t.before t.event) :
    (∀ t ∈ trace (Graphics.step gralloc) Graphics.initial es,
      KeptBy t.before t.after t.outputs ↔ ¬Loses t.before t.event) ∧
    ((∀ t ∈ trace (Graphics.step gralloc) Graphics.initial es, ¬Loses t.before t.event) →
      ∀ h ∈ (outputs (Graphics.step gralloc) Graphics.initial es).filterMap makes,
        (∃ i, Owns (final (Graphics.step gralloc) Graphics.initial es) i h) ∨
          (final (Graphics.step gralloc) Graphics.initial es).native h = none) := by
  refine ⟨fun t member => (run_outcome permitted member).kept, fun harmless h made => ?_⟩
  refine ((@outputs_invariant _ _ _ (Graphics.step gralloc) (fun outs s => Sound gralloc s ∧
    ∀ h ∈ outs.filterMap makes, h < s.next ∧ ((∃ i, Owns s i h) ∨ s.native h = none))
    (fun s e => Permitted s e ∧ ¬Loses s e) (fun outs s e inv allowed => ?_) _ _
    ⟨sound_initial, by simp⟩
    fun t member => ⟨permitted t member, harmless t member⟩).2 h made).2
  obtain ⟨sound, kept⟩ := inv
  have outcome := step_outcome sound allowed.1
  have keeps := outcome.kept.mpr allowed.2
  refine ⟨outcome.sound, fun h member => ?_⟩
  rw [List.filterMap_append] at member
  rcases List.mem_append.mp member with old | new
  · obtain ⟨below, owned | gone⟩ := kept h old
    · exact ⟨Nat.lt_of_lt_of_le below outcome.next, keeps h (.inl owned)⟩
    · exact ⟨Nat.lt_of_lt_of_le below outcome.next, .inr (outcome.gone h below gone)⟩
  · exact ⟨outcome.made h new, keeps h (.inr new)⟩

theorem handles_kept_or_released_two :
    (∃ i, Owns (final (Graphics.step fourBytes) Graphics.initial twoOwners) i 2) ∨
      (final (Graphics.step fourBytes) Graphics.initial twoOwners).native 2 = none :=
  (handles_kept_or_released fun t member => (twoOwners_orderly t member).1).2
    (fun t member => (twoOwners_orderly t member).2) 2 (by decide)

theorem allocations_listed
    (permitted : ∀ t ∈ trace (Graphics.step gralloc) Graphics.initial es,
      Permitted t.before t.event)
    (harmless : ∀ t ∈ trace (Graphics.step gralloc) Graphics.initial es,
      ¬Loses t.before t.event) (h : Nat) :
    let s := final (Graphics.step gralloc) Graphics.initial es
    (s.sAllocList h ≠ none ↔
      ∃ i g, s.buffer i = some g ∧ g.handle = some h ∧ g.mOwner = .ownData) ∧
    ∀ i g, s.buffer i = some g → g.handle = some h → g.mOwner = .ownData →
      ∃ noted, s.sAllocList h = some noted ∧ Noted gralloc g noted := by
  have keep (s : Graphics ι) (e : GraphicsStep ι)
      (inv : Sound gralloc s ∧ ∀ h, s.sAllocList h ≠ none → ∃ i, Owns s i h)
      (allowed : Permitted s e ∧ ¬Loses s e) :
      Sound gralloc (s.step gralloc e).1 ∧
        ∀ h, (s.step gralloc e).1.sAllocList h ≠ none → ∃ i, Owns (s.step gralloc e).1 i h := by
    obtain ⟨sound, owned⟩ := inv
    have outcome := step_outcome sound allowed.1
    refine ⟨outcome.sound, fun h listed => ?_⟩
    refine (outcome.kept.mpr allowed.2 h ?_).resolve_right (outcome.sound.live h listed)
    exact (outcome.lists h listed).imp_left (owned h)
  obtain ⟨sound, owned⟩ := (invariant_of_allowed keep
    ⟨sound_initial, fun h listed => absurd rfl listed⟩
    fun t member => ⟨permitted t member, harmless t member⟩).1
  have data (i) (g : GraphicBuffer)
      (here : (final (Graphics.step gralloc) Graphics.initial es).buffer i = some g)
      (handle : g.handle = some h) (owner : g.mOwner = .ownData) := by
    have fits := sound.fits i g h here handle
    rw [owner] at fits
    exact fits.2
  refine ⟨⟨fun listed => ?_, fun ⟨i, g, here, handle, owner⟩ => ?_⟩, data⟩
  · obtain ⟨i, g, here, handle, owned⟩ := owned h listed
    have fits := sound.fits i g h here handle
    refine ⟨i, g, here, handle, ?_⟩
    cases owner : g.mOwner with
    | ownNone => exact absurd owner owned
    | ownHandle =>
        rw [owner] at fits
        exact absurd fits.2 listed
    | ownData => rfl
  · obtain ⟨noted, listed, -⟩ := data i g here handle owner
    simp [listed]

theorem allocations_listed_two :
    (final (Graphics.step fourBytes) Graphics.initial twoOwners).sAllocList 2 ≠ none ↔
      ∃ i g, (final (Graphics.step fourBytes) Graphics.initial twoOwners).buffer i = some g ∧
        g.handle = some 2 ∧ g.mOwner = .ownData :=
  (allocations_listed (fun t member => (twoOwners_orderly t member).1)
    (fun t member => (twoOwners_orderly t member).2) 2).1

end Runs

end VibeXperia.Proof.Shims

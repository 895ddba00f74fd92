import VibeXperia.Sensord.Events

namespace VibeXperia.Proof.Sensord
open Lib VibeXperia.Sensord

/-! ## Numbers -/

theorem signed_eq_iff {a b : Int} : signed 16 a = signed 16 b ↔ (65536 : Int) ∣ a - b := by
  rw [signed, signed, Int.bmod_eq_bmod_iff_bmod_sub_eq_zero, ← Int.dvd_iff_bmod_eq_zero]
  rfl

theorem signed_range (width : Nat) (value : Int) :
    ∃ k, signed width value = value + (2 ^ width : Nat) * k := by
  have split := Int.bmod_eq_self_sub_mul_bdiv value (2 ^ width)
  refine ⟨-Int.bdiv value (2 ^ width), ?_⟩
  rw [signed, split, Int.mul_neg]
  omega

theorem signed_bounds {width : Nat} (pos : 0 < width) (value : Int) :
    -(2 ^ width : Nat) ≤ 2 * signed width value ∧ 2 * signed width value < (2 ^ width : Nat) := by
  have range : 0 < 2 ^ width := Nat.two_pow_pos width
  have even : 2 ^ width = 2 * 2 ^ (width - 1) := by
    rw [← Nat.pow_succ']
    congr 1
    omega
  have low := Int.le_bmod (x := value) range
  have high := Int.bmod_lt (x := value) range
  rw [signed]
  omega

theorem scale_negated_iff {negated : Nat} {raw : Int} :
    signed 16 (negateIf negated (raw >>> (6 : Nat))) = signed 16 (negateIf negated raw >>> (6 : Nat)) ↔
      negated = 0 ∨ 2 ^ 6 ∣ raw := by
  unfold negateIf
  by_cases zero : negated = 0
  · simp [zero]
  · rw [if_pos zero, if_pos zero, or_iff_right zero, signed_eq_iff]
    obtain ⟨k, scaled⟩ := signed_range 32 ((0 : Int) - raw >>> (6 : Nat))
    obtain ⟨l, whole⟩ := signed_range 32 (0 - raw)
    rw [scaled, whole, Int.shiftRight_eq_div_pow, Int.shiftRight_eq_div_pow]
    omega

theorem signed_scaled (value : Int) : signed 16 (value >>> (6 : Nat)) = signed 22 value / 2 ^ 6 := by
  obtain ⟨k, short⟩ := signed_range 16 (value >>> (6 : Nat))
  obtain ⟨l, long⟩ := signed_range 22 value
  have bounds := signed_bounds (by decide : 0 < 16) (value >>> (6 : Nat))
  have bounds' := signed_bounds (by decide : 0 < 22) value
  rw [Int.shiftRight_eq_div_pow] at short bounds ⊢
  omega

theorem scale_kept_iff {negated negatedBefore : Nat} {raw before : Int} :
    signed 16 (negateIf negated (signed 16 (negateIf negatedBefore before >>> (6 : Nat)) >>> (6 : Nat))) =
        signed 16 (negateIf negated raw >>> (6 : Nat)) ↔
      ScaledAlike negated raw negatedBefore before := by
  rw [ScaledAlike, signed_scaled, signed_scaled, Int.shiftRight_eq_div_pow]
  generalize negateIf negatedBefore before = value
  have bounds := signed_bounds (by decide : 0 < 22) value
  have twice : signed 22 value / 2 ^ 6 / ((2 ^ 6 : Nat) : Int) = signed 22 value / 2 ^ 12 := by omega
  have small : signed 16 (negateIf negated (signed 22 value / 2 ^ 12)) =
      negateIf negated (signed 22 value / 2 ^ 12) := by
    unfold negateIf
    split_ifs
    · obtain ⟨k, short⟩ := signed_range 16 (signed 32 (0 - signed 22 value / 2 ^ 12))
      obtain ⟨l, long⟩ := signed_range 32 (0 - signed 22 value / 2 ^ 12)
      have shortBounds :=
        signed_bounds (by decide : 0 < 16) (signed 32 (0 - signed 22 value / 2 ^ 12))
      have longBounds := signed_bounds (by decide : 0 < 32) (0 - signed 22 value / 2 ^ 12)
      omega
    · obtain ⟨k, short⟩ := signed_range 16 (signed 22 value / 2 ^ 12)
      have shortBounds := signed_bounds (by decide : 0 < 16) (signed 22 value / 2 ^ 12)
      omega
  rw [twice, small]
  exact eq_comm

theorem scaledAlike_self {negated : Nat} {raw : Int} :
    ScaledAlike negated raw negated raw ↔ signed 22 (negateIf negated raw) / 2 ^ 6 = 0 ∨
      negated = 0 ∧ signed 22 (negateIf negated raw) / 2 ^ 6 = -1 := by
  rw [ScaledAlike]
  generalize negateIf negated raw = value
  have bounds := signed_bounds (by decide : 0 < 22) value
  unfold negateIf
  split_ifs with flag
  · obtain ⟨k, long⟩ := signed_range 32 (0 - signed 22 value / 2 ^ 12)
    have longBounds := signed_bounds (by decide : 0 < 32) (0 - signed 22 value / 2 ^ 12)
    have small : k = 0 := by omega
    subst small
    omega
  · omega

/-! ## Samples -/

theorem xyz_ext {val other : Xyz} (same : ∀ axis, val.on axis = other.on axis) : val = other := by
  cases val
  cases other
  have x := same .x
  have y := same .y
  have z := same .z
  simp only [Xyz.on] at x y z
  rw [x, y, z]

theorem xyz_eq_iff {val other : Xyz} : val = other ↔ ∀ axis, val.on axis = other.on axis :=
  ⟨fun same _ => same ▸ rfl, xyz_ext⟩

@[simp] theorem gDataAOf_on (val : Xyz) (axis : Axis) :
    (gDataAOf val).on axis = signed 16 (val.on axis) := by
  cases axis <;> rfl

@[simp] theorem fullRange_on (val : Xyz) (axis : Axis) :
    (fullRange val).on axis = val.on axis >>> (6 : Nat) := by
  cases axis <;> rfl

theorem remap_on {remap : AxisRemap} (listed : remap ∈ axisRemapTab) (val : Xyz) (axis : Axis) :
    (hwRemapSensorData val remap).on axis =
      negateIf (remap.negated axis) (val.on (remap.source axis)) := by
  simp only [axisRemapTab, List.mem_cons, List.not_mem_nil, or_false] at listed
  rcases listed with rfl | rfl | rfl | rfl | rfl | rfl | rfl | rfl <;> cases axis <;> rfl

theorem Placement.remap_mem (place : Placement) : place.remap ∈ axisRemapTab := by
  unfold VibeXperia.Sensord.Placement.remap
  split_ifs with placed
  · have inside : place.gPlaceA.toNat < axisRemapTab.length := by
      have := place.inside
      omega
    rw [List.getD_eq_getElem?_getD, List.getElem?_eq_getElem inside, Option.getD_some]
    exact List.getElem_mem inside
  · decide

theorem remapAt_eq (place : Placement) (val : Xyz) :
    remapAt place.gPlaceA val = some (hwRemapSensorData val place.remap) := by
  unfold remapAt VibeXperia.Sensord.Placement.remap
  split_ifs with placed
  · have inside : place.gPlaceA.toNat < axisRemapTab.length := by
      have := place.inside
      omega
    rw [List.getD_eq_getElem?_getD, List.getElem?_eq_getElem inside]
    rfl
  · rfl

/-! ## One raw sample -/

def merged (kept last raw : Xyz) : Xyz where
  x := if raw.x = last.x then kept.x else raw.x
  y := if raw.y = last.y then kept.y else raw.y
  z := if raw.z = last.z then kept.z else raw.z

theorem merged_on (kept last raw : Xyz) (axis : Axis) :
    (merged kept last raw).on axis =
      if raw.on axis = last.on axis then kept.on axis else raw.on axis := by
  cases axis <;> rfl

theorem readInputEvents_kernelEvents (kept last raw : Xyz) :
    readInputEvents kept (kernelEvents last raw) = some (merged kept last raw) := by
  unfold kernelEvents changed merged
  by_cases x : raw.x = last.x <;> by_cases y : raw.y = last.y <;> by_cases z : raw.z = last.z <;>
    simp [x, y, z, readInputEvents]

theorem step_eq (place : Placement) (path : EventPath) (raw : Xyz) :
    let sample := gDataAOf
      (hwRemapSensorData (fullRange (merged path.gDataA path.last raw)) place.remap)
    path.step place raw = (⟨sample, raw⟩, [sample]) := by
  simp only [EventPath.step, algoUpdateDataInputEv, hwAccReadXyzdataInputEv,
    readInputEvents_kernelEvents, remapAt_eq, Option.map_some]

theorem polled_eq (place : Placement) (raw gDataA : Xyz) :
    algoUpdateDataPolled place.gPlaceA (0, raw) gDataA =
      some (gDataAOf (fullRange (hwRemapSensorData raw place.remap))) := by
  rw [algoUpdateDataPolled, hwAccReadXyzdata, remapAt_eq]
  rfl

def polledSample (place : Placement) (raw : Xyz) : Xyz :=
  gDataAOf (fullRange (hwRemapSensorData raw place.remap))

theorem polledSample_on (place : Placement) (raw : Xyz) (axis : Axis) :
    (polledSample place raw).on axis = signed 16
      (negateIf (place.remap.negated axis) (raw.on (place.remap.source axis)) >>> (6 : Nat)) := by
  rw [polledSample, gDataAOf_on, fullRange_on, remap_on (Placement.remap_mem place)]

theorem sampleAgrees_iff {place : Placement} {path : EventPath} {previous : Xyz}
    (kept : path.gDataA = polledSample place previous) (raw : Xyz) :
    (path.step place raw).2 =
        (algoUpdateDataPolled place.gPlaceA (0, raw) path.gDataA).toList ↔
      ∀ axis, AxisAgrees place.remap previous path.last raw axis := by
  rw [step_eq, polled_eq, Option.toList_some, List.singleton_inj, xyz_eq_iff]
  apply forall_congr'
  intro axis
  have listed := Placement.remap_mem place
  rw [gDataAOf_on, gDataAOf_on, fullRange_on, remap_on listed, remap_on listed, fullRange_on,
    merged_on, kept, polledSample_on, AxisAgrees]
  by_cases same : raw.on (place.remap.source axis) = path.last.on (place.remap.source axis)
  · rw [if_pos same, if_pos same]
    exact scale_kept_iff
  · rw [if_neg same, if_neg same]
    exact scale_negated_iff

/-! ## Runs -/

/-- As long as the samples agree, `g_data_a` holds what the polled path makes of the last one. -/
theorem run_agrees_iff (place : Placement) {path : EventPath} {previous : Xyz} (raws : List Xyz)
    (kept : path.gDataA = polledSample place previous) :
    (∀ t ∈ trace (EventPath.step place) path raws, t.outputs =
        (algoUpdateDataPolled place.gPlaceA (0, t.event) t.before.gDataA).toList) ↔
      RawsAgree place.remap previous path.last raws := by
  induction raws generalizing path previous with
  | nil => simp [RawsAgree]
  | cons raw raws ih =>
      have step := step_eq place path raw
      dsimp only at step
      rw [trace_cons, List.forall_mem_cons, RawsAgree, ← sampleAgrees_iff kept]
      apply and_congr_right
      intro agrees
      have last : (path.step place raw).1.last = raw := by rw [step]
      have later : (path.step place raw).1.gDataA = polledSample place raw := by
        have outputs : (path.step place raw).2 = [polledSample place raw] := by
          rw [show (path.step place raw).2 = _ from agrees, polled_eq]
          rfl
        rw [step] at outputs ⊢
        exact List.singleton_inj.mp outputs
      rw [ih later, last]

/-- What the event path puts out after each sample is what the polled path makes of it, exactly for
the raw samples that agree axis by axis; at first `g_data_a` is zero. -/
theorem event_path_agrees_iff (place : Placement) (last : Xyz) (raws : List Xyz) :
    (∀ t ∈ trace (EventPath.step place) ⟨⟨0, 0, 0⟩, last⟩ raws, t.outputs =
        (algoUpdateDataPolled place.gPlaceA (0, t.event) t.before.gDataA).toList) ↔
      RawsAgree place.remap ⟨0, 0, 0⟩ last raws := by
  apply run_agrees_iff place raws
  apply xyz_ext
  intro axis
  rw [polledSample_on]
  cases axis <;> cases place.remap.source _ <;> simp [Xyz.on, negateIf, signed]

/-- The value that the second sample leaves unchanged is scaled a second time. -/
theorem event_path_scales_twice : ¬ ∀ t ∈ trace (EventPath.step ⟨1, by decide⟩)
    ⟨⟨0, 0, 0⟩, ⟨0, 0, 0⟩⟩ [⟨0, 0, 16384⟩, ⟨64, 0, 16384⟩], t.outputs =
      (algoUpdateDataPolled 1 (0, t.event) t.before.gDataA).toList := by
  intro all
  have second := all ⟨⟨⟨0, 0, 256⟩, ⟨0, 0, 16384⟩⟩, ⟨64, 0, 16384⟩, [⟨1, 0, 4⟩],
    ⟨⟨1, 0, 4⟩, ⟨64, 0, 16384⟩⟩⟩ (.tail _ (.head _))
  exact absurd second (by decide)

end VibeXperia.Proof.Sensord

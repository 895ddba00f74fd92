import VibeXperia.Sensord.Hw

namespace VibeXperia.Proof.Sensord
open Lib VibeXperia.Sensord

/-! ## Looking up hardware -/

def driven (b : Build) (table : HwTable) (hw : SensorHwType) : Bool :=
  hw ∈ gListHw b && (table hw).available

variable {b : Build} {calls : HwCalls} {table : HwTable} {hw other : SensorHwType}

theorem hwGetHwById_eq :
    hwGetHwById b table hw = if driven b table hw then some hw else none := by
  cases available : (table hw).available
  · have absent : hwGetHwById b table hw = none := by
      rw [hwGetHwById, List.find?_eq_none]
      intro entry _ matching
      simp only [Bool.and_eq_true, beq_iff_eq] at matching
      rw [matching.1, available] at matching
      exact Bool.false_ne_true matching.2
    simp [absent, driven, available]
  · have only (entry : SensorHwType) :
        (entry == hw && (table entry).available) = true ↔ entry = hw := by
      rw [Bool.and_eq_true, beq_iff_eq]
      exact ⟨fun matching => matching.1, fun same => ⟨same, same ▸ available⟩⟩
    rw [hwGetHwById, find?_of_iff only]
    simp [driven, available]

theorem hwRefUp_of_driven (present : driven b table hw = true) :
    hwRefUp b calls table hw =
      ((SensorHw.refUp calls hw (table hw)).1,
        Function.update table hw (SensorHw.refUp calls hw (table hw)).2) := by
  simp [hwRefUp, hwGetHwById_eq, present]

theorem hwRefUp_of_not_driven (absent : driven b table hw = false) :
    hwRefUp b calls table hw = (-enodev, table) := by
  simp [hwRefUp, hwGetHwById_eq, absent]

theorem hwRefDown_of_driven (present : driven b table hw = true) :
    hwRefDown b calls table hw =
      ((SensorHw.refDown calls hw (table hw)).1,
        Function.update table hw (SensorHw.refDown calls hw (table hw)).2) := by
  simp [hwRefDown, hwGetHwById_eq, present]

theorem hwRefDown_of_not_driven (absent : driven b table hw = false) :
    hwRefDown b calls table hw = (-enodev, table) := by
  simp [hwRefDown, hwGetHwById_eq, absent]

theorem hwRefUp_other (distinct : other ≠ hw) :
    (hwRefUp b calls table hw).2 other = table other := by
  cases present : driven b table hw
  · rw [hwRefUp_of_not_driven present]
  · rw [hwRefUp_of_driven present]
    exact Function.update_of_ne distinct _ _

theorem hwRefDown_other (distinct : other ≠ hw) :
    (hwRefDown b calls table hw).2 other = table other := by
  cases present : driven b table hw
  · rw [hwRefDown_of_not_driven present]
  · rw [hwRefDown_of_driven present]
    exact Function.update_of_ne distinct _ _

theorem hwRefUp_congr {table table' : HwTable} (same : table hw = table' hw) :
    (hwRefUp b calls table hw).1 = (hwRefUp b calls table' hw).1 ∧
      (hwRefUp b calls table hw).2 hw = (hwRefUp b calls table' hw).2 hw := by
  have both : driven b table' hw = driven b table hw := by rw [driven, driven, same]
  cases present : driven b table hw
  · rw [hwRefUp_of_not_driven present, hwRefUp_of_not_driven (both.trans present)]
    exact ⟨rfl, same⟩
  · rw [hwRefUp_of_driven present, hwRefUp_of_driven (both.trans present), same]
    simp

theorem hwRefDown_congr {table table' : HwTable} (same : table hw = table' hw) :
    (hwRefDown b calls table hw).1 = (hwRefDown b calls table' hw).1 ∧
      (hwRefDown b calls table hw).2 hw = (hwRefDown b calls table' hw).2 hw := by
  have both : driven b table' hw = driven b table hw := by rw [driven, driven, same]
  cases present : driven b table hw
  · rw [hwRefDown_of_not_driven present, hwRefDown_of_not_driven (both.trans present)]
    exact ⟨rfl, same⟩
  · rw [hwRefDown_of_driven present, hwRefDown_of_driven (both.trans present), same]
    simp

/-! ## One hardware -/

structure Held (h : SensorHw) (n : Nat) : Prop where
  ref : h.ref = n
  enabled : h.enabled = decide (0 < n)

variable {h : SensorHw} {n : Nat}

structure SameSettings (h h' : SensorHw) : Prop where
  available : h'.available = h.available
  bw : h'.bw = h.bw
  delay : h'.delay = h.delay
  writes : h'.writes = h.writes

theorem refUp_settings : SameSettings h (SensorHw.refUp calls hw h).2 := by
  rw [SensorHw.refUp]
  dsimp only
  split_ifs <;> exact ⟨rfl, rfl, rfl, rfl⟩

theorem refDown_settings : SameSettings h (SensorHw.refDown calls hw h).2 := ⟨rfl, rfl, rfl, rfl⟩

structure AnsweredFor (calls : HwCalls) (hw : SensorHwType) (want bit : Bool) (h : SensorHw) :
    Prop where
  up : want = true → bit = false → h.ref = 0 →
    calls.enable hw true = 0 ∧ calls.restoreCfg hw = 0
  down : want = false → bit = true → h.ref = 1 → calls.enable hw false = 0

theorem answeredFor_of_fine {want bit : Bool} (fine : Fine calls hw) (h : SensorHw) :
    AnsweredFor calls hw want bit h :=
  ⟨fun _ _ _ => ⟨fine.enable true, fine.restoreCfg⟩, fun _ _ _ => fine.enable false⟩

theorem refUp_held (answered : AnsweredFor calls hw true false h) (held : Held h n)
    (few : n < 100) :
    (SensorHw.refUp calls hw h).1 = 0 ∧ Held (SensorHw.refUp calls hw h).2 (n + 1) := by
  have raised : signed 8 (h.ref + 1) = (n : Int) + 1 := by
    rw [held.ref]
    exact signed_of_lt (by omega) (by omega)
  simp only [SensorHw.refUp, raised]
  split_ifs with first failed
  · have zero : h.ref = 0 := by
      have ref := held.ref
      omega
    exact absurd (answered.up rfl rfl zero).1 failed
  · have zero : h.ref = 0 := by
      have ref := held.ref
      omega
    exact ⟨(answered.up rfl rfl zero).2, by simp, by simp⟩
  · refine ⟨rfl, by simp, ?_⟩
    have : 0 < n := by omega
    simp [held.enabled, this]

theorem refDown_held (answered : AnsweredFor calls hw false true h) (held : Held h (n + 1))
    (few : n < 100) :
    (SensorHw.refDown calls hw h).1 = 0 ∧ Held (SensorHw.refDown calls hw h).2 n := by
  have ref := held.ref
  have positive : 0 < h.ref := by omega
  have lowered : signed 8 (h.ref - 1) = n := by
    rw [ref, signed_of_lt (by omega) (by omega)]
    omega
  have err : (if h.ref = 1 then calls.enable hw false else 0) = 0 := by
    split_ifs with last
    · exact answered.down rfl rfl last
    · rfl
  refine ⟨err, by simp [SensorHw.refDown, positive, lowered], ?_⟩
  cases n with
  | zero =>
      have last : h.ref = 1 := ref
      simp [SensorHw.refDown, last, answered.down rfl rfl last]
  | succ n =>
      have : ¬h.ref = 1 := by omega
      simp [SensorHw.refDown, this, held.enabled]

end VibeXperia.Proof.Sensord

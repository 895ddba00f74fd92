import VibeXperia.Sensord.Agreement

namespace VibeXperia.Proof.Sensord
open Lib VibeXperia.Sensord

variable {b : Build} {algo : Algo} {id : AlgoModuleId} {ap ch : Sensor} {enable : Bool}

/-! ## Modules -/

structure Used (mod : AlgoModule) (n : Nat) : Prop where
  ref : mod.ref = n
  opMode : mod.opMode = if 0 < n then 1 else 0

theorem algoModRefChange_up {mod : AlgoModule} {n : Nat} (used : Used mod n) (few : n < 15) :
    Used (algoModRefChange mod true) (n + 1) := by
  have raised : signed 5 (mod.ref + 1) = (n : Int) + 1 := by
    rw [used.ref]
    exact signed_of_lt (by omega) (by omega)
  simp only [algoModRefChange, raised, if_true]
  split_ifs with first
  · exact ⟨by simp [AlgoModule.setEnable], rfl⟩
  · have : 0 < n := by omega
    exact ⟨by simp, by simp [used.opMode, this]⟩

theorem algoModRefChange_down {mod : AlgoModule} {n : Nat} (used : Used mod (n + 1))
    (few : n < 15) : Used (algoModRefChange mod false) n := by
  have ref := used.ref
  have positive : 0 < mod.ref := by omega
  have lowered : signed 5 (mod.ref - 1) = n := by
    rw [ref, signed_of_lt (by omega) (by omega)]
    omega
  cases n with
  | zero =>
      have last : mod.ref = 1 := by omega
      have zero (width : Nat) : signed width 0 = 0 := by simp [signed]
      constructor <;> simp [algoModRefChange, AlgoModule.setEnable, last, zero]
  | succ n =>
      have more : mod.ref ≠ 1 := by omega
      constructor <;> simp [algoModRefChange, more, positive, lowered, used.opMode]

theorem algoGetMod_eq (target : AlgoModuleId) :
    algoGetMod b target = if target ∈ algoModules b then some target else none :=
  find?_of_iff fun _ => beq_iff_eq

theorem algoModEnable_modules {target : AlgoModuleId} (listed : id ∈ algoModules b) :
    (algoModEnable b target enable algo).gAlgoModules id =
      if id = target then algoModRefChange (algo.gAlgoModules id) enable
      else algo.gAlgoModules id := by
  rw [algoModEnable, algoGetMod_eq]
  by_cases same : id = target
  · rw [← same, if_pos listed, if_pos rfl]
    exact Function.update_self ..
  · rw [if_neg same]
    by_cases compiled : target ∈ algoModules b
    · rw [if_pos compiled]
      exact Function.update_of_ne same ..
    · rw [if_neg compiled]

theorem algoUpdateModDep_modules (listed : id ∈ algoModules b) :
    (algoUpdateModDep b ap enable algo).gAlgoModules id =
      if !(algo.gProductsFusion ap).bypassProc && ap.moduleDep.contains id then
        algoModRefChange (algo.gAlgoModules id) enable
      else algo.gAlgoModules id := by
  cases bypass : (algo.gProductsFusion ap).bypassProc
  · cases ap <;> cases enable <;> cases id <;>
      simp [algoUpdateModDep, bypass, algoModEnable_modules listed, Sensor.moduleDep]
  · simp [algoUpdateModDep, bypass]

@[simp] theorem algoModEnable_gRefHwA {target : AlgoModuleId} :
    (algoModEnable b target enable algo).gRefHwA = algo.gRefHwA := by
  rw [algoModEnable]
  split <;> rfl

@[simp] theorem algoModEnable_gRefHwM {target : AlgoModuleId} :
    (algoModEnable b target enable algo).gRefHwM = algo.gRefHwM := by
  rw [algoModEnable]
  split <;> rfl

@[simp] theorem algoUpdateModDep_gRefHwA :
    (algoUpdateModDep b ap enable algo).gRefHwA = algo.gRefHwA := by
  cases ap <;> cases enable <;> simp only [algoUpdateModDep] <;> split <;> simp

@[simp] theorem algoUpdateModDep_gRefHwM :
    (algoUpdateModDep b ap enable algo).gRefHwM = algo.gRefHwM := by
  cases ap <;> cases enable <;> simp only [algoUpdateModDep] <;> split <;> simp

/-! ## Hardware -/

@[simp] theorem algoUpdateHwDep_modules :
    (algoUpdateHwDep ap enable algo).gAlgoModules = algo.gAlgoModules := by
  cases ap <;> rfl

theorem algoUpdateHwDep_gRefHwA :
    (algoUpdateHwDep ap enable algo).gRefHwA =
      if ap.hwDep.contains .a then hwRefChange algo.gRefHwA enable else algo.gRefHwA := by
  cases ap <;> rfl

theorem algoUpdateHwDep_gRefHwM :
    (algoUpdateHwDep ap enable algo).gRefHwM =
      if ap.hwDep.contains .m then hwRefChange algo.gRefHwM enable else algo.gRefHwM := by
  cases ap <;> rfl

theorem depBit_depMask (hw other : SensorHwType) :
    depBit (depMask hw) other = decide (hw = other) := by
  cases hw <;> cases other <;> rfl

theorem depBit_algoGetCurrHwDep (hw : SensorHwType) :
    depBit (algoGetCurrHwDep algo) hw =
      (hw = .a && decide (0 < algo.gRefHwA) || hw = .m && decide (0 < algo.gRefHwM)) := by
  rw [algoGetCurrHwDep]
  by_cases a : 0 < algo.gRefHwA <;> by_cases m : 0 < algo.gRefHwM <;>
    simp only [a, m, if_true, if_false] <;> cases hw <;> rfl

/-! ## Products -/

theorem algoEnableProduct_modules (listed : id ∈ algoModules b) :
    (algoEnableProduct b ap enable algo).gAlgoModules id =
      if !(algo.gProductsFusion ap).bypassProc && ap.moduleDep.contains id then
        algoModRefChange (algo.gAlgoModules id) enable
      else algo.gAlgoModules id := by
  rw [← algoUpdateModDep_modules listed]
  exact congrFun algoUpdateHwDep_modules id

theorem algoEnableProduct_gRefHwA :
    (algoEnableProduct b ap enable algo).gRefHwA =
      if ap.hwDep.contains .a then hwRefChange algo.gRefHwA enable else algo.gRefHwA := by
  have last : (algoEnableProduct b ap enable algo).gRefHwA =
      (algoUpdateHwDep ap enable (algoUpdateModDep b ap enable algo)).gRefHwA := rfl
  rw [last, algoUpdateHwDep_gRefHwA, algoUpdateModDep_gRefHwA]

theorem algoEnableProduct_gRefHwM :
    (algoEnableProduct b ap enable algo).gRefHwM =
      if ap.hwDep.contains .m then hwRefChange algo.gRefHwM enable else algo.gRefHwM := by
  have last : (algoEnableProduct b ap enable algo).gRefHwM =
      (algoUpdateHwDep ap enable (algoUpdateModDep b ap enable algo)).gRefHwM := rfl
  rw [last, algoUpdateHwDep_gRefHwM, algoUpdateModDep_gRefHwM]

theorem type_injective {c d : Sensor} (same : c.type = d.type) : c = d := by
  cases c <;> cases d <;> first | rfl | cases same

theorem fusionGetProduct_eq (ch : Sensor) :
    fusionGetProduct b ch.type = if ch ∈ productsFusion b then some ch else none := by
  apply find?_of_iff
  intro ap
  rw [beq_iff_eq]
  exact ⟨fun same => (type_injective same).symm, fun same => same ▸ rfl⟩

end VibeXperia.Proof.Sensord

import VibeXperia.Proof.Sensord.Hw
import VibeXperia.Proof.Sensord.Algo

namespace VibeXperia.Proof.Sensord
open Lib VibeXperia.Sensord

variable {b : Build} {calls : HwCalls} {changed : HwDepSet} {check check' : DepCheck}
variable {hw other : SensorHwType} {sp : ProviderName} {s : Daemon}

/-! ## The loop of `sp_re_check_dep_hw` touches one hardware at a time -/

theorem depBit_toggle (dep : HwDepSet) :
    depBit (dep ^^^ depMask hw) other = (depBit dep other ^^ decide (hw = other)) := by
  rw [← depBit_depMask]
  exact BitVec.getLsbD_xor

def checkAt (check : DepCheck) (hw : SensorHwType) : Bool × SensorHw :=
  (depBit check.newDepHw hw, check.hw hw)

theorem depCheckStep_other (distinct : other ≠ hw) :
    checkAt (depCheckStep b calls changed check hw) other = checkAt check other := by
  have record (called : Int × HwTable) (kept : called.2 other = check.hw other) :
      checkAt ⟨if called.1 ≠ 0 then check.newDepHw ^^^ depMask hw else check.newDepHw,
        called.2, called.1⟩ other = checkAt check other := by
    refine Prod.ext ?_ kept
    dsimp only [checkAt]
    split_ifs
    · simp [depBit_toggle, distinct.symm]
    · rfl
  rw [depCheckStep]
  split_ifs
  · exact record _ (hwRefUp_other distinct)
  · exact record _ (hwRefDown_other distinct)
  · rfl

theorem depCheckStep_congr (same : checkAt check hw = checkAt check' hw) :
    checkAt (depCheckStep b calls changed check hw) hw =
      checkAt (depCheckStep b calls changed check' hw) hw := by
  obtain ⟨bit, table⟩ := Prod.mk.inj same
  obtain ⟨upErr, up⟩ := @hwRefUp_congr b calls hw _ _ table
  obtain ⟨downErr, down⟩ := @hwRefDown_congr b calls hw _ _ table
  simp only [depCheckStep, ← bit]
  split_ifs <;> simp_all [checkAt, depBit_toggle]

theorem depCheck_of_notMem {l : List SensorHwType} (absent : hw ∉ l) :
    checkAt (l.foldl (depCheckStep b calls changed) check) hw = checkAt check hw := by
  induction l generalizing check with
  | nil => rfl
  | cons first rest ih =>
      rw [List.mem_cons, not_or] at absent
      exact (ih absent.2).trans (depCheckStep_other absent.1)

theorem depCheck_of_mem {l : List SensorHwType} (distinct : l.Nodup) (listed : hw ∈ l) :
    checkAt (l.foldl (depCheckStep b calls changed) check) hw =
      checkAt (depCheckStep b calls changed check hw) hw := by
  induction l generalizing check with
  | nil => cases listed
  | cons first rest ih =>
      obtain ⟨absent, distinct⟩ := List.nodup_cons.mp distinct
      rcases List.mem_cons.mp listed with rfl | listed
      · exact depCheck_of_notMem absent
      · have other : hw ≠ first := fun same => absent (same ▸ listed)
        exact (ih distinct listed).trans (depCheckStep_congr (depCheckStep_other other))

theorem depCheck_all :
    checkAt (SensorHwType.all.foldl (depCheckStep b calls changed) check) hw =
      checkAt (depCheckStep b calls changed check hw) hw := by
  apply depCheck_of_mem
  · decide
  · cases hw <;> decide

/-! ## Hardware that providers depend on -/

def ProviderName.all : List ProviderName := [.spFusion, .spPressure]

def depends (s : Daemon) (hw : SensorHwType) (sp : ProviderName) : Bool :=
  depBit (s.sp sp).currHwDep hw

/-- A provider's bit is set where it wants the hardware and there is any; the hardware is held by
those providers. -/
structure Powered (b : Build) (s : Daemon) (hw : SensorHwType) (wants : ProviderName → Bool) :
    Prop where
  dep : ∀ sp, depends s hw sp = (driven b s.hw hw && wants sp)
  held : Held (s.hw hw) (tally ProviderName.all (depends s hw) fun _ => true)

def cell (calls : HwCalls) (hw : SensorHwType) (driven want bit : Bool) (h : SensorHw) :
    Bool × SensorHw :=
  if driven && want != bit then
    if want then (decide ((SensorHw.refUp calls hw h).1 = 0), (SensorHw.refUp calls hw h).2)
    else (decide ((SensorHw.refDown calls hw h).1 ≠ 0), (SensorHw.refDown calls hw h).2)
  else (bit, h)

section Cell
variable {driven want bit : Bool} {h : SensorHw}

theorem cell_settings : SameSettings h (cell calls hw driven want bit h).2 := by
  rw [cell]
  split_ifs
  · exact refUp_settings
  · exact refDown_settings
  · exact ⟨rfl, rfl, rfl, rfl⟩

theorem cell_bit (set : (cell calls hw driven want bit h).1 = true) :
    driven = true ∨ bit = true := by
  rw [cell] at set
  split_ifs at set with changed
  · rw [Bool.and_eq_true] at changed
    exact .inl changed.1
  · rw [Bool.and_eq_true] at changed
    exact .inl changed.1
  · exact .inr set

end Cell

theorem depCheckStep_cell {changed : HwDepSet} {check : DepCheck} {want bit : Bool}
    (wanted : depBit check.newDepHw hw = want) (change : depBit changed hw = (want ^^ bit)) :
    checkAt (depCheckStep b calls changed check hw) hw =
      cell calls hw (driven b check.hw hw) want bit (check.hw hw) := by
  cases found : driven b check.hw hw
  · have up : hwRefUp b calls check.hw hw = _ := hwRefUp_of_not_driven found
    have down : hwRefDown b calls check.hw hw = _ := hwRefDown_of_not_driven found
    cases want <;> cases bit <;>
      simp_all [depCheckStep, checkAt, cell, enodev, depBit_toggle]
  · have up : hwRefUp b calls check.hw hw = _ := hwRefUp_of_driven found
    have down : hwRefDown b calls check.hw hw = _ := hwRefDown_of_driven found
    cases want <;> cases bit
    case false.false | true.true => simp_all [depCheckStep, checkAt, cell]
    case true.false =>
      by_cases ok : (SensorHw.refUp calls hw (check.hw hw)).1 = 0 <;>
        simp_all [depCheckStep, checkAt, cell, depBit_toggle]
    case false.true =>
      by_cases ok : (SensorHw.refDown calls hw (check.hw hw)).1 = 0 <;>
        simp_all [depCheckStep, checkAt, cell, depBit_toggle]

theorem cell_settles {driven want old : Bool} {h : SensorHw} {k : Nat}
    (answered : driven = true → AnsweredFor calls hw want old h)
    (present : old = true → driven = true) (held : Held h (k + old.toNat)) (few : k < 50) :
    (cell calls hw driven want old h).1 = (driven && want) ∧
      Held (cell calls hw driven want old h).2 (k + (driven && want).toNat) ∧
      (cell calls hw driven want old h).2.available = h.available := by
  cases driven with
  | false =>
      have unset : old = false := by simpa using present
      simpa [cell, unset] using held
  | true =>
      have answered := answered rfl
      cases want <;> cases old
      case false.false | true.true => simpa [cell] using held
      case true.false =>
        obtain ⟨answer, raised⟩ := refUp_held answered held (by simp; omega)
        simpa [cell, answer, refUp_settings.available] using raised
      case false.true =>
        obtain ⟨answer, lowered⟩ := refDown_held answered held (by omega)
        simpa [cell, answer, refDown_settings.available] using lowered

theorem spReCheckDepHw_at {s' : Daemon} (checked : s' = (spReCheckDepHw b calls sp s).2) :
    (depends s' hw sp, s'.hw hw) =
      checkAt (depCheckStep b calls (sp.getCurrHwDep s ^^^ (s.sp sp).currHwDep)
        ⟨sp.getCurrHwDep s, s.hw, 0⟩ hw) hw := by
  rw [← depCheck_all, checked]
  simp [checkAt, depends, spReCheckDepHw, Daemon.setSp]

theorem spReCheckDepHw_cell {s' : Daemon} (checked : s' = (spReCheckDepHw b calls sp s).2) :
    (depends s' hw sp, s'.hw hw) =
      cell calls hw (driven b s.hw hw) (depBit (sp.getCurrHwDep s) hw) (depends s hw sp)
        (s.hw hw) := by
  have change : depBit (sp.getCurrHwDep s ^^^ (s.sp sp).currHwDep) hw =
      (depBit (sp.getCurrHwDep s) hw ^^ depends s hw sp) := BitVec.getLsbD_xor
  rw [spReCheckDepHw_at checked]
  exact @depCheckStep_cell b calls hw _ ⟨sp.getCurrHwDep s, s.hw, 0⟩ _ _ rfl change

theorem depends_spReCheckDepHw {s' : Daemon} (checked : s' = (spReCheckDepHw b calls sp s).2) :
    depends s' hw = Function.update (depends s hw) sp (depends s' hw sp) := by
  funext other
  by_cases same : other = sp
  · rw [same, Function.update_self]
  · rw [Function.update_of_ne same, checked]
    simp [depends, spReCheckDepHw, Daemon.setSp, Function.update_of_ne same]

theorem spReCheckDepHw_powered {wants : ProviderName → Bool} (powered : Powered b s hw wants)
    (answered : driven b s.hw hw = true →
      AnsweredFor calls hw (depBit (sp.getCurrHwDep s) hw) (depends s hw sp) (s.hw hw)) :
    Powered b (spReCheckDepHw b calls sp s).2 hw
      (Function.update wants sp (depBit (sp.getCurrHwDep s) hw)) := by
  obtain ⟨s', checked⟩ : ∃ s', s' = (spReCheckDepHw b calls sp s).2 := ⟨_, rfl⟩
  rw [← checked]
  have listed : sp ∈ ProviderName.all := by cases sp <;> decide
  have distinct : ProviderName.all.Nodup := by decide
  have few : tally ProviderName.all (Function.update (depends s hw) sp false) (fun _ => true) ≤ 2 :=
    tally_le_length
  have held : Held (s.hw hw) (tally ProviderName.all (Function.update (depends s hw) sp false)
      (fun _ => true) + (depends s hw sp).toNat) := by
    have held := powered.held
    rwa [tally_self distinct listed, Bool.and_true] at held
  have present (old : depends s hw sp = true) : driven b s.hw hw = true := by
    rw [powered.dep, Bool.and_eq_true] at old
    exact old.1
  have one := @spReCheckDepHw_cell b calls hw sp s s' checked
  obtain ⟨bit, held, available⟩ := cell_settles answered present held (by omega)
  rw [← one] at bit held available
  dsimp only at bit held available
  have kept : driven b s'.hw hw = driven b s.hw hw := by rw [driven, driven, available]
  constructor
  · intro other
    rw [depends_spReCheckDepHw checked, kept]
    by_cases same : other = sp
    · rw [same, Function.update_self, Function.update_self, bit]
    · rw [Function.update_of_ne same, Function.update_of_ne same, powered.dep]
  · rw [depends_spReCheckDepHw checked, tally_update distinct listed, bit, Bool.and_true]
    exact held

end VibeXperia.Proof.Sensord

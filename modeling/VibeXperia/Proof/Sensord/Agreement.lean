import VibeXperia.Lib.Run
import VibeXperia.Proof.Sensord.Start

namespace VibeXperia.Proof.Sensord
open Lib VibeXperia.Sensord

variable {b : Build} {s : Daemon} {hw : SensorHwType}

theorem hasDriver_eq : s.hasDriver b hw = driven b s.hw hw := by
  rw [Daemon.hasDriver, hwGetHwById_eq]
  cases driven b s.hw hw <;> rfl

theorem Agrees.refsAgree (agrees : Agrees b s) : RefsAgree b s where
  module id compiled := by
    obtain ⟨ref, opMode⟩ := agrees.modules id compiled
    refine ⟨ref, ?_⟩
    rw [opMode, ref]
    split_ifs with used <;> omega
  gRefHwA := agrees.gRefHwA
  gRefHwM := agrees.gRefHwM
  provider := agrees.ref

theorem PoweredForUse.hwAgrees (powered : PoweredForUse b hw s) : HwAgrees b s hw where
  currHwDep sp := by
    rw [hasDriver_eq]
    exact powered.dep sp
  enabled := by
    rw [hasDriver_eq, powered.held.enabled, decide_eq_true_eq, tally_pos]
    constructor
    · rintro ⟨sp, -, held, -⟩
      rw [powered.dep, Bool.and_eq_true] at held
      exact ⟨held.1, sp, held.2⟩
    · rintro ⟨present, sp, needed⟩
      refine ⟨sp, by cases sp <;> decide, ?_, rfl⟩
      rw [powered.dep, present, needed]
      rfl

theorem run_sound {fine : SensorHwType → Prop} {errs : InitErrs} {events : List Event}
    (answers : ∀ e ∈ events, ∀ ch hw, fine hw → Fine (e.calls ch) hw) :
    Sound b fine (final (step b) (start b errs) events) := by
  have runs := @invariant_of_allowed Daemon Event Int (step b) (Sound b fine)
    (fun _ e => ∀ ch hw, fine hw → Fine (e.calls ch) hw) (fun _ _ => step_sound)
    (start b errs) events (start_sound errs)
    (fun t member => answers t.event (event_mem_of_mem member))
  exact runs.1

/-- After every sequence of commands the counts are those of the channels that are not asleep, and
so is the power of all hardware whose driver did not fail. -/
theorem refs_agree (b : Build) (errs : InitErrs) (events : List Event) :
    RefsAgree b (final (step b) (start b errs) events) ∧
      ∀ hw, (∀ e ∈ events, ∀ ch, Fine (e.calls ch) hw) →
        HwAgrees b (final (step b) (start b errs) events) hw := by
  have sound := @run_sound b (fun hw => ∀ e ∈ events, ∀ ch, Fine (e.calls ch) hw) errs events
    fun e member ch hw fine => fine e member ch
  exact ⟨sound.agrees.refsAgree, fun hw fine => (sound.powered hw fine).hwAgrees⟩

def quiet : HwCalls := ⟨fun _ _ => 0, fun _ => 0, 0, 0⟩

def noErrs : InitErrs := ⟨fun _ => 0, 0, 0, 0⟩

def orientationOn : List Event := [⟨.cmd 3 setSensorActive 1, fun _ => quiet⟩]

theorem refs_agree_orientation :
    HwAgrees nicki (final (step nicki) (start nicki noErrs) orientationOn) .m ∧
      ((final (step nicki) (start nicki noErrs) orientationOn).hw .m).enabled = true := by
  refine ⟨(refs_agree nicki noErrs orientationOn).2 .m fun e member ch => ?_, by decide⟩
  rw [List.mem_singleton.mp member]
  exact ⟨fun _ => rfl, rfl⟩

/-! ## What is not counted so -/

def accelerometerOn : Daemon :=
  final (step nicki) (start nicki noErrs) [⟨.cmd 1 setSensorActive 1, fun _ => quiet⟩]

def withPressure : Build := { nicki with sptSensor := fun _ => true }

def pressureOn : Daemon :=
  final (step withPressure) (start withPressure noErrs)
    [⟨.cmd 6 setSensorActive 1, fun _ => quiet⟩]

def magnetometerOn : Daemon :=
  final (step nicki) (start nicki noErrs)
    [⟨.cmd 2 setSensorActive 1, fun _ => { quiet with restoreCfg := fun _ => -5 }⟩]

/-- Hardware is also counted for channels whose data is not processed; and bits are not set for
hardware that has no driver, nor where only the settings could not be restored. -/
theorem bypassed_channel_is_counted :
    (accelerometerOn.algo.gRefHwA = 1 ∧
      tally (gListCh nicki) accelerometerOn.awake
        (fun ch => accelerometerOn.processed ch && ch.hwDep.contains .a) = 0) ∧
    (pressureOn.needs withPressure .spPressure .p = true ∧
      depBit (pressureOn.sp .spPressure).currHwDep .p = false) ∧
    (magnetometerOn.needs nicki .spFusion .m = true ∧
      (magnetometerOn.hw .m).enabled = true ∧
      depBit (magnetometerOn.sp .spFusion).currHwDep .m = false) := by
  decide

end VibeXperia.Proof.Sensord

import VibeXperia.Proof.Sensord.Agreement
import VibeXperia.Proof.Sensord.Handle

namespace VibeXperia.Proof.Sensord
open Lib VibeXperia.Sensord

variable {b : Build} {sp : ProviderName} {s : Daemon} {hw : SensorHwType} {e : ChannelEvent}

/-! ## The count of an event's provider -/

theorem holders_eq : s.holders hw = tally ProviderName.all (depends s hw) fun _ => true := by
  rw [Daemon.holders, tally]
  apply List.countP_congr
  intro sp _
  rw [Bool.and_true]
  rfl

theorem CheckedIn.bits {t : Daemon} (checked : CheckedIn b e s sp t) (hw : SensorHwType) :
    depends (handle b s e).1 hw = Function.update (depends s hw) sp
      (cell e.calls hw (driven b s.hw hw) (e.needsAfter b s sp hw) (depends s hw sp) (s.hw hw)).1 := by
  funext other
  by_cases same : other = sp
  · rw [same, Function.update_self]
    exact (checked.here hw).1
  · rw [Function.update_of_ne same]
    exact checked.elsewhere same hw

theorem needsAfter_other (agrees : Agrees b s) (checks : e.checks s = some sp)
    {other : ProviderName} (distinct : other ≠ sp) :
    e.needsAfter b s other hw = s.needs b other hw := by
  obtain ⟨ch, state, calls, rfl, -, rfl, registered, -⟩ := checks_cases agrees checks
  have stranger : s.clientOf other ch = false := by
    rw [Daemon.clientOf, registered]
    simpa using distinct.symm
  rw [ChannelEvent.needsAfter, Daemon.needs]
  congr 1
  funext ch'
  by_cases same : ch' = ch
  · simp [same, stranger]
  · simp [ChannelEvent.awakeAfter, same]

/-! ## As long as no call fails -/

structure AllPowered (b : Build) (s : Daemon) : Prop where
  agrees : Agrees b s
  powered : ∀ hw, PoweredForUse b hw s

theorem AllPowered.counted (all : AllPowered b s) : PowerCounted s where
  enabled sp hw bit := by
    rw [(all.powered hw).held.enabled, decide_eq_true_eq, tally_pos]
    exact ⟨sp, by cases sp <;> decide, bit, rfl⟩
  ref hw := by rw [(all.powered hw).held.ref, holders_eq]

theorem answeredFor_of_answered (answered : e.Answered b s) (checks : e.checks s = some sp)
    (present : driven b s.hw hw = true) :
    AnsweredFor e.calls hw (e.needsAfter b s sp hw) (depends s hw sp) (s.hw hw) := by
  obtain ⟨up, down⟩ := answered sp hw checks (hasDriver_eq.trans present)
  exact ⟨up, down⟩

theorem CheckedIn.powered {t : Daemon} (agrees : Agrees b s) (checks : e.checks s = some sp)
    (checked : CheckedIn b e s sp t) (powered : PoweredForUse b hw s)
    (answered : e.Answered b s) : PoweredForUse b hw (handle b s e).1 := by
  have inside : Powered b t hw fun sp => s.needs b sp hw :=
    Powered.congr powered checked.before (by rw [checked.table]; exact SamePower.refl _)
  have after := @spReCheckDepHw_powered b e.calls hw sp t _ inside (by
    intro present
    rw [checked.wanted, depends, checked.before, checked.table]
    rw [checked.table] at present
    exact answeredFor_of_answered answered checks present)
  have wants : Function.update (fun sp => s.needs b sp hw) sp (depBit (sp.getCurrHwDep t) hw) =
      fun sp => (handle b s e).1.needs b sp hw := by
    funext other
    rw [needs_after agrees]
    by_cases same : other = sp
    · rw [same, Function.update_self, checked.wanted]
    · rw [Function.update_of_ne same, needsAfter_other agrees checks same]
  rw [wants] at after
  exact after.congr checked.currHwDep (checked.power hw)

theorem AllPowered.step (all : AllPowered b s) (answered : e.Answered b s) :
    AllPowered b (handle b s e).1 := by
  refine ⟨handle_agrees all.agrees e, fun hw => ?_⟩
  cases checks : e.checks s with
  | none => exact (all.powered hw).congr (handle_unchecked checks)
  | some sp =>
      obtain ⟨t, checked⟩ := checks_in all.agrees checks
      exact checked.powered all.agrees checks (all.powered hw) answered

/-! ## A call that fails -/

theorem refUp_first (h : SensorHw) (calls : HwCalls) (zero : h.ref = 0)
    (failed : ¬ (calls.enable hw true = 0 ∧ calls.restoreCfg hw = 0)) :
    (SensorHw.refUp calls hw h).1 ≠ 0 ∧ (SensorHw.refUp calls hw h).2.ref = 1 := by
  have first : signed 8 (h.ref + 1) = 1 := by rw [zero]; decide
  simp only [SensorHw.refUp, first, if_true]
  by_cases refused : calls.enable hw true = 0
  · simpa [refused] using failed
  · simp [refused]

theorem refDown_last (h : SensorHw) (calls : HwCalls) (last : h.ref = 1)
    (failed : ¬ calls.enable hw false = 0) :
    (SensorHw.refDown calls hw h).1 ≠ 0 ∧ (SensorHw.refDown calls hw h).2.ref = 0 := by
  have lowered : signed 8 0 = 0 := by decide
  simp [SensorHw.refDown, last, failed, lowered]

theorem AllPowered.uncounted (all : AllPowered b s) (failed : ¬ e.Answered b s) :
    ¬ PowerCounted (handle b s e).1 := by
  intro counted
  apply failed
  intro sp hw checks present
  obtain ⟨t, checked⟩ := checks_in all.agrees checks
  have listed : sp ∈ ProviderName.all := by cases sp <;> decide
  have distinct : ProviderName.all.Nodup := by decide
  have before := all.counted.ref hw
  have after := counted.ref hw
  rw [holders_eq, tally_self distinct listed] at before
  rw [holders_eq, checked.bits hw, tally_update distinct listed, (checked.here hw).2.ref] at after
  rw [hasDriver_eq] at present
  rw [present] at after
  constructor
  · intro needed unset zero
    by_contra failed
    obtain ⟨err, ref⟩ := refUp_first _ _ zero failed
    have bit : depends s hw sp = false := unset
    simp [needed, cell, bit, err, ref] at after before
    omega
  · intro unneeded held last
    by_contra failed
    obtain ⟨err, ref⟩ := refDown_last _ _ last failed
    have bit : depends s hw sp = true := held
    simp [unneeded, cell, bit, err, ref] at after before
    omega

/-! ## Runs -/

theorem start_powered (errs : InitErrs) : AllPowered b (start b errs) := by
  have sound := @start_sound b (fun _ => True) errs
  exact ⟨sound.agrees, fun hw => sound.powered hw trivial⟩

theorem AllPowered.not_fails (all : AllPowered b s) (answered : e.Answered b s) :
    ¬ Fails (react (handle b) s e) hw true := by
  rintro ⟨err, failed, logged⟩
  cases checks : e.checks s with
  | none =>
      rw [react, unchecked_effects checks] at logged
      cases logged
  | some sp =>
      obtain ⟨t, checked⟩ := checks_in all.agrees checks
      obtain ⟨⟨present, change, wanted, first⟩, rfl⟩ := checked.enableCalled.mp logged
      rw [← wanted] at change first
      have answered := answeredFor_of_answered answered checks present
      have unset : depends s hw sp = false := by simpa using change.symm
      have zero : (s.hw hw).ref = 0 := by
        have few : tally ProviderName.all (depends s hw) (fun _ => true) ≤ 2 := tally_le_length
        rw [(all.powered hw).held.ref] at first ⊢
        rw [if_pos rfl, signed_of_lt (by omega) (by omega)] at first
        omega
      exact failed (answered.up wanted.symm unset zero).1

/-- In a run of commands the counts are right and failures to power up are made good exactly when
there are no failures. -/
theorem powers_up (errs : InitErrs) (events : List Event) :
    PowersUp (trace (handle b) (start b errs) (parts b (start b errs) events)) ↔
      ∀ t ∈ trace (handle b) (start b errs) (parts b (start b errs) events),
        t.event.Answered b t.before := by
  have run := @run_iff Daemon ChannelEvent PowerEffect (handle b) (AllPowered b)
    (fun s e => e.Answered b s) (fun t => PowerCounted t.after)
    (fun s e all => ⟨fun counted => by
      by_contra failed
      exact all.uncounted failed counted, fun answered => (all.step answered).counted⟩)
    (fun s e all answered => all.step answered)
    (start b errs) (parts b (start b errs) events) (start_powered errs)
  constructor
  · intro powers
    exact run.mp powers.counted
  · intro answered
    refine ⟨run.mpr answered, ?_⟩
    intro hw before t between u after split failed
    have member : t ∈ trace (handle b) (start b errs) (parts b (start b errs) events) := by
      rw [split]
      simp
    obtain ⟨-, inside⟩ := invariant_of_allowed (fun s e all answered => AllPowered.step all answered)
      (start_powered errs) answered
    rw [eq_react_of_mem member] at failed
    exact absurd failed ((inside t member).1.not_fails (answered t member))

def refusedOnce : List Event :=
  [⟨.cmd 2 setSensorActive 1, fun _ => { quiet with enable := fun _ _ => -5 }⟩,
    ⟨.cmd 2 setSensorActive 0, fun _ => quiet⟩, ⟨.cmd 2 setSensorActive 1, fun _ => quiet⟩]

/-- It then stays off, and the bit of its provider is set. -/
theorem not_enabled_again :
    ¬ PowersUp (trace (handle nicki) (start nicki noErrs)
      (parts nicki (start nicki noErrs) refusedOnce)) := by
  intro powers
  have commands : parts nicki (start nicki noErrs) refusedOnce =
      [.setState .m .normal { quiet with enable := fun _ _ => -5 }, .setState .m .sleep quiet,
        .setState .m .normal quiet] := rfl
  rw [commands] at powers
  have off := (powers.counted _ (List.getLast_mem (by simp))).enabled .spFusion .m
  revert off
  decide

end VibeXperia.Proof.Sensord

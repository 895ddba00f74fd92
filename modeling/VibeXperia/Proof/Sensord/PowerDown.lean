import VibeXperia.Proof.Sensord.Agreement
import VibeXperia.Proof.Sensord.Handle

namespace VibeXperia.Proof.Sensord
open Lib VibeXperia.Sensord

variable {b : Build} {sp : ProviderName} {s t : Daemon} {hw : SensorHwType} {e : ChannelEvent}

/-! ## One hardware that is given up -/

section GiveUp
variable {calls : HwCalls} {driven want bit : Bool} {h : SensorHw}

theorem cell_enabled (on : (cell calls hw driven want bit h).2.enabled = true) :
    driven = true ∧ want = true ∨ h.enabled = true := by
  rw [cell] at on
  split_ifs at on with changed up
  · rw [Bool.and_eq_true] at changed
    exact .inl ⟨changed.1, up⟩
  · right
    simp only [SensorHw.refDown] at on
    split_ifs at on <;> exact on
  · exact .inr on

theorem cell_gives_up (on : h.enabled = true) :
    (cell calls hw true false bit h).1 = false ∧
        (cell calls hw true false bit h).2.enabled = true ↔
      ¬ (bit = true ∧ h.ref = 1) := by
  cases bit with
  | false => simp [cell, on]
  | true =>
      by_cases last : h.ref = 1
      · by_cases failed : calls.enable hw false = 0 <;> simp [cell, SensorHw.refDown, last, failed]
      · simp [cell, SensorHw.refDown, last, on]

end GiveUp

/-! ## What holds whatever fails -/

theorem ne_p_of_driven {table : HwTable} (present : driven b table hw = true) : hw ≠ .p := by
  rintro rfl
  simp [driven, gListHw] at present

structure OwnHw (b : Build) (s : Daemon) : Prop where
  agrees : Agrees b s
  driver : ∀ hw, (s.hw hw).enabled = true → driven b s.hw hw = true
  pressure : ∀ hw, depends s hw .spPressure = false

theorem needsAfter_pressure (agrees : Agrees b s)
    (needed : e.needsAfter b s .spPressure hw = true) : hw = .p := by
  rw [← needs_after agrees, needs_iff (handle_agrees agrees e)] at needed
  obtain ⟨ch, -, -, atHome, needed⟩ := needed
  rcases hwDep_cases needed with ⟨other, -⟩ | ⟨-, same⟩
  · cases atHome.trans other
  · exact same

theorem CheckedIn.driver (checked : CheckedIn b e s sp t) (hw : SensorHwType) :
    driven b (handle b s e).1.hw hw = driven b s.hw hw := by
  have kept := (checked.here hw).2.available.trans cell_settings.available
  rw [driven, driven, kept]

theorem CheckedIn.enabled (checked : CheckedIn b e s sp t)
    (on : ((handle b s e).1.hw hw).enabled = true) :
    driven b s.hw hw = true ∧ e.needsAfter b s sp hw = true ∨ (s.hw hw).enabled = true := by
  rw [(checked.here hw).2.enabled] at on
  exact cell_enabled on

theorem OwnHw.unchecked (own : OwnHw b s) (unchecked : e.checks s = none) :
    OwnHw b (handle b s e).1 := by
  have same := @handle_unchecked b s e unchecked
  refine ⟨handle_agrees own.agrees e, fun hw on => ?_, fun hw => ?_⟩
  · rw [(same.power hw).enabled] at on
    rw [driven, (same.power hw).available]
    exact own.driver hw on
  · rw [depends, same.currHwDep]
    exact own.pressure hw

theorem OwnHw.checked (own : OwnHw b s) (checked : CheckedIn b e s sp t) :
    OwnHw b (handle b s e).1 := by
  refine ⟨handle_agrees own.agrees e, fun hw on => ?_, fun hw => ?_⟩
  · rw [checked.driver]
    rcases checked.enabled on with ⟨present, -⟩ | before
    · exact present
    · exact own.driver hw before
  · by_cases same : ProviderName.spPressure = sp
    · subst same
      rw [(checked.here hw).1, own.pressure]
      cases needed : e.needsAfter b s .spPressure hw with
      | false => simp [cell]
      | true =>
          have absent : driven b s.hw hw = false := by
            rw [Bool.eq_false_iff]
            exact fun present => ne_p_of_driven present (needsAfter_pressure own.agrees needed)
          simp [cell, absent]
    · rw [checked.elsewhere same]
      exact own.pressure hw

theorem OwnHw.step (own : OwnHw b s) (e : ChannelEvent) : OwnHw b (handle b s e).1 := by
  cases checks : e.checks s with
  | none => exact own.unchecked checks
  | some sp =>
      obtain ⟨t, checked⟩ := checks_in own.agrees checks
      exact own.checked checked

theorem start_ownHw (errs : InitErrs) : OwnHw b (start b errs) where
  agrees := (@start_sound b (fun _ => True) errs).agrees
  driver hw on := by
    rw [((start_resting errs).off hw).enabled] at on
    cases on
  pressure hw := by
    rw [depends, ((start_resting errs).sp .spPressure).currHwDep]
    simp [depBit]

/-! ## Who gives hardware up -/

theorem off_iff_givesUp (own : OwnHw b s) (off : PoweredOff b s) :
    PoweredOff b (handle b s e).1 ↔ e.GivesUp b s := by
  cases checks : e.checks s with
  | none =>
      have same := @handle_unchecked b s e checks
      have kept : PoweredOff b (handle b s e).1 := by
        intro hw unneeded unheld
        rw [(same.power hw).enabled]
        apply off hw
        · intro sp
          rw [← needs_congr same]
          exact unneeded sp
        · intro sp
          rw [← same.currHwDep]
          exact unheld sp
      have nothing : e.GivesUp b s := by
        intro sp hw checked
        rw [checks] at checked
        cases checked
      exact ⟨fun _ => nothing, fun _ => kept⟩
  | some sp =>
      obtain ⟨t, checked⟩ := checks_in own.agrees checks
      constructor
      · intro off' sp' hw checks' on unneeded
        obtain rfl : sp = sp' := Option.some.inj (checks.symm.trans checks')
        by_contra kept
        rw [not_or] at kept
        obtain ⟨nobody, held⟩ := kept
        obtain ⟨bit, power⟩ := checked.here hw
        have left := (@cell_gives_up hw e.calls (depends s hw sp) _ on).mpr held
        rw [own.driver hw on, unneeded sp] at bit power
        rw [left.1] at bit
        have on' := power.enabled.trans left.2
        rw [off' hw (fun other => (needs_after own.agrees).trans (unneeded other)) ?_] at on'
        · cases on'
        · intro other
          by_cases same : other = sp
          · exact same ▸ bit
          · have kept := checked.elsewhere same hw
            rw [depends] at kept
            rw [kept, Bool.eq_false_iff]
            exact fun set => nobody ⟨other, same, set⟩
      · intro gives hw unneeded unheld
        have unneeded' (other : ProviderName) : e.needsAfter b s other hw = false :=
          (needs_after own.agrees).symm.trans (unneeded other)
        rw [Bool.eq_false_iff]
        intro on'
        have on : (s.hw hw).enabled = true := by
          rcases checked.enabled on' with ⟨-, needed⟩ | on
          · rw [unneeded' sp] at needed
            cases needed
          · exact on
        rcases gives sp hw checks on unneeded' with ⟨other, distinct, held⟩ | held
        · have kept := checked.elsewhere distinct hw
          rw [depends, unheld other] at kept
          exact absurd (kept.trans held) (by simp)
        · obtain ⟨bit, power⟩ := checked.here hw
          rw [own.driver hw on, unneeded' sp] at bit power
          apply (cell_gives_up on).mp ⟨bit.symm.trans (unheld sp), power.enabled.symm.trans on'⟩
          exact held

/-! ## A call that fails -/

theorem OwnHw.fails (own : OwnHw b s) (failed : Fails (react (handle b) s e) hw false)
    (ours : ∃ dep, .checked sp dep ∈ (handle b s e).2) :
    driven b s.hw hw = true ∧ depends s hw sp = true ∧ depends (handle b s e).1 hw sp = true := by
  obtain ⟨err, failed, logged⟩ := failed
  obtain ⟨dep, ours⟩ := ours
  cases checks : e.checks s with
  | none =>
      rw [unchecked_effects checks] at ours
      cases ours
  | some sp' =>
      obtain ⟨t, checked⟩ := checks_in own.agrees checks
      obtain ⟨rfl, -⟩ := checked.checks.mp ours
      obtain ⟨⟨present, change, wanted, last⟩, rfl⟩ := checked.enableCalled.mp logged
      rw [← wanted] at change last
      have held : depends s hw sp = true := by simpa using change.symm
      have last : (s.hw hw).ref = 1 := by simpa using last
      refine ⟨present, held, ?_⟩
      rw [(checked.here hw).1, present, ← wanted, held]
      simp [cell, SensorHw.refDown, last, failed]

theorem checksFor_iff (checked : CheckedIn b e s sp t) {wanted : Bool} :
    ChecksFor (react (handle b) s e) sp hw wanted ↔ e.needsAfter b s sp hw = wanted := by
  constructor
  · rintro ⟨dep, logged, bit⟩
    obtain ⟨-, rfl⟩ := checked.checks.mp logged
    exact (checked.wanted hw).symm.trans bit
  · intro needed
    exact ⟨_, checked.checks.mpr ⟨rfl, rfl⟩, (checked.wanted hw).trans needed⟩

theorem OwnHw.waits (own : OwnHw b s) (held : depends s hw sp = true)
    (waiting : ∀ wanted, ¬ ChecksFor (react (handle b) s e) sp hw wanted) :
    depends (handle b s e).1 hw sp = true := by
  cases checks : e.checks s with
  | none =>
      rw [depends, (@handle_unchecked b s e checks).currHwDep]
      exact held
  | some sp' =>
      obtain ⟨t, checked⟩ := checks_in own.agrees checks
      have other : sp ≠ sp' := by
        rintro rfl
        exact waiting _ ((checksFor_iff checked).mpr rfl)
      rw [checked.elsewhere other]
      exact held

theorem waits_run (own : OwnHw b s) (held : depends s hw sp = true) {es : List ChannelEvent}
    (waiting : ∀ v ∈ trace (handle b) s es, ∀ wanted, ¬ ChecksFor v sp hw wanted) :
    (OwnHw b (final (handle b) s es) ∧ depends (final (handle b) s es) hw sp = true) ∧
      ∀ v ∈ trace (handle b) s es, depends v.after hw sp = true := by
  obtain ⟨last, inside⟩ := @invariant_of_allowed _ _ _ (handle b)
    (fun s => OwnHw b s ∧ depends s hw sp = true)
    (fun s e => ∀ wanted, ¬ ChecksFor (react (handle b) s e) sp hw wanted)
    (fun s e before waiting => ⟨before.1.step e, before.1.waits before.2 waiting⟩) s es ⟨own, held⟩
    (fun v member => by
      rw [← eq_react_of_mem member]
      exact waiting v member)
  exact ⟨last, fun v member => (inside v member).2.2⟩

theorem OwnHw.again (own : OwnHw b s) (held : depends s hw sp = true)
    (gives : e.GivesUp b s) (unneeded : ChecksFor (react (handle b) s e) sp hw false)
    (on : (s.hw hw).enabled = true) :
    Calls (react (handle b) s e) hw false ∧
      (((handle b s e).1.hw hw).enabled = true → depends (handle b s e).1 hw sp = true) := by
  obtain ⟨dep, logged, bit⟩ := id unneeded
  cases checks : e.checks s with
  | none =>
      rw [react, unchecked_effects checks] at logged
      cases logged
  | some sp' =>
      obtain ⟨t, checked⟩ := checks_in own.agrees checks
      obtain ⟨rfl, -⟩ := checked.checks.mp logged
      have unneeded := (checksFor_iff checked).mp unneeded
      have present := own.driver hw on
      have fusion : sp = .spFusion := by
        cases sp with
        | spFusion => rfl
        | spPressure => cases (own.pressure hw).symm.trans held
      have nobody (other : ProviderName) : e.needsAfter b s other hw = false := by
        cases other with
        | spFusion => exact fusion ▸ unneeded
        | spPressure =>
            rw [Bool.eq_false_iff]
            exact fun needed => ne_p_of_driven present (needsAfter_pressure own.agrees needed)
      have last : (s.hw hw).ref = 1 := by
        rcases gives sp hw checks on nobody with ⟨other, distinct, bit⟩ | ⟨-, last⟩
        · cases other with
          | spFusion => exact absurd fusion.symm distinct
          | spPressure => cases (own.pressure hw).symm.trans bit
        · exact last
      constructor
      · refine ⟨_, checked.enableCalled.mpr ⟨⟨present, ?_, unneeded.symm, ?_⟩, rfl⟩⟩
        · simp [unneeded, held]
        · simpa [unneeded] using last
      · intro on'
        obtain ⟨bit, power⟩ := checked.here hw
        rw [present, unneeded, held] at bit power
        by_contra unset
        rw [bit, Bool.not_eq_true] at unset
        exact (cell_gives_up on).mp ⟨unset, power.enabled.symm.trans on'⟩ ⟨rfl, last⟩

/-! ## Runs -/

/-- In a run of commands hardware is given up, also after failures to power it down, exactly when
each check that is to give it up finds it held once. -/
theorem powers_down (errs : InitErrs) (events : List Event) :
    PowersDown b (trace (handle b) (start b errs) (parts b (start b errs) events)) ↔
      ∀ t ∈ trace (handle b) (start b errs) (parts b (start b errs) events),
        t.event.GivesUp b t.before := by
  generalize parts b (start b errs) events = es
  have run := @run_iff Daemon ChannelEvent PowerEffect (handle b)
    (fun s => OwnHw b s ∧ PoweredOff b s) (fun s e => e.GivesUp b s)
    (fun t => PoweredOff b t.after) (fun s e before => off_iff_givesUp before.1 before.2)
    (fun s e before gives => ⟨before.1.step e, (off_iff_givesUp before.1 before.2).mpr gives⟩)
    (start b errs) es ⟨start_ownHw errs, fun hw _ _ => by
      rw [((start_resting errs).off hw).enabled]
      rfl⟩
  constructor
  · intro powers
    exact run.mp powers.off
  · intro gives
    have owned (es : List ChannelEvent) : OwnHw b (final (handle b) (start b errs) es) :=
      (invariant (fun s e (own : OwnHw b s) => own.step e) (start_ownHw errs) es).1
    refine ⟨run.mpr gives, ?_, ?_⟩
    · intro hw sp before t between after split failed ours waiting
      obtain ⟨es₁, e, es₂, rfl, rfl, rfl, later⟩ := trace_eq_append_cons split
      obtain ⟨es₃, es₄, rfl, rfl, rfl⟩ := trace_eq_append later.symm
      have own := owned es₁
      obtain ⟨-, -, held⟩ := own.fails failed ours
      exact List.forall_mem_cons.mpr ⟨held, (waits_run (own.step e) held waiting).2⟩
    · intro hw sp before t between u after split failed ours waiting unneeded on
      have member : u ∈ trace (handle b) (start b errs) es := by
        rw [split]
        simp
      obtain ⟨es₁, e, es₂, rfl, rfl, rfl, later⟩ := trace_eq_append_cons split
      obtain ⟨es₃, e', es₄, rfl, rfl, rfl, rfl⟩ := trace_eq_append_cons later.symm
      have own := owned es₁
      obtain ⟨-, -, held⟩ := own.fails failed ours
      obtain ⟨⟨own', held'⟩, -⟩ := waits_run (own.step e) held waiting
      exact own'.again held' (gives _ member) unneeded on

def notDisabledOnce : List Event :=
  [⟨.cmd 2 setSensorActive 1, fun _ => quiet⟩,
    ⟨.cmd 2 setSensorActive 0, fun _ => { quiet with enable := fun _ _ => -5 }⟩,
    ⟨.cmd 1 setSensorActive 1, fun _ => quiet⟩]

/-- The check for the accelerometer clears the bit, and the magnetometer stays on. -/
theorem not_disabled_again :
    ¬ PowersDown nicki (trace (handle nicki) (start nicki noErrs)
      (parts nicki (start nicki noErrs) notDisabledOnce)) := by
  intro powers
  have commands : parts nicki (start nicki noErrs) notDisabledOnce =
      [.setState .m .normal quiet, .setState .m .sleep { quiet with enable := fun _ _ => -5 },
        .setState .a .normal quiet] := rfl
  rw [commands] at powers
  have off := powers.off _ (List.getLast_mem (by simp)) .m (fun sp => by cases sp <;> decide)
    (fun sp => by cases sp <;> decide)
  revert off
  decide

end VibeXperia.Proof.Sensord

import VibeXperia.Sensord.Power
import VibeXperia.Proof.Sensord.Start

namespace VibeXperia.Proof.Sensord
open Lib VibeXperia.Sensord

variable {b : Build} {calls : HwCalls} {sp : ProviderName} {ch : Sensor} {on : Bool}
variable {s : Daemon} {hw : SensorHwType} {state : ChannelState} {e : ChannelEvent}

/-! ## Commands are handled channel by channel -/

theorem final_displayParts {calls : Sensor → HwCalls} {l : List Sensor} :
    final (handle b) s (displayParts b calls on l s) = l.foldl (channelOnDisplay b calls on) s := by
  induction l generalizing s with
  | nil => rfl
  | cons ch rest ih =>
      rw [displayParts, List.foldl_cons]
      by_cases unavailable : (s.channel ch).cfg.availability = .unavailable
      · have skipped : channelOnDisplay b calls on s ch = s := by
          rw [channelOnDisplay, if_pos unavailable]
        rw [if_pos unavailable, skipped, ih]
      · have acted : channelOnDisplay b calls on s ch = channelSetState b (calls ch) ch
            (if on then (s.channel ch).prevState else .sleep) s := by
          rw [channelOnDisplay, if_neg unavailable]
        rw [if_neg unavailable, final_cons, acted]
        exact ih

theorem final_eventParts (e : Event) (s : Daemon) :
    final (handle b) s (e.parts b s) = (step b s e).1 := by
  obtain ⟨command, calls⟩ := e
  cases command with
  | cmd code cmd value =>
      simp only [Event.parts, step, channelOnCmdReceived]
      cases channelGetCh b code with
      | none => rfl
      | some ch =>
          dsimp only
          split_ifs <;> rfl
  | display on => exact final_displayParts

theorem final_parts (es : List Event) (s : Daemon) :
    final (handle b) s (parts b s es) = final (step b) s es := by
  induction es generalizing s with
  | nil => rfl
  | cons e es ih => rw [parts, final_append, final_eventParts, ih, final_cons]

/-! ## What handling an event leaves of one hardware -/

def learned (b : Build) (sp : ProviderName) (ch : Sensor) (on : Bool) (s : Daemon) : Daemon :=
  sp.onChEnabled b ch on
    (s.setSp sp { s.sp sp with clients := enableClient (s.sp sp).clients ch on })

theorem spEnableCh_sameUses :
    SameUses (spReCheckDepHw b calls sp (learned b sp ch on s)).2 (spEnableCh b calls sp ch on s) := by
  rw [spEnableCh]
  split_ifs
  · exact SameUses.trans onHwDepChecked_sameUses spRecalcIntervalRe_sameUses
  · exact (SameUses.trans onHwDepChecked_sameUses spRecalcIntervalRe_sameUses).trans
      (setSp_sameUses _ rfl)

theorem learned_same (listed : ch ∈ gListCh b) :
    (learned b (home ch) ch on s).hw = s.hw ∧
      ∀ sp, ((learned b (home ch) ch on s).sp sp).currHwDep = (s.sp sp).currHwDep := by
  obtain ⟨-, providers, table⟩ := @onChEnabled_rest b ch on
    (s.setSp (home ch) { s.sp (home ch) with clients := enableClient (s.sp (home ch)).clients ch on })
    listed
  refine ⟨table, fun sp => ?_⟩
  rw [learned, providers]
  exact (@setSp_sameUses (home ch) s
    { s.sp (home ch) with clients := enableClient (s.sp (home ch)).clients ch on } rfl).currHwDep sp

theorem checks_cases (agrees : Agrees b s) (checks : e.checks s = some sp) :
    ∃ ch state calls, e = .setState ch state calls ∧ ch ∈ gListCh b ∧ sp = home ch ∧
      (s.channel ch).sp = some (home ch) ∧ s.awake ch ≠ (state != .sleep) := by
  cases e with
  | setDelay ch value calls => cases checks
  | setState ch state calls =>
      rw [ChannelEvent.checks] at checks
      split_ifs at checks with same
      obtain ⟨listed, rfl⟩ := agrees.registered ch sp checks
      exact ⟨ch, state, calls, rfl, listed, rfl, checks, same⟩

theorem handle_agrees (agrees : Agrees b s) (e : ChannelEvent) : Agrees b (handle b s e).1 := by
  cases e with
  | setState ch state calls => exact channelSetState_agrees agrees
  | setDelay ch value calls =>
      exact agrees.congr (channelSetDelay_sameUses value).1 (channelSetDelay_sameUses value).2

theorem handle_unchecked (unchecked : e.checks s = none) :
    SameUses s (handle b s e).1 := by
  cases e with
  | setDelay ch value calls => exact (channelSetDelay_sameUses value).1
  | setState ch state calls =>
      show SameUses s (channelSetState b calls ch state s)
      rw [ChannelEvent.checks] at unchecked
      cases registered : (s.channel ch).sp with
      | none =>
          rw [channelSetState, registered]
          exact SameUses.refl s
      | some sp =>
          rw [registered] at unchecked
          split_ifs at unchecked with same
          rw [channelSetState_eq registered, if_pos same]
          exact withState_sameUses same

theorem needs_after (agrees : Agrees b s) :
    (handle b s e).1.needs b sp hw = e.needsAfter b s sp hw := by
  cases e with
  | setDelay ch value calls =>
      have same := (@channelSetDelay_sameUses b calls ch s value).1
      show (channelSetDelay b calls ch value s).2.needs b sp hw = _
      rw [needs_congr same]
      rfl
  | setState ch state calls =>
      show (channelSetState b calls ch state s).needs b sp hw = _
      cases registered : (s.channel ch).sp with
      | none =>
          have stranger : s.clientOf sp ch = false := by rw [Daemon.clientOf, registered]; rfl
          rw [channelSetState, registered, Daemon.needs, ChannelEvent.needsAfter]
          congr 1
          funext other
          by_cases same : other = ch
          · simp [same, stranger]
          · simp [ChannelEvent.awakeAfter, same]
      | some sp' =>
          obtain ⟨listed, rfl⟩ := agrees.registered ch sp' registered
          rw [channelSetState_eq registered]
          have awake : (withState (if s.awake ch = (state != .sleep) then s
              else spEnableCh b calls (home ch) ch (state != .sleep) s) ch state).awake =
              (ChannelEvent.setState ch state calls).awakeAfter s := by
            rw [withState_awake]
            funext other
            have kept : (if s.awake ch = (state != .sleep) then s
                else spEnableCh b calls (home ch) ch (state != .sleep) s).awake = s.awake := by
              split_ifs
              · rfl
              · exact (spEnableCh_switched listed).awake
            rw [kept, ChannelEvent.awakeAfter, Function.update_apply]
          have clients : (withState (if s.awake ch = (state != .sleep) then s
              else spEnableCh b calls (home ch) ch (state != .sleep) s) ch state).clientOf =
              s.clientOf := by
            funext sp other
            rw [Daemon.clientOf, Daemon.clientOf, withState_sp]
            split_ifs
            · rfl
            · rw [(spEnableCh_switched listed).provider]
          rw [Daemon.needs, awake, clients]
          rfl

structure CheckedIn (b : Build) (e : ChannelEvent) (s : Daemon) (sp : ProviderName) (t : Daemon) :
    Prop where
  table : t.hw = s.hw
  before : ∀ other, (t.sp other).currHwDep = (s.sp other).currHwDep
  wanted : ∀ hw, depBit (sp.getCurrHwDep t) hw = e.needsAfter b s sp hw
  effects : (handle b s e).2 = spReCheckEffects b e.calls sp t
  currHwDep : ∀ other, ((handle b s e).1.sp other).currHwDep =
    ((spReCheckDepHw b e.calls sp t).2.sp other).currHwDep
  power : ∀ hw, SamePower ((spReCheckDepHw b e.calls sp t).2.hw hw) ((handle b s e).1.hw hw)

theorem channelSetStateEffects_eq (registered : (s.channel ch).sp = some sp) :
    channelSetStateEffects b calls ch state s =
      if s.awake ch = (state != .sleep) then []
      else spEnableChEffects b calls sp ch (state != .sleep) s := by
  rw [channelSetStateEffects, registered, Daemon.awake]
  cases state <;> cases (s.channel ch).state <;> rfl

theorem checks_in (agrees : Agrees b s) (checks : e.checks s = some sp) :
    ∃ t, CheckedIn b e s sp t := by
  have agrees' := handle_agrees agrees e
  have needs (hw : SensorHwType) := @needs_after b sp s hw e agrees
  obtain ⟨ch, state, calls, rfl, listed, rfl, registered, switched⟩ := checks_cases agrees checks
  have handled : (handle b s (.setState ch state calls)).1 =
      withState (spEnableCh b calls (home ch) ch (state != .sleep) s) ch state := by
    show channelSetState b calls ch state s = _
    rw [channelSetState_eq registered, if_neg switched]
  have logged : (handle b s (.setState ch state calls)).2 =
      spEnableChEffects b calls (home ch) ch (state != .sleep) s := by
    show channelSetStateEffects b calls ch state s = _
    rw [channelSetStateEffects_eq registered, if_neg switched]
  obtain ⟨table, before⟩ := @learned_same b ch (state != .sleep) s listed
  have kept := @spEnableCh_sameUses b calls (home ch) ch (state != .sleep) s
  refine ⟨learned b (home ch) ch (state != .sleep) s, table, before, fun hw => ?_, logged, ?_, ?_⟩
  · rw [← needs, ← getCurrHwDep_eq_needs agrees', handled]
    have stored : (home ch).getCurrHwDep
        (withState (spEnableCh b calls (home ch) ch (state != .sleep) s) ch state) =
        (home ch).getCurrHwDep (spEnableCh b calls (home ch) ch (state != .sleep) s) := by
      cases home ch <;> rfl
    have checked : (home ch).getCurrHwDep
        (spReCheckDepHw b calls (home ch) (learned b (home ch) ch (state != .sleep) s)).2 =
        (home ch).getCurrHwDep (learned b (home ch) ch (state != .sleep) s) := by
      cases home ch <;> rfl
    rw [stored, getCurrHwDep_congr kept, checked]
  · intro other
    rw [handled]
    exact kept.currHwDep other
  · intro hw
    rw [handled]
    exact kept.power hw

/-! ## One hardware -/

section Cell
variable {t : Daemon}

theorem CheckedIn.here (checked : CheckedIn b e s sp t) (hw : SensorHwType) :
    depends (handle b s e).1 hw sp =
        (cell e.calls hw (driven b s.hw hw) (e.needsAfter b s sp hw) (depends s hw sp) (s.hw hw)).1 ∧
      SamePower
        (cell e.calls hw (driven b s.hw hw) (e.needsAfter b s sp hw) (depends s hw sp) (s.hw hw)).2
        ((handle b s e).1.hw hw) := by
  have one := @spReCheckDepHw_cell b e.calls hw sp t _ rfl
  have before : depends t hw sp = depends s hw sp := by rw [depends, depends, checked.before]
  rw [checked.wanted, before, checked.table] at one
  constructor
  · rw [← one, depends, checked.currHwDep]
    rfl
  · rw [← one]
    exact checked.power hw

theorem CheckedIn.elsewhere (checked : CheckedIn b e s sp t) {other : ProviderName}
    (distinct : other ≠ sp) (hw : SensorHwType) :
    depends (handle b s e).1 hw other = depends s hw other := by
  have one := @depends_spReCheckDepHw b e.calls hw sp t _ rfl
  rw [depends, checked.currHwDep]
  show depends (spReCheckDepHw b e.calls sp t).2 hw other = _
  rw [one, Function.update_of_ne distinct, depends, checked.before]
  rfl

end Cell

/-! ## The calls of a check -/

section Calls
variable {changed : HwDepSet} {check : DepCheck} {call : Bool} {err : Int}

def called (driven want bit : Bool) (h : SensorHw) (call : Bool) : Prop :=
  driven = true ∧ want ≠ bit ∧ call = want ∧ if want then signed 8 (h.ref + 1) = 1 else h.ref = 1

theorem mem_depCheckEffects {want bit : Bool} (wanted : depBit check.newDepHw hw = want)
    (change : depBit changed hw = (want ^^ bit)) :
    .enableCalled hw call err ∈ depCheckEffects b calls changed check hw ↔
      called (driven b check.hw hw) want bit (check.hw hw) call ∧ err = calls.enable hw call := by
  have driver : (hwGetHwById b check.hw hw).isSome = driven b check.hw hw := by
    rw [hwGetHwById_eq]
    cases driven b check.hw hw <;> rfl
  rw [depCheckEffects, driver, wanted, change, called]
  cases driven b check.hw hw
  · simp
  · cases want <;> cases bit
    case false.false | true.true => simp
    case true.false =>
      by_cases first : signed 8 ((check.hw hw).ref + 1) = 1 <;>
        simp [SensorHw.refUpEffects, first]
      rintro rfl
      rfl
    case false.true =>
      by_cases last : (check.hw hw).ref = 1 <;> simp [SensorHw.refDownEffects, last]
      rintro rfl
      rfl

theorem depCheckEffects_other {i : SensorHwType} (distinct : hw ≠ i) :
    .enableCalled hw call err ∉ depCheckEffects b calls changed check i := by
  rw [depCheckEffects]
  split_ifs
  · rw [SensorHw.refUpEffects]
    split_ifs <;> simp [distinct]
  · rw [SensorHw.refDownEffects]
    split_ifs <;> simp [distinct]
  · simp

theorem depCheckEffects_congr {check' : DepCheck} (same : checkAt check hw = checkAt check' hw) :
    depCheckEffects b calls changed check hw = depCheckEffects b calls changed check' hw := by
  obtain ⟨bit, entry⟩ := Prod.mk.inj same
  rw [depCheckEffects, depCheckEffects, hwGetHwById_eq, hwGetHwById_eq, driven, driven, bit, entry]

theorem not_mem_depCheckLog {l : List SensorHwType} (absent : hw ∉ l) :
    .enableCalled hw call err ∉ depCheckLog b calls changed l check := by
  induction l generalizing check with
  | nil => exact List.not_mem_nil
  | cons i rest ih =>
      rw [List.mem_cons, not_or] at absent
      rw [depCheckLog, List.mem_append, not_or]
      exact ⟨depCheckEffects_other absent.1, ih absent.2⟩

theorem mem_depCheckLog {l : List SensorHwType} (distinct : l.Nodup) (listed : hw ∈ l) :
    .enableCalled hw call err ∈ depCheckLog b calls changed l check ↔
      .enableCalled hw call err ∈ depCheckEffects b calls changed check hw := by
  induction l generalizing check with
  | nil => cases listed
  | cons i rest ih =>
      obtain ⟨absent, distinct⟩ := List.nodup_cons.mp distinct
      rw [depCheckLog, List.mem_append]
      rcases List.mem_cons.mp listed with rfl | listed
      · exact or_iff_left (not_mem_depCheckLog absent)
      · have other : hw ≠ i := fun same => absent (same ▸ listed)
        rw [or_iff_right (depCheckEffects_other other), ih distinct listed,
          depCheckEffects_congr (depCheckStep_other other)]

theorem checked_notMem_log {l : List SensorHwType} {dep : HwDepSet} :
    .checked sp dep ∉ depCheckLog b calls changed l check := by
  induction l generalizing check with
  | nil => exact List.not_mem_nil
  | cons i rest ih =>
      rw [depCheckLog, List.mem_append, not_or]
      refine ⟨?_, ih⟩
      rw [depCheckEffects, SensorHw.refUpEffects, SensorHw.refDownEffects]
      split_ifs <;> simp

theorem CheckedIn.enableCalled {t : Daemon} (checked : CheckedIn b e s sp t) :
    .enableCalled hw call err ∈ (handle b s e).2 ↔
      called (driven b s.hw hw) (e.needsAfter b s sp hw) (depends s hw sp) (s.hw hw) call ∧
        err = e.calls.enable hw call := by
  have change : depBit (sp.getCurrHwDep t ^^^ (t.sp sp).currHwDep) hw =
      (e.needsAfter b s sp hw ^^ depends s hw sp) := by
    rw [← checked.wanted, depends, ← checked.before]
    exact BitVec.getLsbD_xor
  have distinct : SensorHwType.all.Nodup := by decide
  have listed : hw ∈ SensorHwType.all := by cases hw <;> decide
  rw [checked.effects, spReCheckEffects, List.mem_cons, or_iff_right (by simp),
    mem_depCheckLog distinct listed,
    @mem_depCheckEffects b e.calls hw _ ⟨sp.getCurrHwDep t, t.hw, 0⟩ call err _ _
      (checked.wanted hw) change, checked.table]

theorem CheckedIn.checks {t : Daemon} (checked : CheckedIn b e s sp t) {other : ProviderName}
    {dep : HwDepSet} :
    .checked other dep ∈ (handle b s e).2 ↔ other = sp ∧ dep = sp.getCurrHwDep t := by
  rw [checked.effects, spReCheckEffects, List.mem_cons, or_iff_left checked_notMem_log]
  simp

theorem unchecked_effects (unchecked : e.checks s = none) : (handle b s e).2 = [] := by
  cases e with
  | setDelay ch value calls => rfl
  | setState ch state calls =>
      show channelSetStateEffects b calls ch state s = []
      rw [ChannelEvent.checks] at unchecked
      cases registered : (s.channel ch).sp with
      | none => rw [channelSetStateEffects, registered]
      | some sp =>
          rw [registered] at unchecked
          split_ifs at unchecked with same
          rw [channelSetStateEffects_eq registered, if_pos same]

end Calls

end VibeXperia.Proof.Sensord

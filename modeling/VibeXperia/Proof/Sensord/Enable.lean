import VibeXperia.Proof.Sensord.Provider

namespace VibeXperia.Proof.Sensord
open Lib VibeXperia.Sensord

variable {b : Build} {calls : HwCalls} {sp : ProviderName} {ch : Sensor} {enable : Bool}
variable {s s' s'' : Daemon} {hw : SensorHwType} {wants : ProviderName → Bool}

/-! ## Steps that leave the uses alone -/

structure SamePower (h h' : SensorHw) : Prop where
  available : h'.available = h.available
  ref : h'.ref = h.ref
  enabled : h'.enabled = h.enabled

structure SameUses (s s' : Daemon) : Prop where
  awake : s'.awake = s.awake
  cfg : ∀ ch, (s'.channel ch).cfg = (s.channel ch).cfg
  provider : ∀ ch, (s'.channel ch).sp = (s.channel ch).sp
  modules : s'.algo.gAlgoModules = s.algo.gAlgoModules
  gRefHwA : s'.algo.gRefHwA = s.algo.gRefHwA
  gRefHwM : s'.algo.gRefHwM = s.algo.gRefHwM
  gEnableP : s'.gEnableP = s.gEnableP
  currHwDep : ∀ sp, (s'.sp sp).currHwDep = (s.sp sp).currHwDep
  power : ∀ hw, SamePower (s.hw hw) (s'.hw hw)

theorem SamePower.refl (h : SensorHw) : SamePower h h := ⟨rfl, rfl, rfl⟩

theorem SamePower.trans {h h' h'' : SensorHw} (first : SamePower h h') (second : SamePower h' h'') :
    SamePower h h'' :=
  ⟨second.available.trans first.available, second.ref.trans first.ref,
    second.enabled.trans first.enabled⟩

theorem SameUses.trans (first : SameUses s s') (second : SameUses s' s'') :
    SameUses s s'' where
  awake := second.awake.trans first.awake
  cfg ch := (second.cfg ch).trans (first.cfg ch)
  provider ch := (second.provider ch).trans (first.provider ch)
  modules := second.modules.trans first.modules
  gRefHwA := second.gRefHwA.trans first.gRefHwA
  gRefHwM := second.gRefHwM.trans first.gRefHwM
  gEnableP := second.gEnableP.trans first.gEnableP
  currHwDep sp := (second.currHwDep sp).trans (first.currHwDep sp)
  power hw := (first.power hw).trans (second.power hw)

theorem SameUses.processed (same : SameUses s s') : s'.processed = s.processed := by
  funext ch
  rw [Daemon.processed, Daemon.processed, same.cfg]

theorem setSp_sameUses (changed : SensorProvider)
    (currHwDep : changed.currHwDep = (s.sp sp).currHwDep) : SameUses s (s.setSp sp changed) where
  awake := rfl
  cfg _ := rfl
  provider _ := rfl
  modules := rfl
  gRefHwA := rfl
  gRefHwM := rfl
  gEnableP := rfl
  currHwDep other := by
    by_cases same : other = sp
    · simp [Daemon.setSp, same, currHwDep]
    · simp [Daemon.setSp, same]
  power _ := SamePower.refl _

theorem spRecalcIntervalRe_sameUses : SameUses s (spRecalcIntervalRe b sp s) :=
  setSp_sameUses _ rfl

theorem hwAccSetBandwidth_samePower (h : SensorHw) (bw : Nat) :
    SamePower h (hwAccSetBandwidth calls h bw).2 := by
  rw [hwAccSetBandwidth]
  by_cases same : bw = h.bw
  · rw [if_pos same]
    exact SamePower.refl h
  · rw [if_neg same]
    cases mapABw.lookup bw with
    | none => exact SamePower.refl h
    | some value =>
        dsimp only
        split_ifs <;> exact ⟨rfl, rfl, rfl⟩

theorem hwAccSetDelay_samePower (h : SensorHw) (delay : Int) :
    SamePower h (hwAccSetDelay calls h delay).2 := by
  rw [hwAccSetDelay]
  dsimp only
  split_ifs <;> exact ⟨rfl, rfl, rfl⟩

theorem algoProgramHwA_samePower (algo : Algo) (table : HwTable) (hw : SensorHwType) :
    SamePower (table hw) (algoProgramHwA calls algo table hw) := by
  rw [algoProgramHwA]
  split_ifs
  · by_cases same : hw = .a
    · rw [same, Function.update_self]
      exact (hwAccSetBandwidth_samePower _ _).trans (hwAccSetDelay_samePower _ _)
    · rw [Function.update_of_ne same]
      exact SamePower.refl _
  · exact SamePower.refl _

theorem onHwDepChecked_sameUses : SameUses s (sp.onHwDepChecked calls s) := by
  cases sp with
  | spFusion =>
      constructor
      case power => exact fun hw => algoProgramHwA_samePower _ _ hw
      all_goals intros; rfl
  | spPressure =>
      constructor
      case power => exact fun hw => SamePower.refl _
      all_goals intros; rfl

/-! ## A channel is switched -/

def home (ch : Sensor) : ProviderName := if ch = .p then .spPressure else .spFusion

theorem mem_productsFusion (listed : ch ∈ gListCh b) (other : ch ≠ .p) : ch ∈ productsFusion b := by
  simp only [gListCh, productsFusion, List.mem_filter] at listed ⊢
  refine ⟨?_, listed.2⟩
  cases ch <;> first | decide | exact absurd rfl other

theorem onChEnabled_eq (listed : ch ∈ gListCh b) (other : ch ≠ .p) :
    (home ch).onChEnabled b ch enable s =
      { s with
        algo := algoEnableProduct b ch enable (updateProduct s.algo ch fun product =>
          { product with enable, bypassProc := (s.channel ch).cfg.bypassProc }) } := by
  rw [home, if_neg other, ProviderName.onChEnabled, fusionOnChEnabled, fusionGetProduct_eq,
    if_pos (mem_productsFusion listed other)]

theorem onChEnabled_modules (listed : ch ∈ gListCh b) {id : AlgoModuleId}
    (compiled : id ∈ algoModules b) :
    ((home ch).onChEnabled b ch enable s).algo.gAlgoModules id =
      if s.processed ch && ch.moduleDep.contains id then
        algoModRefChange (s.algo.gAlgoModules id) enable
      else s.algo.gAlgoModules id := by
  by_cases pressure : ch = .p
  · subst pressure
    simp [home, ProviderName.onChEnabled, Sensor.moduleDep]
  · rw [onChEnabled_eq listed pressure]
    dsimp only
    rw [algoEnableProduct_modules compiled]
    simp [updateProduct, Daemon.processed]

theorem onChEnabled_gRefHwA (listed : ch ∈ gListCh b) :
    ((home ch).onChEnabled b ch enable s).algo.gRefHwA =
      if ch.hwDep.contains .a then hwRefChange s.algo.gRefHwA enable else s.algo.gRefHwA := by
  by_cases pressure : ch = .p
  · subst pressure
    rfl
  · rw [onChEnabled_eq listed pressure]
    exact algoEnableProduct_gRefHwA

theorem onChEnabled_gRefHwM (listed : ch ∈ gListCh b) :
    ((home ch).onChEnabled b ch enable s).algo.gRefHwM =
      if ch.hwDep.contains .m then hwRefChange s.algo.gRefHwM enable else s.algo.gRefHwM := by
  by_cases pressure : ch = .p
  · subst pressure
    rfl
  · rw [onChEnabled_eq listed pressure]
    exact algoEnableProduct_gRefHwM

theorem onChEnabled_gEnableP (listed : ch ∈ gListCh b) :
    ((home ch).onChEnabled b ch enable s).gEnableP = if ch = .p then enable else s.gEnableP := by
  by_cases pressure : ch = .p
  · subst pressure
    rfl
  · rw [onChEnabled_eq listed pressure, if_neg pressure]

theorem onChEnabled_rest (listed : ch ∈ gListCh b) :
    ((home ch).onChEnabled b ch enable s).channel = s.channel ∧
      ((home ch).onChEnabled b ch enable s).sp = s.sp ∧
      ((home ch).onChEnabled b ch enable s).hw = s.hw := by
  by_cases pressure : ch = .p
  · subst pressure
    exact ⟨rfl, rfl, rfl⟩
  · rw [onChEnabled_eq listed pressure]
    exact ⟨rfl, rfl, rfl⟩

theorem Powered.congr (powered : Powered b s hw wants)
    (currHwDep : ∀ sp, (s'.sp sp).currHwDep = (s.sp sp).currHwDep)
    (power : SamePower (s.hw hw) (s'.hw hw)) : Powered b s' hw wants := by
  have same : depends s' hw = depends s hw := by
    funext sp
    rw [depends, depends, currHwDep]
  constructor
  · intro sp
    rw [same, powered.dep, driven, driven, power.available]
  · rw [same]
    exact ⟨power.ref.trans powered.held.ref, power.enabled.trans powered.held.enabled⟩

theorem getCurrHwDep_congr (same : SameUses s s') :
    sp.getCurrHwDep s' = sp.getCurrHwDep s := by
  cases sp with
  | spFusion =>
      simp only [ProviderName.getCurrHwDep, algoGetCurrHwDep, same.gRefHwA, same.gRefHwM]
  | spPressure => simp only [ProviderName.getCurrHwDep, same.gEnableP]

structure Switched (b : Build) (calls : HwCalls) (ch : Sensor) (enable : Bool) (s s' : Daemon) :
    Prop where
  awake : s'.awake = s.awake
  cfg : ∀ other, (s'.channel other).cfg = (s.channel other).cfg
  provider : ∀ other, (s'.channel other).sp = (s.channel other).sp
  modules : ∀ id ∈ algoModules b, s'.algo.gAlgoModules id =
    if s.processed ch && ch.moduleDep.contains id then
      algoModRefChange (s.algo.gAlgoModules id) enable
    else s.algo.gAlgoModules id
  gRefHwA : s'.algo.gRefHwA =
    if ch.hwDep.contains .a then hwRefChange s.algo.gRefHwA enable else s.algo.gRefHwA
  gRefHwM : s'.algo.gRefHwM =
    if ch.hwDep.contains .m then hwRefChange s.algo.gRefHwM enable else s.algo.gRefHwM
  gEnableP : s'.gEnableP = if ch = .p then enable else s.gEnableP
  powered : ∀ hw wants, Fine calls hw → Powered b s hw wants →
    Powered b s' hw (Function.update wants (home ch) (depBit ((home ch).getCurrHwDep s') hw))

theorem Switched.after {t : Daemon} (same : SameUses s t)
    (switched : Switched b calls ch enable t s') : Switched b calls ch enable s s' where
  awake := switched.awake.trans same.awake
  cfg other := (switched.cfg other).trans (same.cfg other)
  provider other := (switched.provider other).trans (same.provider other)
  modules id compiled := by
    rw [switched.modules id compiled, same.modules, same.processed]
  gRefHwA := by rw [switched.gRefHwA, same.gRefHwA]
  gRefHwM := by rw [switched.gRefHwM, same.gRefHwM]
  gEnableP := by rw [switched.gEnableP, same.gEnableP]
  powered hw wants fine powered :=
    switched.powered hw wants fine (powered.congr same.currHwDep (same.power hw))

theorem Switched.trans (switched : Switched b calls ch enable s s') (same : SameUses s' s'') :
    Switched b calls ch enable s s'' where
  awake := same.awake.trans switched.awake
  cfg other := (same.cfg other).trans (switched.cfg other)
  provider other := (same.provider other).trans (switched.provider other)
  modules id compiled := by rw [same.modules, switched.modules id compiled]
  gRefHwA := by rw [same.gRefHwA, switched.gRefHwA]
  gRefHwM := by rw [same.gRefHwM, switched.gRefHwM]
  gEnableP := by rw [same.gEnableP, switched.gEnableP]
  powered hw wants fine powered := by
    rw [getCurrHwDep_congr same]
    exact (switched.powered hw wants fine powered).congr same.currHwDep (same.power hw)

theorem checked_switched (listed : ch ∈ gListCh b) :
    Switched b calls ch enable s
      (spReCheckDepHw b calls (home ch) ((home ch).onChEnabled b ch enable s)).2 := by
  obtain ⟨channel, providers, table⟩ := @onChEnabled_rest b ch enable s listed
  have kept : (spReCheckDepHw b calls (home ch) ((home ch).onChEnabled b ch enable s)).2.channel =
      s.channel := channel
  constructor
  case awake =>
    funext other
    rw [Daemon.awake, Daemon.awake, kept]
  case cfg => exact fun other => congrArg (fun c => (c other).cfg) kept
  case provider => exact fun other => congrArg (fun c => (c other).sp) kept
  case modules => exact fun id compiled => onChEnabled_modules listed compiled
  case gRefHwA => exact onChEnabled_gRefHwA listed
  case gRefHwM => exact onChEnabled_gRefHwM listed
  case gEnableP => exact onChEnabled_gEnableP listed
  case powered =>
    intro hw wants fine powered
    have known : Powered b ((home ch).onChEnabled b ch enable s) hw wants := by
      apply powered.congr
      · intro sp
        rw [providers]
      · rw [table]
        exact SamePower.refl _
    have same : (home ch).getCurrHwDep
        (spReCheckDepHw b calls (home ch) ((home ch).onChEnabled b ch enable s)).2 =
        (home ch).getCurrHwDep ((home ch).onChEnabled b ch enable s) := by
      cases home ch <;> rfl
    rw [same]
    exact spReCheckDepHw_powered known fun _ => answeredFor_of_fine fine _

theorem spEnableCh_switched (listed : ch ∈ gListCh b) :
    Switched b calls ch enable s (spEnableCh b calls (home ch) ch enable s) := by
  have before : SameUses s (s.setSp (home ch)
      { s.sp (home ch) with clients := enableClient (s.sp (home ch)).clients ch enable }) :=
    setSp_sameUses _ rfl
  rw [spEnableCh]
  split_ifs
  · exact (((checked_switched listed).after before).trans onHwDepChecked_sameUses).trans
      spRecalcIntervalRe_sameUses
  · exact ((((checked_switched listed).after before).trans onHwDepChecked_sameUses).trans
      spRecalcIntervalRe_sameUses).trans (setSp_sameUses _ rfl)

theorem spEnableCh_channel (listed : ch ∈ gListCh b) :
    (spEnableCh b calls (home ch) ch enable s).channel = s.channel := by
  have kept (t : Daemon) : ((home ch).onHwDepChecked calls t).channel = t.channel := by
    cases home ch <;> rfl
  have before := (@onChEnabled_rest b ch enable (s.setSp (home ch)
    { s.sp (home ch) with clients := enableClient (s.sp (home ch)).clients ch enable }) listed).1
  rw [spEnableCh]
  split_ifs <;> exact (kept _).trans before

/-! ## The counts of the providers -/

theorem setSp_ref (changed : SensorProvider) (other : ProviderName) :
    ((s.setSp sp changed).sp other).ref =
      if other = sp then changed.ref else (s.sp other).ref := by
  by_cases same : other = sp <;> simp [Daemon.setSp, same]

theorem setSp_kept {β : Type} (field : SensorProvider → β) {changed : SensorProvider}
    (same : field changed = field (s.sp sp)) (other : ProviderName) :
    field ((s.setSp sp changed).sp other) = field (s.sp other) := by
  by_cases found : other = sp
  · simp [Daemon.setSp, found, same]
  · simp [Daemon.setSp, found]

theorem spRecalcIntervalRe_ref (other : ProviderName) :
    ((spRecalcIntervalRe b sp s).sp other).ref = (s.sp other).ref := by
  rw [spRecalcIntervalRe]
  apply setSp_kept SensorProvider.ref
  rfl

theorem onHwDepChecked_sp : (sp.onHwDepChecked calls s).sp = s.sp := by cases sp <;> rfl

theorem spReCheckDepHw_ref (other : ProviderName) :
    ((spReCheckDepHw b calls sp s).2.sp other).ref = (s.sp other).ref := by
  rw [spReCheckDepHw]
  apply setSp_kept SensorProvider.ref
  rfl

theorem spEnableCh_ref (listed : ch ∈ gListCh b) (other : ProviderName) :
    ((spEnableCh b calls (home ch) ch enable s).sp other).ref =
      if s.processed ch && other == home ch then changeSpRef (s.sp other).ref enable
      else (s.sp other).ref := by
  let clients := enableClient (s.sp (home ch)).clients ch enable
  let s₀ := s.setSp (home ch) { s.sp (home ch) with clients }
  let s₁ := (spReCheckDepHw b calls (home ch) ((home ch).onChEnabled b ch enable s₀)).2
  let s₂ := spRecalcIntervalRe b (home ch) ((home ch).onHwDepChecked calls s₁)
  have before : SameUses s s₀ := setSp_sameUses _ rfl
  have switched : Switched b calls ch enable s s₂ :=
    (((checked_switched listed).after before).trans onHwDepChecked_sameUses).trans
      spRecalcIntervalRe_sameUses
  have kept (sp : ProviderName) : (s₂.sp sp).ref = (s.sp sp).ref := by
    rw [spRecalcIntervalRe_ref, onHwDepChecked_sp, spReCheckDepHw_ref, (onChEnabled_rest listed).2.1]
    apply setSp_kept SensorProvider.ref
    rfl
  have last : spEnableCh b calls (home ch) ch enable s =
      if (s₂.channel ch).cfg.bypassProc then s₂
      else s₂.setSp (home ch)
        { s₂.sp (home ch) with ref := changeSpRef (s₂.sp (home ch)).ref enable } := rfl
  have bypass : (s₂.channel ch).cfg.bypassProc = !s.processed ch := by
    rw [switched.cfg, Daemon.processed, Bool.not_not]
  rw [last, bypass]
  cases s.processed ch
  · exact kept other
  · simp only [Bool.not_true, Bool.false_eq_true, if_false, setSp_ref, Bool.true_and, beq_iff_eq]
    split_ifs with same
    · rw [same, kept]
    · exact kept other

end VibeXperia.Proof.Sensord

import VibeXperia.Proof.Sensord.Enable

namespace VibeXperia.Proof.Sensord
open Lib VibeXperia.Sensord

variable {b : Build} {calls : HwCalls} {sp : ProviderName} {ch : Sensor}
variable {s s' : Daemon} {hw : SensorHwType} {state : ChannelState}

/-! ## The counts and their users -/

structure Agrees (b : Build) (s : Daemon) : Prop where
  modules : ∀ id ∈ algoModules b, Used (s.algo.gAlgoModules id) (s.moduleUsers b id)
  gRefHwA : s.algo.gRefHwA = s.hwUsers b .a
  gRefHwM : s.algo.gRefHwM = s.hwUsers b .m
  gEnableP : s.gEnableP = s.awake .p
  ref : ∀ sp, (s.sp sp).ref = s.processedUsers b sp
  registered : ∀ ch sp, (s.channel ch).sp = some sp → ch ∈ gListCh b ∧ sp = home ch
  served : ∀ ch, s.awake ch = true → (s.channel ch).sp ≠ none
  reached : ∀ ch ∈ gListCh b, (s.channel ch).cfg.availability ≠ .unavailable →
    (s.channel ch).sp ≠ none

theorem gListCh_nodup : (gListCh b).Nodup :=
  List.Nodup.filter _ (by decide)

theorem gListCh_length : (gListCh b).length < 15 :=
  Nat.lt_of_le_of_lt (List.length_filter_le ..) (by decide)

theorem moduleCounter : Counter Used algoModRefChange 15 where
  up few used := algoModRefChange_up used few
  down few used := algoModRefChange_down used few

theorem hwRefCounter : Counter (fun (ref : Int) n => ref = n) hwRefChange 15 where
  up _ same := by simp [hwRefChange, same]
  down _ same := by
    rw [hwRefChange, same, if_neg Bool.false_ne_true, if_pos (by omega)]
    omega

theorem spRefCounter : Counter (fun (ref : Int) n => ref = n) changeSpRef 15 where
  up few same := by
    rw [changeSpRef, same, if_pos rfl, signed_of_lt (by omega) (by omega)]
    rfl
  down few same := by
    rw [changeSpRef, same, if_neg Bool.false_ne_true, if_pos (by omega),
      signed_of_lt (by omega) (by omega)]
    omega

/-! ## What leaves the counts alone -/

theorem SameUses.refl (s : Daemon) : SameUses s s :=
  ⟨rfl, fun _ => rfl, fun _ => rfl, rfl, rfl, rfl, rfl, fun _ => rfl, fun _ => SamePower.refl _⟩

theorem SameUses.clientOf (same : SameUses s s') : s'.clientOf = s.clientOf := by
  funext sp ch
  rw [Daemon.clientOf, Daemon.clientOf, same.provider]

theorem Agrees.congr (agrees : Agrees b s) (same : SameUses s s')
    (ref : ∀ sp, (s'.sp sp).ref = (s.sp sp).ref) : Agrees b s' where
  modules id compiled := by
    rw [same.modules, Daemon.moduleUsers, same.awake, same.processed]
    exact agrees.modules id compiled
  gRefHwA := by
    rw [same.gRefHwA, Daemon.hwUsers, same.awake]
    exact agrees.gRefHwA
  gRefHwM := by
    rw [same.gRefHwM, Daemon.hwUsers, same.awake]
    exact agrees.gRefHwM
  gEnableP := by rw [same.gEnableP, same.awake, agrees.gEnableP]
  ref sp := by
    rw [ref, Daemon.processedUsers, same.awake, same.processed, same.clientOf]
    exact agrees.ref sp
  registered ch sp found := by
    rw [same.provider] at found
    exact agrees.registered ch sp found
  served ch up := by
    rw [same.provider]
    rw [same.awake] at up
    exact agrees.served ch up
  reached ch listed available := by
    rw [same.provider]
    rw [same.cfg] at available
    exact agrees.reached ch listed available

theorem needs_congr (same : SameUses s s') : s'.needs b = s.needs b := by
  funext sp hw
  rw [Daemon.needs, Daemon.needs, same.awake, same.clientOf]

/-! ## What the providers want -/

theorem Agrees.clientOf (agrees : Agrees b s) (up : s.awake ch = true) :
    s.clientOf sp ch = (sp == home ch) := by
  obtain ⟨found, registered⟩ := Option.ne_none_iff_exists'.mp (agrees.served ch up)
  rw [Daemon.clientOf, registered, (agrees.registered ch found registered).2]
  cases sp <;> cases home ch <;> rfl

theorem needs_iff (agrees : Agrees b s) :
    s.needs b sp hw = true ↔
      ∃ ch ∈ gListCh b, s.awake ch = true ∧ sp = home ch ∧ ch.hwDep.contains hw = true := by
  rw [Daemon.needs, List.any_eq_true]
  apply exists_congr
  intro ch
  rw [Bool.and_eq_true, Bool.and_eq_true, and_assoc]
  apply and_congr_right
  intro _
  apply and_congr_right
  intro up
  rw [agrees.clientOf up, beq_iff_eq]

theorem hwDep_cases (needed : ch.hwDep.contains hw = true) :
    home ch = .spFusion ∧ (hw = .a ∨ hw = .m) ∨ ch = .p ∧ hw = .p := by
  cases ch <;> cases hw <;> simp_all [home, Sensor.hwDep]

theorem hwUsers_pos (agrees : Agrees b s) (fusion : hw = .a ∨ hw = .m) :
    0 < s.hwUsers b hw ↔ s.needs b .spFusion hw = true := by
  rw [Daemon.hwUsers, tally_pos, needs_iff agrees]
  constructor
  · rintro ⟨ch, listed, up, needed⟩
    rcases hwDep_cases needed with ⟨atHome, -⟩ | ⟨-, other⟩
    · exact ⟨ch, listed, up, atHome.symm, needed⟩
    · rcases fusion with same | same <;> cases same.symm.trans other
  · rintro ⟨ch, listed, up, -, needed⟩
    exact ⟨ch, listed, up, needed⟩

theorem awake_listed (agrees : Agrees b s) (up : s.awake ch = true) : ch ∈ gListCh b := by
  obtain ⟨sp, registered⟩ := Option.ne_none_iff_exists'.mp (agrees.served ch up)
  exact (agrees.registered ch sp registered).1

theorem awake_p_iff (agrees : Agrees b s) :
    s.awake .p = true ↔ s.needs b .spPressure .p = true := by
  rw [needs_iff agrees]
  constructor
  · intro up
    exact ⟨.p, awake_listed agrees up, up, rfl, rfl⟩
  · rintro ⟨ch, -, up, -, needed⟩
    rcases hwDep_cases needed with ⟨-, other⟩ | ⟨rfl, -⟩
    · simp at other
    · exact up

theorem getCurrHwDep_eq_needs (agrees : Agrees b s) :
    depBit (sp.getCurrHwDep s) hw = s.needs b sp hw := by
  rw [Bool.eq_iff_iff]
  cases sp with
  | spFusion =>
      rw [ProviderName.getCurrHwDep, depBit_algoGetCurrHwDep, agrees.gRefHwA, agrees.gRefHwM]
      simp only [Int.natCast_pos, Bool.or_eq_true, Bool.and_eq_true, decide_eq_true_eq]
      constructor
      · rintro (⟨rfl, used⟩ | ⟨rfl, used⟩)
        · exact (hwUsers_pos agrees (.inl rfl)).mp used
        · exact (hwUsers_pos agrees (.inr rfl)).mp used
      · intro needed
        obtain ⟨ch, -, -, atHome, dep⟩ := (needs_iff agrees).mp needed
        rcases hwDep_cases dep with ⟨-, rfl | rfl⟩ | ⟨rfl, -⟩
        · exact .inl ⟨rfl, (hwUsers_pos agrees (.inl rfl)).mpr needed⟩
        · exact .inr ⟨rfl, (hwUsers_pos agrees (.inr rfl)).mpr needed⟩
        · cases atHome
  | spPressure =>
      rw [ProviderName.getCurrHwDep, agrees.gEnableP]
      cases up : s.awake .p
      · have none : ¬s.needs b .spPressure hw = true := by
          intro needed
          obtain ⟨ch, -, awake, atHome, dep⟩ := (needs_iff agrees).mp needed
          rcases hwDep_cases dep with ⟨other, -⟩ | ⟨rfl, -⟩
          · cases atHome.trans other
          · exact Bool.false_ne_true (up.symm.trans awake)
        simpa [depBit] using none
      · rw [if_pos rfl, depBit_depMask, decide_eq_true_eq]
        constructor
        · rintro rfl
          exact (awake_p_iff agrees).mp up
        · intro needed
          obtain ⟨ch, -, -, atHome, dep⟩ := (needs_iff agrees).mp needed
          rcases hwDep_cases dep with ⟨other, -⟩ | ⟨-, same⟩
          · cases atHome.trans other
          · exact same.symm

/-! ## A channel is switched -/

def withState (s : Daemon) (ch : Sensor) (state : ChannelState) : Daemon :=
  s.setChannel ch { s.channel ch with prevState := (s.channel ch).state, state }

theorem withState_awake :
    (withState s ch state).awake = Function.update s.awake ch (state != .sleep) := by
  funext other
  by_cases same : other = ch
  · simp [withState, Daemon.setChannel, Daemon.awake, same]
  · simp [withState, Daemon.setChannel, Daemon.awake, same]

theorem withState_cfg (other : Sensor) :
    ((withState s ch state).channel other).cfg = (s.channel other).cfg := by
  by_cases same : other = ch <;> simp [withState, Daemon.setChannel, same]

theorem withState_sp (other : Sensor) :
    ((withState s ch state).channel other).sp = (s.channel other).sp := by
  by_cases same : other = ch <;> simp [withState, Daemon.setChannel, same]

theorem withState_interval (other : Sensor) :
    ((withState s ch state).channel other).interval = (s.channel other).interval := by
  by_cases same : other = ch <;> simp [withState, Daemon.setChannel, same]

theorem Switched.withState_agrees {on : Bool} (agrees : Agrees b s) (listed : ch ∈ gListCh b)
    (registered : (s.channel ch).sp = some (home ch)) (opposite : s.awake ch = !on)
    (wanted : (state != .sleep) = on) (switched : Switched b calls ch on s s')
    (ref : ∀ sp, (s'.sp sp).ref =
      if s.processed ch && sp == home ch then changeSpRef (s.sp sp).ref on else (s.sp sp).ref) :
    Agrees b (withState s' ch state) := by
  have awake : (withState s' ch state).awake = Function.update s.awake ch on := by
    rw [withState_awake, wanted, switched.awake]
  have processed : (withState s' ch state).processed = s.processed := by
    funext other
    rw [Daemon.processed, Daemon.processed, withState_cfg, switched.cfg]
  have clientOf : (withState s' ch state).clientOf = s.clientOf := by
    funext sp other
    rw [Daemon.clientOf, Daemon.clientOf, withState_sp, switched.provider]
  constructor
  case modules =>
    intro id compiled
    rw [Daemon.moduleUsers, awake, processed]
    have moved := moduleCounter.switch gListCh_nodup gListCh_length listed opposite
      (agrees.modules id compiled)
    rwa [← switched.modules id compiled] at moved
  case gRefHwA =>
    rw [Daemon.hwUsers, awake]
    exact switched.gRefHwA.trans
      (hwRefCounter.switch gListCh_nodup gListCh_length listed opposite agrees.gRefHwA)
  case gRefHwM =>
    rw [Daemon.hwUsers, awake]
    exact switched.gRefHwM.trans
      (hwRefCounter.switch gListCh_nodup gListCh_length listed opposite agrees.gRefHwM)
  case gEnableP =>
    rw [awake]
    refine switched.gEnableP.trans ?_
    split_ifs with pressure
    · rw [pressure, Function.update_self]
    · rw [Function.update_of_ne (Ne.symm pressure), agrees.gEnableP]
  case ref =>
    intro sp
    have client : s.clientOf sp ch = (sp == home ch) := by
      rw [Daemon.clientOf, registered]
      cases sp <;> cases home ch <;> rfl
    have moved := spRefCounter.switch gListCh_nodup gListCh_length listed opposite (agrees.ref sp)
    rw [client] at moved
    rw [Daemon.processedUsers, awake, processed, clientOf]
    exact (ref sp).trans moved
  case registered =>
    intro other sp found
    rw [withState_sp, switched.provider] at found
    exact agrees.registered other sp found
  case served =>
    intro other up
    rw [withState_sp, switched.provider]
    rw [awake] at up
    by_cases same : other = ch
    · rw [same, registered]
      exact Option.some_ne_none _
    · rw [Function.update_of_ne same] at up
      exact agrees.served other up
  case reached =>
    intro other listed available
    rw [withState_sp, switched.provider]
    rw [withState_cfg, switched.cfg] at available
    exact agrees.reached other listed available

/-! ## Commands -/

theorem channelSetState_eq (registered : (s.channel ch).sp = some sp) :
    channelSetState b calls ch state s =
      withState (if s.awake ch = (state != .sleep) then s
        else spEnableCh b calls sp ch (state != .sleep) s) ch state := by
  rw [channelSetState, registered, Daemon.awake]
  cases state <;> cases (s.channel ch).state <;> rfl

theorem withState_sameUses (same : s.awake ch = (state != .sleep)) :
    SameUses s (withState s ch state) where
  awake := by rw [withState_awake, ← same, Function.update_eq_self]
  cfg := withState_cfg
  provider := withState_sp
  modules := rfl
  gRefHwA := rfl
  gRefHwM := rfl
  gEnableP := rfl
  currHwDep _ := rfl
  power _ := SamePower.refl _

theorem channelSetState_agrees (agrees : Agrees b s) :
    Agrees b (channelSetState b calls ch state s) := by
  cases registered : (s.channel ch).sp with
  | none => rwa [channelSetState, registered]
  | some sp =>
      obtain ⟨listed, rfl⟩ := agrees.registered ch sp registered
      rw [channelSetState_eq registered]
      split_ifs with same
      · exact agrees.congr (withState_sameUses same) fun _ => rfl
      · have opposite : s.awake ch = !(state != .sleep) := by
          cases up : s.awake ch <;> cases wanted : state != .sleep <;> simp_all
        exact (spEnableCh_switched listed).withState_agrees agrees listed registered opposite rfl
          (spEnableCh_ref listed)

theorem Switched.getCurrHwDep_other {on : Bool} (switched : Switched b calls ch on s s')
    (other : sp ≠ home ch) : sp.getCurrHwDep s' = sp.getCurrHwDep s := by
  by_cases pressure : ch = .p
  · cases sp with
    | spFusion =>
        have gRefHwA : s'.algo.gRefHwA = s.algo.gRefHwA := by
          rw [switched.gRefHwA, pressure]
          rfl
        have gRefHwM : s'.algo.gRefHwM = s.algo.gRefHwM := by
          rw [switched.gRefHwM, pressure]
          rfl
        rw [ProviderName.getCurrHwDep, ProviderName.getCurrHwDep, algoGetCurrHwDep,
          algoGetCurrHwDep, gRefHwA, gRefHwM]
    | spPressure => exact absurd (by rw [home, if_pos pressure]) other
  · cases sp with
    | spFusion => exact absurd (by rw [home, if_neg pressure]) other
    | spPressure =>
        rw [ProviderName.getCurrHwDep, ProviderName.getCurrHwDep, switched.gEnableP,
          if_neg pressure]

def PoweredForUse (b : Build) (hw : SensorHwType) (s : Daemon) : Prop :=
  Powered b s hw fun sp => s.needs b sp hw

theorem PoweredForUse.congr (powered : PoweredForUse b hw s) (same : SameUses s s') :
    PoweredForUse b hw s' := by
  rw [PoweredForUse, needs_congr same]
  exact Powered.congr powered same.currHwDep (same.power hw)

theorem channelSetState_powered (agrees : Agrees b s) (fine : Fine calls hw)
    (powered : PoweredForUse b hw s) :
    PoweredForUse b hw (channelSetState b calls ch state s) := by
  have agrees' : Agrees b (channelSetState b calls ch state s) := channelSetState_agrees agrees
  cases registered : (s.channel ch).sp with
  | none => rwa [channelSetState, registered]
  | some sp =>
      obtain ⟨listed, rfl⟩ := agrees.registered ch sp registered
      rw [channelSetState_eq registered] at agrees' ⊢
      split_ifs at agrees' ⊢ with same
      · exact powered.congr (withState_sameUses same)
      · have switched := @spEnableCh_switched b calls ch (state != .sleep) s listed
        let t := spEnableCh b calls (home ch) ch (state != .sleep) s
        have stored (sp : ProviderName) :
            sp.getCurrHwDep (withState t ch state) = sp.getCurrHwDep t := by cases sp <;> rfl
        have last : Powered b (withState t ch state) hw (Function.update
            (fun sp => s.needs b sp hw) (home ch) (depBit ((home ch).getCurrHwDep t) hw)) :=
          (switched.powered hw _ fine powered).congr (fun _ => rfl) (SamePower.refl _)
        have wants : (Function.update (fun sp => s.needs b sp hw) (home ch)
            (depBit ((home ch).getCurrHwDep t) hw)) =
            fun sp => (withState t ch state).needs b sp hw := by
          funext sp
          rw [← getCurrHwDep_eq_needs agrees', stored]
          by_cases atHome : sp = home ch
          · rw [atHome, Function.update_self]
          · rw [Function.update_of_ne atHome, switched.getCurrHwDep_other atHome,
              getCurrHwDep_eq_needs agrees]
        rwa [wants] at last

/-! ### Delays -/

theorem setInterval_sameUses (interval : Int) :
    SameUses s (s.setChannel ch { s.channel ch with interval }) where
  awake := by
    funext other
    by_cases same : other = ch <;> simp [Daemon.setChannel, Daemon.awake, same]
  cfg other := by
    by_cases same : other = ch <;> simp [Daemon.setChannel, same]
  provider other := by
    by_cases same : other = ch <;> simp [Daemon.setChannel, same]
  modules := rfl
  gRefHwA := rfl
  gRefHwM := rfl
  gEnableP := rfl
  currHwDep _ := rfl
  power _ := SamePower.refl _

theorem algoOnIntervalChanged_sameUses {ap : Sensor} {itvl : Int} {algo : Algo} {table : HwTable}
    (changed : (algoOnIntervalChanged b calls ap itvl s.algo s.hw).2 = (algo, table)) :
    SameUses s { s with algo, hw := table } := by
  rw [algoOnIntervalChanged] at changed
  split_ifs at changed <;> cases changed
  · exact SameUses.refl s
  · exact ⟨rfl, fun _ => rfl, fun _ => rfl, rfl, rfl, rfl, rfl, fun _ => rfl,
      algoProgramHwA_samePower _ _⟩

theorem onChIntervalChanged_sameUses (interval : Int) :
    SameUses s (sp.onChIntervalChanged b calls ch interval s) := by
  cases sp with
  | spFusion =>
      rw [ProviderName.onChIntervalChanged, fusionOnChIntervalChanged]
      split
      · exact (algoOnIntervalChanged_sameUses rfl).trans (setInterval_sameUses _)
      · exact setInterval_sameUses _
  | spPressure => exact setInterval_sameUses _

theorem onChIntervalChanged_sp (interval : Int) :
    (sp.onChIntervalChanged b calls ch interval s).sp = s.sp := by
  cases sp with
  | spFusion =>
      rw [ProviderName.onChIntervalChanged, fusionOnChIntervalChanged]
      split <;> rfl
  | spPressure => rfl

theorem channelSetDelay_sameUses (value : Int) :
    SameUses s (channelSetDelay b calls ch value s).2 ∧
      ∀ sp, ((channelSetDelay b calls ch value s).2.sp sp).ref = (s.sp sp).ref := by
  rw [channelSetDelay]
  split
  · exact ⟨SameUses.refl s, fun _ => rfl⟩
  · split
    · exact ⟨SameUses.refl s, fun _ => rfl⟩
    · refine ⟨(onChIntervalChanged_sameUses _).trans spRecalcIntervalRe_sameUses, fun sp => ?_⟩
      rw [spRecalcIntervalRe_ref, onChIntervalChanged_sp]

/-! ## Every command -/

/-- What holds after every command. -/
structure Sound (b : Build) (fine : SensorHwType → Prop) (s : Daemon) : Prop where
  agrees : Agrees b s
  powered : ∀ hw, fine hw → PoweredForUse b hw s

theorem channelSetState_sound {fine : SensorHwType → Prop} (sound : Sound b fine s)
    (answers : ∀ hw, fine hw → Fine calls hw) : Sound b fine (channelSetState b calls ch state s) where
  agrees := channelSetState_agrees sound.agrees
  powered hw ok := channelSetState_powered sound.agrees (answers hw ok) (sound.powered hw ok)

theorem channelSetDelay_sound {fine : SensorHwType → Prop} (sound : Sound b fine s) (value : Int) :
    Sound b fine (channelSetDelay b calls ch value s).2 where
  agrees := sound.agrees.congr (channelSetDelay_sameUses value).1 (channelSetDelay_sameUses value).2
  powered hw ok := (sound.powered hw ok).congr (channelSetDelay_sameUses value).1

theorem channelOnCmdReceived_sound {fine : SensorHwType → Prop} {calls : Sensor → HwCalls}
    (sound : Sound b fine s) (answers : ∀ ch hw, fine hw → Fine (calls ch) hw)
    (handle cmd value : Int) : Sound b fine (channelOnCmdReceived b calls handle cmd value s).2 := by
  rw [channelOnCmdReceived]
  cases channelGetCh b handle with
  | none => exact sound
  | some ch =>
      dsimp only
      split
      · exact sound
      · split
        · show Sound b fine (channelSetState b (calls ch) ch _ s)
          exact channelSetState_sound sound (answers ch)
        · split
          · exact channelSetDelay_sound sound value
          · exact sound

theorem channelOnDisplay_sound {fine : SensorHwType → Prop} {calls : Sensor → HwCalls}
    (sound : Sound b fine s) (answers : ∀ ch hw, fine hw → Fine (calls ch) hw) (on : Bool) :
    Sound b fine (channelOnDisplay b calls on s ch) := by
  rw [channelOnDisplay]
  split
  · exact sound
  · exact channelSetState_sound sound (answers ch)

theorem step_sound {fine : SensorHwType → Prop} {e : Event} (sound : Sound b fine s)
    (answers : ∀ ch hw, fine hw → Fine (e.calls ch) hw) : Sound b fine (step b s e).1 := by
  obtain ⟨command, calls⟩ := e
  cases command with
  | cmd handle cmd value => exact channelOnCmdReceived_sound sound answers handle cmd value
  | display on =>
      simp only [step, channelOnDisplayStateChange]
      induction gListCh b generalizing s with
      | nil => exact sound
      | cons ch rest ih => exact ih (channelOnDisplay_sound sound answers on)

end VibeXperia.Proof.Sensord

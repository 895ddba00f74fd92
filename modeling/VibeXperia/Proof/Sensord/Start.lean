import VibeXperia.Proof.Sensord.Counts

namespace VibeXperia.Proof.Sensord
open Lib VibeXperia.Sensord

variable {b : Build} {sp : ProviderName} {ch : Sensor} {s : Daemon} {hw : SensorHwType}

/-! ## Nothing is switched on -/

structure RestingChannel (b : Build) (ch : Sensor) (channel : Channel) : Prop where
  asleep : channel.state = .sleep
  prevState : channel.prevState = .sleep
  registered : ∀ sp, channel.sp = some sp → ch ∈ gListCh b ∧ sp = home ch

structure RestingSp (sp : SensorProvider) : Prop where
  ref : sp.ref = 0
  currHwDep : sp.currHwDep = 0
  clients : sp.clients = []

structure RestingAlgo (algo : Algo) : Prop where
  modules : ∀ id, algo.gAlgoModules id = ⟨0, 0⟩
  gRefHwA : algo.gRefHwA = 0
  gRefHwM : algo.gRefHwM = 0

structure Resting (b : Build) (s : Daemon) : Prop where
  channel : ∀ ch, RestingChannel b ch (s.channel ch)
  sp : ∀ sp, RestingSp (s.sp sp)
  algo : RestingAlgo s.algo
  gEnableP : s.gEnableP = false
  off : ∀ hw, Held (s.hw hw) 0

theorem Resting.awake (resting : Resting b s) (ch : Sensor) : s.awake ch = false := by
  rw [Daemon.awake, (resting.channel ch).asleep]
  rfl

theorem Resting.needs (resting : Resting b s) : s.needs b sp hw = false := by
  rw [Daemon.needs, List.any_eq_false]
  intro ch _
  simp [resting.awake]

def Reached (s : Daemon) (ch : Sensor) : Prop :=
  (s.channel ch).cfg.availability ≠ .unavailable → (s.channel ch).sp ≠ none

theorem Resting.sound {fine : SensorHwType → Prop} (resting : Resting b s)
    (reached : ∀ ch ∈ gListCh b, Reached s ch) : Sound b fine s := by
  have unused (uses : Sensor → Bool) : tally (gListCh b) s.awake uses = 0 :=
    tally_of_asleep fun ch _ => resting.awake ch
  have clear (hw : SensorHwType) : depends s hw = fun _ => false := by
    funext sp
    rw [depends, (resting.sp sp).currHwDep]
    simp [depBit]
  refine ⟨?_, fun hw _ => ⟨fun sp => ?_, ?_⟩⟩
  · constructor
    case modules =>
      intro id _
      rw [Daemon.moduleUsers, unused, resting.algo.modules]
      exact ⟨rfl, rfl⟩
    case gRefHwA =>
      rw [Daemon.hwUsers, unused, resting.algo.gRefHwA]
      rfl
    case gRefHwM =>
      rw [Daemon.hwUsers, unused, resting.algo.gRefHwM]
      rfl
    case gEnableP => rw [resting.gEnableP, resting.awake]
    case ref =>
      intro sp
      rw [Daemon.processedUsers, unused, (resting.sp sp).ref]
      rfl
    case registered => exact fun ch sp found => (resting.channel ch).registered sp found
    case served =>
      intro ch up
      exact absurd (resting.awake ch) (by simp [up])
    case reached => exact reached
  · rw [clear, resting.needs, Bool.and_false]
  · rw [clear]
    exact resting.off hw

/-! ## It stays so until the first command -/

theorem Resting.setChannel (resting : Resting b s) {channel : Channel}
    (same : RestingChannel b ch channel) : Resting b (s.setChannel ch channel) where
  channel other := by
    by_cases found : other = ch
    · subst found
      simpa [Daemon.setChannel] using same
    · simpa [Daemon.setChannel, found] using resting.channel other
  sp := resting.sp
  algo := resting.algo
  gEnableP := resting.gEnableP
  off := resting.off

theorem Resting.setSp (resting : Resting b s) {changed : SensorProvider}
    (same : RestingSp changed) : Resting b (s.setSp sp changed) where
  channel := resting.channel
  sp other := by
    by_cases found : other = sp
    · subst found
      simpa [Daemon.setSp] using same
    · simpa [Daemon.setSp, found] using resting.sp other
  algo := resting.algo
  gEnableP := resting.gEnableP
  off := resting.off

theorem hwCntlInit_off {errs : SensorHwType → Int} {table : HwTable}
    (off : ∀ hw, Held (table hw) 0) : ∀ hw, Held (hwCntlInit b errs table hw) 0 := by
  rw [hwCntlInit]
  apply List.foldlRecOn (motive := fun table : HwTable => ∀ hw, Held (table hw) 0) _ _ off
  intro table held entry _ hw
  by_cases same : hw = entry
  · rw [same, Function.update_self]
    exact ⟨rfl, (held entry).enabled⟩
  · rw [Function.update_of_ne same]
    exact held hw

theorem statics_resting (errs : SensorHwType → Int) :
    Resting b { statics b with hw := hwCntlInit b errs (statics b).hw } where
  channel _ := ⟨rfl, rfl, fun _ found => by cases found⟩
  sp _ := ⟨rfl, rfl, rfl⟩
  algo := ⟨fun _ => rfl, rfl, rfl⟩
  gEnableP := rfl
  off := hwCntlInit_off fun _ => ⟨rfl, rfl⟩

theorem channelInit_resting (resting : Resting b s) : Resting b (channelInit b s) := by
  rw [channelInit]
  apply List.foldlRecOn _ _ resting
  intro s resting ch _
  have same := (resting.channel ch).registered
  rw [channelInitOne]
  split_ifs <;> exact resting.setChannel ⟨rfl, rfl, same⟩

theorem algoAdapterInit_resting {algo : Algo} {table : HwTable} (resting : RestingAlgo algo) :
    RestingAlgo (algoAdapterInit b table algo) where
  modules := by
    apply List.foldlRecOn
      (motive := fun modules : AlgoModuleId → AlgoModule => ∀ id, modules id = ⟨0, 0⟩) _ _
      resting.modules
    intro modules zero entry _ id
    by_cases same : id = entry
    · rw [same, Function.update_self]
      rfl
    · rw [Function.update_of_ne same]
      exact zero id
  gRefHwA := resting.gRefHwA
  gRefHwM := resting.gRefHwM

theorem fusionInit_resting {algo : Algo} {table : HwTable} {setHwidErr initCustErr : Int}
    (resting : RestingAlgo algo) :
    RestingAlgo (fusionInit b setHwidErr initCustErr table algo).2 := by
  have cleared (products : Sensor → AlgoProduct) :
      RestingAlgo { algo with gProductsFusion := products } :=
    ⟨resting.modules, resting.gRefHwA, resting.gRefHwM⟩
  rw [fusionInit, algoInitBst]
  split_ifs
  · exact cleared _
  · exact algoAdapterInit_resting (cleared _)

theorem init_resting (resting : Resting b s) (errs : InitErrs) :
    Resting b (sp.init b errs s).2 := by
  cases sp with
  | spFusion =>
      exact ⟨resting.channel, resting.sp, fusionInit_resting resting.algo, resting.gEnableP,
        resting.off⟩
  | spPressure => exact resting

theorem spPreinit_resting (resting : Resting b s) (errs : InitErrs) :
    Resting b (spPreinit b errs s) := by
  rw [spPreinit]
  apply List.foldlRecOn _ _ resting
  intro s resting sp _
  have initialised : Resting b (sp.init b errs (s.setSp sp ⟨false, 0, 0, 0, [], 1000⟩)).2 :=
    init_resting (resting.setSp ⟨rfl, rfl, rfl⟩) errs
  rw [spPreinitOne]
  split_ifs
  · exact initialised
  · exact initialised.setSp
      ⟨(initialised.sp sp).ref, (initialised.sp sp).currHwDep, (initialised.sp sp).clients⟩

theorem home_of_scan {cfg : ChannelCfg} (found : spScanForProvider b ch cfg = some sp) :
    sp = home ch := by
  have matching := List.find?_some found
  rw [Bool.and_eq_true] at matching
  have served := matching.1
  cases sp <;> cases ch <;> first | rfl | cases served

theorem channelSubscribe2sp_resting (resting : Resting b s) :
    Resting b (channelSubscribe2sp b s) := by
  rw [channelSubscribe2sp]
  apply List.foldlRecOn _ _ resting
  intro s resting ch listed
  have known := resting.channel ch
  have unavailable : Resting b (makeUnavailable ch s) :=
    resting.setChannel ⟨known.asleep, known.prevState, known.registered⟩
  rw [channelSubscribeOne]
  split
  · exact resting
  · split
    · exact unavailable
    · rename_i sp found
      split
      · apply Resting.setChannel
        · exact resting.setSp
            ⟨(resting.sp sp).ref, (resting.sp sp).currHwDep, (resting.sp sp).clients⟩
        · refine ⟨known.asleep, known.prevState, fun sp' same => ?_⟩
          cases same
          exact ⟨listed, home_of_scan found⟩
      · exact unavailable

theorem spInit_resting (resting : Resting b s) : Resting b (spInit b s) := by
  rw [spInit]
  apply List.foldlRecOn _ _ resting
  intro s resting sp _
  rw [spInitOne]
  split_ifs
  · exact resting.setSp ⟨(resting.sp sp).ref, (resting.sp sp).currHwDep, (resting.sp sp).clients⟩
  · exact resting

theorem start_resting (errs : InitErrs) : Resting b (start b errs) :=
  spInit_resting (channelSubscribe2sp_resting
    (spPreinit_resting (channelInit_resting (statics_resting errs.hw)) errs))

/-! ## Channels that commands reach -/

theorem channelSubscribeOne_self (s : Daemon) (ch : Sensor) :
    Reached (channelSubscribeOne b s ch) ch := by
  intro available
  rw [channelSubscribeOne] at available ⊢
  split at available
  · contradiction
  · rename_i known
    rw [if_neg known]
    split at available
    · simp [makeUnavailable, Daemon.setChannel] at available
    · split at available
      · rename_i sp found ready
        simp [ready, spRegisterCh, Daemon.setChannel]
      · simp [makeUnavailable, Daemon.setChannel] at available

theorem channelSubscribeOne_other {other : Sensor} (distinct : other ≠ ch) :
    (channelSubscribeOne b s ch).channel other = s.channel other := by
  rw [channelSubscribeOne]
  split
  · rfl
  · split
    · exact Function.update_of_ne distinct ..
    · split <;> exact Function.update_of_ne distinct ..

theorem channelSubscribe_keeps {l : List Sensor} (reached : Reached s ch) :
    Reached (l.foldl (channelSubscribeOne b) s) ch := by
  apply List.foldlRecOn (motive := fun s => Reached s ch) _ _ reached
  intro s reached other _
  by_cases same : ch = other
  · rw [same]
    exact channelSubscribeOne_self s other
  · rw [Reached, channelSubscribeOne_other same]
    exact reached

theorem channelSubscribe_reached {l : List Sensor} (listed : ch ∈ l) :
    Reached (l.foldl (channelSubscribeOne b) s) ch := by
  induction l generalizing s with
  | nil => cases listed
  | cons first rest ih =>
      rw [List.foldl_cons]
      rcases List.mem_cons.mp listed with rfl | listed
      · exact channelSubscribe_keeps (channelSubscribeOne_self s _)
      · exact ih listed

theorem spInit_channel : (spInit b s).channel = s.channel := by
  apply List.foldlRecOn (motive := fun t : Daemon => t.channel = s.channel) _ _ rfl
  intro t same sp _
  rw [spInitOne]
  split_ifs <;> exact same

theorem start_reached (errs : InitErrs) : ∀ ch ∈ gListCh b, Reached (start b errs) ch := by
  intro ch listed
  rw [Reached, start, spInit_channel]
  exact channelSubscribe_reached listed

theorem start_sound {fine : SensorHwType → Prop} (errs : InitErrs) : Sound b fine (start b errs) :=
  (start_resting errs).sound (start_reached errs)

end VibeXperia.Proof.Sensord

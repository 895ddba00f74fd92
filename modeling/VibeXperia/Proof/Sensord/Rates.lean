import VibeXperia.Proof.Sensord.Boot
import VibeXperia.Proof.Sensord.Agreement

namespace VibeXperia.Proof.Sensord
open Lib VibeXperia.Sensord

variable {b : Build} {calls : HwCalls} {ch : Sensor} {s s' : Daemon} {kind : RateKind}

/-! ## The products follow their channels -/

structure Follows (s : Daemon) (ap : Sensor) : Prop where
  enable : (s.algo.gProductsFusion ap).enable = s.awake ap
  bounded : ∀ kind, Bounded kind ap (s.algo.gProductsFusion ap)
  asked : ∀ kind : RateKind, regulate (kind.dr (s.algo.gProductsFusion ap))
    (kind.low (s.algo.gProductsFusion ap)) (kind.high (s.algo.gProductsFusion ap)) =
      s.regulatedRate kind ap
  regulated : ∀ kind : RateKind, s.awake ap = true →
    kind.dr (s.algo.gProductsFusion ap) = s.regulatedRate kind ap

structure ProductsFollow (b : Build) (s : Daemon) : Prop where
  product : ∀ ap ∈ productsFusion b, Follows s ap
  arbitrated : ∀ kind : RateKind, kind.arbitrated s.algo = s.highestRate b kind

structure SameAsked (s s' : Daemon) (ap : Sensor) : Prop where
  product : s'.algo.gProductsFusion ap = s.algo.gProductsFusion ap
  awake : s'.awake ap = s.awake ap
  interval : (s'.channel ap).interval = (s.channel ap).interval

theorem SameAsked.regulatedRate {ap : Sensor} (same : SameAsked s s' ap) :
    s'.regulatedRate kind ap = s.regulatedRate kind ap := by
  rw [Daemon.regulatedRate, Daemon.regulatedRate, Daemon.askedRate, Daemon.askedRate, same.product,
    same.interval]

theorem Follows.congr {ap : Sensor} (follows : Follows s ap) (same : SameAsked s s' ap) :
    Follows s' ap where
  enable := by rw [same.product, same.awake, follows.enable]
  bounded kind := by
    rw [same.product]
    exact follows.bounded kind
  asked kind := by rw [same.product, same.regulatedRate, follows.asked]
  regulated kind up := by
    rw [same.awake] at up
    rw [same.product, same.regulatedRate, follows.regulated kind up]

theorem ProductsFollow.congr (follow : ProductsFollow b s)
    (same : ∀ ap ∈ productsFusion b, SameAsked s s' ap)
    (arbitrated : ∀ kind : RateKind, kind.arbitrated s'.algo = kind.arbitrated s.algo) :
    ProductsFollow b s' where
  product ap listed := (follow.product ap listed).congr (same ap listed)
  arbitrated kind := by
    rw [arbitrated, follow.arbitrated]
    exact highest_congr (fun ap listed => (same ap listed).awake.symm)
      fun ap listed _ => (same ap listed).regulatedRate.symm

theorem follows_of_regulated {ap : Sensor}
    (enable : (s.algo.gProductsFusion ap).enable = s.awake ap)
    (bounded : ∀ kind, Bounded kind ap (s.algo.gProductsFusion ap))
    (regulated : ∀ kind : RateKind,
      kind.dr (s.algo.gProductsFusion ap) = s.regulatedRate kind ap) : Follows s ap where
  enable := enable
  bounded := bounded
  asked kind := by
    rw [regulated, Daemon.regulatedRate]
    exact regulate_regulate (bounded kind).ordered
  regulated kind _ := regulated kind

theorem ProductsFollow.change (follow : ProductsFollow b s) (follows : Follows s' ch)
    (others : ∀ ap, ap ≠ ch → SameAsked s s' ap)
    (arbitrated : ∀ kind : RateKind,
      kind.arbitrated s'.algo = kind.arbitrated (fusionArbitrateDr b s'.algo)) :
    ProductsFollow b s' := by
  have product : ∀ ap ∈ productsFusion b, Follows s' ap := by
    intro ap listed
    by_cases same : ap = ch
    · exact same ▸ follows
    · exact (follow.product ap listed).congr (others ap same)
  refine ⟨product, fun kind => ?_⟩
  rw [arbitrated, arbitrated_fusionArbitrateDr]
  apply highest_congr
  · intro ap listed
    exact (product ap listed).enable
  · intro ap listed enabled
    rw [(product ap listed).enable] at enabled
    exact (product ap listed).regulated kind enabled

theorem ProductsFollow.highest_lt (follow : ProductsFollow b s) (kind : RateKind) :
    s.highestRate b kind < 8 := by
  apply Lib.highest_lt (by decide)
  intro ap listed _
  exact Nat.lt_of_le_of_lt regulate_le_high ((follow.product ap listed).bounded kind).inside

/-! ## What holds between commands -/

structure Rated (b : Build) (s : Daemon) : Prop where
  follow : ProductsFollow b s
  channel : ∀ ch ∈ gListCh b, ch ≠ .p → GoodChannel (s.channel ch)
  activeHws : s.algo.gActiveHws = (s.sp .spFusion).currHwDep
  driver : depends s .a .spFusion = true → driven b s.hw .a = true ∧ s.algo.gPHwA = true
  pointer : ∀ ch, (s.channel ch).sp = some .spFusion → driven b s.hw .a = true →
    s.algo.gPHwA = true
  interval : (s.sp .spFusion).interval = hintInterval b s.algo

theorem Rated.inside (rated : Rated b s) (kind : RateKind) : kind.arbitrated s.algo < 8 := by
  rw [rated.follow.arbitrated]
  exact rated.follow.highest_lt kind

structure Untold (s s' : Daemon) : Prop where
  algo : s'.algo = s.algo
  fusion : s'.sp .spFusion = s.sp .spFusion
  channel : ∀ ch, (s'.channel ch).cfg = (s.channel ch).cfg ∧
    (s'.channel ch).sp = (s.channel ch).sp
  asked : ∀ ch, ch ≠ .p → s'.awake ch = s.awake ch ∧
    (s'.channel ch).interval = (s.channel ch).interval
  settings : SameSettings (s.hw .a) (s'.hw .a)

theorem productsFusion_cases (listed : ch ∈ productsFusion b) : ch ∈ gListCh b ∧ ch ≠ .p := by
  simp only [productsFusion, gListCh, List.mem_filter] at listed ⊢
  cases ch <;> simp_all [Sensor.all]

theorem Rated.untold (rated : Rated b s) (untold : Untold s s') : Rated b s' where
  follow := by
    apply rated.follow.congr
    · intro ap listed
      obtain ⟨awake, interval⟩ := untold.asked ap (productsFusion_cases listed).2
      exact ⟨by rw [untold.algo], awake, interval⟩
    · intro kind
      rw [untold.algo]
  channel ch listed other := by
    have good := rated.channel ch listed other
    constructor
    · rw [(untold.asked ch other).2]
      exact good.interval
    · rw [(untold.channel ch).1]
      exact good.cfg
  activeHws := by rw [untold.algo, untold.fusion, rated.activeHws]
  driver bit := by
    rw [depends, untold.fusion] at bit
    rw [driven_congr untold.settings, untold.algo]
    exact rated.driver bit
  pointer ch registered := by
    rw [(untold.channel ch).2] at registered
    rw [driven_congr untold.settings, untold.algo]
    exact rated.pointer ch registered
  interval := by rw [untold.fusion, untold.algo, rated.interval]

/-! ## The fusion provider is told -/

structure Told (b : Build) (calls : HwCalls) (ch : Sensor) (s s' : Daemon) : Prop where
  reprogrammed : Reprogrammed b calls s s'
  registered : (s.channel ch).sp = some .spFusion
  follows : Follows s' ch
  others : ∀ ap, ap ≠ ch → SameAsked s s' ap
  channel : ∀ ap, (s'.channel ap).cfg = (s.channel ap).cfg ∧ (s'.channel ap).sp = (s.channel ap).sp
  good : GoodInterval (s'.channel ch).interval

theorem Reprogrammed.driven (reprogrammed : Reprogrammed b calls s s') :
    driven b s'.hw .a = driven b s.hw .a := by
  obtain ⟨table, settings, stored⟩ := reprogrammed.table
  rw [Sensord.driven, Sensord.driven, stored, algoProgramHwA_available, settings.available]

theorem Rated.told (rated : Rated b s) (told : Told b calls ch s s') : Rated b s' where
  follow := rated.follow.change told.follows told.others told.reprogrammed.arbitrated
  channel ap listed other := by
    have good := rated.channel ap listed other
    constructor
    · by_cases same : ap = ch
      · exact same ▸ told.good
      · rw [(told.others ap same).interval]
        exact good.interval
    · rw [(told.channel ap).1]
      exact good.cfg
  activeHws := told.reprogrammed.activeHws rated.activeHws
  driver bit := by
    rw [told.reprogrammed.driven, told.reprogrammed.gPHwA]
    rcases told.reprogrammed.driver bit with present | before
    · exact ⟨present, rated.pointer ch told.registered present⟩
    · exact rated.driver before
  pointer ap registered := by
    rw [(told.channel ap).2] at registered
    rw [told.reprogrammed.driven, told.reprogrammed.gPHwA]
    exact rated.pointer ap registered
  interval := told.reprogrammed.interval

theorem Rated.active_pointer (rated : Rated b s) (active : s.accActive = true) :
    s.algo.gPHwA = true := by
  rw [Daemon.accActive, rated.activeHws] at active
  exact (rated.driver active).2

theorem Programmed.told (programmed : Programmed b s) (reprogrammed : Reprogrammed b calls s s')
    (rated' : Rated b s') : Programmed b s' := by
  obtain ⟨table, settings, stored⟩ := reprogrammed.table
  exact programmed.program settings stored rated'.active_pointer (rated'.inside .acc)

theorem setState_told {state : ChannelState} (follow : ProductsFollow b s)
    (good : GoodInterval (s.channel ch).interval) (listed : ch ∈ gListCh b) (other : ch ≠ .p)
    (registered : (s.channel ch).sp = some .spFusion) :
    Told b calls ch s
      (withState (spEnableCh b calls .spFusion ch (state != .sleep) s) ch state) := by
  have atHome : home ch = .spFusion := if_neg other
  have channel := @spEnableCh_channel b calls ch (state != .sleep) s listed
  rw [atHome] at channel
  have products := @spEnableCh_products b calls ch (state != .sleep) s listed other
  have told := @spEnableCh_reprogrammed b calls ch (state != .sleep) s listed other
  have follows := follow.product ch (mem_productsFusion listed other)
  have awake : (withState (spEnableCh b calls .spFusion ch (state != .sleep) s) ch state).awake =
      Function.update s.awake ch (state != .sleep) := by
    have kept : (spEnableCh b calls .spFusion ch (state != .sleep) s).awake = s.awake := by
      funext ap
      rw [Daemon.awake, Daemon.awake, channel]
    rw [withState_awake, kept]
  have interval (ap : Sensor) :
      ((withState (spEnableCh b calls .spFusion ch (state != .sleep) s) ch state).channel
        ap).interval = (s.channel ap).interval := by
    rw [withState_interval, channel]
  have product : (withState (spEnableCh b calls .spFusion ch (state != .sleep) s) ch
      state).algo.gProductsFusion ch = AlgoProduct.regulateDr { s.algo.gProductsFusion ch with
        enable := state != .sleep, bypassProc := (s.channel ch).cfg.bypassProc } := by
    refine (congrFun products ch).trans ?_
    rw [Function.update_self]
  constructor
  case reprogrammed =>
    exact ⟨told.table, told.activeHws, told.driver, told.gPHwA, told.arbitrated, told.interval⟩
  case registered => exact registered
  case follows =>
    apply follows_of_regulated
    · rw [product, awake, Function.update_self]
      rfl
    · intro kind
      rw [product]
      exact (follows.bounded kind).congr (by cases kind <;> rfl) (by cases kind <;> rfl)
    · intro kind
      rw [Daemon.regulatedRate, Daemon.askedRate, interval, product]
      have asked := follows.asked kind
      rw [Daemon.regulatedRate, Daemon.askedRate] at asked
      cases kind <;> exact asked
  case others =>
    intro ap distinct
    refine ⟨?_, ?_, interval ap⟩
    · refine (congrFun products ap).trans ?_
      rw [Function.update_of_ne distinct]
    · rw [awake, Function.update_of_ne distinct]
  case channel =>
    intro ap
    rw [withState_cfg, withState_sp, channel]
    exact ⟨rfl, rfl⟩
  case good =>
    rw [interval]
    exact good

theorem setDelay_told {interval : Int} (follow : ProductsFollow b s)
    (good : GoodInterval interval) (listed : ch ∈ gListCh b) (other : ch ≠ .p)
    (registered : (s.channel ch).sp = some .spFusion) :
    Told b calls ch s
      (spRecalcIntervalRe b .spFusion (withInterval b calls ch interval s)) := by
  have follows := follow.product ch (mem_productsFusion listed other)
  obtain ⟨t, handled⟩ :
      ∃ t, t = spRecalcIntervalRe b .spFusion (withInterval b calls ch interval s) := ⟨_, rfl⟩
  have channel (ap : Sensor) : t.channel ap =
      if ap = ch then { s.channel ch with interval } else s.channel ap := by
    rw [handled]
    exact Function.update_apply ..
  have product : t.algo.gProductsFusion ch = ((s.algo.gProductsFusion ch).setDr ch
      (algoHz2dataRate (1000 / interval))).regulateDr := by
    rw [handled]
    exact Function.update_self ..
  have awake (ap : Sensor) : t.awake ap = s.awake ap := by
    rw [Daemon.awake, Daemon.awake, channel]
    split_ifs with same
    · rw [same]
    · rfl
  have kept (kind : RateKind) :
      kind.low (t.algo.gProductsFusion ch) = kind.low (s.algo.gProductsFusion ch) ∧
        kind.high (t.algo.gProductsFusion ch) = kind.high (s.algo.gProductsFusion ch) := by
    rw [product, low_regulateDr, high_regulateDr, low_setDr, high_setDr]
    exact ⟨rfl, rfl⟩
  rw [← handled]
  constructor
  case reprogrammed =>
    rw [handled]
    exact channelSetDelay_reprogrammed
  case registered => exact registered
  case follows =>
    apply follows_of_regulated
    · rw [awake, ← follows.enable, product]
      cases ch <;> rfl
    · intro kind
      exact (follows.bounded kind).congr (kept kind).1 (kept kind).2
    · intro kind
      rw [Daemon.regulatedRate, Daemon.askedRate, channel, if_pos rfl, (kept kind).1,
        (kept kind).2, product]
      exact dr_set_regulated (follows.bounded kind)
  case others =>
    intro ap distinct
    refine ⟨?_, awake ap, ?_⟩
    · rw [handled]
      exact Function.update_of_ne distinct ..
    · rw [channel, if_neg distinct]
  case channel =>
    intro ap
    rw [channel]
    split_ifs with same
    · rw [same]
      exact ⟨rfl, rfl⟩
    · exact ⟨rfl, rfl⟩
  case good =>
    rw [channel, if_pos rfl]
    exact good

/-! ## One command -/

theorem Untold.refl (s : Daemon) : Untold s s :=
  ⟨rfl, rfl, fun _ => ⟨rfl, rfl⟩, fun _ _ => ⟨rfl, rfl⟩, rfl, rfl, rfl, rfl⟩

theorem withState_untold {state : ChannelState} (same : s.awake ch = (state != .sleep)) :
    Untold s (withState s ch state) where
  algo := rfl
  fusion := rfl
  channel ap := ⟨withState_cfg ap, withState_sp ap⟩
  asked ap _ := ⟨by rw [(withState_sameUses same).awake], withState_interval ap⟩
  settings := ⟨rfl, rfl, rfl, rfl⟩

theorem pressure_untold {on : Bool} {state : ChannelState} (listed : Sensor.p ∈ gListCh b) :
    Untold s (withState (spEnableCh b calls .spPressure .p on s) .p state) := by
  have channel := @spEnableCh_channel b calls .p on s listed
  have stored : (spEnableCh b calls .spPressure .p on s).algo = s.algo ∧
      (spEnableCh b calls .spPressure .p on s).sp .spFusion = s.sp .spFusion ∧
      (spEnableCh b calls .spPressure .p on s).hw =
        (spReCheckDepHw b calls .spPressure (learned b .spPressure .p on s)).2.hw := by
    rw [spEnableCh]
    split_ifs <;> exact ⟨rfl, rfl, rfl⟩
  obtain ⟨algo, fusion, table⟩ := stored
  obtain ⟨settings, -⟩ :=
    @spReCheckDepHw_a b calls .spPressure (learned b .spPressure .p on s) _ rfl
  constructor
  case algo => exact algo
  case fusion => exact fusion
  case channel =>
    intro ap
    rw [withState_cfg, withState_sp]
    exact ⟨by rw [← channel]; rfl, by rw [← channel]; rfl⟩
  case asked =>
    intro ap distinct
    rw [withState_interval, withState_awake, Function.update_of_ne distinct, Daemon.awake]
    exact ⟨by rw [Daemon.awake, ← channel]; rfl, by rw [← channel]; rfl⟩
  case settings =>
    show SameSettings (s.hw .a) ((spEnableCh b calls .spPressure .p on s).hw .a)
    rw [table]
    exact settings

theorem pressureDelay_untold {interval : Int} :
    Untold s (spRecalcIntervalRe b .spPressure
      (s.setChannel .p { s.channel .p with interval })) where
  algo := rfl
  fusion := rfl
  channel ap := by
    by_cases same : ap = .p <;> simp [spRecalcIntervalRe, Daemon.setSp, Daemon.setChannel, same]
  asked ap distinct := by
    simp [spRecalcIntervalRe, Daemon.setSp, Daemon.setChannel, Daemon.awake, distinct]
  settings := ⟨rfl, rfl, rfl, rfl⟩

structure Tuned (b : Build) (s : Daemon) : Prop where
  agrees : Agrees b s
  rated : Rated b s
  programmed : Programmed b s

theorem handle_told (agrees : Agrees b s) (rated : Rated b s) (e : ChannelEvent) :
    (∃ ch calls, Told b calls ch s (handle b s e).1) ∨ Untold s (handle b s e).1 := by
  cases e with
  | setState ch state calls =>
      dsimp only [handle]
      cases registered : (s.channel ch).sp with
      | none =>
          rw [channelSetState, registered]
          exact .inr (Untold.refl s)
      | some sp =>
          obtain ⟨listed, rfl⟩ := agrees.registered ch sp registered
          rw [channelSetState_eq registered]
          by_cases same : s.awake ch = (state != .sleep)
          · rw [if_pos same]
            exact .inr (withState_untold same)
          · rw [if_neg same]
            by_cases pressure : ch = .p
            · subst pressure
              exact .inr (pressure_untold listed)
            · have atHome : home ch = .spFusion := if_neg pressure
              rw [atHome] at registered ⊢
              have good := (rated.channel ch listed pressure).interval
              exact .inl ⟨ch, calls, setState_told rated.follow good listed pressure registered⟩
  | setDelay ch value calls =>
      dsimp only [handle]
      cases registered : (s.channel ch).sp with
      | none =>
          rw [channelSetDelay, registered]
          exact .inr (Untold.refl s)
      | some sp =>
          obtain ⟨listed, rfl⟩ := agrees.registered ch sp registered
          by_cases refused : value < sampleIntervalMin
          · rw [channelSetDelay, registered]
            dsimp only
            rw [if_pos refused]
            exact .inr (Untold.refl s)
          · by_cases pressure : ch = .p
            · subst pressure
              have atHome : home .p = .spPressure := rfl
              rw [channelSetDelay, registered, atHome]
              simp only [if_neg refused]
              exact .inr pressureDelay_untold
            · have atHome : home ch = .spFusion := if_neg pressure
              rw [atHome] at registered
              obtain ⟨interval, good, stored⟩ := @channelSetDelay_fusion b calls ch s value
                listed pressure registered (rated.channel ch listed pressure) refused
              rw [stored]
              exact .inl ⟨ch, calls, setDelay_told rated.follow good listed pressure registered⟩

theorem Tuned.handle (tuned : Tuned b s) (e : ChannelEvent) : Tuned b (handle b s e).1 := by
  have agrees := handle_agrees tuned.agrees e
  rcases handle_told tuned.agrees tuned.rated e with ⟨ch, calls, told⟩ | untold
  · have rated := tuned.rated.told told
    exact ⟨agrees, rated, tuned.programmed.told told.reprogrammed rated⟩
  · exact ⟨agrees, tuned.rated.untold untold,
      tuned.programmed.congr untold.settings untold.algo⟩

/-! ## Start -/

theorem RestingAlgo.hintInterval {algo : Algo} (resting : RestingAlgo algo) : hintInterval b algo = 1000 := by
  have off (id : AlgoModuleId) : algoModIsEnabled b id algo = false := by
    rw [algoModIsEnabled]
    split
    · rw [resting.modules]
      rfl
    · rfl
  rw [Sensord.hintInterval, algoGetHintInterval, off, off]
  rfl

theorem FreshProduct.follows {ap : Sensor} (fresh : FreshProduct ap (s.algo.gProductsFusion ap))
    (asleep : s.awake ap = false) (interval : (s.channel ap).interval = 200) : Follows s ap where
  enable := by rw [fresh.enable, asleep]
  bounded := fresh.bounded
  asked kind := by
    have asked : s.askedRate ap = 1 := by
      rw [Daemon.askedRate, interval]
      rfl
    rw [Daemon.regulatedRate, asked, fresh.dr]
    exact regulate_unset (fresh.bounded kind).fixed
  regulated kind up := by
    rw [asleep] at up
    cases up

theorem Booted.rated (booted : Booted b s) (resting : Resting b s) : Rated b s := by
  have initial : GoodInterval 200 := ⟨⟨5, rfl⟩, by decide, by decide⟩
  have clear : (s.sp .spFusion).currHwDep = 0 := (resting.sp .spFusion).currHwDep
  constructor
  case follow =>
    constructor
    · intro ap listed
      have known := booted.channel ap (productsFusion_cases listed).1
      exact (booted.algo.product ap).follows (resting.awake ap) known.interval
    · intro kind
      have none : s.highestRate b kind = 0 := by
        apply Nat.lt_one_iff.mp
        apply Lib.highest_lt Nat.one_pos
        intro ap _ up
        rw [resting.awake] at up
        cases up
      rw [none]
      cases kind
      · exact booted.algo.gDrA
      · exact booted.algo.gDrM
  case channel =>
    intro ch listed _
    obtain ⟨interval, cfg⟩ := booted.channel ch listed
    exact ⟨interval ▸ initial, cfg⟩
  case activeHws => rw [booted.algo.gActiveHws, clear]
  case driver =>
    intro bit
    rw [depends, clear] at bit
    simp [depBit] at bit
  case pointer => exact booted.pointer
  case interval => rw [booted.interval, resting.algo.hintInterval]

theorem Booted.programmed (booted : Booted b s) : Programmed b s := by
  have inactive : s.accActive = false := by
    rw [Daemon.accActive, booted.algo.gActiveHws]
    simp [depBit]
  apply programmed_of_inactive inactive
  intro present
  rw [driven, Bool.and_eq_true] at present
  rw [BwKnown, booted.unwritten.writes, booted.unwritten.bw present.2]
  rfl

theorem start_tuned (errs : InitErrs) : Tuned b (start b errs) where
  agrees := (@start_sound b (fun _ => True) errs).agrees
  rated := (start_booted errs).rated (start_resting errs)
  programmed := (start_booted errs).programmed

theorem run_tuned (errs : InitErrs) (events : List Event) :
    Tuned b (final (step b) (start b errs) events) := by
  rw [← final_parts]
  exact (@invariant _ _ _ (handle b) (Tuned b) (fun _ e tuned => tuned.handle e) _
    (start_tuned errs) _).1

/-! ## The provider's interval -/

theorem commonInterval_dvd : s.commonInterval b ∣ 1000 := by
  rw [Daemon.commonInterval]
  induction s.moduleInterval b .acc ++ s.moduleInterval b .mag with
  | nil => exact Nat.dvd_refl 1000
  | cons interval rest ih =>
      exact Nat.dvd_trans (Int.natCast_dvd_natCast.mp (Int.gcd_dvd_right ..)) ih

theorem Rated.hint (rated : Rated b s) : algoGetHintInterval b s.algo = s.commonInterval b := by
  have acc := gTabIntvl_pos (rated.follow.highest_lt .acc)
  have mag := gTabIntvl_pos (rated.follow.highest_lt .mag)
  have gDrA : s.algo.gDrA = s.highestRate b .acc := rated.follow.arbitrated .acc
  have gDrM : s.algo.gDrM = s.highestRate b .mag := rated.follow.arbitrated .mag
  rw [algoGetHintInterval, gDrA, gDrM, Daemon.commonInterval, Daemon.moduleInterval,
    Daemon.moduleInterval, RateKind.module, RateKind.module]
  generalize gTabIntvl.getD (s.highestRate b .acc) 0 = intvA at acc ⊢
  generalize gTabIntvl.getD (s.highestRate b .mag) 0 = intvM at mag ⊢
  have first : getMaxCommDiv 1000 intvA = Int.gcd intvA 1000 := by
    rw [getMaxCommDiv_eq (by decide) acc, Int.gcd_comm]
  have positive : 0 < (Int.gcd intvA 1000 : Int) :=
    Int.natCast_pos.mpr (Int.gcd_pos_of_ne_zero_left _ acc.ne')
  cases algoModIsEnabled b .acc s.algo <;> cases algoModIsEnabled b .mag s.algo
  case false.false => rfl
  case true.false => simpa using first
  case false.true =>
    simp only [Bool.false_eq_true, if_false, if_true, List.nil_append, List.foldr_cons,
      List.foldr_nil]
    rw [getMaxCommDiv_eq (by decide) mag, Int.gcd_comm]
    rfl
  case true.true =>
    simp only [if_true, List.cons_append, List.nil_append, List.foldr_cons, List.foldr_nil]
    rw [first, getMaxCommDiv_eq positive mag, Int.gcd_assoc, Int.gcd_comm 1000 intvM]
    rfl

theorem Rated.common (rated : Rated b s) :
    ((s.sp .spFusion).interval : Int) = max intvProcMin (s.commonInterval b) := by
  have most : s.commonInterval b ≤ 1000 := Nat.le_of_dvd (by decide) commonInterval_dvd
  rw [rated.interval, hintInterval, rated.hint, intvProcMin]
  omega

/-! ## The agreement -/

theorem Tuned.ratesAgree (tuned : Tuned b s) : RatesAgree b s (s.hw .a).writes := by
  have rated := tuned.rated
  have gDrA : s.algo.gDrA = s.highestRate b .acc := rated.follow.arbitrated .acc
  have delay := tuned.programmed.delay
  rw [gDrA] at delay
  constructor
  case enabled => exact fun ch listed => (rated.follow.product ch listed).enable
  case arbitrated => exact rated.follow.arbitrated
  case inside => exact fun kind => ⟨rated.inside kind, rated.inside kind⟩
  case delay => exact delay
  case bw =>
    intro active succeeds
    have bit : depends s .a .spFusion = true := by
      rw [Daemon.accActive, rated.activeHws] at active
      exact active
    obtain ⟨value, found⟩ := lookup_gTabRefBw (rated.follow.highest_lt .acc)
    refine ⟨value, found, ?_⟩
    rw [tuned.programmed.known (rated.driver bit).1, tuned.programmed.bw active succeeds, gDrA, found]
  case short =>
    intro active succeeds ch up needed uncapped
    have listed := awake_listed tuned.agrees up
    have other : ch ≠ .p := by
      rintro rfl
      cases needed
    refine ⟨_, delay active succeeds, ?_⟩
    have counted : s.regulatedRate .acc ch ≤ s.highestRate b .acc :=
      le_highest (mem_productsFusion listed other) up
    have asked : s.askedRate ch ≤ s.highestRate b .acc := (le_regulate uncapped).trans counted
    calc
      gTabIntvl.getD (s.highestRate b .acc) 0 ≤ gTabIntvl.getD (s.askedRate ch) 0 :=
        gTabIntvl_antitone asked (rated.follow.highest_lt .acc)
      _ ≤ (s.channel ch).interval := gTabIntvl_le (rated.channel ch listed other).interval
  case interval => exact rated.common

/-- After every sequence of commands the accelerometer is programmed for the highest of the rates
that channels ask for, and the fusion provider's interval is that of the active modules. -/
theorem rates_agree (b : Build) (errs : InitErrs) (events : List Event) :
    RatesAgree b (final (step b) (start b errs) events) (written b errs events) :=
  (run_tuned errs events).ratesAgree

/-- The orientation makes the accelerometer active, every 100 ms. -/
example : (final (step nicki) (start nicki noErrs) orientationOn).accActive = true ∧
    written nicki noErrs orientationOn = [.bw 8 0, .delay 100 0] := by decide

end VibeXperia.Proof.Sensord

import VibeXperia.Proof.Sensord.Products
import VibeXperia.Proof.Sensord.Handle

namespace VibeXperia.Proof.Sensord
open Lib VibeXperia.Sensord

variable {b : Build} {calls : HwCalls} {sp : ProviderName} {ch : Sensor} {on : Bool}
variable {s s' : Daemon} {algo : Algo} {table : HwTable}

/-! ## The settings of the accelerometer -/

section Settings
variable {h : SensorHw} {bw : Nat} {itvl : Int}

def BwKnown (h : SensorHw) : Prop :=
  lastWrite AccWrite.programmedBw h.writes = mapABw.lookup h.bw

theorem hwAccSetBandwidth_known (known : BwKnown h) : BwKnown (hwAccSetBandwidth calls h bw).2 := by
  rw [BwKnown] at known
  rw [BwKnown, hwAccSetBandwidth]
  by_cases same : bw = h.bw
  · rw [if_pos same]
    exact known
  · rw [if_neg same]
    cases found : mapABw.lookup bw with
    | none => exact known
    | some value =>
        by_cases ok : calls.writeBw = 0
        · simp [lastWrite_snoc, AccWrite.programmedBw, ok, found]
        · simp [lastWrite_snoc, AccWrite.programmedBw, ok, known]

theorem hwAccSetBandwidth_bw {value : Nat} (found : mapABw.lookup bw = some value)
    (succeeds : Succeeds AccWrite.bwErr (hwAccSetBandwidth calls h bw).2.writes) :
    (hwAccSetBandwidth calls h bw).2.bw = bw := by
  rw [hwAccSetBandwidth] at succeeds ⊢
  by_cases same : bw = h.bw
  · rw [if_pos same]
    exact same.symm
  · rw [if_neg same, found] at succeeds ⊢
    dsimp only at succeeds ⊢
    by_cases ok : calls.writeBw = 0
    · rw [if_pos ok]
    · rw [if_neg ok] at succeeds
      exact absurd (succeeds _ (by rw [lastWrite_snoc]; rfl)) ok

theorem hwAccSetDelay_bw : (hwAccSetDelay calls h itvl).2.bw = h.bw := by
  rw [hwAccSetDelay]
  dsimp only
  split_ifs <;> rfl

theorem hwAccSetDelay_writes :
    (hwAccSetDelay calls h itvl).2.writes = h.writes ++ [.delay itvl calls.writeDelay] := by
  rw [hwAccSetDelay]
  dsimp only
  split_ifs <;> rfl

theorem hwAccSetDelay_programmed
    (succeeds : Succeeds AccWrite.delayErr (hwAccSetDelay calls h itvl).2.writes) :
    lastWrite AccWrite.programmedDelay (hwAccSetDelay calls h itvl).2.writes = some itvl := by
  rw [hwAccSetDelay_writes] at succeeds ⊢
  have ok : calls.writeDelay = 0 := succeeds _ (by rw [lastWrite_snoc]; rfl)
  rw [lastWrite_snoc, AccWrite.programmedDelay, if_pos ok]
  rfl

theorem lastWrite_setDelay {β : Type} {f : AccWrite → Option β}
    (silent : ∀ itvl err, f (.delay itvl err) = none) :
    lastWrite f (hwAccSetDelay calls h itvl).2.writes = lastWrite f h.writes := by
  rw [hwAccSetDelay_writes, lastWrite_snoc, silent]
  rfl

theorem hwAccSetDelay_known (known : BwKnown h) : BwKnown (hwAccSetDelay calls h itvl).2 := by
  rw [BwKnown, lastWrite_setDelay fun _ _ => rfl, hwAccSetDelay_bw]
  exact known

end Settings

/-! ## What was programmed -/

structure Programmed (b : Build) (s : Daemon) : Prop where
  known : driven b s.hw .a = true → BwKnown (s.hw .a)
  bw : s.accActive = true → Succeeds AccWrite.bwErr (s.hw .a).writes →
    (s.hw .a).bw = gTabRefBw.getD s.algo.gDrA 0
  delay : s.accActive = true → Succeeds AccWrite.delayErr (s.hw .a).writes →
    lastWrite AccWrite.programmedDelay (s.hw .a).writes = some (gTabIntvl.getD s.algo.gDrA 0)

theorem programmed_of_inactive (inactive : s.accActive = false)
    (known : driven b s.hw .a = true → BwKnown (s.hw .a)) : Programmed b s := by
  have never : ¬ s.accActive = true := Bool.eq_false_iff.mp inactive
  exact ⟨known, fun active => absurd active never, fun active => absurd active never⟩

theorem driven_congr (settings : SameSettings (s.hw .a) (s'.hw .a)) :
    driven b s'.hw .a = driven b s.hw .a := by rw [driven, driven, settings.available]

theorem BwKnown.congr {h h' : SensorHw} (known : BwKnown h) (settings : SameSettings h h') :
    BwKnown h' := by
  rw [BwKnown, settings.writes, settings.bw]
  exact known

theorem Programmed.congr (programmed : Programmed b s)
    (settings : SameSettings (s.hw .a) (s'.hw .a)) (algo : s'.algo = s.algo) :
    Programmed b s' := by
  constructor
  · rw [driven_congr settings]
    exact fun present => (programmed.known present).congr settings
  · rw [Daemon.accActive, settings.bw, settings.writes, algo]
    exact programmed.bw
  · rw [Daemon.accActive, settings.writes, algo]
    exact programmed.delay

theorem algoProgramHwA_available :
    (algoProgramHwA calls algo table .a).available = (table .a).available :=
  (algoProgramHwA_samePower algo table .a).available

theorem Programmed.program (programmed : Programmed b s)
    (settings : SameSettings (s.hw .a) (table .a))
    (after : s'.hw = algoProgramHwA calls s'.algo table)
    (pointer : s'.accActive = true → s'.algo.gPHwA = true) (inside : s'.algo.gDrA < 8) :
    Programmed b s' := by
  have known (present : driven b s'.hw .a = true) : BwKnown (table .a) := by
    rw [driven, after, algoProgramHwA_available, settings.available] at present
    exact (programmed.known present).congr settings
  cases active : s'.accActive with
  | false =>
      have silent : (depBit s'.algo.gActiveHws .a && s'.algo.gPHwA) = false := by
        rw [Daemon.accActive] at active
        rw [active, Bool.false_and]
      rw [algoProgramHwA, silent, if_neg Bool.false_ne_true] at after
      apply programmed_of_inactive active
      intro present
      rw [after]
      exact known present
  | true =>
      have both : (depBit s'.algo.gActiveHws .a && s'.algo.gPHwA) = true := by
        rw [Daemon.accActive] at active
        rw [active, pointer active, Bool.true_and]
      obtain ⟨value, found⟩ := lookup_gTabRefBw inside
      have stored : s'.hw .a = (hwAccSetDelay calls
          (hwAccSetBandwidth calls (table .a) (gTabRefBw.getD s'.algo.gDrA 0)).2
          (gTabIntvl.getD s'.algo.gDrA 0)).2 := by
        rw [after, algoProgramHwA, both, if_pos rfl]
        exact Function.update_self ..
      refine ⟨fun present => ?_, fun _ succeeds => ?_, fun _ succeeds => ?_⟩
      · rw [stored]
        exact hwAccSetDelay_known (hwAccSetBandwidth_known (known present))
      · rw [stored, Succeeds, lastWrite_setDelay fun _ _ => rfl] at succeeds
        rw [stored, hwAccSetDelay_bw]
        exact hwAccSetBandwidth_bw found succeeds
      · rw [stored] at succeeds ⊢
        exact hwAccSetDelay_programmed succeeds

/-! ## Changes that the fusion provider is told of -/

def hintInterval (b : Build) (algo : Algo) : Nat :=
  (max (algoGetHintInterval b algo % 2 ^ 16) intvProcMin).toNat

structure Reprogrammed (b : Build) (calls : HwCalls) (s s' : Daemon) : Prop where
  table : ∃ table : HwTable, SameSettings (s.hw .a) (table .a) ∧
    s'.hw = algoProgramHwA calls s'.algo table
  activeHws : s.algo.gActiveHws = (s.sp .spFusion).currHwDep →
    s'.algo.gActiveHws = (s'.sp .spFusion).currHwDep
  driver : depends s' .a .spFusion = true →
    driven b s.hw .a = true ∨ depends s .a .spFusion = true
  gPHwA : s'.algo.gPHwA = s.algo.gPHwA
  arbitrated : ∀ kind : RateKind,
    kind.arbitrated s'.algo = kind.arbitrated (fusionArbitrateDr b s'.algo)
  interval : (s'.sp .spFusion).interval = hintInterval b s'.algo

theorem spRecalcIntervalRe_fusion :
    ((spRecalcIntervalRe b .spFusion s).sp .spFusion).interval = hintInterval b s.algo := by
  simp [spRecalcIntervalRe, Daemon.setSp, ProviderName.getHintProcInterval, hintInterval]

theorem spReCheckDepHw_a {t : Daemon} (checked : t = (spReCheckDepHw b calls sp s).2) :
    SameSettings (s.hw .a) (t.hw .a) ∧
      (depends t .a sp = true → driven b s.hw .a = true ∨ depends s .a sp = true) := by
  obtain ⟨bit, entry⟩ := Prod.mk.inj (@spReCheckDepHw_cell b calls .a sp s t checked)
  rw [entry, bit]
  exact ⟨cell_settings, cell_bit⟩

theorem learned_algo (listed : ch ∈ gListCh b) (other : ch ≠ .p) :
    (learned b .spFusion ch on s).algo =
      algoEnableProduct b ch on (updateProduct s.algo ch fun product =>
        { product with enable := on, bypassProc := (s.channel ch).cfg.bypassProc }) := by
  have told := @onChEnabled_eq b ch on (s.setSp .spFusion
    { s.sp .spFusion with clients := enableClient (s.sp .spFusion).clients ch on }) listed other
  rw [home, if_neg other] at told
  rw [learned, told]
  rfl

theorem spEnableCh_products (listed : ch ∈ gListCh b) (other : ch ≠ .p) :
    (spEnableCh b calls .spFusion ch on s).algo.gProductsFusion =
      Function.update s.algo.gProductsFusion ch
        (AlgoProduct.regulateDr { s.algo.gProductsFusion ch with
          enable := on, bypassProc := (s.channel ch).cfg.bypassProc }) := by
  have kept : (spEnableCh b calls .spFusion ch on s).algo.gProductsFusion =
      (learned b .spFusion ch on s).algo.gProductsFusion := by
    rw [spEnableCh]
    split_ifs <;> rfl
  rw [kept, learned_algo listed other, algoEnableProduct_products.1]
  simp [updateProduct]

theorem spEnableCh_reprogrammed (listed : ch ∈ gListCh b) (other : ch ≠ .p) :
    Reprogrammed b calls s (spEnableCh b calls .spFusion ch on s) := by
  have atHome : home ch = .spFusion := if_neg other
  obtain ⟨table, before⟩ := @learned_same b ch on s listed
  rw [atHome] at table before
  obtain ⟨t, checked⟩ : ∃ t, t = (spReCheckDepHw b calls .spFusion (learned b .spFusion ch on s)).2 :=
    ⟨_, rfl⟩
  obtain ⟨settings, driver⟩ := spReCheckDepHw_a checked
  have stored : (spEnableCh b calls .spFusion ch on s).algo =
      { t.algo with gActiveHws := (t.sp .spFusion).currHwDep } := by
    rw [spEnableCh, checked]
    split_ifs <;> rfl
  have dep : ((spEnableCh b calls .spFusion ch on s).sp .spFusion).currHwDep =
      (t.sp .spFusion).currHwDep := by
    rw [checked]
    exact spEnableCh_sameUses.currHwDep .spFusion
  have algo : t.algo = (learned b .spFusion ch on s).algo := by
    rw [checked]
    rfl
  constructor
  case table =>
    refine ⟨t.hw, by rwa [table] at settings, ?_⟩
    rw [stored, spEnableCh, checked]
    split_ifs <;> rfl
  case activeHws =>
    intro _
    rw [stored, dep]
  case driver =>
    intro bit
    rw [depends, dep] at bit
    have known := driver bit
    rwa [table, depends, before] at known
  case gPHwA =>
    rw [stored]
    show t.algo.gPHwA = _
    rw [algo, learned_algo listed other]
    exact algoEnableProduct_products.2
  case arbitrated =>
    intro kind
    rw [stored, algo, learned_algo listed other]
    cases kind <;> rfl
  case interval =>
    rw [spEnableCh]
    split_ifs
    · exact spRecalcIntervalRe_fusion
    · refine Eq.trans ?_ spRecalcIntervalRe_fusion
      apply setSp_kept SensorProvider.interval
      rfl

/-! ## Delays -/

structure GoodCfg (cfg : ChannelCfg) : Prop where
  low : 10 ≤ cfg.intervalMin
  ordered : cfg.intervalMin ≤ cfg.intervalMax
  high : cfg.intervalMax ≤ 200

structure GoodChannel (channel : Channel) : Prop where
  interval : GoodInterval channel.interval
  cfg : GoodCfg channel.cfg

theorem GoodInterval.signed {interval : Int} (good : GoodInterval interval) :
    signed 16 interval = interval := by
  have low := good.low
  have high := good.high
  exact signed_of_lt (by omega) (by omega)

def delayed (b : Build) (ch : Sensor) (interval : Int) (algo : Algo) : Algo :=
  fusionArbitrateDr b (updateProduct algo ch fun product =>
    (product.setDr ch (algoHz2dataRate (1000 / interval))).regulateDr)

def withInterval (b : Build) (calls : HwCalls) (ch : Sensor) (interval : Int) (s : Daemon) :
    Daemon :=
  { s with
    algo := delayed b ch interval s.algo
    hw := algoProgramHwA calls (delayed b ch interval s.algo) s.hw }.setChannel ch
      { s.channel ch with interval }

theorem channelSetDelay_fusion {value : Int} (listed : ch ∈ gListCh b) (other : ch ≠ .p)
    (registered : (s.channel ch).sp = some .spFusion) (good : GoodChannel (s.channel ch))
    (accepted : ¬ value < sampleIntervalMin) :
    ∃ interval, GoodInterval interval ∧
      (channelSetDelay b calls ch value s).2 =
        spRecalcIntervalRe b .spFusion (withInterval b calls ch interval s) := by
  obtain ⟨low, ordered, high⟩ := good.cfg
  rw [channelSetDelay, registered]
  obtain ⟨above, below⟩ := clamp_bounds ordered value
  simp only [if_neg accepted, clamp_eq ordered]
  generalize (s.channel ch).cfg.clamp value = clamped at above below ⊢
  have least : 10 ≤ clamped := low.trans above
  have most : clamped ≤ 200 := below.trans high
  have positive : ¬ clamped ≤ 0 := by omega
  have near := getNearestDivisibleInt_good least most
  have product : fusionGetProduct b ch.type = some ch := by
    rw [fusionGetProduct_eq, if_pos (mem_productsFusion listed other)]
  refine ⟨_, near, ?_⟩
  rw [ProviderName.onChIntervalChanged, fusionOnChIntervalChanged, product]
  simp only [algoOnIntervalChanged, if_neg positive, near.signed]
  rfl

theorem channelSetDelay_reprogrammed {interval : Int} :
    Reprogrammed b calls s
      (spRecalcIntervalRe b .spFusion (withInterval b calls ch interval s)) := by
  have dep : ((spRecalcIntervalRe b .spFusion (withInterval b calls ch interval s)).sp
      .spFusion).currHwDep = (s.sp .spFusion).currHwDep := by
    apply setSp_kept SensorProvider.currHwDep
    rfl
  constructor
  case table => exact ⟨s.hw, ⟨rfl, rfl, rfl, rfl⟩, rfl⟩
  case activeHws =>
    intro active
    rw [dep]
    exact active
  case driver =>
    intro bit
    rw [depends, dep] at bit
    exact .inr bit
  case gPHwA => rfl
  case arbitrated =>
    intro kind
    cases kind <;> rfl
  case interval => exact spRecalcIntervalRe_fusion

end VibeXperia.Proof.Sensord

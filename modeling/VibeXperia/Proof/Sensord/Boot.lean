import VibeXperia.Proof.Sensord.Writes

namespace VibeXperia.Proof.Sensord
open Lib VibeXperia.Sensord

variable {b : Build} {s s' : Daemon} {ch : Sensor} {sp : ProviderName}
variable {algo : Algo} {table : HwTable} {errs : InitErrs} {l : List Sensor}

/-! ## What the algorithm starts with -/

structure FreshProduct (ap : Sensor) (product : AlgoProduct) : Prop where
  enable : product.enable = false
  dr : ∀ kind : RateKind, kind.dr product = 0
  bounded : ∀ kind, Bounded kind ap product

structure FreshAlgo (algo : Algo) : Prop where
  product : ∀ ap, FreshProduct ap (algo.gProductsFusion ap)
  gDrA : algo.gDrA = 0
  gDrM : algo.gDrM = 0
  gActiveHws : algo.gActiveHws = 0

structure FreshChannel (channel : Channel) : Prop where
  interval : channel.interval = 200
  cfg : GoodCfg channel.cfg

def Ready (b : Build) (s : Daemon) : Prop := driven b s.hw .a = true → s.algo.gPHwA = true

structure Unwritten (h : SensorHw) : Prop where
  writes : h.writes = []
  bw : h.available = true → h.bw = hwABwInvalid

structure Booted (b : Build) (s : Daemon) : Prop where
  algo : FreshAlgo s.algo
  channel : ∀ ch ∈ gListCh b, FreshChannel (s.channel ch)
  unwritten : Unwritten (s.hw .a)
  interval : (s.sp .spFusion).interval = 1000
  available : (s.sp .spFusion).available = true → Ready b s
  pointer : ∀ ch, (s.channel ch).sp = some .spFusion → Ready b s

theorem hwCntlInit_unwritten {initErr : SensorHwType → Int} (before : Unwritten (table .a)) :
    Unwritten (hwCntlInit b initErr table .a) := by
  rw [hwCntlInit]
  apply List.foldlRecOn (motive := fun table : HwTable => Unwritten (table .a)) _ _ before
  intro table known hw _
  by_cases same : hw = .a
  · subst same
    rw [Function.update_self]
    exact ⟨known.writes, fun _ => rfl⟩
  · rw [Function.update_of_ne (Ne.symm same)]
    exact known

/-! ## Channels -/

def Boundable (channel : Channel) (ch : Sensor) : Prop :=
  GoodCfg channel.cfg ∨ ch = .gestFlip ∧ channel.cfg.availability ≠ .unavailable

theorem statics_boundable (ch : Sensor) : Boundable ((statics b).channel ch) ch := by
  by_cases flip : ch = .gestFlip
  · subst flip
    exact .inr ⟨rfl, by simp [statics, setCfgMisc, chCfg]⟩
  · left
    cases emulated : b.cfgSensorGEmu <;> cases ch <;> constructor <;>
      simp_all [statics, setCfgMisc, cfgDelay]

theorem channelInitCfg_good {cfg : ChannelCfg} (known : GoodCfg cfg ∨ ch = .gestFlip) :
    (channelInitCfg b ch cfg).1 = 0 ∧ GoodCfg (channelInitCfg b ch cfg).2 := by
  rw [channelInitCfg]
  split_ifs with flip
  · subst flip
    exact ⟨rfl, by simp [cfgDelay], by simp [cfgDelay], by simp [cfgDelay]⟩
  · exact ⟨rfl, known.resolve_right flip⟩

theorem setChannel_self (channel : Channel) : (s.setChannel ch channel).channel ch = channel :=
  Function.update_self ..

theorem setChannel_other {other : Sensor} (distinct : other ≠ ch) (channel : Channel) :
    (s.setChannel ch channel).channel other = s.channel other :=
  Function.update_of_ne distinct ..

theorem channelInitOne_self (known : Boundable (s.channel ch) ch) :
    FreshChannel ((channelInitOne b s ch).channel ch) := by
  rw [channelInitOne]
  split_ifs with unavailable
  · rw [setChannel_self]
    exact ⟨rfl, known.resolve_right fun flip => flip.2 unavailable⟩
  · obtain ⟨ok, good⟩ := @channelInitCfg_good b ch _ (known.imp_right And.left)
    rw [setChannel_self]
    refine ⟨rfl, ?_⟩
    dsimp only
    rw [if_neg (not_not_intro ok)]
    exact good

theorem channelInitOne_other {other : Sensor} (distinct : ch ≠ other) :
    (channelInitOne b s other).channel ch = s.channel ch := by
  rw [channelInitOne]
  split_ifs <;> exact Function.update_of_ne distinct ..

theorem channelInit_good (listed : ch ∈ l) (known : Boundable (s.channel ch) ch) :
    FreshChannel ((l.foldl (channelInitOne b) s).channel ch) := by
  have keeps {l : List Sensor} {s : Daemon} (good : FreshChannel (s.channel ch)) :
      FreshChannel ((l.foldl (channelInitOne b) s).channel ch) := by
    apply List.foldlRecOn (motive := fun s : Daemon => FreshChannel (s.channel ch)) _ _ good
    intro s good other _
    by_cases same : ch = other
    · exact same ▸ channelInitOne_self (.inl (same ▸ good.cfg))
    · rw [channelInitOne_other same]
      exact good
  induction l generalizing s with
  | nil => cases listed
  | cons first rest ih =>
      rw [List.foldl_cons]
      by_cases same : ch = first
      · subst same
        exact keeps (channelInitOne_self known)
      · apply ih
        · exact (List.mem_cons.mp listed).resolve_left same
        · rw [channelInitOne_other same]
          exact known

theorem channelInit_rest :
    (channelInit b s).hw = s.hw ∧ (channelInit b s).algo = s.algo ∧
      ∀ ch, ((channelInit b s).channel ch).sp = (s.channel ch).sp := by
  rw [channelInit]
  apply List.foldlRecOn (motive := fun t : Daemon => t.hw = s.hw ∧ t.algo = s.algo ∧
    ∀ ch, (t.channel ch).sp = (s.channel ch).sp) _ _ ⟨rfl, rfl, fun _ => rfl⟩
  intro t same other _
  obtain ⟨hw, algo, registered⟩ := same
  rw [channelInitOne]
  split_ifs
  all_goals
    refine ⟨hw, algo, fun ch => ?_⟩
    rw [← registered ch]
    by_cases found : ch = other <;> simp [Daemon.setChannel, found]

/-! ## The fusion provider -/

theorem foldl_fresh {change : Sensor → AlgoProduct → AlgoProduct}
    {products : Sensor → AlgoProduct}
    (keeps : ∀ ap product, FreshProduct ap product → FreshProduct ap (change ap product))
    (fresh : ∀ ap, FreshProduct ap (products ap)) :
    ∀ ap, FreshProduct ap (l.foldl (fun products ap =>
      Function.update products ap (change ap (products ap))) products ap) := by
  apply List.foldlRecOn
    (motive := fun products : Sensor → AlgoProduct => ∀ ap, FreshProduct ap (products ap)) _ _ fresh
  intro products fresh entry _ ap
  by_cases same : ap = entry
  · subst same
    rw [Function.update_self]
    exact keeps ap _ (fresh ap)
  · rw [Function.update_of_ne same]
    exact fresh ap

theorem freshProduct_zero (ap : Sensor) (bypassProc : Bool) :
    FreshProduct ap ⟨false, bypassProc, 0, 0, 0, 0, 0, 0, 0, 0, 0⟩ := by
  refine ⟨rfl, fun kind => ?_, fun kind => ?_⟩
  · cases kind <;> rfl
  · cases kind <;> exact bounded_zero rfl rfl

theorem algoProductInit_fresh (ap : Sensor) (product : AlgoProduct)
    (fresh : FreshProduct ap product) : FreshProduct ap (algoProductInit ap product) := by
  refine ⟨?_, fun kind => ?_, fun kind => algoProductInit_bounded (fresh.bounded kind)⟩
  · rw [← fresh.enable]
    cases ap <;> rfl
  · rw [← fresh.dr kind]
    cases kind <;> cases ap <;> rfl

theorem fusionInit_fresh {setHwidErr initCustErr : Int} (fresh : FreshAlgo algo) :
    FreshAlgo (fusionInit b setHwidErr initCustErr table algo).2 := by
  have cleared := @foldl_fresh (productsFusion b) (fun _ product =>
    ⟨false, product.bypassProc, 0, 0, 0, 0, 0, 0, 0, 0, 0⟩) algo.gProductsFusion
    (fun ap product _ => freshProduct_zero ap product.bypassProc) fresh.product
  rw [fusionInit, algoInitBst]
  split_ifs
  · exact ⟨cleared, fresh.gDrA, fresh.gDrM, fresh.gActiveHws⟩
  · exact ⟨foldl_fresh algoProductInit_fresh cleared, fresh.gDrA, fresh.gDrM, fresh.gActiveHws⟩

theorem fusionInit_ready {setHwidErr initCustErr : Int}
    (ok : (fusionInit b setHwidErr initCustErr table algo).1 = 0)
    (present : driven b table .a = true) :
    (fusionInit b setHwidErr initCustErr table algo).2.gPHwA = true := by
  rw [fusionInit, algoInitBst] at ok ⊢
  split_ifs at ok ⊢ with refused
  · exact absurd ok refused
  · simp [algoAdapterInit, hwGetHwById_eq, present]

theorem spPreinitOne_booted (fresh : FreshAlgo s.algo)
    (channel : ∀ ch ∈ gListCh b, FreshChannel (s.channel ch))
    (unwritten : Unwritten (s.hw .a))
    (unregistered : ∀ ch, (s.channel ch).sp = none) :
    Booted b (spPreinitOne b errs s .spFusion) := by
  have pointer (ch : Sensor) (registered : (s.channel ch).sp = some .spFusion) : False := by
    rw [unregistered] at registered
    cases registered
  rw [spPreinitOne]
  split_ifs with failed
  · constructor
    case algo => exact fusionInit_fresh fresh
    case channel => exact channel
    case unwritten => exact unwritten
    case interval => simp [ProviderName.init, Daemon.setSp]
    case available =>
      intro available
      simp [ProviderName.init, Daemon.setSp] at available
    case pointer => exact fun ch registered => (pointer ch registered).elim
  · constructor
    case algo => exact fusionInit_fresh fresh
    case channel => exact channel
    case unwritten => exact unwritten
    case interval => simp [ProviderName.init, Daemon.setSp]
    case available => exact fun _ present => fusionInit_ready (not_not.mp failed) present
    case pointer => exact fun ch registered => (pointer ch registered).elim

theorem Booted.congr (booted : Booted b s) (algo : s'.algo = s.algo) (hw : s'.hw = s.hw)
    (channel : ∀ ch, FreshChannel (s.channel ch) → FreshChannel (s'.channel ch))
    (interval : (s'.sp .spFusion).interval = (s.sp .spFusion).interval)
    (available : (s'.sp .spFusion).available = true → (s.sp .spFusion).available = true)
    (registered : ∀ ch, (s'.channel ch).sp = some .spFusion →
      (s.channel ch).sp = some .spFusion ∨ (s.sp .spFusion).available = true) :
    Booted b s' := by
  have ready : Ready b s → Ready b s' := by
    rw [Ready, Ready, algo, hw]
    exact id
  constructor
  case algo => exact algo ▸ booted.algo
  case channel => exact fun ch listed => channel ch (booted.channel ch listed)
  case unwritten => exact hw ▸ booted.unwritten
  case interval => exact interval.trans booted.interval
  case available => exact fun up => ready (booted.available (available up))
  case pointer =>
    intro ch found
    rcases registered ch found with before | up
    · exact ready (booted.pointer ch before)
    · exact ready (booted.available up)

theorem spPreinit_booted (fresh : FreshAlgo s.algo)
    (channel : ∀ ch ∈ gListCh b, FreshChannel (s.channel ch))
    (unwritten : Unwritten (s.hw .a))
    (unregistered : ∀ ch, (s.channel ch).sp = none) : Booted b (spPreinit b errs s) := by
  have first := @spPreinitOne_booted b s errs fresh channel unwritten unregistered
  have second : Booted b (spPreinitOne b errs (spPreinitOne b errs s .spFusion) .spPressure) := by
    rw [spPreinitOne]
    split_ifs
    · exact first.congr rfl rfl (fun _ => id) rfl id fun _ => .inl
    · exact first.congr rfl rfl (fun _ => id) rfl id fun _ => .inl
  rw [spPreinit, gListSp]
  split_ifs
  · exact second
  · exact first

theorem setChannel_good {channel : Channel} {ap : Sensor} (good : FreshChannel (s.channel ap))
    (same : FreshChannel (s.channel ch) → FreshChannel channel) :
    FreshChannel ((s.setChannel ch channel).channel ap) := by
  by_cases found : ap = ch
  · subst found
    rw [setChannel_self]
    exact same good
  · rw [setChannel_other found]
    exact good

theorem channelSubscribe2sp_booted (booted : Booted b s) : Booted b (channelSubscribe2sp b s) := by
  rw [channelSubscribe2sp]
  apply List.foldlRecOn _ _ booted
  intro s booted ch _
  have unavailable : Booted b (makeUnavailable ch s) := by
    refine booted.congr rfl rfl ?channel ?interval ?available ?registered
    case channel =>
      intro ap good
      apply setChannel_good good
      rintro ⟨interval, cfg⟩
      exact ⟨interval, cfg.low, cfg.ordered, cfg.high⟩
    case interval => rfl
    case available => exact id
    case registered =>
      intro ap found
      left
      by_cases same : ap = ch
      · subst same
        rw [makeUnavailable, setChannel_self] at found
        exact found
      · rw [makeUnavailable, setChannel_other same] at found
        exact found
  rw [channelSubscribeOne]
  split
  · exact booted
  · split
    · exact unavailable
    · rename_i sp found
      split
      · rename_i up
        refine booted.congr rfl rfl ?channel ?interval ?available ?registered
        case channel =>
          intro ap good
          exact setChannel_good good fun known => ⟨known.interval, known.cfg⟩
        case interval => cases sp <;> rfl
        case available => cases sp <;> exact id
        case registered =>
          intro ap found
          by_cases same : ap = ch
          · subst same
            rw [spRegisterCh, setChannel_self] at found
            cases found
            exact .inr up
          · rw [spRegisterCh, setChannel_other same] at found
            exact .inl found
      · exact unavailable

theorem spInit_booted (booted : Booted b s) : Booted b (spInit b s) := by
  rw [spInit]
  apply List.foldlRecOn _ _ booted
  intro s booted sp _
  rw [spInitOne]
  split_ifs
  · refine booted.congr rfl rfl (fun _ => id) ?interval ?available fun _ => .inl
    case interval => cases sp <;> rfl
    case available =>
      cases sp with
      | spFusion =>
          intro known
          simp [Daemon.setSp] at known
      | spPressure => exact id
  · exact booted

theorem statics_fresh : FreshAlgo (statics b).algo :=
  ⟨fun ap => freshProduct_zero ap false, rfl, rfl, rfl⟩

theorem start_booted (errs : InitErrs) : Booted b (start b errs) := by
  obtain ⟨hw, algo, registered⟩ :=
    @channelInit_rest b { statics b with hw := hwCntlInit b errs.hw (statics b).hw }
  apply spInit_booted
  apply channelSubscribe2sp_booted
  apply spPreinit_booted
  · rw [algo]
    exact @statics_fresh b
  · exact fun ch listed => channelInit_good listed (statics_boundable ch)
  · rw [hw]
    apply hwCntlInit_unwritten
    exact ⟨rfl, fun available => by cases available⟩
  · exact registered

end VibeXperia.Proof.Sensord

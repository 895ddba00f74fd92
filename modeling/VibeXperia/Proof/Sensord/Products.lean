import VibeXperia.Sensord.Delay
import VibeXperia.Sensord.Rates
import VibeXperia.Proof.Sensord.Algo

namespace VibeXperia.Proof.Sensord
open Lib VibeXperia.Sensord

/-! ## Bounds -/

section Clamp
variable {cfg : ChannelCfg}

theorem clamp_bounds (ordered : cfg.intervalMin ≤ cfg.intervalMax) (delay : Int) :
    cfg.intervalMin ≤ cfg.clamp delay ∧ cfg.clamp delay ≤ cfg.intervalMax := by
  unfold ChannelCfg.clamp
  omega

theorem clamp_eq (ordered : cfg.intervalMin ≤ cfg.intervalMax) (delay : Int) :
    (if cfg.intervalMax < (if delay < cfg.intervalMin then cfg.intervalMin else delay)
      then cfg.intervalMax else if delay < cfg.intervalMin then cfg.intervalMin else delay) =
      cfg.clamp delay := by
  unfold ChannelCfg.clamp
  split_ifs <;> omega

end Clamp

/-! ## Divisors -/

theorem getMaxCommDivLoop_eq {m n : Nat} (positive : 0 < n) :
    getMaxCommDivLoop m n = Nat.gcd m n := by
  induction m, n using getMaxCommDivLoop.induct with
  | case1 m n divides =>
      rw [getMaxCommDivLoop, if_pos divides]
      exact (Nat.gcd_eq_right (Nat.dvd_of_mod_eq_zero divides)).symm
  | case2 m divides => exact absurd positive (Nat.lt_irrefl 0)
  | case3 m n divides nonzero ih =>
      rw [getMaxCommDivLoop, if_neg divides, dif_neg nonzero, ih (Nat.pos_of_ne_zero divides),
        Nat.gcd_comm n, ← Nat.gcd_rec, Nat.gcd_comm]

theorem getMaxCommDiv_eq {m n : Int} (left : 0 < m) (right : 0 < n) :
    getMaxCommDiv m n = Int.gcd m n := by
  have smaller : 0 < min m.natAbs n.natAbs := by omega
  rw [getMaxCommDiv, if_neg left.ne', if_neg right.ne', getMaxCommDivLoop_eq smaller, Int.gcd]
  rcases Nat.le_total m.natAbs n.natAbs with less | more
  · rw [max_eq_right less, min_eq_left less, Nat.gcd_comm]
  · rw [max_eq_left more, min_eq_right more]

theorem maxCommDivLoop_eq {fuel m n : Nat} (positive : 0 < n) (enough : n < fuel) :
    maxCommDivLoop fuel m n = some (Nat.gcd m n : Int) := by
  induction fuel generalizing m n with
  | zero => cases enough
  | succ fuel ih =>
      have nonzero : (n : Int) ≠ 0 := by omega
      rw [maxCommDivLoop, if_neg nonzero, ← Int.ofNat_tmod]
      dsimp only
      split_ifs with more
      · have smaller := Nat.mod_lt m positive
        rw [ih (by omega) (by omega), Nat.gcd_comm n, ← Nat.gcd_rec, Nat.gcd_comm]
      · have divides : m % n = 0 := by omega
        rw [Nat.gcd_eq_right (Nat.dvd_of_mod_eq_zero divides)]

theorem maxCommDiv_eq {fuel : Nat} {a b : Int} (left : 0 ≤ a) (right : 0 ≤ b)
    (enough : min a b < fuel) : maxCommDiv fuel a b = some (Int.gcd a b : Int) := by
  obtain ⟨m, rfl⟩ := Int.eq_ofNat_of_zero_le left
  obtain ⟨n, rfl⟩ := Int.eq_ofNat_of_zero_le right
  rw [maxCommDiv]
  by_cases first : m = 0
  · subst first
    simp
  · by_cases second : n = 0
    · subst second
      simp
    · have sign (k : Nat) : ¬ (k : Int) < 0 := by omega
      rw [if_neg (by omega), if_neg (by omega), if_neg (sign m), if_neg (sign n), Int.gcd,
        Int.natAbs_natCast, Int.natAbs_natCast]
      dsimp only
      split_ifs with less
      · rw [maxCommDivLoop_eq (by omega) (by omega), Nat.gcd_comm]
      · rw [maxCommDivLoop_eq (by omega) (by omega)]

theorem getMaxCommDiv_zero (a : Int) : getMaxCommDiv 0 a = a ∧ getMaxCommDiv a 0 = a := by
  rw [getMaxCommDiv, getMaxCommDiv, if_pos rfl, if_pos rfl]
  split_ifs with zero
  · exact ⟨rfl, zero.symm⟩
  · exact ⟨rfl, rfl⟩

theorem getMaxCommDiv_gcd {a b : Int} (left : 0 ≤ a) (right : 0 ≤ b) :
    getMaxCommDiv a b = Int.gcd a b := by
  rcases left.eq_or_lt with rfl | positive
  · rw [(getMaxCommDiv_zero b).1, Int.gcd_zero_left, Int.natAbs_of_nonneg right]
  · rcases right.eq_or_lt with rfl | positive'
    · rw [(getMaxCommDiv_zero a).2, Int.gcd_zero_right, Int.natAbs_of_nonneg left]
    · exact getMaxCommDiv_eq positive positive'

theorem foldl_getMaxCommDiv {intervals : List Int} (positive : ∀ intv ∈ intervals, 0 < intv)
    {val : Int} (start : 0 < val) :
    0 < intervals.foldl getMaxCommDiv val ∧ intervals.foldl getMaxCommDiv val ∣ val ∧
      ∀ intv ∈ intervals, intervals.foldl getMaxCommDiv val ∣ intv := by
  induction intervals generalizing val with
  | nil => exact ⟨start, Int.dvd_refl val, nofun⟩
  | cons intv intervals ih =>
      rw [List.forall_mem_cons] at positive
      have divisor := getMaxCommDiv_eq start positive.1
      have next : 0 < getMaxCommDiv val intv := by
        rw [divisor]
        exact Int.natCast_pos.mpr (Int.gcd_pos_of_ne_zero_left _ start.ne')
      obtain ⟨above, divides, all⟩ := ih positive.2 next
      rw [List.foldl_cons]
      rw [divisor] at divides ⊢
      rw [divisor] at above all
      refine ⟨above, Int.dvd_trans divides (Int.gcd_dvd_left _ _), ?_⟩
      rw [List.forall_mem_cons]
      exact ⟨Int.dvd_trans divides (Int.gcd_dvd_right _ _), all⟩

/-- The loop ends with the greatest common divisor, and no interval is lost by folding. -/
theorem max_comm_div_correct :
    (∀ a b : Int, 0 ≤ a → 0 ≤ b → a ≠ 0 ∨ b ≠ 0 →
      (∀ fuel : Nat, min a b < fuel → maxCommDiv fuel a b = some (getMaxCommDiv a b)) ∧
        getMaxCommDiv a b = Int.gcd a b ∧ 0 < getMaxCommDiv a b ∧
        (a = 0 → getMaxCommDiv a b = b) ∧ (b = 0 → getMaxCommDiv a b = a)) ∧
    ∀ intervals : List Int, (∀ intv ∈ intervals, 0 < intv) →
      0 < intervals.foldl getMaxCommDiv 1000 ∧ intervals.foldl getMaxCommDiv 1000 ∣ 1000 ∧
        ∀ intv ∈ intervals, intervals.foldl getMaxCommDiv 1000 ∣ intv := by
  constructor
  · intro a b left right nonzero
    have divisor := getMaxCommDiv_gcd left right
    refine ⟨fun fuel enough => ?_, divisor, ?_, ?_, ?_⟩
    · rw [divisor]
      exact maxCommDiv_eq left right enough
    · rw [divisor, Int.natCast_pos, Int.gcd_pos_iff]
      exact nonzero
    · rintro rfl
      exact (getMaxCommDiv_zero b).1
    · rintro rfl
      exact (getMaxCommDiv_zero a).2
  · intro intervals positive
    exact foldl_getMaxCommDiv positive (by decide)

theorem max_comm_div_correct_channels :
    getMaxCommDiv 1000 60 = Int.gcd 1000 60 ∧
      0 < ([60, 90] : List Int).foldl getMaxCommDiv 1000 :=
  ⟨(max_comm_div_correct.1 1000 60 (by decide) (by decide) (.inl (by decide))).2.1,
    (max_comm_div_correct.2 [60, 90] (by decide)).1⟩

theorem nearestDivisor_dvd {n v : Nat} (positive : 0 < v) :
    nearestDivisor n v ∣ n ∧ nearestDivisor n v ≤ v := by
  induction v with
  | zero => exact absurd positive (Nat.lt_irrefl 0)
  | succ v ih =>
      rw [nearestDivisor]
      split_ifs with divides
      · exact ⟨Nat.dvd_of_mod_eq_zero divides, le_rfl⟩
      · have more : 0 < v := by
          by_contra none
          exact divides (by rw [Nat.eq_zero_of_not_pos none, Nat.mod_one])
        exact ⟨(ih more).1, (ih more).2.trans (Nat.le_succ v)⟩

theorem le_nearestDivisor {n v d : Nat} (divides : d ∣ n) (bound : d ≤ v) :
    d ≤ nearestDivisor n v := by
  induction v with
  | zero => exact bound
  | succ v ih =>
      rw [nearestDivisor]
      split_ifs with found
      · exact bound
      · apply ih
        rcases Nat.lt_or_eq_of_le bound with less | rfl
        · exact Nat.le_of_lt_succ less
        · exact absurd (Nat.mod_eq_zero_of_dvd divides) found

structure GoodInterval (interval : Int) : Prop where
  divides : interval ∣ 1000
  low : 10 ≤ interval
  high : interval ≤ 200

theorem getNearestDivisibleInt_good {value : Int} (low : 10 ≤ value) (high : value ≤ 200) :
    GoodInterval (getNearestDivisibleInt 1000 value.toNat) := by
  have positive : 0 < value.toNat := by omega
  have below : ¬ 1000 ≤ value.toNat := by omega
  obtain ⟨divides, bound⟩ := @nearestDivisor_dvd 1000 value.toNat positive
  have least : 10 ≤ nearestDivisor 1000 value.toNat :=
    le_nearestDivisor ⟨100, rfl⟩ (by omega)
  rw [getNearestDivisibleInt, if_neg positive.ne', if_neg (by omega), if_neg below]
  exact ⟨Int.natCast_dvd_natCast.mpr divides, by omega, by omega⟩

/-! ## Tables -/

theorem algoHz2dataRate_lt (hz : Int) : algoHz2dataRate hz < 8 := by
  rw [algoHz2dataRate]
  split
  · rename_i i found
    exact (List.findIdx?_eq_some_iff_getElem.mp found).1
  · decide

theorem gTabIntvl_mul_gTabHz {i : Nat} (inside : i < 8) :
    gTabIntvl.getD i 0 * gTabHz.getD i 0 = 1000 := by
  have all : ∀ i < 8, gTabIntvl.getD i 0 * gTabHz.getD i 0 = 1000 := by decide
  exact all i inside

theorem gTabIntvl_antitone {i j : Nat} (less : i ≤ j) (inside : j < 8) :
    gTabIntvl.getD j 0 ≤ gTabIntvl.getD i 0 := by
  have all : ∀ j < 8, ∀ i ≤ j, gTabIntvl.getD j 0 ≤ gTabIntvl.getD i 0 := by decide
  exact all j inside i less

theorem gTabIntvl_pos {i : Nat} (inside : i < 8) : 0 < gTabIntvl.getD i 0 := by
  have all : ∀ i < 8, 0 < gTabIntvl.getD i 0 := by decide
  exact all i inside

theorem lookup_gTabRefBw {i : Nat} (inside : i < 8) :
    ∃ value, mapABw.lookup (gTabRefBw.getD i 0) = some value := by
  have all : ∀ i < 8, (mapABw.lookup (gTabRefBw.getD i 0)).isSome := by decide
  exact Option.isSome_iff_exists.mp (all i inside)

theorem gTabHz_pos {i : Nat} (inside : i < 8) : 0 < gTabHz.getD i 0 := by
  have all : ∀ i < 8, 0 < gTabHz.getD i 0 := by decide
  exact all i inside

theorem le_gTabHz {hz : Int} (most : hz ≤ 200) : hz ≤ gTabHz.getD (algoHz2dataRate hz) 0 := by
  rw [algoHz2dataRate]
  split
  · rename_i i found
    obtain ⟨bound, reached, -⟩ := List.findIdx?_eq_some_iff_getElem.mp found
    rw [List.getD_eq_getElem?_getD, List.getElem?_eq_getElem bound]
    exact of_decide_eq_true reached
  · exact most

theorem gTabIntvl_le {interval : Int} (good : GoodInterval interval) :
    gTabIntvl.getD (algoHz2dataRate (1000 / interval)) 0 ≤ interval := by
  have low := good.low
  have inside := algoHz2dataRate_lt (1000 / interval)
  have most : 1000 / interval ≤ 200 := Int.ediv_le_of_le_mul (by omega) (by omega)
  refine Int.le_of_mul_le_mul_right ?_ (gTabHz_pos inside)
  calc
    gTabIntvl.getD (algoHz2dataRate (1000 / interval)) 0 *
        gTabHz.getD (algoHz2dataRate (1000 / interval)) 0 = 1000 := gTabIntvl_mul_gTabHz inside
    _ = 1000 / interval * interval := (Int.ediv_mul_cancel good.divides).symm
    _ ≤ gTabHz.getD (algoHz2dataRate (1000 / interval)) 0 * interval :=
        Int.mul_le_mul_of_nonneg_right (le_gTabHz most) (by omega)
    _ = interval * gTabHz.getD (algoHz2dataRate (1000 / interval)) 0 := Int.mul_comm _ _

/-! ## Bounds of products -/

section Regulate
variable {dr low high : Nat}

theorem regulate_le_high : regulate dr low high ≤ high := by
  simp only [regulate]
  split_ifs <;> omega

theorem le_regulate (below : dr ≤ high) : dr ≤ regulate dr low high := by
  simp only [regulate]
  split_ifs <;> omega

theorem regulate_regulate (ordered : low ≤ high) :
    regulate (regulate dr low high) low high = regulate dr low high := by
  simp only [regulate]
  split_ifs <;> omega

theorem regulate_zero : regulate dr low 0 = 0 := Nat.le_zero.mp regulate_le_high

theorem regulate_unset (fixed : high = 0 ∨ 0 < low) : regulate 0 low high = regulate 1 low high := by
  simp only [regulate]
  split_ifs <;> omega

end Regulate

def setsRate : RateKind → Sensor → Bool
  | .acc, ch => ch != .m && ch != .p
  | .mag, ch => ch == .m || ch == .o || ch == .g || ch == .vrv

structure Bounded (kind : RateKind) (ap : Sensor) (product : AlgoProduct) : Prop where
  ordered : kind.low product ≤ kind.high product
  inside : kind.high product < 8
  fixed : kind.high product = 0 ∨ 0 < kind.low product
  unset : setsRate kind ap = false → kind.high product = 0

section Kind
variable {kind : RateKind} {ap : Sensor} {product : AlgoProduct} {dr : Nat}

theorem dr_regulateDr :
    kind.dr product.regulateDr = regulate (kind.dr product) (kind.low product) (kind.high product) := by
  cases kind <;> rfl

theorem low_regulateDr : kind.low product.regulateDr = kind.low product := by cases kind <;> rfl

theorem high_regulateDr : kind.high product.regulateDr = kind.high product := by cases kind <;> rfl

theorem dr_setDr : kind.dr (product.setDr ap dr) = if setsRate kind ap then dr else kind.dr product := by
  cases kind <;> cases ap <;> rfl

theorem low_setDr : kind.low (product.setDr ap dr) = kind.low product := by
  cases kind <;> cases ap <;> rfl

theorem high_setDr : kind.high (product.setDr ap dr) = kind.high product := by
  cases kind <;> cases ap <;> rfl

theorem Bounded.congr {product' : AlgoProduct} (bounded : Bounded kind ap product)
    (low : kind.low product' = kind.low product) (high : kind.high product' = kind.high product) :
    Bounded kind ap product' := by
  constructor
  · rw [low, high]
    exact bounded.ordered
  · rw [high]
    exact bounded.inside
  · rw [low, high]
    exact bounded.fixed
  · rw [high]
    exact bounded.unset

theorem bounded_zero (low : kind.low product = 0) (high : kind.high product = 0) :
    Bounded kind ap product :=
  ⟨by rw [low, high], by rw [high]; decide, .inl high, fun _ => high⟩

theorem algoProductInit_bounded (bounded : Bounded kind ap product) :
    Bounded kind ap (algoProductInit ap product) := by
  cases kind <;> cases ap <;> first
    | exact bounded.congr rfl rfl
    | constructor <;> simp [algoProductInit, RateKind.low, RateKind.high, setsRate]

theorem dr_set_regulated (bounded : Bounded kind ap product) :
    kind.dr (product.setDr ap dr).regulateDr =
      regulate dr (kind.low product) (kind.high product) := by
  rw [dr_regulateDr, dr_setDr, low_setDr, high_setDr]
  cases sets : setsRate kind ap with
  | true => rfl
  | false => simp only [bounded.unset sets, regulate_zero]

end Kind

/-! ## The variables of the algorithm -/

section Algo
variable {b : Build} {algo : Algo} {ap : Sensor} {enable : Bool} {kind : RateKind}

structure SameProducts (algo algo' : Algo) : Prop where
  gProductsFusion : algo'.gProductsFusion = algo.gProductsFusion
  gPHwA : algo'.gPHwA = algo.gPHwA
  gActiveHws : algo'.gActiveHws = algo.gActiveHws

theorem SameProducts.trans {algo' algo'' : Algo} (first : SameProducts algo algo')
    (second : SameProducts algo' algo'') : SameProducts algo algo'' :=
  ⟨second.gProductsFusion.trans first.gProductsFusion, second.gPHwA.trans first.gPHwA,
    second.gActiveHws.trans first.gActiveHws⟩

theorem algoModEnable_sameProducts {id : AlgoModuleId} :
    SameProducts algo (algoModEnable b id enable algo) := by
  rw [algoModEnable]
  split <;> exact ⟨rfl, rfl, rfl⟩

theorem algoUpdateModDep_sameProducts :
    SameProducts algo (algoUpdateModDep b ap enable algo) := by
  have one {algo : Algo} (id : AlgoModuleId) := @algoModEnable_sameProducts b algo enable id
  have two {algo : Algo} (id id' : AlgoModuleId) := (@one algo id).trans (one id')
  rw [algoUpdateModDep.eq_def]
  split
  · exact ⟨rfl, rfl, rfl⟩
  · cases ap with
    | a | m => exact one _
    | g | o | vrv => exact (two _ _).trans (one _)
    | vg | vla => exact two _ _
    | p => exact ⟨rfl, rfl, rfl⟩
    | gestFlip =>
        dsimp only
        split_ifs
        · exact (two _ _).trans ⟨rfl, rfl, rfl⟩
        · exact two _ _

theorem algoUpdateHwDep_sameProducts : SameProducts algo (algoUpdateHwDep ap enable algo) := by
  cases ap <;> exact ⟨rfl, rfl, rfl⟩

theorem algoEnableProduct_products :
    (algoEnableProduct b ap enable algo).gProductsFusion =
        Function.update algo.gProductsFusion ap (algo.gProductsFusion ap).regulateDr ∧
      (algoEnableProduct b ap enable algo).gPHwA = algo.gPHwA := by
  have counted := (@algoUpdateModDep_sameProducts b algo ap enable).trans
    (@algoUpdateHwDep_sameProducts _ ap enable)
  constructor
  · show Function.update (algoUpdateHwDep ap enable (algoUpdateModDep b ap enable algo)).gProductsFusion
      ap _ = _
    rw [counted.gProductsFusion]
  · exact counted.gPHwA

theorem arbitrated_fusionArbitrateDr :
    kind.arbitrated (fusionArbitrateDr b algo) =
      highest (productsFusion b) (fun ap => (algo.gProductsFusion ap).enable)
        fun ap => kind.dr (algo.gProductsFusion ap) := by
  have found (dr : AlgoProduct → Nat) :
      arbitrate ((productsFusion b).map algo.gProductsFusion) dr =
        highest (productsFusion b) (fun ap => (algo.gProductsFusion ap).enable)
          fun ap => dr (algo.gProductsFusion ap) := by
    rw [arbitrate, foldl_highest, Nat.zero_max, highest_map]
    rfl
  cases kind
  · exact found AlgoProduct.drA
  · exact found AlgoProduct.drM

end Algo

end VibeXperia.Proof.Sensord

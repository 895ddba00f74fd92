import VibeXperia.Sensord.Hw

namespace VibeXperia.Sensord
open Lib

/-! ## `algo_adapter.c` and `sensor_fusion.c` -/

/-- `ALGO_MODULE_ID_*` -/
inductive AlgoModuleId
  | acc | mag | cmp | vla | m4g | gestFlip
  deriving DecidableEq, Repr

structure AlgoModule where
  opMode : Int
  ref : Int
  deriving DecidableEq, Repr

structure AlgoProduct where
  enable : Bool
  bypassProc : Bool
  drA : Nat
  drM : Nat
  drG : Nat
  drAccMin : Nat
  drAccMax : Nat
  drMagMin : Nat
  drMagMax : Nat
  drGyroMin : Nat
  drGyroMax : Nat
  deriving DecidableEq, Repr

/-- The variables of the two files. A product is known by its type. -/
structure Algo where
  gProductsFusion : Sensor → AlgoProduct
  gAlgoModules : AlgoModuleId → AlgoModule
  gDrA : Nat
  gDrM : Nat
  gDrG : Nat
  /-- `g_p_hw_a` points to the accelerometer. -/
  gPHwA : Bool
  gActiveHws : HwDepSet
  gLastValueGestFlip : Int
  gRefHwA : Int
  gRefHwM : Int

section Adapter
variable (b : Build)

/-- The entries of `g_algo_modules`. -/
def algoModules : List AlgoModuleId :=
  [.acc, .mag, .cmp] ++
    (if b.sptSensor .vg || b.sptSensor .vla then [.vla] else []) ++
    (if b.sptSensor .g && b.cfgSensorGEmu || b.sptSensor .vrv then [.m4g] else []) ++
    (if b.sptSensor .gestFlip && b.algoSptGestFlip then [.gestFlip] else [])

/-- The entries of `g_products_fusion`. -/
def productsFusion : List Sensor :=
  [.a, .g, .m, .o, .vg, .vla, .vrv, .gestFlip].filter b.sptSensor

def fusionGetProduct (type : Nat) : Option Sensor :=
  (productsFusion b).find? fun ap => type == ap.type

def algoGetMod (id : AlgoModuleId) : Option AlgoModuleId := (algoModules b).find? (· == id)

/-! ### Modules -/

/-- `mod->enable(mod, enable)`, without the calls of the algorithm library -/
def AlgoModule.setEnable (mod : AlgoModule) (enable : Bool) : AlgoModule :=
  { mod with opMode := signed 3 (if enable then 1 else 0) }

def algoModRefChange (mod : AlgoModule) (updown : Bool) : AlgoModule :=
  if updown then
    let mod := { mod with ref := signed 5 (mod.ref + 1) }
    if mod.ref = 1 then mod.setEnable true else mod
  else
    let mod := if mod.ref = 1 then mod.setEnable false else mod
    if 0 < mod.ref then { mod with ref := signed 5 (mod.ref - 1) } else mod

def algoModEnable (id : AlgoModuleId) (enable : Bool) (algo : Algo) : Algo :=
  match algoGetMod b id with
  | none => algo
  | some mod =>
      { algo with
        gAlgoModules := Function.update algo.gAlgoModules mod
          (algoModRefChange (algo.gAlgoModules mod) enable) }

def algoUpdateModDep (ap : Sensor) (enable : Bool) (algo : Algo) : Algo :=
  if (algo.gProductsFusion ap).bypassProc then algo
  else
    match ap with
    | .a => algoModEnable b .acc enable algo
    | .m => algoModEnable b .mag enable algo
    | .g =>
        algoModEnable b .m4g enable (algoModEnable b .mag enable (algoModEnable b .acc enable algo))
    | .o =>
        algoModEnable b .cmp enable (algoModEnable b .mag enable (algoModEnable b .acc enable algo))
    | .vg => algoModEnable b .vla enable (algoModEnable b .acc enable algo)
    | .vla => algoModEnable b .vla enable (algoModEnable b .acc enable algo)
    | .vrv =>
        algoModEnable b .m4g enable (algoModEnable b .mag enable (algoModEnable b .acc enable algo))
    | .gestFlip =>
        let algo := algoModEnable b .gestFlip enable (algoModEnable b .acc enable algo)
        if enable then { algo with gLastValueGestFlip := -1 } else algo
    | .p => algo

/-! ### Hardware -/

/-- One of the counts of `algo_update_hw_ref`. -/
def hwRefChange (ref : Int) (enable : Bool) : Int :=
  if enable then ref + 1 else if 0 < ref then ref - 1 else ref

def algoUpdateHwRef (type : SensorHwType) (enable : Bool) (algo : Algo) : Algo :=
  match type with
  | .a => { algo with gRefHwA := hwRefChange algo.gRefHwA enable }
  | .m => { algo with gRefHwM := hwRefChange algo.gRefHwM enable }
  | _ => algo

def algoUpdateHwDep (ap : Sensor) (enable : Bool) (algo : Algo) : Algo :=
  match ap with
  | .a => algoUpdateHwRef .a enable algo
  | .m => algoUpdateHwRef .m enable algo
  | .g => algoUpdateHwRef .m enable (algoUpdateHwRef .a enable algo)
  | .o => algoUpdateHwRef .m enable (algoUpdateHwRef .a enable algo)
  | .vg => algoUpdateHwRef .a enable algo
  | .vla => algoUpdateHwRef .a enable algo
  | .vrv => algoUpdateHwRef .m enable (algoUpdateHwRef .a enable algo)
  | .gestFlip => algoUpdateHwRef .a enable algo
  | .p => algo

def algoGetCurrHwDep (algo : Algo) : HwDepSet :=
  (if 0 < algo.gRefHwA then depMask .a else 0) ||| (if 0 < algo.gRefHwM then depMask .m else 0)

/-! ### Data rates -/

def gTabIntvl : List Int := [1000, 200, 100, 50, 40, 20, 10, 5]

def gTabRefBw : List Nat := [0, 0, 0, 1, 1, 2, 3, 4]

def gTabHz : List Int := gTabIntvl.map (1000 / ·)

def regulate (dr low high : Nat) : Nat :=
  let dr := if dr < low then low else dr
  if high < dr then high else dr

def AlgoProduct.regulateDr (ap : AlgoProduct) : AlgoProduct :=
  { ap with
    drA := regulate ap.drA ap.drAccMin ap.drAccMax
    drM := regulate ap.drM ap.drMagMin ap.drMagMax
    drG := regulate ap.drG ap.drGyroMin ap.drGyroMax }

def updateProduct (algo : Algo) (ap : Sensor) (change : AlgoProduct → AlgoProduct) : Algo :=
  { algo with
    gProductsFusion := Function.update algo.gProductsFusion ap (change (algo.gProductsFusion ap)) }

/-- The highest rate of the enabled products. -/
def arbitrate (products : List AlgoProduct) (dr : AlgoProduct → Nat) : Nat :=
  products.foldl (fun highest ap => if ap.enable && highest < dr ap then dr ap else highest) 0

def fusionArbitrateDr (algo : Algo) : Algo :=
  let products := (productsFusion b).map algo.gProductsFusion
  { algo with
    gDrA := arbitrate products AlgoProduct.drA
    gDrM := arbitrate products AlgoProduct.drM
    gDrG := arbitrate products AlgoProduct.drG }

def algoEnableProduct (ap : Sensor) (enable : Bool) (algo : Algo) : Algo :=
  let algo := algoUpdateHwDep ap enable (algoUpdateModDep b ap enable algo)
  fusionArbitrateDr b (updateProduct algo ap AlgoProduct.regulateDr)

def algoHz2dataRate (hz : Int) : Nat :=
  match gTabHz.findIdx? (hz ≤ ·) with
  | some i => i
  | none => gTabHz.length - 1

/-- The rates that `algo_on_interval_changed` sets for a type. -/
def AlgoProduct.setDr (type : Sensor) (dr : Nat) (ap : AlgoProduct) : AlgoProduct :=
  match type with
  | .a | .vg | .vla | .gestFlip => { ap with drA := dr }
  | .m => { ap with drM := dr }
  | .o | .g | .vrv => { ap with drA := dr, drM := dr }
  | .p => ap

/-- The settings that `algo_on_hw_dep_checked` and `algo_on_interval_changed` end with. -/
def algoProgramHwA (calls : HwCalls) (algo : Algo) (table : HwTable) : HwTable :=
  if depBit algo.gActiveHws .a && algo.gPHwA then
    let withBw := (hwAccSetBandwidth calls (table .a) (gTabRefBw.getD algo.gDrA 0)).2
    Function.update table .a (hwAccSetDelay calls withBw (gTabIntvl.getD algo.gDrA 0)).2
  else table

/-- The results are `*itvl` and what is left of the algorithm and of the hardware. -/
def algoOnIntervalChanged (calls : HwCalls) (ap : Sensor) (itvl : Int) (algo : Algo)
    (table : HwTable) : Int × Algo × HwTable :=
  if itvl ≤ 0 then (itvl, algo, table)
  else
    let interval := getNearestDivisibleInt 1000 itvl.toNat
    let dr := algoHz2dataRate (1000 / interval)
    let algo := fusionArbitrateDr b
      (updateProduct algo ap fun product => (product.setDr ap dr).regulateDr)
    (interval, algo, algoProgramHwA calls algo table)

def algoModIsEnabled (id : AlgoModuleId) (algo : Algo) : Bool :=
  match algoGetMod b id with
  | some mod => (algo.gAlgoModules mod).opMode != 0
  | none => false

def algoGetHintInterval (algo : Algo) : Int :=
  let intvA := gTabIntvl.getD algo.gDrA 0
  let intvM := gTabIntvl.getD algo.gDrM 0
  let ret := if algoModIsEnabled b .acc algo then getMaxCommDiv 1000 intvA else 1000
  if algoModIsEnabled b .mag algo then getMaxCommDiv ret intvM else ret

/-! ### Start -/

/-- `algo_products_init` for one product. -/
def algoProductInit (ap : Sensor) (product : AlgoProduct) : AlgoProduct :=
  match ap with
  | .a => { product with drAccMin := 1, drAccMax := 6 }
  | .m => { product with drMagMin := 2, drMagMax := 2 }
  | .g | .vrv => { product with drAccMin := 5, drAccMax := 5, drMagMin := 5, drMagMax := 5 }
  | .o => { product with drAccMin := 2, drAccMax := 5, drMagMin := 2, drMagMax := 2 }
  | .vg | .vla | .gestFlip => { product with drAccMin := 2, drAccMax := 6 }
  | .p => product

def algoAdapterInit (table : HwTable) (algo : Algo) : Algo :=
  let reset := (algoModules b).foldl (fun modules id =>
    Function.update modules id (AlgoModule.setEnable ⟨0, 0⟩ false)) algo.gAlgoModules
  let products := (productsFusion b).foldl (fun products ap =>
    Function.update products ap (algoProductInit ap (products ap))) algo.gProductsFusion
  { algo with
    gAlgoModules := reset
    gProductsFusion := products
    gPHwA := algo.gPHwA || (hwGetHwById b table .a).isSome }

/-- `algo_init_bst` with the results of `algo_bst_set_hwid` and `algo_init_cust` -/
def algoInitBst (setHwidErr initCustErr : Int) (table : HwTable) (algo : Algo) : Int × Algo :=
  if setHwidErr ≠ 0 then (setHwidErr, algo)
  else (initCustErr, algoAdapterInit b table algo)

/-- `fusion_init` keeps `bypass_proc`. -/
def fusionInit (setHwidErr initCustErr : Int) (table : HwTable) (algo : Algo) : Int × Algo :=
  let products := (productsFusion b).foldl (fun products ap =>
    Function.update products ap
      ⟨false, (products ap).bypassProc, 0, 0, 0, 0, 0, 0, 0, 0, 0⟩) algo.gProductsFusion
  algoInitBst b setHwidErr initCustErr table { algo with gProductsFusion := products }

end Adapter

end VibeXperia.Sensord

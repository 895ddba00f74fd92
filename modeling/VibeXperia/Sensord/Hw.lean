import VibeXperia.Sensord.Sensors

namespace VibeXperia.Sensord
open Lib

/-- What the driver answers to the calls that are made while one channel is handled. -/
structure HwCalls where
  /-- `hw->enable(hw, on)` -/
  enable : SensorHwType → Bool → Int
  /-- `hw->restore_cfg(hw)`, zero where a driver has none -/
  restoreCfg : SensorHwType → Int
  /-- The write to the bandwidth node of the accelerometer. -/
  writeBw : Int
  /-- The write to the delay node of the accelerometer. -/
  writeDelay : Int

/-- The driver of the hardware answers no call with an error. -/
structure Fine (calls : HwCalls) (hw : SensorHwType) : Prop where
  enable : ∀ on, calls.enable hw on = 0
  restoreCfg : calls.restoreCfg hw = 0

/-- A write to one of the nodes of the accelerometer's driver, with the answer. -/
inductive AccWrite
  | bw (value : Nat) (err : Int)
  | delay (itvl : Int) (err : Int)
  deriving DecidableEq, Repr

structure SensorHw where
  available : Bool
  ref : Int
  enabled : Bool
  delay : Int
  /-- The field `bw` of `struct sensor_hw_a`. -/
  bw : Nat
  /-- What was written to its nodes, in this order. -/
  writes : List AccWrite
  deriving DecidableEq, Repr

abbrev HwTable := SensorHwType → SensorHw

section HwCntl
variable (b : Build) (calls : HwCalls)

/-- Of `g_list_hw` only these may be compiled in. -/
def gListHw : List SensorHwType := [.a, .g, .m].filter b.sptSensorHw

def hwGetHwById (table : HwTable) (hwId : SensorHwType) : Option SensorHwType :=
  (gListHw b).find? fun hw => hw == hwId && (table hw).available

/-- The locked part of `hw_ref_up`. -/
def SensorHw.refUp (hw : SensorHwType) (h : SensorHw) : Int × SensorHw :=
  let raised := { h with ref := signed 8 (h.ref + 1) }
  if raised.ref = 1 then
    let err := calls.enable hw true
    if err ≠ 0 then (err, raised)
    else (calls.restoreCfg hw, { raised with enabled := true })
  else (0, raised)

/-- The locked part of `hw_ref_down`. -/
def SensorHw.refDown (hw : SensorHwType) (h : SensorHw) : Int × SensorHw :=
  let err := if h.ref = 1 then calls.enable hw false else 0
  (err, { h with
    enabled := if h.ref = 1 && err = 0 then false else h.enabled
    ref := if 0 < h.ref then signed 8 (h.ref - 1) else h.ref })

def hwRefUp (table : HwTable) (hwId : SensorHwType) : Int × HwTable :=
  match hwGetHwById b table hwId with
  | none => (-enodev, table)
  | some hw =>
      let up := SensorHw.refUp calls hw (table hw)
      (up.1, Function.update table hw up.2)

def hwRefDown (table : HwTable) (hwId : SensorHwType) : Int × HwTable :=
  match hwGetHwById b table hwId with
  | none => (-enodev, table)
  | some hw =>
      let down := SensorHw.refDown calls hw (table hw)
      (down.1, Function.update table hw down.2)

/-! ## The accelerometer's settings -/

/-- `map_a_bw`: the entries after the fifth are zero. -/
def mapABw : List (Nat × Nat) :=
  [(0, 0x08), (1, 0x09), (2, 0x0a), (3, 0x0b), (4, 0x0c), (0, 0), (0, 0), (0, 0), (0, 0)]

/-- `HW_A_BW_INVALID` in the twelve bits of `bw`. -/
def hwABwInvalid : Nat := 4095

def hwAccSetBandwidth (h : SensorHw) (bw : Nat) : Int × SensorHw :=
  if bw = h.bw then (0, h)
  else
    match mapABw.lookup bw with
    | some value =>
        let h := { h with writes := h.writes ++ [.bw value calls.writeBw] }
        (calls.writeBw, if calls.writeBw = 0 then { h with bw } else h)
    | none => (-einval, h)

def hwAccSetDelay (h : SensorHw) (delay : Int) : Int × SensorHw :=
  let h := { h with writes := h.writes ++ [.delay delay calls.writeDelay] }
  (calls.writeDelay, if calls.writeDelay = 0 then { h with delay := signed 10 delay } else h)

/-! ## Start -/

/-- What `hw_cntl_init` does to one driver whose `init` returns `err`. -/
def hwInit (err : Int) (hw : SensorHwType) (h : SensorHw) : SensorHw :=
  { h with
    available := err = 0
    ref := 0
    bw := if hw = .a then hwABwInvalid else h.bw }

def hwCntlInit (initErr : SensorHwType → Int) (table : HwTable) : HwTable :=
  (gListHw b).foldl
    (fun table hw => Function.update table hw (hwInit (initErr hw) hw (table hw))) table

end HwCntl

end VibeXperia.Sensord

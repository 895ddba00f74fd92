import Mathlib.Data.List.Basic
import VibeXperia.Lib.Counting

namespace VibeXperia.Sensord

/-! ## Channels and hardware -/

/-- The channels of `channels.c`, in the order of its table. -/
inductive Sensor
  | a | g | m | o | p | vg | vla | vrv | gestFlip
  deriving DecidableEq, Repr

def Sensor.all : List Sensor := [.a, .g, .m, .o, .p, .vg, .vla, .vrv, .gestFlip]

/-- `SENSOR_TYPE_*` -/
def Sensor.type : Sensor → Nat
  | .a => 1
  | .m => 2
  | .o => 3
  | .g => 4
  | .p => 6
  | .vg => 9
  | .vla => 10
  | .vrv => 11
  | .gestFlip => 24

/-- `SENSOR_HANDLE_*` -/
def Sensor.handle : Sensor → Int
  | .a => 1
  | .m => 2
  | .o => 3
  | .g => 4
  | .p => 6
  | .vg => 9
  | .vla => 10
  | .vrv => 11
  | .gestFlip => 13

/-- `SENSOR_HW_TYPE_*` -/
inductive SensorHwType
  | a | d | g | l | m | p | t
  deriving DecidableEq, Repr

def SensorHwType.all : List SensorHwType := [.a, .d, .g, .l, .m, .p, .t]

def SensorHwType.index : SensorHwType → Nat
  | .a => 0
  | .d => 1
  | .g => 2
  | .l => 3
  | .m => 4
  | .p => 5
  | .t => 6

abbrev HwDepSet := BitVec 16

/-- `(dep >> hw) & 0x01` -/
def depBit (dep : HwDepSet) (hw : SensorHwType) : Bool := dep.getLsbD hw.index

/-- `1 << hw` -/
def depMask (hw : SensorHwType) : HwDepSet := BitVec.twoPow 16 hw.index

/-- The sensor providers, known by their names. -/
inductive ProviderName
  | spFusion | spPressure
  deriving DecidableEq, Repr

inductive Availability
  | unavailable | available | virtual
  deriving DecidableEq, Repr

structure ChannelCfg where
  spName : ProviderName
  availability : Availability
  noDelay : Bool
  bypassProc : Bool
  intervalMin : Int
  intervalMax : Int
  deriving DecidableEq, Repr

inductive ChannelState
  | sleep | normal | bg
  deriving DecidableEq, Repr

structure Channel where
  cfg : ChannelCfg
  prevState : ChannelState
  state : ChannelState
  interval : Int
  /-- The provider it is registered at. -/
  sp : Option ProviderName
  deriving DecidableEq, Repr

/-! ## What is compiled in -/

structure Build where
  sptSensor : Sensor → Bool
  sptSensorHw : SensorHwType → Bool
  cfgSensorGEmu : Bool
  cfgBypassProcChannelA : Bool
  algoSptGestFlip : Bool

section Tables
variable (b : Build)

def gListCh : List Sensor := Sensor.all.filter b.sptSensor

def channelGetCh (handle : Int) : Option Sensor :=
  (gListCh b).find? fun ch => handle == ch.handle

/-- The `cfg` of an entry of `g_list_ch`. -/
def chCfg (ch : Sensor) : ChannelCfg where
  spName := if ch = .p then .spPressure else .spFusion
  availability :=
    match ch with
    | .a | .m | .p => .available
    | .g => if b.cfgSensorGEmu then .virtual else .available
    | .o | .vg | .vla | .vrv | .gestFlip => .virtual
  noDelay := false
  bypassProc := ch = .a && b.cfgBypassProcChannelA
  intervalMin := 0
  intervalMax := 0

/-- `CFG_DELAY_*_MIN` and `CFG_DELAY_*_MAX` -/
def cfgDelay : Sensor → Int × Int
  | .a | .vg | .vla => (10, 200)
  | .m | .o => (50, 200)
  | .g => (if b.cfgSensorGEmu then 20 else 10, 200)
  | .p | .vrv => (20, 200)
  | .gestFlip => (100, 100)

/-- `set_cfg_misc` for one channel: flip gestures get their intervals from `channel_init_gest_flip`. -/
def setCfgMisc (ch : Sensor) (cfg : ChannelCfg) : ChannelCfg :=
  if ch = .gestFlip then cfg
  else { cfg with intervalMin := (cfgDelay b ch).1, intervalMax := (cfgDelay b ch).2 }

/-- `ch->init`: the functions `channel_init_*`. -/
def channelInitCfg (ch : Sensor) (cfg : ChannelCfg) : Int × ChannelCfg :=
  if ch = .gestFlip then
    (0, { cfg with
      intervalMin := (cfgDelay b ch).1, intervalMax := (cfgDelay b ch).2, noDelay := true })
  else (0, cfg)

end Tables

/-! ## Errors -/

def einval : Int := 22

def enodev : Int := 19

/-! ## `util_misc.c` -/

/-- The loop of `get_max_comm_div`, entered with positive `a` and `b`. -/
def getMaxCommDivLoop (a b : Nat) : Nat :=
  if a % b = 0 then b
  else if _ : b = 0 then b
  else getMaxCommDivLoop b (a % b)
termination_by b
decreasing_by exact Nat.mod_lt a (by omega)

def getMaxCommDiv (a b : Int) : Int :=
  if a = 0 then b
  else if b = 0 then a
  else getMaxCommDivLoop (max a.natAbs b.natAbs) (min a.natAbs b.natAbs)

/-- The loop of `get_max_comm_div` on its variables; nothing where there is no `a % b`. -/
def maxCommDivLoop : Nat → Int → Int → Option Int
  | 0, _, _ => none
  | fuel + 1, a, b =>
      if b = 0 then none
      else
        let mcd := b
        let r := a.tmod b
        if 0 ≠ r then maxCommDivLoop fuel b r else some mcd

def maxCommDiv (fuel : Nat) (a b : Int) : Option Int :=
  if 0 = a then some b
  else if 0 = b then some a
  else
    let a := if a < 0 then Lib.signed 32 (-a) else a
    let b := if b < 0 then Lib.signed 32 (-b) else b
    if a < b then maxCommDivLoop fuel b a else maxCommDivLoop fuel a b

/-- The loop of `get_nearest_divisible_int`, down from `ret`. -/
def nearestDivisor (a : Nat) : Nat → Nat
  | 0 => 0
  | ret + 1 => if a % (ret + 1) = 0 then ret + 1 else nearestDivisor a ret

def getNearestDivisibleInt (a b : Nat) : Int :=
  if b = 0 then -1
  else if a = 0 then b
  else if a ≤ b then a
  else nearestDivisor a b

end VibeXperia.Sensord

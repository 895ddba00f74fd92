import VibeXperia.Sensord.Channel

namespace VibeXperia.Sensord
open Lib

/-! ## What a channel needs -/

/-- The modules of the algorithm that compute the data of a channel. -/
def Sensor.moduleDep : Sensor → List AlgoModuleId
  | .a => [.acc]
  | .m => [.mag]
  | .o => [.acc, .mag, .cmp]
  | .g | .vrv => [.acc, .mag, .m4g]
  | .vg | .vla => [.acc, .vla]
  | .gestFlip => [.acc, .gestFlip]
  | .p => []

/-- `CFG_HW_DEP_*` -/
def Sensor.hwDep : Sensor → List SensorHwType
  | .a | .vg | .vla | .gestFlip => [.a]
  | .m => [.m]
  | .g | .o | .vrv => [.a, .m]
  | .p => [.p]

namespace Daemon
variable (b : Build) (s : Daemon)

/-! ## Who uses what now -/

def awake (ch : Sensor) : Bool := (s.channel ch).state != .sleep

def processed (ch : Sensor) : Bool := !(s.channel ch).cfg.bypassProc

def clientOf (sp : ProviderName) (ch : Sensor) : Bool := (s.channel ch).sp == some sp

/-- The channels that are not asleep and whose data a module computes. -/
def moduleUsers (id : AlgoModuleId) : Nat :=
  tally (gListCh b) s.awake fun ch => s.processed ch && ch.moduleDep.contains id

/-- The channels that are not asleep and need the hardware, also where their data is not
processed. -/
def hwUsers (hw : SensorHwType) : Nat :=
  tally (gListCh b) s.awake fun ch => ch.hwDep.contains hw

def processedUsers (sp : ProviderName) : Nat :=
  tally (gListCh b) s.awake fun ch => s.processed ch && s.clientOf sp ch

/-- Some channel of the provider is not asleep and needs the hardware. -/
def needs (sp : ProviderName) (hw : SensorHwType) : Bool :=
  (gListCh b).any fun ch => s.awake ch && s.clientOf sp ch && ch.hwDep.contains hw

/-- There is a driver for the hardware, and its initialisation succeeded. -/
def hasDriver (hw : SensorHwType) : Bool := (hwGetHwById b s.hw hw).isSome

end Daemon

/-! ## What the counts say -/

structure RefsAgree (b : Build) (s : Daemon) : Prop where
  module : ∀ id ∈ algoModules b,
    (s.algo.gAlgoModules id).ref = s.moduleUsers b id ∧
      ((s.algo.gAlgoModules id).opMode ≠ 0 ↔ 0 < (s.algo.gAlgoModules id).ref)
  gRefHwA : s.algo.gRefHwA = s.hwUsers b .a
  gRefHwM : s.algo.gRefHwM = s.hwUsers b .m
  provider : ∀ sp, (s.sp sp).ref = s.processedUsers b sp

/-- Hardware that has a driver is depended on and enabled for those that need it. -/
structure HwAgrees (b : Build) (s : Daemon) (hw : SensorHwType) : Prop where
  currHwDep : ∀ sp, depBit (s.sp sp).currHwDep hw = (s.hasDriver b hw && s.needs b sp hw)
  enabled : (s.hw hw).enabled = true ↔ s.hasDriver b hw = true ∧ ∃ sp, s.needs b sp hw = true

end VibeXperia.Sensord

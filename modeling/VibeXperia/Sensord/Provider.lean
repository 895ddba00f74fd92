import VibeXperia.Sensord.Algo

namespace VibeXperia.Sensord
open Lib

structure SensorProvider where
  available : Bool
  clientNum : Nat
  ref : Int
  currHwDep : HwDepSet
  /-- The nodes from the head `clients` on. -/
  clients : List Sensor
  /-- `re.interval` -/
  interval : Nat
  deriving DecidableEq, Repr

structure Daemon where
  channel : Sensor → Channel
  sp : ProviderName → SensorProvider
  algo : Algo
  gEnableP : Bool
  hw : HwTable

namespace Daemon

def setChannel (s : Daemon) (ch : Sensor) (channel : Channel) : Daemon :=
  { s with channel := Function.update s.channel ch channel }

def setSp (s : Daemon) (name : ProviderName) (sp : SensorProvider) : Daemon :=
  { s with sp := Function.update s.sp name sp }

end Daemon

section SensorProvider
variable (b : Build)

def gListSp : List ProviderName :=
  if b.sptSensor .p then [.spFusion, .spPressure] else [.spFusion]

/-- The types in the bitmap `sensors` of a provider. -/
def ProviderName.sensors : ProviderName → List Nat
  | .spFusion => [.a, .g, .m, .o, .vg, .vla, .vrv, .gestFlip].map Sensor.type
  | .spPressure => [Sensor.p.type]

def spScanForProvider (ch : Sensor) (cfg : ChannelCfg) : Option ProviderName :=
  (gListSp b).find? fun sp => sp.sensors.contains ch.type && cfg.spName == sp

/-! ## What the providers do for `sensor_provider.c` -/

def fusionOnChEnabled (ch : Sensor) (enable : Bool) (s : Daemon) : Daemon :=
  match fusionGetProduct b ch.type with
  | some ap =>
      let algo := updateProduct s.algo ap fun product =>
        { product with enable, bypassProc := (s.channel ch).cfg.bypassProc }
      { s with algo := algoEnableProduct b ap enable algo }
  | none => s

def ProviderName.onChEnabled (sp : ProviderName) (ch : Sensor) (enable : Bool) (s : Daemon) :
    Daemon :=
  match sp with
  | .spFusion => fusionOnChEnabled b ch enable s
  | .spPressure => { s with gEnableP := enable }

def fusionOnChIntervalChanged (calls : HwCalls) (ch : Sensor) (interval : Int) (s : Daemon) :
    Daemon :=
  match fusionGetProduct b ch.type with
  | some ap =>
      let changed := algoOnIntervalChanged b calls ap interval s.algo s.hw
      { s with algo := changed.2.1, hw := changed.2.2 }.setChannel ch
        { s.channel ch with interval := signed 16 changed.1 }
  | none => s.setChannel ch { s.channel ch with interval := signed 16 interval }

def ProviderName.onChIntervalChanged (sp : ProviderName) (calls : HwCalls) (ch : Sensor)
    (interval : Int) (s : Daemon) : Daemon :=
  match sp with
  | .spFusion => fusionOnChIntervalChanged b calls ch interval s
  | .spPressure => s.setChannel ch { s.channel ch with interval := signed 16 interval }

def ProviderName.getCurrHwDep (sp : ProviderName) (s : Daemon) : HwDepSet :=
  match sp with
  | .spFusion => algoGetCurrHwDep s.algo
  | .spPressure => if s.gEnableP then depMask .p else 0

def ProviderName.getHintProcInterval (sp : ProviderName) (s : Daemon) : Option Int :=
  match sp with
  | .spFusion => some (algoGetHintInterval b s.algo)
  | .spPressure => none

def ProviderName.onHwDepChecked (sp : ProviderName) (calls : HwCalls) (s : Daemon) : Daemon :=
  match sp with
  | .spFusion =>
      let algo := { s.algo with gActiveHws := (s.sp .spFusion).currHwDep }
      { s with algo, hw := algoProgramHwA calls algo s.hw }
  | .spPressure => s

/-! ## `sensor_provider.c` -/

/-- The variables of the loop of `sp_re_check_dep_hw`. -/
structure DepCheck where
  newDepHw : HwDepSet
  hw : HwTable
  err : Int

def depCheckStep (calls : HwCalls) (changed : HwDepSet) (check : DepCheck) (i : SensorHwType) :
    DepCheck :=
  if depBit changed i then
    let called :=
      if depBit check.newDepHw i then hwRefUp b calls check.hw i else hwRefDown b calls check.hw i
    { newDepHw := if called.1 ≠ 0 then check.newDepHw ^^^ depMask i else check.newDepHw
      hw := called.2
      err := called.1 }
  else check

def spReCheckDepHw (calls : HwCalls) (sp : ProviderName) (s : Daemon) : Int × Daemon :=
  let newDepHw := sp.getCurrHwDep s
  let changed := newDepHw ^^^ (s.sp sp).currHwDep
  let check := SensorHwType.all.foldl (depCheckStep b calls changed) ⟨newDepHw, s.hw, 0⟩
  (check.err, { s with hw := check.hw }.setSp sp { s.sp sp with currHwDep := check.newDepHw })

def intvProcMin : Int := 5

def spRecalcIntervalRe (sp : ProviderName) (s : Daemon) : Daemon :=
  let interval :=
    match sp.getHintProcInterval b s with
    | some interval => interval
    | none => (s.sp sp).clients.foldl (fun val ch =>
        if (s.channel ch).state ≠ .sleep then getMaxCommDiv val (s.channel ch).interval else val)
        1000
  s.setSp sp { s.sp sp with interval := (max (interval % 2 ^ 16) intvProcMin).toNat }

/-- The changes to the list of clients in `sp_enable_ch`. -/
def enableClient (clients : List Sensor) (ch : Sensor) (enable : Bool) : List Sensor :=
  if enable then
    -- A node that is in the list already becomes the head as it is.
    if ch ∈ clients then clients.dropWhile (· ≠ ch) else ch :: clients
  else clients.erase ch

/-- The end of `sp_enable_ch`, where the provider also processes data. -/
def changeSpRef (ref : Int) (enable : Bool) : Int :=
  if enable then signed 6 (ref + 1) else if 0 < ref then signed 6 (ref - 1) else ref

def spEnableCh (calls : HwCalls) (sp : ProviderName) (ch : Sensor) (enable : Bool) (s : Daemon) :
    Daemon :=
  let s := s.setSp sp { s.sp sp with clients := enableClient (s.sp sp).clients ch enable }
  let s := sp.onChEnabled b ch enable s
  let s := (spReCheckDepHw b calls sp s).2
  let s := sp.onHwDepChecked calls s
  let s := spRecalcIntervalRe b sp s
  if (s.channel ch).cfg.bypassProc then s
  else s.setSp sp { s.sp sp with ref := changeSpRef (s.sp sp).ref enable }

end SensorProvider

end VibeXperia.Sensord

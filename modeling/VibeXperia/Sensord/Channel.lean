import VibeXperia.Sensord.Provider

namespace VibeXperia.Sensord
open Lib

section ChannelCntl
variable (b : Build)

/-! ## Start -/

/-- The variables before `main`, with the intervals from `sensor_cfg_init`. -/
def statics : Daemon where
  channel ch :=
    { cfg := setCfgMisc b ch (chCfg b ch), prevState := .sleep, state := .sleep, interval := 0,
      sp := none }
  sp _ := ⟨false, 0, 0, 0, [], 0⟩
  algo :=
    { gProductsFusion := fun _ => ⟨false, false, 0, 0, 0, 0, 0, 0, 0, 0, 0⟩
      gAlgoModules := fun _ => ⟨0, 0⟩
      gDrA := 0
      gDrM := 0
      gDrG := 0
      gPHwA := false
      gActiveHws := 0
      gLastValueGestFlip := -1
      gRefHwA := 0
      gRefHwM := 0 }
  gEnableP := false
  hw _ := ⟨false, 0, false, 0, 0, []⟩

/-- What the initialisation of drivers and of providers returns. -/
structure InitErrs where
  hw : SensorHwType → Int
  algoBstSetHwid : Int
  algoInitCust : Int
  spInitP : Int

def channelInitOne (s : Daemon) (ch : Sensor) : Daemon :=
  let c := s.channel ch
  let fresh := { c with state := .sleep, prevState := .sleep, interval := 200 }
  if c.cfg.availability = .unavailable then s.setChannel ch fresh
  else
    let init := channelInitCfg b ch c.cfg
    s.setChannel ch { fresh with
      cfg := if init.1 ≠ 0 then { init.2 with availability := .unavailable } else init.2 }

def channelInit (s : Daemon) : Daemon := (gListCh b).foldl (channelInitOne b) s

/-- `sp->init(sp)` -/
def ProviderName.init (sp : ProviderName) (errs : InitErrs) (s : Daemon) : Int × Daemon :=
  match sp with
  | .spFusion =>
      let init := fusionInit b errs.algoBstSetHwid errs.algoInitCust s.hw s.algo
      (init.1, { s with algo := init.2 })
  | .spPressure => (errs.spInitP, s)

def spPreinitOne (errs : InitErrs) (s : Daemon) (sp : ProviderName) : Daemon :=
  let s := s.setSp sp ⟨false, 0, 0, 0, [], 1000⟩
  let init := sp.init b errs s
  if init.1 ≠ 0 then init.2 else init.2.setSp sp { init.2.sp sp with available := true }

def spPreinit (errs : InitErrs) (s : Daemon) : Daemon :=
  (gListSp b).foldl (spPreinitOne b errs) s

def spRegisterCh (sp : ProviderName) (ch : Sensor) (s : Daemon) : Daemon :=
  (s.setSp sp { s.sp sp with clientNum := ((s.sp sp).clientNum + 1) % 2 ^ 6 }).setChannel ch
    { s.channel ch with sp := some sp }

def makeUnavailable (ch : Sensor) (s : Daemon) : Daemon :=
  s.setChannel ch
    { s.channel ch with cfg := { (s.channel ch).cfg with availability := .unavailable } }

def channelSubscribeOne (s : Daemon) (ch : Sensor) : Daemon :=
  if (s.channel ch).cfg.availability = .unavailable then s
  else
    match spScanForProvider b ch (s.channel ch).cfg with
    | none => makeUnavailable ch s
    | some sp => if (s.sp sp).available then spRegisterCh sp ch s else makeUnavailable ch s

def channelSubscribe2sp (s : Daemon) : Daemon := (gListCh b).foldl (channelSubscribeOne b) s

def spInitOne (s : Daemon) (sp : ProviderName) : Daemon :=
  if (s.sp sp).clientNum = 0 then s.setSp sp { s.sp sp with available := false } else s

def spInit (s : Daemon) : Daemon := (gListSp b).foldl spInitOne s

/-- `hw_cntl_init` and `channel_cntl_init` -/
def start (errs : InitErrs) : Daemon :=
  let s := { statics b with hw := hwCntlInit b errs.hw (statics b).hw }
  spInit b (channelSubscribe2sp b (spPreinit b errs (channelInit b s)))

/-- The options of this device. -/
def nicki : Build where
  sptSensor ch := ch = .a || ch = .m || ch = .o
  sptSensorHw hw := hw = .a || hw = .m
  cfgSensorGEmu := true
  cfgBypassProcChannelA := true
  algoSptGestFlip := true

/-! ## Commands -/

/-- A channel that commands reach has a provider. -/
def channelSetState (calls : HwCalls) (ch : Sensor) (state : ChannelState) (s : Daemon) :
    Daemon :=
  match (s.channel ch).sp with
  | none => s
  | some sp =>
      let s : Daemon :=
        match state with
        | .sleep =>
            if (s.channel ch).state ≠ .sleep then spEnableCh b calls sp ch false s else s
        | .normal | .bg =>
            if (s.channel ch).state = .sleep then spEnableCh b calls sp ch true s else s
      s.setChannel ch { s.channel ch with prevState := (s.channel ch).state, state }

def sampleIntervalMin : Int := 0

def channelSetDelay (calls : HwCalls) (ch : Sensor) (value : Int) (s : Daemon) : Int × Daemon :=
  match (s.channel ch).sp with
  | none => (0, s)
  | some sp =>
      if value < sampleIntervalMin then (-einval, s)
      else
        let cfg := (s.channel ch).cfg
        let value := if value < cfg.intervalMin then cfg.intervalMin else value
        let value := if cfg.intervalMax < value then cfg.intervalMax else value
        (0, spRecalcIntervalRe b sp (sp.onChIntervalChanged b calls ch value s))

def setSensorActive : Int := 1

def setSensorDelay : Int := 2

def channelOnCmdReceived (calls : Sensor → HwCalls) (handle cmd value : Int) (s : Daemon) :
    Int × Daemon :=
  match channelGetCh b handle with
  | none => (-1, s)
  | some ch =>
      if (s.channel ch).cfg.availability = .unavailable then (-1, s)
      else if cmd = setSensorActive then
        (0, channelSetState b (calls ch) ch (if value ≠ 0 then .normal else .sleep) s)
      else if cmd = setSensorDelay then channelSetDelay b (calls ch) ch value s
      else (-einval, s)

/-- `channel_on_display_state_change` for one channel, none of which is the proximity sensor. -/
def channelOnDisplay (calls : Sensor → HwCalls) (on : Bool) (s : Daemon) (ch : Sensor) :
    Daemon :=
  if (s.channel ch).cfg.availability = .unavailable then s
  else channelSetState b (calls ch) ch (if on then (s.channel ch).prevState else .sleep) s

def channelOnDisplayStateChange (calls : Sensor → HwCalls) (on : Bool) (s : Daemon) : Daemon :=
  (gListCh b).foldl (channelOnDisplay b calls on) s

inductive Command
  | cmd (handle cmd value : Int)
  | display (on : Bool)
  deriving DecidableEq, Repr

/-- A command, and what drivers answer while it handles a channel. -/
structure Event where
  command : Command
  calls : Sensor → HwCalls

/-- The result of a command is put out. -/
def step (s : Daemon) (e : Event) : Daemon × List Int :=
  match e.command with
  | .cmd handle cmd value =>
      let handled := channelOnCmdReceived b e.calls handle cmd value s
      (handled.2, [handled.1])
  | .display on => (channelOnDisplayStateChange b e.calls on s, [])

end ChannelCntl

end VibeXperia.Sensord

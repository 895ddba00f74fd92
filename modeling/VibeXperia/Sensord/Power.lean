import VibeXperia.Sensord.Agreement
import VibeXperia.Lib.Run

namespace VibeXperia.Sensord
open Lib

/-! ## The calls of `hw->enable` in a dependency check -/

inductive PowerEffect
  | checked (sp : ProviderName) (newDepHw : HwDepSet)
  | enableCalled (hw : SensorHwType) (on : Bool) (err : Int)
  deriving DecidableEq, Repr

section Effects
variable (b : Build) (calls : HwCalls)

def SensorHw.refUpEffects (hw : SensorHwType) (h : SensorHw) : List PowerEffect :=
  if signed 8 (h.ref + 1) = 1 then [.enableCalled hw true (calls.enable hw true)] else []

def SensorHw.refDownEffects (hw : SensorHwType) (h : SensorHw) : List PowerEffect :=
  if h.ref = 1 then [.enableCalled hw false (calls.enable hw false)] else []

def depCheckEffects (changed : HwDepSet) (check : DepCheck) (i : SensorHwType) :
    List PowerEffect :=
  if depBit changed i && (hwGetHwById b check.hw i).isSome then
    if depBit check.newDepHw i then SensorHw.refUpEffects calls i (check.hw i)
    else SensorHw.refDownEffects calls i (check.hw i)
  else []

def depCheckLog (changed : HwDepSet) : List SensorHwType → DepCheck → List PowerEffect
  | [], _ => []
  | i :: rest, check =>
      depCheckEffects b calls changed check i ++
        depCheckLog changed rest (depCheckStep b calls changed check i)

def spReCheckEffects (sp : ProviderName) (s : Daemon) : List PowerEffect :=
  let newDepHw := sp.getCurrHwDep s
  .checked sp newDepHw ::
    depCheckLog b calls (newDepHw ^^^ (s.sp sp).currHwDep) SensorHwType.all ⟨newDepHw, s.hw, 0⟩

def spEnableChEffects (sp : ProviderName) (ch : Sensor) (enable : Bool) (s : Daemon) :
    List PowerEffect :=
  let s := s.setSp sp { s.sp sp with clients := enableClient (s.sp sp).clients ch enable }
  spReCheckEffects b calls sp (sp.onChEnabled b ch enable s)

def channelSetStateEffects (ch : Sensor) (state : ChannelState) (s : Daemon) : List PowerEffect :=
  match (s.channel ch).sp with
  | none => []
  | some sp =>
      match state with
      | .sleep =>
          if (s.channel ch).state ≠ .sleep then spEnableChEffects b calls sp ch false s else []
      | .normal | .bg =>
          if (s.channel ch).state = .sleep then spEnableChEffects b calls sp ch true s else []

end Effects

/-! ## Commands, one channel at a time -/

inductive ChannelEvent
  | setState (ch : Sensor) (state : ChannelState) (calls : HwCalls)
  | setDelay (ch : Sensor) (value : Int) (calls : HwCalls)

section Handle
variable (b : Build)

def handle (s : Daemon) : ChannelEvent → Daemon × List PowerEffect
  | .setState ch state calls =>
      (channelSetState b calls ch state s, channelSetStateEffects b calls ch state s)
  | .setDelay ch value calls => ((channelSetDelay b calls ch value s).2, [])

def displayParts (calls : Sensor → HwCalls) (on : Bool) :
    List Sensor → Daemon → List ChannelEvent
  | [], _ => []
  | ch :: rest, s =>
      let later := displayParts calls on rest (channelOnDisplay b calls on s ch)
      if (s.channel ch).cfg.availability = .unavailable then later
      else .setState ch (if on then (s.channel ch).prevState else .sleep) (calls ch) :: later

/-- What an event does to the channels, in the order of `step`. -/
def Event.parts (e : Event) (s : Daemon) : List ChannelEvent :=
  match e.command with
  | .cmd handle cmd value =>
      match channelGetCh b handle with
      | none => []
      | some ch =>
          if (s.channel ch).cfg.availability = .unavailable then []
          else if cmd = setSensorActive then
            [.setState ch (if value ≠ 0 then .normal else .sleep) (e.calls ch)]
          else if cmd = setSensorDelay then [.setDelay ch value (e.calls ch)]
          else []
  | .display on => displayParts b e.calls on (gListCh b) s

def parts : Daemon → List Event → List ChannelEvent
  | _, [] => []
  | s, e :: es => e.parts b s ++ parts (step b s e).1 es

end Handle

/-! ## Failures -/

abbrev PowerTransition := Transition Daemon ChannelEvent PowerEffect

namespace ChannelEvent

/-- The provider whose dependencies are checked. -/
def checks (e : ChannelEvent) (s : Daemon) : Option ProviderName :=
  match e with
  | .setState ch state _ => if s.awake ch = (state != .sleep) then none else (s.channel ch).sp
  | .setDelay .. => none

def awakeAfter (e : ChannelEvent) (s : Daemon) (ch : Sensor) : Bool :=
  match e with
  | .setState changed state _ => if ch = changed then state != .sleep else s.awake ch
  | .setDelay .. => s.awake ch

/-- Some channel of the provider needs the hardware once the event is handled. -/
def needsAfter (b : Build) (e : ChannelEvent) (s : Daemon) (sp : ProviderName)
    (hw : SensorHwType) : Bool :=
  (gListCh b).any fun ch => e.awakeAfter s ch && s.clientOf sp ch && ch.hwDep.contains hw

def calls : ChannelEvent → HwCalls
  | .setState _ _ calls | .setDelay _ _ calls => calls

/-- The driver does not fail where it is asked to switch the hardware. -/
def Answered (b : Build) (e : ChannelEvent) (s : Daemon) : Prop :=
  ∀ sp hw, e.checks s = some sp → s.hasDriver b hw = true →
    (e.needsAfter b s sp hw = true → depBit (s.sp sp).currHwDep hw = false →
      (s.hw hw).ref = 0 → e.calls.enable hw true = 0 ∧ e.calls.restoreCfg hw = 0) ∧
    (e.needsAfter b s sp hw = false → depBit (s.sp sp).currHwDep hw = true →
      (s.hw hw).ref = 1 → e.calls.enable hw false = 0)

/-- A check after which nobody needs hardware that is on gives it up as its last reference. -/
def GivesUp (b : Build) (e : ChannelEvent) (s : Daemon) : Prop :=
  ∀ sp hw, e.checks s = some sp → (s.hw hw).enabled = true →
    (∀ sp', e.needsAfter b s sp' hw = false) →
      (∃ other, other ≠ sp ∧ depBit (s.sp other).currHwDep hw = true) ∨
        depBit (s.sp sp).currHwDep hw = true ∧ (s.hw hw).ref = 1

end ChannelEvent

def Daemon.holders (s : Daemon) (hw : SensorHwType) : Nat :=
  [ProviderName.spFusion, .spPressure].countP fun sp => depBit (s.sp sp).currHwDep hw

structure PowerCounted (s : Daemon) : Prop where
  enabled : ∀ sp hw, depBit (s.sp sp).currHwDep hw = true → (s.hw hw).enabled = true
  ref : ∀ hw, (s.hw hw).ref = s.holders hw

def PoweredOff (b : Build) (s : Daemon) : Prop :=
  ∀ hw, (∀ sp, s.needs b sp hw = false) → (∀ sp, depBit (s.sp sp).currHwDep hw = false) →
    (s.hw hw).enabled = false

/-- In `u` a provider is checked that needs the hardware, or does not. -/
def ChecksFor (u : PowerTransition) (sp : ProviderName) (hw : SensorHwType) (wanted : Bool) :
    Prop :=
  ∃ dep, .checked sp dep ∈ u.outputs ∧ depBit dep hw = wanted

def Calls (u : PowerTransition) (hw : SensorHwType) (on : Bool) : Prop :=
  ∃ err, .enableCalled hw on err ∈ u.outputs

def Fails (u : PowerTransition) (hw : SensorHwType) (on : Bool) : Prop :=
  ∃ err, err ≠ 0 ∧ .enableCalled hw on err ∈ u.outputs

/-- Failures to power up leave the counts right and are made good. -/
structure PowersUp (ts : List PowerTransition) : Prop where
  counted : ∀ t ∈ ts, PowerCounted t.after
  again : ∀ hw before t between u after, ts = before ++ t :: (between ++ u :: after) →
    Fails t hw true → (∀ v ∈ between, ∀ sp, ¬ ChecksFor v sp hw true) →
      (∃ sp, ChecksFor u sp hw true) → Calls u hw true

/-- Failures to power down leave a bit set, and are made good. -/
structure PowersDown (b : Build) (ts : List PowerTransition) : Prop where
  off : ∀ t ∈ ts, PoweredOff b t.after
  held : ∀ hw sp before t between after, ts = before ++ t :: (between ++ after) →
    Fails t hw false → (∃ dep, .checked sp dep ∈ t.outputs) →
      (∀ v ∈ between, ∀ wanted, ¬ ChecksFor v sp hw wanted) →
        ∀ v ∈ t :: between, depBit (v.after.sp sp).currHwDep hw = true
  again : ∀ hw sp before t between u after, ts = before ++ t :: (between ++ u :: after) →
    Fails t hw false → (∃ dep, .checked sp dep ∈ t.outputs) →
      (∀ v ∈ between, ∀ wanted, ¬ ChecksFor v sp hw wanted) →
        ChecksFor u sp hw false → (u.before.hw hw).enabled = true →
          Calls u hw false ∧
            ((u.after.hw hw).enabled = true → depBit (u.after.sp sp).currHwDep hw = true)

end VibeXperia.Sensord

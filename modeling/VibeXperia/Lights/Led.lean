import Mathlib.Logic.Function.Basic
import VibeXperia.Lib.Format
import VibeXperia.Lib.Run

namespace VibeXperia.Lights
open Lib

/-! ## The commands of `fih_led` -/

inductive Led
  | red
  | green
  | blue
  deriving DecidableEq, Repr

def Led.id : Led → BitVec 32
  | .red => 0
  | .green => 1
  | .blue => 2

inductive LedCommand
  | brightness (level : BitVec 32)
  | steady (on : Bool)
  | blink (on : Bool)
  | timing (onMS offMS : BitVec 32)
  deriving DecidableEq, Repr

/-- `%d` -/
def printed (n : BitVec 32) : List Char := decimalText 0 n.toInt

def flag (on : Bool) : List Char := if on then ['1'] else ['0']

namespace LedCommand

def code : LedCommand → List Char
  | brightness _ => ['4']
  | steady _ => ['1']
  | blink _ => ['2']
  | timing .. => ['7']

def params : LedCommand → List (List Char)
  | brightness level => [printed level]
  | steady on | blink on => [flag on]
  | timing onMS offMS => [printed onMS, printed offMS]

/-- `"<cmd> <led_id> <params...>"`, and the end of the line. -/
def line (led : Led) (command : LedCommand) : List Char :=
  command.code ++ separated ' ' (printed led.id :: command.params) ++ ['\n']

/-- The parameters that the interface takes. -/
def Valid : LedCommand → Prop
  | brightness level => 0 ≤ level.toInt ∧ level.toInt ≤ 255
  | timing onMS offMS => 0 < onMS.toInt ∧ 0 < offMS.toInt
  | _ => True

end LedCommand

structure LedState where
  brightness : BitVec 32
  steady : Bool
  blink : Bool
  onMS : BitVec 32
  offMS : BitVec 32
  deriving DecidableEq, Repr

def LedState.after (s : LedState) : LedCommand → LedState
  | .brightness level => { s with brightness := level }
  | .steady on => { s with steady := on }
  | .blink on => { s with blink := on }
  | .timing onMS offMS => { s with onMS := onMS, offMS := offMS }

/-- The driver behind `LED_CONTROL_FILE`; `look` shows the LEDs. -/
structure LedDriver (κ : Type) where
  write : κ → List Char → κ
  look : κ → Led → LedState

/-- What `lights.cpp` says of the driver. -/
def LedDriver.Documented {κ : Type} (d : LedDriver κ) : Prop :=
  ∀ k led (command : LedCommand), command.Valid →
    d.look (d.write k (command.line led)) =
      Function.update (d.look k) led ((d.look k led).after command)

/-! ## `lights.cpp` -/

inductive FlashMode
  | none
  | timed
  | hardware
  deriving DecidableEq, Repr

structure LightState where
  color : BitVec 32
  flashMode : FlashMode
  flashOnMS : BitVec 32
  flashOffMS : BitVec 32
  deriving DecidableEq, Repr

/-- What is written to `LED_CONTROL_FILE`. -/
def ledCtl (cmd : List Char) : List Char :=
  let (line, n) := snprintf 72 (cmd ++ ['\n'])
  line.take n

/-- `snprintf` to `buf` with the format `"<cmd> %d ..."`, and `led_ctl` -/
def ledCtlBuf (cmd : Char) (params : List (List Char)) : List Char :=
  ledCtl (snprintf 64 ([cmd] ++ separated ' ' params)).1

/-- The lines that are written. -/
def setLedChannel (ledId brightness : BitVec 32) (blink : Bool) (onMS offMS : BitVec 32) :
    List (List Char) :=
  if brightness.toInt ≤ 0 then
    [ledCtlBuf '2' [printed ledId, ['0']], ledCtlBuf '1' [printed ledId, ['0']]]
  else
    ledCtlBuf '4' [printed ledId, printed brightness] ::
      if blink ∧ 0 < onMS.toInt ∧ 0 < offMS.toInt then
        [ledCtlBuf '7' [printed ledId, printed onMS, printed offMS],
          ledCtlBuf '2' [printed ledId, ['1']]]
      else [ledCtlBuf '2' [printed ledId, ['0']], ledCtlBuf '1' [printed ledId, ['1']]]

def lightsSetLightLed (state : LightState) : List (List Char) :=
  let color := state.color &&& 0x00ffffff
  let red := (color >>> 16) &&& 0xff
  let green := (color >>> 8) &&& 0xff
  let blue := color &&& 0xff
  let blink := state.flashMode = .timed ∨ state.flashMode = .hardware
  let onMS := if blink then state.flashOnMS else 0
  let offMS := if blink then state.flashOffMS else 0
  setLedChannel 0 red blink onMS offMS ++ setLedChannel 1 green blink onMS offMS ++
    setLedChannel 2 blue blink onMS offMS

inductive LightId
  | backlight
  | buttons
  | battery
  | notifications
  | attention
  | other
  deriving DecidableEq, Repr

inductive SetLight
  | lightsSetLightBacklight
  | lightsSetLightLed
  | lightsSetLight
  deriving DecidableEq, Repr

/-- The function of the device that is opened. `vendor` says whether the vendor's module opens the
light of the buttons. -/
def openLights (vendor : Bool) : LightId → Option SetLight
  | .backlight => some .lightsSetLightBacklight
  | .notifications | .battery | .attention => some .lightsSetLightLed
  | .buttons => if vendor then some .lightsSetLight else none
  | .other => none

/-- A call of `set_light`; `fails` says for which lines `led_ctl` cannot open or write the file. -/
structure LightCall where
  light : LightId
  state : LightState
  fails : List Char → Bool

section Lights
variable {κ : Type} (d : LedDriver κ) (vendor : Bool)

/-- What a call does to the LEDs, and what is returned for them. -/
def lightStep (k : κ) (call : LightCall) : κ × List Int :=
  match openLights vendor call.light with
  | some .lightsSetLightLed =>
      (((lightsSetLightLed call.state).filter fun line => !call.fails line).foldl d.write k, [0])
  | _ => (k, [])

end Lights

/-! ## What is asked of the LEDs -/

def LightState.level (state : LightState) : Led → BitVec 32
  | .red => (state.color.extractLsb' 16 8).setWidth 32
  | .green => (state.color.extractLsb' 8 8).setWidth 32
  | .blue => (state.color.extractLsb' 0 8).setWidth 32

/-- The light is to flash, with times that can be kept. -/
def LightState.Flashes (state : LightState) : Prop :=
  state.flashMode ≠ .none ∧ 0 < state.flashOnMS.toInt ∧ 0 < state.flashOffMS.toInt

instance (state : LightState) : Decidable state.Flashes := by
  unfold LightState.Flashes
  infer_instance

/-- The LED is as the light's state says. -/
def LedState.Shows (s : LedState) (state : LightState) (led : Led) : Prop :=
  if state.level led = 0 then s.steady = false ∧ s.blink = false
  else if state.Flashes then
    s.blink = true ∧ s.brightness = state.level led ∧ s.onMS = state.flashOnMS ∧
      s.offMS = state.flashOffMS
  else s.blink = false ∧ s.steady = true ∧ s.brightness = state.level led

end VibeXperia.Lights

import Mathlib.Data.List.Infix
import VibeXperia.Lib.Counting
import VibeXperia.Sensord.Sensors

namespace VibeXperia.Sensord
open Lib

/-! ## `sensor_cfg.c`: the file of placements -/

def isSpace (c : Char) : Bool := c = ' ' || c = '\t' || c = '\n' || c = '\u000b' || c = '\u000c' || c = '\r'

def decimal (digits : List Char) : Int :=
  digits.foldl (fun value c => 10 * value + (c.toNat - '0'.toNat : Nat)) 0

/-- The digits of a number at the front of a text. -/
def digitsOf (text : List Char) : Option Int :=
  let digits := text.takeWhile Char.isDigit
  if digits = [] then none else some (decimal digits)

/-- The conversion `%<width>d`, whose number is stored in 32 bits. -/
def scanInt (width : Nat) (text : List Char) : Option Int :=
  let value :=
    match (text.dropWhile isSpace).take width with
    | '-' :: digits => (digitsOf digits).map Neg.neg
    | '+' :: digits => digitsOf digits
    | digits => digitsOf digits
  value.map (signed 32)

/-- `sscanf(pline, "place_%c=%11d", &magic, &place)`, where both are converted. -/
def scanPlace (pline : List Char) : Option (Char × Int) :=
  match pline with
  | 'p' :: 'l' :: 'a' :: 'c' :: 'e' :: '_' :: magic :: '=' :: rest =>
      (scanInt 11 rest).map fun place => (magic, place)
  | _ => none

inductive AxisSensor
  | a | m
  deriving DecidableEq, Repr

/-- `SENSOR_MAGIC_A` and `SENSOR_MAGIC_M` -/
def AxisSensor.magic : AxisSensor → Char
  | .a => 'a'
  | .m => 'm'

/-- `g_place_a` and `g_place_m` -/
abbrev Places := AxisSensor → Int

/-- `HW_INFO_DFT_PLACE_A` and `HW_INFO_DFT_PLACE_M` of this device's sensors -/
def hwInfoDftPlace : Places := fun _ => 1

/-- The `switch` over `magic`; nothing for an unknown sensor. This device has no gyroscope to place. -/
def setPlace (magic : Char) (place : Int) (places : Places) : Option Places :=
  if magic = 'a' then some (Function.update places .a place)
  else if magic = 'm' then some (Function.update places .m place)
  else if magic = 'g' then some places
  else none

/-- The loop of `set_cfg_axis`, which stops at the first line that it does not understand. -/
def setCfgAxisLines (places : Places) : List (List Char) → Places
  | [] => places
  | pline :: rest =>
      if pline = [] then setCfgAxisLines places rest
      else
        match scanPlace pline with
        | none => places
        | some (magic, place) =>
            match setPlace magic place places with
            | none => places
            | some places => setCfgAxisLines places rest

/-- The lines in the first 63 bytes of the file, up to a zero. -/
def axisLines (content : List Char) : List (List Char) :=
  let buf := (content.take 63).map fun c => if c = '\r' then '\n' else c
  (buf.takeWhile (· ≠ '\x00')).splitOn '\n'

/-- Without a file there is nothing to read. -/
def setCfgAxis (file : Option (List Char)) (places : Places) : Places :=
  match file with
  | none => places
  | some content => setCfgAxisLines places (axisLines content)

/-! ## `hw_cntl.c`, `hw_cntl_a.c` and `hw_cntl_m.c`: samples -/

structure AxisRemap where
  rx : Nat
  ry : Nat
  rz : Nat
  sx : Nat
  sy : Nat
  sz : Nat
  deriving DecidableEq, Repr

structure Xyz where
  x : Int
  y : Int
  z : Int
  deriving DecidableEq, Repr

/-- `axis_remap_tab_a` and `axis_remap_tab_m` of this device's sensors -/
def axisRemapTab : List AxisRemap :=
  [⟨1, 1, 0, 1, 0, 0⟩, ⟨0, 0, 0, 0, 0, 0⟩, ⟨0, 0, 0, 1, 1, 0⟩, ⟨1, 1, 0, 0, 1, 0⟩,
    ⟨0, 0, 0, 1, 0, 1⟩, ⟨1, 1, 0, 0, 0, 1⟩, ⟨1, 1, 0, 1, 1, 1⟩, ⟨0, 0, 0, 0, 1, 1⟩]

def negateIf (flag : Nat) (value : Int) : Int := if flag ≠ 0 then signed 32 (0 - value) else value

def hwRemapSensorData (data : Xyz) (remap : AxisRemap) : Xyz where
  x := negateIf remap.sx ([data.x, data.y, data.z].getD remap.rx 0)
  y := negateIf remap.sy ([data.y, data.x, data.z].getD remap.ry 0)
  z := negateIf remap.sz ([data.z, data.x, data.y].getD remap.rz 0)

/-- A sample is remapped by the entry of the table that its placement leads to. There is nothing to
say about a sample for which memory outside the table is read. -/
def remapAt (place : Int) (val : Xyz) : Option Xyz :=
  if place ≥ 0 then (axisRemapTab[place.toNat]?).map (hwRemapSensorData val) else some val

/-- `HW_A_DATA_FULLRANGE` with `HW_INFO_DATA_BITS_A` -/
def fullRange (val : Xyz) : Xyz := ⟨val.x >>> (6 : Nat), val.y >>> (6 : Nat), val.z >>> (6 : Nat)⟩

/-- `fr` is what `hw_acc_read_xyzdata_fr` reads and returns. -/
def hwAccReadXyzdata (gPlaceA : Int) (fr : Int × Xyz) : Option (Int × Xyz) :=
  (remapAt gPlaceA fr.2).map fun val => (fr.1, fullRange val)

def intMin : Int := -2 ^ 31

def validateAxis (value : Int) : Int := if value ≠ intMin then value >>> (2 : Nat) else -32767

def hwMagValidateVal (val : Xyz) : Xyz :=
  ⟨validateAxis val.x, validateAxis val.y, validateAxis val.z⟩

/-- `fr` is what is read from the node of the magnetometer. -/
def hwMagReadXyzdata (gPlaceM : Int) (fr : Int × Xyz) : Option (Int × Xyz) :=
  (remapAt gPlaceM (hwMagValidateVal fr.2)).map fun val => (fr.1, val)

inductive InputEvent
  | absX (value : Int)
  | absY (value : Int)
  | absZ (value : Int)
  | syn
  | other
  deriving DecidableEq, Repr

/-- The loop over input events up to `EV_SYN`; nothing if the events end before. -/
def readInputEvents (val : Xyz) : List InputEvent → Option Xyz
  | [] => none
  | .absX value :: rest => readInputEvents { val with x := value } rest
  | .absY value :: rest => readInputEvents { val with y := value } rest
  | .absZ value :: rest => readInputEvents { val with z := value } rest
  | .syn :: _ => some val
  | .other :: rest => readInputEvents val rest

def hwAccReadXyzdataInputEv (gPlaceA : Int) (events : List InputEvent) (val : Xyz) :
    Option (Int × Xyz) :=
  match readInputEvents val events with
  | none => some (-1, val)
  | some val => (remapAt gPlaceA (fullRange val)).map fun val => (0, val)

def hwMagReadXyzdataInputEv (gPlaceM : Int) (events : List InputEvent) (val : Xyz) :
    Option (Int × Xyz) :=
  match readInputEvents val events with
  | none => some (-1, val)
  | some val => (remapAt gPlaceM (hwMagValidateVal val)).map fun val => (0, val)

def hwPlaceUndefined : Int := -1

/-- What the driver says about its own placement: the result of `sysfs_read_int` and the value. -/
abbrev DriverPlaces := AxisSensor → Int × Int

/-- `hw_init_a` and `hw_init_m` as far as placements go -/
def hwInitPlace (driver : DriverPlaces) (places : Places) : Places := fun sensor =>
  if (driver sensor).1 = 0 ∧ (driver sensor).2 ≠ hwPlaceUndefined then -1 else places sensor

/-- The placements once `sensor_cfg_init` and `hw_cntl_init` are through. -/
def startPlaces (file : Option (List Char)) (driver : DriverPlaces) : Places :=
  hwInitPlace driver (setCfgAxis file hwInfoDftPlace)

/-- Samples can be read from the two sensors without a look outside the table. -/
structure ReadsInside (places : Places) : Prop where
  acc : ∀ fr, (hwAccReadXyzdata (places .a) fr).isSome
  accInputEv : ∀ events val, (hwAccReadXyzdataInputEv (places .a) events val).isSome
  mag : ∀ fr, (hwMagReadXyzdata (places .m) fr).isSome
  magInputEv : ∀ events val, (hwMagReadXyzdataInputEv (places .m) events val).isSome

/-! ## The placements that a file gives -/

/-- The line places a sensor that there may be. -/
def placesSensor (pline : List Char) : Bool :=
  (scanPlace pline).any fun placement => placement.1 ∈ ['a', 'm', 'g']

/-- The placements in the lines before the first that places nothing, empty lines apart. -/
def placements (file : Option (List Char)) : List (Char × Int) :=
  ((((file.map axisLines).getD []).filter (· ≠ [])).takeWhile placesSensor).filterMap scanPlace

/-- The placement that the file gives a sensor last. -/
def lastPlacement (file : Option (List Char)) (sensor : AxisSensor) : Option Int :=
  (((placements file).filter fun placement => placement.1 = sensor.magic).map Prod.snd).getLast?

/-- The driver has a placement of its own for the sensor, or the file's last one is below eight. -/
def PlacedInside (file : Option (List Char)) (driver : DriverPlaces) (sensor : AxisSensor) : Prop :=
  (driver sensor).1 = 0 ∧ (driver sensor).2 ≠ hwPlaceUndefined ∨
    ∀ place, lastPlacement file sensor = some place → place < 8

/-! ## The errors of `set_cfg_axis` -/

def eio : Int := 5

/-- The loop from `pline` on, with `err` and the placements that it ends with. -/
def setCfgAxisLoop : Nat → List Char → Places → Option (Int × Places)
  | 0, _, _ => none
  | fuel + 1, pline, places =>
      let line := pline.takeWhile (· ≠ '\n')
      let plineEnd := pline.dropWhile (· ≠ '\n')
      let next (places : Places) : Option (Int × Places) :=
        if plineEnd = [] then some (0, places) else setCfgAxisLoop fuel plineEnd.tail places
      if line = [] then next places
      else
        match scanPlace line with
        | none => some (-einval, places)
        | some (magic, place) =>
            match setPlace magic place places with
            | none => some (-einval, places)
            | some places => next places

def axisText (content : List Char) : List Char :=
  let buf := (content.take 63).map fun c => if c = '\r' then '\n' else c
  buf.takeWhile (· ≠ '\x00')

def setCfgAxisErr (fuel : Nat) (file : Option (List Char)) (places : Places) :
    Option (Int × Places) :=
  match file with
  | none => some (-eio, places)
  | some content => setCfgAxisLoop fuel (axisText content) places

/-- The value of the last of all lines that name the sensor. -/
def lastNaming (file : Option (List Char)) (sensor : AxisSensor) : Option Int :=
  (((((file.map axisLines).getD []).filterMap scanPlace).filter
    fun placement => placement.1 = sensor.magic).map Prod.snd).getLast?

structure AllOrNothing (file : Option (List Char)) (err : Int) (places : Places) : Prop where
  error : err ≠ 0 → ∀ sensor, places sensor = hwInfoDftPlace sensor
  success : err = 0 → ∀ sensor, places sensor = (lastNaming file sensor).getD (hwInfoDftPlace sensor)

/-- There is a file, and every line of it but the empty ones places a sensor. -/
def Understood (file : Option (List Char)) : Prop :=
  ∃ content, file = some content ∧ ∀ pline ∈ axisLines content, pline ≠ [] → placesSensor pline = true

/-- The lines before the first that is not understood leave the defaults. -/
def GivesDefaults (file : Option (List Char)) : Prop :=
  ∀ sensor place, lastPlacement file sensor = some place → place = hwInfoDftPlace sensor

end VibeXperia.Sensord

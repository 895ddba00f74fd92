import VibeXperia.Gps.Engine
import VibeXperia.Lib.Text
import Mathlib.Logic.Function.Basic

namespace VibeXperia.Gps
open Lib

/-! ## `loc_cfg.cpp` -/

def locMaxParamString : Nat := 80

def locMaxParamLine : Nat := 80

/-- `double` and how it is read from a text. -/
structure Doubles (δ : Type*) where
  zero : δ
  atof : CString → δ

inductive ParamValue (δ : Type*)
  | number (value : Int)
  | float (value : δ)
  | string (value : CString)
  deriving DecidableEq

/-- The variables `V` and the validity flags `F`. -/
@[ext] structure ParamMemory (V F δ : Type*) where
  values : V → ParamValue δ
  flags : F → UInt8

/-- `loc_param_s_type`; a missing pointer is `none`. -/
structure LocParamS (V F : Type*) where
  paramName : CString
  paramPtr : Option V
  paramSet : Option F
  paramType : Char
  deriving DecidableEq

/-- `loc_param_v_type` -/
structure LocParamV (δ : Type*) where
  paramName : CString
  paramStrValue : CString
  paramIntValue : Int
  paramDoubleValue : δ

/-- The loop of `trim_space`; what was written starts at the start of the string, and
`lastNonspace` is where it will end. -/
structure TrimSpace where
  firstNonspace : Bool
  written : CString
  lastNonspace : Option Nat

def TrimSpace.scan (t : TrimSpace) (c : Char) : TrimSpace :=
  let first := t.firstNonspace || !isspace c
  if first then
    let written := t.written ++ [c]
    ⟨true, written, if isspace c then t.lastNonspace else some written.length⟩
  else t

/-- A string of nothing but spaces is left as it is. -/
def trimSpace (orgString : CString) : CString :=
  let t := orgString.foldl TrimSpace.scan ⟨false, [], none⟩
  match t.lastNonspace with
  | some last => t.written.take last
  | none => orgString

section Reader
variable {V F δ : Type*} [DecidableEq V] [DecidableEq F]

def ParamMemory.write (m : ParamMemory V F δ) (paramPtr : V) (paramSet : Option F)
    (value : ParamValue δ) : ParamMemory V F δ where
  values := Function.update m.values paramPtr value
  flags := match paramSet with
    | some flag => Function.update m.flags flag 1
    | none => m.flags

def locSetConfigEntry (configEntry : LocParamS V F) (configValue : LocParamV δ)
    (m : ParamMemory V F δ) : ParamMemory V F δ :=
  match configEntry.paramPtr with
  | some paramPtr =>
      if configEntry.paramName = configValue.paramName then
        if configEntry.paramType = 's' then
          if configValue.paramStrValue = "NULL".toList then
            m.write paramPtr configEntry.paramSet (.string [])
          else
            m.write paramPtr configEntry.paramSet
              (.string (configValue.paramStrValue.take locMaxParamString))
        else if configEntry.paramType = 'n' then
          m.write paramPtr configEntry.paramSet (.number configValue.paramIntValue)
        else if configEntry.paramType = 'f' then
          m.write paramPtr configEntry.paramSet (.float configValue.paramDoubleValue)
        else m
      else m
  | none => m

end Reader

/-- The variables of `loc_cfg.cpp` itself. -/
inductive LogVariable
  | debugLevel | timestamp
  deriving DecidableEq, Repr

def logParameterTable : List (LocParamS LogVariable Empty) :=
  [⟨"DEBUG_LEVEL".toList, some .debugLevel, none, 'n'⟩,
    ⟨"TIMESTAMP".toList, some .timestamp, none, 'n'⟩]

/-- The memory of the caller, and that of `loc_cfg.cpp`. -/
structure ConfState (V F δ : Type*) where
  caller : ParamMemory V F δ
  log : ParamMemory LogVariable Empty δ

def isHex : CString → Bool
  | '0' :: c :: _ => c = 'x' || c = 'X'
  | _ => false

/-- `config_value` once the tokens are trimmed and the value is parsed. -/
def parseValue {δ : Type*} (lib : Doubles δ) (paramName paramStrValue : CString) : LocParamV δ :=
  let name := trimSpace paramName
  let value := trimSpace paramStrValue
  if isHex value then ⟨name, value, strtol 16 (value.drop 2), lib.zero⟩
  else ⟨name, value, atoi value, lib.atof value⟩

section Reader
variable {V F δ : Type*} [DecidableEq V] [DecidableEq F]

def readLine (lib : Doubles δ) (configTable : List (LocParamS V F)) (s : ConfState V F δ)
    (inputBuf : CString) : ConfState V F δ :=
  match strtok '=' (cString inputBuf) with
  | none => s
  | some (paramName, lasts) =>
      match strtok '=' lasts with
      | none => s
      | some (paramStrValue, _) =>
          let configValue := parseValue lib paramName paramStrValue
          { caller := configTable.foldl (fun m entry => locSetConfigEntry entry configValue m) s.caller
            log := logParameterTable.foldl (fun m entry => locSetConfigEntry entry configValue m)
              s.log }

def clearFlags (configTable : List (LocParamS V F)) (m : ParamMemory V F δ) : ParamMemory V F δ :=
  { m with
    flags := (configTable.filterMap LocParamS.paramSet).foldl
      (fun flags flag => Function.update flags flag 0) m.flags }

/-- `loc_read_conf` of a file with some contents, or that cannot be opened. -/
def locReadConf (lib : Doubles δ) (configTable : List (LocParamS V F)) (file : Option CString)
    (s : ConfState V F δ) : ConfState V F δ :=
  match file with
  | none => s
  | some contents =>
      (fgetsAll locMaxParamLine contents).foldl (readLine lib configTable)
        { s with caller := clearFlags configTable s.caller }

end Reader

/-! ## What is asked of the reader -/

section Spec
variable {V F δ : Type*}

def isComment (line : CString) : Bool := (line.dropWhile isspace).head? = some '#'

/-- The parameter and its value in a line of the form `name = value`, with one `=` and with something
on both of its sides. -/
def assignment (line : CString) : Option (CString × CString) :=
  match (cString line).splitOn '=' with
  | [name, value] =>
      if isComment line || blank name || blank value then none
      else some (trimmed name, trimmed value)
  | _ => none

def given (name : CString) (line : CString) : Option CString :=
  (assignment line).bind fun (parameter, value) => if parameter = name then some value else none

def valueOf (lib : Doubles δ) (paramType : Char) (text : CString) : Option (ParamValue δ) :=
  if paramType = 's' then some (.string (if text = "NULL".toList then [] else text))
  else if paramType = 'n' then
    some (.number (if isHex text then strtol 16 (text.drop 2) else atoi text))
  else if paramType = 'f' then some (.float (lib.atof text))
  else none

def lastGiven (name : CString) (lines : List CString) : Option CString :=
  (lines.filterMap (given name)).getLast?

def expected (lib : Doubles δ) (entry : LocParamS V F) (lines : List CString)
    (before : ParamValue δ) : ParamValue δ :=
  ((lastGiven entry.paramName lines).bind (valueOf lib entry.paramType)).getD before

/-- Every variable of a table holds what it should, and no other one is touched. -/
structure ReadsLast (lib : Doubles δ) (configTable : List (LocParamS V F)) (lines : List CString)
    (before after : V → ParamValue δ) : Prop where
  entries : ∀ entry ∈ configTable, ∀ v, entry.paramPtr = some v →
    after v = expected lib entry lines (before v)
  others : ∀ v, some v ∉ configTable.map LocParamS.paramPtr → after v = before v

/-! ## What the reader takes -/

/-- The text that the reader takes from a line for a parameter. -/
def taken (name : CString) (line : CString) : Option CString :=
  match tokens '=' (cString line) with
  | first :: value :: _ => if trimSpace first = name then some (trimSpace value) else none
  | _ => none

def lastTaken (name : CString) (lines : List CString) : Option CString :=
  (lines.filter fun line => (taken name line).isSome).getLast?

/-- What the reader makes of the text. -/
def storedValue (lib : Doubles δ) (paramType : Char) (text : CString) : Option (ParamValue δ) :=
  if paramType = 's' then
    some (.string (if text = "NULL".toList then [] else text.take locMaxParamString))
  else if paramType = 'f' ∧ isHex text then some (.float lib.zero)
  else valueOf lib paramType text

/-- The last line that the reader takes for a parameter is a well-formed one. -/
def TakesWellFormed (name : CString) (lines : List CString) : Prop :=
  ∀ line, lastTaken name lines = some line → (given name line).isSome

/-- A float that is given in base 16 is zero. -/
def HexIsZero (lib : Doubles δ) (entry : LocParamS V F) (text : Option CString) : Prop :=
  entry.paramType = 'f' → ∀ hex, text = some hex → isHex hex → lib.atof hex = lib.zero

/-- The last line that the reader takes for a number or a string has a blank value, though some line
gives a value, and that is not the number 0. -/
structure TakesBlank (lib : Doubles δ) (entry : LocParamS V F) (lines : List CString) : Prop where
  paramType : entry.paramType ∈ ['n', 's']
  last : ∃ line value, lastTaken entry.paramName lines = some line ∧
    taken entry.paramName line = some value ∧ blank value
  gives : ∃ text, lastGiven entry.paramName lines = some text ∧
    valueOf lib entry.paramType text ≠ some (.number 0)

def SameOrder (lines others : List CString) : Prop :=
  ∀ name, lines.filter (fun line => (taken name line).isSome) =
    others.filter fun line => (taken name line).isSome

end Spec

/-! ## `loc_eng_read_config` -/

inductive ConfField
  | intermediatePos | accuracyThres | nmeaProvider | suplVer | capabilities
  | gyroBiasRandomWalk | accelRandomWalkSpectralDensity | angleRandomWalkSpectralDensity
  | rateRandomWalkSpectralDensity | velocityRandomWalkSpectralDensity
  | sensorAccelBatchesPerSec | sensorAccelSamplesPerBatch
  | sensorGyroBatchesPerSec | sensorGyroSamplesPerBatch
  | sensorAccelBatchesPerSecHigh | sensorAccelSamplesPerBatchHigh
  | sensorGyroBatchesPerSecHigh | sensorGyroSamplesPerBatchHigh
  | sensorControlMode | sensorUsage | sensorAlgorithmConfigMask
  | quipcEnabled | lppProfile | aGlonassPosProtocolSelect
  deriving DecidableEq, Repr

inductive ConfFlag
  | gyroBiasRandomWalkValid | accelRandomWalkSpectralDensityValid
  | angleRandomWalkSpectralDensityValid | rateRandomWalkSpectralDensityValid
  | velocityRandomWalkSpectralDensityValid
  deriving DecidableEq, Repr

def locParameterTable : List (LocParamS ConfField ConfFlag) :=
  [⟨"INTERMEDIATE_POS".toList, some .intermediatePos, none, 'n'⟩,
    ⟨"ACCURACY_THRES".toList, some .accuracyThres, none, 'n'⟩,
    ⟨"NMEA_PROVIDER".toList, some .nmeaProvider, none, 'n'⟩,
    ⟨"SUPL_VER".toList, some .suplVer, none, 'n'⟩,
    ⟨"CAPABILITIES".toList, some .capabilities, none, 'n'⟩,
    ⟨"GYRO_BIAS_RANDOM_WALK".toList, some .gyroBiasRandomWalk, some .gyroBiasRandomWalkValid, 'f'⟩,
    ⟨"ACCEL_RANDOM_WALK_SPECTRAL_DENSITY".toList, some .accelRandomWalkSpectralDensity,
      some .accelRandomWalkSpectralDensityValid, 'f'⟩,
    ⟨"ANGLE_RANDOM_WALK_SPECTRAL_DENSITY".toList, some .angleRandomWalkSpectralDensity,
      some .angleRandomWalkSpectralDensityValid, 'f'⟩,
    ⟨"RATE_RANDOM_WALK_SPECTRAL_DENSITY".toList, some .rateRandomWalkSpectralDensity,
      some .rateRandomWalkSpectralDensityValid, 'f'⟩,
    ⟨"VELOCITY_RANDOM_WALK_SPECTRAL_DENSITY".toList, some .velocityRandomWalkSpectralDensity,
      some .velocityRandomWalkSpectralDensityValid, 'f'⟩,
    ⟨"SENSOR_ACCEL_BATCHES_PER_SEC".toList, some .sensorAccelBatchesPerSec, none, 'n'⟩,
    ⟨"SENSOR_ACCEL_SAMPLES_PER_BATCH".toList, some .sensorAccelSamplesPerBatch, none, 'n'⟩,
    ⟨"SENSOR_GYRO_BATCHES_PER_SEC".toList, some .sensorGyroBatchesPerSec, none, 'n'⟩,
    ⟨"SENSOR_GYRO_SAMPLES_PER_BATCH".toList, some .sensorGyroSamplesPerBatch, none, 'n'⟩,
    ⟨"SENSOR_ACCEL_BATCHES_PER_SEC_HIGH".toList, some .sensorAccelBatchesPerSecHigh, none, 'n'⟩,
    ⟨"SENSOR_ACCEL_SAMPLES_PER_BATCH_HIGH".toList, some .sensorAccelSamplesPerBatchHigh, none, 'n'⟩,
    ⟨"SENSOR_GYRO_BATCHES_PER_SEC_HIGH".toList, some .sensorGyroBatchesPerSecHigh, none, 'n'⟩,
    ⟨"SENSOR_GYRO_SAMPLES_PER_BATCH_HIGH".toList, some .sensorGyroSamplesPerBatchHigh, none, 'n'⟩,
    ⟨"SENSOR_CONTROL_MODE".toList, some .sensorControlMode, none, 'n'⟩,
    ⟨"SENSOR_USAGE".toList, some .sensorUsage, none, 'n'⟩,
    ⟨"SENSOR_ALGORITHM_CONFIG_MASK".toList, some .sensorAlgorithmConfigMask, none, 'n'⟩,
    ⟨"QUIPC_ENABLED".toList, some .quipcEnabled, none, 'n'⟩,
    ⟨"LPP_PROFILE".toList, some .lppProfile, none, 'n'⟩,
    ⟨"A_GLONASS_POS_PROTOCOL_SELECT".toList, some .aGlonassPosProtocolSelect, none, 'n'⟩]

section ReadConfig
variable {δ : Type*}

/-- Every field but `QUIPC_ENABLED` has a default, and no flag is set. -/
def locDefaultParameters (lib : Doubles δ) (m : ParamMemory ConfField ConfFlag δ) :
    ParamMemory ConfField ConfFlag δ where
  values
    | .intermediatePos | .accuracyThres | .nmeaProvider => .number 0
    | .suplVer => .number 0x10000
    | .capabilities => .number 0x7
    | .gyroBiasRandomWalk => .float lib.zero
    | .sensorAccelBatchesPerSec => .number 2
    | .sensorAccelSamplesPerBatch => .number 5
    | .sensorGyroBatchesPerSec => .number 2
    | .sensorGyroSamplesPerBatch => .number 5
    | .sensorAccelBatchesPerSecHigh => .number 4
    | .sensorAccelSamplesPerBatchHigh => .number 25
    | .sensorGyroBatchesPerSecHigh => .number 4
    | .sensorGyroSamplesPerBatchHigh => .number 25
    | .sensorControlMode | .sensorUsage | .sensorAlgorithmConfigMask => .number 0
    | .accelRandomWalkSpectralDensity | .angleRandomWalkSpectralDensity
    | .rateRandomWalkSpectralDensity | .velocityRandomWalkSpectralDensity => .float lib.zero
    | .lppProfile | .aGlonassPosProtocolSelect => .number 0
    | .quipcEnabled => m.values .quipcEnabled
  flags _ := 0

structure LocEngConf (δ : Type*) where
  configAlreadyRead : Bool
  conf : ConfState ConfField ConfFlag δ

/-- `gps.conf` and `sap.conf` as they are at one call; `none` cannot be opened. -/
structure ConfFiles where
  gps : Option CString
  sap : Option CString

def locEngReadConfig (lib : Doubles δ) (s : LocEngConf δ) (files : ConfFiles) : LocEngConf δ :=
  if s.configAlreadyRead then s
  else
    let conf := { s.conf with caller := locDefaultParameters lib s.conf.caller }
    ⟨true, locReadConf lib locParameterTable files.sap
      (locReadConf lib locParameterTable files.gps conf)⟩

/-! ## What is asked of the validity flags -/

namespace ConfFiles

/-- The lines of both files, those of `gps.conf` first. -/
def lines (files : ConfFiles) : List CString :=
  files.gps.toList.flatMap linesOf ++ files.sap.toList.flatMap linesOf

/-- The pieces in which the reader gets a file; a long line comes in several. -/
def pieces (file : Option CString) : List CString :=
  file.toList.flatMap (fgetsAll locMaxParamLine)

def lastRead (files : ConfFiles) : Option CString := files.sap.or files.gps

def Gives (files : ConfFiles) (name : CString) : Prop :=
  ∃ line ∈ files.lines, (given name line).isSome

end ConfFiles

/-- The flag of a parameter says whether it was given, and the parameter holds what it was given. -/
structure ValidWhenGiven (lib : Doubles δ) (files : ConfFiles)
    (entry : LocParamS ConfField ConfFlag) (m : ParamMemory ConfField ConfFlag δ) : Prop where
  flag : ∀ flag, entry.paramSet = some flag → (m.flags flag = 1 ↔ files.Gives entry.paramName)
  value : ∀ v text, entry.paramPtr = some v → lastGiven entry.paramName files.lines = some text →
    some (m.values v) = valueOf lib entry.paramType text

/-- Each line that the reader takes for the parameter is well formed, and no line that is too long
for the buffer has to do with it. -/
def LinesRead (name : CString) (file : Option CString) : Prop :=
  ∀ line ∈ file.toList.flatMap linesOf,
    if line.length < locMaxParamLine then (taken name line).isSome → (given name line).isSome
    else given name line = none ∧ ∀ piece ∈ fgetsAll locMaxParamLine line, taken name piece = none

/-- What `gps.conf` gives `sap.conf` gives too, where it can be opened. -/
def SapCarries (files : ConfFiles) (name : CString) : Prop :=
  ∀ gps sap, files.gps = some gps → files.sap = some sap →
    (∃ line ∈ linesOf gps, (given name line).isSome) → ∃ line ∈ linesOf sap, (given name line).isSome

end ReadConfig

end VibeXperia.Gps

import VibeXperia.MultiHal.Handles

namespace VibeXperia.MultiHal

/-- The fields of `sensors_event_t` that the multi-HAL looks at, and its time stamp. -/
structure SensorsEvent where
  sensor : Int
  type : Int
  metaDataSensor : Int
  timestamp : Int
  deriving DecidableEq, Repr

/-! ## Calls going down -/

/-- A device function with the arguments behind the device pointer. -/
inductive DeviceFunction
  | activate (handle enabled : Int)
  | setDelay (handle ns : Int)
  | batch (handle flags periodNs timeout : Int)
  | flush (handle : Int)
  | injectSensorData (data : SensorsEvent)
  deriving DecidableEq, Repr

/-- The device pointer passed to a function: a sub-HAL's, or the proxy given to the framework. -/
inductive DevicePointer
  | sub (device : HwDevice)
  | proxy
  deriving DecidableEq, Repr

structure SubHalCall where
  device : HwDevice
  dev : DevicePointer
  function : DeviceFunction
  deriving DecidableEq, Repr

/-- What an entry point returned and the call of a sub-HAL it made, if any. -/
structure Outcome where
  retval : Int
  called : Option SubHalCall
  deriving DecidableEq, Repr

section Calls
variable (maps : HandleMaps) (dev : PollContext) (answer : SubHalCall → Int)

def deviceByHandle (globalHandle : Int) : Option HwDevice :=
  let subIndex := maps.getModuleIndex globalHandle
  if subIndex < 0 ∨ subIndex ≥ dev.subHwDevices.length then none
  else dev.subHwDevices[subIndex.toNat]?

def getV0DeviceByHandle (globalHandle : Int) : Option HwDevice :=
  deviceByHandle maps dev globalHandle

def getV1DeviceByHandle (globalHandle : Int) : Option HwDevice :=
  deviceByHandle maps dev globalHandle

def getDeviceVersionByHandle (handle : Int) : Int :=
  match getV0DeviceByHandle maps dev handle with
  | some v0 => v0.version
  | none => -1

def halIsAPILevelCompliant (handle level : Int) : Bool :=
  let version := getDeviceVersionByHandle maps dev handle
  version ≠ -1 ∧ version ≥ level

/-- A call passed on, with the sub-HAL's own device pointer, as the callers' `retval`. -/
def forward (device : HwDevice) (dev : DevicePointer) (function : DeviceFunction) : Outcome :=
  ⟨answer ⟨device, dev, function⟩, some ⟨device, dev, function⟩⟩

def rejected : Outcome := ⟨-EINVAL, none⟩

def activate (handle enabled : Int) : Outcome :=
  let localHandle := maps.getLocalHandle handle
  match getV0DeviceByHandle maps dev handle with
  | some v0 =>
      if localHandle ≥ 0 then forward answer v0 (.sub v0) (.activate localHandle enabled)
      else rejected
  | none => rejected

def setDelay (handle ns : Int) : Outcome :=
  let localHandle := maps.getLocalHandle handle
  match getV0DeviceByHandle maps dev handle with
  | some v0 =>
      if localHandle ≥ 0 then forward answer v0 (.sub v0) (.setDelay localHandle ns) else rejected
  | none => rejected

/-- The period a legacy device is given: clamped to the delays of the listed sensor. -/
def legacyPeriod (globalSensorsList : List Sensor) (handle periodNs : Int) : Int :=
  let sensor := globalSensorsList.find? fun sensor => sensor.handle = handle
  let minDelayNs := (sensor.map fun sensor => sensor.minDelay * 1000).getD 0
  let maxDelayNs := (sensor.map fun sensor => sensor.maxDelay * 1000).getD 0
  if minDelayNs > 0 ∧ periodNs < minDelayNs then minDelayNs
  else if maxDelayNs > 0 ∧ periodNs > maxDelayNs then maxDelayNs
  else periodNs

def batch (globalSensorsList : List Sensor) (handle flags periodNs timeout : Int) : Outcome :=
  let localHandle := maps.getLocalHandle handle
  match getV1DeviceByHandle maps dev handle with
  | some v1 =>
      if localHandle ≥ 0 then
        if halIsAPILevelCompliant maps dev handle SENSORS_DEVICE_API_VERSION_1_1 then
          forward answer v1 (.sub v1) (.batch localHandle flags periodNs timeout)
        else if periodNs < 0 ∨ timeout < 0 then rejected
        else
          forward answer v1 (.sub v1)
            (.setDelay localHandle (legacyPeriod globalSensorsList handle periodNs))
      else rejected
  | none => rejected

def flush (handle : Int) : Outcome :=
  let localHandle := maps.getLocalHandle handle
  match getV1DeviceByHandle maps dev handle with
  | some v1 =>
      if localHandle ≥ 0 then
        if halIsAPILevelCompliant maps dev handle SENSORS_DEVICE_API_VERSION_1_1 then
          forward answer v1 (.sub v1) (.flush localHandle)
        else rejected
      else rejected
  | none => rejected

/-- `dev` is handed on as it came, with the event still under its global handle. -/
def injectSensorData (data : SensorsEvent) : Outcome :=
  let localHandle := maps.getLocalHandle data.sensor
  match getV1DeviceByHandle maps dev data.sensor with
  | some v1 =>
      if halIsAPILevelCompliant maps dev data.sensor SENSORS_DEVICE_API_VERSION_1_4 ∧
          localHandle ≥ 0 then
        forward answer v1 .proxy (.injectSensorData data)
      else rejected
  | none => rejected

end Calls

end VibeXperia.MultiHal

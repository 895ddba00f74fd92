import VibeXperia.MultiHal.SensorEventQueue

namespace VibeXperia.MultiHal

def EINVAL : Int := 22

def SENSORS_DEVICE_API_VERSION_1_1 : Int := 0x01010001
def SENSORS_DEVICE_API_VERSION_1_3 : Int := 0x01030001
def SENSORS_DEVICE_API_VERSION_1_4 : Int := 0x01040001

def SENSOR_TYPE_META_DATA : Int := 0
def SENSOR_TYPE_PROXIMITY : Int := 8
def SENSOR_TYPE_TILT_DETECTOR : Int := 22
def SENSOR_FLAG_WAKE_UP : Int := 1
def SENSOR_FLAG_ON_CHANGE_MODE : Int := 2

/-! ## The sub-HALs -/

/-- The fields of `sensor_t` the multi-HAL reads or overwrites. -/
structure Sensor where
  handle : Int
  type : Int
  minDelay : Int
  maxDelay : Int
  flags : Int
  deriving DecidableEq, Repr

/-- An opened device, known by the place in `sub_hw_modules` of the module whose `open` made it. -/
structure HwDevice where
  module : Nat
  version : Int
  deriving DecidableEq, Repr

/-- A loaded sub-HAL: the sensors it reports, what its `open` returns and, when that is 0, the
version of the device it makes. -/
structure SensorsModule where
  address : Nat
  sensorsList : List Sensor
  openResult : Int
  deviceVersion : Int
  deriving DecidableEq, Repr

/-! ## Global handles -/

structure FullHandle where
  moduleIndex : Int
  localHandle : Int
  deriving DecidableEq, Repr

structure HandleMaps where
  globalToFull : Int → Option FullHandle
  fullToGlobal : FullHandle → Option Int
  nextGlobalHandle : Int

def HandleMaps.empty : HandleMaps := ⟨fun _ => none, fun _ => none, 1⟩

namespace HandleMaps

def assignGlobalHandle (maps : HandleMaps) (moduleIndex localHandle : Int) : Int × HandleMaps :=
  let globalHandle := maps.nextGlobalHandle
  let fullHandle : FullHandle := ⟨moduleIndex, localHandle⟩
  (globalHandle,
    { globalToFull := Function.update maps.globalToFull globalHandle (some fullHandle)
      fullToGlobal := Function.update maps.fullToGlobal fullHandle (some globalHandle)
      nextGlobalHandle := maps.nextGlobalHandle + 1 })

def getLocalHandle (maps : HandleMaps) (globalHandle : Int) : Int :=
  match maps.globalToFull globalHandle with
  | none => -1
  | some full => full.localHandle

def getModuleIndex (maps : HandleMaps) (globalHandle : Int) : Int :=
  match maps.globalToFull globalHandle with
  | none => -1
  | some full => full.moduleIndex

def getGlobalHandle (maps : HandleMaps) (fullHandle : FullHandle) : Int :=
  (maps.fullToGlobal fullHandle).getD (-1)

end HandleMaps

/-! ## The sensor list -/

/-- The static variables of `multihal.cpp` once `lazy_init_modules` has run. A null pointer is
`none`; `sub_hw_versions` lists its pairs in the order of insertion. -/
structure Statics where
  subHwModules : List SensorsModule
  subHwVersions : Option (List (Nat × Int))
  maps : HandleMaps
  globalSensorsList : Option (List Sensor)

def lazyInitModules (subHwModules : List SensorsModule) : Statics :=
  { subHwModules, subHwVersions := none, maps := .empty, globalSensorsList := none }

def fixSensorFlags (version : Int) (sensor : Sensor) : Sensor :=
  if version < SENSORS_DEVICE_API_VERSION_1_3 ∧
      (sensor.type = SENSOR_TYPE_PROXIMITY ∨ sensor.type = SENSOR_TYPE_TILT_DETECTOR) then
    { sensor with flags := SENSOR_FLAG_WAKE_UP + SENSOR_FLAG_ON_CHANGE_MODE }
  else sensor

/-- The version the sensor list is made for: 0 unless `open_sensors` recorded one. -/
def moduleVersion (subHwVersions : Option (List (Nat × Int))) (module : SensorsModule) : Int :=
  match subHwVersions with
  | none => 0
  | some versions => (versions.lookup module.address).getD 0

/-- The maps and the part of `mutable_sensor_list` written so far. -/
structure ListState where
  maps : HandleMaps
  mutableSensorList : List Sensor

def examineSensor (version : Int) (moduleIndex : Nat) (s : ListState) (localSensor : Sensor) :
    ListState :=
  let assigned := s.maps.assignGlobalHandle moduleIndex localSensor.handle
  { maps := assigned.2
    mutableSensorList := s.mutableSensorList ++
      [fixSensorFlags version { localSensor with handle := assigned.1 }] }

def examineModule (subHwVersions : Option (List (Nat × Int))) (s : ListState)
    (module : SensorsModule × Nat) : ListState :=
  module.1.sensorsList.foldl (examineSensor (moduleVersion subHwVersions module.1) module.2) s

def lazyInitSensorsList (s : Statics) : Statics :=
  match s.globalSensorsList with
  | some _ => s
  | none =>
      let listed := s.subHwModules.zipIdx.foldl (examineModule s.subHwVersions) ⟨s.maps, []⟩
      { s with
        maps := listed.maps
        globalSensorsList := some listed.mutableSensorList
        subHwVersions := none }

/-! ## Opening the sub-HALs -/

/-- What a `writerTask` is started with; the queue is its place in `queues`. -/
structure TaskContext where
  device : HwDevice
  queue : Nat
  deriving DecidableEq, Repr

/-- The vectors of `sensors_poll_context_t` that `addSubHwDevice` fills. -/
structure PollContext where
  subHwDevices : List HwDevice
  queues : Nat
  threads : List TaskContext
  deriving DecidableEq, Repr

def addSubHwDevice (dev : PollContext) (device : HwDevice) : PollContext :=
  { subHwDevices := dev.subHwDevices ++ [device]
    queues := dev.queues + 1
    threads := dev.threads ++ [⟨device, dev.queues⟩] }

/-- `std::unordered_map::insert`: a key that is there keeps its value. -/
def insertVersion (versions : List (Nat × Int)) (address : Nat) (version : Int) :
    List (Nat × Int) :=
  if (versions.lookup address).isSome then versions else versions ++ [(address, version)]

def openModule (opened : PollContext × List (Nat × Int)) (module : SensorsModule × Nat) :
    PollContext × List (Nat × Int) :=
  if module.1.openResult = 0 then
    (addSubHwDevice opened.1 ⟨module.2, module.1.deviceVersion⟩,
      insertVersion opened.2 module.1.address module.1.deviceVersion)
  else opened

def openSensors (s : Statics) : Statics × PollContext :=
  let opened := s.subHwModules.zipIdx.foldl openModule (⟨[], 0, []⟩, [])
  ({ s with subHwVersions := some opened.2 }, opened.1)

end VibeXperia.MultiHal

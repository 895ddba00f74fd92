import VibeXperia.MultiHal.Handles

namespace VibeXperia.MultiHal

variable {ρ : Type*}

/-! ## `lazy_init_sensors_list` with its array -/

/-- `sensor_t`; of the fields in `rest` the multi-HAL makes copies and no other use. -/
structure FullSensor (ρ : Type*) extends Sensor where
  rest : ρ

structure FullModule (ρ : Type*) where
  address : Nat
  sensorsList : List (FullSensor ρ)
  openResult : Int
  deviceVersion : Int

def FullModule.toModule (module : FullModule ρ) : SensorsModule :=
  ⟨module.address, module.sensorsList.map FullSensor.toSensor, module.openResult,
    module.deviceVersion⟩

/-- The first pass over the modules. -/
def globalSensorsCount (modules : List (FullModule ρ)) : Nat :=
  modules.foldl (fun count module => count + module.sensorsList.length) 0

/-- Elements of `mutable_sensor_list` are `none` until they are copied to. -/
structure CopyState (ρ : Type*) where
  maps : HandleMaps
  mutableSensorList : List (Option (FullSensor ρ))
  mutableSensorIndex : Nat

/-- Nothing can be said once the array is left. -/
def copySensor (version : Int) (moduleIndex : Nat) (s : CopyState ρ) (localSensor : FullSensor ρ) :
    Option (CopyState ρ) :=
  if s.mutableSensorIndex < s.mutableSensorList.length then
    let assigned := s.maps.assignGlobalHandle moduleIndex localSensor.handle
    let copied := fixSensorFlags version { localSensor.toSensor with handle := assigned.1 }
    some {
      maps := assigned.2
      mutableSensorList := s.mutableSensorList.set s.mutableSensorIndex (some ⟨copied, localSensor.rest⟩)
      mutableSensorIndex := s.mutableSensorIndex + 1 }
  else none

def copyModule (subHwVersions : Option (List (Nat × Int))) (s : CopyState ρ)
    (module : FullModule ρ × Nat) : Option (CopyState ρ) :=
  module.1.sensorsList.foldlM
    (copySensor (moduleVersion subHwVersions module.1.toModule) module.2) s

def copySensors (subHwVersions : Option (List (Nat × Int))) (modules : List (FullModule ρ)) :
    Option (CopyState ρ) :=
  modules.zipIdx.foldlM (copyModule subHwVersions)
    ⟨.empty, List.replicate (globalSensorsCount modules) none, 0⟩

/-- What has been copied, without the fields in `rest`. -/
def CopyState.toListState (s : CopyState ρ) : ListState where
  maps := s.maps
  mutableSensorList :=
    (s.mutableSensorList.take s.mutableSensorIndex).filterMap (Option.map FullSensor.toSensor)

/-! ## What the handles are to be -/

/-- A sensor as its sub-HAL reports it, with the version and the place of the sub-HAL. -/
structure Reported (ρ : Type*) where
  sensor : FullSensor ρ
  version : Int
  moduleIndex : Nat

def Reported.full (reported : Reported ρ) : FullHandle :=
  ⟨reported.moduleIndex, reported.sensor.handle⟩

def reportedBy (subHwVersions : Option (List (Nat × Int))) (module : FullModule ρ × Nat) :
    List (Reported ρ) :=
  module.1.sensorsList.map fun sensor =>
    ⟨sensor, moduleVersion subHwVersions module.1.toModule, module.2⟩

/-- All sensors in the order of the modules and of their lists. -/
def allReported (subHwVersions : Option (List (Nat × Int))) (modules : List (FullModule ρ)) :
    List (Reported ρ) :=
  modules.zipIdx.flatMap (reportedBy subHwVersions)

/-- The entry for a sensor under a global handle. -/
structure EntryOf (reported : Reported ρ) (globalHandle : Int) (entry : FullSensor ρ) : Prop where
  handle : entry.handle = globalHandle
  type : entry.type = reported.sensor.type
  minDelay : entry.minDelay = reported.sensor.minDelay
  maxDelay : entry.maxDelay = reported.sensor.maxDelay
  rest : entry.rest = reported.sensor.rest
  flags : entry.flags =
    if reported.version < SENSORS_DEVICE_API_VERSION_1_3 ∧
        reported.sensor.type ∈ [SENSOR_TYPE_PROXIMITY, SENSOR_TYPE_TILT_DETECTOR] then
      SENSOR_FLAG_WAKE_UP + SENSOR_FLAG_ON_CHANGE_MODE
    else reported.sensor.flags

/-- The maps turn each other around, between 1, …, `N` and the sensors that are reported. -/
structure Numbered (reported : List (Reported ρ)) (maps : HandleMaps) : Prop where
  inverse : ∀ g full, maps.globalToFull g = some full ↔ maps.fullToGlobal full = some g
  globals : ∀ g, (maps.globalToFull g).isSome ↔ 1 ≤ g ∧ g ≤ reported.length
  fulls : ∀ full, (maps.fullToGlobal full).isSome ↔ full ∈ reported.map Reported.full
  inOrder : ∀ (i : Nat) r, reported[i]? = some r → maps.globalToFull (i + 1) = some r.full

/-- Every element of the array is the entry for the sensor at the same place. -/
structure ListsAll (reported : List (Reported ρ)) (list : List (Option (FullSensor ρ))) : Prop where
  length : list.length = reported.length
  entries : ∀ (i : Nat) r, reported[i]? = some r →
    ∃ entry, list[i]? = some (some entry) ∧ EntryOf r (i + 1) entry

end VibeXperia.MultiHal

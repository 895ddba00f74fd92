import VibeXperia.MultiHal.Poll

namespace VibeXperia.MultiHal

/-! ## What the handles given out stand for -/

/-- The statics and the proxy device after `open_sensors` and the first `get_sensors_list`. -/
structure Hal where
  statics : Statics
  dev : PollContext

def boot (modules : List SensorsModule) : Hal :=
  let opened := openSensors (lazyInitModules modules)
  { statics := lazyInitSensorsList opened.1, dev := opened.2 }

def Hal.sensors (hal : Hal) : List Sensor := hal.statics.globalSensorsList.getD []

/-- All sensors the sub-HALs report, each with the place of its module, in the order listed. -/
def subHalSensors (modules : List SensorsModule) : List (Sensor × Nat) :=
  modules.zipIdx.flatMap fun module => module.1.sensorsList.map fun sensor => (sensor, module.2)

def fullHandle (sensor : Sensor × Nat) : FullHandle := ⟨sensor.2, sensor.1.handle⟩

/-- Entry `position` of the list given to the framework has the handle `h` and stands for the
sensor that module `m` calls `l`. -/
structure HandedOut (modules : List SensorsModule) (position : Nat) (h : Int) (m : Nat) (l : Int) :
    Prop where
  listed : ((boot modules).sensors[position]?).map Sensor.handle = some h
  stands : ((subHalSensors modules)[position]?).map fullHandle = some ⟨m, l⟩

def Opened (modules : List SensorsModule) (m : Nat) : Prop :=
  ∃ module, modules[m]? = some module ∧ module.openResult = 0

instance (modules : List SensorsModule) (m : Nat) : Decidable (Opened modules m) :=
  decidable_of_iff ((modules[m]?).any fun module => module.openResult = 0) <| by
    simp [Opened, Option.any_eq_true]

/-! ## The requests of the framework -/

inductive Request
  | activate (enabled : Int)
  | setDelay (ns : Int)
  | batch (flags periodNs timeout : Int)
  | flush
  deriving DecidableEq, Repr

def Hal.perform (hal : Hal) (answer : SubHalCall → Int) (h : Int) : Request → Outcome
  | .activate enabled => activate hal.statics.maps hal.dev answer h enabled
  | .setDelay ns => setDelay hal.statics.maps hal.dev answer h ns
  | .batch flags periodNs timeout =>
      batch hal.statics.maps hal.dev answer hal.sensors h flags periodNs timeout
  | .flush => flush hal.statics.maps hal.dev answer h

def DeviceFunction.handle : DeviceFunction → Int
  | .activate handle _ | .setDelay handle _ | .batch handle _ _ _ | .flush handle => handle
  | .injectSensorData data => data.sensor

/-- The call arrived at the device that module `m` opened, for its sensor `l`. -/
def Outcome.Reaches (outcome : Outcome) (m : Nat) (l : Int) : Prop :=
  ∃ call, outcome.called = some call ∧ call.device.module = m ∧ call.dev = .sub call.device ∧
    call.function.handle = l

/-- The requests a device of this version is asked to serve: a device older than 1.1 has no
`flush`, and its `setDelay` stands in for `batch` where the times make sense. -/
def Request.Served (version : Int) : Request → Prop
  | .activate _ | .setDelay _ => True
  | .batch _ periodNs timeout =>
      SENSORS_DEVICE_API_VERSION_1_1 ≤ version ∨ 0 ≤ periodNs ∧ 0 ≤ timeout
  | .flush => SENSORS_DEVICE_API_VERSION_1_1 ≤ version

/-! ## The events of the sub-HALs -/

/-- The local handle an event is about. -/
def SensorsEvent.reference (event : SensorsEvent) : Int :=
  if event.type = SENSOR_TYPE_META_DATA then event.metaDataSensor else event.sensor

def SensorsEvent.refer (event : SensorsEvent) (handle : Int) : SensorsEvent :=
  if event.type = SENSOR_TYPE_META_DATA then { event with metaDataSensor := handle }
  else { event with sensor := handle }

/-- Whenever `poll` comes to the queue that `thread` fills and `event` is the oldest there, it
hands `event` on under the handle `h`. -/
def DeliveredUnder (hal : Hal) (thread : TaskContext) (event : SensorsEvent) (h : Int) : Prop :=
  ∀ (s : PollState) (queue : SensorEventQueue SensorsEvent), s.nextReadIndex = thread.queue →
    queue.peek = some event →
    (s.visit hal.statics.maps queue).data = s.data ++ [event.refer h]

/-! ## Devices beside modules -/

/-- `sub_hw_devices` names for `m` the device of `m` or, where `m` did not open, nothing. -/
def InStep (modules : List SensorsModule) (m : Nat) : Prop :=
  if Opened modules m then ∀ i < m, Opened modules i
  else (modules.filter fun module => module.openResult = 0).length ≤ m

instance (modules : List SensorsModule) (m : Nat) : Decidable (InStep modules m) :=
  inferInstanceAs (Decidable (if Opened modules m then ∀ i < m, Opened modules i
    else (modules.filter fun module => module.openResult = 0).length ≤ m))

end VibeXperia.MultiHal

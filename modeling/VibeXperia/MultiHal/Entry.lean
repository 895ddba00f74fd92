import VibeXperia.MultiHal.Routing

namespace VibeXperia.MultiHal

/-! ## The calls of the framework that are about one sensor -/

inductive Entry
  | request (handle : Int) (request : Request)
  | injectSensorData (data : SensorsEvent)
  deriving DecidableEq, Repr

def Entry.handle : Entry → Int
  | .request handle _ => handle
  | .injectSensorData data => data.sensor

def Hal.enter (hal : Hal) (answer : SubHalCall → Int) : Entry → Outcome
  | .request handle request => hal.perform answer handle request
  | .injectSensorData data => injectSensorData hal.statics.maps hal.dev answer data

/-- If a sub-HAL is called, it gets its own device, and the sensor by the handle it gave it. -/
def Outcome.Translated (outcome : Outcome) (modules : List SensorsModule) (h : Int) : Prop :=
  outcome.called ≠ none → ∃ position m l, HandedOut modules position h m l ∧ outcome.Reaches m l

/-- Data are injected into a device that takes them. -/
def Injects (modules : List SensorsModule) : Entry → Prop
  | .request _ _ => False
  | .injectSensorData data =>
      ∃ position m l module, HandedOut modules position data.sensor m l ∧ 0 ≤ l ∧
        modules[m]? = some module ∧ SENSORS_DEVICE_API_VERSION_1_4 ≤ module.deviceVersion

end VibeXperia.MultiHal

import VibeXperia.MultiHal.Merge
import VibeXperia.MultiHal.Routing

namespace VibeXperia.MultiHal

/-! ## Events of unknown sensors -/

/-- The handle registered for the sensor that an event of module `m` refers to. -/
def registered (maps : HandleMaps) (m : Nat) (event : SensorsEvent) : Option Int :=
  maps.fullToGlobal ⟨m, event.reference⟩

/-- The event under its registered handle; an event of an unknown sensor is not to be seen. -/
def translation (maps : HandleMaps) (m : Nat) (event : SensorsEvent) : Option SensorsEvent :=
  (registered maps m event).map event.refer

/-- Whenever `poll` comes to the queue that `thread` fills and `event` is the oldest there, it
hands on the translation of `event`, if there is one. -/
def TranslatedOrDropped (hal : Hal) (thread : TaskContext) (event : SensorsEvent) : Prop :=
  ∀ (s : PollState) (queue : SensorEventQueue SensorsEvent), s.nextReadIndex = thread.queue →
    queue.peek = some event →
    (s.visit hal.statics.maps queue).data =
      s.data ++ (translation hal.statics.maps thread.device.module event).toList

/-- The place of the queue leads to the registration of the module, and in a META_DATA event the
field that it does not use says -1 exactly for an unknown sensor. -/
def Telling (hal : Hal) (thread : TaskContext) (event : SensorsEvent) : Prop :=
  let own := registered hal.statics.maps thread.device.module event
  if event.type = SENSOR_TYPE_META_DATA then
    if event.sensor = -1 then own = none
    else own ≠ none ∧ registered hal.statics.maps thread.queue event = own
  else registered hal.statics.maps thread.queue event = own

instance (hal : Hal) (thread : TaskContext) (event : SensorsEvent) :
    Decidable (Telling hal thread event) := by
  unfold Telling
  infer_instance

end VibeXperia.MultiHal

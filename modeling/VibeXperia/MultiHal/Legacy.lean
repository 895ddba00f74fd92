import VibeXperia.MultiHal.Routing

namespace VibeXperia.MultiHal

/-! ## The period a legacy device is asked for -/

/-- The delays are of the type `int32_t`, and if there are two bounds, they leave room. -/
structure Sensor.WellFormed (sensor : Sensor) : Prop where
  minDelay : -2 ^ 31 ≤ sensor.minDelay ∧ sensor.minDelay < 2 ^ 31
  maxDelay : -2 ^ 31 ≤ sensor.maxDelay ∧ sensor.maxDelay < 2 ^ 31
  ordered : 0 < sensor.minDelay → 0 < sensor.maxDelay → sensor.minDelay ≤ sensor.maxDelay

/-- The period is within the bounds; one that is not positive is no bound. -/
structure Sensor.Admits (sensor : Sensor) (periodNs : Int) : Prop where
  lower : 0 < sensor.minDelay → sensor.minDelay * 1000 ≤ periodNs
  upper : 0 < sensor.maxDelay → periodNs ≤ sensor.maxDelay * 1000

/-- The period brought within the bounds. -/
def Sensor.clamp (sensor : Sensor) (periodNs : Int) : Int :=
  let below := if 0 < sensor.maxDelay then min periodNs (sensor.maxDelay * 1000) else periodNs
  if 0 < sensor.minDelay then max below (sensor.minDelay * 1000) else below

def IsInt64 (x : Int) : Prop := -2 ^ 63 ≤ x ∧ x < 2 ^ 63

end VibeXperia.MultiHal

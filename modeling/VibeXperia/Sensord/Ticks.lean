import VibeXperia.Lib.Clock
import VibeXperia.Lib.Run
import VibeXperia.Sensord.Algo
import VibeXperia.Sensord.Axis

namespace VibeXperia.Sensord
open Lib

/-! ## `util_time.c`: ticks -/

structure Timeval where
  tvSec : Int
  tvUsec : Int
  deriving DecidableEq, Repr

/-- The milliseconds since `g_start_time`, which moves when the clock is found set back. -/
def getTimeTick (gStartTime now : Timeval) : Timeval × BitVec 32 :=
  let gStartTime :=
    if now.tvUsec < gStartTime.tvUsec ∧ now.tvSec = gStartTime.tvSec ∨
        now.tvSec < gStartTime.tvSec then now
    else gStartTime
  (gStartTime, BitVec.ofInt 32 ((now.tvSec - gStartTime.tvSec) * 1000 +
    (now.tvUsec - gStartTime.tvUsec).tdiv 1000))

/-- The ticks that one call after another returns. -/
def timeTicks (gStartTime : Timeval) : List Timeval → List (BitVec 32)
  | [] => []
  | now :: later =>
      let (gStartTime, ret) := getTimeTick gStartTime now
      ret :: timeTicks gStartTime later

/-! ## `algo_adapter.c`: samples at ticks -/

def cfgToleranceTimePrecision : Int := 2

/-- `g_last_ts_a` and `g_data_a`, or those of the magnetometer. -/
structure Sampler where
  lastTs : BitVec 32
  data : Xyz
  deriving DecidableEq, Repr

abbrev Samplers := AxisSensor → Sampler

def startSamplers : Samplers := fun _ => ⟨-200, ⟨0, 0, 0⟩⟩

def AxisSensor.hwType : AxisSensor → SensorHwType
  | .a => .a
  | .m => .m

/-- One call of `algo_update_data` with what it finds: the variables of the sensors, whether
`g_p_hw_a` and `g_p_hw_m` point to them, and what `get_data_nb` returns and reads. -/
structure UpdateData where
  ts : BitVec 32
  gActiveHws : HwDepSet
  gDr : AxisSensor → Nat
  gPHw : AxisSensor → Bool
  getDataNb : AxisSensor → Int × Xyz

namespace UpdateData
variable (e : UpdateData) (sensor : AxisSensor)

/-- `HW_IS_ACTIVE` -/
def active : Bool := depBit e.gActiveHws sensor.hwType

def interval : Int := gTabIntvl.getD (e.gDr sensor) 0

/-- The difference that decides, as the machine computes it. -/
def tmp (s : Sampler) : Int :=
  (e.ts - s.lastTs - BitVec.ofInt 32 (e.interval sensor)).toInt

def sample (s : Sampler) : Sampler × Bool :=
  if e.gPHw sensor then
    let (err, val) := e.getDataNb sensor
    if err = 0 then (⟨e.ts, ⟨signed 16 val.x, signed 16 val.y, signed 16 val.z⟩⟩, true)
    else ({ s with lastTs := e.ts }, true)
  else ({ s with lastTs := e.ts }, false)

/-- What the call does with one sensor, and whether it reads it. -/
def update (s : Sampler) : Sampler × Bool :=
  if e.active sensor then
    if s.lastTs.toInt < e.ts.toInt then
      if e.tmp sensor s ≥ 0 ∨ e.tmp sensor s + cfgToleranceTimePrecision > 0 then
        e.sample sensor s
      else (s, false)
    else ({ s with lastTs := e.ts }, false)
  else (s, false)

end UpdateData

def algoUpdateData (s : Samplers) (e : UpdateData) : Samplers × List AxisSensor :=
  (fun sensor => (e.update sensor (s sensor)).1,
    [.a, .m].filter fun sensor => (e.update sensor (s sensor)).2)

/-! ## What is asked of the samples of one sensor -/

section Sampling
variable (sensor : AxisSensor) (s : Samplers) (es : List UpdateData)

/-- Neither subtraction in `ts - g_last_ts - g_tab_intvl[g_dr]` overflows where it is computed. -/
def NeverOverflows : Prop :=
  ∀ t ∈ trace algoUpdateData s es, t.event.active sensor →
    (t.before sensor).lastTs.toInt < t.event.ts.toInt →
      ¬ t.event.ts.ssubOverflow (t.before sensor).lastTs ∧
        ¬ (t.event.ts - (t.before sensor).lastTs).ssubOverflow
          (BitVec.ofInt 32 (t.event.interval sensor))

/-- From the call at one moment on, the sensor is there and active at one rate, and the ticks
advance by at most its interval. -/
structure SampledSteadily (moment : UpdateData) (segment : List UpdateData) : Prop where
  active : ∀ e ∈ moment :: segment, e.active sensor
  present : ∀ e ∈ moment :: segment, e.gPHw sensor
  rate : ∀ e ∈ segment, e.gDr sensor = moment.gDr sensor
  inTable : moment.gDr sensor < gTabIntvl.length
  steady : Steady (moment.interval sensor) moment.ts (segment.map UpdateData.ts)

def Samples (s : Samplers) (e : UpdateData) : Prop :=
  sensor ∈ (algoUpdateData s e).2 ∧ ((algoUpdateData s e).1 sensor).lastTs = e.ts

/-- Once four intervals have passed at a steady pace, a sample was taken within them. -/
def NeverStalls : Prop :=
  ∀ before moment segment after, es = before ++ moment :: (segment ++ after) →
    SampledSteadily sensor moment segment →
    4 * moment.interval sensor ≤ elapsed moment.ts (segment.map UpdateData.ts) →
    ∃ taken e rest, segment = taken ++ e :: rest ∧
      elapsed moment.ts ((taken ++ [e]).map UpdateData.ts) ≤ 4 * moment.interval sensor ∧
      Samples sensor (final algoUpdateData s (before ++ moment :: taken)) e

/-- A tick is not half the range of ticks or more after the last sample. -/
def TickNear (s : Samplers) (e : UpdateData) : Prop :=
  e.active sensor → (s sensor).lastTs.toInt < e.ts.toInt →
    e.ts.toInt - (s sensor).lastTs.toInt < 2 ^ 31

end Sampling

/-! ## What is asked of the ticks -/

/-- What `gettimeofday` reads. -/
structure Reading where
  time : Timeval
  low : 0 ≤ time.tvUsec
  high : time.tvUsec < 1000000

def Reading.micros (reading : Reading) : Int :=
  reading.time.tvSec * 1000000 + reading.time.tvUsec

def tickStep (gStartTime : Timeval) (now : Reading) : Timeval × List (BitVec 32) :=
  ((getTimeTick gStartTime now.time).1, [(getTimeTick gStartTime now.time).2])

/-- What the call at the last reading returns, after calls at the readings before it. -/
def tickAt (start : Reading) (before : List Reading) (now : Reading) : BitVec 32 :=
  (getTimeTick (final tickStep start.time before) now.time).2

/-- The moment that time counts from: the start, or the earliest reading since that lies before
it. -/
def startReference (start : Reading) (readings : List Reading) : Int :=
  (readings.map Reading.micros).foldl min start.micros

/-- `ticks before now` are the milliseconds that a counter of unbounded width shows at `now`. -/
structure FollowsTime (start : Reading) (ticks : List Reading → Reading → Int) : Prop where
  near : ∀ before now,
    (1000 * ticks before now - (now.micros - startReference start (before ++ [now]))).natAbs < 1000
  steady : ∀ before now between later,
    (now :: between ++ [later]).Pairwise (fun r s => r.micros ≤ s.micros) →
    ticks before now ≤ ticks (before ++ now :: between) later
  rebased : ∀ before now, now.micros < startReference start before → ticks before now = 0

end VibeXperia.Sensord

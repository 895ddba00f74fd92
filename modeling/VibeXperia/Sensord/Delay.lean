import Mathlib.Order.Bounds.Defs
import VibeXperia.Sensord.Channel

namespace VibeXperia.Sensord

/-! ## The interval that a delay leads to -/

/-- The delay brought within the bounds of the channel. -/
def ChannelCfg.clamp (cfg : ChannelCfg) (delay : Int) : Int :=
  max cfg.intervalMin (min delay cfg.intervalMax)

/-- The bounds are of the type `uint16_t`; the lower one divides a second. -/
structure ChannelCfg.Divisible (cfg : ChannelCfg) : Prop where
  nonneg : 0 ≤ cfg.intervalMin
  divides : cfg.intervalMin ∣ 1000
  ordered : cfg.intervalMin ≤ cfg.intervalMax
  second : cfg.intervalMax ≤ 1000

/-- Commands reach the channel, which is registered at the provider that its `cfg` names. -/
structure Served (b : Build) (s : Daemon) (ch : Sensor) : Prop where
  listed : ch ∈ gListCh b
  available : (s.channel ch).cfg.availability ≠ .unavailable
  registered : (s.channel ch).sp = some (chCfg b ch).spName

/-- The largest divisor of a second that is not above `bound`. -/
def LargestDivisor (bound interval : Int) : Prop := IsGreatest {d : Int | d ∣ 1000 ∧ d ≤ bound} interval

/-- What the interval is to be: channels of the fusion provider get a divisor of a second. -/
def IntervalFor (ch : Sensor) (bound interval : Int) : Prop :=
  if ch = .p then interval = bound else LargestDivisor bound interval

end VibeXperia.Sensord

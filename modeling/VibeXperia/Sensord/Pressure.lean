import VibeXperia.Sensord.Power

namespace VibeXperia.Sensord
open Lib

/-! ## The interval of a provider without a hint -/

namespace Daemon
variable (b : Build) (s : Daemon)

/-- The channels of the provider that are not asleep. -/
def awakeClients (sp : ProviderName) : List Sensor :=
  (gListCh b).filter fun ch => s.awake ch && s.clientOf sp ch

/-- The greatest common divisor of 1000 and their intervals. -/
def clientInterval (sp : ProviderName) : Nat :=
  (s.awakeClients b sp).foldr (fun ch divisor => Int.gcd (s.channel ch).interval divisor) 1000

end Daemon

/-- The interval of every provider that is asked for no hint is that of its channels. -/
def IntervalsFit (b : Build) (s : Daemon) : Prop :=
  ∀ sp ∈ gListSp b, sp.getHintProcInterval b s = none →
    ((s.sp sp).interval : Int) = max intvProcMin (s.clientInterval b sp)

/-- The command finds the channel of the pressure sensor asleep and does not leave it so. -/
def Event.WakesPressure (b : Build) (e : Event) (s : Daemon) : Prop :=
  .p ∈ gListCh b ∧ (s.channel .p).cfg.availability ≠ .unavailable ∧ s.awake .p = false ∧
    match e.command with
    | .cmd handle cmd value => handle = Sensor.p.handle ∧ cmd = setSensorActive ∧ value ≠ 0
    | .display on => on = true ∧ (s.channel .p).prevState ≠ .sleep

end VibeXperia.Sensord

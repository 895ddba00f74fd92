import VibeXperia.Sensord.Delay
import VibeXperia.Proof.Sensord.Agreement
import VibeXperia.Proof.Sensord.Products

namespace VibeXperia.Proof.Sensord
open Lib VibeXperia.Sensord

variable {b : Build} {calls : Sensor → HwCalls} {ch : Sensor} {s : Daemon} {cfg : ChannelCfg}
variable {delay : Int}

/-! ## Bounds -/

theorem ChannelCfg.Divisible.pos (h : cfg.Divisible) : 0 < cfg.intervalMin := by
  have nonneg := h.nonneg
  rcases h.divides with ⟨k, second⟩
  rcases Int.lt_or_eq_of_le nonneg with pos | zero
  · exact pos
  · rw [← zero, Int.zero_mul] at second
    omega

/-! ## Divisors -/

theorem getNearestDivisibleInt_largest {bound : Int} (pos : 0 < bound) (second : bound ≤ 1000) :
    LargestDivisor bound (getNearestDivisibleInt 1000 bound.toNat) := by
  have positive : 0 < bound.toNat := by omega
  rw [getNearestDivisibleInt, if_neg positive.ne', if_neg (by omega)]
  split_ifs with all
  · have whole : bound = 1000 := by omega
    rw [whole]
    exact ⟨⟨Int.dvd_refl 1000, Int.le_refl 1000⟩, fun d member => member.2⟩
  · obtain ⟨divides, least⟩ := @nearestDivisor_dvd 1000 bound.toNat positive
    refine ⟨⟨Int.natCast_dvd_natCast.mpr divides, by omega⟩, fun d member => ?_⟩
    obtain ⟨divisor, below⟩ := member
    rcases Int.le_total d 0 with negative | nonneg
    · omega
    · have natural : d.toNat ∣ 1000 := by
        rw [← Int.natCast_dvd_natCast, Int.toNat_of_nonneg nonneg]
        exact divisor
      have most := @le_nearestDivisor 1000 bound.toNat d.toNat natural (by omega)
      omega

theorem LargestDivisor.bounds {bound interval : Int} (h : LargestDivisor bound interval)
    (divisible : cfg.Divisible) (low : cfg.intervalMin ≤ bound) :
    cfg.intervalMin ≤ interval ∧ interval ≤ bound :=
  ⟨h.2 ⟨divisible.divides, low⟩, h.1.2⟩

/-! ## The command -/

theorem channelGetCh_handle (listed : ch ∈ gListCh b) : channelGetCh b ch.handle = some ch := by
  have only (x : Sensor) : (ch.handle == x.handle) = true ↔ x = ch := by
    rw [beq_iff_eq]
    cases ch <;> cases x <;> decide
  rw [channelGetCh, find?_of_iff only, if_pos listed]

theorem setDelay_command (h : Served b s ch) (calls : Sensor → HwCalls) (value : Int) :
    channelOnCmdReceived b calls ch.handle setSensorDelay value s =
      channelSetDelay b (calls ch) ch value s := by
  rw [channelOnCmdReceived, channelGetCh_handle h.listed]
  dsimp only
  rw [if_neg h.available, if_neg (by decide), if_pos rfl]

theorem channelSetDelay_interval (h : Served b s ch) (divisible : (s.channel ch).cfg.Divisible)
    (accepted : 0 ≤ delay) (calls : HwCalls) :
    (channelSetDelay b calls ch delay s).1 = 0 ∧
      IntervalFor ch ((s.channel ch).cfg.clamp delay)
        ((channelSetDelay b calls ch delay s).2.channel ch).interval := by
  have minimum := ChannelCfg.Divisible.pos divisible
  have second := divisible.second
  obtain ⟨low, high⟩ := clamp_bounds divisible.ordered delay
  have passed : ¬ delay < sampleIntervalMin := by
    rw [sampleIntervalMin]
    omega
  rw [channelSetDelay, h.registered]
  simp only [if_neg passed, clamp_eq divisible.ordered]
  generalize (s.channel ch).cfg.clamp delay = bound at low high
  refine ⟨trivial, ?_⟩
  by_cases pressure : ch = .p
  · have provider : (chCfg b ch).spName = .spPressure := if_pos pressure
    rw [IntervalFor, if_pos pressure, provider]
    have stored : signed 16 bound = bound := signed_of_lt (by omega) (by omega)
    simp only [ProviderName.onChIntervalChanged, spRecalcIntervalRe, Daemon.setSp,
      Daemon.setChannel, Function.update_self, stored]
  · have provider : (chCfg b ch).spName = .spFusion := if_neg pressure
    rw [IntervalFor, if_neg pressure, provider]
    have largest := getNearestDivisibleInt_largest (by omega : 0 < bound) (by omega)
    obtain ⟨least, most⟩ := LargestDivisor.bounds largest divisible low
    have stored : signed 16 (getNearestDivisibleInt 1000 bound.toNat) =
        getNearestDivisibleInt 1000 bound.toNat := signed_of_lt (by omega) (by omega)
    simp only [ProviderName.onChIntervalChanged, fusionOnChIntervalChanged, fusionGetProduct_eq,
      if_pos (mem_productsFusion h.listed pressure), algoOnIntervalChanged,
      if_neg (by omega : ¬ bound ≤ 0), spRecalcIntervalRe, Daemon.setSp, Daemon.setChannel,
      Function.update_self, stored]
    exact largest

/-- An accepted delay is brought within the channel's bounds, and for a channel of the fusion
provider down to the next divisor of a second; any other is rejected and changes nothing. -/
theorem delay_within_bounds (h : Served b s ch) (divisible : (s.channel ch).cfg.Divisible)
    (calls : Sensor → HwCalls) (delay : Int) :
    (0 ≤ delay →
      (channelOnCmdReceived b calls ch.handle setSensorDelay delay s).1 = 0 ∧
      IntervalFor ch ((s.channel ch).cfg.clamp delay)
        ((channelOnCmdReceived b calls ch.handle setSensorDelay delay s).2.channel ch).interval ∧
      (s.channel ch).cfg.intervalMin ≤
        ((channelOnCmdReceived b calls ch.handle setSensorDelay delay s).2.channel ch).interval ∧
      ((channelOnCmdReceived b calls ch.handle setSensorDelay delay s).2.channel ch).interval ≤
        (s.channel ch).cfg.intervalMax) ∧
    (delay < 0 →
      channelOnCmdReceived b calls ch.handle setSensorDelay delay s = (-einval, s)) := by
  rw [setDelay_command h]
  constructor
  · intro accepted
    obtain ⟨result, interval⟩ := channelSetDelay_interval h divisible accepted (calls ch)
    obtain ⟨low, high⟩ := clamp_bounds divisible.ordered delay
    refine ⟨result, interval, ?_⟩
    unfold IntervalFor at interval
    split_ifs at interval
    · rw [interval]
      exact ⟨low, high⟩
    · obtain ⟨least, most⟩ := LargestDivisor.bounds interval divisible low
      exact ⟨least, most.trans high⟩
  · intro negative
    rw [channelSetDelay, h.registered]
    exact if_pos negative

/-- The magnetometer asked for 130 ms is set to 125. -/
theorem delay_within_bounds_magnetometer :
    LargestDivisor 130 ((channelOnCmdReceived nicki (fun _ => quiet) 2 setSensorDelay 130
      (start nicki noErrs)).2.channel .m).interval := by
  have served : Served nicki (start nicki noErrs) .m := ⟨by decide, by decide, by decide⟩
  have divisible : ((start nicki noErrs).channel .m).cfg.Divisible :=
    ⟨by decide, by decide, by decide, by decide⟩
  have interval := ((delay_within_bounds served divisible (fun _ => quiet) 130).1 (by decide)).2.1
  rw [IntervalFor, if_neg (by decide)] at interval
  exact interval

/-- The pressure sensor keeps a delay of 150 ms, which is no divisor of a second. -/
theorem pressure_delay_not_rounded :
    Served withPressure (start withPressure noErrs) .p ∧
    ((start withPressure noErrs).channel .p).cfg.Divisible ∧
    ((channelOnCmdReceived withPressure (fun _ => quiet) Sensor.p.handle setSensorDelay 150
      (start withPressure noErrs)).2.channel .p).interval = 150 ∧
    ¬ LargestDivisor 150 150 := by
  refine ⟨⟨by decide, by decide, by decide⟩, ⟨by decide, by decide, by decide, by decide⟩,
    by decide, ?_⟩
  intro largest
  exact absurd largest.1.1 (by decide)

end VibeXperia.Proof.Sensord

import VibeXperia.Sensord.Ticks
import VibeXperia.Proof.Sensord.Products

namespace VibeXperia.Proof.Sensord
open Lib VibeXperia.Sensord

variable {sensor : AxisSensor} {s : Samplers} {e moment : UpdateData}

/-! ## Ticks -/

theorem timeTicks_any (ticks : List (BitVec 32)) :
    timeTicks ⟨0, 0⟩ (ticks.map fun t => ⟨t.toNat / 1000, t.toNat % 1000 * 1000⟩) = ticks := by
  induction ticks with
  | nil => rfl
  | cons t ticks ih =>
      have forward : ¬ ((t.toNat % 1000 * 1000 : Int) < 0 ∧ (t.toNat / 1000 : Int) = 0 ∨
          (t.toNat / 1000 : Int) < 0) := by omega
      have whole : ((t.toNat : Int) / 1000 - 0) * 1000 +
          ((t.toNat : Int) % 1000 * 1000 - 0).tdiv 1000 = t.toNat := by
        rw [Int.sub_zero, Int.sub_zero, Int.mul_tdiv_cancel _ (by decide)]
        exact Int.ediv_mul_add_emod _ _
      rw [List.map_cons, timeTicks, getTimeTick, if_neg forward]
      dsimp only
      rw [whole, ih, BitVec.ofInt_natCast, BitVec.ofNat_toNat, BitVec.setWidth_eq]

/-! ## One call -/

theorem interval_bounds (e : UpdateData) (sensor : AxisSensor) :
    0 ≤ e.interval sensor ∧ e.interval sensor ≤ 1000 := by
  unfold UpdateData.interval
  rcases Nat.lt_or_ge (e.gDr sensor) 8 with inside | outside
  · exact ⟨(gTabIntvl_pos inside).le, gTabIntvl_antitone (Nat.zero_le _) inside⟩
  · rw [List.getD_eq_getElem?_getD, List.getElem?_eq_none outside]
    decide

theorem toInt_interval (e : UpdateData) (sensor : AxisSensor) :
    (BitVec.ofInt 32 (e.interval sensor)).toInt = e.interval sensor := by
  have bounds := interval_bounds e sensor
  rw [BitVec.toInt_ofInt]
  exact Int.bmod_eq_of_le (by omega) (by omega)

/-- The two subtractions stay in range exactly when the tick is near the last sample. -/
theorem in_range_iff {last : BitVec 32} (later : last.toInt < e.ts.toInt) :
    (¬ e.ts.ssubOverflow last ∧
      ¬ (e.ts - last).ssubOverflow (BitVec.ofInt 32 (e.interval sensor))) ↔
    e.ts.toInt - last.toInt < 2 ^ 31 := by
  have bounds := interval_bounds e sensor
  have first : ¬ e.ts.ssubOverflow last ↔ e.ts.toInt - last.toInt < 2 ^ 31 := by
    simp only [BitVec.ssubOverflow, Bool.or_eq_true, decide_eq_true_eq]
    omega
  rw [first]
  refine and_iff_left_of_imp fun near => ?_
  have exact := BitVec.toInt_sub_of_not_ssubOverflow (first.mpr near)
  simp only [BitVec.ssubOverflow, Bool.or_eq_true, decide_eq_true_eq, toInt_interval]
  omega

theorem tmp_of_near (near : e.ts.toInt - (s sensor).lastTs.toInt < 2 ^ 31)
    (later : (s sensor).lastTs.toInt < e.ts.toInt) :
    e.tmp sensor (s sensor) =
      e.ts.toInt - (s sensor).lastTs.toInt - e.interval sensor := by
  have inRange := (@in_range_iff sensor e _ later).mpr near
  unfold UpdateData.tmp
  rw [BitVec.toInt_sub_of_not_ssubOverflow inRange.2,
    BitVec.toInt_sub_of_not_ssubOverflow inRange.1, toInt_interval]

theorem mem_algoUpdateData : sensor ∈ (algoUpdateData s e).2 ↔ (e.update sensor (s sensor)).2 := by
  cases sensor <;> simp [algoUpdateData, List.mem_filter]

theorem lastTs_sample (p : Sampler) : (e.sample sensor p).1.lastTs = e.ts := by
  unfold UpdateData.sample
  dsimp only
  split_ifs <;> rfl

theorem sample_reads (present : e.gPHw sensor) (p : Sampler) : (e.sample sensor p).2 := by
  unfold UpdateData.sample
  dsimp only
  split_ifs <;> rfl

theorem call_cases (active : e.active sensor) (present : e.gPHw sensor)
    (near : TickNear sensor s e) :
    Samples sensor s e ∨
    (e.ts.toInt ≤ (s sensor).lastTs.toInt ∧ ((algoUpdateData s e).1 sensor).lastTs = e.ts) ∨
    ((s sensor).lastTs.toInt < e.ts.toInt ∧
      e.ts.toInt - (s sensor).lastTs.toInt ≤ e.interval sensor - 2 ∧
      ((algoUpdateData s e).1 sensor).lastTs = (s sensor).lastTs) := by
  by_cases later : (s sensor).lastTs.toInt < e.ts.toInt
  · have exact := tmp_of_near (near active later) later
    by_cases due : e.tmp sensor (s sensor) ≥ 0 ∨
        e.tmp sensor (s sensor) + cfgToleranceTimePrecision > 0
    · have same : e.update sensor (s sensor) = e.sample sensor (s sensor) := by
        rw [UpdateData.update, if_pos active, if_pos later, if_pos due]
      refine .inl ⟨mem_algoUpdateData.mpr ?_, ?_⟩
      · rw [same]
        exact sample_reads present _
      · change (e.update sensor (s sensor)).1.lastTs = e.ts
        rw [same, lastTs_sample]
    · refine .inr (.inr ⟨later, ?_, ?_⟩)
      · unfold cfgToleranceTimePrecision at due
        omega
      · change (e.update sensor (s sensor)).1.lastTs = _
        rw [UpdateData.update, if_pos active, if_pos later, if_neg due]
  · refine .inr (.inl ⟨Int.not_lt.mp later, ?_⟩)
    change (e.update sensor (s sensor)).1.lastTs = e.ts
    rw [UpdateData.update, if_pos active, if_neg later]

/-! ## Steady ticks -/

structure Waiting (interval : Int) (last tick : BitVec 32) (passed : Nat) : Prop where
  nonneg : last.toInt ≤ tick.toInt
  short : tick.toInt - last.toInt ≤ interval - 2
  wrapped : passed ≤ tick.toInt - last.toInt ∨
    passed ≤ 2 * interval - 2 + (tick.toInt - last.toInt) ∧ last.toInt < -2 ^ 31 + interval

theorem Waiting.bound {interval : Int} {last tick : BitVec 32} {passed : Nat}
    (waiting : Waiting interval last tick passed) (long : 2 ≤ interval) :
    passed ≤ 3 * interval - 4 := by
  obtain ⟨nonneg, short, wrapped⟩ := waiting
  omega

theorem Waiting.begin {interval : Int} {tick : BitVec 32} (long : 2 ≤ interval) :
    Waiting interval tick tick 0 where
  nonneg := le_refl _
  short := by omega
  wrapped := .inl (by omega)

theorem waiting_first (active : moment.active sensor) (present : moment.gPHw sensor)
    (near : TickNear sensor s moment) (long : 2 ≤ moment.interval sensor) :
    Waiting (moment.interval sensor) ((algoUpdateData s moment).1 sensor).lastTs moment.ts 0 := by
  rcases call_cases active present near with ⟨-, now⟩ | ⟨-, now⟩ | ⟨later, short, same⟩
  · rw [now]
    exact .begin long
  · rw [now]
    exact .begin long
  · rw [same]
    exact ⟨later.le, short, .inl (by omega)⟩

theorem waiting_step {tick : BitVec 32} {passed : Nat} (active : e.active sensor)
    (present : e.gPHw sensor) (near : TickNear sensor s e)
    (waiting : Waiting (e.interval sensor) (s sensor).lastTs tick passed)
    (step : 0 < (e.ts - tick).toNat ∧ ((e.ts - tick).toNat : Int) ≤ e.interval sensor) :
    Samples sensor s e ∨
    Waiting (e.interval sensor) ((algoUpdateData s e).1 sensor).lastTs e.ts
      (passed + (e.ts - tick).toNat) := by
  obtain ⟨nonneg, short, wrapped⟩ := waiting
  have bounds := interval_bounds e sensor
  have low := BitVec.le_toInt e.ts
  have high := @BitVec.toInt_lt 32 tick
  have passes := toInt_later tick e.ts
  rcases call_cases active present near with now | ⟨behind, now⟩ | ⟨later, close, same⟩
  · exact .inl now
  · -- only a tick that wrapped is behind
    refine .inr ⟨by rw [now], by rw [now]; omega, .inr ?_⟩
    rw [now]
    omega
  · rw [same]
    exact .inr ⟨later.le, close, by omega⟩

theorem samples_in_time {interval : Int} {tick : BitVec 32} {passed : Nat}
    {segment : List UpdateData} (long : 2 ≤ interval)
    (calls : ∀ e ∈ segment, e.active sensor ∧ e.gPHw sensor ∧ e.interval sensor = interval)
    (near : ∀ t ∈ trace algoUpdateData s segment, TickNear sensor t.before t.event)
    (steady : Steady interval tick (segment.map UpdateData.ts))
    (waiting : Waiting interval (s sensor).lastTs tick passed)
    (enough : 4 * interval ≤ passed + elapsed tick (segment.map UpdateData.ts)) :
    ∃ taken e rest, segment = taken ++ e :: rest ∧
      passed + elapsed tick ((taken ++ [e]).map UpdateData.ts) ≤ 4 * interval ∧
      Samples sensor (final algoUpdateData s taken) e := by
  have bound := waiting.bound long
  induction segment generalizing s tick passed with
  | nil =>
      simp only [List.map_nil, elapsed_nil] at enough
      omega
  | cons e segment ih =>
      obtain ⟨⟨active, present, rfl⟩, calls⟩ := List.forall_mem_cons.mp calls
      obtain ⟨now, near⟩ := List.forall_mem_cons.mp near
      rw [List.map_cons] at steady enough
      rcases waiting_step active present now waiting steady.first with sampled | waiting
      · refine ⟨[], e, segment, rfl, ?_, sampled⟩
        have step := steady.first
        simp only [List.nil_append, List.map_cons, List.map_nil, elapsed_cons, elapsed_nil]
        omega
      · have later : 4 * e.interval sensor ≤
            (passed + (e.ts - tick).toNat : Nat) + elapsed e.ts (segment.map UpdateData.ts) := by
          rw [elapsed_cons] at enough
          omega
        obtain ⟨taken, e', rest, rfl, within, sampled⟩ :=
          ih calls near steady.rest waiting later (waiting.bound long)
        refine ⟨e :: taken, e', rest, rfl, ?_, sampled⟩
        rw [List.cons_append, List.map_cons, elapsed_cons]
        omega

theorem never_stalls {es : List UpdateData}
    (near : ∀ t ∈ trace algoUpdateData s es, TickNear sensor t.before t.event) :
    NeverStalls sensor s es := by
  intro before moment segment after split stretch enough
  obtain ⟨active, present, rate, inTable, steady⟩ := stretch
  obtain ⟨first, active⟩ := List.forall_mem_cons.mp active
  obtain ⟨there, present⟩ := List.forall_mem_cons.mp present
  rw [split, trace_append, trace_cons, trace_append] at near
  have arrives : TickNear sensor (final algoUpdateData s before) moment :=
    near _ (List.mem_append_right _ List.mem_cons_self)
  have long : 2 ≤ moment.interval sensor := by
    have least : gTabIntvl.getD 7 0 ≤ moment.interval sensor :=
      gTabIntvl_antitone (Nat.le_of_lt_succ inTable) (by decide)
    exact le_trans (by decide) least
  have calls : ∀ e ∈ segment, e.active sensor ∧ e.gPHw sensor ∧
      e.interval sensor = moment.interval sensor := by
    intro e member
    refine ⟨active e member, present e member, ?_⟩
    rw [UpdateData.interval, rate e member, ← UpdateData.interval]
  have begun := waiting_first first there arrives long
  have later := fun t member => near t
    (List.mem_append_right _ (List.mem_cons_of_mem _ (List.mem_append_left _ member)))
  obtain ⟨taken, e, rest, same, within, sampled⟩ :=
    samples_in_time long calls later steady begun (by simpa using enough)
  refine ⟨taken, e, rest, same, by simpa using within, ?_⟩
  rw [final_append]
  exact sampled

/-- Ticks that stay near the last samples are what it takes for samples to be taken in time and
for the difference that decides never to overflow. -/
theorem samples_keep_up_iff (sensor : AxisSensor) (s : Samplers) (es : List UpdateData) :
    NeverOverflows sensor s es ∧ NeverStalls sensor s es ↔
      ∀ t ∈ trace algoUpdateData s es, TickNear sensor t.before t.event := by
  have exact : NeverOverflows sensor s es ↔
      ∀ t ∈ trace algoUpdateData s es, TickNear sensor t.before t.event :=
    forall₂_congr fun t _ => forall₂_congr fun _ later => in_range_iff later
  rw [exact]
  exact and_iff_left_of_imp never_stalls

/-! ## A clock that is set back -/

def accelerometerTick (ts : BitVec 32) : UpdateData where
  ts := ts
  gActiveHws := depMask .a
  gDr := fun _ => 1
  gPHw := fun _ => true
  getDataNb := fun _ => (0, ⟨1, 2, 3⟩)

def ticksSetBack : List UpdateData :=
  accelerometerTick 2147483648 :: accelerometerTick 200 ::
    [400, 600, 800, 1000].map accelerometerTick

/-- The clock is found set back by a thread other than the one that takes samples. From then on the
accelerometer is not read at all. -/
theorem set_back_clock_stalls :
    timeTicks ⟨1000000, 0⟩ [⟨3147483, 648000⟩, ⟨500000, 0⟩, ⟨500000, 200000⟩, ⟨500000, 400000⟩,
        ⟨500000, 600000⟩, ⟨500000, 800000⟩, ⟨500001, 0⟩] =
      [2147483648, 0, 200, 400, 600, 800, 1000] ∧
    ¬ NeverOverflows .a startSamplers ticksSetBack ∧
    ¬ NeverStalls .a startSamplers ticksSetBack := by
  refine ⟨by decide, fun never => ?_, fun never => ?_⟩
  · have overflows : ∃ t ∈ trace algoUpdateData startSamplers ticksSetBack,
        t.event.active .a ∧ (t.before .a).lastTs.toInt < t.event.ts.toInt ∧
          t.event.ts.ssubOverflow (t.before .a).lastTs := by decide
    obtain ⟨t, member, active, later, overflow⟩ := overflows
    exact (never t member active later).1 overflow
  · have quiet : ∀ t ∈ trace algoUpdateData startSamplers ticksSetBack, .a ∉ t.outputs := by decide
    have stretch : SampledSteadily .a (accelerometerTick 200)
        ([400, 600, 800, 1000].map accelerometerTick) := by
      refine ⟨by decide, by decide, by decide, by decide, ?_⟩
      unfold Steady
      decide
    obtain ⟨taken, e, rest, same, -, sampled, -⟩ :=
      never [accelerometerTick 2147483648] _ _ [] (by rfl) stretch (by decide)
    rw [ticksSetBack, same, ← List.cons_append, ← List.cons_append, trace_append] at quiet
    exact quiet _ (List.mem_append_right _ List.mem_cons_self) sampled

/-! ## The counter -/

def millis (reference now : Timeval) : Int :=
  (now.tvSec - reference.tvSec) * 1000 + (now.tvUsec - reference.tvUsec).tdiv 1000

theorem tdiv_cases (value : Int) :
    0 ≤ value ∧ value.tdiv 1000 = value / 1000 ∨
      value < 0 ∧ value.tdiv 1000 = -(-value / 1000) := by
  rcases Int.lt_or_le value 0 with negative | nonneg
  · have flipped := Int.tdiv_eq_ediv_of_nonneg (b := 1000) (show 0 ≤ -value by omega)
    rw [Int.neg_tdiv] at flipped
    exact .inr ⟨negative, by omega⟩
  · exact .inl ⟨nonneg, Int.tdiv_eq_ediv_of_nonneg nonneg⟩

theorem millis_near (reference now : Reading) :
    (1000 * millis reference.time now.time - (now.micros - reference.micros)).natAbs < 1000 := by
  have truncated := tdiv_cases (now.time.tvUsec - reference.time.tvUsec)
  unfold millis Reading.micros
  omega

theorem millis_mono {reference now later : Reading} (order : now.micros ≤ later.micros) :
    millis reference.time now.time ≤ millis reference.time later.time := by
  have := reference.low
  have := reference.high
  have := now.low
  have := now.high
  have := later.low
  have := later.high
  have first := tdiv_cases (now.time.tvUsec - reference.time.tvUsec)
  have second := tdiv_cases (later.time.tvUsec - reference.time.tvUsec)
  unfold Reading.micros at order
  unfold millis
  omega

theorem millis_self (now : Timeval) : millis now now = 0 := by simp [millis]

def rebase (reference now : Reading) : Reading :=
  if now.micros < reference.micros then now else reference

theorem rebase_micros (reference now : Reading) :
    (rebase reference now).micros = min reference.micros now.micros := by
  unfold rebase
  split_ifs with early
  · exact (min_eq_right early.le).symm
  · exact (min_eq_left (not_lt.mp early)).symm

theorem getTimeTick_eq (reference now : Reading) :
    getTimeTick reference.time now.time =
      ((rebase reference now).time,
        BitVec.ofInt 32 (millis (rebase reference now).time now.time)) := by
  have order : now.time.tvUsec < reference.time.tvUsec ∧
      now.time.tvSec = reference.time.tvSec ∨ now.time.tvSec < reference.time.tvSec ↔
        now.micros < reference.micros := by
    have := reference.low
    have := reference.high
    have := now.low
    have := now.high
    unfold Reading.micros
    omega
  simp only [getTimeTick, order, rebase, millis]
  split_ifs <;> rfl

def referenceAfter (start : Reading) (readings : List Reading) : Reading :=
  readings.foldl rebase start

theorem final_tickStep (start : Reading) (readings : List Reading) :
    final tickStep start.time readings = (referenceAfter start readings).time := by
  induction readings generalizing start with
  | nil => rfl
  | cons now readings ih =>
      rw [final_cons, tickStep, getTimeTick_eq]
      exact ih (rebase start now)

theorem referenceAfter_micros (start : Reading) (readings : List Reading) :
    (referenceAfter start readings).micros = startReference start readings := by
  induction readings generalizing start with
  | nil => rfl
  | cons now readings ih =>
      have earlier := ih (rebase start now)
      rw [startReference, rebase_micros] at earlier
      exact earlier

theorem referenceAfter_append (start : Reading) (before : List Reading) (now : Reading) :
    referenceAfter start (before ++ [now]) = rebase (referenceAfter start before) now := by
  simp [referenceAfter]

theorem referenceAfter_steady (reference : Reading) (readings : List Reading)
    (later : ∀ r ∈ readings, reference.micros ≤ r.micros) :
    referenceAfter reference readings = reference := by
  induction readings with
  | nil => rfl
  | cons now readings ih =>
      have kept : rebase reference now = reference := if_neg (not_lt.mpr (later now (by simp)))
      rw [referenceAfter, List.foldl_cons, kept]
      exact ih fun r member => later r (by simp [member])

/-- The ticks are those of a counter that follows the time, modulo `2 ^ 32`. -/
theorem getTimeTick_followsTime (start : Reading) :
    ∃ ticks, FollowsTime start ticks ∧
      ∀ before now, tickAt start before now = BitVec.ofInt 32 (ticks before now) := by
  refine ⟨fun before now => millis (referenceAfter start (before ++ [now])).time now.time,
    ?_, ?_⟩
  · constructor
    case near =>
      intro before now
      rw [← referenceAfter_micros]
      exact millis_near _ now
    case steady =>
      intro before now between later ordered
      have split : before ++ now :: between ++ [later] =
          (before ++ [now]) ++ (between ++ [later]) := by simp
      have first : (referenceAfter start (before ++ [now])).micros ≤ now.micros := by
        rw [referenceAfter_append, rebase_micros]
        exact min_le_right _ _
      have rest := List.pairwise_cons.mp ordered
      have same : referenceAfter start (before ++ now :: between ++ [later]) =
          referenceAfter start (before ++ [now]) := by
        rw [split, referenceAfter, List.foldl_append]
        exact referenceAfter_steady _ _ fun r member => first.trans (rest.1 r member)
      rw [same]
      exact millis_mono (rest.1 later (by simp))
    case rebased =>
      intro before now early
      rw [← referenceAfter_micros] at early
      rw [referenceAfter_append, rebase, if_pos early, millis_self]
  · intro before now
    dsimp only
    rw [tickAt, final_tickStep, getTimeTick_eq, referenceAfter_append]

end VibeXperia.Proof.Sensord

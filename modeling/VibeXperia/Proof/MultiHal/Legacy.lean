import VibeXperia.MultiHal.Legacy
import VibeXperia.Proof.MultiHal.Routing

namespace VibeXperia.Proof.MultiHal
open VibeXperia.MultiHal

/-! ## The clamp -/

section Clamp
variable {sensor : Sensor} {periodNs : Int}

theorem clamp_admitted (h : sensor.WellFormed) (periodNs : Int) :
    sensor.Admits (sensor.clamp periodNs) := by
  have ordered := h.ordered
  constructor <;> intro bound <;> unfold Sensor.clamp <;> dsimp only <;> split_ifs <;> omega

theorem clamp_of_admits (admits : sensor.Admits periodNs) : sensor.clamp periodNs = periodNs := by
  have lower := admits.lower
  have upper := admits.upper
  unfold Sensor.clamp
  dsimp only
  split_ifs <;> omega

theorem eq_zero_of_clamp (nonneg : 0 ≤ periodNs) (zero : sensor.clamp periodNs = 0) :
    periodNs = 0 := by
  unfold Sensor.clamp at zero
  dsimp only at zero
  split_ifs at zero <;> omega

theorem isInt64_nanoseconds {delay : Int} (h : -2 ^ 31 ≤ delay ∧ delay < 2 ^ 31) :
    IsInt64 (delay * 1000) := by
  unfold IsInt64
  omega

theorem isInt64_clamp (h : sensor.WellFormed) (period : IsInt64 periodNs) :
    IsInt64 (sensor.clamp periodNs) := by
  have lower := isInt64_nanoseconds h.minDelay
  have upper := isInt64_nanoseconds h.maxDelay
  unfold IsInt64 Sensor.clamp at *
  dsimp only
  split_ifs <;> omega

theorem legacyPeriod_eq {globalSensorsList : List Sensor} {handle : Int} {listed : Sensor}
    (found : (globalSensorsList.find? fun sensor => sensor.handle = handle) = some listed)
    (delays : listed.minDelay = sensor.minDelay ∧ listed.maxDelay = sensor.maxDelay)
    (h : sensor.WellFormed) :
    legacyPeriod globalSensorsList handle periodNs = sensor.clamp periodNs := by
  have ordered := h.ordered
  simp only [legacyPeriod, found, Option.map_some, Option.getD_some, delays.1, delays.2,
    Sensor.clamp]
  split_ifs <;> omega

end Clamp

/-! ## The entry of a sensor in the list -/

def delays (sensor : Sensor) : Int × Int := (sensor.minDelay, sensor.maxDelay)

theorem fixSensorFlags_delays (version : Int) (sensor : Sensor) :
    delays (fixSensorFlags version sensor) = delays sensor := by
  unfold fixSensorFlags
  split_ifs <;> rfl

theorem examineModule_delays (versions : Option (List (Nat × Int))) (module : SensorsModule × Nat)
    (s : ListState) :
    (examineModule versions s module).mutableSensorList.map delays =
      s.mutableSensorList.map delays ++ module.1.sensorsList.map delays := by
  unfold examineModule
  induction module.1.sensorsList generalizing s with
  | nil => simp
  | cons sensor sensors ih =>
      have entry (version : Int) : (examineSensor version module.2 s sensor).mutableSensorList.map
          delays = s.mutableSensorList.map delays ++ [delays sensor] := by
        rw [examineSensor, List.map_append, List.map_singleton, fixSensorFlags_delays]
        rfl
      rw [List.foldl_cons, ih, entry, List.append_assoc, List.singleton_append, List.map_cons]

theorem examineModules_delays (versions : Option (List (Nat × Int)))
    (modules : List (SensorsModule × Nat)) (s : ListState) :
    (modules.foldl (examineModule versions) s).mutableSensorList.map delays =
      s.mutableSensorList.map delays ++
        modules.flatMap fun module => module.1.sensorsList.map delays := by
  induction modules generalizing s with
  | nil => simp
  | cons module modules ih =>
      rw [List.foldl_cons, ih, examineModule_delays, List.flatMap_cons, List.append_assoc]

theorem boot_delays (modules : List SensorsModule) :
    (boot modules).sensors.map delays = (subHalSensors modules).map fun sensor => delays sensor.1 := by
  have listed : (boot modules).sensors.map delays = [] ++
      modules.zipIdx.flatMap fun module => module.1.sensorsList.map delays :=
    examineModules_delays _ modules.zipIdx _
  rw [listed, List.nil_append, subHalSensors, List.map_flatMap]
  simp [Function.comp_def]

theorem listed_delays {modules : List SensorsModule} {position m : Nat} {h l : Int}
    {sensor : Sensor} (handed : HandedOut modules position h m l)
    (own : (subHalSensors modules)[position]? = some (sensor, m)) :
    ∃ listed, ((boot modules).sensors.find? fun sensor => sensor.handle = h) = some listed ∧
      listed.minDelay = sensor.minDelay ∧ listed.maxDelay = sensor.maxDelay := by
  obtain ⟨listed, place, handle⟩ := Option.map_eq_some_iff.mp handed.listed
  obtain ⟨inside, same⟩ := List.getElem?_eq_some_iff.mp place
  have here : delays listed = delays sensor := by
    have entry := congrArg (·[position]?) (boot_delays modules)
    simpa [place, own] using entry
  refine ⟨listed, ?_, congrArg Prod.fst here, congrArg Prod.snd here⟩
  rw [List.find?_eq_some_iff_getElem]
  refine ⟨decide_eq_true handle, position, inside, same, fun i before => ?_⟩
  -- The entry before has the handle of its own place.
  have earlier : i < (boot modules).sensors.length := by omega
  have places := congrArg (·[i]?) (boot_listed modules).handles
  obtain ⟨bound, -⟩ := List.getElem?_eq_some_iff.mp (HandedOut.place handed)
  have number : (boot modules).sensors[i].handle = i + 1 := by
    have lower : i < (fullHandles modules).length := by omega
    simpa [earlier, lower] using places
  have other := HandedOut.handle_eq handed
  simp only [number, Bool.not_eq_true', decide_eq_false_iff_not]
  omega

/-! ## The request -/

section Batch
variable {modules : List SensorsModule} {position m : Nat} {h l : Int} {device : HwDevice}
  {sensor : Sensor}

theorem legacy_batch_forwarded (handed : HandedOut modules position h m l)
    (found : deviceByHandle (boot modules).statics.maps (boot modules).dev h = some device)
    (legacy : device.version < SENSORS_DEVICE_API_VERSION_1_1) (nonneg : 0 ≤ l)
    (own : (subHalSensors modules)[position]? = some (sensor, m)) (formed : sensor.WellFormed)
    (answer : SubHalCall → Int) (flags periodNs timeout : Int) :
    (boot modules).perform answer h (.batch flags periodNs timeout) =
      if periodNs < 0 ∨ timeout < 0 then rejected
      else forward answer device (.sub device) (.setDelay l (sensor.clamp periodNs)) := by
  have localHandle : (boot modules).statics.maps.getLocalHandle h = l := by
    simp only [HandleMaps.getLocalHandle, HandedOut.globalToFull handed]
  have compliant := compliant_iff found (by decide : -1 < SENSORS_DEVICE_API_VERSION_1_1)
  obtain ⟨listed, entry, delays⟩ := listed_delays handed own
  simp only [Hal.perform, batch, getV1DeviceByHandle, found, localHandle, if_pos nonneg,
    compliant, if_neg (not_le.mpr legacy), legacyPeriod_eq entry delays formed]

/-- What a legacy device is asked for in place of a batch: the period within the sensor's bounds. -/
theorem legacy_batch_clamped (handed : HandedOut modules position h m l)
    (found : deviceByHandle (boot modules).statics.maps (boot modules).dev h = some device)
    (legacy : device.version < SENSORS_DEVICE_API_VERSION_1_1) (nonneg : 0 ≤ l)
    (own : (subHalSensors modules)[position]? = some (sensor, m)) (formed : sensor.WellFormed)
    (answer : SubHalCall → Int) (flags periodNs timeout : Int) (period : IsInt64 periodNs) :
    (0 ≤ periodNs → 0 ≤ timeout →
      (boot modules).perform answer h (.batch flags periodNs timeout) =
        forward answer device (.sub device) (.setDelay l (sensor.clamp periodNs)) ∧
      sensor.Admits (sensor.clamp periodNs) ∧
      (sensor.Admits periodNs → sensor.clamp periodNs = periodNs) ∧
      (sensor.clamp periodNs = 0 → periodNs = 0)) ∧
    (periodNs < 0 ∨ timeout < 0 →
      (boot modules).perform answer h (.batch flags periodNs timeout) = rejected) ∧
    IsInt64 (sensor.minDelay * 1000) ∧ IsInt64 (sensor.maxDelay * 1000) ∧
    IsInt64 (sensor.clamp periodNs) := by
  have performed := legacy_batch_forwarded handed found legacy nonneg own formed answer flags periodNs
    timeout
  refine ⟨fun start _ => ⟨?_, clamp_admitted formed periodNs, clamp_of_admits,
    eq_zero_of_clamp start⟩, fun negative => ?_, isInt64_nanoseconds formed.minDelay,
    isInt64_nanoseconds formed.maxDelay, isInt64_clamp formed period⟩
  · rw [performed, if_neg (by omega)]
  · rw [performed, if_pos negative]

end Batch

def legacySensor : Sensor := ⟨5, 1, 10000, 200000, 0⟩

/-- A period of a millisecond becomes the ten that the sensor asks for. -/
theorem legacy_batch_clamped_up :
    (boot [⟨0, [legacySensor], 0, 0x01000000⟩]).perform (fun _ => 0) 1 (.batch 0 1000000 0) =
      forward (fun _ => 0) ⟨0, 0x01000000⟩ (.sub ⟨0, 0x01000000⟩) (.setDelay 5 10000000) := by
  have handed : HandedOut [⟨0, [legacySensor], 0, 0x01000000⟩] 0 1 0 5 := ⟨by decide, by decide⟩
  have formed : legacySensor.WellFormed := ⟨by decide, by decide, by decide⟩
  have batch := legacy_batch_clamped handed (by decide : _ = some ⟨0, 0x01000000⟩) (by decide)
    (by decide) (by decide) formed (fun _ => 0) 0 1000000 0 ⟨by decide, by decide⟩
  exact (batch.1 (by decide) (by decide)).1

/-- A sensor that its sub-HAL calls -3 is never set, whatever is asked. -/
theorem negative_handle_not_batched :
    HandedOut [⟨0, [⟨-3, 1, 10000, 200000, 0⟩], 0, 0x01000000⟩] 0 1 0 (-3) ∧
    let hal := boot [⟨0, [⟨-3, 1, 10000, 200000, 0⟩], 0, 0x01000000⟩]
    deviceByHandle hal.statics.maps hal.dev 1 = some ⟨0, 0x01000000⟩ ∧
    ∀ answer, (hal.perform answer 1 (.batch 0 20000000 0)).called = none :=
  ⟨⟨by decide, by decide⟩, by decide, fun _ => rfl⟩

end VibeXperia.Proof.MultiHal

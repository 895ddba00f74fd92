import VibeXperia.Proof.MultiHal.Routing
import VibeXperia.MultiHal.Entry

namespace VibeXperia.Proof.MultiHal
open VibeXperia.MultiHal

/-! ## Handles -/

theorem assignAll_known {fulls : List FullHandle} {h : Int} {full : FullHandle}
    (known : (assignAll fulls).globalToFull h = some full) :
    ∃ position : Nat, h = position + 1 ∧ fulls[position]? = some full := by
  induction fulls using List.reverseRecOn with
  | nil => cases known
  | append_singleton fulls last ih =>
      rw [assignAll_append, HandleMaps.assignGlobalHandle, assignAll_next] at known
      dsimp only at known
      by_cases latest : h = fulls.length + 1
      · rw [latest, Function.update_self] at known
        exact ⟨fulls.length, latest, by simpa using known⟩
      · rw [Function.update_of_ne latest] at known
        obtain ⟨position, rfl, place⟩ := ih known
        obtain ⟨inside, -⟩ := List.getElem?_eq_some_iff.mp place
        exact ⟨position, rfl, by rw [List.getElem?_append_left inside, place]⟩

theorem handedOut_of_known {modules : List SensorsModule} {h : Int} {full : FullHandle}
    (known : (boot modules).statics.maps.globalToFull h = some full) :
    ∃ position m l, HandedOut modules position h m l ∧ full = ⟨(m : Nat), l⟩ := by
  rw [boot_maps] at known
  obtain ⟨position, rfl, place⟩ := assignAll_known known
  obtain ⟨inside, -⟩ := List.getElem?_eq_some_iff.mp place
  rw [fullHandles, List.getElem?_map, Option.map_eq_some_iff] at place
  obtain ⟨sensor, stands, rfl⟩ := place
  refine ⟨position, sensor.2, sensor.1.handle, ⟨?_, by rw [stands]; rfl⟩, rfl⟩
  rw [← List.getElem?_map, (boot_listed modules).handles, List.getElem?_map,
    List.getElem?_range inside]
  rfl

theorem HandedOut.unique {modules : List SensorsModule} {position position' m m' : Nat}
    {h l l' : Int} (handed : HandedOut modules position h m l)
    (again : HandedOut modules position' h m' l') : m = m' ∧ l = l' := by
  have same := HandedOut.globalToFull again
  rw [HandedOut.globalToFull handed] at same
  simpa only [Option.some.injEq, FullHandle.mk.injEq, Int.natCast_inj] using same

theorem HandedOut.module {modules : List SensorsModule} {position m : Nat} {h l : Int}
    (handed : HandedOut modules position h m l) : ∃ module, modules[m]? = some module := by
  obtain ⟨sensor, stands, same⟩ := Option.map_eq_some_iff.mp handed.stands
  obtain ⟨module, member, inside⟩ := List.mem_flatMap.mp (List.mem_of_getElem? stands)
  obtain ⟨sub, -, rfl⟩ := List.mem_map.mp inside
  obtain rfl : module.2 = m := Int.natCast_inj.mp (congrArg FullHandle.moduleIndex same)
  exact ⟨module.1, List.mem_zipIdx_iff_getElem?.mp member⟩

theorem perform_unknown {hal : Hal} {h : Int} (answer : SubHalCall → Int)
    (unknown : hal.statics.maps.globalToFull h = none) (request : Request) :
    hal.perform answer h request = rejected := by
  apply perform_rejected
  simp [deviceByHandle, HandleMaps.getModuleIndex, unknown]

/-! ## Injected data -/

section Inject
variable {modules : List SensorsModule} {position m : Nat} {l : Int} {data : SensorsEvent}
  {device : HwDevice}

theorem inject_found (answer : SubHalCall → Int)
    (handed : HandedOut modules position data.sensor m l)
    (found : (boot modules).dev.subHwDevices[m]? = some device) :
    (boot modules).enter answer (.injectSensorData data) =
      if SENSORS_DEVICE_API_VERSION_1_4 ≤ device.version ∧ 0 ≤ l then
        forward answer device .proxy (.injectSensorData data)
      else rejected := by
  have known := HandedOut.globalToFull handed
  have place := (deviceByHandle_eq known (boot modules).dev).trans found
  have compliant := compliant_iff place (by decide : -1 < SENSORS_DEVICE_API_VERSION_1_4)
  have localHandle : (boot modules).statics.maps.getLocalHandle data.sensor = l := by
    simp only [HandleMaps.getLocalHandle, known]
  simp only [Hal.enter, injectSensorData, getV1DeviceByHandle, place, localHandle, compliant]

theorem inject_unknown (answer : SubHalCall → Int)
    (unknown : (boot modules).statics.maps.globalToFull data.sensor = none) :
    (boot modules).enter answer (.injectSensorData data) = rejected := by
  have nobody : deviceByHandle (boot modules).statics.maps (boot modules).dev data.sensor =
      none := by
    simp [deviceByHandle, HandleMaps.getModuleIndex, unknown]
  simp only [Hal.enter, injectSensorData, getV1DeviceByHandle, nobody]

end Inject

theorem rejected_translated (modules : List SensorsModule) (h : Int) :
    rejected.Translated modules h :=
  fun called => absurd rfl called

/-- Where every sub-HAL opens, an entry point translates device and handle unless it injects. -/
theorem entries_translated {modules : List SensorsModule}
    (opened : ∀ module ∈ modules, module.openResult = 0) (answer : SubHalCall → Int)
    (entry : Entry) :
    ((boot modules).enter answer entry).Translated modules entry.handle ↔
      ¬ Injects modules entry := by
  cases known : (boot modules).statics.maps.globalToFull entry.handle with
  | none =>
      refine iff_of_true ?_ ?_
      · have nothing : (boot modules).enter answer entry = rejected := by
          cases entry with
          | request h request => exact perform_unknown answer known request
          | injectSensorData data => exact inject_unknown answer known
        rw [nothing]
        exact rejected_translated modules entry.handle
      · cases entry with
        | request h request => exact id
        | injectSensorData data =>
            rintro ⟨position, m, l, module, handed, -⟩
            rw [Entry.handle, HandedOut.globalToFull handed] at known
            cases known
  | some full =>
      obtain ⟨position, m, l, handed, rfl⟩ := handedOut_of_known known
      obtain ⟨module, found⟩ := HandedOut.module handed
      cases entry with
      | request h request =>
          refine iff_of_true ?_ id
          intro called
          refine ⟨position, m, l, handed, ?_⟩
          have place := (deviceByHandle_eq known (boot modules).dev).trans (device_of_all_opened opened found)
          by_cases nonneg : 0 ≤ l
          · have performed := perform_found answer known place nonneg request
            by_cases served : request.Served module.deviceVersion
            · exact performed.1 served
            · exact absurd (congrArg Outcome.called (performed.2 served)) called
          · have refused := perform_negative answer known (by omega) request
            exact absurd (congrArg Outcome.called refused) called
      | injectSensorData data =>
          rw [inject_found answer handed (device_of_all_opened opened found)]
          split_ifs with injected
          · refine iff_of_false ?_ ?_
            · -- The proxy is handed on where the device is expected.
              intro translated
              obtain ⟨_, _, _, -, call, same, -, own, -⟩ := translated nofun
              cases same
              cases own
            · exact not_not_intro
                ⟨position, m, l, module, handed, injected.2, found, injected.1⟩
          · refine iff_of_true (rejected_translated modules _) ?_
            rintro ⟨position', m', l', module', handed', nonneg, found', modern⟩
            obtain ⟨rfl, rfl⟩ := HandedOut.unique handed handed'
            obtain rfl : module = module' := Option.some_inj.mp (found.symm.trans found')
            exact injected ⟨modern, nonneg⟩

/-- The one sub-HAL has a 1.4 device and the sensor it calls 7; the framework asks it to flush. -/
theorem entries_translated_flush :
    ((boot [⟨0, [⟨7, 4, 0, 0, 0⟩], 0, 0x01040001⟩]).enter (fun _ => 0)
      (.request 1 .flush)).Translated [⟨0, [⟨7, 4, 0, 0, 0⟩], 0, 0x01040001⟩] 1 :=
  (entries_translated (by decide) (fun _ => 0) (.request 1 .flush)).mpr id

/-- Data for this sensor come to the sub-HAL with the proxy in place of its device and with the
global handle 1. -/
theorem injected_untranslated :
    let modules : List SensorsModule := [⟨0, [⟨7, 4, 0, 0, 0⟩], 0, 0x01040001⟩]
    let data : SensorsEvent := ⟨1, 4, 0, 0⟩
    (∀ module ∈ modules, module.openResult = 0) ∧ HandedOut modules 0 1 0 7 ∧
      ((boot modules).enter (fun _ => 0) (.injectSensorData data)).called =
        some ⟨⟨0, 0x01040001⟩, .proxy, .injectSensorData data⟩ ∧
      ¬ ((boot modules).enter (fun _ => 0) (.injectSensorData data)).Translated modules 1 := by
  refine ⟨by decide, ⟨by decide, by decide⟩, by decide, ?_⟩
  intro translated
  obtain ⟨_, _, _, -, call, same, -, own, -⟩ := translated (by decide)
  cases same
  cases own

end VibeXperia.Proof.MultiHal

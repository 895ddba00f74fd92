import VibeXperia.MultiHal.Drops
import VibeXperia.Proof.MultiHal.Merge
import VibeXperia.Proof.MultiHal.Routing

namespace VibeXperia.Proof.MultiHal
open VibeXperia.MultiHal VibeXperia.Lib

/-! ## Handles are positive -/

theorem fullToGlobal_pos {fulls : List FullHandle} {full : FullHandle} {h : Int}
    (known : (assignAll fulls).fullToGlobal full = some h) : 1 ≤ h := by
  induction fulls using List.reverseRecOn with
  | nil => cases known
  | append_singleton fulls latest ih =>
      simp only [assignAll_append, HandleMaps.assignGlobalHandle, assignAll_next,
        Function.update_apply] at known
      split_ifs at known with same
      · have next := Option.some.inj known
        omega
      · exact ih known

theorem registered_pos {modules : List SensorsModule} {m : Nat} {event : SensorsEvent} {h : Int}
    (known : registered (boot modules).statics.maps m event = some h) : 1 ≤ h := by
  rw [registered, boot_maps] at known
  exact fullToGlobal_pos known

/-! ## What `poll` makes of an event -/

section Delivery
variable {maps : HandleMaps} {i m : Nat} {event : SensorsEvent}

theorem copied_eq_refer :
    copyEventRemapHandle maps event i = event.refer ((registered maps i event).getD (-1)) := by
  unfold copyEventRemapHandle SensorsEvent.refer registered HandleMaps.getGlobalHandle
    SensorsEvent.reference
  split_ifs <;> rfl

theorem delivery_eq : delivery maps (i, event) =
    if (event.refer ((registered maps i event).getD (-1))).sensor = -1 then none
    else some (event.refer ((registered maps i event).getD (-1))) := by
  rw [delivery, copied_eq_refer]

theorem refer_injective {h k : Int} (same : event.refer h = event.refer k) : h = k := by
  unfold SensorsEvent.refer at same
  split_ifs at same
  · exact congrArg SensorsEvent.metaDataSensor same
  · exact congrArg SensorsEvent.sensor same

theorem visit_data {s : PollState} {queue : SensorEventQueue SensorsEvent}
    (head : queue.peek = some event) :
    (s.visit maps queue).data = s.data ++ (delivery maps (s.nextReadIndex, event)).toList := by
  rw [visit_delivers maps s head, List.filterMap_cons, List.filterMap_nil]
  cases delivery maps (s.nextReadIndex, event) <;> rfl

theorem translatedOrDropped_iff {hal : Hal} {thread : TaskContext} :
    TranslatedOrDropped hal thread event ↔
      delivery hal.statics.maps (thread.queue, event) =
        translation hal.statics.maps thread.device.module event := by
  constructor
  · intro law
    have seen := law ⟨[], thread.queue, 0, []⟩ ⟨1, 0, 1, fun _ => event, .running⟩ rfl rfl
    rw [visit_data rfl, List.nil_append, List.nil_append] at seen
    simpa only [Option.head?_toList] using congrArg List.head? seen
  · intro same s queue here head
    rw [visit_data head, here, same]

end Delivery

section Booted
variable {modules : List SensorsModule} {i m : Nat} {event : SensorsEvent}

theorem translation_inj {maps : HandleMaps} :
    translation maps i event = translation maps m event ↔
      registered maps i event = registered maps m event := by
  have injective : Function.Injective event.refer := fun _ _ => refer_injective
  exact (Option.map_injective injective).eq_iff

theorem delivery_of_plain (plain : event.type ≠ SENSOR_TYPE_META_DATA) :
    delivery (boot modules).statics.maps (i, event) =
      translation (boot modules).statics.maps i event := by
  have sensor (h : Int) : (event.refer h).sensor = h := by
    rw [SensorsEvent.refer, if_neg plain]
  rw [delivery_eq, sensor, translation]
  cases known : registered (boot modules).statics.maps i event with
  | none => rfl
  | some h =>
      have positive := registered_pos known
      rw [Option.getD_some, if_neg (by omega), Option.map_some]

theorem delivery_of_metaData {maps : HandleMaps} (nested : event.type = SENSOR_TYPE_META_DATA) :
    delivery maps (i, event) =
      if event.sensor = -1 then none
      else some (event.refer ((registered maps i event).getD (-1))) := by
  have sensor (h : Int) : (event.refer h).sensor = event.sensor := by
    rw [SensorsEvent.refer, if_pos nested]
  rw [delivery_eq, sensor]

theorem refer_eq_translation_iff :
    some (event.refer ((registered (boot modules).statics.maps i event).getD (-1))) =
        translation (boot modules).statics.maps m event ↔
      registered (boot modules).statics.maps m event ≠ none ∧
        registered (boot modules).statics.maps i event =
          registered (boot modules).statics.maps m event := by
  rw [translation]
  cases own : registered (boot modules).statics.maps m event with
  | none => simp
  | some h =>
      have positive := registered_pos own
      rw [Option.map_some, Option.some_inj]
      constructor
      · intro same
        have handle := refer_injective same
        refine ⟨nofun, ?_⟩
        cases used : registered (boot modules).statics.maps i event with
        | none =>
            rw [used, Option.getD_none] at handle
            omega
        | some k =>
            rw [used, Option.getD_some] at handle
            rw [handle]
      · rintro ⟨-, used⟩
        rw [used, Option.getD_some]

theorem translatedOrDropped_iff_telling {thread : TaskContext} :
    TranslatedOrDropped (boot modules) thread event ↔ Telling (boot modules) thread event := by
  rw [translatedOrDropped_iff, Telling]
  split_ifs with nested mark
  · rw [delivery_of_metaData nested, if_pos mark, eq_comm, translation, Option.map_eq_none_iff]
  · rw [delivery_of_metaData nested, if_neg mark, refer_eq_translation_iff]
  · rw [delivery_of_plain nested, translation_inj]

theorem queue_of_opened (opened : ∀ module ∈ modules, module.openResult = 0)
    {thread : TaskContext} (member : thread ∈ (boot modules).dev.threads) :
    thread.queue = thread.device.module := by
  have listed := List.mem_of_getElem? (device_of_thread member)
  rw [boot_devices] at listed
  obtain ⟨module, inside, same⟩ := List.mem_map.mp listed
  have found := List.mem_zipIdx_iff_getElem?.mp (List.mem_filter.mp inside).1
  have number : module.2 = thread.device.module := congrArg HwDevice.module same
  have own := device_of_all_opened opened found
  rw [same, number] at own
  exact queue_of_thread member own rfl

theorem telling_of_opened (opened : ∀ module ∈ modules, module.openResult = 0)
    {thread : TaskContext} (member : thread ∈ (boot modules).dev.threads) :
    Telling (boot modules) thread event ↔
      (event.type = SENSOR_TYPE_META_DATA →
        (event.sensor = -1 ↔
          registered (boot modules).statics.maps thread.device.module event = none)) := by
  rw [Telling, queue_of_opened opened member]
  by_cases nested : event.type = SENSOR_TYPE_META_DATA
  · by_cases mark : event.sensor = -1 <;> simp [nested, mark]
  · simp [nested]

end Booted

/-- For the events of any stream: all of them are handed on translated or, if of unknown sensors,
dropped, exactly when each is telling. -/
theorem bad_events_dropped_iff (modules : List SensorsModule) (thread : TaskContext)
    (stream : List SensorsEvent) :
    (∀ event ∈ stream, TranslatedOrDropped (boot modules) thread event) ↔
      ∀ event ∈ stream, Telling (boot modules) thread event :=
  forall₂_congr fun _ _ => translatedOrDropped_iff_telling

/-- A META_DATA event of the unknown sensor 9 is handed on under the handle -1, and one of the
registered sensor 5 is dropped for a field that it does not use. -/
theorem bad_event_delivered_good_dropped :
    let hal := boot [⟨0, [⟨5, 1, 0, 0, 0⟩], 0, 0x01040001⟩]
    let thread : TaskContext := ⟨⟨0, 0x01040001⟩, 0⟩
    thread ∈ hal.dev.threads ∧
    registered hal.statics.maps 0 ⟨0, SENSOR_TYPE_META_DATA, 9, 0⟩ = none ∧
    delivery hal.statics.maps (0, ⟨0, SENSOR_TYPE_META_DATA, 9, 0⟩) =
      some ⟨0, SENSOR_TYPE_META_DATA, -1, 0⟩ ∧
    ¬ TranslatedOrDropped hal thread ⟨0, SENSOR_TYPE_META_DATA, 9, 0⟩ ∧
    registered hal.statics.maps 0 ⟨-1, SENSOR_TYPE_META_DATA, 5, 0⟩ = some 1 ∧
    delivery hal.statics.maps (0, ⟨-1, SENSOR_TYPE_META_DATA, 5, 0⟩) = none ∧
    ¬ TranslatedOrDropped hal thread ⟨-1, SENSOR_TYPE_META_DATA, 5, 0⟩ := by
  intro hal thread
  refine ⟨by decide, by decide, by decide, ?_, by decide, by decide, ?_⟩
  · rw [translatedOrDropped_iff_telling]
    decide
  · rw [translatedOrDropped_iff_telling]
    decide

end VibeXperia.Proof.MultiHal

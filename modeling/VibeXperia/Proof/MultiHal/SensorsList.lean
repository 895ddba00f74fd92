import Mathlib.Data.List.Nodup
import VibeXperia.MultiHal.SensorsList
import VibeXperia.Proof.MultiHal.Handles

namespace VibeXperia.Proof.MultiHal
open VibeXperia.MultiHal

variable {ρ : Type*} {fulls : List FullHandle} {full : FullHandle} {n : Nat} {g : Int}
variable {done : List (Reported ρ)} {s s' : CopyState ρ}

/-! ## The handle maps in both directions -/

theorem globalToFull_assignAll_iff :
    (assignAll fulls).globalToFull g = some full ↔
      ∃ position : Nat, g = position + 1 ∧ fulls[position]? = some full := by
  by_cases positive : 1 ≤ g
  · obtain ⟨position, rfl⟩ : ∃ position : Nat, g = position + 1 := ⟨(g - 1).toNat, by omega⟩
    rw [globalToFull_assignAll]
    constructor
    · intro found
      exact ⟨position, rfl, found⟩
    · rintro ⟨place, same, found⟩
      obtain rfl : position = place := by omega
      exact found
  · have unknown : (assignAll fulls).globalToFull g = none := by
      induction fulls using List.reverseRecOn with
      | nil => rfl
      | append_singleton fulls latest ih =>
          rw [assignAll_append, HandleMaps.assignGlobalHandle, assignAll_next]
          dsimp only
          rw [Function.update_of_ne (by omega), ih]
    rw [unknown]
    refine iff_of_false (by simp) ?_
    rintro ⟨position, rfl, -⟩
    omega

theorem fullToGlobal_assignAll_none (absent : full ∉ fulls) :
    (assignAll fulls).fullToGlobal full = none := by
  induction fulls using List.reverseRecOn with
  | nil => rfl
  | append_singleton fulls latest ih =>
      rw [List.mem_append, List.mem_singleton, not_or] at absent
      rw [assignAll_append, HandleMaps.assignGlobalHandle]
      exact (Function.update_of_ne absent.2 _ _).trans (ih absent.1)

theorem fullToGlobal_assignAll_iff (distinct : fulls.Nodup) :
    (assignAll fulls).fullToGlobal full = some g ↔
      ∃ position : Nat, g = position + 1 ∧ fulls[position]? = some full := by
  by_cases known : full ∈ fulls
  · obtain ⟨position, place⟩ := List.mem_iff_getElem?.mp known
    have last (j : Nat) (later : j > position) : fulls[j]? ≠ some full := by
      intro again
      obtain ⟨inside, -⟩ := List.getElem?_eq_some_iff.mp place
      have same := (List.getElem?_inj inside distinct).mp (place.trans again.symm)
      omega
    rw [fullToGlobal_assignAll place last]
    constructor
    · intro found
      exact ⟨position, (Option.some.inj found).symm, place⟩
    · rintro ⟨other, rfl, found⟩
      obtain ⟨inside, -⟩ := List.getElem?_eq_some_iff.mp place
      rw [(List.getElem?_inj inside distinct).mp (place.trans found.symm)]
  · rw [fullToGlobal_assignAll_none known]
    refine iff_of_false nofun ?_
    rintro ⟨position, -, found⟩
    exact known (List.mem_of_getElem? found)

/-! ## Copying -/

structure Copied (n : Nat) (done : List (Reported ρ)) (s : CopyState ρ) : Prop where
  next : s.maps.nextGlobalHandle = done.length + 1
  index : s.mutableSensorIndex = done.length
  length : s.mutableSensorList.length = n
  entries : ∀ (i : Nat) r, done[i]? = some r →
    ∃ entry, s.mutableSensorList[i]? = some (some entry) ∧ EntryOf r (i + 1) entry

theorem entryOf_fix (r : Reported ρ) (handle : Int) :
    EntryOf r handle
      ⟨fixSensorFlags r.version { r.sensor.toSensor with handle := handle }, r.sensor.rest⟩ := by
  have kind : (r.sensor.type = SENSOR_TYPE_PROXIMITY ∨ r.sensor.type = SENSOR_TYPE_TILT_DETECTOR) ↔
      r.sensor.type ∈ [SENSOR_TYPE_PROXIMITY, SENSOR_TYPE_TILT_DETECTOR] := by simp
  rw [fixSensorFlags]
  by_cases old : r.version < SENSORS_DEVICE_API_VERSION_1_3 ∧
      (r.sensor.type = SENSOR_TYPE_PROXIMITY ∨ r.sensor.type = SENSOR_TYPE_TILT_DETECTOR)
  · rw [if_pos old]
    refine ⟨rfl, rfl, rfl, rfl, rfl, ?_⟩
    rw [if_pos ⟨old.1, kind.mp old.2⟩]
  · rw [if_neg old]
    refine ⟨rfl, rfl, rfl, rfl, rfl, ?_⟩
    rw [if_neg fun both => old ⟨both.1, kind.mpr both.2⟩]

theorem copySensor_copied (copied : Copied n done s) (r : Reported ρ)
    (room : (done ++ [r]).length ≤ n) :
    ∃ s', copySensor r.version r.moduleIndex s r.sensor = some s' ∧ Copied n (done ++ [r]) s' := by
  rw [List.length_append, List.length_singleton] at room
  have inside : s.mutableSensorIndex < s.mutableSensorList.length := by
    rw [copied.index, copied.length]
    exact room
  refine ⟨_, if_pos inside, ?_⟩
  constructor
  case next =>
    rw [List.length_append, List.length_singleton]
    simp [HandleMaps.assignGlobalHandle, copied.next]
  case index => simp [copied.index]
  case length => simp [copied.length]
  case entries =>
    intro i other listed
    dsimp only
    -- the entry that was written now, or one of those before it
    by_cases last : i = done.length
    · subst last
      obtain rfl : r = other := by simpa using listed
      refine ⟨_, ?_, entryOf_fix r _⟩
      rw [copied.index, List.getElem?_set_self (by rw [← copied.index]; exact inside),
        HandleMaps.assignGlobalHandle, copied.next]
    · have before : i < done.length := by
        obtain ⟨within, -⟩ := List.getElem?_eq_some_iff.mp listed
        rw [List.length_append, List.length_singleton] at within
        omega
      rw [List.getElem?_append_left before] at listed
      rw [copied.index, List.getElem?_set_ne (Ne.symm last)]
      exact copied.entries i other listed

theorem foldlM_copied {β : Type*} {f : CopyState ρ → β → Option (CopyState ρ)}
    {gives : β → List (Reported ρ)} (step : ∀ done s b, Copied n done s →
      (done ++ gives b).length ≤ n → ∃ s', f s b = some s' ∧ Copied n (done ++ gives b) s')
    (bs : List β) (copied : Copied n done s) (room : (done ++ bs.flatMap gives).length ≤ n) :
    ∃ s', bs.foldlM f s = some s' ∧ Copied n (done ++ bs.flatMap gives) s' := by
  induction bs generalizing done s with
  | nil => exact ⟨s, rfl, by simpa using copied⟩
  | cons b bs ih =>
      rw [List.flatMap_cons, ← List.append_assoc] at room ⊢
      have first : (done ++ gives b).length ≤ n := by
        rw [List.length_append] at room
        omega
      obtain ⟨s', stepped, copied'⟩ := step done s b copied first
      obtain ⟨s'', rest, copied''⟩ := ih copied' room
      refine ⟨s'', ?_, copied''⟩
      rw [List.foldlM_cons, stepped]
      exact rest

theorem copyModule_copied (subHwVersions : Option (List (Nat × Int))) (done : List (Reported ρ))
    (s : CopyState ρ) (module : FullModule ρ × Nat) (copied : Copied n done s)
    (room : (done ++ reportedBy subHwVersions module).length ≤ n) :
    ∃ s', copyModule subHwVersions s module = some s' ∧
      Copied n (done ++ reportedBy subHwVersions module) s' := by
  let version := moduleVersion subHwVersions module.1.toModule
  have single : reportedBy subHwVersions module =
      module.1.sensorsList.flatMap fun sensor => [⟨sensor, version, module.2⟩] := by
    rw [reportedBy, List.map_eq_flatMap]
  rw [single] at room ⊢
  exact foldlM_copied (fun done s sensor copied room =>
    copySensor_copied copied ⟨sensor, version, module.2⟩ room) _ copied room

theorem globalSensorsCount_eq (subHwVersions : Option (List (Nat × Int)))
    (modules : List (FullModule ρ)) :
    globalSensorsCount modules = (allReported subHwVersions modules).length := by
  have counted (modules : List (FullModule ρ)) (count place : Nat) :
      modules.foldl (fun count module => count + module.sensorsList.length) count =
        count + ((modules.zipIdx place).flatMap (reportedBy subHwVersions)).length := by
    induction modules generalizing count place with
    | nil => rfl
    | cons module modules ih =>
        rw [List.foldl_cons, ih, List.zipIdx_cons, List.flatMap_cons, List.length_append, reportedBy,
          List.length_map, Nat.add_assoc]
  rw [globalSensorsCount, counted modules 0 0, allReported, Nat.zero_add]

theorem copySensors_copied (subHwVersions : Option (List (Nat × Int)))
    (modules : List (FullModule ρ)) :
    ∃ s, copySensors subHwVersions modules = some s ∧
      Copied (globalSensorsCount modules) (allReported subHwVersions modules) s := by
  have start : Copied (globalSensorsCount modules) ([] : List (Reported ρ))
      ⟨.empty, List.replicate (globalSensorsCount modules) none, 0⟩ :=
    ⟨rfl, rfl, List.length_replicate, nofun⟩
  apply foldlM_copied (copyModule_copied subHwVersions) _ start
  rw [globalSensorsCount_eq subHwVersions]
  rfl

/-! ## The smaller model -/

theorem copySensor_toListState {version : Int} {moduleIndex : Nat} {localSensor : FullSensor ρ}
    (copied : copySensor version moduleIndex s localSensor = some s') :
    s'.toListState = examineSensor version moduleIndex s.toListState localSensor.toSensor := by
  rw [copySensor] at copied
  split_ifs at copied with inside
  obtain rfl := Option.some.inj copied
  rw [CopyState.toListState, CopyState.toListState, examineSensor, List.take_add_one,
    List.take_set_of_le (le_refl _), List.getElem?_set_self inside]
  simp

theorem foldlM_toListState {β : Type*} {f : CopyState ρ → β → Option (CopyState ρ)}
    {examine : ListState → β → ListState}
    (step : ∀ s b s', f s b = some s' → s'.toListState = examine s.toListState b) {bs : List β}
    (copied : bs.foldlM f s = some s') : s'.toListState = bs.foldl examine s.toListState := by
  induction bs generalizing s with
  | nil =>
      cases copied
      rfl
  | cons b bs ih =>
      rw [List.foldlM_cons, Option.bind_eq_bind, Option.bind_eq_some_iff] at copied
      obtain ⟨next, stepped, copied⟩ := copied
      rw [List.foldl_cons, ← step s b next stepped]
      exact ih copied

theorem copySensors_toListState {subHwVersions : Option (List (Nat × Int))}
    {modules : List (FullModule ρ)} (copied : copySensors subHwVersions modules = some s) :
    s.toListState = (modules.map FullModule.toModule).zipIdx.foldl (examineModule subHwVersions)
      ⟨.empty, []⟩ := by
  have modulesDone : s.toListState = modules.zipIdx.foldl
      (fun t module => examineModule subHwVersions t (module.1.toModule, module.2)) ⟨.empty, []⟩ := by
    refine foldlM_toListState (fun s module s' copied => ?_) copied
    have sensorsDone : s'.toListState = module.1.sensorsList.foldl (fun t sensor => examineSensor
        (moduleVersion subHwVersions module.1.toModule) module.2 t sensor.toSensor) s.toListState :=
      foldlM_toListState (fun _ _ _ => copySensor_toListState) copied
    rw [sensorsDone, examineModule, FullModule.toModule, List.foldl_map]
  rw [modulesDone, List.zipIdx_map, List.foldl_map]
  rfl

/-! ## The handles of all sensors -/

theorem copySensors_maps {subHwVersions : Option (List (Nat × Int))} {modules : List (FullModule ρ)}
    (copied : copySensors subHwVersions modules = some s) :
    s.maps = assignAll ((allReported subHwVersions modules).map Reported.full) := by
  have listed := examineModules_listed (⟨rfl, rfl⟩ : Listed [] ⟨.empty, []⟩) subHwVersions
    (modules.map FullModule.toModule).zipIdx
  rw [← copySensors_toListState copied] at listed
  have same : (allReported subHwVersions modules).map Reported.full =
      (modules.map FullModule.toModule).zipIdx.flatMap fun module =>
        module.1.sensorsList.map fun sensor => ⟨module.2, sensor.handle⟩ := by
    rw [allReported, List.map_flatMap, List.zipIdx_map, List.flatMap_map]
    simp [reportedBy, FullModule.toModule, Reported.full, Function.comp_def]
  rw [same]
  exact listed.maps

theorem fulls_nodup {subHwVersions : Option (List (Nat × Int))} {modules : List (FullModule ρ)}
    (distinct : ∀ module ∈ modules, (module.sensorsList.map fun sensor => sensor.handle).Nodup) :
    ((allReported subHwVersions modules).map Reported.full).Nodup := by
  rw [allReported, List.map_flatMap, List.nodup_flatMap]
  constructor
  · intro module member
    have own := distinct module.1 (List.fst_mem_of_mem_zipIdx member)
    rw [reportedBy, List.map_map]
    apply List.Nodup.of_map FullHandle.localHandle
    rw [List.map_map]
    exact own
  · have places : (modules.zipIdx.map Prod.snd).Nodup := by
      rw [List.zipIdx_map_snd]
      exact List.nodup_range'
    -- handles of two modules may be equal, so it is their places that tell the sensors apart
    rw [List.Nodup, List.pairwise_map] at places
    refine places.imp fun apart full first second => apart ?_
    obtain ⟨_, listed, rfl⟩ := List.mem_map.mp first
    obtain ⟨_, listed', same⟩ := List.mem_map.mp second
    obtain ⟨_, -, rfl⟩ := List.mem_map.mp listed
    obtain ⟨_, -, rfl⟩ := List.mem_map.mp listed'
    exact (Int.ofNat.inj (congrArg FullHandle.moduleIndex same)).symm

/-- After `lazy_init_sensors_list` the sensors are numbered in the order of the list, which has an
entry for each of them. -/
theorem sensors_numbered (subHwVersions : Option (List (Nat × Int))) (modules : List (FullModule ρ))
    (distinct : ∀ module ∈ modules, (module.sensorsList.map fun sensor => sensor.handle).Nodup) :
    ∃ s, copySensors subHwVersions modules = some s ∧
      Numbered (allReported subHwVersions modules) s.maps ∧
      ListsAll (allReported subHwVersions modules) s.mutableSensorList := by
  obtain ⟨s, ended, copied⟩ := copySensors_copied subHwVersions modules
  have maps := copySensors_maps ended
  have nodup := @fulls_nodup _ subHwVersions modules distinct
  have places (position : Nat) : ((allReported subHwVersions modules).map Reported.full)[position]? =
      (allReported subHwVersions modules)[position]?.map Reported.full := List.getElem?_map ..
  refine ⟨s, ended, ?_, ?_⟩
  · constructor
    case inverse =>
      intro g full
      rw [maps, globalToFull_assignAll_iff, fullToGlobal_assignAll_iff nodup]
    case globals =>
      intro g
      rw [Option.isSome_iff_exists, maps]
      simp only [globalToFull_assignAll_iff, places, Option.map_eq_some_iff]
      constructor
      · rintro ⟨full, position, rfl, r, listed, -⟩
        obtain ⟨within, -⟩ := List.getElem?_eq_some_iff.mp listed
        omega
      · rintro ⟨positive, within⟩
        have inside : (g - 1).toNat < (allReported subHwVersions modules).length := by omega
        exact ⟨_, (g - 1).toNat, by omega, _, List.getElem?_eq_getElem inside, rfl⟩
    case fulls =>
      intro full
      rw [Option.isSome_iff_exists, maps]
      simp only [fullToGlobal_assignAll_iff nodup, List.mem_iff_getElem?]
      constructor
      · rintro ⟨_, position, -, listed⟩
        exact ⟨position, listed⟩
      · rintro ⟨position, listed⟩
        exact ⟨_, position, rfl, listed⟩
    case inOrder =>
      intro i r listed
      rw [maps, globalToFull_assignAll, places, listed, Option.map_some]
  · refine ⟨?_, copied.entries⟩
    rw [copied.length, globalSensorsCount_eq subHwVersions]

def twoModules : List (FullModule Unit) :=
  [⟨1, [⟨⟨0, 1, 0, 0, 0⟩, ()⟩, ⟨⟨1, 8, 0, 0, 0⟩, ()⟩], 0, 0⟩, ⟨2, [⟨⟨0, 8, 0, 0, 2⟩, ()⟩], 0, 0⟩]

theorem sensors_numbered_two : ∃ s, copySensors none twoModules = some s ∧
    Numbered (allReported none twoModules) s.maps ∧
    ListsAll (allReported none twoModules) s.mutableSensorList :=
  sensors_numbered none twoModules (by decide)

end VibeXperia.Proof.MultiHal

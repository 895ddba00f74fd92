import Mathlib.Data.List.Induction
import VibeXperia.MultiHal.Routing

namespace VibeXperia.Proof.MultiHal
open VibeXperia.MultiHal

/-! ## The handle maps after a list of assignments -/

def assignAll (fulls : List FullHandle) : HandleMaps :=
  fulls.foldl (fun maps full => (maps.assignGlobalHandle full.moduleIndex full.localHandle).2) .empty

theorem assignAll_append (fulls : List FullHandle) (full : FullHandle) :
    assignAll (fulls ++ [full]) =
      ((assignAll fulls).assignGlobalHandle full.moduleIndex full.localHandle).2 := by
  simp [assignAll]

theorem assignAll_next (fulls : List FullHandle) :
    (assignAll fulls).nextGlobalHandle = fulls.length + 1 := by
  induction fulls using List.reverseRecOn with
  | nil => rfl
  | append_singleton fulls full ih =>
      rw [assignAll_append, HandleMaps.assignGlobalHandle, ih]
      simp

theorem globalToFull_assignAll (fulls : List FullHandle) (position : Nat) :
    (assignAll fulls).globalToFull (position + 1) = fulls[position]? := by
  induction fulls using List.reverseRecOn with
  | nil => rfl
  | append_singleton fulls full ih =>
      simp only [assignAll_append, HandleMaps.assignGlobalHandle, assignAll_next,
        Function.update_apply, ih]
      by_cases last : position = fulls.length
      · simp [last]
      · rw [if_neg (by omega)]
        by_cases inside : position < fulls.length
        · rw [List.getElem?_append_left inside]
        · rw [List.getElem?_eq_none (by omega), List.getElem?_eq_none]
          simp only [List.length_append, List.length_singleton]
          omega

theorem fullToGlobal_assignAll {fulls : List FullHandle} {full : FullHandle} {position : Nat}
    (place : fulls[position]? = some full) (last : ∀ j > position, fulls[j]? ≠ some full) :
    (assignAll fulls).fullToGlobal full = some (position + 1 : Int) := by
  induction fulls using List.reverseRecOn with
  | nil => simp at place
  | append_singleton fulls latest ih =>
      simp only [assignAll_append, HandleMaps.assignGlobalHandle, assignAll_next]
      by_cases here : position = fulls.length
      · subst here
        obtain rfl : latest = full := by simpa using place
        simp
      · obtain ⟨inside, -⟩ := List.getElem?_eq_some_iff.mp place
        simp only [List.length_append, List.length_singleton] at inside
        rw [List.getElem?_append_left (by omega)] at place
        have other : full ≠ latest := by
          rintro rfl
          exact last fulls.length (by omega) (by simp)
        rw [Function.update_of_ne other]
        refine ih place fun j later found => last j later ?_
        obtain ⟨before, -⟩ := List.getElem?_eq_some_iff.mp found
        rw [List.getElem?_append_left before, found]

/-! ## The loops of `lazy_init_sensors_list` -/

theorem fixSensorFlags_handle (version : Int) (sensor : Sensor) :
    (fixSensorFlags version sensor).handle = sensor.handle := by
  unfold fixSensorFlags
  split_ifs <;> rfl

/-- The list so far has one entry for each assignment, numbered in order. -/
structure Listed (fulls : List FullHandle) (s : ListState) : Prop where
  maps : s.maps = assignAll fulls
  handles : s.mutableSensorList.map Sensor.handle =
    (List.range fulls.length).map fun i : Nat => (i + 1 : Int)

theorem examineSensor_listed {fulls : List FullHandle} {s : ListState} (h : Listed fulls s)
    (version : Int) (moduleIndex : Nat) (localSensor : Sensor) :
    Listed (fulls ++ [⟨moduleIndex, localSensor.handle⟩])
      (examineSensor version moduleIndex s localSensor) where
  maps := by simp [examineSensor, h.maps, assignAll_append]
  handles := by
    have next : s.maps.nextGlobalHandle = fulls.length + 1 := by rw [h.maps, assignAll_next]
    simp [examineSensor, h.handles, fixSensorFlags_handle, HandleMaps.assignGlobalHandle, next,
      List.range_succ]

theorem examineModule_listed {fulls : List FullHandle} {s : ListState} (h : Listed fulls s)
    (versions : Option (List (Nat × Int))) (module : SensorsModule × Nat) :
    Listed (fulls ++ module.1.sensorsList.map fun sensor => ⟨module.2, sensor.handle⟩)
      (examineModule versions s module) := by
  unfold examineModule
  induction module.1.sensorsList generalizing fulls s with
  | nil => simpa using h
  | cons sensor sensors ih =>
      simpa using ih (examineSensor_listed h (moduleVersion versions module.1) module.2 sensor)

theorem examineModules_listed {fulls : List FullHandle} {s : ListState} (h : Listed fulls s)
    (versions : Option (List (Nat × Int))) (modules : List (SensorsModule × Nat)) :
    Listed (fulls ++ modules.flatMap fun module =>
        module.1.sensorsList.map fun sensor => ⟨module.2, sensor.handle⟩)
      (modules.foldl (examineModule versions) s) := by
  induction modules generalizing fulls s with
  | nil => simpa using h
  | cons module modules ih => simpa using ih (examineModule_listed h versions module)

def fullHandles (modules : List SensorsModule) : List FullHandle :=
  (subHalSensors modules).map fullHandle

theorem boot_listed (modules : List SensorsModule) :
    Listed (fullHandles modules) ⟨(boot modules).statics.maps, (boot modules).sensors⟩ := by
  have start : Listed [] ⟨.empty, []⟩ := ⟨rfl, rfl⟩
  have same : fullHandles modules = [] ++ modules.zipIdx.flatMap fun module =>
      module.1.sensorsList.map fun sensor => ⟨module.2, sensor.handle⟩ := by
    simp [fullHandles, subHalSensors, List.map_flatMap, fullHandle, Function.comp_def]
  rw [same]
  exact examineModules_listed start _ modules.zipIdx

theorem boot_maps (modules : List SensorsModule) :
    (boot modules).statics.maps = assignAll (fullHandles modules) := (boot_listed modules).maps

/-! ## The loop of `open_sensors` -/

def openedDevices (modules : List (SensorsModule × Nat)) : List HwDevice :=
  (modules.filter fun module => module.1.openResult = 0).map fun module =>
    ⟨module.2, module.1.deviceVersion⟩

structure Paired (dev : PollContext) : Prop where
  queues : dev.queues = dev.subHwDevices.length
  threads : dev.threads = dev.subHwDevices.zipIdx.map fun device => ⟨device.1, device.2⟩

theorem openModules_devices (modules : List (SensorsModule × Nat))
    (opened : PollContext × List (Nat × Int)) :
    (modules.foldl openModule opened).1.subHwDevices =
      opened.1.subHwDevices ++ openedDevices modules := by
  induction modules generalizing opened with
  | nil => simp [openedDevices]
  | cons module modules ih =>
      rw [List.foldl_cons, ih]
      by_cases success : module.1.openResult = 0
      · simp [openModule, openedDevices, success, addSubHwDevice]
      · simp [openModule, openedDevices, success]

theorem addSubHwDevice_paired {dev : PollContext} (h : Paired dev) (device : HwDevice) :
    Paired (addSubHwDevice dev device) where
  queues := by simp [addSubHwDevice, h.queues]
  threads := by simp [addSubHwDevice, h.threads, h.queues, List.zipIdx_append]

theorem openModules_paired (modules : List (SensorsModule × Nat))
    {opened : PollContext × List (Nat × Int)} (h : Paired opened.1) :
    Paired (modules.foldl openModule opened).1 := by
  induction modules generalizing opened with
  | nil => exact h
  | cons module modules ih =>
      rw [List.foldl_cons]
      apply ih
      unfold openModule
      split_ifs
      · exact addSubHwDevice_paired h _
      · exact h

theorem boot_devices (modules : List SensorsModule) :
    (boot modules).dev.subHwDevices = openedDevices modules.zipIdx :=
  openModules_devices modules.zipIdx (⟨[], 0, []⟩, [])

theorem boot_paired (modules : List SensorsModule) : Paired (boot modules).dev :=
  openModules_paired modules.zipIdx ⟨rfl, rfl⟩

end VibeXperia.Proof.MultiHal

import VibeXperia.Proof.MultiHal.Handles

namespace VibeXperia.Proof.MultiHal
open VibeXperia.MultiHal

/-! ## What a handle leads to -/

theorem HandedOut.place {modules : List SensorsModule} {position m : Nat} {h l : Int}
    (handed : HandedOut modules position h m l) :
    (fullHandles modules)[position]? = some ⟨m, l⟩ := by
  rw [fullHandles, List.getElem?_map]
  exact handed.stands

theorem HandedOut.handle_eq {modules : List SensorsModule} {position m : Nat} {h l : Int}
    (handed : HandedOut modules position h m l) : h = position + 1 := by
  have listed := handed.listed
  obtain ⟨inside, -⟩ := List.getElem?_eq_some_iff.mp (HandedOut.place handed)
  rw [← List.getElem?_map, (boot_listed modules).handles, List.getElem?_map,
    List.getElem?_range inside] at listed
  simpa using listed.symm

theorem HandedOut.globalToFull {modules : List SensorsModule} {position m : Nat} {h l : Int}
    (handed : HandedOut modules position h m l) :
    (boot modules).statics.maps.globalToFull h = some ⟨m, l⟩ := by
  rw [HandedOut.handle_eq handed, boot_maps, globalToFull_assignAll]
  exact HandedOut.place handed

theorem deviceByHandle_eq {maps : HandleMaps} {h l : Int} {m : Nat}
    (known : maps.globalToFull h = some ⟨m, l⟩) (dev : PollContext) :
    deviceByHandle maps dev h = dev.subHwDevices[m]? := by
  simp only [deviceByHandle, HandleMaps.getModuleIndex, known, Int.toNat_natCast]
  by_cases inside : m < dev.subHwDevices.length
  · rw [if_neg (by omega)]
  · rw [if_pos (by omega), List.getElem?_eq_none (by omega)]

/-! ## The device beside a module -/

theorem opened_iff {modules : List SensorsModule} {m : Nat} {module : SensorsModule}
    (found : modules[m]? = some module) : Opened modules m ↔ module.openResult = 0 := by
  simp [Opened, found]

theorem openedDevices_length (modules : List SensorsModule) :
    (openedDevices modules.zipIdx).length =
      (modules.filter fun module => module.openResult = 0).length := by
  simp only [openedDevices, List.length_map, ← List.countP_eq_length_filter]
  conv_rhs => rw [← List.zipIdx_map_fst 0 modules]
  rw [List.countP_map]
  rfl

def openedPlaces (modules : List SensorsModule) : List Nat :=
  (openedDevices modules.zipIdx).map HwDevice.module

theorem openedPlaces_eq (modules : List SensorsModule) :
    openedPlaces modules =
      (modules.zipIdx.filter fun module => module.1.openResult = 0).map Prod.snd := by
  simp [openedPlaces, openedDevices, Function.comp_def]

theorem openedPlaces_increasing (modules : List SensorsModule) :
    (openedPlaces modules).Pairwise (· < ·) := by
  rw [openedPlaces_eq]
  have sublist : ((modules.zipIdx.filter fun module => module.1.openResult = 0).map
      Prod.snd).Sublist (modules.zipIdx.map Prod.snd) := List.filter_sublist.map _
  apply List.Pairwise.sublist sublist
  rw [List.zipIdx_map_snd, List.range'_eq_map_range]
  simpa using List.pairwise_lt_range

theorem mem_openedPlaces {modules : List SensorsModule} {i : Nat} :
    i ∈ openedPlaces modules ↔ Opened modules i := by
  rw [openedPlaces_eq]
  simp [Opened, List.mem_zipIdx_iff_getElem?]

theorem devices_distinct (modules : List SensorsModule) :
    ((boot modules).dev.subHwDevices.map HwDevice.module).Nodup := by
  rw [boot_devices]
  exact (openedPlaces_increasing modules).imp fun less => less.ne

theorem device_of_opened {modules : List SensorsModule} {m : Nat} {module : SensorsModule}
    (found : modules[m]? = some module) (success : module.openResult = 0)
    (before : ∀ i < m, Opened modules i) :
    (boot modules).dev.subHwDevices[m]? = some ⟨m, module.deviceVersion⟩ := by
  obtain ⟨inside, rfl⟩ := List.getElem?_eq_some_iff.mp found
  have all : ∀ x ∈ modules.zipIdx.take (m + 1), x.1.openResult = 0 := by
    intro x member
    obtain ⟨i, hi, rfl⟩ := List.getElem_of_mem member
    simp only [List.length_take, List.length_zipIdx] at hi
    simp only [List.getElem_take, List.getElem_zipIdx]
    by_cases last : i = m
    · subst last
      exact success
    · exact (opened_iff (List.getElem?_eq_getElem _)).mp (before i (by omega))
  have split : openedDevices modules.zipIdx =
      (modules.zipIdx.take (m + 1)).map (fun x => ⟨x.2, x.1.deviceVersion⟩) ++
        openedDevices (modules.zipIdx.drop (m + 1)) := by
    conv_lhs => rw [← List.take_append_drop (m + 1) modules.zipIdx]
    simp only [openedDevices, List.filter_append, List.map_append]
    rw [List.filter_eq_self.mpr (by simpa using all)]
  rw [boot_devices, split, List.getElem?_append_left]
  · simp [inside]
  · simp only [List.length_map, List.length_take, List.length_zipIdx]
    omega

theorem device_of_all_opened {modules : List SensorsModule} {m : Nat} {module : SensorsModule}
    (opened : ∀ module ∈ modules, module.openResult = 0) (found : modules[m]? = some module) :
    (boot modules).dev.subHwDevices[m]? = some ⟨m, module.deviceVersion⟩ := by
  refine device_of_opened found (opened _ (List.mem_of_getElem? found)) fun i before => ?_
  obtain ⟨inside, -⟩ := List.getElem?_eq_some_iff.mp found
  exact ⟨modules[i], List.getElem?_eq_getElem (by omega), opened _ (List.getElem_mem _)⟩

theorem no_device_of_failed {modules : List SensorsModule} {m : Nat}
    (few : (modules.filter fun module => module.openResult = 0).length ≤ m) :
    (boot modules).dev.subHwDevices[m]? = none := by
  rw [boot_devices, List.getElem?_eq_none]
  rwa [openedDevices_length]

/-! ## Calls -/

theorem compliant_iff {maps : HandleMaps} {dev : PollContext} {h level : Int} {device : HwDevice}
    (found : deviceByHandle maps dev h = some device) (real : -1 < level) :
    halIsAPILevelCompliant maps dev h level = true ↔ level ≤ device.version := by
  simp only [halIsAPILevelCompliant, getDeviceVersionByHandle, getV0DeviceByHandle, found,
    decide_eq_true_eq]
  omega

theorem perform_rejected {hal : Hal} {h : Int} (answer : SubHalCall → Int)
    (nobody : deviceByHandle hal.statics.maps hal.dev h = none) (request : Request) :
    hal.perform answer h request = rejected := by
  cases request <;>
    simp [Hal.perform, activate, setDelay, batch, flush, getV0DeviceByHandle,
      getV1DeviceByHandle, nobody]

theorem perform_negative {hal : Hal} {h l : Int} {m : Nat} (answer : SubHalCall → Int)
    (known : hal.statics.maps.globalToFull h = some ⟨m, l⟩) (negative : l < 0)
    (request : Request) : hal.perform answer h request = rejected := by
  have localHandle : ¬ hal.statics.maps.getLocalHandle h ≥ 0 := by
    simp only [HandleMaps.getLocalHandle, known]
    omega
  cases request <;> simp only [Hal.perform, activate, setDelay, batch, flush, if_neg localHandle] <;>
    split <;> rfl

theorem forward_reaches {answer : SubHalCall → Int} {device : HwDevice}
    {function : DeviceFunction} :
    (forward answer device (.sub device) function).Reaches device.module function.handle :=
  ⟨_, rfl, rfl, rfl, rfl⟩

theorem perform_found {hal : Hal} {h l : Int} {m : Nat} {device : HwDevice}
    (answer : SubHalCall → Int) (known : hal.statics.maps.globalToFull h = some ⟨m, l⟩)
    (found : deviceByHandle hal.statics.maps hal.dev h = some device) (nonneg : 0 ≤ l)
    (request : Request) :
    (request.Served device.version →
      (hal.perform answer h request).Reaches device.module l) ∧
    (¬ request.Served device.version → hal.perform answer h request = rejected) := by
  have localHandle : hal.statics.maps.getLocalHandle h = l := by
    simp only [HandleMaps.getLocalHandle, known]
  have compliant := compliant_iff found (by decide : -1 < SENSORS_DEVICE_API_VERSION_1_1)
  cases request with
  | activate enabled =>
      simp only [Hal.perform, activate, getV0DeviceByHandle, found, localHandle, if_pos nonneg]
      exact ⟨fun _ => forward_reaches, fun refused => absurd trivial refused⟩
  | setDelay ns =>
      simp only [Hal.perform, setDelay, getV0DeviceByHandle, found, localHandle, if_pos nonneg]
      exact ⟨fun _ => forward_reaches, fun refused => absurd trivial refused⟩
  | batch flags periodNs timeout =>
      simp only [Hal.perform, batch, getV1DeviceByHandle, found, localHandle, if_pos nonneg,
        compliant, Request.Served]
      split_ifs with modern negative
      · exact ⟨fun _ => forward_reaches, fun refused => absurd (.inl modern) refused⟩
      · exact ⟨fun served => by omega, fun _ => rfl⟩
      · exact ⟨fun _ => forward_reaches, fun refused => absurd (.inr (by omega)) refused⟩
  | flush =>
      simp only [Hal.perform, flush, getV1DeviceByHandle, found, localHandle, if_pos nonneg,
        compliant, Request.Served]
      split_ifs with modern
      · exact ⟨fun _ => forward_reaches, fun refused => absurd modern refused⟩
      · exact ⟨fun served => absurd served modern, fun _ => rfl⟩

/-! ## Events -/

theorem copyEventRemapHandle_eq {maps : HandleMaps} {event : SensorsEvent} {subIndex : Nat}
    {h : Int} (known : maps.fullToGlobal ⟨subIndex, event.reference⟩ = some h) :
    copyEventRemapHandle maps event subIndex = event.refer h := by
  unfold SensorsEvent.reference at known
  unfold copyEventRemapHandle SensorsEvent.refer HandleMaps.getGlobalHandle
  split_ifs at known ⊢ with nested <;> rw [known] <;> rfl

theorem delivered_of_known {hal : Hal} {thread : TaskContext} {event : SensorsEvent} {h : Int}
    (known : hal.statics.maps.fullToGlobal ⟨thread.queue, event.reference⟩ = some h)
    (valid : (event.refer h).sensor ≠ -1) : DeliveredUnder hal thread event h := by
  intro s queue here head
  simp only [PollState.visit, head, here, copyEventRemapHandle_eq known, if_neg valid]

theorem device_of_thread {modules : List SensorsModule} {thread : TaskContext}
    (member : thread ∈ (boot modules).dev.threads) :
    (boot modules).dev.subHwDevices[thread.queue]? = some thread.device := by
  rw [(boot_paired modules).threads] at member
  obtain ⟨x, found, rfl⟩ := List.mem_map.mp member
  exact List.mem_zipIdx_iff_getElem?.mp found

theorem queue_of_thread {modules : List SensorsModule} {thread : TaskContext} {m : Nat}
    {device : HwDevice} (member : thread ∈ (boot modules).dev.threads)
    (place : (boot modules).dev.subHwDevices[m]? = some device)
    (same : thread.device.module = device.module) : thread.queue = m := by
  have filled := device_of_thread member
  obtain ⟨inside, -⟩ := List.getElem?_eq_some_iff.mp filled
  refine (List.getElem?_inj (by simpa using inside) (devices_distinct modules)).mp ?_
  simp [filled, place, same]

theorem thread_of_device {modules : List SensorsModule} {i : Nat} {device : HwDevice}
    (found : (boot modules).dev.subHwDevices[i]? = some device) :
    ⟨device, i⟩ ∈ (boot modules).dev.threads := by
  rw [(boot_paired modules).threads]
  refine List.mem_map.mpr ⟨(device, i), ?_, rfl⟩
  rwa [List.mem_zipIdx_iff_getElem?]

/-! ## Routing -/

theorem gap_of_increasing {xs : List Nat} (increasing : xs.Pairwise (· < ·)) {i d : Nat}
    (inside : i + d < xs.length) : xs[i] + d ≤ xs[i + d] := by
  induction d with
  | zero => simp
  | succ d ih =>
      have step := List.pairwise_iff_getElem.mp increasing (i + d) (i + (d + 1)) (by omega) inside
        (by omega)
      have := ih (by omega)
      omega

theorem getElem?_of_increasing {xs : List Nat} (increasing : xs.Pairwise (· < ·)) {m i : Nat}
    (last : xs[m]? = some m) (before : i ≤ m) : xs[i]? = some i := by
  obtain ⟨inside, last⟩ := List.getElem?_eq_some_iff.mp last
  refine List.getElem?_eq_some_iff.mpr ⟨by omega, ?_⟩
  have below := @gap_of_increasing xs increasing i (m - i) (by omega)
  have above := @gap_of_increasing xs increasing 0 i (by omega)
  simp only [Nat.add_sub_cancel' before, last, Nat.zero_add] at below above
  omega

/-- The index of a module names its own device, or none where it has none, exactly when no open
that failed stands before one that succeeded. -/
theorem inStep_iff {modules : List SensorsModule} {m : Nat} :
    InStep modules m ↔ ((boot modules).dev.subHwDevices[m]?).map HwDevice.module =
      if Opened modules m then some m else none := by
  rw [boot_devices, ← List.getElem?_map]
  change _ ↔ (openedPlaces modules)[m]? = _
  by_cases opened : Opened modules m
  · rw [InStep, if_pos opened, if_pos opened]
    constructor
    · intro before
      obtain ⟨module, found, success⟩ := opened
      have device := device_of_opened found success before
      rw [boot_devices] at device
      simp [openedPlaces, device]
    · intro last i before
      rw [← mem_openedPlaces]
      exact List.mem_of_getElem? (getElem?_of_increasing (openedPlaces_increasing modules) last
        before.le)
  · rw [InStep, if_neg opened, if_neg opened, List.getElem?_eq_none_iff, openedPlaces,
      List.length_map, openedDevices_length]

/-- Beside its module, a device gets the calls for its sensors and its events keep their handles. -/
theorem calls_and_events_routed {modules : List SensorsModule} {position m : Nat} {h l : Int}
    (handed : HandedOut modules position h m l) (inStep : InStep modules m)
    (answer : SubHalCall → Int) :
    (∀ module, modules[m]? = some module → module.openResult = 0 →
      (∀ request, 0 ≤ l → request.Served module.deviceVersion →
        ((boot modules).perform answer h request).Reaches m l) ∧
      (∀ request, ¬ (0 ≤ l ∧ request.Served module.deviceVersion) →
        (boot modules).perform answer h request = rejected) ∧
      (∃ thread ∈ (boot modules).dev.threads, thread.device.module = m) ∧
      ∀ thread ∈ (boot modules).dev.threads, thread.device.module = m →
        ∀ event, event.reference = l →
          (event.type = SENSOR_TYPE_META_DATA → event.sensor ≠ -1) →
          (∀ j > position, ((subHalSensors modules)[j]?).map fullHandle ≠ some ⟨m, l⟩) →
          DeliveredUnder (boot modules) thread event h) ∧
    (¬ Opened modules m → ∀ request, (boot modules).perform answer h request = rejected) := by
  have known := HandedOut.globalToFull handed
  have lookup := deviceByHandle_eq known (boot modules).dev
  refine ⟨fun module found success => ?_, fun failed request => ?_⟩
  · have opened : Opened modules m := (opened_iff found).mpr success
    have device := device_of_opened found success (by simpa only [InStep, if_pos opened] using inStep)
    have performed := perform_found answer known (lookup.trans device)
    refine ⟨fun request nonneg served => (performed nonneg request).1 served, ?_,
      ⟨_, thread_of_device device, rfl⟩, ?_⟩
    · intro request refused
      by_cases nonneg : 0 ≤ l
      · exact (performed nonneg request).2 fun served => refused ⟨nonneg, served⟩
      · exact perform_negative answer known (by omega) request
    · intro thread member own event reference valid last
      have queue : thread.queue = m := queue_of_thread member device own
      have assigned : (boot modules).statics.maps.fullToGlobal ⟨thread.queue, event.reference⟩ =
          some h := by
        rw [queue, reference, HandedOut.handle_eq handed, boot_maps]
        refine fullToGlobal_assignAll (HandedOut.place handed) fun j later => ?_
        rw [fullHandles, List.getElem?_map]
        exact last j later
      apply delivered_of_known assigned
      unfold SensorsEvent.refer
      split_ifs with nested
      · exact valid nested
      · simp only [HandedOut.handle_eq handed]
        omega
  · rw [InStep, if_neg failed] at inStep
    exact perform_rejected answer (lookup.trans (no_device_of_failed inStep)) request

/-- Two sub-HALs that open, the second with a 1.1 device and the sensor it calls 7. -/
theorem calls_and_events_routed_second :
    ((boot [⟨0, [⟨5, 1, 0, 0, 0⟩], 0, 0x01000000⟩, ⟨1, [⟨7, 4, 0, 0, 0⟩], 0, 0x01010001⟩]).perform
      (fun _ => 0) 2 .flush).Reaches 1 7 := by
  have handed : HandedOut
      [⟨0, [⟨5, 1, 0, 0, 0⟩], 0, 0x01000000⟩, ⟨1, [⟨7, 4, 0, 0, 0⟩], 0, 0x01010001⟩] 1 2 1 7 :=
    ⟨by decide, by decide⟩
  have routed := calls_and_events_routed handed (by decide) fun _ => 0
  exact (routed.1 _ rfl rfl).1 .flush (by decide) (Int.le_refl SENSORS_DEVICE_API_VERSION_1_1)

def legacyModule : List SensorsModule := [⟨0, [⟨5, 1, 0, 0, 0⟩], 0, 0x01000000⟩]

def negativeHandleModule : List SensorsModule := [⟨0, [⟨-3, 1, 0, 0, 0⟩], 0, 0x01010001⟩]

def repeatedHandleModule : List SensorsModule :=
  [⟨0, [⟨5, 1, 0, 0, 0⟩, ⟨5, 4, 0, 0, 0⟩], 0, 0x01010001⟩]

def failedAndOpenedModules : List SensorsModule :=
  [⟨0, [⟨5, 1, 0, 0, 0⟩], -1, 0⟩, ⟨1, [⟨7, 4, 0, 0, 0⟩], 0, 0x01010001⟩]

/-- A device older than 1.1 is never asked to flush; a sensor with a negative local handle gets no
call; of two sensors of one name only the last has its events; and behind a sub-HAL that failed to
open, calls arrive at its neighbour. -/
theorem not_every_call_and_event_routed :
    (HandedOut legacyModule 0 1 0 5 ∧ Opened legacyModule 0 ∧
      ∀ answer, (boot legacyModule).perform answer 1 .flush = rejected) ∧
    (HandedOut negativeHandleModule 0 1 0 (-3) ∧ Opened negativeHandleModule 0 ∧
      ∀ answer, (boot negativeHandleModule).perform answer 1 (.activate 1) = rejected) ∧
    (HandedOut repeatedHandleModule 0 1 0 5 ∧
      ∃ thread ∈ (boot repeatedHandleModule).dev.threads, thread.device.module = 0 ∧
        ¬ DeliveredUnder (boot repeatedHandleModule) thread ⟨5, 1, 0, 0⟩ 1) ∧
    (HandedOut failedAndOpenedModules 0 1 0 5 ∧ ¬ Opened failedAndOpenedModules 0 ∧
      ∀ answer, ((boot failedAndOpenedModules).perform answer 1 (.activate 1)).Reaches 1 5) := by
  refine ⟨⟨⟨by decide, by decide⟩, by decide, fun answer => rfl⟩,
    ⟨⟨by decide, by decide⟩, by decide, fun answer => rfl⟩,
    ⟨⟨by decide, by decide⟩, ⟨⟨0, 0x01010001⟩, 0⟩, by decide, rfl, ?_⟩,
    ⟨by decide, by decide⟩, by decide, fun answer => ⟨_, rfl, rfl, rfl, rfl⟩⟩
  intro delivered
  have other := delivered ⟨[], 0, 0, []⟩ ⟨1, 0, 1, fun _ => ⟨5, 1, 0, 0⟩, .running⟩ rfl rfl
  have first : (⟨5, 1, 0, 0⟩ : SensorsEvent).refer 2 = (⟨5, 1, 0, 0⟩ : SensorsEvent).refer 1 :=
    List.singleton_inj.mp other
  exact absurd first (by decide)

end VibeXperia.Proof.MultiHal

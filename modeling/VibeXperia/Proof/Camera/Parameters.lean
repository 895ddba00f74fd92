import VibeXperia.Camera.Parameters

namespace VibeXperia.Proof.Camera
open VibeXperia.Camera

variable {p q r : CameraParameters} {key value : String}

/-! ## What a change leaves alone -/

@[simp] theorem get_set : (p.set key value).get key = some value := Function.update_self _ _ _

theorem get_set_of_ne {other : String} (distinct : other ≠ key) :
    (p.set key value).get other = p.get other := Function.update_of_ne distinct _ _

def SameBut (keys : List String) (p q : CameraParameters) : Prop :=
  ∀ key, key ∉ keys → q.get key = p.get key

theorem SameBut.refl (keys : List String) (p : CameraParameters) : SameBut keys p p :=
  fun _ _ => rfl

theorem SameBut.set {keys : List String} (same : SameBut keys p q) (listed : key ∈ keys) :
    SameBut keys p (q.set key value) := by
  intro other absent
  have distinct : other ≠ key := fun equal => absent (equal ▸ listed)
  rw [get_set_of_ne distinct]
  exact same other absent

theorem SameBut.trans {keys : List String} (first : SameBut keys p q) (second : SameBut keys q r) :
    SameBut keys p r :=
  fun key absent => (second key absent).trans (first key absent)

theorem SameBut.mono {keys more : List String} (same : SameBut keys p q)
    (covered : keys.all more.contains = true) : SameBut more p q := by
  intro key absent
  apply same
  intro listed
  rw [List.all_eq_true] at covered
  exact absent (List.contains_iff_mem.mp (covered key listed))

/-! ## `camera_fixup_getparams` -/

def listedKeys : List String :=
  [keySupportedSceneModes, keySupportedIsoModes, keySceneMode, keyVideoHdrValues, keyVideoHdr]

theorem capability_sameBut (fixed : cameraFixupCapability p = some q) :
    SameBut [keySupportedSceneModes] p q := by
  have same := SameBut.refl [keySupportedSceneModes] p
  rw [cameraFixupCapability] at fixed
  split at fixed
  · obtain rfl := Option.some.inj fixed
    exact same
  · split_ifs at fixed
    · simp only [Option.bind_eq_bind, Option.bind_eq_some_iff] at fixed
      obtain ⟨sceneModes, -, buffer, -, fixed⟩ := fixed
      obtain rfl := Option.some.inj fixed
      exact same.set (by decide)
    · obtain rfl := Option.some.inj fixed
      exact same

theorem getIsoModes_sameBut (fixed : getIsoModes p = some q) :
    SameBut [keySupportedIsoModes] p q := by
  have same := SameBut.refl [keySupportedIsoModes] p
  rw [getIsoModes] at fixed
  split at fixed
  · obtain rfl := Option.some.inj fixed
    exact same
  · rw [Option.bind_eq_bind, Option.bind_eq_some_iff] at fixed
    obtain ⟨buffer, -, fixed⟩ := fixed
    obtain rfl := Option.some.inj fixed
    exact same.set (by decide)

theorem getSceneMode_sameBut : SameBut [keySceneMode] p (getSceneMode p) := by
  unfold getSceneMode
  split_ifs
  · exact (SameBut.refl _ p).set (by decide)
  · exact SameBut.refl _ p

theorem getVideoHdr_sameBut : SameBut [keyVideoHdrValues, keyVideoHdr] p (getVideoHdr p) := by
  unfold getVideoHdr
  split
  · exact ((SameBut.refl _ p).set (by decide)).set (by decide)
  · exact SameBut.refl _ p

def getPicture (params : CameraParameters) : Option CameraParameters := do
  let params ← cameraFixupCapability params
  let params ← getIsoModes params
  return getVideoHdr (getSceneMode params)

theorem getparams_eq : cameraFixupGetparams p = (getPicture p).bind getAeMode := by
  simp [cameraFixupGetparams, getPicture, Option.bind_assoc]

theorem getPicture_cases (fixed : getPicture p = some q) :
    ∃ capable listed, cameraFixupCapability p = some capable ∧
      getIsoModes capable = some listed ∧ q = getVideoHdr (getSceneMode listed) := by
  simp only [getPicture, Option.bind_eq_bind, Option.bind_eq_some_iff] at fixed
  obtain ⟨capable, capability, listed, isoModes, fixed⟩ := fixed
  exact ⟨capable, listed, capability, isoModes, (Option.some.inj fixed).symm⟩

theorem getPicture_sameBut (fixed : getPicture p = some q) : SameBut listedKeys p q := by
  obtain ⟨capable, listed, capability, isoModes, rfl⟩ := getPicture_cases fixed
  have lists : SameBut listedKeys p listed :=
    ((capability_sameBut capability).mono (by decide)).trans
      ((getIsoModes_sameBut isoModes).mono (by decide))
  exact (lists.trans (getSceneMode_sameBut.mono (by decide))).trans
    (getVideoHdr_sameBut.mono (by decide))

theorem getShutterSpeed_sameBut : SameBut [keyShutterSpeed] p (getShutterSpeed p) := by
  unfold getShutterSpeed
  split
  · exact SameBut.refl _ p
  · exact (SameBut.refl _ p).set (by decide)

theorem getAeMode_sameBut (fixed : getAeMode p = some q) :
    SameBut [keyIsoMode, keyShutterSpeed] p q := by
  have same := SameBut.refl [keyIsoMode, keyShutterSpeed] p
  have shutter {p' : CameraParameters} (same : SameBut [keyIsoMode, keyShutterSpeed] p p') :
      SameBut [keyIsoMode, keyShutterSpeed] p (getShutterSpeed p') :=
    same.trans (getShutterSpeed_sameBut.mono (by decide))
  rw [getAeMode] at fixed
  split at fixed
  · rw [Option.bind_eq_bind, Option.bind_eq_some_iff] at fixed
    obtain ⟨aeMode, -, fixed⟩ := fixed
    split_ifs at fixed
    · obtain rfl := Option.some.inj fixed
      exact (same.set (by decide)).set (by decide)
    · rw [Option.bind_eq_some_iff] at fixed
      obtain ⟨isoVal, -, fixed⟩ := fixed
      obtain rfl := Option.some.inj fixed
      exact (same.set (by decide)).set (by decide)
    · obtain rfl := Option.some.inj fixed
      exact shutter (same.set (by decide))
    · rw [Option.bind_eq_some_iff] at fixed
      obtain ⟨isoVal, -, fixed⟩ := fixed
      obtain rfl := Option.some.inj fixed
      exact (shutter same).set (by decide)
    · obtain rfl := Option.some.inj fixed
      exact (same.set (by decide)).set (by decide)
  · obtain rfl := Option.some.inj fixed
    exact same

/-! ## `camera_fixup_setparams` -/

theorem setShutterSpeed_cases (set : setShutterSpeed p = some q) :
    (p.get keyShutterSpeed = none ∧ q = p) ∨
      (∃ shutterSpeed, p.get keyShutterSpeed = some shutterSpeed ∧ shutterSpeed ≠ "auto" ∧
        q = (p.set keySonyShutterSpeed shutterSpeed).set keySonyAeMode "shutter-prio") ∨
      ∃ aeModes, p.get keyShutterSpeed = some "auto" ∧ p.get keySonyAeModeValues = some aeModes ∧
        q = if strstr aeModes "auto" then p.set keySonyAeMode "auto" else p := by
  rw [setShutterSpeed] at set
  cases shutter : p.get keyShutterSpeed with
  | none =>
      rw [shutter] at set
      exact .inl ⟨rfl, (Option.some.inj set).symm⟩
  | some shutterSpeed =>
      rw [shutter] at set
      dsimp only at set
      split_ifs at set with timed
      · exact .inr (.inl ⟨shutterSpeed, rfl, timed, (Option.some.inj set).symm⟩)
      · rw [Option.bind_eq_bind, Option.bind_eq_some_iff] at set
        obtain ⟨aeModes, values, set⟩ := set
        obtain rfl := not_ne_iff.mp timed
        exact .inr (.inr ⟨aeModes, rfl, values, (Option.some.inj set).symm⟩)

theorem setShutterSpeed_sameBut (set : setShutterSpeed p = some q) :
    SameBut [keySonyShutterSpeed, keySonyAeMode] p q := by
  have same := SameBut.refl [keySonyShutterSpeed, keySonyAeMode] p
  rcases setShutterSpeed_cases set with ⟨-, rfl⟩ | ⟨_, -, -, rfl⟩ | ⟨_, -, -, rfl⟩
  · exact same
  · exact (same.set (by decide)).set (by decide)
  · split_ifs
    · exact same.set (by decide)
    · exact same

theorem setSonyIso_sameBut {isoMode : String} (set : setSonyIso isoMode p = some q) :
    SameBut [keySonyIsoMode] p q := by
  rw [setSonyIso] at set
  split_ifs at set
  · rw [Option.bind_eq_bind, Option.bind_eq_some_iff] at set
    obtain ⟨sonyIso, -, set⟩ := set
    obtain rfl := Option.some.inj set
    exact (SameBut.refl _ p).set (by decide)
  · obtain rfl := Option.some.inj set
    exact SameBut.refl _ p

def pictureKeys : List String :=
  [keySonyImageStabiliser, keySceneMode, keySonyVideoHdr, keySonyVideoStabiliser]

theorem setSceneMode_sameBut : SameBut pictureKeys p (setSceneMode p) := by
  have same := SameBut.refl pictureKeys p
  unfold setSceneMode
  split
  · exact same
  · split_ifs
    · exact (same.set (by decide)).set (by decide)
    · exact same.set (by decide)

theorem setVideoHdr_sameBut : SameBut [keySonyVideoHdr] p (setVideoHdr p) := by
  unfold setVideoHdr
  split
  · exact (SameBut.refl _ p).set (by decide)
  · exact SameBut.refl _ p

theorem setRecordingHint_sameBut :
    SameBut [keySonyVideoStabiliser, keySonyImageStabiliser] p (setRecordingHint p) := by
  unfold setRecordingHint
  split_ifs
  · exact ((SameBut.refl _ p).set (by decide)).set (by decide)
  · exact SameBut.refl _ p

def setPicture (params : CameraParameters) : CameraParameters :=
  setRecordingHint (setVideoHdr (setSceneMode params))

theorem setPicture_sameBut : SameBut pictureKeys p (setPicture p) :=
  (setSceneMode_sameBut.trans (setVideoHdr_sameBut.mono (by decide))).trans
    (setRecordingHint_sameBut.mono (by decide))

end VibeXperia.Proof.Camera

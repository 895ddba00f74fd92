import VibeXperia.Camera.Exposure
import VibeXperia.Proof.Camera.Buffers

namespace VibeXperia.Proof.Camera
open Lib VibeXperia.Camera

variable {p q r : CameraParameters} {exposure : Exposure}

theorem FullyControlled.sameBut {keys : List String} (controlled : FullyControlled p)
    (same : SameBut keys p q) (values : keySonyAeModeValues ∉ keys)
    (aeMode : (q.get keySonyAeMode).isSome) (iso : (q.get keySonyIsoMode).isSome) :
    FullyControlled q := by
  obtain ⟨aeModes, listed, all⟩ := controlled.values
  exact ⟨⟨aeModes, (same _ values).trans listed, all⟩, aeMode, iso⟩

/-! ## The vendor's view -/

def heldKeys : List String := [keySonyAeMode, keySonyIsoMode, keySonyShutterSpeed]

theorem afterIso_append (iso : String) : afterIso ("ISO" ++ iso) = some iso := by
  simp [afterIso]

theorem isoMode_ne_auto {iso : String} : "ISO" ++ iso ≠ "auto" := by
  intro same
  have first := congrArg (fun text => text.toList.head?) same
  simp at first

theorem setShutterSpeed_spec (shown : Shows p exposure) (controlled : FullyControlled p) :
    ∃ q, setShutterSpeed p = some q ∧ SameBut heldKeys p q ∧
      q.get keySonyIsoMode = p.get keySonyIsoMode ∧
      q.get keySonyAeMode = some (if exposure.shutterSpeed = none then "auto" else "shutter-prio") ∧
      ∀ shutterSpeed, exposure.shutterSpeed = some shutterSpeed →
        q.get keySonyShutterSpeed = some shutterSpeed := by
  obtain ⟨aeModes, values, all⟩ := controlled.values
  rw [setShutterSpeed, shown.shutterSpeed]
  cases asked : exposure.shutterSpeed with
  | none =>
      refine ⟨p.set keySonyAeMode "auto", ?_, (SameBut.refl heldKeys p).set (by decide),
        get_set_of_ne (by decide), by simp, by simp⟩
      simp [values, all "auto" (by simp)]
  | some shutterSpeed =>
      have timed : shutterSpeed ≠ "auto" := fun same => exposure.timed (by rw [asked, same])
      refine ⟨(p.set keySonyShutterSpeed shutterSpeed).set keySonyAeMode "shutter-prio", ?_,
        ((SameBut.refl heldKeys p).set (by decide)).set (by decide), ?_, by simp, ?_⟩
      · simp [timed]
      · rw [get_set_of_ne (by decide), get_set_of_ne (by decide)]
      · rintro _ ⟨⟩
        rw [get_set_of_ne (by decide), get_set]

theorem setIsoMode_spec (iso : p.get keyIsoMode = some exposure.isoMode)
    (controlled : FullyControlled p)
    (timed : p.get keySonyAeMode =
      some (if exposure.shutterSpeed = none then "auto" else "shutter-prio")) :
    ∃ q, setIsoMode p = some q ∧ SameBut heldKeys p q ∧
      q.get keySonyShutterSpeed = p.get keySonyShutterSpeed ∧
      q.get keySonyAeMode = some exposure.aeMode ∧ (q.get keySonyIsoMode).isSome ∧
      ∀ iso, exposure.iso = some iso → q.get keySonyIsoMode = some iso := by
  obtain ⟨aeModes, values, all⟩ := controlled.values
  have automatic : strstr aeModes "auto" = true := all "auto" (by simp)
  have prioritised : strstr aeModes "iso-prio" = true := all "iso-prio" (by simp)
  rw [setIsoMode, iso, Exposure.isoMode, Exposure.aeMode]
  cases asked : exposure.iso with
  | none =>
      cases shutter : exposure.shutterSpeed with
      | none =>
          rw [shutter] at timed
          refine ⟨p.set keySonyAeMode "auto", ?_, (SameBut.refl heldKeys p).set (by decide),
            get_set_of_ne (by decide), get_set, ?_, by simp⟩
          · simp [setSonyIso, setAeMode, values, automatic, timed]
          · rw [get_set_of_ne (by decide)]
            exact controlled.iso
      | some shutterSpeed =>
          rw [shutter] at timed
          refine ⟨p, ?_, SameBut.refl _ _, rfl, timed, controlled.iso, by simp⟩
          simp [setSonyIso, setAeMode, values, automatic, timed]
  | some iso =>
      let given := p.set keySonyIsoMode iso
      have same : SameBut heldKeys p given := (SameBut.refl heldKeys p).set (by decide)
      have values : given.get keySonyAeModeValues = some aeModes :=
        (get_set_of_ne (by decide)).trans values
      have timed : given.get keySonyAeMode =
          some (if exposure.shutterSpeed = none then "auto" else "shutter-prio") :=
        (get_set_of_ne (by decide)).trans timed
      have chosen (aeMode : String) : SameBut heldKeys p (given.set keySonyAeMode aeMode) ∧
          (given.set keySonyAeMode aeMode).get keySonyShutterSpeed = p.get keySonyShutterSpeed ∧
          (given.set keySonyAeMode aeMode).get keySonyIsoMode = some iso :=
        ⟨same.set (by decide), (get_set_of_ne (by decide)).trans (get_set_of_ne (by decide)),
          (get_set_of_ne (by decide)).trans get_set⟩
      cases shutter : exposure.shutterSpeed with
      | none =>
          rw [shutter] at timed
          obtain ⟨unchanged, shutterSpeed, held⟩ := chosen "iso-prio"
          refine ⟨_, ?_, unchanged, shutterSpeed, get_set, by rw [held]; rfl, ?_⟩
          · simp [setSonyIso, setAeMode, isoMode_ne_auto, afterIso_append, values, prioritised, timed,
              given]
          · rintro _ ⟨⟩
            exact held
      | some shutterSpeed =>
          rw [shutter] at timed
          obtain ⟨unchanged, shutterSpeed, held⟩ := chosen "manual"
          refine ⟨_, ?_, unchanged, shutterSpeed, get_set, by rw [held]; rfl, ?_⟩
          · simp [setSonyIso, setAeMode, isoMode_ne_auto, afterIso_append, values, prioritised, timed,
              given]
          · rintro _ ⟨⟩
            exact held

theorem Holds.sameBut {keys : List String} (holds : Holds p exposure) (same : SameBut keys p q)
    (apart : heldKeys.all (fun key => !keys.contains key) = true) : Holds q exposure := by
  have kept (key) (listed : key ∈ heldKeys) : q.get key = p.get key := by
    apply same
    simpa using List.all_eq_true.mp apart key listed
  constructor
  case aeMode => rw [kept _ (by simp [heldKeys]), holds.aeMode]
  case iso =>
    rw [kept _ (by simp [heldKeys])]
    exact holds.iso
  case shutterSpeed =>
    rw [kept _ (by simp [heldKeys])]
    exact holds.shutterSpeed

/-- The vendor is told of the exposure that the application shows. -/
theorem setparams_spec (shown : Shows p exposure) (controlled : FullyControlled p) :
    ∃ q, cameraFixupSetparams p = some (setPicture q) ∧ SameBut heldKeys p q ∧
      Holds (setPicture q) exposure ∧ FullyControlled (setPicture q) := by
  obtain ⟨first, timed, sameFirst, isoFirst, aeFirst, shutterFirst⟩ :=
    setShutterSpeed_spec shown controlled
  have controlledFirst : FullyControlled first := by
    apply FullyControlled.sameBut controlled sameFirst (by decide)
    · rw [aeFirst]
      rfl
    · rw [isoFirst]
      exact controlled.iso
  have isoShown : first.get keyIsoMode = some exposure.isoMode :=
    (sameFirst _ (by decide)).trans shown.iso
  obtain ⟨q, chosen, same, shutter, aeMode, some, iso⟩ :=
    setIsoMode_spec isoShown controlledFirst aeFirst
  have holds : Holds q exposure := by
    refine ⟨aeMode, iso, fun shutterSpeed asked => ?_⟩
    rw [shutter]
    exact shutterFirst shutterSpeed asked
  have picture := @setPicture_sameBut q
  refine ⟨q, ?_, sameFirst.trans same, Holds.sameBut holds picture (by decide), ?_⟩
  · rw [cameraFixupSetparams, timed, Option.bind_eq_bind, Option.bind_some, chosen]
    rfl
  · have whole : SameBut (heldKeys ++ pictureKeys) p (setPicture q) :=
      ((sameFirst.trans same).mono (by decide)).trans (picture.mono (by decide))
    apply FullyControlled.sameBut controlled whole (by decide)
    · rw [picture _ (by decide), aeMode]
      rfl
    · rw [picture _ (by decide)]
      exact some

/-! ## The application's view -/

theorem getShutterSpeed_eq {shutterSpeed : String}
    (held : p.get keySonyShutterSpeed = some shutterSpeed) :
    getShutterSpeed p = p.set keyShutterSpeed shutterSpeed := by
  rw [getShutterSpeed, held]

theorem set_shown {isoMode shutterSpeed : String} (iso : exposure.isoMode = isoMode)
    (shutter : exposure.shutterSpeed.getD "auto" = shutterSpeed) (p : CameraParameters) :
    SameBut [keyIsoMode, keyShutterSpeed] p
        ((p.set keyIsoMode isoMode).set keyShutterSpeed shutterSpeed) ∧
      Shows ((p.set keyIsoMode isoMode).set keyShutterSpeed shutterSpeed) exposure := by
  have same := SameBut.refl [keyIsoMode, keyShutterSpeed] p
  subst iso shutter
  exact ⟨(same.set (by decide)).set (by decide), (get_set_of_ne (by decide)).trans get_set, get_set⟩

theorem getAeMode_spec (holds : Holds p exposure) (controlled : FullyControlled p)
    (automatic : exposure.iso = none) :
    ∃ q, getAeMode p = some q ∧ SameBut [keyIsoMode, keyShutterSpeed] p q ∧ Shows q exposure := by
  obtain ⟨aeModes, values, -⟩ := controlled.values
  obtain ⟨sonyIso, iso⟩ := Option.isSome_iff_exists.mp controlled.iso
  have isoMode : exposure.isoMode = "auto" := by rw [Exposure.isoMode, automatic]
  have aeMode := holds.aeMode
  rw [Exposure.aeMode, automatic] at aeMode
  rw [getAeMode, iso, values]
  cases timed : exposure.shutterSpeed with
  | none =>
      simp only [timed] at aeMode
      have shutter : exposure.shutterSpeed.getD "auto" = "auto" := by rw [timed, Option.getD_none]
      have shown := set_shown isoMode shutter p
      exact ⟨_, by simp [aeMode], shown⟩
  | some shutterSpeed =>
      simp only [timed] at aeMode
      have held : (p.set keyIsoMode "auto").get keySonyShutterSpeed = some shutterSpeed :=
        (get_set_of_ne (by decide)).trans (holds.shutterSpeed _ timed)
      have shutter : exposure.shutterSpeed.getD "auto" = shutterSpeed := by
        rw [timed, Option.getD_some]
      have shown := set_shown isoMode shutter p
      rw [← getShutterSpeed_eq held] at shown
      exact ⟨_, by simp [aeMode], shown⟩

theorem getparams_spec (holds : Holds p exposure) (controlled : FullyControlled p)
    (automatic : exposure.iso = none) (strings : ListFree p) (fit : ListsFit p) :
    ∃ pictured q, getPicture p = some pictured ∧ cameraFixupGetparams p = some q ∧
      SameBut [keyIsoMode, keyShutterSpeed] pictured q ∧ Shows q exposure ∧ FullyControlled q := by
  obtain ⟨pictured, picture⟩ := Option.isSome_iff_exists.mp ((getPicture_isSome strings).mpr fit)
  have same := getPicture_sameBut picture
  have controlledPicture : FullyControlled pictured := by
    apply FullyControlled.sameBut controlled same (by decide)
    · rw [same _ (by decide)]
      exact controlled.aeMode
    · rw [same _ (by decide)]
      exact controlled.iso
  obtain ⟨q, got, kept, shown⟩ :=
    getAeMode_spec (Holds.sameBut holds same (by decide)) controlledPicture automatic
  refine ⟨pictured, q, picture, ?_, kept, shown, ?_⟩
  · rw [getparams_eq, picture, Option.bind_some, got]
  · apply FullyControlled.sameBut controlledPicture kept (by decide)
    · rw [kept _ (by decide)]
      exact controlledPicture.aeMode
    · rw [kept _ (by decide)]
      exact controlledPicture.iso

theorem aeMode_automatic :
    exposure.aeMode ≠ "iso-prio" ∧ exposure.aeMode ≠ "manual" ↔ exposure.iso = none := by
  rw [Exposure.aeMode]
  cases exposure.iso with
  | none => cases exposure.shutterSpeed <;> simp
  | some iso => cases exposure.shutterSpeed <;> simp

theorem getparams_automatic (holds : Holds p exposure) (controlled : FullyControlled p)
    (safe : GetsSafely p) : exposure.iso = none := by
  obtain ⟨aeModes, values, -⟩ := controlled.values
  obtain ⟨aeMode, held, other⟩ := safe.aeMode controlled.iso (by rw [values]; rfl)
  obtain rfl : exposure.aeMode = aeMode := Option.some.inj (holds.aeMode.symm.trans held)
  exact aeMode_automatic.mp other

theorem ListsFit.sameBut {keys : List String} (same : SameBut keys p q)
    (apart : [keySonyImageStabiliserValues, keySupportedSceneModes, keySonyIsoAvailModes].all
      (fun key => !keys.contains key) = true) : ListsFit q ↔ ListsFit p := by
  have kept (key) (listed : key ∈ [keySonyImageStabiliserValues, keySupportedSceneModes,
      keySonyIsoAvailModes]) : q.get key = p.get key := by
    apply same
    simpa using List.all_eq_true.mp apart key listed
  have sceneModes := kept keySupportedSceneModes (by simp)
  have isModes := kept keySonyImageStabiliserValues (by simp)
  have isoModes := kept keySonyIsoAvailModes (by simp)
  constructor
  · intro fit
    exact ⟨by simpa only [isModes, sceneModes] using fit.sceneModes,
      by simpa only [isoModes] using fit.isoModes⟩
  · intro fit
    exact ⟨by simpa only [isModes, sceneModes] using fit.sceneModes,
      by simpa only [isoModes] using fit.isoModes⟩

/-! ## Scenes and videos -/

theorem getPicture_lists (picture : getPicture p = some q) :
    ∃ listed, SameBut [keySupportedSceneModes, keySupportedIsoModes] p listed ∧
      q = getVideoHdr (getSceneMode listed) := by
  obtain ⟨capable, listed, capability, isoModes, rfl⟩ := getPicture_cases picture
  exact ⟨listed, ((capability_sameBut capability).mono (by decide)).trans
    ((getIsoModes_sameBut isoModes).mono (by decide)), rfl⟩

theorem setPicture_sceneMode {sceneMode : String} (asked : p.get keySceneMode = some sceneMode)
    (hint : p.get keyRecordingHint ≠ some "true") :
    (setPicture p).get keySonyImageStabiliser =
        some (if sceneMode = "hdr" then valueSonyStillHdr else valueSonyOn) ∧
      (setPicture p).get keySceneMode = some (if sceneMode = "hdr" then "auto" else sceneMode) := by
  have hintKept : (setVideoHdr (setSceneMode p)).get keyRecordingHint = p.get keyRecordingHint := by
    rw [setVideoHdr_sameBut _ (by decide), setSceneMode_sameBut _ (by decide)]
  rw [setPicture, setRecordingHint, hintKept, if_neg hint, setVideoHdr_sameBut _ (by decide),
    setVideoHdr_sameBut _ (by decide), setSceneMode, asked]
  dsimp only
  split_ifs with hdr
  · exact ⟨(get_set_of_ne (by decide)).trans get_set, get_set⟩
  · exact ⟨get_set, (get_set_of_ne (by decide)).trans asked⟩

theorem getPicture_sceneMode {sceneMode : String} (picture : getPicture p = some q)
    (stabiliser : p.get keySonyImageStabiliser =
      some (if sceneMode = "hdr" then valueSonyStillHdr else valueSonyOn))
    (asked : p.get keySceneMode = some (if sceneMode = "hdr" then "auto" else sceneMode)) :
    q.get keySceneMode = some sceneMode := by
  obtain ⟨listed, lists, rfl⟩ := getPicture_lists picture
  rw [getVideoHdr_sameBut _ (by decide), getSceneMode, lists _ (by decide), stabiliser]
  by_cases hdr : sceneMode = "hdr"
  · rw [if_pos hdr, if_pos rfl, get_set, hdr]
  · rw [if_neg hdr, if_neg (by decide), lists _ (by decide), asked, if_neg hdr]

theorem setPicture_videoHdr {videoHdr : String} (asked : p.get keyVideoHdr = some videoHdr) :
    (setPicture p).get keyVideoHdr = some videoHdr ∧
      ∀ held, (setPicture p).get keySonyVideoHdr = some held → held = videoHdr := by
  have scene := @setSceneMode_sameBut p
  have hint := @setRecordingHint_sameBut (setVideoHdr (setSceneMode p))
  constructor
  · rw [setPicture_sameBut _ (by decide), asked]
  · intro held found
    rw [setPicture, hint _ (by decide), setVideoHdr, scene keyVideoHdr (by decide), asked] at found
    cases before : (setSceneMode p).get keySonyVideoHdr with
    | none => simp [before] at found
    | some old =>
        rw [before] at found
        simpa using found.symm

theorem getPicture_videoHdr {videoHdr : String} (picture : getPicture p = some q)
    (asked : p.get keyVideoHdr = some videoHdr)
    (held : ∀ held, p.get keySonyVideoHdr = some held → held = videoHdr) :
    q.get keyVideoHdr = some videoHdr := by
  obtain ⟨listed, lists, rfl⟩ := getPicture_lists picture
  have kept : SameBut [keySupportedSceneModes, keySupportedIsoModes, keySceneMode] p
      (getSceneMode listed) :=
    (lists.mono (by decide)).trans (getSceneMode_sameBut.mono (by decide))
  rw [getVideoHdr, kept keySonyVideoHdr (by decide)]
  split
  · rename_i found _
    rw [get_set, held _ found]
  · rw [kept _ (by decide), asked]

/-! ## Both ways -/

theorem exists_shows (asks : Asks p) : ∃ exposure, Shows p exposure := by
  obtain ⟨isoMode, iso, format⟩ := asks.iso
  obtain ⟨shutterSpeed, shutter⟩ := Option.isSome_iff_exists.mp asks.shutterSpeed
  obtain ⟨asked, shown⟩ : ∃ asked : Option String, ∀ speed timed,
      (⟨asked, speed, timed⟩ : Exposure).isoMode = isoMode := by
    rcases format with rfl | ⟨value, rfl⟩
    · exact ⟨none, fun _ _ => rfl⟩
    · exact ⟨some value, fun _ _ => rfl⟩
  by_cases automatic : shutterSpeed = "auto"
  · refine ⟨⟨asked, none, by simp⟩, ?_, ?_⟩
    · rw [iso, shown]
    · rw [shutter, automatic]
      rfl
  · have timed : some shutterSpeed ≠ some "auto" := fun equal => automatic (Option.some_inj.mp equal)
    refine ⟨⟨asked, some shutterSpeed, timed⟩, ?_, shutter⟩
    rw [iso, shown]

theorem exists_holds (controlled : FullyControlled p) (reports : Reports p) :
    ∃ exposure, Holds p exposure ∧
      (p.get keySonyAeMode ∈ [some "iso-prio", some "manual"] →
        exposure.iso = p.get keySonyIsoMode) ∧
      (p.get keySonyAeMode ∈ [some "shutter-prio", some "manual"] →
        exposure.shutterSpeed = p.get keySonyShutterSpeed) := by
  obtain ⟨sonyIso, iso⟩ := Option.isSome_iff_exists.mp controlled.iso
  obtain ⟨aeMode, listed, mode⟩ := reports.aeMode
  have timed := reports.timed
  have given {shutterSpeed : String} (other : shutterSpeed ≠ "auto") :
      some shutterSpeed ≠ some "auto" := fun same => other (Option.some_inj.mp same)
  rw [mode] at timed ⊢
  simp only [List.mem_cons, List.not_mem_nil, or_false] at listed
  rcases listed with rfl | rfl | rfl | rfl
  · exact ⟨⟨none, none, nofun⟩, ⟨mode, nofun, nofun⟩, by simp, by simp⟩
  · refine ⟨⟨some sonyIso, none, nofun⟩, ⟨mode, ?_, nofun⟩, fun _ => iso.symm, by simp⟩
    rintro _ ⟨⟩
    exact iso
  · obtain ⟨shutterSpeed, shutter, other⟩ := timed (by simp)
    refine ⟨⟨none, some shutterSpeed, given other⟩, ⟨mode, nofun, ?_⟩, by simp,
      fun _ => shutter.symm⟩
    rintro _ ⟨⟩
    exact shutter
  · obtain ⟨shutterSpeed, shutter, other⟩ := timed (by simp)
    refine ⟨⟨some sonyIso, some shutterSpeed, given other⟩, ⟨mode, ?_, ?_⟩, fun _ => iso.symm,
      fun _ => shutter.symm⟩
    · rintro _ ⟨⟩
      exact iso
    · rintro _ ⟨⟩
      exact shutter

theorem Shows.automatic (shown : Shows p exposure) :
    p.get keyIsoMode = some "auto" ↔ exposure.iso = none := by
  rw [shown.iso, Exposure.isoMode]
  cases exposure.iso with
  | none => simp
  | some iso => simp [isoMode_ne_auto]

theorem Holds.automatic (holds : Holds p exposure) :
    p.get keySonyAeMode ∈ [some "auto", some "shutter-prio"] ↔ exposure.iso = none := by
  rw [holds.aeMode, Exposure.aeMode]
  cases exposure.iso with
  | none => cases exposure.shutterSpeed <;> simp
  | some iso => cases exposure.shutterSpeed <;> simp

theorem ListFree.sameBut {keys : List String} (strings : ListFree p) (same : SameBut keys p q)
    (apart : keySonyIsoAvailModes ∉ keys) : ListFree q := by
  intro isoModeList listed
  rw [same _ apart] at listed
  exact strings isoModeList listed

theorem readsBack_iff {settings : Settings} (controlled : FullyControlled settings.params)
    (asks : Asks settings.params) :
    ReadsBack settings ↔
      ListsFit settings.params ∧ settings.params.get keyIsoMode = some "auto" := by
  obtain ⟨exposure, shown⟩ := exists_shows asks
  obtain ⟨q, setparams, same, holds, controlledVendor⟩ := setparams_spec shown controlled
  have whole : SameBut (heldKeys ++ pictureKeys) settings.params (setPicture q) :=
    (same.mono (by decide)).trans (setPicture_sameBut.mono (by decide))
  have strings : ListFree (setPicture q) :=
    ListFree.sameBut (settings.strings _) whole (by decide)
  rw [Shows.automatic shown, ← ListsFit.sameBut whole (by decide)]
  constructor
  · rintro ⟨vendor, params, set, got, -⟩
    obtain rfl : setPicture q = vendor := Option.some.inj (setparams.symm.trans set)
    have safe := (getparams_isSome strings).mp (by rw [got]; rfl)
    exact ⟨safe.toListsFit, getparams_automatic holds controlledVendor safe⟩
  · rintro ⟨fit, automatic⟩
    obtain ⟨pictured, params, picture, got, kept, shownAgain, -⟩ :=
      getparams_spec holds controlledVendor automatic strings fit
    refine ⟨setPicture q, params, setparams, got, ?_, ?_, ?_, ?_⟩
    · rw [shownAgain.iso, shown.iso]
    · rw [shownAgain.shutterSpeed, shown.shutterSpeed]
    · intro videoHdr asked
      rw [kept _ (by decide)]
      have before : q.get keyVideoHdr = some videoHdr := (same _ (by decide)).trans asked
      obtain ⟨videoKept, held⟩ := setPicture_videoHdr before
      exact getPicture_videoHdr picture videoKept held
    · intro hint sceneMode asked
      rw [kept _ (by decide)]
      have before : q.get keySceneMode = some sceneMode := (same _ (by decide)).trans asked
      have hintKept : q.get keyRecordingHint ≠ some "true" := by rwa [same _ (by decide)]
      obtain ⟨stabiliser, scene⟩ := setPicture_sceneMode before hintKept
      exact getPicture_sceneMode picture stabiliser scene

theorem writesBack_iff {settings : Settings} (controlled : FullyControlled settings.params)
    (reports : Reports settings.params) :
    WritesBack settings ↔ ListsFit settings.params ∧
      settings.params.get keySonyAeMode ∈ [some "auto", some "shutter-prio"] := by
  obtain ⟨exposure, holds, iso, shutter⟩ := exists_holds controlled reports
  have strings : ListFree settings.params := settings.strings _
  rw [Holds.automatic holds]
  constructor
  · rintro ⟨params, vendor, got, -, -⟩
    have safe := (getparams_isSome strings).mp (by rw [got]; rfl)
    exact ⟨safe.toListsFit, getparams_automatic holds controlled safe⟩
  · rintro ⟨fit, automatic⟩
    obtain ⟨-, params, -, got, -, shown, controlledParams⟩ :=
      getparams_spec holds controlled automatic strings fit
    obtain ⟨q, setparams, -, holdsAgain, -⟩ := setparams_spec shown controlledParams
    refine ⟨params, setPicture q, got, setparams, ?_, ?_, ?_⟩
    · rw [holdsAgain.aeMode, holds.aeMode]
    · intro prioritised
      obtain ⟨value, held⟩ := Option.isSome_iff_exists.mp controlled.iso
      rw [held]
      exact holdsAgain.iso value ((iso prioritised).trans held)
    · intro prioritised
      obtain ⟨value, held, -⟩ := reports.timed prioritised
      rw [held]
      exact holdsAgain.shutterSpeed value ((shutter prioritised).trans held)

/-- Whatever the camera can be given is kept both ways where the lists fit, except a sensitivity:
for that the memory is one byte short. -/
theorem parameters_kept_iff (settings : Settings) (controlled : FullyControlled settings.params) :
    (Asks settings.params → (ReadsBack settings ↔
      ListsFit settings.params ∧ settings.params.get keyIsoMode = some "auto")) ∧
    (Reports settings.params → (WritesBack settings ↔ ListsFit settings.params ∧
      settings.params.get keySonyAeMode ∈ [some "auto", some "shutter-prio"])) :=
  ⟨readsBack_iff controlled, writesBack_iff controlled⟩

def fullCamera (isoMode aeMode : String)
    (visible : ZeroFree isoMode.toList ∧ ZeroFree aeMode.toList) : Settings where
  params := ⟨fun key =>
    if key = keySonyAeModeValues then some "auto,iso-prio,shutter-prio,manual"
    else if key = keySonyAeMode then some aeMode
    else if key = keySonyIsoMode then some "100"
    else if key = keySonyShutterSpeed then some "1/30"
    else if key = keyIsoMode then some isoMode
    else if key = keyShutterSpeed then some "1/50"
    else none⟩
  strings := by
    intro key value
    dsimp only
    split_ifs
    all_goals rintro ⟨⟩
    all_goals first | exact visible.1 | exact visible.2 | simp [ZeroFree]

theorem fullCamera_controlled {isoMode aeMode : String} {visible} :
    FullyControlled (fullCamera isoMode aeMode visible).params :=
  ⟨⟨"auto,iso-prio,shutter-prio,manual", rfl, by decide⟩, rfl, rfl⟩

theorem parameters_kept_automatic :
    ReadsBack (fullCamera "auto" "shutter-prio" (by simp [ZeroFree])) ∧
      WritesBack (fullCamera "auto" "shutter-prio" (by simp [ZeroFree])) := by
  have fit : ListsFit (fullCamera "auto" "shutter-prio" (by simp [ZeroFree])).params :=
    ⟨nofun, nofun⟩
  obtain ⟨reads, writes⟩ := parameters_kept_iff
    (fullCamera "auto" "shutter-prio" (by simp [ZeroFree])) fullCamera_controlled
  constructor
  · exact (reads ⟨⟨"auto", rfl, .inl rfl⟩, rfl⟩).mpr ⟨fit, rfl⟩
  · have reports : Reports (fullCamera "auto" "shutter-prio" (by simp [ZeroFree])).params :=
      ⟨⟨"shutter-prio", by simp, rfl⟩, fun _ => ⟨"1/30", rfl, by decide⟩⟩
    exact (writes reports).mpr ⟨fit, by decide⟩

def prioritised : Settings := fullCamera "ISO400" "iso-prio" (by simp [ZeroFree])

/-- The fixups come back from neither. -/
theorem sensitivity_overruns :
    FullyControlled prioritised.params ∧ Asks prioritised.params ∧ ¬ ReadsBack prioritised ∧
      Reports prioritised.params ∧ ¬ WritesBack prioritised := by
  have controlled : FullyControlled prioritised.params := fullCamera_controlled
  have asks : Asks prioritised.params := ⟨⟨"ISO400", rfl, .inr ⟨"400", by decide⟩⟩, rfl⟩
  have reports : Reports prioritised.params :=
    ⟨⟨"iso-prio", by simp, rfl⟩, fun _ => ⟨"1/30", rfl, by decide⟩⟩
  refine ⟨controlled, asks, fun reads => ?_, reports, fun writes => ?_⟩
  · exact absurd ((readsBack_iff controlled asks).mp reads).2 (by decide)
  · exact absurd ((writesBack_iff controlled reports).mp writes).2 (by decide)

end VibeXperia.Proof.Camera

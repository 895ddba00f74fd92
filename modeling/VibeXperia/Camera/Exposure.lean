import VibeXperia.Camera.Parameters

namespace VibeXperia.Camera

/-! ## What the parameters say about the exposure -/

/-- The sensitivity and the exposure time, where they are not left to the camera. -/
structure Exposure where
  iso : Option String
  shutterSpeed : Option String
  /-- A time is not called like its absence. -/
  timed : shutterSpeed ≠ some "auto"
  deriving DecidableEq

namespace Exposure

/-- The value of `iso`. -/
def isoMode (exposure : Exposure) : String :=
  match exposure.iso with
  | none => "auto"
  | some iso => "ISO" ++ iso

/-- The one mode that stands for both settings. -/
def aeMode (exposure : Exposure) : String :=
  match exposure.iso, exposure.shutterSpeed with
  | none, none => "auto"
  | some _, none => "iso-prio"
  | none, some _ => "shutter-prio"
  | some _, some _ => "manual"

end Exposure

/-- The application's parameters show the exposure. -/
structure Shows (params : CameraParameters) (exposure : Exposure) : Prop where
  iso : params.get keyIsoMode = some exposure.isoMode
  shutterSpeed : params.get keyShutterSpeed = some (exposure.shutterSpeed.getD "auto")

/-- The vendor's parameters hold the exposure. -/
structure Holds (params : CameraParameters) (exposure : Exposure) : Prop where
  aeMode : params.get keySonyAeMode = some exposure.aeMode
  iso : ∀ iso, exposure.iso = some iso → params.get keySonyIsoMode = some iso
  shutterSpeed : ∀ shutterSpeed, exposure.shutterSpeed = some shutterSpeed →
    params.get keySonyShutterSpeed = some shutterSpeed

/-- The camera can be given each of the four modes, and has one and a sensitivity. -/
structure FullyControlled (params : CameraParameters) : Prop where
  values : ∃ aeModes, params.get keySonyAeModeValues = some aeModes ∧
    ∀ aeMode ∈ ["auto", "iso-prio", "shutter-prio", "manual"], strstr aeModes aeMode = true
  aeMode : (params.get keySonyAeMode).isSome
  iso : (params.get keySonyIsoMode).isSome

/-! ## What is not to be lost -/

/-- The application sets both values. -/
structure Asks (params : CameraParameters) : Prop where
  iso : ∃ isoMode, params.get keyIsoMode = some isoMode ∧
    (isoMode = "auto" ∨ ∃ value, isoMode = "ISO" ++ value)
  shutterSpeed : (params.get keyShutterSpeed).isSome

/-- The application finds what it has set. -/
structure Finds (asked params : CameraParameters) : Prop where
  iso : params.get keyIsoMode = asked.get keyIsoMode
  shutterSpeed : params.get keyShutterSpeed = asked.get keyShutterSpeed
  videoHdr : ∀ videoHdr, asked.get keyVideoHdr = some videoHdr →
    params.get keyVideoHdr = some videoHdr
  sceneMode : asked.get keyRecordingHint ≠ some "true" → ∀ sceneMode,
    asked.get keySceneMode = some sceneMode → params.get keySceneMode = some sceneMode

/-- The camera is in one of the four modes, with an exposure time where the mode has one. -/
structure Reports (params : CameraParameters) : Prop where
  aeMode : ∃ aeMode ∈ ["auto", "iso-prio", "shutter-prio", "manual"],
    params.get keySonyAeMode = some aeMode
  timed : params.get keySonyAeMode ∈ [some "shutter-prio", some "manual"] → ∃ shutterSpeed,
    params.get keySonyShutterSpeed = some shutterSpeed ∧ shutterSpeed ≠ "auto"

/-- The camera stays as it was. -/
structure Stays (reported vendor : CameraParameters) : Prop where
  aeMode : vendor.get keySonyAeMode = reported.get keySonyAeMode
  iso : reported.get keySonyAeMode ∈ [some "iso-prio", some "manual"] →
    vendor.get keySonyIsoMode = reported.get keySonyIsoMode
  shutterSpeed : reported.get keySonyAeMode ∈ [some "shutter-prio", some "manual"] →
    vendor.get keySonyShutterSpeed = reported.get keySonyShutterSpeed

/-- What the application sets and reads again: both functions return, and it finds what it set. -/
def ReadsBack (settings : Settings) : Prop :=
  ∃ vendor params, cameraFixupSetparams settings.params = some vendor ∧
    cameraFixupGetparams vendor = some params ∧ Finds settings.params params

/-- What the application reads and sets again. -/
def WritesBack (settings : Settings) : Prop :=
  ∃ params vendor, cameraFixupGetparams settings.params = some params ∧
    cameraFixupSetparams params = some vendor ∧ Stays settings.params vendor

end VibeXperia.Camera

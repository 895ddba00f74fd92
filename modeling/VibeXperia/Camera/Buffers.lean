import VibeXperia.Camera.Parameters

namespace VibeXperia.Camera

/-! ## What the buffers are for -/

/-- The entries of a list, each with `ISO` before it, and then the entry `auto`. -/
def isoEntries (isoModeList : List Char) : List Char :=
  [','].intercalate ((isoModeList.splitOn ',').map (['I', 'S', 'O'] ++ ·) ++ [['a', 'u', 't', 'o']])

/-- Neither of the two functions comes to an unsafe access. -/
def FixupsSafe (settings : Settings) : Prop :=
  (cameraFixupGetparams settings.params).isSome ∧
    (cameraFixupSetparams settings.params).isSome

/-- The two lists that are made longer fit the memory that there is for them. -/
structure ListsFit (params : CameraParameters) : Prop where
  sceneModes : ∀ isModes, params.get keySonyImageStabiliserValues = some isModes →
    strstr isModes valueSonyStillHdr = true → ∃ sceneModes,
      params.get keySupportedSceneModes = some sceneModes ∧ sceneModes.toList.length ≤ 507
  isoModes : ∀ isoModeList, params.get keySonyIsoAvailModes = some isoModeList →
    isoModeList.toList.length + 3 * isoModeList.toList.count ',' ≤ 246

structure GetsSafely (params : CameraParameters) : Prop extends ListsFit params where
  aeMode : (params.get keySonyIsoMode).isSome → (params.get keySonyAeModeValues).isSome →
    ∃ aeMode, params.get keySonyAeMode = some aeMode ∧ aeMode ≠ "iso-prio" ∧ aeMode ≠ "manual"

structure SetsSafely (params : CameraParameters) : Prop where
  aeModes : params.get keyShutterSpeed = some "auto" → (params.get keySonyAeModeValues).isSome
  isoMode : ∀ isoMode, params.get keyIsoMode = some isoMode → isoMode ≠ "auto" →
    3 ≤ isoMode.toList.length
  /-- `sony-ae-mode` is there, or the shutter speed has put it there. -/
  aeMode : ∀ isoMode aeModes, params.get keyIsoMode = some isoMode →
    params.get keySonyAeModeValues = some aeModes →
    strstr aeModes (if isoMode = "auto" then "auto" else "iso-prio") = true →
    (params.get keySonyAeMode).isSome ∨ ∃ shutterSpeed,
      params.get keyShutterSpeed = some shutterSpeed ∧
        (shutterSpeed ≠ "auto" ∨ strstr aeModes "auto" = true)

end VibeXperia.Camera

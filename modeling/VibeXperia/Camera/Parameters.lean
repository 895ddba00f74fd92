import Mathlib.Data.List.Infix
import Mathlib.Logic.Function.Basic
import VibeXperia.Lib.Buffer

namespace VibeXperia.Camera
open Lib

/-- `CameraParameters` as a map from keys to values. -/
structure CameraParameters where
  get : String → Option String

/-- What `unflatten` makes of a settings string: the values are strings of C, byte by byte. -/
structure Settings where
  params : CameraParameters
  strings : ∀ key value, params.get key = some value → ZeroFree value.toList

def CameraParameters.set (params : CameraParameters) (key value : String) : CameraParameters :=
  ⟨Function.update params.get key (some value)⟩

/-- `strstr(haystack, needle) != NULL` -/
def strstr (haystack needle : String) : Bool := decide (needle.toList <:+: haystack.toList)

/-! ## Keys and values -/

def keySupportedIsoModes : String := "iso-values"
def keyIsoMode : String := "iso"
def keyShutterSpeed : String := "shutter-speed"
def keyVideoHdr : String := "video-hdr"
def keyVideoHdrValues : String := "video-hdr-values"
def keySceneMode : String := "scene-mode"
def keySupportedSceneModes : String := "scene-mode-values"
def keyRecordingHint : String := "recording-hint"

def keySonyImageStabiliserValues : String := "sony-is-values"
def keySonyImageStabiliser : String := "sony-is"
def keySonyVideoStabiliser : String := "sony-vs"
def keySonyVideoStabiliserValues : String := "sony-vs-values"
def keySonyVideoHdr : String := "sony-video-hdr"
def keySonyVideoHdrValues : String := "sony-video-hdr-values"
def keySonyIsoAvailModes : String := "sony-iso-values"
def keySonyIsoMode : String := "sony-iso"
def keySonyAeModeValues : String := "sony-ae-mode-values"
def keySonyAeMode : String := "sony-ae-mode"
def keySonyShutterSpeed : String := "sony-shutter-speed"

def valueSonyOn : String := "on"
def valueSonyOff : String := "off"
def valueSonyStillHdr : String := "on-still-hdr"
def valueSonyIntelligentActive : String := "on-intelligent-active"

/-! ## `CameraWrapper.cpp`

A function gives nothing where the source would hand a missing value to a string function, read
behind the end of a value or write behind the end of a buffer. -/

/-- What `sprintf` leaves in a buffer of `size` bytes. -/
def sprintf (size : Nat) (text : String) : Option String :=
  if text.toList.length + 1 ≤ size then some text else none

def cameraFixupCapability (params : CameraParameters) : Option CameraParameters :=
  match params.get keySonyImageStabiliserValues with
  | none => some params
  | some supportedIsModes =>
      if strstr supportedIsModes valueSonyStillHdr then do
        let supportedSceneModes ← params.get keySupportedSceneModes
        let buffer ← sprintf 512 (supportedSceneModes ++ ",hdr")
        return params.set keySupportedSceneModes buffer
      else some params

structure IsoBuffer where
  buffer : Buffer
  bufferPos : Nat

/-- `char buffer[255] = "ISO"` -/
def isoStart : IsoBuffer where
  buffer := ['I', 'S', 'O'] ++ List.replicate 252 '\x00'
  bufferPos := 3

def isoStep (s : IsoBuffer) (c : Char) : Option IsoBuffer :=
  if c ≠ ',' then do
    let buffer ← s.buffer.write s.bufferPos [c]
    return ⟨buffer, s.bufferPos + 1⟩
  else do
    let buffer ← s.buffer.strcat [',', 'I', 'S', 'O']
    return ⟨buffer, s.bufferPos + 4⟩

def isoLoop (isoModeList : List Char) : Option IsoBuffer := isoModeList.foldlM isoStep isoStart

def isoValues (isoModeList : String) : Option String := do
  let s ← isoLoop isoModeList.toList
  let buffer ← s.buffer.strcat [',', 'a', 'u', 't', 'o']
  return String.ofList (cString buffer)

def getIsoModes (params : CameraParameters) : Option CameraParameters :=
  match params.get keySonyIsoAvailModes with
  | none => some params
  | some isoModeList => do
      let buffer ← isoValues isoModeList
      return params.set keySupportedIsoModes buffer

def getSceneMode (params : CameraParameters) : CameraParameters :=
  if params.get keySonyImageStabiliser = some valueSonyStillHdr then params.set keySceneMode "hdr"
  else params

def getVideoHdr (params : CameraParameters) : CameraParameters :=
  match params.get keySonyVideoHdr, params.get keySonyVideoHdrValues with
  | some videoHdr, some values => (params.set keyVideoHdrValues values).set keyVideoHdr videoHdr
  | _, _ => params

/-- `shutter-speed` becomes what `sony-shutter-speed` is, if that is there. -/
def getShutterSpeed (params : CameraParameters) : CameraParameters :=
  match params.get keySonyShutterSpeed with
  | none => params
  | some shutterSpeed => params.set keyShutterSpeed shutterSpeed

/-- `"ISO%s"` in the memory that was allocated for it -/
def isoVal (sonyIso : String) : Option String :=
  sprintf (3 + sonyIso.toList.length) ("ISO" ++ sonyIso)

def getAeMode (params : CameraParameters) : Option CameraParameters :=
  match params.get keySonyIsoMode, params.get keySonyAeModeValues with
  | some sonyIso, some _ => do
      let aeMode ← params.get keySonyAeMode
      if aeMode = "auto" then return (params.set keyIsoMode "auto").set keyShutterSpeed "auto"
      else if aeMode = "iso-prio" then do
        let isoVal ← isoVal sonyIso
        return (params.set keyIsoMode isoVal).set keyShutterSpeed "auto"
      else if aeMode = "shutter-prio" then return getShutterSpeed (params.set keyIsoMode "auto")
      else if aeMode = "manual" then do
        let isoVal ← isoVal sonyIso
        return (getShutterSpeed params).set keyIsoMode isoVal
      else return (params.set keyIsoMode "auto").set keyShutterSpeed "auto"
  | _, _ => some params

def cameraFixupGetparams (settings : CameraParameters) : Option CameraParameters := do
  let params ← cameraFixupCapability settings
  let params ← getIsoModes params
  getAeMode (getVideoHdr (getSceneMode params))

def setShutterSpeed (params : CameraParameters) : Option CameraParameters :=
  match params.get keyShutterSpeed with
  | none => some params
  | some shutterSpeed =>
      if shutterSpeed ≠ "auto" then
        some ((params.set keySonyShutterSpeed shutterSpeed).set keySonyAeMode "shutter-prio")
      else do
        let aeModes ← params.get keySonyAeModeValues
        return if strstr aeModes "auto" then params.set keySonyAeMode "auto" else params

/-- `isoMode + 3`, which is not to lead behind the terminating zero -/
def afterIso (isoMode : String) : Option String :=
  if 3 ≤ isoMode.toList.length then some (String.ofList (isoMode.toList.drop 3)) else none

def setSonyIso (isoMode : String) (params : CameraParameters) : Option CameraParameters :=
  if isoMode ≠ "auto" then do
    let sonyIso ← afterIso isoMode
    return params.set keySonyIsoMode sonyIso
  else some params

def setAeMode (isoMode : String) (params : CameraParameters) : Option CameraParameters :=
  match params.get keySonyAeModeValues with
  | none => some params
  | some aeModes =>
      if isoMode = "auto" then
        if strstr aeModes "auto" then do
          let aeMode ← params.get keySonyAeMode
          return if aeMode ≠ "shutter-prio" then params.set keySonyAeMode "auto" else params
        else some params
      else if strstr aeModes "iso-prio" then do
        let aeMode ← params.get keySonyAeMode
        return params.set keySonyAeMode
          (if aeMode = "shutter-prio" then "manual" else "iso-prio")
      else some params

def setIsoMode (params : CameraParameters) : Option CameraParameters :=
  match params.get keyIsoMode with
  | none => some params
  | some isoMode => do
      let params ← setSonyIso isoMode params
      setAeMode isoMode params

def setSceneMode (params : CameraParameters) : CameraParameters :=
  match params.get keySceneMode with
  | none => params
  | some sceneMode =>
      if sceneMode = "hdr" then
        (params.set keySonyImageStabiliser valueSonyStillHdr).set keySceneMode "auto"
      else params.set keySonyImageStabiliser valueSonyOn

def setVideoHdr (params : CameraParameters) : CameraParameters :=
  match params.get keySonyVideoHdr, params.get keyVideoHdr with
  | some _, some videoHdr => params.set keySonyVideoHdr videoHdr
  | _, _ => params

def setRecordingHint (params : CameraParameters) : CameraParameters :=
  if params.get keyRecordingHint = some "true" then
    let intelligent := (params.get keySonyVideoStabiliserValues).any
      fun values => strstr values valueSonyIntelligentActive
    (params.set keySonyVideoStabiliser
      (if intelligent then valueSonyIntelligentActive else valueSonyOn)).set
        keySonyImageStabiliser valueSonyOff
  else params

def cameraFixupSetparams (settings : CameraParameters) : Option CameraParameters := do
  let params ← setShutterSpeed settings
  let params ← setIsoMode params
  return setRecordingHint (setVideoHdr (setSceneMode params))

end VibeXperia.Camera

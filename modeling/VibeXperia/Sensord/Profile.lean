import VibeXperia.Lib.Run
import VibeXperia.Sensord.Axis

namespace VibeXperia.Sensord
open Lib

/-! ## `algo_init.c` and `algo_adapter.c`: calibration profiles -/

/-- Bytes written over the first of others. -/
def patch (new old : List UInt8) : List UInt8 := new ++ old.drop new.length

/-- A `ts_calibProfile` in memory: four numbers of two bytes, the accuracy and one more byte. -/
structure TsCalibProfile where
  bytes : List UInt8
  size : bytes.length = 10
  deriving DecidableEq

namespace TsCalibProfile

def accuracy (p : TsCalibProfile) : UInt8 := p.bytes.getD 8 0

/-- What `memset` leaves. -/
def zero : TsCalibProfile := ⟨List.replicate 10 0, by decide⟩

/-- `read` puts the bytes that a file still has in place of the first ones. -/
def readInto (p : TsCalibProfile) (rest : List UInt8) : TsCalibProfile where
  bytes := patch (rest.take 10) p.bytes
  size := by
    have size := p.size
    simp only [patch, List.length_append, List.length_drop, List.length_take]
    omega

end TsCalibProfile

structure CalibProfile where
  profile : TsCalibProfile
  status : Int
  deriving DecidableEq

def AxisSensor.magicByte (magic : AxisSensor) : UInt8 := magic.magic.toUInt8

def algoCalibProfileVer : UInt8 := '2'.toUInt8

/-- The three bytes in front of a profile. -/
def profileHeader (magic : AxisSensor) : List UInt8 := [magic.magicByte, algoCalibProfileVer, 10]

def sensorAccuracyUnreliable : Int := 0

def sensorAccuracyHigh : UInt8 := 3

/-- `opened` is what the file holds, and nothing where it can neither be opened nor created; a
created file is empty. The results are `*cp` and the file behind `*fd`. -/
def restoreSensorProfile (magic : AxisSensor) (cp : CalibProfile) (opened : Option (List UInt8)) :
    CalibProfile × Option (List UInt8) :=
  let cp := { cp with status := 0 }
  match opened with
  | none => (cp, none)
  | some content =>
      if content.take 1 ≠ [magic.magicByte] then (cp, some content)
      else if (content.drop 1).take 1 ≠ [algoCalibProfileVer] then (cp, some content)
      else if (content.drop 2).take 1 ≠ [10] then (cp, some content)
      else
        let rest := content.drop 3
        -- the bytes are in the profile before their number is looked at
        let cp := { cp with profile := cp.profile.readInto rest }
        if (rest.take 10).length = 10 then ({ cp with status := 1 }, some content)
        else (cp, some content)

/-- What the daemon keeps of one sensor: its profile and the file that is open, if there is one. -/
structure ProfileStore where
  cp : CalibProfile
  file : Option (List UInt8)
  deriving DecidableEq

def startProfiles : ProfileStore := ⟨⟨.zero, 0⟩, none⟩

/-- The profiles that are set in the library. -/
def algoLoadCalibProfile (s : ProfileStore) : List TsCalibProfile :=
  if s.cp.profile.accuracy = sensorAccuracyHigh then [s.cp.profile] else []

def savedBytes (magic : AxisSensor) (profile : TsCalibProfile) : List UInt8 :=
  profileHeader magic ++ profile.bytes

/-- `profile` is what the library says. -/
def algoSaveCalibProfile (magic : AxisSensor) (profile : TsCalibProfile) (s : ProfileStore) :
    ProfileStore :=
  if sensorAccuracyUnreliable ≤ signed 8 profile.accuracy.toNat then
    ⟨{ s.cp with profile := profile }, s.file.map (patch (savedBytes magic profile))⟩
  else s

inductive ProfileEvent
  /-- `memset` in `algo_init_bst` -/
  | memset
  /-- The file is restored and its profile set in the library if the status is good. -/
  | restore (opened : Option (List UInt8))
  /-- `algo_enable_a` and `algo_enable_m` with 1 -/
  | enable
  /-- The same with 0, where the library has this profile. -/
  | disable (profile : TsCalibProfile)

/-- The part of `algo_init_bst` for one sensor. -/
def algoInitProfile (opened : Option (List UInt8)) : List ProfileEvent :=
  [.memset, .restore opened]

/-- The profiles that are set in the library are put out. -/
def profileStep (magic : AxisSensor) (s : ProfileStore) :
    ProfileEvent → ProfileStore × List TsCalibProfile
  | .memset => ({ s with cp := ⟨.zero, 0⟩ }, [])
  | .restore opened =>
      let (cp, file) := restoreSensorProfile magic s.cp opened
      (⟨cp, file⟩, if cp.status ≠ 0 then [cp.profile] else [])
  | .enable => (s, algoLoadCalibProfile s)
  | .disable profile => (algoSaveCalibProfile magic profile s, [])

/-! ## What is asked of the files -/

section Files
variable (magic : AxisSensor)

/-- A file that a profile was saved to is restored to that profile. -/
def SavedRestored : Prop :=
  ∀ profile s cp, s.file.isSome →
    sensorAccuracyUnreliable ≤ signed 8 profile.accuracy.toNat →
    (restoreSensorProfile magic cp (algoSaveCalibProfile magic profile s).file).1 = ⟨profile, 1⟩

def Rejected (opened : Option (List UInt8)) : Prop :=
  (restoreSensorProfile magic startProfiles.cp opened).1.status = 0

instance (opened : Option (List UInt8)) : Decidable (Rejected magic opened) :=
  inferInstanceAs (Decidable (_ = _))

/-- The same events where rejected files do not exist. -/
def ProfileEvent.forget : ProfileEvent → ProfileEvent
  | .restore opened => if Rejected magic opened then .restore none else .restore opened
  | e => e

/-- Saved profiles are restored, a rejected file leaves the profile as it was, and what is set in the
library is the same as without the rejected files. -/
structure FilesKept (s : ProfileStore) (es : List ProfileEvent) : Prop where
  restored : SavedRestored magic
  left : ∀ t ∈ trace (profileStep magic) s es, ∀ opened, t.event = .restore opened →
    Rejected magic opened → t.after.cp.profile = t.before.cp.profile
  unloaded : outputs (profileStep magic) s es =
    outputs (profileStep magic) s (es.map (ProfileEvent.forget magic))

/-- After a good header the file ends within the profile, and its bytes are not those that the
profile begins with. -/
def CutShort (profile : TsCalibProfile) (opened : Option (List UInt8)) : Prop :=
  ∃ body, opened = some (profileHeader magic ++ body) ∧
    body.length < 10 ∧ ¬ body <+: profile.bytes

end Files

end VibeXperia.Sensord

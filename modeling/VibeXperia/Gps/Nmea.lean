import VibeXperia.Gps.Engine
import VibeXperia.Lib.Format

namespace VibeXperia.Gps
open Lib

/-! ## `loc_eng_nmea.cpp`: sentences -/

def nmeaSentenceMaxLength : Nat := 200

/-- The type `size_t` of a machine with 32 bits. -/
def sizeT (value : Int) : Nat := (value % 2 ^ 32).toNat

def byteOf (c : Char) : UInt8 := UInt8.ofNat c.toNat

/-- The loop over the bytes up to the one that ends the string. -/
def checksumLoop : CString → UInt8 → Nat → UInt8 × Nat
  | [], checksum, length => (checksum, length)
  | c :: pNmea, checksum, length => checksumLoop pNmea (checksum ^^^ byteOf c) (length + 1)

/-- The string that the buffer holds afterwards, and what is returned. The string before is not
empty. -/
def locEngNmeaPutChecksum (pNmea : CString) (maxSize : BitVec 32) : CString × Int :=
  let (checksum, length) := checksumLoop pNmea.tail 0 0
  let (text, checksumLength) := snprintf (sizeT (maxSize.toInt - length - 1))
    ('*' :: hexText checksum ++ ['\r', '\n'])
  (pNmea ++ text, length + checksumLength)

/-- What `nmea_cb` is told to read of the string it is given. -/
def locEngNmeaSend (pNmea : CString) (length : Int) : CString := pNmea.take length.toNat

/-! ## What is asked of the checksum -/

def xorBytes (text : CString) : UInt8 := (text.map byteOf).foldl (· ^^^ ·) 0

/-- The sentence that begins with `$` and ends with its checksum. -/
def framed (rest : CString) : CString :=
  '$' :: rest ++ '*' :: hexText (xorBytes rest) ++ ['\r', '\n']

/-- The sentence and the byte after it fit a buffer. -/
def FitsBuffer (rest : CString) (maxSize : BitVec 32) : Prop :=
  ((framed rest).length : Int) < maxSize.toInt

instance (rest : CString) (maxSize : BitVec 32) : Decidable (FitsBuffer rest maxSize) :=
  inferInstanceAs (Decidable (_ < _))

/-- The buffer holds the sentence, its length is returned, and it is sent whole. -/
structure ChecksumFrames (rest : CString) (maxSize : BitVec 32) : Prop where
  buffer : (locEngNmeaPutChecksum ('$' :: rest) maxSize).1 = framed rest
  returned : (locEngNmeaPutChecksum ('$' :: rest) maxSize).2 = (framed rest).length
  sent : locEngNmeaSend (locEngNmeaPutChecksum ('$' :: rest) maxSize).1
    (locEngNmeaPutChecksum ('$' :: rest) maxSize).2 = framed rest

/-! ## `loc_eng_nmea_generate_sv` -/

/-- A satellite; of its elevation, its azimuth and, where that is positive, its signal-to-noise
ratio, the whole numbers that they are rounded to. -/
structure GpsSvInfo where
  prn : Int
  elevation : BitVec 32
  azimuth : BitVec 32
  snr : Option (BitVec 32)
  deriving DecidableEq, Repr

def gpsMaxSvs : Nat := 32

structure GpsSvStatus where
  svList : List GpsSvInfo
  few : svList.length ≤ gpsMaxSvs
  usedInFixMask : BitVec 32

inductive Constellation
  | gps | glonass
  deriving DecidableEq, Repr

/-- `GPS_PRN_START` to `GPS_PRN_END` and `GLONASS_PRN_START` to `GLONASS_PRN_END` -/
def Constellation.has : Constellation → GpsSvInfo → Bool
  | .gps, sv => 1 ≤ sv.prn ∧ sv.prn ≤ 32
  | .glonass, sv => 65 ≤ sv.prn ∧ sv.prn ≤ 96

def Constellation.talker : Constellation → CString
  | .gps => "$GPGSV".toList
  | .glonass => "$GLGSV".toList

/-- `snprintf(pMarker, lengthRemaining, ...)` behind what stands in the sentence, and its check. -/
def appendText (sentence text : CString) : Option CString :=
  let length := (snprintf (nmeaSentenceMaxLength - sentence.length) text).2
  if length ≥ nmeaSentenceMaxLength - sentence.length then none else some (sentence ++ text)

def putSv (sentence : CString) (sv : GpsSvInfo) : Option CString := do
  let sentence ← appendText sentence (',' :: decimalText 2 sv.prn ++ ',' ::
    decimalText 2 sv.elevation.toInt ++ ',' :: decimalText 3 sv.azimuth.toInt ++ [','])
  match sv.snr with
  | none => return sentence
  | some snr => appendText sentence (decimalText 2 snr.toInt)

/-- The loop that fills a sentence: the sentence, and the satellites that it did not look at. -/
def putSvs (constellation : Constellation) :
    List GpsSvInfo → Nat → CString → Option (CString × List GpsSvInfo)
  | [], _, sentence => some (sentence, [])
  | sv :: svs, i, sentence =>
      if i < 4 then
        if constellation.has sv then do
          let sentence ← putSv sentence sv
          putSvs constellation svs (i + 1) sentence
        else putSvs constellation svs i sentence
      else some (sentence, sv :: svs)

/-- `loc_eng_nmea_put_checksum` and `loc_eng_nmea_send` of a sentence in the buffer: the string in
it and the length that goes with it. -/
def sendSentence (sentence : CString) : CString × Int :=
  locEngNmeaPutChecksum sentence (BitVec.ofNat 32 nmeaSentenceMaxLength)

/-- The loop over the sentences that are left; `false` where the function returns early. -/
def gsvSentences (constellation : Constellation) (svCount sentenceCount : Nat) :
    Nat → Nat → List GpsSvInfo → List (CString × Int) × Bool
  | 0, _, _ => ([], true)
  | left + 1, sentenceNumber, svs =>
      let filled := do
        let sentence ← appendText [] (constellation.talker ++ ',' ::
          decimalText 1 sentenceCount ++ ',' :: decimalText 1 sentenceNumber ++ ',' ::
          decimalText 2 svCount)
        putSvs constellation svs 0 sentence
      match filled with
      | none => ([], false)
      | some (sentence, svs) =>
          let (sent, went) :=
            gsvSentences constellation svCount sentenceCount left (sentenceNumber + 1) svs
          (sendSentence sentence :: sent, went)

def generateGsv (constellation : Constellation) (svs : List GpsSvInfo) :
    List (CString × Int) × Bool :=
  let count := svs.countP constellation.has
  if count = 0 then ([sendSentence (constellation.talker ++ ",1,1,0,".toList)], true)
  else
    let sentenceCount := count / 4 + if count % 4 ≠ 0 then 1 else 0
    gsvSentences constellation svs.length sentenceCount sentenceCount 1 svs

/-- What is sent when no satellite is used, so that there will be no position report. -/
def blankSentences : List (CString × Int) :=
  [sendSentence "$GPGSA,A,1,,,,,,,,,,,,,,,".toList, sendSentence "$GPVTG,,T,,M,,N,,K,N".toList,
    sendSentence "$GPRMC,,V,,,,,,,,,,N".toList, sendSentence "$GPGGA,,,,,,0,,,,,,,,".toList]

def locEngNmeaGenerateSv (svStatus : GpsSvStatus) : List (CString × Int) :=
  let (gps, went) := generateGsv .gps svStatus.svList
  if !went then gps
  else
    let (glonass, went) := generateGsv .glonass svStatus.svList
    if !went then gps ++ glonass
    else if svStatus.usedInFixMask = 0 then gps ++ glonass ++ blankSentences
    else gps ++ glonass

/-! ## What is asked of the sentences -/

structure GsvSv where
  prn : Nat
  elevation : CString
  azimuth : CString
  snr : CString
  deriving DecidableEq, Repr

def GpsSvInfo.listed (sv : GpsSvInfo) : GsvSv where
  prn := sv.prn.toNat
  elevation := decimalText 2 sv.elevation.toInt
  azimuth := decimalText 3 sv.azimuth.toInt
  snr := (sv.snr.map fun snr => decimalText 2 snr.toInt).getD []

structure GsvSentence where
  total : Nat
  number : Nat
  inView : Nat
  svs : List GsvSv
  deriving DecidableEq, Repr

/-- Four fields to a satellite; fewer at the end list none. -/
def readSvs : List CString → List GsvSv
  | prn :: elevation :: azimuth :: snr :: fields =>
      ⟨readNumber prn, elevation, azimuth, snr⟩ :: readSvs fields
  | _ => []

/-- The fields of a sentence up to its checksum. -/
def readGsv (sentence : CString) : Option GsvSentence :=
  match (sentence.takeWhile (· ≠ '*')).splitOn ',' with
  | _ :: total :: number :: inView :: svs =>
      some ⟨readNumber total, readNumber number, readNumber inView, readSvs svs⟩
  | _ => none

/-- The sentences of a constellation among those that are sent. -/
def Constellation.sentences (constellation : Constellation) (sent : List (CString × Int)) :
    List CString :=
  (sent.map Prod.fst).filter fun sentence => constellation.talker.isPrefixOf sentence

/-- The sentences list the satellites of a constellation, and they count themselves and the
satellites. Without any satellite there is one sentence. -/
structure ListsGroup (constellation : Constellation) (svs : List GpsSvInfo)
    (sentences : List GsvSentence) : Prop where
  listed : sentences.flatMap GsvSentence.svs =
    (svs.filter constellation.has).map GpsSvInfo.listed
  four : ∀ s ∈ sentences, s.svs.length ≤ 4
  numbers : sentences.map GsvSentence.number =
    List.range' 1 (max 1 ((svs.countP constellation.has + 3) / 4))
  totals : ∀ s ∈ sentences, s.total = max 1 ((svs.countP constellation.has + 3) / 4)
  inView : ∀ s ∈ sentences, s.inView = svs.countP constellation.has

def GeneratesGsv (svStatus : GpsSvStatus) : Prop :=
  ∀ constellation : Constellation, ∃ sentences,
    (constellation.sentences (locEngNmeaGenerateSv svStatus)).map readGsv = sentences.map some ∧
      ListsGroup constellation svStatus.svList sentences

end VibeXperia.Gps

import VibeXperia.Gps.Nmea

namespace VibeXperia.Proof.Gps
open Lib VibeXperia.Gps

/-! ## Checksums -/

theorem checksumLoop_eq (text : CString) (checksum : UInt8) (length : Nat) :
    checksumLoop text checksum length =
      ((text.map byteOf).foldl (· ^^^ ·) checksum, length + text.length) := by
  induction text generalizing checksum length with
  | nil => rfl
  | cons c text ih =>
      rw [checksumLoop, ih, List.length_cons, List.map_cons, List.foldl_cons]
      congr 1
      omega

theorem length_hexText (byte : UInt8) : (hexText byte).length = 2 := rfl

theorem length_framed (rest : CString) : (framed rest).length = rest.length + 6 := by
  simp [framed, length_hexText]

/-- Where the sentence fits, the buffer is right, and the length does not count the `$`. -/
theorem putChecksum_eq {rest : CString} {maxSize : BitVec 32} (fits : FitsBuffer rest maxSize) :
    locEngNmeaPutChecksum ('$' :: rest) maxSize = (framed rest, (rest.length : Int) + 5) := by
  unfold FitsBuffer at fits
  rw [length_framed] at fits
  have trailer : ('*' :: hexText (xorBytes rest) ++ ['\r', '\n']).length = 5 := rfl
  have inside : ('*' :: hexText (xorBytes rest) ++ ['\r', '\n']).length <
      sizeT (maxSize.toInt - rest.length - 1) := by
    have := maxSize.toInt_lt
    unfold sizeT
    omega
  simp only [locEngNmeaPutChecksum, List.tail_cons, checksumLoop_eq, Nat.zero_add]
  rw [← xorBytes, snprintf_of_lt inside, trailer]
  simp [framed]

/-- The length that is returned leaves out a byte of every sentence. -/
theorem checksum_never_frames (rest : CString) (maxSize : BitVec 32)
    (fits : FitsBuffer rest maxSize) : ¬ ChecksumFrames rest maxSize := by
  intro frames
  have returned := frames.returned
  rw [putChecksum_eq fits, length_framed] at returned
  push_cast at returned
  omega

theorem checksum_never_frames_gsv : FitsBuffer "GPGSV,1,1,0,".toList 200 ∧
    ¬ ChecksumFrames "GPGSV,1,1,0,".toList 200 := by
  have fits : FitsBuffer "GPGSV,1,1,0,".toList 200 := by decide
  exact ⟨fits, checksum_never_frames _ 200 fits⟩

/-- The line feed of this sentence is not sent. -/
theorem checksum_drops_line_feed : ¬ ChecksumFrames "GPGSV,1,1,0,".toList 200 := by
  intro frames
  exact absurd frames.sent (by decide)

/-! ## Filling a sentence -/

theorem appendText_of_lt {sentence text : CString} (room : sentence.length + text.length < 200) :
    appendText sentence text = some (sentence ++ text) := by
  have fits : ¬ (snprintf (nmeaSentenceMaxLength - sentence.length) text).2 ≥
      nmeaSentenceMaxLength - sentence.length := by
    unfold snprintf nmeaSentenceMaxLength
    omega
  unfold appendText
  dsimp only
  rw [if_neg fits]

def svFields (sv : GpsSvInfo) : List CString :=
  [decimalText 2 sv.prn, decimalText 2 sv.elevation.toInt, decimalText 3 sv.azimuth.toInt,
    (sv.snr.map fun snr => decimalText 2 snr.toInt).getD []]

def gsvFields (sentenceCount sentenceNumber svCount : Nat) (svs : List GpsSvInfo) : List CString :=
  decimalText 1 sentenceCount :: decimalText 1 sentenceNumber :: decimalText 2 svCount ::
    svs.flatMap svFields

def commas (fields : List CString) : CString := separated ',' fields

theorem has_bounds {constellation : Constellation} {sv : GpsSvInfo}
    (has : constellation.has sv = true) : 1 ≤ sv.prn ∧ sv.prn < 100 := by
  cases constellation <;> simp only [Constellation.has, decide_eq_true_eq] at has <;> omega

theorem length_decimalText_small {number : Nat} (small : number < 100) (width : Nat)
    (narrow : width ≤ 2) : (decimalText width number).length ≤ 2 := by
  have digits := (Nat.length_toDigits_le_iff (b := 10) (k := 2) (n := number) (by decide)
    (by decide)).mpr small
  have nonneg : ¬ (number : Int) < 0 := by omega
  unfold decimalText
  dsimp only
  rw [if_neg nonneg, Int.natAbs_natCast, List.length_leftpad]
  omega

theorem length_svFields_le {sv : GpsSvInfo} (low : 1 ≤ sv.prn) (high : sv.prn < 100) :
    (commas (svFields sv)).length ≤ 39 := by
  obtain ⟨number, same⟩ := Int.eq_ofNat_of_zero_le (show 0 ≤ sv.prn by omega)
  have prn := length_decimalText_small (show number < 100 by omega) 2 (by decide)
  rw [← same] at prn
  have elevation := length_decimalText_le 2 sv.elevation (by decide)
  have azimuth := length_decimalText_le 3 sv.azimuth (by decide)
  have snr : ((sv.snr.map fun snr => decimalText 2 snr.toInt).getD []).length ≤ 11 := by
    cases sv.snr with
    | none => simp
    | some snr => exact length_decimalText_le 2 snr (by decide)
  simp only [commas, svFields, separated_cons, separated_nil, List.length_append, List.length_cons,
    List.length_nil]
  omega

theorem putSv_eq {sentence : CString} {sv : GpsSvInfo} (low : 1 ≤ sv.prn) (high : sv.prn < 100)
    (room : sentence.length + 39 < 200) :
    putSv sentence sv = some (sentence ++ commas (svFields sv)) := by
  have whole := length_svFields_le low high
  simp only [commas, svFields, separated_cons, separated_nil, List.length_append, List.length_cons,
    List.length_nil] at whole
  unfold putSv
  rw [appendText_of_lt (by simp only [List.length_append, List.length_cons, List.length_nil]; omega)]
  cases snr : sv.snr with
  | none => simp [commas, svFields, snr]
  | some value =>
      rw [snr] at whole
      simp only [Option.map_some, Option.getD_some] at whole
      dsimp only [bind, Option.bind]
      rw [appendText_of_lt
        (by simp only [List.length_append, List.length_cons, List.length_nil]; omega)]
      simp [commas, svFields, snr]

theorem putSvs_eq (constellation : Constellation) (svs : List GpsSvInfo) {i : Nat}
    {sentence : CString} (room : sentence.length + (4 - i) * 39 < 200) :
    ∃ later, putSvs constellation svs i sentence =
        some (sentence ++
          commas (((svs.filter constellation.has).take (4 - i)).flatMap svFields), later) ∧
      later.filter constellation.has = (svs.filter constellation.has).drop (4 - i) := by
  induction svs generalizing i sentence with
  | nil => exact ⟨[], by simp [putSvs, commas], by simp⟩
  | cons sv svs ih =>
      rw [putSvs]
      by_cases few : i < 4
      · rw [if_pos few]
        by_cases has : constellation.has sv
        · obtain ⟨low, high⟩ := has_bounds has
          have more : 4 - i = 4 - (i + 1) + 1 := by omega
          have short := length_svFields_le low high
          have next : (sentence ++ commas (svFields sv)).length + (4 - (i + 1)) * 39 < 200 := by
            rw [List.length_append]
            omega
          obtain ⟨later, filled, rest⟩ := ih next
          refine ⟨later, ?_, ?_⟩
          · rw [if_pos has, putSv_eq low high (by omega)]
            dsimp only [bind, Option.bind]
            rw [filled, List.filter_cons_of_pos has, more, List.take_succ_cons, List.flatMap_cons,
              commas, commas, commas, separated_append, List.append_assoc]
          · rw [rest, List.filter_cons_of_pos has, more, List.drop_succ_cons]
        · rw [if_neg has, List.filter_cons_of_neg has]
          exact ih room
      · have full : 4 - i = 0 := by omega
        rw [if_neg few, full]
        exact ⟨sv :: svs, by simp [commas], by simp⟩

/-! ## Reading a sentence -/

theorem no_mark_decimalText {width : Nat} {value : Int} :
    ',' ∉ decimalText width value ∧ '*' ∉ decimalText width value := by
  constructor <;> intro member <;> rcases mem_decimalText member with sign | digit
  · exact absurd sign (by decide)
  · exact absurd digit (by decide)
  · exact absurd sign (by decide)
  · exact absurd digit (by decide)

theorem no_mark_svFields {sv : GpsSvInfo} {field : CString} (member : field ∈ svFields sv) :
    ',' ∉ field ∧ '*' ∉ field := by
  simp only [svFields, List.mem_cons, List.not_mem_nil, or_false] at member
  rcases member with rfl | rfl | rfl | rfl
  · exact no_mark_decimalText
  · exact no_mark_decimalText
  · exact no_mark_decimalText
  · cases sv.snr with
    | none => simp
    | some snr => exact no_mark_decimalText

theorem no_mark_gsvFields {sentenceCount sentenceNumber svCount : Nat} {svs : List GpsSvInfo}
    {field : CString} (member : field ∈ gsvFields sentenceCount sentenceNumber svCount svs) :
    ',' ∉ field ∧ '*' ∉ field := by
  simp only [gsvFields, List.mem_cons, List.mem_flatMap] at member
  rcases member with rfl | rfl | rfl | ⟨sv, -, member⟩
  · exact no_mark_decimalText
  · exact no_mark_decimalText
  · exact no_mark_decimalText
  · exact no_mark_svFields member

theorem readSvs_flatMap {constellation : Constellation} {svs : List GpsSvInfo}
    (all : ∀ sv ∈ svs, constellation.has sv) :
    readSvs (svs.flatMap svFields) = svs.map GpsSvInfo.listed := by
  induction svs with
  | nil => rfl
  | cons sv svs ih =>
      have bounds := has_bounds (all sv (by simp))
      obtain ⟨number, same⟩ := Int.eq_ofNat_of_zero_le (show 0 ≤ sv.prn by omega)
      have prn : readNumber (decimalText 2 sv.prn) = sv.prn.toNat := by
        rw [same]
        exact readNumber_decimalText 2 number
      rw [List.flatMap_cons, svFields, List.map_cons]
      simp only [List.cons_append, List.nil_append, readSvs, prn,
        ih fun other member => all other (by simp [member])]
      rfl

theorem mem_commas {fields : List CString} {c : Char} (other : c ≠ ',')
    (absent : ∀ field ∈ fields, c ∉ field) : c ∉ commas fields := by
  intro member
  obtain ⟨field, listed, inside⟩ := List.mem_flatMap.mp member
  rcases List.mem_cons.mp inside with comma | inside
  · exact other comma
  · exact absent field listed inside

theorem readGsv_talker (constellation : Constellation) {fields : List CString} {after : CString}
    (marks : ∀ field ∈ fields, ',' ∉ field ∧ '*' ∉ field) :
    ((constellation.talker ++ commas fields ++ '*' :: after).takeWhile (· ≠ '*')).splitOn ',' =
      constellation.talker :: fields := by
  have talker : ',' ∉ constellation.talker ∧ '*' ∉ constellation.talker := by
    cases constellation <;> decide
  have clear : '*' ∉ constellation.talker ++ commas fields := by
    intro member
    rcases List.mem_append.mp member with first | rest
    · exact talker.2 first
    · exact mem_commas (by decide) (fun field listed => (marks field listed).2) rest
  have front : (constellation.talker ++ commas fields ++ '*' :: after).takeWhile (· ≠ '*') =
      constellation.talker ++ commas fields := by
    rw [List.takeWhile_append_of_pos, List.takeWhile_cons_of_neg, List.append_nil]
    · simp
    · intro c member
      rw [decide_eq_true_eq]
      rintro rfl
      exact clear member
  rw [front]
  apply splitOn_separated
  intro field member
  rcases List.mem_cons.mp member with rfl | listed
  · exact talker.1
  · exact (marks field listed).1

theorem readGsv_fields (constellation : Constellation) {sentenceCount sentenceNumber svCount : Nat}
    {svs : List GpsSvInfo} (all : ∀ sv ∈ svs, constellation.has sv) (after : CString) :
    readGsv (constellation.talker ++ commas (gsvFields sentenceCount sentenceNumber svCount svs) ++
        '*' :: after) =
      some ⟨sentenceCount, sentenceNumber, svCount, svs.map GpsSvInfo.listed⟩ := by
  unfold readGsv
  rw [readGsv_talker constellation fun _ => no_mark_gsvFields, gsvFields]
  dsimp only
  rw [readSvs_flatMap all, readNumber_decimalText, readNumber_decimalText, readNumber_decimalText]

theorem readGsv_blank (constellation : Constellation) (after : CString) :
    readGsv (constellation.talker ++ ",1,1,0,".toList ++ '*' :: after) = some ⟨1, 1, 0, []⟩ := by
  have fields : ",1,1,0,".toList = commas [['1'], ['1'], ['0'], []] := rfl
  unfold readGsv
  rw [fields, readGsv_talker constellation (by decide)]
  rfl

theorem sendSentence_talker (constellation : Constellation) {rest : CString}
    (short : rest.length < 180) :
    ∃ after, (sendSentence (constellation.talker ++ rest)).1 =
      constellation.talker ++ rest ++ '*' :: after := by
  have dollar : ∃ name : CString, constellation.talker = '$' :: name ∧ name.length = 5 := by
    cases constellation
    · exact ⟨_, rfl, rfl⟩
    · exact ⟨_, rfl, rfl⟩
  obtain ⟨name, talker, length⟩ := dollar
  have fits : FitsBuffer (name ++ rest) (BitVec.ofNat 32 nmeaSentenceMaxLength) := by
    unfold FitsBuffer
    rw [length_framed, List.length_append, length]
    have : (BitVec.ofNat 32 nmeaSentenceMaxLength).toInt = 200 := rfl
    omega
  rw [sendSentence, talker, List.cons_append, putChecksum_eq fits, framed]
  exact ⟨hexText (xorBytes (name ++ rest)) ++ ['\r', '\n'], List.append_assoc _ _ _⟩

/-! ## All sentences of a constellation -/

def chunks : Nat → Nat → List GpsSvInfo → List (Nat × List GpsSvInfo)
  | 0, _, _ => []
  | left + 1, number, svs => (number, svs.take 4) :: chunks left (number + 1) (svs.drop 4)

theorem flatMap_chunks {left : Nat} (number : Nat) {svs : List GpsSvInfo}
    (enough : svs.length ≤ 4 * left) : (chunks left number svs).flatMap Prod.snd = svs := by
  induction left generalizing number svs with
  | zero => exact (List.eq_nil_of_length_eq_zero (by omega)).symm
  | succ left ih =>
      rw [chunks, List.flatMap_cons, ih, List.take_append_drop]
      rw [List.length_drop]
      omega

theorem map_chunks (left number : Nat) (svs : List GpsSvInfo) :
    (chunks left number svs).map Prod.fst = List.range' number left := by
  induction left generalizing number svs with
  | zero => rfl
  | succ left ih => rw [chunks, List.map_cons, ih, List.range'_succ]

theorem mem_chunks {left number : Nat} {svs : List GpsSvInfo} {chunk : Nat × List GpsSvInfo}
    (member : chunk ∈ chunks left number svs) : chunk.2.length ≤ 4 ∧ ∀ sv ∈ chunk.2, sv ∈ svs := by
  induction left generalizing number svs with
  | zero => cases member
  | succ left ih =>
      rcases List.mem_cons.mp member with rfl | later
      · exact ⟨List.length_take_le 4 svs, fun sv => List.mem_of_mem_take⟩
      · obtain ⟨four, listed⟩ := ih later
        exact ⟨four, fun sv inside => List.mem_of_mem_drop (listed sv inside)⟩

theorem length_commas_gsvFields {sentenceCount sentenceNumber svCount : Nat}
    (total : sentenceCount < 100) (number : sentenceNumber < 100) (count : svCount < 100) :
    (commas (gsvFields sentenceCount sentenceNumber svCount [])).length ≤ 9 := by
  have := length_decimalText_small total 1 (by decide)
  have := length_decimalText_small number 1 (by decide)
  have := length_decimalText_small count 2 (by decide)
  simp only [commas, gsvFields, List.flatMap_nil, separated_cons, separated_nil, List.length_append,
    List.length_cons, List.length_nil]
  omega

theorem commas_gsvFields (sentenceCount sentenceNumber svCount : Nat) (svs : List GpsSvInfo) :
    commas (gsvFields sentenceCount sentenceNumber svCount svs) =
      commas (gsvFields sentenceCount sentenceNumber svCount []) ++
        commas (svs.flatMap svFields) := by
  simp [commas, gsvFields]

theorem length_talker (constellation : Constellation) : constellation.talker.length = 6 := by
  cases constellation <;> rfl

theorem gsvSentences_eq (constellation : Constellation) {svCount sentenceCount left number : Nat}
    (total : sentenceCount < 100) (last : number + left ≤ 100) (count : svCount < 100)
    (svs : List GpsSvInfo) :
    gsvSentences constellation svCount sentenceCount left number svs =
      ((chunks left number (svs.filter constellation.has)).map fun chunk =>
        sendSentence (constellation.talker ++
          commas (gsvFields sentenceCount chunk.1 svCount chunk.2)), true) := by
  induction left generalizing number svs with
  | zero => rfl
  | succ left ih =>
      have short := length_commas_gsvFields total (show number < 100 by omega) count
      have talker := length_talker constellation
      have header : constellation.talker ++ ',' :: decimalText 1 sentenceCount ++ ',' ::
          decimalText 1 number ++ ',' :: decimalText 2 svCount =
            constellation.talker ++ commas (gsvFields sentenceCount number svCount []) := by
        simp [commas, gsvFields]
      have room : (constellation.talker ++
          commas (gsvFields sentenceCount number svCount [])).length + (4 - 0) * 39 < 200 := by
        rw [List.length_append]
        omega
      have empty : ([] : CString).length + (constellation.talker ++
          commas (gsvFields sentenceCount number svCount [])).length < 200 := by
        rw [List.length_nil]
        omega
      obtain ⟨later, filled, rest⟩ := putSvs_eq constellation svs room
      simp only [gsvSentences, header, appendText_of_lt empty, List.nil_append, Option.bind_eq_bind,
        Option.bind_some, filled]
      rw [ih (by omega) later, rest, chunks, List.map_cons, commas_gsvFields _ _ _ (List.take _ _),
        List.append_assoc]

theorem length_commas_flatMap {constellation : Constellation} {svs : List GpsSvInfo}
    (all : ∀ sv ∈ svs, constellation.has sv) :
    (commas (svs.flatMap svFields)).length ≤ svs.length * 39 := by
  induction svs with
  | nil => simp [commas]
  | cons sv svs ih =>
      obtain ⟨low, high⟩ := has_bounds (all sv (by simp))
      have first := length_svFields_le low high
      have rest := ih fun other member => all other (by simp [member])
      rw [commas] at first rest
      rw [commas, List.flatMap_cons, separated_append, List.length_append, List.length_cons]
      omega

theorem sent_chunk (constellation : Constellation) {sentenceCount svCount : Nat}
    {chunk : Nat × List GpsSvInfo} (total : sentenceCount < 100) (number : chunk.1 < 100)
    (count : svCount < 100) (four : chunk.2.length ≤ 4)
    (all : ∀ sv ∈ chunk.2, constellation.has sv) :
    let sentence := (sendSentence (constellation.talker ++
      commas (gsvFields sentenceCount chunk.1 svCount chunk.2))).1
    readGsv sentence =
        some ⟨sentenceCount, chunk.1, svCount, chunk.2.map GpsSvInfo.listed⟩ ∧
      constellation.talker <+: sentence := by
  have header := length_commas_gsvFields total number count
  have rest := length_commas_flatMap all
  have short : (commas (gsvFields sentenceCount chunk.1 svCount chunk.2)).length < 180 := by
    rw [commas_gsvFields, List.length_append]
    omega
  obtain ⟨after, sent⟩ := sendSentence_talker constellation short
  rw [sent]
  refine ⟨readGsv_fields constellation all after, ?_⟩
  rw [List.append_assoc]
  exact List.prefix_append _ _

structure Sent (constellation : Constellation) (svs : List GpsSvInfo) (inView : Nat)
    (sent : List CString) (sentences : List GsvSentence) : Prop where
  own : ∀ sentence ∈ sent, constellation.talker <+: sentence
  read : sent.map readGsv = sentences.map some
  listed : sentences.flatMap GsvSentence.svs =
    (svs.filter constellation.has).map GpsSvInfo.listed
  four : ∀ s ∈ sentences, s.svs.length ≤ 4
  numbers : sentences.map GsvSentence.number =
    List.range' 1 (max 1 ((svs.countP constellation.has + 3) / 4))
  totals : ∀ s ∈ sentences, s.total = max 1 ((svs.countP constellation.has + 3) / 4)
  counted : ∀ s ∈ sentences, s.inView = inView

theorem sent_blank {constellation : Constellation} {svs : List GpsSvInfo}
    (none : svs.countP constellation.has = 0) :
    Sent constellation svs 0
      [(sendSentence (constellation.talker ++ ",1,1,0,".toList)).1] [⟨1, 1, 0, []⟩] := by
  obtain ⟨after, sent⟩ := sendSentence_talker constellation
    (show ",1,1,0,".toList.length < 180 by decide)
  have empty : svs.filter constellation.has = [] := by
    rw [← List.length_eq_zero_iff, ← List.countP_eq_length_filter, none]
  constructor
  case own =>
    rw [List.forall_mem_singleton, sent, List.append_assoc]
    exact List.prefix_append _ _
  case read => rw [List.map_singleton, sent, readGsv_blank, List.map_singleton]
  case listed => rw [empty]; rfl
  case four => simp
  case numbers => rw [none]; rfl
  case totals => simp [none]
  case counted => simp

theorem sent_chunks {constellation : Constellation} {svs : List GpsSvInfo} {total : Nat}
    (present : svs.countP constellation.has ≠ 0) (few : svs.length ≤ gpsMaxSvs)
    (divided : total = (svs.countP constellation.has + 3) / 4) :
    Sent constellation svs svs.length
      (((chunks total 1 (svs.filter constellation.has)).map fun chunk =>
        sendSentence (constellation.talker ++
          commas (gsvFields total chunk.1 svs.length chunk.2))).map Prod.fst)
      ((chunks total 1 (svs.filter constellation.has)).map fun chunk =>
        ⟨total, chunk.1, svs.length, chunk.2.map GpsSvInfo.listed⟩) := by
  have counted : svs.countP constellation.has = (svs.filter constellation.has).length :=
    List.countP_eq_length_filter
  have fewer : (svs.filter constellation.has).length ≤ svs.length := List.length_filter_le _ _
  unfold gpsMaxSvs at few
  have most : total = max 1 ((svs.countP constellation.has + 3) / 4) := by omega
  have number {chunk} (member : chunk ∈ chunks total 1 (svs.filter constellation.has)) :
      chunk.1 < 100 := by
    have inside := List.mem_map_of_mem (f := Prod.fst) member
    rw [map_chunks, List.mem_range'_1] at inside
    omega
  have one {chunk} (member : chunk ∈ chunks total 1 (svs.filter constellation.has)) :=
    sent_chunk constellation (show total < 100 by omega) (number member)
      (show svs.length < 100 by omega) (mem_chunks member).1
      fun sv inside => (List.mem_filter.mp ((mem_chunks member).2 sv inside)).2
  constructor
  case own =>
    rw [List.map_map, List.forall_mem_map]
    exact fun chunk member => (one member).2
  case read =>
    rw [List.map_map, List.map_map, List.map_map]
    exact List.map_congr_left fun chunk member => (one member).1
  case listed =>
    have whole := flatMap_chunks 1 (show (svs.filter constellation.has).length ≤ 4 * total by omega)
    rw [List.flatMap_map, ← List.map_flatMap, whole]
  case four =>
    rw [List.forall_mem_map]
    intro chunk member
    rw [List.length_map]
    exact (mem_chunks member).1
  case numbers =>
    rw [List.map_map, ← most]
    exact map_chunks total 1 _
  case totals =>
    rw [List.forall_mem_map]
    exact fun _ _ => most
  case counted =>
    rw [List.forall_mem_map]
    exact fun _ _ => rfl

theorem generateGsv_sent (constellation : Constellation) {svs : List GpsSvInfo}
    (few : svs.length ≤ gpsMaxSvs) :
    (generateGsv constellation svs).2 = true ∧ ∃ sentences, Sent constellation svs
      (if svs.countP constellation.has = 0 then 0 else svs.length)
      ((generateGsv constellation svs).1.map Prod.fst) sentences := by
  unfold generateGsv
  dsimp only
  by_cases none : svs.countP constellation.has = 0
  · rw [if_pos none, if_pos none]
    exact ⟨rfl, _, sent_blank none⟩
  · have fewer : svs.countP constellation.has ≤ svs.length := List.countP_le_length
    have divided : svs.countP constellation.has / 4 +
        (if svs.countP constellation.has % 4 ≠ 0 then 1 else 0) =
          (svs.countP constellation.has + 3) / 4 := by
      split <;> omega
    have sent := sent_chunks none few rfl
    unfold gpsMaxSvs at few
    rw [if_neg none, if_neg none, divided, gsvSentences_eq constellation (by omega) (by omega)
      (by omega) svs]
    exact ⟨rfl, _, sent⟩

theorem filter_talker {constellation : Constellation} {sent : List CString}
    (own : ∀ sentence ∈ sent, constellation.talker <+: sentence) :
    sent.filter (fun sentence => constellation.talker.isPrefixOf sentence) = sent := by
  rw [List.filter_eq_self]
  exact fun sentence member => List.isPrefixOf_iff_prefix.mpr (own sentence member)

theorem filter_other_talker {constellation other : Constellation} {sent : List CString}
    (different : constellation ≠ other) (own : ∀ sentence ∈ sent, other.talker <+: sentence) :
    sent.filter (fun sentence => constellation.talker.isPrefixOf sentence) = [] := by
  rw [List.filter_eq_nil_iff]
  intro sentence member begins
  have mine := List.isPrefixOf_iff_prefix.mp begins
  have length : constellation.talker.length = other.talker.length := by
    rw [length_talker, length_talker]
  have same := List.prefix_or_prefix_of_prefix mine (own sentence member)
  have equal : constellation.talker = other.talker := by
    rcases same with first | second
    · exact first.eq_of_length length
    · exact (second.eq_of_length length.symm).symm
  cases constellation <;> cases other
  · exact different rfl
  · exact absurd equal (by decide)
  · exact absurd equal (by decide)
  · exact different rfl

theorem sentences_generateSv (constellation : Constellation) (svStatus : GpsSvStatus) :
    constellation.sentences (locEngNmeaGenerateSv svStatus) =
      (generateGsv constellation svStatus.svList).1.map Prod.fst := by
  obtain ⟨gps, sentences, sentGps⟩ := generateGsv_sent .gps svStatus.few
  obtain ⟨glonass, sentences', sentGlonass⟩ := generateGsv_sent .glonass svStatus.few
  have blank : constellation.sentences blankSentences = [] := by
    cases constellation <;> decide
  have both : constellation.sentences ((generateGsv .gps svStatus.svList).1 ++
      (generateGsv .glonass svStatus.svList).1) =
        (generateGsv constellation svStatus.svList).1.map Prod.fst := by
    unfold Constellation.sentences
    rw [List.map_append, List.filter_append]
    cases constellation with
    | gps => rw [filter_talker sentGps.own, filter_other_talker (by decide) sentGlonass.own,
        List.append_nil]
    | glonass => rw [filter_talker sentGlonass.own, filter_other_talker (by decide) sentGps.own,
        List.nil_append]
  simp only [locEngNmeaGenerateSv, gps, glonass, Bool.not_true, Bool.false_eq_true, if_false]
  by_cases unused : svStatus.usedInFixMask = 0
  · rw [if_pos unused]
    unfold Constellation.sentences at blank both ⊢
    rw [List.map_append, List.filter_append, blank, both, List.append_nil]
  · rw [if_neg unused, both]

theorem counted_of_generates {svStatus : GpsSvStatus} (generates : GeneratesGsv svStatus)
    (constellation : Constellation) : svStatus.svList.countP constellation.has = 0 ∨
      svStatus.svList.countP constellation.has = svStatus.svList.length := by
  obtain ⟨sentences, read, lists⟩ := generates constellation
  obtain ⟨-, sentences', sent⟩ := generateGsv_sent constellation svStatus.few
  rw [sentences_generateSv, sent.read] at read
  obtain rfl := List.map_injective_iff.mpr (fun _ _ => Option.some.inj) read
  by_cases none : svStatus.svList.countP constellation.has = 0
  · exact .inl none
  · cases sentences' with
    | nil =>
        have length := congrArg List.length lists.numbers
        rw [List.map_nil, List.length_nil, List.length_range'] at length
        omega
    | cons first rest =>
        have counted := sent.counted first (by simp)
        rw [lists.inView first (by simp), if_neg none] at counted
        exact .inr counted

/-- The sentences are right exactly when of each constellation there are no satellites or no others
than its own. -/
theorem generates_gsv_iff (svStatus : GpsSvStatus) :
    GeneratesGsv svStatus ↔ ∀ constellation : Constellation,
      svStatus.svList.countP constellation.has = 0 ∨
        svStatus.svList.countP constellation.has = svStatus.svList.length := by
  constructor
  · exact counted_of_generates
  · intro alone constellation
    obtain ⟨-, sentences, sent⟩ := generateGsv_sent constellation svStatus.few
    refine ⟨sentences, ?_, sent.listed, sent.four, sent.numbers, sent.totals, ?_⟩
    · rw [sentences_generateSv, sent.read]
    · intro s member
      rw [sent.counted s member]
      split
      · exact Eq.symm ‹_›
      · exact ((alone constellation).resolve_left ‹_›).symm

/-- Two satellites, one of each constellation: both sentences say that two are in view. -/
theorem gsv_counts_both :
    ¬ GeneratesGsv ⟨[⟨1, 45, 90, some 30⟩, ⟨65, 45, 270, none⟩], by decide, 1⟩ := by
  intro generates
  exact absurd (counted_of_generates generates .gps) (by decide)

end VibeXperia.Proof.Gps

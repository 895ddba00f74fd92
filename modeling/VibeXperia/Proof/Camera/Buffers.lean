import VibeXperia.Camera.Buffers
import VibeXperia.Proof.Camera.Parameters

namespace VibeXperia.Proof.Camera
open Lib VibeXperia.Camera

variable {p q : CameraParameters} {text l : List Char} {c : Char}

/-! ## The list of ISO modes -/

def convert (c : Char) : List Char := if c = ',' then [',', 'I', 'S', 'O'] else [c]

def isoState (text : List Char) : IsoBuffer := ⟨Buffer.filled 255 text, text.length⟩

theorem isoStart_eq : isoStart = isoState ['I', 'S', 'O'] := rfl

theorem isoStep_comma (within : text.length ≤ 255) (free : ZeroFree text) :
    isoStep (isoState text) ',' =
      if (text ++ convert ',').length < 255 then some (isoState (text ++ convert ',')) else none := by
  have appended := @strcat_filled 255 text (convert ',') within free
  rw [isoStep, if_neg (by simp), isoState]
  change ((Buffer.filled 255 text).strcat (convert ',')).bind _ = _
  rw [appended]
  split_ifs with fits
  · simp [isoState, convert]
  · rfl

theorem isoStep_char (within : text.length ≤ 255) (other : c ≠ ',') :
    isoStep (isoState text) c =
      if (text ++ convert c).length ≤ 255 then some (isoState (text ++ convert c)) else none := by
  have written := @write_filled 255 text [c] within
  rw [isoStep, if_pos other, isoState, convert, if_neg other, List.length_append, written]
  split_ifs with fits
  · simp [isoState]
  · rfl

theorem isoStep_fits (free : ZeroFree text) (fits : (text ++ convert c).length < 255) :
    isoStep (isoState text) c = some (isoState (text ++ convert c)) := by
  have within : text.length ≤ 255 := by
    rw [List.length_append] at fits
    omega
  by_cases comma : c = ','
  · subst comma
    rw [isoStep_comma within free, if_pos fits]
  · rw [isoStep_char within comma, if_pos fits.le]

theorem isoStep_inv {s : IsoBuffer} (within : text.length ≤ 255) (free : ZeroFree text)
    (stepped : isoStep (isoState text) c = some s) :
    s = isoState (text ++ convert c) ∧ (text ++ convert c).length ≤ 255 := by
  by_cases comma : c = ','
  · subst comma
    rw [isoStep_comma within free, Option.ite_none_right_eq_some] at stepped
    exact ⟨(Option.some.inj stepped.2).symm, stepped.1.le⟩
  · rw [isoStep_char within comma, Option.ite_none_right_eq_some] at stepped
    exact ⟨(Option.some.inj stepped.2).symm, stepped.1⟩

theorem zeroFree_convert (visible : c.toNat ≠ 0) : ZeroFree (convert c) := by
  unfold convert
  split_ifs
  · simp [ZeroFree]
  · simpa [ZeroFree] using visible

/-- A list that fits is converted, and after each character the position is the length. -/
theorem isoLoop_fits (free : ZeroFree text) (list : ZeroFree l)
    (fits : (text ++ l.flatMap convert).length < 255) :
    l.foldlM isoStep (isoState text) = some (isoState (text ++ l.flatMap convert)) := by
  induction l generalizing text with
  | nil => simp
  | cons c l ih =>
      rw [zeroFree_cons] at list
      rw [List.flatMap_cons, ← List.append_assoc] at fits ⊢
      have room : (text ++ convert c).length < 255 := by
        rw [List.length_append] at fits
        omega
      rw [List.foldlM_cons, isoStep_fits free room]
      exact ih (zeroFree_append.mpr ⟨free, zeroFree_convert list.1⟩) list.2 fits

theorem isoLoop_inv {s : IsoBuffer} (within : text.length ≤ 255) (free : ZeroFree text)
    (list : ZeroFree l) (ended : l.foldlM isoStep (isoState text) = some s) :
    s = isoState (text ++ l.flatMap convert) ∧ (text ++ l.flatMap convert).length ≤ 255 := by
  induction l generalizing text with
  | nil =>
      cases ended
      simpa using within
  | cons c l ih =>
      rw [zeroFree_cons] at list
      rw [List.foldlM_cons, Option.bind_eq_bind, Option.bind_eq_some_iff] at ended
      obtain ⟨next, stepped, rest⟩ := ended
      obtain ⟨rfl, room⟩ := isoStep_inv within free stepped
      rw [List.flatMap_cons, ← List.append_assoc]
      exact ih room (zeroFree_append.mpr ⟨free, zeroFree_convert list.1⟩) list.2 rest

theorem isoEntries_eq (l : List Char) :
    isoEntries l = ['I', 'S', 'O'] ++ l.flatMap convert ++ [',', 'a', 'u', 't', 'o'] := by
  induction l with
  | nil => rfl
  | cons c l ih =>
      have entries := List.splitOn_ne_nil ',' l
      rw [isoEntries] at ih ⊢
      rw [List.splitOn_cons_eq_if_modifyHead, List.flatMap_cons, convert]
      by_cases comma : c = ','
      · subst comma
        rw [if_pos (by simp), if_pos rfl, List.map_cons, List.cons_append,
          List.intercalate_cons_of_ne_nil (by simp), ih]
        simp
      · rw [if_neg (by simpa using comma), if_neg comma]
        cases parts : l.splitOn ',' with
        | nil => exact absurd parts entries
        | cons first rest =>
            rw [parts, List.map_cons, List.cons_append,
              List.intercalate_cons_of_ne_nil (by simp)] at ih
            rw [List.modifyHead_cons, List.map_cons, List.cons_append,
              List.intercalate_cons_of_ne_nil (by simp)]
            simpa using ih

theorem zeroFree_flatMap (list : ZeroFree l) : ZeroFree (l.flatMap convert) := by
  intro c member
  obtain ⟨origin, listed, member⟩ := List.mem_flatMap.mp member
  exact zeroFree_convert (list origin listed) c member

theorem isoValues_eq {isoModeList : String} (list : ZeroFree isoModeList.toList) :
    isoValues isoModeList =
      if (isoEntries isoModeList.toList).length < 255 then
        some (String.ofList (isoEntries isoModeList.toList))
      else none := by
  have free : ZeroFree ['I', 'S', 'O'] := by simp [ZeroFree]
  rw [isoValues, isoLoop, isoStart_eq, isoEntries_eq]
  cases ended : isoModeList.toList.foldlM isoStep (isoState ['I', 'S', 'O']) with
  | none =>
      rw [if_neg]
      · rfl
      · intro fits
        rw [List.length_append] at fits
        rw [isoLoop_fits free list (by omega)] at ended
        cases ended
  | some s =>
      obtain ⟨rfl, within⟩ := isoLoop_inv (by decide) free list ended
      have loaded := zeroFree_append.mpr ⟨free, zeroFree_flatMap list⟩
      have whole : ZeroFree (['I', 'S', 'O'] ++ isoModeList.toList.flatMap convert ++
          [',', 'a', 'u', 't', 'o']) := zeroFree_append.mpr ⟨loaded, by simp [ZeroFree]⟩
      have appended := @strcat_filled 255 _ [',', 'a', 'u', 't', 'o'] within loaded
      rw [Option.bind_eq_bind, Option.bind_some, isoState, appended]
      split_ifs
      · rw [Option.bind_eq_bind, Option.bind_some, cString_filled whole]
        rfl
      · rfl

/-! ## `camera_fixup_getparams` -/

theorem isoVal_eq_none (sonyIso : String) : isoVal sonyIso = none := by
  rw [isoVal, sprintf, if_neg]
  rw [String.toList_append, List.length_append]
  simp only [String.reduceToList, List.length_cons, List.length_nil]
  omega

theorem capability_isSome : (cameraFixupCapability p).isSome ↔
    ∀ isModes, p.get keySonyImageStabiliserValues = some isModes →
      strstr isModes valueSonyStillHdr = true → ∃ sceneModes,
        p.get keySupportedSceneModes = some sceneModes ∧ sceneModes.toList.length ≤ 507 := by
  rw [cameraFixupCapability]
  cases p.get keySonyImageStabiliserValues with
  | none => simp
  | some supportedIsModes =>
      dsimp only
      split_ifs with hdr
      · cases p.get keySupportedSceneModes with
        | none => simp [hdr]
        | some sceneModes =>
            have room : (sceneModes ++ ",hdr").toList.length + 1 ≤ 512 ↔
                sceneModes.toList.length ≤ 507 := by
              rw [String.toList_append, List.length_append]
              simp only [String.reduceToList, List.length_cons, List.length_nil]
              omega
            by_cases fits : sceneModes.toList.length ≤ 507
            · rw [Option.bind_eq_bind, Option.bind_some, sprintf, if_pos (room.mpr fits)]
              simpa [hdr] using fits
            · rw [Option.bind_eq_bind, Option.bind_some, sprintf, if_neg (room.not.mpr fits)]
              simpa [hdr] using fits
      · simp [hdr]

theorem length_isoEntries (l : List Char) :
    (isoEntries l).length = l.length + 3 * l.count ',' + 8 := by
  have converted : (l.flatMap convert).length = l.length + 3 * l.count ',' := by
    induction l with
    | nil => rfl
    | cons c l ih =>
        rw [List.flatMap_cons, List.length_append, ih, List.length_cons, List.count_cons, convert]
        by_cases comma : c = ','
        · simp [comma]
          omega
        · simp [comma]
          omega
  rw [isoEntries_eq, List.length_append, List.length_append, converted]
  simp
  omega

def ListFree (p : CameraParameters) : Prop :=
  ∀ isoModeList, p.get keySonyIsoAvailModes = some isoModeList → ZeroFree isoModeList.toList

theorem isoModes_isSome (strings : ListFree p) : (getIsoModes p).isSome ↔
    ∀ isoModeList, p.get keySonyIsoAvailModes = some isoModeList →
      isoModeList.toList.length + 3 * isoModeList.toList.count ',' ≤ 246 := by
  rw [getIsoModes]
  cases listed : p.get keySonyIsoAvailModes with
  | none => simp
  | some isoModeList =>
      have length := length_isoEntries isoModeList.toList
      dsimp only
      rw [isoValues_eq (strings isoModeList listed)]
      split_ifs with fits
      · refine iff_of_true rfl ?_
        rintro _ ⟨⟩
        omega
      · refine iff_of_false (by simp) fun all => fits ?_
        have room := all isoModeList rfl
        omega

theorem ListFree.capability (strings : ListFree p) (fixed : cameraFixupCapability p = some q) :
    ListFree q := by
  intro isoModeList listed
  rw [capability_sameBut fixed _ (by decide)] at listed
  exact strings isoModeList listed

theorem getPicture_isSome (strings : ListFree p) : (getPicture p).isSome ↔ ListsFit p := by
  rw [getPicture]
  cases capability : cameraFixupCapability p with
  | none =>
      refine iff_of_false (by simp) fun fit => ?_
      have fixed := capability_isSome.mpr fit.sceneModes
      rw [capability] at fixed
      cases fixed
  | some capable =>
      have fixed := isoModes_isSome (strings.capability capability)
      rw [capability_sameBut capability _ (by decide)] at fixed
      have whole : ((some capable).bind fun params => (getIsoModes params).bind fun params =>
          some (getVideoHdr (getSceneMode params))).isSome ↔ (getIsoModes capable).isSome := by
        rw [Option.bind_some]
        cases getIsoModes capable <;> simp
      refine whole.trans (fixed.trans ?_)
      constructor
      · exact fun isoModes => ⟨capability_isSome.mp (by rw [capability]; rfl), isoModes⟩
      · exact fun fit => fit.isoModes

theorem aeMode_isSome : (getAeMode p).isSome ↔
    ((p.get keySonyIsoMode).isSome → (p.get keySonyAeModeValues).isSome → ∃ aeMode,
      p.get keySonyAeMode = some aeMode ∧ aeMode ≠ "iso-prio" ∧ aeMode ≠ "manual") := by
  rw [getAeMode]
  cases p.get keySonyIsoMode with
  | none => simp
  | some sonyIso =>
      cases p.get keySonyAeModeValues with
      | none => simp
      | some aeModes =>
          cases p.get keySonyAeMode with
          | none => simp
          | some aeMode =>
              simp only [Option.bind_eq_bind, Option.bind_some, isoVal_eq_none]
              split_ifs with automatic iso shutter manual
              · simp [automatic]
              · simp [iso]
              · simp [shutter]
              · simp [manual]
              · simp [iso, manual]

theorem getparams_isSome (strings : ListFree p) :
    (cameraFixupGetparams p).isSome ↔ GetsSafely p := by
  have lists := getPicture_isSome strings
  rw [getparams_eq]
  cases picture : getPicture p with
  | none =>
      rw [picture] at lists
      refine iff_of_false (by simp) fun safe => ?_
      cases lists.mpr safe.toListsFit
  | some q =>
      have same := getPicture_sameBut picture
      have exposure := @aeMode_isSome q
      rw [same _ (by decide), same _ (by decide), same _ (by decide)] at exposure
      rw [picture] at lists
      rw [Option.bind_some, exposure]
      exact ⟨fun aeMode => ⟨lists.mp rfl, aeMode⟩, fun safe => safe.aeMode⟩

theorem getparams_isoModes {isoModeList : String} (strings : ListFree p)
    (listed : p.get keySonyIsoAvailModes = some isoModeList)
    (fixed : cameraFixupGetparams p = some q) :
    q.get keySupportedIsoModes = some (String.ofList (isoEntries isoModeList.toList)) := by
  rw [getparams_eq, Option.bind_eq_some_iff] at fixed
  obtain ⟨pictured, picture, fixed⟩ := fixed
  obtain ⟨capable, converted, capability, isoModes, rfl⟩ := getPicture_cases picture
  rw [getAeMode_sameBut fixed _ (by decide), getVideoHdr_sameBut _ (by decide),
    getSceneMode_sameBut _ (by decide)]
  rw [getIsoModes, capability_sameBut capability _ (by decide), listed] at isoModes
  dsimp only at isoModes
  rw [isoValues_eq (strings isoModeList listed)] at isoModes
  split_ifs at isoModes
  · obtain rfl := Option.some.inj isoModes
    exact get_set
  · cases isoModes

/-- The entries of a list that fits are converted in order, and at every step of the loop the
position is the length of the string. -/
theorem iso_list_converted (settings : Settings) (isoModeList : String)
    (listed : settings.params.get keySonyIsoAvailModes = some isoModeList)
    (fits : (isoEntries isoModeList.toList).length < 255) :
    isoValues isoModeList = some (String.ofList (isoEntries isoModeList.toList)) ∧
      (∀ front, front <+: isoModeList.toList →
        ∃ s, isoLoop front = some s ∧ s.bufferPos = s.buffer.strlen) ∧
      (∃ params, getIsoModes settings.params = some params ∧
        params.get keySupportedIsoModes = some (String.ofList (isoEntries isoModeList.toList))) ∧
      (GetsSafely settings.params →
        ∃ params, cameraFixupGetparams settings.params = some params ∧
          params.get keySupportedIsoModes =
            some (String.ofList (isoEntries isoModeList.toList))) := by
  have list := settings.strings _ _ listed
  have free : ZeroFree ['I', 'S', 'O'] := by simp [ZeroFree]
  have values : isoValues isoModeList = some (String.ofList (isoEntries isoModeList.toList)) := by
    rw [isoValues_eq list, if_pos fits]
  refine ⟨values, ?_, ?_, ?_⟩
  · rintro front ⟨back, split⟩
    rw [← split, zeroFree_append] at list
    rw [isoEntries_eq, ← split, List.flatMap_append] at fits
    simp only [List.length_append] at fits
    refine ⟨_, isoLoop_fits free list.1 (by rw [List.length_append]; omega), ?_⟩
    exact (strlen_filled (zeroFree_append.mpr ⟨free, zeroFree_flatMap list.1⟩)).symm
  · refine ⟨settings.params.set keySupportedIsoModes _, ?_, get_set⟩
    rw [getIsoModes, listed]
    dsimp only
    rw [values]
    rfl
  · intro safe
    have returns := (getparams_isSome (settings.strings _)).mpr safe
    obtain ⟨params, fixed⟩ := Option.isSome_iff_exists.mp returns
    exact ⟨params, fixed, getparams_isoModes (settings.strings _) listed fixed⟩

def isoSettings : Settings where
  params := ⟨fun key =>
    if key = keySonyIsoAvailModes then some "100,,1600"
    else if key = keySonyImageStabiliserValues then some "off,on,on-still-hdr"
    else if key = keySupportedSceneModes then some "auto,night"
    else if key = keySonyIsoMode then some "100"
    else if key = keySonyAeModeValues then some "auto,iso-prio"
    else if key = keySonyAeMode then some "auto"
    else none⟩
  strings := by
    intro key value
    dsimp only
    split_ifs
    all_goals rintro ⟨⟩
    all_goals simp [ZeroFree]

theorem iso_list_converted_empty_entry :
    isoValues "100,,1600" = some (String.ofList (isoEntries "100,,1600".toList)) ∧
      (∀ front, front <+: "100,,1600".toList →
        ∃ s, isoLoop front = some s ∧ s.bufferPos = s.buffer.strlen) ∧
      (∃ params, getIsoModes isoSettings.params = some params ∧
        params.get keySupportedIsoModes = some (String.ofList (isoEntries "100,,1600".toList))) ∧
      ∃ params, cameraFixupGetparams isoSettings.params = some params ∧
        params.get keySupportedIsoModes = some (String.ofList (isoEntries "100,,1600".toList)) := by
  have safe : GetsSafely isoSettings.params :=
    { sceneModes := fun _ _ _ => ⟨"auto,night", rfl, by decide⟩
      isoModes := by
        rintro _ ⟨⟩
        decide
      aeMode := fun _ _ => ⟨"auto", rfl, by decide, by decide⟩ }
  obtain ⟨values, loop, modes, fixed⟩ :=
    iso_list_converted isoSettings "100,,1600" rfl (by decide)
  exact ⟨values, loop, modes, fixed safe⟩

/-! ## `camera_fixup_setparams` -/

theorem setShutterSpeed_isSome : (setShutterSpeed p).isSome ↔
    (p.get keyShutterSpeed = some "auto" → (p.get keySonyAeModeValues).isSome) := by
  rw [setShutterSpeed]
  cases p.get keyShutterSpeed with
  | none => simp
  | some shutterSpeed =>
      dsimp only
      split_ifs with timed
      · simp [timed]
      · obtain rfl := not_ne_iff.mp timed
        cases p.get keySonyAeModeValues <;> simp

theorem setShutterSpeed_known {aeModes : String} (set : setShutterSpeed p = some q)
    (values : p.get keySonyAeModeValues = some aeModes) :
    (q.get keySonyAeMode).isSome ↔ (p.get keySonyAeMode).isSome ∨ ∃ shutterSpeed,
      p.get keyShutterSpeed = some shutterSpeed ∧
        (shutterSpeed ≠ "auto" ∨ strstr aeModes "auto" = true) := by
  rcases setShutterSpeed_cases set with ⟨none, rfl⟩ | ⟨shutterSpeed, shutter, timed, rfl⟩ |
    ⟨aeModes', shutter, values', rfl⟩
  · simp [none]
  · simp [shutter, timed]
  · obtain rfl : aeModes' = aeModes := Option.some.inj (values'.symm.trans values)
    split_ifs with automatic
    · simp [shutter, automatic]
    · simp [shutter, automatic]

theorem setSonyIso_isSome {isoMode : String} : (setSonyIso isoMode p).isSome ↔
    (isoMode ≠ "auto" → 3 ≤ isoMode.toList.length) := by
  rw [setSonyIso, afterIso]
  by_cases automatic : isoMode = "auto"
  · simp [automatic]
  · by_cases long : 3 ≤ isoMode.toList.length
    · simp [automatic, long]
    · simp [automatic, long]

theorem setAeMode_isSome {isoMode : String} : (setAeMode isoMode p).isSome ↔
    ∀ aeModes, p.get keySonyAeModeValues = some aeModes →
      strstr aeModes (if isoMode = "auto" then "auto" else "iso-prio") = true →
      (p.get keySonyAeMode).isSome := by
  rw [setAeMode]
  cases p.get keySonyAeModeValues with
  | none => simp
  | some aeModes =>
      simp only [Option.some.injEq, forall_eq']
      by_cases automatic : isoMode = "auto"
      · rw [if_pos automatic, if_pos automatic]
        cases strstr aeModes "auto" <;> cases p.get keySonyAeMode <;> simp
      · rw [if_neg automatic, if_neg automatic]
        cases strstr aeModes "iso-prio" <;> cases p.get keySonyAeMode <;> simp

theorem setIsoMode_isSome : (setIsoMode p).isSome ↔
    ∀ isoMode, p.get keyIsoMode = some isoMode →
      (isoMode ≠ "auto" → 3 ≤ isoMode.toList.length) ∧
      ∀ aeModes, p.get keySonyAeModeValues = some aeModes →
        strstr aeModes (if isoMode = "auto" then "auto" else "iso-prio") = true →
        (p.get keySonyAeMode).isSome := by
  rw [setIsoMode]
  cases p.get keyIsoMode with
  | none => simp
  | some isoMode =>
      simp only [Option.some.injEq, forall_eq']
      have copied := @setSonyIso_isSome p isoMode
      cases copy : setSonyIso isoMode p with
      | none =>
          rw [copy] at copied
          refine iff_of_false (by simp) fun all => ?_
          cases copied.mpr all.1
      | some q =>
          -- `iso` is copied to another key before the two that decide are read
          have same := setSonyIso_sameBut copy
          have chosen := @setAeMode_isSome q isoMode
          rw [same _ (by decide), same _ (by decide)] at chosen
          rw [copy] at copied
          exact chosen.trans (and_iff_right (copied.mp rfl)).symm

theorem setparams_isSome : (cameraFixupSetparams p).isSome ↔ SetsSafely p := by
  rw [cameraFixupSetparams]
  cases set : setShutterSpeed p with
  | none =>
      -- the step before the ISO mode has failed already
      have unsafe' := @setShutterSpeed_isSome p
      rw [set] at unsafe'
      refine iff_of_false (by simp) fun safe => ?_
      cases unsafe'.mpr safe.aeModes
  | some q =>
      have same := setShutterSpeed_sameBut set
      have aeModes := setShutterSpeed_isSome.mp (by rw [set]; rfl)
      have chosen := @setIsoMode_isSome q
      rw [same _ (by decide), same _ (by decide)] at chosen
      have whole : ((some q).bind fun params => (setIsoMode params).bind fun params =>
          some (setRecordingHint (setVideoHdr (setSceneMode params)))).isSome ↔
          (setIsoMode q).isSome := by
        rw [Option.bind_some]
        cases setIsoMode q <;> simp
      refine whole.trans (chosen.trans ?_)
      constructor
      · intro all
        refine ⟨aeModes, fun isoMode asked => (all isoMode asked).1, ?_⟩
        intro isoMode aeModes asked values listed
        rw [← setShutterSpeed_known set values]
        exact (all isoMode asked).2 aeModes values listed
      · intro safe isoMode asked
        refine ⟨safe.isoMode isoMode asked, fun aeModes values listed => ?_⟩
        rw [setShutterSpeed_known set values]
        exact safe.aeMode isoMode aeModes asked values listed

/-- The fixups stay safe on the settings described by the two structures, and on no others. -/
theorem fixups_safe_iff (settings : Settings) :
    FixupsSafe settings ↔ GetsSafely settings.params ∧ SetsSafely settings.params := by
  rw [FixupsSafe, getparams_isSome (settings.strings _), setparams_isSome]

def isoPrio : Settings where
  params := ⟨fun key =>
    if key = keySonyIsoMode then some "400"
    else if key = keySonyAeModeValues then some "auto,iso-prio"
    else if key = keySonyAeMode then some "iso-prio"
    else none⟩
  strings := by
    intro key value
    dsimp only
    split_ifs
    all_goals rintro ⟨⟩
    all_goals simp [ZeroFree]

theorem iso_prio_unsafe : ¬ FixupsSafe isoPrio := by
  rintro ⟨got, -⟩
  have fixed : cameraFixupGetparams isoPrio.params = none := by rfl
  rw [fixed] at got
  cases got

end VibeXperia.Proof.Camera

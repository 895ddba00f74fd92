import VibeXperia.Lib.Text
import VibeXperia.Sensord.Axis

namespace VibeXperia.Proof.Sensord
open Lib VibeXperia.Sensord

/-! ## The file -/

def placementsIn (lines : List (List Char)) : List (Char × Int) :=
  ((lines.filter (· ≠ [])).takeWhile placesSensor).filterMap scanPlace

def placementsOf (sensor : AxisSensor) (lines : List (List Char)) : List Int :=
  ((placementsIn lines).filter fun placement => placement.1 = sensor.magic).map Prod.snd

theorem placementsIn_blank (lines : List (List Char)) :
    placementsIn ([] :: lines) = placementsIn lines := rfl

theorem placementsIn_stop {pline : List Char} (lines : List (List Char)) (some : pline ≠ [])
    (unclear : placesSensor pline = false) : placementsIn (pline :: lines) = [] := by
  simp [placementsIn, some, unclear]

theorem placementsIn_cons {pline : List Char} {placement : Char × Int} (lines : List (List Char))
    (some : pline ≠ []) (clear : placesSensor pline = true)
    (scanned : scanPlace pline = Option.some placement) :
    placementsIn (pline :: lines) = placement :: placementsIn lines := by
  simp [placementsIn, some, clear, scanned]

theorem placesSensor_iff {pline : List Char} {magic : Char} {place : Int}
    (scanned : scanPlace pline = some (magic, place)) :
    placesSensor pline = true ↔ magic = 'a' ∨ magic = 'm' ∨ magic = 'g' := by
  simp [placesSensor, scanned]

theorem setPlace_eq {magic : Char} {place : Int} {places : Places} :
    setPlace magic place places =
      if magic = 'a' ∨ magic = 'm' ∨ magic = 'g' then
        some fun sensor => if magic = sensor.magic then place else places sensor
      else none := by
  have update (s : AxisSensor) : Function.update places s place =
      fun sensor => if s.magic = sensor.magic then place else places sensor := by
    funext sensor
    cases s <;> cases sensor <;> simp [AxisSensor.magic, Function.update]
  unfold setPlace
  by_cases a : magic = 'a'
  · subst a
    rw [if_pos rfl, if_pos (.inl rfl)]
    exact congrArg some (update .a)
  · by_cases m : magic = 'm'
    · subst m
      rw [if_neg (by decide), if_pos rfl, if_pos (by decide)]
      exact congrArg some (update .m)
    · by_cases g : magic = 'g'
      · have other (sensor : AxisSensor) : 'g' ≠ sensor.magic := by cases sensor <;> decide
        simp [g, other]
      · simp [a, m, g]

/-- The loop keeps for each sensor the last placement before the line at which it stops. -/
theorem setCfgAxisLines_eq (places : Places) (lines : List (List Char)) (sensor : AxisSensor) :
    setCfgAxisLines places lines sensor =
      (placementsOf sensor lines).getLast?.getD (places sensor) := by
  induction lines generalizing places with
  | nil => rfl
  | cons pline rest ih =>
      unfold setCfgAxisLines placementsOf
      by_cases blank : pline = []
      · rw [if_pos blank, ih, blank, placementsIn_blank, placementsOf]
      · rw [if_neg blank]
        cases scanned : scanPlace pline with
        | none =>
            have unclear : placesSensor pline = false := by simp [placesSensor, scanned]
            rw [placementsIn_stop rest blank unclear]
            rfl
        | some placement =>
            obtain ⟨magic, place⟩ := placement
            have clear := placesSensor_iff scanned
            dsimp only
            rw [setPlace_eq]
            by_cases known : magic = 'a' ∨ magic = 'm' ∨ magic = 'g'
            · rw [if_pos known, placementsIn_cons rest blank (clear.mpr known) scanned]
              dsimp only
              rw [ih, placementsOf]
              by_cases own : magic = sensor.magic
              · simp [own, List.getLast?_cons]
              · simp [own]
            · have unclear : placesSensor pline = false :=
                eq_false_of_ne_true fun placed => known (clear.mp placed)
              rw [if_neg known, placementsIn_stop rest blank unclear]
              rfl

theorem setCfgAxis_eq (file : Option (List Char)) (places : Places) (sensor : AxisSensor) :
    setCfgAxis file places sensor = (lastPlacement file sensor).getD (places sensor) := by
  cases file with
  | none => rfl
  | some content => exact setCfgAxisLines_eq places (axisLines content) sensor

theorem startPlaces_lt {file : Option (List Char)} {driver : DriverPlaces} {sensor : AxisSensor} :
    startPlaces file driver sensor < 8 ↔ PlacedInside file driver sensor := by
  rw [startPlaces, hwInitPlace, PlacedInside]
  split_ifs with own
  · exact iff_of_true (by decide) (.inl own)
  · rw [setCfgAxis_eq, or_iff_right own]
    cases lastPlacement file sensor with
    | none => simp [hwInfoDftPlace]
    | some place => simp

/-! ## Samples -/

theorem remapAt_isSome {place : Int} {val : Xyz} : (remapAt place val).isSome ↔ place < 8 := by
  rw [remapAt]
  split_ifs with remapped
  · have entries : axisRemapTab.length = 8 := rfl
    rw [Option.isSome_map, isSome_getElem?, entries]
    omega
  · simp only [Option.isSome_some, true_iff]
    omega

theorem readsInside_iff {places : Places} :
    ReadsInside places ↔ places .a < 8 ∧ places .m < 8 := by
  constructor
  · intro inside
    have acc := inside.acc (0, ⟨0, 0, 0⟩)
    have mag := inside.mag (0, ⟨0, 0, 0⟩)
    rw [hwAccReadXyzdata, Option.isSome_map, remapAt_isSome] at acc
    rw [hwMagReadXyzdata, Option.isSome_map, remapAt_isSome] at mag
    exact ⟨acc, mag⟩
  · rintro ⟨acc, mag⟩
    constructor
    case acc =>
      intro fr
      rw [hwAccReadXyzdata, Option.isSome_map, remapAt_isSome]
      exact acc
    case mag =>
      intro fr
      rw [hwMagReadXyzdata, Option.isSome_map, remapAt_isSome]
      exact mag
    case accInputEv =>
      intro events val
      unfold hwAccReadXyzdataInputEv
      split
      · rfl
      · rw [Option.isSome_map, remapAt_isSome]
        exact acc
    case magInputEv =>
      intro events val
      unfold hwMagReadXyzdataInputEv
      split
      · rfl
      · rw [Option.isSome_map, remapAt_isSome]
        exact mag

/-- No sample is remapped by memory outside the table exactly when, of each sensor that the driver
does not place itself, the last placement in the file is below eight. -/
theorem axis_reads_inside_iff (file : Option (List Char)) (driver : DriverPlaces) :
    ReadsInside (startPlaces file driver) ↔ ∀ sensor, PlacedInside file driver sensor := by
  rw [readsInside_iff, startPlaces_lt, startPlaces_lt]
  constructor
  · rintro ⟨acc, mag⟩ sensor
    cases sensor with
    | a => exact acc
    | m => exact mag
  · intro all
    exact ⟨all .a, all .m⟩

/-- A file with the one line `place_a=8`, and a driver without a placement of its own. -/
theorem axis_read_outside :
    ¬ ReadsInside (startPlaces (some ['p', 'l', 'a', 'c', 'e', '_', 'a', '=', '8', '\n'])
      fun _ => (0, hwPlaceUndefined)) := by
  intro inside
  exact absurd (inside.acc (0, ⟨1, 2, 3⟩)) (by decide)

/-! ## Errors in the file -/

def lineError (lines : List (List Char)) : Int :=
  if (lines.filter (· ≠ [])).all placesSensor then 0 else -einval

theorem lineError_blank (lines : List (List Char)) : lineError ([] :: lines) = lineError lines := rfl

theorem lineError_clear {pline : List Char} (lines : List (List Char)) (some : pline ≠ [])
    (clear : placesSensor pline = true) : lineError (pline :: lines) = lineError lines := by
  simp [lineError, some, clear]

theorem lineError_stop {pline : List Char} (lines : List (List Char)) (some : pline ≠ [])
    (unclear : placesSensor pline = false) : lineError (pline :: lines) = -einval := by
  simp [lineError, some, unclear]

theorem lineError_eq_zero {lines : List (List Char)} :
    lineError lines = 0 ↔ ∀ pline ∈ lines, pline ≠ [] → placesSensor pline = true := by
  have all : (lines.filter (· ≠ [])).all placesSensor = true ↔
      ∀ pline ∈ lines, pline ≠ [] → placesSensor pline = true := by
    simp only [List.all_eq_true, List.mem_filter, decide_eq_true_eq, and_imp]
  rw [← all, lineError]
  split_ifs with clear
  · exact iff_of_true rfl clear
  · exact iff_of_false (by decide) clear

/-- With more fuel than there are bytes the loop ends, at the placements that `setCfgAxisLines`
gives. -/
theorem setCfgAxisLoop_eq {fuel : Nat} {pline : List Char} (places : Places)
    (enough : pline.length < fuel) :
    setCfgAxisLoop fuel pline places =
      some (lineError (pline.splitOn '\n'), setCfgAxisLines places (pline.splitOn '\n')) := by
  induction fuel generalizing pline places with
  | zero => cases enough
  | succ fuel ih =>
      -- what comes after a line is the same whether the line is blank or not
      obtain ⟨lines, split, next⟩ : ∃ lines,
          pline.splitOn '\n' = pline.takeWhile (· ≠ '\n') :: lines ∧ ∀ places,
            (if pline.dropWhile (· ≠ '\n') = [] then some (0, places)
              else setCfgAxisLoop fuel (pline.dropWhile (· ≠ '\n')).tail places) =
            some (lineError lines, setCfgAxisLines places lines) := by
        have shorter := List.length_dropWhile_le (· ≠ '\n') pline
        rw [splitOn_eq]
        cases rest : pline.dropWhile (· ≠ '\n') with
        | nil => exact ⟨[], rfl, fun _ => rfl⟩
        | cons newline rest' =>
            rw [rest, List.length_cons] at shorter
            exact ⟨_, rfl, fun places => ih places (by simp only [List.tail_cons]; omega)⟩
      rw [split, setCfgAxisLoop]
      simp only [next]
      generalize pline.takeWhile (· ≠ '\n') = line
      by_cases blank : line = []
      · subst blank
        rw [if_pos rfl, lineError_blank, setCfgAxisLines, if_pos rfl]
      · rw [if_neg blank, setCfgAxisLines, if_neg blank]
        cases scanned : scanPlace line with
        | none => rw [lineError_stop lines blank (by simp [placesSensor, scanned])]
        | some placement =>
            obtain ⟨magic, place⟩ := placement
            have clear := placesSensor_iff scanned
            dsimp only
            rw [setPlace_eq]
            by_cases known : magic = 'a' ∨ magic = 'm' ∨ magic = 'g'
            · rw [if_pos known, lineError_clear lines blank (clear.mpr known)]
            · rw [if_neg known, lineError_stop lines blank]
              exact eq_false_of_ne_true fun placed => known (clear.mp placed)

theorem length_axisText (content : List Char) : (axisText content).length ≤ 63 := by
  rw [axisText]
  calc _ ≤ ((content.take 63).map fun c => if c = '\r' then '\n' else c).length :=
        (List.takeWhile_sublist _).length_le
    _ ≤ 63 := by rw [List.length_map]; exact List.length_take_le 63 content

theorem lastNaming_of_understood {file : Option (List Char)} (understood : Understood file)
    (sensor : AxisSensor) : lastNaming file sensor = lastPlacement file sensor := by
  obtain ⟨content, rfl, clear⟩ := understood
  have all : (axisLines content).filter (· ≠ []) =
      ((axisLines content).filter (· ≠ [])).takeWhile placesSensor := by
    symm
    rw [List.takeWhile_eq_self_iff]
    intro pline member
    rw [List.mem_filter, decide_eq_true_eq] at member
    exact clear pline member.1 member.2
  have scanned : (axisLines content).filterMap scanPlace = placements (some content) := by
    rw [placements, Option.map_some, Option.getD_some, ← all, List.filterMap_filter]
    congr 1
    funext pline
    cases pline with
    | nil => rfl
    | cons c rest => rfl
  rw [lastNaming, Option.map_some, Option.getD_some, scanned, lastPlacement]

/-- The loop ends, and it is all or nothing exactly when every line is understood or the lines before
the first that is not leave the defaults. -/
theorem axis_allOrNothing_iff (file : Option (List Char)) (fuel : Nat) (enough : 63 < fuel) :
    ∃ err places, setCfgAxisErr fuel file hwInfoDftPlace = some (err, places) ∧
      (AllOrNothing file err places ↔ Understood file ∨ GivesDefaults file) := by
  cases file with
  | none =>
      refine ⟨_, _, rfl, iff_of_true ⟨fun _ _ => rfl, fun none => absurd none (by decide)⟩ (.inr ?_)⟩
      rintro sensor place ⟨⟩
  | some content =>
      have ends := setCfgAxisLoop_eq hwInfoDftPlace ((length_axisText content).trans_lt enough)
      have placed (sensor : AxisSensor) := setCfgAxis_eq (some content) hwInfoDftPlace sensor
      have understood : lineError (axisLines content) = 0 ↔ Understood (some content) := by
        rw [lineError_eq_zero, Understood]
        simp
      refine ⟨_, _, ends, ?_⟩
      constructor
      · intro kept
        by_cases clear : Understood (some content)
        · exact .inl clear
        · refine .inr fun sensor place last => ?_
          have same := kept.error (fun none => clear (understood.mp none)) sensor
          rw [← same]
          have value := placed sensor
          rw [last] at value
          exact value.symm
      · rintro (clear | defaults)
        · refine ⟨fun error => absurd (understood.mpr clear) error, fun _ sensor => ?_⟩
          rw [lastNaming_of_understood clear]
          exact placed sensor
        · constructor
          case error =>
            intro _ sensor
            refine (placed sensor).trans ?_
            cases last : lastPlacement (some content) sensor with
            | none => rfl
            | some place => exact defaults sensor place last
          case success =>
            intro none sensor
            rw [lastNaming_of_understood (understood.mp none)]
            exact placed sensor

def brokenFile : List Char := "place_a=3\nplace_m".toList

theorem axis_allOrNothing_iff_broken :
    ∃ err places, setCfgAxisErr 64 (some brokenFile) hwInfoDftPlace = some (err, places) ∧
      (AllOrNothing (some brokenFile) err places ↔
        Understood (some brokenFile) ∨ GivesDefaults (some brokenFile)) :=
  axis_allOrNothing_iff (some brokenFile) 64 (by decide)

theorem axis_applied_before_error :
    ∃ places, setCfgAxisErr 64 (some brokenFile) hwInfoDftPlace = some (-einval, places) ∧
      ¬ AllOrNothing (some brokenFile) (-einval) places := by
  refine ⟨Function.update hwInfoDftPlace .a 3, ?_, fun kept => ?_⟩
  · rfl
  · exact absurd (kept.error (by decide) .a) (by decide)

end VibeXperia.Proof.Sensord

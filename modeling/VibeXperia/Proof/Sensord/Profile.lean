import VibeXperia.Sensord.Profile

namespace VibeXperia.Proof.Sensord
open Lib VibeXperia.Sensord

variable {magic : AxisSensor} {profile : TsCalibProfile} {opened : Option (List UInt8)}
variable {s : ProfileStore} {e : ProfileEvent}

/-! ## Files -/

theorem patch_eq_self_iff {new old : List UInt8} : patch new old = old ↔ new <+: old := by
  constructor
  · intro same
    exact ⟨_, same⟩
  · rintro ⟨rest, rfl⟩
    rw [patch, List.drop_left]

theorem patch_of_length {new old : List UInt8} (same : old.length ≤ new.length) :
    patch new old = new := by
  rw [patch, List.drop_eq_nil_of_le same, List.append_nil]

theorem restore_headed (cp : CalibProfile) (rest : List UInt8) :
    (restoreSensorProfile magic cp (some (profileHeader magic ++ rest))).1 =
      ⟨cp.profile.readInto rest, if 10 ≤ rest.length then 1 else 0⟩ := by
  have full : min 10 rest.length = 10 ↔ 10 ≤ rest.length := by omega
  simp only [restoreSensorProfile, profileHeader, List.cons_append, List.nil_append,
    List.take_succ_cons, List.take_zero, List.drop_succ_cons, List.drop_zero, List.length_take,
    ne_eq, not_true_eq_false, if_false, full]
  split_ifs <;> rfl

theorem restore_headless (cp : CalibProfile) {content : List UInt8}
    (headless : ¬ profileHeader magic <+: content) :
    (restoreSensorProfile magic cp (some content)).1 = ⟨cp.profile, 0⟩ := by
  unfold restoreSensorProfile
  dsimp only
  split_ifs with first second third full
  iterate 3 rfl
  all_goals
    exfalso
    apply headless
    match content with
    | [] | [_] | [_, _] => simp_all
    | a :: b :: c :: rest => simp_all [profileHeader]

inductive Found (magic : AxisSensor) : Option (List UInt8) → Prop
  | whole (p : TsCalibProfile) (rest : List UInt8) :
      Found magic (some (savedBytes magic p ++ rest))
  | short (body : List UInt8) (ends : body.length < 10) :
      Found magic (some (profileHeader magic ++ body))
  | none (opened : Option (List UInt8))
      (headless : ∀ body, opened ≠ some (profileHeader magic ++ body)) : Found magic opened

theorem found (magic : AxisSensor) (opened : Option (List UInt8)) : Found magic opened := by
  by_cases headed : ∃ body, opened = some (profileHeader magic ++ body)
  · obtain ⟨body, rfl⟩ := headed
    rcases Nat.lt_or_ge body.length 10 with ends | long
    · exact .short body ends
    · have whole : Found magic _ :=
        .whole ⟨body.take 10, List.length_take_of_le long⟩ (body.drop 10)
      rw [savedBytes, List.append_assoc, List.take_append_drop] at whole
      exact whole
  · exact .none opened fun body same => headed ⟨body, same⟩

theorem restore_whole (cp : CalibProfile) (p : TsCalibProfile) (rest : List UInt8) :
    (restoreSensorProfile magic cp (some (savedBytes magic p ++ rest))).1 = ⟨p, 1⟩ := by
  have size := p.size
  have read : cp.profile.readInto (p.bytes ++ rest) = p := by
    have same : patch p.bytes cp.profile.bytes = p.bytes :=
      patch_of_length (by rw [cp.profile.size, size])
    unfold TsCalibProfile.readInto
    congr 1
    rw [← size, List.take_left, same]
  have long : 10 ≤ (p.bytes ++ rest).length := by
    rw [List.length_append]
    omega
  rw [savedBytes, List.append_assoc, restore_headed, read, if_pos long]

theorem restore_short (cp : CalibProfile) {body : List UInt8} (ends : body.length < 10) :
    (restoreSensorProfile magic cp (some (profileHeader magic ++ body))).1 =
      ⟨cp.profile.readInto body, 0⟩ := by
  rw [restore_headed, if_neg (by omega)]

theorem restore_none (cp : CalibProfile)
    (headless : ∀ body, opened ≠ some (profileHeader magic ++ body)) :
    (restoreSensorProfile magic cp opened).1 = ⟨cp.profile, 0⟩ := by
  cases opened with
  | none => rfl
  | some content =>
      apply restore_headless
      rintro ⟨body, rfl⟩
      exact headless body rfl

theorem readInto_eq_self_iff {body : List UInt8} (ends : body.length < 10) :
    profile.readInto body = profile ↔ body <+: profile.bytes := by
  have all : body.take 10 = body := List.take_of_length_le (Nat.le_of_lt ends)
  rw [← patch_eq_self_iff]
  cases profile with
  | mk bytes size =>
      unfold TsCalibProfile.readInto
      rw [TsCalibProfile.mk.injEq, all]

/-! ## Rejected files -/

theorem status_eq_zero_iff (cp : CalibProfile) :
    (restoreSensorProfile magic cp opened).1.status = 0 ↔ Rejected magic opened := by
  unfold Rejected
  cases found magic opened with
  | whole p rest => rw [restore_whole, restore_whole]
  | short body ends => rw [restore_short cp ends, restore_short _ ends]
  | none _ headless => rw [restore_none cp headless, restore_none _ headless]

theorem not_rejected_whole (p : TsCalibProfile) (rest : List UInt8) :
    ¬ Rejected magic (some (savedBytes magic p ++ rest)) := by
  rw [Rejected, restore_whole]
  exact Int.one_ne_zero

theorem left_iff (cp : CalibProfile) :
    (Rejected magic opened → (restoreSensorProfile magic cp opened).1.profile = cp.profile) ↔
      ¬ CutShort magic cp.profile opened := by
  cases found magic opened with
  | whole p rest =>
      refine iff_of_true (fun rejected => absurd rejected (not_rejected_whole p rest)) ?_
      rintro ⟨body, same, ends, -⟩
      have size := p.size
      rw [savedBytes, List.append_assoc] at same
      have longer := congrArg List.length (List.append_cancel_left (Option.some.inj same))
      rw [List.length_append] at longer
      omega
  | short body ends =>
      have rejected : Rejected magic (some (profileHeader magic ++ body)) := by
        rw [Rejected, restore_short _ ends]
      rw [restore_short cp ends, forall_prop_of_true rejected, readInto_eq_self_iff ends]
      constructor
      · rintro inside ⟨other, same, -, outside⟩
        rw [← List.append_cancel_left (Option.some.inj same)] at outside
        exact outside inside
      · intro kept
        by_contra outside
        exact kept ⟨body, rfl, ends, outside⟩
  | none _ headless =>
      rw [restore_none cp headless]
      refine iff_of_true (fun _ => rfl) ?_
      rintro ⟨body, same, -⟩
      exact headless body same

/-! ## Runs -/

theorem restore_step (opened : Option (List UInt8)) (s : ProfileStore) :
    profileStep magic s (.restore opened) =
      (⟨(restoreSensorProfile magic s.cp opened).1, (restoreSensorProfile magic s.cp opened).2⟩,
        if (restoreSensorProfile magic s.cp opened).1.status ≠ 0 then
          [(restoreSensorProfile magic s.cp opened).1.profile] else []) := by
  cases result : restoreSensorProfile magic s.cp opened with
  | mk cp file => simp only [profileStep, result]

theorem disable_step (profile : TsCalibProfile) (s : ProfileStore) :
    profileStep magic s (.disable profile) = (algoSaveCalibProfile magic profile s, []) := by
  rw [profileStep]

theorem save_profile (profile : TsCalibProfile) (s : ProfileStore) :
    (algoSaveCalibProfile magic profile s).cp.profile =
      if sensorAccuracyUnreliable ≤ signed 8 profile.accuracy.toNat then profile
      else s.cp.profile := by
  unfold algoSaveCalibProfile
  by_cases reliable : sensorAccuracyUnreliable ≤ signed 8 profile.accuracy.toNat
  · rw [if_pos reliable, if_pos reliable]
  · rw [if_neg reliable, if_neg reliable]

/-- Where no file is cut short, one step does the same without the rejected file. -/
theorem step_forget {s' : ProfileStore} (same : s.cp.profile = s'.cp.profile)
    (kept : ∀ opened, e = .restore opened → ¬ CutShort magic s.cp.profile opened) :
    (profileStep magic s e).2 = (profileStep magic s' (e.forget magic)).2 ∧
    (profileStep magic s e).1.cp.profile =
      (profileStep magic s' (e.forget magic)).1.cp.profile := by
  cases e with
  | memset => exact ⟨rfl, rfl⟩
  | enable =>
      refine ⟨?_, same⟩
      change algoLoadCalibProfile s = algoLoadCalibProfile s'
      rw [algoLoadCalibProfile, algoLoadCalibProfile, same]
  | disable profile =>
      simp only [ProfileEvent.forget, disable_step, save_profile, same, and_self]
  | restore opened =>
      have left := (left_iff s.cp).mpr (kept opened rfl)
      by_cases rejected : Rejected magic opened
      · have status := (status_eq_zero_iff s.cp).mpr rejected
        rw [ProfileEvent.forget, if_pos rejected, restore_step, status]
        exact ⟨rfl, (left rejected).trans same⟩
      · rw [ProfileEvent.forget, if_neg rejected, restore_step, restore_step]
        cases found magic opened with
        | whole p rest => rw [restore_whole, restore_whole]; exact ⟨rfl, rfl⟩
        | short body ends => exact absurd (by rw [Rejected, restore_short _ ends]) rejected
        | none _ headless => exact absurd (by rw [Rejected, restore_none _ headless]) rejected

theorem run_forget {s' : ProfileStore} {es : List ProfileEvent}
    (same : s.cp.profile = s'.cp.profile)
    (kept : ∀ t ∈ trace (profileStep magic) s es, ∀ opened, t.event = .restore opened →
      ¬ CutShort magic t.before.cp.profile opened) :
    outputs (profileStep magic) s es =
      outputs (profileStep magic) s' (es.map (ProfileEvent.forget magic)) := by
  induction es generalizing s s' with
  | nil => rfl
  | cons e es ih =>
      obtain ⟨now, kept⟩ := List.forall_mem_cons.mp kept
      obtain ⟨out, next⟩ := @step_forget magic s e s' same now
      change (profileStep magic s e).2 ++ outputs (profileStep magic) _ es =
        (profileStep magic s' (e.forget magic)).2 ++ outputs (profileStep magic) _ _
      rw [out, ih next kept]

theorem saved_restored (magic : AxisSensor) : SavedRestored magic := by
  intro profile s cp there reliable
  obtain ⟨content, opened⟩ := Option.isSome_iff_exists.mp there
  rw [algoSaveCalibProfile, if_pos reliable, opened, Option.map_some, patch]
  exact restore_whole cp profile _

/-- Profiles and files are kept apart exactly in the runs in which no file is cut short. -/
theorem files_kept_iff (magic : AxisSensor) (s : ProfileStore) (es : List ProfileEvent) :
    FilesKept magic s es ↔
      ∀ t ∈ trace (profileStep magic) s es, ∀ opened, t.event = .restore opened →
        ¬ CutShort magic t.before.cp.profile opened := by
  have leaves (t) (member : t ∈ trace (profileStep magic) s es) (opened)
      (restores : t.event = .restore opened) :
      (Rejected magic opened → t.after.cp.profile = t.before.cp.profile) ↔
        ¬ CutShort magic t.before.cp.profile opened := by
    rw [← left_iff, eq_react_of_mem member, restores]
    change (_ → (profileStep magic t.before (.restore opened)).1.cp.profile = _) ↔ _
    rw [restore_step]
    rfl
  constructor
  · intro kept t member opened restores
    exact (leaves t member opened restores).mp (kept.left t member opened restores)
  · intro kept
    refine ⟨saved_restored magic, ?_, run_forget rfl kept⟩
    intro t member opened restores
    exact (leaves t member opened restores).mpr (kept t member opened restores)

/-! ## A file that ends one byte early -/

def cutFile : List UInt8 := profileHeader .a ++ [1, 0, 2, 0, 3, 0, 4, 0, 3]

def unreliableProfile : TsCalibProfile := ⟨[0, 0, 0, 0, 0, 0, 0, 0, 255, 0], by decide⟩

/-- The modules are disabled at the end of the start and the accelerometer is enabled later: the
library is given the bytes of the rejected file. -/
theorem cut_file_loaded :
    Rejected .a (some cutFile) ∧
    outputs (profileStep .a) startProfiles
        (algoInitProfile (some cutFile) ++ [.disable unreliableProfile, .enable]) =
      [⟨[1, 0, 2, 0, 3, 0, 4, 0, 3, 0], by decide⟩] ∧
    ¬ FilesKept .a startProfiles
      (algoInitProfile (some cutFile) ++ [.disable unreliableProfile, .enable]) := by
  refine ⟨by decide, by decide, fun kept => ?_⟩
  exact absurd kept.unloaded (by decide)

end VibeXperia.Proof.Sensord

import VibeXperia.Gps.Registry
import Mathlib.Data.List.Induction
import Mathlib.Data.List.Nodup
import Mathlib.Data.List.Perm.Subperm

namespace VibeXperia.Proof.Gps
open Lib VibeXperia.Gps

variable {α : Type} {mask : α → EventMask} {adapter other : α}
variable {api : LocApiBase α} {entries : Nat → Option α} {adapters first second : List α}
variable {calls before after : List (RegistryCall α)}

/-! ## The array as a list -/

def HoldsList (entries : Nat → Option α) (adapters : List α) : Prop :=
  ∀ i, entries i = adapters[i]?

theorem toAllAdapters_eq (holds : HoldsList entries adapters) {i rest : Nat}
    (enough : adapters.length ≤ i + rest) : toAllAdapters entries i rest = adapters.drop i := by
  induction rest generalizing i with
  | zero =>
      rw [Nat.add_zero] at enough
      rw [toAllAdapters, List.drop_of_length_le enough]
  | succ rest ih =>
      rw [toAllAdapters, holds i]
      cases here : adapters[i]? with
      | none => rw [List.drop_of_length_le (List.getElem?_eq_none_iff.mp here)]
      | some adapter =>
          obtain ⟨inside, rfl⟩ := List.getElem?_eq_some_iff.mp here
          rw [List.drop_eq_getElem_cons inside]
          dsimp only
          rw [ih (by omega)]

theorem toAllLocAdapters_eq (holds : HoldsList api.mLocAdapters adapters)
    (few : adapters.length ≤ maxAdapters) : api.toAllLocAdapters = adapters := by
  rw [LocApiBase.toAllLocAdapters, toAllAdapters_eq holds (by omega), List.drop_zero]

theorem skipAdapters_eq {i rest : Nat} (holds : ∀ i' ≥ i, entries i' = adapters[i']?)
    (start : i ≤ adapters.length) (enough : adapters.length ≤ i + rest) :
    skipAdapters entries i rest = adapters.length := by
  induction rest generalizing i with
  | zero => rw [skipAdapters]; omega
  | succ rest ih =>
      rw [skipAdapters, holds i (Nat.le_refl i)]
      split_ifs with last
      · have past := List.getElem?_eq_none_iff.mp last
        omega
      · have inside : i < adapters.length := by simpa using last
        exact ih (fun i' bound => holds i' (by omega)) inside (by omega)

def vacated (first second : List α) : List α :=
  match second.getLast? with
  | none => first
  | some last => first ++ last :: second.dropLast

theorem vacated_append (first second : List α) (last : α) :
    vacated first (second ++ [last]) = first ++ last :: second := by
  simp [vacated]

theorem vacated_perm : (vacated first second).Perm (first ++ second) := by
  induction second using List.reverseRecOn with
  | nil => simp [vacated]
  | append_singleton second last _ =>
      rw [vacated_append]
      exact (List.perm_append_singleton last second).symm.append_left first

theorem skip_removed (holds : HoldsList entries (first ++ adapter :: second))
    (few : (first ++ adapter :: second).length ≤ maxAdapters) :
    skipAdapters (Function.update entries first.length none) (first.length + 1)
      (maxAdapters - (first.length + 1)) = (first ++ adapter :: second).length := by
  apply skipAdapters_eq
  · intro i bound
    rw [Function.update_of_ne (by omega), holds i]
  · simp
  · omega

theorem vacate_holds (holds : HoldsList api.mLocAdapters (first ++ adapter :: second))
    (few : (first ++ adapter :: second).length ≤ maxAdapters) :
    HoldsList (api.vacate mask first.length).2.1.mLocAdapters (vacated first second) := by
  have skipped := skip_removed holds few
  rw [LocApiBase.vacate, skipped]
  intro i
  dsimp only
  induction second using List.reverseRecOn with
  | nil =>
      have only : (first ++ [adapter]).length - 1 = first.length := by simp
      rw [only]
      by_cases same : i = first.length
      · simp [same, vacated]
      · rw [Function.update_of_ne same, Function.update_of_ne same, Function.update_of_ne same,
          holds i, List.getElem?_append]
        split_ifs with inside
        · rfl
        · rw [List.getElem?_eq_none (by simp; omega)]
          simp [vacated, List.getElem?_eq_none (Nat.le_of_not_lt inside)]
  | append_singleton second last _ =>
      have place : (first ++ adapter :: (second ++ [last])).length - 1 =
          (first ++ adapter :: second).length := by simp
      have final : Function.update api.mLocAdapters first.length none
          (first ++ adapter :: second).length = some last := by
        rw [Function.update_of_ne (by simp), holds]
        simp
      rw [vacated_append, place, final]
      by_cases end_ : i = (first ++ adapter :: second).length
      · rw [end_, Function.update_self, List.getElem?_eq_none]
        simp
      · rw [Function.update_of_ne end_]
        by_cases same : i = first.length
        · simp [same]
        · rw [Function.update_of_ne same, Function.update_of_ne same, holds i,
            List.getElem?_append, List.getElem?_append]
          split_ifs with inside
          · rfl
          · have later : i - first.length = i - first.length - 1 + 1 := by omega
            rw [later, List.getElem?_cons_succ, List.getElem?_cons_succ, List.getElem?_append]
            split_ifs with before
            · rfl
            · simp at end_ before
              rw [List.getElem?_eq_none (by simp; omega), List.getElem?_eq_none (by omega)]

theorem vacate_evt (holds : HoldsList api.mLocAdapters (first ++ adapter :: second))
    (few : (first ++ adapter :: second).length ≤ maxAdapters) :
    .close ∈ (api.vacate mask first.length).2.2 ↔ first ++ second = [] := by
  have skipped := skip_removed holds few
  have last : (first ++ adapter :: second).length - 1 = (first ++ second).length := by simp
  rw [LocApiBase.vacate, skipped, last]
  dsimp only
  split_ifs with none
  · simpa using none
  · simpa using none

/-! ## Who is registered -/

theorem registered_snoc (last : RegistryCall α) :
    Registered (calls ++ [last]) other ↔
      last = .addAdapter other ∨ last ≠ .removeAdapter other ∧ Registered calls other := by
  constructor
  · rintro ⟨before, after, split, kept⟩
    rcases split_snoc split with ⟨-, rfl, -⟩ | ⟨rest, rfl, rfl⟩
    · exact .inl rfl
    · rw [List.mem_append, not_or, List.mem_singleton] at kept
      exact .inr ⟨Ne.symm kept.2, before, rest, rfl, kept.1⟩
  · rintro (rfl | ⟨distinct, before, after, rfl, kept⟩)
    · exact ⟨calls, [], rfl, List.not_mem_nil⟩
    · refine ⟨before, after ++ [last], by simp, ?_⟩
      rw [List.mem_append, not_or, List.mem_singleton]
      exact ⟨kept, Ne.symm distinct⟩

theorem not_registered_nil : ¬ Registered [] other := by
  rintro ⟨before, after, split, -⟩
  cases before <;> cases split

theorem fits_earlier (fits : RoomFor (before ++ after)) : RoomFor before := by
  rintro first second rfl
  exact fits first (second ++ after) (List.append_assoc ..)

/-! ## The registry kept -/

structure Registers (api : LocApiBase α) (calls : List (RegistryCall α)) (adapters : List α) :
    Prop where
  holds : HoldsList api.mLocAdapters adapters
  nodup : adapters.Nodup
  few : adapters.length ≤ maxAdapters
  mem : ∀ adapter, adapter ∈ adapters ↔ Registered calls adapter

theorem Registers.lists (kept : Registers api calls adapters) : api.Lists calls :=
  ⟨adapters, kept.holds, kept.nodup, kept.few, kept.mem⟩

theorem Registers.report (kept : Registers api calls adapters) :
    Registers api (calls ++ [.report]) adapters where
  holds := kept.holds
  nodup := kept.nodup
  few := kept.few
  mem adapter := by
    rw [kept.mem, registered_snoc]
    simp

variable [DecidableEq α]

/-! ## Adding -/

theorem addAdapterFrom_eq (holds : HoldsList api.mLocAdapters adapters) {i rest : Nat}
    (start : i ≤ adapters.length) :
    api.addAdapterFrom mask adapter i rest =
      if adapter ∈ (adapters.drop i).take rest ∨ i + rest ≤ adapters.length then (api, [])
      else
        ({ api with mLocAdapters :=
            Function.update api.mLocAdapters adapters.length (some adapter) },
          [.locOpenMsg (mask adapter)]) := by
  induction rest generalizing i with
  | zero => rw [LocApiBase.addAdapterFrom, if_pos (.inr start)]
  | succ rest ih =>
      rw [LocApiBase.addAdapterFrom, holds i]
      cases here : adapters[i]? with
      | none =>
          have past := List.getElem?_eq_none_iff.mp here
          obtain rfl : i = adapters.length := by omega
          simp
      | some found =>
          obtain ⟨inside, rfl⟩ := List.getElem?_eq_some_iff.mp here
          rw [List.drop_eq_getElem_cons inside, List.take_succ_cons]
          dsimp only
          by_cases same : adapters[i] = adapter
          · rw [if_pos same, if_pos (.inl (by simp [same]))]
          · have split : (adapter ∈ adapters[i] :: List.take rest (List.drop (i + 1) adapters) ∨
                i + (rest + 1) ≤ adapters.length) ↔
                (adapter ∈ List.take rest (List.drop (i + 1) adapters) ∨
                  i + 1 + rest ≤ adapters.length) := by
              rw [List.mem_cons, or_iff_right (Ne.symm same)]
              exact or_congr_right (by omega)
            rw [if_neg same, ih inside]
            simp only [split]

theorem addAdapter_known (holds : HoldsList api.mLocAdapters adapters)
    (few : adapters.length ≤ maxAdapters) (known : adapter ∈ adapters) :
    api.addAdapter mask adapter = (api, []) := by
  rw [LocApiBase.addAdapter, addAdapterFrom_eq holds (Nat.zero_le _), if_pos]
  left
  rwa [List.drop_zero, List.take_of_length_le few]

theorem addAdapter_new (holds : HoldsList api.mLocAdapters adapters)
    (room : adapters.length < maxAdapters) (new : adapter ∉ adapters) :
    HoldsList (api.addAdapter mask adapter).1.mLocAdapters (adapters ++ [adapter]) ∧
      (api.addAdapter mask adapter).2 = [.locOpenMsg (mask adapter)] := by
  rw [LocApiBase.addAdapter, addAdapterFrom_eq holds (Nat.zero_le _), if_neg]
  · refine ⟨fun i => ?_, rfl⟩
    by_cases last : i = adapters.length
    · simp [last]
    · dsimp only
      rw [Function.update_of_ne last, holds i, List.getElem?_append]
      split_ifs with inside
      · rfl
      · rw [List.getElem?_eq_none (by omega), List.getElem?_eq_none (by simp; omega)]
  · rw [List.drop_zero, List.take_of_length_le (Nat.le_of_lt room)]
    rintro (known | full)
    · exact new known
    · omega

/-! ## Removing -/

theorem removeAdapterFrom_stranger (holds : HoldsList api.mLocAdapters adapters)
    (stranger : adapter ∉ adapters) (i rounds : Nat) :
    LocApiBase.removeAdapterFrom mask adapter api i rounds = (api, []) := by
  induction rounds generalizing i with
  | zero => rfl
  | succ rounds ih =>
      rw [LocApiBase.removeAdapterFrom, holds i]
      split_ifs
      · cases here : adapters[i]? with
        | none => rfl
        | some found =>
            dsimp only
            rw [if_neg, ih]
            rintro rfl
            exact stranger (List.mem_of_getElem? here)
      · rfl

theorem removeAdapterFrom_found (holds : HoldsList api.mLocAdapters (first ++ adapter :: second))
    (few : (first ++ adapter :: second).length ≤ maxAdapters)
    (nodup : (first ++ adapter :: second).Nodup) {i rounds : Nat} (start : i ≤ first.length)
    (enough : first.length < i + rounds) :
    LocApiBase.removeAdapterFrom mask adapter api i rounds =
      (api.vacate mask first.length).2 := by
  have apart := List.perm_middle.nodup_iff.mp nodup
  induction rounds generalizing i with
  | zero => omega
  | succ rounds ih =>
      have inside : i < maxAdapters := by simp at few; omega
      rw [LocApiBase.removeAdapterFrom, if_pos inside, holds i]
      by_cases here : i = first.length
      · have found : (first ++ adapter :: second)[i]? = some adapter := by simp [here]
        have gone : adapter ∉ vacated first second := by
          rw [vacated_perm.mem_iff]
          exact (List.nodup_cons.mp apart).1
        rw [found]
        dsimp only
        rw [if_pos rfl, here, removeAdapterFrom_stranger (vacate_holds holds few) gone,
          List.append_nil]
      · have before : i < first.length := by omega
        have other : (first ++ adapter :: second)[i]? = some first[i] := by
          rw [List.getElem?_append_left before, List.getElem?_eq_getElem before]
        have distinct : first[i] ≠ adapter := by
          intro same
          apply (List.nodup_cons.mp apart).1
          rw [← same]
          simp
        rw [other]
        dsimp only
        rw [if_neg distinct]
        exact ih before (by omega)

/-! ## All calls -/

theorem Registers.addAdapter (kept : Registers api calls adapters)
    (fits : RoomFor (calls ++ [.addAdapter adapter])) :
    (∃ adapters', Registers (api.addAdapter mask adapter).1 (calls ++ [.addAdapter adapter])
      adapters') ∧
      .close ∉ (api.addAdapter mask adapter).2 := by
  have mem (adapter' : α) : Registered (calls ++ [.addAdapter adapter]) adapter' ↔
      adapter = adapter' ∨ adapter' ∈ adapters := by
    rw [registered_snoc, kept.mem]
    simp
  by_cases known : adapter ∈ adapters
  · rw [addAdapter_known kept.holds kept.few known]
    refine ⟨⟨adapters, kept.holds, kept.nodup, kept.few, fun adapter' => ?_⟩, List.not_mem_nil⟩
    rw [mem, or_iff_right_of_imp]
    rintro rfl
    exact known
  · have nodup : (adapters ++ [adapter]).Nodup := by
      rw [List.nodup_append_comm]
      exact List.nodup_cons.mpr ⟨known, kept.nodup⟩
    have all : ∀ adapter' ∈ adapters ++ [adapter],
        Registered (calls ++ [.addAdapter adapter]) adapter' := by
      intro adapter' member
      rw [mem]
      rcases List.mem_append.mp member with earlier | last
      · exact .inr earlier
      · exact .inl (List.mem_singleton.mp last).symm
    have room := fits _ [] (List.append_nil _).symm _ nodup all
    obtain ⟨holds, evt⟩ := @addAdapter_new α mask adapter api adapters _ kept.holds
      (by simp at room; omega) known
    rw [evt]
    refine ⟨⟨adapters ++ [adapter], holds, nodup, room, fun adapter' => ?_⟩, by simp⟩
    rw [mem, List.mem_append, List.mem_singleton, or_comm, eq_comm]

theorem Registers.removeAdapter (kept : Registers api calls adapters) :
    (∃ adapters', Registers (api.removeAdapter mask adapter).1 (calls ++ [.removeAdapter adapter])
      adapters') ∧
      (.close ∈ (api.removeAdapter mask adapter).2 ↔ LastRegistered calls adapter) := by
  have mem (adapter' : α) : Registered (calls ++ [.removeAdapter adapter]) adapter' ↔
      adapter ≠ adapter' ∧ adapter' ∈ adapters := by
    rw [registered_snoc, kept.mem]
    simp
  by_cases known : adapter ∈ adapters
  · obtain ⟨first, second, rfl⟩ := List.append_of_mem known
    have apart := List.nodup_cons.mp (List.perm_middle.nodup_iff.mp kept.nodup)
    have removed : api.removeAdapter mask adapter = (api.vacate mask first.length).2 := by
      apply removeAdapterFrom_found kept.holds kept.few kept.nodup (Nat.zero_le _)
      have few := kept.few
      simp at few
      omega
    rw [removed, vacate_evt kept.holds kept.few]
    refine ⟨⟨vacated first second, vacate_holds kept.holds kept.few,
      vacated_perm.nodup_iff.mpr apart.2, ?_, fun adapter' => ?_⟩, ?_⟩
    · have few := kept.few
      rw [vacated_perm.length_eq]
      simp at few ⊢
      omega
    · rw [mem, vacated_perm.mem_iff, List.perm_middle.mem_iff, List.mem_cons]
      constructor
      · intro member
        refine ⟨?_, .inr member⟩
        rintro rfl
        exact apart.1 member
      · rintro ⟨distinct, rfl | member⟩
        · exact absurd rfl distinct
        · exact member
    · constructor
      · intro empty other
        rw [← kept.mem, List.perm_middle.mem_iff, empty, List.mem_singleton]
      · intro last
        rw [List.eq_nil_iff_forall_not_mem]
        intro other member
        have only := (last other).mp ((kept.mem other).mp
          (List.perm_middle.mem_iff.mpr (List.mem_cons_of_mem _ member)))
        rw [only] at member
        exact apart.1 member
  · have nothing : api.removeAdapter mask adapter = (api, []) :=
      removeAdapterFrom_stranger kept.holds known 0 maxAdapters
    rw [nothing]
    refine ⟨⟨adapters, kept.holds, kept.nodup, kept.few, fun adapter' => ?_⟩, ?_⟩
    · rw [mem]
      refine ⟨fun member => ⟨?_, member⟩, And.right⟩
      rintro rfl
      exact known member
    · refine iff_of_false List.not_mem_nil fun last => known ?_
      rw [kept.mem, last]

theorem kept_final (mExcludedMask : EventMask) (fits : RoomFor calls) :
    ∃ adapters, Registers (final (LocApiBase.call mask) (.initial mExcludedMask) calls) calls
      adapters := by
  induction calls using List.reverseRecOn with
  | nil =>
      refine ⟨[], fun _ => rfl, List.nodup_nil, Nat.zero_le _, fun adapter => ?_⟩
      exact iff_of_false List.not_mem_nil not_registered_nil
  | append_singleton calls last ih =>
      obtain ⟨adapters, kept⟩ := ih (fits_earlier fits)
      rw [final_append]
      cases last with
      | addAdapter adapter => exact (kept.addAdapter fits).1
      | removeAdapter adapter => exact kept.removeAdapter.1
      | report => exact ⟨adapters, kept.report⟩

theorem Registers.closes (kept : Registers api calls adapters) {last : RegistryCall α}
    (fits : RoomFor (calls ++ [last])) :
    .close ∈ (api.call mask last).2 ↔
      ∃ adapter, last = .removeAdapter adapter ∧ LastRegistered calls adapter := by
  cases last with
  | addAdapter adapter =>
      refine iff_of_false (kept.addAdapter fits).2 ?_
      rintro ⟨_, same, -⟩
      cases same
  | removeAdapter adapter =>
      constructor
      · intro closed
        exact ⟨adapter, rfl, kept.removeAdapter.2.mp closed⟩
      · rintro ⟨_, same, last⟩
        cases same
        exact kept.removeAdapter.2.mpr last
  | report =>
      refine iff_of_false ?_ ?_
      · simp [LocApiBase.call]
      · rintro ⟨_, same, -⟩
        cases same

/-- The adapters added and not removed since are kept, reports reach each of them once, and the
connection is closed when the last one is removed. -/
theorem registry_kept (mask : α → EventMask) (mExcludedMask : EventMask)
    {calls : List (RegistryCall α)} (fits : RoomFor calls) :
    RegistryKept mask mExcludedMask calls := by
  obtain ⟨adapters, kept⟩ := @kept_final α mask calls _ mExcludedMask fits
  have reported (adapter : α) :
      ((final (LocApiBase.call mask) (.initial mExcludedMask) calls).call mask .report).2 =
        adapters.map .reported := by
    rw [LocApiBase.call, toAllLocAdapters_eq kept.holds kept.few]
  refine ⟨kept.lists, fun adapter registered => ?_, fun adapter stranger reached => ?_, ?_⟩
  · have injective : Function.Injective (ApiEffect.reported (α := α)) := by
      intro first second same
      cases same
      rfl
    rw [reported adapter]
    exact List.count_eq_one_of_mem (kept.nodup.map injective)
      (List.mem_map_of_mem ((kept.mem adapter).mpr registered))
  · rw [reported adapter] at reached
    obtain ⟨found, member, same⟩ := List.mem_map.mp reached
    cases same
    exact stranger ((kept.mem adapter).mp member)
  · rintro before call after rfl
    rw [← List.singleton_append, ← List.append_assoc] at fits
    have fits := fits_earlier fits
    obtain ⟨adapters, kept⟩ := @kept_final α mask before _ mExcludedMask (fits_earlier fits)
    exact kept.closes fits

/-- One adapter is added while another comes, goes and comes again. -/
theorem registry_kept_readded :
    RegistryKept (fun _ : Nat => 1) 0
      [.addAdapter 1, .addAdapter 2, .removeAdapter 1, .addAdapter 1, .removeAdapter 3,
        .removeAdapter 2, .removeAdapter 1] := by
  apply registry_kept
  intro before after split adapters nodup registered
  have two : adapters ⊆ [1, 2] := by
    intro adapter member
    obtain ⟨earlier, later, rfl, -⟩ := registered adapter member
    have added : RegistryCall.addAdapter adapter ∈
        (earlier ++ .addAdapter adapter :: later) ++ after := by simp
    rw [← split] at added
    simp at added
    simp
    omega
  exact Nat.le_trans (nodup.subperm two).length_le (by decide)

end VibeXperia.Proof.Gps

import VibeXperia.Gps.ApiConnection
import VibeXperia.Proof.Gps.Registry

namespace VibeXperia.Proof.Gps
open Lib VibeXperia.Gps

variable {α : Type} {mask : α → EventMask} {s : ApiConnection α} {adapters : List α}

/-! ## The connection to the engine -/

def Settles (mask : α → EventMask) (s : ApiConnection α) : Prop :=
  (s.settled mask).opened ≠ none ↔ s.api.toAllLocAdapters ≠ []

/-- The last adapter does not go while messages are queued, and the engine does not come up while
there is none. -/
def Unrushed (s : ApiConnection α) : ApiEvent α → Prop
  | .removeAdapter adapter => s.api.toAllLocAdapters = [adapter] → s.queue = []
  | .handleEngineUpEvent => s.api.toAllLocAdapters ≠ []
  | _ => True

theorem settled_opened :
    (s.settled mask).opened ≠ none ↔ s.queue ≠ [] ∨ s.opened ≠ none := by
  rw [ApiConnection.settled]
  rcases List.eq_nil_or_concat s.queue with none | ⟨queue, msg, last⟩
  · simp [none]
  · rw [last, List.concat_eq_append, List.foldl_append]
    cases msg <;> simp [ApiConnection.procMsg]

structure Connected (s : ApiConnection α) (adapters : List α) : Prop where
  holds : HoldsList s.api.mLocAdapters adapters
  nodup : adapters.Nodup
  few : adapters.length ≤ maxAdapters
  closed : adapters = [] → s.queue = [] ∧ s.opened = none
  opened : adapters ≠ [] → s.queue ≠ [] ∨ s.opened ≠ none

theorem Connected.adapters_eq (connected : Connected s adapters) :
    s.api.toAllLocAdapters = adapters :=
  toAllLocAdapters_eq connected.holds connected.few

theorem Connected.settles (connected : Connected s adapters) : Settles mask s := by
  rw [Settles, settled_opened, connected.adapters_eq]
  refine ⟨fun opens none => ?_, connected.opened⟩
  obtain ⟨empty, closed⟩ := connected.closed none
  exact opens.elim (fun queued => queued empty) fun opened => opened closed

theorem connected_initial (mExcludedMask : EventMask) :
    Connected (.initial mExcludedMask : ApiConnection α) [] where
  holds _ := rfl
  nodup := List.nodup_nil
  few := Nat.zero_le _
  closed _ := ⟨rfl, rfl⟩
  opened none := absurd rfl none

variable [DecidableEq α]

theorem Connected.addAdapter (connected : Connected s adapters) (adapter : α) :
    ∃ adapters', Connected (s.step mask (.addAdapter adapter)).1 adapters' := by
  by_cases known : adapter ∈ adapters
  · refine ⟨adapters, ?_⟩
    simp only [ApiConnection.step,
      addAdapter_known connected.holds connected.few known, List.foldl_nil]
    exact connected
  · by_cases room : adapters.length < maxAdapters
    · obtain ⟨holds, evt⟩ := @addAdapter_new α mask adapter s.api adapters _ connected.holds room known
      refine ⟨adapters ++ [adapter], ?_⟩
      simp only [ApiConnection.step, evt, List.foldl_cons, List.foldl_nil, ApiConnection.perform]
      refine ⟨holds, ?_, ?_, by simp, by simp⟩
      · rw [List.nodup_append_comm]
        exact List.nodup_cons.mpr ⟨known, connected.nodup⟩
      · rw [List.length_append]
        exact room
    · have full : s.api.addAdapter mask adapter = (s.api, []) := by
        rw [LocApiBase.addAdapter, addAdapterFrom_eq connected.holds (Nat.zero_le _), if_pos]
        right
        rw [Nat.zero_add]
        exact Nat.le_of_not_lt room
      refine ⟨adapters, ?_⟩
      simp only [ApiConnection.step, full, List.foldl_nil]
      exact connected

theorem Connected.removeAdapter (connected : Connected s adapters) (adapter : α) :
    s.step mask (.removeAdapter adapter) = (s, []) ∧ adapter ∉ adapters ∨
      ∃ adapters' api, HoldsList api.mLocAdapters adapters' ∧ adapters'.Nodup ∧
        adapters'.length ≤ maxAdapters ∧
        ((adapters = [adapter] ∧ adapters' = [] ∧
          (s.step mask (.removeAdapter adapter)).1 = { s with api := api, opened := none }) ∨
        (adapters ≠ [adapter] ∧ adapters' ≠ [] ∧ ∃ mask', (s.step mask (.removeAdapter adapter)).1 =
          { s with api := api, queue := s.queue ++ [.locOpenMsg mask'] })) := by
  by_cases known : adapter ∈ adapters
  · right
    obtain ⟨first, second, rfl⟩ := List.append_of_mem known
    have apart := List.nodup_cons.mp (List.perm_middle.nodup_iff.mp connected.nodup)
    have few := connected.few
    have removed : s.api.removeAdapter mask adapter = (s.api.vacate mask first.length).2 := by
      apply removeAdapterFrom_found connected.holds few connected.nodup (Nat.zero_le _)
      simp at few
      omega
    have length := (@vacated_perm α first second).length_eq
    refine ⟨vacated first second, (s.api.vacate mask first.length).2.1,
      vacate_holds connected.holds few, vacated_perm.nodup_iff.mpr apart.2, ?_, ?_⟩
    · simp at length few
      omega
    · simp only [ApiConnection.step, removed]
      have evt := @vacate_evt α mask adapter s.api first second connected.holds few
      have one : ∃ effect, (s.api.vacate mask first.length).2.2 = [effect] ∧
          (effect = .close ∨ ∃ mask', effect = .locOpenMsg mask') := by
        rw [LocApiBase.vacate]
        dsimp only
        split_ifs
        · exact ⟨_, rfl, .inl rfl⟩
        · exact ⟨_, rfl, .inr ⟨_, rfl⟩⟩
      obtain ⟨effect, effects, kind⟩ := one
      rw [effects, List.mem_singleton] at evt
      rw [effects]
      rcases kind with rfl | ⟨mask', rfl⟩
      · obtain ⟨rfl, rfl⟩ := List.append_eq_nil_iff.mp (evt.mp rfl)
        exact .inl ⟨rfl, rfl, rfl⟩
      · have rest : first ++ second ≠ [] := fun none => by cases evt.mpr none
        refine .inr ⟨fun only => rest ?_, fun none => rest ?_, mask', rfl⟩
        · have size := congrArg List.length only
          simp at size
          apply List.append_eq_nil_iff.mpr
          constructor <;> apply List.length_eq_zero_iff.mp <;> omega
        · rw [none] at length
          exact List.length_eq_zero_iff.mp length.symm
  · left
    refine ⟨?_, known⟩
    simp only [ApiConnection.step, LocApiBase.removeAdapter,
      removeAdapterFrom_stranger connected.holds known, List.foldl_nil]

theorem Connected.step (connected : Connected s adapters) (e : ApiEvent α) :
    (Settles mask (s.step mask e).1 ↔ Unrushed s e) ∧
      (Unrushed s e → ∃ adapters', Connected (s.step mask e).1 adapters') := by
  have kept (unrushed : Unrushed s e)
      (next : ∃ adapters', Connected (s.step mask e).1 adapters') :
      (Settles mask (s.step mask e).1 ↔ Unrushed s e) ∧
        (Unrushed s e → ∃ adapters', Connected (s.step mask e).1 adapters') := by
    obtain ⟨adapters', connected'⟩ := next
    exact ⟨iff_of_true connected'.settles unrushed, fun _ => ⟨adapters', connected'⟩⟩
  cases e with
  | addAdapter adapter => exact kept trivial (connected.addAdapter adapter)
  | removeAdapter adapter =>
      rcases @Connected.removeAdapter α mask s adapters _ connected adapter with ⟨same, stranger⟩ |
        ⟨adapters', api, holds, nodup, few, ⟨only, none, after⟩ | ⟨others, left, mask', after⟩⟩
      · refine kept (fun only => ?_) ⟨adapters, by rwa [same]⟩
        rw [connected.adapters_eq] at only
        exact absurd (by simp [only]) stranger
      · subst none
        have nobody : api.toAllLocAdapters = [] := toAllLocAdapters_eq holds few
        have unrushed : Unrushed s (.removeAdapter adapter) ↔ s.queue = [] := by
          rw [Unrushed, connected.adapters_eq]
          exact ⟨fun slow => slow only, fun empty _ => empty⟩
        rw [after, unrushed]
        refine ⟨?_, fun empty => ⟨[], holds, nodup, few, fun _ => ⟨empty, rfl⟩,
          fun some => absurd rfl some⟩⟩
        rw [Settles, settled_opened]
        simp [nobody]
      · refine kept (fun only => ?_) ⟨adapters', ?_⟩
        · rw [connected.adapters_eq] at only
          exact absurd only others
        · rw [after]
          exact ⟨holds, nodup, few, fun none => absurd none left, fun _ => .inl (by simp)⟩
  | handleEngineUpEvent =>
      have unrushed : Unrushed s .handleEngineUpEvent ↔ adapters ≠ [] := by
        rw [Unrushed, connected.adapters_eq]
      rw [unrushed]
      refine ⟨?_, fun some => ⟨adapters, connected.holds, connected.nodup, connected.few,
        fun none => absurd none some, fun _ => .inl (by simp [ApiConnection.step])⟩⟩
      rw [Settles, settled_opened]
      simp [ApiConnection.step, connected.adapters_eq]
  | proc =>
      refine kept trivial ⟨adapters, ?_⟩
      simp only [ApiConnection.step]
      cases queued : s.queue with
      | nil => exact connected
      | cons msg queue =>
          have some : adapters ≠ [] := by
            intro none
            have empty := (connected.closed none).1
            rw [queued] at empty
            cases empty
          cases msg with
          | _ =>
            exact ⟨connected.holds, connected.nodup, connected.few, fun none => absurd none some,
              fun _ => .inr (Option.some_ne_none _)⟩

/-- Each state of a run settles with the connection open for somebody, exactly if no step of the
run is in haste. -/
theorem connection_settles (mask : α → EventMask) (mExcludedMask : EventMask)
    (es : List (ApiEvent α)) :
    (∀ t ∈ trace (ApiConnection.step mask) (.initial mExcludedMask) es, Settles mask t.after) ↔
      ∀ t ∈ trace (ApiConnection.step mask) (.initial mExcludedMask) es,
        Unrushed t.before t.event := by
  apply @run_iff _ _ _ (ApiConnection.step mask) (fun s => ∃ adapters, Connected s adapters)
    Unrushed (fun t => Settles mask t.after)
  · rintro s e ⟨adapters, connected⟩
    exact (connected.step e).1
  · rintro s e ⟨adapters, connected⟩
    exact (connected.step e).2
  · exact ⟨[], connected_initial mExcludedMask⟩

end VibeXperia.Proof.Gps

import VibeXperia.Proof.Agps.DsCases

namespace VibeXperia.Proof.Agps
open VibeXperia.Agps VibeXperia.Agps.Act VibeXperia.Agps.DsSystem VibeXperia.Lib

/-! ## A handle that has left -/

section Left
variable {s : DsSystem} {e : DsEvent} {ID : UInt32}

theorem not_holds_of_left (h : DsMachine s.machine) (left : s.left ID) : ¬ s.holds ID := by
  obtain ⟨c, member, mine, inactive⟩ := left
  rintro ⟨d, inside, same, awake⟩
  have equal := List.inj_on_of_nodup_map h.distinct member inside (mine.trans same.symm)
  rw [equal, awake] at inactive
  cases inactive

theorem left_markHandle {list : List Subscriber} {other : UInt32} {c : Subscriber}
    (member : c ∈ list) (mine : c.ID = ID) (ds : c.kind = .ds)
    (inactive : c.isInactive = true ∨ other = ID) :
    ∃ d ∈ markHandle other list, d.ID = ID ∧ d.isInactive = true := by
  refine ⟨_, List.mem_map_of_mem member, ?_⟩
  split_ifs with marked
  · cases c with
    | ds => exact ⟨mine, rfl⟩
    | _ => cases ds
  · rcases inactive with inactive | rfl
    · exact ⟨mine, inactive⟩
    · exact absurd mine marked

theorem left_step (h : DsShape s.machine) (left : s.left ID) (open' : e.reportsRelease = false) :
    (s.step e).1.left ID := by
  obtain ⟨c, member, mine, inactive⟩ := left
  have ds := h.machine.clients c member
  have moved := step_moved h.machine e
  show ∃ c ∈ (s.step e).1.machine.mSubscribers, c.ID = ID ∧ c.isInactive = true
  generalize (s.step e).1.machine = m at moved ⊢
  generalize (s.step e).2 = log at moved
  cases moved with
  | stayed | granted => exact ⟨c, member, mine, inactive⟩
  | started | joined => exact ⟨c, subset_enlist member, mine, inactive⟩
  | departed | lastDeparted => exact left_markHandle member mine ds (.inl inactive)
  | ended reports | closed reports => simp [open'] at reports
  | reopened reports => rcases reports with ⟨rfl, -⟩ | ⟨rfl, -⟩ <;> cases open'

theorem left_unsubscribe (h : DsShape s.machine) (used : s.machine.mState ≠ .released)
    (listed : s.listed ID) : (s.step (.unsubscribe ID)).1.left ID := by
  obtain ⟨c, member, mine⟩ := id listed
  have ds := h.machine.clients c member
  have moved := step_moved h.machine (.unsubscribe ID)
  show ∃ c ∈ (s.step (.unsubscribe ID)).1.machine.mSubscribers, c.ID = ID ∧ c.isInactive = true
  generalize (s.step (.unsubscribe ID)).1.machine = m at moved ⊢
  generalize (s.step (.unsubscribe ID)).2 = log at moved
  cases moved with
  | stayed why =>
      rcases why with idle | unknown
      · exact absurd idle used
      · exact absurd listed unknown
  | departed | lastDeparted => exact left_markHandle member mine ds (.inr rfl)
  | started idle joins | joined idle joins => simp at joins
  | ended reports | closed reports => cases reports
  | reopened reports => simp at reports

theorem left_run (h : DsShape s.machine) (left : s.left ID) {es : List DsEvent}
    (waiting : ∀ e ∈ es, e.reportsRelease = false) : (final DsSystem.step s es).left ID := by
  induction es generalizing s with
  | nil => exact left
  | cons e es ih =>
      apply ih (shape_step s e h)
      · exact left_step h left (waiting e (by simp))
      · exact fun e' member => waiting e' (by simp [member])

end Left

/-! ## A handle that comes back -/

/-- A handle that unsubscribes and subscribes again before the release is reported has no active
entry, whatever it and the others did in between. -/
theorem resubscription_lost {before between : List DsEvent} {ID : UInt32} {answers : Answers}
    (used : (final DsSystem.step .new before).machine.mState ≠ .released)
    (listed : (final DsSystem.step .new before).listed ID)
    (waiting : ∀ e ∈ between, e.reportsRelease = false) (after : List DsEvent) :
    ¬ Subscribed (final DsSystem.step .new
        (before ++ .unsubscribe ID :: (between ++ [.subscribe ID answers]))) ID after := by
  intro subscribed
  apply not_holds_of_left _ _ subscribed.entry
  · exact (reached_shape _).machine
  · rw [final_append, final_cons]
    apply left_run
    · exact shape_step _ _ (reached_shape before)
    · exact left_unsubscribe (reached_shape before) used listed
    · intro e member
      rcases List.mem_append.mp member with old | new
      · exact waiting e old
      · rw [List.mem_singleton.mp new]
        rfl

def sharedCall : List DsEvent := [.subscribe 1 noAnswers, .granted, .subscribe 2 noAnswers]

theorem resubscription_lost_shared :
    ¬ Subscribed (final DsSystem.step .new
        (sharedCall ++ .unsubscribe 1 :: ([] ++ [.subscribe 1 noAnswers]))) 1 [.unsubscribe 2] :=
  resubscription_lost (by decide) (by decide) (by simp) _

/-- The handle 1 comes back and is granted; when handle 2 leaves, the data call is stopped. -/
theorem granted_call_is_stopped :
    let back := final DsSystem.step .new (sharedCall ++ [.unsubscribe 1])
    (back.step (.subscribe 1 noAnswers)).2.any (Effect.reaches 1) = true ∧
      ¬ Subscribed (back.step (.subscribe 1 noAnswers)).1 1 [.unsubscribe 2] := by
  refine ⟨by decide, fun subscribed => ?_⟩
  have kept := subscribed.kept (react DsSystem.step
    (final DsSystem.step .new (sharedCall ++ [.unsubscribe 1, .subscribe 1 noAnswers]))
    (.unsubscribe 2)) (by simp [sharedCall])
  revert kept
  decide

end VibeXperia.Proof.Agps

import Mathlib.Data.List.Induction

namespace VibeXperia.Lib

/-! ## Machines that react to one event at a time -/

section Reaction
variable {σ ε ω : Type*}

/-- One reaction of a machine: the states on both sides and what it put out. -/
structure Transition (σ ε ω : Type*) where
  before : σ
  event : ε
  outputs : List ω
  after : σ

def react (step : σ → ε → σ × List ω) (s : σ) (e : ε) : Transition σ ε ω :=
  ⟨s, e, (step s e).2, (step s e).1⟩

def final (step : σ → ε → σ × List ω) : σ → List ε → σ
  | s, [] => s
  | s, e :: es => final step (step s e).1 es

def trace (step : σ → ε → σ × List ω) : σ → List ε → List (Transition σ ε ω)
  | _, [] => []
  | s, e :: es => react step s e :: trace step (step s e).1 es

variable {step : σ → ε → σ × List ω}

@[simp] theorem final_nil (s : σ) : final step s [] = s := rfl

@[simp] theorem final_cons (s : σ) (e : ε) (es : List ε) :
    final step s (e :: es) = final step (step s e).1 es := rfl

@[simp] theorem trace_nil (s : σ) : trace step s [] = [] := rfl

@[simp] theorem trace_cons (s : σ) (e : ε) (es : List ε) :
    trace step s (e :: es) = react step s e :: trace step (step s e).1 es := rfl

theorem final_append (s : σ) (es fs : List ε) :
    final step s (es ++ fs) = final step (final step s es) fs := by
  induction es generalizing s with
  | nil => rfl
  | cons e es ih => exact ih (step s e).1

theorem trace_append (s : σ) (es fs : List ε) :
    trace step s (es ++ fs) = trace step s es ++ trace step (final step s es) fs := by
  induction es generalizing s with
  | nil => rfl
  | cons e es ih => simp [ih (step s e).1]

/-- Every reaction of a run is the last one of a shorter run. -/
theorem exists_prefix {s : σ} {es : List ε} {t : Transition σ ε ω}
    (member : t ∈ trace step s es) :
    ∃ before after, es = before ++ t.event :: after ∧
      t = react step (final step s before) t.event := by
  induction es generalizing s with
  | nil => simp at member
  | cons e es ih =>
      rcases List.mem_cons.mp member with rfl | member
      · exact ⟨[], es, rfl, rfl⟩
      · obtain ⟨before, after, rfl, same⟩ := ih member
        exact ⟨e :: before, after, rfl, same⟩

/-- The parts of a trace are the traces of the parts of the run. -/
theorem trace_eq_append {s : σ} {es : List ε} {first second : List (Transition σ ε ω)}
    (split : trace step s es = first ++ second) :
    ∃ es₁ es₂, es = es₁ ++ es₂ ∧ first = trace step s es₁ ∧
      second = trace step (final step s es₁) es₂ := by
  induction first generalizing s es with
  | nil => exact ⟨[], es, rfl, rfl, split.symm⟩
  | cons t first ih =>
      cases es with
      | nil => cases split
      | cons e es =>
          obtain ⟨rfl, later⟩ := List.cons.inj split
          obtain ⟨es₁, es₂, rfl, rfl, rfl⟩ := ih later
          exact ⟨e :: es₁, es₂, rfl, rfl, rfl⟩

theorem trace_eq_append_cons {s : σ} {es : List ε} {first second : List (Transition σ ε ω)}
    {t : Transition σ ε ω} (split : trace step s es = first ++ t :: second) :
    ∃ es₁ e es₂, es = es₁ ++ e :: es₂ ∧ first = trace step s es₁ ∧
      t = react step (final step s es₁) e ∧
      second = trace step (step (final step s es₁) e).1 es₂ := by
  obtain ⟨es₁, es₂, rfl, rfl, rest⟩ := trace_eq_append split
  cases es₂ with
  | nil => cases rest
  | cons e es₂ =>
      obtain ⟨rfl, rfl⟩ := List.cons.inj rest
      exact ⟨es₁, e, es₂, rfl, rfl, rfl, rfl⟩

theorem eq_react_of_mem {s : σ} {es : List ε} {t : Transition σ ε ω}
    (member : t ∈ trace step s es) : t = react step t.before t.event := by
  obtain ⟨before, after, -, same⟩ := exists_prefix member
  rw [same]
  rfl

theorem event_mem_of_mem {s : σ} {es : List ε} {t : Transition σ ε ω}
    (member : t ∈ trace step s es) : t.event ∈ es := by
  obtain ⟨before, after, rfl, -⟩ := exists_prefix member
  simp

/-- An invariant that also speaks of the reactions so far. -/
theorem history_invariant {inv : List (Transition σ ε ω) → σ → Prop} {allowed : ε → Prop}
    (keep : ∀ ts s e, inv ts s → allowed e → inv (ts ++ [react step s e]) (step s e).1)
    {s : σ} {es : List ε} (start : inv [] s) (run : ∀ e ∈ es, allowed e) :
    inv (trace step s es) (final step s es) := by
  induction es using List.reverseRecOn with
  | nil => exact start
  | append_singleton es e ih =>
      rw [trace_append, final_append]
      exact keep _ _ e (ih fun e' member => run e' (by simp [member])) (run e (by simp))

/-- An invariant kept by every allowed reaction holds on both sides of each reaction of a run
whose reactions are all allowed. -/
theorem invariant_of_allowed {inv : σ → Prop} {allowed : σ → ε → Prop}
    (keep : ∀ s e, inv s → allowed s e → inv (step s e).1) {s : σ} {es : List ε}
    (start : inv s) (run : ∀ t ∈ trace step s es, allowed t.before t.event) :
    inv (final step s es) ∧ ∀ t ∈ trace step s es, inv t.before ∧ inv t.after := by
  induction es generalizing s with
  | nil => simp [start]
  | cons e es ih =>
      have first := keep s e start (run (react step s e) (by simp))
      obtain ⟨last, rest⟩ := ih first fun t member => run t (by simp [member])
      refine ⟨last, fun t member => ?_⟩
      rcases List.mem_cons.mp member with rfl | member
      · exact ⟨start, first⟩
      · exact rest t member

theorem invariant {inv : σ → Prop} (keep : ∀ s e, inv s → inv (step s e).1) {s : σ}
    (start : inv s) (es : List ε) :
    inv (final step s es) ∧ ∀ t ∈ trace step s es, inv t.before ∧ inv t.after :=
  @invariant_of_allowed σ ε ω step inv (fun _ _ => True) (fun s e h _ => keep s e h) s es start
    fun _ _ => trivial

/-- A machine each of whose allowed reactions is one of another machine, seen through `view` and
`label`, runs as the other one does. -/
theorem view_run {τ δ : Type*} {step' : τ → δ → τ × List ω} {view : σ → τ} {label : ε → δ}
    {inv : σ → Prop} {allowed : σ → ε → Prop}
    (agrees : ∀ s e, inv s → allowed s e →
      step' (view s) (label e) = (view (step s e).1, (step s e).2))
    (keep : ∀ s e, inv s → allowed s e → inv (step s e).1) {s : σ} {es : List ε}
    (start : inv s) (run : ∀ t ∈ trace step s es, allowed t.before t.event) :
    final step' (view s) (es.map label) = view (final step s es) ∧
      trace step' (view s) (es.map label) = (trace step s es).map fun t =>
        ⟨view t.before, label t.event, t.outputs, view t.after⟩ := by
  induction es generalizing s with
  | nil => exact ⟨rfl, rfl⟩
  | cons e es ih =>
      have first := run (react step s e) (by simp)
      have same := agrees s e start first
      obtain ⟨last, rest⟩ := ih (keep s e start first) fun t member => run t (by simp [member])
      simp [same, last, rest, react]

def outputs (step : σ → ε → σ × List ω) (s : σ) (es : List ε) : List ω :=
  (trace step s es).flatMap Transition.outputs

theorem outputs_append (s : σ) (es fs : List ε) :
    outputs step s (es ++ fs) = outputs step s es ++ outputs step (final step s es) fs := by
  rw [outputs, trace_append, List.flatMap_append, outputs, outputs]

/-- An invariant that also speaks of what was put out, kept by every allowed reaction. -/
theorem outputs_invariant {inv : List ω → σ → Prop} {allowed : σ → ε → Prop}
    (keep : ∀ outs s e, inv outs s → allowed s e → inv (outs ++ (step s e).2) (step s e).1)
    {s : σ} {es : List ε} (start : inv [] s)
    (run : ∀ t ∈ trace step s es, allowed t.before t.event) :
    inv (outputs step s es) (final step s es) := by
  induction es using List.reverseRecOn with
  | nil => exact start
  | append_singleton es e ih =>
      rw [trace_append] at run
      have last := run (react step (final step s es) e) (by simp)
      have before := ih fun t member => run t (List.mem_append_left _ member)
      rw [outputs_append, final_append]
      have now := keep _ _ e before last
      rw [← List.append_nil (step (final step s es) e).2] at now
      exact now

/-- What is put out stays good exactly as long as all reactions are allowed, if that is so of one
reaction of a machine that keeps its invariant anyway. -/
theorem outputs_iff {inv : σ → Prop} {permitted : ε → Prop} {good : List ω → σ → Prop}
    {allowed : σ → ε → Prop} (keep : ∀ s e, inv s → permitted e → inv (step s e).1)
    (meets : ∀ outs s e, inv s → permitted e → good outs s →
      (good (outs ++ (step s e).2) (step s e).1 ↔ allowed s e))
    {s : σ} {es : List ε} (start : inv s) (first : good [] s) (run : ∀ e ∈ es, permitted e) :
    (∀ before after, es = before ++ after → good (outputs step s before) (final step s before)) ↔
      ∀ t ∈ trace step s es, allowed t.before t.event := by
  induction es using List.reverseRecOn with
  | nil =>
      refine iff_of_true ?_ (by simp)
      intro before after split
      obtain ⟨rfl, -⟩ := List.append_eq_nil_iff.mp split.symm
      exact first
  | append_singleton es e ih =>
      have earlier : ∀ e' ∈ es, permitted e' := fun e' member => run e' (by simp [member])
      have last := run e (by simp)
      have holds : inv (final step s es) := by
        apply @history_invariant σ ε ω step (fun _ s => inv s) permitted _ s es start earlier
        exact fun _ s e => keep s e
      have whole (before : good (outputs step s es) (final step s es)) :
          good (outputs step s (es ++ [e])) (final step s (es ++ [e])) ↔
            allowed (final step s es) e := by
        have now : outputs step (final step s es) [e] = (step (final step s es) e).2 :=
          List.append_nil _
        rw [outputs_append, final_append, now]
        exact meets _ _ e holds last before
      rw [trace_append, List.forall_mem_append, ← ih earlier, trace_cons, trace_nil,
        List.forall_mem_singleton]
      constructor
      · intro all
        have shorter (before after) (split : es = before ++ after) :=
          all before (after ++ [e]) (by rw [split, List.append_assoc])
        refine ⟨shorter, (whole (shorter es [] (List.append_nil _).symm)).mp ?_⟩
        exact all (es ++ [e]) [] (List.append_nil _).symm
      · rintro ⟨shorter, allowed⟩ before after split
        induction after using List.reverseRecOn with
        | nil =>
            rw [List.append_nil] at split
            rw [← split]
            exact (whole (shorter es [] (List.append_nil _).symm)).mpr allowed
        | append_singleton after e' _ =>
            rw [← List.append_assoc] at split
            obtain ⟨same, -⟩ := List.append_inj' split rfl
            exact shorter before after same

/-- An element of a list that grew is the new one or stood there before. -/
theorem split_snoc {l before after : List ω} {x y : ω} (split : l ++ [x] = before ++ y :: after) :
    before = l ∧ y = x ∧ after = [] ∨ ∃ rest, after = rest ++ [x] ∧ l = before ++ y :: rest := by
  rcases List.eq_nil_or_concat after with rfl | ⟨rest, z, rfl⟩
  · obtain ⟨rfl, same⟩ := List.append_inj' split rfl
    cases same
    exact .inl ⟨rfl, rfl, rfl⟩
  · rw [List.concat_eq_append, ← List.cons_append, ← List.append_assoc] at split
    obtain ⟨rfl, same⟩ := List.append_inj' split rfl
    cases same
    exact .inr ⟨rest, List.concat_eq_append, rfl⟩

/-- `P` holds of each element with those in front of it. -/
def Throughout (P : List ω → ω → Prop) (l : List ω) : Prop :=
  ∀ before x after, l = before ++ x :: after → P before x

theorem throughout_nil {P : List ω → ω → Prop} : Throughout P [] := by
  intro before x after split
  cases before <;> cases split

theorem Throughout.snoc {P : List ω → ω → Prop} {l : List ω} {x : ω} (earlier : Throughout P l)
    (last : P l x) : Throughout P (l ++ [x]) := by
  intro before y after split
  rcases split_snoc split with ⟨rfl, rfl, -⟩ | ⟨rest, -, same⟩
  · exact last
  · exact earlier before y rest same

/-- A run is good throughout exactly when all of it is allowed, if that is so of one reaction and
the invariant lasts as long. -/
theorem run_iff {inv : σ → Prop} {allowed : σ → ε → Prop} {good : Transition σ ε ω → Prop}
    (meets : ∀ s e, inv s → (good (react step s e) ↔ allowed s e))
    (keep : ∀ s e, inv s → allowed s e → inv (step s e).1) {s : σ} {es : List ε}
    (start : inv s) :
    (∀ t ∈ trace step s es, good t) ↔ ∀ t ∈ trace step s es, allowed t.before t.event := by
  induction es generalizing s with
  | nil => simp
  | cons e es ih =>
      simp only [trace_cons, List.forall_mem_cons]
      rw [meets s e start]
      apply and_congr_right
      intro first
      exact ih (keep s e start first)

end Reaction

/-! ## Labelled steps that may be taken in several ways -/

section Steps
variable {σ τ ℓ : Type*}

/-- `Run step s ls t`: from `s` the steps labelled `ls`, oldest first, lead to `t`. -/
inductive Run (step : σ → ℓ → σ → Prop) (s : σ) : List ℓ → σ → Prop
  | refl : Run step s [] s
  | tail {ls t l u} : Run step s ls t → step t l u → Run step s (ls ++ [l]) u

variable {step : σ → ℓ → σ → Prop}

theorem Run.single {s t : σ} {l : ℓ} (first : step s l t) : Run step s [l] t :=
  .tail .refl first

theorem Run.trans {s t u : σ} {ls ms : List ℓ} (first : Run step s ls t)
    (second : Run step t ms u) : Run step s (ls ++ ms) u := by
  induction second with
  | refl => simpa using first
  | tail _ last ih => simpa [← List.append_assoc] using ih.tail last

theorem Run.invariant {inv : List ℓ → σ → Prop} {s t : σ} {ls : List ℓ}
    (run : Run step s ls t) (start : inv [] s)
    (keep : ∀ ls t l u, inv ls t → step t l u → inv (ls ++ [l]) u) : inv ls t := by
  induction run with
  | refl => exact start
  | tail _ last ih => exact keep _ _ _ _ ih last

end Steps

end VibeXperia.Lib

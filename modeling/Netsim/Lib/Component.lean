import Netsim.Lib.Run

/-!
# Parts of a system

A part of a system has a state within that of the system and steps of its own. A step of the system
is a step of the part, or leaves it alone. So every run of the system is a run of the part
(`exec_trace`), what the part takes at each step is what it takes in this run (`eq_append_trace`),
and what holds of the states and events of the system at each step carries over to those of the part
(`execAlways_trace`).
-/

/-- A part of the system with the given step function. -/
structure Component {σ ε τ η : Type*} (step : σ → ε → Option σ) (partStep : τ → η → Option τ) where
  /-- The state of the part. -/
  state : σ → τ
  /-- The event of the part in a step of the system, if the step concerns it. -/
  part : σ → ε → Option η
  /-- The part takes the step, or is left alone. -/
  step_part : ∀ s e s', step s e = some s' →
    Run.exec partStep (state s) (part s e).toList = some (state s')

namespace Component

variable {σ ε τ η : Type*} {step : σ → ε → Option σ} {partStep : τ → η → Option τ}
  (c : Component step partStep)

/-- The events of the part in a run of the system. -/
def trace : σ → List ε → List η
  | _, [] => []
  | s, e :: es => (c.part s e).toList ++ (step s e).elim [] fun s' => trace s' es

variable {c} {s t u : σ} {es : List ε} {e : ε}

theorem trace_concat (h : Run.exec step s es = some t) :
    c.trace s (es ++ [e]) = c.trace s es ++ (c.part t e).toList := by
  induction es generalizing s with
  | nil =>
      cases h
      cases hstep : step t e <;> simp [trace, hstep]
  | cons f es ih =>
      rw [Run.exec_cons, Option.bind_eq_some_iff] at h
      obtain ⟨u, hu, h⟩ := h
      simp only [List.cons_append, trace, hu, Option.elim_some, ih h, List.append_assoc]

/-- A step of the part is taken in a step of the system. -/
theorem exists_of_trace_eq {fs gs : List η} {f : η} (h : Run.exec step s es = some t)
    (htrace : c.trace s es = fs ++ f :: gs) : ∃ pre e post u v, es = pre ++ e :: post ∧
      Run.exec step s pre = some u ∧ c.trace s pre = fs ∧ c.part u e = some f ∧
        step u e = some v ∧ Run.exec step v post = some t ∧ c.trace v post = gs := by
  induction es generalizing s fs with
  | nil => simp [trace] at htrace
  | cons e es ih =>
      rw [Run.exec_cons, Option.bind_eq_some_iff] at h
      obtain ⟨v, hv, h⟩ := h
      rw [trace, hv, Option.elim_some] at htrace
      have hlater {fs' : List η} (hfs : (c.part s e).toList ++ fs' = fs)
          (hrest : c.trace v es = fs' ++ f :: gs) : ∃ pre e' post u w, e :: es = pre ++ e' :: post ∧
            Run.exec step s pre = some u ∧ c.trace s pre = fs ∧ c.part u e' = some f ∧
              step u e' = some w ∧ Run.exec step w post = some t ∧ c.trace w post = gs := by
        obtain ⟨pre, e', post, u, w, rfl, hpre, hfs', hstep⟩ := ih h hrest
        refine ⟨e :: pre, e', post, u, w, rfl, ?_, ?_, hstep⟩
        · rw [Run.exec_cons, hv, Option.bind_some, hpre]
        · rw [trace, hv, Option.elim_some, hfs', hfs]
      cases hpart : c.part s e with
      | none => exact hlater (by rw [hpart]; rfl) (by simpa [hpart] using htrace)
      | some g =>
          rw [hpart, Option.toList_some, List.singleton_append] at htrace
          cases fs with
          | nil =>
              rw [List.nil_append, List.cons.injEq] at htrace
              obtain ⟨rfl, htrace⟩ := htrace
              exact ⟨[], e, es, s, v, rfl, rfl, rfl, hpart, hv, h, htrace⟩
          | cons f' fs =>
              rw [List.cons_append, List.cons.injEq] at htrace
              obtain ⟨rfl, htrace⟩ := htrace
              exact hlater (by rw [hpart]; rfl) htrace

/-- A step of the system that concerns the part is taken by it. -/
theorem mem_trace {f : η} (h : Run.exec step s es = some t) (he : e ∈ es)
    (hpart : ∀ u, c.part u e = some f) : f ∈ c.trace s es := by
  induction es generalizing s with
  | nil => simp at he
  | cons e' es ih =>
      rw [Run.exec_cons, Option.bind_eq_some_iff] at h
      obtain ⟨v, hv, h⟩ := h
      rw [trace, hv, Option.elim_some, List.mem_append]
      rcases List.mem_cons.1 he with rfl | he
      · exact .inl (by simp [hpart])
      · exact .inr (ih h he)

/-- Every run of the system is a run of the part. -/
theorem exec_trace (h : Run.exec step s es = some t) :
    Run.exec partStep (c.state s) (c.trace s es) = some (c.state t) := by
  induction es generalizing s with
  | nil =>
      cases h
      rfl
  | cons e es ih =>
      rw [Run.exec_cons, Option.bind_eq_some_iff] at h
      obtain ⟨u, hu, h⟩ := h
      rw [trace, hu, Option.elim_some, Run.exec_append, c.step_part s e u hu, Option.bind_some]
      exact ih h

/-- What the part takes at each step is what it takes in its run. -/
theorem eq_append_trace {α : Type*} (taken : σ → List α) {f : List η → List α}
    (happend : ∀ fs gs, f (fs ++ gs) = f fs ++ f gs)
    (htaken : ∀ s e s', step s e = some s' → taken s' = taken s ++ f (c.part s e).toList)
    (h : Run.exec step s es = some t) : taken t = taken s ++ f (c.trace s es) := by
  induction es using List.reverseRecOn generalizing t with
  | nil =>
      cases h
      have hnil : f [] = f [] ++ f [] := happend [] []
      rw [trace, List.self_eq_append_right.1 hnil, List.append_nil]
  | append_singleton es e ih =>
      obtain ⟨u, hu, hstep⟩ := (Run.exec_concat_eq_some step s).1 h
      rw [htaken u e t hstep, ih hu, trace_concat hu, happend, List.append_assoc]

/-- A condition on the steps of the part, where it takes one. -/
def Guarded (c : Component step partStep) (H : τ → η → Prop) (s : σ) (e : ε) : Prop :=
  ∀ f ∈ c.part s e, H (c.state s) f

instance (H : τ → η → Prop) [∀ u f, Decidable (H u f)] : Decidable (c.Guarded H s e) :=
  inferInstanceAs (Decidable (∀ f ∈ c.part s e, H (c.state s) f))

/-- A condition that is met along the run of the system is met along that of the part. -/
theorem execAlways_trace {H : τ → η → Prop} (hes : Run.ExecAlways step s (c.Guarded H) es)
    (h : Run.exec step s es = some t) : Run.ExecAlways partStep (c.state s) H (c.trace s es) := by
  induction es using List.reverseRecOn generalizing t with
  | nil =>
      intro pre f post u heq
      simp [trace] at heq
  | append_singleton es e ih =>
      obtain ⟨u, hu, hstep⟩ := (Run.exec_concat_eq_some step s).1 h
      have hpart := ih (hes.of_append step s) hu
      rw [trace_concat hu]
      cases hf : c.part u e with
      | none => simpa using hpart
      | some f =>
          refine hpart.concat partStep _ fun v hv => ?_
          cases (exec_trace hu).symm.trans hv
          exact hes es e [] u rfl hu f hf

end Component

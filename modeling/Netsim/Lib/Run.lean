import Mathlib.Data.List.Basic
import Mathlib.Data.List.Induction

/-!
# Runs of deterministic transition systems

A system is a step function on states, either total (`σ → ε → σ`) or partial
(`σ → ε → Option σ`, where `none` is a step after which the system does not go on).
`run` and `exec` apply a list of events, the first event first.

The induction rules speak about the events handled so far together with the state they
lead to, so that an invariant may relate the state to the whole history. A guard is a
condition on the state before a step and the event; `Always` says that it holds at every
step of a run.
-/

namespace Run

variable {σ ε : Type*}

/-- Of two places in a list of events, the first comes before the second, or they are the same, or
the second comes before the first. -/
theorem places {pre post pre' post' : List ε} {e e' : ε}
    (h : pre ++ e :: post = pre' ++ e' :: post') :
    (∃ mid, pre' = pre ++ e :: mid ∧ post = mid ++ e' :: post') ∨
      (pre = pre' ∧ e = e' ∧ post = post') ∨
      ∃ mid, pre = pre' ++ e' :: mid ∧ post' = mid ++ e :: post := by
  rcases List.append_eq_append_iff.1 h with ⟨as, rfl, has⟩ | ⟨bs, rfl, hbs⟩
  · cases as with
    | nil =>
      obtain ⟨rfl, rfl⟩ := List.cons_eq_cons.1 has
      exact .inr (.inl ⟨by simp, rfl, rfl⟩)
    | cons a as =>
      obtain ⟨rfl, rfl⟩ := List.cons_eq_cons.1 has
      exact .inl ⟨as, rfl, rfl⟩
  · cases bs with
    | nil =>
      obtain ⟨rfl, rfl⟩ := List.cons_eq_cons.1 hbs
      exact .inr (.inl ⟨by simp, rfl, rfl⟩)
    | cons b bs =>
      obtain ⟨rfl, rfl⟩ := List.cons_eq_cons.1 hbs
      exact .inr (.inr ⟨bs, rfl, rfl⟩)

/-- A place in an extended list of events is that of the new event, or one in the old list. -/
theorem place_concat {es pre post : List ε} {e f : ε} : es ++ [e] = pre ++ f :: post ↔
    (pre = es ∧ f = e ∧ post = []) ∨ ∃ mid, post = mid ++ [e] ∧ es = pre ++ f :: mid := by
  constructor
  · intro heq
    rcases List.eq_nil_or_concat post with rfl | ⟨mid, g, rfl⟩
    · obtain ⟨rfl, hfe⟩ := List.append_inj' heq rfl
      cases hfe
      exact .inl ⟨rfl, rfl, rfl⟩
    · have hsplit : es ++ [e] = (pre ++ f :: mid) ++ [g] := by simpa using heq
      obtain ⟨hes, hge⟩ := List.append_inj' hsplit rfl
      cases hge
      exact .inr ⟨mid, List.concat_eq_append, hes⟩
  · rintro (⟨rfl, rfl, rfl⟩ | ⟨mid, rfl, rfl⟩)
    · rfl
    · simp

/-- If an event satisfies `p`, there is a last one that does. -/
theorem exists_last {p : ε → Prop} {es : List ε} (h : ∃ e ∈ es, p e) :
    ∃ pre e post, es = pre ++ e :: post ∧ p e ∧ ∀ f ∈ post, ¬ p f := by
  induction es using List.reverseRecOn with
  | nil => simp at h
  | append_singleton es e ih =>
      -- it is the last event of all, or the last one before it
      by_cases he : p e
      · exact ⟨es, e, [], rfl, he, by simp⟩
      · have hes : ∃ f ∈ es, p f := by
          obtain ⟨f, hf, hpf⟩ := h
          rcases List.mem_append.1 hf with hf | hf
          · exact ⟨f, hf, hpf⟩
          · obtain rfl : f = e := by simpa using hf
            exact absurd hpf he
        obtain ⟨pre, f, post, rfl, hf, hpost⟩ := ih hes
        refine ⟨pre, f, post ++ [e], by simp, hf, fun g hg => ?_⟩
        rcases List.mem_append.1 hg with hg | hg
        · exact hpost g hg
        · obtain rfl : g = e := by simpa using hg
          exact he

/-- An event that satisfies `p` and is not the last one comes before the last one. -/
theorem exists_eq_append_of_last {p : ε → Prop} {pre post pre' post' : List ε} {e e' : ε}
    (heq : pre ++ e :: post = pre' ++ e' :: post') (hlast : ∀ f ∈ post, ¬ p f) (he' : p e')
    (hlater : ∃ f ∈ post', p f) : ∃ mid, pre = pre' ++ e' :: mid := by
  rcases places heq with ⟨mid, -, rfl⟩ | ⟨-, -, rfl⟩ | ⟨mid, hmid, -⟩
  · -- `e'` would come after the last one
    exact absurd he' (hlast e' (by simp))
  · -- the place is the same one, and one comes after it
    obtain ⟨f, hf, hpf⟩ := hlater
    exact absurd hpf (hlast f hf)
  · exact ⟨mid, hmid⟩

/-! ### Total systems -/

section Total

variable (step : σ → ε → σ) (s : σ)

/-- The state reached from `s` by the events `es`. -/
def run (es : List ε) : σ := es.foldl step s

@[simp]
theorem run_nil : run step s [] = s := rfl

@[simp]
theorem run_concat (es : List ε) (e : ε) : run step s (es ++ [e]) = step (run step s es) e := by
  simp [run]

theorem run_append (es fs : List ε) : run step s (es ++ fs) = run step (run step s es) fs := by
  simp [run]

/-- The guard `G` holds at every step of the run. -/
def Always (G : σ → ε → Prop) (es : List ε) : Prop :=
  ∀ pre e post, es = pre ++ e :: post → G (run step s pre) e

theorem always_nil (G : σ → ε → Prop) : Always step s G [] := by
  intro pre e post h
  simp at h

/-- A guard holds along an extended run iff it held before and holds at the last step. -/
theorem always_concat (G : σ → ε → Prop) (es : List ε) (e : ε) :
    Always step s G (es ++ [e]) ↔ Always step s G es ∧ G (run step s es) e := by
  constructor
  · intro h
    refine ⟨?_, h es e [] rfl⟩
    rintro pre f post rfl
    exact h pre f (post ++ [e]) (by simp)
  · rintro ⟨hes, he⟩ pre f post heq
    rcases place_concat.1 heq with ⟨rfl, rfl, -⟩ | ⟨mid, -, rfl⟩
    · exact he
    · exact hes pre f mid rfl

theorem Always.of_append {G : σ → ε → Prop} {es fs : List ε} (h : Always step s G (es ++ fs)) :
    Always step s G es := by
  rintro pre e post rfl
  exact h pre e (post ++ fs) (by simp)

theorem Always.of_append_right {G : σ → ε → Prop} {es fs : List ε}
    (h : Always step s G (es ++ fs)) : Always step (run step s es) G fs := by
  rintro pre e post rfl
  have hstep := h (es ++ pre) e post (by simp)
  rwa [run_append] at hstep

theorem always_cons (G : σ → ε → Prop) (e : ε) (es : List ε) :
    Always step s G (e :: es) ↔ G s e ∧ Always step (step s e) G es := by
  constructor
  · intro h
    refine ⟨h [] e es rfl, ?_⟩
    rintro pre f post rfl
    exact h (e :: pre) f post rfl
  · rintro ⟨he, hes⟩ (_ | ⟨e', pre⟩) f post heq
    · obtain ⟨rfl, rfl⟩ := List.cons_eq_cons.1 heq
      exact he
    · obtain ⟨rfl, rfl⟩ := List.cons_eq_cons.1 heq
      exact hes pre f post rfl

/-- A decidable guard can be tested along a run. -/
def decidableAlways (G : σ → ε → Prop) [∀ s e, Decidable (G s e)] :
    (s : σ) → (es : List ε) → Decidable (Always step s G es)
  | s, [] => .isTrue (always_nil step s G)
  | s, e :: es =>
      have := decidableAlways G (step s e) es
      decidable_of_iff _ (always_cons step s G e es).symm

instance (G : σ → ε → Prop) [∀ s e, Decidable (G s e)] (es : List ε) :
    Decidable (Always step s G es) := decidableAlways step G s es

/-- A record that is kept along a run leaves the run alone. -/
theorem run_record_fst {τ : Type*} (record : σ → τ → ε → τ) (t : τ) (es : List ε) :
    (run (fun p e => (step p.1 e, record p.1 p.2 e)) (s, t) es).1 = run step s es := by
  induction es using List.reverseRecOn with
  | nil => rfl
  | append_singleton es e ih => rw [run_concat, run_concat, ih]

/-- Induction along a run whose steps all meet the guard `G`. -/
theorem run_induction {G : σ → ε → Prop} {I : List ε → σ → Prop} (hinit : I [] s)
    (hstep : ∀ es e t, I es t → G t e → I (es ++ [e]) (step t e)) :
    ∀ es, Always step s G es → I es (run step s es) := by
  intro es
  -- the induction appends events, so that the invariant sees the whole history
  induction es using List.reverseRecOn with
  | nil => intro _; exact hinit
  | append_singleton es e ih =>
    intro h
    obtain ⟨hes, he⟩ := (always_concat step s G es e).1 h
    rw [run_concat]
    exact hstep es e _ (ih hes) he

/-- Induction along every run. -/
theorem run_invariant {I : List ε → σ → Prop} (hinit : I [] s)
    (hstep : ∀ es e t, I es t → I (es ++ [e]) (step t e)) (es : List ε) :
    I es (run step s es) :=
  run_induction step s (G := fun _ _ => True) hinit (fun es e t ht _ => hstep es e t ht) es
    (fun _ _ _ _ => trivial)

end Total

/-! ### Partial systems -/

section Partial

variable (step : σ → ε → Option σ) (s : σ)

/-- The state reached from `s` by the events `es`, if every step goes on. -/
def exec (es : List ε) : Option σ := es.foldlM step s

@[simp]
theorem exec_cons (e : ε) (es : List ε) :
    exec step s (e :: es) = (step s e).bind fun t => exec step t es := by
  simp [exec, List.foldlM_cons, Option.bind_eq_bind]

theorem exec_append (es fs : List ε) :
    exec step s (es ++ fs) = (exec step s es).bind fun t => exec step t fs := by
  simp [exec, List.foldlM_append, Option.bind_eq_bind]

theorem exec_concat (es : List ε) (e : ε) :
    exec step s (es ++ [e]) = (exec step s es).bind fun t => step t e := by
  simp [exec, List.foldlM_append, Option.bind_eq_bind]

/-- A run that went on through an extension went on before it. -/
theorem exec_append_eq_some {es fs : List ε} {u : σ} :
    exec step s (es ++ fs) = some u ↔ ∃ t, exec step s es = some t ∧ exec step t fs = some u := by
  rw [exec_append, Option.bind_eq_some_iff]

theorem exec_concat_eq_some {es : List ε} {e : ε} {u : σ} :
    exec step s (es ++ [e]) = some u ↔ ∃ t, exec step s es = some t ∧ step t e = some u := by
  rw [exec_concat, Option.bind_eq_some_iff]

/-- The states before and after an event of a run that went on. -/
theorem exec_middle_eq_some {pre post : List ε} {e : ε} {w : σ} :
    exec step s (pre ++ e :: post) = some w ↔
      ∃ t u, exec step s pre = some t ∧ step t e = some u ∧ exec step u post = some w := by
  simp only [exec_append_eq_some, exec_cons, Option.bind_eq_some_iff]
  constructor
  · rintro ⟨t, ht, u, hu, hw⟩
    exact ⟨t, u, ht, hu, hw⟩
  · rintro ⟨t, u, ht, hu, hw⟩
    exact ⟨t, ht, u, hu, hw⟩

/-- A record that is kept along a run leaves the run alone. -/
theorem exec_record_fst {τ : Type*} (record : σ → τ → ε → τ) (t : τ) (es : List ε) :
    (exec (fun p e => (step p.1 e).map fun u => (u, record p.1 p.2 e)) (s, t) es).map Prod.fst =
      exec step s es := by
  induction es generalizing s t with
  | nil => rfl
  | cons e es ih =>
    rw [exec_cons, exec_cons]
    cases step s e with
    | none => rfl
    | some u => exact ih u (record s t e)

/-- If each event can be handled in every state, the run goes on. -/
theorem exists_exec {es : List ε} (h : ∀ e ∈ es, ∀ t, ∃ u, step t e = some u) :
    ∃ t, exec step s es = some t := by
  induction es generalizing s with
  | nil => exact ⟨s, rfl⟩
  | cons e es ih =>
    obtain ⟨he, hes⟩ := List.forall_mem_cons.1 h
    obtain ⟨t, ht⟩ := he s
    rw [exec_cons, ht, Option.bind_some]
    exact ih t hes

/-- The guard `G` holds at every step of the run that is reached. -/
def ExecAlways (G : σ → ε → Prop) (es : List ε) : Prop :=
  ∀ pre e post t, es = pre ++ e :: post → exec step s pre = some t → G t e

theorem ExecAlways.of_append {G : σ → ε → Prop} {es fs : List ε}
    (h : ExecAlways step s G (es ++ fs)) : ExecAlways step s G es := by
  rintro pre e post t rfl ht
  exact h pre e (post ++ fs) t (by simp) ht

theorem ExecAlways.of_append_right {G : σ → ε → Prop} {es fs : List ε} {t : σ}
    (h : ExecAlways step s G (es ++ fs)) (ht : exec step s es = some t) :
    ExecAlways step t G fs := by
  rintro pre e post u rfl hu
  exact h (es ++ pre) e post u (by simp) ((exec_append_eq_some step s).2 ⟨t, ht, hu⟩)

theorem ExecAlways.concat {G : σ → ε → Prop} {es : List ε} {e : ε} (h : ExecAlways step s G es)
    (he : ∀ t, exec step s es = some t → G t e) : ExecAlways step s G (es ++ [e]) := by
  intro pre f post t heq ht
  rcases place_concat.1 heq with ⟨rfl, rfl, -⟩ | ⟨mid, -, rfl⟩
  · exact he t ht
  · exact h pre f mid t rfl ht

theorem execAlways_cons {G : σ → ε → Prop} {e : ε} {es : List ε} (he : G s e)
    (hes : ∀ t, step s e = some t → ExecAlways step t G es) : ExecAlways step s G (e :: es) := by
  -- the first step is the one that was added, and every other one is a step of the rest
  rintro (_ | ⟨e', pre⟩) f post t heq ht
  · cases heq
    cases ht
    exact he
  · obtain ⟨rfl, rfl⟩ := List.cons_eq_cons.1 heq
    rw [exec_cons, Option.bind_eq_some_iff] at ht
    obtain ⟨u, hu, ht⟩ := ht
    exact hes u hu pre f post t rfl ht

/-- Run the steps and test a decidable guard at each. -/
def checkAlways (G : σ → ε → Prop) [∀ s e, Decidable (G s e)] : σ → List ε → Bool
  | _, [] => true
  | s, e :: es => decide (G s e) && (step s e).all fun t => checkAlways G t es

/-- A guard that was tested along a run holds along it. -/
theorem execAlways_of_check {G : σ → ε → Prop} [∀ s e, Decidable (G s e)] {es : List ε}
    (h : checkAlways step G s es) : ExecAlways step s G es := by
  induction es generalizing s with
  | nil => rintro pre e post t heq; simp at heq
  | cons e es ih =>
    simp only [checkAlways, Bool.and_eq_true, decide_eq_true_eq] at h
    refine execAlways_cons step s h.1 fun t ht => ih t ?_
    have hall := h.2
    rwa [ht, Option.all_some] at hall

/-- Induction along a run whose steps all meet the guard, and which goes on because of the
invariant. `P` is what is assumed of the events, for instance that they are well formed; it
must hold of every prefix. -/
theorem exec_induction {G : σ → ε → Prop} {P : List ε → Prop} {I : List ε → σ → Prop}
    (hpre : ∀ es e, P (es ++ [e]) → P es) (hinit : I [] s)
    (hstep : ∀ es e t, P (es ++ [e]) → I es t → G t e → ∃ u, step t e = some u ∧ I (es ++ [e]) u) :
    ∀ es, P es → ExecAlways step s G es → ∃ t, exec step s es = some t ∧ I es t := by
  intro es
  induction es using List.reverseRecOn with
  | nil => exact fun _ _ => ⟨s, rfl, hinit⟩
  | append_singleton es e ih =>
    intro hP h
    -- the run before the last event is covered by the induction hypothesis
    obtain ⟨t, ht, hI⟩ := ih (hpre es e hP) (h.of_append step s)
    obtain ⟨u, hu, hI'⟩ := hstep es e t hP hI (h es e [] t rfl ht)
    exact ⟨u, by rw [exec_concat, ht, Option.bind_some, hu], hI'⟩

/-- Induction along every run that goes on. -/
theorem exec_invariant {I : List ε → σ → Prop} (hinit : I [] s)
    (hstep : ∀ es e t u, I es t → step t e = some u → I (es ++ [e]) u) :
    ∀ es t, exec step s es = some t → I es t := by
  intro es
  induction es using List.reverseRecOn with
  | nil =>
    intro t h
    cases h
    exact hinit
  | append_singleton es e ih =>
    intro u h
    obtain ⟨t, hes, he⟩ := (exec_concat_eq_some step s).1 h
    exact hstep es e t u (ih t hes) he

/-- Induction along a run that goes on and whose steps all meet the guard. -/
theorem exec_guarded_invariant {G : σ → ε → Prop} {I : σ → Prop} (hinit : I s)
    (hstep : ∀ e t u, I t → G t e → step t e = some u → I u) :
    ∀ es t, exec step s es = some t → ExecAlways step s G es → I t := by
  intro es
  induction es using List.reverseRecOn with
  | nil =>
    intro t h _
    cases h
    exact hinit
  | append_singleton es e ih =>
    intro u h hguard
    obtain ⟨t, ht, hu⟩ := (exec_concat_eq_some step s).1 h
    exact hstep e t u (ih t ht (hguard.of_append step s)) (hguard es e [] t rfl ht) hu

/-- A total system goes on. -/
theorem exec_total (step : σ → ε → σ) (s : σ) (es : List ε) :
    exec (fun s e => some (step s e)) s es = some (run step s es) := by
  induction es generalizing s with
  | nil => rfl
  | cons e es ih => simp [ih, run]

theorem always_of_execAlways {step : σ → ε → σ} {s : σ} {G : σ → ε → Prop} {es : List ε}
    (h : ExecAlways (fun s e => some (step s e)) s G es) : Always step s G es :=
  fun pre e post heq => h pre e post _ heq (exec_total step s pre)

end Partial

end Run

import Netsim.Lib.Run

/-!
# The last write

A place of the state is written by some events of a run, and kept by the others. It holds what the
last of them wrote (`Place.eq_written`), or still its initial value if there is none
(`Place.eq_or_exists`). Whether an event writes may depend on the state.
-/

namespace Run

variable {σ ε α : Type*}

/-- The events that write to a place, and what they write. -/
structure Place (step : σ → ε → Option σ) (writes : σ → ε → Prop) (value : σ → α)
    (written : σ → ε → α) : Prop where
  /-- Some events write. -/
  write : ∀ {s e t}, step s e = some t → writes s e → value t = written s e
  /-- The others do not. -/
  keep : ∀ {s e t}, step s e = some t → ¬ writes s e → value t = value s

/-- The last event that writes is `e`, after `pre` and in the state `t`. -/
structure LastWrite (step : σ → ε → Option σ) (s : σ) (writes : σ → ε → Prop) (es pre : List ε)
    (e : ε) (t : σ) : Prop where
  /-- The state in which it writes. -/
  state : exec step s pre = some t
  /-- It writes. -/
  write : writes t e
  /-- What comes after it does not. -/
  last : ∃ post, es = pre ++ e :: post ∧ ∀ mid f later u, post = mid ++ f :: later →
    exec step s (pre ++ e :: mid) = some u → ¬ writes u f

section LastWrite

variable {step : σ → ε → Option σ} {s t u : σ} {writes : σ → ε → Prop} {es pre : List ε} {e f : ε}

/-- The last write of a longer run. -/
theorem lastWrite_concat (hs : exec step s es = some u) :
    LastWrite step s writes (es ++ [f]) pre e t ↔ pre = es ∧ e = f ∧ t = u ∧ writes u f ∨
      LastWrite step s writes es pre e t ∧ ¬ writes u f := by
  constructor
  · rintro ⟨ht, hwrites, post, hes, hlast⟩
    rcases place_concat.1 hes with ⟨rfl, rfl, rfl⟩ | ⟨mid, rfl, rfl⟩
    · obtain rfl := Option.some_inj.1 (hs.symm.trans ht)
      exact .inl ⟨rfl, rfl, rfl, hwrites⟩
    · refine .inr ⟨⟨ht, hwrites, mid, rfl, fun mid' g later v hmid hv => ?_⟩,
        hlast mid f [] u rfl hs⟩
      exact hlast mid' g (later ++ [f]) v (by simp [hmid]) hv
  · rintro (⟨rfl, rfl, rfl, hwrites⟩ | ⟨⟨ht, hwrites, post, rfl, hlast⟩, hf⟩)
    · exact ⟨hs, hwrites, [], rfl, by simp⟩
    · refine ⟨ht, hwrites, post ++ [f], by simp, fun mid g later v hpost hv => ?_⟩
      rcases place_concat.1 hpost with ⟨rfl, rfl, rfl⟩ | ⟨mid', rfl, rfl⟩
      · obtain rfl := Option.some_inj.1 (hs.symm.trans hv)
        exact hf
      · exact hlast mid g mid' v rfl hv

/-- Its place in the run. -/
theorem LastWrite.before (h : LastWrite step s writes es pre e t) : pre ++ [e] <+: es := by
  obtain ⟨post, rfl, -⟩ := h.last
  exact ⟨post, by simp⟩

/-- No write comes after it. -/
theorem LastWrite.length_le {pre' : List ε} {e' : ε} {t' : σ}
    (h : LastWrite step s writes es pre e t) (hplace : pre' ++ [e'] <+: es)
    (ht : exec step s pre' = some t') (hwrites : writes t' e') : pre'.length ≤ pre.length := by
  obtain ⟨post, rfl, hlast⟩ := h.last
  obtain ⟨post', hes⟩ := hplace
  rw [List.append_assoc, List.singleton_append] at hes
  rcases places hes with ⟨mid, rfl, rfl⟩ | ⟨rfl, -, -⟩ | ⟨mid, rfl, rfl⟩
  · simp
  · exact Nat.le_refl _
  · exact absurd hwrites (hlast mid e' post' t' rfl ht)

variable {value : σ → α} {written : σ → ε → α}

/-- The place holds what was written last. -/
theorem Place.eq_written (hplace : Place step writes value written)
    (h : LastWrite step s writes es pre e t) (hs : exec step s es = some u) :
    value u = written t e := by
  induction es using List.reverseRecOn generalizing u with
  | nil =>
      obtain ⟨post, hes, -⟩ := h.last
      simp at hes
  | append_singleton es f ih =>
      obtain ⟨v, hv, hstep⟩ := (exec_concat_eq_some step s).1 hs
      rcases (lastWrite_concat hv).1 h with ⟨rfl, rfl, rfl, hwrites⟩ | ⟨h, hf⟩
      · exact hplace.write hstep hwrites
      · rw [hplace.keep hstep hf, ih h hv]

/-- If nothing was written, it holds its initial value. -/
theorem Place.eq_or_exists (hplace : Place step writes value written)
    (hs : exec step s es = some u) : value u = value s ∨
      ∃ pre e t, LastWrite step s writes es pre e t ∧ value u = written t e := by
  induction es using List.reverseRecOn generalizing u with
  | nil =>
      cases hs
      exact .inl rfl
  | append_singleton es f ih =>
      obtain ⟨v, hv, hstep⟩ := (exec_concat_eq_some step s).1 hs
      by_cases hf : writes v f
      · exact .inr ⟨es, f, v, (lastWrite_concat hv).2 (.inl ⟨rfl, rfl, rfl, hf⟩),
          hplace.write hstep hf⟩
      · rcases ih hv with hinit | ⟨pre, e, t, hlast, hwritten⟩
        · exact .inl ((hplace.keep hstep hf).trans hinit)
        · exact .inr ⟨pre, e, t, (lastWrite_concat hv).2 (.inr ⟨hlast, hf⟩),
            (hplace.keep hstep hf).trans hwritten⟩

end LastWrite

end Run

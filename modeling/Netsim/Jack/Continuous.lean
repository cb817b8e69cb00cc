import Netsim.Jack.ExactPlayback
import Netsim.Lib.Repeats

/-!
# Playing the latest frame

In continuous mode a port plays in every cycle the frame that was delivered last. So it plays what
was delivered for it in order, each frame in any number of cycles, and none after a later one
(`exists_frames`).
-/

namespace Netsim

namespace JackThread

variable {cfg : JackConfig} {i : ℕ} {s s' : JackThread} {es : List JackEvent} {e : JackEvent}

/-- The samples of the cycles in which frames were played, each with its number of samples. -/
def framesPlayed (played : List (AudioBuffer × ℕ)) : List SampleT :=
  played.flatMap fun frame => frame.1.samples.take frame.2

/-- What port `i` has played, cycle by cycle, is what was delivered for it, and what was delivered
last comes next. -/
def PlaysLatest (cfg : JackConfig) (i : ℕ) (es : List JackEvent) (s : JackThread) : Prop :=
  (s.playback (cfg.firstModemIndex + i)).queue =
      (deliveries (cfg.firstModemIndex + i) es).getLast?.toList ∧
    ∃ played, s.written i = framesPlayed played ∧
      (∀ frame ∈ played, frame.2 ≤ frame.1.samples.length) ∧
        Repeats ((deliveries (cfg.firstModemIndex + i) es).filterMap (·.buffer))
          (played.map (·.1))

/-- An event that neither delivers to the port nor plays on it. -/
theorem PlaysLatest.of_same (h : PlaysLatest cfg i es s)
    (hplayback : s'.playback (cfg.firstModemIndex + i) = s.playback (cfg.firstModemIndex + i))
    (hwritten : s'.written i = s.written i)
    (hdeliveries : deliveries (cfg.firstModemIndex + i) [e] = []) :
    PlaysLatest cfg i (es ++ [e]) s' := by
  rwa [PlaysLatest, hplayback, hwritten, deliveries_append, hdeliveries, List.append_nil]

/-- A delivered frame replaces the one before. -/
theorem PlaysLatest.audioOut (hcfg : cfg.continuous = true) (h : PlaysLatest cfg i es s)
    (b : TaggedAudioBuffer) (m : ℤ) : PlaysLatest cfg i (es ++ [.audioOut b m])
      { s with playback := Function.update s.playback m ((s.playback m).audioOut cfg b) } := by
  by_cases hm : m = cfg.firstModemIndex + i
  · subst hm
    obtain ⟨-, played, hwritten, hlength, hrepeats⟩ := h
    have hone : deliveries (cfg.firstModemIndex + i) [.audioOut b (cfg.firstModemIndex + i)] =
        [b] := by simp [deliveries]
    refine ⟨?_, played, hwritten, hlength, ?_⟩
    · simp [deliveries_append, hone, Playback.audioOut, hcfg]
    · rw [deliveries_append, List.filterMap_append]
      simpa using hrepeats.append (Repeats.nil_right _)
  · exact h.of_same (Function.update_of_ne (Ne.symm hm) _ _) rfl (by simp [deliveries, hm])

/-- A cycle plays on the port what was delivered last, if anything was. -/
theorem PlaysLatest.processPort (hcfg : cfg.continuous = true) (h : PlaysLatest cfg i es s)
    {cycle : Cycle} {k : ℕ} (hs' : processPort cfg cycle s k = some s') :
    PlaysLatest cfg i es s' := by
  rw [JackThread.processPort] at hs'
  split_ifs at hs' with hport
  · obtain ⟨⟨p, out⟩, hplay, rfl⟩ := Option.map_eq_some_iff.1 hs'
    have hsame := Playback.playContinuous_fst hplay
    subst hsame
    by_cases hk : k = i
    · subst hk
      obtain ⟨hqueue, played, hwritten, hlength, hrepeats⟩ := h
      refine ⟨by simpa using hqueue, ?_⟩
      simp only [Function.update_self]
      rw [Playback.playContinuous, hqueue] at hplay
      rcases List.eq_nil_or_concat (deliveries (cfg.firstModemIndex + k) es) with
        hnone | ⟨before, latest, hlatest⟩
      · rw [hnone] at hplay
        cases hplay
        exact ⟨played, by simpa using hwritten, hlength, hrepeats⟩
      · rw [List.concat_eq_append] at hlatest
        rw [hlatest, List.getLast?_concat, Option.toList_some] at hplay
        obtain ⟨audio, haudio, hplay⟩ := Option.bind_eq_some_iff.1 hplay
        split_ifs at hplay with hshort
        obtain ⟨-, rfl⟩ := Prod.mk.inj (Option.some_inj.1 hplay)
        refine ⟨played ++ [(audio, cycle.nframes)], by simp [hwritten, framesPlayed], ?_, ?_⟩
        · exact List.forall_mem_append.2 ⟨hlength, by simpa using hshort⟩
        · rw [hlatest, List.filterMap_append, List.filterMap_cons_some haudio,
            List.filterMap_nil] at hrepeats ⊢
          simpa using hrepeats.concat_last
    · have hne : cfg.firstModemIndex + (k : ℤ) ≠ cfg.firstModemIndex + i := by omega
      rw [PlaysLatest] at h ⊢
      simpa only [Function.update_of_ne hne.symm, Function.update_of_ne (Ne.symm hk)] using h
  · obtain rfl := Option.some_inj.1 hs'
    exact h

/-- In continuous mode, whatever is delivered, each port plays the frames that were delivered for
it, in order. -/
theorem exists_frames (hcfg : cfg.continuous = true) (h : after cfg {} es = some s) :
    PlaysLatest cfg i es s := by
  refine Run.exec_invariant (step cfg) {} ?_ (fun es e t u ht hstep => ?_) es s h
  · exact ⟨rfl, [], rfl, by simp, .nil⟩
  · cases e with
    | audioOut b m =>
        cases hstep
        exact ht.audioOut hcfg b m
    | process cycle =>
        have hcycle : PlaysLatest cfg i es u :=
          Run.exec_invariant (processPort cfg cycle) t (I := fun _ s => PlaysLatest cfg i es s) ht
            (fun _ _ _ _ hs hport => hs.processPort hcfg hport) _ u hstep
        exact hcycle.of_same rfl rfl rfl
    | bufferSizeChange n =>
        cases hstep
        exact ht.of_same rfl rfl rfl
    | registerPort k =>
        cases hstep
        exact ht.of_same rfl rfl rfl

end JackThread

end Netsim

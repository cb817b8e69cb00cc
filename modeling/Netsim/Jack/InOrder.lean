import Netsim.Jack.Pending

/-!
# Playing in order

Whatever is delivered, and whenever, a port plays only what was delivered for it, in the same order
and each sample once, with silence inserted (`exists_played`). A START buffer discards what is
pending, and the first samples of a buffer may be skipped, but nothing is played after what came
later, or again.
-/

namespace Netsim

namespace Playback

variable {cfg : JackConfig}

/-- A delivered buffer is played after what is pending, as far as either is played. -/
theorem pending_audioOut_sublist (hcfg : cfg.continuous = false) (p : Playback)
    (b : TaggedAudioBuffer) : (p.audioOut cfg b).pending.Sublist (p.pending ++ b.samples) := by
  by_cases hb : b.marker = .START
  · have hout : (p.audioOut cfg b).pending = b.samples := by simp [audioOut, hcfg, hb, pending]
    rw [hout]
    exact List.sublist_append_right _ _
  · have hout : p.audioOut cfg b = { p with queue := p.queue ++ [b] } := by
      simp [audioOut, hcfg, hb]
    rw [hout]
    cases hnew : p.newPacket with
    | true => simp [pending, hnew]
    | false =>
        cases hqueue : p.queue with
        -- the buffer becomes the front of the queue, with the index that is there
        | nil =>
            have hpending : pending { queue := [] ++ [b], index := p.index } =
                b.samples.drop p.index := by simp [pending, unplayed]
            rw [hpending]
            exact (List.drop_sublist _ _).trans (List.sublist_append_right _ _)
        | cons front queue => simp [pending, hnew, unplayed, hqueue]

end Playback

namespace JackThread

variable {cfg : JackConfig} {i : ℕ} {s s' : JackThread} {es : List JackEvent} {e : JackEvent}

/-- What port `i` has played is what was delivered for it, in order, and what is pending comes after
that. -/
def PlaysInOrder (cfg : JackConfig) (i : ℕ) (es : List JackEvent) (s : JackThread) : Prop :=
  ∃ played, Padded played (s.written i) ∧
    (played ++ (s.playback (cfg.firstModemIndex + i)).pending).Sublist
      ((deliveries (cfg.firstModemIndex + i) es).flatMap (·.samples))

/-- An event that neither delivers to the port nor plays on it. -/
theorem PlaysInOrder.of_same (h : PlaysInOrder cfg i es s)
    (hplayback : s'.playback (cfg.firstModemIndex + i) = s.playback (cfg.firstModemIndex + i))
    (hwritten : s'.written i = s.written i)
    (hdeliveries : deliveries (cfg.firstModemIndex + i) [e] = []) :
    PlaysInOrder cfg i (es ++ [e]) s' := by
  obtain ⟨played, hpadded, hsublist⟩ := h
  refine ⟨played, hwritten ▸ hpadded, ?_⟩
  rwa [hplayback, deliveries_append, hdeliveries, List.append_nil]

theorem PlaysInOrder.audioOut (hcfg : cfg.continuous = false) (h : PlaysInOrder cfg i es s)
    (b : TaggedAudioBuffer) (m : ℤ) : PlaysInOrder cfg i (es ++ [.audioOut b m])
      { s with playback := Function.update s.playback m ((s.playback m).audioOut cfg b) } := by
  by_cases hm : m = cfg.firstModemIndex + i
  · subst hm
    obtain ⟨played, hpadded, hsublist⟩ := h
    refine ⟨played, hpadded, ?_⟩
    have hone : deliveries (cfg.firstModemIndex + i) [.audioOut b (cfg.firstModemIndex + i)] =
        [b] := by simp [deliveries]
    simp only [Function.update_self]
    rw [deliveries_append, hone, List.flatMap_append, List.flatMap_singleton]
    refine ((List.Sublist.refl played).append
      (Playback.pending_audioOut_sublist hcfg _ b)).trans ?_
    rw [← List.append_assoc]
    exact hsublist.append (List.Sublist.refl _)
  · exact h.of_same (Function.update_of_ne (Ne.symm hm) _ _) rfl (by simp [deliveries, hm])

/-- A cycle plays the first of what is pending. -/
theorem PlaysInOrder.process (hcfg : cfg.continuous = false) (hi : i < cfg.localNumberOfModems)
    (hs : s.Healthy) (h : PlaysInOrder cfg i es s) {cycle : Cycle}
    (hcycle : WithinBuffer s (.process cycle)) (hs' : s.jackProcess cfg cycle = some s') :
    PlaysInOrder cfg i (es ++ [.process cycle]) s' := by
  have hport := (playsPort_of_jackProcess hcfg hs hcycle.2 hcycle.1 hs').2 i hi
  rw [PlaysPort] at hport
  split_ifs at hport
  · obtain ⟨out, hplay, hwritten⟩ := hport
    obtain ⟨hpadded', hpending⟩ := Playback.keep_of_playPacket (hs.audio _)
      (hs.zeros (hcycle.1.trans hcycle.2)) hcycle.2 hplay
    obtain ⟨played, hpadded, hsublist⟩ := h
    refine ⟨_, hwritten ▸ hpadded.append hpadded', ?_⟩
    rw [deliveries_append, List.append_assoc, ← hpending]
    simpa [deliveries] using hsublist
  · exact h.of_same hport.1 hport.2 rfl

/-- In packet mode, whatever is delivered, each port plays what was delivered for it, in order and
once, with silence inserted. -/
theorem exists_played (hcfg : cfg.continuous = false) (hi : i < cfg.localNumberOfModems)
    (haudio : DeliversAudio es) (hcycles : Run.ExecAlways (step cfg) {} WithinBuffer es)
    (h : after cfg {} es = some s) : PlaysInOrder cfg i es s := by
  induction es using List.reverseRecOn generalizing s with
  | nil =>
      cases h
      exact ⟨[], .nil, by simp [Playback.pending, Playback.unplayed]⟩
  | append_singleton es e ih =>
      obtain ⟨t, ht, hstep⟩ := (Run.exec_concat_eq_some _ _).1 h
      have hbefore := ih haudio.of_concat.1 (hcycles.of_append _ _) ht
      cases e with
      | audioOut b m =>
          cases hstep
          exact hbefore.audioOut hcfg b m
      | process cycle =>
          exact hbefore.process hcfg hi
            (healthy_of_after haudio.of_concat.1 (hcycles.of_append _ _) ht)
            (hcycles es _ [] t rfl ht) hstep
      | bufferSizeChange n =>
          cases hstep
          exact hbefore.of_same rfl rfl rfl
      | registerPort k =>
          cases hstep
          exact hbefore.of_same rfl rfl rfl

end JackThread

end Netsim

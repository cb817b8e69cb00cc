import Netsim.Udp.Responses

/-!
# Travel times

`travel_time` keeps the delay of the strongest ray so far, from an amplitude of 0 and a delay that
has not been initialised. So it reads an element of every ray that is stronger than those before it,
whether or not the ray has one, and returns the uninitialised delay if no amplitude is greater than
0, as when all are 0 or NaN. It returns the delay of the strongest ray that has an element iff
neither is the case (`readsStrongest_iff`).
-/

namespace Netsim

namespace NetSimUDP

/-- The delay of the first element of the first ray with the greatest amplitude, of the rays that
have an element and an amplitude that is a number. -/
def IsStrongest (rays : List RayTrace) (delay : ℚ) : Prop :=
  ∃ before ray after, rays = before ++ ray :: after ∧ ray.amp.isNaN = false ∧
    ray.element.head? = some delay ∧
    (∀ r ∈ before, r.element ≠ [] → r.amp.ge ray.amp = false) ∧
    ∀ r ∈ after, r.element ≠ [] → r.amp.gt ray.amp = false

/-- `travel_time` reads elements that exist, and returns the delay of the strongest ray, whatever
the uninitialised delay is. -/
def ReadsStrongest (r : ImpulseResponse) : Prop :=
  ∃ delay, IsStrongest r.raytrace delay ∧ ∀ luck, travelTime luck r = some delay

/-! ### The loop -/

section Loop

open Ieee.Value

variable {rays : List RayTrace} {maxAmp : Double} {delay d : ℚ}

/-- The loop ends with the delay it has begun with if no ray is stronger, and else with that of the
first of the strongest rays. -/
theorem strongest_cases (h : strongest maxAmp delay rays = some d) :
    (∀ r ∈ rays, r.amp.gt maxAmp = false) ∧ d = delay ∨
      ∃ before ray after, rays = before ++ ray :: after ∧ ray.amp.gt maxAmp ∧
        ray.element.head? = some d ∧ (∀ r ∈ before, r.amp.ge ray.amp = false) ∧
        ∀ r ∈ after, r.amp.gt ray.amp = false := by
  -- on the rays; `maxAmp` and `delay` are those of the strongest ray before
  induction rays generalizing maxAmp delay with
  | nil =>
      cases h
      exact .inl ⟨by simp, rfl⟩
  | cons first rays ih =>
      rw [strongest] at h
      split_ifs at h with hmax
      · obtain ⟨delay', helement, h⟩ := Option.bind_eq_some_iff.1 h
        rcases ih h with ⟨hweaker, rfl⟩ | ⟨before, ray, after, rfl, hgreat, hd, hbefore, hafter⟩
        · exact .inr ⟨[], first, rays, rfl, hmax, helement, by simp, hweaker⟩
        · exact .inr ⟨first :: before, ray, after, rfl, gt_trans hgreat hmax, hd,
            List.forall_mem_cons.2 ⟨not_ge_of_gt hgreat, hbefore⟩, hafter⟩
      -- a ray that is not stronger is passed over
      · rcases ih h with ⟨hweaker, rfl⟩ | ⟨before, ray, after, rfl, hgreat, hd, hbefore, hafter⟩
        · exact .inl ⟨List.forall_mem_cons.2 ⟨Bool.eq_false_of_not_eq_true hmax, hweaker⟩, rfl⟩
        · have hfirst : first.amp.ge ray.amp = false := by
            by_contra hge
            exact hmax (gt_of_ge_of_gt (Bool.eq_true_of_not_eq_false hge) hgreat)
          exact .inr ⟨first :: before, ray, after, rfl, hgreat, hd,
            List.forall_mem_cons.2 ⟨hfirst, hbefore⟩, hafter⟩

/-- If no ray is stronger, the loop reads nothing. -/
theorem strongest_of_weaker (h : ∀ r ∈ rays, r.amp.gt maxAmp = false) :
    strongest maxAmp delay rays = some delay := by
  induction rays with
  | nil => rfl
  | cons first rays ih =>
      obtain ⟨hfirst, hrest⟩ := List.forall_mem_cons.1 h
      rw [strongest, hfirst, if_neg Bool.false_ne_true, ih hrest]

/-- If a ray is stronger, the delay at the beginning does not matter. -/
theorem strongest_congr (delay' : ℚ) (h : ∃ r ∈ rays, r.amp.gt maxAmp) :
    strongest maxAmp delay rays = strongest maxAmp delay' rays := by
  induction rays with
  | nil => simp at h
  | cons first rays ih =>
      rw [strongest, strongest]
      split_ifs with hmax
      · rfl
      · obtain ⟨ray, hray, hgreat⟩ := h
        rcases List.mem_cons.1 hray with rfl | hray
        · exact absurd hgreat hmax
        · exact ih ⟨ray, hray, hgreat⟩

end Loop

/-! ### What is read -/

/-- If no amplitude is greater than 0, the uninitialised delay is returned. -/
theorem not_readsStrongest_of_weak {r : ImpulseResponse}
    (h : ∀ ray ∈ r.raytrace, ray.amp.gt .zero = false) : ¬ ReadsStrongest r := by
  rintro ⟨delay, -, hdelay⟩
  have huninitialised (luck : Luck) : luck.uninitialised = delay :=
    Option.some_inj.1 ((strongest_of_weaker h).symm.trans (hdelay luck))
  have h0 : 0 = delay := huninitialised ⟨none, fun _ _ => true, 0⟩
  have h1 : 1 = delay := huninitialised ⟨none, fun _ _ => true, 1⟩
  exact absurd (h0.trans h1.symm) zero_ne_one

/-- `travel_time` reads the strongest ray iff some amplitude is greater than 0 and every ray that is
stronger than those before it has an element. -/
theorem readsStrongest_iff (r : ImpulseResponse) : ReadsStrongest r ↔
    (∃ ray ∈ r.raytrace, ray.amp.gt .zero) ∧ StrongestHaveElements r.raytrace := by
  let luck : Luck := ⟨none, fun _ _ => true, 0⟩
  constructor
  · intro hreads
    obtain ⟨delay, -, hdelay⟩ := id hreads
    refine ⟨?_, (travelTime_isSome_iff luck r).1 (by rw [hdelay]; rfl)⟩
    by_contra hweak
    refine not_readsStrongest_of_weak (fun ray hray => ?_) hreads
    exact Bool.eq_false_of_not_eq_true fun hgreat => hweak ⟨ray, hray, hgreat⟩
  · rintro ⟨hstronger, helements⟩
    obtain ⟨delay, hdelay⟩ :=
      Option.isSome_iff_exists.1 ((travelTime_isSome_iff luck r).2 helements)
    refine ⟨delay, ?_, fun luck' => (strongest_congr _ hstronger).trans hdelay⟩
    rcases strongest_cases hdelay with
      ⟨hweaker, -⟩ | ⟨before, ray, after, heq, hgreat, hd, hbefore, hafter⟩
    · obtain ⟨ray, hray, hpos⟩ := hstronger
      exact absurd ((hweaker ray hray).symm.trans hpos) Bool.false_ne_true
    · exact ⟨before, ray, after, heq, (Ieee.Value.not_isNaN_of_gt hgreat).1, hd,
        fun r hr _ => hbefore r hr, fun r hr _ => hafter r hr⟩

/-- The amplitude of the only ray is 0, or a NaN: the delay is not initialised. A ray without
elements is the strongest: an element is read that does not exist, although the other ray has
one. -/
theorem not_readsStrongest_of_zero_amplitude :
    ¬ ReadsStrongest ⟨"62000", "62001", [⟨.zero, [1 / 2]⟩]⟩ ∧
      ¬ ReadsStrongest ⟨"62000", "62001", [⟨.ofFields false 2047 1, [1 / 2]⟩]⟩ ∧
      ¬ ReadsStrongest ⟨"62000", "62001",
        [⟨.ofFields false 1023 0, []⟩, ⟨.ofFields false 1022 0, [1 / 2]⟩]⟩ := by
  refine ⟨?_, ?_, ?_⟩
  · refine not_readsStrongest_of_weak fun ray hray => ?_
    rw [List.mem_singleton.1 hray]
    decide +kernel
  · refine not_readsStrongest_of_weak fun ray hray => ?_
    rw [List.mem_singleton.1 hray]
    decide +kernel
  · rintro ⟨delay, -, hdelay⟩
    let rays : List RayTrace :=
      [⟨.ofFields false 1023 0, []⟩, ⟨.ofFields false 1022 0, [1 / 2]⟩]
    have hnone : strongest .zero 0 rays = none := by decide +kernel
    have hsome : strongest .zero 0 rays = some delay := hdelay ⟨none, fun _ _ => true, 0⟩
    rw [hnone] at hsome
    cases hsome

end NetSimUDP

end Netsim

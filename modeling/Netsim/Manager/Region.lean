import Netsim.Manager.Requests

/-!
# Positions that reach an environment

Every update that is published comes from the vehicle it names, and for the environment of that
vehicle. Its position is within the bounds as far as the comparisons tell: the region check rejects
what is below a minimum or above a maximum, and a NaN is neither. The updates published in a run are
all within their bounds iff no NaN, in a position or in the bounds, gets to the region check and
past it (`authorised_iff_nanFree`).
-/

namespace Netsim

open ManagerOutput

/-! ### Bounds -/

namespace EnvironmentBounds

variable (bound : EnvironmentBounds) (nav : NavUpdate)

/-- A position is within the bounds. -/
def Contains : Prop :=
  bound.latMin.le (nav.lat.getD .zero) ∧ (nav.lat.getD .zero).le bound.latMax ∧
  bound.lonMin.le (nav.lon.getD .zero) ∧ (nav.lon.getD .zero).le bound.lonMax ∧
  bound.depthMin.le (nav.depth.getD .zero) ∧ (nav.depth.getD .zero).le bound.depthMax

/-- No coordinate and no bound is a NaN. -/
def NanFree : Prop :=
  ∀ x ∈ [nav.lat.getD .zero, nav.lon.getD .zero, nav.depth.getD .zero, bound.latMin, bound.latMax,
    bound.lonMin, bound.lonMax, bound.depthMin, bound.depthMax], x.isNaN = false

variable {bound nav}

/-- A position that is not rejected is within the bounds iff no NaN is compared. -/
theorem contains_iff_nanFree (h : bound.rejects nav = false) :
    bound.Contains nav ↔ bound.NanFree nav := by
  simp only [rejects, Bool.or_eq_false_iff] at h
  obtain ⟨⟨⟨⟨⟨hlatMin, hlatMax⟩, hlonMin⟩, hlonMax⟩, hdepthMin⟩, hdepthMax⟩ := h
  simp only [NanFree, List.forall_mem_cons, List.not_mem_nil, IsEmpty.forall_iff, implies_true,
    and_true]
  constructor
  -- a comparison that holds has no NaN on either side
  · rintro ⟨h₁, h₂, h₃, h₄, h₅, h₆⟩
    exact ⟨(Ieee.Value.not_isNaN_of_le h₂).1, (Ieee.Value.not_isNaN_of_le h₄).1,
      (Ieee.Value.not_isNaN_of_le h₆).1, (Ieee.Value.not_isNaN_of_le h₁).1,
      (Ieee.Value.not_isNaN_of_le h₂).2, (Ieee.Value.not_isNaN_of_le h₃).1,
      (Ieee.Value.not_isNaN_of_le h₄).2, (Ieee.Value.not_isNaN_of_le h₅).1,
      (Ieee.Value.not_isNaN_of_le h₆).2⟩
  -- without a NaN, not to be above is to be at most
  · rintro ⟨hlat, hlon, hdepth, hlatMin', hlatMax', hlonMin', hlonMax', hdepthMin', hdepthMax'⟩
    exact ⟨(Ieee.Value.le_iff_not_gt hlatMin' hlat).2 hlatMin,
      (Ieee.Value.le_iff_not_gt hlat hlatMax').2 hlatMax,
      (Ieee.Value.le_iff_not_gt hlonMin' hlon).2 hlonMin,
      (Ieee.Value.le_iff_not_gt hlon hlonMax').2 hlonMax,
      (Ieee.Value.le_iff_not_gt hdepthMin' hdepth).2 hdepthMin,
      (Ieee.Value.le_iff_not_gt hdepth hdepthMax').2 hdepthMax⟩

end EnvironmentBounds

namespace NetSimManager

variable (cfg : NetSimManagerConfig)

/-- An update may reach its environment: it names a configured port, was sent from the address of
that port, is for the environment of that port, and is within the bounds of that environment. -/
structure Authorised (ep : TcpEndpoint) (update : EnvironmentNavUpdate) : Prop where
  /-- The port is configured. -/
  configured : ∃ simEnv ∈ cfg.simEnvPair, update.nav.modemTcpPort = some simEnv.modemTcpPort
  /-- The address and the environment are those of the port. -/
  vehicle : ∀ simEnv ∈ cfg.simEnvPair, update.nav.modemTcpPort = some simEnv.modemTcpPort →
    ep.address = simEnv.endpointIpAddress ∧ update.environmentId = simEnv.environmentId
  /-- The environment has bounds. -/
  bounded : ∃ bound ∈ cfg.envBounds, bound.environmentId = update.environmentId
  /-- The position is within the bounds. -/
  region : ∀ bound ∈ cfg.envBounds, bound.environmentId = update.environmentId →
    bound.Contains update.nav

/-- No NaN is compared in the region check of an update. -/
def NanFree (nav : NavUpdate) : Prop :=
  ∀ simEnv ∈ cfg.simEnvPair, simEnv.modemTcpPort = nav.modemTcpPort.getD 0 →
    ∀ bound ∈ cfg.envBounds, bound.environmentId = simEnv.environmentId → bound.NanFree nav

/-- No check fails for an update of a request, nor for those before it. -/
def Reaches (e : ReceivedRequest) (nav : NavUpdate) : Prop :=
  ∃ pre post, e.req.nav = pre ++ nav :: post ∧ (∀ earlier ∈ pre, Passes cfg e.ep earlier) ∧
    Passes cfg e.ep nav

/-- What a request leaves in the log. -/
def Logged (e : ReceivedRequest) (entry : TcpEndpoint × List ManagerOutput) : Prop :=
  entry.1 = e.ep ∧ ∃ status pre, StopsAfter cfg e.ep e.req.nav pre status ∧
    Publishes cfg e.now pre entry.2

variable {cfg} {s : NetSimManager} {e : ReceivedRequest} {ep : TcpEndpoint}

/-! ### One request -/

/-- The updates that no check fails for are those before the first that fails. -/
theorem reaches_iff_mem {pre : List NavUpdate} {status : UpdateStatus}
    (h : StopsAfter cfg e.ep e.req.nav pre status) (nav : NavUpdate) :
    Reaches cfg e nav ↔ nav ∈ pre := by
  obtain ⟨hpre, hstop⟩ := h
  constructor
  · rintro ⟨before, after, hnavs, hbefore, hnav⟩
    rcases hstop with ⟨-, hall⟩ | ⟨bad, post, hbad, hfails⟩
    · rw [← hall, hnavs]
      simp
    · rw [hnavs] at hbad
      rcases Run.places hbad with ⟨mid, rfl, -⟩ | ⟨-, rfl, -⟩ | ⟨mid, rfl, -⟩
      · simp
      · -- the update itself is the one that fails
        exact absurd hfails (hnav status)
      · -- one of the updates before it fails
        exact absurd hfails (hbefore bad (by simp) status)
  · intro hmem
    obtain ⟨before, after, rfl⟩ := List.append_of_mem hmem
    obtain ⟨hbefore, hnav, -⟩ : (∀ nav ∈ before, Passes cfg e.ep nav) ∧ Passes cfg e.ep nav ∧
        ∀ nav ∈ after, Passes cfg e.ep nav := by
      simpa only [List.forall_mem_append, List.forall_mem_cons] using hpre
    rcases hstop with ⟨-, hall⟩ | ⟨bad, post, hbad, -⟩
    · exact ⟨before, after, hall, hbefore, hnav⟩
    · exact ⟨before, after ++ bad :: post, by rw [hbad]; simp, hbefore, hnav⟩

/-- The vehicle of an update that passes has the address of the sender. -/
theorem Passes.address {nav : NavUpdate} (h : Passes cfg ep nav) {simEnv : SimEnvironmentPair}
    (hmem : simEnv ∈ cfg.simEnvPair) (hport : simEnv.modemTcpPort = nav.modemTcpPort.getD 0) :
    ep.address = simEnv.endpointIpAddress := by
  by_contra haddress
  exact h .UPDATE_FAILED_INVALID_SOURCE_ADDRESS ⟨simEnv, hmem, hport, haddress⟩

/-- The bounds of its environment do not reject an update that passes. -/
theorem Passes.not_rejects {nav : NavUpdate} (h : Passes cfg ep nav) {simEnv : SimEnvironmentPair}
    (hmem : simEnv ∈ cfg.simEnvPair) (hport : simEnv.modemTcpPort = nav.modemTcpPort.getD 0)
    {bound : EnvironmentBounds} (hbound : bound ∈ cfg.envBounds)
    (hid : bound.environmentId = simEnv.environmentId) : bound.rejects nav = false := by
  by_contra hrejects
  exact h .UPDATE_FAILED_OUT_OF_DEFINED_REGION
    ⟨simEnv, hmem, hport, h.address hmem hport, bound, hbound, hid, by simpa using hrejects⟩

/-- An update that passed the checks is authorised iff no NaN was compared. -/
theorem authorised_iff_of_passes (hs : Configures cfg s) {update : EnvironmentNavUpdate}
    (hpasses : Passes cfg ep update.nav) (hinit : update.nav.isInitialized)
    (henvironment : ∃ simEnv ∈ cfg.simEnvPair,
      simEnv.modemTcpPort = update.nav.modemTcpPort.getD 0 ∧
      simEnv.environmentId = update.environmentId) :
    Authorised cfg ep update ↔ NanFree cfg update.nav := by
  obtain ⟨simEnv, hmem, hport, henv⟩ := henvironment
  -- the port is a required field, so the default of 0 was not taken
  have hsome : update.nav.modemTcpPort = some simEnv.modemTcpPort := by
    obtain ⟨port, hfield⟩ : ∃ port, update.nav.modemTcpPort = some port := by
      simp only [NavUpdate.isInitialized, Bool.and_eq_true] at hinit
      exact Option.isSome_iff_exists.1 hinit.1.1.1.1.1.1
    rw [hport, hfield, Option.getD_some]
  have hunique : ∀ other ∈ cfg.simEnvPair, other.modemTcpPort = update.nav.modemTcpPort.getD 0 →
      other = simEnv := fun other hother heq =>
    hs.vehicle_unique hother hmem (heq.trans hport.symm)
  constructor
  · intro hauthorised other hother heq bound hbound hid
    rw [hunique other hother heq] at hid
    exact (EnvironmentBounds.contains_iff_nanFree
      (hpasses.not_rejects hmem hport hbound hid)).1
        (hauthorised.region bound hbound (hid.trans henv))
  · intro hnan
    refine ⟨⟨simEnv, hmem, hsome⟩, fun other hother heq => ?_, ?_, fun bound hbound hid => ?_⟩
    -- everything but the region holds of any update that passes
    · rw [heq, Option.some_inj] at hsome
      rw [hs.vehicle_unique hother hmem hsome]
      exact ⟨hpasses.address hmem hport, henv.symm⟩
    · obtain ⟨bound, hlookup⟩ := hs.bounded simEnv hmem
      obtain ⟨hbound, hid⟩ := (hs.envBounds _ _).1 hlookup
      exact ⟨bound, hbound, hid.trans henv⟩
    · rw [← henv] at hid
      exact (EnvironmentBounds.contains_iff_nanFree
        (hpasses.not_rejects hmem hport hbound hid)).2 (hnan simEnv hmem hport bound hbound hid)

/-- The updates published for a request are authorised iff no NaN gets to the region check and past
it. -/
theorem Logged.authorised_iff (hs : Configures cfg s) {entry : TcpEndpoint × List ManagerOutput}
    (h : Logged cfg e entry) :
    (∀ update ∈ navUpdates entry.2, Authorised cfg entry.1 update) ↔
      ∀ nav, Reaches cfg e nav → nav.isInitialized → NanFree cfg nav := by
  obtain ⟨hep, status, pre, hstop, hpublish⟩ := h
  -- what is published is what reaches the environment with its fields set
  have hnavs : ∀ nav, nav ∈ pre ∧ nav.isInitialized ↔
      ∃ update ∈ navUpdates entry.2, update.nav = nav := fun nav => by
    rw [← List.mem_filter, ← hpublish.navs, List.mem_map]
  have hauthorised : ∀ update ∈ navUpdates entry.2,
      (Authorised cfg entry.1 update ↔ NanFree cfg update.nav) := fun update hupdate => by
    obtain ⟨hmem, hinit⟩ := (hnavs update.nav).2 ⟨update, hupdate, rfl⟩
    rw [hep]
    exact authorised_iff_of_passes hs (hstop.1 _ hmem) hinit (hpublish.environment update hupdate)
  constructor
  · intro hall nav hreach hinit
    obtain ⟨update, hupdate, rfl⟩ := (hnavs nav).1 ⟨(reaches_iff_mem hstop nav).1 hreach, hinit⟩
    exact (hauthorised update hupdate).1 (hall update hupdate)
  · intro hnan update hupdate
    obtain ⟨hmem, hinit⟩ := (hnavs update.nav).2 ⟨update, hupdate, rfl⟩
    exact (hauthorised update hupdate).2
      (hnan update.nav ((reaches_iff_mem hstop update.nav).2 hmem) hinit)

/-! ### Runs -/

/-- A request is handled, and logged. -/
theorem exists_step (hs : Configures cfg s) (log : ManagerLog) (e : ReceivedRequest) :
    ∃ entry, s.step log e = some (log ++ [entry]) ∧ Logged cfg e entry := by
  obtain ⟨status, out, pre, hrun, hstop, hpublish, -⟩ := handled_processRequest hs e.req e.ep e.now
  exact ⟨(e.ep, out), by rw [step, hrun, Option.map_some], rfl, status, pre, hstop, hpublish⟩

/-- Every request of a run is handled, and logged. -/
theorem exists_after (hs : processConfiguration cfg = some s) (es : List ReceivedRequest) :
    ∃ log, after cfg es = some log ∧ List.Forall₂ (Logged cfg) es log := by
  have hconfigures := configures_of_processConfiguration hs
  rw [after, hs, Option.bind_some]
  -- on the requests; none of them changes the maps
  refine Run.exec_induction s.step [] (G := fun _ _ => True) (P := fun _ => True)
    (I := fun es log => List.Forall₂ (Logged cfg) es log) (fun _ _ _ => trivial) .nil
    (fun es e log _ hlog _ => ?_) es trivial (fun _ _ _ _ _ _ => trivial)
  obtain ⟨entry, hstep, hentry⟩ := exists_step hconfigures log e
  exact ⟨log ++ [entry], hstep, List.rel_append hlog (.cons hentry .nil)⟩

/-- In every run that follows an accepted configuration no lookup throws, and the updates that are
published are authorised iff no NaN gets to the region check and past it. -/
theorem authorised_iff_nanFree (cfg : NetSimManagerConfig)
    (hcfg : (processConfiguration cfg).isSome) (es : List ReceivedRequest) :
    ∃ log, after cfg es = some log ∧
      ((∀ entry ∈ log, ∀ update ∈ navUpdates entry.2, Authorised cfg entry.1 update) ↔
        ∀ e ∈ es, ∀ nav, Reaches cfg e nav → nav.isInitialized → NanFree cfg nav) := by
  obtain ⟨s, hs⟩ := Option.isSome_iff_exists.1 hcfg
  obtain ⟨log, hlog, hlogged⟩ := exists_after hs es
  refine ⟨log, hlog, ?_⟩
  clear hlog
  -- on the requests and their entries in the log
  induction hlogged with
  | nil => simp
  | cons hentry _ ih =>
      rw [List.forall_mem_cons, List.forall_mem_cons, ih,
        hentry.authorised_iff (configures_of_processConfiguration hs)]

/-- A position whose latitude is a NaN is published. -/
theorem not_authorised_of_nan :
    let one : Double := .ofFields false 1023 0
    let two : Double := .ofFields false 1024 0
    let nan : Double := .ofFields false 2047 (2 ^ 51)
    let bound : EnvironmentBounds := ⟨1, .zero, .zero, two, two, .zero, two⟩
    let cfg : NetSimManagerConfig :=
      { simEnvPair := [⟨62000, "127.0.0.1", 1⟩], envBounds := [bound] }
    let nav : NavUpdate := ⟨some 62000, one, nan, one, one, one, one⟩
    let e : ReceivedRequest :=
      { req := { id := some 7, nav := [nav] }, ep := ⟨"127.0.0.1", 50000⟩
        now := fun _ => ⟨12, 0, 0, 0, 1, 1, 2021⟩ }
    ∃ log, after cfg [e] = some log ∧
      ¬ ∀ entry ∈ log, ∀ update ∈ navUpdates entry.2, Authorised cfg entry.1 update := by
  intro one two nan bound cfg nav e
  -- every comparison with the NaN is false, and so is the condition of the rejection
  have hrun : (after cfg [e]).map (fun log => log.map fun entry => navUpdates entry.2) =
      some [[⟨1, nav⟩]] := by
    decide +kernel
  obtain ⟨log, hlog, hresult⟩ := Option.map_eq_some_iff.1 hrun
  refine ⟨log, hlog, fun hall => ?_⟩
  obtain ⟨entry, hmem, hentry⟩ : ∃ entry ∈ log, navUpdates entry.2 = [⟨1, nav⟩] := by
    have hfirst : [⟨1, nav⟩] ∈ log.map fun entry => navUpdates entry.2 := by
      rw [hresult]
      exact List.mem_singleton_self _
    exact List.mem_map.1 hfirst
  have hauthorised := hall entry hmem ⟨1, nav⟩ (by rw [hentry]; exact List.mem_singleton_self _)
  have hregion := hauthorised.region bound (List.mem_singleton_self _) rfl
  exact absurd hregion.1 (by decide +kernel)

/-- Two vehicles report, and a third request comes from the wrong address. -/
theorem authorised_of_two_vehicles :
    let one : Double := .ofFields false 1023 0
    let two : Double := .ofFields false 1024 0
    let cfg : NetSimManagerConfig :=
      { simEnvPair := [⟨62000, "127.0.0.1", 1⟩, ⟨62001, "127.0.0.2", 1⟩]
        envBounds := [⟨1, .zero, .zero, two, two, .zero, two⟩] }
    let nav (port : Int32) : NavUpdate := ⟨port, one, one, one, one, one, one⟩
    let request (port : Int32) (address : String) : ReceivedRequest :=
      { req := { id := some 7, nav := [nav port] }, ep := ⟨address, 50000⟩
        now := fun _ => ⟨12, 0, 0, 0, 1, 1, 2021⟩ }
    let es := [request 62000 "127.0.0.1", request 62001 "127.0.0.2", request 62000 "127.0.0.2"]
    ∃ log, after cfg es = some log ∧
      (∀ entry ∈ log, ∀ update ∈ navUpdates entry.2, Authorised cfg entry.1 update) ∧
      (log.map fun entry => navUpdates entry.2) = [[⟨1, nav 62000⟩], [⟨1, nav 62001⟩], []] := by
  intro one two cfg nav request es
  have hrun : (after cfg es).map (fun log => log.map fun entry => navUpdates entry.2) =
      some [[⟨1, nav 62000⟩], [⟨1, nav 62001⟩], []] := by
    decide +kernel
  obtain ⟨log, hlog, hresult⟩ := Option.map_eq_some_iff.1 hrun
  obtain ⟨log', hlog', hiff⟩ := authorised_iff_nanFree cfg (by decide +kernel) es
  rw [hlog, Option.some_inj] at hlog'
  subst hlog'
  refine ⟨log, hlog, hiff.2 fun e he n hreach _ => ?_, hresult⟩
  -- each request has one update, and none of them a NaN
  obtain ⟨port, hnav⟩ : ∃ port : Int32, e.req.nav = [nav port] := by
    simp only [es, List.mem_cons, List.not_mem_nil, or_false] at he
    rcases he with rfl | rfl | rfl
    · exact ⟨62000, rfl⟩
    · exact ⟨62001, rfl⟩
    · exact ⟨62000, rfl⟩
  obtain ⟨pre, post, hsplit, -⟩ := hreach
  have hn : n = nav port := by
    have hmem : n ∈ e.req.nav := by simp [hsplit]
    rwa [hnav, List.mem_singleton] at hmem
  intro simEnv _ _ bound hbound _
  rw [List.mem_singleton.1 hbound, hn]
  have hone : one.isNaN = false := by decide +kernel
  have htwo : two.isNaN = false := by decide +kernel
  have hzero : (Ieee.Value.zero : Double).isNaN = false := by decide +kernel
  intro x hx
  simp only [nav, Option.getD_some, List.mem_cons, List.not_mem_nil, or_false] at hx
  rcases hx with rfl | rfl | rfl | rfl | rfl | rfl | rfl | rfl | rfl <;> assumption

end NetSimManager

end Netsim

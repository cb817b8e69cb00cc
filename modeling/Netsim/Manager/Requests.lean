import Mathlib.Data.List.TakeWhile
import Netsim.Manager.Model

/-!
# Handling a request

What a request leads to is determined by the first of its updates that fails a check. `Fails` says
when an update fails, and with which status, in terms of the configuration alone; `StopsAfter`
says which updates of a request come before the first that fails. The updates among these that have
their required fields are published, each followed by its GPS line (`handled_handleNavs`).

A failure leaves what was published before it in place, and an update that lacks a field is passed
over without a failure (`not_allOrNothing_of_failing_or_incomplete`). What the status does tell
about the updates is `processRequest_truthful`.
-/

namespace Netsim

/-! ### Kinds of output -/

namespace ManagerOutput

/-- The updates that were published. -/
def navUpdates (out : List ManagerOutput) : List EnvironmentNavUpdate :=
  out.filterMap fun
    | .envNavUpdate update => some update
    | _ => none

/-- The GPS lines that were published. -/
def gpsLines (out : List ManagerOutput) : List GpsLine :=
  out.filterMap fun
    | .gpsLineOut line => some line
    | _ => none

/-- The responses, with the endpoints they were written to. -/
def responses (out : List ManagerOutput) : List (NetSimManagerResponse × TcpEndpoint) :=
  out.filterMap fun
    | .write resp ep => some (resp, ep)
    | _ => none

theorem responses_append (out out' : List ManagerOutput) :
    responses (out ++ out') = responses out ++ responses out' :=
  List.filterMap_append

/-- Statistics are no responses. -/
theorem responses_stats (stats : List ReceiveStats) : responses (stats.map receiveStats) = [] := by
  simp [responses]

end ManagerOutput

open ManagerOutput

namespace NetSimManager

/-! ### Configuration -/

/-- What the maps hold for an accepted configuration. -/
structure Configures (cfg : NetSimManagerConfig) (s : NetSimManager) : Prop where
  /-- The vehicles are found under their ports. -/
  envCfg : ∀ port simEnv, s.envCfg.lookup port = some simEnv ↔
    simEnv ∈ cfg.simEnvPair ∧ simEnv.modemTcpPort = port
  /-- The bounds are found under their environments. -/
  envBounds : ∀ id bound, s.envBounds.lookup id = some bound ↔
    bound ∈ cfg.envBounds ∧ bound.environmentId = id
  /-- The environment of every vehicle has bounds. -/
  bounded : ∀ simEnv ∈ cfg.simEnvPair, ∃ bound, s.envBounds.lookup simEnv.environmentId = some bound

theorem configures_of_processConfiguration {cfg : NetSimManagerConfig} {s : NetSimManager}
    (h : processConfiguration cfg = some s) : Configures cfg s := by
  obtain ⟨envBounds, hbounds, h⟩ := Option.bind_eq_some_iff.1 h
  obtain ⟨envCfg, hcfg, h⟩ := Option.bind_eq_some_iff.1 h
  cases h
  refine ⟨fun port simEnv => ?_, fun id bound => ?_, fun simEnv hmem => ?_⟩
  · simp [Registry.lookup_registerAll hcfg]
  · simp [Registry.lookup_registerAll hbounds]
  -- the test that was made of the vehicle when it was added
  · have haccept := Registry.accept_of_registerAll hcfg simEnv hmem
    exact Option.isSome_iff_exists.1 (AList.lookup_isSome.2 (of_decide_eq_true haccept))

/-- A port names at most one vehicle. -/
theorem Configures.vehicle_unique {cfg : NetSimManagerConfig} {s : NetSimManager}
    (hs : Configures cfg s) {a b : SimEnvironmentPair} (ha : a ∈ cfg.simEnvPair)
    (hb : b ∈ cfg.simEnvPair) (hport : a.modemTcpPort = b.modemTcpPort) : a = b := by
  have hlookup := (hs.envCfg _ _).2 ⟨ha, hport⟩
  rw [(hs.envCfg _ _).2 ⟨hb, rfl⟩, Option.some_inj] at hlookup
  exact hlookup.symm

/-- A configuration is accepted iff no environment and no port is repeated, and the environment of
every vehicle has bounds. -/
theorem isSome_processConfiguration (cfg : NetSimManagerConfig) :
    (processConfiguration cfg).isSome ↔
      (cfg.envBounds.map (·.environmentId)).Nodup ∧ (cfg.simEnvPair.map (·.modemTcpPort)).Nodup ∧
      ∀ simEnv ∈ cfg.simEnvPair, ∃ bound ∈ cfg.envBounds,
        bound.environmentId = simEnv.environmentId := by
  have hbounds := Registry.isSome_registerAll EnvironmentBounds.environmentId (fun _ => true) ∅
    cfg.envBounds
  simp only [AList.notMem_empty, not_false_eq_true, implies_true, and_true] at hbounds
  rw [processConfiguration, ← hbounds]
  -- the vehicles are tested against the bounds that were added
  cases hmap : Registry.registerAll EnvironmentBounds.environmentId (fun _ => true) ∅
      cfg.envBounds with
  | none => simp
  | some envBounds =>
      have hcfg := Registry.isSome_registerAll SimEnvironmentPair.modemTcpPort
        (fun simEnv => decide (simEnv.environmentId ∈ envBounds)) ∅ cfg.simEnvPair
      simp only [AList.notMem_empty, not_false_eq_true, implies_true, true_and, decide_eq_true_eq]
        at hcfg
      simp only [← Registry.mem_registerAll hmap]
      simp [Option.isSome_bind, hcfg]

/-! ### The checks -/

/-- An update fails with a status: its port is not configured; or it is, for another address; or
the address is right, and the bounds of the environment reject the position. -/
def Fails (cfg : NetSimManagerConfig) (ep : TcpEndpoint) (nav : NavUpdate) : UpdateStatus → Prop
  | .UPDATE_ACCEPTED => False
  | .UPDATE_FAILED_INVALID_MODEM_TCP_PORT =>
      ∀ simEnv ∈ cfg.simEnvPair, simEnv.modemTcpPort ≠ nav.modemTcpPort.getD 0
  | .UPDATE_FAILED_INVALID_SOURCE_ADDRESS =>
      ∃ simEnv ∈ cfg.simEnvPair, simEnv.modemTcpPort = nav.modemTcpPort.getD 0 ∧
        ep.address ≠ simEnv.endpointIpAddress
  | .UPDATE_FAILED_OUT_OF_DEFINED_REGION =>
      ∃ simEnv ∈ cfg.simEnvPair, simEnv.modemTcpPort = nav.modemTcpPort.getD 0 ∧
        ep.address = simEnv.endpointIpAddress ∧
        ∃ bound ∈ cfg.envBounds, bound.environmentId = simEnv.environmentId ∧ bound.rejects nav

/-- An update passes all checks. -/
def Passes (cfg : NetSimManagerConfig) (ep : TcpEndpoint) (nav : NavUpdate) : Prop :=
  ∀ status, ¬ Fails cfg ep nav status

instance (cfg : NetSimManagerConfig) (ep : TcpEndpoint) (nav : NavUpdate) :
    (status : UpdateStatus) → Decidable (Fails cfg ep nav status)
  | .UPDATE_ACCEPTED => inferInstanceAs (Decidable False)
  | .UPDATE_FAILED_INVALID_MODEM_TCP_PORT => inferInstanceAs (Decidable
      (∀ simEnv ∈ cfg.simEnvPair, simEnv.modemTcpPort ≠ nav.modemTcpPort.getD 0))
  | .UPDATE_FAILED_INVALID_SOURCE_ADDRESS => inferInstanceAs (Decidable
      (∃ simEnv ∈ cfg.simEnvPair, simEnv.modemTcpPort = nav.modemTcpPort.getD 0 ∧
        ep.address ≠ simEnv.endpointIpAddress))
  | .UPDATE_FAILED_OUT_OF_DEFINED_REGION => inferInstanceAs (Decidable
      (∃ simEnv ∈ cfg.simEnvPair, simEnv.modemTcpPort = nav.modemTcpPort.getD 0 ∧
        ep.address = simEnv.endpointIpAddress ∧
        ∃ bound ∈ cfg.envBounds, bound.environmentId = simEnv.environmentId ∧ bound.rejects nav))

instance (cfg : NetSimManagerConfig) (ep : TcpEndpoint) (nav : NavUpdate) :
    Decidable (Passes cfg ep nav) :=
  decidable_of_iff (∀ status ∈ [UpdateStatus.UPDATE_ACCEPTED,
      .UPDATE_FAILED_INVALID_MODEM_TCP_PORT, .UPDATE_FAILED_INVALID_SOURCE_ADDRESS,
      .UPDATE_FAILED_OUT_OF_DEFINED_REGION], ¬ Fails cfg ep nav status)
    ⟨fun h status => h status (by cases status <;> simp), fun h status _ => h status⟩

section Check

variable {cfg : NetSimManagerConfig} {s : NetSimManager}

/-- The checks fail as `Fails` says, or yield the vehicle with the port; the lookup of the bounds
never throws. -/
theorem check_cases (hs : Configures cfg s) (ep : TcpEndpoint) (nav : NavUpdate) :
    (∃ status, s.check ep nav = some (.error status) ∧ Fails cfg ep nav status) ∨
    ∃ simEnv, s.check ep nav = some (.ok simEnv) ∧ Passes cfg ep nav ∧
      simEnv ∈ cfg.simEnvPair ∧ simEnv.modemTcpPort = nav.modemTcpPort.getD 0 := by
  unfold check
  cases hport : s.envCfg.lookup (nav.modemTcpPort.getD 0) with
  | none =>
      refine .inl ⟨_, rfl, fun simEnv hmem heq => ?_⟩
      rw [(hs.envCfg _ _).2 ⟨hmem, heq⟩] at hport
      cases hport
  | some simEnv =>
      obtain ⟨hmem, hkey⟩ := (hs.envCfg _ _).1 hport
      -- the port leads to this vehicle only
      have hunique : ∀ other ∈ cfg.simEnvPair, other.modemTcpPort = nav.modemTcpPort.getD 0 →
          other = simEnv := fun other hother heq =>
        hs.vehicle_unique hother hmem (heq.trans hkey.symm)
      by_cases haddress : ep.address = simEnv.endpointIpAddress
      · obtain ⟨bound, hlookup⟩ := hs.bounded simEnv hmem
        obtain ⟨hbound, hid⟩ := (hs.envBounds _ _).1 hlookup
        cases hrejects : bound.rejects nav with
        | true =>
            refine .inl ⟨.UPDATE_FAILED_OUT_OF_DEFINED_REGION, ?_, simEnv, hmem, hkey, haddress,
              bound, hbound, hid, hrejects⟩
            simp [haddress, hlookup, hrejects]
        | false =>
            refine .inr ⟨simEnv, ?_, fun status hfails => ?_, hmem, hkey⟩
            · simp [haddress, hlookup, hrejects]
            -- no status is right: the port, the address and the bounds have all been tested
            · cases status with
              | UPDATE_ACCEPTED => exact hfails
              | UPDATE_FAILED_INVALID_MODEM_TCP_PORT => exact hfails simEnv hmem hkey
              | UPDATE_FAILED_INVALID_SOURCE_ADDRESS =>
                  obtain ⟨other, hother, heq, hne⟩ := hfails
                  rw [hunique other hother heq] at hne
                  exact hne haddress
              | UPDATE_FAILED_OUT_OF_DEFINED_REGION =>
                  obtain ⟨other, hother, heq, -, bound', hbound', hid', hrejects'⟩ := hfails
                  rw [hunique other hother heq] at hid'
                  rw [(hs.envBounds _ _).2 ⟨hbound', hid'⟩, Option.some_inj] at hlookup
                  rw [hlookup, hrejects] at hrejects'
                  cases hrejects'
      · refine .inl ⟨.UPDATE_FAILED_INVALID_SOURCE_ADDRESS, ?_, simEnv, hmem, hkey, haddress⟩
        simp [haddress]

end Check

/-! ### The loop -/

/-- `pre` are the updates of a request before the first that fails, and its failure is the status;
or no update fails, and the request is accepted. -/
def StopsAfter (cfg : NetSimManagerConfig) (ep : TcpEndpoint) (navs pre : List NavUpdate)
    (status : UpdateStatus) : Prop :=
  (∀ nav ∈ pre, Passes cfg ep nav) ∧
  (status = .UPDATE_ACCEPTED ∧ navs = pre ∨
    ∃ nav post, navs = pre ++ nav :: post ∧ Fails cfg ep nav status)

/-- The updates before the first that fails are the longest beginning without a failure. -/
theorem StopsAfter.eq_takeWhile {cfg : NetSimManagerConfig} {ep : TcpEndpoint}
    {navs pre : List NavUpdate} {status : UpdateStatus} (h : StopsAfter cfg ep navs pre status) :
    pre = navs.takeWhile fun nav => Passes cfg ep nav := by
  obtain ⟨hpre, ⟨-, rfl⟩ | ⟨nav, post, rfl, hfails⟩⟩ := h
  · rw [List.takeWhile_eq_self_iff.2 fun nav hnav => decide_eq_true (hpre nav hnav)]
  · have hnav : ¬ Passes cfg ep nav := fun hpasses => hpasses status hfails
    rw [List.takeWhile_append_of_pos fun nav hnav => decide_eq_true (hpre nav hnav),
      List.takeWhile_cons_of_neg (by simpa using hnav), List.append_nil]

/-- The publications for the updates `pre`. -/
structure Publishes (cfg : NetSimManagerConfig) (now : ℕ → PTime) (pre : List NavUpdate)
    (out : List ManagerOutput) : Prop where
  /-- The updates that have their required fields are published. -/
  navs : (navUpdates out).map (·.nav) = pre.filter (·.isInitialized)
  /-- Each is published for the environment of its vehicle. -/
  environment : ∀ update ∈ navUpdates out, ∃ simEnv ∈ cfg.simEnvPair,
    simEnv.modemTcpPort = update.nav.modemTcpPort.getD 0 ∧
    simEnv.environmentId = update.environmentId
  /-- Each is followed by its line. -/
  lines : List.Forall₂ (fun update line => ∃ k, line = writeGpsOut (now k) update.nav)
    (navUpdates out) (gpsLines out)

section Loop

variable {cfg : NetSimManagerConfig} {s : NetSimManager} {ep : TcpEndpoint} {now : ℕ → PTime}

theorem publishNav_of_isInitialized {nav : NavUpdate} (h : nav.isInitialized) (t : PTime)
    (simEnv : SimEnvironmentPair) : publishNav t simEnv nav =
      [.envNavUpdate ⟨simEnv.environmentId, nav⟩, .gpsLineOut (writeGpsOut t nav)] := by
  simp [publishNav, h]

/-- An update without its required fields is not published. -/
theorem publishNav_of_not_isInitialized {nav : NavUpdate} (h : nav.isInitialized = false)
    (t : PTime) (simEnv : SimEnvironmentPair) : publishNav t simEnv nav = [] := by
  simp [publishNav, h]

theorem responses_publishNav (t : PTime) (simEnv : SimEnvironmentPair) (nav : NavUpdate) :
    responses (publishNav t simEnv nav) = [] := by
  cases hinit : nav.isInitialized with
  | true =>
      rw [publishNav_of_isInitialized hinit]
      rfl
  | false =>
      rw [publishNav_of_not_isInitialized hinit]
      rfl

theorem StopsAfter.cons {navs pre : List NavUpdate} {status : UpdateStatus}
    (h : StopsAfter cfg ep navs pre status) {nav : NavUpdate} (hpasses : Passes cfg ep nav) :
    StopsAfter cfg ep (nav :: navs) (nav :: pre) status := by
  refine ⟨List.forall_mem_cons.2 ⟨hpasses, h.1⟩, ?_⟩
  -- accepted so far, or failed later
  rcases h.2 with ⟨hstatus, rfl⟩ | ⟨bad, post, rfl, hfails⟩
  · exact .inl ⟨hstatus, rfl⟩
  · exact .inr ⟨bad, post, rfl, hfails⟩

theorem Publishes.nil : Publishes cfg now [] [] :=
  ⟨rfl, by simp [navUpdates], .nil⟩

/-- One update more. -/
theorem Publishes.cons {pre : List NavUpdate} {out : List ManagerOutput}
    (h : Publishes cfg now pre out) {nav : NavUpdate} {simEnv : SimEnvironmentPair}
    (hmem : simEnv ∈ cfg.simEnvPair) (hport : simEnv.modemTcpPort = nav.modemTcpPort.getD 0)
    (k : ℕ) : Publishes cfg now (nav :: pre) (publishNav (now k) simEnv nav ++ out) := by
  cases hinit : nav.isInitialized with
  | true =>
      rw [publishNav_of_isInitialized hinit]
      refine ⟨?_, ?_, ?_⟩
      · simpa [navUpdates, hinit] using h.navs
      -- the new update, or one of the others
      · rintro update (_ | ⟨_, hupdate⟩)
        · exact ⟨simEnv, hmem, hport, rfl⟩
        · exact h.environment update hupdate
      · exact .cons ⟨k, rfl⟩ h.lines
  | false =>
      rw [publishNav_of_not_isInitialized hinit]
      exact ⟨by simpa [hinit] using h.navs, h.environment, h.lines⟩

/-- The loop never throws, stops at the first failure, and publishes what comes before it. -/
theorem handled_handleNavs (hs : Configures cfg s) (ep : TcpEndpoint) (now : ℕ → PTime)
    (navs : List NavUpdate) (k : ℕ) :
    ∃ status out pre, s.handleNavs ep now k navs = some (status, out) ∧
      StopsAfter cfg ep navs pre status ∧ Publishes cfg now pre out ∧ responses out = [] := by
  -- on the updates; the first one decides whether the loop goes on
  induction navs generalizing k with
  | nil =>
      exact ⟨.UPDATE_ACCEPTED, [], [], rfl, ⟨by simp, .inl ⟨rfl, rfl⟩⟩, .nil, rfl⟩
  | cons nav navs ih =>
      rcases check_cases hs ep nav with
        ⟨status, hcheck, hfails⟩ | ⟨simEnv, hcheck, hpasses, hmem, hport⟩
      · refine ⟨status, [], [], ?_, ⟨by simp, .inr ⟨nav, navs, rfl, hfails⟩⟩, .nil, rfl⟩
        rw [handleNavs, hcheck, Option.bind_some]
      · obtain ⟨status, out, pre, hhandle, hstop, hpublish, hresponses⟩ := ih (k + 1)
        refine ⟨status, publishNav (now k) simEnv nav ++ out, nav :: pre, ?_, hstop.cons hpasses,
          hpublish.cons hmem hport k, ?_⟩
        · rw [handleNavs, hcheck, Option.bind_some]
          simp only [hhandle, Option.map_some]
        · rw [responses_append, responses_publishNav, hresponses, List.append_nil]

/-- A request is always answered, with the status of its first failure, and what comes before that
is published. -/
theorem handled_processRequest (hs : Configures cfg s) (req : NetSimManagerRequest)
    (ep : TcpEndpoint) (now : ℕ → PTime) :
    ∃ status out pre, s.processRequest req ep now = some out ∧
      StopsAfter cfg ep req.nav pre status ∧ Publishes cfg now pre out ∧
      responses out = [(⟨req.id.getD 0, status⟩, ep)] := by
  obtain ⟨status, out, pre, hhandle, hstop, hpublish, hresponses⟩ :=
    handled_handleNavs hs ep now req.nav 0
  refine ⟨status, out ++ req.stats.map .receiveStats ++ [.write ⟨req.id.getD 0, status⟩ ep], pre,
    ?_, hstop, ?_, ?_⟩
  · rw [processRequest, hhandle]
    rfl
  -- neither the statistics nor the response count as publications of updates
  · have hnavs : navUpdates (out ++ req.stats.map .receiveStats ++
        [.write ⟨req.id.getD 0, status⟩ ep]) = navUpdates out := by
      simp [navUpdates]
    have hlines : gpsLines (out ++ req.stats.map .receiveStats ++
        [.write ⟨req.id.getD 0, status⟩ ep]) = gpsLines out := by
      simp [gpsLines]
    exact ⟨by rw [hnavs, hpublish.navs], by rw [hnavs]; exact hpublish.environment,
      by rw [hnavs, hlines]; exact hpublish.lines⟩
  · rw [responses_append, responses_append, hresponses, responses_stats]
    rfl

end Loop

/-! ### The status of the response -/

/-- A request is accepted iff an update was published for each of its positions, and nothing is
published for one that is not accepted. -/
def AllOrNothing (req : NetSimManagerRequest) (status : UpdateStatus) (out : List ManagerOutput) :
    Prop :=
  (status = .UPDATE_ACCEPTED ↔ ∀ nav ∈ req.nav, ∃ update ∈ navUpdates out, update.nav = nav) ∧
  (status ≠ .UPDATE_ACCEPTED → navUpdates out = [] ∧ gpsLines out = [])

/-- Two vehicles report, the second for a port that is not configured: the first position is
published although the request fails. And a position without a depth is not published although the
request is accepted. -/
theorem not_allOrNothing_of_failing_or_incomplete :
    let one : Double := .ofFields false 1023 0
    let two : Double := .ofFields false 1024 0
    let cfg : NetSimManagerConfig :=
      { simEnvPair := [⟨62000, "127.0.0.1", 1⟩]
        envBounds := [⟨1, .zero, .zero, two, two, .zero, two⟩] }
    let nav (port : Int32) (depth : Option Double) : NavUpdate :=
      ⟨port, one, one, one, depth, one, one⟩
    let failing : NetSimManagerRequest := { id := some 7, nav := [nav 62000 one, nav 62001 one] }
    let incomplete : NetSimManagerRequest := { id := some 8, nav := [nav 62000 none] }
    let ep : TcpEndpoint := ⟨"127.0.0.1", 50000⟩
    let now : ℕ → PTime := fun _ => ⟨12, 0, 0, 0, 1, 1, 2021⟩
    ∃ s, processConfiguration cfg = some s ∧
      (∃ out, s.processRequest failing ep now = some out ∧
        responses out = [(⟨7, .UPDATE_FAILED_INVALID_MODEM_TCP_PORT⟩, ep)] ∧
        ¬ AllOrNothing failing .UPDATE_FAILED_INVALID_MODEM_TCP_PORT out) ∧
      ∃ out, s.processRequest incomplete ep now = some out ∧
        responses out = [(⟨8, .UPDATE_ACCEPTED⟩, ep)] ∧
        ¬ AllOrNothing incomplete .UPDATE_ACCEPTED out := by
  intro one two cfg nav failing incomplete ep now
  have hconfigured : (processConfiguration cfg).isSome := by decide +kernel
  obtain ⟨s, hs⟩ := Option.isSome_iff_exists.1 hconfigured
  -- the update for port 62000 is out before the one for port 62001 fails
  have hfailing : ((processConfiguration cfg).bind fun s => s.processRequest failing ep now).map
      (fun out => (responses out, navUpdates out)) =
        some ([(⟨7, .UPDATE_FAILED_INVALID_MODEM_TCP_PORT⟩, ep)], [⟨1, nav 62000 one⟩]) := by
    decide +kernel
  -- nothing is published, and the status says that the update was accepted
  have hincomplete : ((processConfiguration cfg).bind fun s =>
      s.processRequest incomplete ep now).map (fun out => (responses out, navUpdates out)) =
        some ([(⟨8, .UPDATE_ACCEPTED⟩, ep)], []) := by
    decide +kernel
  rw [hs, Option.bind_some] at hfailing hincomplete
  obtain ⟨out₁, hout₁, hresult₁⟩ := Option.map_eq_some_iff.1 hfailing
  obtain ⟨out₂, hout₂, hresult₂⟩ := Option.map_eq_some_iff.1 hincomplete
  rw [Prod.mk.injEq] at hresult₁ hresult₂
  refine ⟨s, hs, ⟨out₁, hout₁, hresult₁.1, fun hclaim => ?_⟩, out₂, hout₂, hresult₂.1,
    fun hclaim => ?_⟩
  · have hnone := (hclaim.2 (by decide)).1
    rw [hresult₁.2] at hnone
    cases hnone
  · obtain ⟨update, hmem, -⟩ := hclaim.1.1 rfl (nav 62000 none) (List.mem_singleton_self _)
    rw [hresult₂.2] at hmem
    cases hmem

/-- What the status of a response tells about the updates of the request. -/
structure Truthful (cfg : NetSimManagerConfig) (req : NetSimManagerRequest) (ep : TcpEndpoint)
    (now : ℕ → PTime) (status : UpdateStatus) (out : List ManagerOutput) : Prop where
  /-- If an update was published for each position, the request is accepted. -/
  accepted : (∀ nav ∈ req.nav, ∃ update ∈ navUpdates out, update.nav = nav) →
    status = .UPDATE_ACCEPTED
  /-- If the request is accepted, every position passed the checks, and those that have their
  required fields were published, in order and once. -/
  published : status = .UPDATE_ACCEPTED →
    (∀ nav ∈ req.nav, Passes cfg ep nav) ∧
    (req.nav.filter (·.isInitialized)).Sublist ((navUpdates out).map (·.nav)) ∧
    ((navUpdates out).map (·.nav)).Sublist req.nav
  /-- If it is not, the status is that of the first update that fails, and what was published comes
  before it. -/
  failed : status ≠ .UPDATE_ACCEPTED → ∃ pre nav post, req.nav = pre ++ nav :: post ∧
    (∀ earlier ∈ pre, Passes cfg ep earlier) ∧ Fails cfg ep nav status ∧
    (navUpdates out).map (·.nav) = pre.filter (·.isInitialized)
  /-- The GPS lines are those of the updates that were published. -/
  lines : List.Forall₂ (fun update line => ∃ k, line = writeGpsOut (now k) update.nav)
    (navUpdates out) (gpsLines out)

/-- Every request is answered once, with a status that is truthful about its updates. -/
theorem processRequest_truthful (cfg : NetSimManagerConfig) (s : NetSimManager)
    (hcfg : processConfiguration cfg = some s) (req : NetSimManagerRequest) (ep : TcpEndpoint)
    (now : ℕ → PTime) :
    ∃ out status, s.processRequest req ep now = some out ∧
      responses out = [(⟨req.id.getD 0, status⟩, ep)] ∧ Truthful cfg req ep now status out := by
  obtain ⟨status, out, pre, hrun, ⟨hpre, hstop⟩, hpublish, hresponses⟩ :=
    handled_processRequest (configures_of_processConfiguration hcfg) req ep now
  refine ⟨out, status, hrun, hresponses, fun hall => ?_, fun hstatus => ?_, fun hstatus => ?_,
    hpublish.lines⟩
  · rcases hstop with ⟨hstatus, -⟩ | ⟨nav, post, hnavs, hfails⟩
    · exact hstatus
    · -- the update that fails would have to be among those before it
      obtain ⟨update, hupdate, hnav⟩ := hall nav (by simp [hnavs])
      have hmem : nav ∈ pre.filter (·.isInitialized) := by
        rw [← hpublish.navs, ← hnav]
        exact List.mem_map_of_mem hupdate
      exact absurd hfails (hpre nav (List.mem_of_mem_filter hmem) status)
  · rcases hstop with ⟨-, rfl⟩ | ⟨nav, post, -, hfails⟩
    · rw [hpublish.navs]
      exact ⟨hpre, List.Sublist.refl _, List.filter_sublist⟩
    -- no failure has the status of an accepted request
    · rw [hstatus] at hfails
      exact hfails.elim
  · rcases hstop with ⟨haccepted, -⟩ | ⟨nav, post, hnavs, hfails⟩
    · exact absurd haccepted hstatus
    · exact ⟨pre, nav, post, hnavs, hpre, hfails, hpublish.navs⟩

/-- One vehicle reports its position. -/
theorem truthful_of_one_vehicle :
    let one : Double := .ofFields false 1023 0
    let two : Double := .ofFields false 1024 0
    let cfg : NetSimManagerConfig :=
      { simEnvPair := [⟨62000, "127.0.0.1", 1⟩]
        envBounds := [⟨1, .zero, .zero, two, two, .zero, two⟩] }
    let nav : NavUpdate := ⟨some 62000, one, one, one, one, one, one⟩
    let ep : TcpEndpoint := ⟨"127.0.0.1", 50000⟩
    let now : ℕ → PTime := fun _ => ⟨12, 0, 0, 0, 1, 1, 2021⟩
    ∃ out, Truthful cfg { id := some 7, nav := [nav] } ep now .UPDATE_ACCEPTED out ∧
      navUpdates out = [⟨1, nav⟩] := by
  intro one two cfg nav ep now
  have hrun : ((processConfiguration cfg).bind fun s =>
      s.processRequest { id := some 7, nav := [nav] } ep now).map
        (fun out => (responses out, navUpdates out)) =
          some ([(⟨7, .UPDATE_ACCEPTED⟩, ep)], [⟨1, nav⟩]) := by
    decide +kernel
  obtain ⟨out, hout, hresult⟩ := Option.map_eq_some_iff.1 hrun
  obtain ⟨s, hs, hprocess⟩ := Option.bind_eq_some_iff.1 hout
  rw [Prod.mk.injEq] at hresult
  obtain ⟨out', status, hprocess', hresponses, htruthful⟩ :=
    processRequest_truthful cfg s hs { id := some 7, nav := [nav] } ep now
  rw [hprocess, Option.some_inj] at hprocess'
  subst hprocess'
  rw [hresult.1] at hresponses
  simp only [List.cons.injEq, Prod.mk.injEq, NetSimManagerResponse.mk.injEq, Option.getD_some,
    and_true, true_and] at hresponses
  exact ⟨out, hresponses ▸ htruthful, hresult.2⟩

end NetSimManager

end Netsim

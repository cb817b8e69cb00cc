import Mathlib.Data.List.Nodup
import Mathlib.Tactic.NormNum
import Mathlib.Tactic.Ring
import Netsim.Tool.Model

/-!
# The sweep of the grid

A sweep transmits once at every point of the grid, each time after the receiver has been sent to the
point, and publishes the last statistics of the slot with the point (`Swept`). The tool takes the
value -1 for a point of which there was none, and a positive value for one of which there was: the
statistics of points with range or depth 0 are never published. With these excluded, a run is a
beginning of a sweep, and after as many ticks as the slots have the sweep is complete
(`swept_after`).
-/

namespace Netsim

/-! ### The grid -/

/-- The values from `lo` to `hi` in steps of `d`. -/
def gridSteps (lo hi d : ℤ) : List ℤ :=
  (List.range ((hi - lo) / d + 1).toNat).map fun a : ℕ => lo + a * d

section GridSteps

variable {lo hi d : ℤ}

theorem gridSteps_of_lt (hd : 0 < d) (h : hi < lo) : gridSteps lo hi d = [] := by
  have hneg : (hi - lo) / d < 0 := Int.ediv_neg_of_neg_of_pos (by omega) hd
  rw [gridSteps, Int.toNat_eq_zero.2 (by omega)]
  rfl

theorem gridSteps_of_le (hd : 0 < d) (h : lo ≤ hi) :
    gridSteps lo hi d = lo :: gridSteps (lo + d) hi d := by
  have hnonneg : 0 ≤ (hi - lo) / d := Int.ediv_nonneg (by omega) hd.le
  have hnext : (hi - (lo + d)) / d + 1 = (hi - lo) / d := by
    rw [show hi - (lo + d) = hi - lo - d by ring, Int.sub_ediv_of_dvd _ (dvd_refl d),
      Int.ediv_self hd.ne']
    ring
  have hlength : ((hi - lo) / d + 1).toNat = ((hi - lo) / d).toNat + 1 := by omega
  rw [gridSteps, gridSteps, hnext, hlength, List.range_succ_eq_map, List.map_cons, List.map_map]
  congr 1
  · simp
  · refine List.map_congr_left fun a _ => ?_
    simp only [Function.comp_apply]
    push_cast
    ring

theorem mem_gridSteps (hd : 0 < d) {x : ℤ} :
    x ∈ gridSteps lo hi d ↔ ∃ a : ℕ, x = lo + a * d ∧ x ≤ hi := by
  rw [gridSteps, List.mem_map]
  refine exists_congr fun a => ?_
  have hle : (a : ℤ) ≤ (hi - lo) / d ↔ lo + a * d ≤ hi := by
    rw [Int.le_ediv_iff_mul_le hd]
    omega
  rw [List.mem_range]
  constructor
  · rintro ⟨ha, rfl⟩
    exact ⟨rfl, hle.1 (by omega)⟩
  · rintro ⟨rfl, ha⟩
    have ha := hle.2 ha
    exact ⟨by omega, rfl⟩

theorem nodup_gridSteps (hd : 0 < d) : (gridSteps lo hi d).Nodup := by
  refine List.Nodup.map (fun a b hab => ?_) List.nodup_range
  have hmul : (a : ℤ) * d = b * d := by omega
  exact_mod_cast Int.eq_of_mul_eq_mul_right hd.ne' hmul

end GridSteps

namespace NetSimToolConfig

variable (cfg : NetSimToolConfig)

/-- The points of one depth, from a range on. -/
def row (r z : ℤ) : List (ℤ × ℤ) := (gridSteps r cfg.rMax cfg.dr).map fun r => (r, z)

/-- The points from one on: range varies fastest. -/
def pointsFrom (r z : ℤ) : List (ℤ × ℤ) :=
  cfg.row r z ++ (gridSteps (z + cfg.dz) cfg.zMax cfg.dz).flatMap (cfg.row cfg.rMin)

/-- All points of the grid. -/
def points : List (ℤ × ℤ) := (gridSteps cfg.zMin cfg.zMax cfg.dz).flatMap (cfg.row cfg.rMin)

/-- The grid and the slot of a usable configuration; a slot has `2 * half` ticks. -/
structure Usable (half : ℤ) : Prop where
  rMin_nonneg : 0 ≤ cfg.rMin
  rMin_le : cfg.rMin ≤ cfg.rMax
  zMin_nonneg : 0 ≤ cfg.zMin
  zMin_le : cfg.zMin ≤ cfg.zMax
  dr_pos : 0 < cfg.dr
  dz_pos : 0 < cfg.dz
  /-- The sums are within the range of `int`. -/
  r_int : cfg.rMax + cfg.dr < 2 ^ 31
  z_int : cfg.zMax + cfg.dz < 2 ^ 31
  /-- The number of ticks in a slot is even. -/
  slot : cfg.slotSeconds * loopFrequencyHertz = 2 * half
  half_pos : 0 < half

variable {cfg} {half : ℤ}

theorem Usable.points_eq (h : cfg.Usable half) : cfg.points = cfg.pointsFrom cfg.rMin cfg.zMin := by
  rw [points, gridSteps_of_le h.dz_pos h.zMin_le]
  rfl

/-- The grid has exactly the points within the limits, each once. -/
theorem Usable.mem_points_iff (h : cfg.Usable half) {p : ℤ × ℤ} :
    p ∈ cfg.points ↔ ∃ a b : ℕ, p = (cfg.rMin + a * cfg.dr, cfg.zMin + b * cfg.dz) ∧
      p.1 ≤ cfg.rMax ∧ p.2 ≤ cfg.zMax := by
  obtain ⟨r, z⟩ := p
  simp only [points, row, List.mem_flatMap, List.mem_map, mem_gridSteps h.dz_pos,
    mem_gridSteps h.dr_pos, Prod.mk.injEq]
  constructor
  · rintro ⟨z', ⟨b, hz, hzle⟩, r', ⟨a, hr, hrle⟩, rfl, rfl⟩
    exact ⟨a, b, ⟨hr, hz⟩, hrle, hzle⟩
  · rintro ⟨a, b, ⟨hr, hz⟩, hrle, hzle⟩
    exact ⟨z, ⟨b, hz, hzle⟩, r, ⟨a, hr, hrle⟩, rfl, rfl⟩

theorem Usable.nodup_points (h : cfg.Usable half) : cfg.points.Nodup := by
  refine List.nodup_flatMap.2 ⟨fun z _ => ?_, ?_⟩
  · refine (nodup_gridSteps h.dr_pos).map fun r r' heq => ?_
    exact congrArg Prod.fst heq
  -- rows of different depths share no point
  · refine (nodup_gridSteps h.dz_pos).imp fun {z z'} hne => ?_
    intro p hp hp'
    simp only [row, List.mem_map] at hp hp'
    obtain ⟨r, -, rfl⟩ := hp
    obtain ⟨r', -, heq⟩ := hp'
    exact hne (congrArg Prod.snd heq).symm

/-- The points that are left when a range is done. -/
def pointsAfter (cfg : NetSimToolConfig) (r z : ℤ) : List (ℤ × ℤ) :=
  if r + cfg.dr ≤ cfg.rMax then cfg.pointsFrom (r + cfg.dr) z
  else if z + cfg.dz ≤ cfg.zMax then cfg.pointsFrom cfg.rMin (z + cfg.dz)
  else []

theorem Usable.pointsFrom_eq (h : cfg.Usable half) {r : ℤ} (hr : r ≤ cfg.rMax) (z : ℤ) :
    cfg.pointsFrom r z = (r, z) :: cfg.pointsAfter r z := by
  rw [pointsFrom, row, gridSteps_of_le h.dr_pos hr, List.map_cons, List.cons_append, pointsAfter]
  congr 1
  split_ifs with hnext hrow
  · rfl
  · rw [gridSteps_of_lt h.dr_pos (not_le.1 hnext), gridSteps_of_le h.dz_pos hrow]
    rfl
  · rw [gridSteps_of_lt h.dr_pos (not_le.1 hnext), gridSteps_of_lt h.dz_pos (not_le.1 hrow)]
    rfl

end NetSimToolConfig

namespace NetSimTool

/-! ### What a sweep is -/

section Spec

variable {μ : Type} (lib : ToolLibrary μ) (cfg : NetSimToolConfig)

/-- The entry is a request with the position of the receiver at a point. -/
def IsPosition (p : ℤ × ℤ) (e : ToolEntry μ) : Prop :=
  ∃ id time, e = .navRequest id ⟨cfg.rxTcpPort, time, (lib.convert p.1).1, (lib.convert p.1).2, p.2⟩

/-- Statistics come in or are passed on. -/
def IsStatistics : ToolEntry μ → Prop
  | .received _ => True
  | .statsRequest _ _ _ => True
  | _ => False

/-- Between two transmissions statistics come in, and the receiver is sent to the next point, if
there is one. -/
structure Between (next : Option (ℤ × ℤ)) (entries : List (ToolEntry μ)) : Prop where
  /-- Nothing else happens. -/
  only : ∀ e ∈ entries, IsStatistics e ∨ ∃ p ∈ next, IsPosition lib cfg p e
  /-- The receiver is sent to the next point. -/
  positioned : ∀ p ∈ next, ∃ e ∈ entries, IsPosition lib cfg p e

/-- The entry is a transmission. -/
def isTransmit : ToolEntry μ → Bool
  | .transmit => true
  | _ => false

/-- The statistics that came in. -/
def receivedIn (entries : List (ToolEntry μ)) : List μ :=
  entries.filterMap fun
    | .received stat => some stat
    | _ => none

/-- What is published for a point: the last statistics that came in since the transmission, without
statistics if none came in. -/
def report (entries : List (ToolEntry μ)) (p : ℤ × ℤ) : ToolReceiveStats μ :=
  let stat := ((receivedIn entries).getLast?).getD lib.cleared
  { stats := if lib.isInitialized stat then some stat else none
    sourceZ := cfg.sourceZ
    receiverR := p.1
    receiverZ := p.2 }

/-- At each of the points there is a transmission, and one publication before the next; after that
of the last point the tool quits. -/
def Slots : List (ℤ × ℤ) → List (ToolEntry μ) → Prop
  | [], log => log = [.quit]
  | p :: points, log => ∃ slot rest,
      log = .transmit :: slot ++ .rxStats (report lib cfg slot p) :: rest ∧
        Between lib cfg points.head? slot ∧ Slots points rest

/-- The whole sweep of the grid, after the position of the source has been sent. -/
def Swept (log : List (ToolEntry μ)) : Prop :=
  ∃ time start slots,
    log = .navRequest 0 ⟨cfg.txTcpPort, time, cfg.latOrigin, cfg.lonOrigin, cfg.sourceZ⟩ ::
      start ++ slots ∧
    Between lib cfg cfg.points.head? start ∧ Slots lib cfg cfg.points slots

/-- The log becomes a whole sweep with the slots of the points that are left. -/
def Expects (points : List (ℤ × ℤ)) (log : List (ToolEntry μ)) : Prop :=
  ∀ slots, Slots lib cfg points slots → Swept lib cfg (log ++ slots)

variable {lib cfg} {points : List (ℤ × ℤ)} {log slot : List (ToolEntry μ)} {p : ℤ × ℤ}

variable (lib cfg) in
theorem exists_between (next : Option (ℤ × ℤ)) {entries : List (ToolEntry μ)}
    (h : ∀ e ∈ entries, IsStatistics e ∨ ∃ p ∈ next, IsPosition lib cfg p e) :
    ∃ more, Between lib cfg next (entries ++ more) := by
  cases next with
  | none => exact ⟨[], by simpa using h, by simp⟩
  | some p =>
      let position : ToolEntry μ :=
        .navRequest 0 ⟨cfg.rxTcpPort, 0, (lib.convert p.1).1, (lib.convert p.1).2, p.2⟩
      have hposition : IsPosition lib cfg p position := ⟨0, 0, rfl⟩
      refine ⟨[position], fun e he => ?_, fun q hq => ?_⟩
      · rcases List.mem_append.1 he with he | he
        · exact h e he
        · rw [List.mem_singleton.1 he]
          exact .inr ⟨p, rfl, hposition⟩
      · obtain rfl := Option.some_inj.1 hq
        exact ⟨position, by simp, hposition⟩

variable (lib cfg) in
theorem exists_slots (points : List (ℤ × ℤ)) : ∃ slots, Slots lib cfg points slots := by
  induction points with
  | nil => exact ⟨[.quit], rfl⟩
  | cons p points ih =>
      obtain ⟨rest, hrest⟩ := ih
      obtain ⟨slot, hslot⟩ := exists_between lib cfg points.head? (List.forall_mem_nil _)
      exact ⟨_, slot, rest, rfl, hslot, hrest⟩

/-- A log that expects slots is the beginning of a sweep. -/
theorem Expects.exists_swept (h : Expects lib cfg points log) :
    ∃ future, Swept lib cfg (log ++ future) := by
  obtain ⟨slots, hslots⟩ := exists_slots lib cfg points
  exact ⟨slots, h slots hslots⟩

/-- After the publication the slot is over. -/
theorem Expects.close (h : Expects lib cfg (p :: points) log)
    (hslot : Between lib cfg points.head? slot) :
    Expects lib cfg points (log ++ .transmit :: slot ++ [.rxStats (report lib cfg slot p)]) := by
  intro slots hslots
  have hswept := h _ ⟨slot, slots, rfl, hslot, hslots⟩
  simpa using hswept

/-- An unfinished slot can still be finished. -/
theorem Expects.exists_swept_of_slot (h : Expects lib cfg (p :: points) log)
    (hslot : ∀ e ∈ slot, IsStatistics e ∨ ∃ q ∈ points.head?, IsPosition lib cfg q e) :
    ∃ future, Swept lib cfg (log ++ .transmit :: slot ++ future) := by
  obtain ⟨more, hmore⟩ := exists_between lib cfg points.head? hslot
  obtain ⟨future, hfuture⟩ := (h.close hmore).exists_swept
  refine ⟨more ++ .rxStats (report lib cfg (slot ++ more) p) :: future, ?_⟩
  simpa using hfuture

end Spec

/-! ### The tool sweeps the grid -/

section Steps

variable {μ : Type} {lib : ToolLibrary μ} {cfg : NetSimToolConfig} {half : ℤ} {s : NetSimTool μ}
  {entries slot base : List (ToolEntry μ)} {p : ℤ × ℤ} {stat : μ}

theorem wrapInt_of_lt {x : ℤ} (h0 : 0 ≤ x) (h : x < 2 ^ 31) : wrapInt x = x := by
  rw [wrapInt, Int.bmod_def]
  omega

/-- The points at which there was no transmission yet. -/
def left (cfg : NetSimToolConfig) (s : NetSimTool μ) : List (ℤ × ℤ) :=
  if s.runComplete then [] else cfg.pointsFrom s.r s.z

/-- The next point is in the grid. -/
def InGrid (cfg : NetSimToolConfig) (s : NetSimTool μ) : Prop :=
  s.runComplete = false → (cfg.rMin ≤ s.r ∧ s.r ≤ cfg.rMax) ∧ cfg.zMin ≤ s.z ∧ s.z ≤ cfg.zMax

/-- A transmission goes on to the next point, if there is one. -/
theorem left_initiateTransmission (h : cfg.Usable half) (hs : InGrid cfg s)
    (hnot : s.runComplete = false) :
    left cfg s = (s.r, s.z) :: left cfg (s.initiateTransmission cfg) ∧
      InGrid cfg (s.initiateTransmission cfg) := by
  obtain ⟨⟨hrmin, hrmax⟩, hzmin, hzmax⟩ := hs hnot
  have := h.rMin_nonneg
  have := h.zMin_nonneg
  have := h.dr_pos
  have := h.dz_pos
  have := h.r_int
  have := h.z_int
  have := h.rMin_le
  have hr : wrapInt (s.r + cfg.dr) = s.r + cfg.dr := wrapInt_of_lt (by omega) (by omega)
  have hz : wrapInt (s.z + cfg.dz) = s.z + cfg.dz := wrapInt_of_lt (by omega) (by omega)
  rw [left, hnot, if_neg Bool.false_ne_true, h.pointsFrom_eq hrmax]
  simp only [left, InGrid, initiateTransmission, advance, hr, hz, hnot, Bool.false_or,
    NetSimToolConfig.pointsAfter]
  -- the range goes on, or starts again at the next depth, or the run is complete
  by_cases hnext : s.r + cfg.dr ≤ cfg.rMax
  · rw [if_neg (not_lt.2 hnext)]
    dsimp only
    rw [if_pos hnext, if_neg Bool.false_ne_true]
    exact ⟨rfl, fun _ => ⟨⟨by omega, hnext⟩, hzmin, hzmax⟩⟩
  · rw [if_pos (not_le.1 hnext)]
    dsimp only
    rw [if_neg hnext]
    by_cases hrow : s.z + cfg.dz ≤ cfg.zMax
    · rw [if_pos hrow, decide_eq_false (not_lt.2 hrow), if_neg Bool.false_ne_true]
      exact ⟨rfl, fun _ => ⟨⟨le_refl _, h.rMin_le⟩, by omega, hrow⟩⟩
    · rw [if_neg hrow, decide_eq_true (not_le.1 hrow), if_pos rfl]
      exact ⟨rfl, fun hfalse => absurd hfalse (by simp)⟩

/-- What a transmission does besides going on to the next point. -/
theorem initiateTransmission_eq (s : NetSimTool μ) (cfg : NetSimToolConfig) :
    (s.initiateTransmission cfg).log = s.log ++ [.transmit] ∧
      (s.initiateTransmission cfg).lastR = s.r ∧ (s.initiateTransmission cfg).lastZ = s.z ∧
      (s.initiateTransmission cfg).previousStats = s.previousStats ∧
      (s.initiateTransmission cfg).hasQuit = s.hasQuit ∧
      (s.initiateTransmission cfg).driversReady = s.driversReady := by
  rw [initiateTransmission, advance]
  dsimp only
  split_ifs <;> exact ⟨rfl, rfl, rfl, rfl, rfl, rfl⟩

/-- The loop of a tool whose drivers are ready, with the ticks of its slots counted. -/
theorem loop_eq (h : cfg.Usable half) (hready : 2 ≤ s.driversReady) (now : ℚ) (connected : Bool) :
    s.loop lib cfg now connected =
      if s.loopsSinceLastTransmission = half then
        { (if s.runComplete then s else s.updateReceiverPosition lib cfg now connected) with
          loopsSinceLastTransmission := wrapInt (s.loopsSinceLastTransmission + 1) }
      else if s.loopsSinceLastTransmission = 4 * half then
        if s.runComplete then
          { s.publishStats lib cfg with
            hasQuit := true, log := (s.publishStats lib cfg).log ++ [.quit] }
        else
          { (s.publishStats lib cfg).initiateTransmission cfg with
            loopsSinceLastTransmission := wrapInt (0 + 1) }
      else { s with loopsSinceLastTransmission := wrapInt (s.loopsSinceLastTransmission + 1) } := by
  have hhalf : (s.loopsSinceLastTransmission : ℚ) = cfg.slotSeconds * loopFrequencyHertz / 2 ↔
      s.loopsSinceLastTransmission = half := by
    rw [h.slot, mul_div_cancel_left₀ _ (by norm_num : (2 : ℚ) ≠ 0)]
    exact Int.cast_inj
  have hslot : (s.loopsSinceLastTransmission : ℚ) = 2 * cfg.slotSeconds * loopFrequencyHertz ↔
      s.loopsSinceLastTransmission = 4 * half := by
    rw [mul_assoc, h.slot, ← mul_assoc, show (2 : ℚ) * 2 = 4 by norm_num]
    norm_cast
  have hcomplete : (s.publishStats lib cfg).runComplete = s.runComplete := by
    rw [publishStats]
    split_ifs <;> rfl
  rw [loop, if_neg (by omega)]
  simp only [hhalf, hslot, hcomplete]
  split_ifs <;> rfl

variable (lib) in
/-- What statistics that come in add to the log. -/
theorem receiveData_log (s : NetSimTool μ) (receiveStat : List μ) (connected : Bool) :
    ∃ more, s.receiveData lib receiveStat connected =
        { s with
          previousStats := ((receivedIn more).getLast?).getD s.previousStats
          requestId := (s.receiveData lib receiveStat connected).requestId
          log := s.log ++ more } ∧ ∀ e ∈ more, IsStatistics e := by
  cases receiveStat with
  | nil => exact ⟨[], by simp [receiveData, receivedIn], by simp⟩
  | cons stat rest =>
      refine ⟨.received stat ::
        if connected then [.statsRequest s.requestId (lib.receiveGood stat) stat] else [], ?_, ?_⟩
      · cases connected <;> simp [receiveData, receivedIn]
      · cases connected <;> simp [IsStatistics]

end Steps

/-! ### Where the sweep stands -/

section Stands

variable {μ : Type} {lib : ToolLibrary μ} {cfg : NetSimToolConfig} {half : ℤ} {s s' : NetSimTool μ}
  {entries slot base : List (ToolEntry μ)} {p : ℤ × ℤ} {next : Option (ℤ × ℤ)}

/-- Nothing was transmitted yet. -/
structure Waiting (lib : ToolLibrary μ) (cfg : NetSimToolConfig) (s : NetSimTool μ)
    (start : List (ToolEntry μ)) : Prop where
  log : ∃ time, s.log =
    .navRequest 0 ⟨cfg.txTcpPort, time, cfg.latOrigin, cfg.lonOrigin, cfg.sourceZ⟩ :: start
  between : Between lib cfg cfg.points.head? start
  first : s.r = cfg.rMin ∧ s.z = cfg.zMin ∧ s.runComplete = false
  last : s.lastR = -1
  previous : s.previousStats = ((receivedIn start).getLast?).getD lib.cleared

/-- The slot of a point has begun. -/
structure InSlot (lib : ToolLibrary μ) (cfg : NetSimToolConfig) (half : ℤ) (s : NetSimTool μ)
    (base slot : List (ToolEntry μ)) (p : ℤ × ℤ) : Prop where
  log : s.log = base ++ .transmit :: slot
  expects : Expects lib cfg (p :: left cfg s) base
  only : ∀ e ∈ slot, IsStatistics e ∨ ∃ q ∈ (left cfg s).head?, IsPosition lib cfg q e
  /-- From the middle of the slot on, the receiver has been sent to the next point. -/
  positioned : half < s.loopsSinceLastTransmission →
    ∀ q ∈ (left cfg s).head?, ∃ e ∈ slot, IsPosition lib cfg q e
  last : s.lastR = p.1 ∧ s.lastZ = p.2
  positive : 0 < p.1 ∧ 0 < p.2
  /-- Stale statistics are those that came in before the first transmission. -/
  previous : ∃ stale, s.previousStats = ((receivedIn slot).getLast?).getD stale ∧
    (stale = lib.cleared ∨
      (∀ e ∈ base, isTransmit e = false) ∧ (receivedIn base).getLast? = some stale)

/-- Where a tool stands that has not quit. -/
structure Stands (lib : ToolLibrary μ) (cfg : NetSimToolConfig) (half : ℤ) (s : NetSimTool μ) :
    Prop where
  running : s.hasQuit = false
  grid : InGrid cfg s
  loops : 0 ≤ s.loopsSinceLastTransmission ∧ s.loopsSinceLastTransmission ≤ 4 * half
  stage : (∃ start, Waiting lib cfg s start) ∨ ∃ base slot p, InSlot lib cfg half s base slot p

/-- The invariant of a run. -/
def Sweeping (lib : ToolLibrary μ) (cfg : NetSimToolConfig) (half : ℤ) (s : NetSimTool μ) : Prop :=
  (s.hasQuit ∧ Swept lib cfg s.log) ∨ Stands lib cfg half s

/-! #### Statistics -/

theorem Between.append (h : Between lib cfg next entries) {more : List (ToolEntry μ)}
    (hmore : ∀ e ∈ more, IsStatistics e ∨ ∃ p ∈ next, IsPosition lib cfg p e) :
    Between lib cfg next (entries ++ more) := by
  refine ⟨fun e he => ?_, fun p hp => ?_⟩
  · rcases List.mem_append.1 he with he | he
    · exact h.only e he
    · exact hmore e he
  · obtain ⟨e, he, hposition⟩ := h.positioned p hp
    exact ⟨e, List.mem_append_left _ he, hposition⟩

theorem receivedIn_append (entries more : List (ToolEntry μ)) :
    receivedIn (entries ++ more) = receivedIn entries ++ receivedIn more := List.filterMap_append

/-- The last of the statistics, when more come in. -/
theorem getLast?_receivedIn_append (entries more : List (ToolEntry μ)) (stat : μ) :
    ((receivedIn (entries ++ more)).getLast?).getD stat =
      ((receivedIn more).getLast?).getD (((receivedIn entries).getLast?).getD stat) := by
  rw [receivedIn_append, List.getLast?_append]
  cases (receivedIn more).getLast? <;> rfl

theorem Stands.receiveData (h : Stands lib cfg half s) (receiveStat : List μ) (connected : Bool) :
    Stands lib cfg half (s.receiveData lib receiveStat connected) := by
  obtain ⟨more, heq, hmore⟩ := receiveData_log lib s receiveStat connected
  rw [heq]
  refine ⟨h.running, h.grid, h.loops, ?_⟩
  rcases h.stage with ⟨start, hw⟩ | ⟨base, slot, p, hi⟩
  · obtain ⟨time, hlog⟩ := hw.log
    refine .inl ⟨start ++ more, ⟨time, by simp [hlog]⟩,
      hw.between.append fun e he => .inl (hmore e he), hw.first, hw.last, ?_⟩
    rw [getLast?_receivedIn_append, ← hw.previous]
  · obtain ⟨stale, hprevious, hstale⟩ := hi.previous
    refine .inr ⟨base, slot ++ more, p, by simp [hi.log], hi.expects, fun e he => ?_,
      fun hloops q hq => ?_, hi.last, hi.positive, stale, ?_, hstale⟩
    · rcases List.mem_append.1 he with he | he
      · exact hi.only e he
      · exact .inl (hmore e he)
    · obtain ⟨e, he, hposition⟩ := hi.positioned hloops q hq
      exact ⟨e, List.mem_append_left _ he, hposition⟩
    · rw [getLast?_receivedIn_append, ← hprevious]

/-! #### Ticks -/

/-- The statistics that came in before the first transmission have been replaced by later ones, or
would not be published. -/
def Replaced (lib : ToolLibrary μ) (log : List (ToolEntry μ)) : Prop :=
  receivedIn (log.dropWhile fun e => !isTransmit e) ≠ [] ∨
    ∀ early ∈ (receivedIn (log.takeWhile fun e => !isTransmit e)).getLast?,
      lib.isInitialized early = false ∧ lib.isInitialized lib.cleared = false

instance (lib : ToolLibrary μ) (log : List (ToolEntry μ)) [DecidableEq μ] :
    Decidable (Replaced lib log) := by
  unfold Replaced
  infer_instance

/-- What is required of an event after the first transmission: the client is connected when a
position is to be sent, and statistics from before the transmission are not cached any more when
statistics are published. -/
def Attributable (lib : ToolLibrary μ) (half : ℤ) (s : NetSimTool μ) : ToolEvent μ → Prop
  | .loop _ connected => s.hasQuit = false → 2 ≤ s.driversReady → s.log.any isTransmit →
      (s.loopsSinceLastTransmission = half → s.runComplete = false → connected) ∧
      (s.loopsSinceLastTransmission = 4 * half → Replaced lib s.log)
  | _ => True

instance (lib : ToolLibrary μ) (half : ℤ) (s : NetSimTool μ) [DecidableEq μ] (e : ToolEvent μ) :
    Decidable (Attributable lib half s e) := by
  cases e <;> unfold Attributable <;> infer_instance

/-- The grid is swept from its first point on. -/
theorem Waiting.expects (hw : Waiting lib cfg s slot) :
    Expects lib cfg cfg.points s.log := by
  obtain ⟨time, hlog⟩ := hw.log
  intro slots hslots
  exact ⟨time, slot, slots, by rw [hlog], hw.between, hslots⟩

/-- The log of a waiting tool has no transmission in it. -/
theorem Waiting.not_isTransmit (hw : Waiting lib cfg s slot) {e : ToolEntry μ} (he : e ∈ s.log) :
    isTransmit e = false := by
  obtain ⟨time, hlog⟩ := hw.log
  rw [hlog] at he
  rcases List.mem_cons.1 he with rfl | he
  · rfl
  · rcases hw.between.only e he with hstat | ⟨q, -, id, time, rfl⟩
    · cases e <;> first | rfl | cases hstat
    · rfl

/-- In a slot there has been a transmission. -/
theorem InSlot.any_isTransmit (hi : InSlot lib cfg half s base slot p) : s.log.any isTransmit := by
  rw [hi.log]
  simp [isTransmit]

theorem Waiting.left_eq (h : cfg.Usable half) (hw : Waiting lib cfg s slot) :
    left cfg s = cfg.points := by
  obtain ⟨hr, hz, hcomplete⟩ := hw.first
  rw [left, hcomplete, if_neg Bool.false_ne_true, hr, hz, h.points_eq]

variable (lib cfg) in
/-- A position is sent for the next point. -/
theorem updateReceiverPosition_log (s : NetSimTool μ) (now : ℚ) :
    ∃ e, (s.updateReceiverPosition lib cfg now true).log = s.log ++ [e] ∧
      IsPosition lib cfg (s.r, s.z) e :=
  ⟨_, rfl, _, _, rfl⟩

/-- A tick at which nothing is done. -/
theorem Stands.wait (hint : 4 * half < 2 ^ 31) (hs : Stands lib cfg half s)
    (hend : s.loopsSinceLastTransmission ≠ 4 * half)
    (hmiddle : s.loopsSinceLastTransmission = half → s.runComplete) :
    Stands lib cfg half
      { s with loopsSinceLastTransmission := wrapInt (s.loopsSinceLastTransmission + 1) } := by
  obtain ⟨h0, hle⟩ := hs.loops
  have hwrap : wrapInt (s.loopsSinceLastTransmission + 1) = s.loopsSinceLastTransmission + 1 :=
    wrapInt_of_lt (by omega) (by omega)
  rw [hwrap]
  refine ⟨hs.running, hs.grid, ⟨by dsimp only; omega, by dsimp only; omega⟩, ?_⟩
  rcases hs.stage with ⟨start, hw⟩ | ⟨base, slot, p, hi⟩
  · exact .inl ⟨start, hw.log, hw.between, hw.first, hw.last, hw.previous⟩
  · refine .inr ⟨base, slot, p, hi.log, hi.expects, hi.only, fun hloops => ?_, hi.last, hi.positive,
      hi.previous⟩
    by_cases hhalf : s.loopsSinceLastTransmission = half
    -- the run is complete, and there is no next point
    · have hnone : left cfg s = [] := by rw [left, hmiddle hhalf, if_pos rfl]
      intro q hq
      change q ∈ (left cfg s).head? at hq
      rw [hnone] at hq
      cases hq
    · exact hi.positioned (by dsimp only at hloops; omega)

/-- The tick in the middle of a slot, at which the receiver is sent to the next point. Before the
first transmission it is there already. -/
theorem Stands.position (h : cfg.Usable half) (hint : 4 * half < 2 ^ 31)
    (hs : Stands lib cfg half s) (hmiddle : s.loopsSinceLastTransmission = half)
    (hnot : s.runComplete = false) (now : ℚ) {connected : Bool}
    (hconnected : s.log.any isTransmit → connected) :
    Stands lib cfg half { s.updateReceiverPosition lib cfg now connected with
      loopsSinceLastTransmission := wrapInt (s.loopsSinceLastTransmission + 1) } := by
  have hhalf := h.half_pos
  have hwrap : wrapInt (s.loopsSinceLastTransmission + 1) = s.loopsSinceLastTransmission + 1 :=
    wrapInt_of_lt (by omega) (by omega)
  have hnext : (s.r, s.z) ∈ (left cfg s).head? := by
    rw [left, hnot, if_neg Bool.false_ne_true, h.pointsFrom_eq (hs.grid hnot).1.2]
    rfl
  rw [hwrap]
  refine ⟨hs.running, hs.grid, ⟨by dsimp only; omega, by dsimp only; omega⟩, ?_⟩
  cases connected with
  | false =>
      rcases hs.stage with ⟨start, hw⟩ | ⟨base, slot, p, hi⟩
      · exact .inl ⟨start, hw.log, hw.between, hw.first, hw.last, hw.previous⟩
      · exact absurd (hconnected hi.any_isTransmit) Bool.false_ne_true
  | true =>
      obtain ⟨e, hlog, hposition⟩ := updateReceiverPosition_log lib cfg s now
      rcases hs.stage with ⟨start, hw⟩ | ⟨base, slot, p, hi⟩
      · obtain ⟨time, hlog'⟩ := hw.log
        have hstart : ∀ x ∈ [e],
            IsStatistics x ∨ ∃ q ∈ cfg.points.head?, IsPosition lib cfg q x := by
          intro x hx
          rw [List.mem_singleton.1 hx]
          rw [hw.left_eq h] at hnext
          exact .inr ⟨_, hnext, hposition⟩
        refine .inl ⟨start ++ [e], ⟨time, by rw [hlog, hlog']; rfl⟩, hw.between.append hstart,
          hw.first, hw.last, ?_⟩
        rw [getLast?_receivedIn_append, ← hw.previous]
        obtain ⟨id, time', rfl⟩ := hposition
        rfl
      · obtain ⟨stale, hprevious, hstale⟩ := hi.previous
        refine .inr ⟨base, slot ++ [e], p, by rw [hlog, hi.log]; simp, hi.expects, fun x hx => ?_,
          fun _ q hq => ⟨e, by simp, ?_⟩, hi.last, hi.positive, stale, ?_, hstale⟩
        · rcases List.mem_append.1 hx with hx | hx
          · exact hi.only x hx
          · rw [List.mem_singleton.1 hx]
            exact .inr ⟨_, hnext, hposition⟩
        · rwa [← Option.some_inj.1 (hnext.symm.trans hq)]
        · rw [getLast?_receivedIn_append, ← hprevious]
          obtain ⟨id, time', rfl⟩ := hposition
          rfl

/-- A transmission begins the slot of the next point. -/
theorem stands_of_expects (h : cfg.Usable half) (hpositive : 0 < cfg.rMin ∧ 0 < cfg.zMin)
    (hrunning : s.hasQuit = false) (hgrid : InGrid cfg s) (hnot : s.runComplete = false)
    (hexpects : Expects lib cfg (left cfg s) s.log)
    (hprevious : s.previousStats = lib.cleared ∨
      (∀ e ∈ s.log, isTransmit e = false) ∧
        (receivedIn s.log).getLast? = some s.previousStats) :
    Stands lib cfg half
      { s.initiateTransmission cfg with loopsSinceLastTransmission := wrapInt (0 + 1) } := by
  have hhalf := h.half_pos
  obtain ⟨hleft, hgrid'⟩ := left_initiateTransmission h hgrid hnot
  obtain ⟨⟨hr, -⟩, hz, -⟩ := hgrid hnot
  obtain ⟨hlog, hlastR, hlastZ, hstats, hquit, -⟩ := initiateTransmission_eq s cfg
  have hwrap : wrapInt (0 + 1) = 1 := by decide
  rw [hwrap]
  refine ⟨hquit.trans hrunning, hgrid', ⟨by dsimp only; omega, by dsimp only; omega⟩,
    .inr ⟨s.log, [], (s.r, s.z), hlog, hleft ▸ hexpects, by simp, fun hloops => ?_,
      ⟨hlastR, hlastZ⟩, ⟨by dsimp only; omega, by dsimp only; omega⟩, s.previousStats, ?_,
      hprevious⟩⟩
  · dsimp only at hloops
    omega
  · exact hstats

/-- At the end of a slot its statistics are published. -/
theorem InSlot.publishStats (hi : InSlot lib cfg half s base slot p)
    (hend : half < s.loopsSinceLastTransmission) (hreplaced : Replaced lib s.log) :
    (s.publishStats lib cfg).previousStats = lib.cleared ∧
      Expects lib cfg (left cfg s) (s.publishStats lib cfg).log ∧
      s.publishStats lib cfg = { s with
        previousStats := lib.cleared, log := (s.publishStats lib cfg).log } := by
  obtain ⟨hlastR, hlastZ⟩ := hi.last
  obtain ⟨hr, hz⟩ := hi.positive
  obtain ⟨stale, hprevious, hstale⟩ := hi.previous
  have hstats : (if lib.isInitialized s.previousStats then some s.previousStats else none) =
      (report lib cfg slot p).stats := by
    rw [hprevious, report]
    cases hslot : (receivedIn slot).getLast? with
    | some stat => rfl
    | none =>
        rcases hstale with rfl | ⟨hbase, hearly⟩
        · rfl
        -- those from before the first transmission would not be published
        · have hsplit : s.log.takeWhile (fun e => !isTransmit e) = base ∧
              s.log.dropWhile (fun e => !isTransmit e) = .transmit :: slot := by
            rw [hi.log, List.takeWhile_append_of_pos (fun e he => by simp [hbase e he]),
              List.dropWhile_append_of_pos (fun e he => by simp [hbase e he])]
            simp [isTransmit]
          rw [Replaced, hsplit.1, hsplit.2] at hreplaced
          have hnone : receivedIn (.transmit :: slot) = [] := List.getLast?_eq_none_iff.1 hslot
          obtain ⟨hstale, hcleared⟩ := hreplaced.resolve_left (not_not.2 hnone) stale hearly
          simp [hstale, hcleared]
  have hpublish : s.publishStats lib cfg = { s with
      log := s.log ++ [.rxStats (report lib cfg slot p)], previousStats := lib.cleared } := by
    rw [NetSimTool.publishStats, if_pos ⟨hlastR ▸ hr, hlastZ ▸ hz⟩, hstats, hlastR, hlastZ]
    rfl
  rw [hpublish]
  refine ⟨rfl, ?_, rfl⟩
  rw [hi.log]
  exact hi.expects.close ⟨hi.only, hi.positioned hend⟩

/-- The tick at the end of a slot. -/
theorem Stands.finish (h : cfg.Usable half) (hpositive : 0 < cfg.rMin ∧ 0 < cfg.zMin)
    (hs : Stands lib cfg half s) (hend : s.loopsSinceLastTransmission = 4 * half)
    (hreplaced : s.log.any isTransmit → Replaced lib s.log) :
    Sweeping lib cfg half
      (if s.runComplete then
        { s.publishStats lib cfg with
          hasQuit := true, log := (s.publishStats lib cfg).log ++ [.quit] }
      else
        { (s.publishStats lib cfg).initiateTransmission cfg with
          loopsSinceLastTransmission := wrapInt (0 + 1) }) := by
  have hhalf := h.half_pos
  rcases hs.stage with ⟨start, hw⟩ | ⟨base, slot, p, hi⟩
  · have hpublish : s.publishStats lib cfg = s := by
      rw [NetSimTool.publishStats, if_neg (by rw [hw.last]; simp)]
    have hnot := hw.first.2.2
    rw [hpublish, hnot, if_neg Bool.false_ne_true]
    refine .inr (stands_of_expects h hpositive hs.running hs.grid hnot
      (hw.left_eq h ▸ hw.expects) ?_)
    by_cases hnone : receivedIn start = []
    · left
      rw [hw.previous, hnone]
      rfl
    · obtain ⟨time, hlog⟩ := hw.log
      refine .inr ⟨fun e he => hw.not_isTransmit he, ?_⟩
      rw [hw.previous, hlog, List.getLast?_eq_some_getLast hnone, Option.getD_some,
        ← List.getLast?_eq_some_getLast hnone]
      rfl
  · obtain ⟨hcleared, hexpects, hpublish⟩ :=
      hi.publishStats (by omega) (hreplaced hi.any_isTransmit)
    cases hcomplete : s.runComplete with
    | true =>
        rw [if_pos rfl]
        refine .inl ⟨rfl, ?_⟩
        rw [left, hcomplete, if_pos rfl] at hexpects
        exact hexpects [.quit] rfl
    | false =>
        rw [if_neg Bool.false_ne_true]
        refine .inr (stands_of_expects h hpositive ?_ ?_ ?_ ?_ (.inl hcleared))
        · rw [hpublish]
          exact hs.running
        · rw [hpublish]
          exact hs.grid
        · rw [hpublish]
          exact hcomplete
        · have hleft : left cfg (s.publishStats lib cfg) = left cfg s := by
            rw [hpublish]
            rfl
          rw [hleft]
          exact hexpects

end Stands

/-! ### Runs -/

section Runs

variable {μ : Type} {lib : ToolLibrary μ} {cfg : NetSimToolConfig} {half : ℤ} {s : NetSimTool μ}
  {e : ToolEvent μ}

theorem stands_init (h : cfg.Usable half) (now : ℚ) :
    Stands lib cfg half (init lib cfg now) := by
  have hhalf := h.half_pos
  have hpoints : (cfg.rMin, cfg.zMin) ∈ cfg.points.head? := by
    rw [h.points_eq, h.pointsFrom_eq h.rMin_le]
    rfl
  refine ⟨rfl, fun _ => ⟨⟨le_refl _, h.rMin_le⟩, le_refl _, h.zMin_le⟩,
    ⟨le_refl _, by dsimp only [init, updateReceiverPosition, sendNav]; omega⟩, .inl
    ⟨[.navRequest (wrapInt (0 + 1)) ⟨cfg.rxTcpPort, now, (lib.convert cfg.rMin).1,
      (lib.convert cfg.rMin).2, cfg.zMin⟩], ⟨now, rfl⟩, ⟨fun e he => ?_, fun q hq => ?_⟩,
      ⟨rfl, rfl, rfl⟩, rfl, rfl⟩⟩
  · rw [List.mem_singleton.1 he]
    exact .inr ⟨_, hpoints, _, _, rfl⟩
  · refine ⟨_, List.mem_singleton.2 rfl, ?_⟩
    rw [← Option.some_inj.1 (hpoints.symm.trans hq)]
    exact ⟨_, _, rfl⟩

theorem Stands.loop (h : cfg.Usable half) (hint : 4 * half < 2 ^ 31)
    (hpositive : 0 < cfg.rMin ∧ 0 < cfg.zMin) (hs : Stands lib cfg half s) {now : ℚ}
    {connected : Bool} (he : Attributable lib half s (.loop now connected)) :
    Sweeping lib cfg half (s.loop lib cfg now connected) := by
  have hhalf := h.half_pos
  by_cases hready : 2 ≤ s.driversReady
  · have hattributable := he hs.running hready
    rw [loop_eq h hready]
    by_cases hmiddle : s.loopsSinceLastTransmission = half
    · rw [if_pos hmiddle]
      cases hcomplete : s.runComplete with
      | true =>
          rw [if_pos rfl]
          exact .inr (hs.wait hint (by omega) fun _ => hcomplete)
      | false =>
          rw [if_neg Bool.false_ne_true]
          exact .inr (hs.position h hint hmiddle hcomplete now fun hany =>
            (hattributable hany).1 hmiddle hcomplete)
    · rw [if_neg hmiddle]
      by_cases hend : s.loopsSinceLastTransmission = 4 * half
      · rw [if_pos hend]
        exact hs.finish h hpositive hend fun hany => (hattributable hany).2 hend
      · rw [if_neg hend]
        exact .inr (hs.wait hint hend fun hhalf => absurd hhalf hmiddle)
  -- the loop does nothing before both drivers are ready
  · rw [NetSimTool.loop, if_pos (by omega)]
    exact .inr hs

/-- A tool that has quit does nothing. -/
theorem step_of_hasQuit (hquit : s.hasQuit) (e : ToolEvent μ) : s.step lib cfg e = s := by
  cases e <;> simp [NetSimTool.step, hquit]

theorem Sweeping.step (h : cfg.Usable half) (hint : 4 * half < 2 ^ 31)
    (hpositive : 0 < cfg.rMin ∧ 0 < cfg.zMin) (hs : Sweeping lib cfg half s)
    (he : Attributable lib half s e) : Sweeping lib cfg half (s.step lib cfg e) := by
  rcases hs with ⟨hquit, hswept⟩ | hs
  · rw [step_of_hasQuit hquit]
    exact .inl ⟨hquit, hswept⟩
  · have hrunning := hs.running
    cases e with
    | ready =>
        rw [NetSimTool.step, hrunning, if_neg Bool.false_ne_true]
        exact .inr ⟨rfl, hs.grid, hs.loops, hs.stage.imp
          (fun ⟨start, hw⟩ => ⟨start, hw.log, hw.between, hw.first, hw.last, hw.previous⟩)
          fun ⟨base, slot, p, hi⟩ => ⟨base, slot, p, hi.log, hi.expects, hi.only, hi.positioned,
            hi.last, hi.positive, hi.previous⟩⟩
    | receiveData receiveStat connected =>
        rw [NetSimTool.step, hrunning, if_neg Bool.false_ne_true]
        exact .inr (hs.receiveData receiveStat connected)
    | loop now connected =>
        rw [NetSimTool.step, hrunning, if_neg Bool.false_ne_true]
        exact hs.loop h hint hpositive he

/-- The log of a sweeping tool is the beginning of a sweep. -/
theorem Sweeping.exists_swept (hs : Sweeping lib cfg half s) :
    ∃ future, Swept lib cfg (s.log ++ future) := by
  rcases hs with ⟨-, hswept⟩ | hs
  · exact ⟨[], by rwa [List.append_nil]⟩
  · rcases hs.stage with ⟨start, hw⟩ | ⟨base, slot, p, hi⟩
    · exact hw.expects.exists_swept
    · rw [hi.log]
      exact hi.expects.exists_swept_of_slot hi.only

/-! #### Completion -/

/-- The number of ticks until the tool quits. -/
def ticksLeft (cfg : NetSimToolConfig) (half : ℤ) (s : NetSimTool μ) : ℤ :=
  if s.hasQuit then 0
  else 4 * half + 1 - s.loopsSinceLastTransmission + 4 * half * (left cfg s).length

/-- The number of ticks among some events. -/
def ticks (es : List (ToolEvent μ)) : ℕ :=
  es.countP fun
    | .loop _ _ => true
    | _ => false

/-- Publication changes only the cached statistics and the log. -/
theorem publishStats_eq (s : NetSimTool μ) : s.publishStats lib cfg =
    { s with
      previousStats := (s.publishStats lib cfg).previousStats
      log := (s.publishStats lib cfg).log } := by
  by_cases hlast : 0 < s.lastR ∧ 0 < s.lastZ
  · simp only [publishStats, if_pos hlast]
  · simp only [publishStats, if_neg hlast]

/-- The slot of the next point begins with all its ticks. -/
theorem ticksLeft_initiateTransmission (h : cfg.Usable half) (hgrid : InGrid cfg s)
    (hnot : s.runComplete = false) (hrunning : s.hasQuit = false) :
    ticksLeft cfg half
        { s.initiateTransmission cfg with loopsSinceLastTransmission := wrapInt (0 + 1) } =
      4 * half * (left cfg s).length ∧
      (s.initiateTransmission cfg).driversReady = s.driversReady := by
  obtain ⟨hleft, -⟩ := left_initiateTransmission h hgrid hnot
  obtain ⟨-, -, -, -, hquit, hdrivers⟩ := initiateTransmission_eq s cfg
  have hone : wrapInt (0 + 1) = 1 := by decide
  refine ⟨?_, hdrivers⟩
  show (if (s.initiateTransmission cfg).hasQuit then 0 else 4 * half + 1 - wrapInt (0 + 1) +
    4 * half * ((left cfg (s.initiateTransmission cfg)).length : ℤ)) = _
  rw [hquit, hrunning, if_neg Bool.false_ne_true, hone, hleft, List.length_cons]
  push_cast
  ring

/-- Every tick brings the end nearer. -/
theorem ticksLeft_loop (h : cfg.Usable half) (hint : 4 * half < 2 ^ 31)
    (hs : Stands lib cfg half s) (hready : 2 ≤ s.driversReady) (now : ℚ) (connected : Bool) :
    ticksLeft cfg half (s.loop lib cfg now connected) = ticksLeft cfg half s - 1 ∧
      2 ≤ (s.loop lib cfg now connected).driversReady := by
  have hhalf := h.half_pos
  obtain ⟨h0, hle⟩ := hs.loops
  have hwait : s.loopsSinceLastTransmission ≠ 4 * half →
      wrapInt (s.loopsSinceLastTransmission + 1) = s.loopsSinceLastTransmission + 1 :=
    fun hne => wrapInt_of_lt (by omega) (by omega)
  have hleft : ticksLeft cfg half s =
      4 * half + 1 - s.loopsSinceLastTransmission + 4 * half * (left cfg s).length := by
    rw [ticksLeft, hs.running, if_neg Bool.false_ne_true]
  rw [loop_eq h hready, hleft]
  split_ifs with hmiddle hcomplete hend hcomplete
  · rw [hwait (by omega)]
    refine ⟨?_, hready⟩
    simp only [ticksLeft, hs.running, left, Bool.false_eq_true, if_false]
    omega
  · rw [hwait (by omega)]
    refine ⟨?_, hready⟩
    simp only [ticksLeft, updateReceiverPosition, sendNav, hs.running, left, Bool.false_eq_true,
      if_false]
    omega
  -- the tool quits after the last slot
  · refine ⟨?_, by rw [publishStats_eq]; exact hready⟩
    simp only [ticksLeft, left, hcomplete, if_true, List.length_nil]
    simp [hend]
  · rw [Bool.not_eq_true] at hcomplete
    rw [publishStats_eq]
    obtain ⟨hticks, hdrivers⟩ := ticksLeft_initiateTransmission (s := { s with
      previousStats := (s.publishStats lib cfg).previousStats
      log := (s.publishStats lib cfg).log }) h hs.grid hcomplete hs.running
    refine ⟨?_, hdrivers.symm ▸ hready⟩
    rw [hticks, hend]
    show 4 * half * ((left cfg s).length : ℤ) = _
    ring
  · rw [hwait hend]
    refine ⟨?_, hready⟩
    simp only [ticksLeft, hs.running, left, Bool.false_eq_true, if_false]
    omega

/-- After the drivers are ready, every tick and no other event brings the end nearer. -/
theorem ticksLeft_step (h : cfg.Usable half) (hint : 4 * half < 2 ^ 31)
    (hs : Stands lib cfg half s) (e : ToolEvent μ) :
    ticksLeft cfg half (s.step lib cfg e) ≤ ticksLeft cfg half s ∧
      (2 ≤ s.driversReady → 2 ≤ (s.step lib cfg e).driversReady ∧
        ticksLeft cfg half (s.step lib cfg e) = ticksLeft cfg half s - ticks [e]) := by
  have hrunning : ¬ s.hasQuit := by simp [hs.running]
  cases e with
  | ready =>
      rw [NetSimTool.step, if_neg hrunning]
      exact ⟨le_refl _, fun hready => ⟨by dsimp only; omega, by simp [ticks, ticksLeft, left]⟩⟩
  | receiveData receiveStat connected =>
      obtain ⟨more, heq, -⟩ := receiveData_log lib s receiveStat connected
      rw [NetSimTool.step, if_neg hrunning, heq]
      exact ⟨le_refl _, fun hready => ⟨hready, by simp [ticks, ticksLeft, left]⟩⟩
  | loop now connected =>
      rw [NetSimTool.step, if_neg hrunning]
      by_cases hready : 2 ≤ s.driversReady
      · obtain ⟨hticks, hdrivers⟩ := ticksLeft_loop h hint hs hready now connected
        exact ⟨by omega, fun _ => ⟨hdrivers, by rw [hticks]; rfl⟩⟩
      · rw [NetSimTool.loop, if_pos (by omega)]
        exact ⟨le_refl _, fun hready' => absurd hready' hready⟩

/-- With no more ticks left than there are to come, the tool will have quit. -/
theorem hasQuit_run (h : cfg.Usable half) (hint : 4 * half < 2 ^ 31)
    (hpositive : 0 < cfg.rMin ∧ 0 < cfg.zMin) (hs : Sweeping lib cfg half s)
    (hready : 2 ≤ s.driversReady) (es : List (ToolEvent μ))
    (hguard : Run.Always (step lib cfg) s (Attributable lib half) es)
    (hticks : ticksLeft cfg half s ≤ ticks es) : (Run.run (step lib cfg) s es).hasQuit := by
  induction es generalizing s with
  | nil =>
      rcases hs with ⟨hquit, -⟩ | hs
      · exact hquit
      · have hhalf := h.half_pos
        have hpos : 0 ≤ 4 * half * ((left cfg s).length : ℤ) := by positivity
        have hle := hs.loops.2
        rw [ticksLeft, hs.running, if_neg Bool.false_ne_true] at hticks
        simp only [ticks, List.countP_nil, Nat.cast_zero] at hticks
        omega
  | cons e es ih =>
      obtain ⟨he, hes⟩ := (Run.always_cons _ _ _ _ _).1 hguard
      have hs' := hs.step h hint hpositive he
      show (Run.run (step lib cfg) (s.step lib cfg e) es).hasQuit
      rcases hs with ⟨hquit, -⟩ | hs
      · rw [step_of_hasQuit hquit] at hs' hes ⊢
        exact ih hs' hready hes (by rw [ticksLeft, hquit, if_pos rfl]; omega)
      · obtain ⟨hready', hless⟩ := (ticksLeft_step h hint hs e).2 hready
        refine ih hs' hready' hes ?_
        have hcount : ticks (e :: es) = ticks [e] + ticks es := by
          rw [ticks, ticks, ticks, ← List.countP_append, List.singleton_append]
        rw [hcount] at hticks
        push_cast at hticks
        omega

/-- If no point has range or depth 0, the client is connected when positions are to be sent after
the first transmission, and no statistics from before it are published with its point, then the log
of a run is the beginning of a sweep, and a whole one when the tool quits, as it does when the ticks
of all slots have passed. The points of the sweep are those within the limits, each once. -/
theorem swept_after (lib : ToolLibrary μ) (cfg : NetSimToolConfig) (half : ℤ)
    (h : cfg.Usable half) (hint : 4 * half < 2 ^ 31) (hpositive : 0 < cfg.rMin ∧ 0 < cfg.zMin)
    (now : ℚ) (es : List (ToolEvent μ))
    (hguard : Run.Always (step lib cfg) (init lib cfg now) (Attributable lib half) es) :
    (cfg.points.Nodup ∧ ∀ p, p ∈ cfg.points ↔
      ∃ a b : ℕ, p = (cfg.rMin + a * cfg.dr, cfg.zMin + b * cfg.dz) ∧
        p.1 ≤ cfg.rMax ∧ p.2 ≤ cfg.zMax) ∧
    (∃ future, Swept lib cfg ((after lib cfg now es).log ++ future)) ∧
    ((after lib cfg now es).hasQuit → Swept lib cfg (after lib cfg now es).log) ∧
    ∀ pre post, es = pre ++ post → 2 ≤ (after lib cfg now pre).driversReady →
      4 * half * (cfg.points.length + 1) + 1 ≤ ticks post → (after lib cfg now es).hasQuit := by
  -- the ticks that are left never become more than they are in the beginning
  let I (s : NetSimTool μ) : Prop := Sweeping lib cfg half s ∧
    ticksLeft cfg half s ≤ 4 * half * (cfg.points.length + 1) + 1
  have hinit : I (init lib cfg now) := by
    refine ⟨.inr (stands_init h now), ?_⟩
    have hleft : left cfg (init lib cfg now) = cfg.points := h.points_eq.symm
    rw [ticksLeft, hleft]
    show 4 * half + 1 - 0 + 4 * half * (cfg.points.length : ℤ) ≤ _
    exact le_of_eq (by ring)
  have hrun (fs : List (ToolEvent μ))
      (hfs : Run.Always (step lib cfg) (init lib cfg now) (Attributable lib half) fs) :
      I (after lib cfg now fs) := by
    refine Run.run_induction (step lib cfg) (init lib cfg now) (I := fun _ => I) hinit
      (fun _ e s hs he => ⟨hs.1.step h hint hpositive he, ?_⟩) fs hfs
    rcases hs.1 with ⟨hquit, -⟩ | hstands
    · rw [step_of_hasQuit hquit]
      exact hs.2
    · exact ((ticksLeft_step h hint hstands e).1).trans hs.2
  obtain ⟨hsweeping, -⟩ := hrun es hguard
  refine ⟨⟨h.nodup_points, fun p => h.mem_points_iff⟩, hsweeping.exists_swept, fun hquit => ?_, ?_⟩
  · rcases hsweeping with ⟨-, hswept⟩ | hstands
    · exact hswept
    · rw [hstands.running] at hquit
      cases hquit
  · rintro pre post rfl hready hticks
    obtain ⟨hs, hleft⟩ := hrun pre (hguard.of_append (step lib cfg) _)
    have hquit := hasQuit_run h hint hpositive hs hready post
      (hguard.of_append_right (step lib cfg) _) (hleft.trans hticks)
    rwa [after, Run.run_append]

/-- A library for statistics that are numbers, with 0 for none. -/
def numbers : ToolLibrary ℕ := ⟨0, fun stat => 0 < stat, fun _ => true, fun r => (r, 0)⟩

/-- A grid of one point with a slot of two ticks. -/
def onePoint (r z : ℤ) : NetSimToolConfig := ⟨62000, 62001, 1 / 5, r, z, r, z, 1, 1, 10, 0, 0⟩

/-- Both drivers are ready, and one statistic comes in in the slot of the point. -/
def oneSlot : List (ToolEvent ℕ) :=
  [.ready, .ready] ++ List.replicate 5 (.loop 0 true) ++ .receiveData [7] true ::
    List.replicate 4 (.loop 0 true)

theorem usable_onePoint {r z : ℤ} (hr : 0 ≤ r ∧ r < 100) (hz : 0 ≤ z ∧ z < 100) :
    (onePoint r z).Usable 1 where
  rMin_nonneg := hr.1
  rMin_le := le_refl _
  zMin_nonneg := hz.1
  zMin_le := le_refl _
  dr_pos := Int.one_pos
  dz_pos := Int.one_pos
  r_int := by
    show r + 1 < 2 ^ 31
    omega
  z_int := by
    show z + 1 < 2 ^ 31
    omega
  slot := by norm_num [onePoint, loopFrequencyHertz]
  half_pos := by decide

/-- The statistic of the slot is published with the point. -/
theorem swept_of_one_point :
    (∃ future,
      Swept numbers (onePoint 1 1) ((after numbers (onePoint 1 1) 0 oneSlot).log ++ future)) ∧
    Swept numbers (onePoint 1 1) (after numbers (onePoint 1 1) 0 oneSlot).log ∧
    .rxStats ⟨some 7, 0, 10, 1, 1⟩ ∈ (after numbers (onePoint 1 1) 0 oneSlot).log := by
  have hswept := swept_after numbers (onePoint 1 1) 1 (usable_onePoint (by decide) (by decide))
    (by decide) (by decide) 0 oneSlot (by decide +kernel)
  have hquit : (after numbers (onePoint 1 1) 0 oneSlot).hasQuit :=
    hswept.2.2.2 [.ready, .ready] _ rfl (by decide +kernel) (by decide +kernel)
  exact ⟨hswept.2.1, hswept.2.2.1 hquit, by decide +kernel⟩

/-- The statistics of a point with range 0 are not published. -/
theorem not_swept_of_zero_range :
    (onePoint 0 1).Usable 1 ∧
      Run.Always (step numbers (onePoint 0 1)) (init numbers (onePoint 0 1) 0)
        (Attributable numbers 1) oneSlot ∧
      (after numbers (onePoint 0 1) 0 oneSlot).hasQuit ∧
      ¬ Swept numbers (onePoint 0 1) (after numbers (onePoint 0 1) 0 oneSlot).log := by
  refine ⟨usable_onePoint (by decide) (by decide), by decide +kernel, by decide +kernel, ?_⟩
  rintro ⟨time, start, slots, hlog, -, hslots⟩
  have hpoints : (onePoint 0 1).points = [(0, 1)] := by decide
  rw [hpoints] at hslots
  obtain ⟨slot, rest, rfl, -, -⟩ := hslots
  -- the sweep has statistics, and the log has none
  have hmem : .rxStats (report numbers (onePoint 0 1) slot (0, 1)) ∈
      (after numbers (onePoint 0 1) 0 oneSlot).log := by
    rw [hlog]
    simp
  have hnone : ∀ e ∈ (after numbers (onePoint 0 1) 0 oneSlot).log,
      (match e with | .rxStats _ => false | _ => true) = true := by
    decide +kernel
  exact absurd (hnone _ hmem) (by simp)

end Runs

end NetSimTool

end Netsim

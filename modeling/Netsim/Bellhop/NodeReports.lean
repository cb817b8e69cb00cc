import Netsim.Lib.KeyedStore
import Netsim.Lib.Run
import Netsim.Bellhop.Receivers

/-!
# Node reports

The positions of the vehicles arrive as `NODE_REPORT` and, for our own vehicle, as `NAV_X`, `NAV_Y`
and so on. A `NODE_REPORT` is entered under the name in lower case, and `handle_request` looks for
names in lower case; but the `NAV` handlers enter values under the name of the configuration as it
is. So names are matched without regard to case iff that name is in lower case, or the `NAV`
messages say nothing that a `NODE_REPORT` has not said (`matched_iff`).
-/

namespace Netsim

namespace Bellhop

/-- `val_from_string`, which looks for `key=` in a string. -/
structure ValFromString where
  /-- For a `std::string`. -/
  string : String → String → Option String
  /-- For a `double`. -/
  double : String → String → Option Double

/-- A message that updates the node reports. -/
inductive NavMessage
  | nodeReport (s : String)
  | navX (value time : Double)
  | navY (value : Double)
  | navDepth (value : Double)
  | navSpeed (value : Double)
  | navHeading (value : Double)
deriving DecidableEq

/-- `node_reports_`. -/
abbrev NodeReports := String → Option NodeReport

attribute [ext] NodeReport

deriving instance DecidableEq for NodeReport

namespace NodeReport

/-- A `NodeReport` that `operator[]` has made. -/
def zero : NodeReport where
  time := .zero
  x := .zero
  y := .zero
  depth := .zero
  speed := .zero
  heading := .zero

end NodeReport

namespace NodeReports

variable (vfs : ValFromString) (ownship : String)

/-- `operator[]`. -/
def get (reports : NodeReports) (name : String) : NodeReport := (reports name).getD .zero

/-- Assign to the fields of the report under a name. -/
def set (reports : NodeReports) (name : String) (nr : NodeReport) : NodeReports :=
  Function.update reports name (some nr)

/-- `handle_node_report`. -/
def handleNodeReport (reports : NodeReports) (s : String) : NodeReports :=
  let name := ((vfs.string s "NAME").getD "").toLower
  let nr := reports.get name
  reports.set name {
    time := (vfs.double s "UTC_TIME" <|> vfs.double s "TIME").getD nr.time
    x := (vfs.double s "X").getD nr.x
    y := (vfs.double s "Y").getD nr.y
    depth := (vfs.double s "DEPTH" <|> vfs.double s "DEP").getD nr.depth
    speed := (vfs.double s "SPD").getD nr.speed
    heading := (vfs.double s "HDG").getD nr.heading }

/-- `handle_nav_x`. -/
def handleNavX (reports : NodeReports) (value time : Double) : NodeReports :=
  reports.set ownship { reports.get ownship with x := value, time := time }

/-- `handle_nav_y`. -/
def handleNavY (reports : NodeReports) (value : Double) : NodeReports :=
  reports.set ownship { reports.get ownship with y := value }

/-- `handle_nav_depth`, without the sound speed that it publishes. -/
def handleNavDepth (reports : NodeReports) (value : Double) : NodeReports :=
  reports.set ownship { reports.get ownship with depth := value }

/-- `handle_nav_speed`. -/
def handleNavSpeed (reports : NodeReports) (value : Double) : NodeReports :=
  reports.set ownship { reports.get ownship with speed := value }

/-- `handle_nav_heading`. -/
def handleNavHeading (reports : NodeReports) (value : Double) : NodeReports :=
  reports.set ownship { reports.get ownship with heading := value }

/-- The handler of a message; `ownship` is the name of our vehicle in the configuration, which the
constructor sets to the community if there is none. -/
def handle (reports : NodeReports) : NavMessage → NodeReports
  | .nodeReport s => reports.handleNodeReport vfs s
  | .navX value time => reports.handleNavX ownship value time
  | .navY value => reports.handleNavY ownship value
  | .navDepth value => reports.handleNavDepth ownship value
  | .navSpeed value => reports.handleNavSpeed ownship value
  | .navHeading value => reports.handleNavHeading ownship value

/-- The node reports after some messages. -/
def after (msgs : List NavMessage) : NodeReports :=
  Run.run (handle vfs ownship) (fun _ => none) msgs

end NodeReports

/-! ### What the reports should be -/

/-- What a message says about a vehicle. -/
structure ReportFields where
  /-- The time of the report. -/
  time : Option Double := none
  /-- The position. -/
  x : Option Double := none
  /-- The position. -/
  y : Option Double := none
  /-- The depth. -/
  depth : Option Double := none
  /-- The speed. -/
  speed : Option Double := none
  /-- The heading. -/
  heading : Option Double := none

namespace NavMessage

variable (vfs : ValFromString) (ownship : String)

/-- The vehicle a message is about, in lower case. -/
def vehicle : NavMessage → String
  | .nodeReport s => ((vfs.string s "NAME").getD "").toLower
  | _ => ownship.toLower

/-- What a message says about its vehicle. -/
def fields : NavMessage → ReportFields
  | .nodeReport s => {
      time := vfs.double s "UTC_TIME" <|> vfs.double s "TIME"
      x := vfs.double s "X"
      y := vfs.double s "Y"
      depth := vfs.double s "DEPTH" <|> vfs.double s "DEP"
      speed := vfs.double s "SPD"
      heading := vfs.double s "HDG" }
  | .navX value time => { x := some value, time := some time }
  | .navY value => { y := some value }
  | .navDepth value => { depth := some value }
  | .navSpeed value => { speed := some value }
  | .navHeading value => { heading := some value }

/-- Whether a message is about our own vehicle without naming it. -/
def isNav : NavMessage → Bool
  | .nodeReport _ => false
  | _ => true

/-- A report with the fields of a message. -/
def enter (m : NavMessage) (nr : NodeReport) : NodeReport where
  time := (m.fields vfs).time.getD nr.time
  x := (m.fields vfs).x.getD nr.x
  y := (m.fields vfs).y.getD nr.y
  depth := (m.fields vfs).depth.getD nr.depth
  speed := (m.fields vfs).speed.getD nr.speed
  heading := (m.fields vfs).heading.getD nr.heading

end NavMessage

section Latest

variable (vfs : ValFromString) (ownship : String)

/-- The report of a vehicle, if any message about it has arrived; every field is from the last
message about it that sets the field. -/
def latestReport (msgs : List NavMessage) (vehicle : String) : Option NodeReport :=
  let about := msgs.filter (·.vehicle vfs ownship = vehicle)
  if about = [] then none
  else some {
    time := KeyedStore.lastSet (fun m => (m.fields vfs).time) .zero about
    x := KeyedStore.lastSet (fun m => (m.fields vfs).x) .zero about
    y := KeyedStore.lastSet (fun m => (m.fields vfs).y) .zero about
    depth := KeyedStore.lastSet (fun m => (m.fields vfs).depth) .zero about
    speed := KeyedStore.lastSet (fun m => (m.fields vfs).speed) .zero about
    heading := KeyedStore.lastSet (fun m => (m.fields vfs).heading) .zero about }

/-- The latest reports are those of a store with all names in lower case. -/
theorem latestReport_eq_after (msgs : List NavMessage) : latestReport vfs ownship msgs =
    KeyedStore.after (NavMessage.vehicle vfs ownship) (NavMessage.enter vfs) .zero msgs := by
  funext vehicle
  rw [KeyedStore.after_apply, latestReport]
  have hnil : msgs.filter (·.vehicle vfs ownship = vehicle) = [] ↔
      ¬ ∃ m ∈ msgs, m.vehicle vfs ownship = vehicle := by
    simp [List.filter_eq_nil_iff]
  by_cases hany : ∃ m ∈ msgs, m.vehicle vfs ownship = vehicle
  · rw [if_neg (fun h => hnil.1 h hany), if_pos hany, Option.some_inj]
    have hfield : ∀ (g : NodeReport → Double) (sets : ReportFields → Option Double),
        (∀ (m : NavMessage) nr, g (m.enter vfs nr) = (sets (m.fields vfs)).getD (g nr)) →
        ∀ ms, KeyedStore.lastSet (fun m : NavMessage => sets (m.fields vfs)) (g .zero) ms =
          g (ms.foldl (fun nr m => m.enter vfs nr) .zero) :=
      fun g sets h ms => (KeyedStore.field_foldl h ms).symm
    ext
    · exact hfield NodeReport.time ReportFields.time (fun _ _ => rfl) _
    · exact hfield NodeReport.x ReportFields.x (fun _ _ => rfl) _
    · exact hfield NodeReport.y ReportFields.y (fun _ _ => rfl) _
    · exact hfield NodeReport.depth ReportFields.depth (fun _ _ => rfl) _
    · exact hfield NodeReport.speed ReportFields.speed (fun _ _ => rfl) _
    · exact hfield NodeReport.heading ReportFields.heading (fun _ _ => rfl) _
  · rw [if_pos (hnil.2 hany), if_neg hany]

end Latest

/-! ### Lower case -/

/-- The lower case of a character is in lower case. -/
theorem char_toLower_toLower (c : Char) : c.toLower.toLower = c.toLower := by
  by_cases hupper : 'A'.val ≤ c.val ∧ c.val ≤ 'Z'.val
  · have hlower : c.toLower.val = c.val + 32 := congrArg Char.val (dif_pos hupper)
    have hnot : ¬ ('A'.val ≤ c.toLower.val ∧ c.toLower.val ≤ 'Z'.val) := by
      rw [hlower]
      simp only [UInt32.le_iff_toNat_le, UInt32.toNat_add] at hupper ⊢
      have hfirst : 'A'.val.toNat = 65 := rfl
      have hlast : 'Z'.val.toNat = 90 := rfl
      have hshift : (32 : UInt32).toNat = 32 := rfl
      omega
    exact dif_neg hnot
  · have hsame : c.toLower = c := dif_neg hupper
    rw [hsame, hsame]

theorem toLower_toLower (s : String) : s.toLower.toLower = s.toLower := by
  apply String.toList_injective
  show ((s.map Char.toLower).map Char.toLower).toList = (s.map Char.toLower).toList
  simp only [String.toList_map, List.map_map]
  exact List.map_congr_left fun c _ => char_toLower_toLower c

/-! ### Matching -/

section Matching

variable (lib : BellhopLibrary) (vfs : ValFromString) (cfg : BellhopConfig)

/-- The name of our vehicle in the configuration. -/
def BellhopConfig.ownship (cfg : BellhopConfig) : String := cfg.initialEnv.adaptiveInfo.ownship

/-- A name in any case finds the latest report of its vehicle, and `update_positions` uses it for
every request. -/
structure Matched (msgs : List NavMessage) : Prop where
  reports : ∀ name : String, NodeReports.after vfs cfg.ownship msgs name.toLower =
    latestReport vfs cfg.ownship msgs name.toLower
  positions : ∀ now request,
    CiBellhop.updatePositions lib { cfg with nodeReports := NodeReports.after vfs cfg.ownship msgs }
        now (CiBellhop.mergedEnv lib cfg request) =
      CiBellhop.updatePositions lib
        { cfg with nodeReports := latestReport vfs cfg.ownship msgs }
        now (CiBellhop.mergedEnv lib cfg request)

/-- A `NAV` message repeats what the report of our vehicle says. -/
def Repeats (reports : NodeReports) (m : NavMessage) : Prop :=
  m.isNav → ∃ nr ∈ reports cfg.ownship.toLower, m.enter vfs nr = nr

variable {lib vfs cfg} {msgs : List NavMessage} {m : NavMessage}

variable (lib cfg) in
/-- The names in a request are in lower case. -/
theorem contact_mergedEnv (request : IBellhopRequest) :
    (∃ name : String, (CiBellhop.mergedEnv lib cfg request).adaptiveInfo.contact = name.toLower) ∧
      ∃ name : String, (CiBellhop.mergedEnv lib cfg request).adaptiveInfo.ownship =
        name.toLower :=
  ⟨⟨_, rfl⟩, ⟨_, rfl⟩⟩

/-- `update_positions` looks for two names. -/
theorem updatePositions_congr {reports reports' : NodeReports} {now : Double} {env : Environment}
    (hcontact : reports env.adaptiveInfo.contact = reports' env.adaptiveInfo.contact)
    (hownship : reports env.adaptiveInfo.ownship = reports' env.adaptiveInfo.ownship) :
    CiBellhop.updatePositions lib { cfg with nodeReports := reports } now env =
      CiBellhop.updatePositions lib { cfg with nodeReports := reports' } now env := by
  simp only [CiBellhop.updatePositions, hcontact, hownship]

/-- So only the reports matter. -/
theorem matched_of_reports (h : ∀ name : String,
    NodeReports.after vfs cfg.ownship msgs name.toLower =
      latestReport vfs cfg.ownship msgs name.toLower) : Matched lib vfs cfg msgs := by
  refine ⟨h, fun now request => ?_⟩
  obtain ⟨⟨contact, hcontact⟩, ⟨ownship, hownship⟩⟩ := contact_mergedEnv lib cfg request
  apply updatePositions_congr
  · rw [hcontact]
    exact h contact
  · rw [hownship]
    exact h ownship

/-- Every handler enters its message under one name. -/
theorem handle_eq_enter (vfs : ValFromString) (ownship : String) (reports : NodeReports)
    (m : NavMessage) : reports.handle vfs ownship m =
      KeyedStore.enter (fun m => if m.isNav then ownship else m.vehicle vfs ownship)
        (NavMessage.enter vfs) .zero reports m := by
  cases m <;> rfl

theorem after_concat (ownship : String) (msgs : List NavMessage) (m : NavMessage) :
    NodeReports.after vfs ownship (msgs ++ [m]) =
      KeyedStore.enter (fun m => if m.isNav then ownship else m.vehicle vfs ownship)
        (NavMessage.enter vfs) .zero (NodeReports.after vfs ownship msgs) m := by
  rw [NodeReports.after, Run.run_concat, ← NodeReports.after, handle_eq_enter]

theorem latestReport_concat (ownship : String) (msgs : List NavMessage) (m : NavMessage) :
    latestReport vfs ownship (msgs ++ [m]) =
      KeyedStore.enter (NavMessage.vehicle vfs ownship) (NavMessage.enter vfs) .zero
        (latestReport vfs ownship msgs) m := by
  rw [latestReport_eq_after, latestReport_eq_after, KeyedStore.after_concat]

/-- A message that is entered under the name of its vehicle. -/
theorem Matched.concat (h : Matched lib vfs cfg msgs)
    (hkey : (if m.isNav then cfg.ownship else m.vehicle vfs cfg.ownship) =
      m.vehicle vfs cfg.ownship) : Matched lib vfs cfg (msgs ++ [m]) := by
  apply matched_of_reports
  intro name
  have hvehicle : ∃ vehicle : String, m.vehicle vfs cfg.ownship = vehicle.toLower := by
    cases m <;> exact ⟨_, rfl⟩
  obtain ⟨vehicle, hvehicle⟩ := hvehicle
  rw [after_concat, latestReport_concat, KeyedStore.enter, KeyedStore.enter, hkey, hvehicle,
    h.reports vehicle, Function.update_apply, Function.update_apply, h.reports name]

/-- A `NAV` message that is entered under another name. -/
theorem Matched.concat_nav_iff (h : Matched lib vfs cfg msgs) (hnav : m.isNav)
    (hname : cfg.ownship.toLower ≠ cfg.ownship) : Matched lib vfs cfg (msgs ++ [m]) ↔
      Repeats vfs cfg (NodeReports.after vfs cfg.ownship msgs) m := by
  have hvehicle : m.vehicle vfs cfg.ownship = cfg.ownship.toLower := by
    cases m with
    | nodeReport s => cases hnav
    | _ => rfl
  -- under a name in lower case nothing is entered
  have hsame : ∀ name : String, NodeReports.after vfs cfg.ownship (msgs ++ [m]) name.toLower =
      latestReport vfs cfg.ownship msgs name.toLower := by
    intro name
    have hne : name.toLower ≠ cfg.ownship := by
      intro heq
      rw [← heq, toLower_toLower] at hname
      exact hname rfl
    rw [after_concat, KeyedStore.enter, if_pos hnav, Function.update_of_ne hne, h.reports]
  have hnew : ∀ name : String, latestReport vfs cfg.ownship (msgs ++ [m]) name =
      if name = cfg.ownship.toLower then
        some (m.enter vfs ((latestReport vfs cfg.ownship msgs cfg.ownship.toLower).getD .zero))
      else latestReport vfs cfg.ownship msgs name := fun name => by
    rw [latestReport_concat, KeyedStore.enter, hvehicle, Function.update_apply]
  rw [Repeats, h.reports cfg.ownship]
  constructor
  · intro hmatched _
    have hown := hmatched.reports cfg.ownship
    rw [hsame, hnew, if_pos rfl] at hown
    -- the message changes nothing in the report that is there
    have hget := congrArg (Option.getD · .zero) hown
    exact ⟨_, hown, congrArg (m.enter vfs) hget.symm⟩
  · intro hrepeats
    obtain ⟨nr, hnr, henter⟩ := hrepeats hnav
    apply matched_of_reports
    intro name
    rw [hsame, hnew]
    split_ifs with hname
    · rw [hname, hnr, Option.getD_some, henter]
    · rfl

variable (lib vfs cfg) in
/-- In every state of a run, names are matched without regard to case and the reports are the latest
ones, iff the name of our vehicle is in lower case, or the `NAV` messages repeat what its report
says. -/
theorem matched_iff (msgs : List NavMessage) :
    (∀ pre, pre <+: msgs → Matched lib vfs cfg pre) ↔
      cfg.ownship.toLower = cfg.ownship ∨
        Run.Always (NodeReports.handle vfs cfg.ownship) (fun _ => none) (Repeats vfs cfg) msgs := by
  by_cases hlower : cfg.ownship.toLower = cfg.ownship
  · refine iff_of_true (fun pre hpre => ?_) (.inl hlower)
    clear hpre
    induction pre using List.reverseRecOn with
    | nil => exact matched_of_reports fun _ => rfl
    | append_singleton pre m ih =>
        apply ih.concat
        cases m with
        | nodeReport s => rfl
        | _ => exact hlower.symm
  · rw [or_iff_right hlower]
    -- on the messages; each one keeps the match iff it is a `NODE_REPORT`, or repeats
    induction msgs using List.reverseRecOn with
    | nil =>
        refine iff_of_true (fun pre hpre => ?_) (Run.always_nil _ _ _)
        rw [List.prefix_nil.1 hpre]
        exact matched_of_reports fun _ => rfl
    | append_singleton msgs m ih =>
        have hstep : Matched lib vfs cfg msgs → (Matched lib vfs cfg (msgs ++ [m]) ↔
            Repeats vfs cfg (NodeReports.after vfs cfg.ownship msgs) m) := fun h => by
          cases hnav : m.isNav with
          | true => exact h.concat_nav_iff hnav hlower
          | false => exact iff_of_true (h.concat (by simp [hnav])) (by simp [Repeats, hnav])
        rw [Run.always_concat, ← ih]
        constructor
        · intro h
          have hmsgs := fun pre (hpre : pre <+: msgs) => h pre (hpre.trans (List.prefix_append _ _))
          exact ⟨hmsgs, (hstep (hmsgs msgs List.prefix_rfl)).1 (h _ List.prefix_rfl)⟩
        · rintro ⟨hmsgs, hrepeats⟩ pre hpre
          rcases List.prefix_concat_iff.1 hpre with rfl | hpre
          · exact (hstep (hmsgs msgs List.prefix_rfl)).2 hrepeats
          · exact hmsgs pre hpre

/-- A configuration in which our vehicle is called `Unicorn`. -/
def unicornConfig : BellhopConfig where
  initialEnv := { adaptiveInfo := { ownship := "Unicorn" } }
  nodeReports _ := none

/-- `NAV_X` arrives for `Unicorn`, and no report is found for `unicorn`. -/
theorem not_matched_of_upper_case :
    ¬ ∀ msgs, Matched (CiBellhop.receiversLibrary {}) ⟨fun _ _ => none, fun _ _ => none⟩
      unicornConfig msgs := by
  intro h
  have hreport := (h [.navX (.ofRat 100) .zero]).reports "unicorn"
  have hlower : "Unicorn".toLower = "unicorn" := by decide +kernel
  have hidem : "unicorn".toLower = "unicorn" := by decide +kernel
  have hne : "unicorn" ≠ "Unicorn" := by decide
  have hown : unicornConfig.ownship = "Unicorn" := rfl
  rw [hidem, hown] at hreport
  -- the message is entered under another name than the one that is looked for
  have hentered : NodeReports.after ⟨fun _ _ => none, fun _ _ => none⟩ "Unicorn"
      [.navX (.ofRat 100) .zero] "unicorn" = none := by
    simp [NodeReports.after, Run.run, NodeReports.handle, NodeReports.handleNavX, NodeReports.set,
      hne]
  rw [hentered] at hreport
  simp [latestReport, NavMessage.vehicle, hlower] at hreport

end Matching

end Bellhop

end Netsim

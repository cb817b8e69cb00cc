import Mathlib.Data.Rat.Floor
import Netsim.Lib.Multimap
import Netsim.Lib.OutputStream

/-!
# BELLHOP environment files

`output_env` writes an `Environment` message to the five files that `bellhop.exe` reads. What it
inserts into the streams does not depend on the streams, and so it is modelled as the list of its
insertions, together with whether it completed or threw. It is undefined (`none`) where the source
reads beyond a vector or converts a number to an `int` that cannot hold it.

A field of the message that is not set has its default. Numbers are exact.
-/

namespace Netsim

namespace Bellhop

open OutputStream

/-- `Environment::Output::OutputType`. -/
inductive OutputType
  | ARRIVAL_TIMES
  | EIGENRAYS
  | RAYS
  | COHERENT_PRESSURE
  | INCOHERENT_PRESSURE
  | SEMICOHERENT_PRESSURE
deriving DecidableEq

/-- `Environment::Medium::MediumType`. -/
inductive MediumType
  | VACUUM
  | RIGID
  | HALF_SPACE
  | REFLECTION_COEFFICIENT
deriving DecidableEq

/-- `Environment::Medium::Attenuation::Units`. -/
inductive AttenuationUnits
  | DB_PER_M_KHZ
  | PARAMETER_LOSS
  | DB_PER_M
  | NEPERS_PER_M
  | Q_FACTOR
  | DB_PER_WAVELENGTH
deriving DecidableEq

/-- `Environment::WaterColumn::SSPInterpolation`. -/
inductive SSPInterpolation
  | CUBIC_SPLINE
  | C_LINEAR
  | N2_LINEAR
deriving DecidableEq

/-- `Environment::Beams::ApproximationType`. -/
inductive ApproximationType
  | GEOMETRIC
  | CARTESIAN
  | RAY_CENTERED
  | GAUSSIAN
deriving DecidableEq

/-- `Environment::Medium::RCSample`. -/
structure RCSample where
  /-- Grazing angle. -/
  angle : ℚ := 0
  /-- Reflection coefficient in dB. -/
  rc : ℚ := 0
  /-- Phase angle in degrees. -/
  phase : ℚ := 0
deriving DecidableEq

/-- `Environment::Medium`. -/
structure Medium where
  /-- The type of the medium. -/
  type : MediumType := .VACUUM
  /-- The units of the attenuation. -/
  units : AttenuationUnits := .DB_PER_M_KHZ
  /-- The value of the attenuation. -/
  attenuation : ℚ := 0
  /-- The compressional speed. -/
  cp : ℚ := 0
  /-- The shear speed. -/
  cs : ℚ := 0
  /-- The density. -/
  density : ℚ := 0
  /-- The depth of this medium interface. -/
  depth : ℚ := 0
  /-- Table of reflection coefficients. -/
  rcSample : List RCSample := []
deriving DecidableEq

/-- `Environment::WaterColumn::SSPSample`. -/
structure SSPSample where
  /-- The depth of this sample. -/
  depth : ℚ := 0
  /-- The compressional speed at this point. -/
  cp : ℚ := 0
  /-- EOF at this depth. -/
  eof : List ℚ := []
deriving DecidableEq

/-- `Environment::WaterColumn`. -/
structure WaterColumn where
  /-- The method used to interpolate the sound speed profile. -/
  interpolationType : SSPInterpolation := .CUBIC_SPLINE
  /-- EOF coefficients. -/
  eofCoef : List ℚ := []
  /-- Enable Thorpe volume attenuation. -/
  useAttenuation : Bool := true
  /-- The sound speed profile. -/
  sample : List SSPSample := []
  /-- Range of range dependent SVP. -/
  range : ℚ := 0
  /-- Bathymetry for range dependent SVP. -/
  bathymetry : ℚ := 0
deriving DecidableEq

/-- `Environment::Sources`. -/
structure Sources where
  /-- The number of sources vertically. -/
  numberInDepth : UInt32 := 0
  /-- The depth of the shallowest source. -/
  firstDepth : ℚ := 0
  /-- The depth of the deepest source. -/
  lastDepth : ℚ := 0
deriving DecidableEq

/-- `Environment::Receivers`. -/
structure Receivers where
  /-- The number of receivers vertically. -/
  numberInDepth : UInt32 := 0
  /-- The number of receivers horizontally. -/
  numberInRange : UInt32 := 0
  /-- The depth of the shallowest receiver. -/
  firstDepth : ℚ := 0
  /-- The range of the closest receiver. -/
  firstRange : ℚ := 0
  /-- The depth of the deepest receiver. -/
  lastDepth : ℚ := 0
  /-- The range of the furthest receiver. -/
  lastRange : ℚ := 0
deriving DecidableEq

/-- `Environment::Beams`. -/
structure Beams where
  /-- The method used to approximate the finite element shape. -/
  approximationType : ApproximationType := .GEOMETRIC
  /-- The smallest ray angle. -/
  thetaMin : ℤ := -90
  /-- The largest ray angle. -/
  thetaMax : ℤ := 90
  /-- The number of rays used. -/
  number : UInt32 := 0
deriving DecidableEq

/-- `Environment::AdaptiveInfo`. -/
structure AdaptiveInfo where
  /-- The name of a contact, whose position is that of the source. -/
  contact : String := ""
  /-- The name of our vehicle. -/
  ownship : String := ""
  /-- Set the ranges of the receivers automatically. -/
  autoReceiverRanges : Bool := false
  /-- Delta between receivers. -/
  autoReceiverRangesDelta : ℤ := 1
  /-- The number of seconds to look ahead. -/
  lookAheadSeconds : UInt32 := 60
  /-- Set the depth of the source automatically. -/
  autoSourceDepth : Bool := false
deriving DecidableEq

/-- `netsim::bellhop::protobuf::Environment`, with media for surface and bottom. -/
structure Environment where
  /-- Title of the environmental file. -/
  title : String := "Environmental File"
  /-- Hertz. -/
  freq : UInt32 := 25000
  /-- Type of ray trace to perform and file to output. -/
  output : OutputType := .INCOHERENT_PRESSURE
  /-- The sea surface. -/
  surface : Medium := {}
  /-- The water column. -/
  waterColumn : List WaterColumn := []
  /-- The sea floor. -/
  bottom : Medium := {}
  /-- The acoustic sources. -/
  sources : Sources := {}
  /-- The acoustic receivers. -/
  receivers : Receivers := {}
  /-- The beams. -/
  beams : Beams := {}
  /-- Used to populate certain fields of this message. -/
  adaptiveInfo : AdaptiveInfo := {}
deriving DecidableEq

/-- The five files. -/
inductive EnvFile
  | env
  | ssp
  | bty
  | trc
  | brc
deriving DecidableEq

/-- Insertions into the streams of the files. -/
abbrev Script := List (EnvFile × Insertion)

/-- The end of a line. -/
def endl : Insertion := .text "\n"

/-- Insertions into one stream. -/
def out (file : EnvFile) (xs : List Insertion) : Script := xs.map (file, ·)

/-! ### Letters -/

/-- The letter of the type of a medium. -/
def MediumType.letter : MediumType → String
  | VACUUM => "V"
  | RIGID => "R"
  | HALF_SPACE => "A"
  | REFLECTION_COEFFICIENT => "F"

/-- The letter of the units of the attenuation. -/
def AttenuationUnits.letter : AttenuationUnits → String
  | DB_PER_M_KHZ => "F"
  | PARAMETER_LOSS => "L"
  | DB_PER_M => "M"
  | NEPERS_PER_M => "N"
  | Q_FACTOR => "Q"
  | DB_PER_WAVELENGTH => "W"

/-- The letter of the interpolation of the sound speed profile. -/
def SSPInterpolation.letter : SSPInterpolation → String
  | CUBIC_SPLINE => "S"
  | C_LINEAR => "C"
  | N2_LINEAR => "N"

/-- The letter of the type of output. -/
def OutputType.letter : OutputType → String
  | ARRIVAL_TIMES => "A"
  | EIGENRAYS => "E"
  | RAYS => "R"
  | COHERENT_PRESSURE => "C"
  | INCOHERENT_PRESSURE => "I"
  | SEMICOHERENT_PRESSURE => "S"

/-- The letter of the approximation of the beams. -/
def ApproximationType.letter : ApproximationType → String
  | GEOMETRIC => "G"
  | CARTESIAN => "C"
  | RAY_CENTERED => "R"
  | GAUSSIAN => "B"

/-! ### Sound speed profiles -/

/-- The conversion of a `double` to an `int`, which may not be able to hold it. -/
def toInt (x : ℚ) : Option ℤ :=
  if -(2 ^ 31) - 1 < x ∧ x < 2 ^ 31 then some (x.num.tdiv x.den) else none

/-- The sound speed of a sample, with the EOFs. -/
def WaterColumn.ssp (column : WaterColumn) (sample : SSPSample) : ℚ :=
  (List.zipWith (· * ·) sample.eof column.eofCoef).foldl (· + ·) sample.cp

/-- `depth_ssp_map`, which orders the samples by depth; a later sample replaces one of the same
depth. -/
def WaterColumn.depthSspMap (column : WaterColumn) : Multimap ℚ ℚ :=
  column.sample.foldl (fun m s => (m.erase s.depth).insert s.depth (column.ssp s)) ∅

/-- The map of a water column is made of assignments. -/
theorem WaterColumn.depthSspMap_eq (column : WaterColumn) : column.depthSspMap =
    .assignAll (column.sample.map fun sample => (sample.depth, column.ssp sample)) := by
  rw [depthSspMap, Multimap.assignAll, List.foldl_map]
  rfl

/-- `k_bathy_max`, the water column with the greatest bathymetry, the first one unless some has a
positive one. -/
def kBathyMax (columns : List WaterColumn) : ℕ :=
  (columns.zipIdx.foldl (fun (best : ℕ × ℚ) c =>
    if best.2 < c.1.bathymetry then (c.2, c.1.bathymetry) else best) (0, 0)).1

/-- Fill one row of `rd_ssp_mat` from position `indx` on, `size` being the number of samples and
`deepest` the depths at the greatest bathymetry; `some none` if the depths are not the same. -/
def fillRow (deepest : List ℤ) (size : ℕ) :
    ℕ → List (ℚ × ℚ) → List ℚ → Option (Option (List ℚ))
  | _, [], row => some (some row)
  | indx, (depth, ssp) :: samples, row => do
      let z ← toInt depth
      let dep ← deepest[indx]?
      -- the deepest value could be at a different depth
      if z ≠ dep ∧ indx ≠ size - 1 then some none
      else if indx < row.length then fillRow deepest size (indx + 1) samples (row.set indx ssp)
      else none

/-- One row of `rd_ssp_mat`, extended with the deepest value to fill out the grid. -/
def sspRow (deepest : List ℤ) (width : ℕ) (column : WaterColumn) : Option (Option (List ℚ)) :=
  let samples := column.depthSspMap.entries
  samples.getLast?.bind fun last =>
    fillRow deepest samples.length 0 samples (List.replicate width last.2)

/-- `rd_ssp_mat`; `some none` if the depths are not the same for all ranges. -/
def sspGrid (deepest : List ℤ) (width : ℕ) :
    List WaterColumn → Option (Option (List (List ℚ)))
  | [] => some (some [])
  | column :: columns => do
      match ← sspRow deepest width column with
      | none => some none
      | some row => (sspGrid deepest width columns).map (·.map (row :: ·))

/-! ### The files -/

section Files

variable (pow10 : ℚ → ℚ) (env : Environment)

/-- The line of a half space. -/
def halfSpace (medium : Medium) : Script :=
  out .env [.number medium.depth, .text " ", .number medium.cp, .text " ", .number medium.cs,
    .text " ", .number medium.density, .text " ", .number medium.attenuation, .text " /", endl]

/-- The table of reflection coefficients. -/
def rcTable (file : EnvFile) (medium : Medium) : Script :=
  if medium.rcSample = [] then []
  else out file ([.text (toString medium.rcSample.length), endl] ++
    medium.rcSample.flatMap fun sample =>
      [.number sample.angle, .text " ", .number (pow10 (-sample.rc / 20)), .text " ",
        .number sample.phase, endl])

/-- What follows the type of a medium. -/
def mediumLines (file : EnvFile) (medium : Medium) : Script :=
  match medium.type with
  | .HALF_SPACE => halfSpace medium
  | .REFLECTION_COEFFICIENT => rcTable pow10 file medium
  | _ => []

/-- The beginning of the files, up to the sound speed profile. -/
def header (first : WaterColumn) : Script :=
  out .env [.text "'", .text env.title, .text "'", endl, .text (toString env.freq.toNat), endl,
    .text "1", endl, .text "'",
    .text (if 1 < env.waterColumn.length then "Q" else first.interpolationType.letter)] ++
  mediumLines pow10 .trc env.surface ++
  out .env [.text env.surface.type.letter, .text env.bottom.units.letter]

/-- The sound speed profile at the greatest bathymetry. -/
def profile (column : WaterColumn) (maxDepth : ℚ) (samples : List (ℚ × ℚ)) : Script :=
  out .env ((if column.useAttenuation then [.text "T"] else []) ++
    [.text "'", endl, .text "0 0 ", .fixed, .setprecision 3, .number maxDepth, endl] ++
    (samples.flatMap fun sample => [.fixed, .setprecision 3, .number sample.1, .text " ",
      .number sample.2, .text " /", endl]) ++ [.text "'"])

/-- A depth or range, and a second one if there are several. -/
def firstAndLast (number : UInt32) (first last : ℚ) : List Insertion :=
  [.text (toString number.toNat), endl, .number first] ++
    (if 1 < number then [.text " ", .number last] else []) ++ [.text " /", endl]

/-- The rest of the `.env` file; `box` is the depth of the box. -/
def remainder (box : ℤ) : Script :=
  out .env [.text env.bottom.type.letter] ++
  (if 1 < env.waterColumn.length then out .env [.text "*"] else []) ++
  out .env [.text "' 0", endl] ++
  mediumLines pow10 .brc env.bottom ++
  out .env (
    firstAndLast env.sources.numberInDepth env.sources.firstDepth env.sources.lastDepth ++
    firstAndLast env.receivers.numberInDepth env.receivers.firstDepth env.receivers.lastDepth ++
    firstAndLast env.receivers.numberInRange (env.receivers.firstRange / 1000)
      (env.receivers.lastRange / 1000) ++
    [.text "'", .text env.output.letter, .text env.beams.approximationType.letter, .text "'", endl,
      .text (toString env.beams.number.toNat), endl, .text (toString env.beams.thetaMin), .text " ",
      .text (toString env.beams.thetaMax), .text " /", endl, .text "0 ", .text (toString box),
      .text " ", .number (env.receivers.lastRange / 1000 * (1 + 10 / 100)), endl])

/-- The `.ssp` and `.bty` files. -/
def rangeDependent (grid : List (List ℚ)) : Script :=
  out .ssp [.text (toString env.waterColumn.length), endl] ++
  out .bty [.text "'L'", endl, .text (toString env.waterColumn.length), endl] ++
  (env.waterColumn.flatMap fun column =>
    out .ssp [.number (column.range / 1000), .text " "] ++
    out .bty [.number (column.range / 1000), .text " ", .fixed, .setprecision 3,
      .number column.bathymetry, endl]) ++
  out .ssp [endl] ++
  (List.range (grid.headD []).length).flatMap fun i =>
    out .ssp ((grid.flatMap fun row => [.number (row.getD i 0), .text " "]) ++ [endl])

/-- `output_env`: what it inserts, and whether it completes. The depth of the box is the exact
product; the source rounds a product of doubles before it converts it. -/
def outputEnv : Option (Script × Bool) := do
  let first ← env.waterColumn.head?
  let column ← env.waterColumn[kBathyMax env.waterColumn]?
  let samples := column.depthSspMap.entries
  let back ← samples.getLast?
  let deepest ← samples.mapM fun sample => toInt sample.1
  let start := header pow10 env first ++ profile column back.1 samples
  match ← (if 1 < env.waterColumn.length then sspGrid deepest column.sample.length env.waterColumn
      else some (some [])) with
  -- "SSP grid must have same depths for all ranges"
  | none => some (start, false)
  | some grid =>
      let box ← toInt (back.1 * (1 + 10 / 100))
      some (start ++ remainder pow10 env box ++
        if 1 < env.waterColumn.length then rangeDependent env grid else [], true)

variable {pow10 env} in
/-- `output_env` inserts everything up to the end of the profile, and the rest unless the SSP grid
throws. -/
theorem outputEnv_cases {script : Script} {completed : Bool}
    (h : outputEnv pow10 env = some (script, completed)) :
    ∃ first column back deepest grid,
      env.waterColumn.head? = some first ∧
      env.waterColumn[kBathyMax env.waterColumn]? = some column ∧
      column.depthSspMap.entries.getLast? = some back ∧
      (column.depthSspMap.entries.mapM fun sample => toInt sample.1) = some deepest ∧
      (if 1 < env.waterColumn.length then sspGrid deepest column.sample.length env.waterColumn
        else some (some [])) = some grid ∧
      (grid = none ∧ completed = false ∧
          script = header pow10 env first ++ profile column back.1 column.depthSspMap.entries ∨
        ∃ rows box, grid = some rows ∧ completed = true ∧
          script = header pow10 env first ++ profile column back.1 column.depthSspMap.entries ++
            remainder pow10 env box ++
              if 1 < env.waterColumn.length then rangeDependent env rows else []) := by
  simp only [outputEnv, Option.bind_eq_bind, Option.bind_eq_some_iff] at h
  obtain ⟨first, hfirst, column, hcolumn, back, hback, deepest, hdeepest, grid, hgrid, h⟩ := h
  refine ⟨first, column, back, deepest, grid, hfirst, hcolumn, hback, hdeepest, hgrid, ?_⟩
  cases grid with
  | none =>
      cases h
      exact .inl ⟨rfl, rfl, rfl⟩
  | some rows =>
      simp only [Option.bind_eq_some_iff] at h
      obtain ⟨box, -, h⟩ := h
      cases h
      exact .inr ⟨rows, box, rfl, rfl, rfl⟩

end Files

end Bellhop

end Netsim

import Netsim.Bellhop.Environment
import Netsim.Core.Floats
import Netsim.Lib.IeeeArithmetic

/-!
# iBellhop

A request is an environment that is merged into the configured one. Unless it has too many receivers
or its positions are not known, its environment files are written, `bellhop.exe` is run on them, and
a response is published. The five streams to which the files are written are members, and persist
between requests.

The configuration and the node reports are fixed. What is published besides the response, and what
is read from the files of `bellhop.exe`, is left out. A request is undefined (`none`) where the
source is, and where the application dies.

Positions are doubles, and each operation on them is rounded; an environment has exact numbers.
-/

namespace Netsim

namespace Bellhop

open OutputStream

/-- `iBellhopRequest::WaterColumnAction`. -/
inductive WaterColumnAction
  | MERGE_WATER_COLUMNS
  | MERGE_SAMPLES
  | OVERWRITE
deriving DecidableEq

/-- `netsim::protobuf::iBellhopRequest`. -/
structure IBellhopRequest where
  /-- Environment updates to the initial environment. -/
  env : Environment
  /-- Up to the requestor to set. -/
  requestNumber : Option ℤ := none
  /-- How to merge the water column. -/
  waterColumnAction : WaterColumnAction := .MERGE_SAMPLES

/-- `netsim::protobuf::iBellhopResponse`. -/
structure IBellhopResponse where
  /-- Whether the request was ok. -/
  success : Bool
  /-- The source of the request. -/
  requestor : String
  /-- The request merged with the initial environment. -/
  env : Environment
  /-- Path to the file that `bellhop.exe` wrote. -/
  outputFile : Option String := none
  /-- Same as the number of the request. -/
  requestNumber : Option ℤ

/-- A message on the variable of requests. -/
structure MOOSMsg where
  /-- `GetSource`. -/
  source : String
  /-- `GetString`. -/
  string : String
  /-- The time at which it is handled. -/
  moosTime : Double
  /-- The same in universal time, `to_iso_string`. -/
  isoTime : String

/-- `CiBellhop::NodeReport`. -/
structure NodeReport where
  /-- The time of the report. -/
  time : Double
  /-- The position. -/
  x : Double
  /-- The position. -/
  y : Double
  /-- The depth. -/
  depth : Double
  /-- The speed. -/
  speed : Double
  /-- The heading, in degrees. -/
  heading : Double

/-- What is taken from libraries and the file system. -/
structure BellhopLibrary where
  /-- `parse_for_moos`. -/
  parseForMoos : String → IBellhopRequest
  /-- `Environment::MergeFrom`. -/
  merge : Environment → Environment → Environment
  /-- `WaterColumn::MergeFrom`. -/
  mergeColumn : WaterColumn → WaterColumn → WaterColumn
  /-- `pow(10., x)`. -/
  pow10 : ℚ → ℚ
  /-- `cos`. -/
  cos : Double → Double
  /-- `sin`. -/
  sin : Double → Double
  /-- `canonical`, of a file that exists. -/
  canonical : String → String
  /-- Whether files can be created in the output directory. -/
  accessible : Bool

/-- The configuration and the node reports. -/
structure BellhopConfig where
  /-- Environment used as a background for all requests. -/
  initialEnv : Environment
  /-- Directory to write generated files in. -/
  outputEnvDir : String := "/tmp"
  /-- Use the last heading to extrapolate navigation data. -/
  extrapolateNav : Bool := false
  /-- The greatest number of receivers. -/
  maxNumberOfReceivers : ℤ := 1000000
  /-- `node_reports_`. -/
  nodeReports : String → Option NodeReport

/-- The streams. -/
abbrev CiBellhop := EnvFile → OFStream

/-- What became of a request. -/
structure Handled where
  /-- The response. -/
  response : IBellhopResponse
  /-- What was written to each file that was opened for the request. -/
  files : EnvFile → Option (List Token)

namespace CiBellhop

variable (lib : BellhopLibrary) (cfg : BellhopConfig)

/-- `pi`. -/
def pi : Double := .ofRat (314159 / 100000)

/-- The environment of a request, merged with the initial one. -/
def mergedEnv (request : IBellhopRequest) : Environment :=
  let (env, requestEnv) := match request.waterColumnAction with
    | .OVERWRITE => ({ cfg.initialEnv with waterColumn := [] }, request.env)
    | .MERGE_SAMPLES =>
        match request.env.waterColumn, cfg.initialEnv.waterColumn with
        | update :: _, first :: rest =>
            ({ cfg.initialEnv with waterColumn := lib.mergeColumn first update :: rest },
              { request.env with waterColumn := [] })
        | _, _ => (cfg.initialEnv, request.env)
    | .MERGE_WATER_COLUMNS => (cfg.initialEnv, request.env)
  let env := lib.merge env requestEnv
  { env with adaptiveInfo := { env.adaptiveInfo with
      contact := env.adaptiveInfo.contact.toLower
      ownship := env.adaptiveInfo.ownship.toLower } }

/-- Whether the receivers exceed the maximum; all of it is unsigned. -/
def tooManyReceivers (env : Environment) : Bool :=
  cfg.maxNumberOfReceivers % 2 ^ 32 <
    (env.receivers.numberInDepth * env.receivers.numberInRange).toNat

/-- The angle of a heading. -/
def theta (report : NodeReport) : Double :=
  (((Ieee.Value.ofRat 90).sub report.heading).mul pi).div (.ofRat 180)

/-- A report, extrapolated to the present. -/
def extrapolate (now : Double) (report : NodeReport) : NodeReport :=
  let dt := now.sub report.time
  let dr := report.speed.mul dt
  { report with
    x := report.x.add (dr.mul (lib.cos (theta report)))
    y := report.y.add (dr.mul (lib.sin (theta report))) }

/-- Where a node is after some seconds. -/
def ahead (report : NodeReport) (seconds : Double) : Double × Double :=
  (report.x.add ((report.speed.mul (lib.cos (theta report))).mul seconds),
    report.y.add ((report.speed.mul (lib.sin (theta report))).mul seconds))

/-- The distance between two points. -/
def distance (a b : Double × Double) : Double :=
  let dx := a.1.sub b.1
  let dy := a.2.sub b.2
  ((dx.mul dx).add (dy.mul dy)).sqrt

/-- The number of ranges: the pieces of a change of the range, rounded up. -/
def numberInRange (change : Double) (delta : ℤ) : Option UInt32 :=
  ((change.abs.div (.ofRat delta)).ceilToUnsigned 32).map UInt32.ofNat

/-- `update_positions`; `some none` if a position is not known. The ranges are finite where the
number of them is defined, and the depth is taken to be finite. -/
def updatePositions (now : Double) (env : Environment) : Option (Option Environment) :=
  let info := env.adaptiveInfo
  if !info.autoReceiverRanges && !info.autoSourceDepth then some (some env)
  else match cfg.nodeReports info.contact, cfg.nodeReports info.ownship with
    | some other, some self =>
        let other := if cfg.extrapolateNav then extrapolate lib now other else other
        let r := distance (other.x, other.y) (self.x, self.y)
        let seconds : Double := .ofRat ((info.lookAheadSeconds.toNat : ℤ).bmod (2 ^ 32) : ℤ)
        let futureR := distance (ahead lib self seconds) (ahead lib other seconds)
        let env := if info.autoSourceDepth then
          { env with sources := { env.sources with firstDepth := other.depth.toRat } } else env
        if info.autoReceiverRanges then
          -- undefined if the number does not fit
          (numberInRange (futureR.sub r) info.autoReceiverRangesDelta).map fun number =>
            let (first, last) := if futureR.ge r then (r, futureR) else (futureR, r)
            some { env with receivers := { env.receivers with
              numberInRange := number, firstRange := first.toRat, lastRange := last.toRat } }
        else some (some env)
    | _, _ => some none

/-- What is done with a request before its files are written: the merged environment, and whether it
is good. -/
def prepare (msg : MOOSMsg) : Option (Environment × Bool) :=
  let env := mergedEnv lib cfg (lib.parseForMoos msg.string)
  if tooManyReceivers cfg env then some (env, false)
  else (updatePositions lib cfg msg.moosTime env).map fun
    | none => (env, false)
    | some env => (env, true)

/-- The name of the files without their extension. -/
def fileBase (env : Environment) (msg : MOOSMsg) : String :=
  cfg.outputEnvDir ++ "/" ++
    String.ofList ((msg.source.toList.take 20).map fun c => if c = ':' then '_' else c) ++
    "_" ++ env.adaptiveInfo.contact ++ "_to_" ++ env.adaptiveInfo.ownship ++ "_" ++ msg.isoTime

/-- The extension of a file. -/
def extension : EnvFile → String
  | .env => ".env"
  | .ssp => ".ssp"
  | .bty => ".bty"
  | .trc => ".trc"
  | .brc => ".brc"

/-- The extension of the file that `bellhop.exe` writes. -/
def outputExtension : OutputType → String
  | .ARRIVAL_TIMES => ".arr"
  | .EIGENRAYS => ".ray"
  | .RAYS => ".ray"
  | _ => ".shd"

/-- The insertions of a script into one stream. -/
def insertionsOf (script : Script) (file : EnvFile) : List Insertion :=
  script.filterMap fun p => if p.1 = file then some p.2 else none

/-- The streams when the files of a request have been opened. -/
def openAll (s : CiBellhop) (env : Environment) (msg : MOOSMsg) : CiBellhop :=
  fun file => (s file).openFile (fileBase cfg env msg ++ extension file) lib.accessible

/-- The streams after the insertions of a script. -/
def insertAll (s : CiBellhop) (script : Script) : CiBellhop :=
  fun file => (s file).insertAll (insertionsOf script file)

/-- `calculate_env`: the streams, the name of the output file, and what was written. -/
def calculateEnv (s : CiBellhop) (env : Environment) (msg : MOOSMsg) :
    Option (CiBellhop × String × (EnvFile → Option (List Token))) :=
  let opened := openAll lib cfg s env msg
  -- `die`: cannot write to the output directory
  if (opened .env).file.isNone then none
  else (outputEnv lib.pow10 env).map fun (script, completed) =>
    let inserted := insertAll opened script
    let files := fun file =>
      if (s file).file.isNone && (opened file).file.isSome then some (inserted file).written
      else none
    if completed then
      (fun file => (inserted file).close, fileBase cfg env msg ++ outputExtension env.output, files)
    -- the exception is caught, and the streams are not closed
    else (inserted, "", files)

/-- `handle_request`. -/
def handleRequest (s : CiBellhop) (msg : MOOSMsg) : Option (CiBellhop × Handled) :=
  let requestNumber := (lib.parseForMoos msg.string).requestNumber
  (prepare lib cfg msg).bind fun (env, good) =>
    if good then
      (calculateEnv lib cfg s env msg).map fun (s, outputFile, files) =>
        -- whether `calculate_env` has failed is not asked
        (s, { response := { success := true, requestor := msg.source, env := env,
                            outputFile := some (lib.canonical outputFile),
                            requestNumber := requestNumber }
              files := files })
    else some (s, { response := { success := false, requestor := msg.source, env := env,
                                  requestNumber := requestNumber }
                    files := fun _ => none })

/-- The streams after some requests. -/
def after (msgs : List MOOSMsg) : Option CiBellhop :=
  msgs.foldlM (fun s msg => (handleRequest lib cfg s msg).map (·.1)) (fun _ => {})

end CiBellhop

end Bellhop

end Netsim

import Throws.CommandLine.Arguments
import Throws.CommandLine.Files
import Throws.CommandLine.Help
import Throws.Json
import Throws.Load
import Throws.Text.Decoding
import Throws.Verification.Journal

/-!
# Running the program

From the words of the command line and the files it names to what is printed. Sources are read in
order, and all of them before anything else is done; the first that cannot be read ends the run.
The exit code is 0 if every contract holds, 1 if something is reported, and 2 if a source cannot be
read or the command line is wrong.
-/

namespace Throws.CommandLine

/-- What a run of the program leaves behind. -/
structure Outcome where
  /-- The exit code. -/
  exit : UInt32
  /-- The text on standard output. -/
  out : String := ""
  /-- The text on standard error. -/
  err : String := ""

/-- Why a run breaks off without an outcome. -/
inductive Breakdown where
  /-- A literal in a source has no value. -/
  | literal (fault : Surface.LiteralFault)
  /-- There is no telling how many workers there are. -/
  | noWorkerCount
  /-- The name of a source holds a null character. -/
  | nullInName

/-- The JSON report of a run. -/
def jsonReport (exit : UInt32) (diagnostics : List Json) : String :=
  (Json.obj [("exit_code", .int exit.toNat), ("diagnostics", .arr diagnostics)]).render

/-- The text in a source file. -/
def decodeSource (bytes : List UInt8) : Except ReadFault String :=
  match Text.decodeUtf8 bytes with
  | .ok chars => .ok (String.ofList (Text.unifyNewlines false chars))
  | .error offset => .error (.notText offset)

/-- The names and texts of the sources at the given paths, or the first path that cannot be read
with the reason. -/
def readSources (readFile : Path → Except ReadFault (List UInt8)) :
    List Path → Except (Path × ReadFault) (List (String × String))
  | [] => .ok []
  | path :: rest =>
    match readFile path >>= decodeSource with
    | .error fault => .error (path, fault)
    | .ok text => (readSources readFile rest).map ((path.render, text) :: ·)

/-- The outcome if a source cannot be read. -/
def unreadable (settings : Settings) (path : Path) (fault : ReadFault) : Outcome :=
  let message := "cannot read source: " ++ fault.message
  if settings.json then {
    exit := 2
    out := lines [jsonReport 2 [.obj [
      ("phase", .str "driver"),
      ("message", .str message),
      ("severity", .str "error"),
      ("file", .str path.render),
      ("line", .null),
      ("column", .null)]]] }
  else { exit := 2, err := lines [path.render ++ ":?:?: error: " ++ message] }

/-- A line about the progress of one part of the program. -/
def progress (part message : String) : String :=
  "DEBUG " ++ programName ++ "." ++ part ++ ": " ++ message

/-- The outcome with the given reports, after the given lines about the progress. -/
def report (settings : Settings) (steps : List String) (diagnostics : List Diagnostic) :
    Outcome :=
  let exit := if diagnostics.isEmpty then 0 else 1
  let steps := if settings.verbose then steps else []
  let source := (Path.ofName settings.first).render
  if settings.json then {
    exit := exit
    out := lines [jsonReport exit (diagnostics.map (·.toJson (some source)))]
    err := lines steps }
  else { exit := exit, err := lines (steps ++ diagnostics.map (·.format)) }

/-- Verifies loaded units and reports on them. -/
def verify (settings : Settings) (options : Verification.Options)
    (units : List Body.SourceUnit) : Outcome :=
  let steps :=
    if settings.verbose then
      (Verification.journal options units).map fun event => progress "verifier" event.describe
    else []
  match Verification.verifyProgram options units with
  | .error malformed => report settings steps [malformed.diagnostic]
  | .ok result =>
    let summary := progress "driver" ("verified " ++ toString result.reports.length
      ++ " function(s); " ++ toString result.diagnostics.length ++ " diagnostic(s)")
    report settings (steps ++ [summary]) result.diagnostics

/-- Checks sources, given by their names and texts. -/
def check (settings : Settings) (options : Verification.Options)
    (sources : List (String × String)) : Except Breakdown Outcome :=
  match Load.load options.depth sources with
  | .error fault => .error (.literal fault)
  | .ok (.failed diagnostics) =>
    let summary := progress "driver"
      ("front-end reported " ++ toString diagnostics.length ++ " diagnostic(s)")
    .ok (report settings [summary] diagnostics)
  | .ok (.loaded units) => .ok (verify settings options units)

/-- The outcome of a mistake on the command line. -/
def misuse (error : UsageError) : Outcome := { exit := 2, err := complaint error.message }

/-- Runs the program as settings say, with the given number of workers. -/
def runWith (depth : Option Nat) (readFile : Path → Except ReadFault (List UInt8))
    (settings : Settings) (workers : Int) : Except Breakdown Outcome :=
  match Verification.Options.ofWorkers workers depth with
  | .error (.tooFewWorkers workers) => .ok (misuse (.tooFewWorkers workers))
  | .ok options =>
    match readSources readFile (settings.sources.map Path.ofName) with
    | .error (_, .nullInName) => .error .nullInName
    | .error (path, fault) => .ok (unreadable settings path fault)
    | .ok sources => check settings options sources

/-- Runs the program on the words of a command line. -/
def run (depth : Option Nat) (readFile : Path → Except ReadFault (List UInt8))
    (arguments : List String) : Except Breakdown Outcome :=
  match parseArguments arguments with
  | .error error => .ok (misuse error)
  | .ok .help => .ok { exit := 0, out := help }
  | .ok (.check settings) =>
    match settings.workers with
    | none => .error .noWorkerCount
    | some workers => runWith depth readFile settings workers

/-- The paths of the files that a run wants to read. -/
def wantedFiles (arguments : List String) : List Path :=
  match parseArguments arguments with
  | .ok (.check settings) => settings.sources.map Path.ofName
  | _ => []

end Throws.CommandLine

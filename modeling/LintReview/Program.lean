import LintReview.CommandLine.Reading
import LintReview.Review.Gh
import LintReview.Sarif.Assembly
import LintReview.Sarif.Encoding
import LintReview.Settings.Schema
import LintReview.Sources
import LintReview.Summary

/-! The program. A run reads its command line, then all of its input, and only then does it write,
post or print anything: what it reads with are `Sources`, and what it acts with is a `Platform`. -/

namespace LintReview

/-- Why a run fails. -/
inductive Failure where
  | settings (e : SettingsError)
  | read (e : ReadError)
  | input (e : InputError)
  | noRepository
  /-- The working directory cannot be read. -/
  | directory (reason : String)
  | publish (e : Review.PublishError)
  /-- The comments on the host do not come to an end. -/
  | endless
  | output (path reason : String)
  deriving DecidableEq, Repr

def Failure.message : Failure → String
  | settings e => e.message
  | read e => e.message
  | input e => e.message
  | noRepository => "No repository given. Use --repo, GITHUB_REPOSITORY or github.repo"
  | directory reason => reason
  | publish e => e.message
  | endless => "The listing of comments does not end"
  | output path reason => "Failed to write output '" ++ path ++ "': " ++ reason

/-- What a run acts with. -/
structure Platform (m : Type → Type) extends Sources m where
  /-- The value of an environment variable. -/
  environment : (name : String) → m (Option String)
  /-- The working directory, or why it cannot be read. -/
  directory : m (Except String String)
  /-- The time of day, as summaries have it. -/
  now : m String
  writeFile : (path text : String) → m (Except String Unit)
  appendFile : (path text : String) → m (Except String Unit)
  /-- Writes to standard output. -/
  print : String → m Unit
  /-- Writes a line to standard error. -/
  complain : String → m Unit
  /-- Logs a warning. -/
  warn : String → m Unit
  /-- Runs the program that speaks to the host of reviews, within a number of seconds. -/
  gh : (binary : String) → (timeoutSec : UInt64) → Review.Gh.Runner m

/-! ## Reading -/

def Settings.reader (s : Settings) : Except Failure InputReader :=
  match s.source with
  | .error e => .error (.settings e)
  | .ok (.format name) => (InputReader.ofName name).mapError .read
  | .ok (.pattern text) => (InputReader.ofPattern text s.patternLevels).mapError .read

/-- The diagnostics in linter output, as the settings say how it is read. -/
def Settings.diagnostics (s : Settings) (input : String) : Except Failure (List Diagnostic) := do
  let reader ← s.reader
  (reader.read input).mapError .read

/-- The repository under review: that of the command line, or else that of the settings. -/
def Settings.repository (s : Settings) (given : Option String) : Except Failure String :=
  match given.or s.github.repo with
  | some repo => .ok repo
  | none => .error .noRepository

variable {m : Type → Type} [Monad m]

/-- Reads the settings of a run and its linter output. -/
def load (sources : Sources m) (configFile : Option String) (o : InputOptions) :
    m (Except Failure (Settings × String)) := do
  match ← Settings.discover sources configFile with
  | .error e => pure (.error (.settings e))
  | .ok found =>
    match o.apply found with
    | .error e => pure (.error (.read e))
    | .ok s =>
      match ← readInput sources o.input with
      | .error e => pure (.error (.input e))
      | .ok input => pure (.ok (s, input))

/-! ## Acting -/

namespace Platform

def warnAll (p : Platform m) : List String → m Unit
  | [] => pure ()
  | text :: rest => do
    p.warn text
    p.warnAll rest

/-- Reads the settings and the diagnostics of a run, and acts on them. -/
def withDiagnostics (p : Platform m) (configFile : Option String) (o : InputOptions)
    (act : Settings → List Diagnostic → m (Except Failure Unit)) : m (Except Failure Unit) := do
  match ← load p.toSources configFile o with
  | .error e => pure (.error e)
  | .ok (s, input) => do
    p.warnAll s.readerWarnings
    match s.diagnostics input with
    | .error e => pure (.error e)
    | .ok diagnostics => act s diagnostics

/-- Writes a SARIF log to a file, or to standard output. -/
def writeLog (p : Platform m) (log : Sarif.Log) (output : Option String) :
    m (Except Failure Unit) := do
  match output.filter (· ≠ standardPath) with
  | none => do
    p.print log.text
    pure (.ok ())
  | some path => pure ((← p.writeFile path log.text).mapError (.output path))

/-- Converts linter output to a SARIF log. -/
def sarif (p : Platform m) (configFile : Option String) (o : InputOptions)
    (output : Option String) (rooted : Bool) : m (Except Failure Unit) :=
  p.withDiagnostics configFile o fun s diagnostics => do
    match ← p.directory with
    | .error reason => pure (.error (.directory reason))
    | .ok cwd =>
      let mode := if rooted then Sarif.UriMode.rooted s.analysisPath cwd else .asReported
      p.writeLog (Sarif.assemble diagnostics s.toolName mode) output

/-- What is printed about a review. -/
def reviewLine (repo : String) (pr : UInt64) (r : Review.Report) : String :=
  repo ++ "#" ++ String.ofList (Decimal.digits pr.toNat) ++ ": removed " ++
    String.ofList (Decimal.digits r.deleted) ++ " old comments, posted " ++
    String.ofList (Decimal.digits r.posted) ++ "\n"

/-- What is written to standard error if a review holds only some of the comments. -/
def truncationLine : String := "warning: only the first 50 comments were posted"

/-- The pull request under review, with the program that speaks to its host. -/
def host (p : Platform m) (s : Settings) (repo : String) (pr : UInt64) : Review.Host m :=
  let target : Review.Gh.Target :=
    { repo, pr, timeoutSec := s.github.timeoutSec, policy := s.retry }
  target.host (p.gh s.github.binary s.github.timeoutSec)

/-- Publishes a review, and says what has been done. -/
def review (p : Platform m) (s : Settings) (repo : String) (pr : UInt64)
    (diagnostics : List Diagnostic) : m (Except Failure Unit) := do
  let outcome ← Review.publishFrom (p.host s repo pr) Review.maxListings diagnostics s.analysisPath
    p.directory s.toolName
  match outcome with
  | .failed e => pure (.error (.publish e))
  | .unfinished => pure (.error .endless)
  | .done report => do
    p.print (reviewLine repo pr report)
    if report.truncated then p.complain truncationLine
    pure (.ok ())

/-- Publishes the diagnostics in linter output as a review. The repository has to be known before
the linter output is decoded. -/
def comment (p : Platform m) (configFile : Option String) (o : InputOptions)
    (repo : Option String) (pr : UInt64) : m (Except Failure Unit) := do
  match ← load p.toSources configFile o with
  | .error e => pure (.error e)
  | .ok (s, input) =>
    match s.repository repo with
    | .error e => pure (.error e)
    | .ok repo => do
      p.warnAll s.readerWarnings
      match s.diagnostics input with
      | .error e => pure (.error e)
      | .ok diagnostics => p.review s repo pr diagnostics

def summaryFile? (value : Option String) : Option String := value.filter fun path => !path.isEmpty

/-- Appends a summary to a file, with the time of day. -/
def appendSummary (p : Platform m) (path markdown : String) : m (Except Failure Unit) := do
  let text := Summary.stamped markdown (← p.now)
  pure ((← p.appendFile path text).mapError (.output path))

/-- Writes a summary to the file that the environment names, or prints it. -/
def writeSummary (p : Platform m) (markdown : String) : m (Except Failure Unit) := do
  match summaryFile? (← p.environment "GITHUB_STEP_SUMMARY") with
  | some path => p.appendSummary path markdown
  | none => do
    p.print markdown
    pure (.ok ())

/-- Summarizes linter output. -/
def summary (p : Platform m) (configFile : Option String) (o : InputOptions) :
    m (Except Failure Unit) :=
  p.withDiagnostics configFile o fun s diagnostics => do
    match ← p.directory with
    | .error reason => pure (.error (.directory reason))
    | .ok cwd => p.writeSummary (Summary.render diagnostics s.toolName s.analysisPath cwd)

/-- The names of the built-in formats, each on a line. -/
def formatLines : String := String.join (Format.all.map fun f => f.name ++ "\n")

def run (p : Platform m) (line : CommandLine) : m (Except Failure Unit) :=
  match line.command with
  | .sarif input output rooted => p.sarif line.configFile input output rooted
  | .comment input repo pr => p.comment line.configFile input repo pr
  | .summary input => p.summary line.configFile input
  | .formats => do
    p.print formatLines
    pure (.ok ())
  | .schema => do
    p.print Settings.schemaText
    pure (.ok ())

def versionLine : String := "lintbridge 0.1.0\n"

/-- What is printed when help is asked for. -/
def helpText : String :=
  String.join <| List.map (· ++ "\n")
    ["Turn linter output into SARIF logs and pull request review comments",
      "",
      "Usage: lintbridge [OPTIONS] <COMMAND>",
      "",
      "Commands:",
      "  sarif    Convert linter output to a SARIF log",
      "  comment  Post diagnostics on changed lines as pull request review comments",
      "  summary  Render diagnostics as a Markdown job summary",
      "  formats  List built-in input formats",
      "  schema   Print JSON Schema for config validation",
      "  help     Print this message or the help of the given subcommand(s)",
      "",
      "Options:",
      "  -v, --verbose          Enable verbose/debug logging",
      "  -c, --config <CONFIG>  Path to config file (default: lintbridge.yaml if present)",
      "  -h, --help             Print help",
      "  -V, --version          Print version"]

/-- Answers a command line that is not run. -/
def refuse (p : Platform m) : Refusal → m Unit
  | .help => p.print helpText
  | .version => p.print versionLine
  | .nothing => p.complain helpText
  | _ => p.complain "error: the command line is not understood; try '--help'"

/-- Runs the program with its arguments, and answers its exit status. -/
def execute (p : Platform m) (args : List String) : m UInt32 := do
  match CommandLine.read (← p.environment "GITHUB_REPOSITORY") args with
  | .error refusal => do
    p.refuse refusal
    pure refusal.status
  | .ok line => do
    match ← p.run line with
    | .ok () => pure 0
    | .error e => do
      p.complain ("Error: " ++ e.message)
      pure 1

end Platform

end LintReview

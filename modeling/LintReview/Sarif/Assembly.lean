import LintReview.Sarif.Log
import LintReview.SourcePath

/-! Assembling a SARIF log from diagnostics. Each diagnostic becomes one result, in order. A rule
enters the catalogue with the first diagnostic that has both its identifier and a symbol, and from
there on a result refers to it by its position. -/

namespace LintReview.Sarif

/-- How reported paths become addresses. -/
inductive UriMode where
  /-- As they were reported, less a leading `./`. -/
  | asReported
  /-- Relative to the working directory, for a tool that ran in the analysis root. -/
  | rooted (analysisRoot cwd : String)

def UriMode.uri : UriMode → String → String
  | asReported, path => SourcePath.tidy path
  | rooted analysisRoot cwd, path => SourcePath.normalize path analysisRoot cwd

/-- The region of a diagnostic, if any coordinate is known. -/
def regionOf? (d : Diagnostic) : Option Region :=
  if d.hasRegion then
    some { startLine := d.line, startColumn := d.col, endLine := d.eline, endColumn := d.ecol }
  else none

def resultOf (mode : UriMode) (ruleIndex : Option UInt64) (d : Diagnostic) : Result where
  message := d.msg
  locations := [{ uri := d.path.map mode.uri, region := regionOf? d }]
  level := d.level
  ruleId := d.id.or d.sym
  ruleIndex := ruleIndex

/-- The position of the rule with an identifier. -/
def ruleIndex? (rules : List Rule) (id : String) : Option UInt64 :=
  (rules.findIdx? fun r => r.id = id).map UInt64.ofNat

/-- The catalogue after a diagnostic: its rule is added if it has an identifier that is not yet
there and a symbol. -/
def register (rules : List Rule) (d : Diagnostic) : List Rule :=
  match d.id, d.sym with
  | some id, some sym => if rules.any (·.id = id) then rules else rules ++ [⟨id, sym⟩]
  | _, _ => rules

/-- The catalogue and the results for diagnostics that follow a catalogue. -/
def collect (mode : UriMode) (rules : List Rule) : List Diagnostic → List Rule × List Result
  | [] => (rules, [])
  | d :: rest =>
    let rules := register rules d
    let result := resultOf mode (d.id.bind (ruleIndex? rules)) d
    let (rules, results) := collect mode rules rest
    (rules, result :: results)

def version : String := "2.1.0"

/-- Where the schema of the format is found. -/
def schema : String := "http://json.schemastore.org/sarif-2.1.0-rtm.6"

def assemble (diagnostics : List Diagnostic) (toolName : String) (mode : UriMode) : Log :=
  let (rules, results) := collect mode [] diagnostics
  { version, schema, runs := [{ toolName, rules, results }] }

end LintReview.Sarif

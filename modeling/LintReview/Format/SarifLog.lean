import LintReview.Diagnostic
import LintReview.Json.Reader

/-! SARIF logs as input. Any JSON document is read: a diagnostic comes from each entry of the
`results` of each entry of `runs`, and what is missing or of the wrong type is left unknown. -/

namespace LintReview.Format.SarifLog

open Json (Tree)

def stringAt? (t : Tree) (path : List String) : Option String :=
  (t.descend? path).bind Tree.string?

/-- The number at the end of a path, if 32 bits hold it. -/
def uint32At? (t : Tree) (path : List String) : Option UInt32 :=
  (t.descend? path).bind Tree.uint32?

/-- The name of the rule that a result refers to by its index in the catalogue. -/
def ruleName? (rules result : Tree) : Option String := do
  let index ← (← result.member? "ruleIndex").uint64?
  stringAt? (← rules.item? index.toNat) ["name"]

/-- The diagnostic of one result. Its place is that of its first location. -/
def diagnostic (rules result : Tree) : Diagnostic :=
  let location := (result.descend? ["locations", "0", "physicalLocation"]).getD .null
  { id := stringAt? result ["ruleId"]
    sym := ruleName? rules result
    msg := stringAt? result ["message", "text"]
    level := ((result.member? "level").bind Tree.string?).bind Level.ofWord?
    path := stringAt? location ["artifactLocation", "uri"]
    line := uint32At? location ["region", "startLine"]
    col := uint32At? location ["region", "startColumn"]
    eline := uint32At? location ["region", "endLine"]
    ecol := uint32At? location ["region", "endColumn"] }

def results (run : Tree) : List Tree :=
  ((run.member? "results").bind Tree.items?).getD []

def rules (run : Tree) : Tree := (run.descend? ["tool", "driver", "rules"]).getD .null

def runDiagnostics (run : Tree) : List Diagnostic :=
  (results run).map (diagnostic (rules run))

def runs (log : Tree) : List Tree := ((log.member? "runs").bind Tree.items?).getD []

/-- The diagnostics of all runs of a log, in order. -/
def diagnostics (log : Tree) : List Diagnostic := (runs log).flatMap runDiagnostics

def read? (input : String) : Option (List Diagnostic) :=
  (Json.readWhole? input).map diagnostics

end LintReview.Format.SarifLog

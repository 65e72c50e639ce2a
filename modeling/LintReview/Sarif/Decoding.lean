import LintReview.Json.Level
import LintReview.Json.Reader
import LintReview.Json.Record
import LintReview.Sarif.Log

/-! Reading a SARIF log back. Unlike a linter's output, the text has to have the shape of a log:
required fields are present, and every known field has its type. -/

namespace LintReview.Sarif

open Json (Tree Record readItems?)

def Region.ofJson? (t : Tree) : Option Region := do
  let r ← Record.read? ["startLine", "startColumn", "endLine", "endColumn"] t
  let startLine ← r.optional "startLine" Tree.uint32?
  let startColumn ← r.optional "startColumn" Tree.uint32?
  let endLine ← r.optional "endLine" Tree.uint32?
  let endColumn ← r.optional "endColumn" Tree.uint32?
  some { startLine, startColumn, endLine, endColumn }

def textField? (name : String) (t : Tree) : Option (Option String) := do
  (← Record.read? [name] t).optional name Tree.string?

def physicalLocation? (t : Tree) : Option Location := do
  let r ← Record.read? ["artifactLocation", "region"] t
  let uri ← r.required "artifactLocation" (textField? "uri")
  let region ← r.optional "region" Region.ofJson?
  some { uri, region }

def Location.ofJson? (t : Tree) : Option Location := do
  (← Record.read? ["physicalLocation"] t).required "physicalLocation" physicalLocation?

def Result.ofJson? (t : Tree) : Option Result := do
  let r ← Record.read? ["message", "locations", "level", "ruleId", "ruleIndex"] t
  let message ← r.required "message" (textField? "text")
  let locations ← r.required "locations" (readItems? Location.ofJson?)
  let level ← r.optional "level" Level.ofJson?
  let ruleId ← r.optional "ruleId" Tree.string?
  let ruleIndex ← r.optional "ruleIndex" Tree.uint64?
  some { message, locations, level, ruleId, ruleIndex }

def Rule.ofJson? (t : Tree) : Option Rule := do
  let r ← Record.read? ["id", "name"] t
  let id ← r.required "id" Tree.string?
  let name ← r.required "name" Tree.string?
  some { id, name }

/-- Reads the name and the rule catalogue of a tool. -/
def driver? (t : Tree) : Option (String × List Rule) := do
  let r ← Record.read? ["name", "rules"] t
  let name ← r.required "name" Tree.string?
  let rules ← r.defaulted "rules" [] (readItems? Rule.ofJson?)
  some (name, rules)

def tool? (t : Tree) : Option (String × List Rule) := do
  (← Record.read? ["driver"] t).required "driver" driver?

def Run.ofJson? (t : Tree) : Option Run := do
  let r ← Record.read? ["tool", "results"] t
  let (toolName, rules) ← r.required "tool" tool?
  let results ← r.defaulted "results" [] (readItems? Result.ofJson?)
  some { toolName, rules, results }

def Log.ofJson? (t : Tree) : Option Log := do
  let r ← Record.read? ["version", "$schema", "runs"] t
  let version ← r.required "version" Tree.string?
  let schema ← r.required "$schema" Tree.string?
  let runs ← r.required "runs" (readItems? Run.ofJson?)
  some { version, schema, runs }

def Log.read? (s : String) : Option Log := (Json.read? s).bind Log.ofJson?

end LintReview.Sarif

import LintReview.Json.Level
import LintReview.Json.Writer
import LintReview.Sarif.Log

/-! SARIF logs as JSON. Fields that are unknown are left out, and nothing is written as `null`. -/

namespace LintReview.Sarif

open Json (Tree)

def optionalMember {α : Type} (name : String) (encode : α → Tree) :
    Option α → List (String × Tree)
  | some a => [(name, encode a)]
  | none => []

def ofUInt32 (n : UInt32) : Tree := .ofNat n.toNat

def Region.toJson (r : Region) : Tree :=
  .record <|
    optionalMember "startLine" ofUInt32 r.startLine ++
    optionalMember "startColumn" ofUInt32 r.startColumn ++
    optionalMember "endLine" ofUInt32 r.endLine ++
    optionalMember "endColumn" ofUInt32 r.endColumn

def Location.toJson (l : Location) : Tree :=
  .record [("physicalLocation", .record <|
    ("artifactLocation", .record (optionalMember "uri" Tree.ofString l.uri)) ::
    optionalMember "region" Region.toJson l.region)]

def Result.toJson (r : Result) : Tree :=
  .record <|
    ("message", .record (optionalMember "text" Tree.ofString r.message)) ::
    ("locations", .array (r.locations.map Location.toJson)) ::
    (optionalMember "level" Level.toJson r.level ++
    optionalMember "ruleId" Tree.ofString r.ruleId ++
    optionalMember "ruleIndex" (fun n : UInt64 => Tree.ofNat n.toNat) r.ruleIndex)

def Rule.toJson (r : Rule) : Tree :=
  .record [("id", .ofString r.id), ("name", .ofString r.name)]

def Run.toJson (r : Run) : Tree :=
  .record
    [("tool", .record [("driver", .record
      [("name", .ofString r.toolName), ("rules", .array (r.rules.map Rule.toJson))])]),
     ("results", .array (r.results.map Result.toJson))]

def Log.toJson (l : Log) : Tree :=
  .record
    [("version", .ofString l.version), ("$schema", .ofString l.schema),
     ("runs", .array (l.runs.map Run.toJson))]

/-- The text of a log: indented JSON and a line feed. -/
def Log.text (l : Log) : String := String.ofList (l.toJson.pretty 0 ++ ['\n'])

end LintReview.Sarif

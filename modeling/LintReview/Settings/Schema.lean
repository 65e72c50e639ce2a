import LintReview.Json.Writer
import LintReview.Settings

/-! The schema of the settings, as JSON. It says of every field what it holds, and the value that
the field has when it is left out. -/

namespace LintReview.Settings

open Json (Tree)

def description (text : String) : String × Tree := ("description", .ofString text)

/-- The member with the value of a field that is left out. -/
def standard (t : Tree) : String × Tree := ("default", t)

/-- The member that says what kind of value something is. -/
def kind (name : String) : String × Tree := ("type", .ofString name)

/-- The member for a text that may be absent. -/
def optionalTextKind : String × Tree := ("type", .array [.ofString "string", .ofString "null"])

def reference (name : String) : Tree :=
  .record [("$ref", .ofString ("#/definitions/" ++ name))]

/-- The schema of a whole number with a width, which has a value when it is left out. -/
def numberSchema (width : String) (value : Nat) : Tree :=
  .record
    [standard (.ofNat value), kind "integer", ("format", .ofString width),
      ("minimum", .number "0.0".toList)]

def ofOptional : Option String → Tree
  | some text => .ofString text
  | none => .null

/-- How the host is reached, as JSON. -/
def hostToJson (s : HostSettings) : Tree :=
  .record
    [("gh_binary", .ofString s.binary), ("repo", ofOptional s.repo),
      ("timeout_sec", .ofNat s.timeoutSec.toNat)]

/-- How often calls are made, as JSON. -/
def policyToJson (p : Review.RetryPolicy) : Tree :=
  .record
    [("backoff_base_ms", .ofNat p.baseMillis.toNat), ("max_attempts", .ofNat p.maxAttempts.toNat)]

def hostSchema (s : HostSettings) : Tree :=
  .record
    [kind "object",
      ("properties", .record
        [("gh_binary", .record [standard (.ofString s.binary), kind "string"]),
          ("repo", .record
            [description "owner/repo; falls back to `--repo` or `GITHUB_REPOSITORY`",
              standard (ofOptional s.repo), optionalTextKind]),
          ("timeout_sec", numberSchema "uint64" s.timeoutSec.toNat)])]

/-- The schema of how often calls are made. -/
def policySchema (p : Review.RetryPolicy) : Tree :=
  .record
    [kind "object",
      ("properties", .record
        [("backoff_base_ms", numberSchema "uint64" p.baseMillis.toNat),
          ("max_attempts", numberSchema "uint32" p.maxAttempts.toNat)])]

def levelSchema : Tree :=
  .record
    [description "Severity of a diagnostic, matching the SARIF `level` vocabulary.",
      kind "string",
      ("enum", .array ([Level.error, .warning, .note].map fun l => .ofString l.word))]

/-- The fields of the settings, in the order of their names. -/
def fieldSchemas (s : Settings) : List (String × Tree) :=
  [("analysis_path", .record
      [description "Directory the linter ran in, relative to the repository root",
        standard (.ofString s.analysisPath), kind "string"]),
    ("format", .record
      [description "Built-in input format (see `lintbridge formats`)",
        standard (ofOptional s.format), optionalTextKind]),
    ("github", .record
      [standard (hostToJson s.github), ("allOf", .array [reference "GithubConfig"])]),
    ("level_map", .record
      [description "Maps captured level words to levels (custom patterns only)",
        standard (.record []), kind "object", ("additionalProperties", reference "Level")]),
    ("pattern", .record
      [description "Custom regex with named groups, used instead of `format`",
        standard (ofOptional s.pattern), optionalTextKind]),
    ("retry", .record
      [standard (policyToJson s.retry), ("allOf", .array [reference "RetryConfig"])]),
    ("tool_name", .record
      [description "Tool name recorded in SARIF output and in the comment marker",
        standard (.ofString s.toolName), kind "string"])]

def schema : Tree :=
  let s : Settings := {}
  .record
    [("$schema", .ofString "http://json-schema.org/draft-07/schema#"),
      ("title", .ofString defaultFile), description "Configuration for lintbridge", kind "object",
      ("properties", .record (fieldSchemas s)),
      ("definitions", .record
        [("GithubConfig", hostSchema s.github), ("Level", levelSchema),
          ("RetryConfig", policySchema s.retry)])]

/-- The text of the schema: indented JSON and a line feed. -/
def schemaText : String := String.ofList (schema.pretty 0 ++ ['\n'])

end LintReview.Settings

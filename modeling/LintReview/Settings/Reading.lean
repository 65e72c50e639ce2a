import LintReview.Settings
import LintReview.Yaml.Document

/-! Reading settings from YAML. A field takes any scalar that makes sense for it: a text field takes
its characters whatever they look like, an optional one is absent when it is blank or a plain null,
and a number is a plain scalar in one of four bases. Fields that are not known are passed over, and
a field that is known may be given once. -/

namespace LintReview.Settings

open Yaml (Document Node ScalarStyle)

/-! ## Scalars -/

/-- Whether a scalar is one of the plain words for null. -/
def isNull (text : String) : Bool := ["null", "Null", "NULL", "~"].contains text

def text? (d : Document) (n : Node) : Option String :=
  match d.resolve? n with
  | some (.scalar _ _ text) => some text
  | _ => none

/-- Reads a text that may be absent. A scalar with the tag for null has to be one. -/
def optionalText? (d : Document) (n : Node) : Option (Option String) :=
  match d.resolve? n with
  | some (.scalar tag .plain text) =>
    match tag with
    | none => some (if text.isEmpty || isNull text then none else some text)
    | some tag =>
      if tag = "tag:yaml.org,2002:null" then if isNull text then some none else none
      else some (some text)
  | some (.scalar _ _ text) => some (some text)
  | _ => none

/-- The base that the start of a number names, and the rest of the number. -/
def base : List Char → Nat × List Char
  | '0' :: 'x' :: rest => (16, rest)
  | '0' :: 'o' :: rest => (8, rest)
  | '0' :: 'b' :: rest => (2, rest)
  | s => (10, s)

/-- Reads digits of a base. In base ten there are no zeros in front. -/
def digits? (base : Nat) (s : List Char) : Option Nat :=
  if s.isEmpty || (base = 10 && 1 < s.length && s.head? = some '0') then none
  else s.foldlM (fun n c => do
    let d ← Yaml.hexValue? c
    if d < base then some (base * n + d) else none) 0

/-- Reads a whole number, which one plus sign may precede. -/
def number? (text : String) : Option Nat :=
  let s := text.toList
  let (base, s) := base (if s.head? = some '+' then s.tail else s)
  digits? base s

def natural? (d : Document) (bound : Nat) (n : Node) : Option Nat :=
  match d.resolve? n with
  | some (.scalar tag style text) =>
    if style = .plain || (style = .literal && tag = some "tag:yaml.org,2002:int") then
      (number? text).filter (· < bound)
    else none
  | _ => none

/-- Reads a level: its word, or a tag that is its word on a scalar that is null or blank. -/
def level? (d : Document) (n : Node) : Option Level :=
  match d.resolve? n with
  | some (.scalar tag style text) =>
    match tag.map String.toList with
    | some ('!' :: word) =>
      if style = .plain && (text.isEmpty || isNull text) then Level.ofWord? (String.ofList word)
      else none
    | _ => Level.ofWord? text
  | _ => none

/-! ## Mappings -/

/-- The members of a mapping; a blank has none. -/
def members? (d : Document) (n : Node) : Option (List (Node × Node)) :=
  match d.resolve? n with
  | some (.mapping _ members) => some members
  | some (.scalar _ .plain "") => some []
  | _ => none

def levelMap? (d : Document) (n : Node) : Option LevelMap := do
  let entries ← (← members? d n).mapM fun (key, value) => do
    some ((← text? d key), (← level? d value))
  some (LevelMap.ofList entries)

/-- The members with known names; a known name must not repeat, and all names are scalars. -/
def select? (d : Document) (names : List String) :
    List (Node × Node) → Option (List (String × Node))
  | [] => some []
  | (key, value) :: rest => do
    let name ← text? d key
    let fields ← select? d names rest
    if names.contains name then
      if (fields.lookup name).isSome then none else some ((name, value) :: fields)
    else some fields

def fields? (d : Document) (names : List String) (n : Node) : Option (List (String × Node)) := do
  select? d names (← members? d n)

/-- A field, which has a value of its own when it is absent. -/
def field {α : Type} (fields : List (String × Node)) (name : String) (value : α)
    (read? : Node → Option α) : Option α :=
  match fields.lookup name with
  | some n => read? n
  | none => some value

/-! ## Settings -/

def host? (d : Document) (n : Node) : Option HostSettings := do
  let fields ← fields? d ["repo", "timeout_sec", "gh_binary"] n
  let standard : HostSettings := {}
  let repo ← field fields "repo" standard.repo (optionalText? d)
  let timeoutSec ← field fields "timeout_sec" standard.timeoutSec fun n =>
    (natural? d UInt64.size n).map UInt64.ofNat
  let binary ← field fields "gh_binary" standard.binary (text? d)
  some { repo, timeoutSec, binary }

/-- Reads how often calls are made. -/
def policy? (d : Document) (n : Node) : Option Review.RetryPolicy := do
  let fields ← fields? d ["max_attempts", "backoff_base_ms"] n
  let standard : Review.RetryPolicy := {}
  let maxAttempts ← field fields "max_attempts" standard.maxAttempts fun n =>
    (natural? d UInt32.size n).map UInt32.ofNat
  let baseMillis ← field fields "backoff_base_ms" standard.baseMillis fun n =>
    (natural? d UInt64.size n).map UInt64.ofNat
  some { maxAttempts, baseMillis }

def ofDocument? (d : Document) : Option Settings := do
  let fields ←
    match d.root with
    | some root =>
      fields? d
        ["tool_name", "format", "pattern", "level_map", "analysis_path", "github", "retry"] root
    | none => some []
  let standard : Settings := {}
  let toolName ← field fields "tool_name" standard.toolName (text? d)
  let format ← field fields "format" standard.format (optionalText? d)
  let pattern ← field fields "pattern" standard.pattern (optionalText? d)
  let levels ← field fields "level_map" standard.levels (levelMap? d)
  let analysisPath ← field fields "analysis_path" standard.analysisPath (text? d)
  let github ← field fields "github" standard.github (host? d)
  let retry ← field fields "retry" standard.retry (policy? d)
  some { toolName, format, pattern, levels, analysisPath, github, retry }

def read? (text : String) : Option Settings := (Document.ofText? text).bind ofDocument?

end LintReview.Settings

import LintReview.Settings

/-! What the command line of a run asks for: a command with its options, under two options that
every command has. The options that say how linter output is read take precedence over the settings
(`InputOptions.apply`). -/

namespace LintReview

/-- Where linter output comes from and how it is read. -/
structure InputOptions where
  /-- The file, or `-` for standard input. -/
  input : String
  format : Option String := none
  pattern : Option String := none
  /-- A level map as JSON. -/
  levels : Option String := none
  toolName : Option String := none
  analysisPath : Option String := none
  deriving DecidableEq, Repr, Inhabited

/-- What a run does. -/
inductive Command where
  /-- Writes a SARIF log, to a file or to standard output. -/
  | sarif (input : InputOptions) (output : Option String) (rooted : Bool)
  /-- Publishes a review. -/
  | comment (input : InputOptions) (repo : Option String) (pr : UInt64)
  /-- Writes a summary of the diagnostics. -/
  | summary (input : InputOptions)
  /-- Lists the built-in formats. -/
  | formats
  /-- Writes the schema of the settings. -/
  | schema
  deriving DecidableEq, Repr

/-- What the command line of a run asks for. -/
structure CommandLine where
  verbose : Bool := false
  configFile : Option String := none
  command : Command
  deriving DecidableEq, Repr

/-- Why a command line is not run. -/
inductive Refusal where
  /-- Help was asked for. -/
  | help
  /-- The version was asked for. -/
  | version
  /-- Nothing was asked for. -/
  | nothing
  /-- There are options without a command. -/
  | noCommand
  | unknownCommand
  | unknownArgument
  | missingArgument
  /-- An option has no value. -/
  | noValue
  | invalidValue
  | repeatedArgument
  /-- A flag has a value. -/
  | unwantedValue
  deriving DecidableEq, Repr

/-- The status that a run ends with when its command line is refused. -/
def Refusal.status : Refusal → UInt32
  | help | version => 0
  | _ => 2

/-- The settings with the options in place of what they say. A format and a pattern go together: if
one is given, the options replace both. -/
def InputOptions.apply (o : InputOptions) (s : Settings) : Except ReadError Settings := do
  let levels ←
    match o.levels with
    | none => .ok s.levels
    | some json =>
      match LevelMap.read? json with
      | some levels => .ok levels
      | none => .error .invalidLevelMap
  let replaces := o.format.isSome || o.pattern.isSome
  return { s with
    format := if replaces then o.format else s.format
    pattern := if replaces then o.pattern else s.pattern
    levels
    toolName := o.toolName.getD s.toolName
    analysisPath := o.analysisPath.getD s.analysisPath }

end LintReview

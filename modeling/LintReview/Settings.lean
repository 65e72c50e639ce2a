import LintReview.Format
import LintReview.Review.Retry

/-! The settings of a run: the name of the tool, how its output is read, where it ran, and how the
host of the review is called. Exactly one of a format and a pattern says how output is read
(`Settings.source`). -/

namespace LintReview

/-- Why the settings of a run cannot be used. -/
inductive SettingsError where
  /-- A file cannot be read. -/
  | unreadable (path reason : String)
  /-- A file is not written as settings are. -/
  | malformed
  | noFormat
  | formatAndPattern (format : String)
  deriving DecidableEq, Repr

def SettingsError.message : SettingsError → String
  | unreadable path reason => "Failed to read config file '" ++ path ++ "': " ++ reason
  | malformed => "Failed to parse config"
  | noFormat =>
    "No input format given. Use --format or --pattern (or set format/pattern in config)"
  | formatAndPattern format =>
    "Both a format ('" ++ format ++ "') and a custom pattern were given; pick one"

/-- How the host of a review is reached. -/
structure HostSettings where
  repo : Option String := none
  timeoutSec : UInt64 := 60
  binary : String := "gh"
  deriving DecidableEq, Repr, Inhabited

/-- The settings of a run. -/
structure Settings where
  toolName : String := "lintbridge"
  format : Option String := none
  pattern : Option String := none
  levels : LevelMap := .empty
  analysisPath : String := "."
  github : HostSettings := {}
  retry : Review.RetryPolicy := {}
  deriving DecidableEq, Inhabited

/-- What says how linter output is read. -/
inductive InputSource where
  | format (name : String)
  | pattern (text : String)
  deriving DecidableEq, Repr

namespace Settings

def defaultFile : String := "lintbridge.yaml"

/-- What says how linter output is read. -/
def source (s : Settings) : Except SettingsError InputSource :=
  match s.format, s.pattern with
  | some name, none => .ok (.format name)
  | none, some text => .ok (.pattern text)
  | some name, some _ => .error (.formatAndPattern name)
  | none, none => .error .noFormat

/-- The map for the levels of a pattern. An empty one is as good as none. -/
def patternLevels (s : Settings) : Option LevelMap :=
  if s.levels.isEmpty then none else some s.levels

/-- What is logged when a reader is made: a built-in format has no use for a level map. -/
def readerWarnings (s : Settings) : List String :=
  match s.source with
  | .ok (.format name) =>
    if s.levels.isEmpty then []
    else ["level_map is ignored for the built-in '" ++ name ++ "' format"]
  | _ => []

end Settings

end LintReview

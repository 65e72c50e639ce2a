import LintReview.Diagnostic

/-! SARIF 2.1.0 logs, as far as this library writes and reads them. -/

namespace LintReview.Sarif

/-- The place inside a file. -/
structure Region where
  startLine : Option UInt32 := none
  startColumn : Option UInt32 := none
  endLine : Option UInt32 := none
  endColumn : Option UInt32 := none
  deriving DecidableEq, Inhabited

/-- A file, named by its address, and the place inside it. -/
structure Location where
  uri : Option String := none
  region : Option Region := none
  deriving DecidableEq, Inhabited

/-- One result of a run. -/
structure Result where
  message : Option String := none
  locations : List Location
  level : Option Level := none
  ruleId : Option String := none
  /-- The position of the rule in the catalogue of the run. -/
  ruleIndex : Option UInt64 := none
  deriving DecidableEq, Inhabited

/-- A rule of a catalogue. -/
structure Rule where
  id : String
  name : String
  deriving DecidableEq, Inhabited

structure Run where
  toolName : String
  rules : List Rule := []
  results : List Result := []
  deriving DecidableEq, Inhabited

structure Log where
  version : String
  schema : String
  runs : List Run
  deriving DecidableEq, Inhabited

end LintReview.Sarif

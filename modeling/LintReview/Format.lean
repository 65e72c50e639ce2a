import LintReview.Format.LinePattern
import LintReview.Format.Pylint
import LintReview.Format.SarifLog

/-! The formats in which linter output is read. A built-in `Format` is known by its name; a pattern
of the user's own makes another. An `InputReader` is a format ready to be used. -/

namespace LintReview

/-- Why linter output cannot be read. -/
inductive ReadError where
  | unknownFormat (name : String)
  | invalidPattern
  | invalidLevelMap
  | json
  deriving DecidableEq, Repr

def ReadError.message : ReadError → String
  | unknownFormat name => "Unrecognized input format: " ++ name
  | invalidPattern => "Invalid pattern"
  | invalidLevelMap => "Invalid level map"
  | json => "Failed to parse JSON"

/-- The built-in formats. -/
inductive Format where
  | flake8
  | mdl
  | mypy
  | pylint
  | sarif
  deriving DecidableEq, Repr

namespace Format

/-- All built-in formats, in the order of their names. -/
def all : List Format := [flake8, mdl, mypy, pylint, sarif]

def name : Format → String
  | flake8 => "flake8"
  | mdl => "mdl"
  | mypy => "mypy"
  | pylint => "pylint"
  | sarif => "sarif"

def ofName? (name : String) : Option Format := all.find? fun f => f.name = name

/-- Lines of flake8: `path:line:col: id message`. -/
def flake8Pattern : String :=
  r"^(?P<path>[^:\n]+):(?P<line>\d+):(?P<col>\d+): (?P<id>\w\d+) (?P<msg>.+)$"

/-- Lines of mdl: `path:line id/symbol message`. -/
def mdlPattern : String :=
  r"^(?P<path>[^:\n]+)(?::(?P<line>\d+))?(?::(?P<col>\d+))? (?P<id>[^/\s]+)/(?P<sym>\S+) " ++
    r"(?P<msg>.+)$"

/-- Lines of mypy: `path:line:col:eline:ecol: level: message  [id]`, where every number and the
identifier may be absent. -/
def mypyPattern : String :=
  r"^(?P<path>[^:\n]+):(?:(?P<line>\d+):)?(?:(?P<col>\d+):)?(?:(?P<eline>\d+):)?" ++
    r"(?:(?P<ecol>\d+):)? (?P<level>[^:\s]+): (?P<msg>.+?)[ \t]*(?:\[(?P<id>\S+)\])?$"

end Format

/-- A format ready to be used. -/
inductive InputReader where
  | lines (pattern : Format.LinePattern)
  | pylint
  | sarif

namespace InputReader

def ofPattern (pattern : String) (levels : Option LevelMap) : Except ReadError InputReader :=
  match Format.LinePattern.ofText? pattern levels with
  | some p => .ok (.lines p)
  | none => .error .invalidPattern

def ofFormat : Format → Except ReadError InputReader
  | .flake8 => ofPattern Format.flake8Pattern none
  | .mdl => ofPattern Format.mdlPattern none
  | .mypy => ofPattern Format.mypyPattern none
  | .pylint => .ok .pylint
  | .sarif => .ok .sarif

def ofName (name : String) : Except ReadError InputReader :=
  match Format.ofName? name with
  | some f => ofFormat f
  | none => .error (.unknownFormat name)

def read : InputReader → String → Except ReadError (List Diagnostic)
  | lines p, input => .ok (p.read input)
  | pylint, input =>
    match Format.Pylint.read? input with
    | some ds => .ok ds
    | none => .error .json
  | sarif, input =>
    match Format.SarifLog.read? input with
    | some ds => .ok ds
    | none => .error .json

end InputReader

end LintReview

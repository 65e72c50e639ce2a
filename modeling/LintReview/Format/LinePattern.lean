import LintReview.LevelMap
import LintReview.Pattern.Matching
import LintReview.Pattern.Compilation
import LintReview.Text.Decimal

/-! Line patterns: linter output read by a pattern with named groups. Each match is a diagnostic;
the groups `path`, `line`, `col`, `eline`, `ecol`, `level`, `id`, `sym` and `msg` give its fields
and other groups are passed over. -/

namespace LintReview.Format

/-- A pattern and the levels of the words that its group `level` takes. Without a map, those words
are the names of levels. -/
structure LinePattern where
  pattern : Pattern.Compiled
  levels : Option LevelMap := none
  deriving Inhabited

namespace LinePattern

def ofText? (pattern : String) (levels : Option LevelMap) : Option LinePattern :=
  (Pattern.compile? pattern).map fun pattern => { pattern, levels }

/-- The text of a named group in a match. -/
def field? (p : LinePattern) (t : Pattern.Trail) (name : String) : Option (List Char) :=
  (p.pattern.names.lookup name).bind t.captured?

def levelOf? (p : LinePattern) (word : String) : Option Level :=
  match p.levels with
  | some levels => levels.get? word
  | none => Level.ofWord? word

/-- The diagnostic that a match stands for. -/
def diagnostic (p : LinePattern) (t : Pattern.Trail) : Diagnostic :=
  let text := fun name => (p.field? t name).map String.ofList
  let number := fun name => (p.field? t name).bind Decimal.readUInt32?
  { id := text "id"
    sym := text "sym"
    msg := text "msg"
    level := (text "level").bind p.levelOf?
    path := text "path"
    line := number "line"
    col := number "col"
    eline := number "eline"
    ecol := number "ecol" }

/-- The diagnostics in a text, in order. -/
def read (p : LinePattern) (input : String) : List Diagnostic :=
  (Pattern.findAll p.pattern.node input.toList).map fun m => p.diagnostic m.2

end LinePattern

end LintReview.Format

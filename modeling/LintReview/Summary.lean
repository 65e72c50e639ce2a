import LintReview.Diagnostic
import LintReview.SourcePath
import LintReview.Text.Decimal

/-! The Markdown summary of a run: a heading, the counts, and a table with a row per diagnostic. -/

namespace LintReview.Summary

/-- Text in a cell of the table: pipes are escaped and line breaks are written as tags. -/
def cell : List Char → List Char
  | [] => []
  | '|' :: rest => '\\' :: '|' :: cell rest
  | '\r' :: '\n' :: rest => "<br>".toList ++ cell rest
  | '\n' :: rest => "<br>".toList ++ cell rest
  | c :: rest => c :: cell rest

def atNumber (n : UInt32) : List Char := ':' :: Decimal.digits n.toNat

/-- Where a diagnostic is: its path, with the line and the column as far as they are known. -/
def location (d : Diagnostic) (analysisRoot cwd : String) : List Char :=
  match d.path with
  | none => ['-']
  | some path =>
    (SourcePath.normalize path analysisRoot cwd).toList ++
      match d.line with
      | none => []
      | some line => atNumber line ++ (d.col.map atNumber).getD []

def rule (d : Diagnostic) : List Char :=
  match d.id, d.sym with
  | some id, some sym => id.toList ++ " (".toList ++ sym.toList ++ [')']
  | some name, none => name.toList
  | none, some name => name.toList
  | none, none => ['-']

/-- The word in the first cell of a row. -/
def levelCell (d : Diagnostic) : List Char :=
  (d.level.map fun l => l.word.toList).getD ['-']

/-- The four cells of a row, before escaping. -/
def cells (d : Diagnostic) (analysisRoot cwd : String) : List (List Char) :=
  [levelCell d, location d analysisRoot cwd, rule d, (d.msg.getD "").toList]

/-- A row of the table without its line feed. -/
def row (d : Diagnostic) (analysisRoot cwd : String) : List Char :=
  (cells d analysisRoot cwd).flatMap (fun text => "| ".toList ++ cell text ++ [' ']) ++ ['|']

def count (level : Level) (ds : List Diagnostic) : Nat :=
  ds.countP fun d => d.level = some level

def countLine (ds : List Diagnostic) : List Char :=
  "**".toList ++ Decimal.digits ds.length ++ "** diagnostics: ".toList ++
    Decimal.digits (count .error ds) ++ " errors, ".toList ++
    Decimal.digits (count .warning ds) ++ " warnings, ".toList ++
    Decimal.digits (count .note ds) ++ " notes".toList

/-- The first line of the table. -/
def tableHead : List Char := "| Level | Location | Rule | Message |".toList

/-- The line that sets the head of the table off from its rows. -/
def delimiter : List Char := "|-------|----------|------|---------|".toList

/-- What stands in front of the rows. -/
def head (toolName : String) (ds : List Diagnostic) : List Char :=
  "## ".toList ++ toolName.toList ++ " results\n\n".toList ++ countLine ds ++ "\n\n".toList ++
    tableHead ++ '\n' :: delimiter ++ ['\n']

def render (ds : List Diagnostic) (toolName analysisRoot cwd : String) : String :=
  if ds.isEmpty then "## " ++ toolName ++ " results\n\nNo issues found.\n"
  else
    String.ofList <|
      head toolName ds ++ ds.flatMap fun d => row d analysisRoot cwd ++ ['\n']

/-- What is appended to the file of a job for one summary, with the time it was made at. -/
def stamped (markdown time : String) : String :=
  markdown ++ "\n_Generated " ++ time ++ "_\n\n"

end LintReview.Summary

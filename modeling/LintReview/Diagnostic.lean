/-! Diagnostics: what a linter says about a place in a source file. Every field of a `Diagnostic`
is optional, and an absent field means that the tool did not say. A `Level` is one of the three
words `error`, `warning` and `note`. -/

namespace LintReview

/-- How serious a diagnostic is. -/
inductive Level where
  | error
  | warning
  | note
  deriving DecidableEq, Repr, Inhabited

namespace Level

def word : Level → String
  | error => "error"
  | warning => "warning"
  | note => "note"

/-- The level a word stands for; words are compared exactly. -/
def ofWord? (w : String) : Option Level :=
  if w = "error" then some error
  else if w = "warning" then some warning
  else if w = "note" then some note
  else none

theorem ofWord?_word (l : Level) : ofWord? l.word = some l := by
  cases l <;> rfl

end Level

/-- One issue reported by a tool. Lines and columns count from one, and the path is as the tool
wrote it. -/
structure Diagnostic where
  /-- The identifier of the rule. -/
  id : Option String := none
  /-- The symbolic name of the rule. -/
  sym : Option String := none
  msg : Option String := none
  level : Option Level := none
  path : Option String := none
  line : Option UInt32 := none
  col : Option UInt32 := none
  /-- The last line of the range. -/
  eline : Option UInt32 := none
  /-- The last column of the range. -/
  ecol : Option UInt32 := none
  deriving DecidableEq, Inhabited

/-- Whether any of the four coordinates is known. -/
def Diagnostic.hasRegion (d : Diagnostic) : Bool :=
  d.line.isSome || d.col.isSome || d.eline.isSome || d.ecol.isSome

end LintReview

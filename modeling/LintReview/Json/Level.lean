import LintReview.Diagnostic
import LintReview.Json.Writer

/-! Levels as JSON values. A level is written as its word; it is also read from an object that has
the word as the name of a `null`. -/

namespace LintReview.Level

open Json (Tree)

def toJson (l : Level) : Tree := .ofString l.word

def ofJson? : Tree → Option Level
  | .text (some word) => ofWord? word
  | .object [(some word, .null)] => ofWord? word
  | _ => none

theorem ofJson?_toJson (l : Level) : ofJson? l.toJson = some l := ofWord?_word l

end LintReview.Level

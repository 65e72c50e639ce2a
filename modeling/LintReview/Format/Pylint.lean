import LintReview.Diagnostic
import LintReview.Json.Reader
import LintReview.Json.Record

/-! The JSON output of pylint: an array of messages, each a record of nine optional fields. Columns
count from zero there and from one in a diagnostic. The array is read as a whole or not at all. -/

namespace LintReview.Format.Pylint

open Json (Tree Record)

/-- The fields of a message, in their declared order. -/
def fieldNames : List String :=
  ["type", "path", "line", "column", "endLine", "endColumn", "symbol", "message", "message-id"]

/-- The level that the type of a message stands for. -/
def levelOf? (kind : String) : Option Level :=
  if kind = "convention" ∨ kind = "usage" ∨ kind = "refactor" then some .note
  else if kind = "warning" then some .warning
  else if kind = "error" then some .error
  else none

/-- A column counted from one, if 32 bits hold it. -/
def fromOne? (column : UInt32) : Option UInt32 :=
  if column.toNat + 1 < UInt32.size then some (column + 1) else none

/-- Reads a field that may be absent or `null`. -/
def field? {α : Type} (r : Record) (name : String) (read? : Tree → Option α) : Option (Option α) :=
  r.defaulted name none (Tree.nullable? read?)

def message? (t : Tree) : Option Diagnostic := do
  let r ← Record.read? fieldNames t
  let kind ← field? r "type" Tree.string?
  let path ← field? r "path" Tree.string?
  let line ← field? r "line" Tree.uint32?
  let column ← field? r "column" Tree.uint32?
  let endLine ← field? r "endLine" Tree.uint32?
  let endColumn ← field? r "endColumn" Tree.uint32?
  let symbol ← field? r "symbol" Tree.string?
  let message ← field? r "message" Tree.string?
  let messageId ← field? r "message-id" Tree.string?
  some
    { id := messageId
      sym := symbol
      msg := message
      level := kind.bind levelOf?
      path
      line
      col := column.bind fromOne?
      eline := endLine
      ecol := endColumn.bind fromOne? }

/-- Reads the output of a run. -/
def read? (input : String) : Option (List Diagnostic) :=
  (Json.read? input).bind (Json.readItems? message?)

end LintReview.Format.Pylint

import LintReview.AddedLines
import LintReview.Diagnostic
import LintReview.SourcePath

/-! Review comments. A diagnostic becomes a comment when every line it covers was added by the
change under review (`Comment.ofDiagnostic?`); a `Batch` holds the first fifty of them. The body of
a comment starts with a hidden marker, by which a later run finds the comments of the same tool. -/

namespace LintReview.Review

/-- The most comments that one review holds. -/
def maxComments : Nat := 50

/-- The hidden text that marks the comments of one tool. -/
def marker (identifier : String) : String :=
  "<!-- lintbridge:" ++ identifier ++ " -->"

/-- The side of the diff that comments are made on, which is the new one. -/
def newSide : String := "RIGHT"

/-- One comment on a line, or on the lines from `startLine` to `line`. -/
structure Comment where
  path : String
  line : UInt32
  side : String := newSide
  startLine : Option UInt32 := none
  startSide : Option String := startLine.map fun _ => newSide
  body : String
  deriving DecidableEq, Inhabited

structure Batch where
  comments : List Comment := []
  /-- More diagnostics were eligible than a review holds. -/
  truncated : Bool := false
  deriving DecidableEq, Inhabited

/-- The bracketed part at the end of a body: level, identifier, rule and symbol, as far as they
are known and not empty, with colons between them. -/
def trailer (d : Diagnostic) (identifier : String) : List Char :=
  let parts := [d.level.map Level.word, some identifier, d.id, d.sym].filterMap id
  [':'].intercalate ((parts.filter fun part => !part.isEmpty).map String.toList)

/-- The body of a comment: the marker on a line of its own, the message, and the trailer, which a
space sets off unless it starts a line. -/
def commentBody (d : Diagnostic) (identifier : String) : String :=
  let body := (marker identifier).toList ++ '\n' :: (d.msg.getD "").toList
  let trailer := trailer d identifier
  let ending :=
    if trailer.isEmpty then []
    else if body.getLast? = some '\n' then '[' :: trailer ++ [']']
    else ' ' :: '[' :: trailer ++ [']']
  String.ofList (body ++ ending)

/-- The last line a diagnostic covers, for one that starts at `line`. -/
def lastLine (d : Diagnostic) (line : UInt32) : UInt32 :=
  match d.eline with
  | some eline => if line ≤ eline then eline else line
  | none => line

/-- The comment for a diagnostic, if it has a path and a line and all its lines were added. -/
def Comment.ofDiagnostic? (added : AddedLines) (analysisRoot cwd identifier : String)
    (d : Diagnostic) : Option Comment :=
  match d.path, d.line with
  | some reported, some first =>
    let last := lastLine d first
    let path := SourcePath.normalize reported analysisRoot cwd
    if added.containsRange path first last then
      let ranged := first ≠ last
      some
        { path
          line := last
          side := newSide
          startLine := if ranged then some first else none
          startSide := if ranged then some newSide else none
          body := commentBody d identifier }
    else none
  | _, _ => none

/-- What is logged when a batch leaves comments out. -/
def truncationWarning : String :=
  "More than 50 diagnostics on changed lines; extra comments were dropped"

variable {m : Type → Type} [Monad m]

/-- Collects comments until `room` of them are found and one more would follow, which is warned
about. -/
def Batch.collect (warn : String → m Unit) (comment? : Diagnostic → Option Comment) :
    (room : Nat) → List Diagnostic → m Batch
  | _, [] => pure {}
  | room, d :: rest =>
    match comment? d, room with
    | none, room => collect warn comment? room rest
    | some _, 0 => do
      warn truncationWarning
      pure { truncated := true }
    | some c, room + 1 => do
      let batch ← collect warn comment? room rest
      pure { batch with comments := c :: batch.comments }

/-- Builds the batch for a list of diagnostics, in their order. -/
def Batch.build (warn : String → m Unit) (diagnostics : List Diagnostic) (added : AddedLines)
    (analysisRoot cwd identifier : String) : m Batch :=
  Batch.collect warn (Comment.ofDiagnostic? added analysisRoot cwd identifier) maxComments
    diagnostics

def Batch.ofDiagnostics (diagnostics : List Diagnostic) (added : AddedLines)
    (analysisRoot cwd identifier : String) : Batch :=
  Id.run (Batch.build (fun _ => pure ()) diagnostics added analysisRoot cwd identifier)

/-- What is logged while a batch is built. -/
def Batch.warnings (batch : Batch) : List String :=
  if batch.truncated then [truncationWarning] else []

end LintReview.Review

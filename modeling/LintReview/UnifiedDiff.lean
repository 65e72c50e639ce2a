import LintReview.AddedLines
import LintReview.Text.Blank
import LintReview.Text.Decimal
import LintReview.Text.Lines

/-! Unified diffs. `UnifiedDiff.addedLines` reads a diff and answers which lines it adds to which
file. The counts in a hunk's header say how many lines its body has, so that a line of the body
that looks like a header is still read as part of the body. -/

namespace LintReview

/-- Why a diff cannot be read. -/
inductive DiffError where
  /-- A line that starts a hunk does not give its two ranges. -/
  | malformedHunkHeader (line : String)
  deriving DecidableEq, Repr

def DiffError.message : DiffError → String
  | malformedHunkHeader line => "Malformed hunk header: " ++ line

namespace UnifiedDiff

/-- What the header of a hunk says: the lines it covers in the old and in the new file, and the
number of the first new one. -/
structure HunkHeader where
  oldCount : UInt32
  newStart : UInt32
  newCount : UInt32
  deriving DecidableEq, Repr

/-- Reads `start,count`, or `start` alone for a range of one line. -/
def readRange? (range : List Char) : Option (UInt32 × UInt32) :=
  let start := range.takeWhile (· ≠ ',')
  match range.dropWhile (· ≠ ',') with
  | _ :: count => do
    let start ← Decimal.readUInt32? start
    let count ← Decimal.readUInt32? count
    some (start, count)
  | [] => (Decimal.readUInt32? start).map fun start => (start, 1)

/-- Reads a header such as `@@ -1,2 +3,4 @@ heading` from its second and third word. -/
def HunkHeader.read? (line : List Char) : Option HunkHeader :=
  match Text.words line with
  | _ :: ('-' :: old) :: ('+' :: new) :: _ => do
    let (_, oldCount) ← readRange? old
    let (newStart, newCount) ← readRange? new
    some ⟨oldCount, newStart, newCount⟩
  | _ => none

/-- A path without one leading `b/`. -/
def dropSide : List Char → List Char
  | 'b' :: '/' :: path => path
  | path => path

/-- The new path in a `diff --git` line, which is its fourth word. -/
def gitPath? (line : List Char) : Option String :=
  (Text.words line)[3]?.map fun path => String.ofList (dropSide path)

/-- The new path in what follows `+++ `: the text up to a tab, less the blanks at its end. A file
that the change deletes has none. -/
def newPath? (rest : List Char) : Option String :=
  let path := Text.trimEnd (rest.takeWhile (· ≠ '\t'))
  if path = "/dev/null".toList then none else some (String.ofList (dropSide path))

/-- How far a diff has been read: the lines found so far, the file that the next hunk belongs to,
how many old and new lines the body of the hunk still has, and the number of its next new line. -/
structure Progress where
  added : AddedLines
  file : Option String
  oldLeft : Nat
  newLeft : Nat
  line : UInt32
  deriving Inhabited

def Progress.start : Progress := ⟨.empty, none, 0, 0, 0⟩

/-- The number after a line number; the largest one is its own successor. -/
def nextLine (n : UInt32) : UInt32 := if n.toNat + 1 < UInt32.size then n + 1 else n

/-- Reads a line outside the body of a hunk. -/
def Progress.header (p : Progress) (line : List Char) : Except DiffError Progress :=
  if "diff --git ".toList.isPrefixOf line then .ok { p with file := gitPath? line }
  else
    match "+++ ".toList.isPrefixOf? line with
    | some rest => .ok { p with file := newPath? rest }
    | none =>
      if "@@".toList.isPrefixOf line then
        match HunkHeader.read? line with
        | none => .error (.malformedHunkHeader (String.ofList line))
        | some h =>
          .ok
            { p with
              added := p.file.elim p.added p.added.touch
              oldLeft := h.oldCount.toNat
              newLeft := h.newCount.toNat
              line := h.newStart }
      else .ok p

/-- Reads one line. In the body of a hunk the first character tells an added, a removed and a
shared line apart, a line that is empty counts as shared, one that starts with a backslash is a
remark, and any other ends the hunk early. -/
def Progress.step (p : Progress) (line : List Char) : Except DiffError Progress :=
  if p.oldLeft = 0 ∧ p.newLeft = 0 then p.header line
  else
    match line with
    | '+' :: _ =>
      .ok
        { p with
          added := p.file.elim p.added fun path => p.added.insert path p.line
          newLeft := p.newLeft - 1
          line := nextLine p.line }
    | '-' :: _ => .ok { p with oldLeft := p.oldLeft - 1 }
    | '\\' :: _ => .ok p
    | [] | ' ' :: _ =>
      .ok
        { p with
          oldLeft := p.oldLeft - 1
          newLeft := p.newLeft - 1
          line := nextLine p.line }
    | _ => { p with oldLeft := 0, newLeft := 0 }.header line

/-- Reads lines from some point on. -/
def Progress.run (p : Progress) : List (List Char) → Except DiffError Progress
  | [] => .ok p
  | line :: rest =>
    match p.step line with
    | .ok q => q.run rest
    | .error e => .error e

def addedLines (diff : String) : Except DiffError AddedLines :=
  (Progress.start.run (Text.lines diff.toList)).map (·.added)

end UnifiedDiff

end LintReview

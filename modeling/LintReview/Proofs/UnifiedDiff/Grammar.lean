import LintReview.Proofs.AddedLines
import LintReview.Proofs.Text.Words
import LintReview.UnifiedDiff

/-! The form of a unified diff, and what it says about added lines. A diff is a list of
`FileSection`s; `fileLines` writes it as lines. The counts in the header of a `Hunk` are those of
its body by construction. `Describes` says which map of added lines belongs to a diff, without
reading it line by line: a line is added when it stands behind a plus sign, and its number is the
start of the hunk plus the number of new lines above it in the body. -/

namespace LintReview.UnifiedDiff

/-! ## Hunks -/

/-- A number that 32 bits hold, in decimal. Zeros may precede it. -/
structure Numeral where
  zeros : Nat := 0
  value : UInt32

def Numeral.text (n : Numeral) : List Char :=
  List.replicate n.zeros '0' ++ Decimal.digits n.value.toNat

/-- A range of lines, `start,count`, or `start` alone for one line. -/
structure Range where
  start : Numeral
  count : Option Numeral := none

def Range.text (r : Range) : List Char :=
  r.start.text ++ r.count.elim [] fun count => ',' :: count.text

/-- How many lines the range has. -/
def Range.size (r : Range) : Nat := r.count.elim 1 fun count => count.value.toNat

/-- A line in the body of a hunk. -/
inductive BodyLine where
  | added (text : List Char)
  | removed (text : List Char)
  | shared (text : List Char)
  /-- A shared line that is empty and has lost its space. -/
  | blank
  | remark (text : List Char)

namespace BodyLine

def text : BodyLine → List Char
  | added text => '+' :: text
  | removed text => '-' :: text
  | shared text => ' ' :: text
  | blank => []
  | remark text => '\\' :: text

/-- The line is one of the new file. -/
def inNew : BodyLine → Bool
  | added _ | shared _ | blank => true
  | removed _ | remark _ => false

/-- The line is one of the old file. -/
def inOld : BodyLine → Bool
  | removed _ | shared _ | blank => true
  | added _ | remark _ => false

def isAdded : BodyLine → Bool
  | added _ => true
  | _ => false

theorem inNew_of_isAdded {b : BodyLine} (h : b.isAdded = true) : b.inNew = true := by
  cases b with
  | added text => rfl
  | _ => cases h

end BodyLine

/-- The body adds the line `n` of the new file, whose line `start` is the first that the body
shows. -/
def BodyAdds (start : Nat) (body : List BodyLine) (n : Nat) : Prop :=
  ∃ above b below, body = above ++ b :: below ∧ b.isAdded = true ∧
    n = start + above.countP BodyLine.inNew

/-- A hunk, whose body has as many old and new lines as its header says. The number of its last new
line fits in 32 bits. -/
structure Hunk where
  old : Range
  new : Range
  heading : List Char
  body : List BodyLine
  old_size : body.countP BodyLine.inOld = old.size
  new_size : body.countP BodyLine.inNew = new.size
  fits : new.start.value.toNat + new.size ≤ UInt32.size

namespace Hunk

def header (h : Hunk) : List Char :=
  "@@ -".toList ++ h.old.text ++ " +".toList ++ h.new.text ++ " @@".toList ++ h.heading

def lines (h : Hunk) : List (List Char) := h.header :: h.body.map BodyLine.text

/-- The hunk adds the line `n` of the new file. -/
def Adds (h : Hunk) (n : Nat) : Prop := BodyAdds h.new.start.value.toNat h.body n

end Hunk

/-! ## Sections -/

/-- How a section names its file: in a `+++ ` line, before which a `diff --git ` line may stand, or
in a `diff --git ` line alone, where blanks set the two paths apart. -/
inductive Naming where
  | plus (git : Option (List Char)) (path : List Char) (stamp : Option (List Char))
    (hpath : '\t' ∉ path)
  | gitOnly (old new : List Char) (hold : Text.IsWord old) (hnew : Text.IsWord new)

namespace Naming

/-- The `diff --git ` line, if there is one. -/
def gitLine : Naming → List (List Char)
  | plus git _ _ _ => git.toList.map ("diff --git ".toList ++ ·)
  | gitOnly old new _ _ => ["diff --git ".toList ++ old ++ ' ' :: new]

/-- The `+++ ` line, if there is one. A tab sets a time stamp apart. -/
def plusLine : Naming → List (List Char)
  | plus _ path stamp _ => ["+++ ".toList ++ path ++ stamp.elim [] ('\t' :: ·)]
  | gitOnly .. => []

/-- A path without one `b/` at its start. -/
def withoutSide (path : List Char) : List Char :=
  if ['b', '/'] <+: path then path.drop 2 else path

/-- The file that the section changes, if it does not delete it. The white space at the end of a
`+++ ` line is no part of the path. -/
def destination : Naming → Option String
  | plus _ path _ _ =>
    let path := path.rdropWhile Text.isBlank
    if path = "/dev/null".toList then none else some (String.ofList (withoutSide path))
  | gitOnly _ new _ _ => some (String.ofList (withoutSide new))

end Naming

/-- A line that may stand among the header lines of a section without a meaning of its own. -/
def IsExtra (line : List Char) : Prop :=
  ¬"diff --git ".toList <+: line ∧ ¬"+++ ".toList <+: line ∧ ¬"@@".toList <+: line

instance : DecidablePred IsExtra := fun _ => inferInstanceAs (Decidable (_ ∧ _ ∧ _))

/-- What a diff says about one file. -/
structure FileSection where
  naming : Naming
  extra : List (List Char)
  isExtra : ∀ line ∈ extra, IsExtra line
  hunks : List Hunk

namespace FileSection

def destination (s : FileSection) : Option String := s.naming.destination

theorem destination_with_hunks (s : FileSection) (hunks : List Hunk) :
    { s with hunks }.destination = s.destination := rfl

def lines (s : FileSection) : List (List Char) :=
  s.naming.gitLine ++ s.extra ++ s.naming.plusLine ++ s.hunks.flatMap Hunk.lines

end FileSection

/-- The lines of a diff. -/
def fileLines (diff : List FileSection) : List (List Char) := diff.flatMap FileSection.lines

/-! ## The added lines of a diff -/

/-- The map belongs to the diff. A file is touched if it is the destination of a section with a
hunk, and a line of it is held if a hunk of such a section adds it. -/
structure Describes (added : AddedLines) (diff : List FileSection) : Prop where
  ascending : added.Ascending
  touches : ∀ path, added.Touches path ↔
    ∃ s ∈ diff, s.destination = some path ∧ s.hunks ≠ []
  holds : ∀ path n, added.Holds path n ↔
    ∃ s ∈ diff, s.destination = some path ∧ ∃ h ∈ s.hunks, h.Adds n.toNat

/-- **One map at most belongs to a diff.** -/
theorem Describes.unique {added other : AddedLines} {diff : List FileSection}
    (h : Describes added diff) (h' : Describes other diff) : other = added :=
  h'.ascending.ext h.ascending (fun p => (h'.touches p).trans (h.touches p).symm)
    fun p n => (h'.holds p n).trans (h.holds p n).symm

end LintReview.UnifiedDiff

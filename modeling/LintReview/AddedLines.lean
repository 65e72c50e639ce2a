/-! The lines that a change adds, by file. `AddedLines` holds each file the change touches, in the
order of the paths, with the numbers of its added lines in ascending order; a file may be touched
without a line being added to it. `AddedLines.lines?` is the view through which the operations are
described. -/

namespace LintReview

/-- The files a change touches, ascending by path, each with its added lines in ascending order. -/
structure AddedLines where
  files : List (String × List UInt32)
  deriving DecidableEq, Inhabited

namespace AddedLines

/-- Nothing is touched. -/
def empty : AddedLines := ⟨[]⟩

/-- The lines added to a file, if the change touches it. -/
def lines? (added : AddedLines) (path : String) : Option (List UInt32) :=
  added.files.lookup path

/-- Puts a number into an ascending list that may hold it already. -/
def insertLine (n : UInt32) : List UInt32 → List UInt32
  | [] => [n]
  | m :: ms => if n < m then n :: m :: ms else if n = m then m :: ms else m :: insertLine n ms

/-- Changes the lines of one file in a list that ascends by path, adding the file if needed. -/
def updateFile (path : String) (f : List UInt32 → List UInt32) :
    List (String × List UInt32) → List (String × List UInt32)
  | [] => [(path, f [])]
  | (p, ls) :: rest =>
    if path < p then (path, f []) :: (p, ls) :: rest
    else if path = p then (p, f ls) :: rest
    else (p, ls) :: updateFile path f rest

/-- Records that a file is touched. -/
def touch (added : AddedLines) (path : String) : AddedLines :=
  ⟨updateFile path id added.files⟩

/-- Records an added line of a file. -/
def insert (added : AddedLines) (path : String) (line : UInt32) : AddedLines :=
  ⟨updateFile path (insertLine line) added.files⟩

/-- Whether the `count` numbers from `start` on are all in the list. -/
def holdsFrom (ls : List UInt32) : (count : Nat) → (start : UInt32) → Bool
  | 0, _ => true
  | count + 1, start => ls.contains start && holdsFrom ls count (start + 1)

/-- Whether the file is touched and every line from `first` to `last` was added to it. -/
def containsRange (added : AddedLines) (path : String) (first last : UInt32) : Bool :=
  match added.lines? path with
  | none => false
  | some ls => holdsFrom ls (last.toNat + 1 - first.toNat) first

def isEmpty (added : AddedLines) : Bool := added.files.isEmpty

end AddedLines

end LintReview

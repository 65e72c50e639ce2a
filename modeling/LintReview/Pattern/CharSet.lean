/-! Sets of characters, as ascending lists of ranges of code points that do not touch. Union,
complement, intersection and difference keep that form, and membership stops at the first range
beyond the character. -/

namespace LintReview.Pattern

/-- A set of characters, as ascending ranges of code points that do not touch each other. -/
structure CharSet where
  ranges : List (Nat × Nat)
  deriving DecidableEq, Repr, Inhabited

namespace CharSet

/-- The greatest code point. -/
def lastCode : Nat := 0x10FFFF

def empty : CharSet := ⟨[]⟩

def all : CharSet := ⟨[(0, lastCode)]⟩

/-- The characters between two, both included. -/
def range (lo hi : Char) : CharSet := ⟨[(lo.toNat, hi.toNat)]⟩

def single (c : Char) : CharSet := range c c

/-- Whether a code point lies in one of some ascending ranges. -/
def inRanges (n : Nat) : List (Nat × Nat) → Bool
  | [] => false
  | (lo, hi) :: rest => if n < lo then false else if n ≤ hi then true else inRanges n rest

def contains (s : CharSet) (c : Char) : Bool := inRanges c.toNat s.ranges

/-- Adds a range to ascending ranges and joins those that it touches. -/
def insertRange : (lo hi : Nat) → List (Nat × Nat) → List (Nat × Nat)
  | lo, hi, [] => [(lo, hi)]
  | lo, hi, (a, b) :: rest =>
    if hi + 1 < a then (lo, hi) :: (a, b) :: rest
    else if b + 1 < lo then (a, b) :: insertRange lo hi rest
    else insertRange (min lo a) (max hi b) rest

def ofRanges (ranges : List (Nat × Nat)) : CharSet :=
  ⟨ranges.foldl (fun acc r => insertRange r.1 r.2 acc) []⟩

def union (s t : CharSet) : CharSet :=
  match s.ranges, t.ranges with
  | [], _ => t
  | _, [] => s
  | a, b => ⟨b.foldl (fun acc r => insertRange r.1 r.2 acc) a⟩

/-- The gaps between ascending ranges, from a code point on. -/
def gaps (start : Nat) : List (Nat × Nat) → List (Nat × Nat)
  | [] => if start ≤ lastCode then [(start, lastCode)] else []
  | (lo, hi) :: rest =>
    if start < lo then (start, lo - 1) :: gaps (hi + 1) rest else gaps (hi + 1) rest

def compl (s : CharSet) : CharSet := ⟨gaps 0 s.ranges⟩

/-- The characters in both sets. -/
def inter (s t : CharSet) : CharSet := (s.compl.union t.compl).compl

/-- The characters of the first set that are not in the second. -/
def diff (s t : CharSet) : CharSet := s.inter t.compl

/-- The characters in exactly one of two sets. -/
def symmDiff (s t : CharSet) : CharSet := (s.union t).diff (s.inter t)

/-- Whether the set holds ASCII characters only. -/
def isAscii (s : CharSet) : Bool := s.ranges.all fun r => r.2 < 0x80

end CharSet

namespace Unicode

/-- A property of characters: its names, and its members as ranges in hexadecimal. -/
structure Table where
  names : List String
  ranges : String

/-- The value of a digit of the tables. -/
def hexValue (c : Char) : Nat :=
  if c.isDigit then c.toNat - '0'.toNat else c.toNat - 'A'.toNat + 10

/-- The number written by some hexadecimal digits. -/
def hexNumber (ds : List Char) : Nat := ds.foldl (fun n d => n * 16 + hexValue d) 0

/-- Reads one range, or one code point. -/
def readRange (s : List Char) : Nat × Nat :=
  match s.splitOn '-' with
  | [lo, hi] => (hexNumber lo, hexNumber hi)
  | _ => (hexNumber s, hexNumber s)

/-- The entries of a text that blanks and line breaks set off from each other. -/
def entries (s : String) : List (List Char) :=
  (s.toList.splitOnP fun c => c = ' ' || c = '\n').filter fun e => !e.isEmpty

def Table.set (t : Table) : CharSet := ⟨(entries t.ranges).map readRange⟩

def find? (tables : List Table) (name : String) : Option CharSet :=
  (tables.find? fun t => t.names.contains name).map Table.set

end Unicode

end LintReview.Pattern

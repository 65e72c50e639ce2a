import LintReview.Pattern.Unicode.Word
import LintReview.Pattern.CharSet

/-! Patterns ready to be matched. A `Node` is built from sets of characters, assertions about a
`Place` in the text, sequences, alternatives in the order of preference, loops and groups; all other
forms of repetition are written with these. -/

namespace LintReview.Pattern

/-- A place in a text: its distance from the start, the character before it and the text after
it. -/
structure Place where
  before : Option Char
  offset : Nat
  rest : List Char

def Place.toEnd (before : Option Char) (offset : Nat) : List Char → List Place
  | [] => [⟨before, offset, []⟩]
  | c :: rest => ⟨before, offset, c :: rest⟩ :: toEnd (some c) (offset + 1) rest

/-- An assertion about a place. -/
inductive Look where
  | textStart
  | textEnd
  /-- The start of a line; with `crlf` also after a carriage return that no line feed follows. -/
  | lineStart (crlf : Bool)
  /-- The end of a line; with `crlf` before a carriage return, not between it and a line feed. -/
  | lineEnd (crlf : Bool)
  | boundary (unicode : Bool)
  | notBoundary (unicode : Bool)
  | wordStart (unicode : Bool)
  | wordEnd (unicode : Bool)
  /-- No character of a word precedes. -/
  | wordStartHalf (unicode : Bool)
  /-- No character of a word follows. -/
  | wordEndHalf (unicode : Bool)
  deriving DecidableEq, Repr

def isWordChar (unicode : Bool) (c : Char) : Bool :=
  if c.toNat < 0x80 then c.isAlphanum || c = '_'
  else unicode && CharSet.inRanges c.toNat Unicode.wordRanges

/-- Whether an assertion holds between two characters, each absent at an end of the text. -/
def Look.holds (before after : Option Char) : Look → Bool
  | textStart => before.isNone
  | textEnd => after.isNone
  | lineStart false => before.isNone || before = some '\n'
  | lineStart true =>
    before.isNone || before = some '\n' || (before = some '\r' && after ≠ some '\n')
  | lineEnd false => after.isNone || after = some '\n'
  | lineEnd true =>
    after.isNone || after = some '\r' || (after = some '\n' && before ≠ some '\r')
  | boundary u => before.any (isWordChar u) != after.any (isWordChar u)
  | notBoundary u => before.any (isWordChar u) == after.any (isWordChar u)
  | wordStart u => !before.any (isWordChar u) && after.any (isWordChar u)
  | wordEnd u => before.any (isWordChar u) && !after.any (isWordChar u)
  | wordStartHalf u => !before.any (isWordChar u)
  | wordEndHalf u => !after.any (isWordChar u)

/-- A pattern ready to be matched. -/
inductive Node where
  | empty
  | set (s : CharSet)
  | look (l : Look)
  | cat (first second : Node)
  /-- The first branch is preferred. -/
  | alt (first second : Node)
  /-- One or more times, preferring more if `greedy`. -/
  | loop (greedy : Bool) (body : Node)
  /-- A group whose text is captured. -/
  | group (index : Nat) (body : Node)
  deriving Repr, Inhabited

namespace Node

/-- The pattern or nothing, preferring the pattern if `greedy`. -/
def opt (greedy : Bool) (n : Node) : Node := if greedy then alt n empty else alt empty n

def times (start n : Node) : Nat → Node
  | 0 => start
  | count + 1 => times (cat start n) n count

def upTo (greedy : Bool) (n : Node) : Nat → Node
  | 0 => empty
  | count + 1 => opt greedy (cat n (upTo greedy n count))

/-- A pattern repeated between `least` and `most` times, or at least `least` times. -/
def repeated (n : Node) (least : Nat) (most : Option Nat) (greedy : Bool) : Node :=
  match least, most with
  | 0, none => opt greedy (loop greedy n)
  | 1, none => loop greedy n
  | least + 1, none => cat (times empty n least) (loop greedy n)
  | least, some most => cat (times empty n least) (upTo greedy n (most - least))

end Node

end LintReview.Pattern

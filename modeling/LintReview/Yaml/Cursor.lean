/-! Places in a YAML text. A `Cursor` is the text from a place on, with the line and the column of
the place; both count from zero, and a line ends at one of five line breaks. -/

namespace LintReview.Yaml

/-! ## Characters -/

def isAllowed (c : Char) : Bool :=
  let n := c.toNat
  n == 0x09 || n == 0x0A || n == 0x0D || (0x20 ≤ n && n ≤ 0x7E) || n == 0x85 ||
    (0xA0 ≤ n && n ≤ 0xFFFD) || 0x10000 ≤ n

/-- The characters that end a line. -/
def isBreak (c : Char) : Bool :=
  c = '\r' || c = '\n' || c = '\u0085' || c = '\u2028' || c = '\u2029'

/-- The characters that separate words within a line. -/
def isSpace (c : Char) : Bool := c = ' ' || c = '\t'

/-- The characters of names, of anchors as well as of directives. -/
def isNameChar (c : Char) : Bool := c.isAlphanum || c = '_' || c = '-'

/-- Whether a text starts with a space or a line break, or is at its end. -/
def atGap : List Char → Bool
  | [] => true
  | c :: _ => isSpace c || isBreak c

/-- Whether a text starts with a line break or is at its end. -/
def atLineEnd : List Char → Bool
  | [] => true
  | c :: _ => isBreak c

/-- Whether a text starts with a line that separates documents, provided that it starts a line. -/
def atSeparator : List Char → Bool
  | '-' :: '-' :: '-' :: rest => atGap rest
  | '.' :: '.' :: '.' :: rest => atGap rest
  | _ => false

/-- The value of a hexadecimal digit. -/
def hexValue? (c : Char) : Option Nat :=
  if c.isDigit then some (c.toNat - '0'.toNat)
  else if 'a' ≤ c ∧ c ≤ 'f' then some (c.toNat - 'a'.toNat + 10)
  else if 'A' ≤ c ∧ c ≤ 'F' then some (c.toNat - 'A'.toNat + 10)
  else none

def hexNumber? (digits : List Char) : Option Nat :=
  digits.foldlM (fun n c => (hexValue? c).map (16 * n + ·)) 0

/-! ## Cursors -/

/-- A place in a text. -/
structure Cursor where
  rest : List Char
  /-- How many characters are before the place. -/
  index : Nat := 0
  line : Nat := 0
  column : Nat := 0

namespace Cursor

/-- Goes past a number of characters, none of which ends a line. -/
def skip (c : Cursor) (n : Nat) : Cursor where
  rest := c.rest.drop n
  index := c.index + n
  line := c.line
  column := c.column + n

/-- Goes to a later place on the same line, given the text from there on. -/
def jump (c : Cursor) (rest : List Char) : Cursor :=
  { c.skip (c.rest.length - rest.length) with rest }

/-- The characters from a place on that have a property which no line break has, and the place
after them. -/
def span (c : Cursor) (p : Char → Bool) : List Char × Cursor :=
  let found := c.rest.takeWhile p
  (found, c.skip found.length)

/-- Goes past the spaces and tabs. -/
def skipSpaces (c : Cursor) : Cursor := (c.span isSpace).2

/-- Goes past a comment, if there is one. -/
def skipComment (c : Cursor) : Cursor :=
  match c.rest with
  | '#' :: _ => (c.span fun x => !isBreak x).2
  | _ => c

/-- The place at the start of the next line. -/
def newLine (c : Cursor) (width : Nat) (rest : List Char) : Cursor where
  rest := rest
  index := c.index + width
  line := c.line + 1
  column := 0

/-- A line break in the form that scalars keep it in, and the place after it. -/
def break? (c : Cursor) : Option (Char × Cursor) :=
  match c.rest with
  | '\r' :: '\n' :: rest => some ('\n', c.newLine 2 rest)
  | b :: rest =>
    if b = '\u2028' ∨ b = '\u2029' then some (b, c.newLine 1 rest)
    else if isBreak b then some ('\n', c.newLine 1 rest)
    else none
  | [] => none

/-- Goes past a line break, if there is one. -/
def skipBreak (c : Cursor) : Cursor :=
  match c.break? with
  | some (_, next) => next
  | none => c

/-- Goes past spaces, a comment and a line break; there must not be anything else on the line. -/
def endLine? (c : Cursor) : Option Cursor :=
  let c := c.skipSpaces.skipComment
  if atLineEnd c.rest then some c.skipBreak else none

end Cursor

end LintReview.Yaml

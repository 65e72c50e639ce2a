import LintReview.Yaml.Cursor

/-! Scalars on one or more lines, plain or in quotes. Between two words a `Gap` of spaces stays as
it is, and one with line breaks is folded: a single break becomes a space, and of more than one the
first is dropped. -/

namespace LintReview.Yaml

/-- How a scalar is written. -/
inductive ScalarStyle where
  | plain
  | quoted
  | literal
  | folded
  deriving DecidableEq, Repr

/-! ## Gaps -/

/-- What stands between two words of a scalar. -/
inductive Gap where
  | spaces (text : List Char)
  /-- The first line break, unless it was escaped, and the others. -/
  | breaks (first : Option Char) (others : List Char)

namespace Gap

def fold : Gap → List Char
  | spaces text => text
  | breaks (some '\n') [] => [' ']
  | breaks (some '\n') others => others
  | breaks first others => first.toList ++ others

/-- Whether a gap holds a line break. -/
def isBroken : Gap → Bool
  | spaces _ => false
  | breaks _ _ => true

/-- A gap that a space or tab extends. Spaces next to a line break do not count. -/
def addSpace (c : Char) : Gap → Gap
  | spaces text => spaces (text ++ [c])
  | gap => gap

/-- A gap that a line break extends. -/
def addBreak (b : Char) : Gap → Gap
  | spaces _ => breaks (some b) []
  | breaks first others => breaks first (others ++ [b])

/-- Reads the spaces and line breaks from a place on into a gap. A tab before the column
`minColumn` of a new line is refused. -/
def read? (minColumn : Nat) : (bound : Nat) → Gap → Cursor → Option (Gap × Cursor)
  | 0, gap, c => some (gap, c)
  | bound + 1, gap, c =>
    match c.break? with
    | some (b, next) => read? minColumn bound (gap.addBreak b) next
    | none =>
      match c.rest with
      | x :: _ =>
        if x = '\t' && gap.isBroken && c.column < minColumn then none
        else if isSpace x then read? minColumn bound (gap.addSpace x) (c.skip 1)
        else some (gap, c)
      | [] => some (gap, c)

end Gap

/-! ## Plain scalars -/

namespace Plain

/-- Reads a plain word: it ends at a gap, at a colon before a gap, and in a flow collection also at
the punctuation of such collections, where it must not end in a colon. -/
def word? (flow : Bool) : List Char → Option (List Char × List Char)
  | [] => some ([], [])
  | c :: rest =>
    let punctuation := [',', '[', ']', '\x7b', '\x7d']
    if atGap [c] then some ([], c :: rest)
    else if c = ':' && flow && rest.head?.any fun x => x = '?' || punctuation.contains x then none
    else if (c = ':' && atGap rest) || (flow && punctuation.contains c) then some ([], c :: rest)
    else (word? flow rest).map fun (word, rest) => (c :: word, rest)

/-- Reads the words of a plain scalar that has the given text so far and a gap after it. Answers
whether a line break follows the last word. -/
def words? (flow : Bool) (minColumn : Nat) :
    (bound : Nat) → (text : List Char) → Gap → Cursor → Option (List Char × Bool × Cursor)
  | 0, _, _, _ => none
  | bound + 1, text, gap, c =>
    if (c.column = 0 && atSeparator c.rest) || c.rest.head? = some '#' then
      some (text, gap.isBroken, c)
    else do
      let (word, rest) ← word? flow c.rest
      let c := c.jump rest
      let (text, gap) :=
        if word.isEmpty then (text, gap) else (text ++ gap.fold ++ word, .spaces [])
      if rest.isEmpty || !atGap rest then some (text, gap.isBroken, c)
      else
        let (gap, c) ← gap.read? minColumn rest.length c
        if !flow && c.column < minColumn then some (text, gap.isBroken, c)
        else words? flow minColumn bound text gap c

/-- Reads a plain scalar whose lines do not start before a column. Answers its text, whether a line
break follows it, and the place after it. -/
def read? (flow : Bool) (minColumn : Nat) (c : Cursor) : Option (String × Bool × Cursor) :=
  (words? flow minColumn (c.rest.length + 1) [] (.spaces []) c).map fun (text, broken, c) =>
    (String.ofList text, broken, c)

end Plain

/-! ## Quoted scalars -/

namespace Quoted

/-- The character that an escape of one letter stands for. -/
def escaped? : Char → Option Char
  | '0' => some '\x00'
  | 'a' => some '\x07'
  | 'b' => some '\x08'
  | 't' => some '\t'
  | '\t' => some '\t'
  | 'n' => some '\n'
  | 'v' => some '\x0b'
  | 'f' => some '\x0c'
  | 'r' => some '\r'
  | 'e' => some '\x1b'
  | ' ' => some ' '
  | '"' => some '"'
  | '/' => some '/'
  | '\\' => some '\\'
  | 'N' => some '\u0085'
  | '_' => some '\u00a0'
  | 'L' => some '\u2028'
  | 'P' => some '\u2029'
  | _ => none

/-- The character with the code that some hexadecimal digits say. -/
def coded? (digits : List Char) : Option Char := do
  let n ← hexNumber? digits
  if (0xD800 ≤ n && n ≤ 0xDFFF) || 0x10FFFF < n then none else some (Char.ofNat n)

/-- Reads a word between single quotes, where a quote is written twice. -/
def singleWord : List Char → List Char × List Char
  | '\'' :: '\'' :: rest =>
    let (word, rest) := singleWord rest
    ('\'' :: word, rest)
  | c :: rest =>
    if c = '\'' || atGap [c] then ([], c :: rest)
    else
      let (word, rest) := singleWord rest
      (c :: word, rest)
  | [] => ([], [])

/-- Reads a word between double quotes. It also ends at a backslash before a line break. -/
def doubleWord? : List Char → Option (List Char × List Char)
  | '\\' :: 'x' :: a :: b :: rest => do
    let c ← coded? [a, b]
    let (word, rest) ← doubleWord? rest
    some (c :: word, rest)
  | '\\' :: 'u' :: a :: b :: c :: d :: rest => do
    let x ← coded? [a, b, c, d]
    let (word, rest) ← doubleWord? rest
    some (x :: word, rest)
  | '\\' :: 'U' :: a :: b :: c :: d :: e :: f :: g :: h :: rest => do
    let x ← coded? [a, b, c, d, e, f, g, h]
    let (word, rest) ← doubleWord? rest
    some (x :: word, rest)
  | '\\' :: e :: rest =>
    if isBreak e then some ([], '\\' :: e :: rest)
    else do
      let c ← escaped? e
      let (word, rest) ← doubleWord? rest
      some (c :: word, rest)
  | c :: rest =>
    if c = '\\' then none
    else if c = '"' || atGap [c] then some ([], c :: rest)
    else do
      let (word, rest) ← doubleWord? rest
      some (c :: word, rest)
  | [] => some ([], [])

/-- Reads a word between quotes. -/
def word? (single : Bool) (s : List Char) : Option (List Char × List Char) :=
  if single then some (singleWord s) else doubleWord? s

/-- Reads the words of a scalar after its opening quote; the place after its closing quote is
answered with its text. -/
def words? (single : Bool) :
    (bound : Nat) → (text : List Char) → Cursor → Option (List Char × Cursor)
  | 0, _, _ => none
  | bound + 1, text, c =>
    if c.column = 0 && atSeparator c.rest then none
    else do
      let (word, rest) ← word? single c.rest
      let text := text ++ word
      let c := c.jump rest
      if rest.head? = some (if single then '\'' else '"') then some (text, c.skip 1)
      else if rest.isEmpty then none
      else
        let (gap, c) :=
          if rest.head? = some '\\' then (Gap.breaks none [], (c.skip 1).skipBreak)
          else (Gap.spaces [], c)
        let (gap, c) ← gap.read? 0 c.rest.length c
        words? single bound (text ++ gap.fold) c

def read? (single : Bool) (c : Cursor) : Option (String × Cursor) :=
  (words? single (c.rest.length + 1) [] (c.skip 1)).map fun (text, c) => (String.ofList text, c)

end Quoted

end LintReview.Yaml

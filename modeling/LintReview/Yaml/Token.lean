import LintReview.Yaml.BlockScalar
import LintReview.Yaml.Scalar

/-! The tokens of a YAML text, and how those that stand by themselves are read: directives, anchors,
aliases and tags. `Layout` finds the tokens that only the arrangement of a text shows. -/

namespace LintReview.Yaml

inductive Token where
  /-- The directive that names the version of the language. -/
  | version (major minor : Nat)
  /-- The directive that makes a handle stand for the start of some tags. -/
  | shorthand (handle expansion : String)
  | documentStart
  | documentEnd
  | blockSequence
  | blockMapping
  | blockEnd
  | flowSequence
  | flowSequenceEnd
  | flowMapping
  | flowMappingEnd
  | item
  | comma
  | key
  | value
  | alias (name : String)
  | anchor (name : String)
  | tag (handle suffix : String)
  | scalar (style : ScalarStyle) (text : String)
  deriving DecidableEq, Repr

namespace Token

/-! ## Names -/

/-- Reads the name of an anchor or an alias after its indicator. -/
def name? (c : Cursor) : Option (String × Cursor) :=
  let (name, next) := (c.skip 1).span isNameChar
  let ends :=
    atGap next.rest ||
      next.rest.head?.any fun x => ['?', ':', ',', ']', '\x7d', '%', '@', '\x60'].contains x
  if name.isEmpty || !ends then none else some (String.ofList name, next)

/-! ## Tags -/

/-- The characters of tags. In tags between angle brackets there may be some more. -/
def isTagChar (bracketed : Bool) (c : Char) : Bool :=
  isNameChar c || ";/?:@&=+$.%!~*'()".toList.contains c || (bracketed && ",[]".toList.contains c)

/-- Reads an octet that is written with a percent sign. -/
def octet? : List Char → Option (Nat × List Char)
  | '%' :: a :: b :: rest => do
    let a ← hexValue? a
    let b ← hexValue? b
    some (16 * a + b, rest)
  | _ => none

def octets? : Nat → List Char → Option (List Char × List Char)
  | 0, s => some ([], s)
  | n + 1, s => do
    let (octet, rest) ← octet? s
    if octet / 64 ≠ 2 then none
    else
      let (octets, rest) ← octets? n rest
      some (Char.ofNat octet :: octets, rest)

/-- How many octets follow the first octet of a character. -/
def following? (octet : Nat) : Option Nat :=
  if octet < 0x80 then some 0
  else if octet / 32 = 6 then some 1
  else if octet / 16 = 14 then some 2
  else if octet / 8 = 30 then some 3
  else none

/-- Reads the characters of a tag. Octets beyond ASCII stay apart. -/
def tagText? (bracketed : Bool) : (bound : Nat) → List Char → Option (List Char × List Char)
  | 0, s => some ([], s)
  | bound + 1, s =>
    match s with
    | [] => some ([], [])
    | c :: rest =>
      if c = '%' then do
        let (octet, rest) ← octet? s
        let (octets, rest) ← octets? (← following? octet) rest
        let (text, rest) ← tagText? bracketed bound rest
        some (Char.ofNat octet :: octets ++ text, rest)
      else if isTagChar bracketed c then
        (tagText? bracketed bound rest).map fun (text, rest) => (c :: text, rest)
      else some ([], s)

/-- Reads the rest of a tag from a place on. -/
def suffix? (bracketed : Bool) (c : Cursor) : Option (List Char × Cursor) :=
  (tagText? bracketed c.rest.length c.rest).map fun (text, rest) => (text, c.jump rest)

/-- Reads a handle: exclamation marks around a name, or as much of that as there is. -/
def handle? (c : Cursor) : Option (List Char × Cursor) :=
  if c.rest.head? ≠ some '!' then none
  else
    let (name, next) := (c.skip 1).span isNameChar
    if next.rest.head? = some '!' then some ('!' :: name ++ ['!'], next.skip 1)
    else some ('!' :: name, next)

/-- Whether what was read as a handle ends like one. -/
def isHandle (handle : List Char) : Bool := 1 < handle.length && handle.getLast? = some '!'

/-- Reads a tag: its handle, which is empty for one that is written in full, and its suffix. -/
def tag? (flow : Bool) (c : Cursor) : Option (Token × Cursor) := do
  let (handle, suffix, next) ←
    if c.rest.tail.head? = some '<' then do
      let (suffix, next) ← suffix? true (c.skip 2)
      if suffix.isEmpty || next.rest.head? ≠ some '>' then none
      else some ([], suffix, next.skip 1)
    else do
      let (handle, next) ← handle? c
      let (suffix, next) ← suffix? false next
      if isHandle handle then if suffix.isEmpty then none else some (handle, suffix, next)
      else if (handle.tail ++ suffix).isEmpty then some ([], ['!'], next)
      else some (['!'], handle.tail ++ suffix, next)
  if atGap next.rest || (flow && next.rest.head? = some ',') then
    some (.tag (String.ofList handle) (String.ofList suffix), next)
  else none

/-! ## Directives -/

/-- Reads a number of at most nine digits. -/
def number? (c : Cursor) : Option (Nat × Cursor) :=
  let (digits, next) := c.span Char.isDigit
  if digits.isEmpty || 9 < digits.length then none
  else some (Nat.ofDigitChars 10 digits 0, next)

def version? (c : Cursor) : Option (Token × Cursor) := do
  let (major, c) ← number? c.skipSpaces
  if c.rest.head? ≠ some '.' then none
  else
    let (minor, c) ← number? (c.skip 1)
    some (.version major minor, c)

/-- Reads the handle and its expansion in a directive. -/
def shorthand? (c : Cursor) : Option (Token × Cursor) := do
  let (handle, c) ← handle? c.skipSpaces
  if !(isHandle handle || handle.length = 1) || !c.rest.head?.any isSpace then none
  else
    let (expansion, c) ← suffix? true c.skipSpaces
    if expansion.isEmpty || !atGap c.rest then none
    else some (.shorthand (String.ofList handle) (String.ofList expansion), c)

/-- Reads a directive up to the end of its line. -/
def directive? (c : Cursor) : Option (Token × Cursor) := do
  let (name, c) := (c.skip 1).span isNameChar
  if !atGap c.rest then none
  else
    let (token, c) ←
      if name = "YAML".toList then version? c
      else if name = "TAG".toList then shorthand? c
      else none
    some (token, ← c.endLine?)

end Token

end LintReview.Yaml

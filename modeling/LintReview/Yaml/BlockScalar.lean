import LintReview.Yaml.Cursor

/-! Block scalars: the lines below a `|` or `>` that are indented far enough. A literal one keeps
its line breaks; a folded one joins lines that do not start with a space. -/

namespace LintReview.Yaml.BlockScalar

/-- What becomes of the line breaks at the end of a scalar. -/
inductive Chomping where
  | strip
  | clip
  | keep
  deriving DecidableEq

structure Header where
  chomping : Chomping := .clip
  /-- How much farther than its surroundings the text is indented, if the head says so. -/
  increment : Option Nat := none

def Chomping.ofSign? : Char → Option Chomping
  | '+' => some .keep
  | '-' => some .strip
  | _ => none

def increment? (c : Char) : Option Nat := if c.isDigit then some (c.toNat - '0'.toNat) else none

/-- Reads the sign and the digit of a head, in either order. -/
def Header.read (s : List Char) : Header × Nat :=
  let first := s.head?
  let second := s.tail.head?
  match first.bind Chomping.ofSign?, first.bind increment? with
  | some chomping, _ =>
    match second.bind increment? with
    | some n => (⟨chomping, some n⟩, 2)
    | none => (⟨chomping, none⟩, 1)
  | none, some n =>
    match second.bind Chomping.ofSign? with
    | some chomping => (⟨chomping, some n⟩, 2)
    | none => (⟨.clip, some n⟩, 1)
  | none, none => ({}, 0)

/-- Goes past indentation, to the given column at most. -/
def skipIndent (indent : Option Nat) (c : Cursor) : Cursor :=
  let found := (c.span (· = ' ')).1.length
  match indent with
  | some n => c.skip (min found (n - c.column))
  | none => c.skip found

/-- Reads empty lines: their line breaks, the greatest column reached, and the place where a line
that is not empty starts. A tab in the indentation is refused. -/
def emptyLines? (indent : Option Nat) :
    (bound : Nat) → (breaks : List Char) → (deepest : Nat) → Cursor →
      Option (List Char × Nat × Cursor)
  | 0, _, _, _ => none
  | bound + 1, breaks, deepest, c =>
    let c := skipIndent indent c
    let deepest := max deepest c.column
    if c.rest.head? = some '\t' && indent.all fun n => decide (c.column < n) then none
    else
      match c.break? with
      | some (b, next) => emptyLines? indent bound (breaks ++ [b]) deepest next
      | none => some (breaks, deepest, c)

/-- What the break after a line and the empty lines behind it become in front of another line. -/
def joint (literal : Bool) (lineBreak : Option Char) (breaks : List Char)
    (afterSpaced beforeSpaced : Bool) : List Char :=
  if !literal && lineBreak = some '\n' && !afterSpaced && !beforeSpaced then
    if breaks.isEmpty then [' '] else breaks
  else lineBreak.toList ++ breaks

def ending (chomping : Chomping) (lineBreak : Option Char) (breaks : List Char) : List Char :=
  match chomping with
  | .strip => []
  | .clip => lineBreak.toList
  | .keep => lineBreak.toList ++ breaks

/-- Reads the lines of a scalar that has the given text so far; `spaced` says whether the line
before started with a space. -/
def lines? (literal : Bool) (chomping : Chomping) (indent : Nat) :
    (bound : Nat) → (text : List Char) → (lineBreak : Option Char) → (breaks : List Char) →
      (spaced : Bool) → Cursor → Option (List Char × Cursor)
  | 0, _, _, _, _, _ => none
  | bound + 1, text, lineBreak, breaks, spaced, c =>
    if c.column = indent && !c.rest.isEmpty then do
      let nowSpaced := c.rest.head?.any isSpace
      let (line, next) := c.span fun x => !isBreak x
      let text := text ++ joint literal lineBreak breaks spaced nowSpaced ++ line
      let (breaks, _, start) ← emptyLines? (some indent) (next.rest.length + 1) [] 0 next.skipBreak
      lines? literal chomping indent bound text (next.break?.map Prod.fst) breaks nowSpaced start
    else some (text ++ ending chomping lineBreak breaks, c)

/-- Reads a block scalar whose surroundings are indented to `parent`, if they are indented. -/
def read? (literal : Bool) (parent : Option Nat) (c : Cursor) : Option (String × Cursor) := do
  let (header, width) := Header.read (c.rest.drop 1)
  if header.increment = some 0 then none
  else
    let c ← (c.skip (1 + width)).endLine?
    let given := header.increment.map (parent.getD 0 + ·)
    let (breaks, deepest, c) ← emptyLines? given (c.rest.length + 1) [] 0 c
    let least := max 1 ((parent.map (· + 1)).getD 0)
    let indent := given.getD (max deepest least)
    let (text, c) ← lines? literal header.chomping indent (c.rest.length + 1) [] none breaks false c
    some (String.ofList text, c)

end LintReview.Yaml.BlockScalar

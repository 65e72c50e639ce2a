import LintReview.Pattern.Expr
import LintReview.Pattern.Unicode.Category
import LintReview.Pattern.Unicode.Property
import LintReview.Text.Blank
import LintReview.Text.Decimal

/-! Reading the text of a pattern. The readers of single parts take the rest of the text and answer
the part with what follows it; `Parsing` holds the groups that are still open. With the flag `x`,
blanks and remarks may stand between the parts, which is what the argument `spaced` says. -/

namespace LintReview.Pattern

/-! ## Blanks and remarks -/

/-- Passes over blanks, and over remarks from `#` to the end of the line. -/
def skipRemarks : (inRemark : Bool) → List Char → List Char
  | _, [] => []
  | true, c :: rest => skipRemarks (c ≠ '\n') rest
  | false, c :: rest =>
    if Text.isBlank c then skipRemarks false rest
    else if c = '#' then skipRemarks true rest
    else c :: rest

/-- Passes over blanks and remarks where they may stand. -/
def skip (spaced : Bool) (s : List Char) : List Char :=
  if spaced then skipRemarks false s else s

/-- Takes characters as long as they satisfy a condition, passing over blanks and remarks. -/
def collect (spaced : Bool) (ok : Char → Bool) : (inRemark : Bool) → List Char →
    List Char × List Char
  | _, [] => ([], [])
  | true, c :: rest => collect spaced ok (c ≠ '\n') rest
  | false, c :: rest =>
    if spaced && Text.isBlank c then collect spaced ok false rest
    else if spaced && c = '#' then collect spaced ok true rest
    else if ok c then
      let (cs, rest) := collect spaced ok false rest
      (c :: cs, rest)
    else ([], c :: rest)

/-! ## Escapes -/

/-- The characters that have a meaning of their own in a pattern. -/
def metaCharacters : List Char :=
  ['\\', '.', '+', '*', '?', '(', ')', '|', '[', ']', '\x7b', '\x7d', '^', '$', '#', '&', '-', '~']

/-- Whether a backslash before the character makes it a literal. -/
def isEscapable (c : Char) : Bool :=
  metaCharacters.contains c || (c.toNat < 0x80 && !c.isAlphanum && c ≠ '<' && c ≠ '>')

def hexDigit? (c : Char) : Option Nat :=
  if c.isDigit then some (c.toNat - '0'.toNat)
  else if 'a' ≤ c ∧ c ≤ 'f' then some (c.toNat - 'a'.toNat + 10)
  else if 'A' ≤ c ∧ c ≤ 'F' then some (c.toNat - 'A'.toNat + 10)
  else none

/-- The character whose code some hexadecimal digits write. -/
def charOfHex? (ds : List Char) : Option Char := do
  let digits ← ds.mapM hexDigit?
  let n := digits.foldl (fun n d => n * 16 + d) 0
  if !ds.isEmpty && n.isValidChar then some (Char.ofNat n) else none

/-- Takes a number of characters, passing over blanks and remarks before each but the first. -/
def takeDigits? (spaced : Bool) : (count : Nat) → List Char → Option (List Char × List Char)
  | 0, s => some ([], s)
  | count + 1, s =>
    match skip spaced s with
    | [] => none
    | d :: rest => (takeDigits? spaced count rest).map fun (ds, rest) => (d :: ds, rest)

/-- Reads the digits of a hexadecimal escape: `count` of them, or any number between braces. -/
def readHex? (spaced : Bool) (count : Nat) (s : List Char) : Option (Char × List Char) :=
  match skip spaced s with
  | '\x7b' :: rest =>
    match collect spaced (· ≠ '\x7d') false rest with
    | (ds, '\x7d' :: rest) => (charOfHex? ds).map fun c => (c, rest)
    | _ => none
  | s => do
    let (ds, rest) ← takeDigits? spaced count s
    (charOfHex? ds).map fun c => (c, rest)

/-- Where a text first holds another one: what is before and after it. -/
def cutAt? (mark : List Char) : List Char → Option (List Char × List Char)
  | [] => none
  | c :: rest =>
    match mark.isPrefixOf? (c :: rest) with
    | some after => some ([], after)
    | none => (cutAt? mark rest).map fun (before, after) => (c :: before, after)

/-- The property that the text between braces names, and whether its sense is turned around. -/
def propertyOf (name : List Char) : PropertyName × Bool :=
  match cutAt? ['!', '='] name with
  | some (p, v) => (.valued (String.ofList p) (String.ofList v), true)
  | none =>
    match (cutAt? [':'] name).or (cutAt? ['='] name) with
    | some (p, v) => (.valued (String.ofList p) (String.ofList v), false)
    | none => (.named (String.ofList name), false)

/-- Reads the name of a property, which is one letter or stands between braces. -/
def readProperty? (spaced negated : Bool) (s : List Char) : Option (SetExpr × List Char) :=
  match skip spaced s with
  | '\x7b' :: rest =>
    match collect spaced (· ≠ '\x7d') false rest with
    | (name, '\x7d' :: rest) =>
      let (name, inverted) := propertyOf name
      some (.property name (negated != inverted), rest)
    | _ => none
  | c :: rest =>
    if c = '\\' then none
    else some (.property (.named (String.singleton c)) negated, skip spaced rest)
  | [] => none

/-- What one escape or character stands for. -/
inductive Atom where
  | literal (c : Char) (byte : Bool)
  | set (s : SetExpr)
  | anchor (a : Anchor)

/-- Reads the braces that may follow `\b`. Braces that cannot be meant for it are left alone. -/
def readBoundary? (spaced : Bool) (s : List Char) : Option (Anchor × List Char) :=
  match s with
  | '\x7b' :: rest =>
    let isName := fun c : Char => c.isAlpha || c = '-'
    match skip spaced rest with
    | [] => none
    | c :: _ =>
      if !isName c then some (.boundary, s)
      else
        match collect spaced isName false rest with
        | (name, '\x7d' :: rest) =>
          if name = "start".toList then some (.wordStart, rest)
          else if name = "end".toList then some (.wordEnd, rest)
          else if name = "start-half".toList then some (.wordStartHalf, rest)
          else if name = "end-half".toList then some (.wordEndHalf, rest)
          else none
        | _ => none
  | _ => some (.boundary, s)

/-- Reads what follows a backslash. -/
def readEscape? (spaced : Bool) : List Char → Option (Atom × List Char)
  | [] => none
  | 'x' :: rest =>
    (readHex? spaced 2 rest).map fun (c, rest') =>
      (.literal c ((skip spaced rest).head? ≠ some '\x7b'), skip spaced rest')
  | 'u' :: rest =>
    (readHex? spaced 4 rest).map fun (c, rest) => (.literal c false, skip spaced rest)
  | 'U' :: rest =>
    (readHex? spaced 8 rest).map fun (c, rest) => (.literal c false, skip spaced rest)
  | 'p' :: rest => (readProperty? spaced false rest).map fun (s, rest) => (.set s, rest)
  | 'P' :: rest => (readProperty? spaced true rest).map fun (s, rest) => (.set s, rest)
  | 'd' :: rest => some (.set (.perl .digit false), rest)
  | 'D' :: rest => some (.set (.perl .digit true), rest)
  | 's' :: rest => some (.set (.perl .space false), rest)
  | 'S' :: rest => some (.set (.perl .space true), rest)
  | 'w' :: rest => some (.set (.perl .word false), rest)
  | 'W' :: rest => some (.set (.perl .word true), rest)
  | 'a' :: rest => some (.literal '\x07' false, rest)
  | 'f' :: rest => some (.literal '\x0c' false, rest)
  | 't' :: rest => some (.literal '\t' false, rest)
  | 'n' :: rest => some (.literal '\n' false, rest)
  | 'r' :: rest => some (.literal '\r' false, rest)
  | 'v' :: rest => some (.literal '\x0b' false, rest)
  | 'A' :: rest => some (.anchor .textStart, rest)
  | 'z' :: rest => some (.anchor .textEnd, rest)
  | 'b' :: rest => (readBoundary? spaced rest).map fun (a, rest) => (.anchor a, rest)
  | 'B' :: rest => some (.anchor .notBoundary, rest)
  | '<' :: rest => some (.anchor .wordStart, rest)
  | '>' :: rest => some (.anchor .wordEnd, rest)
  | c :: rest => if isEscapable c then some (.literal c false, rest) else none

/-! ## Bracketed classes -/

/-- The class that a name between `[:` and `:]` stands for. -/
def posixOfName? (name : List Char) : Option Posix :=
  [("alnum", Posix.alnum), ("alpha", .alpha), ("ascii", .ascii), ("blank", .blank),
    ("cntrl", .cntrl), ("digit", .digit), ("graph", .graph), ("lower", .lower), ("print", .print),
    ("punct", .punct), ("space", .space), ("upper", .upper), ("word", .word),
    ("xdigit", .xdigit)].lookup (String.ofList name)

/-- Reads a named class after its opening bracket. -/
def readPosix? : List Char → Option (SetExpr × List Char)
  | ':' :: rest =>
    let negated := rest.head? = some '^'
    let rest := if negated then rest.drop 1 else rest
    match rest.dropWhile (· ≠ ':') with
    | ':' :: ']' :: after =>
      (posixOfName? (rest.takeWhile (· ≠ ':'))).map fun kind => (.posix kind negated, after)
    | _ => none
  | _ => none

/-- Reads one character or escape of a class. -/
def readSetAtom? (spaced : Bool) : List Char → Option (Atom × List Char)
  | [] => none
  | '\\' :: rest => readEscape? spaced rest
  | c :: rest => some (.literal c false, rest)

/-- An escape as an item of a class; assertions are none. -/
def Atom.item? : Atom → Option SetExpr
  | literal c _ => some (.range c c)
  | set s => some s
  | anchor _ => none

/-- Reads an item of a class, which may be a range. A hyphen before a closing bracket or before
another hyphen makes no range. -/
def readItem? (spaced : Bool) (s : List Char) : Option (SetExpr × List Char) := do
  let (first, rest) ← readSetAtom? spaced s
  match skip spaced rest with
  | [] => none
  | '-' :: rest' =>
    let after := skip spaced rest'
    if after.head? = some ']' ∨ after.head? = some '-' then
      (first.item?).map fun item => (item, skip spaced rest)
    else do
      let (last, rest) ← readSetAtom? spaced after
      match first, last with
      | .literal lo _, .literal hi _ => if lo ≤ hi then some (.range lo hi, rest) else none
      | _, _ => none
  | rest => (first.item?).map fun item => (item, rest)

/-- Reads what may stand at the start of a class after its bracket: a caret, hyphens, and a closing
bracket if nothing precedes it. -/
def readSetStart (spaced : Bool) (s : List Char) : Bool × List SetExpr × List Char :=
  let s := skip spaced s
  let negated := s.head? = some '^'
  let s := if negated then skip spaced (s.drop 1) else s
  let (hyphens, s) := collect spaced (· = '-') false s
  if hyphens.isEmpty then
    match s with
    | ']' :: rest => (negated, [.range ']' ']'], skip spaced rest)
    | s => (negated, [], s)
  else (negated, hyphens.map fun c => .range c c, s)

/-- An open bracket with the items before it, or the left side of an operator. -/
inductive SetFrame where
  | bracket (before : List SetExpr) (negated : Bool)
  | op (kind : SetOp) (lhs : SetExpr)

/-- Applies the operator that waits for its right side, if there is one. -/
def closeOp (rhs : SetExpr) : List SetFrame → SetExpr × List SetFrame
  | .op kind lhs :: frames => (.op kind lhs rhs, frames)
  | frames => (rhs, frames)

/-- Reads a class to its end. The innermost frame and the last item come first; each round takes at
least one character. -/
def readSet? (spaced : Bool) : (fuel : Nat) → List SetFrame → List SetExpr → List Char →
    Option (SetExpr × List Char)
  | 0, _, _, _ => none
  | fuel + 1, frames, items, s =>
    let operator := fun (kind : SetOp) (rest : List Char) =>
      let (lhs, frames) := closeOp (.ofItems items.reverse) frames
      readSet? spaced fuel (.op kind lhs :: frames) [] rest
    match skip spaced s with
    | [] => none
    | '[' :: rest =>
      match readPosix? rest with
      | some (item, rest) => readSet? spaced fuel frames (item :: items) rest
      | none =>
        let (negated, start, rest) := readSetStart spaced rest
        readSet? spaced fuel (.bracket items negated :: frames) start.reverse rest
    | ']' :: rest =>
      let (body, frames) := closeOp (.ofItems items.reverse) frames
      match frames with
      | .bracket before negated :: frames =>
        let item := SetExpr.bracket negated body
        if frames.isEmpty then some (item, rest)
        else readSet? spaced fuel frames (item :: before) rest
      | _ => none
    | '&' :: '&' :: rest => operator .intersection rest
    | '-' :: '-' :: rest => operator .difference rest
    | '~' :: '~' :: rest => operator .symmetricDifference rest
    | s =>
      match readItem? spaced s with
      | some (item, rest) => readSet? spaced fuel frames (item :: items) rest
      | none => none

/-- Reads a class after its opening bracket. -/
def readClass? (spaced : Bool) (s : List Char) : Option (SetExpr × List Char) :=
  let (negated, start, rest) := readSetStart spaced s
  readSet? spaced (rest.length + 1) [.bracket [] negated] start.reverse rest

/-! ## Repetitions -/

/-- Reads a number of repetitions, with blanks around it. -/
def readCount (spaced : Bool) (s : List Char) : Option Nat × List Char :=
  let (ds, rest) := collect spaced Char.isDigit false (s.dropWhile Text.isBlank)
  let rest := skip spaced (rest.dropWhile Text.isBlank)
  ((Decimal.read? ds).filter (· < UInt32.size), rest)

/-- Reads the bounds of a counted repetition after its opening brace. -/
def readBounds? (spaced : Bool) (s : List Char) : Option ((Nat × Option Nat) × List Char) :=
  match readCount spaced (skip spaced s) with
  | (some least, '\x7d' :: rest) => some ((least, some least), rest)
  | (some least, ',' :: rest) =>
    match skip spaced rest with
    | '\x7d' :: rest => some ((least, none), rest)
    | rest =>
      match readCount spaced rest with
      | (some most, '\x7d' :: rest) =>
        if least ≤ most then some ((least, some most), rest) else none
      | _ => none
  | _ => none

/-- Whether a repetition is greedy: a question mark after it makes it lazy. -/
def readGreed : List Char → Bool × List Char
  | '?' :: rest => (false, rest)
  | s => (true, s)

/-! ## Groups -/

/-- The flag a letter stands for. -/
def flagOf? : Char → Option Flag
  | 'i' => some .ignoreCase
  | 'm' => some .multiLine
  | 's' => some .dotAll
  | 'U' => some .swapGreed
  | 'u' => some .unicode
  | 'R' => some .crlf
  | 'x' => some .ignoreSpace
  | _ => none

/-- Reads flags up to a colon or a closing parenthesis. No flag and no hyphen repeats, and
something follows the hyphen. -/
def readFlags? : (change : FlagChange) → (negated dangling : Bool) → List Char →
    Option (FlagChange × List Char)
  | _, _, _, [] => none
  | change, negated, dangling, c :: rest =>
    if c = ':' ∨ c = ')' then if dangling then none else some (change, c :: rest)
    else if c = '-' then if negated then none else readFlags? change true true rest
    else
      match flagOf? c with
      | none => none
      | some flag =>
        if (change.state? flag).isSome then none
        else if negated then readFlags? { change with off := flag :: change.off } negated false rest
        else readFlags? { change with on := flag :: change.on } negated false rest

/-- The letters and what counts as such. -/
def alphabetic : CharSet := (Unicode.find? Unicode.properties "alphabetic").getD .empty

/-- The characters with a numeric general category. -/
def numeric : CharSet :=
  ["nd", "nl", "no"].foldl
    (fun s name => s.union ((Unicode.find? Unicode.categories name).getD .empty)) .empty

/-- Whether a character may stand in the name of a group, in front or further on. -/
def isNameChar (first : Bool) (c : Char) : Bool :=
  c = '_' || (if c.toNat < 0x80 then c.isAlpha else alphabetic.contains c) ||
    (!first && (c = '.' || c = '[' || c = ']' ||
      (if c.toNat < 0x80 then c.isDigit else numeric.contains c)))

/-- Reads the name of a group up to its closing angle. -/
def readName? (s : List Char) : Option (String × List Char) :=
  match s.takeWhile (· ≠ '>'), s.dropWhile (· ≠ '>') with
  | c :: name, _ :: rest =>
    if isNameChar true c && name.all (isNameChar false) then
      some (String.ofList (c :: name), rest)
    else none
  | _, _ => none

/-- What an opening parenthesis starts. -/
inductive Opening where
  | flags (change : FlagChange)
  | group (change : FlagChange)
  | capture (name : Option String)

/-- Reads what follows an opening parenthesis. Looking around is not supported, and flags for the
rest of a group are not empty. -/
def readOpening? (spaced : Bool) (s : List Char) : Option (Opening × List Char) :=
  match skip spaced s with
  | '?' :: '=' :: _ => none
  | '?' :: '!' :: _ => none
  | '?' :: '<' :: '=' :: _ => none
  | '?' :: '<' :: '!' :: _ => none
  | '?' :: 'P' :: '<' :: rest => (readName? rest).map fun (n, rest) => (.capture (some n), rest)
  | '?' :: '<' :: rest => (readName? rest).map fun (n, rest) => (.capture (some n), rest)
  | '?' :: rest =>
    match readFlags? {} false false rest with
    | some (change, ':' :: rest) => some (.group change, rest)
    | some (change, ')' :: rest) => if change = {} then none else some (.flags change, rest)
    | _ => none
  | s => some (.capture none, s)

/-! ## Patterns -/

/-- An open group: the parts and the complete branches before it, what it is, and whether blanks
were passed over outside of it. -/
structure OpenGroup where
  items : List Expr
  branches : List Expr
  wrap : Expr → Expr
  spaced : Bool

/-- How far a pattern has been read. The last part and the last branch come first. -/
structure Parsing where
  frames : List OpenGroup := []
  branches : List Expr := []
  items : List Expr := []
  spaced : Bool := false
  /-- How many groups that capture have been opened. -/
  groups : Nat := 0
  names : List (String × Nat) := []

namespace Parsing

/-- The pattern read since the last group was opened. -/
def current (p : Parsing) : Expr :=
  let last := Expr.ofItems p.items.reverse
  if p.branches.isEmpty then last else .alternation (last :: p.branches).reverse

def push (p : Parsing) (e : Expr) : Parsing := { p with items := e :: p.items }

/-- Repeats the last part, which has to be there and must not be a change of flags. -/
def repeatLast? (p : Parsing) (least : Nat) (most : Option Nat) (greedy : Bool) : Option Parsing :=
  match p.items with
  | [] => none
  | .empty :: _ => none
  | .flags _ :: _ => none
  | e :: items => some { p with items := .repetition e least most greedy :: items }

def openGroup (p : Parsing) (wrap : Expr → Expr) (spaced : Bool) : Parsing :=
  { p with
    frames := ⟨p.items, p.branches, wrap, p.spaced⟩ :: p.frames
    branches := []
    items := []
    spaced }

/-- Goes on after an opening parenthesis. -/
def start? (p : Parsing) : Opening → Option Parsing
  | .flags change =>
    some { p.push (.flags change) with spaced := (change.state? .ignoreSpace).getD p.spaced }
  | .group change =>
    some (p.openGroup (.group change) ((change.state? .ignoreSpace).getD p.spaced))
  | .capture none =>
    some ({ p with groups := p.groups + 1 }.openGroup (.capture (p.groups + 1)) p.spaced)
  | .capture (some name) =>
    if (p.names.lookup name).isSome then none
    else
      some ({ p with
        groups := p.groups + 1
        names := (name, p.groups + 1) :: p.names }.openGroup (.capture (p.groups + 1)) p.spaced)

/-- Closes the innermost group. -/
def close? (p : Parsing) : Option Parsing :=
  match p.frames with
  | [] => none
  | g :: frames =>
    some
      { p with
        frames
        branches := g.branches
        items := g.wrap p.current :: g.items
        spaced := g.spaced }

def branch (p : Parsing) : Parsing :=
  { p with branches := .ofItems p.items.reverse :: p.branches, items := [] }

/-- Takes the next part of the pattern, which the text starts with. -/
def step? (p : Parsing) : List Char → Option (Parsing × List Char)
  | [] => none
  | '(' :: rest => do
    let (opening, rest) ← readOpening? p.spaced rest
    let p ← p.start? opening
    some (p, rest)
  | ')' :: rest => p.close?.map fun p => (p, rest)
  | '|' :: rest => some (p.branch, rest)
  | '[' :: rest => (readClass? p.spaced rest).map fun (s, rest) => (p.push (.set s), rest)
  | '?' :: rest =>
    let (greedy, rest) := readGreed rest
    (p.repeatLast? 0 (some 1) greedy).map fun p => (p, rest)
  | '*' :: rest =>
    let (greedy, rest) := readGreed rest
    (p.repeatLast? 0 none greedy).map fun p => (p, rest)
  | '+' :: rest =>
    let (greedy, rest) := readGreed rest
    (p.repeatLast? 1 none greedy).map fun p => (p, rest)
  | '\x7b' :: rest => do
    let ((least, most), rest) ← readBounds? p.spaced rest
    let (greedy, rest) := readGreed (skip p.spaced rest)
    let p ← p.repeatLast? least most greedy
    some (p, rest)
  | '\\' :: rest => do
    let (atom, rest) ← readEscape? p.spaced rest
    let part :=
      match atom with
      | .literal c byte => Expr.literal c byte
      | .set s => .set s
      | .anchor a => .anchor a
    some (p.push part, rest)
  | '.' :: rest => some (p.push .dot, rest)
  | '^' :: rest => some (p.push (.anchor .lineStart), rest)
  | '$' :: rest => some (p.push (.anchor .lineEnd), rest)
  | c :: rest => some (p.push (.literal c false), rest)

/-- Takes parts to the end of the text; each takes at least one character. -/
def run? : (fuel : Nat) → Parsing → List Char → Option Parsing
  | 0, _, _ => none
  | fuel + 1, p, s =>
    match skip p.spaced s with
    | [] => some p
    | s =>
      match p.step? s with
      | some (p, rest) => run? fuel p rest
      | none => none

end Parsing

def maxNesting : Nat := 250

def parse? (s : List Char) : Option Parsed := do
  let p ← Parsing.run? (s.length + 1) {} s
  if p.frames.isEmpty && p.current.depth ≤ maxNesting then some ⟨p.current, p.names⟩ else none

end LintReview.Pattern

import LintReview.Pattern.Node
import LintReview.Pattern.Reader
import LintReview.Pattern.Unicode.Folding
import LintReview.Pattern.Unicode.Script
import LintReview.Pattern.Unicode.ScriptExtension

/-! From the syntax of a pattern to the `Node` that is matched. Flags are applied here: what they
say about a part depends on the part's place in its group. A pattern is refused if it names an
unknown property, if it asks for bytes that make no character, or if its repetitions make it too
large. -/

namespace LintReview.Pattern

/-- The flags in force at some part of a pattern. -/
structure Flags where
  ignoreCase : Bool := false
  multiLine : Bool := false
  dotAll : Bool := false
  swapGreed : Bool := false
  unicode : Bool := true
  crlf : Bool := false

def Flags.apply (f : Flags) (change : FlagChange) : Flags where
  ignoreCase := (change.state? .ignoreCase).getD f.ignoreCase
  multiLine := (change.state? .multiLine).getD f.multiLine
  dotAll := (change.state? .dotAll).getD f.dotAll
  swapGreed := (change.state? .swapGreed).getD f.swapGreed
  unicode := (change.state? .unicode).getD f.unicode
  crlf := (change.state? .crlf).getD f.crlf

/-! ## Case -/

/-- The sets of characters that differ in case only. -/
def foldings : List (List Nat) :=
  (Unicode.entries Unicode.foldingSets).map fun s => (s.splitOn ',').map Unicode.hexNumber

/-- The set with all characters that differ from a member in case only. -/
def CharSet.foldCase (s : CharSet) : CharSet :=
  foldings.foldl
    (fun acc fold =>
      if fold.any fun n => inRanges n s.ranges then
        acc.union (ofRanges (fold.map fun n => (n, n)))
      else acc) s

/-- The ASCII letters from `a` to `z`. -/
def lowerAscii : CharSet := .range 'a' 'z'

/-- The ASCII letters from `A` to `Z`. -/
def upperAscii : CharSet := .range 'A' 'Z'

/-- The set with the other case of each ASCII letter. -/
def CharSet.foldAscii (s : CharSet) : CharSet :=
  let up := (s.inter lowerAscii).ranges.map fun r => (r.1 - 32, r.2 - 32)
  let down := (s.inter upperAscii).ranges.map fun r => (r.1 + 32, r.2 + 32)
  (s.union (ofRanges up)).union (ofRanges down)

/-! ## Properties -/

/-- The name of a property without case, blanks, hyphens and underscores, and without `is` at its
start. -/
def symbolicName (name : String) : String :=
  let cs := name.toList
  let isName := (cs.take 2).map Char.toLower = ['i', 's']
  let kept := (if isName then cs.drop 2 else cs).filter fun c =>
    c ≠ ' ' && c ≠ '_' && c ≠ '-' && c.toNat < 0x80
  let norm := String.ofList (kept.map Char.toLower)
  if isName && norm = "c" then "isc" else norm

/-- The categories that are made of others. -/
def categoryGroups : List (List String × List String) :=
  [(["lc", "casedletter"], ["lu", "ll", "lt"]),
   (["l", "letter"], ["lu", "ll", "lt", "lm", "lo"]),
   (["m", "mark", "combiningmark"], ["mn", "mc", "me"]),
   (["n", "number"], ["nd", "nl", "no"]),
   (["p", "punctuation", "punct"], ["pc", "pd", "ps", "pe", "pi", "pf", "po"]),
   (["s", "symbol"], ["sm", "sc", "sk", "so"]),
   (["z", "separator"], ["zs", "zl", "zp"])]

def categoryUnion (names : List String) : CharSet :=
  names.foldl (fun s name => s.union ((Unicode.find? Unicode.categories name).getD .empty)) .empty

def assigned : CharSet :=
  Unicode.categories.foldl (fun s table => s.union table.set) .empty

def category? (name : String) : Option CharSet :=
  if name = "any" then some .all
  else if name = "ascii" then some ⟨[(0, 0x7F)]⟩
  else if name = "assigned" then some assigned
  else if name = "cn" ∨ name = "unassigned" then
    some (assigned.union ⟨[(0xD800, 0xDFFF)]⟩).compl
  else if name = "c" ∨ name = "other" then
    some ((assigned.diff (categoryUnion ["cc", "cf", "co"])).union ⟨[(0xD800, 0xDFFF)]⟩).compl
  else
    match categoryGroups.find? fun g => g.1.contains name with
    | some (_, parts) => some (categoryUnion parts)
    | none => Unicode.find? Unicode.categories name

/-- The names that stand for a category although a property has them too. -/
def categoryFirst : List String := ["cf", "sc", "lc"]

/-- The characters that a property name stands for. A name of its own is looked up among the binary
properties, the categories and the scripts, in this order. -/
def PropertyName.set? : PropertyName → Option CharSet
  | named name =>
    let norm := symbolicName name
    let binary :=
      if categoryFirst.contains norm then none else Unicode.find? Unicode.properties norm
    (binary.or (category? norm)).or (Unicode.find? Unicode.scripts norm)
  | valued property value =>
    let property := symbolicName property
    let value := symbolicName value
    if property = "gc" ∨ property = "generalcategory" then category? value
    else if property = "sc" ∨ property = "script" then Unicode.find? Unicode.scripts value
    else if property = "scx" ∨ property = "scriptextensions" then
      Unicode.find? Unicode.scriptExtensions value
    else none

/-! ## Sets -/

/-- The characters of an escape; without `unicode` its ASCII part. -/
def Perl.set (unicode : Bool) (kind : Perl) : CharSet :=
  if unicode then
    match kind with
    | digit => ⟨Unicode.digitRanges⟩
    | space => ⟨Unicode.spaceRanges⟩
    | word => ⟨Unicode.wordRanges⟩
  else
    match kind with
    | digit => .range '0' '9'
    | space => ⟨[(9, 13), (32, 32)]⟩
    | word => ⟨[(0x30, 0x39), (0x41, 0x5A), (0x5F, 0x5F), (0x61, 0x7A)]⟩

/-- The characters of a named class. -/
def Posix.set : Posix → CharSet
  | alnum => ⟨[(0x30, 0x39), (0x41, 0x5A), (0x61, 0x7A)]⟩
  | alpha => ⟨[(0x41, 0x5A), (0x61, 0x7A)]⟩
  | ascii => ⟨[(0, 0x7F)]⟩
  | blank => ⟨[(9, 9), (32, 32)]⟩
  | cntrl => ⟨[(0, 0x1F), (0x7F, 0x7F)]⟩
  | digit => ⟨[(0x30, 0x39)]⟩
  | graph => ⟨[(0x21, 0x7E)]⟩
  | lower => ⟨[(0x61, 0x7A)]⟩
  | print => ⟨[(0x20, 0x7E)]⟩
  | punct => ⟨[(0x21, 0x2F), (0x3A, 0x40), (0x5B, 0x60), (0x7B, 0x7E)]⟩
  | space => ⟨[(9, 13), (32, 32)]⟩
  | upper => ⟨[(0x41, 0x5A)]⟩
  | word => ⟨[(0x30, 0x39), (0x41, 0x5A), (0x5F, 0x5F), (0x61, 0x7A)]⟩
  | xdigit => ⟨[(0x30, 0x39), (0x41, 0x46), (0x61, 0x66)]⟩

/-- A set after case folding, if the flags ask for it. -/
def Flags.fold (f : Flags) (s : CharSet) : CharSet :=
  if !f.ignoreCase then s else if f.unicode then s.foldCase else s.foldAscii

/-- A set after case folding and negation. Without `unicode` only ASCII characters may be left. -/
def Flags.finish? (f : Flags) (negated : Bool) (s : CharSet) : Option CharSet :=
  let s := f.fold s
  let s := if negated then s.compl else s
  if f.unicode || s.isAscii then some s else none

def SetExpr.set? (f : Flags) : SetExpr → Option CharSet
  | empty => some .empty
  | range lo hi => if f.unicode || hi.toNat < 0x80 then some (.range lo hi) else none
  | perl kind negated =>
    let s := kind.set f.unicode
    let s := if negated then s.compl else s
    if f.unicode || s.isAscii then some s else none
  | posix kind negated => f.finish? negated kind.set
  | property name negated => if f.unicode then name.set?.bind (f.finish? negated) else none
  | bracket negated body => (body.set? f).bind (f.finish? negated)
  | union items => unionOf items
  | op kind lhs rhs => do
    let lhs ← lhs.set? f
    let rhs ← rhs.set? f
    let lhs := f.fold lhs
    let rhs := f.fold rhs
    match kind with
    | .intersection => some (lhs.inter rhs)
    | .difference => some (lhs.diff rhs)
    | .symmetricDifference => some (lhs.symmDiff rhs)
where
  /-- The characters that any of some expressions stands for. -/
  unionOf : List SetExpr → Option CharSet
    | [] => some .empty
    | item :: items => do
      let s ← item.set? f
      let t ← unionOf items
      some (s.union t)

/-! ## Size -/

def maxSize : Nat := 10 * 1024 * 1024

/-- A node with an estimate of the size it takes. -/
structure Sized where
  node : Node
  size : Nat

def CharSet.size (s : CharSet) : Nat :=
  if s.isAscii then 32 + 8 * s.ranges.length else 400 + 80 * s.ranges.length

def Sized.ofSet (s : CharSet) : Sized := ⟨.set s, s.size⟩

/-- A pattern repeated, unless that makes it too large. -/
def Sized.repeated? (n : Sized) (least : Nat) (most : Option Nat) (greedy : Bool) : Option Sized :=
  let count := most.getD (max least 1)
  let size := 64 + count * (n.size + 32)
  if size ≤ maxSize then some ⟨n.node.repeated least most greedy, size⟩ else none

/-! ## Patterns -/

def literal? (f : Flags) (c : Char) (byte : Bool) : Option Sized :=
  if f.unicode then some (.ofSet (f.fold (.single c)))
  else if c.toNat < 0x80 then some (.ofSet (f.fold (.single c)))
  else if byte then none
  else some (.ofSet (.single c))

def dot? (f : Flags) : Option CharSet :=
  if !f.unicode then none
  else if f.dotAll then some .all
  else if f.crlf then some (CharSet.ofRanges [(0x0A, 0x0A), (0x0D, 0x0D)]).compl
  else some (CharSet.single '\n').compl

/-- An assertion under the flags. -/
def Anchor.look (f : Flags) : Anchor → Look
  | lineStart => if f.multiLine then .lineStart f.crlf else .textStart
  | lineEnd => if f.multiLine then .lineEnd f.crlf else .textEnd
  | textStart => .textStart
  | textEnd => .textEnd
  | boundary => .boundary f.unicode
  | notBoundary => .notBoundary f.unicode
  | wordStart => .wordStart f.unicode
  | wordEnd => .wordEnd f.unicode
  | wordStartHalf => .wordStartHalf f.unicode
  | wordEndHalf => .wordEndHalf f.unicode

/-- The node for a pattern, and the flags in force after it. -/
def Expr.node? (f : Flags) : Expr → Option (Sized × Flags)
  | empty => some (⟨.empty, 32⟩, f)
  | flags change => some (⟨.empty, 32⟩, f.apply change)
  | literal c byte => (literal? f c byte).map fun n => (n, f)
  | dot => (dot? f).map fun s => (.ofSet s, f)
  | anchor a => some (⟨.look (a.look f), 32⟩, f)
  | set s => (s.set? f).map fun s => (.ofSet s, f)
  | repetition body least most greedy => do
    let (n, f) ← body.node? f
    let n ← n.repeated? least most (greedy != f.swapGreed)
    some (n, f)
  | capture index body => do
    let (n, _) ← body.node? f
    some (⟨.group index n.node, n.size + 64⟩, f)
  | group change body => do
    let (n, _) ← body.node? (f.apply change)
    some (n, f)
  | concat [] => some (⟨.empty, 32⟩, f)
  | concat (item :: items) => do
    let (n, f) ← item.node? f
    sequence f n items
  | alternation [] => some (⟨.set .empty, 32⟩, f)
  | alternation (branch :: branches) => do
    let (n, f) ← branch.node? f
    let (rest, f) ← choices f branches
    match rest with
    | none => some (n, f)
    | some rest => some (⟨.alt n.node rest.node, n.size + rest.size + 32⟩, f)
where
  /-- The node for the parts of a sequence after some start. -/
  sequence (f : Flags) (start : Sized) : List Expr → Option (Sized × Flags)
    | [] => some (start, f)
    | item :: items => do
      let (n, f) ← item.node? f
      sequence f ⟨.cat start.node n.node, start.size + n.size⟩ items
  /-- The node for the branches of an alternation. -/
  choices (f : Flags) : List Expr → Option (Option Sized × Flags)
    | [] => some (none, f)
    | branch :: branches => do
      let (n, f) ← branch.node? f
      let (rest, f) ← choices f branches
      match rest with
      | none => some (some n, f)
      | some rest => some (some ⟨.alt n.node rest.node, n.size + rest.size + 32⟩, f)

/-- A pattern ready to be matched, with the names of its groups. -/
structure Compiled where
  node : Node
  names : List (String × Nat)
  deriving Inhabited

/-- Reads a pattern in which `^` and `$` match at each line. -/
def compile? (pattern : String) : Option Compiled := do
  let parsed ← parse? ("(?m)".toList ++ pattern.toList)
  let (n, _) ← parsed.expr.node? {}
  if n.size ≤ maxSize then some ⟨n.node, parsed.names⟩ else none

end LintReview.Pattern

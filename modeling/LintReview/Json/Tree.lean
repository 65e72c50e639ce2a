import LintReview.Text.Decimal

/-! JSON documents as trees. A `Tree` keeps what the text of a document says: number literals as
they are written, the members of an object in their order and with repetitions, and `none` for a
text whose escapes name half of a surrogate pair, which no string holds.

A reader that keeps a whole document asks more of it than one that looks at a few fields:
`Tree.isKeepable` bounds the depth, wants every text to be a string and every number to fit a
double. -/

namespace LintReview.Json

/-- A JSON document. -/
inductive Tree where
  | null
  | bool (b : Bool)
  | number (literal : List Char)
  | text (t : Option String)
  | array (items : List Tree)
  | object (members : List (Option String × Tree))
  deriving Inhabited

namespace Tree

def string? : Tree → Option String
  | text t => t
  | _ => none

/-- The number written by an unsigned literal without fraction and exponent. -/
def natural? : Tree → Option Nat
  | number literal => Decimal.read? literal
  | _ => none

/-- The number that a natural literal writes, if 32 bits hold it. -/
def uint32? (t : Tree) : Option UInt32 :=
  t.natural?.bind fun n => if n < UInt32.size then some (UInt32.ofNat n) else none

/-- The number that a natural literal writes, if 64 bits hold it. -/
def uint64? (t : Tree) : Option UInt64 :=
  t.natural?.bind fun n => if n < UInt64.size then some (UInt64.ofNat n) else none

/-- Reads a value for which `null` may stand. -/
def nullable? {α : Type} (read? : Tree → Option α) : Tree → Option (Option α)
  | null => some none
  | t => (read? t).map some

def items? : Tree → Option (List Tree)
  | array items => some items
  | _ => none

/-- The last member with a name, of an object. -/
def member? (name : String) : Tree → Option Tree
  | object members => (members.reverse.find? fun m => m.1 = some name).map (·.2)
  | _ => none

def item? (i : Nat) : Tree → Option Tree
  | array items => items[i]?
  | _ => none

/-- One step of a path into a tree: the member of an object, or the item of an array whose position
the name writes in decimal without leading zeros. -/
def child? (name : String) : Tree → Option Tree
  | object members => (object members).member? name
  | array items =>
    match Decimal.read? name.toList with
    | some i => if Decimal.digits i = name.toList then items[i]? else none
    | none => none
  | _ => none

/-- The tree at the end of a path. -/
def descend? (t : Tree) : List String → Option Tree
  | [] => some t
  | name :: path => (t.child? name).bind fun u => u.descend? path

/-- How deeply arrays and objects are nested. -/
def depth : Tree → Nat
  | array items => 1 + depths items
  | object members => 1 + memberDepths members
  | _ => 0
where
  /-- The greatest depth in a list of trees. -/
  depths : List Tree → Nat
    | [] => 0
    | t :: ts => max t.depth (depths ts)
  /-- The greatest depth in a list of members. -/
  memberDepths : List (Option String × Tree) → Nat
    | [] => 0
    | (_, t) :: ms => max t.depth (memberDepths ms)

end Tree

/-! ## Numbers that fit a double -/

/-- The nearest number with at most 53 significant bits; of two, the one with an even last bit. -/
def round53 (n : Nat) : Nat :=
  if n.log2 < 53 then n
  else
    let shift := n.log2 - 52
    let unit := 1 <<< shift
    let low := n / unit
    let rest := n % unit
    let up := 2 * rest > unit || (2 * rest = unit && low % 2 = 1)
    (if up then low + 1 else low) * unit

/-- Adds digits to a significand as long as 64 bits hold it, and counts those left over. -/
def significand (start : Nat) (ds : List Char) : Nat × Nat :=
  ds.foldl
    (fun (acc : Nat × Nat) d =>
      let next := acc.1 * 10 + (d.toNat - '0'.toNat)
      if acc.2 = 0 ∧ next < UInt64.size then (next, 0) else (acc.1, acc.2 + 1))
    (start, 0)

/-- The exponent that a literal ends with, as its sign and its size. -/
def exponentOf : List Char → Bool × Nat
  | _ :: '-' :: ds => (true, Nat.ofDigitChars 10 ds 0)
  | _ :: '+' :: ds => (false, Nat.ofDigitChars 10 ds 0)
  | _ :: ds => (false, Nat.ofDigitChars 10 ds 0)
  | [] => (false, 0)

/-- Whether the size of a number literal is below the range of doubles. The leading digits that 64
bits hold are scaled by the power of ten that the rest stands for. -/
def literalFits (literal : List Char) : Bool :=
  let body := if literal.head? = some '-' then literal.drop 1 else literal
  let whole := body.takeWhile Char.isDigit
  let rest := body.dropWhile Char.isDigit
  let (fraction, rest) :=
    match rest with
    | '.' :: rest => (rest.takeWhile Char.isDigit, rest.dropWhile Char.isDigit)
    | rest => ([], rest)
  let (sig, extra) := significand 0 whole
  let (sig, skipped) := significand sig fraction
  let (negative, size) := exponentOf rest
  let used := fraction.length - skipped
  let up := extra + (if negative then 0 else size)
  let down := used + (if negative then size else 0)
  if sig = 0 ∨ up < down then true
  else if 308 < up - down then false
  else round53 sig * round53 (Nat.pow 10 (up - down)) < 1 <<< 1024 - 1 <<< 970

/-! ## Documents that are kept whole -/

/-- How deeply a document that is kept may be nested. -/
def maxDepth : Nat := 127

namespace Tree

/-- Whether every text in the tree is a string and every number fits a double. -/
def isSound : Tree → Bool
  | number literal => literalFits literal
  | text t => t.isSome
  | array items => areSound items
  | object members => membersAreSound members
  | _ => true
where
  areSound : List Tree → Bool
    | [] => true
    | t :: ts => t.isSound && areSound ts
  membersAreSound : List (Option String × Tree) → Bool
    | [] => true
    | (name, t) :: ms => name.isSome && t.isSound && membersAreSound ms

/-- Whether a reader that keeps the whole document takes the tree. -/
def isKeepable (t : Tree) : Bool := t.depth ≤ maxDepth && t.isSound

end Tree

end LintReview.Json

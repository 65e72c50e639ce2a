import LintReview.Pattern.CharSet

/-! The syntax of patterns: what a pattern says before its flags are applied. -/

namespace LintReview.Pattern

/-- The escapes `\d`, `\s` and `\w`. -/
inductive Perl where
  | digit
  | space
  | word
  deriving DecidableEq, Repr

/-- The classes that are named between `[:` and `:]`. -/
inductive Posix where
  | alnum | alpha | ascii | blank | cntrl | digit | graph | lower | print | punct | space | upper
  | word | xdigit
  deriving DecidableEq, Repr

/-- A property of characters, by its own name or as a value of a property. -/
inductive PropertyName where
  | named (name : String)
  | valued (property value : String)
  deriving DecidableEq, Repr

/-- The operators between the operands of a bracketed class. -/
inductive SetOp where
  | intersection
  | difference
  | symmetricDifference
  deriving DecidableEq, Repr

/-- What stands for a set of characters. -/
inductive SetExpr where
  | empty
  | range (lo hi : Char)
  | perl (kind : Perl) (negated : Bool)
  | posix (kind : Posix) (negated : Bool)
  | property (name : PropertyName) (negated : Bool)
  | bracket (negated : Bool) (body : SetExpr)
  | union (items : List SetExpr)
  | op (kind : SetOp) (lhs rhs : SetExpr)
  deriving Inhabited

/-- The letters that switch how a pattern is read. -/
inductive Flag where
  /-- `i`: letters match in either case. -/
  | ignoreCase
  /-- `m`: `^` and `$` match at each line. -/
  | multiLine
  /-- `s`: `.` matches a line feed. -/
  | dotAll
  /-- `U`: repetitions are lazy unless they are followed by `?`. -/
  | swapGreed
  /-- `u`: classes and word boundaries know all of Unicode. -/
  | unicode
  /-- `R`: a line may end with a carriage return. -/
  | crlf
  /-- `x`: blanks and remarks in the pattern are passed over. -/
  | ignoreSpace
  deriving DecidableEq, Repr

/-- Flags that are switched on, and off. -/
structure FlagChange where
  on : List Flag := []
  off : List Flag := []
  deriving DecidableEq, Repr, Inhabited

/-- What a change of flags says about one flag. -/
def FlagChange.state? (change : FlagChange) (flag : Flag) : Option Bool :=
  if change.on.contains flag then some true
  else if change.off.contains flag then some false
  else none

/-- The assertions about a place in the text. -/
inductive Anchor where
  /-- `^` -/
  | lineStart
  /-- `$` -/
  | lineEnd
  /-- `\A` -/
  | textStart
  /-- `\z` -/
  | textEnd
  /-- `\b` -/
  | boundary
  /-- `\B` -/
  | notBoundary
  /-- `\b{start}` -/
  | wordStart
  /-- `\b{end}` -/
  | wordEnd
  /-- `\b{start-half}` -/
  | wordStartHalf
  /-- `\b{end-half}` -/
  | wordEndHalf
  deriving DecidableEq, Repr

/-- A pattern as it is written. -/
inductive Expr where
  | empty
  /-- Flags for the rest of the group. -/
  | flags (change : FlagChange)
  /-- A character; `byte` when it is written as `\x` with two digits. -/
  | literal (c : Char) (byte : Bool)
  | dot
  | anchor (a : Anchor)
  | set (s : SetExpr)
  | repetition (body : Expr) (least : Nat) (most : Option Nat) (greedy : Bool)
  | capture (index : Nat) (body : Expr)
  | group (change : FlagChange) (body : Expr)
  | concat (items : List Expr)
  | alternation (branches : List Expr)
  deriving Inhabited

/-- A pattern with the names of its groups. -/
structure Parsed where
  expr : Expr
  names : List (String × Nat)
  deriving Inhabited

/-! ## Nesting -/

namespace SetExpr

/-- How deeply brackets, unions and operators are nested. -/
def depth : SetExpr → Nat
  | bracket _ body => 1 + body.depth
  | union items => 1 + depths items
  | op _ lhs rhs => 1 + max lhs.depth rhs.depth
  | _ => 0
where
  /-- The greatest depth in a list of items. -/
  depths : List SetExpr → Nat
    | [] => 0
    | s :: ss => max s.depth (depths ss)

def ofItems : List SetExpr → SetExpr
  | [] => empty
  | [s] => s
  | ss => union ss

end SetExpr

namespace Expr

/-- How deeply groups, repetitions, sequences, alternations and classes are nested. -/
def depth : Expr → Nat
  | set s => s.depth
  | repetition body _ _ _ => 1 + body.depth
  | capture _ body => 1 + body.depth
  | group _ body => 1 + body.depth
  | concat items => 1 + depths items
  | alternation branches => 1 + depths branches
  | _ => 0
where
  /-- The greatest depth in a list of patterns. -/
  depths : List Expr → Nat
    | [] => 0
    | e :: es => max e.depth (depths es)

def ofItems : List Expr → Expr
  | [] => empty
  | [e] => e
  | es => concat es

end Expr

end LintReview.Pattern

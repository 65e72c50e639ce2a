import LintReview.Json.Tree

/-! Writing a JSON document, on one line (`Tree.compact`) or indented by two blanks a level
(`Tree.pretty`). A string escapes the quote, the backslash and the control characters below the
blank, and nothing else. -/

namespace LintReview.Json

/-- A hexadecimal digit in lower case. -/
def hexDigit (n : Nat) : Char := Nat.digitChar (n % 16)

def escapeChar (c : Char) : List Char :=
  if c = '"' then ['\\', '"']
  else if c = '\\' then ['\\', '\\']
  else if c = '\n' then ['\\', 'n']
  else if c = '\r' then ['\\', 'r']
  else if c = '\t' then ['\\', 't']
  else if c = '\x08' then ['\\', 'b']
  else if c = '\x0c' then ['\\', 'f']
  else if c.toNat < 0x20 then ['\\', 'u', '0', '0', hexDigit (c.toNat / 16), hexDigit c.toNat]
  else [c]

def quote (s : List Char) : List Char := '"' :: s.flatMap escapeChar ++ ['"']

/-- A text between its quotes; one that no string holds is written as the replacement character. -/
def quoteText : Option String → List Char
  | some s => quote s.toList
  | none => quote ['\uFFFD']

namespace Tree

def ofNat (n : Nat) : Tree := number (Decimal.digits n)

def ofString (s : String) : Tree := text (some s)

/-- An object with proper names. -/
def record (members : List (String × Tree)) : Tree :=
  object (members.map fun (name, t) => (some name, t))

/-- The tree written without blanks. -/
def compact : Tree → List Char
  | null => "null".toList
  | bool true => "true".toList
  | bool false => "false".toList
  | number literal => literal
  | text t => quoteText t
  | array items => '[' :: compactItems items ++ [']']
  | object members => '\x7b' :: compactMembers members ++ ['\x7d']
where
  /-- Items with commas between them. -/
  compactItems : List Tree → List Char
    | [] => []
    | [t] => t.compact
    | t :: ts => t.compact ++ ',' :: compactItems ts
  /-- Members with commas between them. -/
  compactMembers : List (Option String × Tree) → List Char
    | [] => []
    | [(name, t)] => quoteText name ++ ':' :: t.compact
    | (name, t) :: ms => quoteText name ++ ':' :: t.compact ++ ',' :: compactMembers ms

/-- A line break and the indentation of a level. -/
def newline (level : Nat) : List Char := '\n' :: List.replicate (2 * level) ' '

/-- The tree written with each item and member on a line of its own. -/
def pretty (level : Nat) : Tree → List Char
  | null => "null".toList
  | bool true => "true".toList
  | bool false => "false".toList
  | number literal => literal
  | text t => quoteText t
  | array [] => ['[', ']']
  | array (t :: ts) => '[' :: prettyItems (level + 1) (t :: ts) ++ newline level ++ [']']
  | object [] => ['\x7b', '\x7d']
  | object (m :: ms) => '\x7b' :: prettyMembers (level + 1) (m :: ms) ++ newline level ++ ['\x7d']
where
  /-- Items, each on a new line, with commas between them. -/
  prettyItems (level : Nat) : List Tree → List Char
    | [] => []
    | [t] => newline level ++ t.pretty level
    | t :: ts => newline level ++ t.pretty level ++ ',' :: prettyItems level ts
  /-- Members, each on a new line, with commas between them. -/
  prettyMembers (level : Nat) : List (Option String × Tree) → List Char
    | [] => []
    | [(name, t)] => newline level ++ quoteText name ++ ':' :: ' ' :: t.pretty level
    | (name, t) :: ms =>
      newline level ++ quoteText name ++ ':' :: ' ' :: t.pretty level ++
        ',' :: prettyMembers level ms

end Tree

end LintReview.Json

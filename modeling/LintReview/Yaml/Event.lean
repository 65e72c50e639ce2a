import LintReview.Yaml.Layout

/-! The structure of a YAML document as a list of events: scalars, aliases, and the start and the
end of each collection. `Goal`s say what has to come next; a step meets one of them by the next
tokens, and may put others in its place. -/

namespace LintReview.Yaml

/-- What stands in front of the content of a node. -/
structure Properties (α : Type) where
  anchor : Option α := none
  tag : Option String := none
  deriving DecidableEq

/-- An event of a document, whose nodes are anchored by values of some type. -/
inductive Event (α : Type) where
  | alias (anchor : α)
  | scalar (properties : Properties α) (style : ScalarStyle) (text : String)
  | sequence (properties : Properties α)
  | mapping (properties : Properties α)
  /-- The innermost collection ends. -/
  | close

namespace Event

def blank : Event String := .scalar {} .plain ""

/-- What tag handles stand for. -/
abbrev Shorthands := List (String × String)

/-- The handles that every document may use. -/
def commonShorthands : Shorthands := [("!", "!"), ("!!", "tag:yaml.org,2002:")]

/-- What has to come next. -/
inductive Goal where
  /-- A node, which may be a block collection or not. -/
  | node (block : Bool)
  /-- The key or the value of a block mapping, which may also be a sequence whose dashes are not
  indented. -/
  | member
  | item
  | unindentedItem
  | key
  | value
  | flowItem (first : Bool)
  | flowItemKey
  | flowItemValue
  | flowItemEnd
  | flowKey (first : Bool)
  | flowValue
  | flowNoValue

/-- What a goal becomes: events, goals in its place, and the tokens that are left. -/
abbrev Step := List (Event String) × List Goal × List Token

def tag? (shorthands : Shorthands) (handle suffix : String) : Option String :=
  if handle = "" then some suffix
  else (shorthands.lookup handle).map fun expansion => expansion ++ suffix

/-- Reads the properties of a node, in either order. -/
def properties? (shorthands : Shorthands) :
    List Token → Option (Properties String × List Token)
  | .anchor name :: .tag handle suffix :: rest => do
    some ({ anchor := some name, tag := some (← tag? shorthands handle suffix) }, rest)
  | .tag handle suffix :: .anchor name :: rest => do
    some ({ anchor := some name, tag := some (← tag? shorthands handle suffix) }, rest)
  | .anchor name :: rest => some ({ anchor := some name }, rest)
  | .tag handle suffix :: rest => do
    some ({ tag := some (← tag? shorthands handle suffix) }, rest)
  | rest => some ({}, rest)

/-- The tag of a scalar. A lone exclamation mark is none. -/
def scalarTag (tag : Option String) : Option String := tag.filter (· ≠ "!")

def node? (shorthands : Shorthands) (block unindented : Bool) (tokens : List Token) :
    Option Step :=
  match tokens with
  | .alias name :: rest => some ([.alias name], [], rest)
  | _ => do
    let (properties, tokens) ← properties? shorthands tokens
    match tokens with
    | .scalar style text :: rest =>
      some ([.scalar { properties with tag := scalarTag properties.tag } style text], [], rest)
    | .flowSequence :: rest => some ([.sequence properties], [.flowItem true], rest)
    | .flowMapping :: rest => some ([.mapping properties], [.flowKey true], rest)
    | _ =>
      match block, unindented, tokens with
      | _, true, .item :: _ => some ([.sequence properties], [.unindentedItem], tokens)
      | true, _, .blockSequence :: rest => some ([.sequence properties], [.item], rest)
      | true, _, .blockMapping :: rest => some ([.mapping properties], [.key], rest)
      | _, _, _ =>
        if properties = {} then none else some ([.scalar properties .plain ""], [], tokens)

/-- Whether a block node is left out because of the token that follows. -/
def noMember : List Token → Bool
  | .key :: _ | .value :: _ | .blockEnd :: _ => true
  | _ => false

/-- Whether an item is left out because of the token that follows. -/
def noItem : List Token → Bool
  | .item :: _ | .blockEnd :: _ => true
  | _ => false

/-- Whether a flow node is left out because of the token that follows. -/
def noFlowNode (last : Token) : List Token → Bool
  | token :: _ => token = .comma || token = last
  | [] => false

/-- Meets a goal by a node if there is one, and by a blank scalar otherwise. -/
def nodeOr (absent : Bool) (node next : Goal) (tokens : List Token) : Step :=
  if absent then ([blank], [next], tokens) else ([], [node, next], tokens)

/-- Meets the goal of an item in a flow sequence, at its first token. -/
def flowItem? : List Token → Option Step
  | .flowSequenceEnd :: rest => some ([.close], [], rest)
  | .key :: rest => some ([.mapping {}], [.flowItemKey], rest)
  | tokens => some ([], [.node false, .flowItem false], tokens)

/-- Meets the goal of a key in a flow mapping, at its first token. -/
def flowKey? : List Token → Option Step
  | .flowMappingEnd :: rest => some ([.close], [], rest)
  | .key :: rest =>
    let absent := rest.head? = some .value || noFlowNode .flowMappingEnd rest
    some (nodeOr absent (.node false) .flowValue rest)
  | tokens => some ([], [.node false, .flowNoValue], tokens)

def step? (shorthands : Shorthands) : Goal → List Token → Option Step
  | .node block, tokens => node? shorthands block false tokens
  | .member, tokens => node? shorthands true true tokens
  | .item, .item :: rest => some (nodeOr (noItem rest) (.node true) .item rest)
  | .item, .blockEnd :: rest => some ([.close], [], rest)
  | .item, _ => none
  | .unindentedItem, .item :: rest =>
    some (nodeOr (noItem rest || noMember rest) (.node true) .unindentedItem rest)
  | .unindentedItem, tokens => some ([.close], [], tokens)
  | .key, .key :: rest => some (nodeOr (noMember rest) .member .value rest)
  | .key, .blockEnd :: rest => some ([.close], [], rest)
  | .key, _ => none
  | .value, .value :: rest => some (nodeOr (noMember rest) .member .key rest)
  | .value, tokens => some ([blank], [.key], tokens)
  | .flowItem true, tokens => flowItem? tokens
  | .flowItem false, .comma :: rest => flowItem? rest
  | .flowItem false, .flowSequenceEnd :: rest => some ([.close], [], rest)
  | .flowItem false, _ => none
  | .flowItemKey, tokens =>
    if tokens.head? = some .value || noFlowNode .flowSequenceEnd tokens then
      some ([blank], [.flowItemValue], tokens.tail)
    else some ([], [.node false, .flowItemValue], tokens)
  | .flowItemValue, .value :: rest =>
    some (nodeOr (noFlowNode .flowSequenceEnd rest) (.node false) .flowItemEnd rest)
  | .flowItemValue, tokens => some ([blank], [.flowItemEnd], tokens)
  | .flowItemEnd, tokens => some ([.close], [.flowItem false], tokens)
  | .flowKey true, tokens => flowKey? tokens
  | .flowKey false, .comma :: rest => flowKey? rest
  | .flowKey false, .flowMappingEnd :: rest => some ([.close], [], rest)
  | .flowKey false, _ => none
  | .flowValue, .value :: rest =>
    some (nodeOr (noFlowNode .flowMappingEnd rest) (.node false) (.flowKey false) rest)
  | .flowValue, tokens => some ([blank], [.flowKey false], tokens)
  | .flowNoValue, tokens => some ([blank], [.flowKey false], tokens)

/-- Meets some goals one after the other, in a bounded number of steps. -/
def run? (shorthands : Shorthands) :
    (bound : Nat) → List Goal → List Token → Option (List (Event String) × List Token)
  | _, [], tokens => some ([], tokens)
  | 0, _ :: _, _ => none
  | bound + 1, goal :: goals, tokens => do
    let (events, more, tokens) ← step? shorthands goal tokens
    let (later, tokens) ← run? shorthands bound (more ++ goals) tokens
    some (events ++ later, tokens)

/-! ## Documents -/

/-- Reads the directives in front of a document: whether the version was named, and what the
handles stand for. -/
def directives? (named : Bool) (shorthands : Shorthands) :
    List Token → Option (Shorthands × List Token)
  | .version major minor :: rest =>
    if named || major ≠ 1 || (minor ≠ 1 && minor ≠ 2) then none
    else directives? true shorthands rest
  | .shorthand handle expansion :: rest =>
    if (shorthands.lookup handle).isSome then none
    else directives? named (shorthands ++ [(handle, expansion)]) rest
  | rest => some (shorthands, rest)

/-- Whether a document has no content because of the token that follows. -/
def noContent : List Token → Bool
  | [] | .version .. :: _ | .shorthand .. :: _ | .documentStart :: _ | .documentEnd :: _ => true
  | _ => false

/-- Whether a document starts with directives or a separator. -/
def isExplicit : List Token → Bool
  | .version .. :: _ | .shorthand .. :: _ | .documentStart :: _ => true
  | _ => false

def content? (shorthands : Shorthands) (tokens : List Token) :
    Option (List (Event String) × List Token) :=
  run? (shorthands ++ commonShorthands) (4 * tokens.length + 4) [.node true] tokens

/-- Reads the events of the first document of a text; a text may have none at all. -/
def first? (tokens : List Token) : Option (List (Event String) × List Token) :=
  if tokens.isEmpty then some ([], [])
  else if isExplicit tokens then do
    let (shorthands, tokens) ← directives? false [] tokens
    match tokens with
    | .documentStart :: rest =>
      if noContent rest then some ([blank], rest) else content? shorthands rest
    | _ => none
  else content? [] tokens

/-- Reads the events of a text that has at most one document. -/
def ofText? (text : String) : Option (List (Event String)) := do
  let (events, rest) ← first? (← tokens? text)
  if rest.all (· = .documentEnd) then some events else none

end Event

end LintReview.Yaml

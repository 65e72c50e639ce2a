import LintReview.Yaml.Event

/-! YAML documents. A `Document` has a root, if it is not empty, and the nodes that its aliases
stand for. Anchors are numbered by how many names have been in use before them, and an alias stands
for the last node with the number of its name. -/

namespace LintReview.Yaml

inductive Node where
  | alias (anchor : Nat)
  | scalar (tag : Option String) (style : ScalarStyle) (text : String)
  | sequence (tag : Option String) (items : List Node)
  | mapping (tag : Option String) (members : List (Node × Node))
  deriving Inhabited

structure Document where
  root : Option Node
  anchored : List (Nat × Node)

namespace Document

/-! ## Anchors -/

/-- The numbers of the anchors that are in use. -/
abbrev Anchors := List (String × Nat)

def numbered (anchors : Anchors) (p : Properties String) : Properties Nat × Anchors :=
  match p.anchor with
  | some name =>
    let n := anchors.length
    ({ anchor := some n, tag := p.tag }, (name, n) :: anchors.filter fun a => a.1 ≠ name)
  | none => ({ tag := p.tag }, anchors)

/-- Numbers the anchors and aliases of some events. An alias needs an anchor before it. -/
def number? : Anchors → List (Event String) → Option (List (Event Nat))
  | _, [] => some []
  | anchors, .alias name :: rest => do
    let n ← anchors.lookup name
    some (.alias n :: (← number? anchors rest))
  | anchors, .scalar p style text :: rest => do
    let (p, anchors) := numbered anchors p
    some (.scalar p style text :: (← number? anchors rest))
  | anchors, .sequence p :: rest => do
    let (p, anchors) := numbered anchors p
    some (.sequence p :: (← number? anchors rest))
  | anchors, .mapping p :: rest => do
    let (p, anchors) := numbered anchors p
    some (.mapping p :: (← number? anchors rest))
  | anchors, .close :: rest => do some (.close :: (← number? anchors rest))

/-! ## Nodes -/

/-- Joins keys with the values that follow them. -/
def pairs : List Node → List (Node × Node)
  | key :: value :: rest => (key, value) :: pairs rest
  | _ => []

/-- The nodes that some last events of a document make: those of the collection that the events are
in, then those of each collection around it, and all that are anchored. -/
structure Suffix where
  level : List Node := []
  outer : List (List Node) := []
  anchored : List (Nat × Node) := []

/-- Puts a node in front of its collection. -/
def Suffix.add (s : Suffix) (anchor : Option Nat) (node : Node) : Suffix :=
  { s with
    level := node :: s.level
    anchored := s.anchored ++ (anchor.map fun n => (n, node)).toList }

/-- Takes the collection that starts here out of its surroundings. -/
def Suffix.start (s : Suffix) : Suffix :=
  { s with level := s.outer.head?.getD [], outer := s.outer.tail }

/-- The nodes that one more event in front makes. -/
def Suffix.cons (s : Suffix) : Event Nat → Suffix
  | .alias n => s.add none (.alias n)
  | .scalar p style text => s.add p.anchor (.scalar p.tag style text)
  | .sequence p => s.start.add p.anchor (.sequence p.tag s.level)
  | .mapping p => s.start.add p.anchor (.mapping p.tag (pairs s.level))
  | .close => { s with level := [], outer := s.level :: s.outer }

def ofEvents (events : List (Event Nat)) : Document :=
  let s : Suffix := events.foldr (fun e s => s.cons e) {}
  { root := s.level.head?, anchored := s.anchored }

def ofText? (text : String) : Option Document := do
  some (ofEvents (← number? [] (← Event.ofText? text)))

def resolve? (d : Document) : Node → Option Node
  | .alias n => d.anchored.lookup n
  | node => some node

end Document

end LintReview.Yaml

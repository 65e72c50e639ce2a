import LintReview.Pattern.Node

/-! Matching. `Node.enter` says how a pattern matches at a place of the text, given how the text is
matched after the pattern: of all ways the one preferred first. Places are visited from the end of
the text to its start, so that what follows a character is known when the character is reached;
`Ahead` holds this, one entry for each set of characters in the pattern. Each place takes a number
of steps that depends on the pattern alone.

`findAll` lists the matches of a pattern from left to right. They do not overlap, and an empty match
does not stand where the match before it ended. -/

namespace LintReview.Pattern

/-- The start or the end of a group in a match. -/
structure Mark where
  group : Nat
  isStart : Bool
  place : Place

/-- How a text is matched from some place on: the ends of groups on the way, in order, and where
the match ends. -/
structure Trail where
  marks : List Mark
  stop : Nat

/-- For each set of characters in a pattern: how the text is matched after its character, if the
place after that character is the one at hand. -/
@[reducible]
def Ahead : Node → Type
  | .empty => Unit
  | .set _ => Option Trail
  | .look _ => Unit
  | .cat a b => Ahead a × Ahead b
  | .alt a b => Ahead a × Ahead b
  | .loop _ a => Ahead a
  | .group _ a => Ahead a

def Ahead.nothing : (n : Node) → Ahead n
  | .empty => ()
  | .set _ => none
  | .look _ => ()
  | .cat a b => (nothing a, nothing b)
  | .alt a b => (nothing a, nothing b)
  | .loop _ a => nothing a
  | .group _ a => nothing a

def Trail.mark (group : Nat) (isStart : Bool) (place : Place) (t : Trail) : Trail :=
  { t with marks := ⟨group, isStart, place⟩ :: t.marks }

namespace Node

/-- How a pattern and what follows it match at a place. `after` says how the text is matched if the
pattern takes no character there; `ahead` belongs to the next place. An empty round ends a loop. -/
def enter (place : Place) : (n : Node) → (after : Option Trail) → (ahead : Ahead n) → Option Trail
  | .empty, after, _ => after
  | .set s, _, ahead =>
    match place.rest with
    | c :: _ => if s.contains c then ahead else none
    | [] => none
  | .look l, after, _ => if l.holds place.before place.rest.head? then after else none
  | .cat a b, after, (x, y) => a.enter place (b.enter place after y) x
  | .alt a b, after, (x, y) => (a.enter place after x).or (b.enter place after y)
  | .loop _ a, after, x => a.enter place after x
  | .group i a, after, x =>
    (a.enter place (after.map (Trail.mark i false place)) x).map (Trail.mark i true place)

/-- How the text is matched at a place where a round of a loop has just ended: by another round that
is not empty, or by what follows the loop. -/
def again (place : Place) (greedy : Bool) (body : Node) (after : Option Trail) (x : Ahead body) :
    Option Trail :=
  let more := body.enter place none x
  if greedy then more.or after else after.or more

/-- Both the match at a place, as `enter` gives it, and what is ahead for the place before it. -/
def advance (place : Place) : (n : Node) → (after : Option Trail) → (ahead : Ahead n) →
    Option Trail × Ahead n
  | .empty, after, _ => (after, ())
  | .set s, after, ahead => ((Node.set s).enter place after ahead, after)
  | .look l, after, _ => ((Node.look l).enter place after (), ())
  | .cat a b, after, (x, y) =>
    let (second, y) := b.advance place after y
    let (first, x) := a.advance place second x
    (first, (x, y))
  | .alt a b, after, (x, y) =>
    let (first, x) := a.advance place after x
    let (second, y) := b.advance place after y
    (first.or second, (x, y))
  | .loop greedy a, after, x =>
    let next := again place greedy a after x
    (a.enter place after x, (a.advance place next x).2)
  | .group i a, after, x =>
    let (inner, x) := a.advance place (after.map (Trail.mark i false place)) x
    (inner.map (Trail.mark i true place), x)

/-- How a pattern matches at each place, and what is ahead for the place before the first. -/
def matchesAt (n : Node) (places : List Place) : Ahead n × List (Place × Option Trail) :=
  places.foldr
    (fun place (x, found) =>
      let (trail, x) := n.advance place (some ⟨[], place.offset⟩) x
      (x, (place, trail) :: found))
    (Ahead.nothing n, [])

end Node

/-- The matches at places from `start` on. A match of no characters is passed over where the last
match ended. -/
def select : (last : Option Nat) → (start : Nat) → List (Place × Option Trail) →
    List (Place × Trail)
  | _, _, [] => []
  | last, start, (place, trail) :: rest =>
    if place.offset < start then select last start rest
    else
      match trail with
      | none => select last start rest
      | some t =>
        if t.stop = place.offset ∧ last = some t.stop then select last start rest
        else (place, t) :: select (some t.stop) t.stop rest

/-- The matches of a pattern in a text, from left to right, each with the place where it starts. -/
def findAll (n : Node) (text : List Char) : List (Place × Trail) :=
  select none 0 (n.matchesAt (Place.toEnd none 0 text)).2

/-- The last mark of one end of a group. -/
def Trail.last? (t : Trail) (group : Nat) (isStart : Bool) : Option Place :=
  (t.marks.reverse.find? fun m => m.group = group && m.isStart = isStart).map (·.place)

/-- The text that a group took the last time it was passed. -/
def Trail.captured? (t : Trail) (group : Nat) : Option (List Char) := do
  let first ← t.last? group true
  let last ← t.last? group false
  some (first.rest.take (last.offset - first.offset))

end LintReview.Pattern

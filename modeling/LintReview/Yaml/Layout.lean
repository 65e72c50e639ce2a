import LintReview.Yaml.Token

/-! Reading a YAML text into tokens. Indentation opens and closes block collections, and a colon
makes a key of what stands before it on its line. `Layout` is what is known at a place of the text:
the columns of the open block collections, and where a key may have started. -/

namespace LintReview.Yaml

/-- A place where a key may have started. -/
structure KeyStart where
  /-- How many tokens stand before the key. -/
  position : Nat
  index : Nat
  line : Nat
  column : Nat
  /-- Nothing but a key can stand there. -/
  required : Bool

/-- A text that has been read up to a place. -/
structure Layout where
  cursor : Cursor
  tokens : Array Token := #[]
  /-- The columns of the open block collections, innermost first. -/
  columns : List Nat := []
  /-- Where a key may have started in each of the open flow collections, innermost first, and
  outside all of them. -/
  keys : List (Option KeyStart) := [none]
  /-- A key may start at the place. -/
  keyAllowed : Bool := true

namespace Layout

/-- Whether the place is inside a flow collection. -/
def inFlow (l : Layout) : Bool := 1 < l.keys.length

/-- The column that a line has to reach to belong to the innermost block collection's content. -/
def contentColumn (l : Layout) : Nat := (l.columns.head?.map (· + 1)).getD 0

def emit (l : Layout) (token : Token) : Layout := { l with tokens := l.tokens.push token }

def emitHere (l : Layout) (token : Token) (width : Nat) : Layout :=
  { l.emit token with cursor := l.cursor.skip width }

/-- Closes a block collection, unless the place is in a flow collection. -/
def closeBlock (l : Layout) (columns : List Nat) : Layout :=
  { l.emit .blockEnd with columns }

/-- Closes the block collections whose columns are kept by a test, up to the first that is not. -/
def closeWhile (l : Layout) (p : Nat → Bool) : Layout :=
  if l.inFlow then l
  else go l.columns l
where
  go : List Nat → Layout → Layout
    | [], l => l
    | column :: columns, l => if p column then go columns (l.closeBlock columns) else l

/-- Closes the block collections that the column of the place is to the left of. -/
def closeRight (l : Layout) : Layout := l.closeWhile fun column => l.cursor.column < column

/-- Closes all block collections. -/
def closeAll (l : Layout) : Layout := l.closeWhile fun _ => true

/-- Opens a block collection at a column, with its token at a position, unless the column is that
of the innermost one or the place is in a flow collection. -/
def openBlock (l : Layout) (column position : Nat) (token : Token) : Layout :=
  if l.inFlow || l.columns.head?.any fun c => decide (column ≤ c) then l
  else
    { l with
      tokens := l.tokens.insertIdxIfInBounds position token
      columns := column :: l.columns }

/-! ## Keys -/

/-- Whether a key that started there cannot have its colon at the place or after it. -/
def KeyStart.isStale (k : KeyStart) (c : Cursor) : Bool :=
  k.line < c.line || k.index + 1024 < c.index

/-- Gives up a key, unless it is required. -/
def giveUp? : Option KeyStart → Option (Option KeyStart)
  | some k => if k.required then none else some none
  | none => some none

def dropStale? (l : Layout) : Option Layout := do
  let keys ← l.keys.mapM fun key =>
    if key.any fun k => KeyStart.isStale k l.cursor then giveUp? key else some key
  some { l with keys }

/-- Gives up the key of the innermost collection. -/
def dropKey? (l : Layout) : Option Layout :=
  match l.keys with
  | key :: keys => (giveUp? key).map fun key => { l with keys := key :: keys }
  | [] => some l

/-- Notes that a key may start at the place, if it may, and that no other one may follow it. -/
def startKey? (l : Layout) : Option Layout :=
  if l.keyAllowed then do
    let key : KeyStart :=
      { position := l.tokens.size
        index := l.cursor.index
        line := l.cursor.line
        column := l.cursor.column
        required := !l.inFlow && l.columns.head? = some l.cursor.column }
    let l ← l.dropKey?
    some { l with keys := some key :: l.keys.tail, keyAllowed := false }
  else some l

/-- Says whether a key may start at the place. -/
def allowKey (l : Layout) (allowed : Bool) : Layout := { l with keyAllowed := allowed }

/-! ## Tokens -/

/-- Goes past spaces, comments and line breaks. A tab may not stand where a key may start. -/
def skipGap : (bound : Nat) → Layout → Layout
  | 0, l => l
  | bound + 1, l =>
    let c := l.cursor
    let c := if c.index = 0 && c.rest.head? = some '\uFEFF' then c.skip 1 else c
    let c := (c.span fun x => x = ' ' || (x = '\t' && (l.inFlow || !l.keyAllowed))).2.skipComment
    match c.break? with
    | some (_, next) =>
      skipGap bound { l with cursor := next, keyAllowed := l.keyAllowed || !l.inFlow }
    | none => { l with cursor := c }

/-- Reads a directive or a line that separates documents. -/
def separate? (l : Layout) (read : Cursor → Option (Token × Cursor)) : Option Layout := do
  let l ← l.closeAll.dropKey?
  let (token, cursor) ← read l.cursor
  some { (l.emit token).allowKey false with cursor }

def openFlow? (l : Layout) (token : Token) : Option Layout := do
  let l ← l.startKey?
  some ({ l with keys := none :: l.keys }.emitHere token 1 |>.allowKey true)

def closeFlow? (l : Layout) (token : Token) : Option Layout := do
  let l ← l.dropKey?
  let keys := if l.inFlow then l.keys.tail else l.keys
  some ({ l with keys }.emitHere token 1 |>.allowKey false)

def comma? (l : Layout) : Option Layout := do
  let l ← l.dropKey?
  some (l.emitHere .comma 1 |>.allowKey true)

/-- Opens a block collection at the place, where a key must be allowed. In a flow collection
nothing is opened. -/
def openHere? (l : Layout) (token : Token) : Option Layout :=
  if l.inFlow then some l
  else if l.keyAllowed then some (l.openBlock l.cursor.column l.tokens.size token)
  else none

def item? (l : Layout) : Option Layout := do
  let l ← (← l.openHere? .blockSequence).dropKey?
  some (l.emitHere .item 1 |>.allowKey true)

/-- Reads a question mark before a key. -/
def key? (l : Layout) : Option Layout := do
  let l ← (← l.openHere? .blockMapping).dropKey?
  some (l.emitHere .key 1 |>.allowKey !l.inFlow)

/-- Reads the colon before a value. If a key may have started on the line, it has; its token is put
where it started. -/
def value? (l : Layout) : Option Layout :=
  match l.keys with
  | some k :: keys =>
    let l := { l with keys := none :: keys, tokens := l.tokens.insertIdxIfInBounds k.position .key }
    some (l.openBlock k.column k.position .blockMapping |>.emitHere .value 1 |>.allowKey false)
  | _ => do
    let l ← l.openHere? .blockMapping
    some (l.emitHere .value 1 |>.allowKey !l.inFlow)

def word? (l : Layout) (read : Cursor → Option (Token × Cursor)) : Option Layout := do
  let l ← l.startKey?
  let (token, cursor) ← read l.cursor
  some { (l.emit token).allowKey false with cursor }

/-- Reads a plain scalar. A key may start after it if a line break follows it. -/
def plain? (l : Layout) : Option Layout := do
  let l ← l.startKey?
  let (text, broken, cursor) ← Plain.read? l.inFlow l.contentColumn l.cursor
  some { (l.emit (.scalar .plain text)).allowKey broken with cursor }

def block? (l : Layout) (literal : Bool) : Option Layout := do
  let l ← l.dropKey?
  let (text, cursor) ← BlockScalar.read? literal l.columns.head? l.cursor
  let style := if literal then ScalarStyle.literal else .folded
  some { (l.emit (.scalar style text)).allowKey true with cursor }

def quoted? (l : Layout) (single : Bool) : Option Layout :=
  l.word? fun c => (Quoted.read? single c).map fun (text, c) => (.scalar .quoted text, c)

/-- Whether a plain scalar may start with a character that some text follows. -/
def startsPlain (inFlow : Bool) (c : Char) (rest : List Char) : Bool :=
  if c = '-' then !rest.head?.any isSpace
  else if c = '?' || c = ':' then !inFlow && !atGap rest
  else !atGap [c] && !",[]\x7b\x7d#&*!|>'\"%@\x60".toList.contains c

/-- Reads the token that starts with a character. -/
def fetchAt? (l : Layout) (c : Char) (rest : List Char) : Option Layout :=
  let lineStart := l.cursor.column = 0
  let indicates := l.inFlow || atGap rest
  let named (token : String → Token) := fun c => (Token.name? c).map fun (n, c) => (token n, c)
  if lineStart && c = '%' then l.separate? Token.directive?
  else if lineStart && atSeparator (c :: rest) then
    l.separate? fun at' => some (if c = '-' then .documentStart else .documentEnd, at'.skip 3)
  else if c = '[' then l.openFlow? .flowSequence
  else if c = '\x7b' then l.openFlow? .flowMapping
  else if c = ']' then l.closeFlow? .flowSequenceEnd
  else if c = '\x7d' then l.closeFlow? .flowMappingEnd
  else if c = ',' then l.comma?
  else if c = '-' && atGap rest then l.item?
  else if c = '?' && indicates then l.key?
  else if c = ':' && indicates then l.value?
  else if c = '*' then l.word? (named .alias)
  else if c = '&' then l.word? (named .anchor)
  else if c = '!' then l.word? (Token.tag? l.inFlow)
  else if c = '|' && !l.inFlow then l.block? true
  else if c = '>' && !l.inFlow then l.block? false
  else if c = '\'' then l.quoted? true
  else if c = '"' then l.quoted? false
  else if startsPlain l.inFlow c rest then l.plain?
  else none

/-- Reads all tokens from a place on. -/
def fetchAll? : (bound : Nat) → Layout → Option Layout
  | 0, _ => none
  | bound + 1, l => do
    let l ← (skipGap (l.cursor.rest.length + 1) l).dropStale?
    match l.cursor.rest with
    | [] => (l.closeAll).dropKey?
    | c :: rest => fetchAll? bound (← l.closeRight.fetchAt? c rest)

end Layout

def tokens? (text : String) : Option (List Token) :=
  let s := text.toList
  if s.all isAllowed then
    (Layout.fetchAll? (s.length + 1) { cursor := { rest := s } }).map fun l => l.tokens.toList
  else none

end LintReview.Yaml

import LintReview.Json.Token
import LintReview.Json.Tree

/-! Reading a JSON document. A `Reading` is what has been read of a document, as the arrays and
objects that are still open and what may follow next; `Reading.step` takes one token. A text is a
document if its tokens lead from the start to a finished reading (`read?`). -/

namespace LintReview.Json

/-- An open array with its items so far, or an open object with its members so far and the name
whose value is being read. The last one read comes first. -/
inductive Frame where
  | items (done : List Tree)
  | members (done : List (Option String × Tree)) (name : Option String)

/-- How far a document has been read. The innermost open frame comes first. -/
inductive Reading where
  /-- A value must follow. -/
  | value (frames : List Frame)
  /-- After an opening bracket. -/
  | firstItem (frames : List Frame)
  /-- After an item. -/
  | nextItem (done : List Tree) (frames : List Frame)
  /-- After an opening brace. -/
  | firstName (frames : List Frame)
  /-- After the comma between two members. -/
  | nextName (done : List (Option String × Tree)) (frames : List Frame)
  /-- After the name of a member. -/
  | colon (done : List (Option String × Tree)) (name : Option String) (frames : List Frame)
  /-- After a member. -/
  | nextMember (done : List (Option String × Tree)) (frames : List Frame)
  /-- The document is complete. -/
  | finished (t : Tree)

namespace Reading

/-- Puts a complete value in its place. -/
def place (t : Tree) : List Frame → Reading
  | [] => finished t
  | .items done :: frames => nextItem (t :: done) frames
  | .members done name :: frames => nextMember ((name, t) :: done) frames

def startValue (frames : List Frame) : Token → Option Reading
  | .null => some (place .null frames)
  | .bool b => some (place (.bool b) frames)
  | .number literal => some (place (.number literal) frames)
  | .text t => some (place (.text t) frames)
  | .leftBracket => some (firstItem frames)
  | .leftBrace => some (firstName frames)
  | _ => none

def step : Reading → Token → Option Reading
  | value frames, t => startValue frames t
  | firstItem frames, .rightBracket => some (place (.array []) frames)
  | firstItem frames, t => startValue (.items [] :: frames) t
  | nextItem done frames, .comma => some (value (.items done :: frames))
  | nextItem done frames, .rightBracket => some (place (.array done.reverse) frames)
  | firstName frames, .rightBrace => some (place (.object []) frames)
  | firstName frames, .text n => some (colon [] n frames)
  | nextName done frames, .text n => some (colon done n frames)
  | colon done n frames, .colon => some (value (.members done n :: frames))
  | nextMember done frames, .comma => some (nextName done frames)
  | nextMember done frames, .rightBrace => some (place (.object done.reverse) frames)
  | _, _ => none

def run (r : Reading) : List Token → Option Reading
  | [] => some r
  | t :: ts => (r.step t).bind fun r => r.run ts

end Reading

/-- The document that a list of tokens writes. -/
def ofTokens? (ts : List Token) : Option Tree :=
  match (Reading.value []).run ts with
  | some (.finished t) => some t
  | _ => none

/-- The document that a text writes. -/
def read? (s : String) : Option Tree := (Token.scan? s.toList).bind ofTokens?

/-- The document that a text writes, if a reader that keeps the whole of it takes it. -/
def readWhole? (s : String) : Option Tree := (read? s).filter Tree.isKeepable

end LintReview.Json

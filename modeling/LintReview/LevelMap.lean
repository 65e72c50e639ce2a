import LintReview.Json.Level
import LintReview.Json.Reader

/-! Level maps: which level each word of a linter stands for. -/

namespace LintReview

/-- The words with a level, each once. -/
structure LevelMap where
  entries : List (String × Level)
  deriving DecidableEq, Inhabited

namespace LevelMap

def empty : LevelMap := ⟨[]⟩

def isEmpty (m : LevelMap) : Bool := m.entries.isEmpty

def get? (m : LevelMap) (word : String) : Option Level := m.entries.lookup word

/-- Gives a word a level, in place of the one it had. -/
def insert (m : LevelMap) (word : String) (level : Level) : LevelMap :=
  ⟨m.entries.filter (fun e => e.1 ≠ word) ++ [(word, level)]⟩

/-- The map with the given entries; of two for one word the later one counts. -/
def ofList (entries : List (String × Level)) : LevelMap :=
  entries.foldl (fun m (word, level) => m.insert word level) empty

def readEntry? (member : Option String × Json.Tree) : Option (String × Level) := do
  let word ← member.1
  let level ← Level.ofJson? member.2
  some (word, level)

def read? (json : String) : Option LevelMap :=
  match Json.read? json with
  | some (.object members) =>
    (members.mapM readEntry?).map ofList
  | _ => none

end LevelMap

end LintReview

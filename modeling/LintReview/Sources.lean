import LintReview.Settings.Reading
import LintReview.Text.Utf8

/-! What a run reads before it does anything: the settings and the linter output. `Sources m` holds
the ways to read them and no way to change anything. -/

namespace LintReview

/-- Ways to read files and standard input. What cannot be read has a reason. -/
structure Sources (m : Type → Type) where
  isFile : (path : String) → m Bool
  file : (path : String) → m (Except String (List UInt8))
  standardInput : m (Except String (List UInt8))

/-- The path that stands for standard input or standard output. -/
def standardPath : String := "-"

/-- The reason why bytes that are no text cannot be read. -/
def notText : String := "stream did not contain valid UTF-8"

def textOf : Except String (List UInt8) → Except String String
  | .ok bytes =>
    match Utf8.decode? bytes with
    | some text => .ok text
    | none => .error notText
  | .error reason => .error reason

variable {m : Type → Type} [Monad m]

def Settings.load (sources : Sources m) (path : String) : m (Except SettingsError Settings) := do
  match textOf (← sources.file path) with
  | .error reason => pure (.error (.unreadable path reason))
  | .ok text =>
    match Settings.read? text with
    | some s => pure (.ok s)
    | none => pure (.error .malformed)

/-- Reads the settings in a file that is named, or else in the default file if it is there. -/
def Settings.discover (sources : Sources m) (named : Option String) :
    m (Except SettingsError Settings) := do
  match named with
  | some path => Settings.load sources path
  | none =>
    if ← sources.isFile Settings.defaultFile then Settings.load sources Settings.defaultFile
    else pure (.ok {})

/-- Linter output cannot be read from a path. -/
structure InputError where
  path : String
  deriving DecidableEq, Repr

def InputError.message (e : InputError) : String :=
  if e.path = standardPath then "Failed to read input from stdin"
  else "Failed to read input: " ++ e.path

/-- Text without its carriage returns. -/
def dropReturns (text : String) : String := String.ofList (text.toList.filter (· ≠ '\r'))

/-- Reads linter output, without its carriage returns. -/
def readInput (sources : Sources m) (path : String) : m (Except InputError String) := do
  match textOf (← if path = standardPath then sources.standardInput else sources.file path) with
  | .ok text => pure (.ok (dropReturns text))
  | .error _ => pure (.error ⟨path⟩)

end LintReview

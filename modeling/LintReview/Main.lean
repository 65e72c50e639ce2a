import LintReview.Program
import Std.Time

/-! The program on this computer: its platform is the file system, the environment and the standard
streams. Other programs cannot be started from here, so every call of `gh` ends before it starts. -/

namespace LintReview.Local

/-- The reason of a failure, as the operating system words it. -/
def reasonOf (e : IO.Error) : String :=
  match e with
  | .noFileOrDirectory .. => "No such file or directory (os error 2)"
  | .permissionDenied _ code _ => "Permission denied (os error " ++ toString code ++ ")"
  | .inappropriateType _ 20 _ => "Not a directory (os error 20)"
  | .inappropriateType .. => "Is a directory (os error 21)"
  | e => toString e

/-- Makes a failure an answer. -/
def attempt {α : Type} (act : IO α) : IO (Except String α) := do
  try
    return .ok (← act)
  catch e =>
    return .error (reasonOf e)

def readFile (path : String) : IO (Except String (List UInt8)) :=
  attempt do return (← IO.FS.readBinFile path).toList

def isFile (path : String) : IO Bool := do
  try
    let _ ← IO.FS.readBinFile path
    return true
  catch e =>
    match e with
    | .permissionDenied .. => return true
    | _ => return false

def readStandardInput : IO (Except String (List UInt8)) :=
  attempt do return (← (← IO.getStdin).readToEnd).toUTF8.toList

def warn (text : String) : IO Unit := IO.eprintln (" WARN " ++ text)

def now : IO String := do
  let time := Std.Time.DateTime.ofTimestamp (← Std.Time.Timestamp.now) .UTC
  return time.format "uuuu-MM-dd HH:mm:ss" ++ " UTC"

def platform : Platform IO where
  isFile := isFile
  file := readFile
  standardInput := readStandardInput
  environment := fun name => IO.getEnv name
  directory := attempt do return (← IO.currentDir).toString
  now := now
  writeFile := fun path text => attempt (IO.FS.writeFile path text)
  appendFile := fun path text =>
    attempt do (← IO.FS.Handle.mk path .append).putStr text
  print := fun text => do
    IO.print text
    (← IO.getStdout).flush
  complain := fun text => IO.eprintln text
  warn := warn
  gh := fun _ _ =>
    { random := do return UInt64.ofNat (← IO.rand 0 (UInt64.size - 1))
      sleep := fun millis => IO.sleep (min millis 0xFFFFFFFF).toUInt32
      warn := warn
      run := fun _ => return .notStarted "programs cannot be started from here" }

end LintReview.Local

/-- Runs the program with the arguments of the command line. -/
def main (args : List String) : IO UInt32 := LintReview.Local.platform.execute args

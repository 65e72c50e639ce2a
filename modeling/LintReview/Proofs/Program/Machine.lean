import LintReview.Program

/-! A machine that the program runs on, and what a run does to it. A `Machine` answers what a run
reads from a fixed state. Everything else that a run does is an `Act`, and the machine may answer it
by all that the run has done before. Reading leaves no act behind (`load_pure`). -/

namespace LintReview

/-- What a run does to the machine, other than reading. -/
inductive Act where
  /-- Text on standard output. -/
  | printed (text : String)
  | wrote (path text : String)
  | appended (path text : String)
  /-- A run of the program that speaks to the host of reviews. -/
  | ran (binary : String) (i : Review.Gh.Invocation)
  /-- A line on standard error. -/
  | complained (line : String)
  | warned (text : String)
  deriving DecidableEq

/-- A machine. What it answers to an act depends on the acts before it, the oldest first. -/
structure Machine where
  isFile : (path : String) → Bool
  file : (path : String) → Except String (List UInt8)
  standardInput : Except String (List UInt8)
  environment : (name : String) → Option String
  directory : Except String String
  now : String
  write : List Act → (path text : String) → Except String Unit
  append : List Act → (path text : String) → Except String Unit
  gh : List Act → (binary : String) → (timeoutSec : UInt64) → Review.Gh.Invocation → Review.Gh.Exit
  random : List Act → UInt64

/-- What the machine reads, in any monad. -/
def Machine.sources {m : Type → Type} [Monad m] (w : Machine) : Sources m where
  isFile path := pure (w.isFile path)
  file path := pure (w.file path)
  standardInput := pure w.standardInput

/-- The program that speaks to the host of reviews, each run of which is kept. Waiting takes no
time. -/
def Machine.runner (w : Machine) (binary : String) (timeoutSec : UInt64) :
    Review.Gh.Runner (StateM (List Act)) where
  random := do return w.random (← get)
  sleep _ := pure ()
  warn text := modify (· ++ [.warned text])
  run i := do
    let past ← get
    set (past ++ [.ran binary i])
    pure (w.gh past binary timeoutSec i)

/-- The machine as a platform that keeps the acts. -/
def Machine.platform (w : Machine) : Platform (StateM (List Act)) where
  toSources := w.sources
  environment name := pure (w.environment name)
  directory := pure w.directory
  now := pure w.now
  writeFile path text := do
    let past ← get
    set (past ++ [.wrote path text])
    pure (w.write past path text)
  appendFile path text := do
    let past ← get
    set (past ++ [.appended path text])
    pure (w.append past path text)
  print text := modify (· ++ [.printed text])
  complain line := modify (· ++ [.complained line])
  warn text := modify (· ++ [.warned text])
  gh := w.runner

@[simp] theorem environment_platform (w : Machine) (name : String) :
    w.platform.environment name = pure (w.environment name) := rfl

@[simp] theorem directory_platform (w : Machine) : w.platform.directory = pure w.directory := rfl

/-! ## Reading -/

/-- The settings in a file. -/
def Machine.settingsIn (w : Machine) (path : String) : Except SettingsError Settings :=
  match textOf (w.file path) with
  | .error reason => .error (.unreadable path reason)
  | .ok text =>
    match Settings.read? text with
    | some s => .ok s
    | none => .error .malformed

/-- The settings that the machine has, before the command line is heeded. -/
def Machine.config (w : Machine) : Option String → Except SettingsError Settings
  | some path => w.settingsIn path
  | none => if w.isFile Settings.defaultFile then w.settingsIn Settings.defaultFile else .ok {}

/-- The linter output that the machine has. -/
def Machine.text (w : Machine) (path : String) : Except InputError String :=
  match textOf (if path = standardPath then w.standardInput else w.file path) with
  | .ok text => .ok (dropReturns text)
  | .error _ => .error ⟨path⟩

/-- The settings of a run with its linter output. -/
def Machine.load (w : Machine) (configFile : Option String) (o : InputOptions) :
    Except Failure (Settings × String) := do
  let found ← (w.config configFile).mapError .settings
  let s ← (o.apply found).mapError .read
  let text ← (w.text o.input).mapError .input
  return (s, text)

section

variable {m : Type → Type} [Monad m] [LawfulMonad m]

theorem settings_load_pure (w : Machine) (path : String) :
    (Settings.load w.sources path : m _) = pure (w.settingsIn path) := by
  unfold Settings.load Machine.settingsIn Machine.sources
  rw [pure_bind]
  cases textOf (w.file path) with
  | error reason => rfl
  | ok text =>
    dsimp only
    cases Settings.read? text <;> rfl

theorem discover_pure (w : Machine) (configFile : Option String) :
    (Settings.discover w.sources configFile : m _) = pure (w.config configFile) := by
  cases configFile with
  | some path => exact settings_load_pure w path
  | none =>
    unfold Settings.discover Machine.config
    dsimp only
    rw [settings_load_pure]
    unfold Machine.sources
    rw [pure_bind]
    split <;> rfl

theorem readInput_pure (w : Machine) (path : String) :
    (readInput w.sources path : m _) = pure (w.text path) := by
  unfold readInput Machine.text Machine.sources
  split
  · rw [pure_bind]
    dsimp only
    cases textOf w.standardInput <;> rfl
  · rw [pure_bind]
    dsimp only
    cases textOf (w.file path) <;> rfl

theorem load_pure (w : Machine) (configFile : Option String) (o : InputOptions) :
    (LintReview.load w.sources configFile o : m _) = pure (w.load configFile o) := by
  unfold LintReview.load Machine.load
  rw [discover_pure, pure_bind]
  cases w.config configFile with
  | error e => rfl
  | ok found =>
    change _ = pure ((o.apply found).mapError Failure.read >>= fun s =>
      (w.text o.input).mapError .input >>= fun text => pure (s, text))
    dsimp only
    cases o.apply found with
    | error e => rfl
    | ok s =>
      dsimp only
      rw [readInput_pure, pure_bind]
      cases w.text o.input <;> rfl

end

end LintReview

import LintReview.Proofs.Program.Output
import LintReview.Proofs.Review.Attempts

/-! What a run needs before it acts. The `Stage`s of a run are taken in their order, and
`Machine.fault?` says, for each of them on its own, how it fails on a machine. **A run in which any
stage fails ends with the failure of the first of them and does nothing else; otherwise it acts on
all diagnostics of its input** (`execute_acts_last`). -/

namespace LintReview

open Review (run_bind_of_eq)
open Review.Gh (bytesOf)

/-! ## Stages -/

/-- What a run does before it acts. -/
inductive Stage where
  | config
  /-- The options of the command line are put in place of the settings. -/
  | options
  | input
  /-- A review needs a repository. -/
  | repository
  /-- A format or a pattern is chosen. -/
  | choice
  | reader
  | decoding
  deriving DecidableEq

def Stage.all : List Stage := [config, options, input, repository, choice, reader, decoding]

/-- The error of an answer. -/
def error? {ε α : Type} : Except ε α → Option ε
  | .ok _ => none
  | .error e => some e

/-- Where linter output comes from, if a command reads any. -/
def Command.input? : Command → Option InputOptions
  | .sarif o _ _ | .comment o _ _ | .summary o => some o
  | .formats | .schema => none

/-- The repository that a command needs, under these settings. -/
def Command.repository (c : Command) (s : Settings) : Except Failure (Option String) :=
  match c with
  | .comment _ repo _ => (s.repository repo).map some
  | _ => .ok none

/-- The settings of a run, if they can be had. -/
def Machine.settings? (w : Machine) (configFile : Option String) (o : InputOptions) :
    Option Settings := do
  let found ← (w.config configFile).toOption
  (o.apply found).toOption

/-- How a stage fails. A stage that needs what another one gives does not fail without it. -/
def Machine.fault? (w : Machine) (line : CommandLine) (o : InputOptions) : Stage → Option Failure
  | .config => (error? (w.config line.configFile)).map .settings
  | .options =>
    if o.levels.any fun json => (LevelMap.read? json).isNone then some (.read .invalidLevelMap)
    else none
  | .input => (error? (w.text o.input)).map .input
  | .repository => do
    let s ← w.settings? line.configFile o
    error? (line.command.repository s)
  | .choice => do
    let s ← w.settings? line.configFile o
    (error? s.source).map .settings
  | .reader => do
    let s ← w.settings? line.configFile o
    let _ ← s.source.toOption
    error? s.reader
  | .decoding => do
    let s ← w.settings? line.configFile o
    let reader ← s.reader.toOption
    let text ← (w.text o.input).toOption
    (error? (reader.read text)).map .read

/-- The settings and the diagnostics of a run, or the failure that keeps it from having them. -/
def Machine.prepare (w : Machine) (line : CommandLine) (o : InputOptions) :
    Except Failure (Settings × List Diagnostic) := do
  let (s, text) ← w.load line.configFile o
  let _ ← line.command.repository s
  let ds ← s.diagnostics text
  return (s, ds)

/-! ## The first fault -/

section

variable {ε ε' α β : Type} (e : ε) (a : α)

@[simp] theorem error?_ok : error? (.ok a : Except ε α) = none := rfl

@[simp] theorem error?_error : error? (.error e : Except ε α) = some e := rfl

@[simp] theorem toOption_ok : (.ok a : Except ε α).toOption = some a := rfl

@[simp] theorem toOption_error : (.error e : Except ε α).toOption = none := rfl

@[simp] theorem mapError_ok (f : ε → ε') : (.ok a : Except ε α).mapError f = .ok a := rfl

@[simp] theorem mapError_error (f : ε → ε') :
    (.error e : Except ε α).mapError f = .error (f e) := rfl

@[simp] theorem ok_bind (f : α → Except ε β) : ((.ok a : Except ε α) >>= f) = f a := rfl

@[simp] theorem error_bind (f : α → Except ε β) : ((.error e : Except ε α) >>= f) = .error e := rfl

theorem exists_of_bind_eq_ok {x : Except ε α} {f : α → Except ε β} {b : β} (h : x >>= f = .ok b) :
    ∃ a, x = .ok a ∧ f a = .ok b := by
  cases x with
  | error e => cases h
  | ok a => exact ⟨a, rfl, h⟩

theorem eq_ok_of_mapError {x : Except ε α} {f : ε → ε'} {a : α} (h : x.mapError f = .ok a) :
    x = .ok a := by
  cases x with
  | error e => cases h
  | ok a => simpa using h

end

theorem error?_apply (o : InputOptions) (s : Settings) : error? (o.apply s) =
    if o.levels.any fun json => (LevelMap.read? json).isNone then some .invalidLevelMap
    else none := by
  unfold InputOptions.apply
  cases o.levels with
  | none => rfl
  | some json =>
    cases hread : LevelMap.read? json with
    | none => simp [hread]
    | some levels => simp [hread]

theorem fault?_options (w : Machine) (line : CommandLine) (o : InputOptions) (s : Settings) :
    w.fault? line o .options = (error? (o.apply s)).map .read := by
  rw [error?_apply, apply_ite (Option.map Failure.read)]
  rfl

theorem reader_of_source_error {s : Settings} {e : SettingsError} (h : s.source = .error e) :
    s.reader = .error (.settings e) := by
  rw [Settings.reader, h]

/-- What keeps a run from acting once it has its settings and its input. -/
theorem findSome?_fault_of_load {w : Machine} {line : CommandLine} {o : InputOptions} {s : Settings}
    {text : String} (hsettings : w.settings? line.configFile o = some s)
    (htext : w.text o.input = .ok text) :
    [Stage.repository, .choice, .reader, .decoding].findSome? (w.fault? line o) =
      error? (do
        let _ ← line.command.repository s
        let ds ← s.diagnostics text
        return (s, ds)) := by
  simp only [List.findSome?_cons, List.findSome?_nil, Machine.fault?, hsettings, htext,
    Settings.diagnostics]
  cases hrepository : line.command.repository s with
  | error e => simp [hrepository]
  | ok repository =>
    cases hsource : s.source with
    | error e => simp [hrepository, hsource, reader_of_source_error hsource]
    | ok source =>
      cases hreader : s.reader with
      | error e => simp [hrepository, hsource, hreader]
      | ok reader =>
        cases hread : reader.read text <;> simp [hrepository, hsource, hreader, hread]

/-- The first fault of the stages is what keeps a run from acting. -/
theorem findSome?_fault (w : Machine) (line : CommandLine) (o : InputOptions) :
    Stage.all.findSome? (w.fault? line o) = error? (w.prepare line o) := by
  unfold Stage.all Machine.prepare Machine.load
  cases hconfig : w.config line.configFile with
  | error e => simp [Machine.fault?, hconfig]
  | ok found =>
    have hstart : w.fault? line o .config = none := by simp [Machine.fault?, hconfig]
    rw [List.findSome?_cons, hstart, List.findSome?_cons, fault?_options w line o found]
    cases happly : o.apply found with
    | error e => simp [happly]
    | ok s =>
      have hsettings : w.settings? line.configFile o = some s := by
        simp [Machine.settings?, hconfig, happly]
      cases htext : w.text o.input with
      | error e => simp [Machine.fault?, happly, htext]
      | ok text =>
        have hinput : w.fault? line o .input = none := by simp [Machine.fault?, htext]
        simp only [error?_ok, Option.map_none, mapError_ok, ok_bind, happly]
        rw [List.findSome?_cons, hinput]
        exact findSome?_fault_of_load hsettings htext

/-! ## Whole runs -/

/-- How the program ends. The error of a run is reported on standard error. -/
def report : Except Failure Unit × List Act → UInt32 × List Act
  | (.ok (), acts) => (0, acts)
  | (.error e, acts) => (1, acts ++ [.complained ("Error: " ++ e.message)])

section

variable {w : Machine} {line : CommandLine} {o : InputOptions} {s : Settings} {text : String}
  {ds : List Diagnostic} {past : List Act} {configFile : Option String}
  {act : Settings → List Diagnostic → StateM (List Act) (Except Failure Unit)} {e : Failure}

theorem warnAll_run (w : Machine) (texts : List String) (past : List Act) :
    (w.platform.warnAll texts).run past = ((), past ++ texts.map .warned) := by
  induction texts generalizing past with
  | nil => rw [List.map_nil, List.append_nil]; rfl
  | cons text texts ih =>
    have hwarn : (w.platform.warn text).run past = ((), past ++ [.warned text]) := rfl
    unfold Platform.warnAll
    rw [run_bind_of_eq hwarn, ih, List.append_assoc]
    rfl

/-- Reading comes first, then the warnings about the reader. -/
theorem withDiagnostics_run (w : Machine) (configFile : Option String) (o : InputOptions)
    (past : List Act) :
    (w.platform.withDiagnostics configFile o act).run past =
      match w.load configFile o with
      | .error e => (.error e, past)
      | .ok (s, text) =>
        let past := past ++ s.readerWarnings.map .warned
        match s.diagnostics text with
        | .error e => (.error e, past)
        | .ok ds => (act s ds).run past := by
  unfold Platform.withDiagnostics
  change (LintReview.load w.sources configFile o >>= _ : StateM _ _).run past = _
  rw [load_pure, pure_bind]
  cases w.load configFile o with
  | error e => rfl
  | ok found =>
    obtain ⟨s, text⟩ := found
    dsimp only
    rw [run_bind_of_eq (warnAll_run w s.readerWarnings past)]
    cases s.diagnostics text <;> rfl

theorem comment_run (w : Machine) (configFile : Option String) (o : InputOptions)
    (repo : Option String) (pr : UInt64) (past : List Act) :
    (w.platform.comment configFile o repo pr).run past =
      match w.load configFile o with
      | .error e => (.error e, past)
      | .ok (s, text) =>
        match s.repository repo with
        | .error e => (.error e, past)
        | .ok repo =>
          let past := past ++ s.readerWarnings.map .warned
          match s.diagnostics text with
          | .error e => (.error e, past)
          | .ok ds => (w.platform.review s repo pr ds).run past := by
  unfold Platform.comment
  change (LintReview.load w.sources configFile o >>= _ : StateM _ _).run past = _
  rw [load_pure, pure_bind]
  cases w.load configFile o with
  | error e => rfl
  | ok found =>
    obtain ⟨s, text⟩ := found
    dsimp only
    cases s.repository repo with
    | error e => rfl
    | ok repo =>
      dsimp only
      rw [run_bind_of_eq (warnAll_run w s.readerWarnings past)]
      cases s.diagnostics text <;> rfl

/-- A run reads, warns about its reader, and then does what its command says with all diagnostics of
its input. -/
theorem run_eq (ho : line.command.input? = some o) :
    (w.platform.run line).run [] =
      match w.load line.configFile o with
      | .error e => (.error e, [])
      | .ok (s, text) =>
        match line.command.repository s with
        | .error e => (.error e, [])
        | .ok _ =>
          match s.diagnostics text with
          | .error e => (.error e, s.readerWarnings.map .warned)
          | .ok ds => w.output s ds (s.readerWarnings.map .warned) line.command := by
  unfold Platform.run
  cases hcommand : line.command with
  | sarif input output rooted =>
    obtain rfl : input = o := by simpa [hcommand, Command.input?] using ho
    unfold Platform.sarif
    rw [withDiagnostics_run]
    cases w.load line.configFile input with
    | error e => rfl
    | ok found =>
      obtain ⟨s, text⟩ := found
      dsimp only [Command.repository]
      cases s.diagnostics text with
      | error e => rfl
      | ok ds =>
        dsimp only
        rw [directory_platform, pure_bind]
        unfold Machine.output
        cases w.directory with
        | error reason => rfl
        | ok cwd => exact writeLog_run w (s.log ds cwd rooted) output _
  | comment input repo pr =>
    obtain rfl : input = o := by simpa [hcommand, Command.input?] using ho
    rw [comment_run]
    cases w.load line.configFile input with
    | error e => rfl
    | ok found =>
      obtain ⟨s, text⟩ := found
      dsimp only [Command.repository, Machine.output]
      cases s.repository repo with
      | error e => rfl
      | ok repo =>
        simp only [review_run]
        rfl
  | summary input =>
    obtain rfl : input = o := by simpa [hcommand, Command.input?] using ho
    unfold Platform.summary
    rw [withDiagnostics_run]
    cases w.load line.configFile input with
    | error e => rfl
    | ok found =>
      obtain ⟨s, text⟩ := found
      dsimp only [Command.repository]
      cases s.diagnostics text with
      | error e => rfl
      | ok ds =>
        dsimp only
        rw [directory_platform, pure_bind]
        unfold Machine.output
        cases w.directory with
        | error reason => rfl
        | ok cwd => exact writeSummary_run w (s.summary ds cwd) _
  | formats | schema => simp [hcommand, Command.input?] at ho

/-- A run that cannot have its diagnostics leaves nothing but warnings behind. -/
theorem run_of_prepare_error (ho : line.command.input? = some o) (h : w.prepare line o = .error e) :
    ∃ texts : List String, (w.platform.run line).run [] = (.error e, texts.map .warned) := by
  unfold Machine.prepare at h
  rw [run_eq ho]
  cases hload : w.load line.configFile o with
  | error e' =>
    rw [hload] at h
    cases h
    exact ⟨[], rfl⟩
  | ok found =>
    obtain ⟨s, text⟩ := found
    simp only [hload, ok_bind] at h
    dsimp only
    cases hrepository : line.command.repository s with
    | error e' =>
      rw [hrepository] at h
      cases h
      exact ⟨[], rfl⟩
    | ok _ =>
      cases hds : s.diagnostics text with
      | error e' =>
        rw [hrepository, ok_bind, hds] at h
        cases h
        exact ⟨s.readerWarnings, rfl⟩
      | ok ds =>
        rw [hrepository, ok_bind, hds] at h
        cases h

/-- The settings of a run are those of the machine with the options in their place. -/
theorem settings_of_load (h : w.load configFile o = .ok (s, text)) :
    w.settings? configFile o = some s ∧ w.text o.input = .ok text := by
  obtain ⟨found, hconfig, h⟩ := exists_of_bind_eq_ok h
  obtain ⟨applied, happly, h⟩ := exists_of_bind_eq_ok h
  obtain ⟨input, htext, h⟩ := exists_of_bind_eq_ok h
  cases h
  refine ⟨?_, eq_ok_of_mapError htext⟩
  simp [Machine.settings?, eq_ok_of_mapError hconfig, eq_ok_of_mapError happly]

/-- A run that has its diagnostics does with them what its command says. -/
theorem run_of_prepare_ok (ho : line.command.input? = some o)
    (h : w.prepare line o = .ok (s, ds)) :
    ∃ text reader, w.settings? line.configFile o = some s ∧ w.text o.input = .ok text ∧
      s.reader = .ok reader ∧ reader.read text = .ok ds ∧
      (w.platform.run line).run [] =
        w.output s ds (s.readerWarnings.map .warned) line.command := by
  obtain ⟨⟨s', text⟩, hload, h⟩ := exists_of_bind_eq_ok h
  obtain ⟨repository, hrepository, h⟩ := exists_of_bind_eq_ok h
  obtain ⟨ds', hds, h⟩ := exists_of_bind_eq_ok h
  cases h
  obtain ⟨hsettings, htext⟩ := settings_of_load hload
  obtain ⟨reader, hreader, hread⟩ := exists_of_bind_eq_ok hds
  refine ⟨text, reader, hsettings, htext, hreader, eq_ok_of_mapError hread, ?_⟩
  rw [run_eq ho, hload]
  dsimp only at hrepository hds ⊢
  rw [hrepository]
  dsimp only
  rw [hds]

end

/-- A run that reads linter output does nothing before it has all of its diagnostics. -/
structure Machine.ActsLast (w : Machine) (line : CommandLine) (o : InputOptions)
    (ended : UInt32 × List Act) : Prop where
  /-- The failure of the first stage that fails is reported, and nothing else is done but to
  warn. -/
  fails : ∀ e, Stage.all.findSome? (w.fault? line o) = some e →
    ∃ texts : List String,
      ended = (1, texts.map .warned ++ [.complained ("Error: " ++ e.message)])
  /-- If no stage fails, the command acts on all diagnostics of the input. -/
  acts : Stage.all.findSome? (w.fault? line o) = none →
    ∃ s text reader ds result, w.settings? line.configFile o = some s ∧
      w.text o.input = .ok text ∧ s.reader = .ok reader ∧ reader.read text = .ok ds ∧
      w.Outputs s ds (s.readerWarnings.map .warned) line.command result ∧ ended = report result

theorem execute_run (w : Machine) (args : List String) (line : CommandLine)
    (hline : CommandLine.read (w.environment "GITHUB_REPOSITORY") args = .ok line) :
    (w.platform.execute args).run [] = report ((w.platform.run line).run []) := by
  unfold Platform.execute
  rw [environment_platform, pure_bind, hline]
  rcases hrun : (w.platform.run line).run [] with ⟨_ | _, acts⟩
  · dsimp only
    rw [run_bind_of_eq hrun]
    rfl
  · dsimp only
    rw [run_bind_of_eq hrun]
    rfl

/-- **A run does nothing before its whole input is known to be good.** -/
theorem execute_acts_last (w : Machine) (args : List String) (line : CommandLine) (o : InputOptions)
    (hline : CommandLine.read (w.environment "GITHUB_REPOSITORY") args = .ok line)
    (ho : line.command.input? = some o) :
    w.ActsLast line o ((w.platform.execute args).run []) := by
  rw [execute_run w args line hline]
  refine ⟨fun e he => ?_, fun hnone => ?_⟩
  · rw [findSome?_fault] at he
    cases hprepare : w.prepare line o with
    | ok found =>
      rw [hprepare] at he
      cases he
    | error e' =>
      rw [hprepare] at he
      cases he
      obtain ⟨texts, hrun⟩ := run_of_prepare_error ho hprepare
      exact ⟨texts, by rw [hrun]; rfl⟩
  · rw [findSome?_fault] at hnone
    cases hprepare : w.prepare line o with
    | error e =>
      rw [hprepare] at hnone
      cases hnone
    | ok found =>
      obtain ⟨s, ds⟩ := found
      obtain ⟨text, reader, hs, htext, hreader, hread, hrun⟩ := run_of_prepare_ok ho hprepare
      exact ⟨s, text, reader, ds, _, hs, htext, hreader, hread, outputs_output .., by rw [hrun]⟩

/-- A machine without any files. -/
def bareMachine : Machine where
  isFile _ := false
  file _ := .error "No such file or directory (os error 2)"
  standardInput := .ok []
  environment _ := none
  directory := .ok "/"
  now := "1970-01-01 00:00:00 UTC"
  write _ _ _ := .ok ()
  append _ _ _ := .ok ()
  gh _ _ _ _ := .notStarted "No such file or directory (os error 2)"
  random _ := 0

def faultyArgs : List String :=
  ["sarif", "-i", "lint.txt", "-f", "eslint", "-o", "out.sarif"]

def faultyOptions : InputOptions := { input := "lint.txt", format := some "eslint" }

def faultyLine : CommandLine := { command := .sarif faultyOptions (some "out.sarif") false }

def reviewText : String := "[\x7b\"path\": \"a\", \"line\": 1, \"message\": \"m\"\x7d]"

def reviewDiff : String := "+++ b/a\n@@ -0,0 +1 @@\n+x\n"

/-- A machine with linter output, and with a pull request that adds one line and has no comments. -/
def reviewMachine : Machine :=
  { bareMachine with
    file := fun path =>
      if path = "lint.json" then .ok (bytesOf reviewText) else bareMachine.file path
    gh := fun _ _ _ i =>
      .exited true (bytesOf (if i.args.head? = some "pr" then reviewDiff else "[]")) [] }

def reviewArgs : List String :=
  ["comment", "-i", "lint.json", "-f", "pylint", "--repo", "o/r", "--pr", "7"]

def reviewOptions : InputOptions := { input := "lint.json", format := some "pylint" }

def reviewLine : CommandLine := { command := .comment reviewOptions (some "o/r") 7 }

def reviewSettings : Settings := { format := some "pylint" }

def reviewTarget : Review.Gh.Target := { repo := "o/r", pr := 7 }

def reviewDiagnostics : List Diagnostic := [{ path := some "a", line := some 1, msg := some "m" }]

def reviewBatch : Review.Batch where
  comments :=
    [{ path := "a", line := 1, body := "<!-- lintbridge:lintbridge -->\nm [lintbridge]" }]

/-- The runs of `gh` for the review. -/
def reviewRuns : List Act :=
  [.ran "gh" (reviewTarget.listing 1), .ran "gh" reviewTarget.fetch,
    .ran "gh" (reviewTarget.review reviewBatch (Review.marker "lintbridge"))]

theorem call_reviewMachine (what : String) (i : Review.Gh.Invocation) (past : List Act) :
    (reviewTarget.call (reviewMachine.runner "gh" 60) what i).run past =
      (.ok (if i.args.head? = some "pr" then reviewDiff else "[]"), past ++ [.ran "gh" i]) := by
  rw [call_run what rfl]
  split <;> rfl

/-- There is nothing to delete. -/
theorem deleteMarked_reviewMachine :
    (Review.deleteMarked (reviewMachine.host reviewSettings "o/r" 7) (Review.marker "lintbridge")
        Review.maxListings 1 []).run [] =
      (.done 0, [.ran "gh" (reviewTarget.listing 1)]) := by
  have hpage : Review.Gh.page? "[]" = some ⟨[], false⟩ := by decide +kernel
  have hlist : ((reviewMachine.host reviewSettings "o/r" 7).list 1).run [] =
      (.ok ⟨[], false⟩, [.ran "gh" (reviewTarget.listing 1)]) := by
    have hcall : (reviewTarget.call (reviewMachine.runner "gh" 60) "list review comments"
        (reviewTarget.listing 1)).run [] = (.ok "[]", [.ran "gh" (reviewTarget.listing 1)]) :=
      call_reviewMachine ..
    refine (run_bind_of_eq hcall).trans ?_
    dsimp only
    rw [hpage]
    rfl
  have honce : (Review.deleteMarked (reviewMachine.host reviewSettings "o/r" 7)
      (Review.marker "lintbridge") 1 1 []).run [] =
        (.done 0, [.ran "gh" (reviewTarget.listing 1)]) := run_bind_of_eq hlist
  have hmore : 1 + (Review.maxListings - 1) = Review.maxListings := by decide
  rw [← hmore]
  exact Review.deleteMarked_run_add _ honce (by decide)

theorem publication_reviewMachine :
    (reviewMachine.publication reviewSettings "o/r" 7 reviewDiagnostics).run [] =
      (.done ⟨0, 1, false⟩, reviewRuns) := by
  have hbatch : (UnifiedDiff.addedLines reviewDiff).toOption.map
      (Review.Batch.ofDiagnostics reviewDiagnostics · "." "/" "lintbridge") = some reviewBatch := by
    decide +kernel
  have hdiff : (reviewMachine.host reviewSettings "o/r" 7).diff.run
      [.ran "gh" (reviewTarget.listing 1)] =
        (.ok reviewDiff, [.ran "gh" (reviewTarget.listing 1), .ran "gh" reviewTarget.fetch]) :=
    call_reviewMachine ..
  have hcreate : ((reviewMachine.host reviewSettings "o/r" 7).create reviewBatch
      (Review.marker "lintbridge")).run
        [.ran "gh" (reviewTarget.listing 1), .ran "gh" reviewTarget.fetch] =
      (.ok (), reviewRuns) :=
    run_bind_of_eq (call_reviewMachine ..)
  refine (run_bind_of_eq deleteMarked_reviewMachine).trans ?_
  refine (run_bind_of_eq hdiff).trans ?_
  dsimp only
  cases hadded : UnifiedDiff.addedLines reviewDiff with
  | error e =>
    rw [hadded] at hbatch
    cases hbatch
  | ok added =>
    rw [hadded, toOption_ok, Option.map_some] at hbatch
    have hbuild : (Review.Batch.build (reviewMachine.host reviewSettings "o/r" 7).warn
        reviewDiagnostics added "." "/" "lintbridge").run
          [.ran "gh" (reviewTarget.listing 1), .ran "gh" reviewTarget.fetch] =
        (reviewBatch, [.ran "gh" (reviewTarget.listing 1), .ran "gh" reviewTarget.fetch]) := by
      rw [Review.build_eq, Option.some.inj hbatch]
      rfl
    have hdirectory : reviewMachine.directory = .ok "/" := rfl
    dsimp only
    rw [hdirectory, pure_bind]
    refine (run_bind_of_eq hbuild).trans ?_
    exact run_bind_of_eq hcreate

/-- The first machine has neither the input nor the format, and only the first of the two faults is
reported. The second one has the comments of an earlier run deleted, of which there are none, and
the comment for its diagnostic posted. -/
theorem execute_acts_last_twoMachines :
    (CommandLine.read none faultyArgs = .ok faultyLine ∧
      ∃ texts : List String, (bareMachine.platform.execute faultyArgs).run [] =
        (1, texts.map .warned ++ [.complained "Error: Failed to read input: lint.txt"])) ∧
    CommandLine.read none reviewArgs = .ok reviewLine ∧
      (reviewMachine.platform.execute reviewArgs).run [] =
        (0, reviewRuns ++ [.printed "o/r#7: removed 0 old comments, posted 1\n"]) := by
  have hfaulty : CommandLine.read none faultyArgs = .ok faultyLine := by rfl
  have hreview : CommandLine.read none reviewArgs = .ok reviewLine := by rfl
  refine ⟨⟨hfaulty, ?_⟩, hreview, ?_⟩
  · have hacts := execute_acts_last bareMachine faultyArgs faultyLine faultyOptions hfaulty rfl
    exact hacts.fails (.input ⟨"lint.txt"⟩) rfl
  · have hacts := execute_acts_last reviewMachine reviewArgs reviewLine reviewOptions hreview rfl
    have hgood : Stage.all.findSome? (reviewMachine.fault? reviewLine reviewOptions) = none := by
      decide +kernel
    obtain ⟨s, text, reader, ds, result, hs, htext, hreader, hread, houtputs, hended⟩ :=
      hacts.acts hgood
    have hsettings : reviewMachine.settings? reviewLine.configFile reviewOptions =
        some reviewSettings := rfl
    have hinput : reviewMachine.text reviewOptions.input = .ok reviewText := rfl
    have hdiagnostics : (reviewSettings.reader.toOption.bind fun reader =>
        (reader.read reviewText).toOption) = some reviewDiagnostics := by
      decide +kernel
    obtain rfl := Option.some.inj (hsettings.symm.trans hs)
    obtain rfl := Except.ok.inj (hinput.symm.trans htext)
    rw [hreader, toOption_ok, Option.bind_some, hread, toOption_ok] at hdiagnostics
    obtain rfl := Option.some.inj hdiagnostics
    have hresult : result = concluded "o/r" 7 (.done ⟨0, 1, false⟩, reviewRuns) := by
      rw [← publication_reviewMachine, houtputs.eq_output]
      rfl
    rw [hended, hresult]
    rfl

end LintReview

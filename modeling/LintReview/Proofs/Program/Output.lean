import LintReview.Proofs.Program.Machine
import LintReview.Proofs.Review.Trace

/-! What a command does to a machine with its diagnostics. `Machine.output` says it for each command:
which text is printed or written, and, for a review, the publication on the host that `gh` speaks to
and what is said about it afterwards. **A publication is an execution of calls to the host, and the
batch of all the diagnostics is what it posts** (`outputs_output`). -/

namespace LintReview

open Review (run_bind_of_eq)

/-- The log that is written for these diagnostics. -/
def Settings.log (s : Settings) (ds : List Diagnostic) (cwd : String) (rooted : Bool) : Sarif.Log :=
  Sarif.assemble ds s.toolName (if rooted then .rooted s.analysisPath cwd else .asReported)

/-- The summary that is written for these diagnostics. -/
def Settings.summary (s : Settings) (ds : List Diagnostic) (cwd : String) : String :=
  Summary.render ds s.toolName s.analysisPath cwd

/-- The host of the pull request under review, which the machine's `gh` speaks to. -/
def Machine.host (w : Machine) (s : Settings) (repo : String) (pr : UInt64) :
    Review.Host (StateM (List Act)) :=
  Review.Gh.Target.host ⟨repo, pr, s.github.timeoutSec, s.retry⟩
    (w.runner s.github.binary s.github.timeoutSec)

/-- The batch for these diagnostics, if there is a working directory. -/
def Machine.batch? (w : Machine) (s : Settings) (ds : List Diagnostic) (added : AddedLines) :
    Except String Review.Batch :=
  w.directory.map (Review.Batch.ofDiagnostics ds added s.analysisPath · s.toolName)

/-- The publication of a review for these diagnostics. -/
def Machine.publication (w : Machine) (s : Settings) (repo : String) (pr : UInt64)
    (ds : List Diagnostic) : StateM (List Act) (Review.Outcome Review.Report) :=
  Review.publishFrom (w.host s repo pr) Review.maxListings ds s.analysisPath (pure w.directory)
    s.toolName

open Review.Gh (numeral) in
/-- What is said about a review that has been published. -/
def lastWords (repo : String) (pr : UInt64) (r : Review.Report) : List Act :=
  .printed (repo ++ "#" ++ numeral pr.toNat ++ ": removed " ++ numeral r.deleted ++
      " old comments, posted " ++ numeral r.posted ++ "\n") ::
    if r.truncated then [.complained "warning: only the first 50 comments were posted"] else []

/-- How a run ends after a publication, and all acts by then. -/
def concluded (repo : String) (pr : UInt64) :
    Review.Outcome Review.Report × List Act → Except Failure Unit × List Act
  | (.failed e, acts) => (.error (.publish e), acts)
  | (.unfinished, acts) => (.error .endless, acts)
  | (.done r, acts) => (.ok (), acts ++ lastWords repo pr r)

/-- What a command does with its diagnostics: how it ends, and all acts by then. -/
def Machine.output (w : Machine) (s : Settings) (ds : List Diagnostic) (past : List Act) :
    Command → Except Failure Unit × List Act
  | .sarif _ output rooted =>
    match w.directory with
    | .error reason => (.error (.directory reason), past)
    | .ok cwd =>
      let text := (s.log ds cwd rooted).text
      match output.filter (· ≠ standardPath) with
      | none => (.ok (), past ++ [.printed text])
      | some path => ((w.write past path text).mapError (.output path), past ++ [.wrote path text])
  | .comment _ given pr =>
    match s.repository given with
    | .error e => (.error e, past)
    | .ok repo => concluded repo pr ((w.publication s repo pr ds).run past)
  | .summary _ =>
    match w.directory with
    | .error reason => (.error (.directory reason), past)
    | .ok cwd =>
      match (w.environment "GITHUB_STEP_SUMMARY").filter (· ≠ "") with
      | none => (.ok (), past ++ [.printed (s.summary ds cwd)])
      | some path =>
        let text := Summary.stamped (s.summary ds cwd) w.now
        ((w.append past path text).mapError (.output path), past ++ [.appended path text])
  | .formats | .schema => (.ok (), past)

/-- A command has done with its diagnostics what it is there for. -/
structure Machine.Outputs (w : Machine) (s : Settings) (ds : List Diagnostic) (past : List Act)
    (command : Command) (ended : Except Failure Unit × List Act) : Prop where
  eq_output : ended = w.output s ds past command
  /-- A review is published by calls to its host. They replace the comments of the tool by those of
  its batch. -/
  calls : ∀ o given pr repo, command = .comment o given pr → s.repository given = .ok repo →
    ∃ events outcome acts, (w.host s repo pr).Performs past events acts ∧
      Review.Publishes (Review.marker s.toolName) (w.batch? s ds) Review.maxListings events
        outcome ∧
      ended = concluded repo pr (outcome, acts)

/-! ## Running -/

theorem writeLog_run (w : Machine) (log : Sarif.Log) (output : Option String) (past : List Act) :
    (w.platform.writeLog log output).run past =
      match output.filter (· ≠ standardPath) with
      | none => (.ok (), past ++ [.printed log.text])
      | some path =>
        ((w.write past path log.text).mapError (.output path), past ++ [.wrote path log.text]) := by
  unfold Platform.writeLog
  cases output.filter (· ≠ standardPath) <;> rfl

theorem summaryFile?_eq (value : Option String) :
    Platform.summaryFile? value = value.filter (· ≠ "") := by
  apply congrArg (Option.filter · value)
  funext path
  by_cases h : path = "" <;> simp [h]

theorem writeSummary_run (w : Machine) (markdown : String) (past : List Act) :
    (w.platform.writeSummary markdown).run past =
      match (w.environment "GITHUB_STEP_SUMMARY").filter (· ≠ "") with
      | none => (.ok (), past ++ [.printed markdown])
      | some path =>
        let text := Summary.stamped markdown w.now
        ((w.append past path text).mapError (.output path), past ++ [.appended path text]) := by
  unfold Platform.writeSummary
  rw [environment_platform, pure_bind, summaryFile?_eq]
  cases (w.environment "GITHUB_STEP_SUMMARY").filter (· ≠ "") <;> rfl

theorem review_run (w : Machine) (s : Settings) (repo : String) (pr : UInt64)
    (ds : List Diagnostic) (past : List Act) :
    (w.platform.review s repo pr ds).run past =
      concluded repo pr ((w.publication s repo pr ds).run past) := by
  rcases hrun : (w.publication s repo pr ds).run past with ⟨outcome, acts⟩
  have hpublish : (Review.publishFrom (w.platform.host s repo pr) Review.maxListings ds
      s.analysisPath w.platform.directory s.toolName).run past = (outcome, acts) := hrun
  unfold Platform.review
  rw [run_bind_of_eq hpublish]
  cases outcome with
  | failed e => rfl
  | unfinished => rfl
  | done r =>
    have hprint : (w.platform.print (Platform.reviewLine repo pr r)).run acts =
        ((), acts ++ [.printed (Platform.reviewLine repo pr r)]) := rfl
    dsimp only
    rw [run_bind_of_eq hprint]
    obtain ⟨deleted, posted, truncated⟩ := r
    cases truncated with
    | false => rfl
    | true => exact congrArg (Prod.mk _) (List.append_assoc ..)

/-- A call that succeeds at once is one run of the program. -/
theorem call_run {w : Machine} {t : Review.Gh.Target} {binary : String} {timeoutSec : UInt64}
    {i : Review.Gh.Invocation} {past : List Act} {stdout stderr : List UInt8} (what : String)
    (h : w.gh past binary timeoutSec i = .exited true stdout stderr) :
    (t.call (w.runner binary timeoutSec) what i).run past =
      (.ok (Utf8.decodeLossy stdout), past ++ [.ran binary i]) := by
  have hrun : ((w.runner binary timeoutSec).run i).run past =
      (.exited true stdout stderr, past ++ [.ran binary i]) := by
    rw [← h]
    rfl
  have hresult : (do return t.result (← (w.runner binary timeoutSec).run i) :
      StateM (List Act) (Except Review.CallError String)).run past =
        (.ok (Utf8.decodeLossy stdout), past ++ [.ran binary i]) := run_bind_of_eq hrun
  unfold Review.Gh.Target.call Review.retry
  cases t.policy.attempts - 1 with
  | zero => exact run_bind_of_eq hresult
  | succ left => exact run_bind_of_eq hresult

/-- A publication is an execution against the host, with the batch of all the diagnostics. -/
theorem outputs_output (w : Machine) (s : Settings) (ds : List Diagnostic) (past : List Act)
    (command : Command) : w.Outputs s ds past command (w.output s ds past command) where
  eq_output := rfl
  calls := by
    rintro o given pr repo rfl hrepository
    obtain ⟨outcome, events, acts, hpublish, hperforms, hpublishes⟩ :=
      Review.publishFrom_performs (w.host s repo pr) Review.maxListings ds s.analysisPath
        w.directory s.toolName past
    have hrun : (w.publication s repo pr ds).run past = (outcome, acts) := hpublish
    refine ⟨events, outcome, acts, hperforms, hpublishes, ?_⟩
    simp only [Machine.output, hrepository, hrun]

end LintReview

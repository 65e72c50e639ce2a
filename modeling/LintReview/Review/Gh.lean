import LintReview.Json.Reader
import LintReview.Json.Record
import LintReview.Json.Writer
import LintReview.Review.Publish
import LintReview.Review.Retry
import LintReview.Text.Blank
import LintReview.Text.Utf8

/-! The review host behind the program `gh`. Each call is one run of the program, an `Invocation`,
which is repeated with the same arguments and input when it fails. What the program writes is
read only after it has succeeded, and an answer that cannot be read is not asked for again. -/

namespace LintReview.Review.Gh

open Json (Tree Record)

/-- One run of the program: its arguments, and the text on its standard input. -/
structure Invocation where
  args : List String
  stdin : Option String := none
  deriving DecidableEq, Inhabited

/-- How a run of the program ends. -/
inductive Exit where
  | exited (success : Bool) (stdout stderr : List UInt8)
  /-- The time is up. -/
  | timedOut
  /-- The program cannot be started. -/
  | notStarted (reason : String)

/-- The pull request under review, and how its host is called. -/
structure Target where
  repo : String
  pr : UInt64
  timeoutSec : UInt64 := 60
  policy : RetryPolicy := {}

/-- A way to run the program, and to wait for another attempt. -/
structure Runner (m : Type → Type) extends Patience m where
  run : Invocation → m Exit

/-- What a run answers: its output, or its complaint. -/
def Target.result (t : Target) : Exit → Except CallError String
  | .exited true stdout _ => .ok (Utf8.decodeLossy stdout)
  | .exited false _ stderr =>
    .error (.refused (String.ofList (Text.trim (Utf8.decodeLossy stderr).toList)))
  | .timedOut => .error (.timedOut t.timeoutSec)
  | .notStarted reason => .error (.notMade reason)

/-! ## Invocations -/

/-- How many comments a page holds. -/
def perPage : Nat := 100

def numeral (n : Nat) : String := String.ofList (Decimal.digits n)

/-- The arguments of a call to the interface of the host. -/
def apiArgs (method endpoint : String) : List String := ["api", "--method", method, endpoint]

def Target.listing (t : Target) (page : Nat) : Invocation where
  args := apiArgs "GET" ("repos/" ++ t.repo ++ "/pulls/" ++ numeral t.pr.toNat ++
    "/comments?per_page=" ++ numeral perPage ++ "&page=" ++ numeral page)

def Target.deletion (t : Target) (id : UInt64) : Invocation where
  args := apiArgs "DELETE" ("repos/" ++ t.repo ++ "/pulls/comments/" ++ numeral id.toNat)

def Target.fetch (t : Target) : Invocation where
  args := ["pr", "diff", numeral t.pr.toNat, "--repo", t.repo]

def commentToJson (c : Comment) : Tree :=
  .record <|
    [("path", .ofString c.path), ("line", .ofNat c.line.toNat), ("side", .ofString c.side)] ++
    (c.startLine.elim [] fun n => [("start_line", .ofNat n.toNat)]) ++
    (c.startSide.elim [] fun side => [("start_side", .ofString side)]) ++
    [("body", .ofString c.body)]

/-- The body of a review: the marker, and a line that says what the review is. -/
def reviewBody (marker : String) (batch : Batch) : String :=
  marker ++ "\nlintbridge found " ++ numeral batch.comments.length ++
    " diagnostics on changed lines." ++
    (if batch.truncated then " Only the first 50 are shown." else "")

def reviewToJson (marker : String) (batch : Batch) : Tree :=
  .record
    [("event", .ofString "COMMENT"), ("body", .ofString (reviewBody marker batch)),
      ("comments", .array (batch.comments.map commentToJson))]

def Target.review (t : Target) (batch : Batch) (marker : String) : Invocation where
  args := apiArgs "POST" ("repos/" ++ t.repo ++ "/pulls/" ++ numeral t.pr.toNat ++ "/reviews") ++
    ["--input", "-"]
  stdin := some (String.ofList (reviewToJson marker batch).compact)

/-! ## Answers -/

/-- Reads a comment of a listing. -/
def posted? (t : Tree) : Option Posted := do
  let r ← Record.read? ["id", "body"] t
  let id ← r.required "id" Tree.uint64?
  let body ← r.defaulted "body" none (Tree.nullable? Tree.string?)
  some { id, body }

/-- Reads a listing. A page that is full may have another one after it. -/
def page? (text : String) : Option Page :=
  ((Json.read? text).bind (Json.readItems? posted?)).map fun comments =>
    { comments, hasNext := comments.length = perPage }

/-! ## The host -/

variable {m : Type → Type} [Monad m]

/-- Runs the program for one call, and again if it fails. -/
def Target.call (t : Target) (runner : Runner m) (what : String) (i : Invocation) :
    m (Except CallError String) :=
  retry runner.toPatience t.policy what CallError.message (do return t.result (← runner.run i))

/-- The host that the program speaks to. -/
def Target.host (t : Target) (runner : Runner m) : Host m where
  list page := do
    match ← t.call runner "list review comments" (t.listing page) with
    | .error e => pure (.error e)
    | .ok text =>
      match page? text with
      | some page => pure (.ok page)
      | none => pure (.error .unreadable)
  delete id := do
    match ← t.call runner "delete review comment" (t.deletion id) with
    | .error e => pure (.error e)
    | .ok _ => pure (.ok ())
  diff := t.call runner "fetch diff" t.fetch
  create batch marker := do
    match ← t.call runner "create review" (t.review batch marker) with
    | .error e => pure (.error e)
    | .ok _ => pure (.ok ())
  warn := runner.warn

end LintReview.Review.Gh

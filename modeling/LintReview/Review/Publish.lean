import LintReview.Review.Host
import LintReview.Review.Duration

/-! Publishing a review: the comments of earlier runs are deleted, the diff is fetched, and the
comments on the lines it adds are created, in this order. The first call that fails ends the run.
The working directory, which reported paths may start from, is read after the diff.

A page on which something was deleted is listed again, because later comments move up into it. The
numbers of pages have no bound; 32 bits hold them unless the host says that a page follows the one
with the greatest number. Whoever runs `publish` says how many listings it may ask for; with enough
of them it ends on every host whose pages come to an end. -/

namespace LintReview.Review

/-- Why a review is not published. -/
inductive PublishError where
  | call (e : CallError)
  | diff (e : DiffError)
  /-- The working directory cannot be read. -/
  | directory (reason : String)
  deriving DecidableEq, Repr

def CallError.message : CallError → String
  | refused text => "gh CLI failed: " ++ text
  | unreadable => "Failed to parse gh output"
  | timedOut seconds => "gh call timed out after " ++ durationText (1000 * seconds.toNat)
  | notMade reason => "IO error: " ++ reason

def PublishError.message : PublishError → String
  | call e => e.message
  | diff e => "Diff error: " ++ e.message
  | directory reason => "IO error: " ++ reason

/-- What a run has done. -/
structure Report where
  deleted : Nat
  posted : Nat
  truncated : Bool
  deriving DecidableEq, Repr, Inhabited

/-- How a run ends. -/
inductive Outcome (α : Type) where
  | done (result : α)
  | failed (e : PublishError)
  /-- The listings that were allowed have been used up. -/
  | unfinished
  deriving DecidableEq, Repr

variable {m : Type → Type} [Monad m]

/-- Deletes the marked comments of a page that have not been deleted before, and answers the
identifiers of all that have been by then. -/
def deleteListed (host : Host m) (marker : String) :
    List Posted → (deleted : List UInt64) → m (Except CallError (List UInt64))
  | [], deleted => pure (.ok deleted)
  | c :: cs, deleted =>
    if !deleted.contains c.id && c.isMarked marker then do
      match ← host.delete c.id with
      | .ok () => deleteListed host marker cs (c.id :: deleted)
      | .error e => pure (.error e)
    else deleteListed host marker cs deleted

/-- Deletes the marked comments from a page on, and answers how many comments have been deleted. -/
def deleteMarked (host : Host m) (marker : String) :
    (listings page : Nat) → (deleted : List UInt64) → m (Outcome Nat)
  | 0, _, _ => pure .unfinished
  | listings + 1, page, deleted => do
    match ← host.list page with
    | .error e => pure (.failed (.call e))
    | .ok listing =>
      match ← deleteListed host marker listing.comments deleted with
      | .error e => pure (.failed (.call e))
      | .ok now =>
        if now.length ≠ deleted.length then deleteMarked host marker listings page now
        else if listing.hasNext then deleteMarked host marker listings (page + 1) now
        else pure (.done now.length)

/-- Creates the comments of a batch, if there are any, and reports the run. -/
def post (host : Host m) (marker : String) (deleted : Nat) (batch : Batch) :
    m (Outcome Report) := do
  let report : Report := ⟨deleted, batch.comments.length, batch.truncated⟩
  if batch.comments.isEmpty then pure (.done report)
  else
    match ← host.create batch marker with
    | .ok () => pure (.done report)
    | .error e => pure (.failed (.call e))

/-- Replaces the comments of one tool by new ones for its diagnostics. -/
def publishFrom (host : Host m) (listings : Nat) (diagnostics : List Diagnostic)
    (analysisRoot : String) (directory : m (Except String String)) (identifier : String) :
    m (Outcome Report) := do
  match ← deleteMarked host (marker identifier) listings 1 [] with
  | .failed e => pure (.failed e)
  | .unfinished => pure .unfinished
  | .done deleted =>
    match ← host.diff with
    | .error e => pure (.failed (.call e))
    | .ok diff =>
      match UnifiedDiff.addedLines diff with
      | .error e => pure (.failed (.diff e))
      | .ok added =>
        match ← directory with
        | .error reason => pure (.failed (.directory reason))
        | .ok cwd => do
          let batch ← Batch.build host.warn diagnostics added analysisRoot cwd identifier
          post host (marker identifier) deleted batch

/-- Replaces the comments of one tool, from a working directory that is known. -/
def publish (host : Host m) (listings : Nat) (diagnostics : List Diagnostic)
    (analysisRoot cwd identifier : String) : m (Outcome Report) :=
  publishFrom host listings diagnostics analysisRoot (pure (.ok cwd)) identifier

/-- The listings that the program allows a run: each either follows the deletion of one of at most
`2 ^ 64` identifiers or goes on to one of at most `2 ^ 32` pages. -/
def maxListings : Nat := UInt64.size + UInt32.size

end LintReview.Review

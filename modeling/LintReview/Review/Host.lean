import LintReview.Review.Comment
import LintReview.Text.Infix
import LintReview.UnifiedDiff

/-! The host of a review, as the calls it answers. `Host m` leaves open what stands behind the
calls: they run in any monad, so that a host may be a program on the network as well as a value. -/

namespace LintReview.Review

/-- Why a call to the host fails. -/
inductive CallError where
  /-- The host refused, with this text. -/
  | refused (text : String)
  /-- The host's answer cannot be read. -/
  | unreadable
  /-- There was no answer in the given number of seconds. -/
  | timedOut (seconds : UInt64)
  /-- The call could not be made. -/
  | notMade (reason : String)
  deriving DecidableEq, Repr, Inhabited

/-- A comment that is on the host already. -/
structure Posted where
  id : UInt64
  body : Option String := none
  deriving DecidableEq, Inhabited

/-- Whether the body of a comment holds a marker. -/
def Posted.isMarked (marker : String) (c : Posted) : Bool :=
  c.body.any fun body => Text.contains marker.toList body.toList

structure Page where
  comments : List Posted
  /-- More comments follow on the next page. -/
  hasNext : Bool
  deriving DecidableEq, Inhabited

/-- The calls that a host answers, and a way to warn the user. -/
structure Host (m : Type → Type) where
  /-- A page of the comments that are there; pages count from one. -/
  list : (page : Nat) → m (Except CallError Page)
  delete : (id : UInt64) → m (Except CallError Unit)
  /-- The diff of the change under review. -/
  diff : m (Except CallError String)
  create : Batch → (marker : String) → m (Except CallError Unit)
  warn : String → m Unit

end LintReview.Review

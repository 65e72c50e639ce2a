import LintReview.Proofs.Review.Selection
import LintReview.Review.Publish

/-! Errors of a host end a run. A `CallRelation` relates the runs of two programs, and it is kept
when another run follows each of them that only hands on the errors of the first. **If the calls to
two hosts are related, so are all runs of `publish` against them** (`publish_related`). A relation
that leaves the second program out is a property of the runs against one host. -/

namespace LintReview.Review

/-- A relation of runs whose answers have a place for the errors of calls. -/
structure CallRelation (m : Type → Type) [Monad m] where
  rel : {α : Type} → (CallError → α) → m α → m α → Prop
  rel_pure : ∀ {α : Type} (fail : CallError → α) (a : α), rel fail (pure a) (pure a)
  rel_bind : ∀ {α β : Type} {fail : CallError → α} {fail' : CallError → β} {x y : m α}
    {f g : α → m β}, rel fail x y → (∀ a, rel fail' (f a) (g a)) →
    (∀ e, f (fail e) = pure (fail' e)) → (∀ e, g (fail e) = pure (fail' e)) →
    rel fail' (x >>= f) (y >>= g)

variable {m : Type → Type} [Monad m] {R : CallRelation m} {host other : Host m}

/-- The calls to two hosts are related, and neither keeps what it is warned of. -/
structure CallRelation.Relates (R : CallRelation m) (host other : Host m) : Prop where
  list : ∀ page, R.rel .error (host.list page) (other.list page)
  delete : ∀ id, R.rel .error (host.delete id) (other.delete id)
  diff : R.rel .error host.diff other.diff
  create : ∀ batch marker, R.rel .error (host.create batch marker) (other.create batch marker)
  warn : host.warn = fun _ => pure ()
  warn_other : other.warn = fun _ => pure ()

theorem deleteListed_related (h : R.Relates host other) (marker : String) (cs : List Posted)
    (deleted : List UInt64) :
    R.rel .error (deleteListed host marker cs deleted) (deleteListed other marker cs deleted) := by
  induction cs generalizing deleted with
  | nil => exact R.rel_pure _ _
  | cons c cs ih =>
    unfold deleteListed
    split
    · refine R.rel_bind (h.delete c.id) (fun answer => ?_) (fun _ => rfl) fun _ => rfl
      cases answer with
      | ok _ => exact ih _
      | error e => exact R.rel_pure _ _
    · exact ih _

theorem deleteMarked_related (h : R.Relates host other) (marker : String)
    (listings page : Nat) (deleted : List UInt64) :
    R.rel (fun e => .failed (.call e)) (deleteMarked host marker listings page deleted)
      (deleteMarked other marker listings page deleted) := by
  induction listings generalizing page deleted with
  | zero => exact R.rel_pure _ _
  | succ listings ih =>
    unfold deleteMarked
    refine R.rel_bind (h.list page) (fun answer => ?_) (fun _ => rfl) fun _ => rfl
    cases answer with
    | error e => exact R.rel_pure _ _
    | ok listing =>
      refine R.rel_bind (deleteListed_related h marker listing.comments deleted) (fun answer => ?_)
        (fun _ => rfl) fun _ => rfl
      cases answer with
      | error e => exact R.rel_pure _ _
      | ok now =>
        dsimp only
        split
        · exact ih _ _
        · split
          · exact ih _ _
          · exact R.rel_pure _ _

theorem post_related (h : R.Relates host other) (marker : String) (deleted : Nat) (batch : Batch) :
    R.rel (fun e => .failed (.call e)) (post host marker deleted batch)
      (post other marker deleted batch) := by
  unfold post
  dsimp only
  split
  · exact R.rel_pure _ _
  · refine R.rel_bind (h.create batch marker) (fun answer => ?_) (fun _ => rfl) fun _ => rfl
    cases answer with
    | ok _ => exact R.rel_pure _ _
    | error e => exact R.rel_pure _ _

/-- **Runs against hosts whose calls are related are related.** -/
theorem publish_related [LawfulMonad m] (h : R.Relates host other) (listings : Nat)
    (diagnostics : List Diagnostic) (analysisRoot cwd identifier : String) :
    R.rel (fun e => .failed (.call e))
      (publish host listings diagnostics analysisRoot cwd identifier)
      (publish other listings diagnostics analysisRoot cwd identifier) := by
  unfold publish publishFrom
  refine R.rel_bind (deleteMarked_related h (marker identifier) listings 1 []) (fun cleared => ?_)
    (fun _ => rfl) fun _ => rfl
  cases cleared with
  | failed e => exact R.rel_pure _ _
  | unfinished => exact R.rel_pure _ _
  | done deleted =>
    refine R.rel_bind h.diff (fun answer => ?_) (fun _ => rfl) fun _ => rfl
    cases answer with
    | error e => exact R.rel_pure _ _
    | ok diff =>
      dsimp only
      cases UnifiedDiff.addedLines diff with
      | error e => exact R.rel_pure _ _
      | ok added =>
        simp only [pure_bind, h.warn, h.warn_other, build_pure]
        exact post_related h _ _ _

end LintReview.Review

import LintReview.Proofs.Review.Selection
import LintReview.Review.Publish

/-! The calls of a run. A host with a state `Performs` the `Event`s of a run one after the other, and
`Deletes`, `Clears` and `Publishes` say, constructor by constructor, which events a run can have and
how it then ends. **Every run is one of these** (`deleteListed_performs`, `deleteMarked_performs`,
`publishFrom_performs`), so that a property of all runs is shown by induction on them.

An `Oracle` is a host that chooses each answer by the calls made before, so that nothing is assumed
about it; its runs leave the list of the events behind. -/

namespace LintReview.Review

/-- A call to a host, with its answer. -/
inductive Event where
  | listed (page : Nat) (answer : Except CallError Page)
  | deleted (id : UInt64) (answer : Except CallError Unit)
  | fetched (answer : Except CallError String)
  | created (batch : Batch) (marker : String) (answer : Except CallError Unit)

/-- The calls of a run with their answers, from one state of the host to another. What the host is
warned of may change its state, but is no call. -/
inductive Host.Performs {σ : Type} (host : Host (StateM σ)) : σ → List Event → σ → Prop
  | nil : Performs host s [] s
  | listed : (host.list page).run s = (answer, s₁) → Performs host s₁ events s' →
    Performs host s (.listed page answer :: events) s'
  | deleted : (host.delete n).run s = (answer, s₁) → Performs host s₁ events s' →
    Performs host s (.deleted n answer :: events) s'
  | fetched : host.diff.run s = (answer, s₁) → Performs host s₁ events s' →
    Performs host s (.fetched answer :: events) s'
  | created : (host.create batch tag).run s = (answer, s₁) → Performs host s₁ events s' →
    Performs host s (.created batch tag answer :: events) s'
  | warned : (host.warn text).run s = ((), s₁) → Performs host s₁ events s' →
    Performs host s events s'

/-- A host whose answers depend on the calls made before, the oldest first. -/
structure Oracle where
  list : List Event → (page : Nat) → Except CallError Page
  delete : List Event → (id : UInt64) → Except CallError Unit
  diff : List Event → Except CallError String
  create : List Event → Batch → (marker : String) → Except CallError Unit

/-- The oracle as a host that keeps the calls. -/
def Oracle.host (o : Oracle) : Host (StateM (List Event)) where
  list page := do
    let past ← get
    set (past ++ [.listed page (o.list past page)])
    pure (o.list past page)
  delete id := do
    let past ← get
    set (past ++ [.deleted id (o.delete past id)])
    pure (o.delete past id)
  diff := do
    let past ← get
    set (past ++ [.fetched (o.diff past)])
    pure (o.diff past)
  create batch marker := do
    let past ← get
    set (past ++ [.created batch marker (o.create past batch marker)])
    pure (o.create past batch marker)
  warn _ := pure ()

/-! ## Executions -/

/-- The deletions for one listing: the events they leave, and the deleted identifiers afterwards. -/
inductive Deletes (marker : String) :
    List Posted → List UInt64 → List Event → Except CallError (List UInt64) → Prop
  | nil : Deletes marker [] deleted [] (.ok deleted)
  | skip : ¬(c.id ∉ deleted ∧ c.isMarked marker = true) → Deletes marker cs deleted events result →
    Deletes marker (c :: cs) deleted events result
  | delete : c.id ∉ deleted → c.isMarked marker = true →
    Deletes marker cs (c.id :: deleted) events result →
    Deletes marker (c :: cs) deleted (.deleted c.id (.ok ()) :: events) result
  | refused : c.id ∉ deleted → c.isMarked marker = true →
    Deletes marker (c :: cs) deleted [.deleted c.id (.error e)] (.error e)

/-- The listings from a page on with their deletions, of which as many are allowed. -/
inductive Clears (marker : String) :
    (listings page : Nat) → List UInt64 → List Event → Outcome Nat → Prop
  | unfinished : Clears marker 0 page deleted [] .unfinished
  | refused :
    Clears marker (listings + 1) page deleted [.listed page (.error e)] (.failed (.call e))
  | stuck : Deletes marker listing.comments deleted events (.error e) →
    Clears marker (listings + 1) page deleted (.listed page (.ok listing) :: events)
      (.failed (.call e))
  | again : Deletes marker listing.comments deleted events (.ok now) →
    now.length ≠ deleted.length → Clears marker listings page now rest outcome →
    Clears marker (listings + 1) page deleted (.listed page (.ok listing) :: (events ++ rest))
      outcome
  | next : Deletes marker listing.comments deleted events (.ok now) →
    now.length = deleted.length → listing.hasNext = true →
    Clears marker listings (page + 1) now rest outcome →
    Clears marker (listings + 1) page deleted (.listed page (.ok listing) :: (events ++ rest))
      outcome
  | done : Deletes marker listing.comments deleted events (.ok now) →
    now.length = deleted.length → listing.hasNext = false →
    Clears marker (listings + 1) page deleted (.listed page (.ok listing) :: events)
      (.done now.length)

/-- A run of `publishFrom` for diagnostics that have these batches, or none for want of a working
directory. -/
inductive Publishes (marker : String) (batch? : AddedLines → Except String Batch)
    (listings : Nat) : List Event → Outcome Report → Prop
  | unfinished : Clears marker listings 1 [] events .unfinished →
    Publishes marker batch? listings events .unfinished
  | uncleared : Clears marker listings 1 [] events (.failed e) →
    Publishes marker batch? listings events (.failed e)
  | unfetched : Clears marker listings 1 [] events (.done deleted) →
    Publishes marker batch? listings (events ++ [.fetched (.error e)]) (.failed (.call e))
  | malformed : Clears marker listings 1 [] events (.done deleted) →
    UnifiedDiff.addedLines diff = .error e →
    Publishes marker batch? listings (events ++ [.fetched (.ok diff)]) (.failed (.diff e))
  | lost : Clears marker listings 1 [] events (.done deleted) →
    UnifiedDiff.addedLines diff = .ok added → batch? added = .error reason →
    Publishes marker batch? listings (events ++ [.fetched (.ok diff)])
      (.failed (.directory reason))
  | empty : Clears marker listings 1 [] events (.done deleted) →
    UnifiedDiff.addedLines diff = .ok added → batch? added = .ok batch → batch.comments = [] →
    Publishes marker batch? listings (events ++ [.fetched (.ok diff)])
      (.done ⟨deleted, 0, batch.truncated⟩)
  | refused : Clears marker listings 1 [] events (.done deleted) →
    UnifiedDiff.addedLines diff = .ok added → batch? added = .ok batch → batch.comments ≠ [] →
    Publishes marker batch? listings
      (events ++ [.fetched (.ok diff), .created batch marker (.error e)]) (.failed (.call e))
  | posted : Clears marker listings 1 [] events (.done deleted) →
    UnifiedDiff.addedLines diff = .ok added → batch? added = .ok batch → batch.comments ≠ [] →
    Publishes marker batch? listings
      (events ++ [.fetched (.ok diff), .created batch marker (.ok ())])
      (.done ⟨deleted, batch.comments.length, batch.truncated⟩)

/-! ## Every run is an execution -/

section

variable {σ : Type}

theorem run_bind_of_eq {α β : Type} {x : StateM σ α} {f : α → StateM σ β} {s s' : σ} {a : α}
    (h : x.run s = (a, s')) : (x >>= f).run s = (f a).run s' := by
  rw [StateT.run_bind, h]
  rfl

theorem Host.Performs.append {host : Host (StateM σ)} {s s₁ s' : σ} {events rest : List Event}
    (h : host.Performs s events s₁) (hrest : host.Performs s₁ rest s') :
    host.Performs s (events ++ rest) s' := by
  induction h with
  | nil => exact hrest
  | listed hcall _ ih => exact .listed hcall (ih hrest)
  | deleted hcall _ ih => exact .deleted hcall (ih hrest)
  | fetched hcall _ ih => exact .fetched hcall (ih hrest)
  | created hcall _ ih => exact .created hcall (ih hrest)
  | warned hcall _ ih => exact .warned hcall (ih hrest)

variable (host : Host (StateM σ)) (marker : String)

theorem deleteListed_performs (cs : List Posted) (deleted : List UInt64) (s : σ) :
    ∃ result events s', (deleteListed host marker cs deleted).run s = (result, s') ∧
      host.Performs s events s' ∧ Deletes marker cs deleted events result := by
  induction cs generalizing deleted s with
  | nil => exact ⟨.ok deleted, [], s, rfl, .nil, .nil⟩
  | cons c cs ih =>
    by_cases hc : c.id ∉ deleted ∧ c.isMarked marker = true
    · obtain ⟨hid, hmarked⟩ := hc
      rcases hcall : (host.delete c.id).run s with ⟨answer, s₁⟩
      have hcond : (!deleted.contains c.id && c.isMarked marker) = true := by simp [hid, hmarked]
      unfold deleteListed
      rw [if_pos hcond, run_bind_of_eq hcall]
      cases answer with
      | error e => exact ⟨_, _, _, rfl, .deleted hcall .nil, .refused hid hmarked⟩
      | ok _ =>
        obtain ⟨result, events, s', hrun, hperforms, hdeletes⟩ := ih (c.id :: deleted) s₁
        exact ⟨result, _, s', hrun, .deleted hcall hperforms, .delete hid hmarked hdeletes⟩
    · have hcond : ¬(!deleted.contains c.id && c.isMarked marker) = true := by simpa using hc
      obtain ⟨result, events, s', hrun, hperforms, hdeletes⟩ := ih deleted s
      refine ⟨result, events, s', ?_, hperforms, .skip hc hdeletes⟩
      unfold deleteListed
      rw [if_neg hcond]
      exact hrun

theorem deleteMarked_performs (listings page : Nat) (deleted : List UInt64) (s : σ) :
    ∃ outcome events s', (deleteMarked host marker listings page deleted).run s = (outcome, s') ∧
      host.Performs s events s' ∧ Clears marker listings page deleted events outcome := by
  induction listings generalizing page deleted s with
  | zero => exact ⟨.unfinished, [], s, rfl, .nil, .unfinished⟩
  | succ listings ih =>
    rcases hcall : (host.list page).run s with ⟨answer, s₁⟩
    unfold deleteMarked
    rw [run_bind_of_eq hcall]
    cases answer with
    | error e => exact ⟨_, _, _, rfl, .listed hcall .nil, .refused⟩
    | ok listing =>
      obtain ⟨result, events, s₂, hrun, hperforms, hdeletes⟩ :=
        deleteListed_performs host marker listing.comments deleted s₁
      simp only [run_bind_of_eq hrun]
      cases result with
      | error e => exact ⟨_, _, _, rfl, .listed hcall hperforms, .stuck hdeletes⟩
      | ok now =>
        simp only
        by_cases hlength : now.length ≠ deleted.length
        · obtain ⟨outcome, rest, s', hrest, hmore, hclears⟩ := ih page now s₂
          rw [if_pos hlength, hrest]
          exact ⟨outcome, _, s', rfl, .listed hcall (hperforms.append hmore),
            .again hdeletes hlength hclears⟩
        · rw [if_neg hlength]
          cases hnext : listing.hasNext with
          | false =>
            exact ⟨_, _, s₂, rfl, .listed hcall hperforms,
              .done hdeletes (not_not.mp hlength) hnext⟩
          | true =>
            obtain ⟨outcome, rest, s', hrest, hmore, hclears⟩ := ih (page + 1) now s₂
            rw [if_pos rfl, hrest]
            exact ⟨outcome, _, s', rfl, .listed hcall (hperforms.append hmore),
              .next hdeletes (not_not.mp hlength) hnext hclears⟩

/-- The batch does not depend on what its warning does to the host. -/
theorem build_performs (diagnostics : List Diagnostic) (added : AddedLines)
    (analysisRoot cwd identifier : String) (s : σ) :
    ∃ s', (Batch.build host.warn diagnostics added analysisRoot cwd identifier).run s =
        (Batch.ofDiagnostics diagnostics added analysisRoot cwd identifier, s') ∧
      host.Performs s [] s' := by
  rw [build_eq]
  unfold Batch.warnings
  split
  · rcases hwarn : (host.warn truncationWarning).run s with ⟨_, s'⟩
    have hlog : ([truncationWarning].forM host.warn).run s = ((), s') := run_bind_of_eq hwarn
    exact ⟨s', run_bind_of_eq hlog, .warned hwarn .nil⟩
  · exact ⟨s, rfl, .nil⟩

/-- The call that creates the comments is left out if there are none. -/
theorem post_performs (deleted : Nat) (batch : Batch) (s : σ) :
    (batch.comments = [] ∧ (post host marker deleted batch).run s =
      (.done ⟨deleted, 0, batch.truncated⟩, s)) ∨
    (∃ s', batch.comments ≠ [] ∧ host.Performs s [.created batch marker (.ok ())] s' ∧
      (post host marker deleted batch).run s =
        (.done ⟨deleted, batch.comments.length, batch.truncated⟩, s')) ∨
    ∃ e s', batch.comments ≠ [] ∧ host.Performs s [.created batch marker (.error e)] s' ∧
      (post host marker deleted batch).run s = (.failed (.call e), s') := by
  unfold post
  by_cases hempty : batch.comments = []
  · exact .inl ⟨hempty, by rw [hempty]; rfl⟩
  · refine .inr ?_
    rcases hcall : (host.create batch marker).run s with ⟨answer, s'⟩
    have hcond : ¬batch.comments.isEmpty = true := by simpa using hempty
    simp only [if_neg hcond, run_bind_of_eq hcall]
    cases answer with
    | ok _ => exact .inl ⟨s', hempty, .created hcall .nil, rfl⟩
    | error e => exact .inr ⟨e, s', hempty, .created hcall .nil, rfl⟩

/-- A run with the batch that its diagnostics have. -/
theorem publishFrom_performs (listings : Nat) (diagnostics : List Diagnostic)
    (analysisRoot : String) (directory : Except String String) (identifier : String) (s : σ) :
    ∃ outcome events s',
      (publishFrom host listings diagnostics analysisRoot (pure directory) identifier).run s =
          (outcome, s') ∧
        host.Performs s events s' ∧
        Publishes (Review.marker identifier)
          (fun added => directory.map
            (Batch.ofDiagnostics diagnostics added analysisRoot · identifier))
          listings events outcome := by
  obtain ⟨cleared, events, s₁, hrun, hperforms, hclears⟩ :=
    deleteMarked_performs host (Review.marker identifier) listings 1 [] s
  unfold publishFrom
  rw [run_bind_of_eq hrun]
  cases cleared with
  | failed e => exact ⟨_, _, s₁, rfl, hperforms, .uncleared hclears⟩
  | unfinished => exact ⟨_, _, s₁, rfl, hperforms, .unfinished hclears⟩
  | done deleted =>
    rcases hcall : host.diff.run s₁ with ⟨answer, s₂⟩
    have hfetched : ∀ {rest s'}, host.Performs s₂ rest s' →
        host.Performs s (events ++ .fetched answer :: rest) s' :=
      fun hrest => hperforms.append (.fetched hcall hrest)
    simp only [run_bind_of_eq hcall]
    cases answer with
    | error e => exact ⟨_, _, s₂, rfl, hfetched .nil, .unfetched hclears⟩
    | ok diff =>
      simp only
      cases hadded : UnifiedDiff.addedLines diff with
      | error e => exact ⟨_, _, s₂, rfl, hfetched .nil, .malformed hclears hadded⟩
      | ok added =>
        simp only [pure_bind]
        cases directory with
        | error reason => exact ⟨_, _, s₂, rfl, hfetched .nil, .lost hclears hadded rfl⟩
        | ok cwd =>
          obtain ⟨s₃, hbuild, hwarned⟩ :=
            build_performs host diagnostics added analysisRoot cwd identifier s₂
          simp only [run_bind_of_eq hbuild]
          rcases post_performs host (Review.marker identifier) deleted
              (Batch.ofDiagnostics diagnostics added analysisRoot cwd identifier) s₃ with
            ⟨hempty, hpost⟩ | ⟨s', hne, hcreated, hpost⟩ | ⟨e, s', hne, hcreated, hpost⟩
          · exact ⟨_, _, s₃, hpost, hfetched hwarned, .empty hclears hadded rfl hempty⟩
          · exact ⟨_, _, s', hpost, hfetched (hwarned.append hcreated),
              .posted hclears hadded rfl hne⟩
          · exact ⟨_, _, s', hpost, hfetched (hwarned.append hcreated),
              .refused hclears hadded rfl hne⟩

end

/-! ## Runs against an oracle -/

section

variable (o : Oracle) (marker : String)

/-- An oracle keeps just the calls. -/
theorem Oracle.eq_append {o : Oracle} {past past' events : List Event}
    (h : o.host.Performs past events past') : past' = past ++ events := by
  induction h with
  | nil => exact (List.append_nil _).symm
  | warned hcall _ ih =>
    cases hcall
    exact ih
  | listed hcall _ ih | deleted hcall _ ih | fetched hcall _ ih | created hcall _ ih =>
    cases hcall
    rw [ih, List.append_assoc]
    rfl

theorem deleteMarked_run (listings page : Nat) (deleted : List UInt64) (past : List Event) :
    ∃ outcome events,
      (deleteMarked o.host marker listings page deleted).run past = (outcome, past ++ events) ∧
        Clears marker listings page deleted events outcome := by
  obtain ⟨outcome, events, past', hrun, hperforms, hclears⟩ :=
    deleteMarked_performs o.host marker listings page deleted past
  rw [Oracle.eq_append hperforms] at hrun
  exact ⟨outcome, events, hrun, hclears⟩

theorem publish_run (listings : Nat) (diagnostics : List Diagnostic)
    (analysisRoot cwd identifier : String) :
    ∃ outcome events,
      (publish o.host listings diagnostics analysisRoot cwd identifier).run [] =
          (outcome, events) ∧
        Publishes (Review.marker identifier)
          (fun added => .ok (Batch.ofDiagnostics diagnostics added analysisRoot cwd identifier))
          listings events outcome := by
  obtain ⟨outcome, events, past', hrun, hperforms, hpublishes⟩ :=
    publishFrom_performs o.host listings diagnostics analysisRoot (.ok cwd) identifier []
  rw [Oracle.eq_append hperforms] at hrun
  exact ⟨outcome, events, hrun, hpublishes⟩

end

/-! ## More listings -/

/-- A listing phase that has ended does not depend on how many more listings were allowed. -/
theorem deleteMarked_run_add {σ : Type} {host : Host (StateM σ)} {marker : String}
    {listings page : Nat} {deleted : List UInt64} {s s' : σ} {outcome : Outcome Nat} (more : Nat)
    (hrun : (deleteMarked host marker listings page deleted).run s = (outcome, s'))
    (hreturns : outcome ≠ .unfinished) :
    (deleteMarked host marker (listings + more) page deleted).run s = (outcome, s') := by
  induction listings generalizing page deleted s with
  | zero =>
    cases hrun
    exact absurd rfl hreturns
  | succ listings ih =>
    rw [Nat.add_right_comm]
    unfold deleteMarked at hrun ⊢
    rcases hlist : (host.list page).run s with ⟨answer, s₁⟩
    rw [run_bind_of_eq hlist] at hrun ⊢
    cases answer with
    | error e => exact hrun
    | ok listing =>
      rcases hdelete : (deleteListed host marker listing.comments deleted).run s₁ with ⟨result, s₂⟩
      simp only [run_bind_of_eq hdelete] at hrun ⊢
      cases result with
      | error e => exact hrun
      | ok now =>
        simp only at hrun ⊢
        split
        · next hne =>
          rw [if_pos hne] at hrun
          exact ih hrun
        · next heq =>
          rw [if_neg heq] at hrun
          split
          · next hnext =>
            rw [if_pos hnext] at hrun
            exact ih hrun
          · next hlast =>
            rw [if_neg hlast] at hrun
            exact hrun

/-- A run that has ended does not depend on how many more listings were allowed. -/
theorem publish_run_add {σ : Type} {host : Host (StateM σ)} {listings : Nat}
    {diagnostics : List Diagnostic} {analysisRoot cwd identifier : String} {s s' : σ}
    {outcome : Outcome Report} (more : Nat)
    (hrun : (publish host listings diagnostics analysisRoot cwd identifier).run s = (outcome, s'))
    (hreturns : outcome ≠ .unfinished) :
    (publish host (listings + more) diagnostics analysisRoot cwd identifier).run s =
      (outcome, s') := by
  rcases hclear : (deleteMarked host (marker identifier) listings 1 []).run s with ⟨cleared, s₁⟩
  unfold publish publishFrom at hrun ⊢
  rw [run_bind_of_eq hclear] at hrun
  have hcleared : cleared ≠ .unfinished := by
    rintro rfl
    cases hrun
    exact hreturns rfl
  rw [run_bind_of_eq (deleteMarked_run_add more hclear hcleared)]
  exact hrun

end LintReview.Review

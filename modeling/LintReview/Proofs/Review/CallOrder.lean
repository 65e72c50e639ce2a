import LintReview.Proofs.Review.Trace

/-! The order of the calls of a run. `Calls` is the shape of a trace: groups of one listing and its
deletions, then what was fetched and what was created. `Orderly` says which calls may follow which,
and what the run answers. **Whatever the host answers, the calls of a run that ends are orderly**
(`publish_orderly`). -/

namespace LintReview.Review

/-- The error of a call that has failed. -/
def Event.error? : Event → Option CallError
  | .listed _ (.error e) | .deleted _ (.error e) | .fetched (.error e) | .created _ _ (.error e) =>
    some e
  | _ => none

/-- A comment has been deleted. -/
def Event.isDeletion : Event → Bool
  | .deleted _ (.ok _) => true
  | _ => false

/-! ## The shape of a trace -/

/-- A listing and the deletions that follow it. -/
structure Group where
  page : Nat
  answer : Except CallError Page
  deletions : List (UInt64 × Except CallError Unit)

def Group.events (g : Group) : List Event :=
  .listed g.page g.answer :: g.deletions.map fun d => .deleted d.1 d.2

/-- The page of the next group stays the same after deletions, which move later comments up. -/
def Group.Follows (g next : Group) : Prop :=
  next.page = if g.deletions = [] then g.page + 1 else g.page

/-- Nothing is deleted after the listing, and no page comes after it. -/
def Group.IsFinal (g : Group) : Prop :=
  g.deletions = [] ∧ ∃ listing, g.answer = .ok listing ∧ listing.hasNext = false

/-- The calls of a run. -/
structure Calls where
  groups : List Group
  fetched : Option (Except CallError String)
  created : Option (Batch × String × Except CallError Unit)

def Calls.events (calls : Calls) : List Event :=
  calls.groups.flatMap Group.events ++ (calls.fetched.map .fetched).toList ++
    (calls.created.map fun c => .created c.1 c.2.1 c.2.2).toList

/-- The diff has been fetched, and this is what its added lines are. -/
def Calls.Maps (calls : Calls) (added : Except DiffError AddedLines) : Prop :=
  ∃ diff, calls.fetched = some (.ok diff) ∧ UnifiedDiff.addedLines diff = added

/-- A call that fails is the last one, and the run ends with its error. -/
def EndsOnFailure (events : List Event) (outcome : Outcome Report) : Prop :=
  ∀ before event after e, events = before ++ event :: after → event.error? = some e →
    after = [] ∧ outcome = .failed (.call e)

/-- The rules for the listings: they start on the first page, each group follows the one before it,
and the diff is fetched after the final group only. -/
structure Calls.Paged (calls : Calls) : Prop where
  listed : ∃ first ∈ calls.groups.head?, first.page = 1
  follows : calls.groups.IsChain Group.Follows
  fetched : calls.fetched ≠ none → ∃ last ∈ calls.groups.getLast?, last.IsFinal

/-- The rules for the calls of a run that has these batches, and for what it answers. -/
structure Calls.Orderly (calls : Calls) (marker : String) (batch : AddedLines → Batch)
    (outcome : Outcome Report) : Prop extends calls.Paged where
  created : ∀ posted tag answer, calls.created = some (posted, tag, answer) →
    tag = marker ∧ ∃ added, calls.Maps (.ok added) ∧ posted = batch added
  created_iff : ∀ added, calls.Maps (.ok added) →
    (calls.created ≠ none ↔ (batch added).comments ≠ [])
  failure : EndsOnFailure calls.events outcome
  malformed : ∀ e, calls.Maps (.error e) → calls.created = none ∧ outcome = .failed (.diff e)
  failed : ∀ e, outcome = .failed e →
    (∃ event ∈ calls.events, event.error?.map .call = some e) ∨
      ∃ e', calls.Maps (.error e') ∧ e = .diff e'
  done : ∀ report, outcome = .done report →
    report.deleted = calls.events.countP Event.isDeletion ∧
      report.posted = (calls.created.map (·.1.comments.length)).getD 0 ∧
      ∃ added, calls.Maps (.ok added) ∧ report.truncated = (batch added).truncated

/-! ## Failures -/

/-- No call has failed. -/
def Quiet (events : List Event) : Prop :=
  ∀ event ∈ events, event.error? = none

/-- The last call has failed, and no other one. -/
def FailsLast (events : List Event) (e : CallError) : Prop :=
  ∃ before event, events = before ++ [event] ∧ Quiet before ∧ event.error? = some e

section

variable {events events' : List Event} {event : Event} {outcome : Outcome Report} {e : CallError}

theorem Quiet.nil : Quiet [] := fun _ h => nomatch h

theorem Quiet.cons (hevent : event.error? = none) (h : Quiet events) : Quiet (event :: events) := by
  intro other hother
  rcases List.mem_cons.mp hother with rfl | hother
  · exact hevent
  · exact h other hother

theorem Quiet.append (h : Quiet events) (h' : Quiet events') : Quiet (events ++ events') := by
  intro event hevent
  rcases List.mem_append.mp hevent with hevent | hevent
  · exact h event hevent
  · exact h' event hevent

theorem Quiet.endsOnFailure (h : Quiet events) : EndsOnFailure events outcome := by
  intro before event after e hevents herror
  have hnone : event.error? = none := h event (by simp [hevents])
  rw [herror] at hnone
  cases hnone

theorem Quiet.failsLast (h : Quiet events) (hevent : event.error? = some e) :
    FailsLast (events ++ [event]) e :=
  ⟨events, event, rfl, h, hevent⟩

theorem FailsLast.append_left (h : Quiet events) (h' : FailsLast events' e) :
    FailsLast (events ++ events') e := by
  obtain ⟨before, event, rfl, hquiet, hevent⟩ := h'
  exact ⟨events ++ before, event, (List.append_assoc ..).symm, h.append hquiet, hevent⟩

theorem FailsLast.endsOnFailure (h : FailsLast events e) :
    EndsOnFailure events (.failed (.call e)) := by
  obtain ⟨init, last, rfl, hquiet, hlast⟩ := h
  intro before event after e' hevents herror
  rcases List.eq_nil_or_concat after with rfl | ⟨after, final, rfl⟩
  · obtain ⟨-, heq⟩ := List.append_inj' hevents rfl
    cases heq
    rw [hlast] at herror
    cases herror
    exact ⟨rfl, rfl⟩
  · -- An event before the last one is among those that have not failed.
    have hinit : init = before ++ event :: after := by
      have hsplit : before ++ event :: (after ++ [final]) =
          (before ++ event :: after) ++ [final] := by simp
      rw [List.concat_eq_append, hsplit] at hevents
      exact List.append_inj_left' hevents rfl
    have hnone : event.error? = none := hquiet event (by simp [hinit])
    rw [herror] at hnone
    cases hnone

theorem FailsLast.exists_mem {e' : PublishError} (h : FailsLast events e)
    (hfailed : (.failed (.call e) : Outcome Report) = .failed e') :
    ∃ event ∈ events, event.error?.map .call = some e' := by
  obtain ⟨before, event, rfl, -, hevent⟩ := h
  cases hfailed
  exact ⟨event, by simp, by rw [hevent]; rfl⟩

end

/-! ## The groups -/

section

variable {marker : String} {cs : List Posted} {deleted now : List UInt64} {events : List Event}
  {e : CallError} {result : Except CallError (List UInt64)} {listings page : Nat}
  {outcome : Outcome Nat}

theorem Deletes.exists_deletions (h : Deletes marker cs deleted events result) :
    ∃ deletions : List (UInt64 × Except CallError Unit),
      events = deletions.map fun d => .deleted d.1 d.2 := by
  induction h with
  | nil => exact ⟨[], rfl⟩
  | skip _ _ ih => exact ih
  | @delete _ _ _ _ c _ _ _ ih =>
    obtain ⟨deletions, rfl⟩ := ih
    exact ⟨(c.id, .ok ()) :: deletions, rfl⟩
  | @refused _ c _ e => exact ⟨[(c.id, .error e)], rfl⟩

theorem Deletes.ok_spec (h : Deletes marker cs deleted events result) (hok : result = .ok now) :
    Quiet events ∧ events.countP Event.isDeletion = events.length ∧
      now.length = deleted.length + events.length := by
  induction h with
  | nil => cases hok; exact ⟨.nil, rfl, rfl⟩
  | skip _ _ ih => exact ih hok
  | delete _ _ _ ih =>
    obtain ⟨hquiet, hcount, hlength⟩ := ih hok
    refine ⟨hquiet.cons rfl, by simp [List.countP_cons, hcount, Event.isDeletion], ?_⟩
    simp only [hlength, List.length_cons]
    omega
  | refused => cases hok

theorem Deletes.error_spec (h : Deletes marker cs deleted events result)
    (herror : result = .error e) : FailsLast events e := by
  induction h with
  | nil => cases herror
  | skip _ _ ih => exact ih herror
  | @delete _ _ _ _ c _ _ _ ih =>
    have hcall : Quiet [.deleted c.id (.ok ())] := Quiet.nil.cons rfl
    exact (ih herror).append_left hcall
  | refused => cases herror; exact Quiet.nil.failsLast rfl

/-- The listings come in groups, and unless a call has failed the last group is the final one. -/
theorem Clears.exists_groups (h : Clears marker listings page deleted events outcome)
    (hreturns : outcome ≠ .unfinished) :
    ∃ first rest, events = (first :: rest).flatMap Group.events ∧ first.page = page ∧
      (first :: rest).IsChain Group.Follows ∧
      ∀ n, outcome = .done n → ((first :: rest).getLast (by simp)).IsFinal := by
  induction h with
  | unfinished => exact absurd rfl hreturns
  | @refused _ page _ e =>
    exact ⟨⟨page, .error e, []⟩, [], rfl, rfl, .singleton _, fun n hn => nomatch hn⟩
  | @stuck _ _ _ _ page listing hdeletes =>
    obtain ⟨deletions, rfl⟩ := hdeletes.exists_deletions
    exact ⟨⟨page, .ok listing, deletions⟩, [], by simp [Group.events], rfl, .singleton _,
      fun n hn => nomatch hn⟩
  | @again deleted events now _ page _ _ listing hdeletes hne _ ih =>
    obtain ⟨-, -, hlength⟩ := hdeletes.ok_spec rfl
    obtain ⟨deletions, rfl⟩ := hdeletes.exists_deletions
    obtain ⟨first, rest, rfl, hpage, hchain, hfinal⟩ := ih hreturns
    have hdeletions : deletions ≠ [] := by
      rintro rfl
      exact hne hlength
    refine ⟨⟨page, .ok listing, deletions⟩, first :: rest, rfl, rfl, ?_, fun n hn => ?_⟩
    · exact .cons_cons (by simp [Group.Follows, hpage, hdeletions]) hchain
    · simpa using hfinal n hn
  | @next deleted events now _ page _ _ listing hdeletes heq _ _ ih =>
    obtain ⟨-, -, hlength⟩ := hdeletes.ok_spec rfl
    have hevents : events = [] := List.eq_nil_of_length_eq_zero (by omega)
    obtain ⟨first, rest, rfl, hpage, hchain, hfinal⟩ := ih hreturns
    refine ⟨⟨page, .ok listing, []⟩, first :: rest, by rw [hevents]; rfl, rfl, ?_, fun n hn => ?_⟩
    · exact .cons_cons (by simp [Group.Follows, hpage]) hchain
    · simpa using hfinal n hn
  | @done deleted events now _ page listing hdeletes heq hlast =>
    obtain ⟨-, -, hlength⟩ := hdeletes.ok_spec rfl
    have hevents : events = [] := List.eq_nil_of_length_eq_zero (by omega)
    exact ⟨⟨page, .ok listing, []⟩, [], by rw [hevents]; rfl, rfl, .singleton _,
      fun _ _ => ⟨rfl, listing, rfl, hlast⟩⟩

theorem Clears.done_spec {n : Nat} (h : Clears marker listings page deleted events outcome)
    (hdone : outcome = .done n) :
    Quiet events ∧ n = deleted.length + events.countP Event.isDeletion := by
  induction h with
  | unfinished => cases hdone
  | refused => cases hdone
  | stuck => cases hdone
  | again hdeletes _ _ ih | next hdeletes _ _ _ ih =>
    obtain ⟨hquiet, hcount, hlength⟩ := hdeletes.ok_spec rfl
    obtain ⟨hrest, hn⟩ := ih hdone
    refine ⟨(hquiet.append hrest).cons rfl, ?_⟩
    simp [hn, hlength, hcount, Event.isDeletion]
    omega
  | done hdeletes =>
    obtain ⟨hquiet, hcount, hlength⟩ := hdeletes.ok_spec rfl
    cases hdone
    refine ⟨hquiet.cons rfl, ?_⟩
    simp [hlength, hcount, Event.isDeletion]

theorem Clears.failed_spec {e : PublishError}
    (h : Clears marker listings page deleted events outcome) (hfailed : outcome = .failed e) :
    ∃ cause, e = .call cause ∧ FailsLast events cause := by
  induction h with
  | unfinished => cases hfailed
  | @refused _ page _ cause =>
    cases hfailed
    exact ⟨cause, rfl, Quiet.nil.failsLast rfl⟩
  | @stuck _ _ cause _ page listing hdeletes =>
    cases hfailed
    have hcall : Quiet [.listed page (.ok listing)] := Quiet.nil.cons rfl
    exact ⟨cause, rfl, (hdeletes.error_spec rfl).append_left hcall⟩
  | again hdeletes _ _ ih | next hdeletes _ _ _ ih =>
    obtain ⟨cause, hcause, hfails⟩ := ih hfailed
    obtain ⟨hquiet, -⟩ := hdeletes.ok_spec rfl
    refine ⟨cause, hcause, ?_⟩
    rw [← List.cons_append]
    exact hfails.append_left (hquiet.cons rfl)
  | done => cases hfailed

end

/-! ## The whole run -/

section

variable {marker : String} {batch : AddedLines → Batch} {listings : Nat} {events : List Event}
  {outcome : Outcome Report}

@[simp] theorem Calls.not_maps_none (groups : List Group)
    (created : Option (Batch × String × Except CallError Unit))
    (added : Except DiffError AddedLines) :
    ¬Calls.Maps ⟨groups, none, created⟩ added := by
  simp [Calls.Maps]

@[simp] theorem Calls.not_maps_error (groups : List Group) (e : CallError)
    (created : Option (Batch × String × Except CallError Unit))
    (added : Except DiffError AddedLines) :
    ¬Calls.Maps ⟨groups, some (.error e), created⟩ added := by
  simp [Calls.Maps]

@[simp] theorem Calls.maps_ok_iff (groups : List Group) (diff : String)
    (created : Option (Batch × String × Except CallError Unit))
    (added : Except DiffError AddedLines) :
    Calls.Maps ⟨groups, some (.ok diff), created⟩ added ↔
      UnifiedDiff.addedLines diff = added := by
  simp [Calls.Maps]

/-- The listings of a run are paged, and so is a run that goes on after they are done. -/
theorem Clears.exists_paged {cleared : Outcome Nat} (h : Clears marker listings 1 [] events cleared)
    (hreturns : cleared ≠ .unfinished) :
    ∃ groups : List Group, events = groups.flatMap Group.events ∧
      Calls.Paged ⟨groups, none, none⟩ ∧
      ∀ n, cleared = .done n → ∀ fetched created, Calls.Paged ⟨groups, fetched, created⟩ := by
  obtain ⟨first, rest, hevents, hpage, hchain, hfinal⟩ := h.exists_groups hreturns
  refine ⟨first :: rest, hevents, ⟨⟨first, rfl, hpage⟩, hchain, fun h => absurd rfl h⟩, ?_⟩
  intro n hn fetched created
  exact ⟨⟨first, rfl, hpage⟩, hchain, fun _ => ⟨_, List.getLast?_eq_some_getLast _, hfinal n hn⟩⟩

/-- A run whose last call has failed. The created comments have to be in order all the same. -/
theorem Calls.Orderly.of_failsLast {calls : Calls} {e : CallError} (hpaged : calls.Paged)
    (hfails : FailsLast calls.events e) (hmaps : ∀ e', ¬calls.Maps (.error e'))
    (hcreated : ∀ posted tag answer, calls.created = some (posted, tag, answer) →
      tag = marker ∧ ∃ added, calls.Maps (.ok added) ∧ posted = batch added)
    (hiff : ∀ added, calls.Maps (.ok added) →
      (calls.created ≠ none ↔ (batch added).comments ≠ [])) :
    calls.Orderly marker batch (.failed (.call e)) where
  toPaged := hpaged
  created := hcreated
  created_iff := hiff
  failure := hfails.endsOnFailure
  malformed e' h := absurd h (hmaps e')
  failed _ hfailed := .inl (hfails.exists_mem hfailed)
  done _ h := nomatch h

theorem Publishes.exists_calls
    (h : Publishes marker (fun added => .ok (batch added)) listings events outcome)
    (hreturns : outcome ≠ .unfinished) :
    ∃ calls : Calls, calls.events = events ∧ calls.Orderly marker batch outcome := by
  cases h with
  | unfinished => exact absurd rfl hreturns
  | @uncleared _ e hclears =>
    obtain ⟨groups, rfl, hpaged, -⟩ := hclears.exists_paged (by simp)
    obtain ⟨cause, rfl, hfails⟩ := hclears.failed_spec rfl
    have hevents : Calls.events ⟨groups, none, none⟩ = groups.flatMap Group.events := by
      simp [Calls.events]
    rw [← hevents] at hfails
    refine ⟨⟨groups, none, none⟩, hevents, .of_failsLast hpaged hfails ?_ ?_ ?_⟩
    all_goals simp
  | @unfetched _ deleted e hclears =>
    obtain ⟨groups, rfl, -, hpaged⟩ := hclears.exists_paged (by simp)
    obtain ⟨hquiet, -⟩ := hclears.done_spec rfl
    have hevents : Calls.events ⟨groups, some (.error e), none⟩ =
        groups.flatMap Group.events ++ [.fetched (.error e)] := by
      simp [Calls.events]
    have hfails : FailsLast (groups.flatMap Group.events ++ [.fetched (.error e)]) e :=
      hquiet.failsLast rfl
    rw [← hevents] at hfails
    refine ⟨⟨groups, some (.error e), none⟩, hevents,
      .of_failsLast (hpaged _ rfl _ _) hfails ?_ ?_ ?_⟩
    all_goals simp
  | @malformed _ deleted diff e hclears hdiff =>
    obtain ⟨groups, rfl, -, hpaged⟩ := hclears.exists_paged (by simp)
    obtain ⟨hquiet, -⟩ := hclears.done_spec rfl
    have hevents : Calls.events ⟨groups, some (.ok diff), none⟩ =
        groups.flatMap Group.events ++ [.fetched (.ok diff)] := by
      simp [Calls.events]
    have hquiet : Quiet (groups.flatMap Group.events ++ [.fetched (.ok diff)]) :=
      hquiet.append (Quiet.nil.cons rfl)
    rw [← hevents] at hquiet
    refine ⟨⟨groups, some (.ok diff), none⟩, hevents, hpaged _ rfl _ _, ?_, ?_,
      hquiet.endsOnFailure, ?_, ?_, ?_⟩
    all_goals simp [hdiff, eq_comm]
  | lost _ _ hbatch => cases hbatch
  | @empty _ deleted diff added _ hclears hdiff hbatch hempty =>
    cases hbatch
    obtain ⟨groups, rfl, -, hpaged⟩ := hclears.exists_paged (by simp)
    obtain ⟨hquiet, hdeleted⟩ := hclears.done_spec rfl
    have hevents : Calls.events ⟨groups, some (.ok diff), none⟩ =
        groups.flatMap Group.events ++ [.fetched (.ok diff)] := by
      simp [Calls.events]
    have hquiet : Quiet (groups.flatMap Group.events ++ [.fetched (.ok diff)]) :=
      hquiet.append (Quiet.nil.cons rfl)
    rw [← hevents] at hquiet
    refine ⟨⟨groups, some (.ok diff), none⟩, hevents, hpaged _ rfl _ _, ?_, ?_,
      hquiet.endsOnFailure, ?_, ?_, ?_⟩
    all_goals simp [hdiff, hempty, hevents, hdeleted, Event.isDeletion]
  | @refused _ deleted diff added _ e hclears hdiff hbatch hne =>
    cases hbatch
    obtain ⟨groups, rfl, -, hpaged⟩ := hclears.exists_paged (by simp)
    obtain ⟨hquiet, -⟩ := hclears.done_spec rfl
    have hevents : Calls.events ⟨groups, some (.ok diff), some (batch added, marker, .error e)⟩ =
        groups.flatMap Group.events ++
          [.fetched (.ok diff), .created (batch added) marker (.error e)] := by
      simp [Calls.events]
    have hfetched : Quiet [.fetched (.ok diff)] := Quiet.nil.cons rfl
    have hcreated : FailsLast [.fetched (.ok diff), .created (batch added) marker (.error e)] e :=
      hfetched.failsLast rfl
    have hfails := hcreated.append_left hquiet
    rw [← hevents] at hfails
    refine ⟨⟨groups, some (.ok diff), some (batch added, marker, .error e)⟩, hevents,
      .of_failsLast (hpaged _ rfl _ _) hfails ?_ ?_ ?_⟩
    all_goals simp [hdiff, hne]
  | @posted _ deleted diff added _ hclears hdiff hbatch hne =>
    cases hbatch
    obtain ⟨groups, rfl, -, hpaged⟩ := hclears.exists_paged (by simp)
    obtain ⟨hquiet, hdeleted⟩ := hclears.done_spec rfl
    have hevents : Calls.events ⟨groups, some (.ok diff), some (batch added, marker, .ok ())⟩ =
        groups.flatMap Group.events ++
          [.fetched (.ok diff), .created (batch added) marker (.ok ())] := by
      simp [Calls.events]
    have hquiet : Quiet (groups.flatMap Group.events ++
        [.fetched (.ok diff), .created (batch added) marker (.ok ())]) :=
      hquiet.append ((Quiet.nil.cons rfl).cons rfl)
    rw [← hevents] at hquiet
    refine ⟨⟨groups, some (.ok diff), some (batch added, marker, .ok ())⟩, hevents,
      hpaged _ rfl _ _, ?_, ?_, hquiet.endsOnFailure, ?_, ?_, ?_⟩
    all_goals simp [hdiff, hne, hevents, hdeleted, Event.isDeletion]

end

/-- **The calls of a run that ends are orderly**, whatever the host answers to them. -/
theorem publish_orderly (o : Oracle) (listings : Nat) (diagnostics : List Diagnostic)
    (analysisRoot cwd identifier : String) {outcome : Outcome Report} {events : List Event}
    (hrun : (publish o.host listings diagnostics analysisRoot cwd identifier).run [] =
      (outcome, events))
    (hreturns : outcome ≠ .unfinished) :
    ∃ calls : Calls, calls.events = events ∧
      calls.Orderly (marker identifier)
        (Batch.ofDiagnostics diagnostics · analysisRoot cwd identifier) outcome := by
  obtain ⟨outcome', events', hrun', hpublishes⟩ :=
    publish_run o listings diagnostics analysisRoot cwd identifier
  cases hrun.symm.trans hrun'
  exact hpublishes.exists_calls hreturns

/-- A host with one marked comment, which is listed before any call and never again. -/
def onceMarked : Oracle where
  list past _ := .ok ⟨if past.isEmpty then [⟨7, some (marker "lint")⟩] else [], false⟩
  delete _ _ := .ok ()
  diff _ := .ok "+++ b/a\n@@ -0,0 +1 @@\n+x\n"
  create _ _ _ := .ok ()

/-- Its comment is deleted, and one is created for a diagnostic on the added line. -/
theorem publish_orderly_onceMarked :
    let run :=
      (publish onceMarked.host 2 [{ path := some "a", line := some 1 }] "." "/" "lint").run []
    run.1 = .done ⟨1, 1, false⟩ ∧ run.1 ≠ .unfinished ∧
      ∃ calls : Calls, calls.events = run.2 ∧
        calls.Orderly (marker "lint")
          (Batch.ofDiagnostics [{ path := some "a", line := some 1 }] · "." "/" "lint") run.1 := by
  intro run
  have hreturns : run.1 ≠ .unfinished := by decide
  exact ⟨by decide, hreturns, publish_orderly onceMarked 2 _ _ _ _ rfl hreturns⟩

end LintReview.Review

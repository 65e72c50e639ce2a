import LintReview.Proofs.Review.Attempts
import LintReview.Proofs.Review.Propagation
import Mathlib.Data.List.Induction

/-! Repeated calls do not show. The run of `publish` without failures and the one with failures go
`Abreast`, call by call, until one call is exhausted. **Fewer failures than a call may make attempts
change neither the outcome nor the host, and the first call that meets as many ends the run**
(`publish_retries`). An answer that cannot be read is not asked for again. -/

namespace LintReview.Review.Gh

section

variable {σ : Type} {r : Remote σ} {t : Target} {faults : Schedule} {random : List Run → UInt64}
  {i : Invocation}

/-! ## Listings that cannot be read -/

/-- A listing has succeeded, but is not a list of comments. -/
structure Target.Garbles (t : Target) (run : Run) : Prop where
  succeeded : run.succeeded = true
  listing : ∃ page, run.invocation = t.listing page
  unreadable : page? run.written.text = none

/-- A computation that adds to the past and stops at the first listing that cannot be read. -/
def Target.Stops {α : Type} (t : Target) (fail : CallError → α) (x : StateM (Scene σ) α) : Prop :=
  ∀ ⦃w a w'⦄, x.run w = (a, w') → ∃ new, w'.past = w.past ++ new ∧
    ((∀ run ∈ new, ¬t.Garbles run) ∨
      ∃ front run, new = front ++ [run] ∧ (∀ run ∈ front, ¬t.Garbles run) ∧ a = fail .unreadable)

theorem stops_pure {α : Type} (t : Target) (fail : CallError → α) (a : α) :
    t.Stops fail (pure a : StateM (Scene σ) α) := by
  rintro w _ _ ⟨⟩
  exact ⟨[], (List.append_nil w.past).symm, .inl fun _ h => nomatch h⟩

theorem Target.Stops.bind {α β : Type} {fail : CallError → α} {fail' : CallError → β}
    {x : StateM (Scene σ) α} {f : α → StateM (Scene σ) β} (hx : t.Stops fail x)
    (hf : ∀ a, t.Stops fail' (f a)) (hfail : ∀ e, f (fail e) = pure (fail' e)) :
    t.Stops fail' (x >>= f) := by
  intro w b w' h
  rcases hrun : x.run w with ⟨a, w₁⟩
  rw [run_bind_of_eq hrun] at h
  obtain ⟨new, hpast, hread | ⟨front, run, hnew, hfront, rfl⟩⟩ := hx hrun
  · obtain ⟨more, hmore, hstops⟩ := hf a h
    refine ⟨new ++ more, by rw [hmore, hpast, List.append_assoc], ?_⟩
    rcases hstops with hmore | ⟨front, run, rfl, hfront, hb⟩
    · exact .inl (List.forall_mem_append.mpr ⟨hread, hmore⟩)
    · exact .inr ⟨new ++ front, run, (List.append_assoc ..).symm,
        List.forall_mem_append.mpr ⟨hread, hfront⟩, hb⟩
  · rw [hfail] at h
    cases h
    exact ⟨new, hpast, .inr ⟨front, run, hnew, hfront, rfl⟩⟩

/-- Failing runs are not read. -/
theorem forall_not_garbles_failed (t : Target) (i : Invocation) (os : List Written) :
    ∀ run ∈ os.map (⟨i, false, ·⟩ : Written → Run), ¬t.Garbles run := by
  intro run hrun hgarbles
  obtain ⟨o, -, rfl⟩ := List.mem_map.mp hrun
  cases hgarbles.succeeded

theorem stops_call (what : String) (h : ∀ page, i ≠ t.listing page) :
    t.Stops .error (t.call (r.runner faults random) what i) := by
  intro w a w' hcall
  obtain ⟨os, w₁, ⟨e, hrun, hpast⟩ | ⟨o, hrun, hpast⟩⟩ := exists_call_run t r faults random what i w
  · cases hrun.symm.trans hcall
    exact ⟨_, hpast, .inl (forall_not_garbles_failed t i os)⟩
  · cases hrun.symm.trans hcall
    refine ⟨_, hpast, .inl (List.forall_mem_append.mpr
      ⟨forall_not_garbles_failed t i os, List.forall_mem_singleton.mpr fun hgarbles => ?_⟩)⟩
    obtain ⟨page, hpage⟩ := hgarbles.listing
    exact h page hpage

theorem stops_list (t : Target) (r : Remote σ) (faults : Schedule) (random : List Run → UInt64)
    (page : Nat) : t.Stops .error ((t.host (r.runner faults random)).list page) := by
  intro w a w' hlist
  obtain ⟨os, w₁, ⟨e, hrun, hpast⟩ | ⟨o, hrun, hpast⟩⟩ :=
    exists_call_run t r faults random "list review comments" (t.listing page) w
  · cases (run_bind_of_eq hrun).symm.trans hlist
    exact ⟨_, hpast, .inl (forall_not_garbles_failed t _ os)⟩
  · have hlist := (run_bind_of_eq hrun).symm.trans hlist
    dsimp only at hlist
    cases hpage : page? o.text with
    | some p =>
      rw [hpage] at hlist
      cases hlist
      refine ⟨_, hpast, .inl (List.forall_mem_append.mpr
        ⟨forall_not_garbles_failed t _ os, List.forall_mem_singleton.mpr fun hgarbles => ?_⟩)⟩
      cases hpage.symm.trans hgarbles.unreadable
    | none =>
      rw [hpage] at hlist
      cases hlist
      exact ⟨_, hpast, .inr ⟨_, _, rfl, forall_not_garbles_failed t _ os, rfl⟩⟩

theorem deletion_ne_listing (t : Target) (id : UInt64) (page : Nat) :
    t.deletion id ≠ t.listing page := by
  intro h
  simp [Target.deletion, Target.listing, apiArgs] at h

theorem review_ne_listing (t : Target) (batch : Batch) (marker : String) (page : Nat) :
    t.review batch marker ≠ t.listing page := by
  intro h
  simp [Target.review, Target.listing, apiArgs] at h

theorem fetch_ne_listing (t : Target) (page : Nat) : t.fetch ≠ t.listing page := by
  intro h
  simp [Target.fetch, Target.listing, apiArgs] at h

/-- To stop at the first listing that cannot be read, as a relation of a computation to itself. -/
def stopping (t : Target) : CallRelation (StateM (Scene σ)) where
  rel fail x _ := t.Stops fail x
  rel_pure := stops_pure t
  rel_bind hx hf hfail _ := hx.bind hf hfail

/-- An answer without its text. -/
theorem stops_call_discard (what : String) (h : ∀ page, i ≠ t.listing page) :
    t.Stops .error (do
      match ← t.call (r.runner faults random) what i with
      | .error e => pure (.error e)
      | .ok _ => pure (.ok ()) : StateM (Scene σ) (Except CallError Unit)) := by
  refine (stops_call what h).bind (fun answer => ?_) fun _ => rfl
  cases answer <;> exact stops_pure t _ _

theorem stopping_relates (t : Target) (r : Remote σ) (faults : Schedule)
    (random : List Run → UInt64) :
    (stopping t).Relates (t.host (r.runner faults random)) (t.host (r.runner faults random)) where
  list page := stops_list t r faults random page
  delete id := stops_call_discard _ (deletion_ne_listing t id)
  diff := stops_call _ (fetch_ne_listing t)
  create batch marker := stops_call_discard _ (review_ne_listing t batch marker)
  warn := rfl
  warn_other := rfl

/-! ## With failures and without -/

theorem disturbed_concat (faults : Schedule) (past : List Run) (run : Run) :
    disturbed faults (past ++ [run]) = disturbed faults past ++
      ((faults past.length).map (⟨run.invocation, false, ·⟩) ++ [run]) := by
  simp [disturbed, List.zipIdx_append]

/-- A scene with failures, and the same without any. No call has been exhausted. -/
structure Abreast (r : Remote σ) (t : Target) (faults : Schedule) (s : σ) (w clean : Scene σ) :
    Prop where
  state : w.state = clean.state
  clean_state : clean.state = r.after s clean.past
  clean_past : ∀ run ∈ clean.past, run.succeeded = true
  past : w.past = disturbed faults clean.past
  answered : w.answered = clean.past.length
  failed : w.failed = 0
  few : ∀ n < clean.past.length, (faults n).length < t.policy.attempts

/-- A scene in which a call has failed for the last time. Without failures the call comes after
`before`, and `after` comes after it. -/
structure Exhausted (r : Remote σ) (t : Target) (faults : Schedule) (s : σ) (o : Written)
    (before : List Run) (call : Run) (after : List Run) (w clean : Scene σ) : Prop where
  clean_past : clean.past = before ++ call :: after
  few : ∀ n < before.length, (faults n).length < t.policy.attempts
  last : (faults before.length)[t.policy.attempts - 1]? = some o
  state : w.state = r.after s before
  past : w.past = disturbed faults before ++
    ((faults before.length).take t.policy.attempts).map (⟨call.invocation, false, ·⟩)

/-- Two computations go abreast until a call is exhausted, which ends the one with failures. -/
structure Mirrors (r : Remote σ) (t : Target) (faults : Schedule) (s : σ) {α : Type}
    (fail : CallError → α) (x y : StateM (Scene σ) α) : Prop where
  prefix_past : ∀ ⦃clean b clean'⦄, y.run clean = (b, clean') → clean.past <+: clean'.past
  abreast : ∀ ⦃w clean a b w' clean'⦄, Abreast r t faults s w clean → x.run w = (a, w') →
    y.run clean = (b, clean') → (a = b ∧ Abreast r t faults s w' clean') ∨
      ∃ o before call after, a = fail o.error ∧
        Exhausted r t faults s o before call after w' clean'

variable {s : σ} {α β : Type} {fail : CallError → α} {fail' : CallError → β}
  {x y : StateM (Scene σ) α} {f g : α → StateM (Scene σ) β} {w clean clean' : Scene σ}

theorem mirrors_pure (fail : CallError → α) (a : α) :
    Mirrors r t faults s fail (pure a) (pure a) where
  prefix_past := by
    rintro clean _ _ ⟨⟩
    exact List.prefix_rfl
  abreast := by
    rintro w clean _ _ _ _ h ⟨⟩ ⟨⟩
    exact .inl ⟨rfl, h⟩

/-- The run without failures goes on after a call that has been exhausted. -/
theorem Exhausted.exists_after {o : Written} {before after : List Run} {call : Run}
    (h : Exhausted r t faults s o before call after w clean) (hpast : clean.past <+: clean'.past) :
    ∃ after, Exhausted r t faults s o before call after w clean' := by
  obtain ⟨more, hmore⟩ := hpast
  refine ⟨after ++ more, { h with clean_past := ?_ }⟩
  rw [← hmore, h.clean_past, List.append_assoc]
  rfl

theorem Mirrors.bind (h : Mirrors r t faults s fail x y)
    (hnext : ∀ a, Mirrors r t faults s fail' (f a) (g a))
    (hfail : ∀ e, f (fail e) = pure (fail' e)) :
    Mirrors r t faults s fail' (x >>= f) (y >>= g) where
  prefix_past := by
    intro clean b clean' hy
    rcases hfirst : y.run clean with ⟨b₁, clean₁⟩
    rw [run_bind_of_eq hfirst] at hy
    exact (h.prefix_past hfirst).trans ((hnext b₁).prefix_past hy)
  abreast := by
    intro w clean a b w' clean' habreast hx hy
    rcases hxfirst : x.run w with ⟨a₁, w₁⟩
    rcases hyfirst : y.run clean with ⟨b₁, clean₁⟩
    rw [run_bind_of_eq hxfirst] at hx
    rw [run_bind_of_eq hyfirst] at hy
    rcases h.abreast habreast hxfirst hyfirst with
      ⟨rfl, habreast⟩ | ⟨o, before, call, after, rfl, hexhausted⟩
    · exact (hnext a₁).abreast habreast hx hy
    · rw [hfail] at hx
      cases hx
      obtain ⟨after, hexhausted⟩ := hexhausted.exists_after ((hnext b₁).prefix_past hy)
      exact .inr ⟨o, before, call, after, rfl, hexhausted⟩

theorem call_run_clean (clean : Scene σ) (what : String) (i : Invocation) :
    (t.call (r.runner (fun _ => []) random) what i).run clean =
      (.ok (r.answer clean.state i).text, clean.succeed r i) := by
  have hahead : clean.ahead (fun _ => []) = [] := List.drop_nil
  have hlt : (clean.ahead fun _ => []).length < t.policy.attempts := by
    rw [hahead]
    exact attempts_pos t
  rw [call_run_of_lt r random what i hlt, hahead]
  rfl

theorem Abreast.succeed (h : Abreast r t faults s w clean) (i : Invocation)
    (hfew : (faults clean.past.length).length < t.policy.attempts) :
    Abreast r t faults s ((w.failAll i (faults clean.past.length)).succeed r i)
      (clean.succeed r i) := by
  rw [Scene.failAll_eq]
  refine ⟨?_, ?_, ?_, ?_, ?_, rfl, ?_⟩
  · exact congrArg (r.next · i) h.state
  · simp [Scene.succeed, Remote.after, h.clean_state]
  · exact List.forall_mem_append.mpr ⟨h.clean_past, List.forall_mem_singleton.mpr rfl⟩
  · simp [Scene.succeed, disturbed_concat, h.past, h.state]
  · simp [Scene.succeed, h.answered]
  · intro n hn
    rw [Scene.succeed, List.length_append, List.length_singleton] at hn
    rcases Nat.lt_succ_iff_lt_or_eq.mp hn with hn | rfl
    · exact h.few n hn
    · exact hfew

theorem mirrors_call (what : String) (i : Invocation) :
    Mirrors r t faults s .error (t.call (r.runner faults random) what i)
      (t.call (r.runner (fun _ => []) random) what i) where
  prefix_past := by
    intro clean b clean' hy
    rw [call_run_clean] at hy
    cases hy
    exact List.prefix_append _ _
  abreast := by
    intro w clean a b w' clean' h hx hy
    have hahead : w.ahead faults = faults clean.past.length := by
      rw [Scene.ahead, h.failed, h.answered, List.drop_zero]
    rw [call_run_clean] at hy
    cases hy
    by_cases hfew : (faults clean.past.length).length < t.policy.attempts
    · rw [call_run_of_lt r random what i (by rw [hahead]; exact hfew), hahead] at hx
      cases hx
      exact .inl ⟨by rw [h.state], h.succeed i hfew⟩
    · obtain ⟨o, ho, hrun⟩ := call_run_of_le r random what i
        (by rw [hahead]; exact Nat.not_lt.mp hfew)
      rw [hrun, hahead, Scene.failAll_eq] at hx
      cases hx
      rw [hahead] at ho
      refine .inr ⟨o, clean.past, ⟨i, true, r.answer clean.state i⟩, [], rfl, rfl, h.few, ho,
        ?_, ?_⟩
      · rw [h.state, h.clean_state]
      · rw [h.past]

/-- To go abreast, as a relation of computations. -/
def mirroring (r : Remote σ) (t : Target) (faults : Schedule) (s : σ) :
    CallRelation (StateM (Scene σ)) where
  rel fail x y := Mirrors r t faults s fail x y
  rel_pure := mirrors_pure
  rel_bind h hnext hfail _ := h.bind hnext hfail

theorem mirroring_relates (r : Remote σ) (t : Target) (faults : Schedule) (s : σ)
    (random : List Run → UInt64) :
    (mirroring r t faults s).Relates (t.host (r.runner faults random))
      (t.host (r.runner (fun _ => []) random)) where
  list page := by
    refine (mirrors_call _ (t.listing page)).bind (fun answer => ?_) fun _ => rfl
    cases answer with
    | error e => exact mirrors_pure _ _
    | ok text =>
      dsimp only
      cases page? text <;> exact mirrors_pure _ _
  delete id := by
    refine (mirrors_call _ (t.deletion id)).bind (fun answer => ?_) fun _ => rfl
    cases answer <;> exact mirrors_pure _ _
  diff := mirrors_call _ t.fetch
  create batch marker := by
    refine (mirrors_call _ (t.review batch marker)).bind (fun answer => ?_) fun _ => rfl
    cases answer <;> exact mirrors_pure _ _
  warn := rfl
  warn_other := rfl

/-! ## The outcome -/

/-- The runs that succeed are those without failures. -/
theorem filter_disturbed (faults : Schedule) {past : List Run}
    (h : ∀ run ∈ past, run.succeeded = true) :
    (disturbed faults past).filter Run.succeeded = past := by
  induction past using List.reverseRecOn with
  | nil => rfl
  | append_singleton past run ih =>
    obtain ⟨hpast, hrun⟩ := List.forall_mem_append.mp h
    have hfailed : ((faults past.length).map (⟨run.invocation, false, ·⟩ : Written → Run)).filter
        Run.succeeded = [] := by
      refine List.filter_eq_nil_iff.mpr fun call hcall => ?_
      obtain ⟨o, -, rfl⟩ := List.mem_map.mp hcall
      exact Bool.false_ne_true
    rw [disturbed_concat, List.filter_append, List.filter_append, ih hpast, hfailed,
      List.nil_append, List.filter_singleton, List.forall_mem_singleton.mp hrun]
    rfl

/-- A run with failures, against the same without any: its outcome, and the scene that it leaves. -/
structure Withstands (r : Remote σ) (t : Target) (faults : Schedule) (s : σ)
    (clean faulty : Outcome α × Scene σ) : Prop where
  /-- Failures that leave each call an attempt do not show. -/
  recovers : (∀ n < clean.2.past.length, (faults n).length < t.policy.attempts) →
    faulty.1 = clean.1 ∧ faulty.2.state = clean.2.state ∧
      faulty.2.past = disturbed faults clean.2.past ∧
      faulty.2.past.filter Run.succeeded = clean.2.past
  /-- The first call that has no attempt left is the last one. -/
  givesUp : ∀ before call after, clean.2.past = before ++ call :: after →
    (∀ n < before.length, (faults n).length < t.policy.attempts) →
    t.policy.attempts ≤ (faults before.length).length →
    ∃ o, (faults before.length)[t.policy.attempts - 1]? = some o ∧
      faulty.1 = .failed (.call o.error) ∧ faulty.2.state = r.after s before ∧
      faulty.2.past = disturbed faults before ++
        ((faults before.length).take t.policy.attempts).map (⟨call.invocation, false, ·⟩)
  /-- No call follows a listing that cannot be read. -/
  unreadable : ∀ before call after, faulty.2.past = before ++ call :: after → t.Garbles call →
    after = [] ∧ faulty.1 = .failed (.call .unreadable)

/-- A run of `publish` with these failures. -/
def Remote.publish (r : Remote σ) (t : Target) (faults : Schedule) (random : List Run → UInt64)
    (s : σ) (listings : Nat) (diagnostics : List Diagnostic)
    (analysisRoot cwd identifier : String) : Outcome Report × Scene σ :=
  (Review.publish (t.host (r.runner faults random)) listings diagnostics analysisRoot cwd
    identifier).run { state := s }

section

variable {o : Written} {before before' after after' : List Run} {call call' : Run}
  {w clean : Scene σ}

theorem Abreast.filter_past (h : Abreast r t faults s w clean) :
    w.past.filter Run.succeeded = clean.past := by
  rw [h.past, filter_disturbed faults h.clean_past]

/-- Each call so far has had an attempt left. -/
theorem Abreast.lt_attempts (h : Abreast r t faults s w clean)
    (hpast : clean.past = before ++ call :: after) :
    (faults before.length).length < t.policy.attempts := by
  refine h.few _ ?_
  simp [hpast]

theorem Exhausted.attempts_le (h : Exhausted r t faults s o before call after w clean) :
    t.policy.attempts ≤ (faults before.length).length := by
  have hlt := (List.getElem?_eq_some_iff.mp h.last).1
  omega

/-- A call is exhausted by as many failures as it may make attempts. -/
theorem Exhausted.exists_attempts_le (h : Exhausted r t faults s o before call after w clean) :
    ∃ n < clean.past.length, t.policy.attempts ≤ (faults n).length :=
  ⟨before.length, by simp [h.clean_past], h.attempts_le⟩

/-- Only one call is the first that has no attempt left. -/
theorem Exhausted.eq_of_first (h : Exhausted r t faults s o before call after w clean)
    (hpast : clean.past = before' ++ call' :: after')
    (hfew : ∀ n < before'.length, (faults n).length < t.policy.attempts)
    (hmany : t.policy.attempts ≤ (faults before'.length).length) :
    before = before' ∧ call = call' := by
  have hlength : before.length = before'.length := by
    rcases Nat.lt_trichotomy before.length before'.length with hlt | heq | hlt
    · exact absurd h.attempts_le (Nat.not_le.mpr (hfew _ hlt))
    · exact heq
    · exact absurd hmany (Nat.not_le.mpr (h.few _ hlt))
  obtain ⟨hbefore, hcall⟩ := List.append_inj (h.clean_past.symm.trans hpast) hlength
  exact ⟨hbefore, (List.cons.inj hcall).1⟩

/-- A listing that cannot be read is the last of the runs that stop there. -/
theorem eq_nil_of_garbles {front : List Run} {run : Run} (hfront : ∀ run ∈ front, ¬t.Garbles run)
    (hsplit : front ++ [run] = before ++ call :: after) (hcall : t.Garbles call) : after = [] := by
  rcases List.eq_nil_or_concat after with hnil | ⟨inner, last, rfl⟩
  · exact hnil
  · have hlast : front ++ [run] = (before ++ call :: inner) ++ [last] := by simp [hsplit]
    have hmem : call ∈ front := by
      rw [List.append_inj_left' hlast rfl]
      simp
    exact absurd hcall (hfront call hmem)

end

/-- **Failures that leave each call an attempt do not show, and the first call without one ends the
run with its last error.** -/
theorem publish_retries (r : Remote σ) (t : Target) (faults : Schedule)
    (random : List Run → UInt64) (s : σ) (listings : Nat) (diagnostics : List Diagnostic)
    (analysisRoot cwd identifier : String) :
    Withstands r t faults s
      (r.publish t (fun _ => []) random s listings diagnostics analysisRoot cwd identifier)
      (r.publish t faults random s listings diagnostics analysisRoot cwd identifier) := by
  rcases hclean : r.publish t (fun _ => []) random s listings diagnostics analysisRoot cwd
    identifier with ⟨outcome, clean⟩
  rcases hfaulty : r.publish t faults random s listings diagnostics analysisRoot cwd identifier with
    ⟨outcome', w⟩
  have hstart : Abreast r t faults s { state := s } { state := s } :=
    ⟨rfl, rfl, (fun _ h => nomatch h), rfl, rfl, rfl, (fun _ h => nomatch h)⟩
  have hmirrors := (publish_related (mirroring_relates r t faults s random) listings diagnostics
    analysisRoot cwd identifier).abreast hstart hfaulty hclean
  obtain ⟨new, hnew, hstops⟩ := publish_related (stopping_relates t r faults random) listings
    diagnostics analysisRoot cwd identifier hfaulty
  refine ⟨fun hfew => ?_, fun before call after hpast hfew hmany => ?_,
    fun before call after hpast hgarbles => ?_⟩
  · rcases hmirrors with ⟨rfl, habreast⟩ | ⟨o, before, call, after, -, hexhausted⟩
    · exact ⟨rfl, habreast.state, habreast.past, habreast.filter_past⟩
    · obtain ⟨n, hn, hmany⟩ := hexhausted.exists_attempts_le
      exact absurd hmany (Nat.not_le.mpr (hfew n hn))
  · rcases hmirrors with ⟨-, habreast⟩ | ⟨o, _, _, _, houtcome, hexhausted⟩
    · exact absurd hmany (Nat.not_le.mpr (habreast.lt_attempts hpast))
    · obtain ⟨rfl, rfl⟩ := hexhausted.eq_of_first hpast hfew hmany
      exact ⟨o, hexhausted.last, houtcome, hexhausted.state, hexhausted.past⟩
  · obtain rfl : new = before ++ call :: after := hnew.symm.trans hpast
    rcases hstops with hread | ⟨front, run, hsplit, hfront, houtcome⟩
    · exact absurd hgarbles (hread call (List.mem_append_right _ List.mem_cons_self))
    · exact ⟨eq_nil_of_garbles hfront hsplit.symm hgarbles, houtcome⟩

end

/-- A pull request that adds one line and has no comments. The state holds the reviews. -/
def emptyRequest : Remote (List Invocation) where
  answer _ i :=
    { stdout := bytesOf <|
        if i.args.head? = some "pr" then "+++ b/a\n@@ -0,0 +1 @@\n+x\n" else "[]" }
  next reviews i := if i.stdin.isSome then reviews ++ [i] else reviews

/-- The listing fails once, and the review fails twice. -/
def fewFailures : Schedule
  | 0 => [{}]
  | 2 => [{}, {}]
  | _ => []

/-- The diff cannot be had in three attempts. -/
def manyFailures : Schedule
  | 1 => [{}, {}, { stderr := bytesOf "down\n" }]
  | _ => []

def smallTarget : Target := { repo := "o/r", pr := 7 }

/-- A run with these failures. Each call is allowed three attempts. -/
def publishSmall (faults : Schedule) : Outcome Report × Scene (List Invocation) :=
  emptyRequest.publish smallTarget faults (fun _ => 0) [] 1
    [{ path := some "a", line := some 1, msg := some "m" }] "." "/" "lint"

/-- The first run posts its review as if nothing had failed. The second one ends after the third
attempt at the diff, and nothing is posted. -/
theorem publish_retries_twoSchedules :
    (publishSmall fewFailures).1 = .done ⟨0, 1, false⟩ ∧
      (publishSmall fewFailures).2.state = (publishSmall fun _ => []).2.state ∧
      (publishSmall fewFailures).2.past = disturbed fewFailures (publishSmall fun _ => []).2.past ∧
      (publishSmall manyFailures).1 = .failed (.call (.refused "down")) ∧
      (publishSmall manyFailures).2.state = [] ∧
      (publishSmall manyFailures).2.past.length = 4 := by
  have hfew : Withstands emptyRequest smallTarget fewFailures [] (publishSmall fun _ => [])
    (publishSmall fewFailures) := publish_retries ..
  have hmany : Withstands emptyRequest smallTarget manyFailures [] (publishSmall fun _ => [])
    (publishSmall manyFailures) := publish_retries ..
  have hdone : (publishSmall fun _ => []).1 = .done ⟨0, 1, false⟩ := by decide +kernel
  have hinputs : (publishSmall fun _ => []).2.past.map (·.invocation.stdin.isSome) =
      [false, false, true] := by
    decide +kernel
  obtain ⟨listing, fetch, review, hpast⟩ : ∃ a b c, (publishSmall fun _ => []).2.past = [a, b, c] := by
    rw [← List.length_eq_three, ← List.length_map (·.invocation.stdin.isSome), hinputs]
    rfl
  have hattempts : ∀ n < 3, (fewFailures n).length < 3 := by decide
  obtain ⟨houtcome, hstate, hruns, -⟩ := hfew.recovers (by rw [hpast]; exact hattempts)
  have hfirst : ∀ n < 1, (manyFailures n).length < 3 := by decide
  have hsecond : 3 ≤ (manyFailures 1).length := by decide
  obtain ⟨o, ho, hfailed, hkept, hended⟩ :=
    hmany.givesUp [listing] fetch [review] hpast hfirst hsecond
  have hlisting : listing.invocation.stdin.isSome = false := by
    rw [hpast] at hinputs
    exact (List.cons.inj hinputs).1
  obtain rfl : { stderr := bytesOf "down\n" } = o := Option.some.inj ho
  refine ⟨houtcome.trans hdone, hstate, hruns, hfailed, ?_, ?_⟩
  · rw [hkept]
    simp [Remote.after, emptyRequest, hlisting]
  · rw [hended]
    rfl

end LintReview.Review.Gh

import LintReview.Proofs.Review.Marker
import LintReview.Proofs.Review.Replacement

/-! Runs of several tools against one host. A `Turn` is a run of one of them, and a `History` a
sequence of turns in which the tools alternate in any way. What a turn deletes are the comments that
carry its marker (`Turn.mem_deleted_iff`), and the comments it posts carry no other one. **So no
tool deletes a comment of another one, and each deletes all that its own earlier runs have posted**
(`tools_keep_apart`). -/

namespace LintReview.Review

/-- A run of one of several tools, with the comments on the host before and after it. -/
structure Turn where
  identifier : String
  run : Run
  before : List Posted
  after : List Posted

namespace Turn

def calls (t : Turn) : List Event := (t.run.result t.identifier).2

/-- The identifiers of the comments that the run deletes. -/
def deletions (t : Turn) : List UInt64 := t.calls.filterMap Event.deletion?

def deleted (t : Turn) : List Posted := t.before.filter (·.id ∈ t.deletions)

def kept (t : Turn) : List Posted := t.before.filter (·.id ∉ t.deletions)

/-- The comments that the run posts, which stand behind those it has kept. -/
def posted (t : Turn) : List Posted := t.after.drop t.kept.length

end Turn

/-- Turns one after another, all of whose calls succeed, on a host that holds these comments. -/
inductive History (pageSize : Nat) : List Posted → List Turn → Prop
  | nil : History pageSize cs []
  | cons {t : Turn} : Path pageSize t.before t.calls t.after → History pageSize t.after ts →
    History pageSize t.before (t :: ts)

/-! ## One turn -/

section

variable {pageSize : Nat} {t : Turn} {c : Posted}

/-- A turn keeps the comments without its marker, and posts those of its batch behind them. -/
theorem Turn.of_path (hsize : 1 ≤ pageSize) (hids : (t.before.map Posted.id).Nodup)
    (hpath : Path pageSize t.before t.calls t.after) :
    t.kept = unmarked (marker t.identifier) t.before ∧ t.after = t.kept ++ t.posted ∧
      ∃ added, t.posted.map Posted.body =
        (t.run.batch t.identifier added).comments.map (some ·.body) := by
  obtain ⟨diff, added, posted, -, -, hreplaced⟩ := t.run.of_path hsize hids hpath
  have hdeletions : t.deletions = (marked (marker t.identifier) t.before).map Posted.id :=
    hreplaced.deletions
  have hfilter : ([] ++ t.before ++ []).filter
        (·.id ∉ (marked (marker t.identifier) t.before).map Posted.id) =
      [] ++ unmarked (marker t.identifier) t.before ++ [] :=
    filter_notMem_ids (by simpa using hids)
  have hkept : t.kept = unmarked (marker t.identifier) t.before := by
    rw [Turn.kept, hdeletions]
    simpa using hfilter
  have hafter : t.after = t.kept ++ posted := by rw [hkept, hreplaced.after]
  have hposted : t.posted = posted := by rw [Turn.posted, hafter, List.drop_left]
  exact ⟨hkept, by rw [hposted, hafter], added, by rw [hposted, hreplaced.bodies]⟩

theorem Turn.mem_deleted_iff (hsize : 1 ≤ pageSize) (hids : (t.before.map Posted.id).Nodup)
    (hpath : Path pageSize t.before t.calls t.after) :
    c ∈ t.deleted ↔ c ∈ t.before ∧ c.isMarked (marker t.identifier) = true := by
  obtain ⟨hkept, -⟩ := t.of_path hsize hids hpath
  have hmem : c ∈ t.kept ↔ c ∈ unmarked (marker t.identifier) t.before := by rw [hkept]
  simp only [Turn.kept, unmarked, List.mem_filter, decide_eq_true_eq, Bool.not_eq_true'] at hmem
  rw [Turn.deleted, List.mem_filter, decide_eq_true_eq]
  by_cases hc : c ∈ t.before
  · simp only [hc, true_and] at hmem ⊢
    rw [← not_iff_not, hmem, Bool.not_eq_true]
  · simp only [hc, false_and]

/-- A comment without the marker of the turn stays. -/
theorem Turn.mem_after (hsize : 1 ≤ pageSize) (hids : (t.before.map Posted.id).Nodup)
    (hpath : Path pageSize t.before t.calls t.after) (hc : c ∈ t.before)
    (hmarked : c.isMarked (marker t.identifier) = false) : c ∈ t.after := by
  obtain ⟨hkept, hafter, -⟩ := t.of_path hsize hids hpath
  rw [hafter, hkept]
  exact List.mem_append_left _ (List.mem_filter.mpr ⟨hc, by rw [hmarked]; rfl⟩)

/-- A comment that a turn posts carries the marker of its tool and that of no other one. -/
theorem Turn.isMarked_iff_of_mem_posted (hsize : 1 ≤ pageSize)
    (hids : (t.before.map Posted.id).Nodup)
    (hpath : Path pageSize t.before t.calls t.after) (hname : IsUnbracketed t.identifier)
    (hplain : ∀ d ∈ t.run.diagnostics, IsMarkerFree d) (hc : c ∈ t.posted) {other : String}
    (hother : IsUnbracketed other) :
    c.isMarked (marker other) = true ↔ other = t.identifier := by
  obtain ⟨-, -, added, hbodies⟩ := t.of_path hsize hids hpath
  have hbody : c.body ∈ t.posted.map Posted.body := List.mem_map_of_mem hc
  rw [hbodies] at hbody
  obtain ⟨comment, hcomment, heq⟩ := List.mem_map.mp hbody
  obtain ⟨d, hd, hbody⟩ := exists_body_eq hcomment
  rw [Posted.isMarked, ← heq, hbody, Option.any_some, Text.contains_iff]
  exact marker_infix_commentBody_iff hname hother (hplain d hd)

end

/-! ## Many turns -/

section

variable {pageSize : Nat} {cs : List Posted} {earlier later between ts : List Turn} {t : Turn}
  {c : Posted}

theorem History.exists_of_append (h : History pageSize cs (earlier ++ later))
    (hids : (cs.map Posted.id).Nodup) :
    ∃ mid, (mid.map Posted.id).Nodup ∧ History pageSize mid later := by
  induction earlier generalizing cs with
  | nil => exact ⟨cs, hids, h⟩
  | cons t earlier ih =>
    cases h with
    | cons hpath hrest => exact ih hrest (hpath.nodup_ids hids)

/-- A comment with the marker of one tool stays until a turn of this tool deletes it. -/
theorem History.mem_deleted_or_exists (hsize : 1 ≤ pageSize)
    (h : History pageSize cs (between ++ t :: later)) (hids : (cs.map Posted.id).Nodup)
    (hc : c ∈ cs) (hmarked : ∀ u ∈ between, u.identifier ≠ t.identifier →
      c.isMarked (marker u.identifier) = false)
    (hown : c.isMarked (marker t.identifier) = true) :
    c ∈ t.deleted ∨ ∃ u ∈ between, u.identifier = t.identifier ∧ c ∈ u.deleted := by
  induction between generalizing cs with
  | nil =>
    cases h with
    | cons hpath _ => exact .inl ((t.mem_deleted_iff hsize hids hpath).mpr ⟨hc, hown⟩)
  | cons u between ih =>
    cases h with
    | cons hpath hrest =>
      by_cases hname : u.identifier = t.identifier
      · refine .inr ⟨u, List.mem_cons_self, hname, ?_⟩
        exact (u.mem_deleted_iff hsize hids hpath).mpr ⟨hc, hname ▸ hown⟩
      · have hstays := u.mem_after hsize hids hpath hc (hmarked u List.mem_cons_self hname)
        rcases ih hrest (hpath.nodup_ids hids) hstays
            (fun v hv => hmarked v (List.mem_cons_of_mem _ hv)) with hdeleted | ⟨v, hv, hdeleted⟩
        · exact .inl hdeleted
        · exact .inr ⟨v, List.mem_cons_of_mem _ hv, hdeleted⟩

end

/-- **Tools keep apart.** The body of a comment carries the marker of its own tool and not that of
another one. Whatever turns tools take on one host, a turn deletes no comment that another tool has
posted, and deletes all those that its own tool has posted before and not deleted since. -/
theorem tools_keep_apart :
    (∀ a b, IsUnbracketed a → IsUnbracketed b → a ≠ b →
      ∀ diagnostics added analysisRoot cwd, (∀ d ∈ diagnostics, IsMarkerFree d) →
        ∀ c ∈ (Batch.ofDiagnostics diagnostics added analysisRoot cwd b).comments,
          (marker b).toList <:+: c.body.toList ∧ ¬(marker a).toList <:+: c.body.toList) ∧
    ∀ pageSize cs ts, 1 ≤ pageSize → (cs.map Posted.id).Nodup → History pageSize cs ts →
      (∀ t ∈ ts, IsUnbracketed t.identifier ∧ ∀ d ∈ t.run.diagnostics, IsMarkerFree d) →
      ∀ earlier s between t later, ts = earlier ++ s :: (between ++ t :: later) →
        ∀ c ∈ s.posted,
          (t.identifier ≠ s.identifier → c ∉ t.deleted ∧ (c ∈ t.before → c ∈ t.after)) ∧
          (t.identifier = s.identifier →
            c ∈ t.deleted ∨ ∃ u ∈ between, u.identifier = s.identifier ∧ c ∈ u.deleted) := by
  refine ⟨?_, ?_⟩
  · intro a b ha hb hne diagnostics added analysisRoot cwd hplain c hc
    obtain ⟨d, hd, hbody⟩ := exists_body_eq hc
    rw [hbody]
    refine ⟨(marker_infix_commentBody_iff hb hb (hplain d hd)).mpr rfl, fun h => hne ?_⟩
    exact (marker_infix_commentBody_iff hb ha (hplain d hd)).mp h
  · intro pageSize cs ts hsize hids hhistory hts earlier s between t later hsplit c hc
    subst hsplit
    obtain ⟨mid, hmid, hs⟩ := hhistory.exists_of_append hids
    cases hs with
    | cons hpath hrest =>
      obtain ⟨hname, hplain⟩ := hts s (by simp)
      have hafter := hpath.nodup_ids hmid
      have hown : ∀ {other}, IsUnbracketed other →
          (c.isMarked (marker other) = true ↔ other = s.identifier) :=
        s.isMarked_iff_of_mem_posted hsize hmid hpath hname hplain hc
      have hother : ∀ u ∈ between ++ t :: later, u.identifier ≠ s.identifier →
          c.isMarked (marker u.identifier) = false := by
        intro u hu hne
        have hmem := List.mem_append_right earlier (List.mem_cons_of_mem s hu)
        rw [← Bool.not_eq_true, hown (hts u hmem).1]
        exact hne
      refine ⟨fun hne => ?_, fun heq => ?_⟩
      · have hunmarked := hother t (by simp) hne
        obtain ⟨last, hlast, ht⟩ := hrest.exists_of_append hafter
        cases ht with
        | cons hpath' _ =>
          refine ⟨fun hdeleted => ?_, fun hbefore =>
            t.mem_after hsize hlast hpath' hbefore hunmarked⟩
          obtain ⟨-, hmarked⟩ := (t.mem_deleted_iff hsize hlast hpath').mp hdeleted
          cases hunmarked.symm.trans hmarked
      · have hc : c ∈ s.after := by
          obtain ⟨-, hposted, -⟩ := s.of_path hsize hmid hpath
          rw [hposted]
          exact List.mem_append_right _ hc
        rw [← heq]
        refine hrest.mem_deleted_or_exists hsize hafter hc (fun u hu hne => ?_)
          ((hown (hts t (by simp)).1).mpr heq)
        exact hother u (List.mem_append_left _ hu) (heq ▸ hne)

/-- What a tool posts for one diagnostic, whose message breaks off where a marker could start. -/
def brokenOff (identifier : String) (id : UInt64) : Posted :=
  ⟨id, some (marker identifier ++ "\n<!- [" ++ identifier ++ ":<]")⟩

/-- A turn with this diagnostic, on a host that lists all comments on one page and then, after a
deletion, those that are left. -/
def turnFor (identifier : String) (before left : List Posted) (id : UInt64) : Turn where
  identifier := identifier
  run :=
    { oracle :=
        { list := fun past _ => .ok ⟨if past.isEmpty then before else left, false⟩
          delete := fun _ _ => .ok ()
          diff := fun _ => .ok "+++ b/a\n@@ -0,0 +1 @@\n+x\n"
          create := fun _ _ _ => .ok () }
      diagnostics := [{ path := some "a", line := some 1, msg := some "<!-", id := some "<" }]
      analysisRoot := "."
      cwd := "/" }
  before := before
  after := left ++ [brokenOff identifier id]

def firstTurn : Turn := turnFor "lint" [] [] 1

def secondTurn : Turn := turnFor "lint2" [brokenOff "lint" 1] [brokenOff "lint" 1] 2

def thirdTurn : Turn :=
  turnFor "lint" [brokenOff "lint" 1, brokenOff "lint2" 2] [brokenOff "lint2" 2] 3

/-- Two tools, of which the first has another turn after the second. -/
def alternating : List Turn := [firstTurn, secondTurn, thirdTurn]

theorem history_alternating : History 2 [] alternating := by
  have hdiff : UnifiedDiff.addedLines "+++ b/a\n@@ -0,0 +1 @@\n+x\n" = .ok ⟨[("a", [1])]⟩ := rfl
  have hcreate : ∀ name id cs, ((cs ++ [brokenOff name id]).map Posted.id).Nodup →
      [(brokenOff name id).body] =
        ((turnFor name [] [] id).run.batch name ⟨[("a", [1])]⟩).comments.map (some ·.body) →
      Step 2 cs (.created ((turnFor name [] [] id).run.batch name ⟨[("a", [1])]⟩) (marker name)
        (.ok ())) (cs ++ [brokenOff name id]) := fun _ _ _ hnodup hbody => .create hnodup hbody
  have hdelete : Step 2 [brokenOff "lint" 1, brokenOff "lint2" 2] (.deleted 1 (.ok ()))
      [brokenOff "lint2" 2] := .delete
  have hfirst : Path 2 [] firstTurn.calls [brokenOff "lint" 1] :=
    .cons (.list ⟨by simp, fun _ => rfl⟩) <| .cons (.fetch hdiff) <|
      .cons (hcreate "lint" 1 [] (by decide) rfl) .nil
  have hsecond : Path 2 [brokenOff "lint" 1] secondTurn.calls
      [brokenOff "lint" 1, brokenOff "lint2" 2] :=
    .cons (.list ⟨by simp, fun _ => rfl⟩) <| .cons (.fetch hdiff) <|
      .cons (hcreate "lint2" 2 [brokenOff "lint" 1] (by decide) rfl) .nil
  have hthird : Path 2 [brokenOff "lint" 1, brokenOff "lint2" 2] thirdTurn.calls
      [brokenOff "lint2" 2, brokenOff "lint" 3] :=
    .cons (.list ⟨by simp, fun _ => rfl⟩) <| .cons hdelete <|
      .cons (.list ⟨by simp, fun _ => rfl⟩) <| .cons (.fetch hdiff) <|
      .cons (hcreate "lint" 3 [brokenOff "lint2" 2] (by decide) rfl) .nil
  exact .cons (t := firstTurn) hfirst <| .cons (t := secondTurn) hsecond <|
    .cons (t := thirdTurn) hthird .nil

/-- The last turn deletes the comment of the first one and keeps that of the second. -/
theorem tools_keep_apart_alternating :
    let d : Diagnostic := { path := some "a", line := some 1, msg := some "<!-", id := some "<" }
    IsUnbracketed "lint" ∧ IsUnbracketed "lint2" ∧ "lint" ≠ "lint2" ∧ IsMarkerFree d ∧
      (∀ c ∈ (Batch.ofDiagnostics [d] ⟨[("a", [1])]⟩ "." "/" "lint2").comments,
        (marker "lint2").toList <:+: c.body.toList ∧
          ¬(marker "lint").toList <:+: c.body.toList) ∧
      1 ≤ 2 ∧ (([] : List Posted).map Posted.id).Nodup ∧ History 2 [] alternating ∧
      (∀ t ∈ alternating, IsUnbracketed t.identifier ∧ ∀ d ∈ t.run.diagnostics, IsMarkerFree d) ∧
      brokenOff "lint" 1 ∈ thirdTurn.deleted ∧ brokenOff "lint2" 2 ∉ thirdTurn.deleted := by
  intro d
  have hlint : IsUnbracketed "lint" := by unfold IsUnbracketed; decide
  have hlint2 : IsUnbracketed "lint2" := by unfold IsUnbracketed; decide
  have hplain : IsMarkerFree d := by
    rintro text (htext | htext | htext) <;> cases htext <;> decide
  have hturns : ∀ t ∈ alternating,
      IsUnbracketed t.identifier ∧ ∀ d ∈ t.run.diagnostics, IsMarkerFree d := by
    intro t ht
    simp only [alternating, List.mem_cons, List.not_mem_nil, or_false] at ht
    have hown : ∀ d' ∈ [d], IsMarkerFree d' := fun d' hd' => by rwa [List.mem_singleton.mp hd']
    rcases ht with rfl | rfl | rfl
    · exact ⟨hlint, hown⟩
    · exact ⟨hlint2, hown⟩
    · exact ⟨hlint, hown⟩
  obtain ⟨hbodies, hruns⟩ := tools_keep_apart
  have hall := hruns 2 [] alternating (by decide) .nil history_alternating hturns
  obtain ⟨-, hdeleted⟩ := hall [] _ [_] thirdTurn [] rfl (brokenOff "lint" 1) (by decide)
  obtain ⟨hkept, -⟩ := hall [_] _ [] thirdTurn [] rfl (brokenOff "lint2" 2) (by decide)
  refine ⟨hlint, hlint2, by decide, hplain, ?_, by decide, .nil, history_alternating, hturns, ?_,
    (hkept (by decide)).1⟩
  · exact hbodies "lint" "lint2" hlint hlint2 (by decide) [d] _ _ _ (by simpa using hplain)
  · rcases hdeleted rfl with hdeleted | ⟨u, hu, hname, -⟩
    · exact hdeleted
    · cases List.mem_singleton.mp hu
      exact absurd hname (by decide)

end LintReview.Review

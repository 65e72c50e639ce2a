import LintReview.Proofs.AddedLines
import LintReview.Review.Comment

/-! The diagnostics that become comments. `Eligible` says which diagnostics those are and `IsOf`
what their comments look like, both without following the program. **A batch holds the comments of
the first fifty eligible diagnostics, and the one warning is logged exactly when there are more**
(`build_selects`), whatever stands behind the log. -/

namespace LintReview.Review

/-! ## The specification -/

/-- The last line that a diagnostic covers: the end of its range, if it has one that does not come
before the range starts. -/
def coveredEnd (d : Diagnostic) (line : UInt32) : UInt32 :=
  (d.eline.filter (line ≤ ·)).getD line

/-- The diagnostic has a path and a line, and every line that it covers was added. -/
def Eligible (added : AddedLines) (analysisRoot cwd : String) (d : Diagnostic) : Prop :=
  ∃ reported line, d.path = some reported ∧ d.line = some line ∧
    ∀ n, line ≤ n → n ≤ coveredEnd d line →
      added.Holds (SourcePath.normalize reported analysisRoot cwd) n

/-- The comment is the one for the diagnostic. -/
structure Comment.IsOf (analysisRoot cwd identifier : String) (d : Diagnostic) (c : Comment) :
    Prop where
  path : ∃ reported, d.path = some reported ∧
    c.path = SourcePath.normalize reported analysisRoot cwd
  line : ∃ line, d.line = some line ∧ c.line = coveredEnd d line ∧
    ∀ n, c.startLine = some n ↔ line < coveredEnd d line ∧ n = line
  startSide : c.startSide = c.startLine.map fun _ => "RIGHT"
  side : c.side = "RIGHT"
  body : c.body = commentBody d identifier

/-! ## One diagnostic -/

section

variable {added : AddedLines} {analysisRoot cwd identifier : String} {d : Diagnostic} {c : Comment}

theorem lastLine_eq_coveredEnd (d : Diagnostic) (line : UInt32) :
    lastLine d line = coveredEnd d line := by
  unfold lastLine coveredEnd
  cases d.eline with
  | none => rfl
  | some eline => by_cases h : line ≤ eline <;> simp [Option.filter, h]

/-- The covered range is never inverted. -/
theorem le_coveredEnd (d : Diagnostic) (line : UInt32) : line ≤ coveredEnd d line := by
  unfold coveredEnd
  cases d.eline with
  | none => exact UInt32.le_refl line
  | some eline => by_cases h : line ≤ eline <;> simp [Option.filter, h]

theorem containsRange_coveredEnd {path : String} {line : UInt32} :
    added.containsRange path line (coveredEnd d line) = true ↔
      ∀ n, line ≤ n → n ≤ coveredEnd d line → added.Holds path n := by
  rw [AddedLines.containsRange_iff, and_iff_right_iff_imp]
  intro hall
  obtain ⟨ls, hls, -⟩ := hall line (UInt32.le_refl line) (le_coveredEnd d line)
  exact ⟨ls, hls⟩

theorem eligible_and_isOf_of_eq_some
    (h : Comment.ofDiagnostic? added analysisRoot cwd identifier d = some c) :
    Eligible added analysisRoot cwd d ∧ c.IsOf analysisRoot cwd identifier d := by
  unfold Comment.ofDiagnostic? at h
  split at h
  · next reported line hpath hline =>
    simp only [lastLine_eq_coveredEnd] at h
    split at h
    · next hrange =>
      cases h
      refine ⟨⟨reported, line, hpath, hline, containsRange_coveredEnd.mp hrange⟩,
        ⟨reported, hpath, rfl⟩, ⟨line, hline, rfl, fun n => ?_⟩, ?_, rfl, rfl⟩
      · have hlt : line < coveredEnd d line ↔ line ≠ coveredEnd d line :=
          ⟨UInt32.ne_of_lt, UInt32.lt_of_le_of_ne (le_coveredEnd d line)⟩
        by_cases hne : line ≠ coveredEnd d line <;> simp [hlt, hne, eq_comm]
      · by_cases hne : line ≠ coveredEnd d line <;> simp [hne, newSide]
    · cases h
  · cases h

theorem isSome_ofDiagnostic?_iff (identifier : String) :
    (Comment.ofDiagnostic? added analysisRoot cwd identifier d).isSome = true ↔
      Eligible added analysisRoot cwd d := by
  constructor
  · intro h
    obtain ⟨c, hc⟩ := Option.isSome_iff_exists.mp h
    exact (eligible_and_isOf_of_eq_some hc).1
  · rintro ⟨reported, line, hpath, hline, hall⟩
    simp [Comment.ofDiagnostic?, hpath, hline, lastLine_eq_coveredEnd,
      containsRange_coveredEnd.mpr hall]

instance : DecidablePred (Eligible added analysisRoot cwd) := fun _ =>
  decidable_of_iff _ (isSome_ofDiagnostic?_iff "")

end

/-! ## A list of diagnostics -/

section

variable {m : Type → Type} [Monad m] [LawfulMonad m] (warn : String → m Unit)

/-- The loop that collects comments, with `room` for as many: it takes the first of those that
there are, and warns if one is left over. -/
theorem collect_eq (comment? : Diagnostic → Option Comment) (room : Nat) (ds : List Diagnostic) :
    Batch.collect warn comment? room ds = (do
      if room < (ds.filterMap comment?).length then warn truncationWarning
      pure
        { comments := (ds.filterMap comment?).take room
          truncated := decide (room < (ds.filterMap comment?).length) }) := by
  induction ds generalizing room with
  | nil => simp [Batch.collect]
  | cons d ds ih =>
    cases hc : comment? d with
    | none =>
      simp only [Batch.collect, hc, List.filterMap_cons]
      exact ih room
    | some c =>
      cases room with
      | zero => simp [Batch.collect, hc]
      | succ room =>
        simp only [Batch.collect, hc, ih, List.filterMap_cons, List.length_cons,
          Nat.add_lt_add_iff_right, List.take_succ_cons]
        split <;> simp only [bind_assoc, pure_bind]

/-- The batch is the same, whatever stands behind the log. -/
theorem ofDiagnostics_eq (diagnostics : List Diagnostic) (added : AddedLines)
    (analysisRoot cwd identifier : String) :
    Batch.ofDiagnostics diagnostics added analysisRoot cwd identifier =
      let comments :=
        diagnostics.filterMap (Comment.ofDiagnostic? added analysisRoot cwd identifier)
      { comments := comments.take maxComments
        truncated := decide (maxComments < comments.length) } := by
  unfold Batch.ofDiagnostics Batch.build
  rw [collect_eq]
  split <;> rfl

/-- Building a batch logs its warnings and answers it. -/
theorem build_eq (diagnostics : List Diagnostic) (added : AddedLines)
    (analysisRoot cwd identifier : String) :
    Batch.build warn diagnostics added analysisRoot cwd identifier = (do
      (Batch.ofDiagnostics diagnostics added analysisRoot cwd identifier).warnings.forM warn
      pure (Batch.ofDiagnostics diagnostics added analysisRoot cwd identifier)) := by
  rw [ofDiagnostics_eq, Batch.build, collect_eq]
  simp only [Batch.warnings, decide_eq_true_eq]
  split <;> simp [List.forM]

end

/-- Nothing but the batch is left of a build whose log goes nowhere. -/
theorem build_pure {m : Type → Type} [Monad m] [LawfulMonad m] (diagnostics : List Diagnostic)
    (added : AddedLines) (analysisRoot cwd identifier : String) :
    Batch.build (fun _ => (pure () : m Unit)) diagnostics added analysisRoot cwd identifier =
      pure (Batch.ofDiagnostics diagnostics added analysisRoot cwd identifier) := by
  rw [build_eq]
  unfold Batch.warnings
  split <;> simp

/-- The comments that are found belong to the eligible diagnostics, one to each. -/
theorem forall₂_filterMap_ofDiagnostic? (added : AddedLines) (analysisRoot cwd identifier : String)
    (ds : List Diagnostic) :
    List.Forall₂ (Comment.IsOf analysisRoot cwd identifier)
      (ds.filter (Eligible added analysisRoot cwd))
      (ds.filterMap (Comment.ofDiagnostic? added analysisRoot cwd identifier)) := by
  induction ds with
  | nil => exact .nil
  | cons d ds ih =>
    cases hc : Comment.ofDiagnostic? added analysisRoot cwd identifier d with
    | none =>
      have hnot : ¬Eligible added analysisRoot cwd d := fun h => by
        simpa [hc] using (isSome_ofDiagnostic?_iff identifier).mpr h
      rw [List.filterMap_cons_none hc, List.filter_cons_of_neg (by simpa using hnot)]
      exact ih
    | some c =>
      obtain ⟨heligible, hof⟩ := eligible_and_isOf_of_eq_some hc
      rw [List.filterMap_cons_some hc, List.filter_cons_of_pos (by simpa using heligible)]
      exact .cons hof ih

/-- A comment stands on lines that were added, and its range is not inverted. -/
theorem Comment.IsOf.holds {added : AddedLines} {analysisRoot cwd identifier : String}
    {d : Diagnostic} {c : Comment} (h : c.IsOf analysisRoot cwd identifier d)
    (heligible : Eligible added analysisRoot cwd d) :
    added.Holds c.path c.line ∧
      ∀ n, c.startLine = some n → n < c.line ∧ added.Holds c.path n := by
  obtain ⟨reported, hreported, hpath⟩ := h.path
  obtain ⟨line, hline, hlast, hstart⟩ := h.line
  obtain ⟨reported', line', hreported', hline', hall⟩ := heligible
  cases hreported.symm.trans hreported'
  cases hline.symm.trans hline'
  rw [hpath, hlast]
  refine ⟨hall _ (le_coveredEnd d line) (UInt32.le_refl _), fun n hn => ?_⟩
  obtain ⟨hlt, rfl⟩ := (hstart n).mp hn
  exact ⟨hlt, hall n (UInt32.le_refl n) (UInt32.le_of_lt hlt)⟩

/-- **The batch of a list of diagnostics.** Its comments are those of the first fifty eligible
diagnostics, in their order, all on added lines; it is truncated when more are eligible; and the one
warning is logged in this case only. -/
theorem build_selects {m : Type → Type} [Monad m] [LawfulMonad m] (warn : String → m Unit)
    (diagnostics : List Diagnostic) (added : AddedLines) (analysisRoot cwd identifier : String) :
    let eligible := diagnostics.filter (Eligible added analysisRoot cwd)
    ∃ comments : List Comment,
      Batch.build warn diagnostics added analysisRoot cwd identifier = (do
        if 50 < eligible.length then warn truncationWarning
        pure { comments, truncated := decide (50 < eligible.length) }) ∧
      List.Forall₂ (Comment.IsOf analysisRoot cwd identifier) (eligible.take 50) comments ∧
      ∀ c ∈ comments, added.Holds c.path c.line ∧
        ∀ n, c.startLine = some n → n < c.line ∧ added.Holds c.path n := by
  intro eligible
  have hall := forall₂_filterMap_ofDiagnostic? added analysisRoot cwd identifier diagnostics
  have hlength := hall.length_eq
  refine ⟨_, ?_, List.forall₂_take maxComments hall, fun c hc => ?_⟩
  · rw [Batch.build, collect_eq, ← hlength]
    rfl
  · obtain ⟨d, -, hd⟩ := List.mem_filterMap.mp (List.mem_of_mem_take hc)
    obtain ⟨heligible, hof⟩ := eligible_and_isOf_of_eq_some hd
    exact hof.holds heligible

/-- Fifty-one diagnostics on one added line, whose ranges are inverted, and one beside it; the log
is a list. -/
theorem build_selects_fifty_one :
    LawfulMonad (StateM (List String)) ∧
      let d : Diagnostic := { path := some "a", line := some 3, eline := some 2 }
      let warn : String → StateM (List String) Unit := fun text => modify (· ++ [text])
      let diagnostics := d :: { d with line := some 4, eline := some 3 } :: List.replicate 50 d
      let added : AddedLines := ⟨[("a", [3])]⟩
      let eligible := diagnostics.filter (Eligible added "." "/")
      ∃ comments : List Comment,
        Batch.build warn diagnostics added "." "/" "lint" = (do
          if 50 < eligible.length then warn truncationWarning
          pure { comments, truncated := decide (50 < eligible.length) }) ∧
        List.Forall₂ (Comment.IsOf "." "/" "lint") (eligible.take 50) comments ∧
        ∀ c ∈ comments, added.Holds c.path c.line ∧
          ∀ n, c.startLine = some n → n < c.line ∧ added.Holds c.path n :=
  ⟨inferInstance, build_selects _ _ _ _ _ _⟩

end LintReview.Review

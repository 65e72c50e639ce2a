import LintReview.Proofs.Sarif.Registry
import LintReview.Proofs.Sarif.Reingestion
import LintReview.Proofs.SourcePath.Resolution
import LintReview.Review.Comment

/-! Reviews by way of a log. A diagnostic that has only a symbol comes back from a log with this as
its identifier, and a path that was rooted comes back as seen from the working directory (`viaLog`).
Neither shows in a comment: the trailer has the same words in the same order, and a path that was
normalized is not changed again. **So a rooted log leads to the same review as the diagnostics it
was made of** (`build_of_rooted_log`).

The symbols come back by the indices of their rules, which 64 bits have to hold, as they do for any
catalogue that fits a memory. -/

namespace LintReview.Review

open Sarif (UriMode Rule Result catalogue indexAt assemble resultOf)

/-- What comes back of a diagnostic, if no identifier has two symbols. -/
def viaLog (mode : UriMode) (d : Diagnostic) : Diagnostic :=
  { d with
    id := d.id.or d.sym
    sym := d.id.bind fun _ => d.sym
    path := d.path.map mode.uri }

/-- Diagnostics with the same identifier have the same symbol, or none. -/
def NamedAlike (ds : List Diagnostic) : Prop :=
  ∀ d ∈ ds, ∀ e ∈ ds, ∀ x ∈ d.id, x ∈ e.id → d.sym = e.sym

instance : DecidablePred NamedAlike := fun ds =>
  inferInstanceAs (Decidable (∀ d ∈ ds, ∀ e ∈ ds, ∀ x ∈ d.id, x ∈ e.id → d.sym = e.sym))

section

variable {mode : UriMode} {toolName x : String} {d : Diagnostic} {ds : List Diagnostic} {i : Nat}

/-! ## The diagnostics -/

/-- The name that a rule has by then is the symbol of every diagnostic with its identifier. -/
theorem name_eq_sym (halike : NamedAlike ds) (hd : ds[i]? = some d) (hid : d.id = some x) :
    ((catalogue (ds.take (i + 1))).find? fun r => r.id = x).map Rule.name = d.sym := by
  have hmem : d ∈ ds.take (i + 1) := by
    rw [List.mem_iff_getElem?]
    exact ⟨i, by rw [List.getElem?_take_of_lt (Nat.lt_succ_self i), hd]⟩
  cases hfound : (catalogue (ds.take (i + 1))).find? fun r => r.id = x with
  | none =>
    cases hsym : d.sym with
    | none => rfl
    | some s =>
      obtain ⟨r, hr, hrid⟩ := Sarif.mem_catalogue.mpr ⟨d, hmem, hid, by rw [hsym]; rfl⟩
      exact absurd hrid (by simpa using List.find?_eq_none.mp hfound r hr)
  | some r =>
    have hrid : r.id = x := by simpa using List.find?_some hfound
    obtain ⟨e, he, heid, hesym⟩ := Sarif.exists_of_mem_catalogue (List.mem_of_find?_eq_some hfound)
    rw [hrid] at heid
    rw [Option.map_some, ← hesym]
    exact halike e (List.mem_of_mem_take he) d (List.mem_of_mem_take hmem) x heid hid

theorem diagnostic_eq_viaLog (halike : NamedAlike ds) (hsize : (catalogue ds).length ≤ UInt64.size)
    (hd : ds[i]? = some d) :
    (resultOf mode (indexAt ds i d) d).diagnostic (catalogue ds) = viaLog mode d := by
  have hsym : ((resultOf mode (indexAt ds i d) d).diagnostic (catalogue ds)).sym =
      d.id.bind fun _ => d.sym := by
    cases hid : d.id with
    | none => exact Sarif.sym_diagnostic_of_id_eq_none hid
    | some x =>
      exact (Sarif.sym_diagnostic hid Sarif.catalogue_take_prefix hsize).trans
        (name_eq_sym halike hd hid)
  rw [Sarif.diagnostic_resultOf] at hsym ⊢
  rw [viaLog, Diagnostic.mk.injEq]
  exact ⟨rfl, hsym, rfl, rfl, rfl, rfl, rfl, rfl, rfl⟩

theorem diagnostics_eq_map_viaLog (halike : NamedAlike ds)
    (hsize : (catalogue ds).length ≤ UInt64.size) :
    (assemble ds toolName mode).diagnostics = ds.map (viaLog mode) := by
  refine List.ext_getElem? fun i => ?_
  rw [Sarif.getElem?_diagnostics_assemble, List.getElem?_map]
  cases hd : ds[i]? with
  | none => rfl
  | some d => exact congrArg some (diagnostic_eq_viaLog halike hsize hd)

end

/-! ## The comments -/

section

variable {added : AddedLines} {analysisRoot cwd identifier : String} {d : Diagnostic}
  {mode : UriMode}

/-- A symbol that moves to the place of an absent identifier is not followed by anything. -/
theorem trailer_viaLog : trailer (viaLog mode d) identifier = trailer d identifier := by
  unfold trailer viaLog
  cases d.id with
  | none => cases d.sym <;> rfl
  | some x => rfl

theorem commentBody_viaLog : commentBody (viaLog mode d) identifier = commentBody d identifier := by
  rw [commentBody, commentBody, trailer_viaLog]
  rfl

theorem ofDiagnostic?_viaLog (hcwd : SourcePath.isAbsolute (SourcePath.toSlashes cwd.toList) = true)
    (hdrive : ∀ path ∈ d.path,
      ¬SourcePath.HasDrive (SourcePath.normalize path analysisRoot cwd).toList) :
    Comment.ofDiagnostic? added "." cwd identifier (viaLog (.rooted analysisRoot cwd) d) =
      Comment.ofDiagnostic? added analysisRoot cwd identifier d := by
  have hline : (viaLog (.rooted analysisRoot cwd) d).line = d.line := rfl
  have hlast (line : UInt32) : lastLine (viaLog (.rooted analysisRoot cwd) d) line =
      lastLine d line := rfl
  have hpath : (viaLog (.rooted analysisRoot cwd) d).path =
      d.path.map (SourcePath.normalize · analysisRoot cwd) := rfl
  rw [Comment.ofDiagnostic?, Comment.ofDiagnostic?, hpath, hline, commentBody_viaLog]
  cases hreported : d.path with
  | none => rfl
  | some path =>
    have hsame : SourcePath.normalize (SourcePath.normalize path analysisRoot cwd) "." cwd =
        SourcePath.normalize path analysisRoot cwd :=
      SourcePath.normalize_normalize hcwd (hdrive path hreported)
    cases d.line with
    | none => rfl
    | some line => simp only [Option.map_some, hsame, hlast]

end

/-! ## The batch -/

variable {m : Type → Type} [Monad m] (warn : String → m Unit)

/-- Collecting depends on nothing but the comments that are found. -/
theorem collect_map {comment? comment?' : Diagnostic → Option Comment}
    {f : Diagnostic → Diagnostic} {ds : List Diagnostic} (room : Nat)
    (h : ∀ d ∈ ds, comment?' (f d) = comment? d) :
    Batch.collect warn comment?' room (ds.map f) = Batch.collect warn comment? room ds := by
  induction ds generalizing room with
  | nil => rfl
  | cons d ds ih =>
    obtain ⟨hd, hds⟩ := List.forall_mem_cons.mp h
    cases hc : comment? d with
    | none =>
      simp only [List.map_cons, Batch.collect, hd, hc]
      exact ih room hds
    | some c =>
      cases room with
      | zero => simp only [List.map_cons, Batch.collect, hd, hc]
      | succ room => simp only [List.map_cons, Batch.collect, hd, hc, ih room hds]

/-- **A review does not change by way of a rooted log.** The reader of input finds in its text the
diagnostics that lead to the same batch, and to the same warning. -/
theorem build_of_rooted_log (ds : List Diagnostic) (added : AddedLines)
    (toolName analysisRoot cwd identifier : String)
    (hcwd : SourcePath.isAbsolute (SourcePath.toSlashes cwd.toList) = true)
    (hdrive : ∀ d ∈ ds, ∀ path ∈ d.path,
      ¬SourcePath.HasDrive (SourcePath.normalize path analysisRoot cwd).toList)
    (halike : NamedAlike ds)
    (hsize : (assemble ds toolName (.rooted analysisRoot cwd)).rules.length ≤ UInt64.size) :
    ∃ ds', InputReader.sarif.read (assemble ds toolName (.rooted analysisRoot cwd)).text =
        .ok ds' ∧
      Batch.build warn ds' added "." cwd identifier =
        Batch.build warn ds added analysisRoot cwd identifier := by
  rw [Sarif.rules_assemble] at hsize
  refine ⟨ds.map (viaLog (.rooted analysisRoot cwd)), ?_, ?_⟩
  · rw [InputReader.read, Sarif.Log.read?_text, diagnostics_eq_map_viaLog halike hsize]
  · exact collect_map warn maxComments fun d hd => ofDiagnostic?_viaLog hcwd (hdrive d hd)

/-- A rule that comes back by its index, a symbol without identifier, and paths that climb. -/
def climbing : List Diagnostic :=
  [{ id := some "E1", sym := some "indent", path := some "./b/../a.py", line := some 3 },
    { sym := some "E1", path := some "..\\c.py", line := some 4, eline := some 5 },
    { id := some "E1", sym := some "indent", path := some "file:///work/d.py", line := some 1 }]

theorem build_of_rooted_log_climbing :
    SourcePath.isAbsolute (SourcePath.toSlashes "/work/repo".toList) = true ∧
      (∀ d ∈ climbing, ∀ path ∈ d.path,
        ¬SourcePath.HasDrive (SourcePath.normalize path "src" "/work/repo").toList) ∧
      NamedAlike climbing ∧
      (assemble climbing "lint" (.rooted "src" "/work/repo")).rules.length ≤ UInt64.size ∧
      let added : AddedLines := ⟨[("src/a.py", [3]), ("c.py", [4, 5])]⟩
      ∃ ds', InputReader.sarif.read (assemble climbing "lint" (.rooted "src" "/work/repo")).text =
          .ok ds' ∧
        Batch.ofDiagnostics ds' added "." "/work/repo" "lint" =
          Batch.ofDiagnostics climbing added "src" "/work/repo" "lint" ∧
        (Batch.ofDiagnostics ds' added "." "/work/repo" "lint").comments.map Comment.path =
          ["src/a.py", "c.py"] := by
  have hcwd : SourcePath.isAbsolute (SourcePath.toSlashes "/work/repo".toList) = true := by decide
  have hdrive : ∀ d ∈ climbing, ∀ path ∈ d.path,
      ¬SourcePath.HasDrive (SourcePath.normalize path "src" "/work/repo").toList := by decide
  have halike : NamedAlike climbing := by decide
  have hsize : (assemble climbing "lint" (.rooted "src" "/work/repo")).rules.length ≤
      UInt64.size := by decide
  refine ⟨hcwd, hdrive, halike, hsize, ?_⟩
  intro added
  obtain ⟨ds', hread, hsame⟩ := build_of_rooted_log (m := Id) (fun _ => pure ()) climbing added
    "lint" "src" "/work/repo" "lint" hcwd hdrive halike hsize
  have hbatch : Batch.ofDiagnostics ds' added "." "/work/repo" "lint" =
      Batch.ofDiagnostics climbing added "src" "/work/repo" "lint" := hsame
  refine ⟨ds', hread, hbatch, ?_⟩
  rw [hbatch]
  decide

end LintReview.Review

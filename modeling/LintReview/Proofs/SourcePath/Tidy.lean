import Mathlib.Logic.Function.Iterate
import LintReview.SourcePath

/-! Tidying a path again. `tidy` takes one `./` or `.\` off each line that starts with one, and
these two characters are all that it takes (`length_tidy`). So it leaves alone just the paths where
no line starts so, and a path that it changes never comes back (`iterate_tidy_eq_self_iff`). -/

namespace LintReview.SourcePath

/-- Whether a line starts with `./` or `.\`. -/
def isDotted (line : List Char) : Bool :=
  ['.', '/'].isPrefixOf line || ['.', '\\'].isPrefixOf line

/-- The number of lines that start with `./` or `.\`. -/
def dots (path : String) : Nat := (path.toList.splitOn '\n').countP isDotted

/-- No line of the path starts with `./` or `.\`. -/
def IsTidy (path : String) : Prop := ∀ line ∈ path.toList.splitOn '\n', isDotted line = false

variable {line : List Char} {path : String}

theorem dots_eq_zero : dots path = 0 ↔ IsTidy path := by
  simp only [dots, IsTidy, List.countP_eq_zero, Bool.not_eq_true]

/-- A line loses two characters, or none. -/
theorem dropDot_cases (line : List Char) :
    (isDotted line = true ∧ (dropDot line).length + 2 = line.length) ∨
      (isDotted line = false ∧ dropDot line = line) := by
  unfold dropDot
  split
  · exact .inl ⟨rfl, rfl⟩
  · exact .inl ⟨rfl, rfl⟩
  · next hslash hbackslash =>
    refine .inr ⟨Bool.eq_false_iff.mpr fun hdotted => ?_, rfl⟩
    simp only [isDotted, Bool.or_eq_true, List.isPrefixOf_iff_prefix] at hdotted
    rcases hdotted with ⟨rest, rfl⟩ | ⟨rest, rfl⟩
    · exact hslash rest rfl
    · exact hbackslash rest rfl

theorem length_intercalate_dropDot (lines : List (List Char)) :
    (['\n'].intercalate (lines.map dropDot)).length + 2 * lines.countP isDotted =
      (['\n'].intercalate lines).length := by
  induction lines with
  | nil => rfl
  | cons line lines ih =>
    have hline : (dropDot line).length + 2 * (if isDotted line then 1 else 0) = line.length := by
      rcases dropDot_cases line with ⟨hdotted, hlength⟩ | ⟨hplain, hsame⟩
      · rw [hdotted]
        exact hlength
      · rw [hplain, hsame]
        rfl
    rw [List.countP_cons]
    cases lines with
    | nil =>
      simp only [List.map_cons, List.map_nil, List.intercalate_singleton, List.countP_nil]
      omega
    | cons next lines =>
      rw [List.map_cons] at ih
      simp only [List.map_cons, List.intercalate_cons_cons, List.length_append]
      omega

theorem length_tidy (path : String) : (tidy path).length + 2 * dots path = path.length := by
  rw [tidy, String.length_ofList, dots, length_intercalate_dropDot, List.intercalate_splitOn,
    String.length_toList]

theorem tidy_of_isTidy (h : IsTidy path) : tidy path = path := by
  have hline : ∀ line ∈ path.toList.splitOn '\n', dropDot line = id line := fun line hline => by
    rcases dropDot_cases line with ⟨hdotted, -⟩ | ⟨-, hsame⟩
    · cases hdotted.symm.trans (h line hline)
    · exact hsame
  rw [tidy, List.map_congr_left hline, List.map_id, List.intercalate_splitOn,
    String.ofList_toList]

/-- A path comes back from being tidied over and over only if there is nothing to tidy. -/
theorem iterate_tidy_eq_self_iff {k : Nat} : tidy^[k + 1] path = path ↔ IsTidy path := by
  constructor
  · intro hsame
    have hshorter : ∀ (n : Nat) (p : String), (tidy^[n] p).length ≤ p.length := by
      intro n p
      induction n generalizing p with
      | zero => exact Nat.le_refl _
      | succ n ih =>
        have := length_tidy p
        rw [Function.iterate_succ_apply]
        exact Nat.le_trans (ih (tidy p)) (by omega)
    have htidy := length_tidy path
    have hrest := hshorter k (tidy path)
    rw [← Function.iterate_succ_apply, hsame] at hrest
    rw [← dots_eq_zero]
    omega
  · intro h
    exact Function.iterate_fixed (tidy_of_isTidy h) (k + 1)

end LintReview.SourcePath

import LintReview.Proofs.SourcePath.Canonical

/-! The characters of normalized paths. Folding and joining move parts of the given texts and add
slashes, dots and colons, and a drive letter may change its case. **So what holds of these
characters and of those in the given texts holds of every character of the normalized path**
(`forall_mem_normalize`). -/

namespace LintReview.SourcePath

/-- The characters that normalizing may write of its own. -/
structure AllowsPaths (P : Char → Prop) : Prop where
  slash : P '/'
  dot : P '.'
  colon : P ':'
  letter : ∀ c : Char, c.isAlpha = true → P c

variable {P : Char → Prop} {p base rest : List Char} {parts folded : List (List Char)} {root : Root}
  {l other : Location}

/-! ## Parts -/

theorem forall_mem_foldl_pushPart {Q : List Char → Prop} (hfolded : ∀ part ∈ folded, Q part)
    (hparts : ∀ part ∈ parts, Q part) : ∀ part ∈ parts.foldl (pushPart root) folded, Q part := by
  induction parts generalizing folded with
  | nil => exact hfolded
  | cons part parts ih =>
    obtain ⟨hpart, hparts⟩ := List.forall_mem_cons.mp hparts
    refine ih ?_ hparts
    rcases pushPart_cases root folded part with h | h | h
    · rw [h]
      exact hfolded
    · rw [h]
      exact List.forall_mem_cons.mpr ⟨hpart, hfolded⟩
    · rw [h]
      exact fun inner hinner => hfolded inner (List.mem_of_mem_tail hinner)

theorem forall_mem_foldParts (hp : ∀ c ∈ p, P c) : ∀ part ∈ foldParts root p, ∀ c ∈ part, P c := by
  intro part hpart
  have hpieces : ∀ piece ∈ p.splitOn '/', ∀ c ∈ piece, P c := fun piece hpiece c hc =>
    hp c ((List.subset_and_notMem_of_mem_splitOn hpiece).1 hc)
  exact forall_mem_foldl_pushPart (List.forall_mem_nil _) hpieces part (List.mem_reverse.mp hpart)

theorem eq_of_drive?_eq_some {letter : Char} (h : drive? p = some (letter, rest)) :
    letter.isAlpha = true ∧ p = letter :: ':' :: rest := by
  unfold drive? at h
  split at h
  · split at h
    · next hletter =>
      cases h
      exact ⟨hletter, rfl⟩
    · cases h
  · cases h

theorem forall_mem_parts_ofText (hp : ∀ c ∈ p, P c) :
    ∀ part ∈ (Location.ofText p).parts, ∀ c ∈ part, P c := by
  unfold Location.ofText
  split
  · next letter rest hdrive =>
    obtain ⟨-, rfl⟩ := eq_of_drive?_eq_some hdrive
    exact forall_mem_foldParts (List.forall_mem_cons.mp (List.forall_mem_cons.mp hp).2).2
  · exact forall_mem_foldParts hp

theorem forall_mem_joinParts (hslash : P '/') (hparts : ∀ part ∈ parts, ∀ c ∈ part, P c) :
    ∀ c ∈ joinParts parts, P c := by
  induction parts with
  | nil => exact List.forall_mem_nil _
  | cons part parts ih =>
    obtain ⟨hpart, hrest⟩ := List.forall_mem_cons.mp hparts
    cases parts with
    | nil =>
      rw [joinParts, List.intercalate_singleton]
      exact hpart
    | cons next parts =>
      rw [joinParts, List.intercalate_cons_cons, List.forall_mem_append, List.forall_mem_append]
      exact ⟨⟨hpart, List.forall_mem_singleton.mpr hslash⟩, ih hrest⟩

/-! ## Paths -/

section

variable (hP : AllowsPaths P)
include hP

theorem forall_mem_root_text (p : List Char) : ∀ c ∈ (Location.ofText p).root.text, P c := by
  unfold Location.ofText
  split
  · next letter rest hdrive =>
    obtain ⟨hletter, -⟩ := eq_of_drive?_eq_some hdrive
    simp only [Root.text, List.forall_mem_cons]
    exact ⟨hP.letter _ (isAlpha_toUpper hletter), hP.colon, hP.slash, List.forall_mem_nil _⟩
  · dsimp only
    split
    · exact List.forall_mem_singleton.mpr hP.slash
    · exact List.forall_mem_nil _

theorem forall_mem_relative (hroot : ∀ c ∈ other.root.text, P c)
    (hparts : ∀ part ∈ other.parts, ∀ c ∈ part, P c) : ∀ c ∈ relative l other, P c := by
  by_cases h : l.root = other.root
  · rw [relative_of_root_eq h]
    refine forall_mem_joinParts hP.slash ?_
    obtain ⟨common, -, hdown⟩ := dropCommon_spec l.parts other.parts
    intro part hpart
    rcases List.mem_append.mp hpart with hup | hnames
    · obtain ⟨-, -, rfl⟩ := List.mem_map.mp hup
      simp only [List.forall_mem_cons]
      exact ⟨hP.dot, hP.dot, List.forall_mem_nil _⟩
    · exact hparts part (hdown ▸ List.mem_append_right _ hnames)
  · rw [relative_of_root_ne h, List.forall_mem_append]
    exact ⟨hroot, forall_mem_joinParts hP.slash hparts⟩

theorem forall_mem_toSlashes (hp : ∀ c ∈ p, P c) : ∀ c ∈ toSlashes p, P c := by
  intro c hc
  obtain ⟨d, hd, rfl⟩ := List.mem_map.mp hc
  split
  · exact hP.slash
  · exact hp d hd

theorem forall_mem_join (hbase : ∀ c ∈ base, P c) (hrest : ∀ c ∈ rest, P c) :
    ∀ c ∈ join base rest, P c := by
  unfold join
  split
  · exact hrest
  split
  · exact hbase
  · have hsub : dropTrailingSlashes base ⊆ base := (List.rdropWhile_prefix _ _).subset
    rw [List.forall_mem_append, List.forall_mem_cons]
    exact ⟨fun c hc => hbase c (hsub hc), hP.slash, hrest⟩

theorem forall_mem_target {reported analysisRoot cwd : List Char}
    (hreported : ∀ c ∈ reported, P c) (hroot : ∀ c ∈ analysisRoot, P c) (hcwd : ∀ c ∈ cwd, P c) :
    ∀ c ∈ target reported analysisRoot cwd, P c := by
  unfold target
  extract_lets address below
  have haddress : ∀ c ∈ address, P c := by
    refine forall_mem_toSlashes hP ?_
    cases hfile : fileScheme.isPrefixOf? reported with
    | none => exact hreported
    | some path =>
      rw [List.isPrefixOf?_eq_some_iff.mp hfile, List.forall_mem_append] at hreported
      exact hreported.2
  have hbelow : ∀ c ∈ below, P c := by
    simp only [below]
    split
    · exact haddress
    · exact forall_mem_join hP (forall_mem_toSlashes hP hroot) haddress
  split
  · exact hbelow
  · exact forall_mem_join hP (forall_mem_toSlashes hP hcwd) hbelow

/-- **A normalized path has no other characters than the given texts**, but for slashes, dots,
colons and letters. -/
theorem forall_mem_normalize {reported analysisRoot cwd : String}
    (hreported : ∀ c ∈ reported.toList, P c) (hroot : ∀ c ∈ analysisRoot.toList, P c)
    (hcwd : ∀ c ∈ cwd.toList, P c) : ∀ c ∈ (normalize reported analysisRoot cwd).toList, P c := by
  have htarget := forall_mem_target hP hreported hroot (forall_mem_toSlashes hP hcwd)
  rw [normalize, String.toList_ofList]
  exact forall_mem_relative hP (forall_mem_root_text hP _) (forall_mem_parts_ofText htarget)

end

end LintReview.SourcePath

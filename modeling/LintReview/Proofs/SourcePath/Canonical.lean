import LintReview.Proofs.SourcePath.Naming

/-! The form of normalized paths. A path on the root of the working directory climbs out of some of
its directories and goes down by names from there, not back into the directory that it left last
(`IsRoute`). As each part of a path moves by one directory at most (`apart_le_apart_foldl`), **no
path of fewer parts leads to the same place, and on another root the path is that root followed by
names** (`normalize_canonical`). -/

namespace LintReview.SourcePath

/-- One climbs that many times out of a location, and goes down by the names from there. -/
structure IsRoute (base : Location) (climbs : Nat) (names : List (List Char)) : Prop where
  isName : ∀ name ∈ names, IsName name
  climbs_le : climbs ≤ base.parts.length
  /-- The first name is not the one that was left last. -/
  turns : ∀ name ∈ names.head?, base.parts[base.parts.length - climbs]? ≠ some name

/-- The slash path of a route. -/
def routeText (climbs : Nat) (names : List (List Char)) : List Char :=
  joinParts (List.replicate climbs ['.', '.'] ++ names)

/-- How many moves by one directory lie between two places. -/
def apart (as bs : List (List Char)) : Nat :=
  (dropCommon as bs).1.length + (dropCommon as bs).2.length

variable {as bs folded parts : List (List Char)} {part : List Char} {root : Root}
  {base other : Location}

/-! ## Distances -/

theorem apart_self : apart bs bs = 0 := by
  induction bs with
  | nil => rfl
  | cons b bs ih => simpa only [apart, dropCommon, if_true] using ih

/-- One directory more changes the distance by one at most. -/
theorem apart_concat (as bs : List (List Char)) (part : List Char) :
    apart as bs ≤ apart (as ++ [part]) bs + 1 ∧ apart (as ++ [part]) bs ≤ apart as bs + 1 := by
  induction as generalizing bs with
  | nil =>
    cases bs with
    | nil => simp [apart, dropCommon]
    | cons b bs =>
      by_cases hb : part = b
      · cases bs <;> simp [apart, dropCommon, hb]
      · simp only [apart, dropCommon, List.nil_append, if_neg hb, List.length_cons, List.length_nil]
        omega
  | cons a as ih =>
    cases bs with
    | nil => simp [apart, dropCommon]
    | cons b bs =>
      by_cases hb : a = b
      · simpa [apart, dropCommon, hb] using ih bs
      · simp only [apart, dropCommon, List.cons_append, if_neg hb, List.length_cons,
          List.length_append, List.length_nil]
        omega

/-- A part leads nowhere, one directory down or one up. -/
theorem pushPart_cases (root : Root) (folded : List (List Char)) (part : List Char) :
    pushPart root folded part = folded ∨ pushPart root folded part = part :: folded ∨
      pushPart root folded part = folded.tail := by
  unfold pushPart
  split
  · exact .inl rfl
  split
  · cases folded with
    | nil => by_cases hroot : root = .floating <;> simp [hroot]
    | cons inner outer =>
      by_cases hinner : inner = ['.', '.'] <;> by_cases hroot : root = .floating <;>
        simp [hinner, hroot]
  · exact .inr (.inl rfl)

theorem apart_le_apart_pushPart :
    apart folded.reverse bs ≤ apart (pushPart root folded part).reverse bs + 1 := by
  rcases pushPart_cases root folded part with h | h | h
  · rw [h]
    exact Nat.le_succ _
  · rw [h, List.reverse_cons]
    exact (apart_concat _ _ _).1
  · rw [h]
    cases folded with
    | nil => exact Nat.le_succ _
    | cons inner outer =>
      rw [List.tail_cons, List.reverse_cons]
      exact (apart_concat _ _ _).2

theorem apart_le_apart_foldl :
    apart folded.reverse bs ≤
      apart (parts.foldl (pushPart root) folded).reverse bs + parts.length := by
  induction parts generalizing folded with
  | nil => exact Nat.le_refl _
  | cons part parts ih =>
    have hpart : apart folded.reverse bs ≤ apart (pushPart root folded part).reverse bs + 1 :=
      apart_le_apart_pushPart
    have hparts : apart (pushPart root folded part).reverse bs ≤
        apart (parts.foldl (pushPart root) (pushPart root folded part)).reverse bs + parts.length :=
      ih
    rw [List.foldl_cons, List.length_cons]
    omega

/-- A path has a part for each move to the place where it leads. -/
theorem apart_le_length_splitOn {p : List Char} (h : base.along p = other) :
    apart base.parts other.parts ≤ (p.splitOn '/').length := by
  have hfold : apart base.parts.reverse.reverse other.parts ≤
      apart ((p.splitOn '/').foldl (pushPart base.root) base.parts.reverse).reverse other.parts +
        (p.splitOn '/').length := apart_le_apart_foldl
  have hparts : ((p.splitOn '/').foldl (pushPart base.root) base.parts.reverse).reverse =
      other.parts := congrArg Location.parts h
  rwa [hparts, apart_self, List.reverse_reverse, Nat.zero_add] at hfold

/-! ## The way between two locations -/

theorem backslash_notMem_relative (hother : other.IsResolved) : '\\' ∉ relative base other := by
  by_cases hroot : base.root = other.root
  · rw [relative_of_root_eq hroot]
    exact backslash_notMem_joinParts (isPart_of_mem_steps hother)
  · rw [relative_of_root_ne hroot, List.mem_append, not_or]
    refine ⟨?_, backslash_notMem_joinParts fun name hname => (hother.names name hname).toIsPart⟩
    obtain ⟨root, parts⟩ := other
    cases root with
    | floating => exact List.not_mem_nil
    | slash =>
      change '\\' ∉ ['/']
      decide
    | drive letter =>
      have hletter : letter.isAlpha = true := hother.root
      simp only [Root.text, List.mem_cons, List.not_mem_nil, or_false, not_or]
      refine ⟨?_, by decide, by decide⟩
      rintro rfl
      cases hletter

theorem dropCommon_head? (as bs : List (List Char)) :
    ∀ b ∈ (dropCommon as bs).2.head?, (dropCommon as bs).1.head? ≠ some b := by
  fun_induction dropCommon as bs with
  | case1 as b bs ih => exact ih
  | case2 a as b bs hne =>
    intro c hc heq
    cases hc
    cases heq
    exact hne rfl
  | case3 as bs hnot =>
    intro b hb heq
    obtain ⟨bs', rfl⟩ := List.head?_eq_some_iff.mp hb
    obtain ⟨as', rfl⟩ := List.head?_eq_some_iff.mp heq
    exact hnot _ _ _ _ rfl rfl

/-- The path from one location to another one on its root is the text of a route, with a part for
each move. -/
theorem exists_isRoute_relative (hother : other.IsResolved) (hroot : base.root = other.root) :
    ∃ climbs names, IsRoute base climbs names ∧ names <:+ other.parts ∧
      relative base other = routeText climbs names ∧
      climbs + names.length = apart base.parts other.parts := by
  have hturns := dropCommon_head? base.parts other.parts
  obtain ⟨common, hup, hdown⟩ := dropCommon_spec base.parts other.parts
  have htext : relative base other = joinParts (steps base other) := relative_of_root_eq hroot
  unfold steps at htext
  unfold apart
  generalize dropCommon base.parts other.parts = rest at hturns hup hdown htext
  obtain ⟨up, down⟩ := rest
  have hlength : base.parts.length = common.length + up.length := by
    rw [hup, List.length_append]
  refine ⟨up.length, down, ⟨?_, ?_, ?_⟩, ⟨common, hdown.symm⟩, ?_, rfl⟩
  · intro name hname
    exact hother.names name (hdown ▸ List.mem_append_right _ hname)
  · omega
  · intro name hname
    have hleft : base.parts[base.parts.length - up.length]? = up.head? := by
      rw [hlength, Nat.add_sub_cancel, hup, List.getElem?_append_right (Nat.le_refl _),
        Nat.sub_self, List.head?_eq_getElem?]
    rw [hleft]
    exact hturns name hname
  · rw [htext, routeText, List.map_const']

/-- **Normalized paths are in canonical form.** On the root of the working directory, such a path
is the text of a route, and no path to the same place has fewer parts; on another root, it is that
root followed by names. -/
theorem normalize_canonical (reported analysisRoot cwd : String)
    (hcwd : isAbsolute (toSlashes cwd.toList) = true) :
    '\\' ∉ (normalize reported analysisRoot cwd).toList ∧
      if (named reported analysisRoot cwd).root = (here cwd).root then
        ∃ climbs names, IsRoute (here cwd) climbs names ∧
          (normalize reported analysisRoot cwd).toList = routeText climbs names ∧
          ∀ p, (here cwd).along p = named reported analysisRoot cwd →
            climbs + names.length ≤ (p.splitOn '/').length
      else
        ∃ names, (∀ name ∈ names, IsName name) ∧
          (normalize reported analysisRoot cwd).toList =
            (named reported analysisRoot cwd).root.text ++ joinParts names := by
  have hnamed : (named reported analysisRoot cwd).IsResolved := isResolved_named hcwd _ _
  rw [toList_normalize hcwd]
  refine ⟨backslash_notMem_relative hnamed, ?_⟩
  split
  · next hroot =>
    obtain ⟨climbs, names, hroute, -, htext, hlength⟩ :=
      exists_isRoute_relative hnamed hroot.symm
    refine ⟨climbs, names, hroute, htext, fun p hp => ?_⟩
    rw [hlength]
    exact apart_le_length_splitOn hp
  · next hroot =>
    exact ⟨_, hnamed.names, relative_of_root_ne (Ne.symm hroot)⟩

/-- Out of the directory and down beside it. -/
theorem normalize_canonical_climbing :
    isAbsolute (toSlashes "/work/repo".toList) = true ∧
      ∃ climbs names, IsRoute (here "/work/repo") climbs names ∧
        "../other/a.py".toList = routeText climbs names ∧
        ∀ p, (here "/work/repo").along p = named "/work//other/./a.py" "." "/work/repo" →
          climbs + names.length ≤ (p.splitOn '/').length := by
  have hcwd : isAbsolute (toSlashes "/work/repo".toList) = true := by decide
  have hroot : (named "/work//other/./a.py" "." "/work/repo").root = (here "/work/repo").root := by
    decide
  have htext : (normalize "/work//other/./a.py" "." "/work/repo").toList =
      "../other/a.py".toList := by decide
  have hform := (normalize_canonical "/work//other/./a.py" "." "/work/repo" hcwd).2
  rw [if_pos hroot, htext] at hform
  exact ⟨hcwd, hform⟩

end LintReview.SourcePath

import LintReview.Proofs.SourcePath.Canonical

/-! Normalizing again. A normalized path is normalized to itself, but for one kind of names: below
the working directory `c:d` is a name like any other, and its path starts like one on a drive.
**Only such a path does not stay as it is, and it does if it happens to read as the full text of a
place on another drive** (`normalize_normalize_iff`). -/

namespace LintReview.SourcePath

/-- The path reads as the full text of a place on a drive, and not on the one of the root. -/
def OnOtherDrive (root : Root) (p : List Char) : Prop :=
  ∃ letter rest, p = letter :: ':' :: '/' :: rest ∧ letter.toUpper = letter ∧
    root ≠ .drive letter

variable {climbs : Nat} {c letter : Char} {p rest : List Char}
  {folded parts names : List (List Char)} {root : Root} {base other : Location} {cwd : String}

/-! ## Paths that start like one on a drive -/

/-- A route whose text starts like a path on a drive goes down only. -/
theorem climbs_eq_zero (h : HasDrive (routeText climbs names)) : climbs = 0 := by
  cases climbs with
  | zero => rfl
  | succ climbs =>
    obtain ⟨letter, rest, hletter, heq⟩ := h
    have hhead : (routeText (climbs + 1) names).head? = some '.' := by
      rw [routeText, List.replicate_succ, List.cons_append, joinParts]
      cases List.replicate climbs ['.', '.'] ++ names <;> rfl
    rw [heq] at hhead
    cases hhead
    cases hletter

/-- Characters are lost when parts are folded, and none are added. -/
theorem length_flatten_pushPart (root : Root) (folded : List (List Char)) (part : List Char) :
    (pushPart root folded part).flatten.length ≤ folded.flatten.length + part.length := by
  rcases pushPart_cases root folded part with h | h | h
  · rw [h]
    exact Nat.le_add_right _ _
  · rw [h, List.flatten_cons, List.length_append, Nat.add_comm]
  · rw [h]
    cases folded with
    | nil => exact Nat.zero_le _
    | cons inner outer =>
      rw [List.tail_cons, List.flatten_cons, List.length_append]
      omega

theorem length_flatten_foldl :
    (parts.foldl (pushPart root) folded).flatten.length ≤
      folded.flatten.length + parts.flatten.length := by
  induction parts generalizing folded with
  | nil => exact Nat.le_refl _
  | cons part parts ih =>
    have hpart := length_flatten_pushPart root folded part
    have hparts : (parts.foldl (pushPart root) (pushPart root folded part)).flatten.length ≤
        (pushPart root folded part).flatten.length + parts.flatten.length := ih
    rw [List.foldl_cons, List.flatten_cons, List.length_append]
    omega

theorem length_flatten_splitOn_cons (hc : c ≠ '/') (p : List Char) :
    ((c :: p).splitOn '/').flatten.length = (p.splitOn '/').flatten.length + 1 := by
  obtain ⟨first, others, hpieces⟩ := List.exists_cons_of_ne_nil (List.splitOn_ne_nil '/' p)
  rw [List.splitOn_cons_eq_if_modifyHead, if_neg (by simpa using hc), hpieces]
  simp only [List.modifyHead, List.flatten_cons, List.length_append, List.length_cons]
  omega

/-- Reading a drive takes two characters off the parts. -/
theorem length_flatten_ofText_drive (hletter : letter.isAlpha = true) (p : List Char) :
    (Location.ofText (letter :: ':' :: p)).parts.flatten.length + 2 ≤
      ((letter :: ':' :: p).splitOn '/').flatten.length := by
  have hslash : letter ≠ '/' := by
    rintro rfl
    cases hletter
  have hfold : ((p.splitOn '/').foldl (pushPart (.drive letter.toUpper)) []).flatten.length ≤
      0 + (p.splitOn '/').flatten.length := length_flatten_foldl
  have hparts : (Location.ofText (letter :: ':' :: p)).parts.flatten.length =
      ((p.splitOn '/').foldl (pushPart (.drive letter.toUpper)) []).flatten.length := by
    rw [ofText_drive hletter, Location.along, List.reverse_nil, List.length_flatten,
      List.map_reverse, List.sum_reverse, ← List.length_flatten]
  rw [hparts, length_flatten_splitOn_cons hslash, length_flatten_splitOn_cons (by decide)]
  omega

theorem root_ofText_drive (hletter : letter.isAlpha = true) :
    (Location.ofText (letter :: ':' :: p)).root = .drive letter.toUpper := by
  rw [ofText_drive hletter]
  rfl

/-- A path that starts like one on a drive, and leads to a place on the same root, is made of the
last names of that. -/
theorem splitOn_relative_of_hasDrive (hother : other.IsResolved) (hroot : base.root = other.root)
    (hdrive : HasDrive (relative base other)) :
    (∀ name ∈ (relative base other).splitOn '/', IsName name) ∧
      (relative base other).splitOn '/' <:+ other.parts := by
  obtain ⟨climbs, names, hroute, hsuffix, htext, -⟩ := exists_isRoute_relative hother hroot
  rw [htext] at hdrive ⊢
  obtain rfl : climbs = 0 := climbs_eq_zero hdrive
  have hsplit : (routeText 0 names).splitOn '/' = names := by
    apply splitOn_joinParts
    · exact fun name hname => (hroute.isName name hname).toIsPart
    · rintro rfl
      obtain ⟨letter, rest, -, heq⟩ := hdrive
      cases heq
  rw [hsplit]
  exact ⟨hroute.isName, hsuffix⟩

/-- On the drive that the path is read on, the path to that place is another one: its names would
have to be among the parts that were read, and these are shorter. -/
theorem relative_ofText_ne (hletter : letter.isAlpha = true)
    (hbackslash : '\\' ∉ letter :: ':' :: rest) (hroot : base.root = .drive letter.toUpper) :
    relative base (.ofText (letter :: ':' :: rest)) ≠ letter :: ':' :: rest := by
  intro hsame
  have hdrive : HasDrive (letter :: ':' :: rest) := ⟨letter, rest, hletter, rfl⟩
  have hread : (Location.ofText (letter :: ':' :: rest)).IsResolved :=
    isResolved_ofText (isAbsolute_iff.mpr (.inr hdrive)) hbackslash
  have hdrive' : HasDrive (relative base (.ofText (letter :: ':' :: rest))) := by
    rw [hsame]
    exact hdrive
  obtain ⟨-, before, hparts⟩ :=
    splitOn_relative_of_hasDrive hread (hroot.trans (root_ofText_drive hletter).symm) hdrive'
  have hlength := length_flatten_ofText_drive hletter rest
  rw [← hparts, hsame, List.flatten_append, List.length_append] at hlength
  omega

/-- On another root, the path to the place on the drive is the full text of that. -/
theorem relative_ofText_eq_iff (hletter : letter.isAlpha = true)
    (hnames : ∀ name ∈ (letter :: ':' :: rest).splitOn '/', IsName name)
    (hroot : base.root ≠ .drive letter.toUpper) :
    relative base (.ofText (letter :: ':' :: rest)) = letter :: ':' :: rest ↔
      letter.toUpper = letter ∧ ∃ below, rest = '/' :: below := by
  rw [relative_of_root_ne (by rwa [root_ofText_drive hletter]), root_ofText_drive hletter]
  constructor
  · intro hsame
    obtain ⟨hupper, hrest⟩ := List.cons.inj hsame
    exact ⟨hupper, _, (List.cons.inj hrest).2.symm⟩
  · rintro ⟨hupper, below, rfl⟩
    have hsplit : (letter :: ':' :: '/' :: below).splitOn '/' =
        [letter, ':'].splitOn '/' ++ below.splitOn '/' :=
      List.splitOn_append_cons_self [letter, ':'] below
    have hbelow : ∀ name ∈ below.splitOn '/', IsName name := fun name hname =>
      hnames name (hsplit ▸ List.mem_append_right _ hname)
    have htext : joinParts (below.splitOn '/') = below := List.intercalate_splitOn '/'
    have hparts : (Location.ofText (letter :: ':' :: '/' :: below)).parts = below.splitOn '/' := by
      rw [ofText_drive hletter, along_slash, ← htext, along_names hbelow, htext, List.nil_append]
    rw [hparts, htext, hupper]
    rfl

/-- A path that starts like one on a drive comes back just if it reads as a full text there. -/
theorem relative_ofText_relative_iff (hother : other.IsResolved) (hroot : base.root = other.root)
    (hdrive : HasDrive (relative base other)) :
    relative base (.ofText (relative base other)) = relative base other ↔
      OnOtherDrive base.root (relative base other) := by
  have hnames := (splitOn_relative_of_hasDrive hother hroot hdrive).1
  have hbackslash : '\\' ∉ relative base other := backslash_notMem_relative hother
  obtain ⟨letter, rest, hletter, heq⟩ := hdrive
  rw [heq] at hnames hbackslash ⊢
  by_cases hread : base.root = .drive letter.toUpper
  · refine iff_of_false (relative_ofText_ne hletter hbackslash hread) ?_
    rintro ⟨letter', below, htext, hupper, hne⟩
    cases htext
    rw [hupper] at hread
    exact hne hread
  · rw [relative_ofText_eq_iff hletter hnames hread]
    constructor
    · rintro ⟨hupper, below, rfl⟩
      rw [hupper] at hread
      exact ⟨letter, below, rfl, hupper, hread⟩
    · rintro ⟨letter', below, htext, hupper, -⟩
      cases htext
      exact ⟨hupper, below, rfl⟩

/-! ## Normalizing again -/

/-- No path from one location to another is an address. -/
theorem fileScheme_isPrefixOf?_relative (hother : other.IsResolved) :
    fileScheme.isPrefixOf? (relative base other) = none := by
  by_cases hroot : base.root = other.root
  · rw [relative_of_root_eq hroot]
    exact fileScheme_isPrefixOf?_joinParts (isPart_of_mem_steps hother)
  · rw [relative_of_root_ne hroot, List.isPrefixOf?_eq_none_iff]
    rintro ⟨rest, heq⟩
    obtain ⟨root, parts⟩ := other
    cases root with
    | floating => exact hother.root
    | slash => cases (List.cons.inj heq).1
    | drive letter => cases (List.cons.inj (List.cons.inj heq).2).1

section

variable (hcwd : isAbsolute (toSlashes cwd.toList) = true)
include hcwd

/-- A path that is no address names itself below the working directory, or by itself. -/
theorem named_dot {path : String} (hp : '\\' ∉ path.toList)
    (hfile : fileScheme.isPrefixOf? path.toList = none) :
    named path "." cwd =
      if isAbsolute path.toList then .ofText path.toList else (here cwd).along path.toList := by
  rw [← ofText_target_eq_named hcwd]
  exact ofText_target_dot hcwd backslash_notMem_toSlashes hp hfile

/-- Normalizing again leads to the place that the normalized path is read as. -/
theorem toList_normalize_normalize (reported analysisRoot : String) :
    (normalize (normalize reported analysisRoot cwd) "." cwd).toList =
      relative (here cwd)
        (if isAbsolute (normalize reported analysisRoot cwd).toList then
          .ofText (normalize reported analysisRoot cwd).toList
        else (here cwd).along (normalize reported analysisRoot cwd).toList) := by
  have hnamed : (named reported analysisRoot cwd).IsResolved := isResolved_named hcwd _ _
  rw [toList_normalize hcwd (normalize reported analysisRoot cwd), named_dot hcwd]
  · rw [toList_normalize hcwd]
    exact backslash_notMem_relative hnamed
  · rw [toList_normalize hcwd]
    exact fileScheme_isPrefixOf?_relative hnamed

end

/-- **Which normalized paths stay as they are.** All do on another root than that of the working
directory, and else all that do not start like a path on a drive, or that read as the full text of
a place on a drive that the working directory is not on. -/
theorem normalize_normalize_iff (reported analysisRoot cwd : String)
    (hcwd : isAbsolute (toSlashes cwd.toList) = true) :
    normalize (normalize reported analysisRoot cwd) "." cwd =
        normalize reported analysisRoot cwd ↔
      ((named reported analysisRoot cwd).root = (here cwd).root →
        HasDrive (normalize reported analysisRoot cwd).toList →
        OnOtherDrive (here cwd).root (normalize reported analysisRoot cwd).toList) := by
  have hnamed : (named reported analysisRoot cwd).IsResolved := isResolved_named hcwd _ _
  by_cases hroot : (named reported analysisRoot cwd).root = (here cwd).root
  · by_cases hdrive : HasDrive (normalize reported analysisRoot cwd).toList
    · have hagain := toList_normalize_normalize hcwd reported analysisRoot
      rw [if_pos (isAbsolute_iff.mpr (.inr hdrive))] at hagain
      rw [String.ext_iff, hagain, toList_normalize hcwd reported analysisRoot]
      rw [toList_normalize hcwd] at hdrive
      rw [relative_ofText_relative_iff hnamed hroot.symm hdrive]
      exact ⟨fun h _ _ => h, fun h => h hroot hdrive⟩
    · exact iff_of_true (normalize_normalize hcwd hdrive) fun _ h => absurd h hdrive
  · refine iff_of_true ?_ fun h => absurd h hroot
    have htext := toList_normalize hcwd reported analysisRoot
    have hfull := ofText_root_append hnamed fun letter => toUpper_of_root_named hcwd
    rw [relative_of_root_ne (Ne.symm hroot)] at htext
    rw [String.ext_iff, toList_normalize_normalize hcwd, htext, if_pos hfull.1, hfull.2,
      relative_of_root_ne (Ne.symm hroot)]

/-- A climb that stays, and a name like a drive that reads as the full text of a place there. -/
theorem normalize_normalize_iff_staying :
    isAbsolute (toSlashes "/work/repo".toList) = true ∧
      normalize (normalize "..\\x\\.\\a.py" "src/.." "/work/repo") "." "/work/repo" =
        normalize "..\\x\\.\\a.py" "src/.." "/work/repo" ∧
      normalize (normalize "./C:/a.py" "." "/work/repo") "." "/work/repo" =
        normalize "./C:/a.py" "." "/work/repo" := by
  have hcwd : isAbsolute (toSlashes "/work/repo".toList) = true := by decide
  refine ⟨hcwd, (normalize_normalize_iff _ _ _ hcwd).mpr fun _ hdrive => ?_,
    (normalize_normalize_iff _ _ _ hcwd).mpr fun _ _ => ?_⟩
  · exact absurd hdrive (by decide)
  · exact ⟨'C', "a.py".toList, by decide, by decide, by decide⟩

/-- The path of the file `c:d` below the working directory does not stay as it is. -/
theorem normalize_normalize_colon :
    isAbsolute (toSlashes "/work/repo".toList) = true ∧
      normalize "./c:d" "." "/work/repo" = "c:d" ∧ normalize "c:d" "." "/work/repo" = "C:/d" ∧
      normalize (normalize "./c:d" "." "/work/repo") "." "/work/repo" ≠
        normalize "./c:d" "." "/work/repo" := by
  decide

end LintReview.SourcePath

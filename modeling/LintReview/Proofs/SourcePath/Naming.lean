import Mathlib
import LintReview.Proofs.SourcePath.Resolution

/-! The file that a tool names. A reported path names a location (`named`): by itself if it is
absolute, and else as it is followed from the analysis root, which is followed from the working
directory unless it is absolute. **Its normalized path leads from the working directory to the
location that it names, and two paths on the root of the working directory are normalized to the
same one just if they name the same location** (`normalize_leadsTo`). -/

namespace LintReview.SourcePath

/-- A reported path in slashes, less the mark of a file address. -/
def reportedPath (reported : String) : List Char :=
  toSlashes ((fileScheme.isPrefixOf? reported.toList).getD reported.toList)

/-- The location of the working directory. -/
def here (cwd : String) : Location := .ofText (toSlashes cwd.toList)

/-- The location of the file that a tool names. -/
def named (reported analysisRoot cwd : String) : Location :=
  let path := reportedPath reported
  let base := toSlashes analysisRoot.toList
  if isAbsolute path then .ofText path
  else if isAbsolute base then (Location.ofText base).along path
  else ((here cwd).along base).along path

/-- The path leads to the location: followed from the working directory if both are on the same
root, and as the absolute path of the location if they are not. -/
def LeadsTo (cwd : String) (path : List Char) (there : Location) : Prop :=
  if (here cwd).root = there.root then
    Location.ofText (toSlashes cwd.toList ++ '/' :: path) = there
  else isAbsolute path = true ∧ Location.ofText path = there

/-- The text leads nowhere: it is empty or a dot, or goes back out of the directory it enters. -/
def Idle (mid : List Char) : Prop :=
  mid = [] ∨ mid = ['.'] ∨ ∃ name, IsName name ∧ mid = name ++ ['/', '.', '.']

/-- The second path is a spelling of the first one. -/
inductive Respells : List Char → List Char → Prop
  | same : Respells p p
  | inside : Idle mid → Respells (p ++ '/' :: q) (p ++ '/' :: (mid ++ '/' :: q))
  | front : isAbsolute q = false → Respells q ('.' :: '/' :: q)

variable {p q mid : List Char} {l base other : Location} {reported analysisRoot cwd : String}

/-! ## Joined paths -/

/-- What follows a slash leads on from what stands in front of it. -/
theorem ofText_append_slash (h : isAbsolute p = true) :
    Location.ofText (p ++ '/' :: q) = (Location.ofText p).along q := by
  rcases isAbsolute_iff.mp h with hhead | ⟨letter, rest, hletter, rfl⟩
  · have hhead' : (p ++ '/' :: q).head? = some '/' := by
      rw [List.head?_append, hhead]
      rfl
    rw [ofText_of_head? hhead', ofText_of_head? hhead, along_append_slash]
  · rw [List.cons_append, List.cons_append, ofText_drive hletter, ofText_drive hletter,
      along_append_slash]

theorem along_join : l.along (join p q) = (l.along p).along q := by
  unfold join
  split
  · next hp => rw [List.isEmpty_iff.mp hp, along_nil]
  split
  · next hq => rw [List.isEmpty_iff.mp hq, along_nil]
  · rw [along_append_slash, along_dropTrailingSlashes]

/-- Whether a path is absolute shows before its first slash, or in it. -/
theorem isAbsolute_append_slash (hp : p ≠ []) :
    isAbsolute (p ++ '/' :: q) = isAbsolute p := by
  rw [Bool.eq_iff_iff, isAbsolute_iff, isAbsolute_iff, List.head?_append_of_ne_nil _ hp]
  refine or_congr_right ⟨?_, ?_⟩
  · rintro ⟨letter, rest, hletter, heq⟩
    cases p with
    | nil => exact absurd rfl hp
    | cons c p =>
      cases p with
      | nil => cases heq
      | cons d p =>
        cases heq
        exact ⟨letter, p, hletter, rfl⟩
  · rintro ⟨letter, rest, hletter, rfl⟩
    exact ⟨letter, rest ++ '/' :: q, hletter, rfl⟩

theorem isAbsolute_dropTrailingSlashes (hp : p ≠ []) :
    isAbsolute (dropTrailingSlashes p ++ '/' :: q) = isAbsolute p := by
  induction p using List.reverseRecOn with
  | nil => exact absurd rfl hp
  | append_singleton p c ih =>
    by_cases hc : c = '/'
    · rw [hc, dropTrailingSlashes_concat_slash]
      by_cases hnil : p = []
      · rw [hnil]
        rfl
      · rw [ih hnil, isAbsolute_append_slash hnil]
    · rw [dropTrailingSlashes_concat hc, isAbsolute_append_slash hp]

/-- A path below another one is absolute just if that is. -/
theorem isAbsolute_join (hq : isAbsolute q = false) : isAbsolute (join p q) = isAbsolute p := by
  unfold join
  split
  · next hp =>
    rw [List.isEmpty_iff.mp hp, hq]
    rfl
  split
  · rfl
  · next hp _ => exact isAbsolute_dropTrailingSlashes (by simpa using hp)

/-! ## Spellings -/

theorem along_idle (hmid : Idle mid) (hl : l.IsResolved) : l.along mid = l := by
  rcases hmid with rfl | rfl | ⟨name, hname, rfl⟩
  · exact along_nil
  · exact along_dot
  · have hdown : l.along (joinParts [name]) = { l with parts := l.parts ++ [name] } :=
      along_names (List.forall_mem_singleton.mpr hname)
    have hup : (['.', '.'] : List Char).splitOn '/' = [['.', '.']] := rfl
    have hnames : ∀ n ∈ (l.parts ++ [name]).reverse, IsName n := fun n hn => by
      rcases List.mem_append.mp (List.mem_reverse.mp hn) with hn | hn
      · exact hl.names n hn
      · exact List.mem_singleton.mp hn ▸ hname
    rw [joinParts, List.intercalate_singleton] at hdown
    rw [along_append_slash, hdown, Location.along, hup, List.foldl_cons, List.foldl_nil,
      pushPart_up hl.root hnames, List.reverse_append, List.reverse_singleton,
      List.singleton_append, List.tail_cons, List.reverse_reverse]

theorem Respells.along_eq (h : Respells p q) (hl : l.IsResolved) (hp : '\\' ∉ p) :
    l.along q = l.along p := by
  cases h with
  | same => rfl
  | @inside mid start rest hmid =>
    have hstart : '\\' ∉ start := fun hmem => hp (List.mem_append_left _ hmem)
    rw [along_append_slash, along_append_slash, along_idle hmid (hl.along hstart),
      along_append_slash]
  | front =>
    change l.along (['.'] ++ '/' :: p) = _
    rw [along_append_slash, along_dot]

theorem Respells.isAbsolute_eq (h : Respells p q) : isAbsolute q = isAbsolute p := by
  cases h with
  | same => rfl
  | @inside mid start rest =>
    by_cases hnil : start = []
    · rw [hnil]
      rfl
    · rw [isAbsolute_append_slash hnil, isAbsolute_append_slash hnil]
  | front hq =>
    rw [hq]
    rfl

theorem Respells.ofText_eq (h : Respells p q) (habsolute : isAbsolute p = true)
    (hp : '\\' ∉ p) : Location.ofText q = Location.ofText p := by
  cases h with
  | same => rfl
  | @inside mid start rest hmid =>
    by_cases hnil : start = []
    · rw [hnil, List.nil_append, List.nil_append, ofText_of_head? rfl, ofText_of_head? rfl,
        along_slash, along_slash, along_append_slash,
        along_idle (l := ⟨.slash, []⟩) hmid ⟨trivial, List.forall_mem_nil _⟩]
    · have hstart : isAbsolute start = true := isAbsolute_append_slash hnil ▸ habsolute
      have hbackslash : '\\' ∉ start := fun hmem => hp (List.mem_append_left _ hmem)
      rw [ofText_append_slash hstart, ofText_append_slash hstart, along_append_slash,
        along_idle hmid (isResolved_ofText hstart hbackslash)]
  | front hq => cases habsolute.symm.trans hq

/-! ## Locations in full -/

/-- A drive letter is read as a capital. -/
theorem toUpper_of_root_ofText {letter : Char} (h : (Location.ofText p).root = .drive letter) :
    letter.toUpper = letter := by
  unfold Location.ofText at h
  split at h
  · cases h
    exact Char.toUpper_toUpper_eq_toUpper _
  · simp only at h
    split at h <;> cases h

/-- The text of a location, in full, is an absolute path that names it. -/
theorem ofText_root_append (h : other.IsResolved)
    (hupper : ∀ letter, other.root = .drive letter → letter.toUpper = letter) :
    isAbsolute (other.root.text ++ joinParts other.parts) = true ∧
      Location.ofText (other.root.text ++ joinParts other.parts) = other := by
  obtain ⟨root, parts⟩ := other
  have hnames : ∀ name ∈ parts, IsName name := h.names
  cases root with
  | floating => exact h.root.elim
  | slash =>
    refine ⟨rfl, ?_⟩
    change Location.ofText ('/' :: joinParts parts) = _
    rw [ofText_of_head? rfl, along_slash, along_names hnames, List.nil_append]
  | drive letter =>
    have hletter : letter.isAlpha = true := h.root
    refine ⟨isAbsolute_iff.mpr (.inr ⟨letter, _, hletter, rfl⟩), ?_⟩
    change Location.ofText (letter :: ':' :: '/' :: joinParts parts) = _
    rw [ofText_drive hletter, along_slash, along_names hnames, List.nil_append, hupper letter rfl]

/-! ## What a path names -/

section

variable (hcwd : isAbsolute (toSlashes cwd.toList) = true)
include hcwd

theorem ofText_target_eq_named :
    Location.ofText (target reported.toList analysisRoot.toList (toSlashes cwd.toList)) =
      named reported analysisRoot cwd := by
  have hslashes : toSlashes (toSlashes cwd.toList) = toSlashes cwd.toList :=
    toSlashes_of_notMem backslash_notMem_toSlashes
  unfold target named reportedPath
  rw [hslashes]
  extract_lets path below base
  by_cases hpath : isAbsolute path = true
  · simp only [below, if_pos hpath]
  have hjoin : isAbsolute (join base path) = isAbsolute base :=
    isAbsolute_join (Bool.eq_false_iff.mpr hpath)
  have hbelow : below = join base path := if_neg hpath
  rw [if_neg hpath, hbelow, hjoin]
  by_cases hbase : isAbsolute base = true
  · rw [if_pos hbase, if_pos hbase, ofText_join hbase]
  · rw [if_neg hbase, if_neg hbase, ofText_join hcwd, along_join]
    rfl

theorem isResolved_here : (here cwd).IsResolved :=
  isResolved_ofText hcwd backslash_notMem_toSlashes

theorem isResolved_named (reported analysisRoot : String) :
    (named reported analysisRoot cwd).IsResolved := by
  rw [← ofText_target_eq_named hcwd]
  exact isResolved_target hcwd backslash_notMem_toSlashes _ _

/-- The normalized path is the one from the working directory to the location that is named. -/
theorem toList_normalize (reported analysisRoot : String) :
    (normalize reported analysisRoot cwd).toList =
      relative (here cwd) (named reported analysisRoot cwd) := by
  rw [normalize, String.toList_ofList, ofText_target_eq_named hcwd]
  rfl

theorem toUpper_of_root_named {letter : Char}
    (h : (named reported analysisRoot cwd).root = .drive letter) : letter.toUpper = letter := by
  rw [← ofText_target_eq_named hcwd] at h
  exact toUpper_of_root_ofText h

/-- Spellings of a reported path name the same file. -/
theorem named_of_respells {reported reported' : String}
    (h : Respells (reportedPath reported) (reportedPath reported')) :
    named reported' analysisRoot cwd = named reported analysisRoot cwd := by
  have hbackslash : '\\' ∉ reportedPath reported := backslash_notMem_toSlashes
  unfold named
  extract_lets path base path'
  rw [h.isAbsolute_eq]
  split
  · next habsolute => exact h.ofText_eq habsolute hbackslash
  split
  · next hbase =>
    exact h.along_eq (isResolved_ofText hbase backslash_notMem_toSlashes) hbackslash
  · exact h.along_eq ((isResolved_here hcwd).along backslash_notMem_toSlashes) hbackslash

theorem leadsTo_normalize (reported analysisRoot : String) :
    LeadsTo cwd (normalize reported analysisRoot cwd).toList
      (named reported analysisRoot cwd) := by
  have hnamed : (named reported analysisRoot cwd).IsResolved := isResolved_named hcwd _ _
  unfold LeadsTo
  rw [toList_normalize hcwd]
  split
  · next hroot =>
    rw [ofText_append_slash hcwd]
    exact along_relative (isResolved_here hcwd) hnamed hroot
  · next hroot =>
    rw [relative_of_root_ne hroot]
    exact ofText_root_append hnamed fun letter => toUpper_of_root_named hcwd

end

/-- **Normalized paths name the right files.** The target of a reported path is the file that it
names, to which the normalized path leads; on the root of the working directory, two reported
paths are normalized to the same path just if they name the same file. In particular, spellings
of one path are. -/
theorem normalize_leadsTo (cwd : String) (hcwd : isAbsolute (toSlashes cwd.toList) = true) :
    (∀ reported analysisRoot : String,
      Location.ofText (target reported.toList analysisRoot.toList (toSlashes cwd.toList)) =
          named reported analysisRoot cwd ∧
        LeadsTo cwd (normalize reported analysisRoot cwd).toList
          (named reported analysisRoot cwd)) ∧
      (∀ reported reported' analysisRoot analysisRoot' : String,
        (named reported analysisRoot cwd).root = (here cwd).root →
        (named reported' analysisRoot' cwd).root = (here cwd).root →
        (normalize reported analysisRoot cwd = normalize reported' analysisRoot' cwd ↔
          named reported analysisRoot cwd = named reported' analysisRoot' cwd)) ∧
      ∀ reported reported' analysisRoot : String,
        Respells (reportedPath reported) (reportedPath reported') →
        normalize reported' analysisRoot cwd = normalize reported analysisRoot cwd := by
  refine ⟨fun reported analysisRoot =>
    ⟨ofText_target_eq_named hcwd, leadsTo_normalize hcwd reported analysisRoot⟩, ?_, ?_⟩
  · intro reported reported' analysisRoot analysisRoot' hroot hroot'
    constructor
    · intro hsame
      have hleads := leadsTo_normalize hcwd reported analysisRoot
      have hleads' := leadsTo_normalize hcwd reported' analysisRoot'
      rw [LeadsTo, if_pos hroot.symm] at hleads
      rw [LeadsTo, if_pos hroot'.symm, ← hsame] at hleads'
      exact hleads.symm.trans hleads'
    · intro hsame
      rw [String.ext_iff, toList_normalize hcwd, toList_normalize hcwd, hsame]
  · intro reported reported' analysisRoot hspelling
    rw [String.ext_iff, toList_normalize hcwd, toList_normalize hcwd,
      named_of_respells hcwd hspelling]

/-- A working directory on a drive, a file beside it that is named in two ways, a detour, and a file
on another drive. -/
theorem normalize_leadsTo_drives :
    isAbsolute (toSlashes "C:\\work".toList) = true ∧
      LeadsTo "C:\\work" "../lib/a.py".toList ⟨.drive 'C', ["lib".toList, "a.py".toList]⟩ ∧
      LeadsTo "C:\\work" "D:/a.py".toList ⟨.drive 'D', ["a.py".toList]⟩ ∧
      (named "file:///c:/lib//a.py" "." "C:\\work").root = (here "C:\\work").root ∧
      (named "a.py" "..\\lib" "C:\\work").root = (here "C:\\work").root ∧
      normalize "file:///c:/lib//a.py" "." "C:\\work" = normalize "a.py" "..\\lib" "C:\\work" ∧
      Respells (reportedPath "b\\c.py") (reportedPath "b/d/../c.py") ∧
      normalize "b/d/../c.py" "." "C:\\work" = normalize "b\\c.py" "." "C:\\work" := by
  have hcwd : isAbsolute (toSlashes "C:\\work".toList) = true := by decide
  have hroot : (named "file:///c:/lib//a.py" "." "C:\\work").root = (here "C:\\work").root := by
    decide
  have hroot' : (named "a.py" "..\\lib" "C:\\work").root = (here "C:\\work").root := by decide
  have hspelling : Respells (reportedPath "b\\c.py") (reportedPath "b/d/../c.py") :=
    Respells.inside (p := ['b']) (q := ['c', '.', 'p', 'y'])
      (.inr (.inr ⟨['d'], ⟨⟨by decide, by decide, by decide⟩, by decide, by decide⟩, rfl⟩))
  obtain ⟨hleads, hsame, hrespelled⟩ := normalize_leadsTo "C:\\work" hcwd
  have hbeside : LeadsTo "C:\\work" "../lib/a.py".toList
      ⟨.drive 'C', ["lib".toList, "a.py".toList]⟩ :=
    (hleads "a.py" "..\\lib").2
  have hother : LeadsTo "C:\\work" "D:/a.py".toList ⟨.drive 'D', ["a.py".toList]⟩ :=
    (hleads "d:\\a.py" ".").2
  exact ⟨hcwd, hbeside, hother, hroot, hroot', (hsame _ _ _ _ hroot hroot').mpr (by decide),
    hspelling, hrespelled _ _ _ hspelling⟩

end LintReview.SourcePath

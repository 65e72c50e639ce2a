import Mathlib.Data.List.DropRight
import Mathlib.Data.List.Induction
import LintReview.Proofs.Text.Infix
import LintReview.Proofs.Text.Words
import LintReview.SourcePath

/-! Absolute paths, and other paths as seen from them. A slash path is followed part by part from
one location to another (`Location.along`), and on a fixed root nothing but names is left on the
way (`Location.IsResolved.along`). **The path from one location to another on the same root leads
there** (`along_relative`), and so a normalized path that is normalized again stays as it is
(`normalize_normalize`).

The exception is a name with a letter and a colon at its start, such as `c:d`. Below the working
directory it is a name like any other, but a path that starts with it is on a drive. -/

namespace LintReview.SourcePath

/-! ## Names -/

/-- A part as a path shows it between two slashes. -/
structure IsPart (part : List Char) : Prop where
  ne_nil : part ≠ []
  slash_notMem : '/' ∉ part
  backslash_notMem : '\\' ∉ part

/-- A part that is not folded away. -/
structure IsName (part : List Char) : Prop extends IsPart part where
  ne_dot : part ≠ ['.']
  ne_up : part ≠ ['.', '.']

def Root.IsFixed : Root → Prop
  | floating => False
  | slash => True
  | drive letter => letter.isAlpha = true

/-- The location of an absolute path. -/
structure Location.IsResolved (l : Location) : Prop where
  root : l.root.IsFixed
  names : ∀ part ∈ l.parts, IsName part

/-- The path starts with a letter and a colon. -/
def HasDrive (p : List Char) : Prop :=
  ∃ letter rest, letter.isAlpha = true ∧ p = letter :: ':' :: rest

/-- Where a slash path leads from a location. -/
def Location.along (l : Location) (p : List Char) : Location :=
  { l with parts := ((p.splitOn '/').foldl (pushPart l.root) l.parts.reverse).reverse }

variable {c : Char} {root : Root} {part p q cwd : List Char} {folded parts up : List (List Char)}
  {l base other : Location}

/-! ## One part more -/

theorem pushPart_nil : pushPart root folded [] = folded := if_pos (.inl rfl)

theorem pushPart_dot : pushPart root folded ['.'] = folded := if_pos (.inr rfl)

theorem pushPart_of_isName (h : IsName part) : pushPart root folded part = part :: folded := by
  unfold pushPart
  rw [if_neg (not_or.mpr ⟨h.ne_nil, h.ne_dot⟩), if_neg h.ne_up]

theorem pushPart_up (hroot : root.IsFixed) (hfolded : ∀ n ∈ folded, IsName n) :
    pushPart root folded ['.', '.'] = folded.tail := by
  have hfixed : root ≠ .floating := by
    rintro rfl
    exact hroot
  cases folded with
  | nil => simp [pushPart, hfixed]
  | cons inner outer => simp [pushPart, (hfolded inner List.mem_cons_self).ne_up]

/-- What is folded on a fixed root remains a list of names. -/
theorem isName_pushPart (hroot : root.IsFixed) (hfolded : ∀ n ∈ folded, IsName n)
    (hslash : '/' ∉ part) (hbackslash : '\\' ∉ part) :
    ∀ n ∈ pushPart root folded part, IsName n := by
  by_cases hnil : part = []
  · rwa [hnil, pushPart_nil]
  by_cases hdot : part = ['.']
  · rwa [hdot, pushPart_dot]
  by_cases hup : part = ['.', '.']
  · rw [hup, pushPart_up hroot hfolded]
    exact fun n hn => hfolded n (List.mem_of_mem_tail hn)
  · have hname : IsName part := ⟨⟨hnil, hslash, hbackslash⟩, hdot, hup⟩
    rw [pushPart_of_isName hname]
    exact List.forall_mem_cons.mpr ⟨hname, hfolded⟩

theorem isName_foldl (hroot : root.IsFixed) (hfolded : ∀ n ∈ folded, IsName n)
    (hparts : ∀ part ∈ parts, '/' ∉ part ∧ '\\' ∉ part) :
    ∀ n ∈ parts.foldl (pushPart root) folded, IsName n := by
  induction parts generalizing folded with
  | nil => exact hfolded
  | cons part parts ih =>
    obtain ⟨hpart, hparts⟩ := List.forall_mem_cons.mp hparts
    exact ih (isName_pushPart hroot hfolded hpart.1 hpart.2) hparts

theorem foldl_names (h : ∀ n ∈ parts, IsName n) :
    parts.foldl (pushPart root) folded = parts.reverse ++ folded := by
  induction parts generalizing folded with
  | nil => rfl
  | cons part parts ih =>
    obtain ⟨hpart, hparts⟩ := List.forall_mem_cons.mp h
    rw [List.foldl_cons, pushPart_of_isName hpart, ih hparts, List.reverse_cons, List.append_assoc,
      List.singleton_append]

/-- Each `..` takes a name away, and does nothing when there is none on a fixed root. -/
theorem foldl_ups (hroot : root.IsFixed) (hfolded : ∀ n ∈ folded, IsName n) :
    (up.map fun _ => ['.', '.']).foldl (pushPart root) folded = folded.drop up.length := by
  induction up generalizing folded with
  | nil => rfl
  | cons _ up ih =>
    rw [List.map_cons, List.foldl_cons, pushPart_up hroot hfolded,
      ih fun n hn => hfolded n (List.mem_of_mem_tail hn), List.drop_tail, List.length_cons]

/-! ## Along a path -/

@[simp]
theorem along_nil : l.along [] = l := by
  simp only [Location.along, List.splitOn_nil, List.foldl_cons, List.foldl_nil, pushPart_nil,
    List.reverse_reverse]

@[simp]
theorem along_append_slash : l.along (p ++ '/' :: q) = (l.along p).along q := by
  simp only [Location.along, List.splitOn_append_cons_self, List.foldl_append,
    List.reverse_reverse]

@[simp]
theorem along_slash : l.along ('/' :: q) = l.along q := by
  rw [← List.nil_append ('/' :: q), along_append_slash, along_nil]

@[simp]
theorem along_dot : l.along ['.'] = l := by
  have hsingle : ['.'].splitOn '/' = [['.']] := rfl
  simp only [Location.along, hsingle, List.foldl_cons, List.foldl_nil, pushPart_dot,
    List.reverse_reverse]

theorem dropTrailingSlashes_concat_slash :
    dropTrailingSlashes (p ++ ['/']) = dropTrailingSlashes p := by
  simp [dropTrailingSlashes]

theorem dropTrailingSlashes_concat (hc : c ≠ '/') :
    dropTrailingSlashes (p ++ [c]) = p ++ [c] := by
  simp [dropTrailingSlashes, hc]

theorem along_dropTrailingSlashes : l.along (dropTrailingSlashes p) = l.along p := by
  induction p using List.reverseRecOn with
  | nil => rfl
  | append_singleton p c ih =>
    by_cases hc : c = '/'
    · rw [hc, dropTrailingSlashes_concat_slash, ih, along_append_slash, along_nil]
    · rw [dropTrailingSlashes_concat hc]

/-- Only the slashes behind the last other character go. -/
theorem dropTrailingSlashes_append_cons (hc : c ≠ '/') :
    dropTrailingSlashes (p ++ c :: q) = p ++ c :: dropTrailingSlashes q := by
  induction q using List.reverseRecOn with
  | nil => exact dropTrailingSlashes_concat hc
  | append_singleton q d ih =>
    rw [← List.cons_append, ← List.append_assoc]
    by_cases hd : d = '/'
    · rw [hd, dropTrailingSlashes_concat_slash, dropTrailingSlashes_concat_slash, ih]
    · rw [dropTrailingSlashes_concat hd, dropTrailingSlashes_concat hd, List.append_assoc,
        List.cons_append]

theorem splitOn_joinParts (hparts : ∀ part ∈ parts, IsPart part) (hne : parts ≠ []) :
    (joinParts parts).splitOn '/' = parts :=
  List.splitOn_intercalate '/' (fun part hpart => (hparts part hpart).slash_notMem) hne

theorem along_joinParts (hparts : ∀ part ∈ parts, IsPart part) : l.along (joinParts parts) =
    { l with parts := (parts.foldl (pushPart l.root) l.parts.reverse).reverse } := by
  by_cases hnil : parts = []
  · rw [hnil]
    exact along_nil.trans (by rw [List.foldl_nil, List.reverse_reverse])
  · rw [Location.along, splitOn_joinParts hparts hnil]

/-- A path of names leads down. -/
theorem along_names (hnames : ∀ n ∈ parts, IsName n) :
    l.along (joinParts parts) = { l with parts := l.parts ++ parts } := by
  rw [along_joinParts fun n hn => (hnames n hn).toIsPart, foldl_names hnames, List.reverse_append,
    List.reverse_reverse, List.reverse_reverse]

theorem Location.IsResolved.along (h : l.IsResolved) (hp : '\\' ∉ p) : (l.along p).IsResolved := by
  refine ⟨h.root, fun n hn => ?_⟩
  refine isName_foldl h.root (fun n hn => h.names n (List.mem_reverse.mp hn)) (fun part hpart => ?_)
    n (List.mem_reverse.mp hn)
  obtain ⟨hsub, hslash⟩ := List.subset_and_notMem_of_mem_splitOn hpart
  exact ⟨hslash, fun hmem => hp (hsub hmem)⟩

/-! ## Absolute paths -/

theorem isSome_drive? : (drive? p).isSome = true ↔ HasDrive p := by
  unfold drive? HasDrive
  split
  · next letter rest => by_cases h : letter.isAlpha = true <;> simp [h]
  · next hnot => exact iff_of_false (by simp) fun ⟨letter, rest, _, h⟩ => hnot letter rest h

instance : DecidablePred HasDrive := fun _ => decidable_of_iff _ isSome_drive?

theorem isAbsolute_iff : isAbsolute p = true ↔ p.head? = some '/' ∨ HasDrive p := by
  rw [isAbsolute, Bool.or_eq_true, decide_eq_true_eq, isSome_drive?]

theorem ofText_of_head? (h : p.head? = some '/') :
    Location.ofText p = Location.along ⟨.slash, []⟩ p := by
  obtain ⟨rest, rfl⟩ : ∃ rest, p = '/' :: rest := by
    cases p with
    | nil => cases h
    | cons c rest => exact ⟨rest, by rw [Option.some.inj h]⟩
  have hdrive : drive? ('/' :: rest) = none := by
    unfold drive?
    split <;> simp_all
  rw [Location.ofText, hdrive]
  rfl

theorem ofText_drive {letter : Char} (h : letter.isAlpha = true) :
    Location.ofText (letter :: ':' :: p) = Location.along ⟨.drive letter.toUpper, []⟩ p := by
  rw [Location.ofText, drive?, if_pos h]
  rfl

/-- A drive letter stays a letter in upper case. -/
theorem isAlpha_toUpper (h : c.isAlpha = true) : c.toUpper.isAlpha = true := by
  unfold Char.toUpper
  split
  · next hlower =>
    have hfirst : 97 ≤ c.val.toNat := UInt32.le_iff_toNat_le.mp hlower.1
    have hlast : c.val.toNat ≤ 122 := UInt32.le_iff_toNat_le.mp hlower.2
    have hoffset : ('A'.val - 'a'.val).toNat = 2 ^ 32 - 32 := rfl
    have hvalue : (c.val + ('A'.val - 'a'.val)).toNat = c.val.toNat - 32 := by
      rw [UInt32.toNat_add, hoffset]
      omega
    refine Bool.or_eq_true_iff.mpr (.inl (decide_eq_true ⟨?_, ?_⟩))
    · refine UInt32.le_iff_toNat_le.mpr ?_
      rw [hvalue]
      exact Nat.le_sub_of_add_le hfirst
    · refine UInt32.le_iff_toNat_le.mpr ?_
      rw [hvalue]
      exact Nat.sub_le_of_le_add hlast
  · exact h

theorem isResolved_ofText (habsolute : isAbsolute p = true) (hp : '\\' ∉ p) :
    (Location.ofText p).IsResolved := by
  have hroot (r : Root) (h : r.IsFixed) : (⟨r, []⟩ : Location).IsResolved :=
    ⟨h, List.forall_mem_nil _⟩
  rcases isAbsolute_iff.mp habsolute with hhead | ⟨letter, rest, hletter, rfl⟩
  · rw [ofText_of_head? hhead]
    exact (hroot .slash trivial).along hp
  · rw [ofText_drive hletter]
    refine (hroot (.drive _) (isAlpha_toUpper hletter)).along fun hmem => hp ?_
    exact List.mem_cons_of_mem _ (List.mem_cons_of_mem _ hmem)

/-- A path below an absolute one leads on from there. -/
theorem ofText_join (h : isAbsolute p = true) :
    Location.ofText (join p q) = (Location.ofText p).along q := by
  have hp : p ≠ [] := by
    rintro rfl
    cases h
  rw [join, if_neg (by simpa using hp)]
  by_cases hq : q = []
  · rw [hq, if_pos (by rfl), along_nil]
  rw [if_neg (by simpa using hq)]
  rcases isAbsolute_iff.mp h with hhead | ⟨letter, rest, hletter, rfl⟩
  · have hhead' : (dropTrailingSlashes p ++ '/' :: q).head? = some '/' := by
      obtain ⟨slashes, hslashes⟩ : dropTrailingSlashes p <+: p := List.rdropWhile_prefix _ _
      cases hdrop : dropTrailingSlashes p with
      | nil => rfl
      | cons c rest =>
        rw [hdrop] at hslashes
        rw [← hslashes] at hhead
        exact hhead
    rw [ofText_of_head? hhead', ofText_of_head? hhead, along_append_slash,
      along_dropTrailingSlashes]
  · have hdrop : dropTrailingSlashes (letter :: ':' :: rest) =
        letter :: ':' :: dropTrailingSlashes rest :=
      dropTrailingSlashes_append_cons (p := [letter]) (by decide)
    rw [hdrop, List.cons_append, List.cons_append, ofText_drive hletter, ofText_drive hletter,
      along_append_slash, along_dropTrailingSlashes]

/-! ## Backslashes -/

theorem backslash_notMem_toSlashes : '\\' ∉ toSlashes p := by
  intro h
  obtain ⟨c, -, hc⟩ := List.mem_map.mp h
  split at hc
  · cases hc
  · next hne => exact hne hc

theorem toSlashes_of_notMem (h : '\\' ∉ p) : toSlashes p = p := by
  have hsame : ∀ c ∈ p, (if c = '\\' then '/' else c) = id c := by
    rintro c hc
    rw [if_neg (by rintro rfl; exact h hc), id]
  rw [toSlashes, List.map_congr_left hsame, List.map_id]

theorem backslash_notMem_join (hp : '\\' ∉ p) (hq : '\\' ∉ q) : '\\' ∉ join p q := by
  unfold join
  split
  · exact hq
  split
  · exact hp
  · have hsub : dropTrailingSlashes p ⊆ p := (List.rdropWhile_prefix _ _).subset
    simp only [List.mem_append, List.mem_cons, not_or]
    exact ⟨fun h => hp (hsub h), by decide, hq⟩

/-! ## The file a tool names -/

section

variable (hcwd : isAbsolute cwd = true) (hslashes : '\\' ∉ cwd)
include hcwd hslashes

/-- A tool names an absolute path, or one that is followed from the working directory. -/
theorem ofText_target (reported analysisRoot : List Char) :
    ∃ below, '\\' ∉ below ∧ Location.ofText (target reported analysisRoot cwd) =
      if isAbsolute below then .ofText below else (Location.ofText cwd).along below := by
  unfold target
  extract_lets reported below
  have hreported : '\\' ∉ reported := backslash_notMem_toSlashes
  have hbelow : '\\' ∉ below := by
    simp only [below]
    split
    · exact hreported
    · exact backslash_notMem_join backslash_notMem_toSlashes hreported
  refine ⟨below, hbelow, ?_⟩
  rw [apply_ite Location.ofText, toSlashes_of_notMem hslashes, ofText_join hcwd]

theorem isResolved_target (reported analysisRoot : List Char) :
    (Location.ofText (target reported analysisRoot cwd)).IsResolved := by
  obtain ⟨below, hbelow, heq⟩ := ofText_target hcwd hslashes reported analysisRoot
  rw [heq]
  split
  · next habsolute => exact isResolved_ofText habsolute hbelow
  · exact (isResolved_ofText hcwd hslashes).along hbelow

/-- A path that is no address is named by itself in the working directory. -/
theorem ofText_target_dot (hp : '\\' ∉ p) (hfile : fileScheme.isPrefixOf? p = none) :
    Location.ofText (target p ['.'] cwd) =
      if isAbsolute p then .ofText p else (Location.ofText cwd).along p := by
  have hdot : toSlashes ['.'] = ['.'] := rfl
  simp only [target, hfile, Option.getD_none, toSlashes_of_notMem hp, hdot,
    toSlashes_of_notMem hslashes]
  by_cases habsolute : isAbsolute p = true
  · simp only [if_pos habsolute]
  · have hbelow : isAbsolute (join ['.'] p) = false := by
      cases p with
      | nil => rfl
      | cons c p => rfl
    have hsame (l : Location) : l.along (join ['.'] p) = l.along p := by
      cases p with
      | nil => exact along_dot.trans along_nil.symm
      | cons c p =>
        have hjoin : join ['.'] (c :: p) = ['.'] ++ '/' :: (c :: p) := rfl
        rw [hjoin, along_append_slash, along_dot]
    simp only [if_neg habsolute, hbelow, Bool.false_eq_true, if_false, ofText_join hcwd, hsame]

end

/-! ## As seen from a location -/

theorem dropCommon_spec (as bs : List (List Char)) :
    ∃ common, as = common ++ (dropCommon as bs).1 ∧ bs = common ++ (dropCommon as bs).2 := by
  fun_induction dropCommon as bs with
  | case1 as b bs ih =>
    obtain ⟨common, has, hbs⟩ := ih
    exact ⟨b :: common, congrArg (b :: ·) has, congrArg (b :: ·) hbs⟩
  | case2 => exact ⟨[], rfl, rfl⟩
  | case3 => exact ⟨[], rfl, rfl⟩

/-- The parts of the path from one location to another one on the same root. -/
def steps (base other : Location) : List (List Char) :=
  (dropCommon base.parts other.parts).1.map (fun _ => ['.', '.']) ++
    (dropCommon base.parts other.parts).2

theorem relative_of_root_ne (h : base.root ≠ other.root) :
    relative base other = other.root.text ++ joinParts other.parts := if_pos h

theorem relative_of_root_eq (h : base.root = other.root) :
    relative base other = joinParts (steps base other) := if_neg (not_not_intro h)

theorem isPart_of_mem_steps (hother : other.IsResolved) :
    ∀ part ∈ steps base other, IsPart part := by
  intro part hpart
  obtain ⟨common, -, hparts⟩ := dropCommon_spec base.parts other.parts
  rcases List.mem_append.mp hpart with h | h
  · obtain ⟨-, -, rfl⟩ := List.mem_map.mp h
    exact ⟨by decide, by decide, by decide⟩
  · exact (hother.names part (hparts ▸ List.mem_append_right _ h)).toIsPart

/-- The steps go up to where the locations part, and from there down. -/
theorem foldl_steps (hbase : base.IsResolved) (hother : other.IsResolved) :
    (steps base other).foldl (pushPart base.root) base.parts.reverse = other.parts.reverse := by
  unfold steps
  obtain ⟨common, hup, hdown⟩ := dropCommon_spec base.parts other.parts
  generalize dropCommon base.parts other.parts = rest at hup hdown ⊢
  have hfolded : ∀ n ∈ base.parts.reverse, IsName n := fun n hn =>
    hbase.names n (List.mem_reverse.mp hn)
  have hnames : ∀ n ∈ rest.2, IsName n := fun n hn =>
    hother.names n (hdown ▸ List.mem_append_right _ hn)
  have hcommon : base.parts.reverse.drop rest.1.length = common.reverse := by
    rw [hup, List.reverse_append, ← List.length_reverse, List.drop_left]
  rw [List.foldl_append, foldl_ups hbase.root hfolded, foldl_names hnames, hcommon,
    ← List.reverse_append, ← hdown]

/-- **The path from one location to another leads there**, if they are on the same root. -/
theorem along_relative (hbase : base.IsResolved) (hother : other.IsResolved)
    (hroot : base.root = other.root) : base.along (relative base other) = other := by
  rw [relative_of_root_eq hroot, along_joinParts (isPart_of_mem_steps hother),
    foldl_steps hbase hother, List.reverse_reverse, hroot]

/-! ## Paths made of parts -/

section

variable (hparts : ∀ part ∈ parts, IsPart part)
include hparts

/-- The pieces on both sides of a slash are the parts. -/
theorem splitOn_append_splitOn_of_joinParts_eq (h : joinParts parts = p ++ '/' :: q) :
    p.splitOn '/' ++ q.splitOn '/' = parts := by
  have hne : parts ≠ [] := by
    rintro rfl
    simp [joinParts] at h
  rw [← List.splitOn_append_cons_self, ← h, splitOn_joinParts hparts hne]

theorem head?_joinParts : (joinParts parts).head? ≠ some '/' := by
  intro h
  obtain ⟨q, hq⟩ := List.head?_eq_some_iff.mp h
  have hsplit : [] :: q.splitOn '/' = parts :=
    splitOn_append_splitOn_of_joinParts_eq (p := []) hparts hq
  exact (hparts [] (hsplit ▸ List.mem_cons_self)).ne_nil rfl

/-- No address begins like this, as it has an empty part. -/
theorem fileScheme_isPrefixOf?_joinParts : fileScheme.isPrefixOf? (joinParts parts) = none := by
  rw [Option.eq_none_iff_forall_ne_some]
  intro rest hrest
  have hfile : joinParts parts = fileScheme ++ rest := List.isPrefixOf?_eq_some_iff.mp hrest
  have hscheme : fileScheme ++ rest = "file:".toList ++ '/' :: ('/' :: '/' :: rest) := rfl
  have hsplit := splitOn_append_splitOn_of_joinParts_eq hparts (hfile.trans hscheme)
  refine (hparts [] ?_).ne_nil rfl
  rw [← hsplit, List.splitOn_cons_eq_if_modifyHead]
  exact List.mem_append_right _ List.mem_cons_self

theorem backslash_notMem_joinParts : '\\' ∉ joinParts parts := by
  intro h
  obtain ⟨before, after, hmem⟩ := List.append_of_mem h
  obtain ⟨part, hpart, hpiece⟩ := List.exists_infix_of_intercalate (List.cons_ne_nil _ _)
    (by decide : '/' ∉ ['\\']) ⟨before, after, by rw [List.append_assoc]; exact hmem.symm⟩
  exact (hparts part hpart).backslash_notMem (hpiece.subset (List.mem_singleton_self _))

end

/-! ## Normalizing again -/

/-- A normalized path leads back to the location that it was made of. -/
theorem ofText_target_relative (hcwd : isAbsolute cwd = true) (hslashes : '\\' ∉ cwd)
    (hother : other.IsResolved) (hdrive : ¬HasDrive (relative (.ofText cwd) other)) :
    Location.ofText (target (relative (.ofText cwd) other) ['.'] cwd) = other := by
  by_cases hroot : (Location.ofText cwd).root = other.root
  · have hlead : (Location.ofText cwd).along (relative (.ofText cwd) other) = other :=
      along_relative (isResolved_ofText hcwd hslashes) hother hroot
    have hsteps : ∀ part ∈ steps (.ofText cwd) other, IsPart part := isPart_of_mem_steps hother
    rw [relative_of_root_eq hroot] at hdrive hlead ⊢
    have hnot : ¬isAbsolute (joinParts (steps (.ofText cwd) other)) = true := by
      rw [isAbsolute_iff, not_or]
      exact ⟨head?_joinParts hsteps, hdrive⟩
    rw [ofText_target_dot hcwd hslashes (backslash_notMem_joinParts hsteps)
      (fileScheme_isPrefixOf?_joinParts hsteps), if_neg hnot, hlead]
  · obtain ⟨root, parts⟩ := other
    have hnames : ∀ n ∈ parts, IsName n := hother.names
    rw [relative_of_root_ne hroot] at hdrive ⊢
    cases root with
    | floating => exact hother.root.elim
    | drive letter => exact absurd ⟨letter, _, hother.root, rfl⟩ hdrive
    | slash =>
      have habsolute : isAbsolute ('/' :: joinParts parts) = true := isAbsolute_iff.mpr (.inl rfl)
      have hbackslash : '\\' ∉ '/' :: joinParts parts := by
        rw [List.mem_cons, not_or]
        exact ⟨by decide, backslash_notMem_joinParts fun n hn => (hnames n hn).toIsPart⟩
      rw [Root.text, List.singleton_append, ofText_target_dot hcwd hslashes hbackslash rfl,
        if_pos habsolute, ofText_of_head? rfl, along_slash, along_names hnames, List.nil_append]

/-- **A normalized path is normalized to itself**, unless it starts like a path on a drive. -/
theorem normalize_normalize {reported analysisRoot cwd : String}
    (hcwd : isAbsolute (toSlashes cwd.toList) = true)
    (hdrive : ¬HasDrive (normalize reported analysisRoot cwd).toList) :
    normalize (normalize reported analysisRoot cwd) "." cwd =
      normalize reported analysisRoot cwd := by
  have hdot : ".".toList = ['.'] := rfl
  have hother := isResolved_target hcwd backslash_notMem_toSlashes reported.toList
    analysisRoot.toList
  rw [normalize, String.toList_ofList] at hdrive
  rw [normalize, normalize, String.toList_ofList, hdot,
    ofText_target_relative hcwd backslash_notMem_toSlashes hother hdrive]

end LintReview.SourcePath

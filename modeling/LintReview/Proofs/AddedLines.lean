import LintReview.AddedLines
import Mathlib.Data.List.Sort
import Mathlib.Data.String.Basic

/-! The added lines as a finite map from paths to finite sets of line numbers. `Ascending` is the
invariant of the two orders that `touch` and `insert` keep, and under it the two are described
through `lines?` alone (`Ascending.lines?_touch`, `Ascending.lines?_insert`). **An ascending map is
determined by its lookups** (`Ascending.ext`). `containsRange_iff` reads a range check as a
statement about every number of the range. -/

namespace LintReview.AddedLines

/-! ## Ascending lists of numbers -/

theorem mem_insertLine {n m : UInt32} {ls : List UInt32} :
    m ∈ insertLine n ls ↔ m = n ∨ m ∈ ls := by
  induction ls with
  | nil => simp [insertLine]
  | cons k ls ih =>
    unfold insertLine
    split
    · simp
    · split
      · next hnk => subst hnk; simp
      · simp only [List.mem_cons, ih]
        exact or_left_comm

theorem pairwise_insertLine {n : UInt32} {ls : List UInt32} (h : ls.Pairwise (· < ·)) :
    (insertLine n ls).Pairwise (· < ·) := by
  induction ls with
  | nil => simp [insertLine]
  | cons k ls ih =>
    have hk := (List.pairwise_cons.mp h).1
    unfold insertLine
    split
    · next hlt =>
      refine List.pairwise_cons.mpr ⟨fun m hm => ?_, h⟩
      rcases List.mem_cons.mp hm with rfl | hm
      · exact hlt
      · exact UInt32.lt_trans hlt (hk m hm)
    · split
      · exact h
      · next hlt hne =>
        refine List.pairwise_cons.mpr ⟨fun m hm => ?_, ih (List.pairwise_cons.mp h).2⟩
        rcases mem_insertLine.mp hm with rfl | hm
        · exact UInt32.lt_of_le_of_ne (UInt32.not_lt.mp hlt) (Ne.symm hne)
        · exact hk m hm

/-! ## Ascending lists of files -/

section updateFile

variable {path : String} {f : List UInt32 → List UInt32} {files : List (String × List UInt32)}

theorem mem_updateFile {file : String × List UInt32} (h : file ∈ updateFile path f files) :
    file = (path, f []) ∨ file ∈ files ∨ ∃ ls, (path, ls) ∈ files ∧ file = (path, f ls) := by
  induction files with
  | nil => exact .inl (List.mem_singleton.mp h)
  | cons head files ih =>
    unfold updateFile at h
    split at h
    · rcases List.mem_cons.mp h with rfl | h
      · exact .inl rfl
      · exact .inr (.inl h)
    · split at h
      · next heq =>
        subst heq
        rcases List.mem_cons.mp h with rfl | h
        · exact .inr (.inr ⟨_, List.mem_cons_self, rfl⟩)
        · exact .inr (.inl (List.mem_cons_of_mem _ h))
      · rcases List.mem_cons.mp h with rfl | h
        · exact .inr (.inl List.mem_cons_self)
        · rcases ih h with h | h | ⟨ls, h, heq⟩
          · exact .inl h
          · exact .inr (.inl (List.mem_cons_of_mem _ h))
          · exact .inr (.inr ⟨ls, List.mem_cons_of_mem _ h, heq⟩)

theorem pairwise_updateFile (h : files.Pairwise (·.1 < ·.1)) :
    (updateFile path f files).Pairwise (·.1 < ·.1) := by
  induction files with
  | nil => exact List.pairwise_singleton _ _
  | cons head files ih =>
    obtain ⟨hhead, htail⟩ := List.pairwise_cons.mp h
    unfold updateFile
    split
    · next hlt =>
      refine List.pairwise_cons.mpr ⟨fun file hfile => ?_, h⟩
      rcases List.mem_cons.mp hfile with rfl | hfile
      · exact hlt
      · exact lt_trans hlt (hhead file hfile)
    · split
      · next heq => exact List.pairwise_cons.mpr ⟨hhead, htail⟩
      · next hlt hne =>
        refine List.pairwise_cons.mpr ⟨fun file hfile => ?_, ih htail⟩
        have hpath : head.1 < path := lt_of_le_of_ne (not_lt.mp hlt) (Ne.symm hne)
        rcases mem_updateFile hfile with rfl | hfile | ⟨ls, hfile, rfl⟩
        · exact hpath
        · exact hhead file hfile
        · exact hpath

theorem lookup_eq_none_of_lt (h : ∀ file ∈ files, path < file.1) : files.lookup path = none :=
  List.lookup_eq_none_iff.mpr fun file hfile => by
    simpa using (h file hfile).ne

theorem lookup_updateFile_self (h : files.Pairwise (·.1 < ·.1)) :
    (updateFile path f files).lookup path = some (f ((files.lookup path).getD [])) := by
  induction files with
  | nil => simp [updateFile]
  | cons head files ih =>
    obtain ⟨hhead, htail⟩ := List.pairwise_cons.mp h
    obtain ⟨p, ls⟩ := head
    unfold updateFile
    split
    · next hlt =>
      have hnone : ((p, ls) :: files).lookup path = none := by
        refine lookup_eq_none_of_lt fun file hfile => ?_
        rcases List.mem_cons.mp hfile with rfl | hfile
        · exact hlt
        · exact lt_trans hlt (hhead file hfile)
      rw [hnone, List.lookup_cons_self]
      rfl
    · split
      · next heq => subst heq; simp
      · next hne =>
        have hbeq : (path == p) = false := beq_eq_false_iff_ne.mpr hne
        simp only [List.lookup_cons, hbeq]
        exact ih htail

theorem lookup_updateFile_of_ne {other : String} (hne : other ≠ path) :
    (updateFile path f files).lookup other = files.lookup other := by
  have hbeq : (other == path) = false := beq_eq_false_iff_ne.mpr hne
  induction files with
  | nil => simp [updateFile, List.lookup_cons, hbeq]
  | cons head files ih =>
    obtain ⟨p, ls⟩ := head
    unfold updateFile
    split
    · simp only [List.lookup_cons, hbeq]
    · split
      · next heq => subst heq; simp only [List.lookup_cons, hbeq]
      · simp only [List.lookup_cons, ih]

end updateFile

/-! ## The two views -/

/-- The change touches the file. -/
def Touches (added : AddedLines) (path : String) : Prop :=
  ∃ ls, added.lines? path = some ls

/-- The change adds the line to the file. -/
def Holds (added : AddedLines) (path : String) (n : UInt32) : Prop :=
  ∃ ls, added.lines? path = some ls ∧ n ∈ ls

theorem not_touches_empty {path : String} : ¬empty.Touches path := by
  rintro ⟨ls, hls⟩
  cases hls

theorem not_holds_empty {path : String} {n : UInt32} : ¬empty.Holds path n := by
  rintro ⟨ls, hls, -⟩
  cases hls

/-! ## The two orders -/

/-- The files ascend by path, and the lines of each file ascend. -/
structure Ascending (added : AddedLines) : Prop where
  files : added.files.Pairwise (·.1 < ·.1)
  lines : ∀ file ∈ added.files, file.2.Pairwise (· < ·)

theorem ascending_empty : empty.Ascending :=
  ⟨List.Pairwise.nil, fun _ h => nomatch h⟩

namespace Ascending

variable {added other : AddedLines} {path p : String} {n m : UInt32}

private theorem update {f : List UInt32 → List UInt32} (h : added.Ascending)
    (hf : ∀ ls, ls.Pairwise (· < ·) → (f ls).Pairwise (· < ·)) :
    Ascending ⟨updateFile path f added.files⟩ := by
  refine ⟨pairwise_updateFile h.files, fun file hfile => ?_⟩
  rcases mem_updateFile hfile with rfl | hmem | ⟨ls, hmem, rfl⟩
  · exact hf _ .nil
  · exact h.lines file hmem
  · exact hf ls (h.lines (path, ls) hmem)

theorem touch (h : added.Ascending) (path : String) : (added.touch path).Ascending :=
  h.update fun _ hls => hls

theorem insert (h : added.Ascending) (path : String) (n : UInt32) :
    (added.insert path n).Ascending :=
  h.update fun _ hls => pairwise_insertLine hls

private theorem touches_update {f : List UInt32 → List UInt32} (h : added.Ascending) :
    Touches ⟨updateFile path f added.files⟩ p ↔ p = path ∨ added.Touches p := by
  by_cases hp : p = path
  · subst hp
    exact iff_of_true ⟨_, lookup_updateFile_self h.files⟩ (.inl rfl)
  · simp only [Touches, lines?, lookup_updateFile_of_ne hp, hp, false_or]

private theorem holds_update {f : List UInt32 → List UInt32} (h : added.Ascending) :
    Holds ⟨updateFile path f added.files⟩ p m ↔
      if p = path then m ∈ f ((added.lines? path).getD []) else added.Holds p m := by
  split
  · next hp =>
    subst hp
    simp [Holds, lines?, lookup_updateFile_self h.files]
  · next hp => simp only [Holds, lines?, lookup_updateFile_of_ne hp]

private theorem mem_getD_iff : m ∈ (added.lines? path).getD [] ↔ added.Holds path m := by
  cases hls : added.lines? path <;> simp [Holds, hls]

theorem touches_touch (h : added.Ascending) :
    (added.touch path).Touches p ↔ p = path ∨ added.Touches p :=
  h.touches_update

theorem touches_insert (h : added.Ascending) :
    (added.insert path n).Touches p ↔ p = path ∨ added.Touches p :=
  h.touches_update

theorem holds_touch (h : added.Ascending) : (added.touch path).Holds p m ↔ added.Holds p m := by
  refine h.holds_update.trans ?_
  split
  · next hp => subst hp; exact mem_getD_iff
  · rfl

theorem holds_insert (h : added.Ascending) :
    (added.insert path n).Holds p m ↔ (p = path ∧ m = n) ∨ added.Holds p m := by
  refine h.holds_update.trans ?_
  split
  · next hp => subst hp; rw [mem_insertLine, mem_getD_iff]; simp
  · next hp => simp [hp]

/-- In an ascending map a lookup finds every file that is there. -/
theorem lines?_eq_some_iff {ls : List UInt32} (h : added.Ascending) :
    added.lines? path = some ls ↔ (path, ls) ∈ added.files := by
  obtain ⟨files⟩ := added
  obtain ⟨hfiles, -⟩ := h
  unfold lines?
  induction files with
  | nil => simp
  | cons head files ih =>
    obtain ⟨q, ks⟩ := head
    obtain ⟨hhead, htail⟩ := List.pairwise_cons.mp hfiles
    by_cases hq : path = q
    · subst hq
      have hnot : (path, ls) ∉ files := fun hmem => lt_irrefl path (hhead _ hmem)
      simp [hnot, eq_comm]
    · have hbeq : (path == q) = false := beq_eq_false_iff_ne.mpr hq
      simp [List.lookup_cons, hbeq, hq, ih htail]

/-- **An ascending map is determined by its views**: by the files that it touches and the lines
that it holds. -/
theorem ext (h : added.Ascending) (h' : other.Ascending)
    (htouches : ∀ p, added.Touches p ↔ other.Touches p)
    (hholds : ∀ p m, added.Holds p m ↔ other.Holds p m) : added = other := by
  have hfiles : ∀ {a b : AddedLines}, a.Ascending → b.Ascending →
      (∀ p, a.Touches p → b.Touches p) → (∀ p m, a.Holds p m ↔ b.Holds p m) →
      ∀ file ∈ a.files, file ∈ b.files := by
    intro a b ha hb htouches hholds ⟨p, ls⟩ hfile
    have hls := ha.lines?_eq_some_iff.mpr hfile
    obtain ⟨ks, hks⟩ := htouches p ⟨ls, hls⟩
    have hmem := hb.lines?_eq_some_iff.mp hks
    have hsame : ls = ks := by
      refine List.Pairwise.eq_of_mem_iff (ha.lines _ hfile) (hb.lines _ hmem) fun m => ?_
      simpa [Holds, hls, hks] using hholds p m
    exact hsame ▸ hmem
  have hirrefl : Std.Irrefl fun x y : String × List UInt32 => x.1 < y.1 :=
    ⟨fun x => lt_irrefl x.1⟩
  have hantisymm : Std.Antisymm fun x y : String × List UInt32 => x.1 < y.1 :=
    ⟨fun _ _ hxy hyx => absurd hyx (lt_asymm hxy)⟩
  have heq : added.files = other.files :=
    List.Pairwise.eq_of_mem_iff h.files h'.files fun file =>
      ⟨hfiles h h' (fun p => (htouches p).mp) hholds file,
        hfiles h' h (fun p => (htouches p).mpr) (fun p m => (hholds p m).symm) file⟩
  cases added
  cases other
  exact congrArg AddedLines.mk heq

end Ascending

/-! ## Ranges -/

theorem holdsFrom_iff {ls : List UInt32} {count : Nat} {start : UInt32} :
    holdsFrom ls count start = true ↔ ∀ i < count, start + .ofNat i ∈ ls := by
  induction count generalizing start with
  | zero => simp [holdsFrom]
  | succ count ih =>
    have hshift : ∀ i, start + 1 + .ofNat i = start + .ofNat (i + 1) := fun i => by
      rw [UInt32.ofNat_add, UInt32.add_assoc, UInt32.add_comm 1]
      rfl
    rw [holdsFrom, Bool.and_eq_true, List.contains_iff_mem, ih]
    constructor
    · rintro ⟨hstart, hrest⟩ (_ | i) hi
      · simpa using hstart
      · exact hshift i ▸ hrest i (Nat.lt_of_succ_lt_succ hi)
    · intro hall
      refine ⟨by simpa using hall 0 (Nat.succ_pos count), fun i hi => ?_⟩
      exact (hshift i).symm ▸ hall (i + 1) (Nat.succ_lt_succ hi)

/-- A range is contained in a touched file when each of its numbers was added. No number lies in a
range whose last line comes before its first. -/
theorem containsRange_iff {added : AddedLines} {path : String} {first last : UInt32} :
    added.containsRange path first last = true ↔
      added.Touches path ∧ ∀ n, first ≤ n → n ≤ last → added.Holds path n := by
  unfold containsRange
  cases hls : added.lines? path with
  | none => simp [Touches, hls]
  | some ls =>
    have htouches : added.Touches path := ⟨ls, hls⟩
    have hholds : ∀ n, added.Holds path n ↔ n ∈ ls := fun n => by simp [Holds, hls]
    simp only [holdsFrom_iff, hholds, htouches, true_and]
    have hlast := last.toNat_lt
    constructor
    · intro hall n hfirst hn
      rw [UInt32.le_iff_toNat_le] at hfirst hn
      have hsum : first + .ofNat (n.toNat - first.toNat) = n := by
        apply UInt32.toNat_inj.mp
        rw [UInt32.toNat_add, UInt32.toNat_ofNat']
        omega
      exact hsum ▸ hall _ (by omega)
    · intro hall i hi
      have hsum : (first + .ofNat i).toNat = first.toNat + i := by
        rw [UInt32.toNat_add, UInt32.toNat_ofNat']
        omega
      refine hall _ ?_ ?_ <;> rw [UInt32.le_iff_toNat_le, hsum] <;> omega

end LintReview.AddedLines

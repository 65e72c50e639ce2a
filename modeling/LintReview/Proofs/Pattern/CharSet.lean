import LintReview.Pattern.Compilation
import Mathlib.Data.List.Basic

/-! Membership in sets of characters. A set is kept as ascending ranges, and membership stops at the
first one beyond the character. **A character is in the set if and only if one of the ranges holds
it** (`contains_eq_any`), and in the complement if and only if it is not in the set
(`contains_compl`). The class `\s` has the blank characters (`contains_space`), and the digits of
written numbers are in `\d` (`contains_digit_of_isDigit`). -/

namespace LintReview.Pattern.CharSet

/-- Ranges that ascend from a code point on. -/
def ascend : (start : Nat) → List (Nat × Nat) → Bool
  | _, [] => true
  | start, (lo, hi) :: rest => start ≤ lo && lo ≤ hi && ascend (hi + 1) rest

section

variable {n start lo hi : Nat} {rest ranges : List (Nat × Nat)} {s t : CharSet} {c d : Char}

theorem ascend_cons :
    ascend start ((lo, hi) :: rest) = true ↔
      start ≤ lo ∧ lo ≤ hi ∧ ascend (hi + 1) rest = true := by
  simp only [ascend, Bool.and_eq_true, decide_eq_true_eq, and_assoc]

theorem any_eq_false_of_lt (h : ascend start ranges = true) (hn : n < start) :
    (ranges.any fun r => r.1 ≤ n && n ≤ r.2) = false := by
  induction ranges generalizing start with
  | nil => rfl
  | cons r rest ih =>
    obtain ⟨hlo, hhi, hrest⟩ := ascend_cons.mp h
    have hbefore : n < r.1 := Nat.lt_of_lt_of_le hn hlo
    have hafter := ih hrest (by omega)
    simp only [List.any_cons, hafter, Bool.or_false, Bool.and_eq_false_iff, decide_eq_false_iff_not]
    exact .inl (Nat.not_le.mpr hbefore)

theorem inRanges_eq_any (h : ascend start ranges = true) :
    inRanges n ranges = ranges.any fun r => r.1 ≤ n && n ≤ r.2 := by
  induction ranges generalizing start with
  | nil => rfl
  | cons r rest ih =>
    obtain ⟨-, hhi, hrest⟩ := ascend_cons.mp h
    rw [inRanges, List.any_cons]
    split
    · next hlt =>
      have hafter := any_eq_false_of_lt hrest (n := n) (by omega)
      have hbefore : ¬r.1 ≤ n := Nat.not_le.mpr hlt
      simp [hafter, hbefore]
    · next hge =>
      rw [ih hrest]
      split
      · next hle => simp [hle, Nat.not_lt.mp hge]
      · next hgt => simp [hgt]

theorem contains_eq_any (h : ascend 0 s.ranges = true) :
    s.contains c = s.ranges.any fun r => r.1 ≤ c.toNat && c.toNat ≤ r.2 :=
  inRanges_eq_any h

theorem contains_single : (single d).contains c = decide (c = d) := by
  have hascend : ascend 0 (single d).ranges = true := by
    simp [single, range, ascend]
  rw [contains_eq_any hascend]
  simp only [single, range, List.any_cons, List.any_nil, Bool.or_false, ← Char.toNat_inj]
  grind

/-! ## Unions and complements -/

theorem any_insertRange :
    ((insertRange lo hi ranges).any fun r => r.1 ≤ n && n ≤ r.2) =
      ((lo ≤ n && n ≤ hi) || ranges.any fun r => r.1 ≤ n && n ≤ r.2) := by
  induction ranges generalizing lo hi with
  | nil => rfl
  | cons r rest ih =>
    obtain ⟨a, b⟩ := r
    unfold insertRange
    split
    · rfl
    · split
      · rw [List.any_cons, ih, List.any_cons, Bool.or_left_comm]
      · -- The two ranges touch, so that no code point lies between them.
        have hjoin : (decide (min lo a ≤ n) && decide (n ≤ max hi b)) =
            ((decide (lo ≤ n) && decide (n ≤ hi)) || (decide (a ≤ n) && decide (n ≤ b))) := by
          rw [Bool.eq_iff_iff]
          simp only [Bool.or_eq_true, Bool.and_eq_true, decide_eq_true_eq]
          omega
        rw [ih, hjoin, List.any_cons, Bool.or_assoc]

theorem any_foldl_insertRange :
    ((rest.foldl (fun acc r => insertRange r.1 r.2 acc) ranges).any
        fun r => r.1 ≤ n && n ≤ r.2) =
      ((ranges.any fun r => r.1 ≤ n && n ≤ r.2) || rest.any fun r => r.1 ≤ n && n ≤ r.2) := by
  induction rest generalizing ranges with
  | nil => rw [List.foldl_nil, List.any_nil, Bool.or_false]
  | cons r rest ih =>
    rw [List.foldl_cons, ih, any_insertRange, List.any_cons, Bool.or_assoc, Bool.or_left_comm]

theorem contains_union (hs : ascend 0 s.ranges = true) (ht : ascend 0 t.ranges = true)
    (h : ascend 0 (s.union t).ranges = true) :
    (s.union t).contains c = (s.contains c || t.contains c) := by
  rw [contains_eq_any hs, contains_eq_any ht, contains_eq_any h]
  unfold union
  split
  · next heq => rw [heq, List.any_nil, Bool.false_or]
  · next heq _ => rw [heq, List.any_nil, Bool.or_false]
  · exact any_foldl_insertRange

theorem inRanges_gaps_of_lt (h : ascend start ranges = true) (hn : n < start) :
    inRanges n (gaps start ranges) = false := by
  induction ranges generalizing start with
  | nil =>
    unfold gaps
    split
    · exact if_pos hn
    · rfl
  | cons r rest ih =>
    obtain ⟨hlo, hhi, hrest⟩ := ascend_cons.mp h
    unfold gaps
    split
    · exact if_pos hn
    · exact ih hrest (by omega)

theorem inRanges_gaps (h : ascend start ranges = true) (hn : start ≤ n) (hlast : n ≤ lastCode) :
    inRanges n (gaps start ranges) = !inRanges n ranges := by
  induction ranges generalizing start with
  | nil =>
    have hle : start ≤ lastCode := Nat.le_trans hn hlast
    simp [gaps, inRanges, hle, hlast, hn]
  | cons r rest ih =>
    obtain ⟨lo, hi⟩ := r
    obtain ⟨hlo, hhi, hrest⟩ := ascend_cons.mp h
    have hgaps : inRanges n (gaps (hi + 1) rest) =
        if n ≤ hi then false else !inRanges n rest := by
      split
      · exact inRanges_gaps_of_lt hrest (by omega)
      · exact ih hrest (by omega)
    unfold gaps
    split
    · simp only [inRanges, hgaps]
      grind
    · simp only [inRanges, hgaps]
      grind

theorem contains_compl (h : ascend 0 s.ranges = true) :
    s.compl.contains c = !s.contains c := by
  have hc : c.toNat ≤ lastCode := by
    have hvalid := c.valid
    simp only [UInt32.isValidChar, Nat.isValidChar] at hvalid
    simp only [lastCode, Char.toNat]
    omega
  exact inRanges_gaps h (Nat.zero_le _) hc

/-! ## Classes -/

theorem contains_space : (Perl.space.set true).contains c = Text.isBlank c := by
  have hascend : ascend 0 (Perl.space.set true).ranges = true := by decide
  rw [contains_eq_any hascend, Bool.eq_iff_iff]
  simp only [Perl.set, Unicode.spaceRanges, List.any_cons, List.any_nil, Text.isBlank, if_true,
    Bool.or_eq_true, Bool.and_eq_true, decide_eq_true_eq, beq_iff_eq, Bool.or_false]
  omega

theorem contains_not_space : (Perl.space.set true).compl.contains c = !Text.isBlank c := by
  rw [contains_compl (by decide), contains_space]

theorem contains_digit_of_isDigit (h : c.isDigit = true) :
    (Perl.digit.set true).contains c = true := by
  have hrange : 48 ≤ c.toNat ∧ c.toNat ≤ 57 := by
    simpa [Char.isDigit, UInt32.le_iff_toNat_le] using h
  have hfirst : (Perl.digit.set true).ranges.head? = some (48, 57) := rfl
  rw [contains_eq_any (by decide), List.any_eq_true]
  exact ⟨(48, 57), List.mem_of_mem_head? hfirst, by simpa using hrange⟩

end

end LintReview.Pattern.CharSet

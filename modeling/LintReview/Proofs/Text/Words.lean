import LintReview.Text.Blank
import LintReview.Text.Decimal
import Mathlib.Data.List.DropRight

/-! Pieces of a text that has been put together: a known start (`isPrefixOf?_eq_some_iff`), the
words between blanks (`words_append_cons`), the blanks at the end, and a number in decimal. -/

theorem List.isPrefixOf?_eq_some_iff [BEq α] [LawfulBEq α] {start s rest : List α} :
    start.isPrefixOf? s = some rest ↔ s = start ++ rest := by
  induction start generalizing s with
  | nil => simp [List.isPrefixOf?]
  | cons c start ih =>
    cases s with
    | nil => simp [List.isPrefixOf?]
    | cons d s =>
      by_cases hcd : c = d
      · subst hcd
        simp [List.isPrefixOf?, ih]
      · simp [List.isPrefixOf?, hcd, Ne.symm hcd]

theorem List.isPrefixOf?_eq_none_iff [BEq α] [LawfulBEq α] {start s : List α} :
    start.isPrefixOf? s = none ↔ ¬start <+: s := by
  rw [Option.eq_none_iff_forall_ne_some]
  simp only [ne_eq, List.isPrefixOf?_eq_some_iff, List.IsPrefix, eq_comm, not_exists]

namespace LintReview

namespace Text

/-- A text is one word if it has a character and none that is blank. -/
def IsWord (w : List Char) : Prop := w ≠ [] ∧ ∀ c ∈ w, isBlank c = false

theorem trimEnd_eq_rdropWhile (s : List Char) : trimEnd s = s.rdropWhile isBlank := rfl

theorem words_eq_singleton {w : List Char} (h : IsWord w) : words w = [w] := by
  simp [words, List.splitOnP_eq_singleton h.2, h.1]

/-- A blank ends the word in front of it. -/
theorem words_append_cons {w rest : List Char} {c : Char} (h : IsWord w) (hc : isBlank c = true) :
    words (w ++ c :: rest) = w :: words rest := by
  unfold words
  rw [List.splitOnP_append_cons_of_forall_mem h.2 c hc]
  simp [h.1]

end Text

namespace Decimal

theorem isBlank_eq_false_of_isDigit {c : Char} (h : c.isDigit = true) :
    Text.isBlank c = false := by
  have hrange : 48 ≤ c.toNat ∧ c.toNat ≤ 57 := by
    simpa [Char.isDigit, UInt32.le_iff_toNat_le] using h
  simp only [Text.isBlank, Bool.or_eq_false_iff, Bool.and_eq_false_iff, decide_eq_false_iff_not,
    beq_eq_false_iff_ne]
  omega

theorem isDigit_of_mem_replicate_zero_append {zeros n : Nat} {c : Char}
    (h : c ∈ List.replicate zeros '0' ++ digits n) : c.isDigit = true := by
  rcases List.mem_append.mp h with h | h
  · rw [List.eq_of_mem_replicate h]
    rfl
  · exact isDigit_of_mem_digits h

/-- Zeros in front of a number do not change it. -/
theorem read?_replicate_zero_append (zeros n : Nat) :
    read? (List.replicate zeros '0' ++ digits n) = some n := by
  have hne : (List.replicate zeros '0' ++ digits n).isEmpty = false := by
    simp [digits, Nat.toDigits_ne_nil]
  have hall : (List.replicate zeros '0' ++ digits n).all Char.isDigit = true :=
    List.all_eq_true.mpr fun _ => isDigit_of_mem_replicate_zero_append
  unfold read?
  rw [hne, hall, Nat.ofDigitChars_append, Nat.ofDigitChars_replicate_zero, Nat.mul_zero]
  exact congrArg some Nat.ofDigitChars_ten_toDigits

theorem readUInt32?_replicate_zero_append (zeros : Nat) (n : UInt32) :
    readUInt32? (List.replicate zeros '0' ++ digits n.toNat) = some n := by
  have hread : readSigned? (List.replicate zeros '0' ++ digits n.toNat) = some n.toNat := by
    rw [← read?_replicate_zero_append zeros]
    unfold readSigned?
    split
    · next rest heq =>
      have hmem : '+' ∈ List.replicate zeros '0' ++ digits n.toNat := heq ▸ List.mem_cons_self
      exact absurd (isDigit_of_mem_replicate_zero_append hmem) (by decide)
    · rfl
  have hlt : n.toNat < UInt32.size := n.toNat_lt
  simp [readUInt32?, hread, hlt]

theorem readUInt32?_digits (n : UInt32) : readUInt32? (digits n.toNat) = some n :=
  readUInt32?_replicate_zero_append 0 n

end Decimal

end LintReview

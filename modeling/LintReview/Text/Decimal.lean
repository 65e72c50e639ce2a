/-! Whole numbers in decimal. `Decimal.digits` writes one without leading zeros; `Decimal.read?`
reads a run of digits, and `Decimal.readSigned?` also takes a plus sign in front. Reading what was
written gives the number back (`read?_digits`). -/

namespace LintReview.Decimal

/-- The decimal digits of a number, without leading zeros. -/
def digits (n : Nat) : List Char := Nat.toDigits 10 n

/-- Reads a non-empty run of ASCII digits. -/
def read? (s : List Char) : Option Nat :=
  if s.isEmpty || !s.all Char.isDigit then none else some (Nat.ofDigitChars 10 s 0)

/-- Reads a non-empty run of ASCII digits, which one plus sign may precede. -/
def readSigned? : List Char → Option Nat
  | '+' :: rest => read? rest
  | s => read? s

/-- Reads a number that 32 bits can hold, with or without a plus sign. -/
def readUInt32? (s : List Char) : Option UInt32 :=
  (readSigned? s).bind fun n => if n < UInt32.size then some (UInt32.ofNat n) else none

/-- Reads a number that 64 bits can hold, with or without a plus sign. -/
def readUInt64? (s : List Char) : Option UInt64 :=
  (readSigned? s).bind fun n => if n < UInt64.size then some (UInt64.ofNat n) else none

theorem isDigit_of_mem_digits {n : Nat} {c : Char} (h : c ∈ digits n) : c.isDigit = true :=
  Nat.isDigit_of_mem_toDigits (by decide) (by decide) h

/-- A written number reads back. -/
theorem read?_digits (n : Nat) : read? (digits n) = some n := by
  have hne : (digits n).isEmpty = false := by
    simp [digits, List.isEmpty_eq_false_iff, Nat.toDigits_ne_nil]
  have hall : (digits n).all Char.isDigit = true :=
    List.all_eq_true.2 fun _ hc => isDigit_of_mem_digits hc
  unfold read?
  rw [hne, hall]
  exact congrArg some Nat.ofDigitChars_ten_toDigits

end LintReview.Decimal

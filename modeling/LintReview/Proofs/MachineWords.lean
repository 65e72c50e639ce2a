import Mathlib.Algebra.Group.Nat.Defs

/-! Arithmetic on machine words. Sums, shifts and remainders are partial: they have no result on a
fault (`add?`, `shiftLeft?`, `mod?`). The operations that stop at the greatest word are computed on
natural numbers by a minimum (`toNat_mulOrGreatest`, `toNat_addOrGreatest`). -/

namespace LintReview

/-- The sum, if 32 bits hold it. -/
def add? (a b : UInt32) : Option UInt32 :=
  if a.toNat + b.toNat < UInt32.size then some (a + b) else none

/-- The difference, or zero if there is none. -/
def subOrZero (a b : UInt32) : UInt32 := if a < b then 0 else a - b

/-- The word shifted to the left, if the shift is less than its width and no bit is lost. -/
def shiftLeft? (a : UInt64) (n : UInt32) : Option UInt64 :=
  if n.toNat < 64 ∧ a.toNat * 2 ^ n.toNat < UInt64.size then some (a <<< n.toUInt64) else none

/-- The remainder, if the divisor is not zero. -/
def mod? (a b : UInt64) : Option UInt64 := if b = 0 then none else some (a % b)

/-- The greatest number that 64 bits hold. -/
def greatest : UInt64 := 0xFFFFFFFFFFFFFFFF

def mulOrGreatest (a b : UInt64) : UInt64 :=
  if a.toNat * b.toNat < UInt64.size then a * b else greatest

def addOrGreatest (a b : UInt64) : UInt64 :=
  if a.toNat + b.toNat < UInt64.size then a + b else greatest

section

variable {a b : UInt64} {n m : UInt32}

theorem add?_one (h : n.toNat + 1 < UInt32.size) : add? n 1 = some (n + 1) := if_pos h

theorem toNat_add_one (h : n.toNat + 1 < UInt32.size) : (n + 1).toNat = n.toNat + 1 := by
  rw [UInt32.toNat_add]
  exact Nat.mod_eq_of_lt h

theorem toNat_of_add?_one (h : add? n 1 = some m) : m.toNat = n.toNat + 1 := by
  unfold add? at h
  split at h
  · next hfits =>
    cases h
    exact toNat_add_one hfits
  · cases h

theorem toNat_subOrZero : (subOrZero n m).toNat = n.toNat - m.toNat := by
  unfold subOrZero
  split
  · next h => exact (Nat.sub_eq_zero_of_le (Nat.le_of_lt (UInt32.lt_iff_toNat_lt.mp h))).symm
  · next h => exact UInt32.toNat_sub_of_le n m (UInt32.not_lt.mp h)

theorem toNat_min : (min n m).toNat = min n.toNat m.toNat := by
  have hmin : min n m = if n ≤ m then n else m := rfl
  rw [hmin]
  split
  · next h => exact (Nat.min_eq_left (UInt32.le_iff_toNat_le.mp h)).symm
  · next h => exact (Nat.min_eq_right (Nat.le_of_lt (UInt32.not_le.mp h))).symm

theorem toNat_ite_greatest {exact : Nat} (h : exact < UInt64.size → a.toNat = exact) :
    (if exact < UInt64.size then a else greatest).toNat = min exact (UInt64.size - 1) := by
  split
  · next hlt => rw [h hlt, Nat.min_eq_left (Nat.le_sub_one_of_lt hlt)]
  · next hge => exact (Nat.min_eq_right (Nat.le_trans (Nat.sub_le _ 1) (Nat.not_lt.mp hge))).symm

theorem toNat_mulOrGreatest :
    (mulOrGreatest a b).toNat = min (a.toNat * b.toNat) (UInt64.size - 1) :=
  toNat_ite_greatest fun h => by rw [UInt64.toNat_mul, Nat.mod_eq_of_lt h]

theorem toNat_addOrGreatest :
    (addOrGreatest a b).toNat = min (a.toNat + b.toNat) (UInt64.size - 1) :=
  toNat_ite_greatest fun h => by rw [UInt64.toNat_add, Nat.mod_eq_of_lt h]

theorem exists_shiftLeft?_one (h : n.toNat ≤ 16) :
    ∃ s, shiftLeft? 1 n = some s ∧ s.toNat = 2 ^ n.toNat := by
  have hpow : 2 ^ n.toNat ≤ 2 ^ 16 := Nat.pow_le_pow_right (by decide) h
  have hfits : (1 : UInt64).toNat * 2 ^ n.toNat < UInt64.size := by
    rw [UInt64.toNat_one, Nat.one_mul]
    exact Nat.lt_of_le_of_lt hpow (by decide)
  have hwidth : n.toNat < 64 := Nat.lt_of_le_of_lt h (by decide)
  refine ⟨1 <<< n.toUInt64, if_pos ⟨hwidth, hfits⟩, ?_⟩
  rw [UInt64.toNat_shiftLeft, UInt32.toNat_toUInt64, Nat.mod_eq_of_lt hwidth, Nat.shiftLeft_eq,
    Nat.mod_eq_of_lt hfits, UInt64.toNat_one, Nat.one_mul]

end

end LintReview

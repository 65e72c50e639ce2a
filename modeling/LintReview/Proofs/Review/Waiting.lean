import LintReview.Proofs.MachineWords
import LintReview.Review.Retry

/-! Waits, as machine words compute them. **The wait after a failure is computed without a fault,
whatever the policy** (`wait?_eq`), it is a doubling floor and a jitter of less than one base
(`isWait_wait`), and the floor never falls (`floor_mono`). -/

namespace LintReview.Review

namespace RetryPolicy

/-- A number below the base, or zero if that is zero. -/
def jitter? (p : RetryPolicy) (random : UInt64) : Option UInt64 :=
  if p.baseMillis = 0 then some 0 else mod? random p.baseMillis

/-- The wait after a failure, computed with machine words. There is none on a fault. -/
def wait? (p : RetryPolicy) (failure : UInt32) (random : UInt64) : Option UInt64 := do
  let scale ← shiftLeft? 1 (min (subOrZero failure 1) 16)
  let jitter ← p.jitter? random
  some (addOrGreatest (mulOrGreatest p.baseMillis scale) jitter)

/-- The least wait after a failure: the base, doubled for each failure before it. -/
def floor (p : RetryPolicy) (failure : Nat) : Nat :=
  min (p.baseMillis.toNat * 2 ^ min (failure - 1) 16) (UInt64.size - 1)

/-- The wait is the floor and a jitter of less than one base, at most what 64 bits hold. Without a
base there is no wait. -/
structure IsWait (p : RetryPolicy) (failure : Nat) (wait : UInt64) : Prop where
  none : p.baseMillis = 0 → wait = 0
  sum : p.baseMillis ≠ 0 → ∃ jitter < p.baseMillis.toNat,
    wait.toNat = min (p.floor failure + jitter) (UInt64.size - 1)

variable {p : RetryPolicy} {failure : Nat} {random wait : UInt64}

theorem toNat_saturate (n : Nat) : (saturate n).toNat = min n (UInt64.size - 1) :=
  UInt64.toNat_ofNat_of_lt' (Nat.lt_of_le_of_lt (Nat.min_le_right _ _) (by decide))

theorem toNat_backoff : (p.backoff failure).toNat = p.floor failure := by
  rw [backoff, toNat_saturate, Nat.shiftLeft_eq, floor]

theorem floor_eq_zero (h : p.baseMillis = 0) : p.floor failure = 0 := by
  rw [floor, h, UInt64.toNat_zero, Nat.zero_mul, Nat.zero_min]

theorem wait?_eq (p : RetryPolicy) (failure : UInt32) (random : UInt64) :
    p.wait? failure random = some (p.wait failure.toNat random) := by
  have hdoublings : (min (subOrZero failure 1) 16).toNat = min (failure.toNat - 1) 16 := by
    rw [toNat_min, toNat_subOrZero]
    rfl
  obtain ⟨scale, hscale, hpow⟩ :=
    exists_shiftLeft?_one (Nat.le_trans (Nat.le_of_eq hdoublings) (Nat.min_le_right _ 16))
  have hfloor : (mulOrGreatest p.baseMillis scale).toNat = p.floor failure.toNat := by
    rw [toNat_mulOrGreatest, hpow, hdoublings, floor]
  rw [wait?, hscale, jitter?, wait]
  by_cases hbase : p.baseMillis = 0
  · rw [if_pos hbase, if_pos hbase]
    apply congrArg some
    rw [← UInt64.toNat_inj, toNat_addOrGreatest, hfloor, floor_eq_zero hbase]
    rfl
  · rw [if_neg hbase, if_neg hbase, mod?, if_neg hbase]
    apply congrArg some
    rw [← UInt64.toNat_inj, toNat_addOrGreatest, hfloor, toNat_saturate, toNat_backoff]

theorem isWait_wait (p : RetryPolicy) (failure : Nat) (random : UInt64) :
    p.IsWait failure (p.wait failure random) where
  none hbase := if_pos hbase
  sum hbase := by
    have hpos : 0 < p.baseMillis.toNat := by
      apply Nat.pos_of_ne_zero
      exact fun hzero => hbase (UInt64.toNat_inj.mp hzero)
    refine ⟨(random % p.baseMillis).toNat, ?_, ?_⟩
    · rw [UInt64.toNat_mod]
      exact Nat.mod_lt _ hpos
    · rw [wait, if_neg hbase, toNat_saturate, toNat_backoff]

theorem floor_mono {i j : Nat} (h : i ≤ j) : p.floor i ≤ p.floor j := by
  have hdoublings : min (i - 1) 16 ≤ min (j - 1) 16 := by omega
  have hscale : 2 ^ min (i - 1) 16 ≤ 2 ^ min (j - 1) 16 :=
    Nat.pow_le_pow_right (by decide) hdoublings
  have hproduct := Nat.mul_le_mul_left p.baseMillis.toNat hscale
  unfold floor
  omega

theorem floor_lt_size : p.floor failure < UInt64.size :=
  Nat.lt_of_le_of_lt (Nat.min_le_right _ _) (by decide)

theorem IsWait.floor_le (h : p.IsWait failure wait) : p.floor failure ≤ wait.toNat := by
  by_cases hbase : p.baseMillis = 0
  · rw [floor_eq_zero hbase]
    exact Nat.zero_le _
  · obtain ⟨jitter, -, hsum⟩ := h.sum hbase
    rw [hsum]
    exact Nat.le_min.mpr ⟨Nat.le_add_right _ _, Nat.le_sub_one_of_lt floor_lt_size⟩

end RetryPolicy

end LintReview.Review

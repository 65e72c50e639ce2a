import Mathlib.Data.ENat.Lattice
import LintReview.Proofs.Review.Trace
import LintReview.Proofs.Review.Waiting

/-! Repeating a call, as a run shows it. The calls have given outcomes, and all that happens is kept
(`Happening`). **A call is made until its first success, or as often as the policy allows**, with a
warning and a wait after each failure but the last (`retry_run`). The loop with a counter of 32 bits
does the same in every monad and never faults (`retryWords_eq`). -/

namespace LintReview.Review

/-! ## The loop on machine words -/

section

variable {m : Type → Type} [Monad m] {ε α : Type}

/-- Makes a call until it succeeds or has failed often enough. The counter is how often it has been
made. There is no result on a fault. -/
def repeatWords (patience : Patience m) (policy : RetryPolicy) (what : String) (text : ε → String)
    (call : m (Except ε α)) (counter : UInt32) : m (Option (Except ε α)) :=
  match _h : add? counter 1 with
  | none => pure none
  | some number => do
    match ← call with
    | .ok a => pure (some (.ok a))
    | .error e =>
      if max 1 policy.maxAttempts ≤ number then do
        patience.warn (lastWarning what number.toNat (text e))
        pure (some (.error e))
      else do
        match policy.wait? number (← patience.random) with
        | none => pure none
        | some wait => do
          patience.warn (retryWarning what number.toNat (text e) wait)
          patience.sleep wait
          repeatWords patience policy what text call number
termination_by UInt32.size - counter.toNat
decreasing_by
  have hsum := toNat_of_add?_one ‹_›
  have hlt := number.toNat_lt
  simp only [UInt32.size] at *
  omega

def retryWords (patience : Patience m) (policy : RetryPolicy) (what : String) (text : ε → String)
    (call : m (Except ε α)) : m (Option (Except ε α)) :=
  repeatWords patience policy what text call 0

variable {patience : Patience m} {policy : RetryPolicy} {what : String} {text : ε → String}
  {call : m (Except ε α)} {counter : UInt32} {left : Nat}

theorem RetryPolicy.toNat_max_one : (max 1 policy.maxAttempts).toNat = policy.attempts := by
  have hmax : max 1 policy.maxAttempts =
      if 1 ≤ policy.maxAttempts then policy.maxAttempts else 1 := rfl
  rw [hmax, attempts]
  split
  · next h => exact (Nat.max_eq_right (UInt32.le_iff_toNat_le.mp h)).symm
  · next h => exact (Nat.max_eq_left (Nat.le_of_lt (UInt32.not_le.mp h))).symm

theorem RetryPolicy.attempts_lt_size : policy.attempts < UInt32.size := by
  rw [← toNat_max_one]
  exact UInt32.toNat_lt _

theorem RetryPolicy.attempts_eq (p : RetryPolicy) : 0 + 1 + (p.attempts - 1) = p.attempts := by
  rw [Nat.zero_add]
  exact Nat.add_sub_cancel' (Nat.le_max_left 1 _)

theorem RetryPolicy.counter_lt_size (h : counter.toNat + 1 + left = policy.attempts) :
    counter.toNat + 1 < UInt32.size :=
  Nat.lt_of_le_of_lt (h ▸ Nat.le_add_right _ left) attempts_lt_size

/-- The counter of the loop numbers the calls as they are numbered without bounds. -/
theorem repeatWords_eq [LawfulMonad m] (h : counter.toNat + 1 + left = policy.attempts) :
    repeatWords patience policy what text call counter =
      some <$> retryFrom patience policy what text call left (counter.toNat + 1) := by
  induction left generalizing counter with
  | zero =>
    have hfits := RetryPolicy.counter_lt_size h
    have hlast : max 1 policy.maxAttempts ≤ counter + 1 := by
      rw [UInt32.le_iff_toNat_le, RetryPolicy.toNat_max_one, toNat_add_one hfits, ← h]
    rw [repeatWords, add?_one hfits, retryFrom, map_bind]
    apply bind_congr
    intro answer
    cases answer with
    | ok a => exact (map_pure _ _).symm
    | error e =>
      dsimp only
      rw [if_pos hlast, map_bind, toNat_add_one hfits]
      simp only [map_pure]
  | succ left ih =>
    have hfits := RetryPolicy.counter_lt_size h
    have hagain : ¬max 1 policy.maxAttempts ≤ counter + 1 := by
      rw [UInt32.le_iff_toNat_le, RetryPolicy.toNat_max_one, toNat_add_one hfits, ← h]
      omega
    have hnext : (counter + 1).toNat + 1 + left = policy.attempts := by
      rw [toNat_add_one hfits, ← h]
      omega
    rw [repeatWords, add?_one hfits, retryFrom, map_bind]
    apply bind_congr
    intro answer
    cases answer with
    | ok a => exact (map_pure _ _).symm
    | error e =>
      dsimp only
      rw [if_neg hagain, map_bind]
      apply bind_congr
      intro random
      rw [policy.wait?_eq, ih hnext, toNat_add_one hfits]
      simp only [map_bind]

theorem retryWords_eq [LawfulMonad m] :
    retryWords patience policy what text call = some <$> retry patience policy what text call :=
  repeatWords_eq policy.attempts_eq

end

/-! ## Recorded runs -/

/-- What can happen while a call is repeated. -/
inductive Happening (ε α : Type) where
  | called (outcome : Except ε α)
  | warned (line : String)
  | slept (millis : UInt64)

section

variable {ε α : Type}

/-- The outcomes of the calls among what has happened. -/
def callsOf (past : List (Happening ε α)) : List (Except ε α) :=
  past.filterMap fun
    | .called outcome => some outcome
    | _ => none

/-- Keeps what happens. Random numbers depend on the past. -/
def recorder (random : List (Happening ε α) → UInt64) :
    Patience (StateM (List (Happening ε α))) where
  random := do return random (← get)
  sleep millis := modify (· ++ [.slept millis])
  warn line := modify (· ++ [.warned line])

/-- A call with these outcomes. They are numbered from one. -/
def recorded (outcomes : Nat → Except ε α) : StateM (List (Happening ε α)) (Except ε α) := do
  let past ← get
  let outcome := outcomes ((callsOf past).length + 1)
  set (past ++ [.called outcome])
  pure outcome

/-- The number of the first call that succeeds. -/
noncomputable def firstSuccess (outcomes : Nat → Except ε α) : ℕ∞ :=
  ⨅ (i : Nat) (_ : 1 ≤ i ∧ ∃ a, outcomes i = .ok a), (i : ℕ∞)

variable (policy : RetryPolicy) (what : String) (text : ε → String) (outcomes : Nat → Except ε α)
  (random : List (Happening ε α) → UInt64)

/-- What happens after the call with this number: nothing if it has succeeded, a notice and a wait
if there is another one, and the last notice otherwise. -/
def aftermath (number : Nat) (wait : UInt64) : List (Happening ε α) :=
  match outcomes number with
  | .ok _ => []
  | .error e =>
    if number < policy.attempts then
      [.warned (retryWarning what number (text e) wait), .slept wait]
    else [.warned (lastWarning what number (text e))]

/-- The call with this number and what happens after it. -/
def exchange (number : Nat) (wait : UInt64) : List (Happening ε α) :=
  .called (outcomes number) :: aftermath policy what text outcomes number wait

/-- The exchanges up to a number, one after another. -/
def exchanges (wait : Nat → UInt64) (last : Nat) : List (Happening ε α) :=
  (List.range' 1 last).flatMap fun i => exchange policy what text outcomes i (wait i)

/-- What has happened after so many calls. -/
def pastOf : (calls : Nat) → List (Happening ε α)
  | 0 => []
  | n + 1 =>
    let past := pastOf n ++ [.called (outcomes (n + 1))]
    past ++ aftermath policy what text outcomes (n + 1) (policy.wait (n + 1) (random past))

variable {policy what text outcomes random} {left n : Nat} {past : List (Happening ε α)} {e : ε}

theorem callsOf_append (past after : List (Happening ε α)) :
    callsOf (past ++ after) = callsOf past ++ callsOf after :=
  List.filterMap_append

theorem callsOf_aftermath (number : Nat) (wait : UInt64) :
    callsOf (aftermath policy what text outcomes number wait) = [] := by
  unfold aftermath
  split
  · rfl
  · split <;> rfl

theorem callsOf_pastOf :
    callsOf (pastOf policy what text outcomes random n) = (List.range' 1 n).map outcomes := by
  induction n with
  | zero => rfl
  | succ n ih =>
    rw [pastOf, callsOf_append, callsOf_append, callsOf_aftermath, ih, List.append_nil,
      List.range'_1_concat, List.map_append, Nat.add_comm 1 n]
    rfl

theorem recorded_run : (recorded outcomes).run (pastOf policy what text outcomes random n) =
    (outcomes (n + 1),
      pastOf policy what text outcomes random n ++ [.called (outcomes (n + 1))]) := by
  have hcalls : (callsOf (pastOf policy what text outcomes random n)).length = n := by
    rw [callsOf_pastOf, List.length_map, List.length_range']
  have hnumber : outcomes ((callsOf (pastOf policy what text outcomes random n)).length + 1) =
      outcomes (n + 1) := by rw [hcalls]
  rw [← hnumber]
  rfl

theorem aftermath_ok {number : Nat} {wait : UInt64} {a : α} (h : outcomes number = .ok a) :
    aftermath policy what text outcomes number wait = [] := by
  rw [aftermath, h]

theorem aftermath_again {number : Nat} {wait : UInt64} (h : outcomes number = .error e)
    (hagain : number < policy.attempts) : aftermath policy what text outcomes number wait =
      [.warned (retryWarning what number (text e) wait), .slept wait] := by
  rw [aftermath, h]
  exact if_pos hagain

theorem aftermath_last {number : Nat} {wait : UInt64} (h : outcomes number = .error e)
    (hlast : number = policy.attempts) : aftermath policy what text outcomes number wait =
      [.warned (lastWarning what number (text e))] := by
  rw [aftermath, h]
  exact if_neg (Nat.not_lt.mpr (Nat.le_of_eq hlast.symm))

/-! One round of a run, by what the call does in it. -/

theorem retryFrom_run_ok {a : α} (h : outcomes (n + 1) = .ok a) :
    (retryFrom (recorder random) policy what text (recorded outcomes) left (n + 1)).run
        (pastOf policy what text outcomes random n) =
      (outcomes (n + 1), pastOf policy what text outcomes random (n + 1)) := by
  rw [pastOf, aftermath_ok h, List.append_nil]
  cases left with
  | zero =>
    rw [retryFrom, run_bind_of_eq recorded_run, h]
    rfl
  | succ left =>
    rw [retryFrom, run_bind_of_eq recorded_run, h]
    rfl

theorem retryFrom_run_last (h : outcomes (n + 1) = .error e) (hlast : n + 1 = policy.attempts) :
    (retryFrom (recorder random) policy what text (recorded outcomes) 0 (n + 1)).run
        (pastOf policy what text outcomes random n) =
      (outcomes (n + 1), pastOf policy what text outcomes random (n + 1)) := by
  rw [pastOf, aftermath_last h hlast, retryFrom, run_bind_of_eq recorded_run, h]
  rfl

theorem retryFrom_run_again (h : outcomes (n + 1) = .error e) (hagain : n + 1 < policy.attempts) :
    (retryFrom (recorder random) policy what text (recorded outcomes) (left + 1) (n + 1)).run
        (pastOf policy what text outcomes random n) =
      (retryFrom (recorder random) policy what text (recorded outcomes) left (n + 2)).run
        (pastOf policy what text outcomes random (n + 1)) := by
  rw [pastOf, aftermath_again h hagain, List.append_cons _ (Happening.warned _), retryFrom,
    run_bind_of_eq recorded_run, h]
  rfl

/-- The rest of a run with some calls behind it. -/
theorem retryFrom_run (h : n + 1 + left = policy.attempts) :
    ∃ k, n < k ∧ k ≤ policy.attempts ∧ (∀ i, n < i → i < k → ∃ e, outcomes i = .error e) ∧
      (k = policy.attempts ∨ ∃ a, outcomes k = .ok a) ∧
      (retryFrom (recorder random) policy what text (recorded outcomes) left (n + 1)).run
          (pastOf policy what text outcomes random n) =
        (outcomes k, pastOf policy what text outcomes random k) := by
  -- On the calls that are left: each round starts from `pastOf`, where the one before has ended.
  induction left generalizing n with
  | zero =>
    refine ⟨n + 1, n.lt_succ_self, Nat.le_of_eq h, fun i hn hi => absurd hi (Nat.not_lt.mpr hn),
      .inl h, ?_⟩
    cases houtcome : outcomes (n + 1) with
    | ok a => rw [retryFrom_run_ok houtcome, houtcome]
    | error e => rw [retryFrom_run_last houtcome h, houtcome]
  | succ left ih =>
    have hagain : n + 1 < policy.attempts := by omega
    cases houtcome : outcomes (n + 1) with
    | ok a =>
      exact ⟨n + 1, n.lt_succ_self, Nat.le_of_lt hagain,
        fun i hn hi => absurd hi (Nat.not_lt.mpr hn), .inr ⟨a, houtcome⟩,
        retryFrom_run_ok houtcome⟩
    | error e =>
      have hrest : n + 1 + 1 + left = policy.attempts := by omega
      obtain ⟨k, hk, hmost, hfailed, hlast, hrun⟩ := ih hrest
      refine ⟨k, Nat.lt_of_succ_lt hk, hmost, ?_, hlast, ?_⟩
      · intro i hn hi
        rcases Nat.eq_or_lt_of_le hn with rfl | hlt
        · exact ⟨e, houtcome⟩
        · exact hfailed i hlt hi
      · rw [retryFrom_run_again houtcome hagain]
        exact hrun

theorem eq_min_firstSuccess {k m : Nat} (hpos : 1 ≤ k) (hmost : k ≤ m)
    (hfailed : ∀ i, 1 ≤ i → i < k → ∃ e, outcomes i = .error e)
    (hlast : k = m ∨ ∃ a, outcomes k = .ok a) : (k : ℕ∞) = min (firstSuccess outcomes) m := by
  apply le_antisymm
  · refine le_min (le_iInf₂ fun i hi => ?_) (Nat.cast_le.mpr hmost)
    obtain ⟨hone, a, hok⟩ := hi
    apply Nat.cast_le.mpr
    by_contra! hlt
    obtain ⟨e, herror⟩ := hfailed i hone hlt
    cases hok.symm.trans herror
  · rcases hlast with rfl | hok
    · exact min_le_right _ _
    · exact (min_le_left _ _).trans (iInf₂_le k ⟨hpos, hok⟩)

/-- What has happened is one exchange after another. -/
theorem pastOf_eq_exchanges (n : Nat) : pastOf policy what text outcomes random n =
    exchanges policy what text outcomes
      (fun i => policy.wait i (random (pastOf policy what text outcomes random (i - 1) ++
        [.called (outcomes i)]))) n := by
  induction n with
  | zero => rfl
  | succ n ih =>
    rw [exchanges, List.range'_1_concat, List.flatMap_append, ← exchanges, ← ih,
      Nat.add_comm 1 n, pastOf]
    simp [exchange]

/-- All that happens while a call with these outcomes is repeated. -/
theorem retry_run (policy : RetryPolicy) (what : String) (text : ε → String)
    (outcomes : Nat → Except ε α) (random : List (Happening ε α) → UInt64) :
    ∃ (n : Nat) (wait : Nat → UInt64), (n : ℕ∞) = min (firstSuccess outcomes) policy.attempts ∧
      (∀ i, policy.IsWait i (wait i)) ∧
      (retry (recorder random) policy what text (recorded outcomes)).run [] =
        (outcomes n, exchanges policy what text outcomes wait n) ∧
      callsOf (exchanges policy what text outcomes wait n) = (List.range' 1 n).map outcomes := by
  obtain ⟨n, hpos, hmost, hfailed, hlast, hrun⟩ := retryFrom_run policy.attempts_eq
  refine ⟨n, fun i => policy.wait i (random (pastOf policy what text outcomes random (i - 1) ++
    [.called (outcomes i)])), eq_min_firstSuccess hpos hmost hfailed hlast,
    fun i => policy.isWait_wait i _, ?_, ?_⟩
  · rw [← pastOf_eq_exchanges]
    exact hrun
  · rw [← pastOf_eq_exchanges, callsOf_pastOf]

/-- **A call is made until its first success, but as often as the policy allows at most.** Each
failure is logged, a wait follows all of them but the last, and the least wait never falls. Machine
words compute all of it without a fault. -/
theorem retry_bounded (policy : RetryPolicy) :
    (∀ {ε α : Type} (what : String) (text : ε → String) (outcomes : Nat → Except ε α)
      (random : List (Happening ε α) → UInt64),
      ∃ (n : Nat) (wait : Nat → UInt64),
        (n : ℕ∞) = min (firstSuccess outcomes) (max 1 policy.maxAttempts.toNat : Nat) ∧
        (∀ i, policy.IsWait i (wait i)) ∧
        (retry (recorder random) policy what text (recorded outcomes)).run [] =
          (outcomes n, exchanges policy what text outcomes wait n) ∧
        callsOf (exchanges policy what text outcomes wait n) =
          (List.range' 1 n).map outcomes) ∧
    (∀ i wait, policy.IsWait i wait → policy.floor i ≤ wait.toNat) ∧
    (∀ i j, i ≤ j → policy.floor i ≤ policy.floor j) ∧
    ∀ {m : Type → Type} [Monad m] [LawfulMonad m] {ε α : Type} (patience : Patience m)
      (what : String) (text : ε → String) (call : m (Except ε α)),
      retryWords patience policy what text call =
        some <$> retry patience policy what text call :=
  ⟨retry_run policy, fun _ _ => RetryPolicy.IsWait.floor_le, fun _ _ => RetryPolicy.floor_mono,
    fun _ _ _ _ => retryWords_eq⟩

theorem firstSuccess_of_failing (h : ∀ i, ∃ e, outcomes i = .error e) :
    firstSuccess outcomes = ⊤ := by
  refine iInf₂_eq_top.mpr fun i ⟨_, a, hok⟩ => ?_
  obtain ⟨e, herror⟩ := h i
  cases hok.symm.trans herror

/-- Two failures with the greatest base. -/
theorem retry_bounded_greatest :
    let policy : RetryPolicy := ⟨2, greatest⟩
    let outcomes : Nat → Except String Unit := fun _ => .error "HTTP 502"
    ∃ wait, policy.IsWait 1 wait ∧ policy.floor 1 ≤ wait.toNat ∧ policy.floor 1 ≤ policy.floor 2 ∧
      (retryWords (recorder fun _ => 7) policy "fetch diff" id (recorded outcomes)).run [] =
        (some (.error "HTTP 502"),
          [.called (.error "HTTP 502"),
            .warned (retryWarning "fetch diff" 1 "HTTP 502" wait), .slept wait,
            .called (.error "HTTP 502"), .warned (lastWarning "fetch diff" 2 "HTTP 502")]) := by
  intro policy outcomes
  obtain ⟨hruns, hleast, hmono, hwords⟩ := retry_bounded policy
  obtain ⟨n, wait, hn, hwait, hrun, -⟩ := hruns "fetch diff" id outcomes fun _ => 7
  have htwo : n = 2 := by
    rw [firstSuccess_of_failing fun _ => ⟨_, rfl⟩, min_eq_right le_top] at hn
    exact Nat.cast_injective hn
  subst htwo
  refine ⟨wait 1, hwait 1, hleast 1 _ (hwait 1), hmono 1 2 (by decide), ?_⟩
  rw [hwords, StateT.run_map, hrun]
  rfl

end

end LintReview.Review

import LintReview.Review.Duration

/-! Repeating a call that fails. A `RetryPolicy` says how often a call is made at most and how long
to wait in between: the wait doubles with each failure, up to sixteen times, and a random part less
than one base is added to it. Waits do not exceed what 64 bits hold. -/

namespace LintReview.Review

/-- How often a call is made at most, and the wait after its first failure. -/
structure RetryPolicy where
  maxAttempts : UInt32 := 3
  baseMillis : UInt64 := 1000
  deriving DecidableEq, Repr, Inhabited

namespace RetryPolicy

/-- How often a call is made at most, which is at least once. -/
def attempts (p : RetryPolicy) : Nat := max 1 p.maxAttempts.toNat

/-- A number, or the greatest that 64 bits hold if it is beyond that. -/
def saturate (n : Nat) : UInt64 := UInt64.ofNat (min n (UInt64.size - 1))

/-- The wait after a failure without its random part. The first failure has the number one. -/
def backoff (p : RetryPolicy) (failure : Nat) : UInt64 :=
  saturate (p.baseMillis.toNat <<< min (failure - 1) 16)

/-- The wait after a failure, in milliseconds. -/
def wait (p : RetryPolicy) (failure : Nat) (random : UInt64) : UInt64 :=
  if p.baseMillis = 0 then 0
  else saturate ((p.backoff failure).toNat + (random % p.baseMillis).toNat)

end RetryPolicy

/-- What waiting for another attempt takes. -/
structure Patience (m : Type → Type) where
  random : m UInt64
  /-- Waits for a number of milliseconds. -/
  sleep : UInt64 → m Unit
  warn : String → m Unit

/-- What is logged when a call fails and is made again. -/
def retryWarning (what : String) (attempt : Nat) (error : String) (wait : UInt64) : String :=
  what ++ ": attempt " ++ String.ofList (Decimal.digits attempt) ++ " failed: " ++ error ++
    ". Retrying in " ++ durationText wait.toNat

/-- What is logged when a call fails for the last time. -/
def lastWarning (what : String) (attempt : Nat) (error : String) : String :=
  what ++ ": giving up after " ++ String.ofList (Decimal.digits attempt) ++ " attempts: " ++ error

variable {m : Type → Type} [Monad m] {ε α : Type}

/-- Makes a call until it succeeds; `left` is how often it may be made again if it fails. -/
def retryFrom (patience : Patience m) (policy : RetryPolicy) (what : String) (text : ε → String)
    (call : m (Except ε α)) : (left attempt : Nat) → m (Except ε α)
  | 0, attempt => do
    match ← call with
    | .ok a => pure (.ok a)
    | .error e => do
      patience.warn (lastWarning what attempt (text e))
      pure (.error e)
  | left + 1, attempt => do
    match ← call with
    | .ok a => pure (.ok a)
    | .error e => do
      let wait := policy.wait attempt (← patience.random)
      patience.warn (retryWarning what attempt (text e) wait)
      patience.sleep wait
      retryFrom patience policy what text call left (attempt + 1)

/-- Makes a call until it succeeds or has failed as often as the policy allows. The last error is
the answer then. -/
def retry (patience : Patience m) (policy : RetryPolicy) (what : String) (text : ε → String)
    (call : m (Except ε α)) : m (Except ε α) :=
  retryFrom patience policy what text call (policy.attempts - 1) 1

end LintReview.Review

import LintReview.Proofs.Review.Trace
import LintReview.Review.Gh

/-! The program `gh` with failures, and one call. A `Remote` is what the program does when it
succeeds, and a `Schedule` says which failing runs stand before each success. **A call is answered
as without failures if there are fewer of them than it may make attempts, and else fails with its
last attempt** (`call_run_of_lt`, `call_run_of_le`). -/

namespace LintReview.Review.Gh

/-! ## The program and its failures -/

/-- What a run of the program writes. -/
structure Written where
  stdout : List UInt8 := []
  stderr : List UInt8 := []

def Written.text (o : Written) : String := Utf8.decodeLossy o.stdout

/-- The error of a run that fails. -/
def Written.error (o : Written) : CallError :=
  .refused (String.ofList (Text.trim (Utf8.decodeLossy o.stderr).toList))

/-- The bytes of a text in which each character is one of them. -/
def bytesOf (text : String) : List UInt8 := text.toList.map fun c => c.toNat.toUInt8

/-- A run of the program, with its end. -/
structure Run where
  invocation : Invocation
  succeeded : Bool
  written : Written

def Run.exit (run : Run) : Exit := .exited run.succeeded run.written.stdout run.written.stderr

/-- What the program does when it succeeds: what it writes, and how the host changes. -/
structure Remote (σ : Type) where
  answer : σ → Invocation → Written
  next : σ → Invocation → σ

/-- The host after runs that have succeeded. -/
def Remote.after {σ : Type} (r : Remote σ) (s : σ) (runs : List Run) : σ :=
  runs.foldl (fun s run => r.next s run.invocation) s

/-- What the runs write that fail before each success. Successes count from zero. However the runs
of a call come to fail, they do so as some schedule says. -/
abbrev Schedule := Nat → List Written

/-- The host, the runs so far with the oldest first, how many of them have succeeded, and how many
have failed since the last success. -/
structure Scene (σ : Type) where
  state : σ
  past : List Run := []
  answered : Nat := 0
  failed : Nat := 0

section

variable {σ : Type}

/-- The scene after one more run. A run that fails leaves the host as it is. -/
def Scene.fail (w : Scene σ) (i : Invocation) (o : Written) : Scene σ :=
  { w with past := w.past ++ [⟨i, false, o⟩], failed := w.failed + 1 }

def Scene.succeed (w : Scene σ) (r : Remote σ) (i : Invocation) : Scene σ where
  state := r.next w.state i
  past := w.past ++ [⟨i, true, r.answer w.state i⟩]
  answered := w.answered + 1

/-- A run of the program. It fails as long as the schedule says so. -/
def Scene.run (w : Scene σ) (r : Remote σ) (faults : Schedule) (i : Invocation) : Exit × Scene σ :=
  match (faults w.answered)[w.failed]? with
  | some o => (Run.exit ⟨i, false, o⟩, w.fail i o)
  | none => (Run.exit ⟨i, true, r.answer w.state i⟩, w.succeed r i)

/-- The program with these failures. Waiting takes no time, and warnings are not kept. -/
def Remote.runner (r : Remote σ) (faults : Schedule) (random : List Run → UInt64) :
    Runner (StateM (Scene σ)) where
  random := do return random (← get).past
  sleep _ := pure ()
  warn _ := pure ()
  run i := modifyGet (Scene.run · r faults i)

/-- The runs of calls that have succeeded, with the failing runs before each. They repeat its
invocation. -/
def disturbed (faults : Schedule) (past : List Run) : List Run :=
  past.zipIdx.flatMap fun (run, n) => (faults n).map (⟨run.invocation, false, ·⟩) ++ [run]

/-! ## One call -/

variable {r : Remote σ} {t : Target} {faults : Schedule} {random : List Run → UInt64}
  {what : String} {i : Invocation} {w : Scene σ} {o : Written} {os : List Written}
  {left number : Nat}

/-- The failing runs that are still to come before the next success. -/
def Scene.ahead (w : Scene σ) (faults : Schedule) : List Written :=
  (faults w.answered).drop w.failed

/-- The scene after failing runs. -/
def Scene.failAll (w : Scene σ) (i : Invocation) (os : List Written) : Scene σ :=
  os.foldl (fun w o => w.fail i o) w

theorem Scene.ahead_fail (h : w.ahead faults = o :: os) : (w.fail i o).ahead faults = os := by
  have htail : (w.fail i o).ahead faults = (w.ahead faults).tail := by
    simp [Scene.ahead, Scene.fail]
  rw [htail, h, List.tail_cons]

theorem Scene.run_of_ahead_nil (h : w.ahead faults = []) :
    w.run r faults i = (Run.exit ⟨i, true, r.answer w.state i⟩, w.succeed r i) := by
  have hnone : (faults w.answered)[w.failed]? = none :=
    List.getElem?_eq_none (List.drop_eq_nil_iff.mp h)
  rw [Scene.run, hnone]

theorem Scene.run_of_ahead_cons (h : w.ahead faults = o :: os) :
    w.run r faults i = (Run.exit ⟨i, false, o⟩, w.fail i o) := by
  have hsome : (faults w.answered)[w.failed]? = some o := by
    rw [← List.head?_drop]
    exact congrArg List.head? h
  rw [Scene.run, hsome]

/-- A call with some attempts left, the next of which has this number. -/
def Target.attempts (t : Target) (r : Remote σ) (faults : Schedule) (random : List Run → UInt64)
    (what : String) (i : Invocation) (left number : Nat) :
    StateM (Scene σ) (Except CallError String) :=
  retryFrom (r.runner faults random).toPatience t.policy what CallError.message
    (do return t.result (← (r.runner faults random).run i)) left number

theorem attempts_run_of_nil (h : w.ahead faults = []) :
    (t.attempts r faults random what i left number).run w =
      (.ok (r.answer w.state i).text, w.succeed r i) := by
  have hrun : ((r.runner faults random).run i).run w = _ := Scene.run_of_ahead_nil h
  unfold Target.attempts
  cases left with
  | zero =>
    unfold retryFrom
    rw [bind_assoc, run_bind_of_eq hrun]
    rfl
  | succ left =>
    unfold retryFrom
    rw [bind_assoc, run_bind_of_eq hrun]
    rfl

theorem attempts_zero_run_of_cons (h : w.ahead faults = o :: os) :
    (t.attempts r faults random what i 0 number).run w = (.error o.error, w.fail i o) := by
  have hrun : ((r.runner faults random).run i).run w = _ := Scene.run_of_ahead_cons h
  unfold Target.attempts retryFrom
  rw [bind_assoc, run_bind_of_eq hrun]
  rfl

theorem attempts_succ_run_of_cons (h : w.ahead faults = o :: os) :
    (t.attempts r faults random what i (left + 1) number).run w =
      (t.attempts r faults random what i left (number + 1)).run (w.fail i o) := by
  have hrun : ((r.runner faults random).run i).run w = _ := Scene.run_of_ahead_cons h
  unfold Target.attempts
  rw [retryFrom, bind_assoc, run_bind_of_eq hrun]
  rfl

theorem attempts_run_of_le (h : (w.ahead faults).length ≤ left) :
    (t.attempts r faults random what i left number).run w =
      (.ok (r.answer w.state i).text, (w.failAll i (w.ahead faults)).succeed r i) := by
  induction left generalizing w number with
  | zero =>
    have hnil := List.eq_nil_of_length_eq_zero (Nat.le_zero.mp h)
    rw [attempts_run_of_nil hnil, hnil]
    rfl
  | succ left ih =>
    cases hahead : w.ahead faults with
    | nil => exact attempts_run_of_nil hahead
    | cons o os =>
      have hnext : (w.fail i o).ahead faults = os := Scene.ahead_fail hahead
      rw [hahead, List.length_cons] at h
      rw [attempts_succ_run_of_cons hahead, ih (by rw [hnext]; omega), hnext]
      rfl

theorem attempts_run_of_lt (r : Remote σ) (t : Target) (random : List Run → UInt64) (what : String)
    (i : Invocation) (number : Nat) (h : left < (w.ahead faults).length) :
    ∃ o, (w.ahead faults)[left]? = some o ∧ (t.attempts r faults random what i left number).run w =
      (.error o.error, w.failAll i ((w.ahead faults).take (left + 1))) := by
  induction left generalizing w number with
  | zero =>
    obtain ⟨o, os, hahead⟩ := List.exists_cons_of_length_pos h
    exact ⟨o, by rw [hahead]; rfl, by rw [attempts_zero_run_of_cons hahead, hahead]; rfl⟩
  | succ left ih =>
    obtain ⟨o, os, hahead⟩ := List.exists_cons_of_length_pos (Nat.zero_lt_of_lt h)
    have hnext : (w.fail i o).ahead faults = os := Scene.ahead_fail hahead
    rw [hahead, List.length_cons] at h
    obtain ⟨last, hlast, hrun⟩ := ih (w := w.fail i o) (number + 1) (by rw [hnext]; omega)
    rw [hnext] at hlast hrun
    refine ⟨last, by rw [hahead]; exact hlast, ?_⟩
    rw [attempts_succ_run_of_cons hahead, hrun, hahead]
    rfl

theorem attempts_pos (t : Target) : 1 ≤ t.policy.attempts := Nat.le_max_left _ _

theorem call_run_of_lt (r : Remote σ) (random : List Run → UInt64) (what : String) (i : Invocation)
    (h : (w.ahead faults).length < t.policy.attempts) :
    (t.call (r.runner faults random) what i).run w =
      (.ok (r.answer w.state i).text, (w.failAll i (w.ahead faults)).succeed r i) :=
  attempts_run_of_le (Nat.le_sub_one_of_lt h)

theorem call_run_of_le (r : Remote σ) (random : List Run → UInt64) (what : String) (i : Invocation)
    (h : t.policy.attempts ≤ (w.ahead faults).length) :
    ∃ o, (w.ahead faults)[t.policy.attempts - 1]? = some o ∧
      (t.call (r.runner faults random) what i).run w =
        (.error o.error, w.failAll i ((w.ahead faults).take t.policy.attempts)) := by
  have hpos := attempts_pos t
  obtain ⟨o, ho, hrun⟩ := attempts_run_of_lt r t random what i 1
    (Nat.lt_of_lt_of_le (Nat.sub_one_lt_of_lt hpos) h)
  rw [Nat.sub_add_cancel hpos] at hrun
  exact ⟨o, ho, hrun⟩

theorem Scene.failAll_eq (w : Scene σ) (i : Invocation) (os : List Written) :
    w.failAll i os =
      { w with past := w.past ++ os.map (⟨i, false, ·⟩), failed := w.failed + os.length } := by
  induction os generalizing w with
  | nil => simp [Scene.failAll]
  | cons o os ih =>
    change (w.fail i o).failAll i os = _
    rw [ih]
    simp [Scene.fail, Nat.add_right_comm, ← Nat.add_assoc]

/-- The runs of a call fail up to its success, or up to its end. -/
theorem exists_call_run (t : Target) (r : Remote σ) (faults : Schedule) (random : List Run → UInt64)
    (what : String) (i : Invocation) (w : Scene σ) :
    ∃ (os : List Written) (w' : Scene σ),
      (∃ e, (t.call (r.runner faults random) what i).run w = (.error e, w') ∧
        w'.past = w.past ++ os.map (⟨i, false, ·⟩)) ∨
      ∃ o, (t.call (r.runner faults random) what i).run w = (.ok o.text, w') ∧
        w'.past = w.past ++ (os.map (⟨i, false, ·⟩) ++ [⟨i, true, o⟩]) := by
  by_cases h : (w.ahead faults).length < t.policy.attempts
  · refine ⟨w.ahead faults, _, .inr ⟨_, call_run_of_lt r random what i h, ?_⟩⟩
    rw [Scene.failAll_eq]
    exact List.append_assoc ..
  · obtain ⟨o, -, hrun⟩ := call_run_of_le r random what i (Nat.not_lt.mp h)
    refine ⟨(w.ahead faults).take t.policy.attempts, _, .inl ⟨_, hrun, ?_⟩⟩
    rw [Scene.failAll_eq]

end

end LintReview.Review.Gh

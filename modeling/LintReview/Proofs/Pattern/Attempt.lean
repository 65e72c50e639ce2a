import LintReview.Pattern.Matching
import Mathlib.Data.List.Basic

/-! What the matching of a pattern computes. `Node.attempt` tries the ways in which a pattern and
what follows it match at a place one after the other, the preferred one first, and reads the text
forwards. The matcher reads it backwards and takes each place once. **Both give the same trail at
every place** (`Node.advance_eq`), so that the matches of a pattern are selected among its attempts
(`findAll_eq`). -/

namespace LintReview.Pattern

/-- How the text is matched from a place on. -/
abbrev Matcher := Place → Option Trail

/-- A match ends here. -/
def Trail.finish : Matcher := fun p => some ⟨[], p.offset⟩

/-- The place where a text starts. -/
def Place.start (text : List Char) : Place := ⟨none, 0, text⟩

/-- The place after the next character. -/
def Place.next? (p : Place) : Option Place :=
  match p.rest with
  | [] => none
  | c :: rest => some ⟨some c, p.offset + 1, rest⟩

/-- Further rounds of a loop, none of which is empty, and then what follows the loop. -/
def rounds (body : Matcher → Matcher) (greedy : Bool) (k : Matcher) (p : Place) : Option Trail :=
  let more :=
    body (fun q => if q.rest.length < p.rest.length then rounds body greedy k q else none) p
  if greedy then more.or (k p) else (k p).or more
termination_by p.rest.length

/-- How a pattern matches at a place, if the text is matched by `k` after it. -/
def Node.attempt : Node → Matcher → Matcher
  | .empty, k, p => k p
  | .set s, k, p => if p.rest.head?.any s.contains then p.next?.bind k else none
  | .look l, k, p => if l.holds p.before p.rest.head? then k p else none
  | .cat a b, k, p => a.attempt (b.attempt k) p
  | .alt a b, k, p => (a.attempt k p).or (b.attempt k p)
  | .loop greedy a, k, p =>
    a.attempt
      (fun q => if q.rest.length < p.rest.length then rounds a.attempt greedy k q else k q) p
  | .group i a, k, p =>
    (a.attempt (fun q => (k q).map (Trail.mark i false q)) p).map (Trail.mark i true p)

/-- The attempt at a place, with the end of the match after the pattern. -/
def Node.trail? (n : Node) (p : Place) : Option Trail := n.attempt Trail.finish p

/-! ## What an attempt depends on -/

theorem Place.length_next {p q : Place} (h : p.next? = some q) :
    q.rest.length < p.rest.length := by
  unfold Place.next? at h
  split at h
  · cases h
  · next c rest hrest =>
    cases h
    simp [hrest]

/-- The text is matched alike at a place and at those after it. -/
structure Place.Agree (p : Place) (k k' : Matcher) : Prop where
  here : k p = k' p
  later : ∀ q : Place, q.rest.length < p.rest.length → k q = k' q

section

variable {p q : Place} {k k' : Matcher} {body : Matcher → Matcher} {greedy : Bool} {n : Node}
  {after : Option Trail}

theorem Place.Agree.of_later (h : p.Agree k k') (hq : q.rest.length < p.rest.length) :
    q.Agree k k' :=
  ⟨h.later q hq, fun r hr => h.later r (Nat.lt_trans hr hq)⟩

theorem rounds_congr
    (hbody : ∀ {p : Place} {k k' : Matcher}, p.Agree k k' → body k p = body k' p)
    (h : p.Agree k k') : rounds body greedy k p = rounds body greedy k' p := by
  induction hlength : p.rest.length using Nat.strongRecOn generalizing p with
  | _ length ih =>
    subst hlength
    have hmore : p.Agree
        (fun q => if q.rest.length < p.rest.length then rounds body greedy k q else none)
        (fun q => if q.rest.length < p.rest.length then rounds body greedy k' q else none) := by
      refine ⟨by simp, fun q hq => ?_⟩
      simp only [if_pos hq]
      exact ih _ hq (h.of_later hq) rfl
    rw [rounds, rounds, hbody hmore, h.here]

theorem attempt_congr (h : p.Agree k k') : n.attempt k p = n.attempt k' p := by
  induction n generalizing p k k' with
  | empty => exact h.here
  | set s =>
    unfold Node.attempt
    cases hnext : p.next? with
    | none => rfl
    | some q => simp only [Option.bind_some, h.later q (Place.length_next hnext)]
  | look l => simp only [Node.attempt, h.here]
  | cat a b iha ihb => exact iha ⟨ihb h, fun q hq => ihb (h.of_later hq)⟩
  | alt a b iha ihb => simp only [Node.attempt, iha h, ihb h]
  | loop greedy a ih =>
    refine ih ⟨by simpa using h.here, fun q hq => ?_⟩
    simp only [if_pos hq]
    exact rounds_congr ih (h.of_later hq)
  | group i a ih =>
    have hmark : p.Agree (fun q => (k q).map (Trail.mark i false q))
        (fun q => (k' q).map (Trail.mark i false q)) :=
      ⟨by rw [h.here], fun q hq => by rw [h.later q hq]⟩
    exact congrArg (Option.map _) (ih hmark)

/-- `k`, except that the text is matched as `after` says at the place itself. -/
def Place.switch (p : Place) (k : Matcher) (after : Option Trail) : Matcher :=
  fun q => if q.rest.length < p.rest.length then k q else after

theorem Place.switch_self : p.switch k after p = after :=
  if_neg (Nat.lt_irrefl _)

theorem Place.switch_later (h : q.rest.length < p.rest.length) : p.switch k after q = k q :=
  if_pos h

theorem Place.agree_switch_self : p.Agree (p.switch k (k p)) k :=
  ⟨Place.switch_self, fun _ hq => Place.switch_later hq⟩

theorem Place.agree_switch_later (h : q.rest.length < p.rest.length) :
    q.Agree k (p.switch k after) :=
  ⟨(Place.switch_later h).symm, fun _ hr => (Place.switch_later (Nat.lt_trans hr h)).symm⟩

end

/-! ## What is ahead -/

/-- What is ahead at a place, given the next one and how the text is matched after the pattern. -/
def Ahead.of : (n : Node) → Matcher → (next : Option Place) → Ahead n
  | .empty, _, _ => ()
  | .set _, k, next => next.bind k
  | .look _, _, _ => ()
  | .cat a b, k, next => (of a (b.attempt k) next, of b k next)
  | .alt a b, k, next => (of a k next, of b k next)
  | .loop greedy a, k, next => of a (rounds a.attempt greedy k) next
  | .group i a, k, next => of a (fun p => (k p).map (Trail.mark i false p)) next

theorem Ahead.of_none (n : Node) (k : Matcher) : Ahead.of n k none = Ahead.nothing n := by
  induction n generalizing k with
  | empty | set | look => rfl
  | cat a b iha ihb | alt a b iha ihb => exact Prod.ext (iha _) (ihb _)
  | loop greedy a ih | group i a ih => exact ih _

theorem Node.enter_eq (n : Node) (p : Place) (k : Matcher) (after : Option Trail) :
    n.enter p after (Ahead.of n k p.next?) = n.attempt (p.switch k after) p := by
  induction n generalizing k after with
  | empty => exact Place.switch_self.symm
  | set s =>
    unfold Node.enter Node.attempt Ahead.of
    cases hrest : p.rest with
    | nil => rfl
    | cons c rest =>
      have hnext : p.next? = some ⟨some c, p.offset + 1, rest⟩ := by simp [Place.next?, hrest]
      simp only [hnext, List.head?_cons, Option.any_some, Option.bind_some,
        Place.switch_later (Place.length_next hnext)]
  | look l => simp only [Node.enter, Node.attempt, Place.switch_self]
  | cat a b iha ihb =>
    unfold Node.enter Node.attempt Ahead.of
    rw [iha, ihb]
    refine attempt_congr ⟨Place.switch_self, fun q hq => ?_⟩
    rw [Place.switch_later hq]
    exact attempt_congr (Place.agree_switch_later hq)
  | alt a b iha ihb => simp only [Node.enter, Node.attempt, Ahead.of, iha, ihb]
  | loop greedy a ih =>
    unfold Node.enter Node.attempt Ahead.of
    rw [ih]
    refine attempt_congr ⟨by simp [Place.switch_self], fun q hq => ?_⟩
    rw [Place.switch_later hq, if_pos hq]
    exact rounds_congr attempt_congr (Place.agree_switch_later hq)
  | group i a ih =>
    unfold Node.enter Node.attempt Ahead.of
    rw [ih]
    refine congrArg (Option.map _) (attempt_congr ⟨by simp [Place.switch_self], fun q hq => ?_⟩)
    rw [Place.switch_later hq, Place.switch_later hq]

theorem Node.enter_self (n : Node) (p : Place) (k : Matcher) :
    n.enter p (k p) (Ahead.of n k p.next?) = n.attempt k p := by
  rw [n.enter_eq]
  exact attempt_congr Place.agree_switch_self

theorem Node.again_eq (a : Node) (p : Place) (greedy : Bool) (k : Matcher) :
    Node.again p greedy a (k p) (Ahead.of a (rounds a.attempt greedy k) p.next?) =
      rounds a.attempt greedy k p := by
  rw [rounds, Node.again, a.enter_eq]
  rfl

/-- **A step back by one place** finds the attempt there, and is ready for the place before. -/
theorem Node.advance_eq (n : Node) (p : Place) (k : Matcher) :
    n.advance p (k p) (Ahead.of n k p.next?) = (n.attempt k p, Ahead.of n k (some p)) := by
  induction n generalizing k with
  | empty => rfl
  | set s => exact Prod.ext ((Node.set s).enter_self p k) rfl
  | look l => rfl
  | cat a b iha ihb | alt a b iha ihb =>
    unfold Node.advance Ahead.of
    simp only [ihb, iha]
    rfl
  | loop greedy a ih =>
    have hself := (Node.loop greedy a).enter_self p k
    unfold Node.enter at hself
    unfold Node.advance Ahead.of
    simp only [again_eq, ih]
    exact Prod.ext hself rfl
  | group i a ih =>
    unfold Node.advance Ahead.of
    simp only [ih fun p => (k p).map (Trail.mark i false p)]
    rfl

/-! ## The matches of a text -/

theorem Node.matchesAt_toEnd (n : Node) (before : Option Char) (offset : Nat) (text : List Char) :
    n.matchesAt (Place.toEnd before offset text) =
      (Ahead.of n Trail.finish (some ⟨before, offset, text⟩),
        (Place.toEnd before offset text).map fun p => (p, n.trail? p)) := by
  induction text generalizing before offset with
  | nil =>
    have hadvance := n.advance_eq ⟨before, offset, []⟩ Trail.finish
    unfold Place.next? at hadvance
    rw [Ahead.of_none] at hadvance
    unfold Node.matchesAt Place.toEnd
    exact congrArg (fun x => (x.2, [(_, x.1)])) hadvance
  | cons c rest ih =>
    have hadvance := n.advance_eq ⟨before, offset, c :: rest⟩ Trail.finish
    have hrest := ih (some c) (offset + 1)
    unfold Node.matchesAt at hrest ⊢
    simp only [Place.toEnd, List.foldr_cons, hrest, List.map_cons]
    exact congrArg (fun x => (x.2, (_, x.1) :: _)) hadvance

/-- **The matches of a pattern are selected among its attempts.** -/
theorem findAll_eq (n : Node) (text : List Char) :
    findAll n text =
      select none 0 ((Place.toEnd none 0 text).map fun p => (p, n.trail? p)) := by
  rw [findAll, n.matchesAt_toEnd]

end LintReview.Pattern

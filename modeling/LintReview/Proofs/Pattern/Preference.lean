import LintReview.Proofs.Pattern.Attempt
import Mathlib.Logic.Relation

/-! Which way of matching an attempt finds. `Node.Takes` says that a pattern takes a text, given
the text after it, in the first way with which what follows succeeds; a run of characters of a set
is taken as a whole (`takes_loop`). `Node.Ends` says so of the end of a line, and `Records` which
groups take what (`Records.captured?_eq`). In the other direction, **an attempt that succeeds has
followed a path** through the pattern (`exists_path_of_attempt`), so that it fails where there is
none. -/

namespace LintReview.Pattern

/-- The place after some characters. -/
def Place.over (p : Place) (w : List Char) : Place :=
  ⟨w.getLast?.or p.before, p.offset + w.length, p.rest.drop w.length⟩

section

variable {p : Place} {v w rest : List Char} {c : Char}

theorem Place.over_over : (p.over v).over w = p.over (v ++ w) := by
  simp only [Place.over, List.getLast?_append, List.length_append, List.drop_drop, Option.or_assoc,
    Nat.add_assoc]

theorem Place.rest_over (h : p.rest = w ++ rest) : (p.over w).rest = rest := by
  rw [Place.over, h, List.drop_left]

theorem Place.next?_eq_over (h : p.rest = c :: rest) : p.next? = some (p.over [c]) := by
  simp [Place.next?, Place.over, h]

end

/-! ## What groups take -/

/-- The marks of groups one after the other, and the texts that they take. -/
inductive Records : List Mark → List (Nat × List Char) → Prop
  | nil : Records [] []
  | cons : w <+: p.rest → Records marks taken →
    Records (⟨i, true, p⟩ :: ⟨i, false, p.over w⟩ :: marks) ((i, w) :: taken)

section

variable {marks marks' : List Mark} {taken taken' : List (Nat × List Char)} {t : Trail}

theorem Records.append (h : Records marks taken) (h' : Records marks' taken') :
    Records (marks ++ marks') (taken ++ taken') := by
  induction h with
  | nil => exact h'
  | cons hw _ ih => exact .cons hw ih

/-- The last marks of a group enclose the last text that it takes. -/
theorem Records.find? (h : Records marks taken) (i : Nat) :
    (taken.reverse.lookup i = none ∧
      ∀ isStart, (marks.reverse.find? fun m => m.group = i && m.isStart = isStart) = none) ∨
    ∃ p w, taken.reverse.lookup i = some w ∧ w <+: p.rest ∧
      (marks.reverse.find? fun m => m.group = i && m.isStart = true) = some ⟨i, true, p⟩ ∧
      (marks.reverse.find? fun m => m.group = i && m.isStart = false) =
        some ⟨i, false, p.over w⟩ := by
  induction h with
  | nil => exact .inl ⟨rfl, fun _ => rfl⟩
  | @cons w _ _ j p hw _ ih =>
    simp only [List.reverse_cons, List.append_assoc, List.lookup_append, List.find?_append]
    rcases ih with ⟨hnone, hmarks⟩ | ⟨q, v, hsome, hv, hstart, hend⟩
    · by_cases hj : j = i
      · subst hj
        exact .inr ⟨p, w, by simp [hnone], hw, by rw [hmarks]; simp, by rw [hmarks]; simp⟩
      · exact .inl ⟨by simp [hnone, List.lookup_cons, beq_eq_false_iff_ne.mpr (Ne.symm hj)],
          by simp [hmarks, hj]⟩
    · exact .inr ⟨q, v, by rw [hsome]; rfl, hv, by rw [hstart]; rfl, by rw [hend]; rfl⟩

theorem Records.captured?_eq (h : Records t.marks taken) (i : Nat) :
    t.captured? i = taken.reverse.lookup i := by
  unfold Trail.captured? Trail.last?
  rcases h.find? i with ⟨hnone, hmarks⟩ | ⟨p, w, hsome, ⟨rest, hw⟩, hstart, hend⟩
  · rw [hmarks, hnone]
    rfl
  · rw [hstart, hend, hsome]
    change some (p.rest.take (p.offset + w.length - p.offset)) = some w
    rw [Nat.add_sub_cancel_left, ← hw, List.take_left]

end

/-! ## Taking a text -/

/-- Before `rest` the pattern takes `w`, with these texts for its groups, in the first way with
which what follows succeeds. -/
def Node.Takes (n : Node) (w rest : List Char) (taken : List (Nat × List Char)) : Prop :=
  ∀ (p : Place) (k : Matcher) (t : Trail), p.rest = w ++ rest → k (p.over w) = some t →
    ∃ marks, Records marks taken ∧ n.attempt k p = some ⟨marks ++ t.marks, t.stop⟩

/-- The pattern takes all that is left, with these texts for its groups. -/
def Node.Ends (n : Node) (w : List Char) (taken : List (Nat × List Char)) : Prop :=
  ∀ p : Place, p.rest = w → ∃ t, n.trail? p = some t ∧ Records t.marks taken

/-- The pattern does not match before `rest`. -/
def Node.Fails (n : Node) (rest : List Char) : Prop :=
  ∀ (p : Place) (k : Matcher), p.rest = rest → n.attempt k p = none

/-- No character of the set stands at the start. -/
def CharSet.Stops (s : CharSet) (rest : List Char) : Prop :=
  ∀ c ∈ rest.head?, s.contains c = false

section

variable {a b n : Node} {s : CharSet} {v w rest : List Char} {taken taken' : List (Nat × List Char)}
  {p : Place} {k : Matcher} {t : Trail} {c : Char} {greedy : Bool}

theorem stops_nil : s.Stops [] := fun _ hc => nomatch hc

theorem stops_cons (h : s.contains c = false) : s.Stops (c :: rest) := by
  intro d hd
  cases hd
  exact h

theorem takes_set (hc : s.contains c = true) : (Node.set s).Takes [c] rest [] := by
  intro p k t hp hk
  refine ⟨[], .nil, ?_⟩
  have hhead : p.rest.head?.any s.contains = true := by
    rw [hp]
    exact hc
  rw [Node.attempt, if_pos hhead, Place.next?_eq_over hp]
  exact hk

theorem Node.Takes.cat (ha : a.Takes v (w ++ rest) taken) (hb : b.Takes w rest taken') :
    (Node.cat a b).Takes (v ++ w) rest (taken ++ taken') := by
  intro p k t hp hk
  rw [List.append_assoc] at hp
  rw [← Place.over_over] at hk
  obtain ⟨marks', hmarks', hb⟩ := hb (p.over v) k t (Place.rest_over hp) hk
  obtain ⟨marks, hmarks, ha⟩ := ha p (b.attempt k) _ hp hb
  exact ⟨marks ++ marks', hmarks.append hmarks', by rw [Node.attempt, ha, List.append_assoc]⟩

/-- A group around a pattern without groups. -/
theorem Node.Takes.group (h : n.Takes w rest []) (i : Nat) :
    (Node.group i n).Takes w rest [(i, w)] := by
  intro p k t hp hk
  have hmark : (k (p.over w)).map (Trail.mark i false (p.over w)) =
      some (t.mark i false (p.over w)) := by rw [hk]; rfl
  obtain ⟨marks, hmarks, hattempt⟩ :=
    h p (fun q => (k q).map (Trail.mark i false q)) _ hp hmark
  cases hmarks
  refine ⟨[⟨i, true, p⟩, ⟨i, false, p.over w⟩], .cons ⟨rest, hp.symm⟩ .nil, ?_⟩
  rw [Node.attempt, hattempt]
  rfl

theorem Node.Takes.opt (h : n.Takes w rest taken) : (n.opt true).Takes w rest taken := by
  intro p k t hp hk
  obtain ⟨marks, hmarks, hattempt⟩ := h p k t hp hk
  refine ⟨marks, hmarks, ?_⟩
  change (n.attempt k p).or (k p) = _
  rw [hattempt]
  rfl

theorem Node.Fails.opt (h : n.Fails rest) : (n.opt true).Takes [] rest [] := by
  intro p k t hp hk
  refine ⟨[], .nil, ?_⟩
  change (n.attempt k p).or (k p) = _
  rw [h p k hp]
  exact hk

/-- A pattern that is taken at most once is taken or not. -/
theorem takes_repeated_one (h : (n.opt true).Takes w rest taken) :
    (n.repeated 0 (some 1) true).Takes w rest taken := h

theorem takes_repeated_any (h : ((Node.loop true n).opt true).Takes w rest taken) :
    (n.repeated 0 none true).Takes w rest taken := h

/-! ## Where a pattern fails -/

theorem fails_set (h : s.Stops rest) : (Node.set s).Fails rest := by
  intro p k hp
  have hhead : p.rest.head?.any s.contains = false := by
    rw [hp]
    cases hrest : rest.head? with
    | none => rfl
    | some c => exact h c hrest
  rw [Node.attempt, hhead]
  rfl

theorem Node.Fails.cat (h : a.Fails rest) (b : Node) : (Node.cat a b).Fails rest :=
  fun p _ hp => h p _ hp

theorem Node.Fails.loop (h : n.Fails rest) (greedy : Bool) : (Node.loop greedy n).Fails rest :=
  fun p _ hp => h p _ hp

theorem Node.Fails.group (h : n.Fails rest) (i : Nat) : (Node.group i n).Fails rest := by
  intro p k hp
  rw [Node.attempt, h p _ hp]
  rfl

/-! ## Runs of characters -/

theorem rounds_of_fails {body : Matcher → Matcher} (h : ∀ k, body k p = none) :
    rounds body greedy k p = k p := by
  rw [rounds, h]
  cases greedy with
  | true => exact Option.none_or
  | false => exact Option.or_none

theorem attempt_set_of_contains {k : Matcher} (hp : p.rest = c :: rest)
    (hc : s.contains c = true) : (Node.set s).attempt k p = k (p.over [c]) := by
  rw [Node.attempt, hp, if_pos (by simpa using hc), Place.next?_eq_over hp]
  rfl

/-- After one more character of the set there may be further rounds. -/
theorem rounds_set (hp : p.rest = c :: rest) (hc : s.contains c = true) :
    rounds (Node.set s).attempt greedy k p =
      if greedy then (rounds (Node.set s).attempt greedy k (p.over [c])).or (k p)
      else (k p).or (rounds (Node.set s).attempt greedy k (p.over [c])) := by
  have hlt : (p.over [c]).rest.length < p.rest.length := by simp [Place.over, hp]
  rw [rounds, attempt_set_of_contains hp hc]
  simp only [if_pos hlt]

theorem attempt_loop_set (hp : p.rest = c :: rest) (hc : s.contains c = true) :
    (Node.loop greedy (.set s)).attempt k p =
      rounds (Node.set s).attempt greedy k (p.over [c]) := by
  have hlt : (p.over [c]).rest.length < p.rest.length := by simp [Place.over, hp]
  rw [Node.attempt, attempt_set_of_contains hp hc]
  exact if_pos hlt

/-- The rounds of a greedy loop go on as long as this succeeds later. -/
theorem rounds_greedy (hp : p.rest = w ++ rest) (hw : ∀ c ∈ w, s.contains c = true)
    (h : rounds (Node.set s).attempt true k (p.over w) = some t) :
    rounds (Node.set s).attempt true k p = some t := by
  induction w generalizing p with
  | nil => exact h
  | cons c w ih =>
    obtain ⟨hc, hw⟩ := List.forall_mem_cons.mp hw
    have hmore : rounds (Node.set s).attempt true k (p.over [c]) = some t := by
      refine ih (Place.rest_over hp) hw ?_
      rw [Place.over_over]
      exact h
    rw [rounds_set hp hc, if_pos rfl, hmore]
    rfl

/-- The rounds of a lazy loop go on as long as what follows fails. -/
theorem rounds_lazy (hp : p.rest = w ++ rest) (hw : ∀ c ∈ w, s.contains c = true)
    (hk : ∀ v u, w = v ++ u → u ≠ [] → k (p.over v) = none) :
    rounds (Node.set s).attempt false k p = rounds (Node.set s).attempt false k (p.over w) := by
  induction w generalizing p with
  | nil => rfl
  | cons c w ih =>
    obtain ⟨hc, hw⟩ := List.forall_mem_cons.mp hw
    have hhere : k p = none := hk [] (c :: w) rfl (List.cons_ne_nil c w)
    have hlater : ∀ v u, w = v ++ u → u ≠ [] → k ((p.over [c]).over v) = none := by
      intro v u hvu hu
      rw [Place.over_over]
      exact hk (c :: v) u (by rw [hvu]; rfl) hu
    rw [rounds_set hp hc, hhere, ih (Place.rest_over hp) hw hlater, Place.over_over]
    rfl

/-- A lazy loop takes characters of its set up to the first place where what follows succeeds. -/
theorem attempt_loop_lazy (hp : p.rest = w ++ rest) (hne : w ≠ [])
    (hw : ∀ c ∈ w, s.contains c = true)
    (hk : ∀ v u, w = v ++ u → v ≠ [] → u ≠ [] → k (p.over v) = none)
    (h : k (p.over w) = some t) : (Node.loop false (.set s)).attempt k p = some t := by
  obtain ⟨c, w, rfl⟩ := List.exists_cons_of_ne_nil hne
  obtain ⟨hc, hw⟩ := List.forall_mem_cons.mp hw
  have hlater : ∀ v u, w = v ++ u → u ≠ [] → k ((p.over [c]).over v) = none := by
    intro v u hvu hu
    rw [Place.over_over]
    exact hk (c :: v) u (by rw [hvu]; rfl) (List.cons_ne_nil c v) hu
  rw [attempt_loop_set hp hc, rounds_lazy (Place.rest_over hp) hw hlater, Place.over_over]
  change rounds _ false k (p.over (c :: w)) = some t
  rw [rounds, h]
  rfl

theorem attempt_loop_greedy (hp : p.rest = w ++ rest) (hne : w ≠ [])
    (hw : ∀ c ∈ w, s.contains c = true)
    (h : rounds (Node.set s).attempt true k (p.over w) = some t) :
    (Node.loop true (.set s)).attempt k p = some t := by
  obtain ⟨c, w, rfl⟩ := List.exists_cons_of_ne_nil hne
  obtain ⟨hc, hw⟩ := List.forall_mem_cons.mp hw
  rw [attempt_loop_set hp hc]
  refine rounds_greedy (Place.rest_over hp) hw ?_
  rw [Place.over_over]
  exact h

/-- A greedy loop takes a whole run of characters of its set. -/
theorem takes_loop (hne : w ≠ []) (hw : ∀ c ∈ w, s.contains c = true) (hrest : s.Stops rest) :
    (Node.loop true (.set s)).Takes w rest [] := by
  intro p k t hp hk
  refine ⟨[], .nil, attempt_loop_greedy hp hne hw ?_⟩
  rw [rounds_of_fails fun k => fails_set hrest _ k (Place.rest_over hp), hk]
  rfl

/-- A greedy loop gives one character back if nothing else is left for what follows it. -/
theorem takes_group_loop_set {s' : CharSet} (i : Nat) (hne : w ≠ [])
    (hw : ∀ c ∈ w, s.contains c = true) (hc : s.contains c = true) (hc' : s'.contains c = true)
    (hrest : s.Stops rest) (hrest' : s'.Stops rest) :
    (Node.cat (.group i (.loop true (.set s))) (.set s')).Takes (w ++ [c]) rest [(i, w)] := by
  intro p k t hp hk
  have hover : (p.over (w ++ [c])).rest = rest := Place.rest_over hp
  rw [List.append_assoc] at hp
  rw [← Place.over_over] at hk hover
  have hw_rest : (p.over w).rest = c :: rest := Place.rest_over hp
  let after : Matcher := fun q => ((Node.set s').attempt k q).map (Trail.mark i false q)
  have hhere : after (p.over w) = some (t.mark i false (p.over w)) := by
    change ((Node.set s').attempt k (p.over w)).map _ = _
    rw [attempt_set_of_contains hw_rest hc', hk]
    rfl
  have hnext : after ((p.over w).over [c]) = none := by
    change ((Node.set s').attempt k ((p.over w).over [c])).map _ = _
    rw [fails_set hrest' _ k hover]
    rfl
  have hrounds : rounds (Node.set s).attempt true after (p.over w) =
      some (t.mark i false (p.over w)) := by
    rw [rounds_set hw_rest hc, if_pos rfl,
      rounds_of_fails fun k => fails_set hrest _ k hover, hnext, hhere]
    rfl
  refine ⟨[⟨i, true, p⟩, ⟨i, false, p.over w⟩], .cons ⟨c :: rest, hp.symm⟩ .nil, ?_⟩
  change ((Node.loop true (.set s)).attempt after p).map (Trail.mark i true p) = _
  rw [attempt_loop_greedy hp hne hw hrounds]
  rfl

/-! ## The end of a line -/

/-- The parts of a pattern one after the other. -/
def Node.seq (parts : List Node) : Node := parts.foldr .cat .empty

theorem attempt_foldl_cat (n : Node) (parts : List Node) :
    (parts.foldl .cat n).attempt k p = n.attempt ((Node.seq parts).attempt k) p := by
  induction parts generalizing n with
  | nil => rfl
  | cons part parts ih => exact ih (.cat n part)

/-- The parts of a pattern that is anchored to the start of a line. -/
def Node.anchored (parts : List Node) : Node :=
  parts.foldl .cat (.cat .empty (.look (.lineStart false)))

theorem trail?_anchored (parts : List Node) (line : List Char) :
    (Node.anchored parts).trail? (.start line) = (Node.seq parts).trail? (.start line) :=
  attempt_foldl_cat _ parts

theorem Node.Takes.cons {parts : List Node} (ha : a.Takes v w taken)
    (h : (Node.seq parts).Ends w taken') :
    (Node.seq (a :: parts)).Ends (v ++ w) (taken ++ taken') := by
  intro p hp
  obtain ⟨t, ht, hmarks'⟩ := h (p.over v) (Place.rest_over hp)
  obtain ⟨marks, hmarks, ha⟩ := ha p _ t hp ht
  exact ⟨⟨marks ++ t.marks, t.stop⟩, ha, hmarks.append hmarks'⟩

theorem ends_lineEnd : (Node.seq [.look (.lineEnd false)]).Ends [] [] := by
  intro p hp
  refine ⟨⟨[], p.offset⟩, ?_, .nil⟩
  change (if (Look.lineEnd false).holds p.before p.rest.head? then _ else none) = _
  rw [hp]
  rfl

end

/-! ## Paths -/

/-- The ways through a pattern, whichever is preferred. -/
def Node.Path : Node → Place → Place → Prop
  | .empty, p, q => q = p
  | .set s, p, q => ∃ c rest, p.rest = c :: rest ∧ s.contains c = true ∧ q = p.over [c]
  | .look l, p, q => q = p ∧ l.holds p.before p.rest.head? = true
  | .cat a b, p, r => ∃ q, a.Path p q ∧ b.Path q r
  | .alt a b, p, q => a.Path p q ∨ b.Path p q
  | .loop _ a, p, q => Relation.TransGen a.Path p q
  | .group _ a, p, q => a.Path p q

section

variable {n : Node} {along : Place → Place → Prop} {greedy : Bool}
  {k : Matcher} {p q : Place} {t : Trail} {s : CharSet}

theorem exists_path_of_rounds (body : Matcher → Matcher)
    (hbody : ∀ k p t, body k p = some t → ∃ q, along p q ∧ k q ≠ none)
    (h : rounds body greedy k p = some t) : ∃ q, Relation.ReflTransGen along p q ∧ k q ≠ none := by
  induction hlength : p.rest.length using Nat.strongRecOn generalizing p t with
  | _ length ih =>
    subst hlength
    by_cases hk : k p = none
    · have hmore : body
          (fun q => if q.rest.length < p.rest.length then rounds body greedy k q else none) p =
            some t := by
        rw [rounds, hk] at h
        cases greedy with
        | true => simpa using h
        | false => simpa using h
      obtain ⟨q, hq, hrounds⟩ := hbody _ _ _ hmore
      obtain ⟨hlt, hne⟩ : q.rest.length < p.rest.length ∧ rounds body greedy k q ≠ none := by
        simpa using hrounds
      obtain ⟨t', ht'⟩ := Option.ne_none_iff_exists'.mp hne
      obtain ⟨r, hr, hkr⟩ := ih _ hlt ht' rfl
      exact ⟨r, .head hq hr, hkr⟩
    · exact ⟨p, .refl, hk⟩

/-- **An attempt that succeeds has followed a path** to a place where what follows succeeds. -/
theorem exists_path_of_attempt (h : n.attempt k p = some t) : ∃ q, n.Path p q ∧ k q ≠ none := by
  induction n generalizing k p t with
  | empty => exact ⟨p, rfl, by rw [show k p = some t from h]; exact Option.some_ne_none t⟩
  | set s =>
    cases hp : p.rest with
    | nil => simp [Node.attempt, hp] at h
    | cons c rest =>
      have hc : s.contains c = true := by
        by_contra hc
        simp [Node.attempt, hp, hc] at h
      rw [attempt_set_of_contains hp hc] at h
      exact ⟨p.over [c], ⟨c, rest, hp, hc, rfl⟩, by rw [h]; exact Option.some_ne_none t⟩
  | look l =>
    rw [Node.attempt] at h
    split at h
    · next hl => exact ⟨p, ⟨rfl, hl⟩, by rw [h]; exact Option.some_ne_none t⟩
    · cases h
  | cat a b iha ihb =>
    obtain ⟨q, hq, hb⟩ := iha h
    obtain ⟨t', ht'⟩ := Option.ne_none_iff_exists'.mp hb
    obtain ⟨r, hr, hkr⟩ := ihb ht'
    exact ⟨r, ⟨q, hq, hr⟩, hkr⟩
  | alt a b iha ihb =>
    rw [Node.attempt] at h
    rcases Option.or_eq_some_iff.mp h with h | ⟨-, h⟩
    · obtain ⟨q, hq, hk⟩ := iha h
      exact ⟨q, .inl hq, hk⟩
    · obtain ⟨q, hq, hk⟩ := ihb h
      exact ⟨q, .inr hq, hk⟩
  | loop greedy a ih =>
    obtain ⟨q, hq, hnext⟩ := ih h
    split at hnext
    · obtain ⟨t', ht'⟩ := Option.ne_none_iff_exists'.mp hnext
      obtain ⟨r, hr, hkr⟩ := exists_path_of_rounds a.attempt (fun _ _ _ => ih) ht'
      exact ⟨r, .head' hq hr, hkr⟩
    · exact ⟨q, .single hq, hnext⟩
  | group i a ih =>
    obtain ⟨t', ht', -⟩ := Option.map_eq_some_iff.mp h
    obtain ⟨q, hq, hk⟩ := ih ht'
    exact ⟨q, hq, by simpa using hk⟩

/-- The paths of a loop over a set take runs of its characters. -/
theorem exists_run_of_path (h : (Node.loop greedy (.set s)).Path p q) :
    ∃ w, w ≠ [] ∧ (∀ c ∈ w, s.contains c = true) ∧ p.rest = w ++ q.rest := by
  have hstep : ∀ {p q : Place}, (Node.set s).Path p q →
      ∃ c, s.contains c = true ∧ p.rest = c :: q.rest := by
    rintro p _ ⟨c, rest, hp, hc, rfl⟩
    exact ⟨c, hc, by rw [hp, Place.rest_over (w := [c]) hp]⟩
  unfold Node.Path at h
  induction h with
  | single h =>
    obtain ⟨c, hc, hp⟩ := hstep h
    exact ⟨[c], List.cons_ne_nil _ _, List.forall_mem_singleton.mpr hc, hp⟩
  | tail _ h ih =>
    obtain ⟨w, hne, hw, hp⟩ := ih
    obtain ⟨c, hc, hq⟩ := hstep h
    refine ⟨w ++ [c], by simp, ?_, by rw [hp, hq, List.append_assoc]; rfl⟩
    intro d hd
    rcases List.mem_append.mp hd with hd | hd
    · exact hw d hd
    · rw [List.mem_singleton.mp hd]
      exact hc

end

end LintReview.Pattern

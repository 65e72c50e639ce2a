import LintReview.Proofs.Pattern.Attempt
import Mathlib.Data.List.Forall2

/-! Patterns that are matched line by line. A pattern that takes no line feed and looks at nothing
but the ends of lines cannot tell a line of a text from that line alone: the trails are the same but
for the distance of the line from the start (`attempt_within`), and the groups take the same texts
(`captured?_eq_of_within`). If the pattern is also anchored to the start of a line, then **its
matches in a text are those in the lines, at most one in each** (`map_findAll_eq`). -/

namespace LintReview.Pattern

/-- The pattern takes no line feed and looks at nothing but the ends of lines. -/
def Node.staysInLine : Node → Bool
  | .empty => true
  | .set s => !s.contains '\n'
  | .look l => l = .lineStart false || l = .lineEnd false
  | .cat a b | .alt a b => a.staysInLine && b.staysInLine
  | .loop _ a | .group _ a => a.staysInLine

/-- The pattern matches nowhere but at the start of a line. -/
def Node.startsLine : Node → Bool
  | .empty | .set _ => false
  | .look l => l = .lineStart false
  | .cat .empty b => b.startsLine
  | .cat a _ => a.startsLine
  | .alt a b => a.startsLine && b.startsLine
  | .loop _ a | .group _ a => a.startsLine

/-- The pattern is matched line by line. -/
def Node.isLinewise (n : Node) : Bool := n.staysInLine && n.startsLine

/-- A line starts after the character. -/
def StartsLine (before : Option Char) : Prop := before = none ∨ before = some '\n'

theorem attempt_of_not_startsLine {n : Node} {k : Matcher} {p : Place} (hn : n.startsLine = true)
    (hp : ¬StartsLine p.before) : n.attempt k p = none := by
  fun_induction Node.startsLine n generalizing k with
  | case1 => cases hn
  | case2 => cases hn
  | case3 l =>
    have hlook : l = .lineStart false := of_decide_eq_true hn
    subst hlook
    have hholds : (Look.lineStart false).holds p.before p.rest.head? = false := by
      simpa [StartsLine, Look.holds, ← Option.isNone_iff_eq_none] using hp
    simp only [Node.attempt, hholds]
    rfl
  | case4 b ih => exact ih hn
  | case5 a _ _ ih => exact ih hn
  | case6 a b iha ihb =>
    obtain ⟨ha, hb⟩ := Bool.and_eq_true_iff.mp hn
    simp only [Node.attempt, iha ha, ihb hb, Option.or_none]
  | case7 _ a ih => exact ih hn
  | case8 _ a ih => simp only [Node.attempt, ih hn, Option.map_none]

/-! ## A line within a text -/

/-- A place in a line of `size` characters, and the same place in a text: the line starts `shift`
characters further on there, and `tail` follows it. -/
structure Place.Within (shift size : Nat) (tail : List Char) (p p' : Place) : Prop where
  before : p'.before = p.before ∨ (p.before = none ∧ p'.before = some '\n')
  offset : p'.offset = shift + p.offset
  rest : p'.rest = p.rest ++ tail
  size_eq : p.offset + p.rest.length = size

/-- The same mark, in a line and in a text. -/
structure Mark.Within (shift size : Nat) (tail : List Char) (m m' : Mark) : Prop where
  group : m'.group = m.group
  isStart : m'.isStart = m.isStart
  place : m.place.Within shift size tail m'.place

/-- The same trail, in a line and in a text. -/
structure Trail.Within (shift size : Nat) (tail : List Char) (t t' : Trail) : Prop where
  marks : List.Forall₂ (Mark.Within shift size tail) t.marks t'.marks
  stop : t'.stop = shift + t.stop
  stop_le : t.stop ≤ size

section

variable {shift size : Nat} {tail : List Char} {p p' q q' : Place} {k k' : Matcher} {t t' : Trail}
  {n : Node}

theorem Place.Within.length_lt_iff (hp : p.Within shift size tail p')
    (hq : q.Within shift size tail q') :
    q'.rest.length < p'.rest.length ↔ q.rest.length < p.rest.length := by
  rw [hp.rest, hq.rest, List.length_append, List.length_append]
  omega

theorem Trail.Within.mark (ht : t.Within shift size tail t') (hp : p.Within shift size tail p')
    (i : Nat) (isStart : Bool) :
    (t.mark i isStart p).Within shift size tail (t'.mark i isStart p') :=
  ⟨.cons ⟨rfl, rfl, hp⟩ ht.marks, ht.stop, ht.stop_le⟩

/-- The text is matched alike at the same places. -/
def Matcher.Within (shift size : Nat) (tail : List Char) (k k' : Matcher) : Prop :=
  ∀ ⦃p p' : Place⦄, p.Within shift size tail p' →
    Option.Rel (Trail.Within shift size tail) (k p) (k' p')

theorem finish_within : Matcher.Within shift size tail Trail.finish Trail.finish := by
  intro p p' hp
  have hle : p.offset ≤ size := by
    rw [← hp.size_eq]
    exact Nat.le_add_right ..
  exact .some ⟨.nil, hp.offset, hle⟩

theorem rel_or {α : Type} {r : α → α → Prop} {x x' y y' : Option α} (hx : Option.Rel r x x')
    (hy : Option.Rel r y y') : Option.Rel r (x.or y) (x'.or y') := by
  cases hx with
  | none => exact hy
  | some h => exact .some h

theorem rel_map {α β : Type} {r : α → α → Prop} {r' : β → β → Prop} {f f' : α → β}
    {x x' : Option α} (hx : Option.Rel r x x') (hf : ∀ a a', r a a' → r' (f a) (f' a')) :
    Option.Rel r' (x.map f) (x'.map f') := by
  cases hx with
  | none => exact .none
  | some h => exact .some (hf _ _ h)

theorem Place.Within.look (hp : p.Within shift size tail p')
    (htail : ∀ c ∈ tail.head?, c = '\n') {l : Look} (hl : (Node.look l).staysInLine = true) :
    l.holds p'.before p'.rest.head? = l.holds p.before p.rest.head? := by
  have hcases : l = .lineStart false ∨ l = .lineEnd false := by
    simpa [Node.staysInLine] using hl
  rcases hcases with rfl | rfl
  · rcases hp.before with h | ⟨h, h'⟩
    · simp only [Look.holds, h]
    · simp [Look.holds, h, h']
  · rw [hp.rest]
    cases p.rest with
    | nil =>
      cases htail' : tail with
      | nil => rfl
      | cons c rest =>
        have hc : c = '\n' := htail c (by rw [htail']; rfl)
        simp [Look.holds, hc]
    | cons c rest => rfl

theorem attempt_set_within (hp : p.Within shift size tail p')
    (htail : ∀ c ∈ tail.head?, c = '\n') {s : CharSet} (hs : (Node.set s).staysInLine = true)
    (hk : Matcher.Within shift size tail k k') :
    Option.Rel (Trail.Within shift size tail) ((Node.set s).attempt k p)
      ((Node.set s).attempt k' p') := by
  have hfeed : s.contains '\n' = false := by simpa [Node.staysInLine] using hs
  have hrest := hp.rest
  simp only [Node.attempt]
  cases hline : p.rest with
  | nil =>
    -- The line ends here, and in the text a line feed follows it or nothing does.
    have hnone : p'.rest.head?.any s.contains = false := by
      rw [hrest, hline, List.nil_append]
      cases hhead : tail.head? with
      | none => rfl
      | some c => rw [htail c hhead, Option.any_some, hfeed]
    rw [hnone]
    exact .none
  | cons c rest =>
    rw [hline, List.cons_append] at hrest
    have hnext : p.next? = some ⟨some c, p.offset + 1, rest⟩ := by simp [Place.next?, hline]
    have hnext' : p'.next? = some ⟨some c, p'.offset + 1, rest ++ tail⟩ := by
      simp [Place.next?, hrest]
    have hsize : p.offset + 1 + rest.length = size := by
      rw [← hp.size_eq, hline, List.length_cons]
      omega
    have hoffset : p'.offset + 1 = shift + (p.offset + 1) := by
      rw [hp.offset, Nat.add_assoc]
    have hwithin : Place.Within shift size tail ⟨some c, p.offset + 1, rest⟩
        ⟨some c, p'.offset + 1, rest ++ tail⟩ := ⟨.inl rfl, hoffset, rfl, hsize⟩
    rw [hnext, hnext', hrest, List.head?_cons, List.head?_cons, Option.any_some]
    split
    · exact hk hwithin
    · exact .none

theorem rounds_within {body : Matcher → Matcher} {greedy : Bool}
    (hbody : ∀ {k k' : Matcher} {p p' : Place}, p.Within shift size tail p' →
      Matcher.Within shift size tail k k' →
      Option.Rel (Trail.Within shift size tail) (body k p) (body k' p'))
    (hp : p.Within shift size tail p') (hk : Matcher.Within shift size tail k k') :
    Option.Rel (Trail.Within shift size tail) (rounds body greedy k p)
      (rounds body greedy k' p') := by
  induction hlength : p.rest.length using Nat.strongRecOn generalizing p p' with
  | _ length ih =>
    subst hlength
    have hmore : Matcher.Within shift size tail
        (fun q => if q.rest.length < p.rest.length then rounds body greedy k q else none)
        (fun q => if q.rest.length < p'.rest.length then rounds body greedy k' q else none) := by
      intro q q' hq
      simp only [hp.length_lt_iff hq]
      split
      · next hlt => exact ih _ hlt hq rfl
      · exact .none
    rw [rounds, rounds]
    cases greedy with
    | true => exact rel_or (hbody hp hmore) (hk hp)
    | false => exact rel_or (hk hp) (hbody hp hmore)

/-- **In a line and in a text, a pattern that stays in the line matches alike.** -/
theorem attempt_within (hn : n.staysInLine = true) (htail : ∀ c ∈ tail.head?, c = '\n')
    (hp : p.Within shift size tail p') (hk : Matcher.Within shift size tail k k') :
    Option.Rel (Trail.Within shift size tail) (n.attempt k p) (n.attempt k' p') := by
  induction n generalizing p p' k k' with
  | empty => exact hk hp
  | set s => exact attempt_set_within hp htail hn hk
  | look l =>
    simp only [Node.attempt, hp.look htail hn]
    split
    · exact hk hp
    · exact .none
  | cat a b iha ihb =>
    obtain ⟨ha, hb⟩ := Bool.and_eq_true_iff.mp hn
    exact iha ha hp fun q q' hq => ihb hb hq hk
  | alt a b iha ihb =>
    obtain ⟨ha, hb⟩ := Bool.and_eq_true_iff.mp hn
    exact rel_or (iha ha hp hk) (ihb hb hp hk)
  | loop greedy a ih =>
    refine ih hn hp fun q q' hq => ?_
    simp only [hp.length_lt_iff hq]
    split
    · exact rounds_within (ih hn) hq hk
    · exact hk hq
  | group i a ih =>
    have hmark : Matcher.Within shift size tail (fun q => (k q).map (Trail.mark i false q))
        (fun q => (k' q).map (Trail.mark i false q)) := by
      intro q q' hq
      exact rel_map (hk hq) fun t t' ht => ht.mark hq i false
    exact rel_map (ih hn hp hmark) fun t t' ht => ht.mark hp i true

/-! ## The texts of groups -/

theorem find?_within {ms ms' : List Mark} (h : List.Forall₂ (Mark.Within shift size tail) ms ms')
    (group : Nat) (isStart : Bool) :
    Option.Rel (Mark.Within shift size tail)
      (ms.find? fun m => m.group = group && m.isStart = isStart)
      (ms'.find? fun m => m.group = group && m.isStart = isStart) := by
  induction h with
  | nil => exact .none
  | cons hm _ ih =>
    rw [List.find?_cons, List.find?_cons, hm.group, hm.isStart]
    split
    · exact .some hm
    · exact ih

theorem last?_within (h : t.Within shift size tail t') (group : Nat) (isStart : Bool) :
    Option.Rel (Place.Within shift size tail) (t.last? group isStart) (t'.last? group isStart) :=
  rel_map (find?_within (List.rel_reverse h.marks) group isStart) fun _ _ hm => hm.place

theorem take_within {first first' last last' : Place} (hfirst : first.Within shift size tail first')
    (hlast : last.Within shift size tail last') :
    first'.rest.take (last'.offset - first'.offset) =
      first.rest.take (last.offset - first.offset) := by
  have hle : last.offset - first.offset ≤ first.rest.length := by
    have := hfirst.size_eq
    have := hlast.size_eq
    omega
  have hsub : last'.offset - first'.offset = last.offset - first.offset := by
    rw [hfirst.offset, hlast.offset]
    omega
  rw [hsub, hfirst.rest, List.take_append_of_le_length hle]

/-- The groups take the same texts. -/
theorem captured?_eq_of_within (h : t.Within shift size tail t') : t'.captured? = t.captured? := by
  funext group
  have hfirst := last?_within h group true
  have hlast := last?_within h group false
  unfold Trail.captured?
  generalize t.last? group true = first, t'.last? group true = first',
    t.last? group false = last, t'.last? group false = last' at hfirst hlast ⊢
  cases hfirst with
  | none => rfl
  | some hfirst =>
    cases hlast with
    | none => rfl
    | some hlast => exact congrArg some (take_within hfirst hlast)

end

/-! ## The matches of a text -/

/-- The attempts of a pattern at the places of a text. -/
def Node.attempts (n : Node) (before : Option Char) (offset : Nat) (text : List Char) :
    List (Place × Option Trail) :=
  (Place.toEnd before offset text).map fun p => (p, n.trail? p)

/-- The attempts at the places after the first one. -/
def Node.attemptsAfter (n : Node) (offset : Nat) : List Char → List (Place × Option Trail)
  | [] => []
  | c :: rest => n.attempts (some c) (offset + 1) rest

section

variable {n : Node} {before : Option Char} {offset start : Nat} {last : Option Nat}
  {line tail text : List Char} {α : Type} {f : Trail → α}

theorem Node.attempts_eq :
    n.attempts before offset text =
      (⟨before, offset, text⟩, n.trail? ⟨before, offset, text⟩) :: n.attemptsAfter offset text := by
  cases text <;> rfl

theorem select_cons_none {p : Place} {found : List (Place × Option Trail)} :
    select last start ((p, none) :: found) = select last start found := by
  rw [select]
  exact ite_self _

theorem select_cons {p : Place} {trail : Option Trail} {found : List (Place × Option Trail)}
    (hstart : start ≤ p.offset) (hlast : ∀ x ∈ last, x < p.offset) :
    select last start ((p, trail) :: found) =
      match trail with
      | none => select last start found
      | some t => (p, t) :: select (some t.stop) t.stop found := by
  cases trail with
  | none => exact select_cons_none
  | some t =>
    have hnew : ¬(t.stop = p.offset ∧ last = some t.stop) := by
      rintro ⟨heq, hsome⟩
      exact absurd heq (Nat.ne_of_lt (hlast _ hsome))
    exact (if_neg (Nat.not_lt.mpr hstart)).trans (if_neg hnew)

/-- Nothing is found within a line. -/
theorem select_attemptsAfter (hn : n.startsLine = true) (hline : '\n' ∉ line) :
    select last start (n.attemptsAfter offset (line ++ tail)) =
      select last start (n.attemptsAfter (offset + line.length) tail) := by
  induction line generalizing offset with
  | nil => rfl
  | cons c line ih =>
    obtain ⟨hc, hline⟩ : '\n' ≠ c ∧ '\n' ∉ line := by simpa using hline
    have hstarts : ¬StartsLine (some c) := by simpa [StartsLine] using hc.symm
    have hnone : n.trail? ⟨some c, offset + 1, line ++ tail⟩ = none :=
      attempt_of_not_startsLine hn hstarts
    rw [List.cons_append, Node.attemptsAfter, Node.attempts_eq, hnone, select_cons_none, ih hline,
      List.length_cons, Nat.add_right_comm offset 1, Nat.add_assoc offset]

theorem trail?_within (hn : n.staysInLine = true) (hbefore : StartsLine before)
    (offset : Nat) (line : List Char) (htail : ∀ c ∈ tail.head?, c = '\n') :
    Option.Rel (Trail.Within offset line.length tail) (n.trail? (.start line))
      (n.trail? ⟨before, offset, line ++ tail⟩) := by
  have hplace : (Place.start line).Within offset line.length tail
      ⟨before, offset, line ++ tail⟩ := by
    refine ⟨?_, rfl, rfl, Nat.zero_add _⟩
    rcases hbefore with rfl | rfl
    · exact .inl rfl
    · exact .inr ⟨rfl, rfl⟩
  exact attempt_within hn htail hplace finish_within

/-- The match in the first line of a text, if there is one, and then those in the others. -/
theorem map_select_attempts_line (hn : n.isLinewise = true)
    (hf : ∀ t t' : Trail, t'.captured? = t.captured? → f t' = f t) (hbefore : StartsLine before)
    (hline : '\n' ∉ line) (tail : List Char) (htail : ∀ c ∈ tail.head?, c = '\n')
    (hstart : start ≤ offset)
    (hlast : ∀ x ∈ last, x < offset) :
    ∃ last' start', start' ≤ offset + line.length ∧ (∀ x ∈ last', x ≤ offset + line.length) ∧
      (select last start (n.attempts before offset (line ++ tail))).map (fun m => f m.2) =
        ((n.trail? (.start line)).map f).toList ++
          (select last' start' (n.attemptsAfter (offset + line.length) tail)).map
            (fun m => f m.2) := by
  obtain ⟨hstays, hstarts⟩ := Bool.and_eq_true_iff.mp hn
  have htrail := trail?_within hstays hbefore offset line htail
  rw [Node.attempts_eq, select_cons hstart hlast]
  generalize n.trail? (.start line) = found, n.trail? ⟨before, offset, line ++ tail⟩ = found'
    at htrail ⊢
  cases htrail with
  | none =>
    refine ⟨last, start, Nat.le_add_right_of_le hstart,
      fun x hx => Nat.le_add_right_of_le (Nat.le_of_lt (hlast x hx)), ?_⟩
    rw [select_attemptsAfter hstarts hline]
    rfl
  | @some t t' ht =>
    have hstop : t'.stop ≤ offset + line.length := by
      rw [ht.stop]
      exact Nat.add_le_add_left ht.stop_le offset
    refine ⟨some t'.stop, t'.stop, hstop, fun x hx => by cases hx; exact hstop, ?_⟩
    simp only [select_attemptsAfter hstarts hline, List.map_cons,
      hf t t' (captured?_eq_of_within ht)]
    rfl

theorem map_select_attempts (hn : n.isLinewise = true)
    (hf : ∀ t t' : Trail, t'.captured? = t.captured? → f t' = f t) (text : List Char)
    {before : Option Char} {offset start : Nat} {last : Option Nat} (hbefore : StartsLine before)
    (hstart : start ≤ offset) (hlast : ∀ x ∈ last, x < offset) :
    (select last start (n.attempts before offset text)).map (fun m => f m.2) =
      (text.splitOn '\n').filterMap fun line => (n.trail? (.start line)).map f := by
  by_cases hmem : '\n' ∈ text
  · obtain ⟨line, rest, heq, hline⟩ := List.eq_append_cons_of_mem hmem
    have hlt : rest.length < text.length := by
      rw [heq, List.length_append, List.length_cons]
      omega
    obtain ⟨last', start', hstart', hlast', hfound⟩ :=
      map_select_attempts_line hn hf hbefore hline ('\n' :: rest) (by simp) hstart hlast
    have ih := map_select_attempts hn hf rest (.inr rfl) (Nat.le_succ_of_le hstart')
      fun x hx => Nat.lt_succ_of_le (hlast' x hx)
    rw [heq, hfound, Node.attemptsAfter, ih, List.splitOn_append_cons_self_of_not_mem hline,
      List.filterMap_cons]
    cases n.trail? (.start line) <;> rfl
  · obtain ⟨last', start', -, -, hfound⟩ :=
      map_select_attempts_line hn hf hbefore hmem [] (by simp) hstart hlast
    rw [List.append_nil] at hfound
    rw [hfound, List.splitOn_eq_singleton hmem, List.filterMap_cons]
    cases n.trail? (.start text) <;> rfl
termination_by text.length
decreasing_by exact hlt

/-- **The matches of a pattern that is matched line by line are those in the lines of the text**, at
most one in each. They are compared by what is read off the groups. -/
theorem map_findAll_eq (hn : n.isLinewise = true)
    (hf : ∀ t t' : Trail, t'.captured? = t.captured? → f t' = f t) :
    (findAll n text).map (fun m => f m.2) =
      (text.splitOn '\n').filterMap fun line => (n.trail? (.start line)).map f := by
  rw [findAll_eq]
  exact map_select_attempts hn hf text (.inl rfl) (Nat.le_refl 0) fun x hx => nomatch hx

end

end LintReview.Pattern

import LintReview.Proofs.Format.Lines
import LintReview.Proofs.Text.Words

/-! Printed records and the line formats that read them. `Prints f line d` says that `line` is what
a linter writes in the format `f` for the diagnostic `d`: the forms of flake8, mdl and mypy, with
every text that they allow in their fields. **The lines of a list of printed records are read as
that list** (`read_printed`).

The parts of a pattern are followed along the line, from its end to its start. Each of them but one
takes a run of characters that the next part cannot start with. The message of mypy takes as little
as possible, so it is shown that the rest of the pattern does not match before its end
(`codeParts_none`). -/

namespace LintReview.Format

open Pattern Decimal

/-! ## Records -/

/-- A path does not hold a colon or a line feed. -/
structure IsPath (path : List Char) : Prop where
  ne_nil : path ≠ []
  colon : ':' ∉ path
  feed : '\n' ∉ path

/-- A message is the rest of a line, or a part of it. -/
structure IsMessage (msg : List Char) : Prop where
  ne_nil : msg ≠ []
  feed : '\n' ∉ msg

/-- A message with another part behind it, from which a gap sets it off. -/
structure IsSetOff (msg : List Char) : Prop extends IsMessage msg where
  space : msg.getLast? ≠ some ' '
  tab : msg.getLast? ≠ some '\t'

/-- A character of a word and digits, as in `E501`. -/
structure IsNumbered (id : List Char) : Prop where
  letter : ∃ c ∈ id.head?, wordChars.contains c = true
  number_ne_nil : id.tail ≠ []
  number : ∀ c ∈ id.tail, digitChars.contains c = true

/-- The name of a rule ends where a slash stands. -/
structure IsRule (id : List Char) : Prop where
  word : Text.IsWord id
  slash : '/' ∉ id

/-- What follows a message of mypy: an identifier in brackets behind a gap, or nothing. A message
that ends in brackets itself is not written without an identifier. -/
inductive Follows (msg : List Char) : List Char → Option (List Char) → Prop
  | bare : (∀ start id : List Char, msg = start ++ '[' :: (id ++ [']']) → start ≠ [] →
      ¬Text.IsWord id) →
    Follows msg [] none
  | code {gap id : List Char} : gap ≠ [] → (∀ c ∈ gap, c = ' ' ∨ c = '\t') → Text.IsWord id →
    Follows msg (gap ++ '[' :: (id ++ [']'])) (some id)

/-- `path:line:col: id msg` -/
def flake8Line (path : List Char) (line col : UInt32) (id msg : List Char) : List Char :=
  [path, [':'], digits line.toNat, [':'], digits col.toNat, [':'], [' '], id, [' '], msg].flatten

/-- `path:line id/sym msg` or `path:line:col id/sym msg` -/
def mdlLine (path : List Char) (line : UInt32) (col : Option UInt32) (id sym msg : List Char) :
    List Char :=
  [path, ':' :: digits line.toNat, col.elim [] fun col => ':' :: digits col.toNat, [' '], id, ['/'],
    sym, [' '], msg].flatten

/-- `path:numbers: level: msg`, where a colon follows each number, and what follows the message. -/
def mypyLine (path : List Char) (numbers : List UInt32) (level : Level) (msg code : List Char) :
    List Char :=
  [path, [':'], numbers.flatMap fun n => digits n.toNat ++ [':'], [' '], level.word.toList, [':'],
    [' '], msg, code].flatten

/-- The line that is written for a diagnostic. Fields without a place in the form are absent. -/
inductive Prints : Format → List Char → Diagnostic → Prop
  | flake8 {path id msg : List Char} (line col : UInt32) : IsPath path → IsNumbered id →
    IsMessage msg →
    Prints .flake8 (flake8Line path line col id msg)
      { path := some (String.ofList path)
        line := some line
        col := some col
        id := some (String.ofList id)
        msg := some (String.ofList msg) }
  | mdl {path id sym msg : List Char} (line : UInt32) (col : Option UInt32) : IsPath path →
    IsRule id → Text.IsWord sym → IsMessage msg →
    Prints .mdl (mdlLine path line col id sym msg)
      { path := some (String.ofList path)
        line := some line
        col := col
        id := some (String.ofList id)
        sym := some (String.ofList sym)
        msg := some (String.ofList msg) }
  /-- The numbers are the line, the column, the last line and the last column, as far as they are
  known. -/
  | mypy {path msg code : List Char} {id : Option (List Char)} (numbers : List UInt32)
    (level : Level) : IsPath path → numbers.length ≤ 4 → IsSetOff msg → Follows msg code id →
    Prints .mypy (mypyLine path numbers level msg code)
      { path := some (String.ofList path)
        line := numbers[0]?
        col := numbers[1]?
        eline := numbers[2]?
        ecol := numbers[3]?
        level := some level
        msg := some (String.ofList msg)
        id := id.map String.ofList }

/-! ## The characters of the fields -/

section

variable {c : Char} {s : CharSet} {rest w : List Char} {n : Node} {i : Nat}

theorem contains_pathChars : pathChars.contains c = (c ≠ ':' && c ≠ '\n') := by
  have hunion : ((CharSet.single ':').union (.single '\n')).contains c =
      (decide (c = ':') || decide (c = '\n')) := by
    rw [CharSet.contains_union (by decide) (by decide) (by decide), CharSet.contains_single,
      CharSet.contains_single]
  rw [pathChars, CharSet.contains_compl (by decide), hunion]
  simp

theorem contains_lineChars : lineChars.contains c = (c ≠ '\n') := by
  rw [lineChars, CharSet.contains_compl (by decide), CharSet.contains_single]
  simp

theorem contains_visibleChars : visibleChars.contains c = !Text.isBlank c :=
  CharSet.contains_not_space

theorem contains_ruleChars : ruleChars.contains c = (c ≠ '/' && !Text.isBlank c) := by
  have hunion : ((CharSet.single '/').union (Perl.space.set true)).contains c =
      (decide (c = '/') || Text.isBlank c) := by
    rw [CharSet.contains_union (by decide) (by decide) (by decide), CharSet.contains_single,
      CharSet.contains_space]
  rw [ruleChars, CharSet.contains_compl (by decide), hunion]
  simp

theorem contains_gapChars : gapChars.contains c = (c = ' ' || c = '\t') := by
  rw [gapChars, CharSet.contains_union (by decide) (by decide) (by decide),
    CharSet.contains_single, CharSet.contains_single]

theorem IsPath.contains (h : IsPath w) : ∀ c ∈ w, pathChars.contains c = true := by
  intro c hc
  rw [contains_pathChars]
  simpa using ⟨ne_of_mem_of_not_mem hc h.colon, ne_of_mem_of_not_mem hc h.feed⟩

theorem IsMessage.contains (h : IsMessage w) : ∀ c ∈ w, lineChars.contains c = true := by
  intro c hc
  rw [contains_lineChars]
  simpa using ne_of_mem_of_not_mem hc h.feed

theorem IsRule.contains (h : IsRule w) : ∀ c ∈ w, ruleChars.contains c = true := by
  intro c hc
  rw [contains_ruleChars]
  simpa using ⟨ne_of_mem_of_not_mem hc h.slash, h.word.2 c hc⟩

theorem contains_of_isWord (h : Text.IsWord w) : ∀ c ∈ w, visibleChars.contains c = true := by
  intro c hc
  rw [contains_visibleChars, h.2 c hc]
  rfl

theorem feed_of_isWord (h : Text.IsWord w) : '\n' ∉ w :=
  fun hmem => absurd (h.2 _ hmem) (by decide)

theorem IsNumbered.feed (h : IsNumbered w) : '\n' ∉ w := by
  obtain ⟨⟨c, hc, hletter⟩, -, hnumber⟩ := h
  obtain ⟨number, rfl⟩ := List.head?_eq_some_iff.mp hc
  rw [List.mem_cons, not_or]
  refine ⟨?_, fun hmem => absurd (hnumber _ hmem) (by decide)⟩
  rintro rfl
  exact absurd hletter (by decide)

theorem contains_digits (n : UInt32) : ∀ c ∈ digits n.toNat, digitChars.contains c = true :=
  fun _ hc => CharSet.contains_digit_of_isDigit (isDigit_of_mem_digits hc)

theorem contains_level (l : Level) : ∀ c ∈ l.word.toList, levelChars.contains c = true :=
  List.all_eq_true.mp (by cases l <;> rfl)

/-! ## Parts of a pattern -/

theorem takes_char (c : Char) : (char c).Takes [c] rest [] :=
  takes_set (by rw [CharSet.contains_single, decide_eq_true rfl])

theorem fails_char {d : Char} (h : d ≠ c) : (char c).Fails (d :: rest) :=
  fails_set (stops_cons (by rw [CharSet.contains_single, decide_eq_false h]))

theorem takes_run (hne : w ≠ []) (hw : ∀ c ∈ w, s.contains c = true) (hrest : s.Stops rest) :
    (run i s).Takes w rest [(i, w)] :=
  (takes_loop hne hw hrest).group i

theorem digits_ne_nil (n : Nat) : digits n ≠ [] := Nat.toDigits_ne_nil

theorem takes_number (n : UInt32) (hrest : digitChars.Stops rest) :
    (run i digitChars).Takes (digits n.toNat) rest [(i, digits n.toNat)] :=
  takes_run (digits_ne_nil _) (contains_digits n) hrest

theorem IsNumbered.takes (h : IsNumbered w) (hrest : digitChars.Stops rest) :
    (Node.group i (.cat (.set wordChars) (.loop true (.set digitChars)))).Takes w rest
      [(i, w)] := by
  obtain ⟨⟨c, hc, hletter⟩, hne, hnumber⟩ := h
  obtain ⟨number, rfl⟩ := List.head?_eq_some_iff.mp hc
  exact ((takes_set hletter).cat (takes_loop hne hnumber hrest)).group i

theorem takes_colonNumber (n : UInt32) (hrest : digitChars.Stops rest) :
    (colonNumber i).Takes (':' :: digits n.toNat) rest [(i, digits n.toNat)] :=
  takes_repeated_one ((takes_char ':').cat (takes_number n hrest)).opt

/-- Where no colon stands, the number is left out. -/
theorem takes_colonNumber_elim (n : Option UInt32) (h : c ≠ ':')
    (hrest : digitChars.contains c = false) :
    (colonNumber i).Takes (n.elim [] fun n => ':' :: digits n.toNat) (c :: rest)
      (n.toList.map fun n => (i, digits n.toNat)) := by
  cases n with
  | none => exact takes_repeated_one ((fails_char h).cat _).opt
  | some n => exact takes_colonNumber n (stops_cons hrest)

theorem takes_numberColon (n : UInt32) :
    (numberColon i).Takes (digits n.toNat ++ [':']) rest [(i, digits n.toNat)] :=
  takes_repeated_one ((takes_number n (stops_cons (by decide))).cat (takes_char ':')).opt

theorem takes_numberColon_nil (h : digitChars.Stops rest) : (numberColon i).Takes [] rest [] :=
  takes_repeated_one ((((fails_set h).loop true).group i).cat _).opt

/-- Numbers are taken by the first of several groups. -/
theorem ends_numbers {parts : List Node} {taken : List (Nat × List Char)} (slots : List Nat)
    {numbers : List UInt32} (hlength : numbers.length ≤ slots.length) (hrest : digitChars.Stops w)
    (h : (Node.seq parts).Ends w taken) :
    (Node.seq (slots.map numberColon ++ parts)).Ends
      ((numbers.flatMap fun n => digits n.toNat ++ [':']) ++ w)
      (slots.zip (numbers.map fun n => digits n.toNat) ++ taken) := by
  induction slots generalizing numbers with
  | nil =>
    rw [List.eq_nil_of_length_eq_zero (Nat.le_zero.mp hlength)]
    exact h
  | cons slot slots ih =>
    cases numbers with
    | nil =>
      have hslots := @ih [] (Nat.zero_le _)
      rw [List.map_nil, List.zip_nil_right] at hslots
      exact (takes_numberColon_nil hrest).cons hslots
    | cons n numbers =>
      rw [List.flatMap_cons, List.append_assoc]
      exact (takes_numberColon n).cons (ih (Nat.le_of_succ_le_succ hlength))

end

/-! ## The end of a line of mypy -/

section

variable {msg code u v rest : List Char} {id : Option (List Char)} {p q : Place} {t : Trail}
  {c : Char}

theorem rest_of_path_char (h : (char c).Path p q) : p.rest = c :: q.rest := by
  obtain ⟨d, rest, hp, hd, rfl⟩ := h
  obtain rfl : d = c := by simpa [char, CharSet.contains_single] using hd
  rw [hp, Place.rest_over (w := [d]) hp]

theorem rest_of_path_lineEnd (h : (Node.look (.lineEnd false)).Path p q) (hfeed : '\n' ∉ p.rest) :
    p.rest = [] := by
  obtain ⟨-, hend⟩ := h
  cases hp : p.rest with
  | nil => rfl
  | cons c rest =>
    have hc : c = '\n' := by simpa [Look.holds, hp] using hend
    exact absurd (by rw [hp, hc]; exact List.mem_cons_self) hfeed

theorem exists_gap_of_path (h : ((Node.set gapChars).repeated 0 none true).Path p q) :
    ∃ gap, (∀ c ∈ gap, c = ' ' ∨ c = '\t') ∧ p.rest = gap ++ q.rest := by
  rcases h with h | rfl
  · obtain ⟨gap, -, hgap, hp⟩ := exists_run_of_path h
    exact ⟨gap, fun c hc => by simpa [contains_gapChars] using hgap c hc, hp⟩
  · exact ⟨[], by simp, rfl⟩

theorem exists_word_of_path
    (h : (perhaps (.cat (.cat (char '[') (run 8 visibleChars)) (char ']'))).Path p q) :
    p.rest = q.rest ∨ ∃ word, Text.IsWord word ∧ p.rest = '[' :: (word ++ ']' :: q.rest) := by
  obtain ⟨_, rfl, ⟨_, ⟨r, ⟨r', hopen, hrun⟩, hclose⟩, rfl⟩ | rfl⟩ := h
  · have hrun : (Node.loop true (.set visibleChars)).Path r' r := hrun
    obtain ⟨word, hne, hword, hr'⟩ := exists_run_of_path hrun
    have hvisible : ∀ c ∈ word, Text.isBlank c = false := fun c hc => by
      simpa [contains_visibleChars] using hword c hc
    refine .inr ⟨word, ⟨hne, hvisible⟩, ?_⟩
    rw [rest_of_path_char hopen, hr', rest_of_path_char hclose]
  · exact .inl rfl

/-- What the parts after a message can match before the end of a line. -/
theorem exists_code_of_trail (h : (Node.seq codeParts).trail? p = some t) (hfeed : '\n' ∉ p.rest) :
    ∃ gap code, (∀ c ∈ gap, c = ' ' ∨ c = '\t') ∧ p.rest = gap ++ code ∧
      (code = [] ∨ ∃ word, Text.IsWord word ∧ code = '[' :: (word ++ [']'])) := by
  obtain ⟨_, ⟨q, hgap, r, hcode, _, hend, -⟩, -⟩ := exists_path_of_attempt h
  obtain ⟨gap, hgap, hp⟩ := exists_gap_of_path hgap
  refine ⟨gap, q.rest, hgap, hp, ?_⟩
  rcases exists_word_of_path hcode with hq | ⟨word, hword, hq⟩
  · have hr : r.rest = [] := by
      refine rest_of_path_lineEnd hend fun hmem => hfeed ?_
      rw [hp, hq]
      exact List.mem_append_right _ hmem
    exact .inl (hq.trans hr)
  · have hr : r.rest = [] := by
      refine rest_of_path_lineEnd hend fun hmem => hfeed ?_
      rw [hp, hq]
      simp [hmem]
    exact .inr ⟨word, hword, by rw [hq, hr]⟩

theorem Follows.feed (h : Follows msg code id) : '\n' ∉ code := by
  cases h with
  | bare => exact List.not_mem_nil
  | code _ hgap hid =>
    intro hmem
    rcases List.mem_append.mp hmem with hmem | hmem
    · rcases hgap _ hmem with heq | heq <;> cases heq
    · simp [feed_of_isWord hid] at hmem

/-- A text that does not end in a gap goes on after a gap that it starts with. -/
theorem exists_append_of_gap {gap : List Char} (hgap : ∀ c ∈ gap, c = ' ' ∨ c = '\t') (hu : u ≠ [])
    (hspace : u.getLast? ≠ some ' ') (htab : u.getLast? ≠ some '\t') (h : u ++ code = gap ++ rest) :
    ∃ b, b ≠ [] ∧ u = gap ++ b ∧ rest = b ++ code := by
  have hlast {a : List Char} : gap ≠ u ++ a := by
    rintro rfl
    have hmem : u.getLast hu ∈ u ++ a := List.mem_append_left _ (List.getLast_mem hu)
    rcases hgap _ hmem with heq | heq
    · exact hspace (by rw [List.getLast?_eq_some_getLast hu, heq])
    · exact htab (by rw [List.getLast?_eq_some_getLast hu, heq])
  rcases List.append_eq_append_iff.mp h with ⟨a, rfl, -⟩ | ⟨b, rfl, hrest⟩
  · exact absurd rfl hlast
  · refine ⟨b, ?_, rfl, hrest⟩
    rintro rfl
    exact hlast (a := []) (by simp)

/-- The parts after a message do not match where a part of it is left. -/
theorem Follows.codeParts_none (h : Follows msg code id) (hmsg : IsSetOff msg)
    (hvu : msg = v ++ u) (hv : v ≠ []) (hu : u ≠ []) (hp : p.rest = u ++ code) :
    (Node.seq codeParts).trail? p = none := by
  have hfeed : '\n' ∉ p.rest := by
    rw [hp, List.mem_append, not_or]
    exact ⟨fun hmem => hmsg.feed (hvu ▸ List.mem_append_right _ hmem), h.feed⟩
  refine Option.eq_none_iff_forall_ne_some.mpr fun t ht => ?_
  obtain ⟨gap, rest, hgap, hrest, hform⟩ := exists_code_of_trail ht hfeed
  have hlast : msg.getLast? = u.getLast? := by rw [hvu, List.getLast?_append_of_ne_nil v hu]
  obtain ⟨b, hb, rfl, rfl⟩ := exists_append_of_gap hgap hu (hlast ▸ hmsg.space) (hlast ▸ hmsg.tab)
    (hp.symm.trans hrest)
  obtain hempty | ⟨word, hword, hform⟩ := hform
  · exact hb (List.append_eq_nil_iff.mp hempty).1
  -- The brackets start in the message. They end there too, or have a gap between them.
  cases h with
  | bare hbare =>
    rw [List.append_nil] at hform
    refine hbare (v ++ gap) word ?_ (by simp [hv]) hword
    rw [hvu, hform, List.append_assoc]
  | @code blanks _ hne hblanks _ =>
    obtain ⟨x, b, rfl⟩ := List.exists_cons_of_ne_nil hb
    obtain ⟨c, blanks, rfl⟩ := List.exists_cons_of_ne_nil hne
    have hc : c = ' ' ∨ c = '\t' := hblanks c List.mem_cons_self
    have hmem : c ∈ word ++ [']'] := by
      rw [← (List.cons.inj hform).2]
      simp
    have hblank : Text.isBlank c = true := by rcases hc with rfl | rfl <;> rfl
    rcases List.mem_append.mp hmem with hmem | hmem
    · rw [hword.2 c hmem] at hblank
      cases hblank
    · rw [List.mem_singleton.mp hmem] at hblank
      cases hblank

theorem Follows.ends (h : Follows msg code id) :
    (Node.seq codeParts).Ends code (id.toList.map fun id => (8, id)) := by
  cases h with
  | bare =>
    have hgap : (Node.set gapChars).Fails [] := fails_set stops_nil
    have hopen : (char '[').Fails [] := fails_set stops_nil
    have hcode := (takes_repeated_one ((hopen.cat (run 8 visibleChars)).cat (char ']')).opt).cons
      ends_lineEnd
    exact (takes_repeated_any (hgap.loop true).opt).cons hcode
  | @code gap word hne hgap hword =>
    have hgap_contains : ∀ c ∈ gap, gapChars.contains c = true := fun c hc => by
      simpa [contains_gapChars] using hgap c hc
    have hclose : (Node.cat (run 8 visibleChars) (char ']')).Takes (word ++ [']']) [] [(8, word)] :=
      takes_group_loop_set 8 hword.1 (contains_of_isWord hword) (by decide) (by decide) stops_nil
        stops_nil
    have hbracket : (Node.cat (.cat (char '[') (run 8 visibleChars)) (char ']')).Takes
        ('[' :: (word ++ [']'])) [] [(8, word)] := (takes_char '[').cat hclose
    have hcode := (takes_repeated_one hbracket.opt).cons ends_lineEnd
    have hstops : gapChars.Stops ('[' :: (word ++ [']']) ++ []) := stops_cons (by decide)
    have hends := (takes_repeated_any (takes_loop hne hgap_contains hstops).opt).cons hcode
    rwa [List.append_nil] at hends

/-- The message of mypy is taken up to its end. -/
theorem ends_message (hmsg : IsSetOff msg) (h : Follows msg code id) :
    (Node.seq messageParts).Ends (msg ++ code) ((7, msg) :: id.toList.map fun id => (8, id)) := by
  intro p hp
  obtain ⟨t, ht, hrecords⟩ := h.ends (p.over msg) (Place.rest_over hp)
  let after : Matcher := fun q =>
    ((Node.seq codeParts).trail? q).map (Trail.mark 7 false q)
  have hnone : ∀ v u, msg = v ++ u → v ≠ [] → u ≠ [] → after (p.over v) = none := by
    intro v u hvu hv hu
    have hrest : (p.over v).rest = u ++ code :=
      Place.rest_over (by rw [hp, hvu, List.append_assoc])
    change ((Node.seq codeParts).trail? (p.over v)).map _ = none
    rw [h.codeParts_none hmsg hvu hv hu hrest]
    rfl
  have hhere : after (p.over msg) = some (t.mark 7 false (p.over msg)) := by
    change ((Node.seq codeParts).trail? (p.over msg)).map _ = _
    rw [ht]
    rfl
  refine ⟨⟨⟨7, true, p⟩ :: ⟨7, false, p.over msg⟩ :: t.marks, t.stop⟩, ?_,
    .cons ⟨code, hp.symm⟩ hrecords⟩
  change ((Node.loop false (.set lineChars)).attempt after p).map (Trail.mark 7 true p) = _
  rw [attempt_loop_lazy hp hmsg.ne_nil hmsg.contains hnone hhere]
  rfl

end

/-! ## Printed lines are read back -/

section

variable {f : Format} {p : LinePattern} {line path id sym msg code : List Char} {d : Diagnostic}

theorem ends_flake8 (line col : UInt32) (hpath : IsPath path) (hid : IsNumbered id)
    (hmsg : IsMessage msg) :
    (Node.seq flake8Parts).Ends (flake8Line path line col id msg)
      [(1, path), (2, digits line.toNat), (3, digits col.toNat), (4, id), (5, msg)] :=
  (takes_run hpath.ne_nil hpath.contains (stops_cons (by decide))).cons <|
  (takes_char ':').cons <|
  (takes_number line (stops_cons (by decide))).cons <|
  (takes_char ':').cons <|
  (takes_number col (stops_cons (by decide))).cons <|
  (takes_char ':').cons <|
  (takes_char ' ').cons <|
  (hid.takes (stops_cons (by decide))).cons <|
  (takes_char ' ').cons <|
  (takes_run hmsg.ne_nil hmsg.contains stops_nil).cons ends_lineEnd

theorem ends_mdl (line : UInt32) (col : Option UInt32) (hpath : IsPath path) (hid : IsRule id)
    (hsym : Text.IsWord sym) (hmsg : IsMessage msg) :
    (Node.seq mdlParts).Ends (mdlLine path line col id sym msg)
      ((1, path) :: (2, digits line.toNat) :: ((col.toList.map fun col => (3, digits col.toNat)) ++
        [(4, id), (5, sym), (6, msg)])) := by
  have hcol {rest : List Char} : digitChars.Stops
      ((col.elim [] fun col => ':' :: digits col.toNat) ++ ' ' :: rest) := by
    cases col with
    | none => exact stops_cons (by decide)
    | some col => exact stops_cons (by decide)
  exact
    (takes_run hpath.ne_nil hpath.contains (stops_cons (by decide))).cons <|
    (takes_colonNumber line hcol).cons <|
    (takes_colonNumber_elim col (by decide) (by decide)).cons <|
    (takes_char ' ').cons <|
    (takes_run hid.word.1 hid.contains (stops_cons (by decide))).cons <|
    (takes_char '/').cons <|
    (takes_run hsym.1 (contains_of_isWord hsym) (stops_cons (by decide))).cons <|
    (takes_char ' ').cons <|
    (takes_run hmsg.ne_nil hmsg.contains stops_nil).cons ends_lineEnd

theorem ends_mypy {id : Option (List Char)} (numbers : List UInt32) (level : Level)
    (hpath : IsPath path) (hlength : numbers.length ≤ 4) (hmsg : IsSetOff msg)
    (hcode : Follows msg code id) :
    (Node.seq mypyParts).Ends (mypyLine path numbers level msg code)
      ((1, path) :: ([2, 3, 4, 5].zip (numbers.map fun n => digits n.toNat) ++
        (6, level.word.toList) :: (7, msg) :: id.toList.map fun id => (8, id))) := by
  have hmessage : (Node.seq messageParts).Ends (msg ++ (code ++ []))
      ((7, msg) :: id.toList.map fun id => (8, id)) := by
    rw [List.append_nil]
    exact ends_message hmsg hcode
  have hlevel : level.word.toList ≠ [] := by cases level <;> decide
  exact
    (takes_run hpath.ne_nil hpath.contains (stops_cons (by decide))).cons <|
    (takes_char ':').cons <|
    ends_numbers [2, 3, 4, 5] hlength (stops_cons (by decide)) <|
    (takes_char ' ').cons <|
    (takes_run hlevel (contains_level level) (stops_cons (by decide))).cons <|
    (takes_char ':').cons <|
    (takes_char ' ').cons hmessage

/-- A line up to whose end the parts of a pattern match is read, and nothing but what its groups
take shows in the diagnostic. -/
theorem readLine?_of_ends {parts : List Node} {names : List (String × Nat)}
    {taken : List (Nat × List Char)} (h : (Node.seq parts).Ends line taken)
    (hd : ∀ t : Trail, (∀ i, t.captured? i = taken.reverse.lookup i) →
      LinePattern.diagnostic ⟨⟨.anchored parts, names⟩, none⟩ t = d) :
    LinePattern.readLine? ⟨⟨.anchored parts, names⟩, none⟩ line = some d := by
  obtain ⟨t, ht, hrecords⟩ := h (.start line) rfl
  unfold LinePattern.readLine?
  rw [trail?_anchored, ht, Option.map_some, hd t hrecords.captured?_eq]

theorem Prints.feed (h : Prints f line d) : '\n' ∉ line := by
  have hnumber (n : UInt32) : '\n' ∉ digits n.toNat :=
    fun hmem => absurd (isDigit_of_mem_digits hmem) (by decide)
  cases h with
  | flake8 line col hpath hid hmsg =>
    simp [flake8Line, hnumber, hpath.feed, hid.feed, hmsg.feed]
  | mdl line col hpath hid hsym hmsg =>
    have hid_feed := feed_of_isWord hid.word
    cases col <;> simp [mdlLine, hnumber, hpath.feed, hid_feed, feed_of_isWord hsym, hmsg.feed]
  | mypy numbers level hpath hlength hmsg hcode =>
    have hlevel : '\n' ∉ level.word.toList := by cases level <;> decide
    simp [mypyLine, hnumber, hpath.feed, hlevel, hmsg.feed, hcode.feed]

theorem Prints.readLine? (h : Prints f line d) (hf : linePattern? f = some p) :
    p.readLine? line = some d := by
  cases h with
  | flake8 line col hpath hid hmsg =>
    cases hf
    refine readLine?_of_ends (ends_flake8 line col hpath hid hmsg) fun t ht => ?_
    simp [LinePattern.diagnostic, LinePattern.field?, ht, flake8Names, List.lookup_cons,
      readUInt32?_digits]
  | mdl line col hpath hid hsym hmsg =>
    cases hf
    refine readLine?_of_ends (ends_mdl line col hpath hid hsym hmsg) fun t ht => ?_
    cases col <;>
      simp [LinePattern.diagnostic, LinePattern.field?, ht, mdlNames, List.lookup_cons,
        readUInt32?_digits]
  | @mypy _ _ _ id numbers level hpath hlength hmsg hcode =>
    cases hf
    refine readLine?_of_ends (ends_mypy numbers level hpath hlength hmsg hcode) fun t ht => ?_
    -- Which of the groups take numbers depends on how many there are.
    match numbers, hlength with
    | [], _ | [_], _ | [_, _], _ | [_, _, _], _ | [_, _, _, _], _ =>
      cases id <;>
        simp [LinePattern.diagnostic, LinePattern.field?, ht, mypyNames, List.lookup_cons,
          readUInt32?_digits, LinePattern.levelOf?, Level.ofWord?_word]

theorem filterMap_readLine?_of_prints {lines : List (List Char)} {ds : List Diagnostic}
    (hf : linePattern? f = some p) (h : List.Forall₂ (Prints f) lines ds) :
    lines.filterMap p.readLine? = ds := by
  induction h with
  | nil => rfl
  | cons hline _ ih => rw [List.filterMap_cons, hline.readLine? hf, ih]

theorem feed_of_prints {lines : List (List Char)} {ds : List Diagnostic}
    (h : List.Forall₂ (Prints f) lines ds) : ∀ line ∈ lines, '\n' ∉ line := by
  induction h with
  | nil => exact fun _ hline => nomatch hline
  | cons hline _ ih => exact List.forall_mem_cons.mpr ⟨hline.feed, ih⟩

/-- Lines with a line feed after each. -/
theorem flatMap_feed_eq_intercalate (lines : List (List Char)) :
    lines.flatMap (· ++ ['\n']) = ['\n'].intercalate (lines ++ [[]]) := by
  induction lines with
  | nil => rfl
  | cons line lines ih =>
    have hne : lines ++ [[]] ≠ [] := by simp
    rw [List.flatMap_cons, ih, List.cons_append, List.intercalate_cons_of_ne_nil hne]

/-- **Each line format reads back what it is documented to write.** The lines of printed records are
read as these records, whether or not a line feed ends the last one. -/
theorem read_printed (f : Format) (hf : f ∈ [.flake8, .mdl, .mypy]) (lines : List (List Char))
    (ds : List Diagnostic) (h : List.Forall₂ (Prints f) lines ds) :
    ∃ reader, InputReader.ofName f.name = .ok reader ∧
      reader.read (String.ofList (['\n'].intercalate lines)) = .ok ds ∧
      reader.read (String.ofList (lines.flatMap (· ++ ['\n']))) = .ok ds := by
  obtain ⟨p, hp⟩ : ∃ p, linePattern? f = some p := by
    fin_cases hf <;> exact ⟨_, rfl⟩
  have hlinewise := isLinewise_of_linePattern? hp
  have hread := filterMap_readLine?_of_prints hp h
  have hfeed := feed_of_prints h
  have hfeed_ended : ∀ line ∈ lines ++ [[]], '\n' ∉ line := by
    intro line hline
    rcases List.mem_append.mp hline with hline | hline
    · exact hfeed line hline
    · rw [List.mem_singleton.mp hline]
      exact List.not_mem_nil
  refine ⟨.lines p, ofName_eq_lines hp, congrArg Except.ok ?_, congrArg Except.ok ?_⟩
  · rw [hlinewise.read_intercalate hfeed, hread]
  · rw [flatMap_feed_eq_intercalate, hlinewise.read_intercalate hfeed_ended, List.filterMap_append,
      hread, List.filterMap_cons, hlinewise.readLine?_nil]
    exact List.append_nil ds

end

/-- Two lines of mypy with brackets, digits and colons in their messages. -/
def bracketLines : List (List Char) :=
  ["a b.py:3:5: error: list[0]: got 1  [x]]".toList, "m.py: note: [see] 7: 8".toList]

def bracketDiagnostics : List Diagnostic :=
  [{ path := some "a b.py", line := some 3, col := some 5, level := some .error,
     msg := some "list[0]: got 1", id := some "x]" },
   { path := some "m.py", level := some .note, msg := some "[see] 7: 8" }]

theorem prints_bracketLines :
    List.Forall₂ (Prints .mypy) bracketLines bracketDiagnostics := by
  have hcode : Follows "list[0]: got 1".toList ("  ".toList ++ '[' :: ("x]".toList ++ [']']))
      (some "x]".toList) :=
    .code (by decide) (by simp) ⟨by decide, by simp [Text.isBlank]⟩
  have hbare : Follows "[see] 7: 8".toList [] none := by
    refine .bare fun start id h => ?_
    have hlast : "[see] 7: 8".toList.getLast? = some ']' := by
      rw [h, ← List.cons_append, ← List.append_assoc, List.getLast?_concat]
    exact absurd hlast (by decide)
  have hspaced : IsPath "a b.py".toList := ⟨by decide, by decide, by decide⟩
  have hpath : IsPath "m.py".toList := ⟨by decide, by decide, by decide⟩
  have hlist : IsSetOff "list[0]: got 1".toList := ⟨⟨by decide, by decide⟩, by decide, by decide⟩
  have hsee : IsSetOff "[see] 7: 8".toList := ⟨⟨by decide, by decide⟩, by decide, by decide⟩
  exact .cons (.mypy [3, 5] .error hspaced (by decide) hlist hcode)
    (.cons (.mypy [] .note hpath (by decide) hsee hbare) .nil)

theorem read_bracketLines :
    Format.mypy ∈ [Format.flake8, .mdl, .mypy] ∧
      ∃ reader, InputReader.ofName "mypy" = .ok reader ∧
        reader.read "a b.py:3:5: error: list[0]: got 1  [x]]\nm.py: note: [see] 7: 8" =
          .ok bracketDiagnostics ∧
        reader.read "a b.py:3:5: error: list[0]: got 1  [x]]\nm.py: note: [see] 7: 8\n" =
          .ok bracketDiagnostics := by
  have hf : Format.mypy ∈ [Format.flake8, .mdl, .mypy] := by decide
  exact ⟨hf, read_printed .mypy hf bracketLines bracketDiagnostics prints_bracketLines⟩

end LintReview.Format

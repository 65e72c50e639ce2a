import LintReview.Proofs.MachineWords
import LintReview.Proofs.Text.Lines
import LintReview.Proofs.UnifiedDiff.Grammar

/-! Reading a well-formed diff. Each kind of line has a lemma that says what it does to a
`Progress`; `run_body` follows the body of a hunk with its two counts, `run_hunk` and `run_section`
put the lines together, and **`addedLines` finds exactly the map that belongs to the diff**
(`addedLines_of_lined`). -/

namespace LintReview.UnifiedDiff

/-! ## Ranges and paths -/

theorem Numeral.isDigit_of_mem_text {n : Numeral} {c : Char} (h : c ∈ n.text) :
    c.isDigit = true :=
  Decimal.isDigit_of_mem_replicate_zero_append h

theorem readUInt32?_text (n : Numeral) : Decimal.readUInt32? n.text = some n.value :=
  Decimal.readUInt32?_replicate_zero_append n.zeros n.value

theorem readRange?_text (r : Range) :
    readRange? r.text = some (r.start.value, r.count.elim 1 Numeral.value) := by
  have hcomma : ∀ c ∈ r.start.text, decide (c ≠ ',') = true := fun c hc => by
    refine decide_eq_true fun heq => ?_
    subst heq
    exact absurd (Numeral.isDigit_of_mem_text hc) (by decide)
  unfold readRange? Range.text
  rw [List.takeWhile_append_of_pos hcomma, List.dropWhile_append_of_pos hcomma]
  cases r.count with
  | none => simp [readUInt32?_text]
  | some count => simp [readUInt32?_text]

theorem Range.toNat_count (r : Range) : (r.count.elim 1 Numeral.value).toNat = r.size := by
  unfold size
  cases r.count <;> rfl

theorem Range.isBlank_of_mem_text {r : Range} {c : Char} (h : c ∈ r.text) :
    Text.isBlank c = false := by
  rcases List.mem_append.mp h with h | h
  · exact Decimal.isBlank_eq_false_of_isDigit (Numeral.isDigit_of_mem_text h)
  · cases hcount : r.count with
    | none => simp [hcount] at h
    | some count =>
      simp only [hcount, Option.elim_some, List.mem_cons] at h
      rcases h with rfl | h
      · rfl
      · exact Decimal.isBlank_eq_false_of_isDigit (Numeral.isDigit_of_mem_text h)

theorem HunkHeader.read?_header (h : Hunk) :
    HunkHeader.read? h.header = some ⟨h.old.count.elim 1 Numeral.value, h.new.start.value,
      h.new.count.elim 1 Numeral.value⟩ := by
  have hat : Text.IsWord ['@', '@'] := ⟨by simp, by simp [Text.isBlank]⟩
  have hsigned : ∀ {sign : Char} {r : Range}, Text.isBlank sign = false →
      Text.IsWord (sign :: r.text) := fun hsign => by
    refine ⟨by simp, fun c hc => ?_⟩
    rcases List.mem_cons.mp hc with rfl | hc
    · exact hsign
    · exact Range.isBlank_of_mem_text hc
  have hheader : h.header = ['@', '@'] ++ ' ' :: (('-' :: h.old.text) ++
      ' ' :: (('+' :: h.new.text) ++ ' ' :: ("@@".toList ++ h.heading))) := by
    change "@@ -".toList ++ h.old.text ++ " +".toList ++ h.new.text ++ " @@".toList ++ h.heading = _
    simp
  obtain ⟨rest, hwords⟩ : ∃ rest, Text.words h.header =
      ['@', '@'] :: ('-' :: h.old.text) :: ('+' :: h.new.text) :: rest := by
    rw [hheader, Text.words_append_cons hat rfl, Text.words_append_cons (hsigned rfl) rfl,
      Text.words_append_cons (hsigned rfl) rfl]
    exact ⟨_, rfl⟩
  unfold read?
  rw [hwords]
  simp [readRange?_text]

theorem dropSide_eq_withoutSide (path : List Char) : dropSide path = Naming.withoutSide path := by
  unfold dropSide Naming.withoutSide
  split
  · next rest => rw [if_pos ⟨rest, rfl⟩]; rfl
  · next hne =>
    rw [if_neg]
    rintro ⟨rest, rfl⟩
    exact hne rest rfl

theorem gitPath?_eq {old new : List Char} (hold : Text.IsWord old) (hnew : Text.IsWord new) :
    gitPath? ("diff --git ".toList ++ old ++ ' ' :: new) =
      some (String.ofList (Naming.withoutSide new)) := by
  have hdiff : Text.IsWord "diff".toList := ⟨by simp, by simp [Text.isBlank]⟩
  have hgit : Text.IsWord "--git".toList := ⟨by simp, by simp [Text.isBlank]⟩
  have hline : "diff --git ".toList ++ old ++ ' ' :: new =
      "diff".toList ++ ' ' :: ("--git".toList ++ ' ' :: (old ++ ' ' :: new)) := by simp
  unfold gitPath?
  rw [hline, Text.words_append_cons hdiff rfl, Text.words_append_cons hgit rfl,
    Text.words_append_cons hold rfl, Text.words_eq_singleton hnew]
  simp [dropSide_eq_withoutSide]

theorem newPath?_eq (git stamp : Option (List Char)) {path : List Char} (hpath : '\t' ∉ path) :
    newPath? (path ++ stamp.elim [] ('\t' :: ·)) =
      (Naming.plus git path stamp hpath).destination := by
  have htab : ∀ c ∈ path, decide (c ≠ '\t') = true := fun c hc =>
    decide_eq_true fun heq => hpath (heq ▸ hc)
  have htake : (path ++ stamp.elim [] ('\t' :: ·)).takeWhile (· ≠ '\t') = path := by
    rw [List.takeWhile_append_of_pos htab]
    cases stamp <;> simp
  unfold newPath? Naming.destination
  simp only [htake, Text.trimEnd_eq_rdropWhile, dropSide_eq_withoutSide]

/-! ## Lines outside the body of a hunk -/

namespace Progress

variable {p q : Progress}

theorem run_append {ls rest : List (List Char)} (h : p.run ls = .ok q) :
    p.run (ls ++ rest) = q.run rest := by
  induction ls generalizing p with
  | nil => cases h; rfl
  | cons line ls ih =>
    cases hstep : p.step line with
    | error e => simp [run, hstep] at h
    | ok p' =>
      simp only [run, hstep] at h
      simp only [List.cons_append, run, hstep]
      exact ih h

/-- No line of a hunk is left to be read. -/
def Between (p : Progress) : Prop := p.oldLeft = 0 ∧ p.newLeft = 0

theorem step_of_between (h : p.Between) (line : List Char) : p.step line = p.header line := by
  unfold step
  exact if_pos h

theorem header_git (rest : List Char) : p.header ("diff --git ".toList ++ rest) =
    .ok { p with file := gitPath? ("diff --git ".toList ++ rest) } := by
  unfold header
  rw [if_pos (List.isPrefixOf_iff_prefix.mpr (List.prefix_append _ _))]

theorem header_plus (rest : List Char) : p.header ("+++ ".toList ++ rest) =
    .ok { p with file := newPath? rest } := by
  unfold header
  rw [if_neg (by simp [List.isPrefixOf]), List.isPrefixOf?_eq_some_iff.mpr rfl]

theorem header_extra {line : List Char} (h : IsExtra line) : p.header line = .ok p := by
  obtain ⟨hgit, hplus, hat⟩ := h
  unfold header
  rw [if_neg (mt List.isPrefixOf_iff_prefix.mp hgit), List.isPrefixOf?_eq_none_iff.mpr hplus]
  simp only [if_neg (mt List.isPrefixOf_iff_prefix.mp hat)]

theorem header_hunk (h : Hunk) : p.header h.header =
    .ok { p with
          added := p.file.elim p.added p.added.touch
          oldLeft := h.old.size
          newLeft := h.new.size
          line := h.new.start.value } := by
  have hat : ∃ rest, h.header = '@' :: '@' :: rest := ⟨_, rfl⟩
  have hread := HunkHeader.read?_header h
  obtain ⟨rest, hrest⟩ := hat
  rw [hrest] at hread ⊢
  unfold header
  rw [if_neg (by simp [List.isPrefixOf]), List.isPrefixOf?_eq_none_iff.mpr (by simp)]
  simp [hread, Range.toNat_count, List.isPrefixOf]

theorem run_extra (hp : p.Between) {extra : List (List Char)}
    (h : ∀ line ∈ extra, IsExtra line) : p.run extra = .ok p := by
  induction extra with
  | nil => rfl
  | cons line extra ih =>
    have hline := h line List.mem_cons_self
    simp only [run, step_of_between hp, header_extra hline]
    exact ih fun l hl => h l (List.mem_cons_of_mem _ hl)

/-- The lines of a section in front of its hunks. -/
theorem run_naming (hp : p.Between) (s : FileSection) :
    p.run (s.naming.gitLine ++ s.extra ++ s.naming.plusLine) =
      .ok { p with file := s.destination } := by
  have hextra : ∀ file, { p with file }.run s.extra = .ok { p with file } := fun file =>
    run_extra (p := { p with file }) hp s.isExtra
  unfold FileSection.destination
  cases s.naming with
  | gitOnly old new hold hnew =>
    have hgit : p.run [("diff --git ".toList ++ old ++ ' ' :: new)] =
        .ok { p with file := some (String.ofList (Naming.withoutSide new)) } := by
      have hpath := gitPath?_eq hold hnew
      rw [List.append_assoc] at hpath ⊢
      simp only [run, step_of_between hp, header_git, hpath]
    simp only [Naming.gitLine, Naming.plusLine, List.append_nil, Naming.destination]
    rw [run_append hgit, hextra]
  | plus git path stamp hpath =>
    have hplus : ∀ file, { p with file }.run ["+++ ".toList ++ path ++ stamp.elim [] ('\t' :: ·)] =
        .ok { p with file := (Naming.plus git path stamp hpath).destination } := fun file => by
      have hp' : { p with file }.Between := hp
      rw [List.append_assoc]
      simp only [run, step_of_between hp', header_plus, newPath?_eq git stamp hpath]
    simp only [Naming.gitLine, Naming.plusLine, List.append_assoc]
    cases git with
    | none =>
      rw [Option.toList_none, List.map_nil, List.nil_append, run_append (hextra p.file)]
      exact hplus p.file
    | some line =>
      have hgit : p.run ["diff --git ".toList ++ line] =
          .ok { p with file := gitPath? ("diff --git ".toList ++ line) } := by
        simp only [run, step_of_between hp, header_git]
      rw [Option.toList_some, List.map_singleton, run_append hgit, run_append (hextra _)]
      exact hplus _

end Progress

/-! ## The body of a hunk -/

theorem bodyAdds_nil {start n : Nat} : ¬BodyAdds start [] n := by
  rintro ⟨above, b, below, heq, -, -⟩
  simp at heq

theorem bodyAdds_cons {start n : Nat} {b : BodyLine} {body : List BodyLine} :
    BodyAdds start (b :: body) n ↔
      (b.isAdded = true ∧ n = start) ∨ BodyAdds (start + b.inNew.toNat) body n := by
  have hcount : ∀ above : List BodyLine, start + (b :: above).countP BodyLine.inNew =
      start + b.inNew.toNat + above.countP BodyLine.inNew := fun above => by
    cases hb : b.inNew <;> simp [hb]
    omega
  constructor
  · rintro ⟨above, c, below, heq, hc, rfl⟩
    cases above with
    | nil =>
      obtain ⟨rfl, rfl⟩ := List.cons.inj heq
      exact .inl ⟨hc, rfl⟩
    | cons _ above =>
      obtain ⟨rfl, rfl⟩ := List.cons.inj heq
      exact .inr ⟨above, c, below, rfl, hc, hcount above⟩
  · rintro (⟨hb, rfl⟩ | ⟨above, c, below, rfl, hc, rfl⟩)
    · exact ⟨[], b, body, rfl, hb, rfl⟩
    · exact ⟨b :: above, c, below, rfl, hc, (hcount above).symm⟩

/-- The lines of a body are what is left to be read, and the next new one, if there is one, has the
number `start`. -/
structure Progress.Awaits (p : Progress) (start : Nat) (body : List BodyLine) : Prop where
  old : p.oldLeft = body.countP BodyLine.inOld
  new : p.newLeft = body.countP BodyLine.inNew
  line : 0 < body.countP BodyLine.inNew → p.line.toNat = start
  fits : start + body.countP BodyLine.inNew ≤ UInt32.size

/-- From `p` to `q` the lines `adds` have been added to the file that is read. -/
structure Progress.Adds (p q : Progress) (adds : Nat → Prop) : Prop where
  file : q.file = p.file
  ascending : q.added.Ascending
  touches : ∀ path, q.added.Touches path ↔ p.added.Touches path
  holds : ∀ path n, q.added.Holds path n ↔
    p.added.Holds path n ∨ (p.file = some path ∧ adds n.toNat)

namespace Progress

variable {p q : Progress} {start : Nat} {b : BodyLine} {body : List BodyLine}

theorem toNat_nextLine {n : UInt32} (h : n.toNat + 1 < UInt32.size) :
    (nextLine n).toNat = n.toNat + 1 := by
  unfold nextLine
  rw [if_pos h, toNat_add_one h]

theorem countP_cons_toNat (f : BodyLine → Bool) :
    (b :: body).countP f = body.countP f + (f b).toNat := by
  cases hb : f b <;> simp [hb]

/-- What is awaited after one line of the body. -/
theorem Awaits.tail (h : p.Awaits start (b :: body)) (hold : q.oldLeft = p.oldLeft - b.inOld.toNat)
    (hnew : q.newLeft = p.newLeft - b.inNew.toNat)
    (hline : q.line = if b.inNew then nextLine p.line else p.line) :
    q.Awaits (start + b.inNew.toNat) body := by
  obtain ⟨hold', hnew', hline', hfits⟩ := h
  rw [countP_cons_toNat] at hold' hnew' hline' hfits
  refine ⟨by omega, by omega, fun hpos => ?_, by omega⟩
  have hstart := hline' (by omega)
  cases hb : b.inNew
  · simpa [hline, hb] using hstart
  · rw [hb, Bool.toNat_true] at hfits
    simp only [hline, hb, if_true, Bool.toNat_true]
    rw [toNat_nextLine (by omega), hstart]

theorem Awaits.not_between (h : p.Awaits start (b :: body))
    (hb : b.inOld = true ∨ b.inNew = true) : ¬(p.oldLeft = 0 ∧ p.newLeft = 0) := by
  rw [h.old, h.new, countP_cons_toNat, countP_cons_toNat]
  rcases hb with hb | hb <;> rw [hb, Bool.toNat_true] <;> omega

/-- One line of the body. -/
theorem step_text (h : p.Awaits start (b :: body)) :
    ∃ q, p.step b.text = .ok q ∧ q.Awaits (start + b.inNew.toNat) body ∧ q.file = p.file ∧
      q.added = if b.isAdded then p.file.elim p.added (p.added.insert · p.line) else p.added := by
  unfold step
  cases b with
  | added text =>
    rw [if_neg (h.not_between (.inr rfl))]
    exact ⟨_, rfl, h.tail rfl rfl rfl, rfl, rfl⟩
  | removed text =>
    rw [if_neg (h.not_between (.inl rfl))]
    exact ⟨_, rfl, h.tail rfl rfl rfl, rfl, rfl⟩
  | shared text | blank =>
    rw [if_neg (h.not_between (.inl rfl))]
    exact ⟨_, rfl, h.tail rfl rfl rfl, rfl, rfl⟩
  | remark text =>
    have hextra : IsExtra (BodyLine.remark text).text := by simp [IsExtra, BodyLine.text]
    refine ⟨p, ?_, h.tail rfl rfl rfl, rfl, rfl⟩
    rw [header_extra hextra]
    exact ite_self _

theorem Adds.trans {r : Progress} {f g : Nat → Prop} (h : p.Adds q f) (h' : q.Adds r g) :
    p.Adds r fun n => f n ∨ g n := by
  refine ⟨h'.file.trans h.file, h'.ascending, fun path => (h'.touches path).trans (h.touches path),
    fun path n => ?_⟩
  rw [h'.holds, h.holds, h.file]
  tauto

/-- A map that gains a line of the file, which it touches already, or nothing. -/
theorem Adds.of_insert {adds : Prop} [Decidable adds] (hp : p.added.Ascending)
    (htouched : ∀ path, p.file = some path → p.added.Touches path) (hfile : q.file = p.file)
    (hadded : q.added = if adds then p.file.elim p.added (p.added.insert · p.line) else p.added)
    (hline : adds → p.line.toNat = start) : p.Adds q fun n => adds ∧ n = start := by
  by_cases hadds : adds
  · rw [if_pos hadds] at hadded
    cases hpath : p.file with
    | none =>
      rw [hpath, Option.elim_none] at hadded
      exact ⟨hfile, hadded ▸ hp, fun _ => by rw [hadded], fun _ _ => by simp [hadded, hpath]⟩
    | some path =>
      rw [hpath, Option.elim_some] at hadded
      refine ⟨hfile, hadded ▸ hp.insert path p.line, fun r => ?_, fun r n => ?_⟩
      · rw [hadded, hp.touches_insert, or_iff_right_iff_imp]
        rintro rfl
        exact htouched r hpath
      · rw [hadded, hp.holds_insert, ← UInt32.toNat_inj, hline hadds, or_comm]
        simp [hpath, hadds, eq_comm]
  · rw [if_neg hadds] at hadded
    exact ⟨hfile, hadded ▸ hp, fun _ => by rw [hadded], fun _ _ => by simp [hadded, hadds]⟩

/-- The body of a hunk, with the invariant that the counts of the header agree with it. -/
theorem run_body (h : p.Awaits start body) (hp : p.added.Ascending)
    (htouched : ∀ path, p.file = some path → p.added.Touches path) :
    ∃ q, p.run (body.map BodyLine.text) = .ok q ∧ q.Between ∧ p.Adds q (BodyAdds start body) := by
  induction body generalizing p start with
  | nil =>
    exact ⟨p, rfl, ⟨h.old, h.new⟩, rfl, hp, fun _ => .rfl, fun _ _ => by simp [bodyAdds_nil]⟩
  | cons b body ih =>
    obtain ⟨p', hstep, hawaits, hfile, hadded⟩ := step_text h
    have hline : b.isAdded = true → p.line.toNat = start := fun hb =>
      h.line (List.countP_pos_iff.mpr ⟨b, List.mem_cons_self, BodyLine.inNew_of_isAdded hb⟩)
    have hfirst := Adds.of_insert hp htouched hfile hadded hline
    have htouched' : ∀ path, p'.file = some path → p'.added.Touches path := fun path hpath =>
      (hfirst.touches path).mpr (htouched path (hfile ▸ hpath))
    obtain ⟨q, hrun, hbetween, hrest⟩ := ih hawaits hfirst.ascending htouched'
    refine ⟨q, ?_, hbetween, ?_⟩
    · simp only [List.map_cons, run, hstep]
      exact hrun
    · have hadds : BodyAdds start (b :: body) = fun n =>
          (b.isAdded = true ∧ n = start) ∨ BodyAdds (start + b.inNew.toNat) body n :=
        funext fun _ => propext bodyAdds_cons
      exact hadds ▸ hfirst.trans hrest

end Progress

/-! ## Hunks and sections -/

namespace Progress

variable {p : Progress} {diff : List FileSection} {s : FileSection}

/-- The header of a hunk touches the file, and its body adds the lines. -/
theorem run_hunk (hp : p.Between) (hasc : p.added.Ascending) (h : Hunk) :
    ∃ q, p.run h.lines = .ok q ∧ q.Between ∧ q.file = p.file ∧ q.added.Ascending ∧
      (∀ path, q.added.Touches path ↔ p.added.Touches path ∨ p.file = some path) ∧
      ∀ path n, q.added.Holds path n ↔
        p.added.Holds path n ∨ (p.file = some path ∧ h.Adds n.toNat) := by
  let p' : Progress :=
    { p with
      added := p.file.elim p.added p.added.touch
      oldLeft := h.old.size
      newLeft := h.new.size
      line := h.new.start.value }
  have hstep : p.step h.header = .ok p' := (step_of_between hp _).trans (header_hunk h)
  have hawaits : p'.Awaits h.new.start.value.toNat h.body :=
    ⟨h.old_size.symm, h.new_size.symm, fun _ => rfl, h.new_size ▸ h.fits⟩
  have hmap : p'.added.Ascending ∧
      (∀ path, p'.added.Touches path ↔ p.added.Touches path ∨ p.file = some path) ∧
      ∀ path n, p'.added.Holds path n ↔ p.added.Holds path n := by
    cases hfile : p.file with
    | none => simp [p', hfile, hasc]
    | some file =>
      simp only [p', hfile, Option.elim_some, Option.some.injEq]
      refine ⟨hasc.touch file, fun path => ?_, fun path n => hasc.holds_touch⟩
      rw [hasc.touches_touch, or_comm, eq_comm]
  obtain ⟨hasc', htouches, hholds⟩ := hmap
  obtain ⟨q, hrun, hbetween, hadds⟩ := run_body hawaits hasc' fun path hpath =>
    (htouches path).mpr (.inr hpath)
  refine ⟨q, ?_, hbetween, hadds.file, hadds.ascending, fun path => ?_, fun path n => ?_⟩
  · simp only [Hunk.lines, run, hstep]
    exact hrun
  · exact (hadds.touches path).trans (htouches path)
  · rw [hadds.holds, hholds]
    rfl

end Progress

/-- A section without its hunks says nothing. -/
theorem Describes.concat_nil {added : AddedLines} {diff : List FileSection} {s : FileSection}
    (h : Describes added diff) : Describes added (diff ++ [{ s with hunks := [] }]) := by
  refine ⟨h.ascending, fun path => ?_, fun path n => ?_⟩
  · simp [h.touches]
  · simp [h.holds]

/-- What one more hunk of the last section says. -/
theorem Describes.concat_hunk {added grown : AddedLines} {diff : List FileSection}
    {s : FileSection} {hunks : List Hunk} {hunk : Hunk}
    (h : Describes added (diff ++ [{ s with hunks }])) (hgrown : grown.Ascending)
    (htouches : ∀ path, grown.Touches path ↔ added.Touches path ∨ s.destination = some path)
    (hholds : ∀ path n, grown.Holds path n ↔
      added.Holds path n ∨ (s.destination = some path ∧ hunk.Adds n.toNat)) :
    Describes grown (diff ++ [{ s with hunks := hunks ++ [hunk] }]) := by
  refine ⟨hgrown, fun path => ?_, fun path n => ?_⟩
  · rw [htouches, h.touches]
    simp only [List.mem_append, List.mem_singleton, or_and_right, exists_or, exists_eq_left,
      FileSection.destination_with_hunks, List.concat_ne_nil, ne_eq, not_false_eq_true, and_true]
    by_cases hfile : s.destination = some path <;> simp [hfile]
  · rw [hholds, h.holds]
    simp only [List.mem_append, List.mem_singleton, or_and_right, exists_or, exists_eq_left,
      FileSection.destination_with_hunks]
    by_cases hfile : s.destination = some path <;> simp [hfile, or_assoc]

namespace Progress

variable {p : Progress} {diff : List FileSection} {s : FileSection}

theorem run_hunks {before : List Hunk} (hunks : List Hunk) (hp : p.Between)
    (hfile : p.file = s.destination)
    (h : Describes p.added (diff ++ [{ s with hunks := before }])) :
    ∃ q, p.run (hunks.flatMap Hunk.lines) = .ok q ∧ q.Between ∧
      Describes q.added (diff ++ [{ s with hunks := before ++ hunks }]) := by
  induction hunks generalizing p before with
  | nil => exact ⟨p, rfl, hp, by rwa [List.append_nil]⟩
  | cons hunk hunks ih =>
    obtain ⟨p', hrun, hp', hfile', hasc, htouches, hholds⟩ := run_hunk hp h.ascending hunk
    rw [hfile] at htouches hholds
    obtain ⟨q, hrun', hq, hdescribes⟩ :=
      ih hp' (hfile'.trans hfile) (h.concat_hunk hasc htouches hholds)
    refine ⟨q, ?_, hq, ?_⟩
    · rw [List.flatMap_cons, run_append hrun, hrun']
    · rwa [List.append_assoc] at hdescribes

theorem run_section (hp : p.Between) (h : Describes p.added diff) (s : FileSection) :
    ∃ q, p.run s.lines = .ok q ∧ q.Between ∧ Describes q.added (diff ++ [s]) := by
  obtain ⟨q, hrun, hq, hdescribes⟩ :=
    run_hunks (p := { p with file := s.destination }) (s := s) s.hunks hp rfl h.concat_nil
  exact ⟨q, by rw [FileSection.lines, run_append (run_naming hp s), hrun], hq, hdescribes⟩

theorem run_sections (sections : List FileSection) (hp : p.Between) (h : Describes p.added diff) :
    ∃ q, p.run (fileLines sections) = .ok q ∧ Describes q.added (diff ++ sections) := by
  induction sections generalizing p diff with
  | nil => exact ⟨p, rfl, by rwa [List.append_nil]⟩
  | cons s sections ih =>
    obtain ⟨p', hrun, hp', hdescribes⟩ := run_section hp h s
    obtain ⟨q, hrun', hq⟩ := ih hp' hdescribes
    refine ⟨q, ?_, ?_⟩
    · rw [fileLines, List.flatMap_cons, run_append hrun]
      exact hrun'
    · rwa [List.append_assoc] at hq

end Progress

/-- The section of a file whose name ends with a space. One hunk reaches up to the greatest line
number, and its body has lines that look like headers. -/
def spacedSection : FileSection where
  naming := .plus none "b/a ".toList (some "2024-01-01".toList) (by decide)
  extra := ["--- /dev/null".toList]
  isExtra := by decide
  hunks :=
    [{ old := { start := { value := 1 }, count := some { value := 2 } }
       new := { start := { value := 4294967294 }, count := some { zeros := 1, value := 2 } }
       heading := []
       body := [.removed "-- a/x".toList, .added "++ b/c".toList, .remark " No newline".toList,
         .shared []]
       old_size := by decide
       new_size := by decide
       fits := by decide }]

/-- `spacedSection` as a text, in which one line ends with a carriage return. -/
def spacedText : String :=
  "--- /dev/null\n+++ b/a \t2024-01-01\n@@ -1,2 +4294967294,02 @@\n--- a/x\n+++ b/c\r\n" ++
    "\\ No newline\n \n"

theorem lined_spacedText : Text.Lined spacedText.toList (fileLines [spacedSection]) :=
  Text.lines_eq_iff.mp (by decide)

/-- **A well-formed diff is read, and the answer is the map that belongs to it.** -/
theorem addedLines_of_lined (diff : List FileSection) (text : String)
    (h : Text.Lined text.toList (fileLines diff)) :
    ∃ added, addedLines text = .ok added ∧ Describes added diff ∧
      ∀ other, Describes other diff → other = added := by
  have hempty : Describes Progress.start.added [] :=
    ⟨AddedLines.ascending_empty, fun _ => by simp [Progress.start, AddedLines.not_touches_empty],
      fun _ _ => by simp [Progress.start, AddedLines.not_holds_empty]⟩
  obtain ⟨q, hrun, hdescribes⟩ :=
    Progress.run_sections (p := Progress.start) diff ⟨rfl, rfl⟩ hempty
  refine ⟨q.added, ?_, hdescribes, fun other hother => hdescribes.unique hother⟩
  unfold addedLines
  rw [h.lines_eq, hrun]
  rfl

theorem addedLines_spacedText :
    Text.Lined spacedText.toList (fileLines [spacedSection]) ∧
      ∃ added, addedLines spacedText = .ok added ∧ Describes added [spacedSection] ∧
        ∀ other, Describes other [spacedSection] → other = added :=
  ⟨lined_spacedText, addedLines_of_lined [spacedSection] spacedText lined_spacedText⟩

/-- The file of a section is not always what its `+++ ` line says up to the tab: white space at the
end of the name is lost. -/
theorem destination_ne_upTo_tab :
    ¬∀ (diff : List FileSection) (text : String) (added : AddedLines),
      Text.Lined text.toList (fileLines diff) → addedLines text = .ok added →
      ∀ s ∈ diff, ∀ git path stamp hpath, s.naming = .plus git path stamp hpath →
        path ≠ "/dev/null".toList → s.hunks ≠ [] →
          added.Touches (String.ofList (Naming.withoutSide path)) := by
  intro hall
  have hread : addedLines spacedText = .ok ⟨[("a", [4294967294])]⟩ := rfl
  obtain ⟨ls, hls⟩ := hall [spacedSection] spacedText _ lined_spacedText hread spacedSection
    List.mem_cons_self none "b/a ".toList _ _ rfl (by decide) (List.cons_ne_nil _ _)
  have hnone : AddedLines.lines? ⟨[("a", [4294967294])]⟩
      (String.ofList (Naming.withoutSide "b/a ".toList)) = none := by decide
  rw [hnone] at hls
  cases hls

end LintReview.UnifiedDiff

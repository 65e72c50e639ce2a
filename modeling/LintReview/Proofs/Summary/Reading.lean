import LintReview.Proofs.Sequence
import LintReview.Proofs.SourcePath.Characters
import LintReview.Proofs.Summary.Rows

/-! Reading a summary back. A reader of Markdown tables knows nothing of diagnostics: it takes the
lines behind the last delimiter line as rows, splits each at the pipes that no backslash precedes,
takes one blank from either side of a piece and turns escaped pipes into pipes. **It finds in a
summary without line breaks in its texts one entry for each diagnostic, with the texts of the
diagnostic, and the counts that stand above the table are those of the entries** (`read?_render`).
-/

namespace LintReview.Summary

/-! ## The reader -/

/-- The pieces between the pipes that no backslash directly precedes, where `before` stands in
front of the text. -/
def splitBare (before : Char) : List Char → List (List Char)
  | [] => [[]]
  | c :: rest =>
    if c = '|' ∧ before ≠ '\\' then [] :: splitBare c rest
    else (splitBare c rest).modifyHead (c :: ·)

/-- The text with every backslash taken away that stands in front of a pipe. -/
def unescape : List Char → List Char
  | [] => []
  | '\\' :: '|' :: rest => '|' :: unescape rest
  | c :: rest => c :: unescape rest

/-- A text without the blank on either side of it. -/
def unframe? : List Char → Option (List Char)
  | ' ' :: rest => if rest.getLast? = some ' ' then some rest.dropLast else none
  | _ => none

/-- The texts of one row of a table. -/
structure Entry where
  level : List Char
  location : List Char
  rule : List Char
  message : List Char
  deriving DecidableEq

/-- Reads a row: four framed texts between five pipes. -/
def Entry.ofRow? (line : List Char) : Option Entry :=
  match splitBare '\n' line with
  | [[], level, location, rule, message, []] => do
    let level ← unframe? level
    let location ← unframe? location
    let rule ← unframe? rule
    let message ← unframe? message
    some ⟨unescape level, unescape location, unescape rule, unescape message⟩
  | _ => none

/-- Whether a line sets the head of a table off from its rows. -/
def isDelimiter (line : List Char) : Bool :=
  !line.isEmpty && line.all fun c => c = '|' || c = '-'

/-- The numbers that a line mentions. -/
def numbers (line : List Char) : List Nat :=
  (line.splitOnP fun c => !c.isDigit).filterMap Decimal.read?

/-- A table with the counts above it. -/
structure Table where
  total : Nat
  errors : Nat
  warnings : Nat
  notes : Nat
  entries : List Entry
  deriving DecidableEq

/-- Reads the last table of a document. Its counts stand above its head, with an empty line in
between. -/
def Table.read? (document : String) : Option Table :=
  let lines := (markdownLines document.toList).reverse
  let rows := (lines.takeWhile (!isDelimiter ·)).reverse
  match lines.dropWhile (!isDelimiter ·) with
  | _ :: _ :: _ :: counts :: _ =>
    match numbers counts with
    | [total, errors, warnings, notes] => do
      let entries ← rows.mapM Entry.ofRow?
      some { total, errors, warnings, notes, entries }
    | _ => none
  | _ => none

/-! ## What an entry shows -/

/-- What follows the path of a location: the line, and the column if there is a line. -/
inductive PlaceText : (line col : Option UInt32) → List Char → Prop
  | path {col} : PlaceText none col []
  | line {n} : PlaceText (some n) none (':' :: Decimal.digits n.toNat)
  | column {n k} : PlaceText (some n) (some k)
      (':' :: Decimal.digits n.toNat ++ ':' :: Decimal.digits k.toNat)

/-- A rule by its identifier and its symbolic name, as far as they are known. -/
inductive RuleText : (id sym : Option String) → List Char → Prop
  | both {id sym} : RuleText (some id) (some sym) (id.toList ++ " (".toList ++ sym.toList ++ [')'])
  | id {id} : RuleText (some id) none id.toList
  | sym {sym} : RuleText none (some sym) sym.toList
  | neither : RuleText none none ['-']

/-- The entry has the texts of a diagnostic. -/
structure Entry.Shows (d : Diagnostic) (analysisRoot cwd : String) (e : Entry) : Prop where
  level : (d.level = none ∧ e.level = ['-']) ∨ ∃ l, d.level = some l ∧ e.level = l.word.toList
  location : (d.path = none ∧ e.location = ['-']) ∨ ∃ path place, d.path = some path ∧
    PlaceText d.line d.col place ∧
    e.location = (SourcePath.normalize path analysisRoot cwd).toList ++ place
  rule : RuleText d.id d.sym e.rule
  message : e.message = (d.msg.getD "").toList

/-- The entry that is written for a diagnostic. -/
def Entry.ofDiagnostic (d : Diagnostic) (analysisRoot cwd : String) : Entry where
  level := levelCell d
  location := Summary.location d analysisRoot cwd
  rule := Summary.rule d
  message := (d.msg.getD "").toList

theorem placeText_iff {line col : Option UInt32} {place : List Char} :
    PlaceText line col place ↔ place =
      match line with
      | none => []
      | some n => atNumber n ++ (col.map atNumber).getD [] := by
  constructor
  · rintro (_ | _ | _)
    · rfl
    · exact (List.append_nil _).symm
    · rfl
  · rintro rfl
    cases line with
    | none => exact .path
    | some n =>
      cases col with
      | none =>
        have hline : PlaceText (some n) none (atNumber n ++ []) := by
          rw [List.append_nil]
          exact .line
        exact hline
      | some k => exact .column

theorem ruleText_iff {d : Diagnostic} {text : List Char} :
    RuleText d.id d.sym text ↔ text = rule d := by
  unfold rule
  cases d.id with
  | none =>
    cases d.sym with
    | none => exact ⟨by rintro ⟨⟩; rfl, by rintro rfl; exact .neither⟩
    | some sym => exact ⟨by rintro ⟨⟩; rfl, by rintro rfl; exact .sym⟩
  | some id =>
    cases d.sym with
    | none => exact ⟨by rintro ⟨⟩; rfl, by rintro rfl; exact .id⟩
    | some sym => exact ⟨by rintro ⟨⟩; rfl, by rintro rfl; exact .both⟩

/-- Just one entry has the texts of a diagnostic. -/
theorem Entry.shows_iff {d : Diagnostic} {analysisRoot cwd : String} {e : Entry} :
    e.Shows d analysisRoot cwd ↔ e = ofDiagnostic d analysisRoot cwd := by
  constructor
  · intro h
    obtain ⟨level, location, rule, message⟩ := e
    have hlevel : level = levelCell d := by
      unfold levelCell
      rcases h.level with ⟨hnone, rfl⟩ | ⟨l, hsome, rfl⟩
      · rw [hnone]
        rfl
      · rw [hsome]
        rfl
    have hlocation : location = Summary.location d analysisRoot cwd := by
      unfold Summary.location
      rcases h.location with ⟨hnone, rfl⟩ | ⟨path, place, hsome, hplace, rfl⟩
      · rw [hnone]
      · rw [hsome]
        exact congrArg (_ ++ ·) (placeText_iff.mp hplace)
    rw [ofDiagnostic, hlevel, hlocation, ← ruleText_iff.mp h.rule, ← h.message]
  · rintro rfl
    constructor
    · unfold ofDiagnostic levelCell
      cases d.level with
      | none => exact .inl ⟨rfl, rfl⟩
      | some l => exact .inr ⟨l, rfl, rfl⟩
    · unfold ofDiagnostic Summary.location
      cases d.path with
      | none => exact .inl ⟨rfl, rfl⟩
      | some path => exact .inr ⟨path, _, rfl, placeText_iff.mpr rfl, rfl⟩
    · exact ruleText_iff.mpr rfl
    · rfl

variable {before c : Char} {s t rest : List Char}

/-! ## Cells -/

theorem head?_cell (s : List Char) : (cell s).head? ≠ some '|' := by
  fun_cases cell s with
  | case1 => exact nofun
  | case2 => exact nofun
  | case3 => exact nofun
  | case4 => exact nofun
  | case5 c rest hpipe => exact fun h => hpipe (Option.some.inj h)

theorem unescape_cons (h : c = '\\' → s.head? ≠ some '|') :
    unescape (c :: s) = c :: unescape s := by
  rw [unescape]
  rintro rest rfl rfl
  exact h rfl rfl

/-- Escaping is undone, backslashes in front of pipes and at the end included. -/
theorem unescape_cell (hs : '\n' ∉ s) : unescape (cell s) = s := by
  fun_induction cell s with
  | case1 => rfl
  | case2 rest ih =>
    rw [unescape, ih fun h => hs (List.mem_cons_of_mem _ h)]
  | case3 rest => exact absurd (List.mem_cons_of_mem _ List.mem_cons_self) hs
  | case4 rest => exact absurd List.mem_cons_self hs
  | case5 c rest _ _ _ ih =>
    rw [unescape_cons fun _ => head?_cell rest, ih fun h => hs (List.mem_cons_of_mem _ h)]

/-! ## Rows -/

/-- A text without bare pipes belongs to one piece. -/
theorem splitBare_append (h : barePipes before s = 0) (t : List Char) :
    splitBare before (s ++ t) = (splitBare (s.getLast?.getD before) t).modifyHead (s ++ ·) := by
  induction s generalizing before with
  | nil =>
    change _ = (splitBare before t).modifyHead id
    rw [List.modifyHead_id]
    rfl
  | cons c s ih =>
    obtain ⟨hc, hs⟩ := Nat.add_eq_zero_iff.mp h
    have hbare : ¬(c = '|' ∧ before ≠ '\\') := by
      intro hpipe
      rw [if_pos hpipe] at hc
      cases hc
    rw [List.cons_append, splitBare, if_neg hbare, ih hs, List.modifyHead_modifyHead,
      List.getLast?_cons]
    rfl

/-- A text with its frame. -/
def framed (text : List Char) : List Char := ' ' :: (cell text ++ [' '])

theorem unframe?_framed (text : List Char) : unframe? (framed text) = some (cell text) := by
  rw [framed, unframe?, if_pos List.getLast?_concat, List.dropLast_concat]

theorem splitBare_cells (texts : List (List Char)) (hbefore : before ≠ '\\') :
    splitBare before (texts.flatMap (fun text => "| ".toList ++ cell text ++ [' ']) ++ ['|']) =
      [] :: (texts.map framed ++ [[]]) := by
  induction texts generalizing before with
  | nil => simp [splitBare, hbefore]
  | cons text texts ih =>
    have hframe : (text :: texts).flatMap (fun text => "| ".toList ++ cell text ++ [' ']) ++ ['|'] =
        '|' :: (framed text ++
          (texts.flatMap (fun text => "| ".toList ++ cell text ++ [' ']) ++ ['|'])) := by
      simp [framed]
    have hbare : barePipes '|' (framed text) = 0 := by
      simp [framed, barePipes, barePipes_append, barePipes_cell]
    have hlast : (framed text).getLast?.getD '|' = ' ' := by
      rw [framed, ← List.cons_append, List.getLast?_concat]
      rfl
    rw [hframe, splitBare, if_pos ⟨rfl, hbefore⟩, splitBare_append hbare, hlast, ih (by decide)]
    simp

theorem ofRow?_row (d : Diagnostic) (analysisRoot cwd : String)
    (h : ∀ text ∈ cells d analysisRoot cwd, '\n' ∉ text) :
    Entry.ofRow? (row d analysisRoot cwd) = some (.ofDiagnostic d analysisRoot cwd) := by
  have hsplit : splitBare '\n' (row d analysisRoot cwd) =
      [[], framed (levelCell d), framed (location d analysisRoot cwd), framed (rule d),
        framed (d.msg.getD "").toList, []] := splitBare_cells _ (by decide)
  simp only [cells, List.forall_mem_cons] at h
  obtain ⟨hlevel, hlocation, hrule, hmessage, -⟩ := h
  rw [Entry.ofRow?, hsplit]
  simp only [unframe?_framed, Option.bind_eq_bind, Option.bind_some, unescape_cell hlevel,
    unescape_cell hlocation, unescape_cell hrule, unescape_cell hmessage]
  rfl

/-! ## Lines -/

theorem markdownLines_line (hfeed : '\n' ∉ s) (hreturn : '\r' ∉ s) :
    markdownLines (s ++ '\n' :: rest) = s :: markdownLines rest := by
  have hlast : s.getLast? ≠ some '\r' := fun h => hreturn (List.mem_of_getLast? h)
  rw [markdownLines_append_feed hfeed hlast, List.splitOn_eq_singleton hreturn]
  rfl

theorem markdownLines_cons_break (hc : c = '\n' ∨ c = '\r')
    (h : c = '\r' → s.head? ≠ some '\n') : markdownLines (c :: s) = [] :: markdownLines s := by
  rw [markdownLines]
  · exact if_pos hc
  · rintro rest hreturn rfl
    exact h hreturn rfl

theorem markdownLines_ne_nil (hs : s ≠ []) : markdownLines s ≠ [] := by
  fun_cases markdownLines s with
  | case1 => exact absurd rfl hs
  | case2 => exact List.cons_ne_nil _ _
  | case3 => exact List.cons_ne_nil _ _
  | case4 => exact List.cons_ne_nil _ _
  | case5 => exact List.cons_ne_nil _ _

/-- A line feed ends a line whatever stands in front of it. -/
theorem markdownLines_append (s rest : List Char) :
    markdownLines (s ++ '\n' :: rest) = markdownLines (s ++ ['\n']) ++ markdownLines rest := by
  fun_induction markdownLines s with
  | case1 => rfl
  | case2 s ih =>
    rw [List.cons_append, List.cons_append, markdownLines, ih]
    rfl
  | case3 c s hbreak hc ih =>
    cases s with
    | nil =>
      rcases hc with rfl | rfl
      · rfl
      · rfl
    | cons next s =>
      have hnext (tail : List Char) : c = '\r' → (next :: s ++ tail).head? ≠ some '\n' := by
        rintro rfl hfeed
        exact hbreak s rfl (congrArg (· :: s) (Option.some.inj hfeed))
      have hbroken (tail : List Char) : markdownLines (c :: next :: s ++ tail) =
          [] :: markdownLines (next :: s ++ tail) := markdownLines_cons_break hc (hnext tail)
      rw [hbroken, hbroken, ih]
      rfl
  | case4 c s _ hc _ ih | case5 c s _ hc _ _ _ ih =>
    obtain ⟨hfeed, hreturn⟩ := not_or.mp hc
    obtain ⟨line, lines, hlines⟩ :=
      List.exists_cons_of_ne_nil (markdownLines_ne_nil (List.append_ne_nil_of_right_ne_nil s
        (List.cons_ne_nil '\n' [])))
    rw [List.cons_append, List.cons_append, markdownLines_cons_of_ne hfeed hreturn, ih,
      markdownLines_cons_of_ne hfeed hreturn, hlines]
    rfl

/-! ## Counts -/

theorem numbers_cons (hc : c.isDigit = false) : numbers (c :: s) = numbers s := by
  rw [numbers, List.splitOnP_cons_eq_if_modifyHead, if_pos (by rw [hc]; rfl)]
  rfl

theorem numbers_append (hs : s.any Char.isDigit = false) : numbers (s ++ rest) = numbers rest := by
  induction s with
  | nil => rfl
  | cons c s ih =>
    obtain ⟨hc, hs⟩ := Bool.or_eq_false_iff.mp hs
    rw [List.cons_append, numbers_cons hc, ih hs]

/-- A number is read as far as its digits go. -/
theorem numbers_digits_append (n : Nat) (hne : s ≠ []) (hs : s.any Char.isDigit = false) :
    numbers (Decimal.digits n ++ (s ++ rest)) = n :: numbers rest := by
  have hdigits : ∀ d ∈ Decimal.digits n, (!d.isDigit) = false := by
    intro d hd
    rw [Decimal.isDigit_of_mem_digits hd]
    rfl
  obtain ⟨c, s, rfl⟩ := List.exists_cons_of_ne_nil hne
  obtain ⟨hc, hs⟩ := Bool.or_eq_false_iff.mp hs
  rw [numbers, List.cons_append, List.splitOnP_append_cons_of_forall_mem hdigits c (by rw [hc]; rfl),
    List.filterMap_cons, Decimal.read?_digits]
  exact congrArg (n :: ·) (numbers_append hs)

theorem numbers_countLine (ds : List Diagnostic) : numbers (countLine ds) =
    [ds.length, count .error ds, count .warning ds, count .note ds] := by
  have hnumber (n : Nat) {s rest : List Char} (hs : s.any Char.isDigit = false)
      (hne : s.isEmpty = false) : numbers (Decimal.digits n ++ (s ++ rest)) = n :: numbers rest :=
    numbers_digits_append n (List.isEmpty_eq_false_iff.mp hne) hs
  rw [← List.append_nil (countLine ds)]
  delta countLine
  simp only [List.append_assoc]
  rw [numbers_append rfl, hnumber _ rfl rfl, hnumber _ rfl rfl, hnumber _ rfl rfl,
    hnumber _ rfl rfl]
  rfl

theorem levelCell_eq_word_iff {d : Diagnostic} {l : Level} :
    levelCell d = l.word.toList ↔ d.level = some l := by
  unfold levelCell
  cases d.level with
  | none => cases l <;> decide
  | some k => cases k <;> cases l <;> decide

theorem count_eq_countP (ds : List Diagnostic) (l : Level) (analysisRoot cwd : String) :
    count l ds = (ds.map fun d => Entry.ofDiagnostic d analysisRoot cwd).countP
      fun e => e.level = l.word.toList := by
  rw [count, List.countP_map]
  apply List.countP_congr
  intro d _
  simp only [Function.comp_apply, decide_eq_true_eq]
  exact levelCell_eq_word_iff.symm

/-! ## Texts without line breaks -/

/-- The character does not end a line. -/
def IsInline (c : Char) : Prop := c ≠ '\n' ∧ c ≠ '\r'

theorem IsInline.of_ne {c : Char} {b : Char → Bool} (hfeed : b '\n' = false)
    (hreturn : b '\r' = false) (h : b c = true) : IsInline c := by
  constructor
  · rintro rfl
    cases hfeed.symm.trans h
  · rintro rfl
    cases hreturn.symm.trans h

theorem isInline_digits (n : Nat) : ∀ c ∈ Decimal.digits n, IsInline c :=
  fun _ hc => .of_ne rfl rfl (Decimal.isDigit_of_mem_digits hc)

theorem isInline_of_all (h : s.all (fun c => c != '\n' && c != '\r') = true) :
    ∀ c ∈ s, IsInline c :=
  fun _ hc => .of_ne (b := fun c => c != '\n' && c != '\r') rfl rfl (List.all_eq_true.mp h _ hc)

theorem allowsPaths_isInline : SourcePath.AllowsPaths IsInline where
  slash := ⟨by decide, by decide⟩
  dot := ⟨by decide, by decide⟩
  colon := ⟨by decide, by decide⟩
  letter _ h := .of_ne rfl rfl h

/-- The texts that a diagnostic has. -/
def texts (d : Diagnostic) : List String := [d.path, d.id, d.sym, d.msg].reduceOption

section

variable {d : Diagnostic} {analysisRoot cwd : String}
  (hroot : ∀ c ∈ analysisRoot.toList, IsInline c) (hcwd : ∀ c ∈ cwd.toList, IsInline c)
  (htexts : ∀ text ∈ texts d, ∀ c ∈ text.toList, IsInline c)
include htexts

theorem isInline_rule : ∀ c ∈ rule d, IsInline c := by
  have hid : ∀ id ∈ d.id, ∀ c ∈ id.toList, IsInline c := by
    intro id hid
    exact htexts id (List.reduceOption_mem_iff.mpr (by simp [Option.mem_def.mp hid]))
  have hsym : ∀ sym ∈ d.sym, ∀ c ∈ sym.toList, IsInline c := by
    intro sym hsym
    exact htexts sym (List.reduceOption_mem_iff.mpr (by simp [Option.mem_def.mp hsym]))
  unfold rule
  split
  · next id sym hid' hsym' =>
    simp only [List.forall_mem_append]
    exact ⟨⟨⟨hid id hid', isInline_of_all rfl⟩, hsym sym hsym'⟩, isInline_of_all rfl⟩
  · next id hid' _ => exact hid id hid'
  · next sym _ hsym' => exact hsym sym hsym'
  · exact isInline_of_all rfl

include hroot hcwd

theorem isInline_location : ∀ c ∈ location d analysisRoot cwd, IsInline c := by
  have hnumber (n : UInt32) : ∀ c ∈ atNumber n, IsInline c :=
    List.forall_mem_cons.mpr ⟨⟨by decide, by decide⟩, isInline_digits _⟩
  unfold location
  split
  · exact isInline_of_all rfl
  · next path hpath =>
    have hreported : ∀ c ∈ path.toList, IsInline c :=
      htexts path (List.reduceOption_mem_iff.mpr (by simp [hpath]))
    rw [List.forall_mem_append]
    refine ⟨SourcePath.forall_mem_normalize allowsPaths_isInline hreported hroot hcwd, ?_⟩
    split
    · exact List.forall_mem_nil _
    · next line _ =>
      rw [List.forall_mem_append]
      refine ⟨hnumber line, ?_⟩
      cases d.col with
      | none => exact List.forall_mem_nil _
      | some col => exact hnumber col

theorem isInline_cells : ∀ text ∈ cells d analysisRoot cwd, ∀ c ∈ text, IsInline c := by
  simp only [cells, List.forall_mem_cons]
  refine ⟨?_, isInline_location hroot hcwd htexts, isInline_rule htexts, ?_, List.forall_mem_nil _⟩
  · unfold levelCell
    cases d.level with
    | none => exact isInline_of_all rfl
    | some l => cases l <;> exact isInline_of_all rfl
  · cases hmsg : d.msg with
    | none => exact List.forall_mem_nil _
    | some msg => exact htexts msg (List.reduceOption_mem_iff.mpr (by simp [hmsg]))

end

/-! ## The document -/

theorem isInline_countLine (ds : List Diagnostic) : ∀ c ∈ countLine ds, IsInline c := by
  delta countLine
  simp only [List.forall_mem_append]
  have hnumber (n : Nat) : ∀ c ∈ Decimal.digits n, IsInline c := isInline_digits n
  exact ⟨⟨⟨⟨⟨⟨⟨⟨isInline_of_all rfl, hnumber _⟩, isInline_of_all rfl⟩, hnumber _⟩,
    isInline_of_all rfl⟩, hnumber _⟩, isInline_of_all rfl⟩, hnumber _⟩, isInline_of_all rfl⟩

theorem markdownLines_cons_line (hs : ∀ c ∈ s, IsInline c) :
    markdownLines (s ++ '\n' :: rest) = s :: markdownLines rest :=
  markdownLines_line (fun h => (hs _ h).1 rfl) fun h => (hs _ h).2 rfl

/-- Whatever the name of the tool, the counts, the head of the table and its delimiter line stand in
front of the rows. -/
theorem markdownLines_head_append (toolName : String) (ds : List Diagnostic) (table : List Char) :
    ∃ title, markdownLines (head toolName ds ++ table) =
      title ++ [countLine ds, [], tableHead, delimiter] ++ markdownLines table := by
  have hresults : " results\n\n".toList = " results".toList ++ ['\n', '\n'] := rfl
  have hbreaks : "\n\n".toList = ['\n', '\n'] := rfl
  have hhead : head toolName ds ++ table = ("## ".toList ++ toolName.toList ++ " results".toList) ++
      '\n' :: ([] ++ '\n' :: (countLine ds ++ '\n' :: ([] ++ '\n' :: (tableHead ++
        '\n' :: (delimiter ++ '\n' :: table))))) := by
    delta head
    simp only [hresults, hbreaks, List.append_assoc, List.cons_append, List.nil_append]
  have hnames : ∀ c ∈ tableHead, IsInline c := isInline_of_all rfl
  have hdelimiter : ∀ c ∈ delimiter, IsInline c := isInline_of_all rfl
  rw [hhead, markdownLines_append, markdownLines_cons_line (List.forall_mem_nil _),
    markdownLines_cons_line (isInline_countLine ds), markdownLines_cons_line (List.forall_mem_nil _),
    markdownLines_cons_line hnames, markdownLines_cons_line hdelimiter]
  refine ⟨markdownLines ("## ".toList ++ toolName.toList ++ " results".toList ++ ['\n']) ++ [[]], ?_⟩
  simp only [List.append_assoc, List.cons_append, List.nil_append]

theorem isDelimiter_row (d : Diagnostic) (analysisRoot cwd : String) :
    isDelimiter (row d analysisRoot cwd) = false := by
  obtain ⟨rest, hrow⟩ : ∃ rest, row d analysisRoot cwd = '|' :: ' ' :: rest := ⟨_, rfl⟩
  rw [hrow]
  rfl

theorem read?_eq_of_lines {document : String} {title rows : List (List Char)}
    {counts space names line : List Char} {entries : List Entry}
    (hlines : markdownLines document.toList = title ++ [counts, space, names, line] ++ rows)
    (hline : isDelimiter line = true) (hrows : ∀ r ∈ rows, isDelimiter r = false)
    (hentries : rows.mapM Entry.ofRow? = some entries) {total errors warnings notes : Nat}
    (hcounts : numbers counts = [total, errors, warnings, notes]) :
    Table.read? document = some { total, errors, warnings, notes, entries } := by
  have hreverse : (markdownLines document.toList).reverse =
      rows.reverse ++ line :: names :: space :: counts :: title.reverse := by
    rw [hlines]
    simp
  have hpass : ∀ r ∈ rows.reverse, (!isDelimiter r) = true := by
    intro r hr
    rw [hrows r (List.mem_reverse.mp hr)]
    rfl
  have hstop : (!isDelimiter line) = false := by
    rw [hline]
    rfl
  have htake : (rows.reverse ++ line :: names :: space :: counts :: title.reverse).takeWhile
      (!isDelimiter ·) = rows.reverse := by
    rw [List.takeWhile_append_of_pos hpass, List.takeWhile_cons_of_neg (by simp [hstop]),
      List.append_nil]
  have hdrop : (rows.reverse ++ line :: names :: space :: counts :: title.reverse).dropWhile
      (!isDelimiter ·) = line :: names :: space :: counts :: title.reverse := by
    rw [List.dropWhile_append_of_pos hpass, List.dropWhile_cons_of_neg (by simp [hstop])]
  simp only [Table.read?, hreverse, htake, hdrop, hcounts, List.reverse_reverse, hentries,
    Option.bind_eq_bind, Option.bind_some]

/-- **The table of a summary reads back.** If no text of a diagnostic has a line break, there is one
entry for each diagnostic, in order and with its texts, and the counts above the table are those of
the entries. -/
theorem read?_render (ds : List Diagnostic) (toolName analysisRoot cwd : String) (hne : ds ≠ [])
    (hroot : ∀ c ∈ analysisRoot.toList, IsInline c) (hcwd : ∀ c ∈ cwd.toList, IsInline c)
    (htexts : ∀ d ∈ ds, ∀ text ∈ texts d, ∀ c ∈ text.toList, IsInline c) :
    ∃ table, Table.read? (render ds toolName analysisRoot cwd) = some table ∧
      List.Forall₂ (fun d e => Entry.Shows d analysisRoot cwd e) ds table.entries ∧
      table.total = table.entries.length ∧
      table.errors = table.entries.countP (fun e => e.level = "error".toList) ∧
      table.warnings = table.entries.countP (fun e => e.level = "warning".toList) ∧
      table.notes = table.entries.countP (fun e => e.level = "note".toList) := by
  have hcells : ∀ d ∈ ds, ∀ text ∈ cells d analysisRoot cwd, ∀ c ∈ text, IsInline c :=
    fun d hd => isInline_cells hroot hcwd (htexts d hd)
  have hwhole : ∀ d ∈ ds, '\r' ∉ row d analysisRoot cwd := by
    intro d hd hmem
    obtain ⟨text, htext, before, after, rfl, -⟩ := return_mem_row.mp hmem
    exact (hcells d hd _ htext '\r' (List.mem_append_right _ List.mem_cons_self)).2 rfl
  have hrows : markdownLines (ds.flatMap fun d => row d analysisRoot cwd ++ ['\n']) =
      ds.map fun d => row d analysisRoot cwd := by
    rw [markdownLines_rows, flatMap_splitOn_eq_map_iff]
    exact hwhole
  have hentries : (ds.map fun d => row d analysisRoot cwd).mapM Entry.ofRow? =
      some (ds.map fun d => Entry.ofDiagnostic d analysisRoot cwd) := by
    rw [List.mapM_eq_some_iff_forall₂, List.forall₂_map_left_iff, List.forall₂_map_right_iff,
      List.forall₂_same]
    exact fun d hd => ofRow?_row d analysisRoot cwd fun text htext hfeed =>
      (hcells d hd text htext '\n' hfeed).1 rfl
  obtain ⟨title, hlines⟩ := markdownLines_head_append toolName ds
    (ds.flatMap fun d => row d analysisRoot cwd ++ ['\n'])
  rw [← toList_render ds toolName analysisRoot cwd hne, hrows] at hlines
  refine ⟨_, read?_eq_of_lines hlines rfl
    (List.forall_mem_map.mpr fun d _ => isDelimiter_row d analysisRoot cwd) hentries
    (numbers_countLine ds), ?_, (List.length_map _).symm, ?_⟩
  · rw [List.forall₂_map_right_iff, List.forall₂_same]
    exact fun d _ => Entry.shows_iff.mpr rfl
  · exact ⟨count_eq_countP ds .error analysisRoot cwd, count_eq_countP ds .warning analysisRoot cwd,
      count_eq_countP ds .note analysisRoot cwd⟩

/-- Pipes with and without a backslash in front of them, a backslash at the end of a cell, a cell of
pipes and blanks, and a message that is left out. -/
def barred : List Diagnostic :=
  [{ id := some "E|1", sym := some "a\\|b", msg := some "c\\", path := some "x|.py",
     line := some 3, col := some 4, level := some .error },
    { msg := some " | | ", level := some .note, path := some "y.py", col := some 2 },
    { level := some .error }]

theorem read?_render_barred :
    barred ≠ [] ∧ (∀ d ∈ barred, ∀ text ∈ texts d, ∀ c ∈ text.toList, IsInline c) ∧
    Table.read? (render barred "|-|\n" "." "/") = some
      { total := 3, errors := 2, warnings := 0, notes := 1
        entries :=
          [⟨"error".toList, "x|.py:3:4".toList, "E|1 (a\\|b)".toList, "c\\".toList⟩,
            ⟨"note".toList, "y.py".toList, ['-'], " | | ".toList⟩,
            ⟨"error".toList, ['-'], ['-'], []⟩] } := by
  have hne : barred ≠ [] := List.cons_ne_nil _ _
  have htexts : ∀ d ∈ barred, ∀ text ∈ texts d, ∀ c ∈ text.toList, IsInline c := by
    have hall : ∀ text ∈ barred.flatMap texts, text.toList.all (fun c => c != '\n' && c != '\r') =
        true := by decide
    exact fun d hd text htext => isInline_of_all (hall text (List.mem_flatMap.mpr ⟨d, hd, htext⟩))
  obtain ⟨⟨total, errors, warnings, notes, entries⟩, hread, hshows, htotal, herrors, hwarnings,
    hnotes⟩ := read?_render barred "|-|\n" "." "/" hne (isInline_of_all rfl) (isInline_of_all rfl)
      htexts
  dsimp only at hshows htotal herrors hwarnings hnotes
  have hentries : entries = barred.map fun d => Entry.ofDiagnostic d "." "/" := by
    simp only [Entry.shows_iff] at hshows
    rw [← List.forall₂_eq_eq_eq, List.forall₂_map_right_iff]
    exact hshows.flip
  subst hentries htotal herrors hwarnings hnotes
  exact ⟨hne, htexts, hread.trans (by decide)⟩

end LintReview.Summary

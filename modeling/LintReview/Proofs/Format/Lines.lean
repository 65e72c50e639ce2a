import LintReview.Format
import LintReview.Proofs.Pattern.CharSet
import LintReview.Proofs.Pattern.Lines
import LintReview.Proofs.Pattern.Preference
import LintReview.Proofs.Text.Infix
import Mathlib.Tactic.FinCases

/-! The built-in line formats. Their patterns are compiled to `flake8Node`, `mdlNode` and
`mypyNode`, which take no line feed and are anchored to the start of a line. A pattern of this kind
is read line by line (`LinePattern.IsLinewise.read_eq`), so that **the diagnostics of a text are
those of its lines, at most one for each, whatever the other lines are** (`lines_readsByLine`). -/

namespace LintReview.Format

open Pattern

/-! ## The patterns -/

/-- A group that takes a run of characters of a set. -/
def run (index : Nat) (s : CharSet) : Node := .group index (.loop true (.set s))

/-- A pattern for one character. -/
def char (c : Char) : Node := .set (.single c)

/-- A pattern that may be left out. -/
def perhaps (n : Node) : Node := n.repeated 0 (some 1) true

/-- `[^:\n]` -/
def pathChars : CharSet := ((CharSet.single ':').union (.single '\n')).compl

/-- `\d` -/
def digitChars : CharSet := Perl.digit.set true

/-- `\w` -/
def wordChars : CharSet := Perl.word.set true

/-- `\S` -/
def visibleChars : CharSet := (Perl.space.set true).compl

/-- `[^/\s]` -/
def ruleChars : CharSet := ((CharSet.single '/').union (Perl.space.set true)).compl

/-- `[^:\s]` -/
def levelChars : CharSet := ((CharSet.single ':').union (Perl.space.set true)).compl

/-- `[ \t]` -/
def gapChars : CharSet := (CharSet.single ' ').union (.single '\t')

/-- `.` -/
def lineChars : CharSet := (CharSet.single '\n').compl

def flake8Parts : List Node :=
  [run 1 pathChars, char ':', run 2 digitChars, char ':', run 3 digitChars, char ':', char ' ',
    .group 4 (.cat (.set wordChars) (.loop true (.set digitChars))), char ' ', run 5 lineChars,
    .look (.lineEnd false)]

def flake8Node : Node := .anchored flake8Parts

/-- A colon and a number. -/
def colonNumber (index : Nat) : Node := perhaps (.cat (char ':') (run index digitChars))

def mdlParts : List Node :=
  [run 1 pathChars, colonNumber 2, colonNumber 3, char ' ', run 4 ruleChars, char '/',
    run 5 visibleChars, char ' ', run 6 lineChars, .look (.lineEnd false)]

def mdlNode : Node := .anchored mdlParts

/-- A number and a colon. -/
def numberColon (index : Nat) : Node := perhaps (.cat (run index digitChars) (char ':'))

/-- The end of a line of mypy: a gap, and an identifier in brackets. -/
def codeParts : List Node :=
  [(Node.set gapChars).repeated 0 none true,
    perhaps (.cat (.cat (char '[') (run 8 visibleChars)) (char ']')), .look (.lineEnd false)]

/-- The message of mypy is as short as what follows it allows. -/
def messageParts : List Node := .group 7 (.loop false (.set lineChars)) :: codeParts

def mypyParts : List Node :=
  [run 1 pathChars, char ':', numberColon 2, numberColon 3, numberColon 4, numberColon 5, char ' ',
    run 6 levelChars, char ':', char ' '] ++ messageParts

def mypyNode : Node := .anchored mypyParts

/-- The groups of flake8. -/
def flake8Names : List (String × Nat) :=
  [("msg", 5), ("id", 4), ("col", 3), ("line", 2), ("path", 1)]

/-- The groups of mdl. -/
def mdlNames : List (String × Nat) :=
  [("msg", 6), ("sym", 5), ("id", 4), ("col", 3), ("line", 2), ("path", 1)]

/-- The groups of mypy. -/
def mypyNames : List (String × Nat) :=
  [("id", 8), ("msg", 7), ("level", 6), ("ecol", 5), ("eline", 4), ("col", 3), ("line", 2),
    ("path", 1)]

set_option maxRecDepth 4000 in
theorem compile?_flake8 : compile? flake8Pattern = some ⟨flake8Node, flake8Names⟩ := by rfl

theorem compile?_mdl : compile? mdlPattern = some ⟨mdlNode, mdlNames⟩ := by rfl

set_option maxRecDepth 4000 in
theorem compile?_mypy : compile? mypyPattern = some ⟨mypyNode, mypyNames⟩ := by rfl

/-! ## Line by line -/

namespace LinePattern

variable {p : LinePattern} {line : List Char}

/-- The diagnostic that a single line stands for. -/
def readLine? (p : LinePattern) (line : List Char) : Option Diagnostic :=
  (p.pattern.node.trail? (.start line)).map p.diagnostic

/-- The pattern is matched line by line, and not in an empty line. -/
structure IsLinewise (p : LinePattern) : Prop where
  linewise : p.pattern.node.isLinewise = true
  readLine?_nil : p.readLine? [] = none

/-- Nothing but the texts of the groups shows in a diagnostic. -/
theorem diagnostic_congr {t t' : Trail} (h : t'.captured? = t.captured?) :
    p.diagnostic t' = p.diagnostic t := by
  unfold diagnostic field?
  rw [h]

theorem IsLinewise.read_eq (h : p.IsLinewise) (text : String) :
    p.read text = (text.toList.splitOn '\n').filterMap p.readLine? :=
  map_findAll_eq h.linewise fun _ _ => diagnostic_congr

theorem IsLinewise.read_line (h : p.IsLinewise) (hline : '\n' ∉ line) :
    p.read (String.ofList line) = (p.readLine? line).toList := by
  rw [h.read_eq, String.toList_ofList, List.splitOn_eq_singleton hline, List.filterMap_cons]
  cases p.readLine? line <;> rfl

/-- The diagnostics of lines with line feeds between them. -/
theorem IsLinewise.read_intercalate (h : p.IsLinewise) {lines : List (List Char)}
    (hlines : ∀ line ∈ lines, '\n' ∉ line) :
    p.read (String.ofList (['\n'].intercalate lines)) = lines.filterMap p.readLine? := by
  rw [h.read_eq, String.toList_ofList]
  by_cases hne : lines = []
  · rw [hne, List.intercalate_nil, List.splitOn_nil, List.filterMap_cons, h.readLine?_nil]
  · rw [List.splitOn_intercalate '\n' hlines hne]

theorem IsLinewise.filterMap_readLine? (h : p.IsLinewise) {lines : List (List Char)}
    (hlines : ∀ line ∈ lines, '\n' ∉ line) :
    lines.filterMap p.readLine? = lines.flatMap fun line => p.read (String.ofList line) := by
  induction lines with
  | nil => rfl
  | cons line lines ih =>
    obtain ⟨hline, hlines⟩ := List.forall_mem_cons.mp hlines
    rw [List.filterMap_cons, List.flatMap_cons, h.read_line hline, ← ih hlines]
    cases p.readLine? line <;> rfl

end LinePattern

/-- The pattern of a built-in line format. -/
def linePattern? : Format → Option LinePattern
  | .flake8 => some ⟨⟨flake8Node, flake8Names⟩, none⟩
  | .mdl => some ⟨⟨mdlNode, mdlNames⟩, none⟩
  | .mypy => some ⟨⟨mypyNode, mypyNames⟩, none⟩
  | .pylint | .sarif => none

section

variable {f : Format} {p : LinePattern}

theorem ofName_name (f : Format) : InputReader.ofName f.name = InputReader.ofFormat f := by
  cases f <;> rfl

theorem ofName_eq_lines (h : linePattern? f = some p) :
    InputReader.ofName f.name = .ok (.lines p) := by
  have hreader (pattern : String) (compiled : Compiled)
      (hcompile : compile? pattern = some compiled) :
      InputReader.ofPattern pattern none = .ok (.lines ⟨compiled, none⟩) := by
    rw [InputReader.ofPattern, LinePattern.ofText?, hcompile]
    rfl
  rw [ofName_name]
  cases f with
  | flake8 => cases h; exact hreader flake8Pattern _ compile?_flake8
  | mdl => cases h; exact hreader mdlPattern _ compile?_mdl
  | mypy => cases h; exact hreader mypyPattern _ compile?_mypy
  | pylint | sarif => cases h

/-- No pattern that starts with the path matches in an empty line. -/
theorem trail?_anchored_nil (parts : List Node) :
    (Node.anchored (run 1 pathChars :: parts)).trail? (.start []) = none := by
  rw [trail?_anchored]
  exact ((((fails_set stops_nil).loop true).group 1).cat _) _ _ rfl

theorem isLinewise_of_linePattern? (h : linePattern? f = some p) : p.IsLinewise := by
  have hempty (parts : List Node) (names : List (String × Nat)) :
      LinePattern.readLine? ⟨⟨.anchored (run 1 pathChars :: parts), names⟩, none⟩ [] = none :=
    congrArg (Option.map _) (trail?_anchored_nil parts)
  cases f with
  | flake8 => cases h; exact ⟨by decide, hempty _ _⟩
  | mdl => cases h; exact ⟨by decide, hempty _ _⟩
  | mypy => cases h; exact ⟨by decide, hempty _ _⟩
  | pylint | sarif => cases h

end

/-- A text has the diagnostics of its lines in their order, a line has at most one, and whatever
stands between other lines leaves theirs as they are. -/
structure LinePattern.ReadsByLine (p : LinePattern) : Prop where
  text : ∀ text : String,
    p.read text = (text.toList.splitOn '\n').flatMap fun line => p.read (String.ofList line)
  atMostOne : ∀ line : List Char, '\n' ∉ line → (p.read (String.ofList line)).length ≤ 1
  between : ∀ before between after : List (List Char),
    (∀ line ∈ before ++ between ++ after, '\n' ∉ line) →
      p.read (String.ofList (['\n'].intercalate (before ++ between ++ after))) =
        (before.flatMap fun line => p.read (String.ofList line)) ++
          (between.flatMap fun line => p.read (String.ofList line)) ++
          after.flatMap fun line => p.read (String.ofList line)

theorem LinePattern.IsLinewise.readsByLine {p : LinePattern} (h : p.IsLinewise) :
    p.ReadsByLine where
  text text := by
    have hlines : ∀ line ∈ text.toList.splitOn '\n', '\n' ∉ line := fun line hline =>
      (List.subset_and_notMem_of_mem_splitOn hline).2
    rw [h.read_eq, h.filterMap_readLine? hlines]
  atMostOne line hline := by
    rw [h.read_line hline]
    exact Option.length_toList_le
  between before between after hlines := by
    rw [h.read_intercalate hlines, h.filterMap_readLine? hlines, List.flatMap_append,
      List.flatMap_append]

/-- **The built-in line formats are read line by line.** -/
theorem lines_readsByLine (f : Format) (hf : f ∈ [.flake8, .mdl, .mypy]) :
    ∃ p : LinePattern, InputReader.ofName f.name = .ok (.lines p) ∧ p.ReadsByLine := by
  obtain ⟨p, hp⟩ : ∃ p, linePattern? f = some p := by
    fin_cases hf <;> exact ⟨_, rfl⟩
  exact ⟨p, ofName_eq_lines hp, (isLinewise_of_linePattern? hp).readsByLine⟩

theorem lines_readsByLine_mypy :
    Format.mypy ∈ [Format.flake8, .mdl, .mypy] ∧
      ∃ p : LinePattern, InputReader.ofName "mypy" = .ok (.lines p) ∧ p.ReadsByLine := by
  have hf : Format.mypy ∈ [Format.flake8, .mdl, .mypy] := by decide
  exact ⟨hf, lines_readsByLine .mypy hf⟩

end LintReview.Format

import LintReview.Proofs.Text.Infix
import LintReview.Summary

/-! The table of a summary as Markdown reads it. A line of Markdown ends at a line feed, at a
carriage return, or at both in this order (`markdownLines`). The row of a diagnostic has five pipes
that are not escaped and no line feed, but it keeps a carriage return that no line feed follows.
**So each diagnostic has one line of the table just if its cells hold no such carriage return, and
else its row is broken there** (`render_rows`). -/

namespace LintReview.Summary

/-- The lines of a Markdown text. -/
def markdownLines : List Char → List (List Char)
  | [] => []
  | '\r' :: '\n' :: rest => [] :: markdownLines rest
  | c :: rest =>
    if c = '\n' ∨ c = '\r' then [] :: markdownLines rest
    else
      match markdownLines rest with
      | [] => [[c]]
      | line :: lines => (c :: line) :: lines

/-- How many pipes are not directly preceded by a backslash, where `before` stands in front. -/
def barePipes (before : Char) : List Char → Nat
  | [] => 0
  | c :: rest => (if c = '|' ∧ before ≠ '\\' then 1 else 0) + barePipes c rest

/-- Some carriage return is not directly followed by a line feed. -/
def HasLoneReturn (s : List Char) : Prop :=
  ∃ before after, s = before ++ '\r' :: after ∧ after.head? ≠ some '\n'

variable {before c : Char} {s t rest : List Char} {d : Diagnostic} {analysisRoot cwd : String}

/-! ## Cells -/

theorem feed_notMem_cell (s : List Char) : '\n' ∉ cell s := by
  fun_induction cell s with
  | case1 => exact List.not_mem_nil
  | case2 rest ih => simpa using ih
  | case3 rest ih => simpa using ih
  | case4 rest ih => simpa using ih
  | case5 c rest _ _ hfeed ih =>
    rw [List.mem_cons, not_or]
    exact ⟨fun h => hfeed h.symm, ih⟩

/-- Every pipe of a cell is escaped. -/
theorem barePipes_cell (before : Char) (s : List Char) : barePipes before (cell s) = 0 := by
  fun_induction cell s generalizing before with
  | case1 => rfl
  | case2 rest ih => simp [barePipes, ih]
  | case3 rest ih => simp [barePipes, ih]
  | case4 rest ih => simp [barePipes, ih]
  | case5 c rest hpipe _ _ ih => rw [barePipes, if_neg fun h => hpipe h.1, ih]

/-! ## Carriage returns -/

theorem not_hasLoneReturn_nil : ¬HasLoneReturn [] := by
  rintro ⟨before, after, heq, -⟩
  cases before <;> cases heq

theorem HasLoneReturn.cons (h : HasLoneReturn s) : HasLoneReturn (c :: s) := by
  obtain ⟨before, after, rfl, hafter⟩ := h
  exact ⟨c :: before, after, rfl, hafter⟩

/-- The first character makes no difference unless it is a carriage return without a line feed. -/
theorem hasLoneReturn_cons (h : c = '\r' → s.head? = some '\n') :
    HasLoneReturn (c :: s) ↔ HasLoneReturn s := by
  refine ⟨?_, HasLoneReturn.cons⟩
  rintro ⟨before, after, heq, hafter⟩
  cases before with
  | nil =>
    obtain ⟨rfl, rfl⟩ := List.cons.inj heq
    exact absurd (h rfl) hafter
  | cons first before => exact ⟨before, after, (List.cons.inj heq).2, hafter⟩

theorem hasLoneReturn_cons_of_ne (hc : c ≠ '\r') : HasLoneReturn (c :: s) ↔ HasLoneReturn s :=
  hasLoneReturn_cons fun h => absurd h hc

/-- A cell keeps just the carriage returns that no line feed follows. -/
theorem return_mem_cell (s : List Char) : '\r' ∈ cell s ↔ HasLoneReturn s := by
  fun_induction cell s with
  | case1 => exact iff_of_false List.not_mem_nil not_hasLoneReturn_nil
  | case2 rest ih =>
    rw [hasLoneReturn_cons_of_ne (by decide), ← ih]
    simp
  | case3 rest ih =>
    rw [hasLoneReturn_cons fun _ => rfl, hasLoneReturn_cons_of_ne (by decide), ← ih]
    simp
  | case4 rest ih =>
    rw [hasLoneReturn_cons_of_ne (by decide), ← ih]
    simp
  | case5 c rest _ hreturn _ ih =>
    by_cases hc : c = '\r'
    · refine iff_of_true (hc ▸ List.mem_cons_self) ⟨[], rest, by rw [hc, List.nil_append], ?_⟩
      intro hfeed
      obtain ⟨after, rfl⟩ := List.head?_eq_some_iff.mp hfeed
      exact hreturn after hc rfl
    · rw [hasLoneReturn_cons_of_ne hc, ← ih, List.mem_cons,
        or_iff_right (Ne.symm hc)]

/-! ## Rows -/

theorem barePipes_append (before : Char) (s t : List Char) :
    barePipes before (s ++ t) = barePipes before s + barePipes (s.getLast?.getD before) t := by
  induction s generalizing before with
  | nil => simp [barePipes]
  | cons c s ih =>
    rw [List.cons_append, barePipes, barePipes, ih, Nat.add_assoc, List.getLast?_cons]
    rfl

/-- A cell with its frame has one bare pipe, which stands in front of it. -/
theorem barePipes_framed (hbefore : before ≠ '\\') :
    barePipes before ("| ".toList ++ cell s ++ [' '] ++ t) = barePipes ' ' t + 1 := by
  have hframe : "| ".toList ++ cell s ++ [' '] ++ t = '|' :: ' ' :: (cell s ++ ' ' :: t) := by
    simp
  have hpipe : ¬(' ' = '|' ∧ '|' ≠ '\\') := by decide
  have hblank (c : Char) : ¬(' ' = '|' ∧ c ≠ '\\') := fun h => absurd h.1 (by decide)
  rw [hframe, barePipes, if_pos ⟨rfl, hbefore⟩, barePipes, if_neg hpipe, barePipes_append,
    barePipes_cell, barePipes, if_neg (hblank _)]
  omega

theorem barePipes_cells (texts : List (List Char)) (hbefore : before ≠ '\\') :
    barePipes before (texts.flatMap (fun text => "| ".toList ++ cell text ++ [' ']) ++ ['|']) =
      texts.length + 1 := by
  induction texts generalizing before with
  | nil => simp [barePipes, hbefore]
  | cons text texts ih =>
    rw [List.flatMap_cons, List.append_assoc, barePipes_framed hbefore, ih (by decide),
      List.length_cons]

/-- A row has a pipe in front of each of its cells and one at its end. -/
theorem barePipes_row (d : Diagnostic) (analysisRoot cwd : String) :
    barePipes '\n' (row d analysisRoot cwd) = 5 :=
  barePipes_cells (cells d analysisRoot cwd) (by decide)

theorem feed_notMem_row (d : Diagnostic) (analysisRoot cwd : String) :
    '\n' ∉ row d analysisRoot cwd := by
  intro h
  rcases List.mem_append.mp h with h | h
  · obtain ⟨text, -, hmem⟩ := List.mem_flatMap.mp h
    simp [feed_notMem_cell] at hmem
  · cases List.mem_singleton.mp h

theorem return_mem_row :
    '\r' ∈ row d analysisRoot cwd ↔ ∃ text ∈ cells d analysisRoot cwd, HasLoneReturn text := by
  simp [row, return_mem_cell]

/-! ## Lines -/

theorem markdownLines_cons_of_ne (hfeed : c ≠ '\n') (hreturn : c ≠ '\r') :
    markdownLines (c :: s) =
      match markdownLines s with
      | [] => [[c]]
      | line :: lines => (c :: line) :: lines := by
  rw [markdownLines]
  · rw [if_neg (not_or.mpr ⟨hfeed, hreturn⟩)]
  · exact fun _ h => absurd h hreturn

theorem markdownLines_return (h : s.head? ≠ some '\n') :
    markdownLines ('\r' :: s) = [] :: markdownLines s := by
  rw [markdownLines]
  · rw [if_pos (.inr rfl)]
  · rintro rest - rfl
    exact h rfl

/-- A text without line feeds that one ends is broken at its carriage returns. -/
theorem markdownLines_append_feed (hfeed : '\n' ∉ s) (hlast : s.getLast? ≠ some '\r') :
    markdownLines (s ++ '\n' :: rest) = s.splitOn '\r' ++ markdownLines rest := by
  induction s with
  | nil => rfl
  | cons c s ih =>
    obtain ⟨hc, hs⟩ := not_or.mp (List.mem_cons.not.mp hfeed)
    by_cases hreturn : c = '\r'
    · subst hreturn
      cases s with
      | nil => exact absurd rfl hlast
      | cons next s =>
        have hnext : (next :: s ++ '\n' :: rest).head? ≠ some '\n' := by
          intro h
          obtain rfl : next = '\n' := Option.some.inj h
          exact hs List.mem_cons_self
        rw [List.cons_append, markdownLines_return hnext, ih hs hlast]
        simp [List.splitOn_cons_eq_if_modifyHead]
    · have hlast' : s.getLast? ≠ some '\r' := by
        cases s with
        | nil => exact nofun
        | cons next s => exact hlast
      obtain ⟨first, others, hpieces⟩ := List.exists_cons_of_ne_nil (List.splitOn_ne_nil '\r' s)
      rw [List.cons_append, markdownLines_cons_of_ne (Ne.symm hc) hreturn, ih hs hlast',
        List.splitOn_cons_eq_if_modifyHead, if_neg (by simpa using hreturn), hpieces]
      rfl

theorem markdownLines_rows (ds : List Diagnostic) (analysisRoot cwd : String) :
    markdownLines (ds.flatMap fun d => row d analysisRoot cwd ++ ['\n']) =
      ds.flatMap fun d => (row d analysisRoot cwd).splitOn '\r' := by
  induction ds with
  | nil => rfl
  | cons d ds ih =>
    have hlast : (row d analysisRoot cwd).getLast? ≠ some '\r' := by
      rw [row, List.getLast?_concat]
      decide
    rw [List.flatMap_cons, List.flatMap_cons, List.append_assoc, List.singleton_append,
      markdownLines_append_feed (feed_notMem_row d analysisRoot cwd) hlast, ih]

/-- The rows are left whole just if no carriage return is left in one. -/
theorem flatMap_splitOn_eq_map_iff {α : Type} {xs : List α} {f : α → List Char} :
    (xs.flatMap fun x => (f x).splitOn c) = xs.map f ↔ ∀ x ∈ xs, c ∉ f x := by
  constructor
  · intro h x hx hmem
    have hpiece : f x ∈ xs.flatMap fun x => (f x).splitOn c := h ▸ List.mem_map_of_mem hx
    obtain ⟨y, -, hsplit⟩ := List.mem_flatMap.mp hpiece
    exact (List.subset_and_notMem_of_mem_splitOn hsplit).2 hmem
  · intro h
    induction xs with
    | nil => rfl
    | cons x xs ih =>
      obtain ⟨hx, hxs⟩ := List.forall_mem_cons.mp h
      rw [List.flatMap_cons, List.splitOn_eq_singleton hx, ih hxs]
      rfl

theorem toList_render (ds : List Diagnostic) (toolName analysisRoot cwd : String) (hne : ds ≠ []) :
    (render ds toolName analysisRoot cwd).toList =
      head toolName ds ++ ds.flatMap fun d => row d analysisRoot cwd ++ ['\n'] := by
  rw [render, List.isEmpty_eq_false_iff.mpr hne]
  exact String.toList_ofList

/-- **Each diagnostic has one row**, with five pipes that are not escaped. Behind the head of the
table, which ends with its delimiter line, Markdown reads the rows in order, broken at the carriage
returns that they keep; these are whole lines just if no cell has a carriage return that no line
feed follows. -/
theorem render_rows (ds : List Diagnostic) (toolName analysisRoot cwd : String) (hne : ds ≠ []) :
    ∃ table, (render ds toolName analysisRoot cwd).toList = head toolName ds ++ table ∧
      markdownLines table = ds.flatMap (fun d => (row d analysisRoot cwd).splitOn '\r') ∧
      (markdownLines table = ds.map (fun d => row d analysisRoot cwd) ↔
        ∀ d ∈ ds, ∀ text ∈ cells d analysisRoot cwd, ¬HasLoneReturn text) ∧
      ∀ d ∈ ds, barePipes '\n' (row d analysisRoot cwd) = 5 := by
  refine ⟨_, toList_render ds toolName analysisRoot cwd hne, markdownLines_rows ds analysisRoot cwd,
    ?_, fun d _ => barePipes_row d analysisRoot cwd⟩
  rw [markdownLines_rows, flatMap_splitOn_eq_map_iff]
  simp only [return_mem_row, not_exists, not_and]

/-- Line breaks in a path and a message, pipes with and without a backslash in front of them, and a
backslash at the end of a cell. -/
def piped : List Diagnostic :=
  [{ id := some "E|1", msg := some "a\\|b\r\nc\\", path := some "x\n.py", line := some 3 },
    { sym := some "bare", level := some .note }]

theorem render_rows_piped :
    piped ≠ [] ∧ ∃ table,
      (render piped "lint" "." "/").toList = head "lint" piped ++ table ∧
        markdownLines table =
          ["| - | x<br>.py:3 | E\\|1 | a\\\\|b<br>c\\ |".toList, "| note | - | bare |  |".toList] ∧
        ∀ d ∈ piped, barePipes '\n' (row d "." "/") = 5 := by
  have hne : piped ≠ [] := by decide
  obtain ⟨table, htext, hlines, -, hpipes⟩ := render_rows piped "lint" "." "/" hne
  refine ⟨hne, table, htext, ?_, hpipes⟩
  rw [hlines]
  decide

/-- A carriage return alone breaks the row of its diagnostic in two. -/
theorem render_loneReturn :
    (render [{ msg := some "a\rb" }] "lint" "." "/").toList =
        head "lint" [{ msg := some "a\rb" }] ++ "| - | - | - | a\rb |\n".toList ∧
      markdownLines "| - | - | - | a\rb |\n".toList =
        ["| - | - | - | a".toList, "b |".toList] := by
  refine ⟨?_, by decide⟩
  rw [toList_render _ _ _ _ (List.cons_ne_nil _ _)]
  exact congrArg _ (by decide)

end LintReview.Summary

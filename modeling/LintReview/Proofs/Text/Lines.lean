import LintReview.Text.Lines

/-! The lines of a text. `Lined text ls` says that the text is made of the lines `ls`, each ended by
a line feed or by a carriage return and a line feed, the last one possibly by the end of the text.
**`lines` finds exactly these lines** (`lines_eq_iff`). -/

namespace LintReview.Text

/-- The text is made of these lines. A carriage return belongs to the line feed after it. -/
inductive Lined : List Char → List (List Char) → Prop
  | nil : Lined [] []
  | unended : line ≠ [] → '\n' ∉ line → Lined line [line]
  | feed : '\n' ∉ line → line.getLast? ≠ some '\r' → Lined text ls →
    Lined (line ++ '\n' :: text) (line :: ls)
  | returnFeed : '\n' ∉ line → Lined text ls → Lined (line ++ '\r' :: '\n' :: text) (line :: ls)

@[simp] theorem dropReturn_concat (line : List Char) : dropReturn (line ++ ['\r']) = line := by
  simp [dropReturn]

theorem dropReturn_eq_self {line : List Char} (h : line.getLast? ≠ some '\r') :
    dropReturn line = line := by
  unfold dropReturn
  split
  · next rest heq => simp [List.getLast?_eq_head?_reverse, heq] at h
  · rfl

theorem lines_of_not_mem {line : List Char} (hne : line ≠ []) (h : '\n' ∉ line) :
    lines line = [line] := by
  simp [lines, List.splitOn_eq_singleton h, hne]

theorem lines_append_cons {line text : List Char} (h : '\n' ∉ line) :
    lines (line ++ '\n' :: text) = dropReturn line :: lines text := by
  have hsplit : (line ++ '\n' :: text).splitOn '\n' = line :: text.splitOn '\n' :=
    List.splitOn_append_cons_self_of_not_mem h text
  have hne : text.splitOn '\n' ≠ [] := List.splitOn_ne_nil '\n' text
  unfold lines
  rw [hsplit]
  simp only [List.dropLast_cons_of_ne_nil hne, List.getLast?_cons_of_ne_nil hne, List.map_cons,
    List.cons_append]

theorem lined_lines (text : List Char) : Lined text (lines text) := by
  by_cases hmem : '\n' ∈ text
  · obtain ⟨line, rest, heq, hline⟩ := List.eq_append_cons_of_mem hmem
    have hlt : rest.length < text.length := by
      rw [heq, List.length_append, List.length_cons]
      omega
    have ih := lined_lines rest
    subst heq
    rw [lines_append_cons hline]
    by_cases hlast : line.getLast? = some '\r'
    · obtain ⟨body, rfl⟩ := List.getLast?_eq_some_iff.mp hlast
      rw [dropReturn_concat, List.append_assoc]
      exact .returnFeed (fun h => hline (List.mem_append_left _ h)) ih
    · rw [dropReturn_eq_self hlast]
      exact .feed hline hlast ih
  · by_cases hne : text = []
    · subst hne
      exact .nil
    · rw [lines_of_not_mem hne hmem]
      exact .unended hne hmem
termination_by text.length
decreasing_by exact hlt

theorem Lined.lines_eq {text : List Char} {ls : List (List Char)} (h : Lined text ls) :
    lines text = ls := by
  induction h with
  | nil => rfl
  | unended hne hmem => exact lines_of_not_mem hne hmem
  | feed hmem hlast _ ih => rw [lines_append_cons hmem, dropReturn_eq_self hlast, ih]
  | @returnFeed line text ls hmem _ ih =>
    have hconcat : '\n' ∉ line ++ ['\r'] := by simp [hmem]
    have heq : line ++ '\r' :: '\n' :: text = (line ++ ['\r']) ++ '\n' :: text := by simp
    rw [heq, lines_append_cons hconcat, dropReturn_concat, ih]

/-- **The lines of a text are those that it is made of.** -/
theorem lines_eq_iff {text : List Char} {ls : List (List Char)} : lines text = ls ↔ Lined text ls :=
  ⟨fun h => h ▸ lined_lines text, Lined.lines_eq⟩

end LintReview.Text

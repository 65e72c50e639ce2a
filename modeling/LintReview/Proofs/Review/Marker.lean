import LintReview.Proofs.Review.Selection
import LintReview.Proofs.Text.Infix
import LintReview.Review.Host

/-! The markers in the body of a comment. A marker starts like a comment in HTML, and nothing else
in a body does, as long as the identifier is without angle brackets and the texts of the diagnostic
without such a start. **A body then carries the marker of its own tool and that of no other one**
(`marker_infix_commentBody_iff`), even where one identifier begins with the other. -/

namespace LintReview.Review

/-- How a marker starts. -/
def opening : List Char := ['<', '!', '-', '-']

/-- An identifier without angle brackets. -/
def IsUnbracketed (identifier : String) : Prop :=
  '<' ∉ identifier.toList ∧ '>' ∉ identifier.toList

/-- A diagnostic in whose message, rule and symbol no marker can start. -/
def IsMarkerFree (d : Diagnostic) : Prop :=
  ∀ text, d.msg = some text ∨ d.id = some text ∨ d.sym = some text → ¬opening <:+: text.toList

section

variable {d : Diagnostic} {identifier other : String}

theorem toList_marker (identifier : String) :
    (marker identifier).toList =
      "<!-- lintbridge:".toList ++ (identifier.toList ++ " -->".toList) := by
  unfold marker
  rw [String.toList_append, String.toList_append, List.append_assoc]

theorem opening_infix_marker (identifier : String) : opening <:+: (marker identifier).toList := by
  have hstart : opening <:+: "<!-- lintbridge:".toList := ⟨[], " lintbridge:".toList, rfl⟩
  rw [toList_marker]
  exact hstart.trans (List.prefix_append ..).isInfix

/-- What stands in a body after the marker and the line feed. -/
theorem exists_toList_commentBody (d : Diagnostic) (identifier : String) :
    ∃ ending, (commentBody d identifier).toList =
        (marker identifier).toList ++ '\n' :: ((d.msg.getD "").toList ++ ending) ∧
      (ending = [] ∨ ending = '[' :: trailer d identifier ++ [']'] ∨
        ending = ' ' :: '[' :: trailer d identifier ++ [']']) := by
  unfold commentBody
  simp only [String.toList_ofList, List.append_assoc, List.cons_append]
  refine ⟨_, rfl, ?_⟩
  split
  · exact .inl rfl
  · split
    · exact .inr (.inl rfl)
    · exact .inr (.inr rfl)

theorem opening_not_infix_of_notMem {s : List Char} (h : '<' ∉ s) : ¬opening <:+: s :=
  fun hfound => h (hfound.subset List.mem_cons_self)

theorem opening_not_infix_word (l : Level) : ¬opening <:+: l.word.toList := by
  apply opening_not_infix_of_notMem
  cases l <;> decide

theorem opening_not_infix_trailer (hidentifier : IsUnbracketed identifier) (hd : IsMarkerFree d) :
    ¬opening <:+: trailer d identifier := by
  intro h
  unfold trailer at h
  obtain ⟨part, hpart, hinfix⟩ :=
    List.exists_infix_of_intercalate (by decide) (by decide) h
  obtain ⟨text, htext, rfl⟩ := List.mem_map.mp hpart
  have hmem := List.mem_of_mem_filter htext
  simp only [List.mem_filterMap, List.mem_cons, List.not_mem_nil, or_false, id_eq] at hmem
  obtain ⟨_, hlevel | rfl | hid | hsym, heq⟩ := hmem
  · subst heq
    obtain ⟨level, -, rfl⟩ := Option.map_eq_some_iff.mp hlevel.symm
    exact opening_not_infix_word level hinfix
  · cases heq
    exact opening_not_infix_of_notMem hidentifier.1 hinfix
  · exact hd text (.inr (.inl (hid.symm.trans heq))) hinfix
  · exact hd text (.inr (.inr (hsym.symm.trans heq))) hinfix

/-- No marker starts behind the one that a body starts with. -/
theorem opening_not_infix_rest (hidentifier : IsUnbracketed identifier) (hd : IsMarkerFree d)
    {ending : List Char}
    (hending : ending = [] ∨ ending = '[' :: trailer d identifier ++ [']'] ∨
      ending = ' ' :: '[' :: trailer d identifier ++ [']']) :
    ¬opening <:+: (d.msg.getD "").toList ++ ending := by
  have hmsg : ¬opening <:+: (d.msg.getD "").toList := by
    cases hmsg : d.msg with
    | none => decide
    | some text => exact hd text (.inl hmsg)
  have hbracket : ¬opening <:+: trailer d identifier ++ [']'] := by
    intro h
    rcases List.infix_or_infix_of_append_cons (by decide) h with h | h
    · exact opening_not_infix_trailer hidentifier hd h
    · exact absurd (List.eq_nil_of_infix_nil h) (by decide)
  intro h
  rcases hending with rfl | rfl | rfl
  · rw [List.append_nil] at h
    exact hmsg h
  · rcases List.infix_or_infix_of_append_cons (by decide) h with h | h
    · exact hmsg h
    · exact hbracket h
  · rcases List.infix_or_infix_of_append_cons (by decide) h with h | h
    · exact hmsg h
    · rcases List.infix_or_infix_of_append_cons (s := []) (by decide) h with h | h
      · exact absurd (List.eq_nil_of_infix_nil h) (by decide)
      · exact hbracket h

/-- The marker of another tool does not start a body: the first closing bracket ends the identifier
in both markers. -/
theorem eq_of_marker_prefix (hidentifier : IsUnbracketed identifier) (hother : IsUnbracketed other)
    {rest : List Char} (h : (marker other).toList <+: (marker identifier).toList ++ rest) :
    other = identifier := by
  obtain ⟨tail, heq⟩ := h
  have hmarker : ∀ name tail, (marker name).toList ++ tail =
      "<!-- lintbridge:".toList ++ ((name.toList ++ " --".toList) ++ '>' :: tail) := by
    intro name tail
    have hclosing : " -->".toList = " --".toList ++ ['>'] := rfl
    rw [toList_marker, hclosing]
    simp only [List.append_assoc, List.singleton_append]
  have hname : ∀ {name}, IsUnbracketed name → '>' ∉ name.toList ++ " --".toList := by
    intro name hname hmem
    rcases List.mem_append.mp hmem with hmem | hmem
    · exact hname.2 hmem
    · exact absurd hmem (by decide)
  rw [hmarker, hmarker] at heq
  have hsplit := congrArg (List.splitOn '>') (List.append_cancel_left heq)
  rw [List.splitOn_append_cons_self_of_not_mem (hname hother),
    List.splitOn_append_cons_self_of_not_mem (hname hidentifier)] at hsplit
  exact String.toList_inj.mp (List.append_cancel_right (List.cons.inj hsplit).1)

/-- **A body carries the marker of its own tool and that of no other one.** -/
theorem marker_infix_commentBody_iff (hidentifier : IsUnbracketed identifier)
    (hother : IsUnbracketed other) (hd : IsMarkerFree d) :
    (marker other).toList <:+: (commentBody d identifier).toList ↔ other = identifier := by
  obtain ⟨ending, hbody, hending⟩ := exists_toList_commentBody d identifier
  rw [hbody]
  constructor
  · intro h
    have hstart : (marker identifier).toList =
        '<' :: ("!-- lintbridge:".toList ++ (identifier.toList ++ " -->".toList)) := by
      rw [toList_marker]
      rfl
    rw [hstart, List.cons_append, List.infix_cons_iff] at h
    rcases h with h | h
    · rw [← List.cons_append, ← hstart] at h
      exact eq_of_marker_prefix hidentifier hother h
    · -- A marker further behind would start in the rest of this one or after its line.
      have hopening := (opening_infix_marker other).trans h
      rcases List.infix_or_infix_of_append_cons (by decide) hopening with h | h
      · refine absurd h (opening_not_infix_of_notMem ?_)
        intro hmem
        rcases List.mem_append.mp hmem with hmem | hmem
        · exact absurd hmem (by decide)
        · rcases List.mem_append.mp hmem with hmem | hmem
          · exact hidentifier.1 hmem
          · exact absurd hmem (by decide)
      · exact absurd h (opening_not_infix_rest hidentifier hd hending)
  · rintro rfl
    exact (List.prefix_append ..).isInfix

end

end LintReview.Review

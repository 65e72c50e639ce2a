import Mathlib.Data.List.Basic

/-! Parts of a text that has been put together. **A part in which a separator does not occur lies
to one side of it** (`List.infix_or_infix_of_append_cons`), and so within one piece of a joined text
(`List.exists_infix_of_intercalate`). The pieces of a text that is split are such parts
(`List.subset_and_notMem_of_mem_splitOn`). -/

theorem List.infix_or_infix_of_append_cons {p s t : List α} {c : α} (hc : c ∉ p)
    (h : p <:+: s ++ c :: t) : p <:+: s ∨ p <:+: t := by
  obtain ⟨before, after, heq⟩ := h
  rcases List.append_eq_append_iff.mp heq with ⟨mid, rfl, -⟩ | ⟨mid, hleft, hright⟩
  · exact .inl ⟨before, mid, rfl⟩
  · cases mid with
    | nil =>
      rw [List.append_nil] at hleft
      exact .inl ⟨before, [], by rw [List.append_nil, hleft]⟩
    | cons d mid =>
      obtain ⟨rfl, rfl⟩ := List.cons.inj hright
      rcases List.append_eq_append_iff.mp hleft with ⟨tail, -, rfl⟩ | ⟨tail, -, htail⟩
      · exact absurd (List.mem_append_right _ List.mem_cons_self) hc
      · cases tail with
        | nil =>
          rw [List.nil_append] at htail
          exact absurd (htail ▸ List.mem_cons_self) hc
        | cons d tail =>
          obtain ⟨rfl, rfl⟩ := List.cons.inj htail
          exact .inr ⟨tail, after, rfl⟩

theorem List.exists_infix_of_intercalate {p : List α} {c : α} {parts : List (List α)}
    (hne : p ≠ []) (hc : c ∉ p) (h : p <:+: [c].intercalate parts) :
    ∃ part ∈ parts, p <:+: part := by
  induction parts with
  | nil => exact absurd (List.eq_nil_of_infix_nil h) hne
  | cons part parts ih =>
    cases parts with
    | nil =>
      rw [List.intercalate_singleton] at h
      exact ⟨part, List.mem_cons_self, h⟩
    | cons next parts =>
      rw [List.intercalate_cons_cons, List.append_assoc, List.singleton_append] at h
      rcases List.infix_or_infix_of_append_cons hc h with h | h
      · exact ⟨part, List.mem_cons_self, h⟩
      · obtain ⟨other, hother, hinfix⟩ := ih h
        exact ⟨other, List.mem_cons_of_mem _ hother, hinfix⟩

theorem List.subset_and_notMem_of_mem_splitOn [BEq α] [LawfulBEq α] {c : α} {s piece : List α}
    (h : piece ∈ s.splitOn c) : piece ⊆ s ∧ c ∉ piece := by
  induction s generalizing piece with
  | nil =>
    rw [List.splitOn_nil, List.mem_singleton] at h
    cases h
    exact ⟨List.nil_subset _, List.not_mem_nil⟩
  | cons x s ih =>
    rw [List.splitOn_cons_eq_if_modifyHead] at h
    split at h
    · rcases List.mem_cons.mp h with rfl | h
      · exact ⟨List.nil_subset _, List.not_mem_nil⟩
      · exact (ih h).imp_left (List.subset_cons_of_subset x)
    · next hx =>
      obtain ⟨first, others, hpieces⟩ := List.exists_cons_of_ne_nil (List.splitOn_ne_nil c s)
      rw [hpieces] at ih h
      rcases List.mem_cons.mp h with rfl | h
      · obtain ⟨hsub, hnot⟩ := ih List.mem_cons_self
        refine ⟨List.cons_subset_cons x hsub, fun hmem => ?_⟩
        rcases List.mem_cons.mp hmem with rfl | hmem
        · exact hx (beq_self_eq_true c)
        · exact hnot hmem
      · exact (ih (List.mem_cons_of_mem _ h)).imp_left (List.subset_cons_of_subset x)

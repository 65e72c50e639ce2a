import Mathlib.Data.List.Forall2

/-! Lists that are read or compared item by item. -/

namespace List

variable {α β : Type} {f : α → Option β} {R : α → β → Prop} {xs : List α} {ys : List β}

/-- A list is read as a whole if each of its items is. -/
theorem mapM_eq_some_iff_forall₂ :
    xs.mapM f = some ys ↔ Forall₂ (fun x y => f x = some y) xs ys := by
  induction xs generalizing ys with
  | nil =>
    rw [mapM_nil, forall₂_nil_left_iff]
    exact Option.some_inj.trans eq_comm
  | cons x xs ih =>
    rw [mapM_cons, forall₂_cons_left_iff]
    simp only [Option.bind_eq_bind, Option.bind_eq_some_iff, Option.pure_def, Option.some.injEq, ih]
    constructor
    · rintro ⟨y, hy, ys, hys, rfl⟩
      exact ⟨y, ys, hy, hys, rfl⟩
    · rintro ⟨y, ys, hy, hys, rfl⟩
      exact ⟨y, hy, ys, hys, rfl⟩

theorem exists_forall₂_iff : (∃ ys, Forall₂ R xs ys) ↔ ∀ x ∈ xs, ∃ y, R x y := by
  induction xs with
  | nil => exact ⟨fun _ => forall_mem_nil _, fun _ => ⟨[], .nil⟩⟩
  | cons x xs ih =>
    rw [forall_mem_cons, ← ih]
    constructor
    · rintro ⟨_, _ | ⟨hy, hys⟩⟩
      exact ⟨⟨_, hy⟩, _, hys⟩
    · rintro ⟨⟨y, hy⟩, ys, hys⟩
      exact ⟨y :: ys, .cons hy hys⟩

/-- Lists that are the same but for one position. -/
theorem exists_append_cons_of_getElem? {xs xs' : List α} {i : Nat} {x x' : α}
    (hx : xs[i]? = some x) (hx' : xs'[i]? = some x') (h : ∀ k, k ≠ i → xs[k]? = xs'[k]?) :
    ∃ before after, xs = before ++ x :: after ∧ xs' = before ++ x' :: after ∧
      before.length = i := by
  induction i generalizing xs xs' with
  | zero =>
    obtain ⟨after, rfl⟩ := head?_eq_some_iff.mp (head?_eq_getElem?.trans hx)
    obtain ⟨after', rfl⟩ := head?_eq_some_iff.mp (head?_eq_getElem?.trans hx')
    have hafter : after = after' := ext_getElem? fun k => h (k + 1) k.succ_ne_zero
    subst hafter
    exact ⟨[], after, rfl, rfl, rfl⟩
  | succ i ih =>
    cases xs with
    | nil => cases hx
    | cons first xs =>
      cases xs' with
      | nil => cases hx'
      | cons first' xs' =>
        have hfirst : first = first' := Option.some.inj (h 0 i.succ_ne_zero.symm)
        subst hfirst
        obtain ⟨before, after, rfl, rfl, rfl⟩ :=
          ih hx hx' fun k hk => h (k + 1) fun heq => hk (Nat.succ.inj heq)
        exact ⟨first :: before, after, rfl, rfl, rfl⟩

end List

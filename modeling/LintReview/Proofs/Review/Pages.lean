import LintReview.Proofs.MachineWords
import LintReview.Proofs.Review.Trace

/-! Pages that are counted in 32 bits. `deleteMarkedWords` is `deleteMarked` with a machine word for
the page, and has no outcome if the word cannot count on. **Both agree in every monad while the
allowed listings do not lead beyond the greatest word** (`deleteMarkedWords_of_lt`), **and with any
number of listings unless the host says that a page follows the one with the greatest number**
(`deleteMarkedWords_run`). -/

namespace LintReview.Review

variable {m : Type → Type} [Monad m]

/-- Deletes the marked comments from a page on. There is no outcome if a page has no number. -/
def deleteMarkedWords (host : Host m) (marker : String) :
    (listings : Nat) → (page : UInt32) → (deleted : List UInt64) → m (Option (Outcome Nat))
  | 0, _, _ => pure (some .unfinished)
  | listings + 1, page, deleted => do
    match ← host.list page.toNat with
    | .error e => pure (some (.failed (.call e)))
    | .ok listing =>
      match ← deleteListed host marker listing.comments deleted with
      | .error e => pure (some (.failed (.call e)))
      | .ok now =>
        if now.length ≠ deleted.length then deleteMarkedWords host marker listings page now
        else if listing.hasNext then
          match add? page 1 with
          | none => pure none
          | some next => deleteMarkedWords host marker listings next now
        else pure (some (.done now.length))

/-- Each listing leads to the next page at most. -/
theorem deleteMarkedWords_of_lt [LawfulMonad m] {host : Host m} {marker : String} {listings : Nat}
    {page : UInt32} {deleted : List UInt64} (h : page.toNat + listings < UInt32.size) :
    deleteMarkedWords host marker listings page deleted =
      some <$> deleteMarked host marker listings page.toNat deleted := by
  induction listings generalizing page deleted with
  | zero => exact (map_pure _ _).symm
  | succ listings ih =>
    have hsame : page.toNat + listings < UInt32.size := by omega
    have hfits : page.toNat + 1 < UInt32.size := by omega
    have hnext : (page + 1).toNat + listings < UInt32.size := by
      rw [toNat_add_one hfits]
      omega
    unfold deleteMarkedWords deleteMarked
    rw [map_bind]
    apply bind_congr
    intro answer
    cases answer with
    | error e => exact (map_pure _ _).symm
    | ok listing =>
      dsimp only
      rw [map_bind]
      apply bind_congr
      intro result
      cases result with
      | error e => exact (map_pure _ _).symm
      | ok now =>
        dsimp only
        rw [add?_one hfits, ← toNat_add_one hfits]
        split
        · exact ih hsame
        · split
          · exact ih hnext
          · exact (map_pure _ _).symm

section

variable {σ : Type} {host : Host (StateM σ)}

/-- The host never says that a page follows the one with the greatest number. -/
def Host.FitsWords (host : Host (StateM σ)) : Prop :=
  ∀ s listing s', (host.list (UInt32.size - 1)).run s = (.ok listing, s') → listing.hasNext = false

/-- A host with fewer than `2 ^ 32` pages. -/
theorem Oracle.fitsWords {o : Oracle} {pages : Nat} (hpages : pages < UInt32.size)
    (h : ∀ past page listing, pages ≤ page → o.list past page = .ok listing →
      listing.hasNext = false) : o.host.FitsWords := by
  intro past listing past' hlist
  have hanswer : o.list past (UInt32.size - 1) = .ok listing := congrArg Prod.fst hlist
  exact h past _ listing (Nat.le_sub_one_of_lt hpages) hanswer

/-- The page after one that is followed by another still has a number. -/
theorem Host.FitsWords.add?_page {page : UInt32} {listing : Page} {s s' : σ} (h : host.FitsWords)
    (hlist : (host.list page.toNat).run s = (.ok listing, s')) (hnext : listing.hasNext = true) :
    ∃ next, add? page 1 = some next ∧ next.toNat = page.toNat + 1 := by
  have hlt := page.toNat_lt
  have hne : page.toNat ≠ UInt32.size - 1 := by
    intro heq
    rw [heq] at hlist
    rw [h s listing s' hlist] at hnext
    cases hnext
  have hfits : page.toNat + 1 < UInt32.size := by
    simp only [UInt32.size] at *
    omega
  exact ⟨page + 1, add?_one hfits, toNat_add_one hfits⟩

/-- A host whose pages have numbers is seen the same way through machine words. -/
theorem deleteMarkedWords_run {marker : String} {listings : Nat} {page : UInt32}
    {deleted : List UInt64} {s s' : σ} {outcome : Outcome Nat} (h : host.FitsWords)
    (hrun : (deleteMarked host marker listings page.toNat deleted).run s = (outcome, s')) :
    (deleteMarkedWords host marker listings page deleted).run s = (some outcome, s') := by
  induction listings generalizing page deleted s with
  | zero =>
    cases hrun
    rfl
  | succ listings ih =>
    unfold deleteMarked at hrun
    unfold deleteMarkedWords
    rcases hlist : (host.list page.toNat).run s with ⟨answer, s₁⟩
    rw [run_bind_of_eq hlist] at hrun ⊢
    cases answer with
    | error e =>
      cases hrun
      rfl
    | ok listing =>
      rcases hdelete : (deleteListed host marker listing.comments deleted).run s₁ with ⟨result, s₂⟩
      simp only [run_bind_of_eq hdelete] at hrun ⊢
      cases result with
      | error e =>
        cases hrun
        rfl
      | ok now =>
        simp only at hrun ⊢
        split
        · next hne =>
          rw [if_pos hne] at hrun
          exact ih hrun
        · next heq =>
          rw [if_neg heq] at hrun
          split
          · next hnext =>
            obtain ⟨next, hadd, hnumber⟩ := h.add?_page hlist hnext
            rw [if_pos hnext, ← hnumber] at hrun
            rw [hadd]
            exact ih hrun
          · next hlast =>
            rw [if_neg hlast] at hrun
            cases hrun
            rfl

end

end LintReview.Review

import LintReview.Json.Tree

/-! Documents that differ in one place. `DifferAt` follows the steps to the place: at each of them
the members or items beside the named one are the same. **A path that leaves the steps before
either ends leads to the same in both** (`DifferAt.descend?_eq`). -/

namespace LintReview.Json

/-- A step into a document. -/
inductive Step where
  | member (name : String)
  | item (index : Nat)

/-- How a path names the step. -/
def Step.text : Step → String
  | member name => name
  | item index => String.ofList (Decimal.digits index)

namespace Tree

def IsObject (t : Tree) : Prop := ∃ members, t = object members

def IsArray (t : Tree) : Prop := ∃ items, t = array items

/-- Two values, either of which may be missing, differ at the end of these steps only. What lies on
the way there may be missing on one side, as long as it holds nothing else on the other. -/
inductive DifferAt : List Step → Option Tree → Option Tree → Prop
  | here {t t'} : DifferAt [] t t'
  | member {name steps t t'} : (∀ u ∈ t, u.IsObject) → (∀ u ∈ t', u.IsObject) →
    (∀ n, n ≠ name → t.bind (member? n) = t'.bind (member? n)) →
    DifferAt steps (t.bind (member? name)) (t'.bind (member? name)) →
    DifferAt (.member name :: steps) t t'
  | item {index steps t t'} : (∀ u ∈ t, u.IsArray) → (∀ u ∈ t', u.IsArray) →
    (∀ i, i ≠ index → t.bind (item? i) = t'.bind (item? i)) →
    DifferAt steps (t.bind (item? index)) (t'.bind (item? index)) →
    DifferAt (.item index :: steps) t t'

variable {t t' : Option Tree} {steps : List Step} {name : String} {path : List String}

theorem bind_descend?_cons :
    t.bind (·.descend? (name :: path)) = (t.bind (child? name)).bind (·.descend? path) :=
  (Option.bind_assoc t _ _).symm

theorem bind_child?_of_isObject (h : ∀ u ∈ t, u.IsObject) :
    t.bind (child? name) = t.bind (member? name) := by
  cases t with
  | none => rfl
  | some u =>
    obtain ⟨members, rfl⟩ := h u rfl
    rfl

/-- The position that a name writes. -/
def position? (name : String) : Option Nat :=
  (Decimal.read? name.toList).filter fun i => Decimal.digits i = name.toList

theorem text_item_of_position? {i : Nat} (h : position? name = some i) :
    name = (Step.item i).text := by
  obtain ⟨-, hdigits⟩ := Option.filter_eq_some_iff.mp h
  rw [Step.text, of_decide_eq_true hdigits, String.ofList_toList]

theorem bind_child?_of_isArray (h : ∀ u ∈ t, u.IsArray) :
    t.bind (child? name) = (position? name).bind fun i => t.bind (item? i) := by
  cases t with
  | none => exact (Option.bind_fun_none _).symm
  | some u =>
    obtain ⟨items, rfl⟩ := h u rfl
    rw [Option.bind_some, child?, position?]
    cases Decimal.read? name.toList with
    | none => rfl
    | some i =>
      by_cases hdigits : Decimal.digits i = name.toList
      · simp [hdigits, Option.filter_some, item?]
      · simp [hdigits, Option.filter_some]

theorem member?_eq_descend? {t : Tree} (h : position? name = none) :
    t.member? name = t.descend? [name] := by
  have hchild : t.member? name = t.child? name := by
    cases t with
    | array items =>
      have hchild : (some (array items)).bind (child? name) =
          (position? name).bind fun i => (some (array items)).bind (item? i) :=
        bind_child?_of_isArray fun _ hu => ⟨items, (Option.some.inj hu).symm⟩
      rw [h, Option.bind_none, Option.bind_some] at hchild
      exact hchild.symm
    | _ => rfl
  rw [hchild, descend?]
  exact (Option.bind_fun_some _).symm

theorem descend?_append {t : Tree} (first rest : List String) :
    t.descend? (first ++ rest) = (t.descend? first).bind (·.descend? rest) := by
  induction first generalizing t with
  | nil => rfl
  | cons name first ih =>
    rw [List.cons_append, descend?, descend?, Option.bind_assoc]
    exact Option.bind_congr fun u _ => ih

/-- A path that leaves the steps leads to the same on both sides. -/
theorem DifferAt.descend?_eq (h : DifferAt steps t t') (hpath : ¬path <+: steps.map Step.text)
    (hsteps : ¬steps.map Step.text <+: path) :
    t.bind (·.descend? path) = t'.bind (·.descend? path) := by
  -- A path that takes the same step as the difference has left neither behind yet; any other one
  -- looks beside it, where both sides are the same.
  induction h generalizing path with
  | here => exact absurd List.nil_prefix hsteps
  | @member name steps t t' ht ht' hothers _ ih =>
    cases path with
    | nil => exact absurd List.nil_prefix hpath
    | cons first path =>
      rw [bind_descend?_cons, bind_descend?_cons, bind_child?_of_isObject ht,
        bind_child?_of_isObject ht']
      by_cases hname : first = name
      · subst hname
        apply ih
        · exact fun h => hpath (List.cons_prefix_cons.mpr ⟨rfl, h⟩)
        · exact fun h => hsteps (List.cons_prefix_cons.mpr ⟨rfl, h⟩)
      · rw [hothers first hname]
  | @item index steps t t' ht ht' hothers _ ih =>
    cases path with
    | nil => exact absurd List.nil_prefix hpath
    | cons first path =>
      rw [bind_descend?_cons, bind_descend?_cons, bind_child?_of_isArray ht,
        bind_child?_of_isArray ht']
      cases hposition : position? first with
      | none => rfl
      | some i =>
        rw [Option.bind_some, Option.bind_some]
        by_cases hindex : i = index
        · subst hindex
          have htext := text_item_of_position? hposition
          apply ih
          · exact fun h => hpath (List.cons_prefix_cons.mpr ⟨htext, h⟩)
          · exact fun h => hsteps (List.cons_prefix_cons.mpr ⟨htext.symm, h⟩)
        · rw [hothers i hindex]

/-! ## Another value in the same place -/

section

variable {x x' : Tree}

theorem member?_object_of_ne {n : String} (before after : List (Option String × Tree))
    (h : n ≠ name) :
    (object (before ++ (some name, x) :: after)).member? n = (object (before ++ after)).member? n := by
  have hne : some name ≠ some n := fun heq => h (Option.some.inj heq).symm
  simp [member?, List.find?_append, hne]

theorem member?_object_self (before after : List (Option String × Tree))
    (h : ∀ m ∈ after, m.1 ≠ some name) :
    (object (before ++ (some name, x) :: after)).member? name = some x := by
  have hafter : after.reverse.find? (fun m => m.1 = some name) = none := by
    simpa using h
  simp [member?, List.find?_append, hafter]

theorem DifferAt.object (before after : List (Option String × Tree))
    (hafter : ∀ m ∈ after, m.1 ≠ some name) (h : DifferAt steps (some x) (some x')) :
    DifferAt (.member name :: steps) (some (object (before ++ (some name, x) :: after)))
      (some (object (before ++ (some name, x') :: after))) := by
  refine .member ?_ ?_ ?_ ?_
  · exact fun _ hu => ⟨_, (Option.some.inj hu).symm⟩
  · exact fun _ hu => ⟨_, (Option.some.inj hu).symm⟩
  · intro n hn
    rw [Option.bind_some, Option.bind_some, member?_object_of_ne before after hn,
      member?_object_of_ne before after hn]
  · rw [Option.bind_some, Option.bind_some, member?_object_self before after hafter,
      member?_object_self before after hafter]
    exact h

theorem DifferAt.array (before after : List Tree) (h : DifferAt steps (some x) (some x')) :
    DifferAt (.item before.length :: steps) (some (array (before ++ x :: after)))
      (some (array (before ++ x' :: after))) := by
  refine .item ?_ ?_ ?_ ?_
  · exact fun _ hu => ⟨_, (Option.some.inj hu).symm⟩
  · exact fun _ hu => ⟨_, (Option.some.inj hu).symm⟩
  · intro i hi
    simp only [Option.bind_some, item?, List.getElem?_append, List.getElem?_cons]
    split
    · rfl
    · next hlt =>
      have hsub : i - before.length ≠ 0 := by omega
      rw [if_neg hsub, if_neg hsub]
  · simp only [Option.bind_some, item?, List.getElem?_append_right (Nat.le_refl _), Nat.sub_self,
      List.getElem?_cons_zero]
    exact h

end

end Tree

end LintReview.Json

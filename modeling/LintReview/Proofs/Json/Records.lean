import Mathlib.Data.List.Nodup
import LintReview.Json.Record

/-! What a record says. A record gives each of its declared fields a value or leaves it out, whether
it is written as an object or as an array (`IsRecord`). **Records are read just if they say
something of their fields, and then as they say it** (`Record.isRecord_lookup`,
`Record.exists_read?`). A field that may be `null` or left out tells at most one value
(`Tells`, `Record.defaulted_eq_some_iff`). -/

namespace LintReview.Json

/-! ## Leaves -/

namespace Tree

/-- The tree is an unsigned number literal without fraction and exponent, which writes `n`. -/
def IsUnsigned (t : Tree) (n : Nat) : Prop :=
  ∃ literal, t = number literal ∧ literal ≠ [] ∧ (∀ c ∈ literal, c.isDigit = true) ∧
    Nat.ofDigitChars 10 literal 0 = n

variable {t : Tree} {n : Nat}

theorem string?_eq_some_iff {s : String} : t.string? = some s ↔ t = text (some s) := by
  cases t <;> simp [string?]

theorem natural?_eq_some_iff : t.natural? = some n ↔ t.IsUnsigned n := by
  constructor
  · intro h
    unfold natural? at h
    split at h
    · next literal =>
      unfold Decimal.read? at h
      split at h
      · cases h
      · next hdigits =>
        simp only [Bool.or_eq_true, Bool.not_eq_true', not_or, Bool.not_eq_true,
          Bool.not_eq_false, List.isEmpty_eq_false_iff] at hdigits
        exact ⟨literal, rfl, hdigits.1, List.all_eq_true.mp hdigits.2, Option.some.inj h⟩
    · cases h
  · rintro ⟨literal, rfl, hne, hdigits, rfl⟩
    rw [natural?, Decimal.read?, if_neg]
    simp [hne, List.all_eq_true.mpr hdigits]

theorem uint32?_eq_some_iff {n : UInt32} : t.uint32? = some n ↔ t.IsUnsigned n.toNat := by
  simp only [uint32?, Option.bind_eq_some_iff, natural?_eq_some_iff]
  constructor
  · rintro ⟨k, hk, h⟩
    split at h
    · next hlt =>
      rw [← Option.some.inj h, UInt32.toNat_ofNat_of_lt' hlt]
      exact hk
    · cases h
  · intro h
    refine ⟨n.toNat, h, ?_⟩
    rw [if_pos n.toNat_lt, UInt32.ofNat_toNat]

theorem uint64?_eq_some_iff {n : UInt64} : t.uint64? = some n ↔ t.IsUnsigned n.toNat := by
  simp only [uint64?, Option.bind_eq_some_iff, natural?_eq_some_iff]
  constructor
  · rintro ⟨k, hk, h⟩
    split at h
    · next hlt =>
      rw [← Option.some.inj h, UInt64.toNat_ofNat_of_lt' hlt]
      exact hk
    · cases h
  · intro h
    refine ⟨n.toNat, h, ?_⟩
    rw [if_pos n.toNat_lt, UInt64.ofNat_toNat]

end Tree

/-! ## Fields -/

/-- The values under a name in an object. -/
def valuesOf (name : String) (members : List (Option String × Tree)) : List Tree :=
  (members.filter fun m => m.1 = some name).map Prod.snd

/-- The tree is a record with these declared fields, which have these values. In an object every
name is a text and no declared one repeats; an array gives the values in the declared order, and may
end early. -/
inductive IsRecord (names : List String) : Tree → (String → Option Tree) → Prop
  | object {members value} : (∀ m ∈ members, m.1.isSome = true) →
    (∀ name ∈ names, valuesOf name members = (value name).toList) →
    IsRecord names (.object members) value
  | array {items value} : items.length ≤ names.length →
    (∀ (i : Nat) name, names[i]? = some name → value name = items[i]?) →
    IsRecord names (.array items) value

variable {names : List String} {name n : String} {members : List (Option String × Tree)}
  {fields : List (String × Tree)} {items : List Tree} {t : Tree} {value : String → Option Tree}

theorem valuesOf_cons :
    valuesOf name ((some n, t) :: members) =
      if n = name then t :: valuesOf name members else valuesOf name members := by
  by_cases h : n = name <;> simp [valuesOf, h]

namespace Record

theorem select?_cons (name : Option String) (t : Tree) :
    select? names ((name, t) :: members) =
      name.bind fun n => (select? names members).bind fun fields =>
        if names.contains n then
          if (fields.lookup n).isSome then none else some ((n, t) :: fields)
        else some fields := rfl

theorem lookup_of_select? (h : select? names members = some fields) :
    (∀ m ∈ members, m.1.isSome = true) ∧
      ∀ name ∈ names, valuesOf name members = (fields.lookup name).toList := by
  induction members generalizing fields with
  | nil =>
    cases h
    exact ⟨List.forall_mem_nil _, fun _ _ => rfl⟩
  | cons m members ih =>
    obtain ⟨key, t⟩ := m
    rw [select?_cons] at h
    simp only [Option.bind_eq_some_iff] at h
    obtain ⟨n, rfl, rest, hrest, h⟩ := h
    obtain ⟨hnamed, hvalues⟩ := ih hrest
    refine ⟨List.forall_mem_cons.mpr ⟨rfl, hnamed⟩, fun name hname => ?_⟩
    rw [valuesOf_cons]
    split at h
    · split at h
      · cases h
      · next hnew =>
        cases h
        have hnone : rest.lookup n = none := Option.not_isSome_iff_eq_none.mp hnew
        by_cases heq : n = name
        · subst heq
          rw [if_pos rfl, hvalues n hname, hnone, List.lookup_cons_self]
          rfl
        · rw [if_neg heq, hvalues name hname, List.lookup_cons, beq_false_of_ne (Ne.symm heq)]
    · next hunknown =>
      cases h
      have heq : n ≠ name := by
        rintro rfl
        exact hunknown (List.contains_iff_mem.mpr hname)
      rw [if_neg heq, hvalues name hname]

theorem exists_select? (hnamed : ∀ m ∈ members, m.1.isSome = true)
    (honce : ∀ name ∈ names, (valuesOf name members).length ≤ 1) :
    ∃ fields, select? names members = some fields := by
  induction members with
  | nil => exact ⟨[], rfl⟩
  | cons m members ih =>
    obtain ⟨key, t⟩ := m
    obtain ⟨hkey, hothers⟩ := List.forall_mem_cons.mp hnamed
    obtain ⟨n, rfl⟩ := Option.isSome_iff_exists.mp hkey
    have hrest : ∀ name ∈ names, (valuesOf name members).length ≤ 1 := by
      intro name hname
      have hlength := honce name hname
      rw [valuesOf_cons] at hlength
      split at hlength
      · exact Nat.le_of_succ_le hlength
      · exact hlength
    obtain ⟨fields, hfields⟩ := ih hothers hrest
    rw [select?_cons, Option.bind_some, hfields, Option.bind_some]
    by_cases hknown : names.contains n = true
    -- A declared name that was there before would have two values.
    · have hmem := List.contains_iff_mem.mp hknown
      have hlength := honce n hmem
      rw [valuesOf_cons, if_pos rfl, (lookup_of_select? hfields).2 n hmem] at hlength
      have hnone : fields.lookup n = none := by
        cases hlookup : fields.lookup n with
        | none => rfl
        | some u => rw [hlookup] at hlength; exact absurd hlength (by simp)
      rw [if_pos hknown, hnone]
      exact ⟨_, rfl⟩
    · rw [if_neg hknown]
      exact ⟨_, rfl⟩

theorem lookup_zip (hnames : names.Nodup) {i : Nat} (hname : names[i]? = some name) :
    (names.zip items).lookup name = items[i]? := by
  induction names generalizing items i with
  | nil => cases hname
  | cons first names ih =>
    obtain ⟨hfirst, hnames⟩ := List.nodup_cons.mp hnames
    cases items with
    | nil => rfl
    | cons t items =>
      cases i with
      | zero =>
        cases hname
        exact List.lookup_cons_self
      | succ i =>
        rw [List.getElem?_cons_succ] at hname
        have hne : name ≠ first := by
          rintro rfl
          exact hfirst (List.mem_of_getElem? hname)
        rw [List.zip_cons_cons, List.lookup_cons, beq_false_of_ne hne, List.getElem?_cons_succ]
        exact ih hnames hname

theorem isRecord_lookup (hnames : names.Nodup) {r : Record} (h : read? names t = some r) :
    IsRecord names t fun name => r.fields.lookup name := by
  unfold read? at h
  split at h
  · obtain ⟨fields, hselect, rfl⟩ := Option.map_eq_some_iff.mp h
    obtain ⟨hnamed, hvalues⟩ := lookup_of_select? hselect
    exact .object hnamed hvalues
  · split at h
    · cases h
    · next hlength =>
      cases h
      exact .array (Nat.not_lt.mp hlength) fun i name hname => lookup_zip hnames hname
  · cases h

theorem exists_read? (hnames : names.Nodup) (h : IsRecord names t value) :
    ∃ r, read? names t = some r ∧ ∀ name ∈ names, r.fields.lookup name = value name := by
  cases h with
  | @object members _ hnamed hvalues =>
    have honce : ∀ name ∈ names, (valuesOf name members).length ≤ 1 := by
      intro name hname
      rw [hvalues name hname]
      exact Option.length_toList_le
    obtain ⟨fields, hselect⟩ := exists_select? hnamed honce
    refine ⟨⟨false, fields⟩, by rw [read?, hselect]; rfl, fun name hname => ?_⟩
    have hlist : (fields.lookup name).toList = (value name).toList := by
      rw [← (lookup_of_select? hselect).2 name hname, hvalues name hname]
    have hhead := congrArg List.head? hlist
    rwa [Option.head?_toList, Option.head?_toList] at hhead
  | @array items _ hlength hvalues =>
    refine ⟨⟨true, names.zip items⟩, by rw [read?, if_neg (Nat.not_lt.mpr hlength)], ?_⟩
    intro name hname
    obtain ⟨i, hi⟩ := List.mem_iff_getElem?.mp hname
    rw [hvalues i name hi]
    exact lookup_zip hnames hi

end Record

/-! ## Order and unknown members -/

/-- The members with declared names. -/
def knownMembers (names : List String) (members : List (Option String × Tree)) :
    List (Option String × Tree) :=
  members.filter fun m => m.1.any names.contains

/-- Two trees are the same, or objects that differ in the order of their declared members and in
the other ones. -/
inductive Alike (names : List String) : Tree → Tree → Prop
  | refl (t : Tree) : Alike names t t
  | object {members others} : (∀ m ∈ members, m.1.isSome = true) →
    (∀ m ∈ others, m.1.isSome = true) →
    (knownMembers names members).Perm (knownMembers names others) →
    Alike names (.object members) (.object others)

theorem Alike.symm {t' : Tree} (h : Alike names t t') : Alike names t' t := by
  cases h with
  | refl => exact .refl t
  | object hmembers hothers hperm => exact .object hothers hmembers hperm.symm

theorem valuesOf_knownMembers (hname : name ∈ names) (members : List (Option String × Tree)) :
    valuesOf name (knownMembers names members) = valuesOf name members := by
  rw [valuesOf, knownMembers, List.filter_filter, valuesOf]
  congr 2
  funext m
  by_cases h : m.1 = some name
  · simp [h, hname]
  · simp [h]

/-- What a record says depends on its declared members only, and not on their order. -/
theorem IsRecord.of_alike {t' : Tree} (h : IsRecord names t value) (halike : Alike names t t') :
    IsRecord names t' value := by
  cases halike with
  | refl => exact h
  | @object members others _ hothers hperm =>
    cases h with
    | object _ hvalues =>
      refine .object hothers fun name hname => ?_
      have hpermuted : (valuesOf name others).Perm (valuesOf name members) := by
        rw [← valuesOf_knownMembers hname others, ← valuesOf_knownMembers hname members]
        exact (hperm.symm.filter _).map _
      rw [hvalues name hname] at hpermuted
      cases hvalue : value name with
      | none =>
        rw [hvalue] at hpermuted
        exact hpermuted.eq_nil
      | some v =>
        rw [hvalue] at hpermuted
        exact hpermuted.eq_singleton

/-! ## What a field tells -/

/-- A field that may be `null` or left out tells a value or none, where `is` relates trees to the
values that they write. -/
inductive Tells {α : Type} (is : Tree → α → Prop) : Option Tree → Option α → Prop
  | absent : Tells is none none
  | null : Tells is (some .null) none
  | value {t a} : is t a → Tells is (some t) (some a)

theorem Record.defaulted_eq_some_iff {α : Type} {r : Record} {read? : Tree → Option α}
    {is : Tree → α → Prop} (hread : ∀ t a, read? t = some a ↔ is t a) (hnull : read? .null = none)
    {o : Option α} :
    r.defaulted name none (Tree.nullable? read?) = some o ↔ Tells is (r.fields.lookup name) o := by
  unfold Record.defaulted
  cases r.fields.lookup name with
  | none => exact ⟨by rintro ⟨⟩; exact .absent, by rintro ⟨⟩; rfl⟩
  | some t =>
    dsimp only
    constructor
    · intro h
      unfold Tree.nullable? at h
      split at h
      · cases h
        exact .null
      · obtain ⟨a, ha, rfl⟩ := Option.map_eq_some_iff.mp h
        exact .value ((hread t a).mp ha)
    · rintro (_ | _ | @⟨_, a, ha⟩)
      · rfl
      · have hvalue := (hread t a).mpr ha
        unfold Tree.nullable?
        split
        · cases hnull.symm.trans hvalue
        · rw [hvalue]
          rfl

end LintReview.Json

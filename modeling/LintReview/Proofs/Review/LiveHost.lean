import LintReview.Proofs.Review.Trace

/-! A host that holds a list of comments. `Step` says which call it answers how, and which comments
it holds afterwards; whether a listing announces another page is left open where hosts differ
(`TellsNext`). `Path` follows the calls of a run. **The deletions for a listing take exactly its
marked comments out of the list** (`Deletes.of_path`, `filter_notMem_ids`). -/

namespace LintReview.Review

/-- The identifier of the comment that a call deletes. -/
def Event.deletion? : Event → Option UInt64
  | .deleted id _ => some id
  | _ => none

@[simp] theorem deletion?_listed {page : Nat} {answer : Except CallError Page} :
    (Event.listed page answer).deletion? = none := rfl

@[simp] theorem deletion?_deleted {id : UInt64} {answer : Except CallError Unit} :
    (Event.deleted id answer).deletion? = some id := rfl

@[simp] theorem deletion?_fetched {answer : Except CallError String} :
    (Event.fetched answer).deletion? = none := rfl

@[simp] theorem deletion?_created {batch : Batch} {tag : String} {answer : Except CallError Unit} :
    (Event.created batch tag answer).deletion? = none := rfl

/-- The comments that carry a marker. -/
def marked (marker : String) (cs : List Posted) : List Posted :=
  cs.filter (·.isMarked marker)

/-- The comments that do not carry it. -/
def unmarked (marker : String) (cs : List Posted) : List Posted :=
  cs.filter (!·.isMarked marker)

/-! ## The host -/

/-- The comments on a page. -/
def slice (pageSize page : Nat) (cs : List Posted) : List Posted :=
  (cs.drop ((page - 1) * pageSize)).take pageSize

/-- A listing announces another page if there are comments past this one, and does not if this one
is not full. -/
structure TellsNext (pageSize page : Nat) (cs : List Posted) (hasNext : Bool) : Prop where
  more : page * pageSize < cs.length → hasNext = true
  last : (slice pageSize page cs).length < pageSize → hasNext = false

/-- A call that succeeds, between the comments before and after it. -/
inductive Step (pageSize : Nat) : List Posted → Event → List Posted → Prop
  | list : TellsNext pageSize page cs hasNext →
    Step pageSize cs (.listed page (.ok ⟨slice pageSize page cs, hasNext⟩)) cs
  | delete {id : UInt64} : Step pageSize cs (.deleted id (.ok ())) (cs.filter (·.id ≠ id))
  | fetch : UnifiedDiff.addedLines diff = .ok added → Step pageSize cs (.fetched (.ok diff)) cs
  | create : ((cs ++ new).map Posted.id).Nodup →
    new.map Posted.body = batch.comments.map (some ·.body) →
    Step pageSize cs (.created batch tag (.ok ())) (cs ++ new)

/-- Calls that succeed, one after the other. -/
inductive Path (pageSize : Nat) : List Posted → List Event → List Posted → Prop
  | nil : Path pageSize cs [] cs
  | cons : Step pageSize cs event mid → Path pageSize mid events cs' →
    Path pageSize cs (event :: events) cs'

section

variable {pageSize page : Nat} {cs cs' : List Posted} {events events' : List Event}

theorem page_end_eq (hpage : 1 ≤ page) : page * pageSize = (page - 1) * pageSize + pageSize := by
  obtain ⟨page, rfl⟩ := Nat.exists_eq_add_of_le' hpage
  rw [Nat.add_sub_cancel, Nat.succ_mul]

theorem length_slice (hpage : 1 ≤ page) :
    (slice pageSize page cs).length = min pageSize (cs.length + pageSize - page * pageSize) := by
  rw [slice, List.length_take, List.length_drop, page_end_eq hpage]
  omega

/-- A host may count its comments to tell whether there is another page. -/
theorem tellsNext_total (hpage : 1 ≤ page) :
    TellsNext pageSize page cs (decide (page * pageSize < cs.length)) where
  more h := decide_eq_true h
  last h := by
    rw [length_slice hpage] at h
    exact decide_eq_false (by omega)

/-- A host may announce another page after each one that is full. -/
theorem tellsNext_full (hpage : 1 ≤ page) :
    TellsNext pageSize page cs (decide ((slice pageSize page cs).length = pageSize)) where
  more h := by
    rw [length_slice hpage]
    exact decide_eq_true (by omega)
  last h := decide_eq_false (Nat.ne_of_lt h)

theorem TellsNext.length_le_of_false {hasNext : Bool} (h : TellsNext pageSize page cs hasNext)
    (hlast : hasNext = false) : cs.length ≤ page * pageSize := by
  by_contra hlt
  cases hlast.symm.trans (h.more (Nat.not_le.mp hlt))

/-- A page that announces another one is full. -/
theorem TellsNext.le_length_of_true {hasNext : Bool} (h : TellsNext pageSize page cs hasNext)
    (hpage : 1 ≤ page) (hsize : 1 ≤ pageSize) (hnext : hasNext = true) :
    page * pageSize ≤ cs.length := by
  by_contra hlt
  have hshort : (slice pageSize page cs).length < pageSize := by
    rw [length_slice hpage]
    omega
  cases hnext.symm.trans (h.last hshort)

theorem Path.exists_of_append (h : Path pageSize cs (events ++ events') cs') :
    ∃ mid, Path pageSize cs events mid ∧ Path pageSize mid events' cs' := by
  induction events generalizing cs with
  | nil => exact ⟨cs, .nil, h⟩
  | cons event events ih =>
    cases h with
    | cons hstep hrest =>
      obtain ⟨mid, hevents, hevents'⟩ := ih hrest
      exact ⟨mid, .cons hstep hevents, hevents'⟩

/-- Different comments keep different identifiers. -/
theorem Path.nodup_ids (h : Path pageSize cs events cs') (hids : (cs.map Posted.id).Nodup) :
    (cs'.map Posted.id).Nodup := by
  induction h with
  | nil => exact hids
  | cons hstep _ ih =>
    apply ih
    cases hstep with
    | list | fetch => exact hids
    | delete => exact hids.sublist (List.filter_sublist.map _)
    | create hnew _ => exact hnew

end

/-! ## Deletions -/

section

variable {marker : String} {pageSize : Nat} {listed cs cs' front rest : List Posted} {c : Posted}
  {deleted : List UInt64} {events : List Event} {result : Except CallError (List UInt64)}

@[simp] theorem marked_append : marked marker (cs ++ cs') = marked marker cs ++ marked marker cs' :=
  List.filter_append ..

@[simp] theorem unmarked_append :
    unmarked marker (cs ++ cs') = unmarked marker cs ++ unmarked marker cs' :=
  List.filter_append ..

theorem marked_cons_of_pos (h : c.isMarked marker = true) :
    marked marker (c :: cs) = c :: marked marker cs :=
  List.filter_cons_of_pos h

theorem marked_cons_of_neg (h : ¬c.isMarked marker = true) :
    marked marker (c :: cs) = marked marker cs :=
  List.filter_cons_of_neg h

theorem marked_eq_nil_iff : marked marker cs = [] ↔ ∀ c ∈ cs, c.isMarked marker = false := by
  simp [marked]

theorem unmarked_eq_self_iff : unmarked marker cs = cs ↔ ∀ c ∈ cs, c.isMarked marker = false := by
  simp [unmarked]

theorem unmarked_eq_nil_iff : unmarked marker cs = [] ↔ ∀ c ∈ cs, c.isMarked marker = true := by
  simp [unmarked]

@[simp] theorem marked_unmarked : marked marker (unmarked marker cs) = [] := by
  simp [marked, unmarked]

@[simp] theorem unmarked_unmarked : unmarked marker (unmarked marker cs) = unmarked marker cs := by
  simp [unmarked]

/-- The deletions for a listing, none of whose comments has been deleted before. -/
theorem Deletes.of_path (h : Deletes marker listed deleted events result)
    (hpath : Path pageSize cs events cs') (hids : (listed.map Posted.id).Nodup)
    (hnew : ∀ c ∈ listed, c.id ∉ deleted) :
    result = .ok (((marked marker listed).map Posted.id).reverse ++ deleted) ∧
      events.filterMap Event.deletion? = (marked marker listed).map Posted.id ∧
      cs' = cs.filter (·.id ∉ (marked marker listed).map Posted.id) := by
  induction h generalizing cs with
  | nil =>
    cases hpath
    exact ⟨rfl, rfl, by simp [marked]⟩
  | @skip _ _ _ _ c hc _ ih =>
    have hnot : ¬c.isMarked marker = true := fun hmarked => hc ⟨hnew c (by simp), hmarked⟩
    rw [marked_cons_of_neg hnot]
    exact ih hpath (List.nodup_cons.mp hids).2 fun c hc => hnew c (List.mem_cons_of_mem _ hc)
  | @delete _ _ _ _ c _ hc _ ih =>
    obtain ⟨hnotMem, hids⟩ := List.nodup_cons.mp hids
    cases hpath with
    | cons hstep hpath =>
      cases hstep
      obtain ⟨hresult, hevents, hcs'⟩ := ih hpath hids fun c' hc' => by
        rw [List.mem_cons, not_or]
        refine ⟨?_, hnew c' (List.mem_cons_of_mem _ hc')⟩
        exact fun heq => hnotMem (heq ▸ List.mem_map_of_mem hc')
      rw [marked_cons_of_pos hc]
      refine ⟨by simp [hresult], by simp [hevents], ?_⟩
      rw [hcs', List.filter_filter]
      refine List.filter_congr fun c' _ => ?_
      rw [← Bool.decide_and, decide_eq_decide, List.map_cons, List.mem_cons, not_or, and_comm]
  | refused =>
    cases hpath with
    | cons hstep _ => cases hstep

/-- The identifiers of marked comments in one part of a list are those of no others. -/
theorem filter_notMem_ids (hids : ((front ++ listed ++ rest).map Posted.id).Nodup) :
    (front ++ listed ++ rest).filter (·.id ∉ (marked marker listed).map Posted.id) =
      front ++ unmarked marker listed ++ rest := by
  have hinj : ∀ c ∈ front ++ listed ++ rest, ∀ c' ∈ front ++ listed ++ rest,
      c.id = c'.id → c = c' := fun c hc c' hc' => List.inj_on_of_nodup_map hids hc hc'
  have hdisjoint : (front ++ listed ++ rest).Nodup := hids.of_map
  rw [List.append_assoc] at hdisjoint
  obtain ⟨-, hrest, hfront⟩ := List.nodup_append.mp hdisjoint
  obtain ⟨-, -, hlisted⟩ := List.nodup_append.mp hrest
  -- A comment of the list has the identifier of a marked one only if it is that one.
  have hmem : ∀ c ∈ front ++ listed ++ rest,
      (c.id ∈ (marked marker listed).map Posted.id ↔ c ∈ listed ∧ c.isMarked marker = true) := by
    intro c hc
    rw [List.mem_map]
    constructor
    · rintro ⟨c', hc', heq⟩
      obtain ⟨hlisted', hmarked'⟩ := List.mem_filter.mp hc'
      rw [← hinj c' (by simp [hlisted']) c hc heq]
      exact ⟨hlisted', hmarked'⟩
    · rintro ⟨hlisted', hmarked'⟩
      exact ⟨c, List.mem_filter.mpr ⟨hlisted', hmarked'⟩, rfl⟩
  rw [List.filter_append, List.filter_append]
  congr 1
  · congr 1
    · refine List.filter_eq_self.mpr fun c hc => decide_eq_true ?_
      rw [hmem c (by simp [hc])]
      exact fun h => hfront c hc c (by simp [h.1]) rfl
    · refine List.filter_congr fun c hc => ?_
      simp [hmem c (by simp [hc]), hc]
  · refine List.filter_eq_self.mpr fun c hc => decide_eq_true ?_
    rw [hmem c (by simp [hc])]
    exact fun h => hlisted c h.1 c hc rfl

end

end LintReview.Review

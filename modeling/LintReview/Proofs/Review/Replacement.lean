import LintReview.Proofs.Review.LiveHost
import Mathlib.Data.Fintype.Card

/-! Runs against a host that holds comments. While its pages are listed, those before the present
page hold no marked comment (`Swept`), although each deletion moves later comments up into earlier
pages. Hence **a run ends, having replaced the marked comments by its own ones**, and so do several
runs one after another (`publish_replaces`). -/

namespace LintReview.Review

/-- The comments on the host when a page is listed, with those that have been deleted by then. -/
structure Swept (marker : String) (pageSize page : Nat) (deleted : List UInt64)
    (cs : List Posted) : Prop where
  page_pos : 1 ≤ page
  ids : (cs.map Posted.id).Nodup
  gone : ∀ c ∈ cs, c.id ∉ deleted
  before : ∀ c ∈ cs.take ((page - 1) * pageSize), c.isMarked marker = false

/-! ## One listing -/

section

variable {marker : String} {pageSize page : Nat} {deleted : List UInt64} {cs mid : List Posted}
  {events : List Event}

theorem parts_eq (pageSize page : Nat) (cs : List Posted) :
    cs = cs.take ((page - 1) * pageSize) ++ slice pageSize page cs ++
      cs.drop ((page - 1) * pageSize + pageSize) := by
  rw [slice, List.append_assoc, ← List.drop_drop, List.take_append_drop, List.take_append_drop]

theorem slice_sublist : (slice pageSize page cs).Sublist cs :=
  (List.take_sublist ..).trans (List.drop_sublist ..)

theorem page_start_lt (h : marked marker (slice pageSize page cs) ≠ []) :
    (page - 1) * pageSize < cs.length := by
  by_contra hle
  have hslice : slice pageSize page cs = [] := by
    rw [slice, List.drop_of_length_le (Nat.not_lt.mp hle), List.take_nil]
  exact h (by rw [hslice]; rfl)

/-- The comments that are left after the deletions for a listing. -/
def remaining (marker : String) (pageSize page : Nat) (cs : List Posted) : List Posted :=
  cs.take ((page - 1) * pageSize) ++ unmarked marker (slice pageSize page cs) ++
    cs.drop ((page - 1) * pageSize + pageSize)

theorem Swept.marked_eq (h : Swept marker pageSize page deleted cs) :
    marked marker cs =
      marked marker (slice pageSize page cs) ++
        marked marker (remaining marker pageSize page cs) := by
  have hbefore := marked_eq_nil_iff.mpr h.before
  conv_lhs => rw [parts_eq pageSize page cs]
  simp [remaining, hbefore]

theorem unmarked_remaining :
    unmarked marker (remaining marker pageSize page cs) = unmarked marker cs := by
  conv_rhs => rw [parts_eq pageSize page cs]
  simp [remaining]

/-- Without a marked comment in the listing nothing changes. -/
theorem remaining_eq_self (h : marked marker (slice pageSize page cs) = []) :
    remaining marker pageSize page cs = cs := by
  have hslice := unmarked_eq_self_iff.mpr (marked_eq_nil_iff.mp h)
  rw [remaining, hslice, ← parts_eq]

theorem Swept.remaining_eq (h : Swept marker pageSize page deleted cs) :
    remaining marker pageSize page cs =
      cs.filter (·.id ∉ (marked marker (slice pageSize page cs)).map Posted.id) := by
  have hids := h.ids
  rw [parts_eq pageSize page cs] at hids
  rw [remaining, ← filter_notMem_ids hids, ← parts_eq]

/-- A listing and its deletions take the marked comments on the page away. -/
theorem Swept.listing {listing : Page} {result : Except CallError (List UInt64)}
    (h : Swept marker pageSize page deleted cs)
    (hdeletes : Deletes marker listing.comments deleted events result)
    (hpath : Path pageSize cs (.listed page (.ok listing) :: events) mid) :
    TellsNext pageSize page cs listing.hasNext ∧
      result = .ok (((marked marker (slice pageSize page cs)).map Posted.id).reverse ++ deleted) ∧
      events.filterMap Event.deletion? = (marked marker (slice pageSize page cs)).map Posted.id ∧
      mid = remaining marker pageSize page cs := by
  cases hpath with
  | cons hstep hpath =>
    cases hstep with
    | list htells =>
      rw [h.remaining_eq]
      exact ⟨htells, hdeletes.of_path hpath (h.ids.sublist (slice_sublist.map _))
        fun c hc => h.gone c (slice_sublist.subset hc)⟩

theorem length_remaining_lt (h : marked marker (slice pageSize page cs) ≠ []) :
    (remaining marker pageSize page cs).length < cs.length := by
  obtain ⟨c, hc⟩ := List.exists_mem_of_ne_nil _ h
  obtain ⟨hmem, hmarked⟩ := List.mem_filter.mp hc
  have hlt : (unmarked marker (slice pageSize page cs)).length <
      (slice pageSize page cs).length :=
    List.length_filter_lt_length_iff_exists.mpr ⟨c, hmem, by simp [hmarked]⟩
  conv_rhs => rw [parts_eq pageSize page cs]
  simp only [remaining, List.length_append]
  omega

/-- The same page is listed again after deletions. -/
theorem Swept.again (h : Swept marker pageSize page deleted cs)
    (hmarked : marked marker (slice pageSize page cs) ≠ []) :
    Swept marker pageSize page
      (((marked marker (slice pageSize page cs)).map Posted.id).reverse ++ deleted)
      (remaining marker pageSize page cs) where
  page_pos := h.page_pos
  ids := by
    rw [h.remaining_eq]
    exact h.ids.sublist (List.filter_sublist.map _)
  gone c hc := by
    rw [h.remaining_eq] at hc
    obtain ⟨hmem, hnotMem⟩ := List.mem_filter.mp hc
    rw [List.mem_append, List.mem_reverse, not_or]
    exact ⟨of_decide_eq_true hnotMem, h.gone c hmem⟩
  before c hc := by
    have hlength := page_start_lt hmarked
    have htake : (cs.take ((page - 1) * pageSize)).length = (page - 1) * pageSize :=
      List.length_take_of_le hlength.le
    rw [remaining, List.append_assoc, List.take_append_of_le_length htake.ge,
      List.take_of_length_le htake.le] at hc
    exact h.before c hc

/-- The next page is listed after one without deletions. -/
theorem Swept.next (h : Swept marker pageSize page deleted cs)
    (hmarked : marked marker (slice pageSize page cs) = []) :
    Swept marker pageSize (page + 1) deleted cs := by
  refine ⟨Nat.le_add_left .., h.ids, h.gone, fun c hc => ?_⟩
  rw [Nat.add_sub_cancel, page_end_eq h.page_pos, List.take_add] at hc
  rcases List.mem_append.mp hc with hc | hc
  · exact h.before c hc
  · exact marked_eq_nil_iff.mp hmarked c hc

/-- No comment is marked once the last page is without a marked one. -/
theorem Swept.marked_eq_nil (h : Swept marker pageSize page deleted cs)
    (hmarked : marked marker (slice pageSize page cs) = [])
    (hlast : cs.length ≤ page * pageSize) : marked marker cs = [] := by
  have hrest : cs.drop ((page - 1) * pageSize + pageSize) = [] := by
    rw [List.drop_eq_nil_iff, ← page_end_eq h.page_pos]
    exact hlast
  rw [h.marked_eq, hmarked, remaining, hrest]
  simp [marked_eq_nil_iff.mpr h.before]

/-! ## All listings -/

/-- The listings come to an end, for each one takes comments away or leaves a full page behind. -/
theorem Clears.of_path {listings : Nat} {cs' : List Posted} {outcome : Outcome Nat}
    (h : Clears marker listings page deleted events outcome) (hsize : 1 ≤ pageSize)
    (hswept : Swept marker pageSize page deleted cs) (hpath : Path pageSize cs events cs')
    (hlistings : cs.length - (page - 1) * pageSize < listings) :
    outcome = .done (deleted.length + (marked marker cs).length) ∧
      events.filterMap Event.deletion? = (marked marker cs).map Posted.id ∧
      cs' = unmarked marker cs := by
  induction h generalizing cs with
  | unfinished => exact absurd hlistings (Nat.not_lt_zero _)
  | refused =>
    cases hpath with
    | cons hstep _ => cases hstep
  | stuck hdeletes =>
    obtain ⟨-, hresult, -⟩ := hswept.listing hdeletes hpath
    cases hresult
  | @again _ _ _ _ page _ _ _ hdeletes hne _ ih =>
    rw [← List.cons_append] at hpath
    obtain ⟨mid, hpath, hrest⟩ := hpath.exists_of_append
    obtain ⟨-, hresult, hevents, rfl⟩ := hswept.listing hdeletes hpath
    cases hresult
    have hmarked : marked marker (slice pageSize page cs) ≠ [] := by
      intro hnil
      exact hne (by simp [hnil])
    have hlength := length_remaining_lt hmarked
    have hstart := page_start_lt hmarked
    obtain ⟨houtcome, hdeletions, hcs'⟩ := ih (hswept.again hmarked) hrest (by omega)
    rw [hswept.marked_eq]
    refine ⟨?_, ?_, ?_⟩
    · rw [houtcome]
      simp only [List.length_append, List.length_reverse, List.length_map]
      congr 1
      omega
    · simp [List.filterMap_cons, hevents, hdeletions]
    · rw [hcs', unmarked_remaining]
  | @next _ _ _ _ page _ _ _ hdeletes heq hnext _ ih =>
    rw [← List.cons_append] at hpath
    obtain ⟨mid, hpath, hrest⟩ := hpath.exists_of_append
    obtain ⟨htells, hresult, hevents, rfl⟩ := hswept.listing hdeletes hpath
    cases hresult
    have hmarked : marked marker (slice pageSize page cs) = [] := by simpa using heq
    simp only [hmarked, List.map_nil, List.reverse_nil, List.nil_append] at ih hevents ⊢
    rw [remaining_eq_self hmarked] at hrest
    have hfull := htells.le_length_of_true hswept.page_pos hsize hnext
    rw [page_end_eq hswept.page_pos] at hfull
    obtain ⟨houtcome, hdeletions, hcs'⟩ := ih (hswept.next hmarked) hrest (by
      rw [Nat.add_sub_cancel, page_end_eq hswept.page_pos]
      omega)
    exact ⟨houtcome, by simp [List.filterMap_cons, hevents, hdeletions], hcs'⟩
  | @done _ _ _ _ page _ hdeletes heq hlast =>
    obtain ⟨htells, hresult, hevents, rfl⟩ := hswept.listing hdeletes hpath
    cases hresult
    have hmarked : marked marker (slice pageSize page cs) = [] := by simpa using heq
    have hnone : marked marker cs = [] :=
      hswept.marked_eq_nil hmarked (htells.length_le_of_false hlast)
    have hall : unmarked marker cs = cs := unmarked_eq_self_iff.mpr (marked_eq_nil_iff.mp hnone)
    rw [remaining_eq_self hmarked, hall]
    exact ⟨by simp [hmarked, hnone], by simp [List.filterMap_cons, hevents, hmarked, hnone], rfl⟩

end

/-! ## What is posted -/

section

variable {diagnostics : List Diagnostic} {added : AddedLines} {analysisRoot cwd identifier : String}

theorem exists_body_eq {c : Comment}
    (hc : c ∈ (Batch.ofDiagnostics diagnostics added analysisRoot cwd identifier).comments) :
    ∃ d ∈ diagnostics, c.body = commentBody d identifier := by
  rw [ofDiagnostics_eq] at hc
  obtain ⟨d, hmem, hd⟩ := List.mem_filterMap.mp (List.mem_of_mem_take hc)
  obtain ⟨-, hof⟩ := eligible_and_isOf_of_eq_some hd
  exact ⟨d, hmem, hof.body⟩

/-- Every comment that is posted carries the marker. -/
theorem unmarked_posted_eq_nil {posted : List Posted}
    (hposted : posted.map Posted.body =
      (Batch.ofDiagnostics diagnostics added analysisRoot cwd identifier).comments.map
        (some ·.body)) :
    unmarked (marker identifier) posted = [] := by
  rw [unmarked_eq_nil_iff]
  intro p hp
  have hbody : p.body ∈ posted.map Posted.body := List.mem_map_of_mem hp
  rw [hposted] at hbody
  obtain ⟨c, hc, heq⟩ := List.mem_map.mp hbody
  obtain ⟨d, -, hd⟩ := exists_body_eq hc
  rw [Posted.isMarked, ← heq, hd, Option.any_some, Text.contains_iff, commentBody,
    String.toList_ofList, List.append_assoc]
  exact (List.prefix_append ..).isInfix

end

/-! ## Whole runs -/

/-- A run of one tool against a host. -/
structure Run where
  oracle : Oracle
  diagnostics : List Diagnostic
  analysisRoot : String
  cwd : String

/-- How the run ends, and its calls. -/
def Run.result (r : Run) (identifier : String) : Outcome Report × List Event :=
  (publish r.oracle.host maxListings r.diagnostics r.analysisRoot r.cwd identifier).run []

/-- The batch of the run for a diff that adds these lines. -/
def Run.batch (r : Run) (identifier : String) (added : AddedLines) : Batch :=
  Batch.ofDiagnostics r.diagnostics added r.analysisRoot r.cwd identifier

/-- Runs one after another, with the comments on the host before the first and after the last. -/
inductive Runs (pageSize : Nat) (identifier : String) :
    List Posted → List Run → List Posted → Prop
  | nil : Runs pageSize identifier cs [] cs
  | cons {r : Run} : Path pageSize cs (r.result identifier).2 mid →
    Runs pageSize identifier mid rs cs' → Runs pageSize identifier cs (r :: rs) cs'

/-- A run has ended with its report, having deleted the marked comments, each of them once and no
others, and posted those of the batch behind the comments that were left. -/
structure Replaced (marker : String) (batch : Batch) (posted before after : List Posted)
    (result : Outcome Report × List Event) : Prop where
  report : result.1 =
    .done ⟨(marked marker before).length, batch.comments.length, batch.truncated⟩
  deletions : result.2.filterMap Event.deletion? = (marked marker before).map Posted.id
  bodies : posted.map Posted.body = batch.comments.map (some ·.body)
  after : after = unmarked marker before ++ posted

section

variable {pageSize listings : Nat} {identifier tag : String} {batch : AddedLines → Batch}
  {cs before after : List Posted} {events : List Event} {outcome : Outcome Report}
  {rs : List Run} {r last : Run}

theorem Swept.first (hids : (cs.map Posted.id).Nodup) : Swept tag pageSize 1 [] cs where
  page_pos := Nat.le_refl 1
  ids := hids
  gone _ _ := List.not_mem_nil
  before c hc := by simp at hc

theorem Publishes.of_path
    (h : Publishes tag (fun added => .ok (batch added)) listings events outcome)
    (hsize : 1 ≤ pageSize) (hids : (before.map Posted.id).Nodup)
    (hpath : Path pageSize before events after) (hlistings : before.length < listings) :
    ∃ diff added posted, Event.fetched (.ok diff) ∈ events ∧
      UnifiedDiff.addedLines diff = .ok added ∧
      Replaced tag (batch added) posted before after (outcome, events) := by
  have hclear : ∀ {events mid cleared}, Clears tag listings 1 [] events cleared →
      Path pageSize before events mid →
      cleared = .done (marked tag before).length ∧
        events.filterMap Event.deletion? = (marked tag before).map Posted.id ∧
        mid = unmarked tag before := by
    intro events mid cleared hclears hpath
    have hspec := hclears.of_path hsize (Swept.first hids) hpath (by simpa using hlistings)
    simpa using hspec
  cases h with
  | unfinished hclears | uncleared hclears => cases (hclear hclears hpath).1
  | unfetched =>
    obtain ⟨mid, -, hrest⟩ := hpath.exists_of_append
    rcases hrest with _ | ⟨hstep, -⟩
    cases hstep
  | malformed _ hdiff =>
    obtain ⟨mid, -, hrest⟩ := hpath.exists_of_append
    rcases hrest with _ | ⟨hstep, -⟩
    cases hstep with
    | fetch hadded => cases hdiff.symm.trans hadded
  | lost _ _ hbatch => cases hbatch
  | @empty _ deleted diff added _ hclears hdiff hbatch hempty =>
    cases hbatch
    obtain ⟨mid, hpath, hrest⟩ := hpath.exists_of_append
    obtain ⟨hdone, hdeletions, rfl⟩ := hclear hclears hpath
    cases hdone
    rcases hrest with _ | ⟨hstep, hrest⟩
    cases hstep
    cases hrest
    refine ⟨diff, added, [], by simp, hdiff, ?_⟩
    exact ⟨by rw [hempty]; rfl, by simp [hdeletions], by rw [hempty]; rfl, by simp⟩
  | refused hclears hdiff =>
    obtain ⟨mid, -, hrest⟩ := hpath.exists_of_append
    rcases hrest with _ | ⟨-, hrest⟩
    rcases hrest with _ | ⟨hstep, -⟩
    cases hstep
  | @posted _ deleted diff added _ hclears hdiff hbatch =>
    cases hbatch
    obtain ⟨mid, hpath, hrest⟩ := hpath.exists_of_append
    obtain ⟨hdone, hdeletions, rfl⟩ := hclear hclears hpath
    cases hdone
    rcases hrest with _ | ⟨hfetch, hrest⟩
    cases hfetch
    rcases hrest with _ | ⟨hcreate, hrest⟩
    cases hrest
    cases hcreate with
    | @create _ new _ _ _ hbodies =>
      refine ⟨diff, added, new, by simp, hdiff, ?_⟩
      exact ⟨rfl, by simp [hdeletions], hbodies, rfl⟩

/-- The program allows a run enough listings for all comments that a host can hold. -/
theorem length_lt_maxListings (hids : (cs.map Posted.id).Nodup) : cs.length < maxListings := by
  have hfin : ((cs.map Posted.id).map UInt64.toFin).Nodup :=
    hids.map fun a b h => UInt64.toFin_inj.mp h
  have hcard := hfin.length_le_card
  simp only [List.length_map, Fintype.card_fin] at hcard
  exact Nat.lt_of_le_of_lt hcard (by decide)

theorem Run.of_path (r : Run) (hsize : 1 ≤ pageSize) (hids : (before.map Posted.id).Nodup)
    (hpath : Path pageSize before (r.result identifier).2 after) :
    ∃ diff added posted, Event.fetched (.ok diff) ∈ (r.result identifier).2 ∧
      UnifiedDiff.addedLines diff = .ok added ∧
      Replaced (marker identifier) (r.batch identifier added) posted before after
        (r.result identifier) := by
  obtain ⟨outcome, events, hrun, hpublishes⟩ :=
    publish_run r.oracle maxListings r.diagnostics r.analysisRoot r.cwd identifier
  have hresult : r.result identifier = (outcome, events) := hrun
  rw [hresult] at hpath ⊢
  exact hpublishes.of_path hsize hids hpath (length_lt_maxListings hids)

/-- A run keeps the comments that are not marked, and adds no such comment. -/
theorem Run.unmarked_eq (r : Run) (hsize : 1 ≤ pageSize) (hids : (before.map Posted.id).Nodup)
    (hpath : Path pageSize before (r.result identifier).2 after) :
    unmarked (marker identifier) after =
      unmarked (marker identifier) before := by
  obtain ⟨diff, added, posted, -, -, hreplaced⟩ := r.of_path hsize hids hpath
  rw [hreplaced.after, unmarked_append, unmarked_unmarked,
    unmarked_posted_eq_nil hreplaced.bodies, List.append_nil]

theorem Runs.unmarked_eq (h : Runs pageSize identifier cs rs after) (hsize : 1 ≤ pageSize)
    (hids : (cs.map Posted.id).Nodup) :
    (after.map Posted.id).Nodup ∧
      unmarked (marker identifier) after =
        unmarked (marker identifier) cs := by
  induction h with
  | nil => exact ⟨hids, rfl⟩
  | @cons _ _ _ _ r hpath _ ih =>
    obtain ⟨hafter, hunmarked⟩ := ih (hpath.nodup_ids hids)
    exact ⟨hafter, hunmarked.trans (r.unmarked_eq hsize hids hpath)⟩

end

/-- **Runs of one tool replace each other's comments.** Each ends, deletes exactly the marked
comments, and reports what it did; after the last one the host holds the comments that were not
marked at first, in their order, and then those of the last batch. -/
theorem publish_replaces {pageSize : Nat} {identifier : String} {cs before after : List Posted}
    {rs : List Run} {last : Run} (hsize : 1 ≤ pageSize) (hids : (cs.map Posted.id).Nodup)
    (hruns : Runs pageSize identifier cs rs before)
    (hlast : Path pageSize before (last.result identifier).2 after) :
    ∃ diff added posted, Event.fetched (.ok diff) ∈ (last.result identifier).2 ∧
      UnifiedDiff.addedLines diff = .ok added ∧
      Replaced (marker identifier) (last.batch identifier added) posted before after
        (last.result identifier) ∧
      after = unmarked (marker identifier) cs ++ posted := by
  obtain ⟨hbefore, hunmarked⟩ := hruns.unmarked_eq hsize hids
  obtain ⟨diff, added, posted, hfetched, hadded, hreplaced⟩ := last.of_path hsize hbefore hlast
  exact ⟨diff, added, posted, hfetched, hadded, hreplaced, by rw [hreplaced.after, hunmarked]⟩

/-- Two comments, the second of which is one that a run for a diagnostic without a message posts. -/
def twoComments (id : UInt64) : List Posted := [⟨1, none⟩, ⟨id, some (marker "lint" ++ "\n[lint]")⟩]

/-- A run for one diagnostic, whose line the diff adds, against a host that has these comments on
pages of one. -/
def runOnTwoComments (id : UInt64) : Run where
  oracle :=
    { list := fun past page =>
        if page = 1 then .ok ⟨slice 1 1 (twoComments id), true⟩
        else .ok ⟨if past.length = 1 then slice 1 2 (twoComments id) else [], false⟩
      delete := fun _ _ => .ok ()
      diff := fun _ => .ok "+++ b/a\n@@ -0,0 +1 @@\n+x\n"
      create := fun _ _ _ => .ok () }
  diagnostics := [{ path := some "a", line := some 1 }]
  analysisRoot := "."
  cwd := "/"

theorem path_twoComments (id new : UInt64) (batch : Batch) (hid : id ≠ 1) (hnew : new ≠ 1)
    (hbatch : batch.comments.map (some ·.body) = [some (marker "lint" ++ "\n[lint]")]) :
    Path 1 (twoComments id)
      [.listed 1 (.ok ⟨[⟨1, none⟩], true⟩), .listed 2 (.ok ⟨slice 1 2 (twoComments id), false⟩),
        .deleted id (.ok ()), .listed 2 (.ok ⟨[], false⟩),
        .fetched (.ok "+++ b/a\n@@ -0,0 +1 @@\n+x\n"), .created batch (marker "lint") (.ok ())]
      (twoComments new) := by
  have hdiff : UnifiedDiff.addedLines "+++ b/a\n@@ -0,0 +1 @@\n+x\n" = .ok ⟨[("a", [1])]⟩ := rfl
  have hdelete : Step 1 (twoComments id) (.deleted id (.ok ())) [⟨1, none⟩] := by
    have hfilter : (twoComments id).filter (·.id ≠ id) = [⟨1, none⟩] := by
      simp [twoComments, hid.symm]
    exact hfilter ▸ .delete
  have hcreate : Step 1 [⟨1, none⟩] (.created batch (marker "lint") (.ok ())) (twoComments new) :=
    .create (by simp [hnew.symm]) hbatch.symm
  exact .cons (.list ⟨fun _ => rfl, by simp [slice, twoComments]⟩) <|
    .cons (.list ⟨by simp [twoComments], fun _ => rfl⟩) <| .cons hdelete <|
    .cons (.list ⟨by simp, fun _ => rfl⟩) <| .cons (.fetch hdiff) <| .cons hcreate .nil

/-- Two runs, the second of which replaces the comment of the first. -/
theorem publish_replaces_twoComments :
    1 ≤ 1 ∧ ((twoComments 7).map Posted.id).Nodup ∧
      Runs 1 "lint" (twoComments 7) [runOnTwoComments 7] (twoComments 8) ∧
      Path 1 (twoComments 8) ((runOnTwoComments 8).result "lint").2 (twoComments 9) ∧
      ∃ diff added posted, Event.fetched (.ok diff) ∈ ((runOnTwoComments 8).result "lint").2 ∧
        UnifiedDiff.addedLines diff = .ok added ∧
        Replaced (marker "lint") ((runOnTwoComments 8).batch "lint" added) posted (twoComments 8)
          (twoComments 9) ((runOnTwoComments 8).result "lint") ∧
        twoComments 9 = unmarked (marker "lint") (twoComments 7) ++ posted := by
  have hids : ((twoComments 7).map Posted.id).Nodup := by decide
  have hfirst : Path 1 (twoComments 7) ((runOnTwoComments 7).result "lint").2 (twoComments 8) :=
    path_twoComments 7 8 ((runOnTwoComments 7).batch "lint" ⟨[("a", [1])]⟩) (by decide) (by decide)
      rfl
  have hlast : Path 1 (twoComments 8) ((runOnTwoComments 8).result "lint").2 (twoComments 9) :=
    path_twoComments 8 9 ((runOnTwoComments 8).batch "lint" ⟨[("a", [1])]⟩) (by decide) (by decide)
      rfl
  have hruns : Runs 1 "lint" (twoComments 7) [runOnTwoComments 7] (twoComments 8) :=
    .cons hfirst .nil
  exact ⟨Nat.le_refl 1, hids, hruns, hlast, publish_replaces (Nat.le_refl 1) hids hruns hlast⟩

end LintReview.Review

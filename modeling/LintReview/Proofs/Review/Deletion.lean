import LintReview.Proofs.Review.LiveHost
import Mathlib.Data.Finset.Card

/-! The deletions of a run, against a host that may answer anything: its listings may keep showing
what was deleted, repeat comments, or change between two calls. No identifier is asked for twice
(`Clears.nodup_deletions`), and only marked comments of the last listing are (`Clears.shown`). The
listings come to an end where the pages do (`Clears.countP_isListing_le`), because each one
deletes a further identifier or moves on to the next page. **On a listing that never changes, every
marked comment is deleted once** (`deleteMarked_once`). -/

namespace LintReview.Review

/-- Whether a call asks for a page. -/
def Event.isListing : Event → Bool
  | .listed .. => true
  | _ => false

/-- Each deletion is of a comment that the last listing before it has shown with the marker. -/
def DeletesShown (marker : String) (events : List Event) : Prop :=
  ∀ before id answer after, events = before ++ .deleted id answer :: after →
    ∃ earlier page listing deletions,
      before = earlier ++ .listed page (.ok listing) :: deletions ∧
      (∀ event ∈ deletions, event.isListing = false) ∧
      ∃ c ∈ listing.comments, c.id = id ∧
        ∃ body, c.body = some body ∧ marker.toList <:+: body.toList

/-- The identifiers of the marked comments. -/
def markedIds (marker : String) (cs : List Posted) : Finset UInt64 :=
  ((marked marker cs).map Posted.id).toFinset

/-- What is answered for a page of a listing that deletions do not change. -/
def stalePage (pages : List (List Posted)) (page : Nat) : Page where
  comments := pages[page - 1]?.getD []
  hasNext := decide (page < pages.length)

/-- The host answers listings with these pages all the time, and lets everything be deleted. -/
def Event.IsStale (pages : List (List Posted)) : Event → Prop
  | .listed page answer => answer = .ok (stalePage pages page)
  | .deleted _ answer => answer = .ok ()
  | _ => True

theorem mem_markedIds_iff {marker : String} {cs : List Posted} {id : UInt64} :
    id ∈ markedIds marker cs ↔ ∃ c ∈ marked marker cs, c.id = id := by
  simp [markedIds]

theorem mem_flatten_of_mem_stalePage {pages : List (List Posted)} {page : Nat} {c : Posted}
    (h : c ∈ (stalePage pages page).comments) : c ∈ pages.flatten := by
  unfold stalePage at h
  cases hcomments : pages[page - 1]? with
  | none =>
    rw [hcomments] at h
    cases h
  | some comments =>
    rw [hcomments] at h
    exact List.mem_flatten.mpr ⟨comments, List.mem_of_getElem? hcomments, h⟩

/-- What holds of the pages before one and of this one holds of those before the next. -/
theorem forall_mem_take {p : List Posted → Prop} {pages : List (List Posted)} {page : Nat}
    (hpage : 1 ≤ page) (hbefore : ∀ comments ∈ pages.take (page - 1), p comments)
    (hthis : p (stalePage pages page).comments) :
    ∀ comments ∈ pages.take (page + 1 - 1), p comments := by
  intro comments hcomments
  obtain ⟨page, rfl⟩ := Nat.exists_eq_add_of_le' hpage
  simp only [Nat.add_sub_cancel, List.take_add_one] at hcomments hbefore
  rcases List.mem_append.mp hcomments with hcomments | hcomments
  · exact hbefore comments hcomments
  · have hget : pages[page]? = some comments := Option.mem_toList.mp hcomments
    simpa [stalePage, hget] using hthis

theorem isMarked_iff {marker : String} {c : Posted} :
    c.isMarked marker = true ↔ ∃ body, c.body = some body ∧ marker.toList <:+: body.toList := by
  simp only [Posted.isMarked, Option.any_eq_true, Text.contains_iff]

theorem length_le_card {known : List UInt64} {ids : Finset UInt64} (hnodup : known.Nodup)
    (hknown : ∀ id ∈ known, id ∈ ids) : known.length ≤ ids.card := by
  rw [← List.toFinset_card_of_nodup hnodup]
  exact Finset.card_le_card fun id hid => hknown id (List.mem_toFinset.mp hid)

/-! ## One listing -/

section

variable {marker : String} {cs : List Posted} {deleted now : List UInt64} {events : List Event}
  {result : Except CallError (List UInt64)}

theorem Deletes.nodup_deletions (h : Deletes marker cs deleted events result) :
    (events.filterMap Event.deletion?).Nodup ∧
      ∀ id ∈ events.filterMap Event.deletion?, id ∉ deleted := by
  induction h with
  | nil => exact ⟨.nil, fun _ hid => nomatch hid⟩
  | skip _ _ ih => exact ih
  | @delete _ deleted _ _ c hnew _ _ ih =>
    obtain ⟨hnodup, hfresh⟩ := ih
    rw [List.filterMap_cons_some deletion?_deleted]
    refine ⟨List.nodup_cons.mpr ⟨?_, hnodup⟩, ?_⟩
    · intro hmem
      exact hfresh _ hmem List.mem_cons_self
    · intro id hid hdeleted
      rcases List.mem_cons.mp hid with rfl | hid
      · exact hnew hdeleted
      · exact hfresh id hid (List.mem_cons_of_mem _ hdeleted)
  | @refused _ c _ _ hnew _ =>
    refine ⟨List.nodup_singleton c.id, fun id hid => ?_⟩
    cases List.mem_singleton.mp hid
    exact hnew

/-- Deletions that succeed are remembered. -/
theorem Deletes.now_eq (h : Deletes marker cs deleted events result) (hok : result = .ok now) :
    now = (events.filterMap Event.deletion?).reverse ++ deleted := by
  induction h with
  | nil => cases hok; rfl
  | skip _ _ ih => exact ih hok
  | delete _ _ _ ih =>
    rw [ih hok, List.filterMap_cons_some deletion?_deleted, List.reverse_cons, List.append_assoc]
    rfl
  | refused => cases hok

theorem Deletes.exists_marked (h : Deletes marker cs deleted events result) :
    ∀ event ∈ events, ∃ c ∈ marked marker cs, ∃ answer, event = .deleted c.id answer := by
  induction h with
  | nil => exact fun _ h => nomatch h
  | @skip _ _ _ _ c _ _ ih =>
    intro event hevent
    obtain ⟨c', hc', answer, rfl⟩ := ih event hevent
    exact ⟨c', (List.Sublist.filter _ (List.sublist_cons_self c _)).subset hc', answer, rfl⟩
  | @delete _ _ _ _ c _ hmarked _ ih =>
    intro event hevent
    rw [marked_cons_of_pos hmarked]
    rcases List.mem_cons.mp hevent with rfl | hevent
    · exact ⟨c, List.mem_cons_self, .ok (), rfl⟩
    · obtain ⟨c', hc', answer, rfl⟩ := ih event hevent
      exact ⟨c', List.mem_cons_of_mem _ hc', answer, rfl⟩
  | @refused _ c _ e _ hmarked =>
    intro event hevent
    cases List.mem_singleton.mp hevent
    rw [marked_cons_of_pos hmarked]
    exact ⟨c, List.mem_cons_self, .error e, rfl⟩

/-- After the deletions for a listing no marked comment of it is left to delete. -/
theorem Deletes.mem_now (h : Deletes marker cs deleted events result) (hok : result = .ok now) :
    ∀ c ∈ marked marker cs, c.id ∈ now := by
  induction h with
  | nil => exact fun _ h => nomatch h
  | @skip deleted cs events _ c hskip hrest ih =>
    intro c' hc'
    by_cases hmarked : c.isMarked marker = true
    · rw [marked_cons_of_pos hmarked] at hc'
      rcases List.mem_cons.mp hc' with rfl | hc'
      · have hdeleted : c'.id ∈ deleted := by_contra fun hnew => hskip ⟨hnew, hmarked⟩
        rw [hrest.now_eq hok]
        exact List.mem_append_right _ hdeleted
      · exact ih hok c' hc'
    · rw [marked_cons_of_neg hmarked] at hc'
      exact ih hok c' hc'
  | @delete _ deleted _ _ c _ hmarked hrest ih =>
    intro c' hc'
    rw [marked_cons_of_pos hmarked] at hc'
    rcases List.mem_cons.mp hc' with rfl | hc'
    · rw [hrest.now_eq hok]
      exact List.mem_append_right _ List.mem_cons_self
    · exact ih hok c' hc'
  | refused => cases hok

theorem Deletes.nodup_now (h : Deletes marker cs deleted events (.ok now))
    (hnodup : deleted.Nodup) : now.Nodup := by
  obtain ⟨hasked, hfresh⟩ := h.nodup_deletions
  rw [h.now_eq rfl]
  refine List.nodup_append.mpr ⟨List.nodup_reverse.mpr hasked, hnodup, ?_⟩
  rintro id hid _ hdeleted rfl
  exact hfresh id (List.mem_reverse.mp hid) hdeleted

/-- What has been deleted after a listing was deleted before or is marked on it. -/
theorem Deletes.forall_mem_now {p : UInt64 → Prop} (h : Deletes marker cs deleted events (.ok now))
    (hdeleted : ∀ id ∈ deleted, p id) (hmarked : ∀ c ∈ marked marker cs, p c.id) :
    ∀ id ∈ now, p id := by
  intro id hid
  rw [h.now_eq rfl] at hid
  rcases List.mem_append.mp hid with hid | hid
  · obtain ⟨event, hevent, hdeletion⟩ := List.mem_filterMap.mp (List.mem_reverse.mp hid)
    obtain ⟨c, hc, answer, rfl⟩ := h.exists_marked event hevent
    cases hdeletion
    exact hmarked c hc
  · exact hdeleted id hid

theorem Deletes.sublist_now (h : Deletes marker cs deleted events (.ok now)) :
    deleted.Sublist now := by
  rw [h.now_eq rfl]
  exact List.sublist_append_right ..

theorem Deletes.forall_mem_now_of_mem {shown : List (List Posted)}
    (h : Deletes marker cs deleted events (.ok now))
    (hshown : ∀ comments ∈ shown, ∀ c ∈ marked marker comments, c.id ∈ deleted) :
    ∀ comments ∈ shown, ∀ c ∈ marked marker comments, c.id ∈ now :=
  fun comments hcomments c hc => h.sublist_now.subset (hshown comments hcomments c hc)

/-- What a group of calls deletes is remembered by those that follow. -/
theorem Deletes.reverse_deletions_append {page : Nat} {answer : Except CallError Page}
    {rest : List Event} (h : Deletes marker cs deleted events (.ok now)) :
    ((.listed page answer :: (events ++ rest)).filterMap Event.deletion?).reverse ++ deleted =
      (rest.filterMap Event.deletion?).reverse ++ now := by
  rw [h.now_eq rfl, List.filterMap_cons_none deletion?_listed, List.filterMap_append,
    List.reverse_append, List.append_assoc]

theorem Deletes.isListing_eq_false (h : Deletes marker cs deleted events result) :
    ∀ event ∈ events, event.isListing = false := by
  intro event hevent
  obtain ⟨c, -, answer, rfl⟩ := h.exists_marked event hevent
  rfl

theorem Deletes.countP_isListing (h : Deletes marker cs deleted events result) :
    events.countP Event.isListing = 0 := by
  refine List.countP_eq_zero.mpr fun event hevent => ?_
  rw [h.isListing_eq_false event hevent]
  exact Bool.false_ne_true

end

/-! ## All listings -/

section

variable {marker : String} {listings page : Nat} {deleted : List UInt64}
  {events rest : List Event} {outcome : Outcome Nat}

theorem Clears.nodup_deletions (h : Clears marker listings page deleted events outcome) :
    (events.filterMap Event.deletion?).Nodup ∧
      ∀ id ∈ events.filterMap Event.deletion?, id ∉ deleted := by
  induction h with
  | unfinished | refused => exact ⟨.nil, fun _ hid => nomatch hid⟩
  | stuck hdeletes | done hdeletes => exact hdeletes.nodup_deletions
  | again hdeletes _ _ ih | next hdeletes _ _ _ ih =>
    obtain ⟨hnodup, hfresh⟩ := hdeletes.nodup_deletions
    obtain ⟨hnodup', hfresh'⟩ := ih
    rw [hdeletes.now_eq rfl] at hfresh'
    rw [List.filterMap_cons_none deletion?_listed, List.filterMap_append]
    refine ⟨List.nodup_append.mpr ⟨hnodup, hnodup', ?_⟩, ?_⟩
    · rintro id hid _ hid' rfl
      exact hfresh' id hid' (List.mem_append_left _ (List.mem_reverse.mpr hid))
    · intro id hid hdeleted
      rcases List.mem_append.mp hid with hid | hid
      · exact hfresh id hid hdeleted
      · exact hfresh' id hid (List.mem_append_right _ hdeleted)

theorem DeletesShown.nil : DeletesShown marker [] := by
  intro before id answer after hevents
  cases List.append_eq_nil_iff.mp hevents.symm |>.2

theorem DeletesShown.append (h : DeletesShown marker events) (h' : DeletesShown marker rest) :
    DeletesShown marker (events ++ rest) := by
  intro before id answer after hevents
  rcases List.append_eq_append_iff.mp hevents with ⟨mid, rfl, hrest⟩ | ⟨mid, rfl, hmid⟩
  · obtain ⟨earlier, page, listing, deletions, rfl, hshown⟩ := h' mid id answer after hrest
    exact ⟨events ++ earlier, page, listing, deletions, (List.append_assoc ..).symm, hshown⟩
  · cases mid with
    | nil =>
      -- A deletion cannot come first, before any listing.
      obtain ⟨earlier, page, listing, deletions, hnil, -⟩ := h' [] id answer after hmid.symm
      cases (List.append_eq_nil_iff.mp hnil.symm).2
    | cons event mid =>
      cases hmid
      exact h before id answer mid rfl

theorem Deletes.shown {listing : Page} {result : Except CallError (List UInt64)}
    (h : Deletes marker listing.comments deleted events result) :
    DeletesShown marker (.listed page (.ok listing) :: events) := by
  intro before id answer after hevents
  cases before with
  | nil => cases hevents
  | cons event before =>
    cases hevents
    obtain ⟨c, hc, answer', heq⟩ := h.exists_marked (.deleted id answer) (by simp)
    cases heq
    obtain ⟨hmem, hmarked⟩ := List.mem_filter.mp hc
    refine ⟨[], page, listing, before, rfl, ?_, c, hmem, rfl, isMarked_iff.mp hmarked⟩
    intro event hevent
    exact h.isListing_eq_false event (List.mem_append_left _ hevent)

theorem Clears.shown (h : Clears marker listings page deleted events outcome) :
    DeletesShown marker events := by
  induction h with
  | unfinished => exact .nil
  | refused =>
    intro before id answer after hevents
    cases before with
    | nil => cases hevents
    | cons _ before => cases List.append_eq_nil_iff.mp (List.cons.inj hevents).2.symm |>.2
  | stuck hdeletes | done hdeletes => exact hdeletes.shown
  | again hdeletes _ _ ih | next hdeletes _ _ _ ih => exact hdeletes.shown.append ih

/-- A listing that comes to an end is asked for once for every page, and once more for every
identifier that may be deleted. -/
theorem Clears.countP_isListing_le {ids : Finset UInt64} {lastPage : Nat}
    (h : Clears marker listings page deleted events outcome)
    (hpage : page ≤ lastPage) (hnodup : deleted.Nodup) (hdeleted : ∀ id ∈ deleted, id ∈ ids)
    (hlisted : ∀ page listing, Event.listed page (.ok listing) ∈ events →
      (∀ c ∈ marked marker listing.comments, c.id ∈ ids) ∧
        (lastPage ≤ page → listing.hasNext = false)) :
    events.countP Event.isListing + page + deleted.length ≤ ids.card + lastPage + 1 ∧
      (ids.card + lastPage + 1 ≤ listings + page + deleted.length → outcome ≠ .unfinished) := by
  induction h with
  | unfinished =>
    have hlength := length_le_card hnodup hdeleted
    rw [List.countP_nil]
    omega
  | refused =>
    have hlength := length_le_card hnodup hdeleted
    refine ⟨?_, fun _ houtcome => nomatch houtcome⟩
    rw [List.countP_cons_of_pos rfl, List.countP_nil]
    omega
  | stuck hdeletes | done hdeletes =>
    have hlength := length_le_card hnodup hdeleted
    refine ⟨?_, fun _ houtcome => nomatch houtcome⟩
    rw [List.countP_cons_of_pos rfl, hdeletes.countP_isListing]
    omega
  | @again _ _ _ _ page _ _ listing hdeletes hne _ ih =>
    obtain ⟨hmarked, -⟩ := hlisted page listing List.mem_cons_self
    obtain ⟨hcount, hends⟩ := ih hpage (hdeletes.nodup_now hnodup)
      (hdeletes.forall_mem_now hdeleted hmarked) fun page listing hmem =>
        hlisted page listing (List.mem_cons_of_mem _ (List.mem_append_right _ hmem))
    have hle := hdeletes.sublist_now.length_le
    rw [List.countP_cons_of_pos rfl, List.countP_append, hdeletes.countP_isListing]
    exact ⟨by omega, fun hlistings => hends (by omega)⟩
  | @next _ _ _ _ page _ _ listing hdeletes heq hnext _ ih =>
    obtain ⟨hmarked, hlast⟩ := hlisted page listing List.mem_cons_self
    have hlt : page < lastPage := by
      by_contra hle
      cases hnext.symm.trans (hlast (Nat.not_lt.mp hle))
    obtain ⟨hcount, hends⟩ := ih hlt (hdeletes.nodup_now hnodup)
      (hdeletes.forall_mem_now hdeleted hmarked) fun page listing hmem =>
        hlisted page listing (List.mem_cons_of_mem _ (List.mem_append_right _ hmem))
    rw [List.countP_cons_of_pos rfl, List.countP_append, hdeletes.countP_isListing]
    exact ⟨by omega, fun hlistings => hends (by omega)⟩

/-! ## A listing that never changes -/

theorem Deletes.ne_error {pages : List (List Posted)} {cs : List Posted}
    {result : Except CallError (List UInt64)} (h : Deletes marker cs deleted events result)
    (hstale : ∀ event ∈ events, event.IsStale pages) (e : CallError) : result ≠ .error e := by
  induction h with
  | nil => exact fun h => nomatch h
  | skip _ _ ih => exact ih hstale
  | delete _ _ _ ih => exact ih fun event hevent => hstale event (List.mem_cons_of_mem _ hevent)
  | refused => cases hstale _ List.mem_cons_self

/-- The identifiers that are asked for all stand on the pages, with the marker. -/
theorem Clears.mem_markedIds {pages : List (List Posted)}
    (h : Clears marker listings page deleted events outcome)
    (hstale : ∀ event ∈ events, event.IsStale pages) :
    ∀ id ∈ events.filterMap Event.deletion?, id ∈ markedIds marker pages.flatten := by
  intro id hid
  obtain ⟨event, hevent, hdeletion⟩ := List.mem_filterMap.mp hid
  cases event with
  | deleted id' answer =>
    cases hdeletion
    obtain ⟨before, after, rfl⟩ := List.append_of_mem hevent
    obtain ⟨earlier, page, listing, deletions, rfl, -, c, hc, rfl, hbody⟩ :=
      h.shown before id answer after rfl
    have hlisting : (.ok listing : Except CallError Page) = .ok (stalePage pages page) :=
      hstale (.listed page (.ok listing)) (by simp)
    cases hlisting
    refine mem_markedIds_iff.mpr ⟨c, List.mem_filter.mpr ⟨?_, isMarked_iff.mpr hbody⟩, rfl⟩
    exact mem_flatten_of_mem_stalePage hc
  | listed | fetched | created => cases hdeletion

/-- Once a listing that never changes has been gone through, its marked comments are deleted. -/
theorem Clears.done_of_stale {pages : List (List Posted)}
    (h : Clears marker listings page deleted events outcome)
    (hstale : ∀ event ∈ events, event.IsStale pages) (hends : outcome ≠ .unfinished)
    (hpage : 1 ≤ page)
    (hbefore : ∀ comments ∈ pages.take (page - 1), ∀ c ∈ marked marker comments, c.id ∈ deleted) :
    outcome = .done ((events.filterMap Event.deletion?).reverse ++ deleted).length ∧
      ∀ comments ∈ pages, ∀ c ∈ marked marker comments,
        c.id ∈ (events.filterMap Event.deletion?).reverse ++ deleted := by
  induction h with
  | unfinished => exact absurd rfl hends
  | refused => cases hstale _ List.mem_cons_self
  | stuck hdeletes =>
    have hok := hdeletes.ne_error fun event hevent => hstale event (List.mem_cons_of_mem _ hevent)
    exact absurd rfl (hok _)
  | @again deleted events now _ page rest _ listing hdeletes _ _ ih =>
    have hrest := ih
      (fun event hevent => hstale event (List.mem_cons_of_mem _ (List.mem_append_right _ hevent)))
      hends hpage (hdeletes.forall_mem_now_of_mem hbefore)
    rwa [← hdeletes.reverse_deletions_append] at hrest
  | @next deleted events now _ page rest _ listing hdeletes heq _ _ ih =>
    have hlisting : (.ok listing : Except CallError Page) = .ok (stalePage pages page) :=
      hstale _ List.mem_cons_self
    cases hlisting
    have hshown := forall_mem_take hpage (hdeletes.forall_mem_now_of_mem hbefore)
      (hdeletes.mem_now rfl)
    have hrest := ih
      (fun event hevent => hstale event (List.mem_cons_of_mem _ (List.mem_append_right _ hevent)))
      hends (Nat.le_add_left ..) hshown
    rwa [← hdeletes.reverse_deletions_append] at hrest
  | @done deleted events now _ page listing hdeletes heq hlast =>
    have hlisting : (.ok listing : Except CallError Page) = .ok (stalePage pages page) :=
      hstale _ List.mem_cons_self
    cases hlisting
    have hshown := forall_mem_take (p := fun comments => ∀ c ∈ marked marker comments, c.id ∈ now)
      hpage (hdeletes.forall_mem_now_of_mem hbefore) (hdeletes.mem_now rfl)
    have hpages : pages.length ≤ page := Nat.not_lt.mp (of_decide_eq_false hlast)
    rw [Nat.add_sub_cancel, List.take_of_length_le hpages] at hshown
    rw [List.filterMap_cons_none deletion?_listed, ← hdeletes.now_eq rfl]
    exact ⟨rfl, hshown⟩

theorem Clears.of_stale {pages : List (List Posted)}
    (h : Clears marker listings 1 [] events outcome)
    (hstale : ∀ event ∈ events, event.IsStale pages)
    (hlistings : (markedIds marker pages.flatten).card + max 1 pages.length ≤ listings) :
    outcome = .done (markedIds marker pages.flatten).card ∧
      (events.filterMap Event.deletion?).toFinset = markedIds marker pages.flatten := by
  have hends : outcome ≠ .unfinished := by
    refine (h.countP_isListing_le (Nat.le_max_left 1 pages.length) .nil (fun _ h => nomatch h)
      fun page listing hmem => ?_).2 (Nat.add_le_add_right hlistings 1)
    have hlisting : (.ok listing : Except CallError Page) = .ok (stalePage pages page) :=
      hstale _ hmem
    cases hlisting
    refine ⟨fun c hc => ?_, fun hle => decide_eq_false ?_⟩
    · obtain ⟨hmem, hmarked⟩ := List.mem_filter.mp hc
      exact mem_markedIds_iff.mpr
        ⟨c, List.mem_filter.mpr ⟨mem_flatten_of_mem_stalePage hmem, hmarked⟩, rfl⟩
    · exact Nat.not_lt.mpr ((Nat.le_max_right ..).trans hle)
  obtain ⟨hdone, hall⟩ := h.done_of_stale hstale hends (Nat.le_refl 1) fun _ h => nomatch h
  rw [List.append_nil, List.length_reverse] at hdone
  have hids : (events.filterMap Event.deletion?).toFinset = markedIds marker pages.flatten := by
    ext id
    rw [List.mem_toFinset]
    refine ⟨h.mem_markedIds hstale id, fun hid => ?_⟩
    obtain ⟨c, hc, rfl⟩ := mem_markedIds_iff.mp hid
    obtain ⟨hmem, hmarked⟩ := List.mem_filter.mp hc
    obtain ⟨comments, hcomments, hmem⟩ := List.mem_flatten.mp hmem
    have hasked := hall comments hcomments c (List.mem_filter.mpr ⟨hmem, hmarked⟩)
    rwa [List.append_nil, List.mem_reverse] at hasked
  obtain ⟨hnodup, -⟩ := h.nodup_deletions
  rw [hdone, ← hids, List.toFinset_card_of_nodup hnodup]
  exact ⟨rfl, rfl⟩

end

/-- **Whatever the host answers**, no identifier is asked for twice, and only marked comments of the
last listing are. The listings end where the identifiers and the pages do. If they never change,
exactly the marked comments are deleted, each of them once. -/
theorem deleteMarked_once (o : Oracle) (marker : String) (listings : Nat) :
    let run := (deleteMarked o.host marker listings 1 []).run []
    let asked := run.2.filterMap Event.deletion?
    asked.Nodup ∧ DeletesShown marker run.2 ∧
    (∀ (ids : Finset UInt64) (lastPage : Nat), 1 ≤ lastPage →
      (∀ page listing, Event.listed page (.ok listing) ∈ run.2 →
        (∀ c ∈ listing.comments, c.id ∈ ids) ∧ (lastPage ≤ page → listing.hasNext = false)) →
      run.2.countP Event.isListing ≤ ids.card + lastPage ∧
        (ids.card + lastPage ≤ listings → run.1 ≠ .unfinished)) ∧
    ∀ pages : List (List Posted), (∀ event ∈ run.2, event.IsStale pages) →
      let ids := markedIds marker pages.flatten
      ids.card + max 1 pages.length ≤ listings →
      run.1 = .done ids.card ∧ ∀ id, asked.count id = if id ∈ ids then 1 else 0 := by
  obtain ⟨outcome, events, hrun, hclears⟩ := deleteMarked_run o marker listings 1 [] []
  rw [List.nil_append] at hrun
  simp only [hrun]
  obtain ⟨hnodup, -⟩ := hclears.nodup_deletions
  refine ⟨hnodup, hclears.shown, ?_, ?_⟩
  · intro ids lastPage hlast hlisted
    obtain ⟨hcount, hends⟩ := hclears.countP_isListing_le hlast .nil (fun _ h => nomatch h)
      fun page listing hmem =>
        ⟨fun c hc => (hlisted page listing hmem).1 c (List.mem_of_mem_filter hc),
          (hlisted page listing hmem).2⟩
    rw [List.length_nil] at hcount hends
    exact ⟨by omega, fun hlistings => hends (by omega)⟩
  · intro pages hstale hlistings
    obtain ⟨hdone, hids⟩ := hclears.of_stale hstale hlistings
    refine ⟨hdone, fun id => ?_⟩
    rw [← hids, hnodup.count]
    simp only [List.mem_toFinset]

/-- Two pages that never change, with one marked comment on both. -/
def repeatingPages : List (List Posted) :=
  [[⟨1, some (marker "lint")⟩, ⟨2, none⟩], [⟨1, some (marker "lint")⟩, ⟨3, some (marker "lint")⟩]]

def repeatingHost : Oracle where
  list _ page := .ok (stalePage repeatingPages page)
  delete _ _ := .ok ()
  diff _ := .ok ""
  create _ _ _ := .ok ()

/-- The comment that is on both pages is deleted once. -/
theorem deleteMarked_once_repeatingPages :
    let run := (deleteMarked repeatingHost.host (marker "lint") 5 1 []).run []
    let asked := run.2.filterMap Event.deletion?
    let ids : Finset UInt64 := {1, 2, 3}
    let marked := markedIds (marker "lint") repeatingPages.flatten
    1 ≤ 2 ∧
    (∀ page listing, Event.listed page (.ok listing) ∈ run.2 →
      (∀ c ∈ listing.comments, c.id ∈ ids) ∧ (2 ≤ page → listing.hasNext = false)) ∧
    (∀ event ∈ run.2, event.IsStale repeatingPages) ∧
    marked.card + max 1 repeatingPages.length ≤ 5 ∧
    asked.Nodup ∧ DeletesShown (marker "lint") run.2 ∧
    run.2.countP Event.isListing ≤ ids.card + 2 ∧ run.1 ≠ .unfinished ∧
    run.1 = .done marked.card ∧ ∀ id, asked.count id = if id ∈ marked then 1 else 0 := by
  intro run asked ids marked
  obtain ⟨hnodup, hshown, hends, hstale⟩ :=
    deleteMarked_once repeatingHost (marker "lint") 5
  have hevents : run.2 =
      [.listed 1 (.ok (stalePage repeatingPages 1)), .deleted 1 (.ok ()),
        .listed 1 (.ok (stalePage repeatingPages 1)), .listed 2 (.ok (stalePage repeatingPages 2)),
        .deleted 3 (.ok ()), .listed 2 (.ok (stalePage repeatingPages 2))] := rfl
  have hlisted : ∀ page listing, Event.listed page (.ok listing) ∈ run.2 →
      (∀ c ∈ listing.comments, c.id ∈ ids) ∧ (2 ≤ page → listing.hasNext = false) := by
    intro page listing hmem
    rw [hevents] at hmem
    have hpage : (page = 1 ∧ listing = stalePage repeatingPages 1) ∨
        (page = 2 ∧ listing = stalePage repeatingPages 2) := by simpa using hmem
    rcases hpage with ⟨rfl, rfl⟩ | ⟨rfl, rfl⟩ <;> decide
  have hnever : ∀ event ∈ run.2, event.IsStale repeatingPages := by
    rw [hevents]
    simp [Event.IsStale]
  have hcard : marked.card + max 1 repeatingPages.length ≤ 5 := by decide
  obtain ⟨hcount, hended⟩ := hends ids 2 (by decide) hlisted
  exact ⟨by decide, hlisted, hnever, hcard, hnodup, hshown, hcount, hended (by decide),
    hstale repeatingPages hnever hcard⟩

end LintReview.Review

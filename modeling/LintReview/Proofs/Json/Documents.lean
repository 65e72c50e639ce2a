import LintReview.Proofs.Json.RoundTrip

/-! What a reader of documents accepts. Each token is put on what the open frames show of the
tokens before it (`Reading.tokens_step`), so a finished reading has read the tokens of its tree.
**A text is read as a tree just if its tokens are those of the tree** (`read?_eq_some_iff`). -/

namespace LintReview.Json

/-- The text is a document, and this tree is what it says. -/
def Writes (s : String) (t : Tree) : Prop := Token.scan? s.toList = some t.tokens

/-- The tokens of a member, from its name on. -/
def memberStart (m : Option String × Tree) : List Token := .text m.1 :: .colon :: m.2.tokens

/-- The tokens of items with a comma behind each. -/
def endedItems (ts : List Tree) : List Token := ts.flatMap fun t => t.tokens ++ [.comma]

/-- The tokens of members with a comma behind each. -/
def endedMembers (ms : List (Option String × Tree)) : List Token :=
  ms.flatMap fun m => memberStart m ++ [.comma]

/-- The tokens up to the value that is missing in a frame. -/
def Frame.tokens : Frame → List Token
  | .items done => .leftBracket :: endedItems done.reverse
  | .members done name => .leftBrace :: (endedMembers done.reverse ++ [.text name, .colon])

/-- The tokens of the open frames, the outermost first. -/
def frameTokens (frames : List Frame) : List Token := frames.reverse.flatMap Frame.tokens

namespace Reading

/-- The tokens that have been read. -/
def tokens : Reading → List Token
  | value frames => frameTokens frames
  | firstItem frames => frameTokens frames ++ [.leftBracket]
  | nextItem done frames => frameTokens frames ++ .leftBracket :: Tree.tokens.itemTokens done.reverse
  | firstName frames => frameTokens frames ++ [.leftBrace]
  | nextName done frames => frameTokens frames ++ .leftBrace :: endedMembers done.reverse
  | colon done name frames =>
    frameTokens frames ++ .leftBrace :: (endedMembers done.reverse ++ [.text name])
  | nextMember done frames =>
    frameTokens frames ++ .leftBrace :: Tree.tokens.memberTokens done.reverse
  | finished t => t.tokens

/-- Where a comma may follow, something stands in front of it. -/
def Begun : Reading → Prop
  | nextItem done _ => done ≠ []
  | nextMember done _ => done ≠ []
  | _ => True

variable {r r' : Reading} {t : Token} {ts : List Token} {frames : List Frame} {tree : Tree}

/-! ## Lists of values -/

theorem itemTokens_concat (trees : List Tree) (tree : Tree) :
    Tree.tokens.itemTokens (trees ++ [tree]) = endedItems trees ++ tree.tokens := by
  induction trees with
  | nil => rfl
  | cons first trees ih =>
    obtain ⟨next, rest, hrest⟩ := List.exists_cons_of_ne_nil
      (List.append_ne_nil_of_right_ne_nil trees (List.cons_ne_nil tree []))
    rw [List.cons_append, hrest, Tree.tokens.itemTokens, ← hrest, ih]
    · simp [endedItems]
    · exact List.cons_ne_nil _ _

theorem memberTokens_concat (members : List (Option String × Tree)) (m : Option String × Tree) :
    Tree.tokens.memberTokens (members ++ [m]) = endedMembers members ++ memberStart m := by
  induction members with
  | nil => rfl
  | cons first members ih =>
    obtain ⟨next, rest, hrest⟩ := List.exists_cons_of_ne_nil
      (List.append_ne_nil_of_right_ne_nil members (List.cons_ne_nil m []))
    rw [List.cons_append, hrest, Tree.tokens.memberTokens, ← hrest, ih]
    · simp [endedMembers, memberStart]
    · exact List.cons_ne_nil _ _

theorem endedItems_reverse {done : List Tree} (h : done ≠ []) :
    endedItems done.reverse = Tree.tokens.itemTokens done.reverse ++ [.comma] := by
  cases done with
  | nil => exact absurd rfl h
  | cons t done => rw [List.reverse_cons, itemTokens_concat]; simp [endedItems]

theorem endedMembers_reverse {done : List (Option String × Tree)} (h : done ≠ []) :
    endedMembers done.reverse = Tree.tokens.memberTokens done.reverse ++ [.comma] := by
  cases done with
  | nil => exact absurd rfl h
  | cons m done => rw [List.reverse_cons, memberTokens_concat]; simp [endedMembers]

/-! ## Steps -/

theorem frameTokens_cons (frame : Frame) (frames : List Frame) :
    frameTokens (frame :: frames) = frameTokens frames ++ frame.tokens := by
  simp [frameTokens]

theorem tokens_place (tree : Tree) (frames : List Frame) :
    (place tree frames).Begun ∧ (place tree frames).tokens = frameTokens frames ++ tree.tokens := by
  cases frames with
  | nil => exact ⟨trivial, rfl⟩
  | cons frame frames =>
    cases frame with
    | items done =>
      refine ⟨List.cons_ne_nil _ _, ?_⟩
      rw [place, tokens, List.reverse_cons, itemTokens_concat, frameTokens_cons, Frame.tokens]
      simp
    | members done name =>
      refine ⟨List.cons_ne_nil _ _, ?_⟩
      rw [place, tokens, List.reverse_cons, memberTokens_concat, frameTokens_cons, Frame.tokens]
      simp [memberStart]

theorem tokens_startValue (h : startValue frames t = some r') :
    r'.Begun ∧ r'.tokens = frameTokens frames ++ [t] := by
  cases t with
  | null => cases h; exact tokens_place .null frames
  | bool b => cases h; exact tokens_place (.bool b) frames
  | number literal => cases h; exact tokens_place (.number literal) frames
  | text text => cases h; exact tokens_place (.text text) frames
  | leftBracket => cases h; exact ⟨trivial, rfl⟩
  | leftBrace => cases h; exact ⟨trivial, rfl⟩
  | _ => cases h

/-- **What has been read grows by each token.** -/
theorem tokens_step (hr : r.Begun) (h : r.step t = some r') :
    r'.Begun ∧ r'.tokens = r.tokens ++ [t] := by
  revert h
  fun_cases step r t with
  | case1 t frames => exact tokens_startValue
  | case2 frames =>
    rintro ⟨⟩
    obtain ⟨hbegun, htokens⟩ := tokens_place (.array []) frames
    exact ⟨hbegun, by rw [htokens]; simp [tokens, Tree.tokens, Tree.tokens.itemTokens]⟩
  | case3 t frames =>
    intro h
    obtain ⟨hbegun, htokens⟩ := tokens_startValue h
    refine ⟨hbegun, ?_⟩
    rw [htokens, frameTokens_cons]
    rfl
  | case4 done frames =>
    -- A comma ends the last item, so there has to be one: this is what `Begun` is for.
    rintro ⟨⟩
    refine ⟨trivial, ?_⟩
    rw [tokens, frameTokens_cons, Frame.tokens, endedItems_reverse hr]
    simp [tokens]
  | case5 done frames =>
    rintro ⟨⟩
    obtain ⟨hbegun, htokens⟩ := tokens_place (.array done.reverse) frames
    exact ⟨hbegun, by rw [htokens]; simp [tokens, Tree.tokens]⟩
  | case6 frames =>
    rintro ⟨⟩
    obtain ⟨hbegun, htokens⟩ := tokens_place (.object []) frames
    exact ⟨hbegun, by rw [htokens]; simp [tokens, Tree.tokens, Tree.tokens.memberTokens]⟩
  | case7 frames name =>
    rintro ⟨⟩
    exact ⟨trivial, by simp [tokens, endedMembers]⟩
  | case8 done frames name =>
    rintro ⟨⟩
    exact ⟨trivial, by simp [tokens]⟩
  | case9 done name frames =>
    rintro ⟨⟩
    refine ⟨trivial, ?_⟩
    rw [tokens, frameTokens_cons, Frame.tokens]
    simp [tokens]
  | case10 done frames =>
    rintro ⟨⟩
    refine ⟨trivial, ?_⟩
    rw [tokens, endedMembers_reverse hr]
    simp [tokens]
  | case11 done frames =>
    rintro ⟨⟩
    obtain ⟨hbegun, htokens⟩ := tokens_place (.object done.reverse) frames
    exact ⟨hbegun, by rw [htokens]; simp [tokens, Tree.tokens]⟩
  | case12 =>
    intro h
    cases h

theorem tokens_run (hr : r.Begun) (h : r.run ts = some r') : r'.tokens = r.tokens ++ ts := by
  induction ts generalizing r with
  | nil =>
    cases h
    rw [List.append_nil]
  | cons t ts ih =>
    obtain ⟨next, hstep, hrun⟩ := Option.bind_eq_some_iff.mp h
    obtain ⟨hnext, htokens⟩ := tokens_step hr hstep
    rw [ih hnext hrun, htokens, List.append_assoc, List.singleton_append]

end Reading

theorem ofTokens?_eq_some_iff {ts : List Token} {t : Tree} :
    ofTokens? ts = some t ↔ ts = t.tokens := by
  constructor
  · intro h
    unfold ofTokens? at h
    split at h
    · next hrun =>
      cases h
      have hread : (Reading.finished t).tokens = (Reading.value []).tokens ++ ts :=
        Reading.tokens_run trivial hrun
      exact hread.symm
    · cases h
  · rintro rfl
    exact ofTokens?_tokens t

/-- **A text is read as a tree just if it is a document that says this tree.** -/
theorem read?_eq_some_iff {s : String} {t : Tree} : read? s = some t ↔ Writes s t := by
  rw [read?, Option.bind_eq_some_iff]
  simp only [ofTokens?_eq_some_iff, exists_eq_right]
  rfl

theorem writes_compact {t : Tree} {bound : Nat} (h : t.Plain bound) :
    Writes (String.ofList t.compact) t := by
  rw [Writes, String.toList_ofList]
  exact h.scans_compact.scan?_eq

/-- A text says one tree at most. -/
theorem Writes.unique {s : String} {t t' : Tree} (h : Writes s t) (h' : Writes s t') : t = t' :=
  Option.some.inj ((read?_eq_some_iff.mpr h).symm.trans (read?_eq_some_iff.mpr h'))

end LintReview.Json

import Mathlib.Data.List.TakeWhile
import LintReview.Json.Reader
import LintReview.Proofs.Json.Scanning

/-! Reading a document that has been written. A tree is `Plain` if it has no other leaves than texts
and whole numbers of 64 bits; these are the trees that this library writes. **A reader that keeps
the whole document gets a plain tree back from its indented text** (`readWhole?_pretty`) and from
the one without blanks (`readWhole?_compact`). Both texts scan as the tokens of the tree, the tokens
of any tree lead the reader from a place where a value must follow to that value
(`Reading.yields`), and a plain tree is within the limits of such a reader. No token of a plain tree
is a `null` (`Plain.null_notMem_tokens`). -/

namespace LintReview.Json

namespace Tree

/-- A tree of texts and 64-bit numbers, nested no deeper than the bound. -/
inductive Plain : (bound : Nat) → Tree → Prop
  | ofNat {bound n : Nat} : n < UInt64.size → Plain bound (.ofNat n)
  | ofString {bound : Nat} {s : String} : Plain bound (.ofString s)
  | array {bound : Nat} {items : List Tree} :
    (∀ t ∈ items, Plain bound t) → Plain (bound + 1) (.array items)
  | record {bound : Nat} {members : List (String × Tree)} :
    (∀ m ∈ members, Plain bound m.2) → Plain (bound + 1) (.record members)

/-- The tokens that a tree is written with. -/
def tokens : Tree → List Token
  | null => [.null]
  | bool b => [.bool b]
  | number literal => [.number literal]
  | text t => [.text t]
  | array items => .leftBracket :: (itemTokens items ++ [.rightBracket])
  | object members => .leftBrace :: (memberTokens members ++ [.rightBrace])
where
  itemTokens : List Tree → List Token
    | [] => []
    | [t] => t.tokens
    | t :: ts => t.tokens ++ .comma :: itemTokens ts
  memberTokens : List (Option String × Tree) → List Token
    | [] => []
    | [(name, t)] => .text name :: .colon :: t.tokens
    | (name, t) :: ms => .text name :: .colon :: (t.tokens ++ .comma :: memberTokens ms)

end Tree

/-! ## Texts that scan -/

/-- The text scans as these tokens, as long as what follows ends a number. -/
def Scans (s : List Char) (ts : List Token) : Prop :=
  ∀ rest, EndsNumber rest → Token.scan? (s ++ rest) = (Token.scan? rest).map (ts ++ ·)

section

variable {s s' : List Char} {ts ts' : List Token} {c : Char} {t : Token}

theorem endsNumber_cons (hc : c.isDigit = false ∧ c ≠ '.' ∧ c ≠ 'e' ∧ c ≠ 'E') :
    EndsNumber (c :: s) := by
  intro d hd
  cases hd
  exact hc

theorem EndsNumber.append (h : EndsNumber s) (h' : EndsNumber s') : EndsNumber (s ++ s') := by
  cases s with
  | nil => exact h'
  | cons c s => exact h

theorem scans_nil : Scans [] [] := by
  intro rest _
  simp only [List.nil_append, Option.map_id']

theorem Scans.append (h : Scans s ts) (h' : Scans s' ts') (hends : EndsNumber s') :
    Scans (s ++ s') (ts ++ ts') := by
  intro rest hrest
  rw [List.append_assoc, h _ (hends.append hrest), h' rest hrest, Option.map_map]
  simp only [Function.comp_def, List.append_assoc]

theorem Scans.space (h : Scans s ts) (hc : Token.isSpace c = true) : Scans (c :: s) ts := by
  intro rest hrest
  rw [List.cons_append, Token.scan?_of_isSpace hc, h rest hrest]

/-- A mark of punctuation is a token of its own. -/
theorem Scans.mark (h : Scans s ts) (hc : Token.isSpace c = false)
    (hread : ∀ rest, Token.read? (c :: rest) = some (t, rest)) : Scans (c :: s) (t :: ts) := by
  intro rest hrest
  rw [List.cons_append, Token.scan?_of_read? hc (hread _), h rest hrest, Option.map_map]
  rfl

theorem scans_digits (n : Nat) : Scans (Decimal.digits n) [.number (Decimal.digits n)] :=
  fun _ hrest => Token.scan?_digits n hrest

theorem scans_quoteText (s : String) : Scans (quoteText (some s)) [.text (some s)] :=
  fun rest _ => Token.scan?_quoteText s rest

theorem Scans.newline (h : Scans s ts) (level : Nat) : Scans (Tree.newline level ++ s) ts := by
  have hblanks : ∀ n, Scans (List.replicate n ' ' ++ s) ts := by
    intro n
    induction n with
    | zero => exact h
    | succ n ih => exact ih.space rfl
  exact (hblanks _).space rfl

theorem endsNumber_newline (level : Nat) : EndsNumber (Tree.newline level ++ s) :=
  endsNumber_cons (by decide)

end

/-! ## Plain trees -/

section

variable {level bound : Nat} {t : Tree}

theorem scans_prettyItems {items : List Tree} (h : ∀ t ∈ items, Scans (t.pretty level) t.tokens) :
    Scans (Tree.pretty.prettyItems level items) (Tree.tokens.itemTokens items) := by
  induction items with
  | nil => exact scans_nil
  | cons t ts ih =>
    obtain ⟨ht, hts⟩ := List.forall_mem_cons.mp h
    have hitem : Scans (Tree.newline level ++ t.pretty level) t.tokens := ht.newline level
    cases ts with
    | nil => exact hitem
    | cons u ts =>
      have hrest := (ih hts).mark (c := ',') rfl fun _ => rfl
      exact hitem.append hrest (endsNumber_cons (by decide))

theorem scans_member (name : String) (h : Scans (t.pretty level) t.tokens) :
    Scans (Tree.newline level ++ quoteText (some name) ++ ':' :: ' ' :: t.pretty level)
      (.text (some name) :: .colon :: t.tokens) := by
  have hvalue := (h.space (c := ' ') rfl).mark (c := ':') rfl fun _ => rfl
  exact ((scans_quoteText name).newline level).append hvalue (endsNumber_cons (by decide))

theorem scans_prettyMembers {members : List (String × Tree)}
    (h : ∀ m ∈ members, Scans (m.2.pretty level) m.2.tokens) :
    Scans (Tree.pretty.prettyMembers level (members.map fun (name, t) => (some name, t)))
      (Tree.tokens.memberTokens (members.map fun (name, t) => (some name, t))) := by
  induction members with
  | nil => exact scans_nil
  | cons m ms ih =>
    obtain ⟨hm, hms⟩ := List.forall_mem_cons.mp h
    have hmember := scans_member m.1 hm
    cases ms with
    | nil => exact hmember
    | cons n ms =>
      have hrest := (ih hms).mark (c := ',') rfl fun _ => rfl
      exact hmember.append hrest (endsNumber_cons (by decide))

theorem Tree.Plain.scans_pretty (h : t.Plain bound) : ∀ level, Scans (t.pretty level) t.tokens := by
  induction h with
  | ofNat => exact fun _ => scans_digits _
  | ofString => exact fun _ => scans_quoteText _
  | @array bound items _ ih =>
    intro level
    have hclose : Scans [']'] [.rightBracket] := scans_nil.mark rfl fun _ => rfl
    have hopen {s ts} (h : Scans s ts) := h.mark (c := '[') rfl fun _ => rfl
    cases items with
    | nil => exact hopen hclose
    | cons t ts =>
      have hitems := scans_prettyItems fun u hu => ih u hu (level + 1)
      have hclosed := hitems.append (hclose.newline level) (endsNumber_newline level)
      rw [← List.append_assoc] at hclosed
      exact hopen hclosed
  | @record bound members _ ih =>
    intro level
    have hclose : Scans ['\x7d'] [.rightBrace] := scans_nil.mark rfl fun _ => rfl
    have hopen {s ts} (h : Scans s ts) := h.mark (c := '\x7b') rfl fun _ => rfl
    cases members with
    | nil => exact hopen hclose
    | cons m ms =>
      have hmembers := scans_prettyMembers fun m hm => ih m hm (level + 1)
      have hclosed := hmembers.append (hclose.newline level) (endsNumber_newline level)
      rw [← List.append_assoc] at hclosed
      exact hopen hclosed

theorem scans_compactItems {items : List Tree} (h : ∀ t ∈ items, Scans t.compact t.tokens) :
    Scans (Tree.compact.compactItems items) (Tree.tokens.itemTokens items) := by
  induction items with
  | nil => exact scans_nil
  | cons t ts ih =>
    obtain ⟨ht, hts⟩ := List.forall_mem_cons.mp h
    cases ts with
    | nil => exact ht
    | cons u ts =>
      have hrest := (ih hts).mark (c := ',') rfl fun _ => rfl
      exact ht.append hrest (endsNumber_cons (by decide))

theorem scans_compactMembers {members : List (String × Tree)}
    (h : ∀ m ∈ members, Scans m.2.compact m.2.tokens) :
    Scans (Tree.compact.compactMembers (members.map fun (name, t) => (some name, t)))
      (Tree.tokens.memberTokens (members.map fun (name, t) => (some name, t))) := by
  induction members with
  | nil => exact scans_nil
  | cons m ms ih =>
    obtain ⟨hm, hms⟩ := List.forall_mem_cons.mp h
    have hvalue := hm.mark (c := ':') rfl fun _ => rfl
    have hmember := (scans_quoteText m.1).append hvalue (endsNumber_cons (by decide))
    cases ms with
    | nil => exact hmember
    | cons n ms =>
      have hrest := (ih hms).mark (c := ',') rfl fun _ => rfl
      exact hmember.append hrest (endsNumber_cons (by decide))

theorem Tree.Plain.scans_compact (h : t.Plain bound) : Scans t.compact t.tokens := by
  induction h with
  | ofNat => exact scans_digits _
  | ofString => exact scans_quoteText _
  | @array bound items _ ih =>
    have hclose : Scans [']'] [.rightBracket] := scans_nil.mark rfl fun _ => rfl
    have hitems := (scans_compactItems ih).append hclose (endsNumber_cons (by decide))
    exact hitems.mark (c := '[') rfl fun _ => rfl
  | @record bound members _ ih =>
    have hclose : Scans ['\x7d'] [.rightBrace] := scans_nil.mark rfl fun _ => rfl
    have hmembers := (scans_compactMembers ih).append hclose (endsNumber_cons (by decide))
    exact hmembers.mark (c := '\x7b') rfl fun _ => rfl

end

namespace Tree

variable {bound : Nat} {t : Tree} {token : Token}

theorem mem_itemTokens {items : List Tree} (h : token ∈ tokens.itemTokens items) :
    token = .comma ∨ ∃ t ∈ items, token ∈ t.tokens := by
  induction items with
  | nil => cases h
  | cons t ts ih =>
    cases ts with
    | nil => exact .inr ⟨t, List.mem_cons_self, h⟩
    | cons u ts =>
      simp only [tokens.itemTokens, List.mem_append, List.mem_cons] at h
      rcases h with h | rfl | h
      · exact .inr ⟨t, List.mem_cons_self, h⟩
      · exact .inl rfl
      · exact (ih h).imp_right fun ⟨v, hv, hmem⟩ => ⟨v, List.mem_cons_of_mem t hv, hmem⟩

theorem mem_memberTokens {members : List (Option String × Tree)}
    (h : token ∈ tokens.memberTokens members) :
    token = .comma ∨ token = .colon ∨ ∃ m ∈ members, token = .text m.1 ∨ token ∈ m.2.tokens := by
  induction members with
  | nil => cases h
  | cons m ms ih =>
    have hfirst : token ∈ .text m.1 :: .colon :: m.2.tokens →
        token = .comma ∨ token = .colon ∨
          ∃ n ∈ m :: ms, token = .text n.1 ∨ token ∈ n.2.tokens := by
      intro h
      rw [List.mem_cons, List.mem_cons] at h
      rcases h with h | h | h
      · exact .inr (.inr ⟨m, List.mem_cons_self, .inl h⟩)
      · exact .inr (.inl h)
      · exact .inr (.inr ⟨m, List.mem_cons_self, .inr h⟩)
    cases ms with
    | nil => exact hfirst h
    | cons n ms =>
      rw [tokens.memberTokens, ← List.cons_append, ← List.cons_append] at h
      · rcases List.mem_append.mp h with h | h
        · exact hfirst h
        rcases List.mem_cons.mp h with h | h
        · exact .inl h
        · refine (ih h).imp_right (Or.imp_right ?_)
          exact fun ⟨k, hk, hmem⟩ => ⟨k, List.mem_cons_of_mem m hk, hmem⟩
      · exact List.cons_ne_nil _ _

/-- What is written as a plain tree holds no `null`. -/
theorem Plain.null_notMem_tokens (h : t.Plain bound) : Token.null ∉ t.tokens := by
  induction h with
  | ofNat => exact fun hmem => nomatch List.mem_singleton.mp hmem
  | ofString => exact fun hmem => nomatch List.mem_singleton.mp hmem
  | @array bound items _ ih =>
    intro hmem
    simp only [tokens, List.mem_cons, List.mem_append, reduceCtorEq, false_or, or_false,
      List.not_mem_nil] at hmem
    obtain h | ⟨t, ht, hnull⟩ := mem_itemTokens hmem
    · cases h
    · exact ih t ht hnull
  | @record bound members _ ih =>
    intro hmem
    simp only [Tree.record, tokens, List.mem_cons, List.mem_append, reduceCtorEq, false_or,
      or_false, List.not_mem_nil] at hmem
    obtain h | h | ⟨m, hm, h | hnull⟩ := mem_memberTokens hmem
    · cases h
    · cases h
    · cases h
    · obtain ⟨n, hn, rfl⟩ := List.mem_map.mp hm
      exact ih n hn hnull

end Tree

/-! ## Reading the tokens -/

namespace Reading

variable {r r' : Reading} {ts ts' : List Token} {frames : List Frame} {t : Tree}

theorem run_append (h : r.run ts = some r') : r.run (ts ++ ts') = r'.run ts' := by
  induction ts generalizing r with
  | nil =>
    cases h
    rfl
  | cons t ts ih =>
    obtain ⟨r'', hstep, hrun⟩ := Option.bind_eq_some_iff.mp h
    rw [List.cons_append, run, hstep]
    exact ih hrun

/-- The tokens of a tree lead to it from any place where a value must follow. -/
def Yields (t : Tree) : Prop := ∀ frames, (value frames).run t.tokens = some (place t frames)

/-- The first item of an array is read as a value. -/
theorem run_firstItem {items : List Tree} :
    (firstItem frames).run (Tree.tokens.itemTokens (t :: items)) =
      (value (.items [] :: frames)).run (Tree.tokens.itemTokens (t :: items)) := by
  cases items <;> cases t <;> rfl

/-- The first member of an object is read like the later ones. -/
theorem run_firstName {m : Option String × Tree} {members : List (Option String × Tree)} :
    (firstName frames).run (Tree.tokens.memberTokens (m :: members)) =
      (nextName [] frames).run (Tree.tokens.memberTokens (m :: members)) := by
  cases members <;> rfl

theorem run_itemTokens {items : List Tree} (h : ∀ u ∈ t :: items, Yields u) (done : List Tree) :
    (value (.items done :: frames)).run (Tree.tokens.itemTokens (t :: items)) =
      some (nextItem ((t :: items).reverse ++ done) frames) := by
  induction items generalizing t done with
  | nil => exact h t List.mem_cons_self _
  | cons u items ih =>
    obtain ⟨ht, hrest⟩ := List.forall_mem_cons.mp h
    have hitems := ih hrest (t :: done)
    rw [Tree.tokens.itemTokens, run_append (ht _), List.reverse_cons, List.append_assoc]
    · exact hitems
    · exact List.cons_ne_nil _ _

theorem run_memberTokens {m : Option String × Tree} {members : List (Option String × Tree)}
    (h : ∀ n ∈ m :: members, Yields n.2) (done : List (Option String × Tree)) :
    (nextName done frames).run (Tree.tokens.memberTokens (m :: members)) =
      some (nextMember ((m :: members).reverse ++ done) frames) := by
  induction members generalizing m done with
  | nil => exact h m List.mem_cons_self _
  | cons n members ih =>
    obtain ⟨hm, hrest⟩ := List.forall_mem_cons.mp h
    have hmembers := ih hrest (m :: done)
    rw [Tree.tokens.memberTokens, List.reverse_cons, List.append_assoc]
    · exact (run_append (hm _)).trans hmembers
    · exact List.cons_ne_nil _ _

/-- By recursion on the tree; where a frame is closed, the items read so far are in reverse. -/
theorem yields : ∀ t : Tree, Yields t
  | .null | .bool _ | .number _ | .text _ => fun _ => rfl
  | .array items => by
    intro frames
    have hitems : ∀ u ∈ items, Yields u := fun u _ => yields u
    cases items with
    | nil => rfl
    | cons t ts =>
      have hread := @run_itemTokens frames t ts hitems []
      rw [List.append_nil] at hread
      have hclose : (nextItem (t :: ts).reverse frames).run [.rightBracket] =
          some (place (.array (t :: ts)) frames) := by
        rw [run, step, List.reverse_reverse]
        rfl
      exact (run_append (run_firstItem.trans hread)).trans hclose
  | .object members => by
    intro frames
    have hmembers : ∀ n ∈ members, Yields n.2 := fun n _ => yields n.2
    cases members with
    | nil => rfl
    | cons m ms =>
      have hread := @run_memberTokens frames m ms hmembers []
      rw [List.append_nil] at hread
      have hclose : (nextMember (m :: ms).reverse frames).run [.rightBrace] =
          some (place (.object (m :: ms)) frames) := by
        rw [run, step, List.reverse_reverse]
        rfl
      exact (run_append (run_firstName.trans hread)).trans hclose
termination_by t => sizeOf t
decreasing_by
  · have hlt := List.sizeOf_lt_of_mem ‹u ∈ items›
    rw [Tree.array.sizeOf_spec]
    omega
  · have hlt := List.sizeOf_lt_of_mem ‹n ∈ members›
    have hpair : sizeOf n = 1 + sizeOf n.1 + sizeOf n.2 := rfl
    rw [Tree.object.sizeOf_spec]
    omega

end Reading

theorem ofTokens?_tokens (t : Tree) : ofTokens? t.tokens = some t := by
  have hrun : (Reading.value []).run t.tokens = some (.finished t) := Reading.yields t []
  rw [ofTokens?, hrun]

/-! ## Keeping the whole document -/

theorem significand_concat {start n : Nat} {ds : List Char} {d : Char}
    (h : significand start ds = (n, 0)) (hfits : n * 10 + (d.toNat - '0'.toNat) < UInt64.size) :
    significand start (ds ++ [d]) = (n * 10 + (d.toNat - '0'.toNat), 0) := by
  unfold significand at h ⊢
  rw [List.foldl_append, h]
  exact if_pos ⟨rfl, hfits⟩

theorem significand_digits {n : Nat} (h : n < UInt64.size) :
    significand 0 (Decimal.digits n) = (n, 0) := by
  have hdigit : ∀ k < 10, (Nat.digitChar k).toNat - '0'.toNat = k := by decide
  induction n using Nat.strongRecOn with
  | ind n ih =>
    rcases Nat.lt_or_ge n 10 with hlt | hge
    · have hvalue : 0 * 10 + ((Nat.digitChar n).toNat - '0'.toNat) = n := by
        rw [hdigit n hlt, Nat.zero_mul, Nat.zero_add]
      have hone := @significand_concat 0 0 [] _ rfl (hvalue ▸ h)
      rw [hvalue] at hone
      rw [Decimal.digits, Nat.toDigits_of_lt_base hlt]
      exact hone
    · have hrest := ih (n / 10) (Nat.div_lt_self (by omega) (by decide)) (by omega)
      have hvalue : n / 10 * 10 + ((Nat.digitChar (n % 10)).toNat - '0'.toNat) = n := by
        rw [hdigit _ (Nat.mod_lt n (by decide)), Nat.div_add_mod']
      have hall := significand_concat hrest (hvalue ▸ h)
      rw [hvalue] at hall
      rw [Decimal.digits, Nat.toDigits_of_base_le (by decide) hge]
      exact hall

theorem round53_le (n : Nat) : round53 n ≤ 2 * n := by
  unfold round53
  split
  · omega
  · next hlog =>
    have hunit : 1 <<< (n.log2 - 52) ≤ n := by
      have hne : n ≠ 0 := by
        rintro rfl
        exact hlog (by decide)
      rw [Nat.one_shiftLeft]
      exact Nat.le_trans (Nat.pow_le_pow_right (by decide) (Nat.sub_le _ _))
        (Nat.log2_self_le hne)
    have hlow : n / 1 <<< (n.log2 - 52) * 1 <<< (n.log2 - 52) ≤ n := Nat.div_mul_le_self _ _
    dsimp only
    split
    · rw [Nat.add_mul, Nat.one_mul]
      omega
    · omega

/-- A number of 64 bits is far below the range of doubles. -/
theorem literalFits_digits {n : Nat} (h : n < UInt64.size) :
    literalFits (Decimal.digits n) = true := by
  have hsign : (Decimal.digits n).head? ≠ some '-' := fun hhead =>
    absurd (Decimal.isDigit_of_mem_digits (List.mem_of_head? hhead)) (by decide)
  have htake : (Decimal.digits n).takeWhile Char.isDigit = Decimal.digits n :=
    List.takeWhile_eq_self_iff.mpr fun _ => Decimal.isDigit_of_mem_digits
  have hdrop : (Decimal.digits n).dropWhile Char.isDigit = [] :=
    List.dropWhile_eq_nil_iff.mpr fun _ => Decimal.isDigit_of_mem_digits
  have hone : round53 (Nat.pow 10 0) = 1 := by decide
  have hrange : 2 * UInt64.size < 1 <<< 1024 - 1 <<< 970 := by decide
  have hround := round53_le n
  have hfits : round53 n * round53 (Nat.pow 10 0) < 1 <<< 1024 - 1 <<< 970 := by
    rw [hone, Nat.mul_one]
    omega
  -- Without a fraction and an exponent the scale is ten to the power of zero.
  have hfraction : significand n [] = (n, 0) := rfl
  simp only [literalFits, if_neg hsign, htake, hdrop, significand_digits h, hfraction, exponentOf,
    Bool.false_eq_true, if_false, List.length_nil]
  split
  · rfl
  · exact decide_eq_true hfits

namespace Tree

variable {bound : Nat} {t : Tree}

theorem depths_le {items : List Tree} (h : ∀ t ∈ items, t.depth ≤ bound) :
    depth.depths items ≤ bound := by
  induction items with
  | nil => exact Nat.zero_le bound
  | cons t ts ih =>
    obtain ⟨ht, hts⟩ := List.forall_mem_cons.mp h
    exact Nat.max_le.mpr ⟨ht, ih hts⟩

theorem memberDepths_le {members : List (String × Tree)} (h : ∀ m ∈ members, m.2.depth ≤ bound) :
    depth.memberDepths (members.map fun (name, t) => (some name, t)) ≤ bound := by
  induction members with
  | nil => exact Nat.zero_le bound
  | cons m ms ih =>
    obtain ⟨hm, hms⟩ := List.forall_mem_cons.mp h
    exact Nat.max_le.mpr ⟨hm, ih hms⟩

theorem areSound_eq_true {items : List Tree} (h : ∀ t ∈ items, t.isSound = true) :
    isSound.areSound items = true := by
  induction items with
  | nil => rfl
  | cons t ts ih =>
    obtain ⟨ht, hts⟩ := List.forall_mem_cons.mp h
    exact Bool.and_eq_true_iff.mpr ⟨ht, ih hts⟩

theorem membersAreSound_eq_true {members : List (String × Tree)}
    (h : ∀ m ∈ members, m.2.isSound = true) :
    isSound.membersAreSound (members.map fun (name, t) => (some name, t)) = true := by
  induction members with
  | nil => rfl
  | cons m ms ih =>
    obtain ⟨hm, hms⟩ := List.forall_mem_cons.mp h
    exact Bool.and_eq_true_iff.mpr ⟨hm, ih hms⟩

theorem Plain.depth_le (h : t.Plain bound) : t.depth ≤ bound := by
  induction h with
  | ofNat => exact Nat.zero_le _
  | ofString => exact Nat.zero_le _
  | array _ ih => exact (Nat.add_le_add_left (depths_le ih) 1).trans_eq (Nat.add_comm 1 _)
  | record _ ih => exact (Nat.add_le_add_left (memberDepths_le ih) 1).trans_eq (Nat.add_comm 1 _)

theorem Plain.isSound (h : t.Plain bound) : t.isSound = true := by
  induction h with
  | ofNat hn => exact literalFits_digits hn
  | ofString => rfl
  | array _ ih => exact areSound_eq_true ih
  | record _ ih => exact membersAreSound_eq_true ih

theorem Plain.isKeepable (h : t.Plain bound) (hbound : bound ≤ maxDepth) : t.isKeepable = true :=
  Bool.and_eq_true_iff.mpr ⟨decide_eq_true (h.depth_le.trans hbound), h.isSound⟩

end Tree

/-! ## Documents -/

section

variable {t : Tree} {bound : Nat} {s : List Char} {ts : List Token}

theorem Scans.scan?_eq (h : Scans s ts) : Token.scan? s = some ts := by
  have hall := h [] fun c hc => nomatch hc
  rwa [List.append_nil, Token.scan?, Option.map_some, List.append_nil] at hall

/-- A text that scans as the tokens of a tree is read as this tree. -/
theorem read?_of_scans (hs : Scans s t.tokens) : read? (String.ofList s) = some t := by
  rw [read?, String.toList_ofList, hs.scan?_eq, Option.bind_some, ofTokens?_tokens]

/-- It is also kept, if the tree is not too deep. -/
theorem readWhole?_of_scans (h : t.Plain bound) (hbound : bound ≤ maxDepth)
    (hs : Scans s t.tokens) : readWhole? (String.ofList s) = some t := by
  rw [readWhole?, read?_of_scans hs, Option.filter_some, if_pos (h.isKeepable hbound)]

/-- The indented text with a line feed at its end. -/
theorem Tree.Plain.scans_pretty_newline (h : t.Plain bound) :
    Scans (t.pretty 0 ++ ['\n']) t.tokens := by
  have hend : Scans ['\n'] [] := scans_nil.space rfl
  have hall := (h.scans_pretty 0).append hend (endsNumber_cons (by decide))
  rwa [List.append_nil] at hall

theorem readWhole?_pretty (h : t.Plain bound) (hbound : bound ≤ maxDepth) :
    readWhole? (String.ofList (t.pretty 0 ++ ['\n'])) = some t :=
  readWhole?_of_scans h hbound h.scans_pretty_newline

theorem readWhole?_compact (h : t.Plain bound) (hbound : bound ≤ maxDepth) :
    readWhole? (String.ofList t.compact) = some t :=
  readWhole?_of_scans h hbound h.scans_compact

end

end LintReview.Json

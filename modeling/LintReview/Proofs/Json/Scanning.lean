import LintReview.Json.Token
import LintReview.Json.Writer

/-! Scanning what has been written. A quoted text, a number in decimal and a mark of punctuation
each scan as one token, whatever follows them (`scan?_quoteText`, `scan?_digits`,
`scan?_of_read?`); after a number this must not be a character that could belong to it
(`EndsNumber`). -/

namespace LintReview.Json

/-! ## Numbers -/

/-- No number goes on here. -/
def EndsNumber (rest : List Char) : Prop :=
  ∀ c ∈ rest.head?, c.isDigit = false ∧ c ≠ '.' ∧ c ≠ 'e' ∧ c ≠ 'E'

namespace Token

/-- The digits of a number start with a zero only if there is no other one. -/
theorem head?_digits_ne_zero {n : Nat} (h : 0 < n) : (Decimal.digits n).head? ≠ some '0' := by
  induction n using Nat.strongRecOn with
  | ind n ih =>
    rcases Nat.lt_or_ge n 10 with hlt | hge
    · have hdigit : ∀ k < 10, 0 < k → Nat.digitChar k ≠ '0' := by decide
      rw [Decimal.digits, Nat.toDigits_of_lt_base hlt, List.head?_cons]
      exact fun heq => hdigit n hlt h (Option.some.inj heq)
    · have hpos : 0 < n / 10 := Nat.div_pos hge (by decide)
      have hrest := ih (n / 10) (Nat.div_lt_self h (by decide)) hpos
      have hsplit : Decimal.digits n = Decimal.digits (n / 10) ++ [Nat.digitChar (n % 10)] :=
        Nat.toDigits_of_base_le (by decide) hge
      rw [hsplit]
      cases hdigits : Decimal.digits (n / 10) with
      | nil => exact absurd hdigits Nat.toDigits_ne_nil
      | cons c cs =>
        rw [hdigits] at hrest
        exact hrest

theorem readDigits?_digits {n : Nat} {rest : List Char} (hrest : EndsNumber rest) :
    readDigits? (Decimal.digits n ++ rest) = some (Decimal.digits n, rest) := by
  have hends : rest.takeWhile Char.isDigit = [] ∧ rest.dropWhile Char.isDigit = rest := by
    cases rest with
    | nil => exact ⟨rfl, rfl⟩
    | cons c rest =>
      have hc : ¬c.isDigit = true := by rw [(hrest c rfl).1]; exact Bool.false_ne_true
      exact ⟨List.takeWhile_cons_of_neg hc, List.dropWhile_cons_of_neg hc⟩
  have hall : ∀ c ∈ Decimal.digits n, c.isDigit = true := fun _ => Decimal.isDigit_of_mem_digits
  unfold readDigits?
  rw [List.takeWhile_append_of_pos hall, hends.1, List.append_nil,
    List.dropWhile_append_of_pos hall, hends.2]
  rw [if_neg]
  simp [Decimal.digits, Nat.toDigits_ne_nil]

theorem readUnsigned?_digits {n : Nat} {rest : List Char} (hrest : EndsNumber rest) :
    readUnsigned? (Decimal.digits n ++ rest) = some (Decimal.digits n, rest) := by
  have hzero : ¬((Decimal.digits n).head? = some '0' ∧ 1 < (Decimal.digits n).length) := by
    rintro ⟨hhead, hlength⟩
    rcases Nat.eq_zero_or_pos n with rfl | hpos
    · exact absurd hlength (by decide)
    · exact head?_digits_ne_zero hpos hhead
  have hfraction : readFraction? rest = some ([], rest) := by
    unfold readFraction?
    split
    · exact absurd rfl (hrest '.' rfl).2.1
    · rfl
  have hexponent : readExponent? rest = some ([], rest) := by
    unfold readExponent?
    split
    · next e s =>
      obtain ⟨-, -, he, hE⟩ := hrest e rfl
      rw [if_neg (not_or.mpr ⟨he, hE⟩)]
    · rfl
  simp only [readUnsigned?, readDigits?_digits hrest, hfraction, hexponent, if_neg hzero,
    Option.bind_eq_bind, Option.bind_some, List.append_nil]

/-! ## Strings -/

theorem hexDigit?_hexDigit (n : Nat) : hexDigit? (hexDigit n) = some (n % 16) := by
  have hall : ∀ k < 16, hexDigit? (Nat.digitChar k) = some k := by decide
  exact hall (n % 16) (Nat.mod_lt n (by decide))

/-- A control character that is written by its code. -/
theorem ofHex?_control {c : Char} (h : c.toNat < 0x20) :
    Piece.ofHex? '0' '0' (hexDigit (c.toNat / 16)) (hexDigit c.toNat) = some (.char c) := by
  have hzero : hexDigit? '0' = some 0 := by decide
  have hunit : ((0 * 16 + 0) * 16 + c.toNat / 16 % 16) * 16 + c.toNat % 16 = c.toNat := by omega
  simp only [Piece.ofHex?, hzero, hexDigit?_hexDigit, Option.bind_eq_bind, Option.bind_some, hunit]
  rw [if_neg (by omega), Char.ofNat_toNat]

/-- A character is written by an escape of one letter, by its code, or as it stands. -/
theorem escapeChar_cases (c : Char) :
    (∃ e, escapeChar c = ['\\', e] ∧ e ≠ 'u' ∧ escaped? e = some c) ∨
      (c.toNat < 0x20 ∧
        escapeChar c = ['\\', 'u', '0', '0', hexDigit (c.toNat / 16), hexDigit c.toNat]) ∨
      (c ≠ '"' ∧ c ≠ '\\' ∧ 0x20 ≤ c.toNat ∧ escapeChar c = [c]) := by
  have hletter : ∀ e, e ≠ 'u' → escaped? e = some c → escapeChar c = ['\\', e] →
      ∃ e, escapeChar c = ['\\', e] ∧ e ≠ 'u' ∧ escaped? e = some c :=
    fun e hu he hc => ⟨e, hc, hu, he⟩
  by_cases hquote : c = '"'
  · exact .inl (hletter '"' (by decide) (by rw [hquote]; rfl) (by rw [hquote]; rfl))
  by_cases hbackslash : c = '\\'
  · exact .inl (hletter '\\' (by decide) (by rw [hbackslash]; rfl) (by rw [hbackslash]; rfl))
  by_cases hn : c = '\n'
  · exact .inl (hletter 'n' (by decide) (by rw [hn]; rfl) (by rw [hn]; rfl))
  by_cases hr : c = '\r'
  · exact .inl (hletter 'r' (by decide) (by rw [hr]; rfl) (by rw [hr]; rfl))
  by_cases ht : c = '\t'
  · exact .inl (hletter 't' (by decide) (by rw [ht]; rfl) (by rw [ht]; rfl))
  by_cases hb : c = '\x08'
  · exact .inl (hletter 'b' (by decide) (by rw [hb]; rfl) (by rw [hb]; rfl))
  by_cases hf : c = '\x0c'
  · exact .inl (hletter 'f' (by decide) (by rw [hf]; rfl) (by rw [hf]; rfl))
  refine .inr ?_
  simp only [escapeChar, if_neg hquote, if_neg hbackslash, if_neg hn, if_neg hr, if_neg ht,
    if_neg hb, if_neg hf]
  rcases Nat.lt_or_ge c.toNat 0x20 with hlt | hge
  · exact .inl ⟨hlt, if_pos hlt⟩
  · exact .inr ⟨hquote, hbackslash, hge, if_neg (Nat.not_lt.mpr hge)⟩

theorem readPieces?_escapeChar (c : Char) (rest : List Char) :
    readPieces? (escapeChar c ++ rest) =
      (readPieces? rest).map fun (pieces, rest) => (.char c :: pieces, rest) := by
  rcases escapeChar_cases c with ⟨e, hc, hu, he⟩ | ⟨hlt, hc⟩ | ⟨hquote, hbackslash, hge, hc⟩
  · rw [hc, List.cons_append, List.singleton_append, readPieces?, he]
    · cases readPieces? rest <;> rfl
    · intro a b c d rest' h
      exact absurd h hu
  · rw [hc]
    simp only [List.cons_append, List.nil_append, readPieces?, ofHex?_control hlt]
    cases readPieces? rest <;> rfl
  · rw [hc, List.singleton_append, readPieces?, if_neg (by simp [hbackslash, hge])]
    · cases readPieces? rest <;> rfl
    · exact hquote
    all_goals
      intros
      exact absurd ‹c = '\\'› hbackslash

theorem readPieces?_flatMap (s rest : List Char) :
    readPieces? (s.flatMap escapeChar ++ '"' :: rest) = some (s.map .char, rest) := by
  induction s with
  | nil => rfl
  | cons c s ih =>
    rw [List.flatMap_cons, List.append_assoc, readPieces?_escapeChar, ih]
    rfl

theorem joinPieces?_map_char (s : List Char) : joinPieces? (s.map .char) = some s := by
  induction s with
  | nil => rfl
  | cons c s ih => rw [List.map_cons, joinPieces?, ih]; rfl

/-! ## Tokens -/

theorem scan?_of_isSpace {c : Char} {rest : List Char} (h : isSpace c = true) :
    scan? (c :: rest) = scan? rest := by
  rw [scan?, if_pos h]

theorem scan?_of_read? {c : Char} {s rest : List Char} {t : Token} (hspace : isSpace c = false)
    (h : read? (c :: s) = some (t, rest)) : scan? (c :: s) = (scan? rest).map (t :: ·) := by
  rw [scan?, if_neg (by simp [hspace])]
  split
  · next t' rest' h' =>
    cases h.symm.trans h'
    rfl
  · next h' => cases h.symm.trans h'

theorem scan?_quoteText (s : String) (rest : List Char) :
    scan? (quoteText (some s) ++ rest) = (scan? rest).map (.text (some s) :: ·) := by
  have hread : read? ('"' :: (s.toList.flatMap escapeChar ++ '"' :: rest)) =
      some (.text (some s), rest) := by
    simp only [read?, readPieces?_flatMap, joinPieces?_map_char, Option.map_some,
      String.ofList_toList]
  rw [quoteText, quote, List.cons_append, List.cons_append, List.append_assoc,
    List.singleton_append]
  exact scan?_of_read? rfl hread

theorem read?_of_isDigit {c : Char} {s : List Char} (hc : c.isDigit = true) :
    read? (c :: s) =
      (readUnsigned? (c :: s)).map fun (literal, rest) => (.number literal, rest) := by
  unfold read?
  split
  case h_11 =>
    unfold readNumber?
    split
    · next h =>
      cases (List.cons.inj h).1
      cases hc
    · rfl
  all_goals
    next h =>
      cases (List.cons.inj h).1
      cases hc

theorem scan?_digits (n : Nat) {rest : List Char} (hrest : EndsNumber rest) :
    scan? (Decimal.digits n ++ rest) = (scan? rest).map (.number (Decimal.digits n) :: ·) := by
  have hread := readUnsigned?_digits (n := n) hrest
  cases hdigits : Decimal.digits n with
  | nil => exact absurd hdigits Nat.toDigits_ne_nil
  | cons c cs =>
    have hc : c.isDigit = true := Decimal.isDigit_of_mem_digits (hdigits ▸ List.mem_cons_self)
    have hspace : isSpace c = false := by
      rw [← Bool.not_eq_true]
      intro h
      simp only [isSpace, Bool.or_eq_true, decide_eq_true_eq] at h
      rcases h with ((rfl | rfl) | rfl) | rfl <;> cases hc
    rw [hdigits, List.cons_append] at hread
    refine scan?_of_read? hspace ?_
    rw [List.append_eq, read?_of_isDigit hc, hread]
    rfl

end Token

end LintReview.Json

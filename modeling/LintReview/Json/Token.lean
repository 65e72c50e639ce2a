import LintReview.Text.Decimal

/-! The tokens of a JSON text. `Token.scan?` cuts a text into tokens and refuses what is not one:
strings end, hold no bare control characters and no unknown escapes, and numbers have no leading
zeros. Only space, tab, line feed and carriage return may stand between tokens. -/

namespace LintReview.Json

/-- A token of a JSON text. A string whose escapes name half of a surrogate pair has no text. -/
inductive Token where
  | leftBracket
  | rightBracket
  | leftBrace
  | rightBrace
  | comma
  | colon
  | null
  | bool (b : Bool)
  | number (literal : List Char)
  | text (t : Option String)
  deriving DecidableEq

namespace Token

/-- The blanks that may stand between tokens. -/
def isSpace (c : Char) : Bool := c = ' ' || c = '\t' || c = '\n' || c = '\r'

/-! ## Strings -/

/-- What one character or escape of a string stands for: a character, or half a surrogate pair. -/
inductive Piece where
  | char (c : Char)
  | half (unit : Nat)
  deriving DecidableEq

def hexDigit? (c : Char) : Option Nat :=
  if c.isDigit then some (c.toNat - '0'.toNat)
  else if 'a' ≤ c ∧ c ≤ 'f' then some (c.toNat - 'a'.toNat + 10)
  else if 'A' ≤ c ∧ c ≤ 'F' then some (c.toNat - 'A'.toNat + 10)
  else none

/-- What an escape with four hexadecimal digits stands for. -/
def Piece.ofHex? (a b c d : Char) : Option Piece := do
  let a ← hexDigit? a
  let b ← hexDigit? b
  let c ← hexDigit? c
  let d ← hexDigit? d
  let unit := ((a * 16 + b) * 16 + c) * 16 + d
  some (if 0xD800 ≤ unit ∧ unit < 0xE000 then .half unit else .char (Char.ofNat unit))

/-- The character that an escape of one letter stands for. -/
def escaped? : Char → Option Char
  | '"' => some '"'
  | '\\' => some '\\'
  | '/' => some '/'
  | 'b' => some '\x08'
  | 'f' => some '\x0c'
  | 'n' => some '\n'
  | 'r' => some '\r'
  | 't' => some '\t'
  | _ => none

/-- Reads a string after its opening quote: its pieces, and what follows its closing quote. -/
def readPieces? : List Char → Option (List Piece × List Char)
  | [] => none
  | '"' :: rest => some ([], rest)
  | '\\' :: 'u' :: a :: b :: c :: d :: rest => do
    let piece ← Piece.ofHex? a b c d
    let (pieces, rest) ← readPieces? rest
    some (piece :: pieces, rest)
  | '\\' :: e :: rest => do
    let c ← escaped? e
    let (pieces, rest) ← readPieces? rest
    some (.char c :: pieces, rest)
  | c :: rest =>
    if c = '\\' ∨ c.toNat < 0x20 then none
    else do
      let (pieces, rest) ← readPieces? rest
      some (.char c :: pieces, rest)

/-- Joins pieces, each high half with the low half after it; a half without its other is refused. -/
def joinPieces? : List Piece → Option (List Char)
  | [] => some []
  | .char c :: rest => (joinPieces? rest).map (c :: ·)
  | .half high :: .half low :: rest =>
    if high < 0xDC00 ∧ 0xDC00 ≤ low then
      (joinPieces? rest).map
        (Char.ofNat (0x10000 + (high - 0xD800) * 0x400 + (low - 0xDC00)) :: ·)
    else none
  | .half _ :: _ => none

theorem length_readPieces? {s : List Char} {ps rest} (h : readPieces? s = some (ps, rest)) :
    rest.length < s.length := by
  fun_induction readPieces? s generalizing ps rest with
  | case1 => simp at h
  | case2 r => obtain ⟨-, rfl⟩ := Prod.mk.inj (Option.some.inj h); simp
  | case3 a b c d r ih =>
    simp only [Option.bind_eq_bind, Option.bind_eq_some_iff, Option.some.injEq, Prod.mk.injEq] at h
    obtain ⟨_, _, ⟨qs, r'⟩, hr, -, rfl⟩ := h
    have := ih hr
    simp only [List.length_cons]; omega
  | case4 e r _ ih =>
    simp only [Option.bind_eq_bind, Option.bind_eq_some_iff, Option.some.injEq, Prod.mk.injEq] at h
    obtain ⟨_, _, ⟨qs, r'⟩, hr, -, rfl⟩ := h
    have := ih hr
    simp only [List.length_cons]; omega
  | case5 => simp at h
  | case6 c r _ _ _ _ ih =>
    simp only [Option.bind_eq_bind, Option.bind_eq_some_iff, Option.some.injEq, Prod.mk.injEq] at h
    obtain ⟨⟨qs, r'⟩, hr, -, rfl⟩ := h
    have := ih hr
    simp only [List.length_cons]; omega

/-! ## Numbers -/

/-- Takes a non-empty run of digits. -/
def readDigits? (s : List Char) : Option (List Char × List Char) :=
  let ds := s.takeWhile Char.isDigit
  if ds.isEmpty then none else some (ds, s.dropWhile Char.isDigit)

/-- Takes the fraction of a number, which may be absent. -/
def readFraction? : List Char → Option (List Char × List Char)
  | '.' :: s => (readDigits? s).map fun (ds, rest) => ('.' :: ds, rest)
  | s => some ([], s)

/-- Takes the exponent of a number, which may be absent. -/
def readExponent? : List Char → Option (List Char × List Char)
  | e :: s =>
    if e = 'e' ∨ e = 'E' then
      match s with
      | '+' :: s => (readDigits? s).map fun (ds, rest) => (e :: '+' :: ds, rest)
      | '-' :: s => (readDigits? s).map fun (ds, rest) => (e :: '-' :: ds, rest)
      | s => (readDigits? s).map fun (ds, rest) => (e :: ds, rest)
    else some ([], e :: s)
  | [] => some ([], [])

def readUnsigned? (s : List Char) : Option (List Char × List Char) := do
  let (whole, rest) ← readDigits? s
  if whole.head? = some '0' ∧ 1 < whole.length then none
  let (fraction, rest) ← readFraction? rest
  let (exponent, rest) ← readExponent? rest
  some (whole ++ fraction ++ exponent, rest)

def readNumber? : List Char → Option (List Char × List Char)
  | '-' :: s => (readUnsigned? s).map fun (ds, rest) => ('-' :: ds, rest)
  | s => readUnsigned? s

/-! ## Tokens -/

/-- Takes the token that starts with the first character. -/
def read? (s : List Char) : Option (Token × List Char) :=
  match s with
  | '[' :: rest => some (leftBracket, rest)
  | ']' :: rest => some (rightBracket, rest)
  | '\x7b' :: rest => some (leftBrace, rest)
  | '\x7d' :: rest => some (rightBrace, rest)
  | ',' :: rest => some (comma, rest)
  | ':' :: rest => some (colon, rest)
  | 'n' :: 'u' :: 'l' :: 'l' :: rest => some (null, rest)
  | 't' :: 'r' :: 'u' :: 'e' :: rest => some (bool true, rest)
  | 'f' :: 'a' :: 'l' :: 's' :: 'e' :: rest => some (bool false, rest)
  | '"' :: rest =>
    (readPieces? rest).map fun (pieces, rest) =>
      (text ((joinPieces? pieces).map String.ofList), rest)
  | s => (readNumber? s).map fun (literal, rest) => (number literal, rest)

theorem length_readDigits? {s ds rest : List Char} (h : readDigits? s = some (ds, rest)) :
    rest.length < s.length := by
  simp only [readDigits?] at h
  split at h
  · simp at h
  · rename_i hne
    obtain ⟨rfl, rfl⟩ := Prod.mk.inj (Option.some.inj h)
    have hlen := congrArg List.length (List.takeWhile_append_dropWhile (p := Char.isDigit) (l := s))
    rw [List.length_append] at hlen
    have : 0 < (s.takeWhile Char.isDigit).length := by
      rw [List.length_pos_iff]; simpa using hne
    omega

theorem length_readFraction? {s ds rest : List Char} (h : readFraction? s = some (ds, rest)) :
    rest.length ≤ s.length := by
  unfold readFraction? at h
  split at h
  · obtain ⟨⟨es, r⟩, hr, he⟩ := Option.map_eq_some_iff.1 h
    obtain ⟨-, rfl⟩ := Prod.mk.inj he
    have := length_readDigits? hr
    simp only [List.length_cons]; omega
  · obtain ⟨-, rfl⟩ := Prod.mk.inj (Option.some.inj h); exact Nat.le_refl _

theorem length_readExponent? {s ds rest : List Char} (h : readExponent? s = some (ds, rest)) :
    rest.length ≤ s.length := by
  unfold readExponent? at h
  split at h
  · split at h
    · split at h <;>
      · obtain ⟨⟨es, r⟩, hr, he⟩ := Option.map_eq_some_iff.1 h
        obtain ⟨-, rfl⟩ := Prod.mk.inj he
        have := length_readDigits? hr
        simp only [List.length_cons]; omega
    · obtain ⟨-, rfl⟩ := Prod.mk.inj (Option.some.inj h); exact Nat.le_refl _
  · obtain ⟨-, rfl⟩ := Prod.mk.inj (Option.some.inj h); exact Nat.le_refl _

theorem length_readUnsigned? {s ds rest : List Char} (h : readUnsigned? s = some (ds, rest)) :
    rest.length < s.length := by
  simp only [readUnsigned?, Option.bind_eq_bind, Option.bind_eq_some_iff] at h
  obtain ⟨⟨whole, r₁⟩, h₁, h⟩ := h
  have := length_readDigits? h₁
  split at h
  · simp at h
  · simp only [Option.bind_eq_some_iff] at h
    obtain ⟨⟨fraction, r₂⟩, h₂, ⟨exponent, r₃⟩, h₃, he⟩ := h
    obtain ⟨-, rfl⟩ := Prod.mk.inj (Option.some.inj he)
    have : r₂.length ≤ r₁.length := length_readFraction? h₂
    have : r₃.length ≤ r₂.length := length_readExponent? h₃
    dsimp only
    omega

theorem length_readNumber? {s ds rest : List Char} (h : readNumber? s = some (ds, rest)) :
    rest.length < s.length := by
  unfold readNumber? at h
  split at h
  · obtain ⟨⟨es, r⟩, hr, he⟩ := Option.map_eq_some_iff.1 h
    obtain ⟨-, rfl⟩ := Prod.mk.inj he
    have := length_readUnsigned? hr
    simp only [List.length_cons]; omega
  · exact length_readUnsigned? h

/-- A token takes at least one character. -/
theorem length_read? {s rest : List Char} {t : Token} (h : read? s = some (t, rest)) :
    rest.length < s.length := by
  unfold read? at h
  split at h
  case h_10 =>
    obtain ⟨⟨ps, r⟩, hr, he⟩ := Option.map_eq_some_iff.1 h
    obtain ⟨-, rfl⟩ := Prod.mk.inj he
    have := length_readPieces? hr
    simp only [List.length_cons]; omega
  case h_11 =>
    obtain ⟨⟨ds, r⟩, hr, he⟩ := Option.map_eq_some_iff.1 h
    obtain ⟨-, rfl⟩ := Prod.mk.inj he
    exact length_readNumber? hr
  all_goals
    obtain ⟨-, rfl⟩ := Prod.mk.inj (Option.some.inj h)
    simp only [List.length_cons]; omega

def scan? (s : List Char) : Option (List Token) :=
  match s with
  | [] => some []
  | c :: rest =>
    if isSpace c then scan? rest
    else
      match h : read? (c :: rest) with
      | some (t, rest') =>
        have := length_read? h
        (scan? rest').map (t :: ·)
      | none => none
termination_by s.length
decreasing_by
  · exact Nat.lt_succ_self _
  · exact this

end Token

end LintReview.Json

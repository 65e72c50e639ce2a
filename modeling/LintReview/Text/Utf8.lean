/-! Text from bytes, as UTF-8 has it. `Utf8.pieces` reads bytes into characters and marks where they
make none: each longest start of a character that is not completed is one such place.
`Utf8.decode?` refuses such bytes, and `Utf8.decodeLossy` puts the replacement character there. -/

namespace LintReview.Utf8

/-- The start of a character: its code so far, how many bytes are missing, and between which two
the next one lies. -/
structure Pending where
  code : Nat
  missing : Nat
  least : UInt8
  most : UInt8

/-- Reads a byte where a character may start. -/
def start (b : UInt8) : List (Option Char) × Option Pending :=
  if b < 0x80 then ([some (Char.ofNat b.toNat)], none)
  else if b < 0xC2 then ([none], none)
  else if b < 0xE0 then ([], some ⟨b.toNat - 0xC0, 1, 0x80, 0xBF⟩)
  else if b = 0xE0 then ([], some ⟨0, 2, 0xA0, 0xBF⟩)
  else if b = 0xED then ([], some ⟨0xD, 2, 0x80, 0x9F⟩)
  else if b < 0xF0 then ([], some ⟨b.toNat - 0xE0, 2, 0x80, 0xBF⟩)
  else if b = 0xF0 then ([], some ⟨0, 3, 0x90, 0xBF⟩)
  else if b < 0xF4 then ([], some ⟨b.toNat - 0xF0, 3, 0x80, 0xBF⟩)
  else if b = 0xF4 then ([], some ⟨4, 3, 0x80, 0x8F⟩)
  else ([none], none)

/-- Reads a byte where a character has been started. -/
def resume (p : Pending) (b : UInt8) : List (Option Char) × Option Pending :=
  if p.least ≤ b ∧ b ≤ p.most then
    let code := p.code * 64 + (b.toNat - 0x80)
    if p.missing ≤ 1 then ([some (Char.ofNat code)], none)
    else ([], some ⟨code, p.missing - 1, 0x80, 0xBF⟩)
  else
    let (pieces, next) := start b
    (none :: pieces, next)

/-- The characters of some bytes after the start of a character, with `none` for bytes that make
none. -/
def piecesFrom : Option Pending → List UInt8 → List (Option Char)
  | none, [] => []
  | some _, [] => [none]
  | pending, b :: bs =>
    let (pieces, next) :=
      match pending with
      | none => start b
      | some p => resume p b
    pieces ++ piecesFrom next bs

/-- The characters of some bytes, with `none` for bytes that make none. -/
def pieces (bs : List UInt8) : List (Option Char) := piecesFrom none bs

/-- The text of some bytes, if they are UTF-8. -/
def decode? (bs : List UInt8) : Option String := ((pieces bs).mapM id).map String.ofList

/-- The text of some bytes, with the replacement character for bytes that make none. -/
def decodeLossy (bs : List UInt8) : String :=
  String.ofList ((pieces bs).map fun p => p.getD '\uFFFD')

end LintReview.Utf8

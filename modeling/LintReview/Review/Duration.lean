import LintReview.Text.Decimal

/-! Durations as texts: whole and decimal seconds from one second on, milliseconds below, and zero
as nanoseconds. -/

namespace LintReview.Review

/-- Three decimals without the zeros at their end, behind a point if any are left. -/
def fraction (millis : Nat) : List Char :=
  let ds := [millis / 100, millis / 10 % 10, millis % 10].map Nat.digitChar
  let kept := (ds.reverse.dropWhile (· = '0')).reverse
  if kept.isEmpty then [] else '.' :: kept

def durationText (millis : Nat) : String :=
  String.ofList <|
    if millis = 0 then "0ns".toList
    else if millis < 1000 then Decimal.digits millis ++ "ms".toList
    else Decimal.digits (millis / 1000) ++ fraction (millis % 1000) ++ ['s']

end LintReview.Review

/-! The lines of a text. A line ends at a line feed, which a carriage return may precede; a text
that ends with a line feed has no empty line after it. -/

namespace LintReview.Text

/-- A line without the carriage return at its end. -/
def dropReturn (line : List Char) : List Char :=
  match line.reverse with
  | '\r' :: rest => rest.reverse
  | _ => line

/-- The lines of a text: a piece that a line feed ends loses a carriage return before it, and the
piece after the last line feed is a line as it stands unless it is empty. -/
def lines (s : List Char) : List (List Char) :=
  let pieces := s.splitOn '\n'
  pieces.dropLast.map dropReturn ++ (pieces.getLast?.toList.filter fun l => !l.isEmpty)

end LintReview.Text

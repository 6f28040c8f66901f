/-!
# Line ends

A line may end with a line feed, with a carriage return or with both, and reading makes a line feed
of each.
-/

namespace Polyglot.Text

/-- A text with every line end as a line feed. -/
def unifyLineEnds : List Char → List Char
  | [] => []
  | '\r' :: '\n' :: rest => '\n' :: unifyLineEnds rest
  | '\r' :: rest => '\n' :: unifyLineEnds rest
  | c :: rest => c :: unifyLineEnds rest

end Polyglot.Text

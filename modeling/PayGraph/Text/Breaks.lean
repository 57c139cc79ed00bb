/-!
# Line breaks

Files end their lines with a line feed, a carriage return or both.
-/

namespace PayGraph

/-- Text with a line feed for every line break. -/
def unifyBreaks : List Char → List Char
  | '\r' :: '\n' :: rest => '\n' :: unifyBreaks rest
  | '\r' :: rest => '\n' :: unifyBreaks rest
  | character :: rest => character :: unifyBreaks rest
  | [] => []

end PayGraph

/-!
# Splitting text

A text falls into parts at every character of a class.  The characters themselves are dropped, so n
of them leave n + 1 parts.
-/

namespace PayGraph

/-- Parts of a text between the characters of a class; there is always one. -/
def splitWhere (separates : Char → Bool) : List Char → List (List Char)
  | [] => [[]]
  | character :: rest =>
    if separates character then [] :: splitWhere separates rest
    else
      match splitWhere separates rest with
      | first :: others => (character :: first) :: others
      | [] => [[character]]

end PayGraph

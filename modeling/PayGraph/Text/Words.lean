import PayGraph.Number.Reading

/-!
# Words

White space and the separators of files, groups, records and units stand between words.
-/

namespace PayGraph

/-- A character between words. -/
def separates (character : Char) : Bool :=
  isSpace character || (0x1C ≤ character.toNat && character.toNat ≤ 0x1F)

/-- A text without the separators at its end. -/
def trimEnd (characters : List Char) : List Char :=
  (characters.reverse.dropWhile separates).reverse

/-- A text without the separators around it. -/
def trim (characters : List Char) : List Char :=
  trimEnd (characters.dropWhile separates)

/-- Words of a text.  A step holds the words so far and the characters of the current one, the last
first. -/
def wordsOf (characters : List Char) : List (List Char) :=
  let close := fun (state : List (List Char) × List Char) =>
    if state.2.isEmpty then state.1 else state.2.reverse :: state.1
  let step := fun (state : List (List Char) × List Char) character =>
    if separates character then (close state, []) else (state.1, character :: state.2)
  (close (characters.foldl step ([], []))).reverse

end PayGraph

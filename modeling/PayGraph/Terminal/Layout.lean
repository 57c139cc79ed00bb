import PayGraph.Terminal.Width
import PayGraph.Text.Split
import PayGraph.Text.Words

/-!
# Laying out text in lines

Text breaks at its line breaks and, where a line would be too wide, between words.  A word that is
too wide for any line starts on a line of its own, and either goes on over further lines or ends in
an ellipsis.
-/

namespace PayGraph
namespace Terminal

/-- What becomes of a word that is too wide for any line. -/
inductive Overflow where
  /-- It goes on over as many lines as it needs. -/
  | fold
  /-- Its line is cut and ends in an ellipsis. -/
  | ellipsis
  deriving DecidableEq, Repr

/-- Lines of a text; there is always one. -/
def splitLines (characters : List Char) : List (List Char) :=
  splitWhere (· = '\n') characters

/-- Parts of a line between its tabs, with blanks up to the next multiple of eight columns in place
of each tab. -/
def fillTabs (column : Nat) : List (List Char) → List Char
  | [] => []
  | [part] => part
  | part :: rest =>
    let reached := column + width (part ++ [' '])
    let next := (reached + 7) / 8 * 8
    part ++ ' ' :: List.replicate (next - reached) ' ' ++ fillTabs next rest

/-- A line with blanks in place of its tabs. -/
def expandTabs (line : List Char) : List Char :=
  fillTabs 0 (splitWhere (· = '\t') line)

/-- Words of a line with the separators after them; the first has those before it too.  The
characters of the current word are in reverse. -/
def words (reversed : List Char) : List Char → List (List Char)
  | [] => if reversed.all separates then [] else [reversed.reverse]
  | character :: rest =>
    let complete := !reversed.all separates && (reversed.head?.map separates).getD false
    if complete && !separates character then reversed.reverse :: words [character] rest
    else words (character :: reversed) rest

/-- Clusters on lines of a width, after a line that is partly used. -/
def chop (limit : Nat) (line : List Char) (used : Nat) : List Cluster → List (List Char)
  | [] => [line]
  | cluster :: rest =>
    if limit < used + cluster.cells then
      line :: chop limit cluster.characters cluster.cells rest
    else chop limit (line ++ cluster.characters) (used + cluster.cells) rest

/-- Lines of words, after a current line that is partly used. -/
def fill (overflow : Overflow) (limit : Nat) (line : List Char) (used : Nat) :
    List (List Char) → List (List Char)
  | [] => [line]
  | word :: rest =>
    let needed := width (trimEnd word)
    if used + needed ≤ limit then
      fill overflow limit (line ++ word) (used + width word) rest
    else if limit < needed then
      let parts :=
        match overflow with
        | .fold => chop limit [] 0 (clusters word)
        | .ellipsis => [word]
      let last := parts.getLastD []
      (if line.isEmpty then [] else [line]) ++ parts.dropLast ++
        fill overflow limit last (width last) rest
    else line :: fill overflow limit word (width word) rest

/-- A line without as many separators at its end as it is too long. -/
def trimExcess (limit : Nat) (line : List Char) : List Char :=
  let trailing := line.length - (trimEnd line).length
  line.take (line.length - min trailing (line.length - limit))

/-- As many clusters as a width can hold, with a blank for half of one. -/
def clip : Nat → List Cluster → List Char
  | 0, _ => []
  | _, [] => []
  | limit, cluster :: rest =>
    if cluster.cells ≤ limit then cluster.characters ++ clip (limit - cluster.cells) rest
    else List.replicate limit ' '

/-- A line cut to a width, with an ellipsis at its end if it is too wide. -/
def truncate (limit : Nat) (line : List Char) : List Char :=
  if limit < width line then clip (limit - 1) (clusters line) ++ ['…'] else line

/-- A line that may go on over further lines cut to a width. -/
def crop (overflow : Overflow) (limit : Nat) (line : List Char) : List Char :=
  if overflow = .fold ∧ limit < width line then clip limit (clusters line) else line

/-- Lines of a text on a terminal of a width. -/
def layout (overflow : Overflow) (limit : Nat) (characters : List Char) : List (List Char) :=
  (splitLines characters).flatMap fun line =>
    let expanded := expandTabs line
    let lines :=
      match words [] expanded with
      | [] => [expanded]
      | found => fill overflow limit [] 0 found
    lines.map fun one => crop overflow limit (trimExcess limit one)

/-- A line filled up with blanks to a width. -/
def padRight (limit : Nat) (line : List Char) : List Char :=
  line ++ List.replicate (limit - width line) ' '

/-- A line pushed to the right end of a width. -/
def padLeft (limit : Nat) (line : List Char) : List Char :=
  List.replicate (limit - width line) ' ' ++ line

end Terminal
end PayGraph

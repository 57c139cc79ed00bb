import PayGraph.Text.Quoted
import PayGraph.Text.Split

/-!
# Paths

A path is a sequence of names, from the root or from the current directory.  Repeated slashes and
single dots do not count; two dots stay as they are until the path is followed.
-/

namespace PayGraph

/-- Where a path starts. -/
inductive Anchor where
  | relative
  | root
  /-- The root, written with exactly two slashes. -/
  | wideRoot
  deriving DecidableEq, Repr

namespace Anchor

/-- Written form of a start. -/
def text : Anchor → String
  | .relative => ""
  | .root => "/"
  | .wideRoot => "//"

end Anchor

/-- A place among files, as it is written. -/
structure Path where
  /-- Where the path starts. -/
  anchor : Anchor
  /-- Names on the way. -/
  names : List String
  deriving DecidableEq, Repr

namespace Path

/-- Names that count in a text between slashes. -/
def namesOf (written : List Char) : List String :=
  ((splitWhere (· = '/') written).map String.ofList).filter fun name => name ≠ "" && name ≠ "."

/-- Start of a written path. -/
def anchorOf : List Char → Anchor
  | '/' :: '/' :: '/' :: _ => .root
  | '/' :: '/' :: _ => .wideRoot
  | '/' :: _ => .root
  | _ => .relative

/-- The path that a text stands for. -/
def ofText (written : String) : Path :=
  ⟨anchorOf written.toList, namesOf written.toList⟩

/-- Written form of a path. -/
def text (path : Path) : String :=
  if path.anchor = .relative ∧ path.names = [] then "."
  else path.anchor.text ++ "/".intercalate path.names

/-- No name on the way holds the character that no file name can hold. -/
def isPossible (path : Path) : Bool :=
  path.names.all fun name => !name.toList.contains '\x00'

/-- The path starts at the root. -/
def isAbsolute (path : Path) : Bool :=
  path.anchor ≠ .relative

/-- The path that a second one leads to from a first. -/
def join (directory path : Path) : Path :=
  if path.isAbsolute then path else ⟨directory.anchor, directory.names ++ path.names⟩

/-- The entry with a name in a directory. -/
def child (directory : Path) (name : String) : Path :=
  ⟨directory.anchor, directory.names ++ [name]⟩

/-- The directory that holds an entry; a path without names is its own. -/
def parent (path : Path) : Path :=
  ⟨path.anchor, path.names.dropLast⟩

/-- Last name of a path. -/
def name (path : Path) : String :=
  path.names.getLastD ""

/-- End of a name from its last dot, unless the dot is its first or last character. -/
def suffix (path : Path) : List Char :=
  let characters := path.name.toList
  let afterDot := (characters.reverse.takeWhile (· ≠ '.')).reverse
  let stem := characters.length - afterDot.length
  if 2 ≤ stem ∧ afterDot ≠ [] then '.' :: afterDot else []

/-- Names with each pair of dots taken back along with the name before it.  The names so far are in
reverse. -/
def collapseNames (reversed : List String) : List String → List String
  | [] => reversed.reverse
  | name :: rest =>
    collapseNames (if name = ".." then reversed.tail else name :: reversed) rest

/-- An absolute path without two dots. -/
def collapse (path : Path) : Path :=
  ⟨path.anchor, collapseNames [] path.names⟩

/-- Directories at and above a path, the nearest first. -/
def enclosing (path : Path) : List Path :=
  ((List.range (path.names.length + 1)).map fun count =>
    ⟨path.anchor, path.names.take count⟩).reverse

end Path

/-- Format of a file of data. -/
inductive Format where
  | json
  | toml
  deriving DecidableEq, Repr

namespace Format

/-- The suffix of a path decides on the format of the file. -/
def ofPath (path : Path) : Format :=
  if path.suffix = ".json".toList then .json else .toml

end Format
end PayGraph

import PayGraph.Data
import PayGraph.Text.Quoted

/-!
# Data inside messages

A message shows a value of a document on one line: texts between quotes, lists in brackets and
tables in braces.  How deep the calls go that show a value depends on its nesting.
-/

namespace PayGraph
namespace Data

section

variable [Halves]

mutual

/-- A value as a message shows it. -/
def shown : Data → String
  | .null => "None"
  | .boolean value => if value then "True" else "False"
  | .whole value => String.ofList (wholeText value)
  | .real value => String.ofList (value.text .short)
  | .text content => quotedHalves content
  | .moment written => written
  | .list items => "[" ++ ", ".intercalate (shownItems items) ++ "]"
  | .table entries => "\x7b" ++ ", ".intercalate (shownEntries entries) ++ "\x7d"

/-- The items of a list as a message shows them. -/
def shownItems : List Data → List String
  | [] => []
  | item :: rest => shown item :: shownItems rest

/-- The entries of a table as a message shows them. -/
def shownEntries : List (String × Data) → List String
  | [] => []
  | (key, value) :: rest => (quotedHalves key ++ ": " ++ shown value) :: shownEntries rest

end

/-- A value as plain text: a text is itself, anything else is shown. -/
def plain : Data → String
  | .text content => content
  | other => other.shown

end

mutual

/-- Number of the lists and tables around the innermost part of a value. -/
def nesting : Data → Nat
  | .list items => nestingItems items
  | .table entries => nestingEntries entries
  | _ => 0

/-- Nesting of a list with some items. -/
def nestingItems : List Data → Nat
  | [] => 0
  | item :: rest => max (nesting item + 1) (nestingItems rest)

/-- Nesting of a table with some entries. -/
def nestingEntries : List (String × Data) → Nat
  | [] => 0
  | (_, value) :: rest => max (nesting value + 1) (nestingEntries rest)

end

end Data
end PayGraph

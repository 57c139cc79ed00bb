import PayGraph.Toml.Scalar
import PayGraph.Toml.Text

/-!
# Reading TOML

A document is a sequence of statements: assignments, table headers and list-item headers.  Each
statement is carried out on the table read so far.  A table that was opened by a header, passed
through by a dotted key of an earlier section, or written inline may not be opened again.
-/

namespace PayGraph
namespace Toml

/-- Text without the blanks in front of it. -/
def skipBlanks (input : List Char) : List Char :=
  input.dropWhile isBlank

/-- Text without the comment in front of it. -/
def skipComment : List Char → Except ParseFault (List Char)
  | '#' :: rest =>
    let comment := rest.takeWhile (· ≠ '\n')
    if comment.any isControl then .error .malformed else .ok (rest.dropWhile (· ≠ '\n'))
  | input => .ok input

/-- Text without the blanks, line breaks and comments in front of it. -/
def skipLines : Nat → List Char → Except ParseFault (List Char)
  | 0, input => .ok input
  | fuel + 1, input =>
    match input.dropWhile fun character => isBlank character || character = '\n' with
    | '#' :: rest =>
      match skipComment ('#' :: rest) with
      | .ok after => skipLines fuel after
      | .error fault => .error fault
    | after => .ok after

/-- Further parts of a dotted key.  The parts read so far are in reverse. -/
def keyParts : Nat → List String → Scan (List String)
  | 0, _, _ => .error .malformed
  | fuel + 1, reversed, input =>
    match keyPart input with
    | .error fault => .error fault
    | .ok (part, rest) =>
      match skipBlanks rest with
      | '.' :: after => keyParts fuel (part :: reversed) (skipBlanks after)
      | after => .ok ((part :: reversed).reverse, after)

/-- Make a change inside a table along a path, with new tables where there are none.  A path may
lead through the last item of a list if that is asked for. -/
def changeAt (throughLists : Bool) (change : Entries → Except ParseFault Entries) :
    List String → Entries → Except ParseFault Entries
  | [], entries => change entries
  | key :: path, entries =>
    match entries.lookup key with
    | none => (changeAt throughLists change path []).map fun inner =>
        entries.insert key (.table inner)
    | some (.table inner) => (changeAt throughLists change path inner).map fun changed =>
        entries.insert key (.table changed)
    | some (.list items) =>
      if throughLists then
        match items.getLast? with
        | some (.table inner) => (changeAt throughLists change path inner).map fun changed =>
            entries.insert key (.list (items.dropLast ++ [.table changed]))
        | _ => .error .malformed
      else .error .malformed
    | some _ => .error .malformed

/-- Add an entry to a table that lacks its key. -/
def addEntry (key : String) (value : Data) (entries : Entries) : Except ParseFault Entries :=
  if entries.has key then .error .malformed else .ok (entries ++ [(key, value)])

/-- The value is a list or a table. -/
def isNested : Data → Bool
  | .list _ | .table _ => true
  | _ => false

/-- Some start of a path, or all of it, is among the given paths. -/
def within (paths : List (List String)) (path : List String) : Bool :=
  paths.any fun start => start.isPrefixOf path

/-- A key with its value. -/
def assignment (fuel : Nat) (item : Scan Data) : Scan (List String × Data) := fun input =>
  match keyParts fuel [] input with
  | .error fault => .error fault
  | .ok (key, '=' :: rest) => (item (skipBlanks rest)).map fun (value, after) =>
      ((key, value), after)
  | .ok _ => .error .malformed

/-- Items of a list after its bracket.  The items read so far are in reverse. -/
def items (fuel : Nat) (item : Scan Data) : Nat → List Data → Scan (List Data)
  | 0, _, _ => .error .malformed
  | parts + 1, reversed, input =>
    match skipLines fuel input with
    | .error fault => .error fault
    | .ok (']' :: rest) => .ok (reversed.reverse, rest)
    | .ok start =>
      match item start with
      | .error fault => .error fault
      | .ok (value, afterValue) =>
        match skipLines fuel afterValue with
        | .error fault => .error fault
        | .ok (']' :: rest) => .ok ((value :: reversed).reverse, rest)
        | .ok (',' :: rest) => items fuel item parts (value :: reversed) rest
        | .ok _ => .error .malformed

/-- Entries of an inline table after its brace, one at least.  Lists and tables among them admit no
further entries. -/
def inlineEntries (fuel : Nat) (item : Scan Data) :
    Nat → List (List String) → Entries → Scan Entries
  | 0, _, _, _ => .error .malformed
  | parts + 1, frozen, found, input =>
    match assignment fuel item input with
    | .error fault => .error fault
    | .ok ((key, value), afterValue) =>
      if within frozen key then .error .malformed
      else
        match changeAt false (addEntry (key.getLastD "") value) key.dropLast found with
        | .error fault => .error fault
        | .ok changed =>
          match skipBlanks afterValue with
          | '}' :: rest => .ok (changed, rest)
          | ',' :: rest =>
            inlineEntries fuel item parts (if isNested value then key :: frozen else frozen)
              changed (skipBlanks rest)
          | _ => .error .malformed

/-- A scalar. -/
def scalar : Scan Data
  | 't' :: 'r' :: 'u' :: 'e' :: rest => .ok (.boolean true, rest)
  | 'f' :: 'a' :: 'l' :: 's' :: 'e' :: rest => .ok (.boolean false, rest)
  | input =>
    match moment? input with
    | some found => found
    | none => number input

/-- A value, with the most parts that a list or table in it may have and the nesting left. -/
def value (fuel : Nat) : Nat → Scan Data
  | depth, input =>
    match input with
    | '"' :: _ | '\'' :: _ => (text input).map fun (content, after) => (.text content, after)
    | '[' :: rest =>
      match depth with
      | 0 | 1 => .error .nesting
      | inner + 2 =>
        (items fuel (value fuel inner) fuel [] rest).map fun (found, after) =>
          (.list found, after)
    | '{' :: rest =>
      match depth with
      | 0 | 1 | 2 => .error .nesting
      | inner + 3 =>
        match skipBlanks rest with
        | '}' :: after => .ok (.table [], after)
        | start =>
          (inlineEntries fuel (value fuel inner) fuel [] [] start).map fun (found, after) =>
            (.table found, after)
    | _ => scalar input

/-- A document as far as it has been read. -/
structure Draft where
  /-- Entries of the whole document. -/
  root : Entries := []
  /-- Path of the table that assignments go to. -/
  header : List String := []
  /-- Paths that no header may open again. -/
  explicit : List (List String) := []
  /-- Paths of lists and inline tables, which nothing may be added to. -/
  frozen : List (List String) := []
  /-- Paths that become explicit with the next header. -/
  pending : List (List String) := []

namespace Draft

/-- The draft at the start of a new section. -/
def settle (draft : Draft) : Draft :=
  { draft with explicit := draft.pending ++ draft.explicit, pending := [] }

/-- Open a table. -/
def openTable (draft : Draft) (key : List String) : Except ParseFault Draft :=
  if key ∈ draft.explicit ∨ within draft.frozen key then .error .malformed
  else
    (changeAt true .ok key draft.root).map fun root =>
      { draft with root, header := key, explicit := key :: draft.explicit }

/-- Append a table to the list with a key. -/
def appendItem (key : String) (entries : Entries) : Except ParseFault Entries :=
  match entries.lookup key with
  | none => .ok (entries ++ [(key, .list [.table []])])
  | some (.list items) => .ok (entries.insert key (.list (items ++ [.table []])))
  | some _ => .error .malformed

/-- Open a new item of a list of tables. -/
def openItem (draft : Draft) (key : List String) : Except ParseFault Draft :=
  if within draft.frozen key then .error .malformed
  else
    let outside := fun path => !key.isPrefixOf path
    (changeAt true (appendItem (key.getLastD "")) key.dropLast draft.root).map fun root =>
      { draft with
        root
        header := key
        explicit := key :: draft.explicit.filter outside
        frozen := draft.frozen.filter outside }

/-- Paths of the tables that a dotted key passes through below the current one. -/
def passed (draft : Draft) (key : List String) : List (List String) :=
  (List.range (key.length - 1)).map fun count => draft.header ++ key.take (count + 1)

/-- Carry out an assignment. -/
def assign (draft : Draft) (key : List String) (value : Data) : Except ParseFault Draft :=
  let passed := draft.passed key
  let parent := draft.header ++ key.dropLast
  if passed.any (fun path => draft.explicit.contains path) || within draft.frozen parent then
    .error .malformed
  else
    (changeAt true (addEntry (key.getLastD "") value) parent draft.root).map fun root =>
      { draft with
        root
        pending := passed ++ draft.pending
        frozen := if isNested value then (draft.header ++ key) :: draft.frozen else draft.frozen }

end Draft

/-- Read one statement at the start of a line and carry it out. -/
def statement [Stack] (fuel : Nat) (draft : Draft) (input : List Char) :
    Except ParseFault (Draft × List Char) :=
  match input with
  | [] => .ok (draft, [])
  | '\n' :: _ | '#' :: _ => .ok (draft, input)
  | '[' :: '[' :: rest =>
    match keyParts fuel [] (skipBlanks rest) with
    | .error fault => .error fault
    | .ok (key, after) =>
      match draft.settle.openItem key, after with
      | .error fault, _ => .error fault
      | .ok opened, ']' :: ']' :: final => .ok (opened, final)
      | .ok _, _ => .error .malformed
  | '[' :: rest =>
    match keyParts fuel [] (skipBlanks rest) with
    | .error fault => .error fault
    | .ok (key, after) =>
      match draft.settle.openTable key, after with
      | .error fault, _ => .error fault
      | .ok opened, ']' :: final => .ok (opened, final)
      | .ok _, _ => .error .malformed
  | _ =>
    match assignment fuel (value fuel Stack.toml) input with
    | .error fault => .error fault
    | .ok ((key, found), rest) =>
      (draft.assign key found).map fun assigned => (assigned, rest)

/-- Carry out the statements of a document line by line. -/
def lines [Stack] (fuel : Nat) : Nat → Draft → List Char → Except ParseFault Entries
  | 0, draft, input => if input.isEmpty then .ok draft.root else .error .malformed
  | count + 1, draft, input =>
    match statement fuel draft (skipBlanks input) with
    | .error fault => .error fault
    | .ok (changed, rest) =>
      match skipComment (skipBlanks rest) with
      | .error fault => .error fault
      | .ok [] => .ok changed.root
      | .ok ('\n' :: after) => lines fuel count changed after
      | .ok _ => .error .malformed

/-- Text with a plain line break for each carriage return that comes before one. -/
def unifyBreaks : List Char → List Char
  | '\r' :: '\n' :: rest => '\n' :: unifyBreaks rest
  | character :: rest => character :: unifyBreaks rest
  | [] => []

/-- The table that a document holds. -/
def read [Stack] (document : List Char) : Except ParseFault Entries :=
  let input := unifyBreaks document
  lines (input.length + 1) (input.length + 1) {} input

end Toml
end PayGraph

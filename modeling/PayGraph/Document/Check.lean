import PayGraph.Data
import PayGraph.Number.Reading

/-!
# Checking the fields of documents

A check either takes a value out of a document or lists every fault on the way, in the order of the
fields, with the place of each.
-/

namespace PayGraph

/-- One step from a value of a document to a part of it. -/
inductive Locus where
  | key (name : String)
  | position (index : Nat)
  deriving DecidableEq, Repr

/-- What is wrong with a field. -/
inductive FaultKind where
  | missing
  | notText
  | notList
  | notTable
  /-- A document or a part of one is no table. -/
  | notModel
  | notNumber
  /-- A text stands for no number. -/
  | notNumeral
  deriving DecidableEq, Repr

/-- A fault and its place. -/
structure FieldFault where
  /-- Steps from the whole document to the field. -/
  path : List Locus
  /-- What is wrong there. -/
  kind : FaultKind
  deriving DecidableEq, Repr

namespace FieldFault

/-- A fault of a part, seen from the whole. -/
def under (locus : Locus) (fault : FieldFault) : FieldFault :=
  ⟨locus :: fault.path, fault.kind⟩

end FieldFault

/-- A value that has been checked, or the faults that were found. -/
abbrev Checked (Value : Type) := Except (List FieldFault) Value

namespace Checked

/-- A value without faults. -/
def value {Value : Type} (found : Value) : Checked Value :=
  .ok found

/-- A fault of a whole value. -/
def fault {Value : Type} (kind : FaultKind) : Checked Value :=
  .error [⟨[], kind⟩]

/-- Apply a function to a value; the faults of both are kept. -/
def apply {Input Output : Type} : Checked (Input → Output) → Checked Input → Checked Output
  | .ok function, .ok value => .ok (function value)
  | .ok _, .error faults => .error faults
  | .error faults, .ok _ => .error faults
  | .error before, .error after => .error (before ++ after)

/-- The check of a part, with its faults seen from the whole. -/
def under {Value : Type} (locus : Locus) (checked : Checked Value) : Checked Value :=
  checked.mapError fun faults => faults.map (FieldFault.under locus)

/-- Check every item of a list, the first of which has a given position. -/
def each {Value : Type} (check : Data → Checked Value) :
    Nat → List Data → Checked (List Value)
  | _, [] => .ok []
  | index, item :: rest =>
    ((value List.cons).apply ((check item).under (.position index))).apply
      (each check (index + 1) rest)

/-- Check every value of a table. -/
def eachEntry {Value : Type} (check : Data → Checked Value) :
    Entries → Checked (List (String × Value))
  | [] => .ok []
  | (key, item) :: rest =>
    ((value fun first others => (key, first) :: others).apply
      ((check item).under (.key key))).apply (eachEntry check rest)

/-- Check the value under a key that must be present. -/
def required {Value : Type} (key : String) (check : Data → Checked Value) (entries : Entries) :
    Checked Value :=
  match entries.lookup key with
  | some item => (check item).under (.key key)
  | none => (fault .missing).under (.key key)

/-- Check the value under a key, or take a default where the key is absent. -/
def optional {Value : Type} (key : String) (default : Value) (check : Data → Checked Value)
    (entries : Entries) : Checked Value :=
  match entries.lookup key with
  | some item => (check item).under (.key key)
  | none => .ok default

end Checked

namespace Data

/-- The value as a text. -/
def asText : Data → Checked String
  | .text content => .ok content
  | _ => .fault .notText

/-- The value as a text that may be null. -/
def asNullableText : Data → Checked (Option String)
  | .null => .ok none
  | .text content => .ok (some content)
  | _ => .fault .notText

/-- The value as a list of checked items. -/
def asList {Value : Type} (check : Data → Checked Value) : Data → Checked (List Value)
  | .list items => Checked.each check 0 items
  | _ => .fault .notList

/-- The value as a table. -/
def asTable : Data → Checked Entries
  | .table entries => .ok entries
  | _ => .fault .notTable

/-- The value as a double-precision number: numbers, truth values and texts that stand for a
number count. -/
def asReal : Data → Checked Binary64
  | .real value => .ok value
  | .boolean value =>
    match (Number.boolean value).toBinary64? with
    | some found => .ok found
    | none => .fault .notNumber
  | .whole value =>
    match Binary64.ofInt? value with
    | some found => .ok found
    | none => .fault .notNumber
  | .text content =>
    match Binary64.read? content with
    | some found => .ok found
    | none => .fault .notNumeral
  | _ => .fault .notNumber

end Data
end PayGraph

import PayGraph.Number.Text
import PayGraph.Text.Halves

/-!
# Structured data

What documents, settings and exported results hold: scalars, lists, and tables whose entries keep
the order of their first mention.
-/

namespace PayGraph

/-- A value of a document. -/
inductive Data where
  | null
  | boolean (value : Bool)
  | whole (value : Int)
  | real (value : Binary64)
  | text (content : String)
  | moment (written : String)
  | list (items : List Data)
  | table (entries : List (String × Data))
  deriving Repr, Inhabited

/-- Entries of a table. -/
abbrev Entries := List (String × Data)

namespace Entries

/-- The table has an entry for a key. -/
def has (entries : Entries) (key : String) : Bool :=
  entries.any fun entry => entry.1 = key

/-- Give a key a value, in its old place if it has one and last otherwise. -/
def insert (entries : Entries) (key : String) (value : Data) : Entries :=
  if entries.has key then
    entries.map fun entry => if entry.1 = key then (key, value) else entry
  else entries ++ [(key, value)]

end Entries

namespace Data

/-- The data of a number. -/
def ofNumber : Number → Data
  | .boolean value => .boolean value
  | .integer value => .whole value
  | .real value => .real value

end Data

/-- How deep calls may still go in a program, which depends on those that are under way. -/
class Stack where
  /-- Most lists and tables within each other in JSON. -/
  json : Nat
  /-- Bound on the nesting of values in TOML, where a list takes two and an inline table three. -/
  toml : Nat
  /-- Deepest nesting of a value that a warning can show. -/
  shown : Nat
  /-- There is room for a table with a list of tables. -/
  three_le_json : 3 ≤ json
  /-- There is room for a list of inline tables. -/
  five_le_toml : 5 ≤ toml

/-- What a program has left a few calls below its start. -/
@[reducible]
def Stack.usual : Stack where
  json := 990
  toml := 980
  shown := 980
  three_le_json := by decide
  five_le_toml := by decide

/-- What a program finds where it runs. -/
class Host extends Stack, Halves

/-- What it usually finds. -/
@[reducible]
def Host.usual : Host where
  toStack := .usual
  toHalves := .usual

/-- Why a text is no document of its format. -/
inductive ParseFault where
  | malformed
  | digits (cause : DigitOverflow)
  | nesting
  deriving DecidableEq, Repr

/-- A reader takes a part off the front of a text. -/
abbrev Scan (Value : Type) := List Char → Except ParseFault (Value × List Char)

/-- Whole number written by decimal digits, if there are few enough of them. -/
def boundedWhole (negative : Bool) (digits : List Char) : Except ParseFault Int :=
  if digitLimit < digits.length then .error (.digits (.reading digits.length))
  else
    let magnitude : Int := Decimal.ofDigits digits
    .ok (if negative then -magnitude else magnitude)

/-- Value of a hexadecimal digit. -/
def hexValue? (digit : Char) : Option Nat :=
  if digit.isDigit then some (digit.toNat - '0'.toNat)
  else if 'a' ≤ digit ∧ digit ≤ 'f' then some (digit.toNat - 'a'.toNat + 10)
  else if 'A' ≤ digit ∧ digit ≤ 'F' then some (digit.toNat - 'A'.toNat + 10)
  else none

/-- Number written by hexadecimal digits. -/
def hexNumber? (digits : List Char) : Option Nat :=
  digits.foldlM (fun total digit => (hexValue? digit).map (16 * total + ·)) 0

end PayGraph

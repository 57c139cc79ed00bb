import PayGraph.Data.Record
import PayGraph.Text.Quoted
import PayGraph.Toml.Text

/-!
# Writing TOML

A document has scalars first and then a list of records under one key.  The list stands in brackets
with a line for each record if no such line passes a limit; otherwise every record has a section of
its own.  The pieces of a document are written one after another.
-/

namespace PayGraph
namespace Toml

/-- Written form of a character of a text. -/
def escapeText (character : Char) : List Char :=
  if character = '"' then ['\\', '"']
  else if character = '\\' then ['\\', '\\']
  else if character = '\x08' then ['\\', 'b']
  else if character = '\n' then ['\\', 'n']
  else if character = '\x0c' then ['\\', 'f']
  else if character = '\r' then ['\\', 'r']
  else if isControl character then '\\' :: 'u' :: hexText 4 character.toNat
  else [character]

/-- Written form of a text. -/
def textLiteral (content : String) : List Char :=
  '"' :: content.toList.flatMap escapeText ++ ['"']

/-- Written form of a key, in quotes unless it is bare. -/
def keyText (key : String) : List Char :=
  if key.toList.all isBare && !key.isEmpty then key.toList else textLiteral key

/-- Written form of a number. -/
def numberText : Number → Except DigitOverflow (List Char)
  | .boolean value => .ok (if value then "true".toList else "false".toList)
  | .integer value => boundedText value
  | .real value => .ok (value.text .short)

/-- Written form of a scalar. -/
def literalText : Literal → Except DigitOverflow (List Char)
  | .number value => numberText value
  | .text content => .ok (textLiteral content)

/-- Written form of an assignment. -/
def assignmentText (field : String × Literal) : Except DigitOverflow (List Char) :=
  (literalText field.2).map fun written => keyText field.1 ++ ' ' :: '=' :: ' ' :: written

/-- Lines that a record is written on. -/
def recordLines (record : Record) : Except DigitOverflow (List (List Char)) :=
  (record.mapM assignmentText).map fun fields => fields.map (· ++ ['\n'])

/-- Written form of a record between braces, as an item of a list. -/
def recordItem (record : Record) : Except DigitOverflow (List Char) :=
  (record.mapM assignmentText).map fun fields =>
    "    \x7b ".toList ++ [',', ' '].intercalate fields ++ " \x7d,".toList

/-- Most characters that the line of a record in a list may have. -/
def lineLimit : Nat := 100

/-- Pieces that a list of records under a key is written in: one for a list in brackets, and one for
each line of sections. -/
def recordsPieces (key : String) (records : List Record) :
    Except DigitOverflow (List (List Char)) :=
  if records.isEmpty then .ok [keyText key ++ " = []\n".toList]
  else do
    let items ← records.mapM recordItem
    if items.all fun item => item.length ≤ lineLimit then
      return [keyText key ++ " = [\n".toList ++ items.flatMap (· ++ ['\n']) ++ "]\n".toList]
    else
      let sections ← records.mapM recordLines
      return sections.flatMap fun body =>
        ("\n[[".toList ++ keyText key ++ "]]\n".toList) :: body

/-- Pieces that a document is written in: those of a record and of a list of records under a key. -/
def pieces (fields : Record) (key : String) (records : List Record) :
    Except DigitOverflow (List (List Char)) := do
  let before ← recordLines fields
  let after ← recordsPieces key records
  return before ++ after

/-- Written form of a document: a record and a list of records under a key. -/
def document (fields : Record) (key : String) (records : List Record) :
    Except DigitOverflow String :=
  (pieces fields key records).map fun written => String.ofList written.flatten

end Toml
end PayGraph

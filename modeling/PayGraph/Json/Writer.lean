import PayGraph.Data
import PayGraph.Text.Quoted

/-!
# Writing JSON

Every item and entry stands on a line of its own, indented by two blanks for each level.  Characters
outside the control range are written as they are.
-/

namespace PayGraph
namespace Json

/-- Words for the values without digits. -/
def specialWords : SpecialWords := ⟨"NaN".toList, "Infinity".toList⟩

/-- Written form of a character of a text. -/
def escape (character : Char) : List Char :=
  if character = '"' then ['\\', '"']
  else if character = '\\' then ['\\', '\\']
  else if character = '\n' then ['\\', 'n']
  else if character = '\r' then ['\\', 'r']
  else if character = '\t' then ['\\', 't']
  else if character = '\x08' then ['\\', 'b']
  else if character = '\x0c' then ['\\', 'f']
  else if character.toNat < 0x20 then '\\' :: 'u' :: hexText 4 character.toNat
  else [character]

/-- Written form of a text. -/
def textLiteral (content : String) : List Char :=
  '"' :: content.toList.flatMap escape ++ ['"']

/-- Start of a line at a level. -/
def lineBreak (level : Nat) : List Char :=
  '\n' :: List.replicate (2 * level) ' '

mutual

/-- Written form of a value at a level. -/
def write (level : Nat) : Data → Except DigitOverflow (List Char)
  | .null => .ok "null".toList
  | .boolean value => .ok (if value then "true".toList else "false".toList)
  | .whole value => boundedText value
  | .real value => .ok (value.text specialWords)
  | .text content => .ok (textLiteral content)
  | .moment written => .ok (textLiteral written)
  | .list [] => .ok ['[', ']']
  | .list (first :: rest) => do
    let firstText ← write (level + 1) first
    let restText ← writeItems (level + 1) rest
    return '[' :: lineBreak (level + 1) ++ firstText ++ restText ++ lineBreak level ++ [']']
  | .table [] => .ok ['{', '}']
  | .table ((key, value) :: rest) => do
    let valueText ← write (level + 1) value
    let restText ← writeEntries (level + 1) rest
    return '{' :: lineBreak (level + 1) ++ textLiteral key ++ ':' :: ' ' :: valueText ++
      restText ++ lineBreak level ++ ['}']

/-- Written form of the items after the first. -/
def writeItems (level : Nat) : List Data → Except DigitOverflow (List Char)
  | [] => .ok []
  | item :: rest => do
    let itemText ← write level item
    let restText ← writeItems level rest
    return ',' :: lineBreak level ++ itemText ++ restText

/-- Written form of the entries after the first. -/
def writeEntries (level : Nat) : List (String × Data) → Except DigitOverflow (List Char)
  | [] => .ok []
  | (key, value) :: rest => do
    let valueText ← write level value
    let restText ← writeEntries level rest
    return ',' :: lineBreak level ++ textLiteral key ++ ':' :: ' ' :: valueText ++ restText

end

/-- Written form of a document. -/
def document (data : Data) : Except DigitOverflow String :=
  (write 0 data).map String.ofList

end Json
end PayGraph

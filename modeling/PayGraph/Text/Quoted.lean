import PayGraph.Text.Halves
import PayGraph.Text.Printable

/-!
# Quoted text

Text inside a message stands between single quotes, or between double quotes if it holds a single
quote and no double one.  The quote, the backslash and characters without a visible form are
escaped.
-/

namespace PayGraph

/-- Lower-case hexadecimal digits of a number, padded with zeros to a width. -/
def hexText (width value : Nat) : List Char :=
  let written := Nat.toDigits 16 value
  List.replicate (width - written.length) '0' ++ written

/-- Escape of a code unit. -/
def unitEscape (unit : Nat) : List Char :=
  '\\' :: 'u' :: hexText 4 unit

/-- One character of quoted text. -/
def quotedCharacter (quote character : Char) : List Char :=
  if character = quote ∨ character = '\\' then ['\\', character]
  else if character = '\n' then ['\\', 'n']
  else if character = '\r' then ['\\', 'r']
  else if character = '\t' then ['\\', 't']
  else if isPrintable character then [character]
  else if character.toNat < 0x100 then '\\' :: 'x' :: hexText 2 character.toNat
  else if character.toNat < 0x10000 then unitEscape character.toNat
  else '\\' :: 'U' :: hexText 8 character.toNat

/-- Text between the quotes that suit it, as characters are written between such quotes. -/
def quotedBy (write : Char → Char → List Char) (content : String) : String :=
  let characters := content.toList
  let quote := if characters.contains '\'' && !characters.contains '"' then '"' else '\''
  String.ofList (quote :: characters.flatMap (write quote) ++ [quote])

/-- Text between the quotes that suit it. -/
def quoted (content : String) : String :=
  quotedBy quotedCharacter content

section

variable [Halves]

/-- A character, or the escape of the half that it stands for. -/
def orHalf (written : Char → List Char) (character : Char) : List Char :=
  (halfUnit? character).elim (written character) unitEscape

/-- Text between the quotes that suit it, which may hold halves of surrogate pairs. -/
def quotedHalves (content : String) : String :=
  quotedBy (fun quote => orHalf (quotedCharacter quote)) content

/-- Text as the standard error shows it, with an escape in the place of half a surrogate pair. -/
def spelledOut (text : List Char) : List Char :=
  text.flatMap (orHalf fun character => [character])

end
end PayGraph

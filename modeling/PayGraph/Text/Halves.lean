/-!
# Halves of surrogate pairs

An escape in a document may be half of a surrogate pair without the other half.  Texts keep such a
half, but no file can hold it.  In a text, some character that Unicode assigns to nothing stands for
the half.  Which one is left open, as any file may use any character: for the files at hand there is
a choice of characters that they do not use.
-/

namespace PayGraph

/-- A block of characters that stand for the halves of surrogate pairs, among those without a
meaning. -/
class Halves where
  /-- Code point of the first character of the block. -/
  first : Nat
  le_first : 0x40000 ≤ first
  first_le : first ≤ 0xDF800

/-- The block that is taken if nothing is known about the files. -/
@[reducible]
def Halves.usual : Halves where
  first := 0xDF000
  le_first := by decide
  first_le := by decide

section

variable [Halves]

/-- Character that stands for the half with a code unit. -/
def halfCharacter (unit : Nat) : Char :=
  Char.ofNat (Halves.first + (unit - 0xD800))

/-- Code unit of the half that a character stands for. -/
def halfUnit? (character : Char) : Option Nat :=
  if Halves.first ≤ character.toNat ∧ character.toNat < Halves.first + 0x800 then
    some (character.toNat - Halves.first + 0xD800)
  else none

/-- No character of the text stands for a half, so a file can hold it. -/
def isEncodable (text : List Char) : Bool :=
  text.all fun character => (halfUnit? character).isNone

end
end PayGraph

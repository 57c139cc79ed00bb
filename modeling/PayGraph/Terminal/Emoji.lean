import PayGraph.Terminal.Emoji.Index
import PayGraph.Text.Case
import PayGraph.Text.Words

/-!
# Emoji in texts

A name between colons stands for an emoji, whatever the case of its letters.  At its end the name
may ask for the form of the emoji as text or as a picture.  Names that stand for nothing stay as
they are.
-/

namespace PayGraph
namespace Terminal
namespace Emoji

/-- Neighbouring words as pairs. -/
def pairUp : List (List Char) → List (String × List Char)
  | name :: picture :: rest => (String.ofList name, picture) :: pairUp rest
  | _ => []

/-- Emoji by name. -/
def byName : List (String × List Char) :=
  pairUp (wordsOf emojiIndex.toList)

/-- Endings of a name that ask for a form, with the character that selects the form. -/
def forms : List (List Char × Char) :=
  [("-text".toList, '\uFE0E'), ("-emoji".toList, '\uFE0F')]

/-- A name without the ending that asks for a form, and what selects the form. -/
def withoutForm (name : List Char) : List Char × List Char :=
  match forms.find? fun form => form.1.isSuffixOf name with
  | some (ending, selector) => (name.take (name.length - ending.length), [selector])
  | none => (name, [])

/-- The emoji that a name stands for. -/
def ofName? (name : List Char) : Option (List Char) :=
  let (plain, selector) := withoutForm name
  (byName.lookup (String.ofList (lowerCase plain))).map (· ++ selector)

/-- A character that a name cannot hold. -/
def endsName (character : Char) : Bool :=
  character = ':' || separates character

/-- A name after its first colon, if a second one ends it, and what follows that. -/
def name? (input : List Char) : Option (List Char × List Char) :=
  match input.dropWhile fun one => !endsName one with
  | ':' :: rest => some (input.takeWhile fun one => !endsName one, rest)
  | _ => none

theorem name?_length {input name rest : List Char} (found : name? input = some (name, rest)) :
    rest.length < input.length := by
  unfold name? at found
  split at found
  · rename_i after split_eq
    have shorter := (List.dropWhile_suffix (fun one => !endsName one) (l := input)).length_le
    rw [split_eq, List.length_cons] at shorter
    simp only [Option.some.injEq, Prod.mk.injEq] at found
    rw [← found.2]
    omega
  · cases found

/-- A text with emoji in place of their names. -/
def replace : List Char → List Char
  | [] => []
  | character :: rest =>
    if character = ':' then
      match found : name? rest with
      | some (name, after) =>
        have := name?_length found
        (ofName? name).getD (':' :: name ++ [':']) ++ replace after
      | none => ':' :: replace rest
    else character :: replace rest
termination_by input => input.length

end Emoji
end Terminal
end PayGraph

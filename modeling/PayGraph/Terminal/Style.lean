import PayGraph.Number.Decimal
import PayGraph.Terminal.Style.Colours
import PayGraph.Text.Case
import PayGraph.Text.Split
import PayGraph.Text.Words

/-!
# Definitions of styles

A definition is a sequence of words: attributes, possibly denied, a colour, a background colour and
a link.  Definitions with the same effect have one normal form, whatever abbreviations and order
they are written in.
-/

namespace PayGraph
namespace Terminal

/-- A way to set off text, in the order of normal forms. -/
inductive Attribute where
  | bold
  | dim
  | italic
  | underline
  | blink
  | fastBlink
  | reverse
  | conceal
  | strike
  | doubleUnderline
  | frame
  | encircle
  | overline
  deriving DecidableEq, Repr

namespace Attribute

/-- The attributes in order. -/
def all : List Attribute :=
  [.bold, .dim, .italic, .underline, .blink, .fastBlink, .reverse, .conceal, .strike,
    .doubleUnderline, .frame, .encircle, .overline]

/-- Full name of an attribute. -/
def name : Attribute → String
  | .bold => "bold"
  | .dim => "dim"
  | .italic => "italic"
  | .underline => "underline"
  | .blink => "blink"
  | .fastBlink => "blink2"
  | .reverse => "reverse"
  | .conceal => "conceal"
  | .strike => "strike"
  | .doubleUnderline => "underline2"
  | .frame => "frame"
  | .encircle => "encircle"
  | .overline => "overline"

/-- Abbreviation of an attribute, if it has one. -/
def abbreviation? : Attribute → Option String
  | .bold => some "b"
  | .dim => some "d"
  | .italic => some "i"
  | .underline => some "u"
  | .reverse => some "r"
  | .conceal => some "c"
  | .strike => some "s"
  | .doubleUnderline => some "uu"
  | .overline => some "o"
  | .blink | .fastBlink | .frame | .encircle => none

/-- The attribute that a word names in full or in short. -/
def ofWord? (word : List Char) : Option Attribute :=
  all.find? fun one =>
    one.name.toList = word || (one.abbreviation?.map String.toList) = some word

end Attribute

/-- Why a definition has no normal form. -/
inductive StyleFault where
  /-- Some word means nothing. -/
  | unknown
  /-- A colour lacks the number of one of its components. -/
  | noComponent
  deriving DecidableEq, Repr

/-- A style of text. -/
structure Style where
  /-- Attributes that are asked for or denied, the last first. -/
  attributes : List (Attribute × Bool) := []
  /-- Colour of the text. -/
  colour? : Option (List Char) := none
  /-- Colour behind the text. -/
  background? : Option (List Char) := none
  /-- Address that the text leads to. -/
  link? : Option (List Char) := none

namespace Style

/-- Names of colours. -/
def colourNames : List (List Char) :=
  wordsOf colourIndex.toList

/-- Largest number of a colour and of a component of one. -/
def colourLimit : Nat := 255

/-- The text between a start and the closing bracket at the end of a word. -/
def argument? (start : String) (word : List Char) : Option (List Char) :=
  if start.toList.isPrefixOf word ∧ word.getLast? = some ')' then
    some (word.drop start.length).dropLast
  else none

/-- A word of decimal digits stands for a number within the limit. -/
def isWithinLimit (digits : List Char) : Bool :=
  Decimal.ofDigits digits ≤ colourLimit

/-- Three components separated by commas make a colour if none is beyond the limit. -/
def ofComponents (word : List Char) (components : List (List Char)) :
    Except StyleFault (List Char) :=
  if components.length ≠ 3 then .error .unknown
  else if components.any List.isEmpty then .error .noComponent
  else if components.all isWithinLimit then .ok word
  else .error .unknown

/-- The colour that a word stands for, in lower case. -/
def colour (written : List Char) : Except StyleFault (List Char) :=
  let word := lowerCase written
  let isHex := fun character : Char => character.isDigit || ('a' ≤ character && character ≤ 'f')
  if word = "default".toList ∨ word ∈ colourNames then .ok word
  else
    match word, argument? "color(" word, argument? "rgb(" word with
    | '#' :: digits, _, _ =>
      if digits.length = 6 && digits.all isHex then .ok word else .error .unknown
    | _, some digits, _ =>
      if 1 ≤ digits.length && digits.length ≤ 3 && digits.all Char.isDigit &&
          isWithinLimit digits then .ok word
      else .error .unknown
    | _, _, some numbers =>
      if !numbers.isEmpty && numbers.all fun one => one.isDigit || one = ',' then
        ofComponents word (splitWhere (· = ',') numbers)
      else .error .unknown
    | _, _, _ => .error .unknown

/-- A style with the effects of further words. -/
def ofWords (style : Style) : List (List Char) → Except StyleFault Style
  | [] => .ok style
  | written :: rest =>
    let word := lowerCase written
    if word = "on".toList then
      match rest with
      | [] => .error .unknown
      | background :: others => do
        let found ← colour background
        ofWords { style with background? := some found } others
    else if word = "not".toList then
      match rest with
      | [] => .error .unknown
      | denied :: others =>
        match Attribute.ofWord? denied with
        | some effect =>
          ofWords { style with attributes := (effect, false) :: style.attributes } others
        | none => .error .unknown
    else if word = "link".toList then
      match rest with
      | [] => .error .unknown
      | address :: others => ofWords { style with link? := some address } others
    else
      match Attribute.ofWord? word with
      | some effect =>
        ofWords { style with attributes := (effect, true) :: style.attributes } rest
      | none => do
        let found ← colour word
        ofWords { style with colour? := some found } rest

/-- The style that a definition stands for. -/
def ofDefinition (definition : List Char) : Except StyleFault Style :=
  if trim definition = "none".toList then .ok {} else ofWords {} (wordsOf definition)

/-- Words of the normal form of an attribute in a style. -/
def attributeWords (style : Style) (effect : Attribute) : List (List Char) :=
  match style.attributes.lookup effect with
  | some true => [effect.name.toList]
  | some false => ["not".toList, effect.name.toList]
  | none => []

/-- Normal form of a style. -/
def text (style : Style) : List Char :=
  let marked := fun (mark : String) (value? : Option (List Char)) =>
    (value?.map fun value => [mark.toList, value]).getD []
  let found := Attribute.all.flatMap style.attributeWords ++ style.colour?.toList ++
    marked "on" style.background? ++ marked "link" style.link?
  if found.isEmpty then "none".toList else [' '].intercalate found

/-- Normal form of a definition; one without meaning stays as it is but for its case. -/
def normalize (definition : List Char) : Except StyleFault (List Char) :=
  match ofDefinition definition with
  | .ok style => .ok style.text
  | .error .unknown => .ok (lowerCase (trim definition))
  | .error .noComponent => .error .noComponent

end Style
end Terminal
end PayGraph

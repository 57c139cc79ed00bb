import PayGraph.Data
import PayGraph.Number.Reading
import PayGraph.Text.Halves

/-!
# Reading JSON

The reader takes standard JSON and the words for not-a-number and the infinities.  Whole numbers
keep their exact value, and of two entries with one key the later value takes the earlier place.
An escape of half a surrogate pair is kept without its other half.
-/

namespace PayGraph
namespace Json

/-- Characters between the parts of a document. -/
def isBlank (character : Char) : Bool :=
  character = ' ' || character = '\t' || character = '\n' || character = '\r'

/-- Text without the blanks in front of it. -/
def skip (input : List Char) : List Char :=
  input.dropWhile isBlank

/-- Character written by a simple escape. -/
def escaped? : Char → Option Char
  | '"' => some '"'
  | '\\' => some '\\'
  | '/' => some '/'
  | 'b' => some '\x08'
  | 'f' => some '\x0c'
  | 'n' => some '\n'
  | 'r' => some '\r'
  | 't' => some '\t'
  | _ => none

/-- Character of a code unit. -/
def unitCharacter [Halves] (unit : Nat) : Char :=
  if 0xD800 ≤ unit ∧ unit < 0xE000 then halfCharacter unit else Char.ofNat unit

/-- Character of a surrogate pair, if two code units are one. -/
def pairCharacter? (high low : Nat) : Option Char :=
  if 0xD800 ≤ high ∧ high < 0xDC00 ∧ 0xDC00 ≤ low ∧ low < 0xE000 then
    some (Char.ofNat (0x10000 + (high - 0xD800) * 0x400 + (low - 0xDC00)))
  else none

/-- Code unit of an escape at the front of a text. -/
def secondUnit? : List Char → Option Nat
  | '\\' :: 'u' :: a :: b :: c :: d :: _ => hexNumber? [a, b, c, d]
  | _ => none

/-- Rest of a text between double quotes.  The characters read so far are in reverse. -/
def textBody [Halves] (reversed : List Char) : Scan String
  | [] => .error .malformed
  | '"' :: rest => .ok (String.ofList reversed.reverse, rest)
  | '\\' :: 'u' :: a :: b :: c :: d :: rest =>
    match hexNumber? [a, b, c, d] with
    | none => .error .malformed
    | some unit =>
      match secondUnit? rest with
      | none => textBody (unitCharacter unit :: reversed) rest
      | some low =>
        match pairCharacter? unit low with
        | none => textBody (unitCharacter unit :: reversed) rest
        | some character => textBody (character :: reversed) (rest.drop 6)
  | '\\' :: escape :: rest =>
    match escaped? escape with
    | some character => textBody (character :: reversed) rest
    | none => .error .malformed
  | character :: rest =>
    if character.toNat < 0x20 ∨ character = '\\' then .error .malformed
    else textBody (character :: reversed) rest
termination_by input => input.length
decreasing_by all_goals (simp only [List.length_cons, List.length_drop]; omega)

/-- Exponent of a numeral, absent unless its marker is followed by digits. -/
def exponentPart (input : List Char) : Option Int × List Char :=
  match input with
  | marker :: rest =>
    if marker = 'e' ∨ marker = 'E' then
      let (negative, unsigned) :=
        match rest with
        | '-' :: after => (true, after)
        | '+' :: after => (false, after)
        | after => (false, after)
      match Decimal.spanDigits unsigned with
      | ([], _) => (none, input)
      | (digits, after) =>
        let magnitude : Int := Decimal.ofDigits digits
        (some (if negative then -magnitude else magnitude), after)
    else (none, input)
  | [] => (none, input)

/-- Fraction digits of a numeral, absent unless its point is followed by digits. -/
def fractionPart (input : List Char) : List Char × List Char :=
  match input with
  | '.' :: rest =>
    match Decimal.spanDigits rest with
    | ([], _) => ([], input)
    | (digits, after) => (digits, after)
  | _ => ([], input)

/-- Whole digits of a numeral: a lone zero or digits that start with another. -/
def wholePart (input : List Char) : List Char × List Char :=
  match input with
  | '0' :: rest => (['0'], rest)
  | _ => Decimal.spanDigits input

/-- A numeral without its sign. -/
def numeral (negative : Bool) : Scan Data := fun input =>
  match wholePart input with
  | ([], _) => .error .malformed
  | (whole, afterWhole) =>
    let (fraction, afterFraction) := fractionPart afterWhole
    let (exponent?, rest) := exponentPart afterFraction
    if fraction.isEmpty && exponent?.isNone then
      (boundedWhole negative whole).map fun value => (.whole value, rest)
    else
      let decimal := Decimal.ofParts whole fraction (exponent?.getD 0)
      .ok (.real (decimal.toBinary64 negative), rest)

/-- What follows an expected word. -/
def expect (word : String) (value : Data) : Scan Data := fun input =>
  if word.toList.isPrefixOf input then .ok (value, input.drop word.length)
  else .error .malformed

/-- A scalar other than a text. -/
def scalar : Scan Data
  | 'n' :: rest => expect "ull" .null rest
  | 't' :: rest => expect "rue" (.boolean true) rest
  | 'f' :: rest => expect "alse" (.boolean false) rest
  | 'N' :: rest => expect "aN" (.real .nan) rest
  | 'I' :: rest => expect "nfinity" (.real (.infinite false)) rest
  | '-' :: 'I' :: rest => expect "nfinity" (.real (.infinite true)) rest
  | '-' :: rest => numeral true rest
  | input => numeral false input

/-- Items of a list after its bracket, one at least. -/
def items (item : Scan Data) : Nat → List Data → Scan (List Data)
  | 0, _, _ => .error .malformed
  | fuel + 1, reversed, input =>
    match item input with
    | .error fault => .error fault
    | .ok (value, afterValue) =>
      match skip afterValue with
      | ']' :: rest => .ok ((value :: reversed).reverse, rest)
      | ',' :: rest => items item fuel (value :: reversed) (skip rest)
      | _ => .error .malformed

/-- Entries of a table after its brace, one at least. -/
def entries [Halves] (item : Scan Data) : Nat → Entries → Scan Entries
  | 0, _, _ => .error .malformed
  | fuel + 1, found, input =>
    match input with
    | '"' :: afterQuote =>
      match textBody [] afterQuote with
      | .error fault => .error fault
      | .ok (key, afterKey) =>
        match skip afterKey with
        | ':' :: afterColon =>
          match item (skip afterColon) with
          | .error fault => .error fault
          | .ok (value, afterValue) =>
            match skip afterValue with
            | '}' :: rest => .ok (found.insert key value, rest)
            | ',' :: rest => entries item fuel (found.insert key value) (skip rest)
            | _ => .error .malformed
        | _ => .error .malformed
    | _ => .error .malformed

/-- A value, with the most parts that a list or table in it may have and the nesting left. -/
def value [Halves] (parts : Nat) : Nat → Scan Data
  | depth, input =>
    match input with
    | '"' :: rest => (textBody [] rest).map fun (content, after) => (.text content, after)
    | '[' :: rest =>
      match depth with
      | 0 => .error .nesting
      | inner + 1 =>
        match skip rest with
        | ']' :: after => .ok (.list [], after)
        | start =>
          (items (value parts inner) parts [] start).map fun (found, after) =>
            (.list found, after)
    | '{' :: rest =>
      match depth with
      | 0 => .error .nesting
      | inner + 1 =>
        match skip rest with
        | '}' :: after => .ok (.table [], after)
        | start =>
          (entries (value parts inner) parts [] start).map fun (found, after) =>
            (.table found, after)
    | _ => scalar input

/-- The value that a document holds. -/
def read [Host] (document : List Char) : Except ParseFault Data :=
  match value document.length Stack.json (skip document) with
  | .error fault => .error fault
  | .ok (found, rest) => if (skip rest).isEmpty then .ok found else .error .malformed

end Json
end PayGraph

import PayGraph.Data
import PayGraph.Text.Split

/-!
# Arguments of handlers

A tag may name a handler for clicks and give it arguments, which are literals: numbers, texts,
bytes, words for truth and absence, and tuples, sets and mappings of literals.  Nothing is done with
the arguments, so all that matters of a literal is where it may stand.
-/

namespace PayGraph
namespace Terminal

/-- What matters of a literal. -/
inductive Argument where
  /-- A number without a sign. -/
  | real
  /-- A number with a sign. -/
  | signed
  /-- An imaginary number without a sign. -/
  | imaginary
  /-- Anything else that may be a member of a set or a key of a mapping. -/
  | member
  /-- A set or mapping, or a tuple with one in it. -/
  | container
  deriving DecidableEq, Repr

namespace Argument

/-- What a text starts with, and what follows it. -/
abbrev Reading (Value : Type) := List Char → Option (Value × List Char)

/-- Text without the blanks and line breaks in front of it. -/
def skip (input : List Char) : List Char :=
  input.dropWhile fun one => one = ' ' || one = '\t' || one = '\n' || one = '\x0c'

/-- A character of a number or a word. -/
def isWordPart (character : Char) : Bool :=
  character.isAlphanum || character = '_' || 0x80 ≤ character.toNat

/-- Digits, possibly with single underscores between them. -/
def isDigitRun (isDigit : Char → Bool) (run : List Char) : Bool :=
  (splitWhere (· = '_') run).all fun part => !part.isEmpty && part.all isDigit

/-- Digits with an underscore allowed in front too. -/
def isPrefixedRun (isDigit : Char → Bool) : List Char → Bool
  | '_' :: run => isDigitRun isDigit run
  | run => isDigitRun isDigit run

/-- An exponent after its letter. -/
def isExponent : List Char → Bool
  | '+' :: run | '-' :: run | run => isDigitRun Char.isDigit run

/-- Digits around a point, on one side at least. -/
def isFraction (written : List Char) : Bool :=
  let isSide := fun run => run.isEmpty || isDigitRun Char.isDigit run
  match splitWhere (· = '.') written with
  | [whole, fraction] => isSide whole && isSide fraction && !(whole.isEmpty && fraction.isEmpty)
  | _ => false

/-- A decimal whole number; one that starts with zero has no other digits. -/
def isWhole (written : List Char) : Bool :=
  isDigitRun Char.isDigit written &&
    (written.head? ≠ some '0' || written.all fun one => one = '0' || one = '_')

/-- A number with a point or an exponent. -/
def isFloat (written : List Char) : Bool :=
  let isMark := fun one => one = 'e' || one = 'E'
  let mantissa := written.takeWhile fun one => !isMark one
  match written.dropWhile fun one => !isMark one with
  | [] => isFraction mantissa
  | _ :: exponent =>
    (isFraction mantissa || isDigitRun Char.isDigit mantissa) && isExponent exponent

/-- The number that a word stands for. -/
def ofNumeral? (written : List Char) : Option Argument :=
  let isImaginary := written.getLast? = some 'j' || written.getLast? = some 'J'
  let size := written.dropLast
  if isImaginary && (isFloat size || isDigitRun Char.isDigit size) then some .imaginary
  else
    match written with
    | '0' :: 'x' :: run | '0' :: 'X' :: run =>
      if isPrefixedRun (fun one => (hexValue? one).isSome) run then some .real else none
    | '0' :: 'o' :: run | '0' :: 'O' :: run =>
      if isPrefixedRun (fun one => '0' ≤ one && one ≤ '7') run then some .real else none
    | '0' :: 'b' :: run | '0' :: 'B' :: run =>
      if isPrefixedRun (fun one => one = '0' || one = '1') run then some .real else none
    | _ => if isWhole written || isFloat written then some .real else none

/-- The letters, digits and points at the front of a text, with the sign of an exponent. -/
def spanNumeral (input : List Char) : List Char × List Char :=
  let isPart := fun one => isWordPart one || one = '.'
  let first := input.takeWhile isPart
  let rest := input.dropWhile isPart
  let isDecimal := first.all fun one =>
    one.isDigit || one = '_' || one = '.' || one = 'e' || one = 'E'
  let endsInMark := first.getLast? = some 'e' || first.getLast? = some 'E'
  match rest with
  | sign :: after =>
    if isDecimal && endsInMark && (sign = '+' || sign = '-') then
      (first ++ sign :: after.takeWhile isPart, after.dropWhile isPart)
    else (first, rest)
  | [] => (first, [])

/-- How a text or bytes are written. -/
structure Quotation where
  /-- Backslashes are kept. -/
  isRaw : Bool
  /-- The characters are bytes. -/
  isBytes : Bool
  /-- The quote on both sides. -/
  quote : Char
  /-- The quote stands three times on both sides. -/
  isTriple : Bool

namespace Quotation

/-- Hexadecimal digits after the letter of an escape; none for a letter with no such digits. -/
def digitCount (quotation : Quotation) (letter : Char) : Nat :=
  if quotation.isRaw then 0
  else if letter = 'x' then 2
  else if quotation.isBytes then 0
  else if letter = 'u' then 4
  else if letter = 'U' then 8
  else 0

/-- What follows a backslash is allowed there. -/
def allows (quotation : Quotation) (letter : Char) (rest : List Char) : Bool :=
  let count := quotation.digitCount letter
  let digits := rest.take count
  let isNamed := letter = 'N' && !quotation.isRaw && !quotation.isBytes
  !isNamed && !(quotation.isBytes && 0x80 ≤ letter.toNat) && digits.length = count &&
    (hexNumber? digits).any (· < 0x110000)

/-- What follows the closing quotes of a text. -/
def close (quotation : Quotation) : List Char → Option (List Char)
  | [] => none
  | character :: rest =>
    if quotation.isBytes && 0x80 ≤ character.toNat then none
    else if character = '\\' then
      match rest with
      | [] => none
      | letter :: after => if quotation.allows letter after then close quotation after else none
    else if character = quotation.quote then
      if !quotation.isTriple then some rest
      else
        match rest with
        | second :: third :: after =>
          if second = quotation.quote && third = quotation.quote then some after
          else close quotation rest
        | _ => none
    else if character = '\n' && !quotation.isTriple then none
    else close quotation rest

/-- A character that encloses texts. -/
def isQuote (character : Char) : Bool :=
  character = '"' || character = '\''

/-- Letters in front of a text, and whether they make it raw and bytes. -/
def letters : List (String × Bool × Bool) :=
  [("", false, false), ("u", false, false), ("r", true, false), ("b", false, true),
    ("br", true, true), ("rb", true, true)]

/-- A text or bytes: whether they are bytes. -/
def read : Reading Bool := fun input =>
  let before := input.takeWhile isWordPart
  match letters.find? fun one => one.1.toList = before.map Char.toLower with
  | none => none
  | some (_, isRaw, isBytes) =>
    match input.dropWhile isWordPart with
    | quote :: rest =>
      if isQuote quote then
        let isTriple := rest.take 2 = [quote, quote]
        let body := if isTriple then rest.drop 2 else rest
        (close ⟨isRaw, isBytes, quote, isTriple⟩ body).map fun after => (isBytes, after)
      else none
    | [] => none

end Quotation

/-- Texts or bytes one after another, which count as one. -/
def readTexts : Nat → Reading Bool
  | 0, _ => none
  | parts + 1, input =>
    match Quotation.read input with
    | none => none
    | some (isBytes, rest) =>
      match Quotation.read (skip rest) with
      | none => some (isBytes, rest)
      | some _ =>
        match readTexts parts (skip rest) with
        | some (alike, after) => if alike = isBytes then some (isBytes, after) else none
        | none => none

/-- Literals separated by commas, the last of which may have a comma after it too; whether there is
any comma. -/
def readItems (item : Reading Argument) : Nat → Reading (List Argument × Bool)
  | 0, _ => none
  | parts + 1, input =>
    match item input with
    | none => none
    | some (first, rest) =>
      match skip rest with
      | ',' :: after =>
        match skip after with
        | [] | ')' :: _ | '}' :: _ => some (([first], true), skip after)
        | start => (readItems item parts start).map fun (others, final) =>
            ((first :: others.1, true), final)
      | after => some (([first], false), after)

/-- Literals in brackets: one alone is itself, and others make a tuple. -/
def ofItems (items : List Argument) (separated : Bool) : Argument :=
  match items, separated with
  | [one], false => one
  | _, _ => if .container ∈ items then .container else .member

/-- An entry of a mapping: its key. -/
def readEntry (item : Reading Argument) : Reading Argument := fun input =>
  match item input with
  | none => none
  | some (key, rest) =>
    match skip rest with
    | ':' :: after => (item (skip after)).map fun (_, final) => (key, final)
    | _ => none

/-- A set or mapping after its opening brace and its first member or key. -/
def readMembers (item : Reading Argument) (parts : Nat) (first : Argument) :
    Reading Argument := fun input =>
  let finish := fun (members : List Argument) (rest : List Char) =>
    match rest with
    | '}' :: after => if .container ∈ members then none else some (Argument.container, after)
    | _ => none
  let further := fun (kind : Reading Argument) (rest : List Char) =>
    match skip rest with
    | ',' :: after =>
      match skip after with
      | '}' :: final => finish [first] ('}' :: final)
      | start => (readItems kind parts start).bind fun ((others, _), final) =>
          finish (first :: others) final
    | final => finish [first] final
  match skip input with
  | ':' :: after => (item (skip after)).bind fun (_, rest) => further (readEntry item) rest
  | rest => further item rest

/-- A word that is a literal. -/
def readWord : Reading Argument := fun input =>
  let word := String.ofList (input.takeWhile isWordPart)
  let rest := input.dropWhile isWordPart
  if word = "True" ∨ word = "False" ∨ word = "None" then some (.member, rest)
  else if word = "set" then
    match skip rest with
    | '(' :: inside =>
      match skip inside with
      | ')' :: after => some (.container, after)
      | _ => none
    | _ => none
  else none

/-- A literal without a sign, given how to read those inside of it. -/
def readAtom (item : Reading Argument) (parts : Nat) : Reading Argument := fun input =>
  match input with
  | '(' :: rest =>
    match skip rest with
    | ')' :: after => some (.member, after)
    | start =>
      match readItems item parts start with
      | some ((items, separated), ')' :: after) => some (ofItems items separated, after)
      | _ => none
  | '{' :: rest =>
    match skip rest with
    | '}' :: after => some (.container, after)
    | start => (item start).bind fun (first, after) => readMembers item parts first after
  | '.' :: '.' :: '.' :: rest => some (.member, rest)
  | first :: _ =>
    match readTexts parts input with
    | some (_, after) => some (.member, after)
    | none =>
      if first.isDigit || first = '.' then
        let (numeral, after) := spanNumeral input
        (ofNumeral? numeral).map fun found => (found, after)
      else readWord input
  | [] => none

/-- A number after a sign. -/
def readSigned (atom : Reading Argument) : Reading Argument := fun input =>
  match atom (skip input) with
  | some (.real, rest) => some (.signed, rest)
  | some (.imaginary, rest) => some (.member, rest)
  | _ => none

/-- A literal, which may have a sign or be a number and an imaginary one. -/
def readSum (atom : Reading Argument) : Reading Argument := fun input =>
  let left :=
    match input with
    | '+' :: rest | '-' :: rest => readSigned atom rest
    | _ => atom input
  match left with
  | none => none
  | some (found, rest) =>
    match skip rest with
    | '+' :: after | '-' :: after =>
      match atom (skip after) with
      | some (.imaginary, final) =>
        if found = .real ∨ found = .signed then some (.member, final) else none
      | _ => none
    | _ => some (found, rest)

/-- A literal with further ones inside of it up to a depth. -/
def read (parts : Nat) : Nat → Reading Argument
  | 0 => fun _ => none
  | depth + 1 => readSum (readAtom (read parts depth) parts)

/-- A text is a literal, or several separated by commas. -/
def isLiteral (written : List Char) : Bool :=
  let bound := written.length + 1
  match readItems (read bound bound) bound (skip written) with
  | some (_, []) => true
  | _ => false

/-- A character of the name of a handler. -/
def isNamePart (character : Char) : Bool :=
  character.isAlphanum || character = '_' || character = '.' || 0x80 ≤ character.toNat

/-- What a tag gives its handler is the name of a handler alone, a name with literals in brackets,
or a literal. -/
def isValid (written : List Char) : Bool :=
  match written.dropWhile isNamePart with
  | [] => true
  | '(' :: inside =>
    if inside.getLast? = some ')' && !inside.contains '\n' then isLiteral ('(' :: inside)
    else isLiteral written
  | _ => isLiteral written

end Argument
end Terminal
end PayGraph

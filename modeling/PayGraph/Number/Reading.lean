import PayGraph.Number.Text

/-!
# Reading numbers from free text

Text that stands for a number may carry blanks around it, a sign, a decimal point at either end of
its digits, an exponent, single underscores inside, or name an infinity or not-a-number in any case.
-/

namespace PayGraph

namespace Decimal

/-- Leading digits of a text and what follows them. -/
def spanDigits (input : List Char) : List Char × List Char :=
  (input.takeWhile Char.isDigit, input.dropWhile Char.isDigit)

/-- Whole number written by digits after an optional sign, if the text is nothing else. -/
def readExponent? (input : List Char) : Option Int :=
  let (negative, written) :=
    match input with
    | '-' :: rest => (true, rest)
    | '+' :: rest => (false, rest)
    | rest => (false, rest)
  if written.isEmpty || !written.all Char.isDigit then none
  else
    let magnitude : Int := ofDigits written
    some (if negative then -magnitude else magnitude)

/-- Decimal written with digits on at least one side of an optional point and an optional
exponent. -/
def read? (input : List Char) : Option Decimal :=
  let (whole, afterWhole) := spanDigits input
  let (fraction, afterFraction) :=
    match afterWhole with
    | '.' :: rest => spanDigits rest
    | rest => ([], rest)
  if whole.isEmpty && fraction.isEmpty then none
  else
    match afterFraction with
    | [] => some (ofParts whole fraction 0)
    | marker :: rest =>
      if marker = 'e' ∨ marker = 'E' then (readExponent? rest).map (ofParts whole fraction)
      else none

end Decimal

/-- White space that may surround a number in free text. -/
def isSpace (character : Char) : Bool :=
  let code := character.toNat
  (0x09 ≤ code && code ≤ 0x0D) || code = 0x20 || code = 0x85 || code = 0xA0 || code = 0x1680 ||
    (0x2000 ≤ code && code ≤ 0x200A) || code = 0x2028 || code = 0x2029 || code = 0x202F ||
    code = 0x205F || code = 0x3000

/-- Text without the white space around it. -/
def trimSpace (input : List Char) : List Char :=
  ((input.dropWhile isSpace).reverse.dropWhile isSpace).reverse

/-- Text without its underscores, if they are single and stand inside. -/
def joinUnderscores? (input : List Char) : Option (List Char) :=
  let pairs := input.zip input.tail
  if input.head? = some '_' || input.getLast? = some '_' || !input.contains '_' ||
      pairs.any (fun pair => pair.1 = '_' && pair.2 = '_') then none
  else some (input.filter (· != '_'))

namespace Binary64

/-- The value written by an unsigned numeral or word. -/
def readUnsigned? (negative : Bool) (input : List Char) : Option Binary64 :=
  let lower := input.map Char.toLower
  if lower = "inf".toList ∨ lower = "infinity".toList then some (.infinite negative)
  else if lower = "nan".toList then some .nan
  else (Decimal.read? input).map (Decimal.toBinary64 negative)

/-- The value written by a numeral or word after an optional sign. -/
def readSigned? : List Char → Option Binary64
  | '-' :: rest => readUnsigned? true rest
  | '+' :: rest => readUnsigned? false rest
  | input => readUnsigned? false input

/-- The value that free text stands for. -/
def read? (input : String) : Option Binary64 :=
  match readSigned? (trimSpace input.toList) with
  | some value => some value
  | none => (joinUnderscores? input.toList).bind readSigned?

end Binary64
end PayGraph

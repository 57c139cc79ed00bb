import PayGraph.Number.Basic
import PayGraph.Number.Decimal

/-!
# Written numbers

Whole numbers are written in decimal digits.  A double-precision value is written as its shortest
decimal, positionally while its leading digit stands between the sixteenth place before the point
and the fourth after it, in exponent form elsewhere.  Whole numbers of more than 4300 digits have no
written form.
-/

namespace PayGraph

/-- Most digits a whole number may have to be written or read. -/
def digitLimit : Nat := 4300

/-- A whole number has more digits than may be converted. -/
inductive DigitOverflow where
  | writing
  | reading (digits : Nat)
  deriving DecidableEq, Repr

namespace DigitOverflow

/-- Text of a digit overflow. -/
def message : DigitOverflow → String
  | .writing =>
    "Exceeds the limit (4300 digits) for integer string conversion; " ++
      "use sys.set_int_max_str_digits() to increase the limit"
  | .reading digits =>
    "Exceeds the limit (4300 digits) for integer string conversion: " ++
      s!"value has {digits} digits; use sys.set_int_max_str_digits() to increase the limit"

end DigitOverflow

/-- Decimal digits of a whole number after a sign if it is negative. -/
def wholeText (value : Int) : List Char :=
  if value < 0 then '-' :: Decimal.digits value.natAbs else Decimal.digits value.natAbs

/-- Decimal digits of a whole number, if there are few enough of them. -/
def boundedText (value : Int) : Except DigitOverflow (List Char) :=
  if value.natAbs < Nat.pow 10 digitLimit then .ok (wholeText value) else .error .writing

namespace Decimal

/-- Exponent of a power of ten with its sign and at least two digits. -/
def exponentText (exponent : Int) : List Char :=
  let written := digits exponent.natAbs
  (if exponent < 0 then '-' else '+') ::
    (if written.length < 2 then '0' :: written else written)

/-- Written form of a decimal without trailing zeros in its significand. -/
def text (decimal : Decimal) : List Char :=
  let written := digits decimal.significand
  let point : Int := written.length + decimal.exponent
  if decimal.significand = 0 then ['0', '.', '0']
  else if 0 < point ∧ point ≤ 16 then
    let before := point.toNat
    if written.length ≤ before then
      written ++ List.replicate (before - written.length) '0' ++ ['.', '0']
    else written.take before ++ '.' :: written.drop before
  else if -4 < point ∧ point ≤ 0 then
    '0' :: '.' :: List.replicate (-point).toNat '0' ++ written
  else
    let mantissa :=
      match written with
      | leading :: following@(_ :: _) => leading :: '.' :: following
      | short => short
    mantissa ++ 'e' :: exponentText (point - 1)

end Decimal

/-- Words that stand for the values without digits. -/
structure SpecialWords where
  /-- Word for not-a-number. -/
  notANumber : List Char
  /-- Word for positive infinity. -/
  infinity : List Char

namespace SpecialWords

/-- The short lower-case words. -/
def short : SpecialWords := ⟨['n', 'a', 'n'], ['i', 'n', 'f']⟩

end SpecialWords

namespace Binary64

/-- Written form of a value that reads back to it. -/
def text (words : SpecialWords) : Binary64 → List Char
  | .nan => words.notANumber
  | .infinite negative => if negative then '-' :: words.infinity else words.infinity
  | .finite negative rank =>
    let written := (Decimal.shortest rank).text
    if negative then '-' :: written else written

end Binary64

namespace Number

/-- Text of a number in traces and on screen: whole values without a fraction, however they are
held, and other values in their shortest form. -/
def display : Number → Except DigitOverflow String
  | .boolean value => .ok (if value then "1" else "0")
  | .integer value => (boundedText value).map String.ofList
  | .real value =>
    match value.toInt? with
    | some whole => .ok (String.ofList (wholeText whole))
    | none => .ok (String.ofList (value.text .short))

end Number
end PayGraph

import PayGraph.Number.Binary64

/-!
# Decimal numerals

A decimal is a whole number of tenths, hundredths and so on.  Reading one gives the nearest
double-precision value; writing a value picks the shortest decimal that reads back to it, the one
nearest to the value among those.
-/

namespace PayGraph

/-- The nonnegative number `significand * 10 ^ exponent`. -/
structure Decimal where
  /-- Digits of the number, read as a whole number. -/
  significand : Nat
  /-- Power of ten that scales the digits. -/
  exponent : Int
  deriving DecidableEq, Repr

namespace Decimal

/-- Value of a decimal digit. -/
def digitValue (digit : Char) : Nat :=
  digit.toNat - '0'.toNat

/-- Whole number written by decimal digits, most significant first. -/
def ofDigits (digits : List Char) : Nat :=
  digits.foldl (fun total digit => 10 * total + digitValue digit) 0

/-- Decimal digits of a whole number, most significant first. -/
def digits (value : Nat) : List Char :=
  Nat.toDigits 10 value

/-- The number written as whole digits, fraction digits and a power of ten. -/
def ofParts (whole fraction : List Char) (power : Int) : Decimal :=
  ⟨ofDigits (whole ++ fraction), power - fraction.length⟩

/-- Rank of the double-precision value nearest to a decimal, if it does not overflow.  Powers of ten
that decide the answer alone are not computed. -/
def rank? (decimal : Decimal) : Option Nat :=
  if decimal.significand = 0 then some 0
  else if 310 < decimal.exponent then none
  else if decimal.exponent < -(400 + decimal.significand.log2 : Int) then some 0
  else
    let rank :=
      if 0 ≤ decimal.exponent then
        Binary64.nearestRank
          (decimal.significand * Nat.pow 10 decimal.exponent.toNat * Binary64.unitsPerOne) 1
      else
        Binary64.nearestRank (decimal.significand * Binary64.unitsPerOne)
          (Nat.pow 10 (-decimal.exponent).toNat)
    if rank < finiteRanks then some rank else none

/-- The double-precision value nearest to a signed decimal, infinite on overflow. -/
def toBinary64 (negative : Bool) (decimal : Decimal) : Binary64 :=
  match decimal.rank? with
  | none => .infinite negative
  | some rank =>
    if bounded : rank < finiteRanks then .finite negative ⟨rank, bounded⟩ else .infinite negative

/-- The same number without trailing zeros in its significand. -/
def trim (decimal : Decimal) : Decimal :=
  if decimal.significand % 10 = 0 ∧ 0 < decimal.significand then
    trim ⟨decimal.significand / 10, decimal.exponent + 1⟩
  else decimal
termination_by decimal.significand
decreasing_by omega

/-- Power of ten of the leading digit of a positive number of units. -/
def leadingPower (units : Nat) : Int :=
  if Binary64.unitsPerOne ≤ units then
    ((digits (units / Binary64.unitsPerOne)).length : Int) - 1
  else -((digits ((Binary64.unitsPerOne - 1) / units)).length : Int)

/-- The two neighbours of a number of units on the grid of multiples of a power of ten, the nearer
one first and the even one first at equal distance. -/
def neighbours (units : Nat) (power : Int) : List Decimal :=
  let numerator := if 0 ≤ power then units else units * Nat.pow 10 (-power).toNat
  let denominator :=
    if 0 ≤ power then Binary64.unitsPerOne * Nat.pow 10 power.toNat else Binary64.unitsPerOne
  let below := numerator / denominator
  let twice := 2 * (numerator % denominator)
  if twice < denominator ∨ (twice = denominator ∧ below % 2 = 0) then
    [⟨below, power⟩, ⟨below + 1, power⟩]
  else [⟨below + 1, power⟩, ⟨below, power⟩]

/-- First decimal with at most the given further digits that reads back to a rank, starting from
grids of the given power of ten. -/
def search (rank : Nat) (power : Int) : Nat → Option Decimal
  | 0 => none
  | remaining + 1 =>
    match ((neighbours (Binary64.units rank) power).map trim).find?
        (fun candidate => candidate.rank? = some rank) with
    | some candidate => some candidate
    | none => search rank (power - 1) remaining

/-- Every digit of a number of units. -/
def exact (units : Nat) : Decimal :=
  trim ⟨units * Nat.pow 5 1074, -1074⟩

/-- Shortest decimal that reads back to a rank.  Seventeen digits are always enough. -/
def shortest (rank : Nat) : Decimal :=
  if rank = 0 then ⟨0, 0⟩
  else
    let units := Binary64.units rank
    (search rank (leadingPower units) 17).getD (exact units)

end Decimal
end PayGraph

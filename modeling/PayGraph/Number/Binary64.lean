/-!
# Double-precision numbers

The values of the 64-bit binary format, kept exact.  The nonnegative finite values form one
increasing sequence, so a finite value is a sign and a rank in that sequence; each is a whole number
of units of `2 ^ (-1074)`, the least positive value.  Every operation computes an exact ratio of
units and rounds it once, to the nearest value with ties to the even rank.
-/

namespace PayGraph

/-- Number of nonnegative finite values. -/
abbrev finiteRanks : Nat := 2047 * Nat.pow 2 52

/-- A double-precision value; there is one not-a-number value. -/
inductive Binary64 where
  | nan
  | infinite (negative : Bool)
  | finite (negative : Bool) (rank : Fin finiteRanks)
  deriving DecidableEq, Repr

namespace Binary64

/-- Units of `2 ^ (-1074)` in the number one. -/
def unitsPerOne : Nat := Nat.pow 2 1074

/-- Magnitude of a rank in units: a significand below `2 ^ 53` and the power of two that scales
it. -/
def units (rank : Nat) : Nat :=
  let shift := rank / Nat.pow 2 52 - 1
  (rank - shift * Nat.pow 2 52) * Nat.pow 2 shift

/-- The whole number nearest to a ratio, an exact half going to the even neighbour. -/
def roundDiv (numerator denominator : Nat) : Nat :=
  let quotient := numerator / denominator
  let twice := 2 * (numerator % denominator)
  if twice < denominator then quotient
  else if denominator < twice then quotient + 1
  else quotient + quotient % 2

/-- Rank nearest to a ratio of units.  A significand that rounds up to `2 ^ 53` carries into the
next binade by addition, and ranks beyond the finite ones stand for overflow. -/
def nearestRank (numerator denominator : Nat) : Nat :=
  let shift := (numerator / denominator).log2 - 52
  shift * Nat.pow 2 52 + roundDiv numerator (denominator * Nat.pow 2 shift)

/-- The finite value nearest to a signed ratio of units, if it does not overflow. -/
def ofRatio? (negative : Bool) (numerator denominator : Nat) : Option Binary64 :=
  let rank := nearestRank numerator denominator
  if bounded : rank < finiteRanks then some (.finite negative ⟨rank, bounded⟩) else none

/-- The value nearest to a signed ratio of units, infinite on overflow. -/
def ofRatio (negative : Bool) (numerator denominator : Nat) : Binary64 :=
  (ofRatio? negative numerator denominator).getD (.infinite negative)

/-- Positive zero. -/
def zero : Binary64 := .finite false 0

/-- The value nearest to a whole number, if it does not overflow. -/
def ofInt? (value : Int) : Option Binary64 :=
  ofRatio? (decide (value < 0)) (value.natAbs * unitsPerOne) 1

/-- The value nearest to the quotient of two whole numbers, if it does not overflow. -/
def ofQuotient? (dividend divisor : Int) : Option Binary64 :=
  ofRatio? (decide (dividend < 0) != decide (divisor < 0))
    (dividend.natAbs * unitsPerOne) divisor.natAbs

/-- Exact number of units of a finite value. -/
def signedUnits (negative : Bool) (rank : Nat) : Int :=
  if negative then -(units rank : Int) else units rank

/-- Sign reversal. -/
def neg : Binary64 → Binary64
  | .nan => .nan
  | .infinite negative => .infinite (!negative)
  | .finite negative rank => .finite (!negative) rank

/-- Rounded addition.  A zero sum is negative only if both terms are. -/
def add : Binary64 → Binary64 → Binary64
  | .nan, _ | _, .nan => .nan
  | .infinite left, .infinite right => if left = right then .infinite left else .nan
  | .infinite left, .finite _ _ => .infinite left
  | .finite _ _, .infinite right => .infinite right
  | .finite leftNegative left, .finite rightNegative right =>
    let total := signedUnits leftNegative left + signedUnits rightNegative right
    if total = 0 then .finite (leftNegative && rightNegative) 0
    else ofRatio (decide (total < 0)) total.natAbs 1

/-- Rounded subtraction. -/
def sub (left right : Binary64) : Binary64 :=
  left.add right.neg

/-- Rounded multiplication. -/
def mul : Binary64 → Binary64 → Binary64
  | .nan, _ | _, .nan => .nan
  | .infinite left, .infinite right => .infinite (left != right)
  | .infinite left, .finite right rank | .finite right rank, .infinite left =>
    if rank.val = 0 then .nan else .infinite (left != right)
  | .finite leftNegative left, .finite rightNegative right =>
    ofRatio (leftNegative != rightNegative) (units left * units right) unitsPerOne

/-- Rounded division. -/
def div : Binary64 → Binary64 → Binary64
  | .nan, _ | _, .nan => .nan
  | .infinite _, .infinite _ => .nan
  | .infinite left, .finite right _ => .infinite (left != right)
  | .finite left _, .infinite right => .finite (left != right) 0
  | .finite leftNegative left, .finite rightNegative right =>
    if right.val = 0 then
      if left.val = 0 then .nan else .infinite (leftNegative != rightNegative)
    else ofRatio (leftNegative != rightNegative) (units left * unitsPerOne) (units right)

/-- The whole number that a value equals, if there is one. -/
def toInt? : Binary64 → Option Int
  | .nan | .infinite _ => none
  | .finite negative rank =>
    let magnitude := units rank
    if magnitude % unitsPerOne = 0 then
      let whole : Int := (magnitude / unitsPerOne : Nat)
      some (if negative then -whole else whole)
    else none

end Binary64
end PayGraph

import PayGraph.Number.Binary64

/-!
# Numbers of a formula

A number is a truth value, a whole number of any size or a double-precision value.  Truth values
count as zero and one, whole numbers combine exactly, and a whole number meets a double-precision
one by being rounded first.  Comparisons never round: both sides are taken at their exact size.
-/

namespace PayGraph

/-- A number as constants, metrics and results hold it. -/
inductive Number where
  | boolean (value : Bool)
  | integer (value : Int)
  | real (value : Binary64)
  deriving DecidableEq, Repr

/-- Exact size of a number, in the units of the double-precision values. -/
inductive Extent where
  | below
  | at (units : Int)
  | above
  deriving DecidableEq, Repr

namespace Extent

/-- Strict order of sizes. -/
def less : Extent → Extent → Bool
  | .below, .below => false
  | .below, _ => true
  | .at left, .at right => decide (left < right)
  | .at _, .above => true
  | .at _, .below => false
  | .above, _ => false

end Extent

namespace Number

/-- The whole number zero, the amount of a failed evaluation. -/
def zero : Number := .integer 0

/-- The whole number that a number holds exactly by its kind. -/
def whole? : Number → Option Int
  | .boolean value => some (if value then 1 else 0)
  | .integer value => some value
  | .real _ => none

/-- The nearest double-precision value, unless a whole number is too large for one. -/
def toBinary64? : Number → Option Binary64
  | .real value => some value
  | .integer value => Binary64.ofInt? value
  | .boolean value => Binary64.ofInt? (if value then 1 else 0)

/-- Combine two numbers, exactly if both are whole and in double precision otherwise.  Nothing
results when a whole number is too large to be rounded. -/
def combine? (exact : Int → Int → Int) (rounded : Binary64 → Binary64 → Binary64)
    (left right : Number) : Option Number :=
  match left.whole?, right.whole? with
  | some leftWhole, some rightWhole => some (.integer (exact leftWhole rightWhole))
  | _, _ =>
    match left.toBinary64?, right.toBinary64? with
    | some leftReal, some rightReal => some (.real (rounded leftReal rightReal))
    | _, _ => none

/-- Sum of two numbers. -/
def add? : Number → Number → Option Number :=
  combine? (· + ·) Binary64.add

/-- Difference of two numbers. -/
def sub? : Number → Number → Option Number :=
  combine? (· - ·) Binary64.sub

/-- Product of two numbers. -/
def mul? : Number → Number → Option Number :=
  combine? (· * ·) Binary64.mul

/-- Quotient of two numbers, always in double precision.  The quotient of whole numbers is rounded
once, from its exact value. -/
def div? (dividend divisor : Number) : Option Number :=
  match dividend.whole?, divisor.whole? with
  | some dividendWhole, some divisorWhole =>
    (Binary64.ofQuotient? dividendWhole divisorWhole).map .real
  | _, _ =>
    match dividend.toBinary64?, divisor.toBinary64? with
    | some dividendReal, some divisorReal => some (.real (dividendReal.div divisorReal))
    | _, _ => none

/-- Exact size of a number; not-a-number has none. -/
def extent? : Number → Option Extent
  | .boolean value => some (.at (if value then Binary64.unitsPerOne else 0))
  | .integer value => some (.at (value * Binary64.unitsPerOne))
  | .real .nan => none
  | .real (.infinite negative) => some (if negative then .below else .above)
  | .real (.finite negative rank) => some (.at (Binary64.signedUnits negative rank))

/-- Compare two numbers by size; a comparison with not-a-number fails. -/
def relate (relation : Extent → Extent → Bool) (left right : Number) : Bool :=
  match left.extent?, right.extent? with
  | some leftExtent, some rightExtent => relation leftExtent rightExtent
  | _, _ => false

/-- The left number is smaller than the right one. -/
def less : Number → Number → Bool :=
  relate Extent.less

/-- Two numbers have the same size. -/
def equal : Number → Number → Bool :=
  relate fun left right => decide (left = right)

/-- The left number is at most the right one. -/
def atMost : Number → Number → Bool :=
  relate fun left right => left.less right || decide (left = right)

end Number
end PayGraph

import PayGraph.Failure
import PayGraph.Number.Basic
import PayGraph.Operator

/-!
# Applying operators

An arithmetic operator combines its operands from left to right; a relational one compares two
values.  Either sort fails where only the other is meaningful.
-/

namespace PayGraph
namespace Operator

/-- Sum of operands from left to right, starting at zero. -/
def total? (operands : List Number) : Option Number :=
  operands.foldlM Number.add? .zero

/-- Product of operands from left to right, starting at one. -/
def product? (operands : List Number) : Option Number :=
  operands.foldlM Number.mul? (.integer 1)

/-- First operand less the sum of the others; a single operand stays as it is. -/
def difference? (first : Number) : List Number → Option Number
  | [] => some first
  | rest => (total? rest).bind first.sub?

/-- The product of two operands divided by a hundred. -/
def percentage? (base rate : Number) : Option Number :=
  (base.mul? rate).bind fun product => product.div? (.integer 100)

/-- A computed number, or the overflow of the node that computed it. -/
def orOverflow (node : String) : Option Number → Except Failure Number
  | some value => .ok value
  | none => .error (.overflow node)

/-- Apply an arithmetic operator of a node to its operands, in their order. -/
def apply (node : String) (operator : Operator) (operands : List Number) :
    Except Failure Number :=
  match operator, operands with
  | operator, [] => .error (.insufficientOperands node operator.word 1 0)
  | .sum, operands => orOverflow node (total? operands)
  | .subtraction, first :: rest => orOverflow node (difference? first rest)
  | .multiplication, operands => orOverflow node (product? operands)
  | .division, [_] => .error (.insufficientOperands node division.word 2 1)
  | .division, dividend :: divisor :: _ =>
    if divisor.equal .zero then .error (.divisionByZero node)
    else orOverflow node (dividend.div? divisor)
  | .percentage, [_] => .error (.insufficientOperands node percentage.word 2 1)
  | .percentage, base :: rate :: _ => orOverflow node (percentage? base rate)
  | operator, _ => .error (.unsupported node operator.word)

/-- Symbol of a relational operator. -/
def symbol? : Operator → Option String
  | .greaterThan => some ">"
  | .lessThan => some "<"
  | .equal => some "=="
  | .greaterEqual => some ">="
  | .lessEqual => some "<="
  | _ => none

/-- Relation of a relational operator. -/
def relation? : Operator → Option (Number → Number → Bool)
  | .greaterThan => some fun left right => right.less left
  | .lessThan => some Number.less
  | .equal => some Number.equal
  | .greaterEqual => some fun left right => right.atMost left
  | .lessEqual => some Number.atMost
  | _ => none

/-- Symbol of the condition of a node. -/
def symbol (node : String) (condition : Operator) : Except Failure String :=
  match condition.symbol? with
  | some symbol => .ok symbol
  | none => .error (.unsupported node condition.word)

/-- Apply the condition of a node to two values. -/
def compare (node : String) (condition : Operator) (left right : Number) :
    Except Failure Bool :=
  match condition.relation? with
  | some relation => .ok (relation left right)
  | none => .error (.unsupported node condition.word)

end Operator
end PayGraph

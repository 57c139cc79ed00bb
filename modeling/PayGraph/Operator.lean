import PayGraph.Text.Quoted

/-!
# Operators

Arithmetic and relational operators form one enumeration, so a node of either kind may carry any of
them.  Each has the word under which documents store it and an identifier; the relational ones go by
a second identifier too.
-/

namespace PayGraph

/-- An operator of an operation or comparator node. -/
inductive Operator where
  | sum
  | subtraction
  | multiplication
  | division
  | percentage
  | greaterThan
  | lessThan
  | equal
  | greaterEqual
  | lessEqual
  deriving DecidableEq, Repr

namespace Operator

/-- Every operator, in the order of the enumeration. -/
def all : List Operator :=
  [.sum, .subtraction, .multiplication, .division, .percentage, .greaterThan, .lessThan, .equal,
    .greaterEqual, .lessEqual]

/-- Word that stands for the operator in documents and traces. -/
def word : Operator → String
  | .sum => "suma"
  | .subtraction => "resta"
  | .multiplication => "multiplicacion"
  | .division => "division"
  | .percentage => "porcentaje"
  | .greaterThan => "mayor_que"
  | .lessThan => "menor_que"
  | .equal => "igual"
  | .greaterEqual => "mayor_igual"
  | .lessEqual => "menor_igual"

/-- Identifier of the operator. -/
def identifier : Operator → String
  | .sum => "SUM"
  | .subtraction => "SUBTRACTION"
  | .multiplication => "MULTIPLICATION"
  | .division => "DIVISION"
  | .percentage => "PERCENTAGE"
  | .greaterThan => "GREATER_THAN"
  | .lessThan => "LESS_THAN"
  | .equal => "EQUAL"
  | .greaterEqual => "GREATER_EQUAL"
  | .lessEqual => "LESS_EQUAL"

/-- Second identifier of a relational operator. -/
def editorIdentifier? : Operator → Option String
  | .greaterThan => some "MAYOR_QUE"
  | .lessThan => some "MENOR_QUE"
  | .equal => some "IGUAL"
  | .greaterEqual => some "MAYOR_IGUAL"
  | .lessEqual => some "MENOR_IGUAL"
  | _ => none

/-- The operator stored under a word. -/
def ofWord? (word : String) : Option Operator :=
  all.find? fun operator => operator.word = word

/-- The operator with an identifier of either sort. -/
def ofIdentifier? (identifier : String) : Option Operator :=
  all.find? fun operator =>
    operator.identifier = identifier || operator.editorIdentifier? = some identifier

/-- The operator compares two values instead of combining any number of them. -/
def isRelational : Operator → Bool
  | .greaterThan | .lessThan | .equal | .greaterEqual | .lessEqual => true
  | _ => false

/-- Complaint about a word under which no operator is stored. -/
def unknownWord (word : String) : String :=
  s!"{quoted word} is not a valid Operator"

end Operator
end PayGraph

/-!
# Evaluation failures

The causes that end an evaluation, each with the node it is about and its text.  Every failure is
determined by the formula and the inputs.
-/

namespace PayGraph

/-- A cause that ends the evaluation of a formula. -/
inductive Failure where
  | missingResult
  | unknownNode (node : String)
  | insufficientOperands (node operator : String) (required given : Nat)
  | missingComparands (node : String)
  | missingResultInput (node : String)
  | divisionByZero (node : String)
  | overflow (node : String)
  | cycle (node : String)
  | unsupported (node tag : String)
  | tooDeep
  deriving DecidableEq, Repr

namespace Failure

/-- Text of a failure, in the language of the trace. -/
def message : Failure → String
  | .missingResult => "La fórmula no tiene un nodo de resultado definido"
  | .unknownNode node => s!"Nodo no encontrado: {node}"
  | .insufficientOperands _ operator required given =>
    s!"La operación {operator} requiere al menos {required} entrada(s), recibió {given}"
  | .missingComparands _ => "El comparador requiere dos entradas (valueA y valueB)"
  | .missingResultInput _ => "El nodo de resultado no tiene una entrada conectada"
  | .divisionByZero _ => "División por cero"
  | .overflow _ => "Desbordamiento aritmético"
  | .cycle node => s!"Ciclo detectado en el nodo {node}"
  | .unsupported _ tag => s!"Tipo de nodo u operación no soportado: {tag}"
  | .tooDeep => "La fórmula excede la profundidad máxima de evaluación"

/-- The node that a failure is about. -/
def node? : Failure → Option String
  | .missingResult | .tooDeep => none
  | .unknownNode node | .insufficientOperands node _ _ _ | .missingComparands node
  | .missingResultInput node | .divisionByZero node | .overflow node | .cycle node
  | .unsupported node _ => some node

end Failure
end PayGraph

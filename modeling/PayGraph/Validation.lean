import PayGraph.Graph.Dependency

/-!
# Validating formulas

Static checks look at the whole graph without evaluating it: the result node, the ends of the
connections, the inputs of each node, cycles, and nodes that do not contribute to the result.  They
are reported in this order.
-/

namespace PayGraph

/-- How serious an issue is. -/
inductive Severity where
  | error
  | warning
  deriving DecidableEq, Repr

namespace Severity

/-- Word for a severity. -/
def word : Severity → String
  | .error => "error"
  | .warning => "warning"

/-- Word for a severity in capitals. -/
def label : Severity → String
  | .error => "ERROR"
  | .warning => "WARNING"

end Severity

/-- A problem of a formula. -/
structure Issue where
  /-- How serious it is. -/
  severity : Severity
  /-- The node that it is about, if any. -/
  node? : Option String
  /-- What is wrong. -/
  message : String
  deriving DecidableEq, Repr

namespace Issue

/-- An issue with which an evaluation fails. -/
def error (node : String) (message : String) : Issue :=
  ⟨.error, some node, message⟩

/-- An issue with which an evaluation still works. -/
def warning (node : String) (message : String) : Issue :=
  ⟨.warning, some node, message⟩

/-- Some issue is an error. -/
def anyError (issues : List Issue) : Bool :=
  issues.any fun issue => issue.severity = .error

end Issue

namespace Formula

/-- The formula has a node with an identifier. -/
def hasNode (formula : Formula) (id : String) : Bool :=
  (formula.node? id).isSome

/-- Issues of the choice of the result node. -/
def resultIssues (formula : Formula) : List Issue :=
  let absent :=
    match formula.explicitResult?, formula.resultNodes with
    | none, [] => [⟨.error, none, "La fórmula no tiene un nodo de resultado definido"⟩]
    | _, _ => []
  let dangling :=
    match formula.explicitResult? with
    | some id =>
      if formula.hasNode id then []
      else [Issue.error id s!"El nodo de resultado {id} no existe"]
    | none => []
  let repeated := formula.resultNodes.tail.map fun id =>
    Issue.warning id "Solo puede haber un nodo de resultado en la fórmula"
  absent ++ dangling ++ repeated

/-- Issues of a connection whose ends do not exist. -/
def connectionIssues (formula : Formula) (connection : Connection) : List Issue :=
  ([connection.source, connection.target].filter fun id => !formula.hasNode id).map fun id =>
    Issue.error id s!"La conexión {connection.id} referencia un nodo inexistente: {id}"

/-- Issues of the kind and the inputs of a node. -/
def nodeIssues (formula : Formula) (node : Node) : List Issue :=
  match node.kind with
  | .operation operator =>
    (if operator.isRelational then
      [Issue.error node.id s!"Operación no soportada: {operator.word}"] else []) ++
    (if (formula.incoming node.id).isEmpty then
      [Issue.error node.id "La operación no tiene entradas"] else [])
  | .comparator condition =>
    (if condition.isRelational then []
      else [Issue.error node.id s!"Comparación no soportada: {condition.word}"]) ++
    ([leftSlot, rightSlot].filter fun slot => (formula.incomingAt node.id slot).isEmpty).map
      fun slot => Issue.error node.id s!"El comparador no tiene entrada {slot}"
  | .result =>
    if (formula.incomingAt node.id inputSlot).isEmpty then
      [Issue.error node.id "El nodo de resultado no tiene una entrada conectada"]
    else []
  | .unsupported tag => [Issue.error node.id s!"Tipo de nodo no soportado: {tag}"]
  | .variable _ | .constant _ => []

/-- Text of the warning about a node that the result does not depend on. -/
def idleMessage : String := "El nodo no contribuye al resultado"

/-- Issue of a cycle among the connections. -/
def cycleIssues (graph : DependencyGraph String) : List Issue :=
  match graph.findCycle with
  | some cycle =>
    [⟨.error, cycle.head?, "Ciclo detectado: " ++ " -> ".intercalate cycle⟩]
  | none => []

/-- Nodes that the result does not depend on.  There are none unless the result node exists. -/
def idleNodes (formula : Formula) (graph : DependencyGraph String) : List String :=
  match formula.resultNode with
  | .error _ => []
  | .ok result =>
    if formula.hasNode result then
      let feeding := result :: graph.ancestors result
      (formula.nodes.map Node.id).filter fun id => id ∉ feeding
    else []

/-- Every issue of a formula, in the order of the checks. -/
def issues (formula : Formula) : List Issue :=
  let graph := DependencyGraph.ofFormula formula
  formula.resultIssues ++ formula.connections.flatMap formula.connectionIssues ++
    formula.nodes.flatMap formula.nodeIssues ++ cycleIssues graph ++
    (formula.idleNodes graph).map fun id => Issue.warning id idleMessage

end Formula
end PayGraph

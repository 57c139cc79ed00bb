import PayGraph.Number.Text

/-!
# Evaluation traces

A trace explains how an amount came about.  Steps are only ever appended, so the step of a node
stands after the steps of everything it reads.
-/

namespace PayGraph

/-- One line of a trace. -/
structure Step where
  /-- Node that the line is about. -/
  node : String
  /-- What happened, as literal text. -/
  description : String
  /-- Value that the node produced. -/
  value : Number
  /-- The line reports the failure that ended the evaluation. -/
  isError : Bool
  deriving DecidableEq, Repr

namespace Step

/-- The line of a node that produced a value. -/
def ordinary (node description : String) (value : Number) : Step :=
  ⟨node, description, value, false⟩

/-- The line of a failure. -/
def failure (node message : String) : Step :=
  ⟨node, s!"Error: {message}", .zero, true⟩

end Step

/-- The lines recorded so far. -/
structure Trace where
  /-- Lines in the order of their recording. -/
  steps : List Step := []
  deriving DecidableEq, Repr

namespace Trace

/-- Append a line. -/
def record (trace : Trace) (step : Step) : Trace :=
  ⟨trace.steps ++ [step]⟩

end Trace
end PayGraph

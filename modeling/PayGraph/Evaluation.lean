import PayGraph.Formula
import PayGraph.Metric
import PayGraph.Operator.Application
import PayGraph.Trace

/-!
# Evaluating formulas

The amount of a formula is the value of its result node.  A node reads the values of its sources in
order, concludes its own value from them and records one step.  Each node is evaluated at most once;
reading a node that is still being evaluated is a cycle.  Nested readings take frames from a fixed
supply, four for an operation and three for any other node, and a formula that needs more is too
deep.
-/

namespace PayGraph

/-- How a node comes by its value, with what it reads in place of each operand. -/
inductive Reading (Operand : Type) where
  | metric (name : String)
  | literal (value : Number)
  | fold (operator : Operator) (operands : List Operand)
  | comparison (condition : Operator) (left right : Operand)
  | passage (operand : Operand)

/-- Why an evaluation stops before it has a value. -/
inductive Halt where
  | failed (cause : Failure)
  | unwritable (cause : DigitOverflow)
  deriving DecidableEq, Repr

namespace Formula

/-- The reading of a node, or the failure of a node that lacks a connection or cannot be
computed. -/
def reading (formula : Formula) (node : Node) : Except Failure (Reading String) :=
  match node.kind with
  | .variable name => .ok (.metric name)
  | .constant value => .ok (.literal value)
  | .operation operator =>
    .ok (.fold operator ((formula.incoming node.id).map Connection.source))
  | .comparator condition =>
    match formula.sourceAt? node.id leftSlot, formula.sourceAt? node.id rightSlot with
    | some left, some right => .ok (.comparison condition left right)
    | _, _ => .error (.missingComparands node.id)
  | .result =>
    match formula.sourceAt? node.id inputSlot with
    | some source => .ok (.passage source)
    | none => .error (.missingResultInput node.id)
  | .unsupported tag => .error (.unsupported node.id tag)

end Formula

namespace Reading

/-- Operands in the order in which they are read. -/
def operands {Operand : Type} : Reading Operand → List Operand
  | .metric _ | .literal _ => []
  | .fold _ operands => operands
  | .comparison _ left right => [left, right]
  | .passage operand => [operand]

/-- Texts of a list of numbers between commas. -/
def listed (values : List Number) : Except DigitOverflow String := do
  let texts ← values.mapM Number.display
  return ", ".intercalate texts

/-- A value that has been computed, with its text for the trace. -/
def written (node : String) (value : Number) (describe : String → String) :
    Except Halt (Number × Step) :=
  match value.display with
  | .ok text => .ok (value, .ordinary node (describe text) value)
  | .error overflow => .error (.unwritable overflow)

/-- Value and step of a node whose operands have been read.  The step of a comparison holds a truth
value where the node itself counts as one or zero. -/
def conclude (inputs : Inputs) (node : String) : Reading Number → Except Halt (Number × Step)
  | .metric name =>
    written node (inputs.valueOf name) fun text => s!"Variable {name}: {text}"
  | .literal value =>
    written node value fun text => s!"Número constante: {text}"
  | .fold operator operands =>
    match operator.apply node operands with
    | .error failure => .error (.failed failure)
    | .ok value =>
      match listed operands with
      | .error overflow => .error (.unwritable overflow)
      | .ok texts =>
        written node value fun text => s!"Operación {operator.word}: [{texts}] = {text}"
  | .comparison condition left right =>
    match condition.compare node left right, condition.symbol node with
    | .ok outcome, .ok symbol =>
      let encoded : Int := if outcome then 1 else 0
      match left.display, right.display with
      | .ok leftText, .ok rightText =>
        .ok (.integer encoded,
          .ordinary node s!"Comparación: {leftText} {symbol} {rightText} = {encoded}"
            (.boolean outcome))
      | .error overflow, _ | _, .error overflow => .error (.unwritable overflow)
    | .error failure, _ | _, .error failure => .error (.failed failure)
  | .passage value =>
    written node value fun text => s!"Resultado final: {text}"

end Reading

/-- What an evaluation knows so far. -/
structure Progress where
  /-- Lines recorded so far. -/
  trace : Trace := {}
  /-- Values of the nodes that are finished, the latest first. -/
  memo : List (String × Number) := []
  /-- Nodes that are being evaluated, the innermost first. -/
  active : List String := []
  deriving DecidableEq, Repr

namespace Progress

/-- Begin to evaluate a node. -/
def enter (progress : Progress) (node : String) : Progress :=
  { progress with active := node :: progress.active }

/-- Record the step of a node. -/
def record (progress : Progress) (step : Step) : Progress :=
  { progress with trace := progress.trace.record step }

/-- Finish a node with its value. -/
def finish (progress : Progress) (node : String) (value : Number) : Progress :=
  { progress with
    memo := (node, value) :: progress.memo
    active := progress.active.erase node }

end Progress

/-- A computation that changes the progress and yields a value or halts. -/
abbrev Run (Value : Type) := Progress → Except Halt Value × Progress

namespace Run

/-- Read operands one after the other until one halts. -/
def each (visit : String → Run Number) : List String → Run (List Number)
  | [], progress => (.ok [], progress)
  | source :: rest, progress =>
    match visit source progress with
    | (.error halt, after) => (.error halt, after)
    | (.ok value, after) =>
      match each visit rest after with
      | (.error halt, last) => (.error halt, last)
      | (.ok values, last) => (.ok (value :: values), last)

end Run

namespace Reading

/-- Replace the operands of a reading by their values. -/
def read (visit : String → Run Number) : Reading String → Run (Reading Number)
  | .metric name, progress => (.ok (.metric name), progress)
  | .literal value, progress => (.ok (.literal value), progress)
  | .fold operator operands, progress =>
    match Run.each visit operands progress with
    | (.error halt, after) => (.error halt, after)
    | (.ok values, after) => (.ok (.fold operator values), after)
  | .comparison condition left right, progress =>
    match visit left progress with
    | (.error halt, after) => (.error halt, after)
    | (.ok leftValue, after) =>
      match visit right after with
      | (.error halt, last) => (.error halt, last)
      | (.ok rightValue, last) => (.ok (.comparison condition leftValue rightValue), last)
  | .passage source, progress =>
    match visit source progress with
    | (.error halt, after) => (.error halt, after)
    | (.ok value, after) => (.ok (.passage value), after)

/-- The reading folds any number of operands. -/
def isFold {Operand : Type} : Reading Operand → Bool
  | .fold _ _ => true
  | _ => false

end Reading

/-- Frames that nested readings may take. -/
def frameLimit : Nat := 1000

namespace Formula

/-- Value of a node, with the frames that its readings may take. -/
def visit (formula : Formula) (inputs : Inputs) : Nat → String → Run Number
  | frames + 4, id, progress =>
    match progress.memo.lookup id with
    | some value => (.ok value, progress)
    | none =>
      if id ∈ progress.active then (.error (.failed (.cycle id)), progress)
      else
        match formula.node id with
        | .error failure => (.error (.failed failure), progress.enter id)
        | .ok node =>
          match formula.reading node with
          | .error failure => (.error (.failed failure), progress.enter id)
          | .ok reading =>
            let nested := fun source =>
              if reading.isFold then visit formula inputs frames source
              else visit formula inputs (frames + 1) source
            match reading.read nested (progress.enter id) with
            | (.error halt, after) => (.error halt, after)
            | (.ok values, after) =>
              match values.conclude inputs id with
              | .error halt => (.error halt, after)
              | .ok (value, step) => (.ok value, (after.record step).finish id value)
  | _, _, progress => (.error (.failed .tooDeep), progress)

/-- Value of the result node. -/
def run (formula : Formula) (inputs : Inputs) : Except Halt Number × Progress :=
  match formula.resultNode with
  | .error failure => (.error (.failed failure), {})
  | .ok id => formula.visit inputs frameLimit id {}

end Formula

/-- Amount of a formula and how it came about. -/
structure Evaluation where
  /-- The amount, zero if the evaluation failed. -/
  value : Number
  /-- The trace; a failed evaluation ends with the line of its failure. -/
  steps : List Step
  /-- Text of the failure, if the evaluation failed. -/
  error? : Option String
  deriving DecidableEq, Repr

namespace Evaluation

/-- The evaluation came to a value. -/
def succeeded (evaluation : Evaluation) : Bool :=
  evaluation.error?.isNone

/-- Node of a failure's line when the failure is about none. -/
def failureNode : String := "error"

/-- Outcome of a failure after some steps. -/
def ofFailure (trace : Trace) (failure : Failure) : Evaluation :=
  let node := (failure.node?.filter (· ≠ "")).getD failureNode
  ⟨.zero, (trace.record (.failure node failure.message)).steps, some failure.message⟩

end Evaluation

namespace Formula

/-- Evaluate a formula on a map of metrics.  Every failure becomes a part of the outcome; only a
number with too many digits for the trace leaves none. -/
def evaluate (formula : Formula) (inputs : Inputs) : Except DigitOverflow Evaluation :=
  match formula.run inputs with
  | (.ok value, progress) => .ok ⟨value, progress.trace.steps, none⟩
  | (.error (.failed failure), progress) => .ok (.ofFailure progress.trace failure)
  | (.error (.unwritable overflow), _) => .error overflow

end Formula
end PayGraph

import PayGraph.Evaluation
import PayGraph.Terminal.Markup
import PayGraph.Terminal.Table
import PayGraph.Validation

/-!
# Showing evaluations and issues

Steps, issues and inputs are shown in tables, the outcome of an evaluation in a panel.  Texts that
come from formulas are escaped, so they show as they are whatever brackets they hold.
-/

namespace PayGraph

/-- Lines for the terminal. -/
abbrev Lines := List (List Char)

/-- Why something cannot be shown. -/
inductive DisplayError where
  | markup (cause : Terminal.MarkupError)
  | digits (cause : DigitOverflow)
  deriving DecidableEq, Repr

namespace Display

open Terminal

/-- Text that marked-up text shows. -/
def rendered (markup : String) : Except DisplayError String :=
  (Markup.render markup).mapError .markup

/-- Text of a number. -/
def amount (value : Number) : Except DisplayError String :=
  value.display.mapError .digits

/-- Lines of marked-up text. -/
def paragraph [Console] (markup : String) : Except DisplayError Lines :=
  (rendered markup).map fun shown => layout .fold Console.columns shown.toList

/-- Columns of the level of a log entry, with the blank after it. -/
def levelWidth : Nat := 9

/-- Lines of a log entry: literal text after its level. -/
def log [Console] (level message : String) : Lines :=
  let visible := message.toList.filter fun character => !Markup.isDropped character
  let labels := level.toList :: List.replicate visible.length []
  (labels.zip (layout .fold (Console.columns - levelWidth) visible)).map fun entry =>
    padRight levelWidth entry.1 ++ entry.2

/-- A cell of marked-up text. -/
def cell (markup : String) : Except DisplayError Cell :=
  (rendered markup).map fun shown => ⟨shown, false⟩

/-- A cell of marked-up text with one style throughout. -/
def styledCell (tag markup : String) : Except DisplayError Cell :=
  (rendered s!"[{tag}]{markup}[/{tag}]").map fun shown => ⟨shown, true⟩

/-- Lines of a panel around marked-up text. -/
def boxed [Console] (title markup : String) : Except DisplayError Lines :=
  (rendered markup).map fun shown =>
    panel title ((layout .fold panelWidth shown.toList).map (padRight panelWidth))

/-- Cells of a step with its place among the steps. -/
def stepCells (step : Step) (place : Nat) : Except DisplayError (List Cell) := do
  let value ← amount step.value
  let node ← cell (Markup.escape step.node)
  let description := Markup.escape step.description
  let shown ← if step.isError then styledCell "red" description else cell description
  return [⟨toString place, false⟩, node, shown, ⟨value, false⟩]

/-- Columns of the table of steps. -/
def stepColumns : List Column :=
  [⟨"#", true⟩, ⟨"Node", false⟩, ⟨"Step", false⟩, ⟨"Value", true⟩]

/-- Lines that show the steps of an evaluation. -/
def steps [Console] (evaluation : Evaluation) : Except DisplayError Lines :=
  if evaluation.steps.isEmpty then paragraph "[dim]No steps recorded[/dim]"
  else do
    let rows ← (evaluation.steps.zipIdx 1).mapM fun entry => stepCells entry.1 entry.2
    return table Console.columns stepColumns rows 0

/-- Lines that show the outcome of an evaluation. -/
def outcome [Console] (evaluation : Evaluation) : Except DisplayError Lines := do
  let value ← amount evaluation.value
  match evaluation.error? with
  | none => boxed "Result" s!"[green]✓ Value:[/green] [bold]{value}[/bold]"
  | some message =>
    boxed "Result" s!"[red]✗ Error:[/red] {Markup.escape message}\n[dim]Value: {value}[/dim]"

/-- Style of a severity. -/
def style : Severity → String
  | .error => "red"
  | .warning => "yellow"

/-- Cells of an issue. -/
def issueCells (issue : Issue) : Except DisplayError (List Cell) := do
  let severity ← styledCell (style issue.severity) issue.severity.label
  let node ← cell (Markup.escape ((issue.node?.filter (· ≠ "")).getD "-"))
  let message ← cell (Markup.escape issue.message)
  return [severity, node, message]

/-- Columns of the table of issues. -/
def issueColumns : List Column :=
  [⟨"Severity", false⟩, ⟨"Node", false⟩, ⟨"Message", false⟩]

/-- Lines that show the issues of a formula. -/
def issues [Console] (found : List Issue) : Except DisplayError Lines :=
  if found.isEmpty then paragraph "[green]✓ No issues found[/green]"
  else (found.mapM issueCells).map fun rows => table Console.columns issueColumns rows 0

/-- Columns of the table of inputs. -/
def inputColumns : List Column :=
  [⟨"Metric", false⟩, ⟨"Value", true⟩]

/-- Lines that show the inputs of an evaluation. -/
def inputs [Console] (given : Inputs) : Except DisplayError Lines := do
  let rows ← given.mapM fun metric => do
    let value ← amount metric.2
    let name ← cell (Markup.escape metric.1)
    return [name, ⟨value, false⟩]
  return panel "Inputs" (table panelWidth inputColumns rows panelWidth)

end Display
end PayGraph

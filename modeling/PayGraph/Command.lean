import PayGraph.Command.Arguments
import PayGraph.Display
import PayGraph.Loading
import PayGraph.Report
import PayGraph.Settings

/-!
# The command line

One command evaluates a formula and shows how the amount came about, another checks a formula
without evaluating it.  Notes go to the standard error, and the bare amount to the standard output.
What is not given on the command line comes from the settings of the project.
-/

namespace PayGraph

/-- What cuts a run short without a message of its own. -/
inductive Crash where
  | markup (cause : Terminal.MarkupError)
  | digits (cause : DigitOverflow)
  | file (cause : FileError)
  | undecodable
  | unencodable
  | nesting
  deriving DecidableEq, Repr

/-- What cuts a run short over a report that is not written. -/
def ReportError.crash : ReportError → Crash
  | .digits cause => .digits cause
  | .file cause => .file cause
  | .unencodable => .unencodable

/-- How a run ends. -/
inductive Ending where
  | succeeded
  | failed
  | crashed (cause : Crash)
  | misused
  deriving DecidableEq, Repr

namespace Ending

/-- Exit code of a run. -/
def exitCode : Ending → Nat
  | .succeeded => 0
  | .failed | .crashed _ => 1
  | .misused => 2

end Ending

/-- What a run has printed so far. -/
structure Screen where
  /-- Lines on the standard error. -/
  notes : Lines := []
  /-- Lines on the standard output. -/
  results : Lines := []
  /-- The last note is the headline of a list of mistakes. -/
  headline : Bool := false
  deriving DecidableEq, Repr

/-- A run that prints, acts on files and may end early. -/
abbrev Session (Effect : Type → Type) := ExceptT Ending (StateT Screen Effect)

namespace Session

variable {Effect : Type → Type} [Monad Effect]

/-- Print notes. -/
def note (lines : Lines) : Session Effect Unit :=
  modify fun screen => { screen with notes := screen.notes ++ lines }

/-- Print an empty line. -/
def skipLine : Session Effect Unit :=
  note [[]]

/-- Print results. -/
def result (lines : Lines) : Session Effect Unit :=
  modify fun screen => { screen with results := screen.results ++ lines }

/-- End the run without a message. -/
def crash {Value : Type} (cause : Crash) : Session Effect Value :=
  throw (.crashed cause)

/-- Lines that can be shown, or the end of the run. -/
def shown : Except DisplayError Lines → Session Effect Lines
  | .ok lines => return lines
  | .error (.markup cause) => crash (.markup cause)
  | .error (.digits cause) => crash (.digits cause)

/-- Print lines that can be shown. -/
def display (lines : Except DisplayError Lines) : Session Effect Unit := do
  note (← shown lines)

/-- Print marked-up text. -/
def say [Terminal.Console] (markup : String) : Session Effect Unit :=
  display (Display.paragraph markup)

/-- End the run with a message. -/
def refuse [Terminal.Console] {Value : Type} (message : String) (headline : Bool) :
    Session Effect Value := do
  say s!"[red]✗ {Terminal.Markup.escape message}[/red]"
  modify fun screen => { screen with headline }
  throw .failed

/-- End the run because a file cannot be opened. -/
def refuseFile [Terminal.Console] {Value : Type} (cause : FileError) : Session Effect Value :=
  if cause.obstacle = .impossibleName then crash (.file cause)
  else refuse cause.message false

/-- Result of evaluating something whose numbers have texts. -/
def written {Value : Type} : Except DigitOverflow Value → Session Effect Value
  | .ok value => return value
  | .error cause => crash (.digits cause)

/-- Operations on files as parts of a run. -/
def files (outside : Files Effect) : Files (Session Effect) where
  current := liftM outside.current
  read path := liftM (outside.read path)
  isFile path := liftM (outside.isFile path)
  write path content := liftM (outside.write path content)

end Session

namespace Command

open Session (note skipLine result crash shown display say refuse refuseFile written)

variable {Effect : Type → Type} [Monad Effect] (files : Files (Session Effect))

/-- A result of loading, or the end of the run.  Refused contents and files that cannot be opened
end it in ways of their own. -/
def accept {Refusal Value : Type} (onRefusal : Refusal → Session Effect Value)
    (onFile : FileError → Session Effect Value) :
    Except (LoadFault Refusal) Value → Session Effect Value
  | .ok value => return value
  | .error (.refused cause) => onRefusal cause
  | .error (.inaccessible cause) => onFile cause
  | .error .undecodable => crash .undecodable
  | .error (.digits cause) => crash (.digits cause)
  | .error .nesting => crash .nesting

/-- The settings in force. -/
def settings [Host] [Terminal.Console] : Session Effect Settings := do
  accept (fun cause => refuse cause.message cause.isHeadline) (fun cause => crash (.file cause))
    (← Settings.current files)

/-- A formula or inputs that have been loaded, or the end of the run. -/
def loaded [Halves] [Terminal.Console] {Value : Type} :
    Except (LoadFault LoadError) Value → Session Effect Value :=
  accept (fun cause => refuse cause.message cause.isHeadline) refuseFile

/-- Notes about the unknown parts of a document. -/
def warningLines [Halves] [Terminal.Console] (warnings : List Warning) : Lines :=
  warnings.flatMap fun warning => Display.log "WARNING" warning.message

/-- The formula at a path. -/
def formulaAt [Host] [Terminal.Console] (path : Path) : Session Effect Formula := do
  say s!"[cyan]Loading formula from:[/cyan] {path.text}"
  let (warnings, found) ← Formula.load files path
  note (warningLines warnings)
  let formula ← loaded found
  if formula.name ≠ "" then
    say s!"[cyan]Formula:[/cyan] [bold]{Terminal.Markup.escape formula.name}[/bold]"
  return formula

/-- The formula of a run. -/
def chosenFormula [Host] [Terminal.Console] (path? : Option Path) : Session Effect Formula := do
  match path? with
  | some path => formulaAt files path
  | none =>
    say "[red]✗ No formula given and no [tool.payformula].formula configured[/red]"
    throw .failed

/-- The inputs at a path, or none without a path. -/
def inputsAt [Host] [Terminal.Console] : Option Path → Session Effect Inputs
  | none => return []
  | some path => do
    say s!"[cyan]Loading inputs from:[/cyan] {path.text}"
    loaded (← Inputs.load files path)

/-- Write the report of an evaluation to a path. -/
def exportTo [Halves] [Terminal.Console] (evaluation : Evaluation) (path : Path) :
    Session Effect Unit := do
  say s!"[cyan]Exporting result to:[/cyan] {path.text}"
  match ← evaluation.writeReport files path with
  | .ok () => return ()
  | .error cause => crash cause.crash

/-- Note about the failure of an evaluation. -/
def failureLines [Terminal.Console] (formula : Formula) (evaluation : Evaluation) : Lines :=
  match evaluation.error? with
  | some message => Display.log "INFO" s!"Evaluation of formula {formula.id} failed: {message}"
  | none => []

/-- Path of the inputs: the one given, or without one and without sample data that of the
project. -/
def inputsPath? (settings : Settings) (given? : Option Path) (sample : Bool) : Option Path :=
  if given?.isNone && !sample then settings.inputs? else given?

/-- Evaluate a formula, show its steps, export the report and print the amount. -/
def evaluate [Host] [Terminal.Console] (formula? inputs? output? : Option Path) (sample : Bool) :
    Session Effect Unit := do
  skipLine
  let settings ← settings files
  let formula ← chosenFormula files (formula?.or settings.formula?)
  let base := if sample then Metric.sampleInputs else []
  let inputs := base.override (← inputsAt files (inputsPath? settings inputs? sample))
  if !inputs.isEmpty then display (Display.inputs inputs)
  skipLine
  let evaluation ← written (formula.evaluate inputs)
  note (failureLines formula evaluation)
  display (Display.steps evaluation)
  skipLine
  display (Display.outcome evaluation)
  match output?.or settings.output? with
  | some path => exportTo files evaluation path
  | none => pure ()
  let amount ← written evaluation.value.display
  result (← shown (Display.paragraph amount))
  if !evaluation.succeeded then throw .failed

/-- Check a formula and show its issues. -/
def check [Host] [Terminal.Console] (formula? : Option Path) : Session Effect Unit := do
  skipLine
  let settings ← settings files
  let formula ← chosenFormula files (formula?.or settings.formula?)
  skipLine
  let issues := formula.issues
  display (Display.issues issues)
  skipLine
  if Issue.anyError issues then
    say "[red]✗ Formula has errors[/red]"
    throw .failed
  let nodes := formula.nodes.length
  let connections := formula.connections.length
  say s!"[green]✓ Formula is valid[/green] [dim]({nodes} nodes, {connections} connections)[/dim]"

/-- Carry out a request. -/
def perform [Host] [Terminal.Console] : Request → Session Effect Unit
  | .evaluate formula? inputs? output? sample => evaluate files formula? inputs? output? sample
  | .check formula? => check files formula?

/-- Carry out a command line: how the run ends and what it prints. -/
def run [Host] [Terminal.Console] (outside : Files Effect) (arguments : List String) :
    Effect (Ending × Screen) := do
  match Request.ofArguments? arguments with
  | none => return (.misused, {})
  | some request =>
    match ← ((perform (Session.files outside) request).run).run {} with
    | (.ok (), screen) => return (.succeeded, screen)
    | (.error ending, screen) => return (ending, screen)

end Command
end PayGraph

import PayGraph.Evaluation
import PayGraph.Files.Access
import PayGraph.Json.Writer
import PayGraph.Toml.Writer

/-!
# Reports of evaluations

A report holds the value of an evaluation, whether it succeeded, the text of its failure if there is
one, and its steps.  It is written in JSON or TOML, piece by piece up to the first that no file can
hold.
-/

namespace PayGraph

namespace Step

/-- The record of a step. -/
def record (step : Step) : Record :=
  [("node_id", .text step.node), ("description", .text step.description),
    ("value", .number step.value), ("is_error", .number (.boolean step.isError))]

end Step

namespace Evaluation

/-- The record of an evaluation without its steps. -/
def summary (evaluation : Evaluation) : Record :=
  [("value", .number evaluation.value), ("success", .number (.boolean evaluation.succeeded))] ++
    (evaluation.error?.map fun message => ("error", Literal.text message)).toList

/-- Key of the steps in a report. -/
def stepsKey : String := "steps"

/-- The content of a report. -/
def report (evaluation : Evaluation) : Entries :=
  Record.entries evaluation.summary ++
    [(stepsKey, .list (evaluation.steps.map fun step => .table (Record.entries step.record)))]

/-- The pieces that a report is written in. -/
def reportPieces (evaluation : Evaluation) : Format → Except DigitOverflow (List (List Char))
  | .json => (Json.document (.table evaluation.report)).map fun text => [text.toList]
  | .toml => Toml.pieces evaluation.summary stepsKey (evaluation.steps.map Step.record)

/-- The text of a report in a format. -/
def reportText (evaluation : Evaluation) (format : Format) : Except DigitOverflow String :=
  (evaluation.reportPieces format).map fun pieces => String.ofList pieces.flatten

end Evaluation

/-- Why a report is not written. -/
inductive ReportError where
  | digits (cause : DigitOverflow)
  | file (cause : FileError)
  /-- A piece has half a surrogate pair in it, and the file holds those before it. -/
  | unencodable
  deriving DecidableEq, Repr

/-- Write the report of an evaluation to a path, in the format that the path asks for. -/
def Evaluation.writeReport [Halves] {Effect : Type → Type} [Monad Effect] (files : Files Effect)
    (evaluation : Evaluation) (path : Path) : Effect (Except ReportError Unit) := do
  match evaluation.reportPieces (.ofPath path) with
  | .error cause => return .error (.digits cause)
  | .ok pieces =>
    let front := pieces.takeWhile isEncodable
    match ← files.write path (String.ofList front.flatten).toUTF8 with
    | .error cause => return .error (.file cause)
    | .ok () => return if pieces.all isEncodable then .ok () else .error .unencodable
end PayGraph

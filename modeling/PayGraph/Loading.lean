import PayGraph.Document.Meaning
import PayGraph.Files.Content
import PayGraph.Metric

/-!
# Loading formulas and inputs

A formula is a JSON document.  Input metrics are a flat table of numbers in the format that the
suffix of their path tells.  A file that is no such thing is refused with a message.
-/

namespace PayGraph

/-- Why the content of a file is refused. -/
inductive LoadError where
  | notJson (path : Path)
  | notInputs (path : Path)
  | notNumbers (path : Path) (faults : List FieldFault)
  | document (cause : DocumentError)

namespace LoadError

/-- Text of a refusal, as far as it does not depend on the place of a mistake. -/
def message [Halves] : LoadError → String
  | .notJson path => s!"Invalid JSON in {path.text}"
  | .notInputs path => s!"Invalid input file {path.text}"
  | .notNumbers path _ => s!"Input metrics in {path.text} must be numbers"
  | .document cause => cause.message

/-- Faults of the fields that led to a refusal. -/
def faults? : LoadError → Option (List FieldFault)
  | .notNumbers _ faults => some faults
  | .document (.fields faults) => some faults
  | _ => none

/-- The message is only the headline of a list of mistakes. -/
def isHeadline : LoadError → Bool
  | .document (.fields _) => true
  | .document _ => false
  | _ => true

end LoadError

/-- Fault of a document that makes no formula. -/
def LoadFault.ofDocument : DocumentFault → LoadFault LoadError
  | .refused cause => .refused (.document cause)
  | .nesting => .nesting

/-- The formula in a file, with the warnings about its nodes. -/
def Formula.ofBytes [Host] (path : Path) (content : ByteArray) :
    List Warning × Except (LoadFault LoadError) Formula :=
  match readContent (Data.ofText .json) (.notJson path) content with
  | .error fault => ([], .error fault)
  | .ok data =>
    let (warnings, found) := Formula.ofData data
    (warnings, found.mapError .ofDocument)

/-- Metrics with the values that data gives them. -/
def Inputs.ofData : Data → Checked Inputs
  | .table entries =>
    (Checked.eachEntry Data.asReal entries).map fun values =>
      values.map fun entry => (entry.1, .real entry.2)
  | _ => .fault .notTable

/-- The metrics in a file. -/
def Inputs.ofBytes [Host] (path : Path) (content : ByteArray) :
    Except (LoadFault LoadError) Inputs := do
  let data ← readContent (Data.ofText (.ofPath path)) (.notInputs path) content
  (Inputs.ofData data).mapError fun faults => .refused (.notNumbers path faults)

section

variable [Host] {Effect : Type → Type} [Monad Effect]

/-- Load a formula from a file. -/
def Formula.load (files : Files Effect) (path : Path) :
    Effect (List Warning × Except (LoadFault LoadError) Formula) := do
  match ← files.read path with
  | .error cause => return ([], .error (.inaccessible cause))
  | .ok content => return Formula.ofBytes path content

/-- Load metrics from a file. -/
def Inputs.load (files : Files Effect) (path : Path) :
    Effect (Except (LoadFault LoadError) Inputs) := do
  match ← files.read path with
  | .error cause => return .error (.inaccessible cause)
  | .ok content => return Inputs.ofBytes path content

end

end PayGraph

import PayGraph.Data.Shown
import PayGraph.Document

/-!
# The formula of a document

Each node of a document gets the kind of its type, with the payload that the type calls for.  A type
or operator that is not known makes an unsupported node and a warning; a payload that is absent or
no number refuses the whole document, as do two nodes with one identifier.  An operator that is
nested too deeply to be shown in its warning ends everything.
-/

namespace PayGraph

/-- Why a document is refused. -/
inductive DocumentError where
  | fields (faults : List FieldFault)
  | missingPayload (node type key : String)
  | nonNumeric (node : String) (value : Data)
  | duplicate (node : String)

namespace DocumentError

/-- Text of a refusal; the faults of fields are not spelled out. -/
def message [Halves] : DocumentError → String
  | .fields _ => "Invalid formula document"
  | .missingPayload node type key => s!"Node '{node}' of type '{type}' has no '{key}' in its data"
  | .nonNumeric node value => s!"Node '{node}' has a non-numeric value: {value.shown}"
  | .duplicate node => Formula.duplicateMessage node

end DocumentError

/-- Why no formula is made of a document. -/
inductive DocumentFault where
  | refused (cause : DocumentError)
  /-- A warning cannot show what it is about. -/
  | nesting

/-- What a document holds that is not known. -/
inductive Warning where
  | unknownOperator (node : String) (value : Data)
  | unknownType (node type : String)

namespace Warning

/-- Text of a warning. -/
def message [Halves] : Warning → String
  | .unknownOperator node value => s!"Node '{node}' uses unknown operator {value.shown}"
  | .unknownType node type => s!"Node '{node}' has unknown type {quotedHalves type}"

end Warning

/-- The operator that a value names. -/
def Data.operator? : Data → Option Operator
  | .text word => Operator.ofWord? word
  | _ => none

namespace NodeEntry

/-- Value under a key of the data of a node. -/
def payload (node : NodeEntry) (key : String) : Except DocumentFault Data :=
  match node.data.lookup key with
  | some value => .ok value
  | none => .error (.refused (.missingPayload node.id node.type key))

/-- Kind of a node that has an operator under a key.  The warning about one that is not known shows
it. -/
def operatorKind [Host] (node : NodeEntry) (key : String) (make : Operator → Kind) :
    Except DocumentFault (Kind × Option Warning) :=
  match node.payload key with
  | .error fault => .error fault
  | .ok value =>
    match value.operator? with
    | some operator => .ok (make operator, none)
    | none =>
      if value.nesting ≤ Stack.shown then
        .ok (.unsupported value.plain, some (.unknownOperator node.id value))
      else .error .nesting

/-- Kind of a node, with a warning if it is not known. -/
def kind [Host] (node : NodeEntry) : Except DocumentFault (Kind × Option Warning) :=
  match node.type with
  | "variable" => (node.payload "variable").map fun value => (.variable value.plain, none)
  | "numero" =>
    match node.payload "valor" with
    | .error fault => .error fault
    | .ok value =>
      match value.asReal with
      | .ok real => .ok (.constant (.real real), none)
      | .error _ => .error (.refused (.nonNumeric node.id value))
  | "operacion" => node.operatorKind "operacion" .operation
  | "comparador" => node.operatorKind "condicion" .comparator
  | "resultado" => .ok (.result, none)
  | unknown => .ok (.unsupported unknown, some (.unknownType node.id unknown))

/-- The nodes of a formula up to the first that has no kind, with the warnings about them. -/
def meanings [Host] : List NodeEntry → List Warning × Except DocumentFault (List Node)
  | [] => ([], .ok [])
  | node :: rest =>
    match node.kind with
    | .error fault => ([], .error fault)
    | .ok (kind, warning?) =>
      let (warnings, nodes) := meanings rest
      (warning?.toList ++ warnings, nodes.map (⟨node.id, kind⟩ :: ·))

end NodeEntry

namespace Document

/-- The formula of a document, with the warnings about its nodes. -/
def formula [Host] (document : Document) : List Warning × Except DocumentFault Formula :=
  match NodeEntry.meanings document.nodes with
  | (warnings, .error fault) => (warnings, .error fault)
  | (warnings, .ok nodes) =>
    (warnings, (Formula.ofParts document.id document.name nodes document.connections
      (document.result?.filter (· ≠ ""))).mapError fun id => .refused (.duplicate id))

end Document

namespace Formula

/-- The formula that data stands for, with the warnings about its nodes. -/
def ofData [Host] (data : Data) : List Warning × Except DocumentFault Formula :=
  match Document.check data with
  | .error faults => ([], .error (.refused (.fields faults)))
  | .ok document => document.formula

end Formula
end PayGraph

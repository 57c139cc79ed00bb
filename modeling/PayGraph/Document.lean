import PayGraph.Data
import PayGraph.Document.Check
import PayGraph.Formula

/-!
# Formula documents

A document stores a formula as the editor saves it: nodes with a type and free data, connections
between their slots, and perhaps the result node.  Everything else in it is ignored.
-/

namespace PayGraph

/-- A node as a document stores it. -/
structure NodeEntry where
  /-- Identifier of the node. -/
  id : String
  /-- Word for the type of the node. -/
  type : String
  /-- Data of the node, by key. -/
  data : Entries

/-- A formula as a document stores it. -/
structure Document where
  /-- Identifier of the formula. -/
  id : String
  /-- Display name. -/
  name : String
  /-- Description for readers. -/
  description? : Option String
  /-- Nodes in their order. -/
  nodes : List NodeEntry
  /-- Connections in their order. -/
  connections : List Connection
  /-- Explicit result node. -/
  result? : Option String

namespace NodeEntry

/-- Check a node of a document. -/
def check : Data → Checked NodeEntry
  | .table entries =>
    (((Checked.value NodeEntry.mk).apply
      (Checked.required "id" Data.asText entries)).apply
      (Checked.required "tipo" Data.asText entries)).apply
      (Checked.optional "datos" [] Data.asTable entries)
  | _ => .fault .notModel

end NodeEntry

namespace Connection

/-- Check a connection of a document. -/
def check : Data → Checked Connection
  | .table entries =>
    (((((Checked.value Connection.mk).apply
      (Checked.required "id" Data.asText entries)).apply
      (Checked.required "origen" Data.asText entries)).apply
      (Checked.required "destino" Data.asText entries)).apply
      (Checked.optional "puntoSalida" "" Data.asText entries)).apply
      (Checked.optional "puntoEntrada" "" Data.asText entries)
  | _ => .fault .notModel

end Connection

namespace Document

/-- Identifier of a formula: a text, or a whole number or truth value that becomes its text. -/
def checkId : Data → Checked String
  | .whole value => .ok (String.ofList (wholeText value))
  | .boolean value => .ok (if value then "True" else "False")
  | other => other.asText

/-- Check a document. -/
def check : Data → Checked Document
  | .table entries =>
    ((((((Checked.value Document.mk).apply
      (Checked.required "id" checkId entries)).apply
      (Checked.optional "nombre" "" Data.asText entries)).apply
      (Checked.optional "descripcion" none Data.asNullableText entries)).apply
      (Checked.required "nodos" (Data.asList NodeEntry.check) entries)).apply
      (Checked.optional "conexiones" [] (Data.asList Connection.check) entries)).apply
      (Checked.optional "nodoResultado" none Data.asNullableText entries)
  | _ => .fault .notModel

end Document
end PayGraph

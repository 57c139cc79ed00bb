import Mathlib
import PayGraph.Proofs.Association
import PayGraph.Proofs.Document.Contents
import PayGraph.Proofs.Document.Kinds

/-!
# What matters of documents

A formula depends on the fields of a document that have a meaning, and on no other entry of any of
its tables.  The essence of a document keeps only those; it makes the same formula.
-/

namespace PayGraph

namespace Checked

variable {Input Other Value Result : Type}

section Fields

variable {key : String} {check : Data → Checked Value} {entries other : Entries} {default : Value}

variable {reduce : Data → Data} {change : Value → Value}

end Fields

end Checked

namespace Entries

/-- What a table holds under some keys, with as much of each value as matters. -/
def keep (fields : List (String × (Data → Option Data))) (entries : Entries) : Entries :=
  fields.filterMap fun field =>
    ((entries.lookup field.1).bind field.2).map fun kept => (field.1, kept)

/-- What a table holds under one key at most. -/
def only (key? : Option String) : Entries → Entries :=
  keep (key?.toList.map fun key => (key, some))

section Listed

variable {fields : List (String × (Data → Option Data))}
  (distinct : (fields.map Prod.fst).Nodup) (key : String)
include distinct

end Listed

end Entries

namespace Data

/-- The value with each of its items reduced, if it is a list. -/
def reduceItems (reduce : Data → Data) : Data → Data
  | .list items => .list (items.map reduce)
  | other => other

/-- The value with no entry but one, if it is a table. -/
def reduceTo (key? : Option String) : Data → Data
  | .table entries => .table (Entries.only key? entries)
  | other => other

/-- The value, unless it is a text or null, which a description may be. -/
def unlessText : Data → Option Data
  | .text _ => none
  | .null => none
  | other => some other

end Data

namespace NodeEntry

/-- Key of the payload of the node that a table holds. -/
def payloadKeyOf? (entries : Entries) : Option String :=
  match entries.lookup "tipo" with
  | some (.text type) => payloadKey? type
  | _ => none

/-- What matters of the table of a node. -/
def fields (key? : Option String) : List (String × (Data → Option Data)) :=
  [("id", some), ("tipo", some), ("datos", fun data => some (data.reduceTo key?))]

/-- What matters of a value for the node that it holds. -/
def reduce : Data → Data
  | .table entries => .table (Entries.keep (fields (payloadKeyOf? entries)) entries)
  | other => other

end NodeEntry

namespace Connection

/-- What matters of the table of a connection. -/
def fields : List (String × (Data → Option Data)) :=
  [("id", some), ("origen", some), ("destino", some), ("puntoSalida", some), ("puntoEntrada", some)]

/-- What matters of a value for the connection that it holds. -/
def reduce : Data → Data
  | .table entries => .table (Entries.keep fields entries)
  | other => other

end Connection

namespace Document

/-- What matters of the table of a document. -/
def fields : List (String × (Data → Option Data)) :=
  [("id", some), ("nombre", some), ("descripcion", Data.unlessText),
    ("nodos", fun nodes => some (nodes.reduceItems NodeEntry.reduce)),
    ("conexiones", fun connections => some (connections.reduceItems Connection.reduce)),
    ("nodoResultado", some)]

/-- What matters of a value for the formula that it stands for. -/
def reduce : Data → Data
  | .table entries => .table (Entries.keep fields entries)
  | other => other

end Document

namespace Formula

end Formula
end PayGraph

import PayGraph.Data

/-!
# Flat records

A record holds scalars under keys, in order.  Exported results are made of records, so that every
format can hold them.
-/

namespace PayGraph

/-- A scalar of a record. -/
inductive Literal where
  | number (value : Number)
  | text (content : String)
  deriving DecidableEq, Repr

/-- Scalars under keys. -/
abbrev Record := List (String × Literal)

namespace Literal

/-- The data of a scalar. -/
def data : Literal → Data
  | .number value => .ofNumber value
  | .text content => .text content

end Literal

namespace Record

/-- The entries of a table with the same content. -/
def entries (record : Record) : Entries :=
  record.map fun field => (field.1, field.2.data)

end Record
end PayGraph

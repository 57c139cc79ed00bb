import PayGraph.Failure
import PayGraph.Number.Basic
import PayGraph.Operator

/-!
# Formulas

A formula is a graph of nodes and connections.  Nodes have distinct identifiers and connections keep
the order of their declaration, which fixes the operands of an operation.
-/

namespace PayGraph

/-- What a node computes. -/
inductive Kind where
  | variable (name : String)
  | constant (value : Number)
  | operation (operator : Operator)
  | comparator (condition : Operator)
  | result
  | unsupported (tag : String)
  deriving DecidableEq, Repr

/-- A unit of a formula. -/
structure Node where
  /-- Identifier, unique in the formula. -/
  id : String
  /-- What the node computes. -/
  kind : Kind
  deriving DecidableEq, Repr

/-- A directed edge from the output of a node to an input slot of another. -/
structure Connection where
  /-- Identifier of the connection. -/
  id : String
  /-- Node whose value the connection carries. -/
  source : String
  /-- Node that the connection feeds. -/
  target : String
  /-- Output slot of the source. -/
  outlet : String
  /-- Input slot of the target. -/
  slot : String
  deriving DecidableEq, Repr

/-- Slot that a result node reads. -/
def inputSlot : String := "input"

/-- Slot of the left side of a comparison. -/
def leftSlot : String := "valueA"

/-- Slot of the right side of a comparison. -/
def rightSlot : String := "valueB"

/-- Slot of a node's value. -/
def outputSlot : String := "output"

/-- A graph of nodes and connections with its designated result node. -/
structure Formula where
  /-- Identifier of the formula. -/
  id : String
  /-- Display name, irrelevant to evaluation. -/
  name : String
  /-- Nodes in the order of their declaration. -/
  nodes : List Node
  /-- Connections in the order of their declaration. -/
  connections : List Connection
  /-- Explicit result node; absent or empty leaves the choice to the nodes. -/
  result? : Option String
  /-- No two nodes share an identifier. -/
  distinct : (nodes.map Node.id).Nodup
  deriving DecidableEq, Repr

namespace Formula

/-- First identifier that is among those already seen or repeats one before it. -/
def repeated? (seen : List String) : List String → Option String
  | [] => none
  | id :: rest => if id ∈ seen then some id else repeated? (id :: seen) rest

theorem repeated?_eq_none (seen ids : List String) :
    repeated? seen ids = none ↔ ids.Nodup ∧ ∀ id ∈ ids, id ∉ seen := by
  induction ids generalizing seen with
  | nil => simp [repeated?]
  | cons id rest induction =>
      by_cases known : id ∈ seen
      · simp [repeated?, known]
      · rw [repeated?, if_neg known, induction, List.nodup_cons]
        constructor
        · rintro ⟨rest_nodup, rest_fresh⟩
          refine ⟨⟨fun member => ?_, rest_nodup⟩, fun other member => ?_⟩
          · exact rest_fresh id member List.mem_cons_self
          · rcases List.mem_cons.mp member with rfl | member
            · exact known
            · exact fun seen_other => rest_fresh other member (List.mem_cons_of_mem _ seen_other)
        · rintro ⟨⟨fresh, rest_nodup⟩, all_fresh⟩
          refine ⟨rest_nodup, fun other member => ?_⟩
          rw [List.mem_cons, not_or]
          exact ⟨fun same => fresh (same ▸ member),
            all_fresh other (List.mem_cons_of_mem _ member)⟩

/-- Build a formula from its parts, or report the identifier that two nodes share. -/
def ofParts (id name : String) (nodes : List Node) (connections : List Connection)
    (result? : Option String) : Except String Formula :=
  match found : repeated? [] (nodes.map Node.id) with
  | some repeated => .error repeated
  | none =>
    .ok ⟨id, name, nodes, connections, result?, ((repeated?_eq_none _ _).mp found).1⟩

/-- Complaint about an identifier that two nodes share. -/
def duplicateMessage (id : String) : String :=
  s!"Duplicate node id: {id}"

/-- The node with an identifier. -/
def node? (formula : Formula) (id : String) : Option Node :=
  formula.nodes.find? fun node => node.id = id

/-- The node with an identifier, or the failure that there is none. -/
def node (formula : Formula) (id : String) : Except Failure Node :=
  match formula.node? id with
  | some node => .ok node
  | none => .error (.unknownNode id)

/-- Connections that feed a node. -/
def incoming (formula : Formula) (id : String) : List Connection :=
  formula.connections.filter fun connection => connection.target = id

/-- Connections that feed a slot of a node. -/
def incomingAt (formula : Formula) (id slot : String) : List Connection :=
  formula.connections.filter fun connection => connection.target = id && connection.slot = slot

/-- Source of the first connection into a slot of a node. -/
def sourceAt? (formula : Formula) (id slot : String) : Option String :=
  (formula.incomingAt id slot).head?.map Connection.source

/-- Identifiers of the result nodes. -/
def resultNodes (formula : Formula) : List String :=
  (formula.nodes.filter fun node => node.kind = .result).map Node.id

/-- The explicit result node, if one is named. -/
def explicitResult? (formula : Formula) : Option String :=
  formula.result?.filter (· ≠ "")

/-- The node whose value is the amount: the explicit one, else the first result node. -/
def resultNode (formula : Formula) : Except Failure String :=
  match formula.explicitResult?, formula.resultNodes with
  | some id, _ => .ok id
  | none, id :: _ => .ok id
  | none, [] => .error .missingResult

end Formula
end PayGraph

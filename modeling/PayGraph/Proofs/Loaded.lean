import PayGraph.Loading
import PayGraph.Proofs.Outcomes

/-!
# Loaded numbers

Documents and tables of inputs may write a number as a whole one, a truth value or a text, but
loading turns each of them into double precision.  So every constant of a loaded formula is in
double precision, and so is every loaded metric.
-/

namespace PayGraph

namespace NodeEntry

section

variable [Host] {entry : NodeEntry} {kind : Kind} {warning? : Option Warning}

theorem not_constant_of_operatorKind {key : String} {make : Operator → Kind} {value : Number}
    (decoded : entry.operatorKind key make = .ok (kind, warning?))
    (makes_none : ∀ operator, make operator ≠ .constant value) : kind ≠ .constant value := by
  revert decoded
  fun_cases operatorKind entry key make with
  | case1 => nofun
  | case2 _ _ operator _ =>
      rintro ⟨⟩
      exact makes_none operator
  | case3 =>
      rintro ⟨⟩
      nofun
  | case4 => nofun

theorem exists_real_of_kind {value : Number} (decoded : entry.kind = .ok (kind, warning?))
    (constant : kind = .constant value) : ∃ real, value = .real real := by
  revert decoded
  fun_cases NodeEntry.kind entry with
  | case1 =>
      intro decoded
      obtain ⟨_, _, kind_eq⟩ := Except.exists_of_map_eq_ok decoded
      cases kind_eq
      cases constant
  | case2 => nofun
  | case3 _ _ _ real _ =>
      rintro ⟨⟩
      cases constant
      exact ⟨real, rfl⟩
  | case4 => nofun
  | case5 => exact fun decoded => absurd constant (not_constant_of_operatorKind decoded nofun)
  | case6 => exact fun decoded => absurd constant (not_constant_of_operatorKind decoded nofun)
  | case7 =>
      rintro ⟨⟩
      cases constant
  | case8 =>
      rintro ⟨⟩
      cases constant

theorem exists_real_of_meanings {entries : List NodeEntry} {warnings : List Warning}
    {nodes : List Node} (decoded : meanings entries = (warnings, .ok nodes)) {node : Node}
    (node_mem : node ∈ nodes) {value : Number} (constant : node.kind = .constant value) :
    ∃ real, value = .real real := by
  fun_induction meanings entries generalizing warnings nodes with
  | case1 =>
      cases decoded
      cases node_mem
  | case2 => cases decoded
  | case3 entry rest kind warning? kind_eq rest_warnings outcome rest_decoded induction =>
      cases outcome with
      | error fault => cases decoded
      | ok others =>
          cases decoded
          rcases List.mem_cons.mp node_mem with rfl | node_mem
          · exact exists_real_of_kind kind_eq constant
          · exact induction rest_decoded node_mem

end

end NodeEntry

namespace Formula

/-- Every constant of the formula is in double precision. -/
def RealConstants (formula : Formula) : Prop :=
  ∀ node ∈ formula.nodes, ∀ value, node.kind = .constant value → ∃ real, value = .real real

theorem nodes_of_ofParts {id name : String} {nodes : List Node} {connections : List Connection}
    {result? : Option String} {formula : Formula}
    (built : ofParts id name nodes connections result? = .ok formula) : formula.nodes = nodes := by
  revert built
  fun_cases ofParts id name nodes connections result? with
  | case1 => nofun
  | case2 =>
      rintro ⟨⟩
      rfl

theorem realConstants_of_ofData [Host] {data : Data} {warnings : List Warning}
    {formula : Formula} (loaded : ofData data = (warnings, .ok formula)) :
    formula.RealConstants := by
  revert loaded
  fun_cases ofData data with
  | case1 => nofun
  | case2 document checked =>
      fun_cases Document.formula document with
      | case1 => nofun
      | case2 warnings nodes decoded =>
          intro loaded node node_mem value constant
          have built := Except.eq_ok_of_mapError_eq_ok (Prod.ext_iff.mp loaded).2
          rw [nodes_of_ofParts built] at node_mem
          exact NodeEntry.exists_real_of_meanings decoded node_mem constant

end Formula

namespace Inputs

/-- Every metric is in double precision. -/
def IsReal (inputs : Inputs) : Prop :=
  ∀ entry ∈ inputs, ∃ value, entry.2 = .real value

theorem isReal_of_ofData {data : Data} {inputs : Inputs} (loaded : ofData data = .ok inputs) :
    inputs.IsReal := by
  cases data with
  | table entries =>
      simp only [ofData] at loaded
      cases checked : Checked.eachEntry Data.asReal entries with
      | error faults =>
          rw [checked] at loaded
          cases loaded
      | ok values =>
          rw [checked] at loaded
          cases loaded
          intro entry entry_mem
          obtain ⟨value, _, rfl⟩ := List.mem_map.mp entry_mem
          exact ⟨_, rfl⟩
  | null | boolean | whole | real | text | moment | list => cases loaded

end Inputs
end PayGraph

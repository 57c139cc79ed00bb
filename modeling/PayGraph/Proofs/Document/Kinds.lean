import Mathlib
import PayGraph.Document.Meaning
import PayGraph.Proofs.Outcomes

/-!
# What the nodes of documents stand for

The type of a node calls for a payload under a key of its own.  With its payload a node has a kind,
which for an unknown type or operator keeps its text; without it, or with a number that is none, the
node is refused.  An operator that is nested too deeply gives up everything instead.  The nodes of a
document have kinds up to the first that has none.
-/

namespace PayGraph

namespace Operator

theorem ofWord?_word (operator : Operator) : ofWord? operator.word = some operator := by
  cases operator <;> rfl

theorem word_of_ofWord? {word : String} {operator : Operator}
    (known : ofWord? word = some operator) : operator.word = word := by
  simpa using List.find?_some known

end Operator

namespace Data

theorem nesting_text (content : String) : (text content).nesting = 0 := rfl

theorem operator?_eq_none_iff {value : Data} :
    value.operator? = none ↔ ∀ operator : Operator, value ≠ .text operator.word := by
  cases value with
  | text word =>
      constructor
      · rintro unknown operator ⟨⟩
        rw [Data.operator?, Operator.ofWord?_word] at unknown
        cases unknown
      · intro other
        cases known : Operator.ofWord? word with
        | none => exact known
        | some operator =>
            have word_eq := Operator.word_of_ofWord? known
            exact absurd (congrArg Data.text word_eq.symm) (other operator)
  | _ => exact iff_of_true rfl fun _ => nofun

end Data

namespace NodeEntry

/-- Key of the payload that a type of node calls for. -/
def payloadKey? : String → Option String
  | "variable" => some "variable"
  | "numero" => some "valor"
  | "operacion" => some "operacion"
  | "comparador" => some "condicion"
  | _ => none

/-- Key of the operator that a type of node has. -/
def operatorKey? : String → Option String
  | "operacion" => some "operacion"
  | "comparador" => some "condicion"
  | _ => none

/-- The kind that an operator under a key makes, or the text of what is no operator. -/
inductive Operates [Halves] (data : Entries) (key : String) (make : Operator → Kind) : Kind → Prop
  | known {operator : Operator} (given : data.lookup key = some (.text operator.word)) :
      Operates data key make (make operator)
  | unknown {value : Data} (given : data.lookup key = some value)
      (other : ∀ operator : Operator, value ≠ .text operator.word) :
      Operates data key make (.unsupported value.plain)

/-- The kind that a node has by its type and payload. -/
inductive Means [Halves] : NodeEntry → Kind → Prop
  | metric {id : String} {data : Entries} {value : Data}
      (given : data.lookup "variable" = some value) :
      Means ⟨id, "variable", data⟩ (.variable value.plain)
  | number {id : String} {data : Entries} {value : Data} {real : Binary64}
      (given : data.lookup "valor" = some value) (numeric : value.asReal = .ok real) :
      Means ⟨id, "numero", data⟩ (.constant (.real real))
  | operation {id : String} {data : Entries} {kind : Kind}
      (operates : Operates data "operacion" .operation kind) : Means ⟨id, "operacion", data⟩ kind
  | comparator {id : String} {data : Entries} {kind : Kind}
      (operates : Operates data "condicion" .comparator kind) : Means ⟨id, "comparador", data⟩ kind
  | result {id : String} {data : Entries} : Means ⟨id, "resultado", data⟩ .result
  | unknown {id type : String} {data : Entries}
      (other : type ∉ ["variable", "numero", "operacion", "comparador", "resultado"]) :
      Means ⟨id, type, data⟩ (.unsupported type)

/-- Why a node is refused. -/
inductive Refused : NodeEntry → DocumentError → Prop
  | missing {entry : NodeEntry} {key : String} (needed : payloadKey? entry.type = some key)
      (absent : entry.data.lookup key = none) :
      Refused entry (.missingPayload entry.id entry.type key)
  | nonNumeric {id : String} {data : Entries} {value : Data}
      (given : data.lookup "valor" = some value) (other : ∀ real, value.asReal ≠ .ok real) :
      Refused ⟨id, "numero", data⟩ (.nonNumeric id value)

/-- The node has the payload that its type calls for, and a number is one. -/
structure Complete (entry : NodeEntry) : Prop where
  payload : ∀ key, payloadKey? entry.type = some key → ∃ value, entry.data.lookup key = some value
  numeric : entry.type = "numero" → ∀ value, entry.data.lookup "valor" = some value →
    ∃ real, value.asReal = .ok real

/-- The operator of the node is nested too deeply for a warning to show it. -/
def Overnested [Host] (entry : NodeEntry) : Prop :=
  ∃ key value, operatorKey? entry.type = some key ∧ entry.data.lookup key = some value ∧
    Stack.shown < value.nesting

theorem mem_of_payloadKey? {type key : String} (needed : payloadKey? type = some key) :
    (type, key) ∈ [("variable", "variable"), ("numero", "valor"), ("operacion", "operacion"),
      ("comparador", "condicion")] := by
  unfold payloadKey? at needed
  split at needed <;> cases needed <;> simp

theorem mem_of_operatorKey? {type key : String} (needed : operatorKey? type = some key) :
    (type, key) ∈ [("operacion", "operacion"), ("comparador", "condicion")] := by
  unfold operatorKey? at needed
  split at needed <;> cases needed <;> simp

variable {entry : NodeEntry} {kind : Kind} {cause : DocumentError}

theorem payload_eq_ok {key : String} {value : Data} (given : entry.data.lookup key = some value) :
    entry.payload key = .ok value := by
  rw [payload, given]

theorem payload_eq_error {key : String} (absent : entry.data.lookup key = none) :
    entry.payload key = .error (.refused (.missingPayload entry.id entry.type key)) := by
  rw [payload, absent]

theorem exists_operates [Halves] {data : Entries} {key : String} (make : Operator → Kind)
    {value : Data} (given : data.lookup key = some value) :
    ∃ kind, Operates data key make kind := by
  by_cases known : ∃ operator : Operator, value = .text operator.word
  · obtain ⟨operator, rfl⟩ := known
    exact ⟨_, .known given⟩
  · exact ⟨_, .unknown given fun operator same => known ⟨operator, same⟩⟩

section Kinds

variable [Host]

theorem Operates.operatorKind_eq {key : String} {make : Operator → Kind}
    (operates : Operates entry.data key make kind)
    (shallow : ∀ value, entry.data.lookup key = some value → value.nesting ≤ Stack.shown) :
    ∃ warning?, entry.operatorKind key make = .ok (kind, warning?) := by
  cases operates with
  | @known operator given =>
      refine ⟨none, ?_⟩
      simp only [operatorKind, payload_eq_ok given, Data.operator?, Operator.ofWord?_word]
  | @unknown value given other =>
      refine ⟨some (.unknownOperator entry.id value), ?_⟩
      simp only [operatorKind, payload_eq_ok given, Data.operator?_eq_none_iff.mpr other,
        if_pos (shallow value given)]

theorem operatorKind_eq_error {key : String} {make : Operator → Kind}
    (absent : entry.data.lookup key = none) :
    entry.operatorKind key make = .error (.refused (.missingPayload entry.id entry.type key)) := by
  rw [operatorKind, payload_eq_error absent]

theorem operatorKind_eq_nesting {key : String} {make : Operator → Kind} {value : Data}
    (given : entry.data.lookup key = some value) (deep : Stack.shown < value.nesting) :
    entry.operatorKind key make = .error .nesting := by
  have unknown : value.operator? = none := by
    rw [Data.operator?_eq_none_iff]
    rintro operator rfl
    rw [Data.nesting_text] at deep
    exact Nat.not_lt_zero _ deep
  simp only [operatorKind, payload_eq_ok given, unknown, if_neg (Nat.not_le.mpr deep)]

theorem Means.kind_eq (means : entry.Means kind) (shallow : ¬entry.Overnested) :
    ∃ warning?, entry.kind = .ok (kind, warning?) := by
  have operators_shallow {key : String} (needed : operatorKey? entry.type = some key) :
      ∀ value, entry.data.lookup key = some value → value.nesting ≤ Stack.shown :=
    fun value given => Nat.not_lt.mp fun deep => shallow ⟨key, value, needed, given, deep⟩
  cases means with
  | metric given =>
      exact ⟨none, congrArg (Except.map _) (payload_eq_ok given)⟩
  | number given numeric =>
      refine ⟨none, ?_⟩
      simp only [NodeEntry.kind, payload, given, numeric]
  | operation operates => exact operates.operatorKind_eq (operators_shallow rfl)
  | comparator operates => exact operates.operatorKind_eq (operators_shallow rfl)
  | result => exact ⟨none, rfl⟩
  | unknown other =>
      simp only [List.mem_cons, List.not_mem_nil, or_false, not_or] at other
      obtain ⟨not_variable, not_number, not_operation, not_comparator, not_result⟩ := other
      simp only [NodeEntry.kind]
      exact ⟨_, rfl⟩

theorem Refused.kind_eq (refused : entry.Refused cause) :
    entry.kind = .error (.refused cause) := by
  cases refused with
  | missing needed absent =>
      obtain ⟨id, type, data⟩ := entry
      have calls := mem_of_payloadKey? needed
      simp only [List.mem_cons, Prod.mk.injEq, List.not_mem_nil, or_false] at calls
      rcases calls with ⟨rfl, rfl⟩ | ⟨rfl, rfl⟩ | ⟨rfl, rfl⟩ | ⟨rfl, rfl⟩
      · exact congrArg (Except.map _) (payload_eq_error absent)
      · simp only [NodeEntry.kind, payload, absent]
      · exact operatorKind_eq_error absent
      · exact operatorKind_eq_error absent
  | nonNumeric given other =>
      simp only [NodeEntry.kind, payload, given]
      split
      next real numeric => exact absurd numeric (other real)
      next => rfl

theorem Overnested.kind_eq (overnested : entry.Overnested) : entry.kind = .error .nesting := by
  obtain ⟨id, type, data⟩ := entry
  obtain ⟨key, value, needed, given, deep⟩ := overnested
  have calls := mem_of_operatorKey? needed
  simp only [List.mem_cons, Prod.mk.injEq, List.not_mem_nil, or_false] at calls
  rcases calls with ⟨rfl, rfl⟩ | ⟨rfl, rfl⟩
  · exact operatorKind_eq_nesting given deep
  · exact operatorKind_eq_nesting given deep

end Kinds

/-- A node either has a kind or is refused. -/
theorem means_or_refused [Halves] (entry : NodeEntry) :
    (∃ kind, entry.Means kind) ∨ ∃ cause, entry.Refused cause := by
  obtain ⟨id, type, data⟩ := entry
  by_cases known : type ∈ ["variable", "numero", "operacion", "comparador", "resultado"]
  · simp only [List.mem_cons, List.not_mem_nil, or_false] at known
    rcases known with rfl | rfl | rfl | rfl | rfl
    · cases found : data.lookup "variable" with
      | none => exact Or.inr ⟨_, .missing rfl found⟩
      | some value => exact Or.inl ⟨_, .metric found⟩
    · cases found : data.lookup "valor" with
      | none => exact Or.inr ⟨_, .missing rfl found⟩
      | some value =>
          by_cases numeric : ∃ real, value.asReal = .ok real
          · obtain ⟨real, numeric⟩ := numeric
            exact Or.inl ⟨_, .number found numeric⟩
          · exact Or.inr ⟨_, .nonNumeric found fun real given => numeric ⟨real, given⟩⟩
    · cases found : data.lookup "operacion" with
      | none => exact Or.inr ⟨_, .missing rfl found⟩
      | some value =>
          obtain ⟨kind, operates⟩ := exists_operates .operation found
          exact Or.inl ⟨kind, .operation operates⟩
    · cases found : data.lookup "condicion" with
      | none => exact Or.inr ⟨_, .missing rfl found⟩
      | some value =>
          obtain ⟨kind, operates⟩ := exists_operates .comparator found
          exact Or.inl ⟨kind, .comparator operates⟩
    · exact Or.inl ⟨_, .result⟩
  · exact Or.inl ⟨_, .unknown known⟩

theorem Refused.not_complete (refused : entry.Refused cause) : ¬ entry.Complete := by
  intro complete
  cases refused with
  | missing needed absent =>
      obtain ⟨value, given⟩ := complete.payload _ needed
      cases absent.symm.trans given
  | nonNumeric given other =>
      obtain ⟨real, numeric⟩ := complete.numeric rfl _ given
      exact other real numeric

theorem Operates.exists_given [Halves] {data : Entries} {key : String} {make : Operator → Kind}
    (operates : Operates data key make kind) : ∃ value, data.lookup key = some value := by
  cases operates with
  | known given | unknown given => exact ⟨_, given⟩

theorem Means.numeric [Halves] (means : entry.Means kind) (is_number : entry.type = "numero") :
    ∃ value real, entry.data.lookup "valor" = some value ∧ value.asReal = .ok real := by
  cases means with
  | number given numeric => exact ⟨_, _, given, numeric⟩
  | unknown other =>
      cases is_number
      exact absurd (by simp) other
  | metric | operation | comparator | result => simp at is_number

theorem Means.not_refused [Halves] (means : entry.Means kind) : ¬ entry.Refused cause := by
  intro refused
  cases refused with
  | missing needed absent =>
      cases means with
      | metric given | number given =>
          cases needed
          cases absent.symm.trans given
      | operation operates | comparator operates =>
          cases needed
          obtain ⟨value, given⟩ := operates.exists_given
          cases absent.symm.trans given
      | result => cases needed
      | unknown other =>
          have calls := mem_of_payloadKey? needed
          simp only [List.mem_cons, Prod.mk.injEq, List.not_mem_nil, or_false] at calls
          rcases calls with ⟨rfl, -⟩ | ⟨rfl, -⟩ | ⟨rfl, -⟩ | ⟨rfl, -⟩ <;> exact other (by simp)
  | nonNumeric given other =>
      obtain ⟨value, real, found, numeric⟩ := means.numeric rfl
      cases given.symm.trans found
      exact other real numeric

/-- A complete node is one that has a kind by its type and payload. -/
theorem complete_iff [Halves] : entry.Complete ↔ ∃ kind, entry.Means kind := by
  constructor
  · intro complete
    exact (means_or_refused entry).resolve_right fun ⟨_, refused⟩ => refused.not_complete complete
  · rintro ⟨kind, means⟩
    refine ⟨fun key needed => ?_, fun is_number value given => ?_⟩
    · by_contra missing
      exact means.not_refused
        (.missing needed (Option.eq_none_iff_forall_ne_some.mpr (not_exists.mp missing)))
    · by_contra none_given
      obtain ⟨id, type, data⟩ := entry
      cases is_number
      exact means.not_refused (.nonNumeric given fun real numeric => none_given ⟨real, numeric⟩)

section Described

variable [Halves] {entries : List NodeEntry} {nodes : List Node}
  (described : List.Forall₂ Describes entries nodes)
include described

end Described

section Outcomes

variable [Host]

theorem kind_cases (entry : NodeEntry) :
    (∃ kind warning?, entry.kind = .ok (kind, warning?) ∧ entry.Means kind ∧ ¬entry.Overnested) ∨
      (∃ cause, entry.kind = .error (.refused cause) ∧ entry.Refused cause ∧ ¬entry.Overnested) ∨
        entry.kind = .error .nesting ∧ entry.Overnested := by
  by_cases overnested : entry.Overnested
  · exact Or.inr (Or.inr ⟨overnested.kind_eq, overnested⟩)
  · rcases means_or_refused entry with ⟨kind, means⟩ | ⟨cause, refused⟩
    · obtain ⟨warning?, kind_eq⟩ := means.kind_eq overnested
      exact Or.inl ⟨kind, warning?, kind_eq, means, overnested⟩
    · exact Or.inr (Or.inl ⟨cause, refused.kind_eq, refused, overnested⟩)

theorem meanings_cons_of_error {fault : DocumentFault} (kind_eq : entry.kind = .error fault)
    (rest : List NodeEntry) : (meanings (entry :: rest)).2 = .error fault := by
  rw [meanings, kind_eq]

theorem meanings_cons_of_ok {warning? : Option Warning}
    (kind_eq : entry.kind = .ok (kind, warning?)) (rest : List NodeEntry) :
    (meanings (entry :: rest)).2 = (meanings rest).2.map (⟨entry.id, kind⟩ :: ·) := by
  rw [meanings, kind_eq]

/-- Nodes are given up for an operator that is nested too deeply, if no node before is refused. -/
theorem meanings_eq_nesting_iff {entries : List NodeEntry} :
    (meanings entries).2 = .error .nesting ↔
      ∃ before entry after, entries = before ++ entry :: after ∧
        (∀ earlier ∈ before, earlier.Complete) ∧ entry.Overnested := by
  induction entries with
  | nil => simp [meanings]
  | cons first rest induction =>
      rcases kind_cases first with ⟨kind, warning?, kind_eq, means, shallow⟩ |
        ⟨cause, kind_eq, refused, shallow⟩ | ⟨kind_eq, overnested⟩
      · rw [meanings_cons_of_ok kind_eq]
        constructor
        · intro failed
          obtain ⟨before, entry, after, rfl, complete, overnested⟩ :=
            induction.mp (Except.eq_error_of_map_eq_error failed)
          exact ⟨first :: before, entry, after, rfl, List.forall_mem_cons.mpr
            ⟨complete_iff.mpr ⟨kind, means⟩, complete⟩, overnested⟩
        · rintro ⟨_ | ⟨_, before⟩, entry, after, entries_eq, complete, overnested⟩ <;>
            cases entries_eq
          · exact absurd overnested shallow
          · rw [induction.mpr ⟨before, entry, after, rfl,
              (List.forall_mem_cons.mp complete).2, overnested⟩]
            rfl
      · rw [meanings_cons_of_error kind_eq]
        refine ⟨nofun, ?_⟩
        rintro ⟨_ | ⟨_, before⟩, entry, after, entries_eq, complete, overnested⟩ <;>
          cases entries_eq
        · exact absurd overnested shallow
        · exact absurd (complete first List.mem_cons_self) refused.not_complete
      · rw [meanings_cons_of_error kind_eq]
        exact iff_of_true rfl ⟨[], first, rest, rfl, nofun, overnested⟩

end Outcomes

end NodeEntry
end PayGraph

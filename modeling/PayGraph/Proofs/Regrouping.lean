import PayGraph.Proofs.Standalone
import PayGraph.Proofs.WholeArithmetic

/-!
# Regrouping whole operands

An operation may hand some of its operands to a new node of the same operator and read that node in
their place.  Where all numbers are whole, the formula still comes to the same amount: each of its
nodes has the value that it had, unless a number gets too many digits for its line on the way.
-/

namespace PayGraph

/-- The outcome is a value, unless a number on the way has no text. -/
def Yields {Value : Type} (outcome : Except Halt Value) (value : Value) : Prop :=
  outcome = .ok value ∨ ∃ overflow, outcome = .error (.unwritable overflow)

section Yields

variable {inputs : Inputs} {id : String}

/-- Operands that yield their values do so in order, or one of them is the first without a text. -/
theorem values_or_unwritable {Operand Value : Type} {find : Operand → Except Halt Value}
    {amount : Operand → Value} {listed : List Operand}
    (each : ∀ operand ∈ listed, Yields (find operand) (amount operand)) :
    (∀ operand ∈ listed, find operand = .ok (amount operand)) ∨
      ∃ overflow, listed.mapM find = .error (.unwritable overflow) := by
  induction listed with
  | nil => exact Or.inl nofun
  | cons first rest induction =>
      obtain ⟨first_yields, rest_yield⟩ := List.forall_mem_cons.mp each
      rcases first_yields with found | ⟨overflow, lost⟩
      · rcases induction rest_yield with rest_found | ⟨overflow, rest_lost⟩
        · exact Or.inl (List.forall_mem_cons.mpr ⟨found, rest_found⟩)
        · exact Or.inr ⟨overflow, by rw [List.mapM_cons, found, rest_lost]; rfl⟩
      · exact Or.inr ⟨overflow, by rw [List.mapM_cons, lost]; rfl⟩

theorem Reading.yields_resolve {Operand Value : Type} {find : Operand → Except Halt Value}
    {amount : Operand → Value} {reading : Reading Operand}
    (each : ∀ operand ∈ reading.operands, Yields (find operand) (amount operand)) :
    Yields (reading.resolve find) (reading.map amount) := by
  rcases values_or_unwritable each with found | ⟨overflow, lost⟩
  · exact Or.inl (resolve_eq_ok found)
  · exact Or.inr ⟨overflow, resolve_eq_error lost⟩

theorem Reading.yields_conclude_fold {operator : Operator} {operands : List Number} {value : Number}
    (applied : operator.apply id operands = .ok value) :
    Yields (((Reading.fold operator operands).conclude inputs id).map Prod.fst) value := by
  rw [conclude, applied]
  cases Reading.listed operands with
  | error overflow => exact Or.inr ⟨overflow, rfl⟩
  | ok texts =>
      dsimp only
      rw [written]
      cases value.display with
      | error overflow => exact Or.inr ⟨overflow, rfl⟩
      | ok text => exact Or.inl rfl

theorem Formula.yields_unshared {formula : Formula} {path : List String} {reading : Reading String}
    {amount : String → Number} {value : Number} (fresh : id ∉ path)
    (read : formula.readingOf id = .ok reading)
    (each : ∀ source ∈ reading.operands,
      Yields (formula.unshared inputs (id :: path) source) (amount source))
    (concludes : Yields (((reading.map amount).conclude inputs id).map Prod.fst) value) :
    Yields (formula.unshared inputs path id) value := by
  rw [unshared_of_readingOf_ok fresh read]
  rcases Reading.yields_resolve each with resolved | ⟨overflow, lost⟩
  · rw [resolved]
    exact concludes
  · rw [lost]
    exact Or.inr ⟨overflow, rfl⟩

end Yields

/-- A formula in which a node reads a new node of its own operator in place of some neighbouring
operands, and the new node reads those.  Nothing else changes. -/
structure Formula.Nesting (formula nested : Formula) where
  /-- Operator of both nodes. -/
  operator : Operator
  /-- Node that hands operands over. -/
  node : String
  /-- New node that takes them. -/
  group : String
  /-- Operands that stay before the new node. -/
  before : List String
  /-- Operands that the new node takes. -/
  members : List String
  /-- Operands that stay after the new node. -/
  after : List String
  nestable : operator.Nestable before.length
  nonempty : members ≠ []
  flat : formula.readingOf node = .ok (.fold operator (before ++ members ++ after))
  outer : nested.readingOf node = .ok (.fold operator (before ++ group :: after))
  inner : nested.readingOf group = .ok (.fold operator members)
  new : formula.node? group = none
  elsewhere : ∀ id, id ≠ node → id ≠ group → nested.readingOf id = formula.readingOf id
  result : nested.resultNode = formula.resultNode

variable {formula nested : Formula} {inputs : Inputs}

namespace Formula.Nesting

variable (nesting : formula.Nesting nested) {amount : String → Number} {groupValue : Number}

theorem ne_group {id : String} {reading : Reading String}
    (read : formula.readingOf id = .ok reading) : id ≠ nesting.group := by
  rintro rfl
  obtain ⟨node, found, -⟩ := readsAs_of_readingOf read
  have absent := nesting.new
  rw [node?_of_node found] at absent
  cases absent

theorem map_outer (group_apart : nesting.group ∉ nesting.before ++ nesting.after) :
    (nesting.before ++ nesting.group :: nesting.after).map
        (Function.update amount nesting.group groupValue) =
      nesting.before.map amount ++ groupValue :: nesting.after.map amount := by
  rw [List.mem_append, not_or] at group_apart
  rw [List.map_append, List.map_cons, Function.update_self,
    List.map_congr_left fun source member =>
      Function.update_of_ne (ne_of_mem_of_not_mem member group_apart.1) groupValue amount,
    List.map_congr_left fun source member =>
      Function.update_of_ne (ne_of_mem_of_not_mem member group_apart.2) groupValue amount]

/-- Whole operands give the new node a value with which the outer node comes to the same. -/
theorem exists_group_value {value : Number}
    (all_whole : ∀ source ∈ nesting.before ++ nesting.members ++ nesting.after,
      (amount source).IsWhole)
    (applied : nesting.operator.apply nesting.node
      ((nesting.before ++ nesting.members ++ nesting.after).map amount) = .ok value) :
    ∃ groupValue,
      nesting.operator.apply nesting.group (nesting.members.map amount) = .ok groupValue ∧
      nesting.operator.apply nesting.node
        (nesting.before.map amount ++ groupValue :: nesting.after.map amount) = .ok value := by
  have nestable : nesting.operator.Nestable (nesting.before.map amount).length := by
    rw [List.length_map]
    exact nesting.nestable
  have nonempty : nesting.members.map amount ≠ [] := by
    rw [ne_eq, List.map_eq_nil_iff]
    exact nesting.nonempty
  rw [← List.forall_mem_map, List.map_append, List.map_append] at all_whole
  obtain ⟨groupValue, group_applied, -, nested_applied⟩ :=
    nestable.exists_apply nesting.node nesting.group nonempty all_whole
  rw [← List.map_append, ← List.map_append, applied] at nested_applied
  exact ⟨groupValue, group_applied, nested_applied.symm⟩

theorem yields_operand {path : List String}
    (each : ∀ source ∈ nesting.before ++ nesting.after,
      Yields (nested.unshared inputs path source) (amount source))
    (group_yields : Yields (nested.unshared inputs path nesting.group) groupValue) :
    ∀ source ∈ nesting.before ++ nesting.group :: nesting.after,
      Yields (nested.unshared inputs path source)
        (Function.update amount nesting.group groupValue source) := by
  intro source member
  by_cases same : source = nesting.group
  · rw [same, Function.update_self]
    exact group_yields
  · rw [Function.update_of_ne same]
    refine each source ?_
    simpa [same] using member

/-- The outer node yields the value that the node had, if the operands yield theirs. -/
theorem yields_outer {path : List String} {value : Number} (fresh : nesting.node ∉ path)
    (group_fresh : nesting.group ∉ path)
    (group_apart : nesting.group ∉ nesting.before ++ nesting.members ++ nesting.after)
    (all_whole : ∀ source ∈ nesting.before ++ nesting.members ++ nesting.after,
      (amount source).IsWhole)
    (applied : nesting.operator.apply nesting.node
      ((nesting.before ++ nesting.members ++ nesting.after).map amount) = .ok value)
    (outer_yields : ∀ source ∈ nesting.before ++ nesting.members ++ nesting.after,
      Yields (nested.unshared inputs (nesting.node :: path) source) (amount source))
    (inner_yields : ∀ source ∈ nesting.before ++ nesting.members ++ nesting.after,
      Yields (nested.unshared inputs (nesting.group :: nesting.node :: path) source)
        (amount source)) :
    Yields (nested.unshared inputs path nesting.node) value := by
  obtain ⟨groupValue, group_applied, nested_applied⟩ :=
    nesting.exists_group_value all_whole applied
  have common {source : String} (member : source ∈ nesting.before ++ nesting.after) :
      source ∈ nesting.before ++ nesting.members ++ nesting.after := by
    rcases List.mem_append.mp member with member | member <;> simp [member]
  have group_yields :
      Yields (nested.unshared inputs (nesting.node :: path) nesting.group) groupValue := by
    refine yields_unshared ?_ nesting.inner (fun source member => inner_yields source ?_)
      (Reading.yields_conclude_fold group_applied)
    · exact List.not_mem_cons_of_ne_of_not_mem (nesting.ne_group nesting.flat).symm group_fresh
    · exact List.mem_append_left _ (List.mem_append_right _ member)
  have operands_yield := nesting.yields_operand
    (fun source member => outer_yields source (common member)) group_yields
  refine yields_unshared fresh nesting.outer operands_yield ?_
  rw [Reading.map, nesting.map_outer (mt common group_apart)]
  exact Reading.yields_conclude_fold nested_applied

theorem yields_elsewhere {path : List String} {id : String} {reading : Reading String}
    {value : Number} {step : Step} (away : id ≠ nesting.node)
    (read : formula.readingOf id = .ok reading) (fresh : id ∉ path)
    (each : ∀ source ∈ reading.operands,
      Yields (nested.unshared inputs (id :: path) source) (amount source))
    (concluded : (reading.map amount).conclude inputs id = .ok (value, step)) :
    Yields (nested.unshared inputs path id) value := by
  have nested_read := (nesting.elsewhere id away (nesting.ne_group read)).trans read
  refine yields_unshared fresh nested_read each (Or.inl ?_)
  rw [concluded]
  rfl

/-- A path on which no node is finished, nor the outer node once the path has entered the new
one. -/
structure Unfinished (memo : List (String × Number)) (path : List String) : Prop where
  apart : ∀ held ∈ path, memo.lookup held = none
  outside : nesting.group ∈ path → memo.lookup nesting.node = none

namespace Unfinished

variable {nesting} {memo : List (String × Number)} {path : List String} {id : String}

theorem enter (unfinished : nesting.Unfinished memo path) (absent : memo.lookup id = none)
    (outside : id = nesting.group → memo.lookup nesting.node = none) :
    nesting.Unfinished memo (id :: path) where
  apart := List.forall_mem_cons.mpr ⟨absent, unfinished.apart⟩
  outside member := (List.mem_cons.mp member).elim (fun same => outside same.symm)
    unfinished.outside

theorem of_cons {value : Number} (unfinished : nesting.Unfinished ((id, value) :: memo) path) :
    nesting.Unfinished memo path where
  apart held member := (Association.lookup_cons_eq_none_iff.mp (unfinished.apart held member)).2
  outside member := (Association.lookup_cons_eq_none_iff.mp (unfinished.outside member)).2

theorem fresh {value : Number} (unfinished : nesting.Unfinished ((id, value) :: memo) path) :
    id ∉ path := fun member =>
  (Association.lookup_cons_eq_none_iff.mp (unfinished.apart id member)).1 rfl

theorem group_fresh {value : Number}
    (unfinished : nesting.Unfinished ((nesting.node, value) :: memo) path) :
    nesting.group ∉ path := fun member =>
  (Association.lookup_cons_eq_none_iff.mp (unfinished.outside member)).1 rfl

end Unfinished

end Formula.Nesting

/-- A node passes on a whole number if its line holds one. -/
theorem Concludes.isWhole {id : String} {values : Reading Number} {value : Number} {step : Step}
    (concludes : Concludes inputs id values value step) (line_whole : step.value.IsWhole) :
    value.IsWhole := by
  cases concludes with
  | metric | literal | fold | passage => exact line_whole
  | comparison => exact Number.isWhole_integer _

namespace Ledger

variable {memo : List (String × Number)} {steps : List Step}

theorem isWhole (ledger : Ledger formula inputs memo steps)
    (lines_whole : ∀ step ∈ steps, step.value.IsWhole) {id : String} {value : Number}
    (found : memo.lookup id = some value) : value.IsWhole := by
  induction ledger with
  | nil => cases found
  | snoc _ _ _ _ concluded induction =>
      rw [List.forall_mem_append, List.forall_mem_singleton] at lines_whole
      rw [List.lookup_cons] at found
      split at found
      · cases found
        exact (Reading.concludes_of_conclude concluded).isWhole lines_whole.2
      · exact induction lines_whole.1 found

theorem lookup_of_absent (ledger : Ledger formula inputs memo steps) {id : String}
    (absent : formula.node? id = none) : memo.lookup id = none := by
  induction ledger with
  | nil => rfl
  | @snoc memo steps newest reading value step _ _ read _ _ induction =>
      obtain ⟨node, found, -⟩ := Formula.readsAs_of_readingOf read
      have differs : id ≠ newest := by
        rintro rfl
        rw [Formula.node?_of_node found] at absent
        cases absent
      rw [List.lookup_cons, beq_eq_false_iff_ne.mpr differs]
      exact induction

theorem known_whole (ledger : Ledger formula inputs memo steps)
    (lines_whole : ∀ step ∈ steps, step.value.IsWhole) {operands : List String}
    (known : ∀ source ∈ operands, ∃ value, memo.lookup source = some value) :
    ∀ source ∈ operands, (amountIn memo source).IsWhole := fun source member =>
  ledger.isWhole lines_whole (lookup_amountIn (known source member))

/-- Where all lines hold whole numbers, every finished node yields its value in the nested formula
too. -/
theorem yields_nested (ledger : Ledger formula inputs memo steps)
    (nesting : formula.Nesting nested) (lines_whole : ∀ step ∈ steps, step.value.IsWhole)
    {id : String} {value : Number} (found : memo.lookup id = some value) {path : List String}
    (unfinished : nesting.Unfinished memo path) :
    Yields (nested.unshared inputs path id) value := by
  induction ledger generalizing id value path with
  | nil => cases found
  | @snoc memo steps newest reading amount step ledger absent read known concluded induction =>
      rw [List.forall_mem_append] at lines_whole
      by_cases same : id = newest
      · subst same
        rw [List.lookup_cons_self] at found
        cases found
        have operands_yield {entered : List String} (still : nesting.Unfinished memo entered) :
            ∀ source ∈ reading.operands,
              Yields (nested.unshared inputs entered source) (amountIn memo source) :=
          fun source member => induction lines_whole.1 (lookup_amountIn (known source member)) still
        have entered : nesting.Unfinished memo (id :: path) :=
          unfinished.of_cons.enter absent fun same => absurd same (nesting.ne_group read)
        by_cases at_node : id = nesting.node
        · subst at_node
          cases read.symm.trans nesting.flat
          have group_absent := ledger.lookup_of_absent nesting.new
          have group_apart :
              nesting.group ∉ nesting.before ++ nesting.members ++ nesting.after := by
            intro member
            obtain ⟨value, found⟩ := known nesting.group member
            cases group_absent.symm.trans found
          have regrouped := entered.enter group_absent fun _ => absent
          cases Reading.concludes_of_conclude concluded with
          | fold applied =>
              exact nesting.yields_outer unfinished.fresh unfinished.group_fresh group_apart
                (ledger.known_whole lines_whole.1 known) applied (operands_yield entered)
                (operands_yield regrouped)
        · exact nesting.yields_elsewhere at_node read unfinished.fresh (operands_yield entered)
            concluded
      · have differs : (id == newest) = false := beq_eq_false_iff_ne.mpr same
        rw [List.lookup_cons, differs] at found
        exact induction lines_whole.1 found unfinished.of_cons

end Ledger

namespace Formula.Nesting

variable {evaluation other : Evaluation}

/-- Handing whole operands to a new node keeps the amount; only the frames may run out, and only a
number with too many digits for its line may keep the formula from an amount. -/
theorem value_eq (nesting : formula.Nesting nested)
    (returns : formula.evaluate inputs = .ok evaluation) (succeeded : evaluation.succeeded = true)
    (whole : ∀ step ∈ evaluation.steps, step.value.IsWhole)
    (nested_returns : nested.evaluate inputs = .ok other)
    (shallow : (nested.run inputs).1 ≠ .error (.failed .tooDeep)) :
    other.succeeded = true ∧ other.value = evaluation.value := by
  obtain ⟨result, progress, resolved, settles, steps_eq, found⟩ :=
    Evaluation.settles_of_succeeded returns succeeded
  rw [steps_eq] at whole
  have yields : Yields (nested.unshared inputs [] result) evaluation.value :=
    (settles.ledger .nil).yields_nested nesting whole found ⟨nofun, nofun⟩
  have amount_eq : nested.unsharedAmount inputs = nested.unshared inputs [] result := by
    rw [unsharedAmount, nesting.result, resolved]
  rw [← amount_eq] at yields
  obtain ⟨-, ⟨unshared_eq, no_error⟩ | ⟨failure, trace, unshared_eq, -⟩⟩ :=
    evaluate_agrees_with_unshared nested_returns shallow
  · rw [unshared_eq] at yields
    rcases yields with same | ⟨overflow, lost⟩
    · exact ⟨by rw [Evaluation.succeeded, no_error]; rfl, Except.ok.inj same⟩
    · cases lost
  · rw [unshared_eq] at yields
    rcases yields with same | ⟨overflow, lost⟩
    · cases same
    · cases lost

end Formula.Nesting

open Operator Number in
/-- Arithmetic on whole numbers is exact.  The order of the operands of a sum and of a product does
not matter, nor does that of what a difference takes from its first operand; and operands may be
taken together, by themselves and in a formula. -/
theorem whole_arithmetic_exact :
    (∀ (node : String) {operands : List Number}, operands ≠ [] →
      (∀ operand ∈ operands, operand.IsWhole) →
        sum.apply node operands = .ok (.integer (operands.map whole).sum) ∧
        multiplication.apply node operands = .ok (.integer (operands.map whole).prod)) ∧
    (∀ (node : String) {first : Number} {rest : List Number},
      (∀ operand ∈ first :: rest, operand.IsWhole) →
        ∃ value, subtraction.apply node (first :: rest) = .ok value ∧
          value.whole? = some (first.whole - (rest.map whole).sum)) ∧
    (∀ (node : String) {operands others : List Number},
      (∀ operand ∈ operands, operand.IsWhole) → operands.Perm others →
        sum.apply node others = sum.apply node operands ∧
        multiplication.apply node others = multiplication.apply node operands) ∧
    (∀ (node : String) {first : Number} {rest others : List Number},
      (∀ operand ∈ first :: rest, operand.IsWhole) → rest.Perm others →
        subtraction.apply node (first :: others) = subtraction.apply node (first :: rest)) ∧
    (∀ (node left right : String) {front back : List Number}, front ≠ [] → back ≠ [] →
      (∀ operand ∈ front ++ back, operand.IsWhole) →
        ∀ operator ∈ [sum, multiplication], ∃ leftValue rightValue,
          operator.apply left front = .ok leftValue ∧ operator.apply right back = .ok rightValue ∧
          operator.apply node (front ++ back) = operator.apply node [leftValue, rightValue]) ∧
    (∀ (node group : String) {first : Number} {front back : List Number},
      (∀ operand ∈ first :: front ++ back, operand.IsWhole) →
        ∃ value, subtraction.apply group (first :: front) = .ok value ∧
          subtraction.apply node (first :: front ++ back) =
            subtraction.apply node (value :: back)) ∧
    ∀ {formula nested : Formula} {inputs : Inputs} {evaluation other : Evaluation},
      formula.Nesting nested → formula.evaluate inputs = .ok evaluation →
      evaluation.succeeded = true → (∀ step ∈ evaluation.steps, step.value.IsWhole) →
      nested.evaluate inputs = .ok other →
      (nested.run inputs).1 ≠ .error (.failed .tooDeep) →
        other.succeeded = true ∧ other.value = evaluation.value := by
  refine ⟨?exact, ?difference, ?perm, ?difference_perm, ?append, ?difference_append, ?formula⟩
  case exact =>
    intro node operands nonempty all_whole
    exact ⟨apply_sum_of_whole node nonempty all_whole,
      apply_multiplication_of_whole node nonempty all_whole⟩
  case difference =>
    intro node first rest all_whole
    obtain ⟨first_whole, rest_whole⟩ := List.forall_mem_cons.mp all_whole
    by_cases alone : rest = []
    · subst alone
      refine ⟨first, apply_subtraction_single node first, ?_⟩
      rw [first_whole.whole?_eq, List.map_nil, List.sum_nil, sub_zero]
    · exact ⟨_, apply_subtraction_of_whole node alone first_whole rest_whole, rfl⟩
  case perm =>
    intro node operands others all_whole perm
    exact ⟨apply_perm node (.inl rfl) all_whole perm, apply_perm node (.inr rfl) all_whole perm⟩
  case difference_perm =>
    intro node first rest others all_whole perm
    obtain ⟨first_whole, rest_whole⟩ := List.forall_mem_cons.mp all_whole
    exact apply_subtraction_perm node first_whole rest_whole perm
  case append =>
    intro node left right front back front_ne back_ne all_whole operator listed
    have symmetric : operator = sum ∨ operator = multiplication := by simpa using listed
    exact exists_apply_append symmetric node left right front_ne back_ne all_whole
  case difference_append =>
    intro node group first front back all_whole
    obtain ⟨value, applied, -, nested⟩ :=
      exists_apply_subtraction node group (List.cons_ne_nil first front) all_whole
    exact ⟨value, applied, nested⟩
  case formula =>
    intro formula nested inputs evaluation other nesting returns succeeded all_whole nested_returns
      shallow
    exact nesting.value_eq returns succeeded all_whole nested_returns shallow

/-- Pay for the classes of a teacher with two extras. -/
def Formula.monthly : Formula where
  id := "monthly"
  name := "Nómina mensual"
  nodes := [⟨"classes", .variable "clases"⟩, ⟨"bonus", .constant (.integer 7)⟩,
    ⟨"punctual", .constant (.boolean true)⟩, ⟨"total", .operation .sum⟩]
  connections := [
    ⟨"c1", "classes", "total", outputSlot, inputSlot⟩,
    ⟨"c2", "bonus", "total", outputSlot, inputSlot⟩,
    ⟨"c3", "punctual", "total", outputSlot, inputSlot⟩]
  result? := some "total"
  distinct := by decide

/-- The same pay with the extras in a node of their own. -/
def Formula.monthlyExtras : Formula where
  id := "monthly"
  name := "Nómina mensual"
  nodes := Formula.monthly.nodes ++ [⟨"extras", .operation .sum⟩]
  connections := [
    ⟨"c1", "classes", "total", outputSlot, inputSlot⟩,
    ⟨"c2", "bonus", "extras", outputSlot, inputSlot⟩,
    ⟨"c3", "punctual", "extras", outputSlot, inputSlot⟩,
    ⟨"c4", "extras", "total", outputSlot, inputSlot⟩]
  result? := some "total"
  distinct := by decide

/-- The extras are handed to a node of their own. -/
def Formula.monthlyNesting : Formula.monthly.Nesting Formula.monthlyExtras where
  operator := .sum
  node := "total"
  group := "extras"
  before := ["classes"]
  members := ["bonus", "punctual"]
  after := []
  nestable := .sum _
  nonempty := by decide
  flat := rfl
  outer := rfl
  inner := rfl
  new := by decide
  elsewhere := by
    intro id not_total not_extras
    by_cases known : id ∈ ["classes", "bonus", "punctual"]
    · simp only [List.mem_cons, List.not_mem_nil, or_false] at known
      rcases known with rfl | rfl | rfl <;> rfl
    · have unknown : Formula.monthlyExtras.node? id = none ∧ Formula.monthly.node? id = none := by
        simp only [List.mem_cons, List.not_mem_nil, or_false, not_or] at known
        simp [Formula.node?, Formula.monthly, Formula.monthlyExtras, known, not_total, not_extras,
          eq_comm]
      rw [Formula.readingOf, Formula.readingOf, Formula.node, Formula.node, unknown.1, unknown.2]
  result := rfl

/-- A pay of any size, its extras apart: the same sum, difference and product, and the same amount
of the formula. -/
theorem whole_arithmetic_exact_monthly :
    (let classes : Number := .integer (10 ^ 30)
      let bonus : Number := .integer 7
      let punctual : Number := .boolean true
      Operator.sum.apply "total" [classes, bonus, punctual] = .ok (.integer (10 ^ 30 + 8)) ∧
      Operator.multiplication.apply "total" [classes, bonus, punctual] =
        .ok (.integer (7 * 10 ^ 30)) ∧
      (∃ value, Operator.subtraction.apply "total" [classes, bonus, punctual] = .ok value ∧
        value.whole? = some (10 ^ 30 - 8)) ∧
      Operator.sum.apply "total" [punctual, classes, bonus] =
        Operator.sum.apply "total" [classes, bonus, punctual] ∧
      Operator.subtraction.apply "total" [classes, punctual, bonus] =
        Operator.subtraction.apply "total" [classes, bonus, punctual] ∧
      (∃ first extras, Operator.sum.apply "first" [classes] = .ok first ∧
        Operator.sum.apply "extras" [bonus, punctual] = .ok extras ∧
        Operator.sum.apply "total" [classes, bonus, punctual] =
          Operator.sum.apply "total" [first, extras]) ∧
      ∃ value, Operator.subtraction.apply "first" [classes, bonus] = .ok value ∧
        Operator.subtraction.apply "total" [classes, bonus, punctual] =
          Operator.subtraction.apply "total" [value, punctual]) ∧
    ∃ evaluation other, Formula.monthly.evaluate [("clases", .integer 12)] = .ok evaluation ∧
      evaluation.value = .integer 20 ∧
      Formula.monthlyExtras.evaluate [("clases", .integer 12)] = .ok other ∧
      other.succeeded = true ∧ other.value = evaluation.value := by
  obtain ⟨exact, difference, perm, difference_perm, append, difference_append, formula⟩ :=
    whole_arithmetic_exact
  have all_whole : ∀ operand ∈ [Number.integer (10 ^ 30), .integer 7, .boolean true],
      operand.IsWhole := by
    simp [Number.IsWhole, Number.whole?]
  constructor
  · obtain ⟨sum_eq, product_eq⟩ := exact "total" (List.cons_ne_nil _ _) all_whole
    refine ⟨sum_eq, product_eq, difference "total" all_whole, ?_, ?_, ?_, ?_⟩
    · exact (perm "total" all_whole (by decide)).1
    · exact difference_perm "total" all_whole (.swap _ _ _)
    · have apart : ∀ operand ∈ [Number.integer (10 ^ 30)] ++ [.integer 7, .boolean true],
          operand.IsWhole := all_whole
      exact append "total" "first" "extras" (by simp) (by simp) apart .sum (by simp)
    · have apart : ∀ operand ∈ Number.integer (10 ^ 30) :: [.integer 7] ++ [.boolean true],
          operand.IsWhole := all_whole
      exact difference_append "total" "first" apart
  · have returns : Formula.monthly.evaluate [("clases", .integer 12)] = .ok ⟨.integer 20, [
        .ordinary "classes" "Variable clases: 12" (.integer 12),
        .ordinary "bonus" "Número constante: 7" (.integer 7),
        .ordinary "punctual" "Número constante: 1" (.boolean true),
        .ordinary "total" "Operación suma: [12, 7, 1] = 20" (.integer 20)], none⟩ := by
      decide +kernel
    have nested_returns : Formula.monthlyExtras.evaluate [("clases", .integer 12)] =
        .ok ⟨.integer 20, [
        .ordinary "classes" "Variable clases: 12" (.integer 12),
        .ordinary "bonus" "Número constante: 7" (.integer 7),
        .ordinary "punctual" "Número constante: 1" (.boolean true),
        .ordinary "extras" "Operación suma: [7, 1] = 8" (.integer 8),
        .ordinary "total" "Operación suma: [12, 8] = 20" (.integer 20)], none⟩ := by
      decide +kernel
    have shallow : (Formula.monthlyExtras.run [("clases", .integer 12)]).1 ≠
        .error (.failed .tooDeep) := by
      decide +kernel
    have lines_whole : ∀ step ∈ [
        Step.ordinary "classes" "Variable clases: 12" (.integer 12),
        .ordinary "bonus" "Número constante: 7" (.integer 7),
        .ordinary "punctual" "Número constante: 1" (.boolean true),
        .ordinary "total" "Operación suma: [12, 7, 1] = 20" (.integer 20)],
        step.value.IsWhole := by
      simp only [List.forall_mem_cons]
      exact ⟨⟨12, rfl⟩, ⟨7, rfl⟩, ⟨1, rfl⟩, ⟨20, rfl⟩, nofun⟩
    obtain ⟨succeeded, same⟩ :=
      formula Formula.monthlyNesting returns rfl lines_whole nested_returns shallow
    exact ⟨_, _, returns, rfl, nested_returns, succeeded, same⟩

end PayGraph

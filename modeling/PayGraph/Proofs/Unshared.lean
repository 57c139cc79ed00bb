import PayGraph.Proofs.Ledger

/-!
# Evaluation without a memo

The amount of a formula does not depend on the memo.  The unshared evaluation only carries the path
to the node at hand and evaluates a node anew each time it is read.  It comes to the same values and
stops at the same failures as the evaluation with a memo, as long as the frames suffice.
-/

namespace PayGraph
namespace Reading

/-- Replace operands by their values in order, up to the first that has none. -/
def resolve {Operand Value Cause : Type} (value : Operand → Except Cause Value) :
    Reading Operand → Except Cause (Reading Value)
  | .metric name => .ok (.metric name)
  | .literal number => .ok (.literal number)
  | .fold operator operands => (operands.mapM value).map (.fold operator)
  | .comparison condition left right =>
    match value left with
    | .error cause => .error cause
    | .ok leftValue => (value right).map (.comparison condition leftValue)
  | .passage operand => (value operand).map .passage

section Resolve

variable {Operand Value Cause : Type} {value : Operand → Except Cause Value}

/-- If every operand has its value, so has the reading. -/
theorem resolve_eq_ok {reading : Reading Operand} {amount : Operand → Value}
    (agree : ∀ operand ∈ reading.operands, value operand = .ok (amount operand)) :
    reading.resolve value = .ok (reading.map amount) := by
  cases reading with
  | metric name => rfl
  | literal number => rfl
  | fold operator listed =>
      have values : listed.mapM value = .ok (listed.map amount) := mapM_eq_pure agree
      rw [resolve, values]
      rfl
  | comparison condition left right =>
      rw [resolve, agree left (by simp [operands]), agree right (by simp [operands])]
      rfl
  | passage operand =>
      rw [resolve, agree operand (by simp [operands])]
      rfl

/-- A reading stops where reading its operands one after the other stops. -/
theorem resolve_eq_error {reading : Reading Operand} {cause : Cause}
    (stops : reading.operands.mapM value = .error cause) :
    reading.resolve value = .error cause := by
  cases reading with
  | metric name => cases stops
  | literal number => cases stops
  | fold operator listed =>
      have values : listed.mapM value = .error cause := stops
      rw [resolve, values]
      rfl
  | comparison condition left right =>
      simp only [operands, List.mapM_cons] at stops
      rw [resolve]
      cases left_value : value left with
      | error first =>
          rw [left_value] at stops
          cases stops
          rfl
      | ok first =>
          cases right_value : value right with
          | error second =>
              rw [left_value, right_value] at stops
              cases stops
              rfl
          | ok second =>
              rw [left_value, right_value] at stops
              cases stops
  | passage operand =>
      simp only [operands, List.mapM_cons] at stops
      rw [resolve]
      cases operand_value : value operand with
      | error first =>
          rw [operand_value] at stops
          cases stops
          rfl
      | ok first =>
          rw [operand_value] at stops
          cases stops

end Resolve

end Reading

namespace Formula

/-- Number of nodes that are not on a path. -/
def nodesOff (formula : Formula) (path : List String) : Nat :=
  ((formula.nodes.map Node.id).filter fun id => id ∉ path).length

theorem mem_ids_of_readingOf {formula : Formula} {id : String} {reading : Reading String}
    (read : formula.readingOf id = .ok reading) : id ∈ formula.nodes.map Node.id := by
  rw [readingOf] at read
  split at read
  · cases read
  · rename_i node found
    exact mem_ids_of_node found

/-- A path that enters another node leaves fewer nodes off it. -/
theorem nodesOff_cons_lt {formula : Formula} {path : List String} {id : String}
    (present : id ∈ formula.nodes.map Node.id) (fresh : id ∉ path) :
    formula.nodesOff (id :: path) < formula.nodesOff path := by
  have refined : ((formula.nodes.map Node.id).filter fun other => other ∉ id :: path) =
      ((formula.nodes.map Node.id).filter fun other => other ∉ path).filter (· ≠ id) := by
    rw [List.filter_filter]
    congr 1
    funext other
    simp [not_or]
  rw [nodesOff, nodesOff, refined]
  refine List.length_filter_lt_length_iff_exists.mpr ⟨id, ?_, by simp⟩
  exact List.mem_filter.mpr ⟨present, by simpa using fresh⟩

/-- Value of a node when every node is evaluated anew each time it is read. -/
def unshared (formula : Formula) (inputs : Inputs) (path : List String) (id : String) :
    Except Halt Number :=
  if id ∈ path then .error (.failed (.cycle id))
  else
    match _ : formula.readingOf id with
    | .error failure => .error (.failed failure)
    | .ok reading =>
      match reading.resolve fun source => unshared formula inputs (id :: path) source with
      | .error halt => .error halt
      | .ok values => (values.conclude inputs id).map Prod.fst
termination_by formula.nodesOff path
decreasing_by exact nodesOff_cons_lt (mem_ids_of_readingOf ‹_›) ‹_›

variable {formula : Formula} {inputs : Inputs} {path : List String} {id : String}

theorem unshared_of_mem (on_path : id ∈ path) :
    formula.unshared inputs path id = .error (.failed (.cycle id)) := by
  rw [unshared, if_pos on_path]

theorem unshared_of_readingOf_error {failure : Failure} (fresh : id ∉ path)
    (read : formula.readingOf id = .error failure) :
    formula.unshared inputs path id = .error (.failed failure) := by
  rw [unshared, if_neg fresh]
  split
  · rename_i other other_read
    rw [read] at other_read
    cases other_read
    rfl
  · rename_i reading other_read
    rw [read] at other_read
    cases other_read

theorem unshared_of_readingOf_ok {reading : Reading String} (fresh : id ∉ path)
    (read : formula.readingOf id = .ok reading) :
    formula.unshared inputs path id =
      match reading.resolve (formula.unshared inputs (id :: path)) with
      | .error halt => .error halt
      | .ok values => (values.conclude inputs id).map Prod.fst := by
  rw [unshared, if_neg fresh]
  split
  · rename_i failure other_read
    rw [read] at other_read
    cases other_read
  · rename_i other other_read
    rw [read] at other_read
    cases other_read
    rfl

/-- Amount of a formula without a memo. -/
def unsharedAmount (formula : Formula) (inputs : Inputs) : Except Halt Number :=
  match formula.resultNode with
  | .error failure => .error (.failed failure)
  | .ok id => formula.unshared inputs [] id

end Formula

variable {formula : Formula} {inputs : Inputs}

/-- A finished node has its value on every path that avoids the finished nodes. -/
theorem Ledger.unshared_eq {memo : List (String × Number)} {steps : List Step}
    (ledger : Ledger formula inputs memo steps) {id : String} {value : Number}
    (found : memo.lookup id = some value) {path : List String}
    (apart : ∀ held ∈ path, memo.lookup held = none) :
    formula.unshared inputs path id = .ok value := by
  induction ledger generalizing id value path with
  | nil => cases found
  | @snoc memo steps newest reading amount step _ unfinished read known concluded induction =>
      have off_path : ∀ held ∈ path, held ≠ newest ∧ memo.lookup held = none :=
        fun held member => Association.lookup_cons_eq_none_iff.mp (apart held member)
      by_cases same : id = newest
      · subst same
        rw [List.lookup_cons_self] at found
        cases found
        have fresh : id ∉ path := fun member => (off_path id member).1 rfl
        have operands_eq : ∀ source ∈ reading.operands,
            formula.unshared inputs (id :: path) source = .ok (amountIn memo source) := by
          intro source member
          obtain ⟨operand, operand_found⟩ := known source member
          rw [amountIn_of_lookup operand_found]
          apply induction operand_found
          intro held held_mem
          rcases List.mem_cons.mp held_mem with rfl | held_mem
          · exact unfinished
          · exact (off_path held held_mem).2
        rw [Formula.unshared_of_readingOf_ok fresh read, Reading.resolve_eq_ok operands_eq]
        simp only [concluded]
        rfl
      · have differs : (id == newest) = false := beq_eq_false_iff_ne.mpr same
        rw [List.lookup_cons, differs] at found
        exact induction found fun held member => (off_path held member).2

theorem Ledger.mapM_unshared {memo : List (String × Number)} {steps : List Step}
    (ledger : Ledger formula inputs memo steps) {ids path : List String}
    (known : ∀ id ∈ ids, ∃ amount, memo.lookup id = some amount)
    (apart : ∀ held ∈ path, memo.lookup held = none) :
    ids.mapM (formula.unshared inputs path) = .ok (ids.map (amountIn memo)) := by
  apply mapM_eq_pure
  intro id member
  exact ledger.unshared_eq (lookup_amountIn (known id member)) apart

/-- A settled execution gives each node the value it has without a memo. -/
theorem Settles.unshared_eq {progress after : Progress} {ids : List String}
    (settles : Settles formula inputs progress ids after)
    (ledger : Ledger formula inputs progress.memo progress.trace.steps)
    (apart : progress.Apart) :
    ∀ id ∈ ids, formula.unshared inputs progress.active id = .ok (amountIn after.memo id) := by
  intro id member
  obtain ⟨value, found⟩ := settles.finished_all id member
  rw [amountIn_of_lookup found]
  have after_apart := settles.apart apart
  rw [← settles.active_eq]
  exact (settles.ledger ledger).unshared_eq found after_apart

/-- A halted execution stops where the evaluation without a memo stops. -/
theorem Halts.unshared_eq {progress after : Progress} {ids : List String} {halt : Halt}
    (halts : Halts formula inputs progress ids halt after)
    (ledger : Ledger formula inputs progress.memo progress.trace.steps)
    (apart : progress.Apart)
    (shallow : halt ≠ .failed .tooDeep) :
    ids.mapM (formula.unshared inputs progress.active) = .error halt := by
  induction halts with
  | exhausted => exact absurd rfl shallow
  | @returned progress id rest unfinished active =>
      rw [List.mapM_cons, Formula.unshared_of_mem active]
      rfl
  | @unreadable progress id rest failure fresh read =>
      rw [List.mapM_cons, Formula.unshared_of_readingOf_error fresh.inactive read]
      rfl
  | @nested progress after id rest reading halt fresh read _ induction =>
      have operands_stop := induction ledger (apart.enter fresh) shallow
      rw [Progress.enter_active] at operands_stop
      rw [List.mapM_cons, Formula.unshared_of_readingOf_ok fresh.inactive read,
        Reading.resolve_eq_error operands_stop]
      rfl
  | @inconclusive progress within id rest reading halt fresh read operands concluded =>
      have operands_eq := operands.unshared_eq ledger (apart.enter fresh)
      rw [List.mapM_cons, Formula.unshared_of_readingOf_ok fresh.inactive read,
        ← Progress.enter_active, Reading.resolve_eq_ok operands_eq]
      simp only [concluded]
      rfl
  | @later progress within after id rest halt first _ induction =>
      have first_eq := first.unshared_eq ledger apart id List.mem_cons_self
      have rest_stop := induction (first.ledger ledger) (first.apart apart) shallow
      rw [first.active_eq] at rest_stop
      rw [List.mapM_cons, first_eq, rest_stop]
      rfl

namespace Formula

/-- A run whose frames suffice ends like the evaluation without a memo. -/
theorem run_eq_unsharedAmount (shallow : (formula.run inputs).1 ≠ .error (.failed .tooDeep)) :
    (formula.run inputs).1 = formula.unsharedAmount inputs := by
  rw [unsharedAmount]
  cases result : formula.run inputs with
  | mk outcome progress =>
      rw [result] at shallow
      cases outcome with
      | ok value =>
          obtain ⟨id, resolved, settles, found⟩ := settles_of_run result
          rw [resolved]
          have unshared_eq := settles.unshared_eq .nil (by nofun) id List.mem_cons_self
          rw [amountIn_of_lookup found] at unshared_eq
          exact unshared_eq.symm
      | error halt =>
          rcases halts_of_run result with ⟨failure, unresolved, rfl, _⟩ | ⟨id, resolved, halts⟩
          · rw [unresolved]
          · have stops := halts.unshared_eq .nil (by nofun) fun deep => shallow (congrArg _ deep)
            rw [resolved]
            cases unshared_value : formula.unshared inputs [] id with
            | ok value =>
                rw [List.mapM_cons, unshared_value] at stops
                cases stops
            | error other =>
                rw [List.mapM_cons, unshared_value] at stops
                cases stops
                exact unshared_value.symm

/-- Whether values are remembered cannot be seen: the amount, or the failure with its node and its
text, is that of the evaluation without a memo. -/
theorem evaluate_agrees_with_unshared {evaluation : Evaluation}
    (returns : formula.evaluate inputs = .ok evaluation)
    (shallow : (formula.run inputs).1 ≠ .error (.failed .tooDeep)) :
    (formula.run inputs).1 = formula.unsharedAmount inputs ∧
      (formula.unsharedAmount inputs = .ok evaluation.value ∧ evaluation.error? = none ∨
        ∃ failure trace, formula.unsharedAmount inputs = .error (.failed failure) ∧
          evaluation = .ofFailure trace failure) := by
  have agree := run_eq_unsharedAmount shallow
  refine ⟨agree, ?_⟩
  rcases run_of_evaluate returns with
    ⟨value, progress, result, rfl⟩ | ⟨failure, progress, result, rfl⟩
  · refine Or.inl ⟨?_, rfl⟩
    rw [← agree, result]
  · refine Or.inr ⟨failure, progress.trace, ?_, rfl⟩
    rw [← agree, result]

/-- A formula that reads a node twice before it comes back to the node at hand. -/
def entangled : Formula where
  id := "entangled"
  name := "Entangled"
  nodes := [⟨"classes", .variable "clases"⟩, ⟨"double", .operation .sum⟩,
    ⟨"total", .operation .sum⟩]
  connections := [⟨"c1", "classes", "double", outputSlot, inputSlot⟩,
    ⟨"c2", "classes", "double", outputSlot, inputSlot⟩,
    ⟨"c3", "double", "total", outputSlot, inputSlot⟩,
    ⟨"c4", "total", "total", outputSlot, inputSlot⟩]
  result? := some "total"
  distinct := by decide

/-- Without a memo the cycle is found at the same node. -/
theorem entangled_agrees :
    entangled.unsharedAmount [] = .error (.failed (.cycle "total")) := by
  have returns : entangled.evaluate [] = .ok (.ofFailure ⟨[
      .ordinary "classes" "Variable clases: 0" (.integer 0),
      .ordinary "double" "Operación suma: [0, 0] = 0" (.integer 0)]⟩ (.cycle "total")) := by
    decide +kernel
  have shallow : (entangled.run []).1 ≠ .error (.failed .tooDeep) := by
    decide +kernel
  rw [← (evaluate_agrees_with_unshared returns shallow).1]
  decide +kernel

end Formula
end PayGraph

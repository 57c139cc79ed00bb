import PayGraph.Proofs.Blame
import PayGraph.Proofs.Loaded
import PayGraph.Proofs.Unshared
import PayGraph.Proofs.Written

/-!
# Numbers that outgrow the trace

An evaluation leaves no outcome only if it meets a whole number with too many digits for the trace.
On loaded formulas and metrics such a number comes from an operation on whole operands, each of
which can still be written.  The ones to grow from are the outcomes of comparisons: without them,
all whole numbers are zero.
-/

namespace PayGraph

variable {formula : Formula} {inputs : Inputs}

theorem Halts.exists_unwritten {progress after : Progress} {ids : List String}
    {overflow : DigitOverflow}
    (halts : Halts formula inputs progress ids (.unwritable overflow) after)
    (ledger : Ledger formula inputs progress.memo progress.trace.steps) :
    ∃ start ∈ ids, ∃ id memo steps reading, formula.Reaches start id ∧
      Ledger formula inputs memo steps ∧ formula.readingOf id = .ok reading ∧
      (∀ source ∈ reading.operands, ∃ amount, memo.lookup source = some amount) ∧
      (reading.map (amountIn memo)).conclude inputs id = .error (.unwritable overflow) := by
  cases halts.stuck ledger with
  | inconclusive reached ledger _ read known concluded =>
      obtain ⟨start, start_mem, reach⟩ := reached
      exact ⟨start, start_mem, _, _, _, _, reach, ledger, read, known, concluded⟩

namespace Formula

/-- The operation at a node computes a whole number with too many digits to be written from whole
operands, the values of its sources, which are written. -/
def Outgrows (formula : Formula) (inputs : Inputs) (id : String) : Prop :=
  ∃ operator operands value, formula.node id = .ok ⟨id, .operation operator⟩ ∧
    (formula.sources id).mapM (formula.unshared inputs []) = .ok operands ∧
    (∀ operand ∈ operands, ∃ whole, operand.whole? = some whole ∧
      whole.natAbs < Nat.pow 10 digitLimit) ∧
    operator.apply id operands = .ok (.integer value) ∧ Nat.pow 10 digitLimit ≤ value.natAbs

/-- A node leads to a comparison. -/
def Compares (formula : Formula) (id : String) : Prop :=
  ∃ comparator condition, formula.Reaches id comparator ∧
    formula.node comparator = .ok ⟨comparator, .comparator condition⟩

theorem Compares.of_follows {id source : String} (followed : formula.Follows id source)
    (compares : formula.Compares source) : formula.Compares id := by
  obtain ⟨comparator, condition, reach, found⟩ := compares
  exact ⟨comparator, condition, .head followed reach, found⟩

theorem halts_of_escape {overflow : DigitOverflow}
    (escapes : formula.evaluate inputs = .error overflow) :
    ∃ result progress, formula.resultNode = .ok result ∧
      Halts formula inputs {} [result] (.unwritable overflow) progress := by
  rw [evaluate] at escapes
  split at escapes
  · cases escapes
  · cases escapes
  · rename_i found progress result
    cases escapes
    rcases halts_of_run result with ⟨failure, _, same, _⟩ | ⟨id, resolved, halts⟩
    · cases same
    · exact ⟨id, progress, resolved, halts⟩

end Formula

theorem Inputs.IsReal.valueOf_tame (reals : inputs.IsReal) (name : String) :
    (inputs.valueOf name).Tame := by
  rw [valueOf]
  cases found : inputs.lookup name with
  | none => exact .zero
  | some value =>
      obtain ⟨real, rfl⟩ := reals _ (Association.mem_of_lookup found)
      exact .real real

/-- A node that is no comparator concludes a tame value from tame operands. -/
theorem Concludes.tame {id : String} {reading : Reading String} {amount : String → Number}
    {value : Number} {step : Step} (concludes : Concludes inputs id (reading.map amount) value step)
    (constants : formula.RealConstants) (reals : inputs.IsReal)
    (read : formula.readingOf id = .ok reading)
    (tame : ∀ operand ∈ reading.operands, (amount operand).Tame)
    (plain : ∀ condition, formula.node id ≠ .ok ⟨id, .comparator condition⟩) : value.Tame := by
  obtain ⟨⟨other, kind⟩, found, reads⟩ := Formula.readsAs_of_readingOf read
  obtain rfl : other = id := Formula.node_id found
  cases reads with
  | metric name =>
      cases concludes
      exact reals.valueOf_tame name
  | literal =>
      cases concludes
      obtain ⟨real, rfl⟩ := constants _ (Formula.mem_nodes_of_node found) value rfl
      exact .real real
  | fold =>
      cases concludes with
      | fold applied _ _ =>
          exact (Operator.applies_of_apply applied).tame (List.forall_mem_map.mpr tame)
  | comparison condition => exact absurd found (plain condition)
  | passage =>
      cases concludes
      exact tame _ List.mem_cons_self

/-- Without comparisons every finished value is in double precision or zero. -/
theorem Ledger.tame {memo : List (String × Number)} {steps : List Step}
    (ledger : Ledger formula inputs memo steps) (constants : formula.RealConstants)
    (reals : inputs.IsReal) {id : String} {value : Number} (found : memo.lookup id = some value)
    (plain : ¬formula.Compares id) : value.Tame := by
  induction ledger generalizing id value with
  | nil => cases found
  | @snoc memo steps newest reading newest_value step _ _ read known concluded induction =>
      rw [List.lookup_cons] at found
      split at found
      · rename_i same
        obtain rfl : id = newest := beq_iff_eq.mp same
        cases found
        have operands_tame : ∀ operand ∈ reading.operands, (amountIn memo operand).Tame := by
          intro operand operand_mem
          have followed := (Formula.follows_iff read operand).mpr operand_mem
          exact induction (lookup_amountIn (known operand operand_mem)) fun compares =>
            plain (compares.of_follows followed)
        exact (Reading.concludes_of_conclude concluded).tame constants reals read operands_tame
          fun condition comparator => plain ⟨id, condition, .refl, comparator⟩
      · exact induction found plain

section Stuck

variable {memo : List (String × Number)} {steps : List Step} {id : String}

/-- On loaded numbers, a node that concludes a number without a text is an operation that computes
it. -/
theorem Ledger.exists_operation_of_unwritable {reading : Reading String} {overflow : DigitOverflow}
    (ledger : Ledger formula inputs memo steps) (constants : formula.RealConstants)
    (reals : inputs.IsReal) (read : formula.readingOf id = .ok reading)
    (known : ∀ source ∈ reading.operands, ∃ amount, memo.lookup source = some amount)
    (concluded : (reading.map (amountIn memo)).conclude inputs id = .error (.unwritable overflow)) :
    overflow = .writing ∧ ∃ operator value,
      formula.node id = .ok ⟨id, .operation operator⟩ ∧
        operator.apply id ((formula.sources id).map (amountIn memo)) = .ok (.integer value) ∧
        Nat.pow 10 digitLimit ≤ value.natAbs := by
  have values_written : ∀ value ∈ (reading.map (amountIn memo)).operands, value.IsWritten := by
    rw [Reading.operands_map, List.forall_mem_map]
    exact fun source member => ledger.isWritten (lookup_amountIn (known source member))
  obtain ⟨value, unwritten, origin⟩ :=
    Reading.exists_source_of_conclude_unwritable concluded values_written
  obtain ⟨rfl, whole, rfl, long⟩ := Number.exists_long_of_display_error unwritten
  refine ⟨rfl, ?_⟩
  rcases origin with ⟨name, _, metric_eq⟩ | literal | ⟨operator, operands, fold, applied⟩
  · obtain ⟨text, shown⟩ := (reals.valueOf_tame name).isWritten
    rw [← metric_eq, unwritten] at shown
    cases shown
  · obtain ⟨⟨other, kind⟩, found, reads⟩ := Formula.readsAs_of_readingOf read
    cases reads with
    | metric | fold | comparison | passage => cases literal
    | literal =>
        cases literal
        obtain ⟨real, same⟩ := constants _ (Formula.mem_nodes_of_node found) _ rfl
        cases same
  · obtain ⟨operation, rfl⟩ := Formula.operation_of_fold read fold
    exact ⟨operator, whole, operation, applied, long⟩

variable {operator : Operator} {value : Int}

theorem Ledger.outgrows (ledger : Ledger formula inputs memo steps)
    (found : formula.node id = .ok ⟨id, .operation operator⟩)
    (known : ∀ source ∈ formula.sources id, ∃ amount, memo.lookup source = some amount)
    (applied : operator.apply id ((formula.sources id).map (amountIn memo)) = .ok (.integer value))
    (long : Nat.pow 10 digitLimit ≤ value.natAbs) : formula.Outgrows inputs id := by
  refine ⟨operator, _, value, found, ledger.mapM_unshared known (by nofun), ?_, applied, long⟩
  intro operand member
  have all_whole := (Operator.applies_of_apply applied).isWhole ⟨value, rfl⟩
  obtain ⟨whole, held⟩ := all_whole operand member
  obtain ⟨source, source_mem, rfl⟩ := List.mem_map.mp member
  have written := ledger.isWritten (lookup_amountIn (known source source_mem))
  exact ⟨whole, held, written.natAbs_lt held⟩

/-- Such an operation leads to a comparison. -/
theorem Ledger.compares (ledger : Ledger formula inputs memo steps)
    (constants : formula.RealConstants) (reals : inputs.IsReal)
    (known : ∀ source ∈ formula.sources id, ∃ amount, memo.lookup source = some amount)
    (applied : operator.apply id ((formula.sources id).map (amountIn memo)) = .ok (.integer value))
    (long : Nat.pow 10 digitLimit ≤ value.natAbs) : formula.Compares id := by
  by_contra plain
  have operands_tame : ∀ operand ∈ (formula.sources id).map (amountIn memo), operand.Tame := by
    rw [List.forall_mem_map]
    intro source member
    exact ledger.tame constants reals (lookup_amountIn (known source member)) fun compares =>
      plain (compares.of_follows member)
  have written := ((Operator.applies_of_apply applied).tame operands_tame).isWritten
  exact absurd (Number.isWritten_integer_iff.mp written) (Nat.not_lt.mpr long)

end Stuck

namespace Formula

/-- Every evaluation of a loaded formula on loaded metrics has an outcome, unless the result node
reaches an operation that outgrows the trace.  Such an operation leads to a comparison. -/
theorem loaded_returns_or_outgrows [Host] {data : Data} {warnings : List Warning}
    (loaded : ofData data = (warnings, .ok formula)) (reals : inputs.IsReal) :
    (∃ evaluation, formula.evaluate inputs = .ok evaluation) ∨
      formula.evaluate inputs = .error .writing ∧
        ∃ result id, formula.resultNode = .ok result ∧ formula.Reaches result id ∧
          formula.Outgrows inputs id ∧ formula.Compares id := by
  have constants := realConstants_of_ofData loaded
  cases evaluated : formula.evaluate inputs with
  | ok evaluation => exact Or.inl ⟨evaluation, rfl⟩
  | error overflow =>
      obtain ⟨result, progress, resolved, halts⟩ := halts_of_escape evaluated
      obtain ⟨start, start_mem, id, memo, steps, reading, reach, ledger, read, known, concluded⟩ :=
        halts.exists_unwritten .nil
      rw [List.mem_singleton.mp start_mem] at reach
      obtain ⟨rfl, operator, value, found, applied, long⟩ :=
        ledger.exists_operation_of_unwritable constants reals read known concluded
      rw [operands_eq_sources read] at known
      exact Or.inr ⟨rfl, result, id, resolved, reach, ledger.outgrows found known applied long,
        ledger.compares constants reals known applied long⟩

/-- Data of a node of a document. -/
def nodeData (id type : String) (data : Entries) : Data :=
  .table [("id", .text id), ("tipo", .text type), ("datos", .table data)]

/-- Data of a connection of a document. -/
def connectionData (source target slot : String) : Data :=
  .table [("id", .text (source ++ "-" ++ target)), ("origen", .text source),
    ("destino", .text target), ("puntoEntrada", .text slot)]

/-- A document that compares a metric with itself, adds up ten copies of the outcome and raises the
sum to the power 8000 in three steps. -/
def powersData : Data :=
  .table [("id", .text "powers"),
    ("nodos", .list [
      nodeData "classes" "variable" [("variable", .text "clases")],
      nodeData "same" "comparador" [("condicion", .text "igual")],
      nodeData "ten" "operacion" [("operacion", .text "suma")],
      nodeData "score" "operacion" [("operacion", .text "multiplicacion")],
      nodeData "bonus" "operacion" [("operacion", .text "multiplicacion")],
      nodeData "fortune" "operacion" [("operacion", .text "multiplicacion")],
      nodeData "amount" "resultado" []]),
    ("conexiones", .list (
      [connectionData "classes" "same" leftSlot, connectionData "classes" "same" rightSlot] ++
      List.replicate 10 (connectionData "same" "ten" inputSlot) ++
      List.replicate 20 (connectionData "ten" "score" inputSlot) ++
      List.replicate 20 (connectionData "score" "bonus" inputSlot) ++
      List.replicate 20 (connectionData "bonus" "fortune" inputSlot) ++
      [connectionData "fortune" "amount" inputSlot]))]

/-- The formula of that document. -/
def powers : Formula where
  id := "powers"
  name := ""
  nodes := [⟨"classes", .variable "clases"⟩, ⟨"same", .comparator .equal⟩, ⟨"ten", .operation .sum⟩,
    ⟨"score", .operation .multiplication⟩, ⟨"bonus", .operation .multiplication⟩,
    ⟨"fortune", .operation .multiplication⟩, ⟨"amount", .result⟩]
  connections := [⟨"classes-same", "classes", "same", "", leftSlot⟩,
      ⟨"classes-same", "classes", "same", "", rightSlot⟩] ++
    List.replicate 10 ⟨"same-ten", "same", "ten", "", inputSlot⟩ ++
    List.replicate 20 ⟨"ten-score", "ten", "score", "", inputSlot⟩ ++
    List.replicate 20 ⟨"score-bonus", "score", "bonus", "", inputSlot⟩ ++
    List.replicate 20 ⟨"bonus-fortune", "bonus", "fortune", "", inputSlot⟩ ++
    [⟨"fortune-amount", "fortune", "amount", "", inputSlot⟩]
  result? := none
  distinct := by decide

/-- A table that counts three classes, as loading reads it. -/
def threeClasses : Inputs :=
  [("clases", .real (.finite false ⟨4613937818241073152, by decide⟩))]

attribute [local instance] Host.usual

theorem powers_loaded : ofData powersData = ([], .ok powers) :=
  rfl

theorem threeClasses_loaded :
    Inputs.ofData (.table [("clases", .whole 3)]) = .ok threeClasses := by
  decide +kernel

theorem powers_escapes : powers.evaluate threeClasses = .error .writing := by
  decide +kernel

/-- A document and a table of inputs that both load, with an evaluation that has no outcome. -/
theorem loaded_without_outcome :
    ofData powersData = ([], .ok powers) ∧
      Inputs.ofData (.table [("clases", .whole 3)]) = .ok threeClasses ∧
      ¬∃ evaluation, powers.evaluate threeClasses = .ok evaluation := by
  refine ⟨powers_loaded, threeClasses_loaded, ?_⟩
  rintro ⟨evaluation, returns⟩
  rw [powers_escapes] at returns
  cases returns

/-- The result node of that formula reaches an operation that outgrows the trace. -/
theorem powers_outgrown :
    threeClasses.IsReal ∧ ∃ id, powers.Reaches "amount" id ∧
      powers.Outgrows threeClasses id ∧ powers.Compares id := by
  have reals := Inputs.isReal_of_ofData threeClasses_loaded
  refine ⟨reals, ?_⟩
  rcases loaded_returns_or_outgrows powers_loaded reals with
    ⟨evaluation, returns⟩ | ⟨_, result, id, resolved, reach, outgrows, compares⟩
  · rw [powers_escapes] at returns
    cases returns
  · have amount : powers.resultNode = .ok "amount" := by
      decide +kernel
    rw [amount] at resolved
    cases resolved
    exact ⟨id, reach, outgrows, compares⟩

end Formula
end PayGraph

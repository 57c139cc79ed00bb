import PayGraph.Proofs.Ledger

/-!
# Traces that certify themselves

A line of a trace can be recomputed from the formula, the inputs and the lines before it.  The trace
of every evaluation, failed or not, stands this test line by line, and replaying the nodes of its
lines in their order gives the same lines again.
-/

namespace PayGraph
namespace Formula

/-- The line of a node, recomputed from the lines before it. -/
def line? (formula : Formula) (inputs : Inputs) (earlier : List Step) (id : String) :
    Option Step := do
  let node ← formula.node? id
  match node.kind with
  | .variable name =>
    let value := inputs.valueOf name
    let text ← value.display.toOption
    return .ordinary id s!"Variable {name}: {text}" value
  | .constant value =>
    let text ← value.display.toOption
    return .ordinary id s!"Número constante: {text}" value
  | .operation operator =>
    let operands ← ((formula.incoming id).map Connection.source).mapM (formula.recorded? earlier)
    let value ← (operator.apply id operands).toOption
    let listed ← (Reading.listed operands).toOption
    let text ← value.display.toOption
    return .ordinary id s!"Operación {operator.word}: [{listed}] = {text}" value
  | .comparator condition =>
    let left ← formula.sourceAt? id leftSlot >>= formula.recorded? earlier
    let right ← formula.sourceAt? id rightSlot >>= formula.recorded? earlier
    let outcome ← (condition.compare id left right).toOption
    let symbol ← (condition.symbol id).toOption
    let leftText ← left.display.toOption
    let rightText ← right.display.toOption
    let encoded : Int := if outcome then 1 else 0
    return .ordinary id s!"Comparación: {leftText} {symbol} {rightText} = {encoded}"
      (.boolean outcome)
  | .result =>
    let value ← formula.sourceAt? id inputSlot >>= formula.recorded? earlier
    let text ← value.display.toOption
    return .ordinary id s!"Resultado final: {text}" value
  | .unsupported _ => none

/-- The lines of some nodes, each recomputed from the lines of the nodes before it. -/
def replay? (formula : Formula) (inputs : Inputs) (ids : List String) : Option (List Step) :=
  ids.foldlM (fun earlier id => (formula.line? inputs earlier id).map (earlier ++ [·])) []

end Formula

variable {formula : Formula} {inputs : Inputs}

theorem Ledger.recorded?_eq_amountIn {known : List (String × Number)} {earlier : List Step}
    (ledger : Ledger formula inputs known earlier) {source : String} {amount : Number}
    (found : known.lookup source = some amount) :
    formula.recorded? earlier source = some (amountIn known source) := by
  rw [ledger.recorded?_eq, amountIn_of_lookup found, found]

/-- A line that was concluded from a ledger is recomputed from the lines of the ledger. -/
theorem Ledger.line?_eq {known : List (String × Number)} {earlier : List Step} {id : String}
    {reading : Reading String} {value : Number} {step : Step}
    (ledger : Ledger formula inputs known earlier)
    (read : formula.readingOf id = .ok reading)
    (sources_known : ∀ source ∈ reading.operands, ∃ amount, known.lookup source = some amount)
    (concludes : Concludes inputs id (reading.map (amountIn known)) value step) :
    formula.line? inputs earlier id = some step := by
  have recorded : ∀ source ∈ reading.operands,
      formula.recorded? earlier source = some (amountIn known source) := by
    intro source member
    obtain ⟨amount, found⟩ := sources_known source member
    exact ledger.recorded?_eq_amountIn found
  obtain ⟨⟨_, kind⟩, found, reads⟩ := Formula.readsAs_of_readingOf read
  rw [Formula.line?, Formula.node?_of_node found]
  cases reads with
  | metric name =>
      cases concludes with
      | metric shown =>
          simp only [Option.bind_eq_bind, Option.bind_some, shown, Except.toOption]
          rfl
  | literal number =>
      cases concludes with
      | literal shown =>
          simp only [Option.bind_eq_bind, Option.bind_some, shown, Except.toOption]
          rfl
  | fold operator =>
      have operands := mapM_eq_pure recorded
      rw [Reading.operands, Option.pure_def] at operands
      cases concludes with
      | fold applied listed shown =>
          simp only [Option.bind_eq_bind, Option.bind_some, operands, applied, listed, shown,
            Except.toOption]
          rfl
  | @comparison condition left right left_connected right_connected =>
      have left_recorded := recorded left (by simp [Reading.operands])
      have right_recorded := recorded right (by simp [Reading.operands])
      cases concludes with
      | comparison compared symbol_eq left_shown right_shown encoded_eq =>
          simp only [Option.bind_eq_bind, Option.bind_some, left_connected, right_connected,
            left_recorded, right_recorded, compared, symbol_eq, left_shown, right_shown,
            Except.toOption, encoded_eq]
          rfl
  | passage connected =>
      have source_recorded := recorded _ List.mem_cons_self
      cases concludes with
      | passage shown =>
          simp only [Option.bind_eq_bind, Option.bind_some, connected, source_recorded, shown,
            Except.toOption]
          rfl

/-- Replaying the nodes of a ledger gives its lines again. -/
theorem Ledger.replay?_eq {memo : List (String × Number)} {steps : List Step}
    (ledger : Ledger formula inputs memo steps) :
    formula.replay? inputs (steps.map Step.node) = some steps := by
  induction ledger with
  | nil => rfl
  | @snoc memo steps id reading value step before _ read known concluded induction =>
      have concludes := Reading.concludes_of_conclude concluded
      have line := before.line?_eq read known concludes
      rw [Formula.replay?] at induction ⊢
      rw [List.map_append, List.foldlM_append, induction]
      simp [concludes.node_eq, line]

/-- The trace of an evaluation certifies itself: every line of a node is the one recomputed from the
lines before it, and replaying the nodes of these lines gives the lines. -/
theorem Evaluation.lines_recomputed {evaluation : Evaluation}
    (returns : formula.evaluate inputs = .ok evaluation) :
    (∀ earlier step later, evaluation.steps = earlier ++ step :: later → step.isError = false →
        formula.line? inputs earlier step.node = some step) ∧
      formula.replay? inputs (evaluation.lines.map Step.node) = some evaluation.lines := by
  constructor
  · intro earlier step later listed ordinary
    obtain ⟨known, reading, value, ledger, read, sources_known, concludes⟩ :=
      Evaluation.split returns listed ordinary
    exact ledger.line?_eq read sources_known concludes
  · obtain ⟨memo, steps, ledger, lines_eq, _⟩ := Evaluation.exists_ledger returns
    rw [lines_eq]
    exact ledger.replay?_eq

/-- A share of a class that is not full, divided among nobody. -/
def Formula.share : Formula where
  id := "share"
  name := "Share"
  nodes := [⟨"reserved", .variable "reservaciones"⟩, ⟨"goal", .constant (.integer 20)⟩,
    ⟨"open", .comparator .lessThan⟩, ⟨"teachers", .variable "profesores"⟩,
    ⟨"each", .operation .division⟩]
  connections := [⟨"c1", "reserved", "open", outputSlot, leftSlot⟩,
    ⟨"c2", "goal", "open", outputSlot, rightSlot⟩,
    ⟨"c3", "open", "each", outputSlot, inputSlot⟩,
    ⟨"c4", "teachers", "each", outputSlot, inputSlot⟩]
  result? := some "each"
  distinct := by decide

/-- The lines in front of the failed division are recomputed. -/
theorem Formula.share_recomputed :
    share.replay? [("reservaciones", .integer 8)] ["reserved", "goal", "open", "teachers"] = some [
      .ordinary "reserved" "Variable reservaciones: 8" (.integer 8),
      .ordinary "goal" "Número constante: 20" (.integer 20),
      .ordinary "open" "Comparación: 8 < 20 = 1" (.boolean true),
      .ordinary "teachers" "Variable profesores: 0" (.integer 0)] := by
  have returns : share.evaluate [("reservaciones", .integer 8)] = .ok (.ofFailure ⟨[
      .ordinary "reserved" "Variable reservaciones: 8" (.integer 8),
      .ordinary "goal" "Número constante: 20" (.integer 20),
      .ordinary "open" "Comparación: 8 < 20 = 1" (.boolean true),
      .ordinary "teachers" "Variable profesores: 0" (.integer 0)]⟩ (.divisionByZero "each")) := by
    decide +kernel
  exact (Evaluation.lines_recomputed returns).2

end PayGraph

import PayGraph.Proofs.Visit

/-!
# Formulas that read alike

An evaluation knows a formula only by what its nodes read.  If two formulas read the same at every
node of a set that is closed under reading, and their inputs agree on the metrics that are read
there, then visits of these nodes take the same course in both, step by step.
-/

namespace PayGraph

namespace Run

theorem each_congr {visit other : String → Run Number} {ids : List String}
    (alike : ∀ id ∈ ids, ∀ progress, other id progress = visit id progress) (progress : Progress) :
    each other ids progress = each visit ids progress := by
  induction ids generalizing progress with
  | nil => rfl
  | cons id rest induction =>
      have rest_alike := induction fun source member => alike source (List.mem_cons_of_mem _ member)
      rw [each, each, alike id List.mem_cons_self]
      simp only [rest_alike]

end Run

namespace Reading

theorem read_congr {visit other : String → Run Number} {reading : Reading String}
    (alike : ∀ id ∈ reading.operands, ∀ progress, other id progress = visit id progress)
    (progress : Progress) : reading.read other progress = reading.read visit progress := by
  cases reading with
  | metric name => rfl
  | literal value => rfl
  | fold operator operands =>
      have operands_alike : Run.each other operands progress = Run.each visit operands progress :=
        Run.each_congr alike progress
      rw [read, read, operands_alike]
  | comparison condition left right =>
      have left_alike := alike left (by simp [operands])
      have right_alike := alike right (by simp [operands])
      simp only [read, left_alike, right_alike]
  | passage operand =>
      have operand_alike := alike operand (by simp [operands])
      simp only [read, operand_alike]

theorem metric_of_read {visit : String → Run Number} {reading : Reading String} {name : String}
    {progress after : Progress}
    (result : reading.read visit progress = (.ok (.metric name), after)) :
    reading = .metric name := by
  cases reading with
  | metric other =>
      cases result
      rfl
  | literal value => cases result
  | fold operator operands =>
      rw [read] at result
      split at result <;> cases result
  | comparison condition left right =>
      rw [read] at result
      split at result
      · cases result
      · split at result <;> cases result
  | passage operand =>
      rw [read] at result
      split at result <;> cases result

theorem conclude_congr {visit : String → Run Number} {reading : Reading String}
    {values : Reading Number} {progress after : Progress} {inputs others : Inputs}
    (result : reading.read visit progress = (.ok values, after))
    (agree : ∀ name, reading = .metric name → others.valueOf name = inputs.valueOf name)
    (id : String) : values.conclude others id = values.conclude inputs id := by
  cases values with
  | metric name => rw [conclude, conclude, agree name (metric_of_read result)]
  | literal | fold | comparison | passage => rfl

end Reading

/-- Two formulas read alike, on inputs of their own, at every node of a closed set. -/
structure ReadAlike (nodes : String → Prop) (formula : Formula) (inputs : Inputs)
    (other : Formula) (others : Inputs) : Prop where
  /-- The nodes of the set read the same. -/
  same : ∀ id, nodes id → other.readingOf id = formula.readingOf id
  /-- They read nodes of the set only. -/
  closed : ∀ id, nodes id → ∀ source, formula.Follows id source → nodes source
  /-- They read the same values of metrics. -/
  metrics : ∀ id, nodes id → ∀ name, formula.readingOf id = .ok (.metric name) →
    others.valueOf name = inputs.valueOf name

namespace ReadAlike

variable {nodes : String → Prop} {formula other : Formula} {inputs others : Inputs}

/-- Visits take the same course. -/
theorem visit_eq (alike : ReadAlike nodes formula inputs other others) (frames : Nat) {id : String}
    (member : nodes id) (progress : Progress) :
    other.visit others frames id progress = formula.visit inputs frames id progress := by
  induction frames using Nat.strongRecOn generalizing id progress with
  | ind frames induction =>
      rcases Nat.lt_or_ge frames 4 with few | enough
      · rw [Formula.visit_of_lt_four few, Formula.visit_of_lt_four few]
      obtain ⟨less, rfl⟩ := Nat.exists_eq_add_of_le' enough
      rw [Formula.visit_add_four, Formula.visit_add_four, alike.same id member]
      cases read : formula.readingOf id with
      | error failure => rfl
      | ok reading =>
          have operands_alike : ∀ source ∈ reading.operands, ∀ within,
              other.visit others (reading.supply less) source within =
                formula.visit inputs (reading.supply less) source within := by
            intro source source_mem within
            have followed := (Formula.follows_iff read source).mpr source_mem
            exact induction _ (reading.supply_le less).2 (alike.closed id member source followed)
              within
          dsimp only
          rw [Reading.read_congr operands_alike]
          rcases result : reading.read (formula.visit inputs (reading.supply less))
            (progress.enter id) with ⟨halt | values, after⟩
          · rfl
          · have agree : ∀ name, reading = .metric name →
                others.valueOf name = inputs.valueOf name := by
              rintro name rfl
              exact alike.metrics id member name read
            dsimp only
            rw [Reading.conclude_congr result agree]

/-- Formulas with the same result node in the set are evaluated alike. -/
theorem evaluate_eq (alike : ReadAlike nodes formula inputs other others)
    (same_result : other.resultNode = formula.resultNode)
    (result_mem : ∀ result, formula.resultNode = .ok result → nodes result) :
    other.evaluate others = formula.evaluate inputs := by
  have same_run : other.run others = formula.run inputs := by
    rw [Formula.run, Formula.run, same_result]
    cases resolved : formula.resultNode with
    | error failure => rfl
    | ok result => exact alike.visit_eq frameLimit (result_mem result resolved) {}
  rw [Formula.evaluate, Formula.evaluate, same_run]

end ReadAlike
end PayGraph

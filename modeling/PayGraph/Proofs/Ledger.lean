import PayGraph.Proofs.Graph.Layers
import PayGraph.Proofs.Visit
import PayGraph.Proofs.Association
import PayGraph.Proofs.Conclusion

/-!
# Ledgers

The memo and the trace of an evaluation grow together, one line at a time.  Each line is concluded
from values that the memo already holds, and its node is new.  Every execution keeps such a ledger,
whether it settles or halts; uniqueness, order and correctness of the lines follow from this alone.
-/

namespace PayGraph

/-- A memo and the lines of its nodes, each concluded from the values before it. -/
inductive Ledger (formula : Formula) (inputs : Inputs) :
    List (String × Number) → List Step → Prop
  | nil : Ledger formula inputs [] []
  | snoc {memo : List (String × Number)} {steps : List Step} {id : String}
      {reading : Reading String} {value : Number} {step : Step} :
      Ledger formula inputs memo steps →
      memo.lookup id = none →
      formula.readingOf id = .ok reading →
      (∀ source ∈ reading.operands, ∃ amount, memo.lookup source = some amount) →
      (reading.map (amountIn memo)).conclude inputs id = .ok (value, step) →
      Ledger formula inputs ((id, value) :: memo) (steps ++ [step])

variable {formula : Formula} {inputs : Inputs}

/-- A settled execution extends the ledger. -/
theorem Settles.ledger {progress after : Progress} {ids : List String}
    (settles : Settles formula inputs progress ids after)
    (ledger : Ledger formula inputs progress.memo progress.trace.steps) :
    Ledger formula inputs after.memo after.trace.steps := by
  induction settles with
  | nil => exact ledger
  | known _ _ induction => exact induction ledger
  | @finished progress within after id rest reading value step fresh read operands concluded _
      operands_induction rest_induction =>
      have unfinished : within.memo.lookup id = none := by
        rw [operands.lookup_of_active List.mem_cons_self]
        exact fresh.unfinished
      exact rest_induction
        (.snoc (operands_induction ledger) unfinished read operands.finished_all concluded)

/-- A halted execution leaves a ledger behind. -/
theorem Halts.ledger {progress after : Progress} {ids : List String} {halt : Halt}
    (halts : Halts formula inputs progress ids halt after)
    (ledger : Ledger formula inputs progress.memo progress.trace.steps) :
    Ledger formula inputs after.memo after.trace.steps := by
  induction halts with
  | exhausted | returned | unreadable => exact ledger
  | nested _ _ _ _ induction => exact induction ledger
  | inconclusive _ _ _ operands _ => exact operands.ledger ledger
  | later first _ induction => exact induction (first.ledger ledger)

/-- Why an execution of some nodes halts: it wants frames, reads a node again, cannot read one or
comes to no conclusion about one from a ledger. -/
inductive Stuck (formula : Formula) (inputs : Inputs) (ids : List String) : Halt → Prop
  | exhausted : Stuck formula inputs ids (.failed .tooDeep)
  | returned (id : String) : Stuck formula inputs ids (.failed (.cycle id))
  | unreadable {id : String} {failure : Failure} :
      formula.readingOf id = .error failure →
      Stuck formula inputs ids (.failed failure)
  | inconclusive {id : String} {memo : List (String × Number)} {steps : List Step}
      {reading : Reading String} {halt : Halt} :
      (∃ start ∈ ids, formula.Reaches start id) →
      Ledger formula inputs memo steps →
      memo.lookup id = none →
      formula.readingOf id = .ok reading →
      (∀ source ∈ reading.operands, ∃ amount, memo.lookup source = some amount) →
      (reading.map (amountIn memo)).conclude inputs id = .error halt →
      Stuck formula inputs ids halt

theorem Stuck.mono {ids others : List String} {halt : Halt}
    (wider : ∀ id, (∃ start ∈ ids, formula.Reaches start id) →
      ∃ start ∈ others, formula.Reaches start id)
    (stuck : Stuck formula inputs ids halt) : Stuck formula inputs others halt := by
  cases stuck with
  | exhausted => exact .exhausted
  | returned id => exact .returned id
  | unreadable read => exact .unreadable read
  | inconclusive reached ledger unfinished read known concluded =>
      exact .inconclusive (wider _ reached) ledger unfinished read known concluded

/-- A halted execution is stuck at a node that it reaches. -/
theorem Halts.stuck {progress after : Progress} {ids : List String} {halt : Halt}
    (halts : Halts formula inputs progress ids halt after)
    (ledger : Ledger formula inputs progress.memo progress.trace.steps) :
    Stuck formula inputs ids halt := by
  induction halts with
  | exhausted => exact .exhausted
  | returned => exact .returned _
  | unreadable _ _ read => exact .unreadable read
  | @nested progress after id rest reading halt _ read _ induction =>
      refine (induction ledger).mono fun stuck ⟨source, source_mem, reach⟩ => ?_
      have followed : formula.Follows id source := (Formula.follows_iff read source).mpr source_mem
      exact ⟨id, List.mem_cons_self, .head followed reach⟩
  | @inconclusive progress within id rest reading halt fresh read operands concluded =>
      have unfinished : within.memo.lookup id = none := by
        rw [operands.lookup_of_active List.mem_cons_self]
        exact fresh.unfinished
      exact .inconclusive ⟨id, List.mem_cons_self, .refl⟩ (operands.ledger ledger) unfinished read
        operands.finished_all concluded
  | later first _ induction =>
      refine (induction (first.ledger ledger)).mono fun stuck ⟨start, start_mem, reach⟩ => ?_
      exact ⟨start, List.mem_cons_of_mem _ start_mem, reach⟩

namespace Formula

/-- The number that a line passes on: the truth value of a comparison counts as one or zero. -/
def passedOn (formula : Formula) (step : Step) : Number :=
  match formula.node step.node, step.value with
  | .ok ⟨_, .comparator _⟩, .boolean outcome => .integer (if outcome then 1 else 0)
  | _, value => value

/-- The number that the line of a source passes on, if there is such a line. -/
def recorded? (formula : Formula) (steps : List Step) (source : String) : Option Number :=
  (steps.find? fun step => step.node = source && !step.isError).map formula.passedOn

/-- The line of a node passes on the value of the node. -/
theorem passedOn_eq_of_concludes {id : String} {reading : Reading String} {value : Number}
    {step : Step} {amount : String → Number} (read : formula.readingOf id = .ok reading)
    (concludes : Concludes inputs id (reading.map amount) value step) :
    formula.passedOn step = value := by
  obtain ⟨⟨_, kind⟩, found, reads⟩ := readsAs_of_readingOf read
  rw [passedOn, concludes.node_eq, found]
  cases reads with
  | metric | literal | fold | passage =>
      cases concludes
      rfl
  | comparison =>
      cases concludes with
      | comparison _ _ _ _ encoded_eq =>
          rw [encoded_eq]
          rfl

end Formula

namespace Ledger

variable {memo : List (String × Number)} {steps : List Step}

/-- The lines are about the finished nodes, in the order in which they were finished. -/
theorem nodes_eq (ledger : Ledger formula inputs memo steps) :
    steps.map Step.node = (memo.map Prod.fst).reverse := by
  induction ledger with
  | nil => rfl
  | snoc _ _ _ _ concluded induction =>
      simp [induction, (Reading.concludes_of_conclude concluded).node_eq]

theorem ordinary (ledger : Ledger formula inputs memo steps) :
    ∀ step ∈ steps, step.isError = false := by
  induction ledger with
  | nil => exact fun step member => absurd member List.not_mem_nil
  | snoc _ _ _ _ concluded induction =>
      intro step member
      rcases List.mem_append.mp member with member | member
      · exact induction step member
      · rw [List.mem_singleton.mp member]
        exact (Reading.concludes_of_conclude concluded).ordinary

/-- The finished nodes are layered by what they read. -/
theorem layered (ledger : Ledger formula inputs memo steps) :
    Layered formula.Follows (memo.map Prod.fst) := by
  induction ledger with
  | nil => exact .nil
  | snoc _ unfinished read sources_known _ induction =>
      refine .cons ?_ ?_ induction
      · intro source followed
        rw [Association.mem_keys_iff]
        exact sources_known source ((Formula.follows_iff read source).mp followed)
      · rw [Association.mem_keys_iff]
        rintro ⟨value, found⟩
        rw [unfinished] at found
        cases found

/-- The memo holds what the lines pass on. -/
theorem recorded?_eq (ledger : Ledger formula inputs memo steps) (source : String) :
    formula.recorded? steps source = memo.lookup source := by
  induction ledger with
  | nil => rfl
  | @snoc memo steps id reading value step _ unfinished read _ concluded induction =>
      have concludes := Reading.concludes_of_conclude concluded
      have line_node := concludes.node_eq
      rw [Formula.recorded?] at induction ⊢
      rw [List.find?_append, List.lookup_cons]
      by_cases same : source = id
      · rw [same] at induction ⊢
        rw [unfinished, Option.map_eq_none_iff] at induction
        have passed := Formula.passedOn_eq_of_concludes read concludes
        simp [induction, line_node, concludes.ordinary, passed]
      · have differs : (source == id) = false := beq_eq_false_iff_ne.mpr same
        have other_line : step.node ≠ source := by
          rw [line_node]
          exact Ne.symm same
        simp [differs, other_line, ← induction]

/-- The lines before any line form a ledger, from which that line was concluded. -/
theorem split {earlier later : List Step} {step : Step}
    (ledger : Ledger formula inputs memo (earlier ++ step :: later)) :
    ∃ known reading value, Ledger formula inputs known earlier ∧
      formula.readingOf step.node = .ok reading ∧
      (∀ source ∈ reading.operands, ∃ amount, known.lookup source = some amount) ∧
      Concludes inputs step.node (reading.map (amountIn known)) value step := by
  generalize listed : earlier ++ step :: later = steps at ledger
  induction ledger generalizing later with
  | nil => simp at listed
  | @snoc memo steps id reading value newest before unfinished read known concluded induction =>
      rcases List.eq_nil_or_concat later with rfl | ⟨others, final, rfl⟩
      · obtain ⟨rfl, same⟩ := List.append_inj' listed rfl
        cases same
        have concludes := Reading.concludes_of_conclude concluded
        rw [← concludes.node_eq] at read concludes
        exact ⟨memo, reading, value, before, read, known, concludes⟩
      · rw [List.concat_eq_append, ← List.cons_append, ← List.append_assoc] at listed
        exact induction (List.append_inj_left' listed rfl)

end Ledger

namespace Evaluation

/-- The lines of nodes that came to a value. -/
def lines (evaluation : Evaluation) : List Step :=
  evaluation.steps.filter fun step => !step.isError

variable {evaluation : Evaluation}

/-- The lines of an evaluation are those of a ledger; at most the line of a failure follows. -/
theorem exists_ledger (returns : formula.evaluate inputs = .ok evaluation) :
    ∃ memo steps, Ledger formula inputs memo steps ∧ evaluation.lines = steps ∧
      (evaluation.steps = steps ∨
        ∃ node message, evaluation.steps = steps ++ [.failure node message]) := by
  have lines_eq {memo : List (String × Number)} {steps : List Step}
      (ledger : Ledger formula inputs memo steps) :
      (steps.filter fun step => !step.isError) = steps := by
    rw [List.filter_eq_self]
    intro step member
    rw [ledger.ordinary step member]
    rfl
  rcases Formula.run_of_evaluate returns with
    ⟨value, progress, result, rfl⟩ | ⟨failure, progress, result, rfl⟩
  · obtain ⟨id, _, settles, _⟩ := Formula.settles_of_run result
    have ledger := settles.ledger .nil
    exact ⟨progress.memo, progress.trace.steps, ledger, lines_eq ledger, Or.inl rfl⟩
  · have ledger : Ledger formula inputs progress.memo progress.trace.steps := by
      rcases Formula.halts_of_run result with ⟨_, _, _, rfl⟩ | ⟨id, _, halts⟩
      · exact .nil
      · exact halts.ledger .nil
    refine ⟨progress.memo, progress.trace.steps, ledger, ?_, Or.inr ⟨_, _, rfl⟩⟩
    rw [lines, ofFailure, Trace.record, List.filter_append, lines_eq ledger]
    exact List.append_nil _

/-- Every line of a node was concluded from the lines before it. -/
theorem split {earlier later : List Step} {step : Step}
    (returns : formula.evaluate inputs = .ok evaluation)
    (listed : evaluation.steps = earlier ++ step :: later) (ordinary : step.isError = false) :
    ∃ known reading value, Ledger formula inputs known earlier ∧
      formula.readingOf step.node = .ok reading ∧
      (∀ source ∈ reading.operands, ∃ amount, known.lookup source = some amount) ∧
      Concludes inputs step.node (reading.map (amountIn known)) value step := by
  obtain ⟨memo, steps, ledger, _, steps_eq | ⟨node, message, steps_eq⟩⟩ := exists_ledger returns
  · rw [← steps_eq, listed] at ledger
    exact ledger.split
  · rw [listed] at steps_eq
    rcases List.eq_nil_or_concat later with rfl | ⟨others, final, rfl⟩
    · obtain ⟨_, same⟩ := List.append_inj' steps_eq rfl
      cases same
      cases ordinary
    · rw [List.concat_eq_append, ← List.cons_append, ← List.append_assoc] at steps_eq
      rw [← List.append_inj_left' steps_eq rfl] at ledger
      exact ledger.split

end Evaluation
end PayGraph

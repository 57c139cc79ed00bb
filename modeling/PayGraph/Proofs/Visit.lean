import Mathlib.Control.Monad.Basic
import PayGraph.Proofs.Execution

/-!
# Visits are executions

A visit of a node either settles it or halts, whatever its supply of frames.  The law is proved for
reading one node, then for reading the operands of a node, and for every visit by induction on the
frames.
-/

namespace PayGraph

/-- What a visit of a node may come to. -/
inductive Visited (formula : Formula) (inputs : Inputs) (progress : Progress) (id : String) :
    Except Halt Number × Progress → Prop
  | settled {value : Number} {after : Progress} :
      Settles formula inputs progress [id] after →
      after.memo.lookup id = some value →
      Visited formula inputs progress id (.ok value, after)
  | halted {halt : Halt} {after : Progress} :
      Halts formula inputs progress [id] halt after →
      Visited formula inputs progress id (.error halt, after)

/-- Every visit of a node is an execution. -/
def Executes (formula : Formula) (inputs : Inputs) (visit : String → Run Number) : Prop :=
  ∀ id progress, Visited formula inputs progress id (visit id progress)

theorem Halts.append {formula : Formula} {inputs : Inputs} {progress after : Progress}
    {ids : List String} {halt : Halt} (halts : Halts formula inputs progress ids halt after)
    (more : List String) : Halts formula inputs progress (ids ++ more) halt after := by
  induction halts with
  | exhausted progress id rest => exact .exhausted progress id (rest ++ more)
  | returned rest unfinished active => exact .returned (rest ++ more) unfinished active
  | unreadable rest fresh read => exact .unreadable (rest ++ more) fresh read
  | nested rest fresh read operands => exact .nested (rest ++ more) fresh read operands
  | inconclusive rest fresh read operands concluded =>
      exact .inconclusive (rest ++ more) fresh read operands concluded
  | later first _ induction => exact .later first induction

theorem amountIn_of_lookup {memo : List (String × Number)} {id : String} {value : Number}
    (found : memo.lookup id = some value) : amountIn memo id = value := by
  rw [amountIn, found, Option.getD_some]

theorem lookup_amountIn {memo : List (String × Number)} {id : String}
    (known : ∃ value, memo.lookup id = some value) : memo.lookup id = some (amountIn memo id) := by
  obtain ⟨value, found⟩ := known
  rw [found, amountIn_of_lookup found]

namespace Executes

variable {formula : Formula} {inputs : Inputs} {visit : String → Run Number}
  {progress after : Progress}

theorem settles (executes : Executes formula inputs visit) {id : String} {value : Number}
    (result : visit id progress = (.ok value, after)) :
    Settles formula inputs progress [id] after ∧ after.memo.lookup id = some value := by
  have visited := executes id progress
  rw [result] at visited
  cases visited with
  | settled settles found => exact ⟨settles, found⟩

theorem halts (executes : Executes formula inputs visit) {id : String} {halt : Halt}
    (result : visit id progress = (.error halt, after)) :
    Halts formula inputs progress [id] halt after := by
  have visited := executes id progress
  rw [result] at visited
  cases visited with
  | halted halts => exact halts

theorem each_settles (executes : Executes formula inputs visit) {ids : List String}
    {values : List Number} (result : Run.each visit ids progress = (.ok values, after)) :
    Settles formula inputs progress ids after ∧ values = ids.map (amountIn after.memo) := by
  fun_induction Run.each visit ids progress generalizing values with
  | case1 =>
      cases result
      exact ⟨.nil _, rfl⟩
  | case2 | case3 => cases result
  | case4 id rest progress value within visited others last read induction =>
      cases result
      obtain ⟨first, found⟩ := executes.settles visited
      obtain ⟨second, others_eq⟩ := induction read
      refine ⟨first.append second, ?_⟩
      rw [List.map_cons, amountIn_of_lookup (second.lookup_of_finished found), others_eq]

theorem each_halts (executes : Executes formula inputs visit) {ids : List String}
    {halt : Halt} (result : Run.each visit ids progress = (.error halt, after)) :
    Halts formula inputs progress ids halt after := by
  fun_induction Run.each visit ids progress with
  | case1 | case4 => cases result
  | case2 id rest progress stop within visited =>
      cases result
      exact (executes.halts visited).append rest
  | case3 id rest progress value within visited stop last read induction =>
      cases result
      exact .later (executes.settles visited).1 (induction read)

theorem read_settles (executes : Executes formula inputs visit) {reading : Reading String}
    {values : Reading Number} (result : reading.read visit progress = (.ok values, after)) :
    Settles formula inputs progress reading.operands after ∧
      values = reading.map (amountIn after.memo) := by
  revert result
  fun_cases Reading.read visit reading progress with
  | case1 name | case2 value =>
      rintro ⟨⟩
      exact ⟨.nil _, rfl⟩
  | case3 | case5 | case6 | case8 => rintro ⟨⟩
  | case4 operator operands _ amounts last read =>
      rintro ⟨⟩
      obtain ⟨settles, amounts_eq⟩ := executes.each_settles read
      exact ⟨settles, congrArg (Reading.fold operator) amounts_eq⟩
  | case7 condition left right _ leftValue within left_read rightValue last right_read =>
      rintro ⟨⟩
      obtain ⟨first, left_found⟩ := executes.settles left_read
      obtain ⟨second, right_found⟩ := executes.settles right_read
      refine ⟨first.append second, ?_⟩
      rw [Reading.map, amountIn_of_lookup (second.lookup_of_finished left_found),
        amountIn_of_lookup right_found]
  | case9 operand _ value last read =>
      rintro ⟨⟩
      obtain ⟨settles, found⟩ := executes.settles read
      exact ⟨settles, by rw [Reading.map, amountIn_of_lookup found]⟩

theorem read_halts (executes : Executes formula inputs visit) {reading : Reading String}
    {halt : Halt} (result : reading.read visit progress = (.error halt, after)) :
    Halts formula inputs progress reading.operands halt after := by
  revert result
  fun_cases Reading.read visit reading progress with
  | case1 | case2 | case4 | case7 | case9 => rintro ⟨⟩
  | case3 operator operands _ stop last read =>
      rintro ⟨⟩
      exact executes.each_halts read
  | case5 condition left right _ stop within left_read =>
      rintro ⟨⟩
      exact (executes.halts left_read).append [right]
  | case6 condition left right _ leftValue within left_read stop last right_read =>
      rintro ⟨⟩
      exact .later (executes.settles left_read).1 (executes.halts right_read)
  | case8 operand _ stop last read =>
      rintro ⟨⟩
      exact executes.halts read

end Executes

namespace Reading

/-- Frames that are left for an operand of a node. -/
def supply {Operand : Type} (reading : Reading Operand) (frames : Nat) : Nat :=
  if reading.isFold then frames else frames + 1

theorem supply_le {Operand : Type} (reading : Reading Operand) (frames : Nat) :
    frames ≤ reading.supply frames ∧ reading.supply frames < frames + 4 := by
  rw [supply]
  split <;> omega

end Reading

namespace Formula

variable {formula : Formula} {inputs : Inputs}

/-- One visit, in terms of the visits of the operands. -/
theorem visit_add_four (formula : Formula) (inputs : Inputs) (frames : Nat) (id : String)
    (progress : Progress) :
    formula.visit inputs (frames + 4) id progress =
      match progress.memo.lookup id with
      | some value => (.ok value, progress)
      | none =>
        if id ∈ progress.active then (.error (.failed (.cycle id)), progress)
        else
          match formula.readingOf id with
          | .error failure => (.error (.failed failure), progress.enter id)
          | .ok reading =>
            match reading.read (formula.visit inputs (reading.supply frames))
              (progress.enter id) with
            | (.error halt, after) => (.error halt, after)
            | (.ok values, after) =>
              match values.conclude inputs id with
              | .error halt => (.error halt, after)
              | .ok (value, step) => (.ok value, after.settle id value step) := by
  rw [visit]
  cases progress.memo.lookup id with
  | some value => rfl
  | none =>
      by_cases active : id ∈ progress.active
      · rw [if_pos active, if_pos active]
      · rw [if_neg active, if_neg active, readingOf]
        cases formula.node id with
        | error failure => rfl
        | ok node =>
            dsimp only
            cases formula.reading node with
            | error failure => rfl
            | ok reading => cases reading <;> rfl

theorem visit_of_lt_four {frames : Nat} (few : frames < 4) (id : String) (progress : Progress) :
    formula.visit inputs frames id progress = (.error (.failed .tooDeep), progress) := by
  match frames, few with
  | 0, _ | 1, _ | 2, _ | 3, _ => rfl

/-- What a visit with frames enough for its node does, in terms of the visits of the operands. -/
inductive Visits (formula : Formula) (inputs : Inputs) (frames : Nat) (id : String)
    (progress : Progress) : Except Halt Number × Progress → Prop
  | known {value : Number} (found : progress.memo.lookup id = some value) :
      Visits formula inputs frames id progress (.ok value, progress)
  | returned (unfinished : progress.memo.lookup id = none) (active : id ∈ progress.active) :
      Visits formula inputs frames id progress (.error (.failed (.cycle id)), progress)
  | unreadable {failure : Failure} (fresh : progress.Fresh id)
      (read : formula.readingOf id = .error failure) :
      Visits formula inputs frames id progress (.error (.failed failure), progress.enter id)
  | nested {reading : Reading String} {halt : Halt} {after : Progress} (fresh : progress.Fresh id)
      (read : formula.readingOf id = .ok reading)
      (stopped : reading.read (formula.visit inputs (reading.supply frames)) (progress.enter id) =
        (.error halt, after)) :
      Visits formula inputs frames id progress (.error halt, after)
  | inconclusive {reading : Reading String} {values : Reading Number} {halt : Halt}
      {after : Progress} (fresh : progress.Fresh id) (read : formula.readingOf id = .ok reading)
      (operands : reading.read (formula.visit inputs (reading.supply frames)) (progress.enter id) =
        (.ok values, after))
      (concluded : values.conclude inputs id = .error halt) :
      Visits formula inputs frames id progress (.error halt, after)
  | finished {reading : Reading String} {values : Reading Number} {value : Number} {step : Step}
      {after : Progress} (fresh : progress.Fresh id) (read : formula.readingOf id = .ok reading)
      (operands : reading.read (formula.visit inputs (reading.supply frames)) (progress.enter id) =
        (.ok values, after))
      (concluded : values.conclude inputs id = .ok (value, step)) :
      Visits formula inputs frames id progress (.ok value, after.settle id value step)

theorem visits_visit (formula : Formula) (inputs : Inputs) (frames : Nat) (id : String)
    (progress : Progress) :
    Visits formula inputs frames id progress (formula.visit inputs (frames + 4) id progress) := by
  rw [visit_add_four]
  cases found : progress.memo.lookup id with
  | some value => exact .known found
  | none =>
      by_cases active : id ∈ progress.active
      · rw [if_pos active]
        exact .returned found active
      rw [if_neg active]
      cases read : formula.readingOf id with
      | error failure => exact .unreadable ⟨found, active⟩ read
      | ok reading =>
          dsimp only
          rcases operands : reading.read _ (progress.enter id) with ⟨halt | values, after⟩
          · exact .nested ⟨found, active⟩ read operands
          · dsimp only
            cases concluded : values.conclude inputs id with
            | error halt => exact .inconclusive ⟨found, active⟩ read operands concluded
            | ok outcome => exact .finished ⟨found, active⟩ read operands concluded

/-- Every visit is an execution. -/
theorem executes_visit (formula : Formula) (inputs : Inputs) (frames : Nat) :
    Executes formula inputs (formula.visit inputs frames) := by
  induction frames using Nat.strongRecOn with
  | ind frames induction =>
      intro id progress
      rcases Nat.lt_or_ge frames 4 with few | enough
      · rw [visit_of_lt_four few]
        exact .halted (.exhausted progress id [])
      obtain ⟨less, rfl⟩ := Nat.exists_eq_add_of_le' enough
      have executes (reading : Reading String) := induction _ (reading.supply_le less).2
      have visits := visits_visit formula inputs less id progress
      generalize formula.visit inputs (less + 4) id progress = outcome at visits
      cases visits with
      | known found => exact .settled (.known found (.nil progress)) found
      | returned unfinished active => exact .halted (.returned [] unfinished active)
      | unreadable fresh read => exact .halted (.unreadable [] fresh read)
      | nested fresh read stopped =>
          exact .halted (.nested [] fresh read ((executes _).read_halts stopped))
      | inconclusive fresh read operands concluded =>
          obtain ⟨settles, rfl⟩ := (executes _).read_settles operands
          exact .halted (.inconclusive [] fresh read settles concluded)
      | finished fresh read operands concluded =>
          obtain ⟨settles, rfl⟩ := (executes _).read_settles operands
          exact .settled (.finished fresh read settles concluded (.nil _)) List.lookup_cons_self

/-- A run that comes to a value settles the result node from nothing. -/
theorem settles_of_run {value : Number} {progress : Progress}
    (result : formula.run inputs = (.ok value, progress)) :
    ∃ id, formula.resultNode = .ok id ∧ Settles formula inputs {} [id] progress ∧
      progress.memo.lookup id = some value := by
  revert result
  fun_cases run formula inputs with
  | case1 => rintro ⟨⟩
  | case2 id resolved =>
      exact fun result => ⟨id, resolved, (executes_visit formula inputs frameLimit).settles result⟩

/-- A run that stops lacks a result node or halts there. -/
theorem halts_of_run {halt : Halt} {progress : Progress}
    (result : formula.run inputs = (.error halt, progress)) :
    (∃ failure, formula.resultNode = .error failure ∧ halt = .failed failure ∧ progress = {}) ∨
      ∃ id, formula.resultNode = .ok id ∧ Halts formula inputs {} [id] halt progress := by
  revert result
  fun_cases run formula inputs with
  | case1 failure unresolved =>
      rintro ⟨⟩
      exact Or.inl ⟨failure, unresolved, rfl, rfl⟩
  | case2 id resolved =>
      exact fun result =>
        Or.inr ⟨id, resolved, (executes_visit formula inputs frameLimit).halts result⟩

/-- An evaluation that returns is a run that came to a value or failed. -/
theorem run_of_evaluate {evaluation : Evaluation}
    (returns : formula.evaluate inputs = .ok evaluation) :
    (∃ value progress, formula.run inputs = (.ok value, progress) ∧
        evaluation = ⟨value, progress.trace.steps, none⟩) ∨
      ∃ failure progress, formula.run inputs = (.error (.failed failure), progress) ∧
        evaluation = .ofFailure progress.trace failure := by
  revert returns
  fun_cases evaluate formula inputs with
  | case1 value progress result =>
      rintro ⟨⟩
      exact Or.inl ⟨value, progress, result, rfl⟩
  | case2 failure progress result =>
      rintro ⟨⟩
      exact Or.inr ⟨failure, progress, result, rfl⟩
  | case3 => rintro ⟨⟩

/-- A formula whose result node reads no other comes to the value of that node in one step. -/
theorem evaluate_of_leaf {result : String} {reading : Reading String} {values : Reading Number}
    {value : Number} {step : Step} (resolved : formula.resultNode = .ok result)
    (reading_eq : formula.readingOf result = .ok reading)
    (leaf : ∀ visit progress, reading.read visit progress = (.ok values, progress))
    (concluded : values.conclude inputs result = .ok (value, step)) :
    formula.evaluate inputs = .ok ⟨value, [step], none⟩ := by
  rw [evaluate, run]
  simp only [resolved]
  rw [show frameLimit = 996 + 4 from rfl, visit_add_four]
  simp only [reading_eq, leaf, concluded]
  rfl

end Formula
end PayGraph

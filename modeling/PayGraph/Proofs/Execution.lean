import PayGraph.Proofs.Followed

/-!
# Executions

An execution reads nodes in order.  It settles if each of them comes to a value and halts otherwise.
The two relations say what one step of an evaluation may do, without its supply of frames: every
visit of a node is an execution, so a law of all executions holds of every evaluation.
-/

namespace PayGraph

/-- The value that a memo holds for a node, zero if it holds none. -/
def amountIn (memo : List (String × Number)) (id : String) : Number :=
  (memo.lookup id).getD .zero

namespace Progress

/-- The node is neither finished nor being evaluated. -/
structure Fresh (progress : Progress) (id : String) : Prop where
  unfinished : progress.memo.lookup id = none
  inactive : id ∉ progress.active

/-- No node is finished while it is being evaluated. -/
def Apart (progress : Progress) : Prop :=
  ∀ held ∈ progress.active, progress.memo.lookup held = none

theorem Apart.enter {progress : Progress} {id : String} (apart : progress.Apart)
    (fresh : progress.Fresh id) : (progress.enter id).Apart := by
  intro held member
  rcases List.mem_cons.mp member with rfl | member
  · exact fresh.unfinished
  · exact apart held member

/-- Record the line of a node and finish it. -/
def settle (progress : Progress) (id : String) (value : Number) (step : Step) : Progress :=
  (progress.record step).finish id value

@[simp] theorem enter_trace (progress : Progress) (id : String) :
    (progress.enter id).trace = progress.trace := rfl

@[simp] theorem enter_memo (progress : Progress) (id : String) :
    (progress.enter id).memo = progress.memo := rfl

@[simp] theorem enter_active (progress : Progress) (id : String) :
    (progress.enter id).active = id :: progress.active := rfl

@[simp] theorem settle_steps (progress : Progress) (id : String) (value : Number) (step : Step) :
    (progress.settle id value step).trace.steps = progress.trace.steps ++ [step] := rfl

@[simp] theorem settle_memo (progress : Progress) (id : String) (value : Number) (step : Step) :
    (progress.settle id value step).memo = (id, value) :: progress.memo := rfl

theorem lookup_settle_of_ne (progress : Progress) {id other : String} (value : Number)
    (step : Step) (differs : other ≠ id) :
    (progress.settle id value step).memo.lookup other = progress.memo.lookup other := by
  have unequal : (other == id) = false := beq_eq_false_iff_ne.mpr differs
  rw [settle_memo, List.lookup_cons, unequal]

@[simp] theorem settle_active (progress : Progress) (id : String) (value : Number) (step : Step) :
    (progress.settle id value step).active = progress.active.erase id := rfl

end Progress

/-- Reading nodes in order brings each of them to a value. -/
inductive Settles (formula : Formula) (inputs : Inputs) :
    Progress → List String → Progress → Prop
  | nil (progress : Progress) : Settles formula inputs progress [] progress
  | known {progress after : Progress} {id : String} {rest : List String} {value : Number} :
      progress.memo.lookup id = some value →
      Settles formula inputs progress rest after →
      Settles formula inputs progress (id :: rest) after
  | finished {progress within after : Progress} {id : String} {rest : List String}
      {reading : Reading String} {value : Number} {step : Step} :
      progress.Fresh id →
      formula.readingOf id = .ok reading →
      Settles formula inputs (progress.enter id) reading.operands within →
      (reading.map (amountIn within.memo)).conclude inputs id = .ok (value, step) →
      Settles formula inputs (within.settle id value step) rest after →
      Settles formula inputs progress (id :: rest) after

/-- Reading nodes in order stops at one of them, directly or below it. -/
inductive Halts (formula : Formula) (inputs : Inputs) :
    Progress → List String → Halt → Progress → Prop
  | exhausted (progress : Progress) (id : String) (rest : List String) :
      Halts formula inputs progress (id :: rest) (.failed .tooDeep) progress
  | returned {progress : Progress} {id : String} (rest : List String) :
      progress.memo.lookup id = none →
      id ∈ progress.active →
      Halts formula inputs progress (id :: rest) (.failed (.cycle id)) progress
  | unreadable {progress : Progress} {id : String} (rest : List String) {failure : Failure} :
      progress.Fresh id →
      formula.readingOf id = .error failure →
      Halts formula inputs progress (id :: rest) (.failed failure) (progress.enter id)
  | nested {progress after : Progress} {id : String} (rest : List String)
      {reading : Reading String} {halt : Halt} :
      progress.Fresh id →
      formula.readingOf id = .ok reading →
      Halts formula inputs (progress.enter id) reading.operands halt after →
      Halts formula inputs progress (id :: rest) halt after
  | inconclusive {progress within : Progress} {id : String} (rest : List String)
      {reading : Reading String} {halt : Halt} :
      progress.Fresh id →
      formula.readingOf id = .ok reading →
      Settles formula inputs (progress.enter id) reading.operands within →
      (reading.map (amountIn within.memo)).conclude inputs id = .error halt →
      Halts formula inputs progress (id :: rest) halt within
  | later {progress within after : Progress} {id : String} {rest : List String} {halt : Halt} :
      Settles formula inputs progress [id] within →
      Halts formula inputs within rest halt after →
      Halts formula inputs progress (id :: rest) halt after

namespace Settles

variable {formula : Formula} {inputs : Inputs} {progress within after : Progress}
  {ids : List String}

theorem append {more : List String} (first : Settles formula inputs progress ids within)
    (second : Settles formula inputs within more after) :
    Settles formula inputs progress (ids ++ more) after := by
  induction first with
  | nil => exact second
  | known found _ induction => exact .known found (induction second)
  | finished fresh read operands concluded _ _ induction =>
      exact .finished fresh read operands concluded (induction second)

/-- The nodes that are being evaluated are the same afterwards. -/
theorem active_eq (settles : Settles formula inputs progress ids after) :
    after.active = progress.active := by
  induction settles with
  | nil => rfl
  | known _ _ induction => exact induction
  | finished _ _ _ _ _ operands_induction rest_induction =>
      rw [rest_induction, Progress.settle_active, operands_induction, Progress.enter_active,
        List.erase_cons_head]

/-- A node that is being evaluated is not finished meanwhile. -/
theorem lookup_of_active (settles : Settles formula inputs progress ids after) {held : String}
    (active : held ∈ progress.active) :
    after.memo.lookup held = progress.memo.lookup held := by
  induction settles with
  | nil => rfl
  | known _ _ induction => exact induction active
  | @finished progress within after id rest reading value step fresh _ operands _ _
      operands_induction rest_induction =>
      have differs : held ≠ id := by
        rintro rfl
        exact fresh.inactive active
      have still_active : held ∈ (within.settle id value step).active := by
        rw [Progress.settle_active, operands.active_eq]
        simpa using active
      rw [rest_induction still_active, within.lookup_settle_of_ne value step differs]
      exact operands_induction (List.mem_cons_of_mem _ active)

theorem apart (settles : Settles formula inputs progress ids after) (apart : progress.Apart) :
    after.Apart := by
  intro held member
  rw [settles.active_eq] at member
  rw [settles.lookup_of_active member]
  exact apart held member

/-- A finished node keeps its value. -/
theorem lookup_of_finished (settles : Settles formula inputs progress ids after) {other : String}
    {value : Number} (found : progress.memo.lookup other = some value) :
    after.memo.lookup other = some value := by
  induction settles with
  | nil => exact found
  | known _ _ induction => exact induction found
  | @finished progress within after id rest reading newest step fresh _ _ _ _
      operands_induction rest_induction =>
      have differs : other ≠ id := by
        rintro rfl
        rw [fresh.unfinished] at found
        cases found
      apply rest_induction
      rw [within.lookup_settle_of_ne newest step differs]
      exact operands_induction found

/-- The lines recorded before stay in front of the new ones. -/
theorem steps_prefix (settles : Settles formula inputs progress ids after) :
    progress.trace.steps <+: after.trace.steps := by
  induction settles with
  | nil => exact List.prefix_rfl
  | known _ _ induction => exact induction
  | finished _ _ _ _ _ operands_induction rest_induction =>
      exact (operands_induction.trans (List.prefix_append _ _)).trans rest_induction

/-- Every node that was read is finished afterwards. -/
theorem finished_all (settles : Settles formula inputs progress ids after) :
    ∀ id ∈ ids, ∃ value, after.memo.lookup id = some value := by
  induction settles with
  | nil => exact fun id member => absurd member List.not_mem_nil
  | known found rest induction =>
      intro id member
      rcases List.mem_cons.mp member with rfl | member
      · exact ⟨_, rest.lookup_of_finished found⟩
      · exact induction id member
  | finished _ _ _ _ rest _ rest_induction =>
      intro id member
      rcases List.mem_cons.mp member with rfl | member
      · exact ⟨_, rest.lookup_of_finished (List.lookup_cons_self)⟩
      · exact rest_induction id member

end Settles
end PayGraph

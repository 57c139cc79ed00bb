import PayGraph.Proofs.TraceOrder

/-!
# Balanced progress

The progress of an evaluation is balanced if no finished node is active and if its memo and its
trace tell the same.  A visit may start from any balanced progress, also from one that no run comes
to, and leaves a balanced one behind, whether it returns or halts.  It only adds to what it finds,
and it adds nothing about a node that was active.
-/

namespace PayGraph
namespace Progress

/-- No finished node is active, and the memo tells what the trace tells: a finished node has one
line, which passes on its value. -/
structure Balanced (formula : Formula) (progress : Progress) : Prop where
  /-- No node is finished while it is being evaluated. -/
  apart : progress.Apart
  /-- No node has two lines. -/
  distinct : (progress.trace.steps.map Step.node).Nodup
  /-- Every finished node has a line. -/
  listed : ∀ id ∈ progress.memo.map Prod.fst, id ∈ progress.trace.steps.map Step.node
  /-- Every line is about a finished node and passes on its value. -/
  passed : ∀ step ∈ progress.trace.steps,
    progress.memo.lookup step.node = some (formula.passedOn step)

instance (formula : Formula) : DecidablePred (Balanced formula) := fun progress =>
  decidable_of_iff
    ((∀ held ∈ progress.active, progress.memo.lookup held = none) ∧
      (progress.trace.steps.map Step.node).Nodup ∧
      (∀ id ∈ progress.memo.map Prod.fst, id ∈ progress.trace.steps.map Step.node) ∧
      ∀ step ∈ progress.trace.steps, progress.memo.lookup step.node = some (formula.passedOn step))
    ⟨fun ⟨apart, distinct, listed, passed⟩ => ⟨apart, distinct, listed, passed⟩,
      fun balanced => ⟨balanced.apart, balanced.distinct, balanced.listed, balanced.passed⟩⟩

namespace Balanced

variable {formula : Formula} {progress : Progress} {id : String}

/-- A node has a line if and only if it is finished. -/
theorem mem_nodes_iff (balanced : progress.Balanced formula) :
    id ∈ progress.trace.steps.map Step.node ↔ ∃ value, progress.memo.lookup id = some value := by
  constructor
  · intro listed
    obtain ⟨step, step_mem, rfl⟩ := List.mem_map.mp listed
    exact ⟨_, balanced.passed step step_mem⟩
  · intro finished
    exact balanced.listed id ((Association.mem_keys_iff _ _).mpr finished)

theorem not_mem_nodes (balanced : progress.Balanced formula)
    (unfinished : progress.memo.lookup id = none) :
    id ∉ progress.trace.steps.map Step.node := by
  rw [balanced.mem_nodes_iff, unfinished]
  rintro ⟨value, found⟩
  cases found

theorem enter (balanced : progress.Balanced formula) (fresh : progress.Fresh id) :
    (progress.enter id).Balanced formula :=
  ⟨balanced.apart.enter fresh, balanced.distinct, balanced.listed, balanced.passed⟩

/-- The innermost node settles with a line that passes on its value. -/
theorem settle {outer : List String} {value : Number} {step : Step}
    (balanced : progress.Balanced formula) (innermost : progress.active = id :: outer)
    (inactive : id ∉ outer) (about : step.node = id) (passes : formula.passedOn step = value) :
    (progress.settle id value step).Balanced formula := by
  have unfinished : progress.memo.lookup id = none := by
    apply balanced.apart
    rw [innermost]
    exact List.mem_cons_self
  have unlisted := balanced.not_mem_nodes unfinished
  refine ⟨?apart, ?distinct, ?listed, ?passed⟩
  case apart =>
    intro held member
    rw [settle_active, innermost, List.erase_cons_head] at member
    have differs : held ≠ id := fun same => inactive (same ▸ member)
    rw [progress.lookup_settle_of_ne value step differs]
    apply balanced.apart
    rw [innermost]
    exact List.mem_cons_of_mem id member
  case distinct =>
    rw [settle_steps, List.map_append, List.map_singleton, about, ← List.concat_eq_append]
    exact balanced.distinct.concat unlisted
  case listed =>
    intro finished member
    rw [settle_steps, List.map_append, List.map_singleton, about, List.mem_append,
      List.mem_singleton]
    rcases List.mem_cons.mp member with rfl | member
    · exact Or.inr rfl
    · exact Or.inl (balanced.listed finished member)
  case passed =>
    intro line member
    rcases List.mem_append.mp member with old | new
    · have differs : line.node ≠ id := by
        rintro rfl
        exact unlisted (List.mem_map_of_mem old)
      rw [progress.lookup_settle_of_ne value step differs]
      exact balanced.passed line old
    · rw [List.mem_singleton.mp new, about, passes, settle_memo, List.lookup_cons_self]

end Balanced

/-- What an execution may do, whether it settles or halts. -/
structure Grows (before after : Progress) : Prop where
  /-- Lines are only appended. -/
  lines : before.trace.steps <+: after.trace.steps
  /-- A finished node keeps its value. -/
  kept : ∀ {id : String} {value : Number},
    before.memo.lookup id = some value → after.memo.lookup id = some value
  /-- No active node is finished. -/
  held : ∀ id ∈ before.active, after.memo.lookup id = before.memo.lookup id
  /-- An active node stays active; only a halt leaves others in front. -/
  active : before.active <:+ after.active

namespace Grows

theorem refl (progress : Progress) : progress.Grows progress :=
  ⟨List.prefix_rfl, fun found => found, fun _ _ => rfl, List.suffix_rfl⟩

theorem enter (progress : Progress) (id : String) : progress.Grows (progress.enter id) :=
  ⟨List.prefix_rfl, fun found => found, fun _ _ => rfl, List.suffix_cons id progress.active⟩

theorem trans {before within after : Progress} (first : before.Grows within)
    (second : within.Grows after) : before.Grows after where
  lines := first.lines.trans second.lines
  kept found := second.kept (first.kept found)
  held id member := by
    rw [second.held id (first.active.subset member), first.held id member]
  active := first.active.trans second.active

end Grows
end Progress

variable {formula : Formula} {inputs : Inputs} {progress after : Progress}

theorem Settles.grows {ids : List String} (settles : Settles formula inputs progress ids after) :
    progress.Grows after where
  lines := settles.steps_prefix
  kept := settles.lookup_of_finished
  held _ := settles.lookup_of_active
  active := settles.active_eq ▸ List.suffix_rfl

/-- A halt leaves the nodes that it cuts short active. -/
theorem Halts.grows {ids : List String} {halt : Halt}
    (halts : Halts formula inputs progress ids halt after) : progress.Grows after := by
  induction halts with
  | exhausted | returned => exact .refl _
  | unreadable => exact .enter _ _
  | nested _ _ _ _ induction => exact (Progress.Grows.enter _ _).trans induction
  | inconclusive _ _ _ operands _ => exact (Progress.Grows.enter _ _).trans operands.grows
  | later first _ induction => exact first.grows.trans induction

theorem Settles.balanced {ids : List String} (settles : Settles formula inputs progress ids after)
    (balanced : progress.Balanced formula) : after.Balanced formula := by
  induction settles with
  | nil => exact balanced
  | known _ _ induction => exact induction balanced
  | finished fresh read operands concluded _ operands_induction rest_induction =>
      have concludes := Reading.concludes_of_conclude concluded
      have within_balanced := operands_induction (balanced.enter fresh)
      -- The operands leave the node itself innermost, so its line is the next one.
      exact rest_induction (within_balanced.settle operands.active_eq fresh.inactive
        concludes.node_eq (Formula.passedOn_eq_of_concludes read concludes))

theorem Halts.balanced {ids : List String} {halt : Halt}
    (halts : Halts formula inputs progress ids halt after)
    (balanced : progress.Balanced formula) : after.Balanced formula := by
  induction halts with
  | exhausted | returned => exact balanced
  | unreadable _ fresh _ => exact balanced.enter fresh
  | nested _ fresh _ _ induction => exact induction (balanced.enter fresh)
  | inconclusive _ fresh _ operands _ => exact operands.balanced (balanced.enter fresh)
  | later first _ induction => exact induction (first.balanced balanced)

namespace Formula

theorem visit_of_finished {frames : Nat} {id : String} {value : Number} (enough : 4 ≤ frames)
    (finished : progress.memo.lookup id = some value) :
    formula.visit inputs frames id progress = (.ok value, progress) := by
  obtain ⟨less, rfl⟩ := Nat.exists_eq_add_of_le' enough
  rw [visit_add_four, finished]

/-- A visit from a balanced progress leaves a balanced one behind, whatever it comes to.  The lines
and the values that were there stay, and no node that was active gets any.  If the visit returns,
the same nodes are active as before and the node that was visited has the value; if that node was
finished before, nothing changes. -/
theorem visit_keeps_balance {frames : Nat} {id : String} {outcome : Except Halt Number}
    (balanced : progress.Balanced formula)
    (visited : formula.visit inputs frames id progress = (outcome, after)) :
    after.Balanced formula ∧
      progress.trace.steps <+: after.trace.steps ∧
      (∀ other value, progress.memo.lookup other = some value →
        after.memo.lookup other = some value) ∧
      (∀ held ∈ progress.active, after.memo.lookup held = none ∧
        held ∉ after.trace.steps.map Step.node) ∧
      (∀ value, outcome = .ok value →
        after.active = progress.active ∧ after.memo.lookup id = some value) ∧
      ∀ value, progress.memo.lookup id = some value →
        after = progress ∧ (4 ≤ frames → outcome = .ok value) := by
  have executes := executes_visit formula inputs frames
  have kept : after.Balanced formula ∧ progress.Grows after := by
    cases outcome with
    | ok value =>
        obtain ⟨settles, _⟩ := executes.settles visited
        exact ⟨settles.balanced balanced, settles.grows⟩
    | error halt =>
        have halts := executes.halts visited
        exact ⟨halts.balanced balanced, halts.grows⟩
  obtain ⟨after_balanced, grows⟩ := kept
  refine ⟨after_balanced, grows.lines, fun _ _ => grows.kept, fun held member => ?held, ?returned,
    fun value finished => ?finished⟩
  case held =>
    have unfinished : after.memo.lookup held = none := by
      rw [grows.held held member]
      exact balanced.apart held member
    exact ⟨unfinished, after_balanced.not_mem_nodes unfinished⟩
  case returned =>
    rintro value rfl
    obtain ⟨settles, found⟩ := executes.settles visited
    exact ⟨settles.active_eq, found⟩
  case finished =>
    rcases Nat.lt_or_ge frames 4 with few | enough
    · rw [visit_of_lt_four few] at visited
      cases visited
      exact ⟨rfl, fun enough => absurd enough (Nat.not_le.mpr few)⟩
    · rw [visit_of_finished enough finished] at visited
      cases visited
      exact ⟨rfl, fun _ => rfl⟩

end Formula

namespace Evaluation

/-- Progress on the bonus with its goal finished and one node active. -/
def goalReached (active : String) : Progress where
  trace := ⟨[.ordinary "goal" "Número constante: 20" (.integer 20)]⟩
  memo := [("goal", .integer 20)]
  active := [active]

/-- While the amount is active, a visit of the pay returns.  While the comparison below the pay is
active, it halts there and leaves the pay active in front. -/
theorem bonus_balanced :
    (∃ after, bonus.visit [("reservaciones", .integer 25)] 12 "pay" (goalReached "amount") =
        (.ok (.integer 25), after) ∧
      after.Balanced bonus ∧ after.active = ["amount"] ∧
      after.memo.lookup "pay" = some (.integer 25) ∧
      after.memo.lookup "goal" = some (.integer 20)) ∧
    ∃ after, bonus.visit [("reservaciones", .integer 25)] 12 "pay" (goalReached "full") =
        (.error (.failed (.cycle "full")), after) ∧
      after.Balanced bonus ∧ after.active = ["pay", "full"] ∧
      after.memo.lookup "reserved" = some (.integer 25) ∧
      after.memo.lookup "full" = none ∧ "full" ∉ after.trace.steps.map Step.node := by
  have returns : bonus.visit [("reservaciones", .integer 25)] 12 "pay" (goalReached "amount") =
      (.ok (.integer 25), {
        trace := ⟨[.ordinary "goal" "Número constante: 20" (.integer 20),
          .ordinary "reserved" "Variable reservaciones: 25" (.integer 25),
          .ordinary "full" "Comparación: 25 > 20 = 1" (.boolean true),
          .ordinary "pay" "Operación multiplicacion: [25, 1] = 25" (.integer 25)]⟩
        memo := [("pay", .integer 25), ("full", .integer 1), ("reserved", .integer 25),
          ("goal", .integer 20)]
        active := ["amount"] }) := by
    decide +kernel
  have halts : bonus.visit [("reservaciones", .integer 25)] 12 "pay" (goalReached "full") =
      (.error (.failed (.cycle "full")), {
        trace := ⟨[.ordinary "goal" "Número constante: 20" (.integer 20),
          .ordinary "reserved" "Variable reservaciones: 25" (.integer 25)]⟩
        memo := [("reserved", .integer 25), ("goal", .integer 20)]
        active := ["pay", "full"] }) := by
    decide +kernel
  obtain ⟨returned_balanced, _, kept, _, restored, _⟩ :=
    Formula.visit_keeps_balance (by decide) returns
  obtain ⟨active, found⟩ := restored _ rfl
  obtain ⟨halted_balanced, _, _, held, _, _⟩ := Formula.visit_keeps_balance (by decide) halts
  obtain ⟨unfinished, unlisted⟩ := held "full" (by decide)
  exact ⟨⟨_, returns, returned_balanced, active, found, kept "goal" _ (by decide)⟩,
    _, halts, halted_balanced, rfl, by decide, unfinished, unlisted⟩

end Evaluation
end PayGraph

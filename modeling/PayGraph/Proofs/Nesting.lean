import PayGraph.Proofs.FailureLine
import PayGraph.Proofs.Unshared

/-!
# Nested calls

To evaluate a node is to make calls for its operands while the call for the node itself is open.  A
call that makes another one makes its node active, so one node fewer is left for the calls inside
it: however the connections run, a chain of nested calls has at most one call more than there are
nodes.  An evaluation wants frames only where such a chain has used them up.
-/

namespace PayGraph

/-- A call for the value of a node. -/
structure Call where
  /-- Frames that the call may take. -/
  frames : Nat
  /-- Node whose value is called for. -/
  node : String
  /-- What the evaluation knows when the call is made. -/
  progress : Progress
  deriving DecidableEq, Repr

/-- A call makes another one while it is open: it asks for an operand of its node once the operands
before have come to values. -/
inductive Formula.Calls (formula : Formula) (inputs : Inputs) : Call → Call → Prop
  | operand {frames : Nat} {id source : String} {progress within : Progress}
      {reading : Reading String} {before rest : List String} {values : List Number} :
      progress.Fresh id →
      formula.readingOf id = .ok reading →
      reading.operands = before ++ source :: rest →
      Run.each (formula.visit inputs (reading.supply frames)) before (progress.enter id) =
        (.ok values, within) →
      Formula.Calls formula inputs ⟨frames + 4, id, progress⟩
        ⟨reading.supply frames, source, within⟩

namespace Run

theorem exists_operand_of_each_error {visit : String → Run Number} {ids : List String}
    {progress after : Progress} {halt : Halt}
    (result : each visit ids progress = (.error halt, after)) :
    ∃ before source rest values within, ids = before ++ source :: rest ∧
      each visit before progress = (.ok values, within) ∧
      visit source within = (.error halt, after) := by
  fun_induction each visit ids progress with
  | case1 | case4 => cases result
  | case2 id ids progress stop last visited =>
      cases result
      exact ⟨[], id, ids, [], progress, rfl, rfl, visited⟩
  | case3 id ids progress value next visited stop last read induction =>
      cases result
      obtain ⟨before, source, rest, values, within, listed, read_before, stopped⟩ := induction read
      refine ⟨id :: before, source, rest, value :: values, within, ?_, ?_, stopped⟩
      · rw [listed, List.cons_append]
      · simp only [each, visited, read_before]

end Run

theorem Reading.exists_operand_of_read_error {visit : String → Run Number}
    {reading : Reading String} {progress after : Progress} {halt : Halt}
    (result : reading.read visit progress = (.error halt, after)) :
    ∃ before source rest values within, reading.operands = before ++ source :: rest ∧
      Run.each visit before progress = (.ok values, within) ∧
      visit source within = (.error halt, after) := by
  revert result
  fun_cases read visit reading progress with
  | case1 | case2 | case4 | case7 | case9 => rintro ⟨⟩
  | case3 operator operands _ stop last stopped =>
      rintro ⟨⟩
      exact Run.exists_operand_of_each_error stopped
  | case5 condition left right _ stop last stopped =>
      rintro ⟨⟩
      exact ⟨[], left, [right], [], progress, rfl, rfl, stopped⟩
  | case6 condition left right _ value within visited stop last stopped =>
      rintro ⟨⟩
      exact ⟨[left], right, [], [value], within, rfl, by simp only [Run.each, visited], stopped⟩
  | case8 operand _ stop last stopped =>
      rintro ⟨⟩
      exact ⟨[], operand, [], [], progress, rfl, rfl, stopped⟩

theorem Failure.message_ne_tooDeep {failure : Failure} (other : failure ≠ .tooDeep) :
    failure.message ≠ Failure.tooDeep.message := by
  -- The text of each other failure differs among the first twelve characters.
  have differs (opening rest : String)
      (unlike : opening.toList.take 12 ≠ "La fórmula excede".toList.take 12)
      (long : 12 ≤ opening.toList.length) :
      opening ++ rest ≠ Failure.tooDeep.message := by
    intro same
    have parted : Failure.tooDeep.message =
        "La fórmula excede" ++ " la profundidad máxima de evaluación" :=
      rfl
    have openings := congrArg (fun text : String => text.toList.take 12) (same.trans parted)
    simp only [String.toList_append] at openings
    rw [List.take_append_of_le_length long, List.take_append_of_le_length (by simp)] at openings
    exact unlike openings
  cases failure with
  | tooDeep => exact absurd rfl other
  | missingResult =>
      exact differs "La fórmula no" " tiene un nodo de resultado definido" (by simp) (by simp)
  | unknownNode node => exact differs "Nodo no encontrado: " node (by simp) (by simp)
  | insufficientOperands node operator required given =>
      have opened := differs "La operación " (operator ++ (" requiere al menos " ++
        (toString required ++ (" entrada(s), recibió " ++ toString given)))) (by simp) (by simp)
      rwa [← String.append_assoc, ← String.append_assoc, ← String.append_assoc,
        ← String.append_assoc] at opened
  | missingComparands node =>
      exact differs "El comparador" " requiere dos entradas (valueA y valueB)" (by simp) (by simp)
  | missingResultInput node =>
      exact differs "El nodo de resultado" " no tiene una entrada conectada" (by simp) (by simp)
  | divisionByZero node => exact differs "División por" " cero" (by simp) (by simp)
  | overflow node => exact differs "Desbordamiento" " aritmético" (by simp) (by simp)
  | cycle node => exact differs "Ciclo detectado en el nodo " node (by simp) (by simp)
  | unsupported node tag =>
      exact differs "Tipo de nodo u operación no soportado: " tag (by simp) (by simp)
namespace Formula

variable {formula : Formula} {inputs : Inputs} {first second : Call} {calls : List Call}

theorem Calls.nodesOff_lt (made : formula.Calls inputs first second) :
    formula.nodesOff second.progress.active < formula.nodesOff first.progress.active := by
  cases made with
  | operand fresh read _ operands_read =>
      obtain ⟨settles, _⟩ := (executes_visit formula inputs _).each_settles operands_read
      rw [settles.active_eq, Progress.enter_active]
      exact nodesOff_cons_lt (mem_ids_of_readingOf read) fresh.inactive

theorem Calls.frames_le (made : formula.Calls inputs first second) :
    first.frames ≤ second.frames + 4 := by
  cases made with
  | @operand frames _ _ _ _ reading =>
      have left_over := (reading.supply_le frames).1
      simpa using left_over

/-- A chain of nested calls has at most one call more than there are nodes left. -/
theorem length_le_nodesOff (nested : (first :: calls).IsChain (formula.Calls inputs)) :
    calls.length ≤ formula.nodesOff first.progress.active := by
  induction calls generalizing first with
  | nil => exact Nat.zero_le _
  | cons second calls induction =>
      obtain ⟨made, inner⟩ := List.isChain_cons_cons.mp nested
      have fewer := made.nodesOff_lt
      have bounded := induction inner
      rw [List.length_cons]
      omega

theorem frames_le_of_isChain (nested : (first :: calls).IsChain (formula.Calls inputs)) :
    first.frames ≤ ((first :: calls).getLast (List.cons_ne_nil _ _)).frames + 4 * calls.length := by
  induction calls generalizing first with
  | nil => exact Nat.le_refl _
  | cons second calls induction =>
      obtain ⟨made, inner⟩ := List.isChain_cons_cons.mp nested
      have one := made.frames_le
      have others := induction inner
      rw [List.getLast_cons_cons, List.length_cons]
      omega

/-- A call that wants frames leads by nested calls to one that has fewer than four. -/
theorem exists_chain_of_tooDeep {frames : Nat} {id : String} {progress after : Progress}
    (deep : formula.visit inputs frames id progress = (.error (.failed .tooDeep), after)) :
    ∃ calls, (⟨frames, id, progress⟩ :: calls).IsChain (formula.Calls inputs) ∧
      ((⟨frames, id, progress⟩ :: calls).getLast (List.cons_ne_nil _ _)).frames < 4 := by
  induction frames using Nat.strongRecOn generalizing id progress after with
  | ind frames induction =>
      rcases Nat.lt_or_ge frames 4 with few | enough
      · exact ⟨[], List.IsChain.singleton _, few⟩
      obtain ⟨less, rfl⟩ := Nat.exists_eq_add_of_le' enough
      have visits := visits_visit formula inputs less id progress
      rw [deep] at visits
      cases visits with
      | unreadable fresh read => cases node?_of_readingOf_error read
      | inconclusive fresh read operands concluded =>
          cases Reading.node?_of_conclude_failed concluded
      | @nested reading _ _ fresh read stopped =>
          obtain ⟨before, source, rest, values, within, listed, read_before, source_deep⟩ :=
            Reading.exists_operand_of_read_error stopped
          obtain ⟨calls, nested, last_few⟩ := induction _ (reading.supply_le less).2 source_deep
          have made : formula.Calls inputs ⟨less + 4, id, progress⟩
              ⟨reading.supply less, source, within⟩ :=
            .operand fresh read listed read_before
          exact ⟨_ :: calls, List.isChain_cons_cons.mpr ⟨made, nested⟩, last_few⟩

theorem nodesOff_nil (formula : Formula) : formula.nodesOff [] = formula.nodes.length := by
  simp [nodesOff]

theorem visit_ne_tooDeep {frames : Nat} (enough : 4 * (formula.nodes.length + 1) ≤ frames)
    (id : String) : (formula.visit inputs frames id {}).1 ≠ .error (.failed .tooDeep) := by
  intro deep
  obtain ⟨calls, nested, last_few⟩ :=
    exists_chain_of_tooDeep (Prod.ext deep rfl : _ = (_, (formula.visit inputs frames id {}).2))
  have few_calls := length_le_nodesOff nested
  have few_frames := frames_le_of_isChain nested
  dsimp only at few_calls few_frames
  rw [nodesOff_nil] at few_calls
  omega

/-- The evaluation of a formula with few nodes does not end for want of frames. -/
theorem error_ne_tooDeep (enough : 4 * (formula.nodes.length + 1) ≤ frameLimit)
    {evaluation : Evaluation} (returns : formula.evaluate inputs = .ok evaluation) :
    evaluation.error? ≠ some Failure.tooDeep.message := by
  rcases run_of_evaluate returns with ⟨value, progress, ran, rfl⟩ | ⟨failure, progress, ran, rfl⟩
  · nofun
  · intro same
    refine Failure.message_ne_tooDeep ?_ (Option.some.inj same)
    rintro rfl
    revert ran
    fun_cases run formula inputs with
    | case1 cause unresolved =>
        rintro ⟨⟩
        cases missing_of_unresolved unresolved
    | case2 id resolved => exact fun ran => visit_ne_tooDeep enough id (congrArg Prod.fst ran)

/-- However its connections run, an evaluation never nests more calls than there are nodes and one
more, so no supply of four frames for each of these runs out; in particular an evaluation of up to
120 nodes never ends for want of frames. -/
theorem nesting_within_nodes (formula : Formula) (inputs : Inputs) :
    (∀ frames id calls, (⟨frames, id, {}⟩ :: calls).IsChain (formula.Calls inputs) →
        (⟨frames, id, {}⟩ :: calls : List Call).length ≤ formula.nodes.length + 1) ∧
      (∀ frames id, 4 * (formula.nodes.length + 1) ≤ frames →
        (formula.visit inputs frames id {}).1 ≠ .error (.failed .tooDeep)) ∧
      (formula.nodes.length ≤ 120 → ∀ evaluation, formula.evaluate inputs = .ok evaluation →
        evaluation.error? ≠ some Failure.tooDeep.message) := by
  refine ⟨fun frames id calls nested => ?_, fun frames id enough => visit_ne_tooDeep enough id, ?_⟩
  · have few := length_le_nodesOff nested
    rw [nodesOff_nil] at few
    exact Nat.succ_le_succ few
  · intro few evaluation returns
    refine error_ne_tooDeep ?_ returns
    rw [frameLimit]
    omega

/-- Three sums, each of the next. -/
def carousel : Formula where
  id := "carousel"
  name := "Carousel"
  nodes := [⟨"first", .operation .sum⟩, ⟨"second", .operation .sum⟩, ⟨"third", .operation .sum⟩]
  connections := [⟨"c1", "second", "first", outputSlot, inputSlot⟩,
    ⟨"c2", "third", "second", outputSlot, inputSlot⟩,
    ⟨"c3", "first", "third", outputSlot, inputSlot⟩]
  result? := some "first"
  distinct := by decide

/-- Calls on the carousel come round to its first node, but no further. -/
theorem carousel_nesting :
    (∃ calls, (⟨16, "first", {}⟩ :: calls).IsChain (carousel.Calls []) ∧ calls.length = 3) ∧
      (∀ calls, (⟨16, "first", {}⟩ :: calls).IsChain (carousel.Calls []) →
        (⟨16, "first", {}⟩ :: calls : List Call).length ≤ 4) ∧
      (carousel.visit [] 16 "first" {}).1 ≠ .error (.failed .tooDeep) ∧
      ∀ evaluation, carousel.evaluate [] = .ok evaluation →
        evaluation.error? ≠ some Failure.tooDeep.message := by
  obtain ⟨calls_few, frames_enough, error_ne⟩ := nesting_within_nodes carousel []
  refine ⟨?_, fun calls => calls_few 16 "first" calls, frames_enough 16 "first" (by decide),
    error_ne (by decide)⟩
  have link {frames : Nat} {id source : String} {progress : Progress}
      (fresh : progress.Fresh id) (read : carousel.readingOf id = .ok (.fold .sum [source])) :
      carousel.Calls [] ⟨frames + 4, id, progress⟩ ⟨frames, source, progress.enter id⟩ :=
    .operand fresh read (List.nil_append [source]).symm rfl
  have fresh {active : List String} {id : String} (inactive : id ∉ active) :
      (⟨{}, [], active⟩ : Progress).Fresh id := ⟨rfl, inactive⟩
  refine ⟨[⟨12, "second", ⟨{}, [], ["first"]⟩⟩, ⟨8, "third", ⟨{}, [], ["second", "first"]⟩⟩,
    ⟨4, "first", ⟨{}, [], ["third", "second", "first"]⟩⟩], ?_, rfl⟩
  refine .cons_cons (link (fresh (by decide)) rfl) ?_
  refine .cons_cons (link (fresh (by decide)) rfl) ?_
  exact .cons_cons (link (fresh (by decide)) rfl) (.singleton _)

end Formula
end PayGraph

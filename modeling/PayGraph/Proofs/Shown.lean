import PayGraph.Display
import PayGraph.Proofs.Markup
import PayGraph.Proofs.Written

/-!
# What can be shown

A table or panel of numbers that are written can be shown unless markup keeps it from that, and
markup does so only for a text with a bracket or backslash.
-/

namespace PayGraph
namespace Display

open Terminal Markup

variable {legible : Prop} {Value Result : Type}

/-- There is something to show, or the text is not legible and markup is what keeps it from being
shown. -/
def Shown (legible : Prop) (outcome : Except DisplayError Value) : Prop :=
  (∃ value, outcome = .ok value) ∨ ¬legible ∧ ∃ cause, outcome = .error (.markup cause)

theorem shown_ok (value : Value) : Shown legible (.ok value) :=
  Or.inl ⟨value, rfl⟩

theorem Shown.bind {outcome : Except DisplayError Value}
    {next : Value → Except DisplayError Result} (shown : Shown legible outcome)
    (each : ∀ value, Shown legible (next value)) : Shown legible (outcome >>= next) := by
  rcases shown with ⟨value, rfl⟩ | ⟨illegible, cause, rfl⟩
  · exact each value
  · exact Or.inr ⟨illegible, cause, rfl⟩

theorem Shown.map {outcome : Except DisplayError Value} (shown : Shown legible outcome)
    (make : Value → Result) : Shown legible (outcome.map make) := by
  rcases shown with ⟨value, rfl⟩ | ⟨illegible, cause, rfl⟩
  · exact shown_ok _
  · exact Or.inr ⟨illegible, cause, rfl⟩

theorem shown_mapM {present : Value → Except DisplayError Result} {listed : List Value}
    (each : ∀ one ∈ listed, Shown legible (present one)) : Shown legible (listed.mapM present) := by
  induction listed with
  | nil => exact shown_ok _
  | cons first rest induction =>
      obtain ⟨first_shown, rest_shown⟩ := List.forall_mem_cons.mp each
      rw [List.mapM_cons]
      exact first_shown.bind fun _ => (induction rest_shown).bind fun _ => shown_ok _

theorem shown_rendered {markup : String} (styled : legible → IsStyled markup.toList) :
    Shown legible (rendered markup) := by
  rw [rendered]
  cases result : render markup with
  | ok text => exact shown_ok _
  | error cause =>
      refine Or.inr ⟨fun is_legible => ?_, cause, rfl⟩
      obtain ⟨text, render_eq⟩ := (styled is_legible).exists_render
      rw [result] at render_eq
      cases render_eq

theorem shown_paragraph [Console] {markup : String} (styled : legible → IsStyled markup.toList) :
    Shown legible (paragraph markup) :=
  (shown_rendered styled).map _

theorem shown_amount {number : Number} (written : number.IsWritten) :
    Shown legible (amount number) := by
  obtain ⟨text, shown⟩ := written
  rw [amount, shown]
  exact shown_ok text

theorem shown_cell {text : String} (bland : legible → IsBland text.toList) :
    Shown legible (cell (escape text)) := by
  refine (shown_rendered fun is_legible => ?_).map _
  rw [escape_eq_self (bland is_legible)]
  exact (bland is_legible).styled

theorem shown_styledCell {tag text : String} (listed : tag ∈ styleWords)
    (bland : legible → IsBland text.toList) : Shown legible (styledCell tag text) := by
  refine (shown_rendered fun is_legible => ?_).map _
  have styled := IsStyled.of_span tag text listed (bland is_legible) .nil
  simpa [toString] using styled

theorem isBland_escape {text : String} (bland : IsBland text.toList) :
    IsBland (escape text).toList := by
  rwa [escape_eq_self bland]

section

variable {evaluation : Evaluation}

/-- The lines of an evaluation are legible. -/
def BlandLines (evaluation : Evaluation) : Prop :=
  ∀ step ∈ evaluation.steps, IsBland step.node.toList ∧ IsBland step.description.toList

/-- The outcome of an evaluation is legible. -/
structure BlandOutcome (evaluation : Evaluation) : Prop where
  amount : ∀ text, evaluation.value.display = .ok text → IsBland text.toList
  failure : ∀ message ∈ evaluation.error?, IsBland message.toList

theorem shown_steps [Console] (written : ∀ step ∈ evaluation.steps, step.value.IsWritten)
    (bland : legible → BlandLines evaluation) : Shown legible (steps evaluation) := by
  rw [steps]
  split
  · refine shown_paragraph fun _ => ?_
    have styled := IsStyled.of_span "dim" "No steps recorded" (by decide) (by decide) .nil
    simpa using styled
  · refine Shown.bind (shown_mapM fun entry entry_mem => ?_) fun _ => shown_ok _
    have step_mem : entry.1 ∈ evaluation.steps := List.fst_mem_of_mem_zipIdx entry_mem
    have node_shown : Shown legible (cell (escape entry.1.node)) :=
      shown_cell fun is_legible => (bland is_legible _ step_mem).1
    have description_bland : legible → IsBland entry.1.description.toList :=
      fun is_legible => (bland is_legible _ step_mem).2
    refine (shown_amount (written _ step_mem)).bind fun _ => node_shown.bind fun _ => ?_
    dsimp only
    split
    · exact (shown_styledCell (by decide) fun is_legible =>
        isBland_escape (description_bland is_legible)).bind fun _ => shown_ok _
    · exact (shown_cell description_bland).bind fun _ => shown_ok _

theorem shown_outcome [Console] (written : evaluation.value.IsWritten)
    (bland : legible → BlandOutcome evaluation) : Shown legible (outcome evaluation) := by
  obtain ⟨text, display_eq⟩ := written
  have amount_eq : amount evaluation.value = .ok text := by
    rw [amount, display_eq]
    rfl
  rw [outcome, amount_eq]
  dsimp only [bind, Except.bind]
  split
  · refine (shown_rendered fun is_legible => ?_).map _
    have amount_bland := (bland is_legible).amount text display_eq
    have styled := IsStyled.of_span "green" "✓ Value:" (by decide) (by decide)
      (.of_bland " " (by decide) (.of_span "bold" text (by decide) amount_bland .nil))
    simpa [toString] using styled
  · rename_i message failed
    refine (shown_rendered fun is_legible => ?_).map _
    have amount_bland := (bland is_legible).amount text display_eq
    have message_bland := isBland_escape ((bland is_legible).failure message failed)
    have valued : IsBland (s!"Value: {text}").toList := by
      rw [String.toList_append]
      exact IsBland.append (by decide) amount_bland
    have styled := IsStyled.of_span "red" "✗ Error:" (by decide) (by decide)
      (.of_bland " " (by decide) (.of_bland (escape message) message_bland
        (.of_bland "\n" (by decide) (.of_span "dim" _ (by decide) valued .nil))))
    simpa [toString] using styled

end

/-- The issues are legible. -/
def BlandIssues (found : List Issue) : Prop :=
  ∀ issue ∈ found, (∀ node ∈ issue.node?, IsBland node.toList) ∧ IsBland issue.message.toList

theorem shown_issues [Console] {found : List Issue} (bland : legible → BlandIssues found) :
    Shown legible (issues found) := by
  rw [issues]
  split
  · refine shown_paragraph fun _ => ?_
    have styled := IsStyled.of_span "green" "✓ No issues found" (by decide) (by decide)
      .nil
    simpa using styled
  · refine (shown_mapM fun issue issue_mem => ?_).map _
    have severity_shown :
        Shown legible (styledCell (style issue.severity) issue.severity.label) := by
      cases issue.severity <;>
        exact shown_styledCell (by decide) fun _ => by decide
    refine severity_shown.bind fun _ => ?_
    refine (shown_cell fun is_legible => ?_).bind fun _ => ?_
    · cases named : issue.node?.filter (· ≠ "") with
      | none => decide
      | some node =>
          exact (bland is_legible issue issue_mem).1 node (Option.eq_some_of_filter_eq_some named)
    · exact (shown_cell fun is_legible => (bland is_legible issue issue_mem).2).bind fun _ =>
        shown_ok _

theorem shown_inputs [Console] {given : Inputs} (written : ∀ metric ∈ given, metric.2.IsWritten)
    (bland : legible → ∀ metric ∈ given, IsBland metric.1.toList) :
    Shown legible (inputs given) := by
  refine Shown.bind (shown_mapM fun metric metric_mem => ?_) fun _ => shown_ok _
  refine (shown_amount (written metric metric_mem)).bind fun _ => ?_
  exact (shown_cell fun is_legible => bland is_legible metric metric_mem).bind fun _ => shown_ok _

end Display
end PayGraph

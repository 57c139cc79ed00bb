import PayGraph.Command
import PayGraph.Proofs.Shown

/-!
# Runs as they go

A run over a state prints, acts on the state and ends early or with a value.  Unless markup stops
it, its outcome and the state that it leaves do not depend on what is on the screen.  Whatever a
program loads in a run is what it loads outside of one, since the run only hands its questions on.
-/

namespace PayGraph

namespace Session

open Display (Shown shown_paragraph)
open Terminal.Markup (IsStyled)

section Lifting

variable {Effect : Type → Type} [Monad Effect] [LawfulMonad Effect] (outside : Files Effect)

theorem firstFile?_files (paths : List Path) :
    Settings.firstFile? (files outside) paths = liftM (Settings.firstFile? outside paths) := by
  induction paths with
  | nil => simp [Settings.firstFile?]
  | cons path rest induction =>
      simp only [Settings.firstFile?, liftM_bind, induction]
      congr 1
      funext found
      rcases found with error | (_ | _) <;> simp

theorem find?_files (start : Path) :
    Settings.find? (files outside) start = liftM (Settings.find? outside start) := by
  simp only [Settings.find?, liftM_bind]
  congr 1
  funext here
  split
  · exact firstFile?_files outside _
  · simp

theorem writeReport_files [Halves] (evaluation : Evaluation) (path : Path) :
    evaluation.writeReport (files outside) path = liftM (evaluation.writeReport outside path) := by
  simp only [Evaluation.writeReport]
  split
  · simp
  · simp only [files, liftM_bind]
    congr 1
    funext found
    rcases found with cause | _ <;> simp

variable [Host]

theorem load_formula_files (path : Path) :
    Formula.load (files outside) path = liftM (Formula.load outside path) := by
  simp only [Formula.load, files, liftM_bind]
  congr 1
  funext found
  cases found <;> simp

theorem load_inputs_files (path : Path) :
    Inputs.load (files outside) path = liftM (Inputs.load outside path) := by
  simp only [Inputs.load, files, liftM_bind]
  congr 1
  funext found
  cases found <;> simp

theorem load_settings_files (path : Path) :
    Settings.load (files outside) path = liftM (Settings.load outside path) := by
  simp only [Settings.load, files, liftM_bind]
  congr 1
  funext found
  cases found <;> simp

theorem current_files :
    Settings.current (files outside) = liftM (Settings.current outside) := by
  simp only [Settings.current, liftM_bind, find?_files]
  congr 1
  funext found
  rcases found with error | (_ | path)
  · simp
  · simp
  · exact load_settings_files outside path

end Lifting

section Leads

variable {State Value Result : Type} {legible : Prop}

/-- From a state the action comes to an outcome and leaves another state behind, whatever is on the
screen, unless something is not legible and markup stops it. -/
def Leads (legible : Prop) (action : Session (StateM State) Value) (state : State)
    (outcome : Except Ending Value) (after : State) : Prop :=
  ∀ screen, (∃ shown, action.run.run screen state = ((outcome, shown), after)) ∨
    ¬legible ∧ ∃ cause shown left,
      action.run.run screen state = ((.error (.crashed (.markup cause)), shown), left)

theorem run_bind (action : Session (StateM State) Value)
    (next : Value → Session (StateM State) Result) (screen : Screen) (state : State) :
    (action >>= next).run.run screen state =
      match action.run.run screen state with
      | ((.ok value, shown), left) => (next value).run.run shown left
      | ((.error ending, shown), left) => ((.error ending, shown), left) := by
  rw [ExceptT.run_bind, StateT.run_bind, bind_apply]
  rcases action.run.run screen state with ⟨⟨ending | value, shown⟩, left⟩ <;> rfl

variable {action : Session (StateM State) Value} {next : Value → Session (StateM State) Result}
  {state within after : State}

theorem leads_pure (value : Value) (state : State) :
    Leads legible (pure value : Session (StateM State) Value) state (.ok value) state :=
  fun screen => Or.inl ⟨screen, rfl⟩

theorem leads_throw (ending : Ending) (state : State) :
    Leads legible (throw ending : Session (StateM State) Value) state (.error ending) state :=
  fun screen => Or.inl ⟨screen, rfl⟩

theorem leads_modify (change : Screen → Screen) (state : State) :
    Leads legible (modify change : Session (StateM State) Unit) state (.ok ()) state :=
  fun screen => Or.inl ⟨change screen, rfl⟩

/-- A question about the state is answered as outside of a run. -/
theorem leads_ask {question : StateM State Value} {value : Value}
    (answer : question state = (value, after)) :
    Leads legible (liftM question) state (.ok value) after := by
  intro screen
  have asked : (liftM question : Session (StateM State) Value).run.run screen state =
      ((.ok (question state).1, screen), (question state).2) :=
    rfl
  exact Or.inl ⟨screen, by rw [asked, answer]⟩

/-- What follows an action goes on from the value and the state that the action leads to. -/
theorem Leads.bind {value : Value} {outcome : Except Ending Result}
    (first : Leads legible action state (.ok value) within)
    (rest : Leads legible (next value) within outcome after) :
    Leads legible (action >>= next) state outcome after := by
  intro screen
  rw [run_bind]
  rcases first screen with ⟨shown, ran⟩ | ⟨illegible, cause, shown, left, ran⟩
  · rw [ran]
    exact rest shown
  · rw [ran]
    exact Or.inr ⟨illegible, cause, shown, left, rfl⟩

theorem leads_shown {found : Except DisplayError Lines}
    {next : Lines → Session (StateM State) Value}
    {outcome : Except Ending Value} (visible : Shown legible found)
    (rest : ∀ lines, Leads legible (next lines) state outcome after) :
    Leads legible (shown found >>= next) state outcome after := by
  rcases visible with ⟨lines, rfl⟩ | ⟨illegible, cause, rfl⟩
  · exact (leads_pure lines state).bind (rest lines)
  · exact fun screen => Or.inr ⟨illegible, cause, screen, state, rfl⟩

theorem leads_display {found : Except DisplayError Lines} (visible : Shown legible found)
    (state : State) :
    Leads legible (display found : Session (StateM State) Unit) state (.ok ()) state :=
  leads_shown visible fun _ => leads_modify _ state

theorem leads_say [Terminal.Console] {markup : String}
    (styled : legible → IsStyled markup.toList) (state : State) :
    Leads legible (say markup : Session (StateM State) Unit) state (.ok ()) state :=
  leads_display (shown_paragraph styled) state

theorem leads_written {found : Except DigitOverflow Value} {value : Value}
    (found_eq : found = .ok value) (state : State) :
    Leads legible (written found : Session (StateM State) Value) state (.ok value) state := by
  rw [found_eq]
  exact leads_pure value state

end Leads

end Session
end PayGraph

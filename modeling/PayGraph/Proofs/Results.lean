import PayGraph.Proofs.Number.Characters
import PayGraph.Proofs.Session
import PayGraph.Proofs.Terminal.Word

/-!
# Results of runs

Everything that a run says goes among its notes, and only the amount is printed as a result.  An
amount is one word without markup, so it is printed as it is as far as a line of the terminal can
hold it, and folded over further lines where it cannot.
-/

namespace PayGraph

namespace Display

open Terminal

theorem isBland_display {number : Number} {text : String} (shown : number.display = .ok text) :
    Markup.IsBland text.toList :=
  have numeric := Number.isNumericText_display shown
  ⟨numeric.not_mem (by decide), numeric.not_mem (by decide)⟩

theorem paragraph_of_numeric [Console] {text : String} (numeric : IsNumericText text.toList) :
    paragraph text = .ok (layout .fold Console.columns text.toList) := by
  have glyphs : ∀ character ∈ text.toList, IsGlyph character := fun character member =>
    (numeric.numeric character member).visible
  rw [paragraph, rendered,
    Markup.render_of_glyphs glyphs (numeric.not_mem (by decide)) (numeric.not_mem (by decide))]
  rfl

theorem folds_of_numeric [Console] {text : String} (numeric : IsNumericText text.toList) :
    Folds Console.columns text.toList (layout .fold Console.columns text.toList) :=
  folds_layout Console.columns_pos (fun _ member => (numeric.numeric _ member).visible)
    numeric.nonempty

end Display

namespace Session

variable {State Value Result : Type}

/-- The action prints no result, whatever else it does. -/
def Quiet (action : Session (StateM State) Value) : Prop :=
  ∀ screen state, (action.run.run screen state).1.2.results = screen.results

theorem quiet_pure (value : Value) : Quiet (pure value : Session (StateM State) Value) :=
  fun _ _ => rfl

theorem quiet_throw (ending : Ending) : Quiet (throw ending : Session (StateM State) Value) :=
  fun _ _ => rfl

theorem quiet_note (lines : Lines) : Quiet (note lines : Session (StateM State) Unit) :=
  fun _ _ => rfl

theorem quiet_ask (question : StateM State Value) :
    Quiet (liftM question : Session (StateM State) Value) :=
  fun _ _ => rfl

theorem Quiet.bind {action : Session (StateM State) Value}
    {next : Value → Session (StateM State) Result} (first : Quiet action)
    (rest : ∀ value, Quiet (next value)) : Quiet (action >>= next) := by
  intro screen state
  have unprinted := first screen state
  rw [run_bind]
  rcases ran : action.run.run screen state with ⟨⟨ending | value, shown⟩, left⟩
  all_goals rw [ran] at unprinted
  · exact unprinted
  · exact (rest value shown left).trans unprinted

theorem quiet_shown (found : Except DisplayError Lines) :
    Quiet (shown found : Session (StateM State) Lines) := by
  rcases found with (cause | cause) | lines
  · exact quiet_throw _
  · exact quiet_throw _
  · exact quiet_pure lines

theorem quiet_display (found : Except DisplayError Lines) :
    Quiet (display found : Session (StateM State) Unit) :=
  (quiet_shown found).bind quiet_note

theorem quiet_say [Terminal.Console] (markup : String) :
    Quiet (say markup : Session (StateM State) Unit) :=
  quiet_display _

theorem quiet_refuse [Terminal.Console] (message : String) (headline : Bool) :
    Quiet (refuse message headline : Session (StateM State) Value) :=
  (quiet_say _).bind fun _ => Quiet.bind (fun _ _ => rfl) fun _ => quiet_throw _

theorem quiet_refuseFile [Terminal.Console] (cause : FileError) :
    Quiet (refuseFile cause : Session (StateM State) Value) := by
  rw [refuseFile]
  split
  · exact quiet_throw _
  · exact quiet_refuse _ _

theorem quiet_written (found : Except DigitOverflow Value) :
    Quiet (written found : Session (StateM State) Value) := by
  cases found with
  | ok value => exact quiet_pure value
  | error cause => exact quiet_throw _

section Prints

variable {legible : Prop} {action : Session (StateM State) Value}
  {next : Value → Session (StateM State) Result} {state within after : State}
  {printed later : Lines}

/-- From a state the action comes to an outcome, leaves another state behind and prints results,
unless something is not legible and markup stops it. -/
def Prints (legible : Prop) (action : Session (StateM State) Value) (state : State)
    (outcome : Except Ending Value) (after : State) (printed : Lines) : Prop :=
  ∀ screen, (∃ shown, action.run.run screen state = ((outcome, shown), after) ∧
      shown.results = screen.results ++ printed) ∨
    ¬legible ∧ ∃ cause shown left,
      action.run.run screen state = ((.error (.crashed (.markup cause)), shown), left)

theorem prints_result (lines : Lines) (state : State) :
    Prints legible (result lines : Session (StateM State) Unit) state (.ok ()) state lines :=
  fun _ => Or.inl ⟨_, rfl, rfl⟩

theorem Prints.leads {outcome : Except Ending Value}
    (prints : Prints legible action state outcome after printed) :
    Leads legible action state outcome after :=
  fun screen => (prints screen).imp_left fun ⟨shown, ran, _⟩ => ⟨shown, ran⟩

theorem Leads.prints {outcome : Except Ending Value}
    (leads : Leads legible action state outcome after) (quiet : Quiet action) :
    Prints legible action state outcome after [] := by
  intro screen
  refine (leads screen).imp_left fun ⟨shown, ran⟩ => ⟨shown, ran, ?_⟩
  have unprinted := quiet screen state
  rw [ran] at unprinted
  rw [List.append_nil, unprinted]

/-- What follows an action prints after it. -/
theorem Prints.bind {value : Value} {outcome : Except Ending Result}
    (first : Prints legible action state (.ok value) within printed)
    (rest : Prints legible (next value) within outcome after later) :
    Prints legible (action >>= next) state outcome after (printed ++ later) := by
  intro screen
  rw [run_bind]
  rcases first screen with ⟨shown, ran, results_eq⟩ | ⟨illegible, cause, shown, left, ran⟩
  · rw [ran, ← List.append_assoc, ← results_eq]
    exact rest shown
  · rw [ran]
    exact Or.inr ⟨illegible, cause, shown, left, rfl⟩

/-- Nothing follows an action that ends the run. -/
theorem Prints.stop {ending : Ending}
    (first : Prints legible action state (.error ending) after printed) :
    Prints legible (action >>= next) state (.error ending) after printed := by
  intro screen
  rw [run_bind]
  rcases first screen with ⟨shown, ran, results_eq⟩ | ⟨illegible, cause, shown, left, ran⟩
  · rw [ran]
    exact Or.inl ⟨shown, rfl, results_eq⟩
  · rw [ran]
    exact Or.inr ⟨illegible, cause, shown, left, rfl⟩

/-- What follows an action without results prints all there is. -/
theorem Leads.andThen {value : Value} {outcome : Except Ending Result}
    (first : Leads legible action state (.ok value) within) (quiet : Quiet action)
    (rest : Prints legible (next value) within outcome after printed) :
    Prints legible (action >>= next) state outcome after printed :=
  (first.prints quiet).bind rest

/-- What may be done first without results leaves the rest to print all there is. -/
theorem prints_when {condition : Prop} [Decidable condition] {first : Session (StateM State) Unit}
    {next : Unit → Session (StateM State) Value} {outcome : Except Ending Value}
    (done : condition → Leads legible first state (.ok ()) state) (quiet : Quiet first)
    (rest : Prints legible (next ()) state outcome after printed) :
    Prints legible (if condition then first >>= next else next ()) state outcome after printed := by
  split
  · exact (done ‹_›).andThen quiet rest
  · exact rest

end Prints

end Session

namespace Command

open Session

variable {State Value Refusal : Type} (outside : Files (StateM State))

theorem quiet_accept {onRefusal : Refusal → Session (StateM State) Value}
    {onFile : FileError → Session (StateM State) Value} (refused : ∀ cause, Quiet (onRefusal cause))
    (missing : ∀ cause, Quiet (onFile cause)) (found : Except (LoadFault Refusal) Value) :
    Quiet (accept onRefusal onFile found) := by
  rcases found with (cause | cause | _ | cause | _) | value
  · exact refused cause
  · exact missing cause
  · exact quiet_throw _
  · exact quiet_throw _
  · exact quiet_throw _
  · exact quiet_pure value

theorem quiet_settings [Host] [Terminal.Console] : Quiet (settings (Session.files outside)) := by
  rw [settings, current_files]
  exact (quiet_ask _).bind
    (quiet_accept (fun _ => quiet_refuse _ _) fun _ => quiet_throw _)

theorem quiet_loaded [Halves] [Terminal.Console] (found : Except (LoadFault LoadError) Value) :
    Quiet (loaded found : Session (StateM State) Value) :=
  quiet_accept (fun _ => quiet_refuse _ _) quiet_refuseFile found

theorem quiet_formulaAt [Host] [Terminal.Console] (path : Path) :
    Quiet (formulaAt (Session.files outside) path) := by
  rw [formulaAt, load_formula_files]
  refine (quiet_say _).bind fun _ => (quiet_ask _).bind fun ⟨warnings, found⟩ => ?_
  refine (quiet_note _).bind fun _ => (quiet_loaded found).bind fun formula => ?_
  dsimp only
  split
  · exact (quiet_say _).bind fun _ => quiet_pure formula
  · exact quiet_pure formula

theorem quiet_chosenFormula [Host] [Terminal.Console] (path? : Option Path) :
    Quiet (chosenFormula (Session.files outside) path?) := by
  cases path? with
  | none => exact (quiet_say _).bind fun _ => quiet_throw _
  | some path => exact quiet_formulaAt outside path

theorem quiet_inputsAt [Host] [Terminal.Console] (path? : Option Path) :
    Quiet (inputsAt (Session.files outside) path?) := by
  cases path? with
  | none => exact quiet_pure _
  | some path =>
      rw [inputsAt, load_inputs_files]
      exact (quiet_say _).bind fun _ => (quiet_ask _).bind quiet_loaded

theorem quiet_exportTo [Halves] [Terminal.Console] (evaluation : Evaluation) (path : Path) :
    Quiet (exportTo (Session.files outside) evaluation path) := by
  rw [exportTo, writeReport_files]
  refine (quiet_say _).bind fun _ => (quiet_ask _).bind fun found => ?_
  cases found with
  | error cause => exact quiet_throw _
  | ok => exact quiet_pure _

end Command
end PayGraph

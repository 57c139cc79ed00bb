import Mathlib
import PayGraph.Proofs.Encoding
import PayGraph.Proofs.Override
import PayGraph.Proofs.Refusals
import PayGraph.Proofs.Results

/-!
# What the command line does

A run on a tree of files loads what its request and the settings name, and comes to just the
evaluation or the issues that the formula has.  It writes at most one file, the report of that very
evaluation; and markup can stop it only where some text has a bracket or a backslash.
-/

namespace PayGraph

namespace Command

open Display (BlandLines BlandOutcome BlandIssues Shown)
open FileTree (access)
open Session (Leads)
open Terminal.Markup (IsBland IsStyled)

variable {tree after : FileTree} {here : List String} {legible : Prop}

theorem styled_pathLine (label : String) {path : Path} (label_bland : IsBland label.toList)
    (bland : IsBland path.text.toList) :
    IsStyled ('[' :: ("cyan".toList ++ ']' :: (label.toList ++ '[' :: '/' :: ("cyan".toList ++
      ']' :: (" ".toList ++ path.text.toList))))) :=
  .of_span "cyan" label (by decide) label_bland
    (.of_bland " " (by decide) bland.styled)

section Loading

variable [Host]

/-- The settings that hold in a directory, and the formula at the path that is given, else at the
one that the settings name. -/
structure Selects (tree : FileTree) (here : List String) (given? : Option Path)
    (settings : Settings) (path : Path) (formula : Formula) : Prop where
  settings_hold : (Settings.current (access here) tree).1 = .ok settings
  path_eq : given?.or settings.formula? = some path
  formula_loads : (Formula.load (access here) path tree).1.2 = .ok formula

/-- A document is loaded from a file that holds its text. -/
theorem formula_loads_of_text {tree : FileTree} {here : List String} {path : Path} {text : String}
    {characters : List Char} {formula : Formula} (there : tree.read here path = .ok text.toUTF8)
    (spelled : text.toList = characters)
    (made : (Data.ofText .json characters).toOption.bind (fun data =>
      (Formula.ofData data).2.toOption) = some formula) :
    (Formula.load (access here) path tree).1.2 = .ok formula := by
  subst spelled
  obtain ⟨data, read, formed⟩ := Option.bind_eq_some_iff.mp made
  have loaded : (Formula.load (access here) path tree).1 = Formula.ofBytes path text.toUTF8 := by
    rw [Formula.load, bind_apply, FileTree.read_apply, there]
    rfl
  rw [loaded, Formula.ofBytes, readContent_toUTF8 (Except.eq_ok_of_toOption read)]
  dsimp only
  rw [Except.eq_ok_of_toOption formed]
  rfl

/-- The metrics that override the others: those at the path that is given; those at the path that
the settings name, if neither a path nor sample data are asked for; otherwise none. -/
inductive Overlays (tree : FileTree) (here : List String) (settings : Settings) :
    Option Path → Bool → Inputs → Prop
  | given {path : Path} {sample : Bool} {changes : Inputs} :
      (Inputs.load (access here) path tree).1 = .ok changes →
      Overlays tree here settings (some path) sample changes
  | configured {path : Path} {changes : Inputs} :
      settings.inputs? = some path →
      (Inputs.load (access here) path tree).1 = .ok changes →
      Overlays tree here settings none false changes
  | unconfigured : settings.inputs? = none → Overlays tree here settings none false []
  | sampled : Overlays tree here settings none true []

variable [Terminal.Console]

theorem leads_settings {settings : Settings}
    (held : (Settings.current (access here) tree).1 = .ok settings) :
    Leads legible (Command.settings (Session.files (access here))) tree (.ok settings) tree := by
  have answer : Settings.current (access here) tree = (.ok settings, tree) :=
    Prod.ext held (FileTree.current_settings_tree tree here)
  rw [Command.settings, Session.current_files]
  exact (Session.leads_ask answer).bind (Session.leads_pure settings tree)

theorem leads_formulaAt {path : Path} {formula : Formula}
    (loads : (Formula.load (access here) path tree).1.2 = .ok formula)
    (path_bland : legible → IsBland path.text.toList)
    (name_bland : legible → IsBland formula.name.toList) :
    Leads legible (formulaAt (Session.files (access here)) path) tree (.ok formula) tree := by
  have answer : Formula.load (access here) path tree =
      (((Formula.load (access here) path tree).1.1, .ok formula), tree) :=
    Prod.ext (Prod.ext rfl loads) (FileTree.load_formula_tree tree here path)
  have path_line : legible →
      IsStyled s!"[cyan]Loading formula from:[/cyan] {path.text}".toList := fun is_legible => by
    simpa [toString] using
      styled_pathLine "Loading formula from:" (by decide) (path_bland is_legible)
  rw [formulaAt, Session.load_formula_files]
  refine (Session.leads_say path_line tree).bind ((Session.leads_ask answer).bind ?_)
  refine (Session.leads_modify _ tree).bind ((Session.leads_pure formula tree).bind ?_)
  dsimp only
  split
  · refine (Session.leads_say (fun is_legible => ?_) tree).bind (Session.leads_pure formula tree)
    have bland := Display.isBland_escape (name_bland is_legible)
    have styled := IsStyled.of_span "cyan" "Formula:" (by decide) (by decide)
      (.of_bland " " (by decide) (.of_span "bold" _ (by decide) bland .nil))
    simpa [toString] using styled
  · exact Session.leads_pure formula tree

theorem leads_inputsAt {path : Path} {changes : Inputs}
    (loads : (Inputs.load (access here) path tree).1 = .ok changes)
    (path_bland : legible → IsBland path.text.toList) :
    Leads legible (inputsAt (Session.files (access here)) (some path)) tree (.ok changes) tree := by
  have answer : Inputs.load (access here) path tree = (.ok changes, tree) :=
    Prod.ext loads (FileTree.load_inputs_tree tree here path)
  have path_line : legible →
      IsStyled s!"[cyan]Loading inputs from:[/cyan] {path.text}".toList := fun is_legible => by
    simpa [toString] using
      styled_pathLine "Loading inputs from:" (by decide) (path_bland is_legible)
  rw [inputsAt, Session.load_inputs_files]
  exact (Session.leads_say path_line tree).bind
    ((Session.leads_ask answer).bind (Session.leads_pure changes tree))

theorem leads_overlays {settings : Settings} {given? : Option Path} {sample : Bool}
    {changes : Inputs} (overlays : Overlays tree here settings given? sample changes)
    (path_bland : legible → ∀ path ∈ inputsPath? settings given? sample,
      IsBland path.text.toList) :
    Leads legible (inputsAt (Session.files (access here)) (inputsPath? settings given? sample)) tree
      (.ok changes) tree := by
  cases overlays with
  | @given path _ _ loads =>
      have path_eq : inputsPath? settings (some path) sample = some path := rfl
      rw [path_eq] at path_bland ⊢
      exact leads_inputsAt loads fun is_legible => path_bland is_legible path rfl
  | @configured path _ named loads =>
      have path_eq : inputsPath? settings none false = some path := named
      rw [path_eq] at path_bland ⊢
      exact leads_inputsAt loads fun is_legible => path_bland is_legible path rfl
  | unconfigured unnamed =>
      have path_eq : inputsPath? settings none false = none := unnamed
      rw [path_eq]
      exact Session.leads_pure _ tree
  | sampled => exact Session.leads_pure _ tree

end Loading

section Writing

variable {evaluation : Evaluation} {path : Path}

/-- The report is written up to its first piece that no file can hold. -/
theorem writeReport_apply [Halves] {pieces : List (List Char)}
    (pieces_eq : evaluation.reportPieces (.ofPath path) = .ok pieces)
    (written : tree.write here path
      (String.ofList (pieces.takeWhile isEncodable).flatten).toUTF8 = .ok after) :
    evaluation.writeReport (access here) path tree =
      (if pieces.all isEncodable then .ok () else .error .unencodable, after) := by
  rw [Evaluation.writeReport, pieces_eq]
  dsimp only
  rw [bind_apply, FileTree.write_apply written]
  rfl

theorem leads_exportTo [Halves] [Terminal.Console] {written : Except ReportError Unit}
    (wrote : evaluation.writeReport (access here) path tree = (written, after))
    (path_bland : legible → IsBland path.text.toList) :
    Leads legible (exportTo (Session.files (access here)) evaluation path) tree
      (written.mapError fun cause => .crashed cause.crash) after := by
  have path_line : legible →
      IsStyled s!"[cyan]Exporting result to:[/cyan] {path.text}".toList := fun is_legible => by
    simpa [toString] using
      styled_pathLine "Exporting result to:" (by decide) (path_bland is_legible)
  rw [exportTo, Session.writeReport_files]
  refine (Session.leads_say path_line tree).bind ((Session.leads_ask wrote).bind ?_)
  cases written with
  | ok => exact Session.leads_pure () after
  | error cause => exact Session.leads_throw _ after

end Writing

/-- The metrics before any others override them. -/
def baseOf (sample : Bool) : Inputs :=
  if sample then Metric.sampleInputs else []

/-- No text that a run shows on its way to an evaluation has a bracket or a backslash. -/
structure LegibleEvaluation (path : Path) (formula : Formula) (inputsPath? : Option Path)
    (inputs : Inputs) (evaluation : Evaluation) (output? : Option Path) : Prop where
  formula_path : IsBland path.text.toList
  formula_name : IsBland formula.name.toList
  inputs_path : ∀ path ∈ inputsPath?, IsBland path.text.toList
  metrics : ∀ metric ∈ inputs, IsBland metric.1.toList
  lines : BlandLines evaluation
  outcome : BlandOutcome evaluation
  output_path : ∀ path ∈ output?, IsBland path.text.toList

section Evaluating

variable {formula? inputs? output? : Option Path} {sample : Bool} {settings : Settings}
  {path : Path}
  {formula : Formula} {changes : Inputs} {evaluation : Evaluation}

/-- How writing the report of an evaluation to a path ends, if there is one, and the tree after
it. -/
def Exports [Halves] (evaluation : Evaluation) (here : List String) (tree : FileTree) :
    Option Path → Except ReportError Unit → FileTree → Prop
  | none, written, after => written = .ok () ∧ after = tree
  | some path, written, after => evaluation.writeReport (access here) path tree = (written, after)

/-- How a run ends that has come to an evaluation and tried to write its report. -/
def concluded (evaluation : Evaluation) : Except ReportError Unit → Except Ending Unit
  | .ok () => if evaluation.succeeded then .ok () else .error .failed
  | .error cause => .error (.crashed cause.crash)

variable [Terminal.Console]

/-- What such a run prints as its result. -/
def printedBy (amount : String) : Except ReportError Unit → Lines
  | .ok () => Terminal.layout .fold Terminal.Console.columns amount.toList
  | .error _ => []

/-- After an evaluation the report is written and the amount is printed, and a failure ends the
run. -/
theorem prints_conclusion [Halves] {output? : Option Path} {text : String}
    {written : Except ReportError Unit} (display_eq : evaluation.value.display = .ok text)
    (exports : Exports evaluation here tree output? written after)
    (path_bland : legible → ∀ path ∈ output?, IsBland path.text.toList) :
    Session.Prints legible (do
      match output? with
      | some path => exportTo (Session.files (access here)) evaluation path
      | none => pure ()
      let amount ← Session.written evaluation.value.display
      Session.result (← Session.shown (Display.paragraph amount))
      if !evaluation.succeeded then throw .failed) tree (concluded evaluation written) after
      (printedBy text written) := by
  have ended (lines : Lines) : Session.Prints legible (do
      Session.result lines
      if !evaluation.succeeded then throw .failed) after (concluded evaluation (.ok ())) after
      (lines ++ []) := by
    refine (Session.prints_result lines after).bind ?_
    rw [concluded]
    cases evaluation.succeeded with
    | true => exact (Session.leads_pure () after).prints (Session.quiet_pure ())
    | false => exact (Session.leads_throw .failed after).prints (Session.quiet_throw _)
  have printed : Session.Prints legible (do
      let amount ← Session.written evaluation.value.display
      Session.result (← Session.shown (Display.paragraph amount))
      if !evaluation.succeeded then throw .failed) after (concluded evaluation (.ok ())) after
      (printedBy text (.ok ())) := by
    have amount_shown :=
      Display.paragraph_of_numeric (Number.isNumericText_display display_eq)
    have printed := ended (printedBy text (.ok ()))
    rw [List.append_nil] at printed
    refine (Session.leads_written display_eq after).andThen (Session.quiet_written _) ?_
    rw [amount_shown]
    exact (Session.leads_pure _ after).andThen (Session.quiet_pure _) printed
  cases output? with
  | none =>
      obtain ⟨rfl, rfl⟩ := exports
      exact printed
  | some path =>
      have exported := leads_exportTo exports fun is_legible => path_bland is_legible path rfl
      have quiet := quiet_exportTo (access here) evaluation path
      cases written with
      | ok => exact exported.andThen quiet printed
      | error cause => exact (exported.prints quiet).stop

variable [Host]

/-- A run that evaluates a formula comes to just what the formula evaluates to, and prints the
amount on lines of the terminal. -/
theorem prints_evaluate (selects : Selects tree here formula? settings path formula)
    (overlays : Overlays tree here settings inputs? sample changes)
    (inputs_written : ∀ metric ∈ (baseOf sample).override changes, metric.2.IsWritten)
    (returns : formula.evaluate ((baseOf sample).override changes) = .ok evaluation)
    {text : String} (display_eq : evaluation.value.display = .ok text)
    {written : Except ReportError Unit}
    (exports : Exports evaluation here tree (output?.or settings.output?) written after)
    (clear : legible → LegibleEvaluation path formula (inputsPath? settings inputs? sample)
      ((baseOf sample).override changes) evaluation (output?.or settings.output?)) :
    Session.Prints legible
      (perform (Session.files (access here)) (.evaluate formula? inputs? output? sample)) tree
      (concluded evaluation written) after (printedBy text written) := by
  have brief := Evaluation.isBrief_of_evaluate returns
  have steps_written : ∀ step ∈ evaluation.steps, step.value.IsWritten := fun step step_mem =>
    brief.isWritten (List.mem_cons_of_mem _ (List.mem_map_of_mem step_mem))
  have chosen : Leads legible
      (chosenFormula (Session.files (access here)) (formula?.or settings.formula?)) tree
      (.ok formula) tree := by
    rw [selects.path_eq]
    exact leads_formulaAt selects.formula_loads (fun is_legible => (clear is_legible).formula_path)
      fun is_legible => (clear is_legible).formula_name
  have inputs_shown := Display.shown_inputs inputs_written
    fun is_legible => (clear is_legible).metrics
  have steps_shown := Display.shown_steps steps_written fun is_legible => (clear is_legible).lines
  have outcome_shown := Display.shown_outcome ⟨text, display_eq⟩
    fun is_legible => (clear is_legible).outcome
  refine (Session.leads_modify _ tree).andThen (Session.quiet_note _)
    ((leads_settings selects.settings_hold).andThen (quiet_settings _) ?_)
  refine chosen.andThen (quiet_chosenFormula _ _)
    ((leads_overlays overlays fun is_legible => (clear is_legible).inputs_path).andThen
      (quiet_inputsAt _ _) ?_)
  refine Session.prints_when (fun _ => Session.leads_display inputs_shown tree)
    (Session.quiet_display _) ?_
  refine (Session.leads_modify _ tree).andThen (Session.quiet_note _)
    ((Session.leads_written returns tree).andThen (Session.quiet_written _) ?_)
  refine (Session.leads_modify _ tree).andThen (Session.quiet_note _)
    ((Session.leads_display steps_shown tree).andThen (Session.quiet_display _) ?_)
  refine (Session.leads_modify _ tree).andThen (Session.quiet_note _)
    ((Session.leads_display outcome_shown tree).andThen (Session.quiet_display _) ?_)
  exact prints_conclusion display_eq exports fun is_legible => (clear is_legible).output_path

theorem leads_evaluate (selects : Selects tree here formula? settings path formula)
    (overlays : Overlays tree here settings inputs? sample changes)
    (inputs_written : ∀ metric ∈ (baseOf sample).override changes, metric.2.IsWritten)
    (returns : formula.evaluate ((baseOf sample).override changes) = .ok evaluation)
    {written : Except ReportError Unit}
    (exports : Exports evaluation here tree (output?.or settings.output?) written after)
    (clear : legible → LegibleEvaluation path formula (inputsPath? settings inputs? sample)
      ((baseOf sample).override changes) evaluation (output?.or settings.output?)) :
    Leads legible
      (perform (Session.files (access here)) (.evaluate formula? inputs? output? sample)) tree
      (concluded evaluation written) after := by
  obtain ⟨text, display_eq⟩ : evaluation.value.IsWritten :=
    (Evaluation.isBrief_of_evaluate returns).isWritten List.mem_cons_self
  exact (prints_evaluate selects overlays inputs_written returns display_eq exports clear).leads

end Evaluating

section Checking

/-- No text that a run shows when it checks a formula has a bracket or a backslash. -/
structure LegibleCheck (path : Path) (formula : Formula) : Prop where
  formula_path : IsBland path.text.toList
  formula_name : IsBland formula.name.toList
  issues : BlandIssues formula.issues

theorem isBland_toString (number : Nat) : IsBland (toString number).toList := by
  have text_eq : (toString number).toList = Nat.toDigits 10 number := String.toList_ofList
  have digits {character : Char} (present : character ∈ (toString number).toList) :
      character.isDigit = true := by
    rw [text_eq] at present
    exact Nat.isDigit_of_mem_toDigits (by decide) (by decide) present
  exact ⟨fun bracket => absurd (digits bracket) (by decide),
    fun backslash => absurd (digits backslash) (by decide)⟩

/-- A run that checks a formula fails exactly if some issue is an error. -/
theorem leads_check [Host] [Terminal.Console] {formula? : Option Path} {settings : Settings}
    {path : Path} {formula : Formula}
    (selects : Selects tree here formula? settings path formula)
    (clear : legible → LegibleCheck path formula) :
    Leads legible (perform (Session.files (access here)) (.check formula?)) tree
      (if Issue.anyError formula.issues then .error .failed else .ok ()) tree := by
  have chosen : Leads legible
      (chosenFormula (Session.files (access here)) (formula?.or settings.formula?)) tree
      (.ok formula) tree := by
    rw [selects.path_eq]
    exact leads_formulaAt selects.formula_loads (fun is_legible => (clear is_legible).formula_path)
      fun is_legible => (clear is_legible).formula_name
  have issues_shown := Display.shown_issues fun is_legible => (clear is_legible).issues
  refine (Session.leads_modify _ tree).bind ((leads_settings selects.settings_hold).bind ?_)
  refine chosen.bind ((Session.leads_modify _ tree).bind ?_)
  refine (Session.leads_display issues_shown tree).bind ((Session.leads_modify _ tree).bind ?_)
  split
  · refine (Session.leads_say (fun _ => ?_) tree).bind (Session.leads_throw .failed tree)
    have styled := IsStyled.of_span "red" "✗ Formula has errors" (by decide) (by decide)
      .nil
    simpa using styled
  · refine Session.leads_say (fun _ => ?_) tree
    let nodes := toString formula.nodes.length
    let connections := toString formula.connections.length
    have counts :
        IsBland ("(" ++ nodes ++ " nodes, " ++ connections ++ " connections)").toList := by
      simp only [String.toList_append]
      refine .append (.append (.append (.append (by decide) ?_) ?_) ?_) ?_
      · exact isBland_toString _
      · decide
      · exact isBland_toString _
      · decide
    have styled := IsStyled.of_span "green" "✓ Formula is valid" (by decide) (by decide)
      (.of_bland " " (by decide) (.of_span "dim" _ (by decide) counts .nil))
    simpa [toString, nodes, connections] using styled

end Checking

theorem isWritten_of_mem_sampleInputs {metric : String × Number}
    (metric_mem : metric ∈ Metric.sampleInputs) : metric.2.IsWritten := by
  obtain ⟨kind, -, rfl⟩ := List.mem_map.mp metric_mem
  have short (value : Int) (few : value.natAbs < Nat.pow 10 2) : (Number.integer value).IsWritten :=
    Number.isWritten_of_natAbs_lt few (by decide)
  cases kind <;> exact short _ (by decide)

section Overlaying

variable [Host] {settings : Settings} {given? : Option Path} {sample : Bool} {changes : Inputs}

/-- What overrides the sample data comes from a file, if it is anything. -/
theorem Overlays.loaded (overlays : Overlays tree here settings given? sample changes) :
    changes = [] ∨ ∃ path content, Inputs.ofBytes path content = .ok changes := by
  have loaded {path : Path} (loads : (Inputs.load (access here) path tree).1 = .ok changes) :
      ∃ path content, Inputs.ofBytes path content = .ok changes := by
    obtain ⟨content, -, decoded⟩ := FileTree.load_inputs_eq_ok_iff.mp loads
    exact ⟨path, content, decoded⟩
  cases overlays with
  | given loads => exact Or.inr (loaded loads)
  | configured _ loads => exact Or.inr (loaded loads)
  | unconfigured | sampled => exact Or.inl rfl

theorem Overlays.distinct (overlays : Overlays tree here settings given? sample changes) :
    (changes.map Prod.fst).Nodup := by
  rcases overlays.loaded with rfl | ⟨path, content, decoded⟩
  · exact List.nodup_nil
  · exact Inputs.nodup_of_ofBytes decoded

/-- Every number among the inputs of a run has a text. -/
theorem Overlays.isWritten (overlays : Overlays tree here settings given? sample changes) :
    ∀ metric ∈ (baseOf sample).override changes, metric.2.IsWritten := by
  refine Inputs.forall_mem_override (fun metric metric_mem => ?_) fun metric metric_mem => ?_
  · cases sample with
    | true => exact isWritten_of_mem_sampleInputs metric_mem
    | false => cases metric_mem
  · rcases overlays.loaded with rfl | ⟨path, content, decoded⟩
    · cases metric_mem
    · obtain ⟨data, -, found⟩ := Inputs.exists_data_of_ofBytes decoded
      obtain ⟨value, value_eq⟩ := Inputs.isReal_of_ofData found metric metric_mem
      rw [value_eq]
      exact Number.isWritten_real value

end Overlaying

section Running

/-- How a run ends that comes to an outcome. -/
def endingOf : Except Ending Unit → Ending
  | .ok () => .succeeded
  | .error ending => ending

variable [Host] [Terminal.Console]

theorem run_of_asked {arguments : List String} {request : Request}
    (asked : Request.ofArguments? arguments = some request) {outcome : Except Ending Unit}
    {shown : Screen}
    (done : (perform (Session.files (access here)) request).run.run {} tree =
      ((outcome, shown), after)) :
    run (access here) arguments tree = ((endingOf outcome, shown), after) := by
  simp only [run, asked, bind_apply, done]
  cases outcome <;> rfl

/-- A run ends as its request leads to, or is stopped by markup. -/
theorem ends_of_leads {arguments : List String} {request : Request}
    (asked : Request.ofArguments? arguments = some request) {outcome : Except Ending Unit}
    (leads : Leads legible (perform (Session.files (access here)) request) tree outcome after)
    {ending : Ending} {screen : Screen} {left : FileTree}
    (ran : run (access here) arguments tree = ((ending, screen), left)) :
    (ending = endingOf outcome ∧ left = after) ∨
      ¬legible ∧ ∃ cause, ending = .crashed (.markup cause) := by
  rcases leads {} with ⟨shown, done⟩ | ⟨illegible, cause, shown, stopped, done⟩
  · rw [run_of_asked asked done] at ran
    cases ran
    exact Or.inl ⟨rfl, rfl⟩
  · rw [run_of_asked asked done] at ran
    cases ran
    exact Or.inr ⟨illegible, cause, rfl⟩

/-- A run prints the results of its request, or is stopped by markup. -/
theorem results_of_prints {arguments : List String} {request : Request} {printed : Lines}
    (asked : Request.ofArguments? arguments = some request) {outcome : Except Ending Unit}
    (prints : Session.Prints legible (perform (Session.files (access here)) request) tree outcome
      after printed) {ending : Ending} {screen : Screen} {left : FileTree}
    (ran : run (access here) arguments tree = ((ending, screen), left)) :
    screen.results = printed ∨ ¬legible ∧ ∃ cause, ending = .crashed (.markup cause) := by
  rcases prints {} with ⟨shown, done, results_eq⟩ | ⟨illegible, cause, shown, stopped, done⟩
  · rw [run_of_asked asked done] at ran
    cases ran
    exact Or.inl results_eq
  · rw [run_of_asked asked done] at ran
    cases ran
    exact Or.inr ⟨illegible, cause, rfl⟩

end Running

section Reporting

variable {formula : Formula} {inputs : Inputs} {evaluation : Evaluation}
  (returns : formula.evaluate inputs = .ok evaluation)

include returns

/-- The report of an evaluation can be written wherever a file can and holds its texts, and only
that file changes. -/
theorem exists_exports [Halves] {output? : Option Path}
    (writable : ∀ output ∈ output?, tree.IsWritable here output)
    (encodable : ∀ output ∈ output?, evaluation.IsEncodable) :
    ∃ after, Exports evaluation here tree output? (.ok ()) after ∧
      ∀ output ∈ output?, ∃ text, evaluation.reportText (.ofPath output) = .ok text ∧
        tree.Rewritten after here output text.toUTF8 := by
  cases output? with
  | none => exact ⟨tree, ⟨rfl, rfl⟩, nofun⟩
  | some output =>
      obtain ⟨pieces, pieces_eq, encodable_iff⟩ :=
        Evaluation.exists_reportPieces returns (.ofPath output)
      have all_encodable := encodable_iff.mpr (encodable output rfl)
      obtain ⟨after, written⟩ := (writable output rfl).exists_write
        (String.ofList (pieces.takeWhile isEncodable).flatten).toUTF8
      have exports := writeReport_apply pieces_eq written
      rw [if_pos all_encodable] at exports
      refine ⟨after, exports, ?_⟩
      rintro _ ⟨⟩
      refine ⟨String.ofList pieces.flatten, by rw [Evaluation.reportText, pieces_eq]; rfl, ?_⟩
      rw [List.takeWhile_eq_self_iff.mpr (List.all_eq_true.mp all_encodable)] at written
      exact FileTree.rewritten_of_write written

/-- Of a report with a text that no file can hold only the front is written. -/
theorem exists_front [Halves] {output : Path} (writable : tree.IsWritable here output)
    (unencodable : ¬evaluation.IsEncodable) :
    ∃ pieces after, evaluation.reportPieces (.ofPath output) = .ok pieces ∧
      Exports evaluation here tree (some output) (.error .unencodable) after ∧
      tree.Rewritten after here output
        (String.ofList (pieces.takeWhile isEncodable).flatten).toUTF8 := by
  obtain ⟨pieces, pieces_eq, encodable_iff⟩ :=
    Evaluation.exists_reportPieces returns (.ofPath output)
  obtain ⟨after, written⟩ := writable.exists_write
    (String.ofList (pieces.takeWhile isEncodable).flatten).toUTF8
  have exports := writeReport_apply pieces_eq written
  rw [if_neg (mt encodable_iff.mp unencodable)] at exports
  exact ⟨pieces, after, pieces_eq, exports, FileTree.rewritten_of_write written⟩

end Reporting

/-- A run of the command line does what the loaders, the evaluation, the report and the issues of a
formula do, unless markup stops it.

Asked to evaluate, it takes the formula that is given, else the one of the settings; the metrics of
the sample data, if they are asked for, overridden name by name; and the output that is given, else
the one of the settings.  Its exit code tells whether the evaluation succeeded.  Without an output
it leaves the tree as it is; otherwise it writes the report of that evaluation there, and changes no
other file.  But with an output that cannot hold the texts of the evaluation it breaks off and
leaves the front of the report there.

Asked to check, its exit code tells whether some issue is an error, and it leaves the tree as it
is. -/
theorem run_does_what_is_asked [Host] [Terminal.Console] {tree after : FileTree}
    {here : List String} {arguments : List String} {ending : Ending} {screen : Screen}
    (ran : run (access here) arguments tree = ((ending, screen), after)) :
    (∀ {formula? inputs? output? : Option Path} {sample : Bool} {settings : Settings} {path : Path}
        {formula : Formula} {changes inputs : Inputs} {evaluation : Evaluation},
      Request.ofArguments? arguments = some (.evaluate formula? inputs? output? sample) →
      Selects tree here formula? settings path formula →
      Overlays tree here settings inputs? sample changes →
      (∀ name, inputs.lookup name = (changes.lookup name).or ((baseOf sample).lookup name)) →
      formula.evaluate inputs = .ok evaluation →
      (∀ output ∈ output?.or settings.output?, tree.IsWritable here output) →
      (∀ cause, ending ≠ .crashed (.markup cause)) →
      ((∀ output ∈ output?.or settings.output?, evaluation.IsEncodable) →
        ending.exitCode = (if evaluation.succeeded then 0 else 1) ∧
          (output?.or settings.output? = none → after = tree) ∧
          ∀ output ∈ output?.or settings.output?,
            evaluation.writeReport (access here) output tree = (.ok (), after) ∧
              ∃ text, evaluation.reportText (.ofPath output) = .ok text ∧
                tree.Rewritten after here output text.toUTF8) ∧
        ∀ output ∈ output?.or settings.output?, ¬evaluation.IsEncodable →
          ending = .crashed .unencodable ∧
            ∃ pieces, evaluation.reportPieces (.ofPath output) = .ok pieces ∧
              tree.Rewritten after here output
                (String.ofList (pieces.takeWhile isEncodable).flatten).toUTF8) ∧
    ∀ {formula? : Option Path} {settings : Settings} {path : Path} {formula : Formula},
      Request.ofArguments? arguments = some (.check formula?) →
      Selects tree here formula? settings path formula →
      ((∃ issue ∈ formula.issues, issue.severity = .error) → ending.exitCode = 1) ∧
        ((∀ cause, ending ≠ .crashed (.markup cause)) →
          ((∀ issue ∈ formula.issues, issue.severity ≠ .error) → ending.exitCode = 0) ∧
            after = tree) := by
  constructor
  · intro formula? inputs? output? sample settings path formula changes inputs evaluation asked
      selects overlays overridden returns writable printed
    rw [← formula.evaluate_override overlays.distinct overridden] at returns
    have leads {written : Except ReportError Unit} {final : FileTree}
        (exports : Exports evaluation here tree (output?.or settings.output?) written final) :
        Leads False
          (perform (Session.files (access here)) (.evaluate formula? inputs? output? sample)) tree
          (concluded evaluation written) final :=
      leads_evaluate selects overlays overlays.isWritten returns exports False.elim
    refine ⟨fun encodable => ?_, fun output named unencodable => ?_⟩
    · obtain ⟨final, exports, rewritten⟩ := exists_exports returns writable encodable
      rcases ends_of_leads asked (leads exports) ran with ⟨ending_eq, rfl⟩ | ⟨-, cause, crashed⟩
      · refine ⟨?_, fun unnamed => ?_, fun output named => ⟨?_, rewritten output named⟩⟩
        · rw [ending_eq, concluded]
          cases evaluation.succeeded <;> rfl
        · rw [unnamed] at exports
          exact exports.2
        · rw [named] at exports
          exact exports
      · exact absurd crashed (printed cause)
    · obtain ⟨pieces, final, pieces_eq, exports, rewritten⟩ :=
        exists_front returns (writable output named) unencodable
      rw [← named] at exports
      rcases ends_of_leads asked (leads exports) ran with ⟨ending_eq, rfl⟩ | ⟨-, cause, crashed⟩
      · exact ⟨ending_eq, pieces, pieces_eq, rewritten⟩
      · exact absurd crashed (printed cause)
  · intro formula? settings path formula asked selects
    have leads :
        Leads False (perform (Session.files (access here)) (.check formula?)) tree _ tree :=
      leads_check selects False.elim
    have failed : Issue.anyError formula.issues = true ↔
        ∃ issue ∈ formula.issues, issue.severity = .error := by
      simp [Issue.anyError]
    rcases ends_of_leads asked leads ran with ⟨ending_eq, left_eq⟩ | ⟨-, cause, crashed⟩
    · refine ⟨fun erroneous => ?_, fun _ => ⟨fun faultless => ?_, left_eq⟩⟩
      · rw [ending_eq, if_pos (failed.mpr erroneous)]
        rfl
      · have unerring : ¬Issue.anyError formula.issues = true := by
          rw [failed]
          rintro ⟨issue, issue_mem, severe⟩
          exact faultless issue issue_mem severe
        rw [ending_eq, if_neg unerring]
        rfl
    · refine ⟨fun _ => ?_, fun printed => absurd crashed (printed cause)⟩
      rw [crashed]
      rfl

/-- A formula whose amount is a metric. -/
def spots : Formula where
  id := "cupo"
  name := ""
  nodes := [⟨"lugares", .variable "lugares"⟩]
  connections := []
  result? := some "lugares"
  distinct := by decide

/-- The document of the formula beside a file of inputs. -/
def spotsTree : FileTree where
  files := [
    (["cupo.json"], ("\x7b\"id\": \"cupo\", \"nodos\": [\x7b\"id\": \"lugares\", " ++
      "\"tipo\": \"variable\", \"datos\": \x7b\"variable\": \"lugares\"\x7d\x7d], " ++
      "\"nodoResultado\": \"lugares\"\x7d").toUTF8),
    (["clase.toml"], "lugares = 7".toUTF8)]
  directories := []

/-- Path of the document. -/
def spotsPath : Path := ⟨.relative, ["cupo.json"]⟩

/-- Path of the report. -/
def reportPath : Path := ⟨.relative, ["pago.json"]⟩

/-- Seven in double precision. -/
def seven : Number :=
  .real (.finite false ⟨4619567317775286272, by decide⟩)

/-- What the formula evaluates to with the inputs in the file. -/
def spotsEvaluation : Evaluation :=
  ⟨seven, [.ordinary "lugares" "Variable lugares: 7" seven], none⟩

/-- A terminal that is wider than most. -/
@[reducible]
def wideConsole : Terminal.Console := ⟨120, by decide⟩

attribute [local instance] Host.usual wideConsole

theorem spots_selected : Selects spotsTree [] (some spotsPath) {} spotsPath spots where
  settings_hold := rfl
  path_eq := rfl
  formula_loads := formula_loads_of_text rfl
    (String.toList_append.trans (congrArg (· ++ _) String.toList_append)) (by decide +kernel)

theorem spots_overlaid : Overlays spotsTree [] {} (some classPath) true [("lugares", seven)] :=
  .given (Except.eq_ok_of_toOption (by decide +kernel))

theorem seven_displayed : seven.display = .ok "7" :=
  Except.eq_ok_of_toOption (by decide +kernel)

theorem spots_returns :
    spots.evaluate ((baseOf true).override [("lugares", seven)]) = .ok spotsEvaluation := by
  refine Formula.evaluate_of_leaf rfl rfl (fun _ _ => rfl) ?_
  have valued : ((baseOf true).override [("lugares", seven)]).valueOf "lugares" = seven := rfl
  rw [Reading.conclude, Reading.written, valued, seven_displayed]
  rfl

theorem spots_legible :
    LegibleEvaluation spotsPath spots (some classPath)
      ((baseOf true).override [("lugares", seven)]) spotsEvaluation (some reportPath) where
  formula_path := by decide
  formula_name := by decide
  inputs_path := by
    rintro _ ⟨⟩
    decide
  metrics := by
    decide
  lines := by
    intro step step_mem
    rw [List.mem_singleton.mp step_mem]
    exact ⟨by decide, by decide⟩
  outcome := {
    amount := fun _ shown => Display.isBland_display shown
    failure := nofun }
  output_path := by
    rintro _ ⟨⟩
    decide

theorem spots_issues : spots.issues = [] := by
  cbv

section

variable {ending : Ending} {screen : Screen} {after : FileTree}

/-- Sample data with another number of spots, and a report in JSON. -/
def evaluateArguments : List String :=
  ["eval", "cupo.json", "-i", "clase.toml", "-o", "pago.json", "--sample"]

theorem evaluate_asked :
    Request.ofArguments? evaluateArguments =
      some (.evaluate (some spotsPath) (some classPath) (some reportPath) true) := by
  decide

theorem report_writable : ∀ output ∈ some reportPath, spotsTree.IsWritable [] output := by
  rintro _ ⟨⟩
  exact ⟨.empty, _, rfl⟩

theorem spots_encodable : spotsEvaluation.IsEncodable where
  failure := nofun
  nodes := by
    intro step step_mem
    rw [List.mem_singleton.mp step_mem]
    decide
  descriptions := by
    intro step step_mem
    rw [List.mem_singleton.mp step_mem]
    decide

theorem evaluate_printed
    (ran : run (access []) evaluateArguments spotsTree = ((ending, screen), after)) :
    ∀ cause, ending ≠ .crashed (.markup cause) := by
  obtain ⟨final, exports, -⟩ := exists_exports spots_returns report_writable
    fun _ _ => spots_encodable
  have leads : Leads True (perform (Session.files (access []))
      (.evaluate (some spotsPath) (some classPath) (some reportPath) true)) spotsTree _ final :=
    leads_evaluate spots_selected spots_overlaid (Overlays.isWritten spots_overlaid) spots_returns
      exports fun _ => spots_legible
  rcases ends_of_leads evaluate_asked leads ran with ⟨rfl, -⟩ | ⟨illegible, -⟩
  · intro cause crashed
    cases crashed
  · exact absurd trivial illegible

theorem check_asked :
    Request.ofArguments? ["check", "cupo.json"] = some (.check (some spotsPath)) := by
  decide

theorem check_printed
    (ran : run (access []) ["check", "cupo.json"] spotsTree = ((ending, screen), after)) :
    ∀ cause, ending ≠ .crashed (.markup cause) := by
  have issues_bland : BlandIssues spots.issues := by
    rw [spots_issues]
    exact List.forall_mem_nil _
  have leads : Leads True (perform (Session.files (access [])) (.check (some spotsPath))) spotsTree
      _ spotsTree :=
    leads_check spots_selected fun _ =>
      ⟨LegibleEvaluation.formula_path spots_legible, LegibleEvaluation.formula_name spots_legible,
        issues_bland⟩
  rcases ends_of_leads check_asked leads ran with ⟨rfl, -⟩ | ⟨illegible, -⟩
  · rw [spots_issues]
    intro cause crashed
    cases crashed
  · exact absurd trivial illegible

end

theorem spots_evaluated_and_checked :
    (∃ ending screen after,
      run (access []) evaluateArguments spotsTree = ((ending, screen), after) ∧
        ending.exitCode = 0 ∧
        ∃ text, spotsEvaluation.reportText .json = .ok text ∧
          after.read [] reportPath = .ok text.toUTF8) ∧
      ∃ ending screen after,
        run (access []) ["check", "cupo.json"] spotsTree = ((ending, screen), after) ∧
          ending.exitCode = 0 ∧ after = spotsTree := by
  constructor
  · obtain ⟨⟨⟨ending, screen⟩, after⟩, ran⟩ :
        ∃ result, run (access []) evaluateArguments spotsTree = result :=
      ⟨_, rfl⟩
    obtain ⟨exit, -, reported⟩ := ((run_does_what_is_asked ran).1 evaluate_asked spots_selected
      spots_overlaid (Inputs.lookup_override (by decide) _) spots_returns report_writable
      (evaluate_printed ran)).1 fun _ _ => spots_encodable
    obtain ⟨-, text, text_eq, rewritten⟩ := reported _ rfl
    exact ⟨ending, screen, after, ran, exit, text, text_eq, rewritten.read⟩
  · obtain ⟨⟨⟨ending, screen⟩, after⟩, ran⟩ :
        ∃ result, run (access []) ["check", "cupo.json"] spotsTree = result :=
      ⟨_, rfl⟩
    obtain ⟨passed, left_eq⟩ := ((run_does_what_is_asked ran).2 check_asked spots_selected).2
      (check_printed ran)
    have faultless : ∀ issue ∈ spots.issues, issue.severity ≠ .error := by
      rw [spots_issues]
      nofun
    exact ⟨ending, screen, after, ran, passed faultless, left_eq⟩

/-- Half of a surrogate pair. -/
def halfText : String := String.singleton (halfCharacter 0xD800)

/-- A formula whose amount is a metric with that name. -/
def halved : Formula where
  id := "cupo"
  name := ""
  nodes := [⟨"lugares", .variable halfText⟩]
  connections := []
  result? := some "lugares"
  distinct := by decide

/-- The document of the formula, which spells the half as an escape. -/
def halvedTree : FileTree where
  files := [(["f.json"], ("\x7b\"id\": \"cupo\", \"nodos\": [\x7b\"id\": \"lugares\", " ++
    "\"tipo\": \"variable\", \"datos\": \x7b\"variable\": \"\\ud800\"\x7d\x7d], " ++
    "\"nodoResultado\": \"lugares\"\x7d").toUTF8)]
  directories := []

/-- Path of the document. -/
def halvedPath : Path := ⟨.relative, ["f.json"]⟩

/-- Path of its report. -/
def brokenPath : Path := ⟨.relative, ["out.json"]⟩

/-- What the formula evaluates to without inputs. -/
def halvedEvaluation : Evaluation :=
  ⟨.zero, [.ordinary "lugares" s!"Variable {halfText}: 0" .zero], none⟩

theorem halved_selected : Selects halvedTree [] (some halvedPath) {} halvedPath halved where
  settings_hold := rfl
  path_eq := rfl
  formula_loads := formula_loads_of_text rfl
    (String.toList_append.trans (congrArg (· ++ _) String.toList_append)) (by decide +kernel)

theorem halved_returns : halved.evaluate [] = .ok halvedEvaluation := by
  refine Formula.evaluate_of_leaf rfl rfl (fun _ _ => rfl) ?_
  have valued : Inputs.valueOf [] halfText = .zero := rfl
  have small : (0 : Int).natAbs < Nat.pow 10 digitLimit :=
    Nat.zero_lt_of_lt Number.one_lt_longest
  have displayed : Number.zero.display = .ok "0" := by
    rw [Number.zero, Number.display, boundedText, if_pos small]
    rfl
  rw [Reading.conclude, Reading.written, valued, displayed]
  rfl

theorem halved_legible :
    LegibleEvaluation halvedPath halved none [] halvedEvaluation (some brokenPath) where
  formula_path := by decide
  formula_name := by decide
  inputs_path := nofun
  metrics := nofun
  lines := by
    intro step step_mem
    rw [List.mem_singleton.mp step_mem]
    refine ⟨by decide, ?_⟩
    simp only [toString]
    decide
  outcome := {
    amount := fun _ shown => Display.isBland_display shown
    failure := nofun }
  output_path := by
    rintro _ ⟨⟩
    decide

/-- The evaluation succeeds, but the run breaks off over its report and leaves an empty file. -/
theorem halved_report_broken_off :
    Selects halvedTree [] (some halvedPath) {} halvedPath halved ∧
      halved.evaluate [] = .ok halvedEvaluation ∧ halvedEvaluation.succeeded = true ∧
      halvedTree.IsWritable [] brokenPath ∧
      ∃ ending screen after,
        run (access []) ["eval", "f.json", "-o", "out.json"] halvedTree =
          ((ending, screen), after) ∧
        ending = .crashed .unencodable ∧ ending.exitCode = 1 ∧
        after.read [] brokenPath = .ok "".toUTF8 := by
  obtain ⟨⟨⟨ending, screen⟩, after⟩, ran⟩ :
      ∃ result, run (access []) ["eval", "f.json", "-o", "out.json"] halvedTree = result :=
    ⟨_, rfl⟩
  have asked : Request.ofArguments? ["eval", "f.json", "-o", "out.json"] =
      some (.evaluate (some halvedPath) none (some brokenPath) false) := by
    decide
  have writable : halvedTree.IsWritable [] brokenPath := ⟨.empty, _, rfl⟩
  have unencodable : ¬halvedEvaluation.IsEncodable := by
    intro encodable
    have described := encodable.descriptions _ List.mem_cons_self
    simp only [toString] at described
    exact absurd described (by decide)
  obtain ⟨pieces, final, pieces_eq, exports, rewritten⟩ :=
    exists_front halved_returns writable unencodable
  have overlays : Overlays halvedTree [] {} none false [] := .unconfigured rfl
  have leads : Leads True (perform (Session.files (access []))
      (.evaluate (some halvedPath) none (some brokenPath) false)) halvedTree _ final :=
    leads_evaluate halved_selected overlays overlays.isWritten halved_returns exports
      fun _ => halved_legible
  have front_eq := Evaluation.front_of_json halved_returns unencodable pieces_eq
  rcases ends_of_leads asked leads ran with ⟨ending_eq, rfl⟩ | ⟨illegible, -⟩
  · refine ⟨halved_selected, halved_returns, rfl, writable, ending, screen, after, ran, ending_eq,
      by rw [ending_eq]; rfl, ?_⟩
    have read := rewritten.read
    rw [front_eq] at read
    exact read
  · exact absurd trivial illegible

end Command
end PayGraph

import PayGraph.Proofs.Command

/-!
# The printed amount

A run that evaluates a formula and comes as far as its end prints the amount, and nothing else, as
its result.  The amount stands alone on its line as long as a line of the terminal can hold it; a
longer one is folded, and so it is no longer the text of the amount that a pipe would read.
-/

namespace PayGraph

/-- Text on the standard output. -/
def Screen.output (screen : Screen) : String :=
  String.ofList (screen.results.flatMap (· ++ ['\n']))

namespace Terminal

/-- Folded lines make up the text on a line of its own if and only if the text fits on one. -/
theorem Folds.output_eq_iff {limit : Nat} {text : String} {screen : Screen}
    (folds : Folds limit text.toList screen.results) :
    screen.output = text ++ "\n" ↔ text.length ≤ limit := by
  have total (lines : Lines) :
      (lines.flatMap (· ++ ['\n'])).length = lines.flatten.length + lines.length := by
    induction lines with
    | nil => rfl
    | cons line rest induction =>
        rw [List.flatMap_cons, List.length_append, induction, List.flatten_cons]
        simp only [List.length_append, List.length_cons, List.length_nil]
        omega
  have counted := folds.length_lines
  rw [String.length_toList] at counted
  split at counted
  · rename_i fits
    simp [Screen.output, counted, fits]
  · rename_i long
    refine iff_of_false (fun same => ?_) long
    have lengths := congrArg String.length same
    rw [Screen.output, String.length_append, String.length_ofList, total, folds.flatten_eq,
      String.length_toList] at lengths
    have break_length : "\n".length = 1 := by decide
    omega

end Terminal

namespace Command

open FileTree (access)
open Terminal.Markup (IsBland)

theorem folds_printedBy [Terminal.Console] {number : Number} {text : String}
    (display_eq : number.display = .ok text) :
    Terminal.Folds Terminal.Console.columns text.toList (printedBy text (.ok ())) :=
  Display.folds_of_numeric (Number.isNumericText_display display_eq)

/-- A run that comes to an amount prints its text, folded at the width of the terminal.  So the
standard output is that text on a line of its own if and only if the text fits on one. -/
theorem amount_printed [Host] [Terminal.Console] {tree after final : FileTree}
    {here : List String} {arguments : List String}
    {ending : Ending} {screen : Screen} {formula? inputs? output? : Option Path} {sample : Bool}
    {settings : Settings} {path : Path} {formula : Formula} {changes inputs : Inputs}
    {evaluation : Evaluation}
    (ran : run (access here) arguments tree = ((ending, screen), after))
    (asked : Request.ofArguments? arguments = some (.evaluate formula? inputs? output? sample))
    (selects : Selects tree here formula? settings path formula)
    (overlays : Overlays tree here settings inputs? sample changes)
    (overridden : ∀ name,
      inputs.lookup name = (changes.lookup name).or ((baseOf sample).lookup name))
    (returns : formula.evaluate inputs = .ok evaluation)
    (exports : Exports evaluation here tree (output?.or settings.output?) (.ok ()) final)
    (printed : ∀ cause, ending ≠ .crashed (.markup cause)) :
    ∃ text, evaluation.value.display = .ok text ∧
      Terminal.Folds Terminal.Console.columns text.toList screen.results ∧
      (screen.output = text ++ "\n" ↔ text.length ≤ Terminal.Console.columns) := by
  rw [← formula.evaluate_override overlays.distinct overridden] at returns
  obtain ⟨text, display_eq⟩ : evaluation.value.IsWritten :=
    (Evaluation.isBrief_of_evaluate returns).isWritten List.mem_cons_self
  have prints : Session.Prints False
      (perform (Session.files (access here)) (.evaluate formula? inputs? output? sample)) tree _
      final _ :=
    prints_evaluate selects overlays overlays.isWritten returns display_eq exports False.elim
  rcases results_of_prints asked prints ran with results_eq | ⟨-, cause, crashed⟩
  · have folds := folds_printedBy display_eq
    rw [← results_eq] at folds
    exact ⟨text, display_eq, folds, folds.output_eq_iff⟩
  · exact absurd crashed (printed cause)

attribute [local instance] Host.usual wideConsole

/-- Seven spots fit on a line. -/
theorem spots_amount_printed :
    ∃ ending screen after, run (access []) evaluateArguments spotsTree = ((ending, screen), after) ∧
      screen.output = "7\n" := by
  obtain ⟨⟨⟨ending, screen⟩, after⟩, ran⟩ :
      ∃ result, run (access []) evaluateArguments spotsTree = result :=
    ⟨_, rfl⟩
  obtain ⟨final, exports, -⟩ := exists_exports spots_returns report_writable
    fun _ _ => spots_encodable
  obtain ⟨text, display_eq, -, alone⟩ := amount_printed ran evaluate_asked spots_selected
    spots_overlaid (Inputs.lookup_override (by decide) _) spots_returns exports
    (evaluate_printed ran)
  obtain rfl : text = "7" := Except.ok.inj (display_eq.symm.trans seven_displayed)
  exact ⟨ending, screen, after, ran, alone.mpr (by decide)⟩

/-- A whole number with more digits than a line has columns. -/
def prizeWhole : Int :=
  100000000000000005978307824605161518517492902523380907087363594983220082057511309363105603 *
      10 ^ 41 +
    41066601403445681992244323541365884452864

/-- That number in double precision. -/
def prizeAmount : Number :=
  .real (.finite false ⟨6551851672448740766, by decide⟩)

/-- Its text. -/
def prizeText : String :=
  String.ofList (wholeText prizeWhole)

/-- A formula that comes to it. -/
def prize : Formula where
  id := "premio"
  name := ""
  nodes := [⟨"premio", .constant prizeAmount⟩]
  connections := []
  result? := some "premio"
  distinct := by decide

/-- The document of that formula. -/
def prizeDocument : String :=
  "\x7b\"id\": \"premio\", \"nodos\": [\x7b\"id\": \"premio\", " ++
    ("\"tipo\": \"numero\", \"datos\": \x7b\"valor\": 1e130\x7d\x7d], " ++
      "\"nodoResultado\": \"premio\"\x7d")

/-- A place that has nothing else in it. -/
def prizeTree : FileTree where
  files := [(["premio.json"], prizeDocument.toUTF8)]
  directories := []

/-- Path of that document. -/
def prizePath : Path := ⟨.relative, ["premio.json"]⟩

/-- What the formula evaluates to. -/
def prizeEvaluation : Evaluation :=
  ⟨prizeAmount, [.ordinary "premio" ("Número constante: " ++ prizeText) prizeAmount], none⟩

theorem prize_selected : Selects prizeTree [] (some prizePath) {} prizePath prize where
  settings_hold := rfl
  path_eq := rfl
  formula_loads :=
    formula_loads_of_text rfl (String.toList_append.trans (congrArg _ String.toList_append))
      (by decide +kernel)

theorem prize_displayed : prizeAmount.display = .ok prizeText := by
  have whole : Binary64.toInt? (.finite false ⟨6551851672448740766, by decide⟩) =
      some prizeWhole := by
    decide +kernel
  rw [prizeAmount, Number.display]
  simp only [whole, prizeText]

theorem prize_long : ¬prizeText.length ≤ Terminal.Console.columns := by
  rw [prizeText, String.length_ofList, length_wholeText_le_iff (by decide) (by decide)]
  decide

theorem prize_returns (inputs : Inputs) : prize.evaluate inputs = .ok prizeEvaluation := by
  refine Formula.evaluate_of_leaf rfl rfl (fun _ _ => rfl) ?_
  rw [Reading.conclude, Reading.written, prize_displayed]
  rfl

theorem prize_legible : LegibleEvaluation prizePath prize none [] prizeEvaluation none where
  formula_path := by decide
  formula_name := by decide
  inputs_path := nofun
  metrics := nofun
  lines := by
    intro step step_mem
    rw [List.mem_singleton.mp step_mem]
    have label_bland : IsBland "Número constante: ".toList := by decide
    have described := label_bland.append (Display.isBland_display prize_displayed)
    rw [← String.toList_append] at described
    exact ⟨by decide, described⟩
  outcome := {
    amount := fun _ shown => Display.isBland_display shown
    failure := nofun }
  output_path := nofun

/-- The amount of the prize is folded, so the standard output is not its text on a line. -/
theorem prize_amount_folded :
    ∃ ending screen after,
      run (access []) ["eval", "premio.json"] prizeTree = ((ending, screen), after) ∧
        ending.exitCode = 0 ∧ prizeEvaluation.value.display = .ok prizeText ∧
        screen.output ≠ prizeText ++ "\n" := by
  obtain ⟨⟨⟨ending, screen⟩, after⟩, ran⟩ :
      ∃ result, run (access []) ["eval", "premio.json"] prizeTree = result :=
    ⟨_, rfl⟩
  have asked : Request.ofArguments? ["eval", "premio.json"] =
      some (.evaluate (some prizePath) none none false) := by
    decide
  have overlays : Overlays prizeTree [] {} none false [] := .unconfigured rfl
  have prints : Session.Prints True (perform (Session.files (access []))
      (.evaluate (some prizePath) none none false)) prizeTree _ prizeTree _ :=
    prints_evaluate prize_selected overlays overlays.isWritten (prize_returns _) prize_displayed
      ⟨rfl, rfl⟩ fun _ => prize_legible
  have folds := folds_printedBy prize_displayed
  rcases ends_of_leads asked prints.leads ran with ⟨rfl, -⟩ | ⟨illegible, -⟩
  · rcases results_of_prints asked prints ran with results_eq | ⟨illegible, -⟩
    · rw [← results_eq] at folds
      refine ⟨_, screen, after, ran, rfl, prize_displayed, fun same => ?_⟩
      exact prize_long (folds.output_eq_iff.mp same)
    · exact absurd trivial illegible
  · exact absurd trivial illegible

end Command
end PayGraph

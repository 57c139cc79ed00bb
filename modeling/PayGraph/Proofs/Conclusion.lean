import PayGraph.Evaluation

/-!
# Conclusions

Once its operands have values, a node concludes its own value and one line for the trace.  The
relation lists what it may conclude, kind by kind; it is exactly the success of `Reading.conclude`.
-/

namespace PayGraph

/-- The value and the line that a node concludes from the values of its operands. -/
inductive Concludes (inputs : Inputs) (id : String) : Reading Number → Number → Step → Prop
  | metric {name text : String} :
      (inputs.valueOf name).display = .ok text →
      Concludes inputs id (.metric name) (inputs.valueOf name)
        (.ordinary id s!"Variable {name}: {text}" (inputs.valueOf name))
  | literal {value : Number} {text : String} :
      value.display = .ok text →
      Concludes inputs id (.literal value) value
        (.ordinary id s!"Número constante: {text}" value)
  | fold {operator : Operator} {operands : List Number} {value : Number} {listed text : String} :
      operator.apply id operands = .ok value →
      Reading.listed operands = .ok listed →
      value.display = .ok text →
      Concludes inputs id (.fold operator operands) value
        (.ordinary id s!"Operación {operator.word}: [{listed}] = {text}" value)
  | comparison {condition : Operator} {left right : Number} {outcome : Bool} {encoded : Int}
      {symbol leftText rightText : String} :
      condition.compare id left right = .ok outcome →
      condition.symbol id = .ok symbol →
      left.display = .ok leftText →
      right.display = .ok rightText →
      encoded = (if outcome then 1 else 0) →
      Concludes inputs id (.comparison condition left right) (.integer encoded)
        (.ordinary id s!"Comparación: {leftText} {symbol} {rightText} = {encoded}"
          (.boolean outcome))
  | passage {value : Number} {text : String} :
      value.display = .ok text →
      Concludes inputs id (.passage value) value (.ordinary id s!"Resultado final: {text}" value)

namespace Operator

theorem unsupported_of_compare_error {node : String} {condition : Operator} {left right : Number}
    {failure : Failure} (compared : condition.compare node left right = .error failure) :
    condition.isRelational = false ∧ failure = .unsupported node condition.word := by
  revert compared
  fun_cases Operator.compare node condition left right with
  | case1 => rintro ⟨⟩
  | case2 no_relation =>
      rintro ⟨⟩
      refine ⟨?_, rfl⟩
      cases condition <;> first | rfl | cases no_relation

theorem unsupported_of_symbol_error {node : String} {condition : Operator} {failure : Failure}
    (symbol_eq : condition.symbol node = .error failure) :
    condition.isRelational = false ∧ failure = .unsupported node condition.word := by
  revert symbol_eq
  fun_cases Operator.symbol node condition with
  | case1 => rintro ⟨⟩
  | case2 no_symbol =>
      rintro ⟨⟩
      refine ⟨?_, rfl⟩
      cases condition <;> first | rfl | cases no_symbol

theorem overflow_of_orOverflow_error {node : String} {computed : Option Number} {failure : Failure}
    (applied : orOverflow node computed = .error failure) : failure = .overflow node := by
  cases computed with
  | some value => cases applied
  | none =>
      cases applied
      rfl

/-- An operation fails for want of operands, for a relational operator or in its arithmetic. -/
theorem cause_of_apply_error {node : String} {operator : Operator} {operands : List Number}
    {failure : Failure} (applied : operator.apply node operands = .error failure) :
    (∃ required given, failure = .insufficientOperands node operator.word required given) ∨
      failure = .divisionByZero node ∨ failure = .overflow node ∨
      operator.isRelational = true ∧ failure = .unsupported node operator.word := by
  cases operands with
  | nil =>
      rw [apply] at applied
      cases applied
      exact Or.inl ⟨1, 0, rfl⟩
  | cons first rest =>
      cases operator with
      | sum | subtraction | multiplication =>
          exact Or.inr (Or.inr (Or.inl (overflow_of_orOverflow_error applied)))
      | division =>
          cases rest with
          | nil =>
              cases applied
              exact Or.inl ⟨2, 1, rfl⟩
          | cons divisor rest =>
              simp only [apply] at applied
              split at applied
              · cases applied
                exact Or.inr (Or.inl rfl)
              · exact Or.inr (Or.inr (Or.inl (overflow_of_orOverflow_error applied)))
      | percentage =>
          cases rest with
          | nil =>
              cases applied
              exact Or.inl ⟨2, 1, rfl⟩
          | cons rate rest =>
              exact Or.inr (Or.inr (Or.inl (overflow_of_orOverflow_error applied)))
      | greaterThan | lessThan | equal | greaterEqual | lessEqual =>
          cases applied
          exact Or.inr (Or.inr (Or.inr ⟨rfl, rfl⟩))

/-- Only an arithmetic operator with operands gives a value. -/
theorem arithmetic_of_apply {node : String} {operator : Operator} {operands : List Number}
    {value : Number} (applied : operator.apply node operands = .ok value) :
    operator.isRelational = false ∧ operands ≠ [] := by
  cases operands with
  | nil => cases applied
  | cons first rest =>
      refine ⟨?_, List.cons_ne_nil first rest⟩
      cases operator with
      | sum | subtraction | multiplication | division | percentage => rfl
      | greaterThan | lessThan | equal | greaterEqual | lessEqual => cases applied

theorem relational_of_compare {node : String} {condition : Operator} {left right : Number}
    {outcome : Bool} (compared : condition.compare node left right = .ok outcome) :
    condition.isRelational = true := by
  cases condition with
  | sum | subtraction | multiplication | division | percentage => cases compared
  | greaterThan | lessThan | equal | greaterEqual | lessEqual => rfl

end Operator

namespace Reading

variable {inputs : Inputs} {id : String}

theorem exists_text_of_written {value result : Number} {describe : String → String} {step : Step}
    (concluded : written id value describe = .ok (result, step)) :
    ∃ text, value.display = .ok text ∧ result = value ∧
      step = .ordinary id (describe text) value := by
  revert concluded
  fun_cases written id value describe with
  | case1 text shown =>
      rintro ⟨⟩
      exact ⟨text, shown, rfl, rfl⟩
  | case2 => rintro ⟨⟩

theorem written_ne_failed {value : Number} {describe : String → String} {failure : Failure} :
    written id value describe ≠ .error (.failed failure) := by
  fun_cases written id value describe with
  | case1 | case2 => rintro ⟨⟩

/-- What a node concludes is listed. -/
theorem concludes_of_conclude {values : Reading Number} {value : Number} {step : Step}
    (concluded : values.conclude inputs id = .ok (value, step)) :
    Concludes inputs id values value step := by
  revert concluded
  fun_cases conclude inputs id values with
  | case1 name =>
      intro concluded
      obtain ⟨text, shown, rfl, rfl⟩ := exists_text_of_written concluded
      exact .metric shown
  | case2 number =>
      intro concluded
      obtain ⟨text, shown, rfl, rfl⟩ := exists_text_of_written concluded
      exact .literal shown
  | case5 operator operands amount applied listed listed_eq =>
      intro concluded
      obtain ⟨text, shown, rfl, rfl⟩ := exists_text_of_written concluded
      exact .fold applied listed_eq shown
  | case6 condition left right outcome symbol symbol_eq compared _ leftText rightText right_shown
      left_shown =>
      rintro ⟨⟩
      exact .comparison compared symbol_eq left_shown right_shown rfl
  | case11 number =>
      intro concluded
      obtain ⟨text, shown, rfl, rfl⟩ := exists_text_of_written concluded
      exact .passage shown
  | case3 | case4 | case7 | case8 | case9 | case10 => rintro ⟨⟩

/-- Only an operation or a comparison fails, the latter for want of a relation. -/
theorem exists_cause_of_conclude_failed {values : Reading Number} {failure : Failure}
    (concluded : values.conclude inputs id = .error (.failed failure)) :
    (∃ operator operands, values = .fold operator operands ∧
        operator.apply id operands = .error failure) ∨
      ∃ condition left right, values = .comparison condition left right ∧
        condition.isRelational = false ∧ failure = .unsupported id condition.word := by
  revert concluded
  fun_cases conclude inputs id values with
  | case3 operator operands cause applied =>
      rintro ⟨⟩
      exact Or.inl ⟨operator, operands, rfl, applied⟩
  | case9 condition left right cause compared =>
      rintro ⟨⟩
      exact Or.inr ⟨condition, left, right, rfl, Operator.unsupported_of_compare_error compared⟩
  | case10 condition left right cause symbol_eq =>
      rintro ⟨⟩
      exact Or.inr ⟨condition, left, right, rfl, Operator.unsupported_of_symbol_error symbol_eq⟩
  | case1 | case2 | case5 | case11 => exact fun concluded => absurd concluded written_ne_failed
  | case4 | case6 | case7 | case8 => rintro ⟨⟩

end Reading

namespace Concludes

variable {inputs : Inputs} {id : String} {values : Reading Number} {value : Number} {step : Step}

theorem node_eq (concludes : Concludes inputs id values value step) : step.node = id := by
  cases concludes <;> rfl

theorem ordinary (concludes : Concludes inputs id values value step) : step.isError = false := by
  cases concludes <;> rfl

/-- What is listed is what a node concludes. -/
theorem conclude_eq (concludes : Concludes inputs id values value step) :
    values.conclude inputs id = .ok (value, step) := by
  cases concludes with
  | metric shown | literal shown | passage shown =>
      rw [Reading.conclude, Reading.written, shown]
  | fold applied listed_eq shown =>
      simp only [Reading.conclude, applied, listed_eq, Reading.written, shown]
  | comparison compared symbol_eq left_shown right_shown encoded_eq =>
      simp only [Reading.conclude, compared, symbol_eq, left_shown, right_shown, encoded_eq]

theorem unique {other : Number} {line : Step} (concludes : Concludes inputs id values value step)
    (again : Concludes inputs id values other line) : other = value ∧ line = step := by
  have same := again.conclude_eq
  rw [concludes.conclude_eq] at same
  cases same
  exact ⟨rfl, rfl⟩

end Concludes
end PayGraph

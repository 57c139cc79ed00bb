import PayGraph.Data
import PayGraph.Number.Reading

/-!
# What the faults of a reader tell about its text

A reader takes a part off the front of a text, so whatever it meets is a part of that text.  It
gives up on the length of a number only over a run of too many digits, and on the depth of a nesting
only after as many opening brackets as there was room for.
-/

namespace PayGraph

/-- Number of the brackets and braces that open a list or a table. -/
def openings (text : List Char) : Nat :=
  text.countP fun character => character = '[' || character = '{'

/-- A part of the text is made of digits, too many of them, and perhaps underscores. -/
def HasLongRun (text : List Char) : Prop :=
  ∃ run, run <:+: text ∧ (∀ character ∈ run, character.isDigit ∨ character = '_') ∧
    digitLimit < (run.filter Char.isDigit).length

/-- What a text holds if a reader ends with a fault over it.  Every opening bracket takes some of
the room for nestings, at most the cost. -/
def Grounds (cost room : Nat) (text : List Char) : ParseFault → Prop
  | .malformed => True
  | .digits _ => HasLongRun text
  | .nesting => room < cost * openings text

/-- A reader took a part off the front of a text or ended with a fault that has grounds in it. -/
def Grounded {Value : Type} (cost room : Nat) (input : List Char) :
    Except ParseFault (Value × List Char) → Prop
  | .ok (_, rest) => rest <:+ input
  | .error fault => Grounds cost room input fault

/-- The outcomes of a reader are grounded in every text. -/
def Reads {Value : Type} (cost room : Nat) (scan : Scan Value) : Prop :=
  ∀ input, Grounded cost room input (scan input)

theorem HasLongRun.of_infix {part text : List Char} (long : HasLongRun part)
    (part_of : part <:+: text) : HasLongRun text := by
  obtain ⟨run, run_of, plain, many⟩ := long
  exact ⟨run, run_of.trans part_of, plain, many⟩

theorem HasLongRun.lt_length {text : List Char} (long : HasLongRun text) :
    digitLimit < text.length := by
  obtain ⟨run, run_of, _, many⟩ := long
  calc
    digitLimit < (run.filter Char.isDigit).length := many
    _ ≤ run.length := List.length_filter_le _ run
    _ ≤ text.length := run_of.length_le

theorem openings_le_of_suffix {part text : List Char} (part_of : part <:+ text) :
    openings part ≤ openings text :=
  part_of.sublist.countP_le

theorem openings_cons {bracket : Char} {rest : List Char} (opens : bracket = '[' ∨ bracket = '{') :
    openings (bracket :: rest) = openings rest + 1 := by
  rcases opens with rfl | rfl <;> simp [openings]

variable {cost room : Nat} {Value Found : Type}

theorem Grounds.of_suffix {part text : List Char} {fault : ParseFault}
    (grounds : Grounds cost room part fault) (part_of : part <:+ text) :
    Grounds cost room text fault := by
  cases fault with
  | malformed => trivial
  | digits cause => exact HasLongRun.of_infix grounds part_of.isInfix
  | nesting =>
      exact Nat.lt_of_lt_of_le grounds (Nat.mul_le_mul_left cost (openings_le_of_suffix part_of))

/-- Behind an opening bracket there is less room. -/
theorem Grounds.of_open {bracket : Char} {rest : List Char} {fault : ParseFault} {taken : Nat}
    (grounds : Grounds cost room rest fault) (opens : bracket = '[' ∨ bracket = '{')
    (cheap : taken ≤ cost) : Grounds cost (room + taken) (bracket :: rest) fault := by
  cases fault with
  | malformed => trivial
  | digits cause => exact HasLongRun.of_infix grounds (List.suffix_cons bracket rest).isInfix
  | nesting =>
      have enough : room < cost * openings rest := grounds
      rw [Grounds, openings_cons opens, Nat.mul_add, Nat.mul_one]
      omega

theorem grounds_open {bracket : Char} {rest : List Char} (opens : bracket = '[' ∨ bracket = '{')
    (full : room < cost) : Grounds cost room (bracket :: rest) .nesting := by
  rw [Grounds, openings_cons opens, Nat.mul_add, Nat.mul_one]
  omega

theorem Grounded.of_suffix {part input : List Char}
    {outcome : Except ParseFault (Value × List Char)}
    (grounded : Grounded cost room part outcome) (part_of : part <:+ input) :
    Grounded cost room input outcome := by
  cases outcome with
  | ok found => exact List.IsSuffix.trans grounded part_of
  | error fault => exact Grounds.of_suffix grounded part_of

theorem Grounded.cons {input : List Char} {outcome : Except ParseFault (Value × List Char)}
    (grounded : Grounded cost room input outcome) (character : Char) :
    Grounded cost room (character :: input) outcome :=
  grounded.of_suffix (List.suffix_cons character input)

theorem Grounded.of_ok {input rest : List Char} {value : Value}
    {outcome : Except ParseFault (Value × List Char)} (grounded : Grounded cost room input outcome)
    (read : outcome = .ok (value, rest)) : rest <:+ input := by
  rw [read] at grounded
  exact grounded

theorem Grounded.of_error {input : List Char} {fault : ParseFault}
    {outcome : Except ParseFault (Value × List Char)} (grounded : Grounded cost room input outcome)
    (refused : outcome = .error fault) : Grounds cost room input fault := by
  rw [refused] at grounded
  exact grounded

/-- What is grounded behind an opening bracket with less room is grounded before it with more. -/
theorem Grounded.of_open {bracket : Char} {rest : List Char} {taken : Nat}
    {outcome : Except ParseFault (Value × List Char)} (grounded : Grounded cost room rest outcome)
    (opens : bracket = '[' ∨ bracket = '{') (cheap : taken ≤ cost) :
    Grounded cost (room + taken) (bracket :: rest) outcome := by
  cases outcome with
  | ok found => exact List.IsSuffix.trans grounded (List.suffix_cons bracket rest)
  | error fault => exact Grounds.of_open grounded opens cheap

theorem Grounded.map {input : List Char} {outcome : Except ParseFault (Value × List Char)}
    (grounded : Grounded cost room input outcome) {make : Value × List Char → Found × List Char}
    (keeps : ∀ found, (make found).2 = found.2) :
    Grounded cost room input (outcome.map make) := by
  cases outcome with
  | ok found =>
      have kept : (make found).2 <:+ input := (keeps found).symm ▸ grounded
      exact kept
  | error fault => exact grounded

/-- Digits of a run that are too many to be converted are a long run. -/
theorem hasLongRun_of_boundedWhole {negative : Bool} {digits run text : List Char}
    {fault : ParseFault} (refused : boundedWhole negative digits = .error fault)
    (digits_eq : run.filter Char.isDigit = digits) (run_of : run <:+: text)
    (plain : ∀ character ∈ run, character.isDigit ∨ character = '_') :
    Grounds cost room text fault := by
  rw [boundedWhole] at refused
  split at refused
  · rename_i long
    cases refused
    exact ⟨run, run_of, plain, digits_eq ▸ long⟩
  · cases refused

/-! ## Line breaks -/

/-- The second text is the first one with a line feed for some of its line breaks. -/
inductive Rebroken : List Char → List Char → Prop where
  | nil : Rebroken [] []
  | keep (character : Char) {text broken : List Char} (rebroken : Rebroken text broken) :
      Rebroken (character :: text) (character :: broken)
  | lone {text broken : List Char} (rebroken : Rebroken text broken) :
      Rebroken ('\r' :: text) ('\n' :: broken)
  | paired {text broken : List Char} (rebroken : Rebroken text broken) :
      Rebroken ('\r' :: '\n' :: text) ('\n' :: broken)

namespace Rebroken

variable {text broken run : List Char}

theorem openings_eq (rebroken : Rebroken text broken) : openings broken = openings text := by
  induction rebroken with
  | nil => rfl
  | keep character rebroken induction =>
      rw [openings, openings, List.countP_cons, List.countP_cons]
      exact congrArg (· + _) induction
  | lone rebroken induction => exact induction
  | paired rebroken induction => exact induction

/-- A part within a line is not broken, at the front of a text. -/
theorem isPrefix (rebroken : Rebroken text broken) (front : run <+: broken) (one : '\n' ∉ run) :
    run <+: text := by
  induction rebroken generalizing run with
  | nil => exact front
  | keep character rebroken induction =>
      cases run with
      | nil => exact List.nil_prefix
      | cons first others =>
          obtain ⟨rfl, later⟩ := List.cons_prefix_cons.mp front
          exact List.cons_prefix_cons.mpr
            ⟨rfl, induction later (List.not_mem_of_not_mem_cons one)⟩
  | lone rebroken induction | paired rebroken induction =>
      cases run with
      | nil => exact List.nil_prefix
      | cons first others =>
          -- the part would begin with the line feed
          obtain ⟨rfl, later⟩ := List.cons_prefix_cons.mp front
          exact absurd List.mem_cons_self one

/-- A part within a line is not broken, anywhere in a text. -/
theorem isInfix (rebroken : Rebroken text broken) (part_of : run <:+: broken) (one : '\n' ∉ run) :
    run <:+: text := by
  induction rebroken with
  | nil => exact part_of
  | @keep character text broken rebroken induction =>
      rcases List.infix_cons_iff.mp part_of with front | later
      · exact ((keep character rebroken).isPrefix front one).isInfix
      · exact (induction later).trans (List.suffix_cons character text).isInfix
  | @lone text broken rebroken induction =>
      rcases List.infix_cons_iff.mp part_of with front | later
      · exact ((lone rebroken).isPrefix front one).isInfix
      · exact (induction later).trans (List.suffix_cons '\r' text).isInfix
  | @paired text broken rebroken induction =>
      rcases List.infix_cons_iff.mp part_of with front | later
      · exact ((paired rebroken).isPrefix front one).isInfix
      · exact (induction later).trans (List.suffix_append ['\r', '\n'] text).isInfix

theorem hasLongRun (rebroken : Rebroken text broken) (long : HasLongRun broken) :
    HasLongRun text := by
  obtain ⟨run, run_of, plain, many⟩ := long
  have one : '\n' ∉ run := fun breaks => absurd (plain '\n' breaks) (by decide)
  exact ⟨run, rebroken.isInfix run_of one, plain, many⟩

/-- Line breaks are no grounds for a fault. -/
theorem grounds {fault : ParseFault} (rebroken : Rebroken text broken)
    (grounds : Grounds cost room broken fault) : Grounds cost room text fault := by
  cases fault with
  | malformed => trivial
  | digits cause => exact rebroken.hasLongRun grounds
  | nesting =>
      have enough : room < cost * openings broken := grounds
      rw [rebroken.openings_eq] at enough
      exact enough

end Rebroken

end PayGraph

import PayGraph.Files.Path

/-!
# Command-line arguments

Options of the program come first, then the command with its own options and arguments in any order.
A value may stand in the same word as its option; of two values of one option the last counts.  Two
hyphens end the options.  A word that no file can have as its name is no path.
-/

namespace PayGraph

/-- What a command line asks for. -/
inductive Request where
  | evaluate (formula? inputs? output? : Option Path) (sample : Bool)
  | check (formula? : Option Path)
  deriving DecidableEq, Repr

namespace Request

/-- Options and arguments of a command. -/
structure Words where
  /-- Value of the option for the inputs. -/
  inputs? : Option String := none
  /-- Value of the option for the output. -/
  output? : Option String := none
  /-- The sample data are asked for. -/
  sample : Bool := false
  /-- Arguments, the last first. -/
  arguments : List String := []

/-- An option that takes a value. -/
inductive Valued where
  | inputs
  | output
  deriving DecidableEq, Repr

namespace Words

/-- Give an option a value. -/
def set (words : Words) (value : String) : Valued → Words
  | .inputs => { words with inputs? := some value }
  | .output => { words with output? := some value }

end Words

/-- The option with a value that a word names in full. -/
def valued? (word : String) : Option Valued :=
  if word = "-i" ∨ word = "--inputs" then some .inputs
  else if word = "-o" ∨ word = "--output" then some .output
  else none

/-- The option with a value and the value itself, if one word holds both. -/
def attached? (word : String) : Option (Valued × String) :=
  match word.toList with
  | '-' :: '-' :: long =>
    match long.dropWhile (· ≠ '=') with
    | '=' :: value =>
      (valued? (String.ofList ('-' :: '-' :: long.takeWhile (· ≠ '=')))).map fun option =>
        (option, String.ofList value)
    | _ => none
  | '-' :: letter :: value =>
    if value.isEmpty then none
    else (valued? (String.ofList ['-', letter])).map fun option => (option, String.ofList value)
  | _ => none

/-- Read the options and arguments of a command. -/
def readWords (words : Words) : List String → Option Words
  | [] => some words
  | "--" :: rest => some { words with arguments := rest.reverse ++ words.arguments }
  | "--sample" :: rest => readWords { words with sample := true } rest
  | word :: rest =>
    match valued? word with
    | some option =>
      match rest with
      | value :: others => readWords (words.set value option) others
      | [] => none
    | none =>
      match attached? word with
      | some (option, value) => readWords (words.set value option) rest
      | none =>
        if word.toList.head? = some '-' ∧ 1 < word.length then none
        else readWords { words with arguments := word :: words.arguments } rest

/-- The path that a word stands for, if there can be such a path. -/
def path? (word : String) : Option Path :=
  let path := Path.ofText word
  if path.isPossible then some path else none

/-- The only argument of a command, if it has one at all; more are refused. -/
def formula? : List String → Option (Option Path)
  | [] => some none
  | [word] => (path? word).map some
  | _ => none

/-- The request of a command with its options and arguments. -/
def ofCommand? (command : String) (words : List String) : Option Request := do
  let found ← readWords {} words
  let formula ← formula? found.arguments
  match command with
  | "eval" =>
    let inputs ← found.inputs?.mapM path?
    let output ← found.output?.mapM path?
    return .evaluate formula inputs output found.sample
  | "check" =>
    if found.inputs?.isNone && found.output?.isNone && !found.sample then return .check formula
    else none
  | _ => none

/-- The request of a command line, unless it is misused. -/
def ofArguments? : List String → Option Request
  | "--verbose" :: rest => ofArguments? rest
  | "--no-verbose" :: rest => ofArguments? rest
  | "--" :: command :: rest => ofCommand? command rest
  | command :: rest => ofCommand? command rest
  | [] => none

end Request
end PayGraph

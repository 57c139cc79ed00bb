import PayGraph.Command

/-!
# Running the command line on a machine

The only module that touches the machine: it opens files, prints what a run has to say and returns
its exit code.
-/

namespace PayGraph
namespace Machine

/-- Number of an error, which the machine may give with a minus sign. -/
def errorNumber (code : UInt32) : Nat :=
  if code < 0x80000000 then code.toNat else (-code).toNat

/-- Obstacle that a failed operation on a file ran into. -/
def obstacle : IO.Error → Obstacle
  | .noFileOrDirectory _ code details | .inappropriateType _ code details
  | .invalidArgument _ code details | .permissionDenied _ code details
  | .resourceExhausted _ code details | .noSuchThing _ code details
  | .alreadyExists _ code details | .otherError code details =>
    .ofReport (errorNumber code) details
  | error => .other 5 (toString error)

/-- Outcome of an operation on a file. -/
def attempt {Value : Type} (path : Path) (action : IO Value) : IO (Except FileError Value) := do
  if !path.isPossible then return .error ⟨.impossibleName, path⟩
  try return .ok (← action)
  catch error => return .error ⟨obstacle error, path⟩

/-- The files of the machine. -/
def files : Files IO where
  current := return Path.ofText (← IO.currentDir).toString
  read path := attempt path (IO.FS.readBinFile path.text)
  isFile path := do
    match ← attempt path ((← IO.currentDir) / path.text).metadata with
    | .ok found => return .ok (found.type == .file)
    | .error cause => return cause.absence
  write path content := attempt path (IO.FS.writeBinFile path.text content)

/-- The terminal, as wide as the environment says. -/
def console : IO Terminal.Console := do
  match (← IO.getEnv "COLUMNS").bind String.toNat? with
  | some (other + 1) => return ⟨other + 1, other.succ_pos⟩
  | _ => return ⟨80, by decide⟩

/-- Text of what cut a run short. -/
def crashMessage : Crash → String
  | .markup (.unmatched tag) => s!"closing tag without an opening one: {tag}"
  | .markup (.noLiteral argument) => s!"argument of a tag that is no literal: {argument}"
  | .markup (.noComponent definition) => s!"colour without a component: {definition}"
  | .digits cause => cause.message
  | .file cause => cause.message
  | .undecodable => "a file is not valid UTF-8"
  | .unencodable => "a text has half a surrogate pair in it"
  | .nesting => "a file is nested too deeply"

/-- Last note of a run that ended early. -/
def farewell : Ending → List String
  | .crashed cause => [crashMessage cause]
  | .misused => ["Usage: eval [FORMULA] [-i INPUTS] [-o OUTPUT] [--sample] | check [FORMULA]"]
  | _ => []

end Machine
end PayGraph

open PayGraph in
/-- Carry out the command line. -/
def main (arguments : List String) : IO UInt32 := do
  let _console ← Machine.console
  let _host := Host.usual
  let (ending, screen) ← Command.run Machine.files arguments
  for line in screen.notes do
    IO.eprintln (String.ofList (spelledOut (trimEnd line)))
  for line in screen.results do
    IO.println (String.ofList line)
  for line in Machine.farewell ending do
    IO.eprintln line
  return ending.exitCode.toUInt32

import PayGraph.Files.Content

/-!
# Settings of a project

A project may name its formula, inputs and output in a table of the file `pyproject.toml` at its
root.  The nearest directory at or above the current one that holds such a file is the root; paths
in the table count from there.
-/

namespace PayGraph

/-- Paths that a project names. -/
structure Settings where
  /-- Formula to evaluate unless another is given. -/
  formula? : Option Path := none
  /-- Inputs to evaluate with unless others are given. -/
  inputs? : Option Path := none
  /-- File for the result unless another is given. -/
  output? : Option Path := none
  /-- Directory of the file of settings. -/
  root? : Option Path := none
  deriving DecidableEq, Repr

/-- What is wrong with the content of a file of settings. -/
inductive SettingsError where
  | notToml (path : Path)
  | noToolTable
  | noOwnTable
  | noPath (key : String)
  deriving DecidableEq, Repr

namespace SettingsError

/-- Text of a mistake, as far as it does not depend on its place. -/
def message : SettingsError → String
  | .notToml path => s!"Invalid TOML in {path.text}"
  | .noToolTable => "Invalid [tool]: expected a table"
  | .noOwnTable => "Invalid [tool.payformula]: expected a table"
  | .noPath key => s!"Invalid [tool.payformula].{key}: expected string path"

/-- The message is only the headline of the mistake. -/
def isHeadline : SettingsError → Bool
  | .notToml _ => true
  | _ => false

end SettingsError

namespace Settings

/-- Name of the file of settings. -/
def fileName : String := "pyproject.toml"

/-- The table under a key, empty if the key is absent. -/
def table (key : String) (mistake : SettingsError) (entries : Entries) :
    Except SettingsError Entries :=
  match entries.lookup key with
  | none => .ok []
  | some (.table inner) => .ok inner
  | some _ => .error mistake

/-- The path under a key, counted from the root of the project. -/
def path? (root : Path) (key : String) (entries : Entries) :
    Except SettingsError (Option Path) :=
  match entries.lookup key with
  | none => .ok none
  | some (.text written) => .ok (some (root.join (Path.ofText written)))
  | some _ => .error (.noPath key)

/-- Settings in the entries of a file in a directory. -/
def ofEntries (root : Path) (entries : Entries) : Except SettingsError Settings := do
  let tools ← table "tool" .noToolTable entries
  let own ← table "payformula" .noOwnTable tools
  let formula? ← path? root "formula" own
  let inputs? ← path? root "inputs" own
  let output? ← path? root "output" own
  return ⟨formula?, inputs?, output?, some root⟩

/-- Settings in the content of a file. -/
def ofBytes [Host] (path : Path) (content : ByteArray) :
    Except (LoadFault SettingsError) Settings := do
  let entries ← readContent Toml.read (.notToml path) content
  (ofEntries path.parent entries).mapError .refused

section

variable {Effect : Type → Type} [Monad Effect]

/-- Load the settings in a file. -/
def load [Host] (files : Files Effect) (path : Path) :
    Effect (Except (LoadFault SettingsError) Settings) := do
  match ← files.read path with
  | .error cause => return .error (.inaccessible cause)
  | .ok content => return ofBytes path content

/-- The first of some paths that leads to a file. -/
def firstFile? (files : Files Effect) : List Path → Effect (Except FileError (Option Path))
  | [] => return .ok none
  | path :: rest => do
    match ← files.isFile path with
    | .error cause => return .error cause
    | .ok true => return .ok (some path)
    | .ok false => firstFile? files rest

/-- The nearest file of settings at or above a directory. -/
def find? (files : Files Effect) (start : Path) : Effect (Except FileError (Option Path)) := do
  let here ← files.current
  if start.isPossible then
    let directory := (here.join start).collapse
    firstFile? files (directory.enclosing.map fun enclosing => enclosing.child fileName)
  else return .error ⟨.impossibleName, start⟩

/-- The settings that hold in the current directory; there may be none. -/
def current [Host] (files : Files Effect) :
    Effect (Except (LoadFault SettingsError) Settings) := do
  match ← find? files ⟨.relative, []⟩ with
  | .error cause => return .error (.inaccessible cause)
  | .ok none => return .ok {}
  | .ok (some path) => load files path

end

end Settings
end PayGraph

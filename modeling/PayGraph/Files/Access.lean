import PayGraph.Files.Path

/-!
# Access to files

Programs reach files through a few operations that either succeed or say what stands in the way.
The operations may act on a tree of files held in memory or on those of a machine.
-/

namespace PayGraph

/-- What stands in the way of opening a file. -/
inductive Obstacle where
  | missing
  | notDirectory
  | isDirectory
  | nameTooLong
  /-- The name holds a character that no file name can hold. -/
  | impossibleName
  /-- Anything else, by number and description. -/
  | other (code : Nat) (description : String)
  deriving DecidableEq, Repr

namespace Obstacle

/-- Number and description of an obstacle, unless the name itself is impossible. -/
def report? : Obstacle → Option (Nat × String)
  | .missing => some (2, "No such file or directory")
  | .notDirectory => some (20, "Not a directory")
  | .isDirectory => some (21, "Is a directory")
  | .nameTooLong => some (36, "File name too long")
  | .impossibleName => none
  | .other code description => some (code, description)

/-- Obstacle with a number and description. -/
def ofReport (code : Nat) (description : String) : Obstacle :=
  match [missing, notDirectory, isDirectory, nameTooLong].find? fun obstacle =>
    obstacle.report?.map Prod.fst = some code with
  | some obstacle => obstacle
  | none => .other code description

/-- Nothing can be at the end of a path that meets an obstacle, be it that links lead in circles or
that no file is open; other obstacles leave that to be known. -/
def isConclusive : Obstacle → Bool
  | .missing | .notDirectory | .isDirectory | .impossibleName => true
  | .nameTooLong => false
  | .other code _ => code = 9 || code = 40

end Obstacle

/-- A file could not be opened. -/
structure FileError where
  /-- What stood in the way. -/
  obstacle : Obstacle
  /-- The path as it was given. -/
  path : Path
  deriving DecidableEq, Repr

namespace FileError

/-- Whether there is a file at a path that could not be looked at, if the obstacle tells. -/
def absence (error : FileError) : Except FileError Bool :=
  if error.obstacle.isConclusive then .ok false else .error error

/-- Text of a failure to open a file. -/
def message (error : FileError) : String :=
  match error.obstacle.report? with
  | some (code, description) =>
    s!"[Errno {code}] {description}: {quoted error.path.text}"
  | none => "embedded null byte"

end FileError

/-- Operations on files, each with an effect. -/
structure Files (Effect : Type → Type) where
  /-- Absolute path of the current directory. -/
  current : Effect Path
  /-- Content of a file. -/
  read : Path → Effect (Except FileError ByteArray)
  /-- The path leads to a regular file. -/
  isFile : Path → Effect (Except FileError Bool)
  /-- Give a file a new content, creating it if needed. -/
  write : Path → ByteArray → Effect (Except FileError Unit)

end PayGraph

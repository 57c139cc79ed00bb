import PayGraph.Files.Access

/-!
# Trees of files

A tree of files in memory, without links.  A place in it is the list of names from the root.
Following a path fails at the first name that is not a directory; two dots lead one level up.
-/

namespace PayGraph

/-- Files and directories by their places. -/
structure FileTree where
  /-- Contents of the files. -/
  files : List (List String × ByteArray)
  /-- Directories, which may be empty. -/
  directories : List (List String)

namespace FileTree

/-- Most bytes in a name. -/
def nameLimit : Nat := 255

/-- Most bytes in a path. -/
def pathLimit : Nat := 4095

/-- Content of the file at a place. -/
def content? (tree : FileTree) (place : List String) : Option ByteArray :=
  tree.files.lookup place

/-- A place is a directory: the root, a listed one, or one that holds something. -/
def isDirectory (tree : FileTree) (place : List String) : Bool :=
  place.isEmpty || tree.directories.any place.isPrefixOf ||
    tree.files.any fun file => place.isPrefixOf file.1 && place ≠ file.1

/-- Place that names lead to from a directory. -/
def follow (tree : FileTree) (here : List String) : List String → Except Obstacle (List String)
  | [] => .ok here
  | name :: rest =>
    if name = ".." then follow tree here.dropLast rest
    else if nameLimit < name.utf8ByteSize then .error .nameTooLong
    else if rest.isEmpty || tree.isDirectory (here ++ [name]) then
      follow tree (here ++ [name]) rest
    else if (tree.content? (here ++ [name])).isSome then .error .notDirectory
    else .error .missing

/-- Place that a path leads to from a directory. -/
def locate (tree : FileTree) (here : List String) (path : Path) :
    Except Obstacle (List String) :=
  if !path.isPossible then .error .impossibleName
  else if pathLimit < path.text.utf8ByteSize then .error .nameTooLong
  else tree.follow (if path.isAbsolute then [] else here) path.names

/-- Content of the file that a path leads to. -/
def read (tree : FileTree) (here : List String) (path : Path) : Except FileError ByteArray :=
  match tree.locate here path with
  | .error obstacle => .error ⟨obstacle, path⟩
  | .ok place =>
    if tree.isDirectory place then .error ⟨.isDirectory, path⟩
    else
      match tree.content? place with
      | some content => .ok content
      | none => .error ⟨.missing, path⟩

/-- A path leads to a file, as far as that can be known. -/
def isFile (tree : FileTree) (here : List String) (path : Path) : Except FileError Bool :=
  match tree.read here path with
  | .ok _ => .ok true
  | .error cause => cause.absence

/-- The tree with a new content at a place. -/
def put (tree : FileTree) (place : List String) (content : ByteArray) : FileTree :=
  if (tree.content? place).isSome then
    { tree with files := tree.files.map fun file =>
        if file.1 = place then (place, content) else file }
  else { tree with files := tree.files ++ [(place, content)] }

/-- The tree after a content has been written to a path. -/
def write (tree : FileTree) (here : List String) (path : Path) (content : ByteArray) :
    Except FileError FileTree :=
  match tree.locate here path with
  | .error obstacle => .error ⟨obstacle, path⟩
  | .ok place =>
    if tree.isDirectory place then .error ⟨.isDirectory, path⟩
    else .ok (tree.put place content)

/-- The tree as files, with a current directory. -/
def access (here : List String) : Files (StateM FileTree) where
  current := return ⟨.root, here⟩
  read path := return (← get).read here path
  isFile path := return (← get).isFile here path
  write path content := do
    match (← get).write here path content with
    | .error error => return .error error
    | .ok written =>
      set written
      return .ok ()

end FileTree
end PayGraph

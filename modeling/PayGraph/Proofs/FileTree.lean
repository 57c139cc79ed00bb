import PayGraph.Files.Tree
import PayGraph.Loading
import PayGraph.Proofs.Association
import PayGraph.Proofs.Outcomes
import PayGraph.Settings

/-!
# Reading from and writing to a tree of files

Loading leaves a tree as it is.  A file that has been written holds its new content, every other
file the old one.  Writing takes no directory away, so the path still leads to the same place; and
whether it can be written to does not depend on the content.
-/

namespace PayGraph
namespace FileTree

variable {tree after : FileTree} {here place : List String} {path : Path} {content : ByteArray}

section Loading

theorem read_apply (tree : FileTree) (here : List String) (path : Path) :
    (access here).read path tree = (tree.read here path, tree) :=
  rfl

theorem isFile_apply (tree : FileTree) (here : List String) (path : Path) :
    (access here).isFile path tree = (tree.isFile here path, tree) :=
  rfl

theorem firstFile?_tree (tree : FileTree) (here : List String) (paths : List Path) :
    (Settings.firstFile? (access here) paths tree).2 = tree := by
  induction paths with
  | nil => rfl
  | cons path rest induction =>
      rw [Settings.firstFile?, bind_apply, isFile_apply]
      rcases tree.isFile here path with cause | (_ | _)
      · rfl
      · exact induction
      · rfl

variable [Host]

theorem load_formula_tree (tree : FileTree) (here : List String) (path : Path) :
    (Formula.load (access here) path tree).2 = tree := by
  rw [Formula.load, bind_apply, read_apply]
  cases tree.read here path <;> rfl

theorem load_inputs_tree (tree : FileTree) (here : List String) (path : Path) :
    (Inputs.load (access here) path tree).2 = tree := by
  rw [Inputs.load, bind_apply, read_apply]
  cases tree.read here path <;> rfl

theorem load_settings_tree (tree : FileTree) (here : List String) (path : Path) :
    (Settings.load (access here) path tree).2 = tree := by
  rw [Settings.load, bind_apply, read_apply]
  cases tree.read here path <;> rfl

/-- Looking for the settings and loading them leaves the tree as it is. -/
theorem current_settings_tree (tree : FileTree) (here : List String) :
    (Settings.current (access here) tree).2 = tree := by
  have found_tree : (Settings.find? (access here) ⟨.relative, []⟩ tree).2 = tree :=
    firstFile?_tree tree here _
  rw [Settings.current, bind_apply, found_tree]
  rcases (Settings.find? (access here) ⟨.relative, []⟩ tree).1 with cause | (_ | path)
  · rfl
  · rfl
  · exact load_settings_tree tree here path

/-- Inputs are loaded from the content of their file. -/
theorem load_inputs_eq_ok_iff {changes : Inputs} :
    (Inputs.load (access here) path tree).1 = .ok changes ↔
      ∃ content, tree.read here path = .ok content ∧ Inputs.ofBytes path content = .ok changes := by
  rw [Inputs.load, bind_apply, read_apply]
  cases tree.read here path with
  | error cause =>
      constructor
      · nofun
      · rintro ⟨_, ⟨⟩, _⟩
  | ok content => simp [pure_apply]

end Loading

/-- Putting a content at a place changes what is found there and nowhere else. -/
theorem content?_put (tree : FileTree) (place : List String) (content : ByteArray)
    (other : List String) :
    (tree.put place content).content? other =
      if other = place then some content else tree.content? other := by
  have listed_iff : (tree.content? place).isSome = true ↔ place ∈ tree.files.map Prod.fst := by
    rw [Association.mem_keys_iff, Option.isSome_iff_exists, content?]
  rw [put]
  split
  · exact Association.lookup_replace (listed_iff.mp ‹_›) content other
  · exact Association.lookup_append_single (mt listed_iff.mpr ‹_›) content other

theorem isDirectory_eq (tree : FileTree) (place : List String) :
    tree.isDirectory place = (place.isEmpty || tree.directories.any place.isPrefixOf ||
      (tree.files.map Prod.fst).any fun file => place.isPrefixOf file && place ≠ file) := by
  rw [isDirectory, List.any_map]
  rfl

theorem directories_put (tree : FileTree) (place : List String) (content : ByteArray) :
    (tree.put place content).directories = tree.directories := by
  rw [put]
  split <;> rfl

theorem map_fst_files_put (tree : FileTree) (place : List String) (content : ByteArray) :
    (tree.put place content).files.map Prod.fst = tree.files.map Prod.fst ∨
      (tree.put place content).files.map Prod.fst = tree.files.map Prod.fst ++ [place] := by
  rw [put]
  split
  · exact Or.inl (Association.map_fst_replace tree.files place content)
  · exact Or.inr List.map_append

theorem isDirectory_put {directory : List String} (held : tree.isDirectory directory = true)
    (place : List String) (content : ByteArray) :
    (tree.put place content).isDirectory directory = true := by
  rw [isDirectory_eq] at held ⊢
  rw [directories_put]
  rcases map_fst_files_put tree place content with same | grown
  · rwa [same]
  · rw [grown, List.any_append, ← Bool.or_assoc, held, Bool.true_or]

theorem isDirectory_put_self (tree : FileTree) (place : List String) (content : ByteArray) :
    (tree.put place content).isDirectory place = tree.isDirectory place := by
  rw [isDirectory_eq, isDirectory_eq, directories_put]
  rcases map_fst_files_put tree place content with same | grown
  · rw [same]
  · rw [grown, List.any_append]
    simp

/-- A step leads one level up, or down to an entry that is a directory if the way goes on. -/
theorem follow_cons_eq_ok_iff {name : String} {rest : List String} :
    tree.follow here (name :: rest) = .ok place ↔
      name = ".." ∧ tree.follow here.dropLast rest = .ok place ∨
      (name ≠ ".." ∧ name.utf8ByteSize ≤ nameLimit) ∧
        (rest.isEmpty || tree.isDirectory (here ++ [name])) = true ∧
        tree.follow (here ++ [name]) rest = .ok place := by
  rw [follow]
  by_cases upwards : name = ".."
  · simp [upwards]
  · rw [if_neg upwards]
    by_cases short : name.utf8ByteSize ≤ nameLimit
    · rw [if_neg (Nat.not_lt.mpr short)]
      by_cases passable : (rest.isEmpty || tree.isDirectory (here ++ [name])) = true
      · rw [if_pos passable]
        simp only [upwards, short, passable, false_and, false_or, true_and, not_false_eq_true,
          ne_eq]
      · rw [if_neg passable]
        refine iff_of_false (by split <;> simp) ?_
        rintro (⟨same, -⟩ | ⟨-, enters, -⟩)
        · exact upwards same
        · exact passable enters
    · rw [if_pos (Nat.lt_of_not_le short)]
      simp [upwards, short]

theorem follow_put {names : List String} (followed : tree.follow here names = .ok place)
    (other : List String) (content : ByteArray) :
    (tree.put other content).follow here names = .ok place := by
  induction names generalizing here with
  | nil => exact followed
  | cons name rest induction =>
      rw [follow_cons_eq_ok_iff] at followed ⊢
      refine followed.imp (And.imp_right induction) (And.imp_right ?_)
      rintro ⟨passable, reached⟩
      rw [Bool.or_eq_true] at passable ⊢
      exact ⟨passable.imp_right fun held => isDirectory_put held other content, induction reached⟩

theorem locate_put (located : tree.locate here path = .ok place) (other : List String)
    (content : ByteArray) : (tree.put other content).locate here path = .ok place := by
  rw [locate] at located ⊢
  split at located
  · cases located
  · split at located
    · cases located
    · rw [if_neg ‹_›, if_neg ‹_›]
      exact follow_put located other content

/-- The path leads to a place that is or may become a file. -/
structure Leads (tree : FileTree) (here : List String) (path : Path) (place : List String) :
    Prop where
  located : tree.locate here path = .ok place
  not_directory : tree.isDirectory place = false

/-- A path can be written to exactly if it leads to a file or to where one may be; then the content
is put there. -/
theorem write_eq_ok_iff :
    tree.write here path content = .ok after ↔
      ∃ place, tree.Leads here path place ∧ after = tree.put place content := by
  constructor
  · intro written
    rw [write] at written
    split at written
    · cases written
    · rename_i place located
      split at written
      · cases written
      · rename_i file
        cases written
        exact ⟨place, ⟨located, Bool.eq_false_iff.mpr file⟩, rfl⟩
  · rintro ⟨place, leads, rfl⟩
    rw [write, leads.located]
    simp only [leads.not_directory, if_neg Bool.false_ne_true]

theorem Leads.read_put (leads : tree.Leads here path place) (content : ByteArray) :
    (tree.put place content).read here path = .ok content := by
  rw [read, locate_put leads.located]
  simp only [isDirectory_put_self, leads.not_directory, if_neg Bool.false_ne_true, content?_put,
    if_pos]

/-- The path can be written to, whatever the content. -/
def IsWritable (tree : FileTree) (here : List String) (path : Path) : Prop :=
  ∃ content after, tree.write here path content = .ok after

/-- The trees differ in nothing but the file that a path leads to, and that has a content. -/
structure Rewritten (tree after : FileTree) (here : List String) (path : Path)
    (content : ByteArray) : Prop where
  read : after.read here path = .ok content
  others : ∃ place, tree.locate here path = .ok place ∧
    ∀ other, other ≠ place → after.content? other = tree.content? other
  directories : after.directories = tree.directories

/-- Writing changes nothing but the file. -/
theorem rewritten_of_write (written : tree.write here path content = .ok after) :
    tree.Rewritten after here path content := by
  obtain ⟨place, leads, rfl⟩ := write_eq_ok_iff.mp written
  refine ⟨leads.read_put content, ⟨place, leads.located, fun other apart => ?_⟩,
    directories_put tree place content⟩
  rw [content?_put, if_neg apart]

theorem write_apply (written : tree.write here path content = .ok after) :
    (access here).write path content tree = (.ok (), after) := by
  have held : (get : StateM FileTree FileTree) tree = (tree, tree) := rfl
  rw [access]
  dsimp only
  rw [bind_apply, held]
  dsimp only
  rw [written]
  rfl

theorem IsWritable.exists_write (writable : tree.IsWritable here path) (content : ByteArray) :
    ∃ after, tree.write here path content = .ok after := by
  obtain ⟨_, _, written⟩ := writable
  obtain ⟨place, leads, -⟩ := write_eq_ok_iff.mp written
  exact ⟨_, write_eq_ok_iff.mpr ⟨place, leads, rfl⟩⟩

end FileTree
end PayGraph

import Mathlib
import PayGraph.Proofs.FileTree

/-!
# Places in a tree of files

A path that can be followed leads to the place that its names collapse to.  From a directory every
directory above it can be reached, and so can their entries as far as the names allow; then it is
known whether an entry is a file.
-/

namespace PayGraph

namespace Path

theorem isPossible_iff {path : Path} :
    path.isPossible = true ↔ ∀ name ∈ path.names, name.toList.contains '\x00' = false := by
  simp only [isPossible, List.all_eq_true, Bool.not_eq_true']

/-- Names without two dots in front only wait for those after them. -/
theorem collapseNames_append {front : List String} (plain : ∀ name ∈ front, name ≠ "..")
    (reversed names : List String) :
    collapseNames reversed (front ++ names) = collapseNames (front.reverse ++ reversed) names := by
  induction front generalizing reversed with
  | nil => rfl
  | cons name rest induction =>
      obtain ⟨downwards, rest_plain⟩ := List.forall_mem_cons.mp plain
      rw [List.cons_append, collapseNames, if_neg downwards, induction rest_plain,
        List.reverse_cons, List.append_assoc]
      rfl

theorem utf8ByteSize_intercalate_le (separator last : String) (front more : List String) :
    (separator.intercalate (front ++ [last])).utf8ByteSize ≤
      (separator.intercalate (front ++ more ++ [last])).utf8ByteSize := by
  induction front with
  | nil =>
      by_cases none : more = []
      · rw [none]
        exact le_rfl
      · rw [List.nil_append, List.nil_append, String.intercalate_singleton,
          String.intercalate_append_of_ne_nil none (List.cons_ne_nil _ _),
          String.intercalate_singleton, String.utf8ByteSize_append]
        exact Nat.le_add_left _ _
  | cons name rest induction =>
      have ends (names : List String) : names ++ [last] ≠ [] := by simp
      rw [List.cons_append, List.cons_append, List.cons_append,
        String.intercalate_cons_of_ne_nil (ends _), String.intercalate_cons_of_ne_nil (ends _)]
      simp only [String.utf8ByteSize_append]
      omega

/-- The path to an entry is shorter the higher the directory stands. -/
theorem utf8ByteSize_text_le (anchor : Anchor) {directory place : List String}
    (above : directory <+: place) (name : String) :
    (Path.text ⟨anchor, directory ++ [name]⟩).utf8ByteSize ≤
      (Path.text ⟨anchor, place ++ [name]⟩).utf8ByteSize := by
  obtain ⟨more, rfl⟩ := above
  have shorter := utf8ByteSize_intercalate_le "/" name directory more
  simp only [Path.text, List.append_eq_nil_iff, List.cons_ne_nil, and_false, if_false,
    String.utf8ByteSize_append]
  omega

end Path

namespace FileTree

/-- A name that an entry of a directory may have. -/
structure IsName (name : String) : Prop where
  downwards : name ≠ ".."
  short : name.utf8ByteSize ≤ nameLimit
  possible : name.toList.contains '\x00' = false

/-- There is a regular file at the place, and no directory. -/
def HoldsFile (tree : FileTree) (place : List String) : Prop :=
  tree.isDirectory place = false ∧ (tree.content? place).isSome = true

instance (tree : FileTree) (place : List String) : Decidable (tree.HoldsFile place) :=
  inferInstanceAs (Decidable (_ ∧ _))

variable {tree : FileTree} {here place directory names : List String}

/-- What stands above a directory is one too. -/
theorem isDirectory_of_prefix (above : directory <+: place)
    (held : tree.isDirectory place = true) : tree.isDirectory directory = true := by
  simp only [isDirectory, Bool.or_eq_true, List.isEmpty_iff, List.any_eq_true,
    List.isPrefixOf_iff_prefix, Bool.and_eq_true, decide_eq_true_eq] at held ⊢
  rcases held with (rfl | ⟨listed, member, within⟩) | ⟨file, member, within, apart⟩
  · exact Or.inl (Or.inl (List.prefix_nil.mp above))
  · exact Or.inl (Or.inr ⟨listed, member, above.trans within⟩)
  · refine Or.inr ⟨file, member, above.trans within, ?_⟩
    rintro rfl
    exact apart (within.eq_of_length_le above.length_le)

section Follow

theorem locate_eq_ok_iff {path : Path} : tree.locate here path = .ok place ↔
    path.isPossible = true ∧ path.text.utf8ByteSize ≤ pathLimit ∧
      tree.follow (if path.isAbsolute then [] else here) path.names = .ok place := by
  rw [locate]
  by_cases possible : path.isPossible = true
  · by_cases short : path.text.utf8ByteSize ≤ pathLimit
    · simp [possible, short, Nat.not_lt.mpr short]
    · simp [possible, short, Nat.lt_of_not_le short]
  · simp [possible]

/-- Following names comes to the place that they collapse to. -/
theorem collapseNames_of_follow (followed : tree.follow here names = .ok place) :
    Path.collapseNames here.reverse names = place := by
  induction names generalizing here with
  | nil =>
      cases followed
      rw [Path.collapseNames, List.reverse_reverse]
  | cons name rest induction =>
      rw [Path.collapseNames]
      rcases follow_cons_eq_ok_iff.mp followed with
        ⟨upwards, reached⟩ | ⟨⟨downwards, -⟩, -, reached⟩
      · rw [if_pos upwards, List.tail_reverse]
        exact induction reached
      · have deeper := induction reached
        rw [List.reverse_append] at deeper
        rw [if_neg downwards]
        exact deeper

/-- The names of a place that can be reached are those of entries. -/
theorem isName_of_follow (followed : tree.follow here names = .ok place)
    (here_names : ∀ name ∈ here, IsName name)
    (possible : ∀ name ∈ names, name.toList.contains '\x00' = false) :
    ∀ name ∈ place, IsName name := by
  induction names generalizing here with
  | nil =>
      cases followed
      exact here_names
  | cons name rest induction =>
      obtain ⟨name_possible, rest_possible⟩ := List.forall_mem_cons.mp possible
      rcases follow_cons_eq_ok_iff.mp followed with ⟨-, reached⟩ | ⟨⟨downwards, short⟩, -, reached⟩
      · exact induction reached
          (fun one member => here_names one (List.mem_of_mem_dropLast member)) rest_possible
      · refine induction reached ?_ rest_possible
        rw [List.forall_mem_append, List.forall_mem_singleton]
        exact ⟨here_names, downwards, short, name_possible⟩

theorem follow_entry {name : String} (entry_names : ∀ one ∈ names ++ [name], IsName one)
    (held : tree.isDirectory (here ++ names) = true) :
    tree.follow here (names ++ [name]) = .ok (here ++ names ++ [name]) := by
  induction names generalizing here with
  | nil =>
      obtain ⟨downwards, short, -⟩ := entry_names name (by simp)
      rw [List.nil_append, List.append_nil, follow_cons_eq_ok_iff]
      exact Or.inr ⟨⟨downwards, short⟩, rfl, rfl⟩
  | cons first rest induction =>
      obtain ⟨first_name, rest_names⟩ := List.forall_mem_cons.mp entry_names
      have shifted : here ++ first :: rest = here ++ [first] ++ rest := by simp
      rw [shifted] at held ⊢
      have enters : tree.isDirectory (here ++ [first]) = true :=
        isDirectory_of_prefix (List.prefix_append _ _) held
      rw [List.cons_append, follow_cons_eq_ok_iff]
      refine Or.inr ⟨⟨first_name.downwards, first_name.short⟩, ?_, induction rest_names held⟩
      rw [enters, Bool.or_true]

end Follow

/-- Whether an entry of a directory is a file can be known, wherever one stands. -/
theorem isFile_entry {name : String} {anchor : Anchor} (absolute : anchor ≠ .relative)
    (entry_names : ∀ one ∈ directory ++ [name], IsName one)
    (held : tree.isDirectory directory = true)
    (short : (Path.text ⟨anchor, directory ++ [name]⟩).utf8ByteSize ≤ pathLimit)
    (here : List String) :
    tree.isFile here ⟨anchor, directory ++ [name]⟩ =
      .ok (decide (tree.HoldsFile (directory ++ [name]))) := by
  have possible : Path.isPossible ⟨anchor, directory ++ [name]⟩ = true :=
    Path.isPossible_iff.mpr fun one member => (entry_names one member).possible
  have located : tree.locate here ⟨anchor, directory ++ [name]⟩ = .ok (directory ++ [name]) := by
    rw [locate_eq_ok_iff, Path.isAbsolute, decide_eq_true absolute, if_pos rfl]
    exact ⟨possible, short, follow_entry entry_names held⟩
  rw [isFile, read, located]
  dsimp only
  by_cases directory_held : tree.isDirectory (directory ++ [name]) = true
  · have no_file : ¬tree.HoldsFile (directory ++ [name]) := fun holds => by
      rw [holds.1] at directory_held
      cases directory_held
    rw [if_pos directory_held, decide_eq_false no_file]
    rfl
  · rw [if_neg directory_held]
    cases found : tree.content? (directory ++ [name]) with
    | none => simp [HoldsFile, found, FileError.absence, Obstacle.isConclusive]
    | some content => simp [HoldsFile, found, Bool.eq_false_iff.mpr directory_held]

end FileTree
end PayGraph

import PayGraph.Proofs.Places
import PayGraph.Proofs.Refusals
import PayGraph.Proofs.Report
import PayGraph.Proofs.SettingsContent
import PayGraph.Proofs.Toml.Document

/-!
# Settings of the nearest project

The search for a file of settings goes up from a directory, one level at a time, and ends at the
first directory that holds one.  What it finds depends on nothing else, so every directory of a
project that has no nearer file has the same settings.
-/

namespace PayGraph

namespace Path

theorem enclosing_nil (anchor : Anchor) : enclosing ⟨anchor, []⟩ = [⟨anchor, []⟩] := rfl

theorem enclosing_concat (anchor : Anchor) (names : List String) (name : String) :
    enclosing ⟨anchor, names ++ [name]⟩ =
      ⟨anchor, names ++ [name]⟩ :: enclosing ⟨anchor, names⟩ := by
  have kept : ∀ count ∈ List.range (names.length + 1),
      (⟨anchor, (names ++ [name]).take count⟩ : Path) = ⟨anchor, names.take count⟩ := by
    intro count member
    rw [List.take_append_of_le_length (Nat.le_of_lt_succ (List.mem_range.mp member))]
  have full : (names ++ [name]).take (names.length + 1) = names ++ [name] :=
    List.take_of_length_le (by simp)
  rw [enclosing, List.length_append, List.length_singleton, List.range_succ, List.map_append,
    List.reverse_append, List.map_congr_left kept, List.map_singleton, full]
  rfl

end Path

namespace Settings

open FileTree (access IsName)

variable {tree : FileTree} {here place directory : List String} {start : Path} {anchor : Anchor}

/-- The directory holds a file of settings. -/
def HeldIn (tree : FileTree) (directory : List String) : Prop :=
  tree.HoldsFile (directory ++ [fileName])

instance (tree : FileTree) (directory : List String) : Decidable (HeldIn tree directory) :=
  inferInstanceAs (Decidable (tree.HoldsFile _))

/-- The closest directory at or above a place that holds a file of settings. -/
structure IsNearest (tree : FileTree) (place directory : List String) : Prop where
  above : directory <+: place
  held : HeldIn tree directory
  closest : ∀ other, other <+: place → HeldIn tree other → other <+: directory

/-- A directory from which every step of the search can be made. -/
structure Searchable (tree : FileTree) (anchor : Anchor) (place : List String) : Prop where
  absolute : anchor ≠ .relative
  names : ∀ name ∈ place, IsName name
  directory : tree.isDirectory place = true
  short : (Path.text ⟨anchor, place ++ [fileName]⟩).utf8ByteSize ≤ FileTree.pathLimit

theorem Searchable.of_prefix (searchable : Searchable tree anchor place)
    (above : directory <+: place) : Searchable tree anchor directory where
  absolute := searchable.absolute
  names name member := searchable.names name (above.subset member)
  directory := FileTree.isDirectory_of_prefix above searchable.directory
  short := (Path.utf8ByteSize_text_le anchor above fileName).trans searchable.short

theorem isName_fileName : IsName fileName :=
  ⟨by decide, by decide, by decide⟩

/-- One step of the search finds the file of a directory if it holds one. -/
theorem Searchable.isFile (searchable : Searchable tree anchor place) (here : List String) :
    tree.isFile here ⟨anchor, place ++ [fileName]⟩ = .ok (decide (HeldIn tree place)) := by
  refine FileTree.isFile_entry searchable.absolute ?_ searchable.directory searchable.short here
  rw [List.forall_mem_append, List.forall_mem_singleton]
  exact ⟨searchable.names, isName_fileName⟩

theorem firstFile?_cons {path : Path} {rest : List Path} {held : Bool}
    (known : tree.isFile here path = .ok held) :
    (firstFile? (access here) (path :: rest) tree).1 =
      if held then .ok (some path) else (firstFile? (access here) rest tree).1 := by
  rw [firstFile?, bind_apply, FileTree.isFile_apply, known]
  cases held <;> rfl

/-- The directory whose file of settings the search comes to, if there is one. -/
inductive Found (tree : FileTree) (place : List String) : Option (List String) → Prop
  | absent : (∀ directory, directory <+: place → ¬HeldIn tree directory) → Found tree place none
  | present {directory : List String} :
      IsNearest tree place directory → Found tree place (some directory)

theorem found_self (held : HeldIn tree place) : Found tree place (some place) :=
  .present ⟨List.prefix_rfl, held, fun _ above _ => above⟩

/-- A directory that holds no file of settings has that of the directory around it. -/
theorem Found.concat {name : String} {found : Option (List String)}
    (found_above : Found tree place found) (empty : ¬HeldIn tree (place ++ [name])) :
    Found tree (place ++ [name]) found := by
  have above {other : List String} (within : other <+: place ++ [name])
      (held : HeldIn tree other) : other <+: place := by
    rcases List.prefix_concat_iff.mp within with rfl | higher
    · exact absurd held empty
    · exact higher
  cases found_above with
  | absent absent => exact .absent fun other within held => absent other (above within held) held
  | present nearest =>
      exact .present ⟨nearest.above.trans (List.prefix_append _ _), nearest.held,
        fun other within held => nearest.closest other (above within held) held⟩

/-- The search finds the file of the closest directory that holds one. -/
theorem exists_firstFile?_eq (searchable : Searchable tree anchor place) (here : List String) :
    ∃ found, (firstFile? (access here)
        ((Path.enclosing ⟨anchor, place⟩).map (·.child fileName)) tree).1 =
          .ok (found.map fun directory => ⟨anchor, directory ++ [fileName]⟩) ∧
      Found tree place found := by
  induction place using List.reverseRecOn with
  | nil =>
      rw [Path.enclosing_nil, List.map_singleton, Path.child,
        firstFile?_cons (searchable.isFile here)]
      by_cases held : HeldIn tree []
      · exact ⟨some [], by simp [held], found_self held⟩
      · refine ⟨none, by simp [held, firstFile?, pure_apply], .absent fun directory above => ?_⟩
        rwa [List.prefix_nil.mp above]
  | append_singleton names name induction =>
      rw [Path.enclosing_concat, List.map_cons, Path.child,
        firstFile?_cons (searchable.isFile here)]
      by_cases held : HeldIn tree (names ++ [name])
      · exact ⟨some (names ++ [name]), by simp [held], found_self held⟩
      · obtain ⟨found, found_eq, found_above⟩ :=
          induction (searchable.of_prefix (List.prefix_append _ _))
        exact ⟨found, by simp only [held, decide_false, Bool.false_eq_true, if_false, found_eq],
          found_above.concat held⟩

/-- The path leads from the current directory to another one, and the search can start there: paths
up to the file of settings in it are not too long. -/
structure Starts (tree : FileTree) (here : List String) (start : Path) (place : List String) :
    Prop where
  current : tree.locate [] ⟨.root, here⟩ = .ok here
  located : tree.locate here start = .ok place
  directory : tree.isDirectory place = true
  short : (Path.text ⟨(Path.join ⟨.root, here⟩ start).anchor,
    place ++ [fileName]⟩).utf8ByteSize ≤ FileTree.pathLimit

namespace Starts

variable (starts : Starts tree here start place)

include starts

theorem here_names : ∀ name ∈ here, IsName name := by
  obtain ⟨possible, -, followed⟩ := FileTree.locate_eq_ok_iff.mp starts.current
  exact FileTree.isName_of_follow followed (List.forall_mem_nil _) (Path.isPossible_iff.mp possible)

theorem searchable : Searchable tree (Path.join ⟨.root, here⟩ start).anchor place where
  absolute := by
    rw [Path.join]
    split
    · simpa [Path.isAbsolute] using ‹start.isAbsolute = true›
    · intro relative
      cases relative
  names := by
    obtain ⟨possible, -, followed⟩ := FileTree.locate_eq_ok_iff.mp starts.located
    refine FileTree.isName_of_follow followed ?_ (Path.isPossible_iff.mp possible)
    split
    · exact List.forall_mem_nil _
    · exact starts.here_names
  directory := starts.directory
  short := starts.short

theorem collapse_eq : (Path.join ⟨.root, here⟩ start).collapse =
    ⟨(Path.join ⟨.root, here⟩ start).anchor, place⟩ := by
  obtain ⟨-, -, followed⟩ := FileTree.locate_eq_ok_iff.mp starts.located
  have reached := FileTree.collapseNames_of_follow followed
  have plain : ∀ name ∈ here, name ≠ ".." := fun name member =>
    (starts.here_names name member).downwards
  rw [Path.collapse, Path.mk.injEq]
  refine ⟨rfl, ?_⟩
  rw [Path.join]
  split
  · rwa [if_pos ‹_›] at reached
  · rw [if_neg ‹_›] at reached
    rw [Path.collapseNames_append plain, List.append_nil]
    exact reached

theorem exists_find?_eq : ∃ found, (find? (access here) start tree).1 =
      .ok (found.map fun directory =>
        ⟨(Path.join ⟨.root, here⟩ start).anchor, directory ++ [fileName]⟩) ∧
    Found tree place found := by
  obtain ⟨possible, -, -⟩ := FileTree.locate_eq_ok_iff.mp starts.located
  have sought : find? (access here) start tree = firstFile? (access here)
      ((Path.join ⟨.root, here⟩ start).collapse.enclosing.map (·.child fileName)) tree := by
    simp only [find?, bind_apply, possible, if_true]
    rfl
  rw [sought, starts.collapse_eq]
  exact exists_firstFile?_eq starts.searchable here

end Starts

section Found

variable {found : Option (List String)} (found_at : Found tree place found)

include found_at

theorem Found.eq_none_iff :
    found = none ↔ ∀ directory, directory <+: place → ¬HeldIn tree directory := by
  cases found_at with
  | absent absent => exact iff_of_true rfl absent
  | present nearest =>
      exact iff_of_false (by simp) fun absent => absent _ nearest.above nearest.held

theorem Found.eq_some_iff : found = some directory ↔ IsNearest tree place directory := by
  cases found_at with
  | absent absent => exact iff_of_false (by simp) fun nearest => absent _ nearest.above nearest.held
  | @present closest nearest =>
      constructor
      · rintro ⟨⟩
        exact nearest
      · intro other
        have lower := nearest.closest directory other.above other.held
        have higher := other.closest closest nearest.above nearest.held
        rw [higher.eq_of_length_le lower.length_le]

end Found

section Loading

variable [Host]

/-- Settings that hold where the search comes to a directory. -/
def settingsAt (tree : FileTree) : Option (List String) → Except (LoadFault SettingsError) Settings
  | none => .ok {}
  | some directory => (load (access []) ⟨.root, directory ++ [fileName]⟩ tree).1

theorem load_absolute {path : Path} (absolute : path.isAbsolute = true) (here other : List String) :
    (load (access here) path tree).1 = (load (access other) path tree).1 := by
  have same : tree.read here path = tree.read other path := by
    simp only [FileTree.read, FileTree.locate, absolute, if_true]
  rw [load, load, bind_apply, bind_apply, FileTree.read_apply, FileTree.read_apply, same]

/-- The settings in force are those of the directory that the search comes to. -/
theorem exists_current_eq (starts : Starts tree here ⟨.relative, []⟩ here) :
    ∃ found, (current (access here) tree).1 = settingsAt tree found ∧ Found tree here found := by
  obtain ⟨found, found_eq, found_at⟩ := starts.exists_find?_eq
  refine ⟨found, ?_, found_at⟩
  have kept : (find? (access here) ⟨.relative, []⟩ tree).2 = tree :=
    FileTree.firstFile?_tree tree here _
  rw [current, bind_apply, found_eq, kept]
  cases found with
  | none => rfl
  | some directory => exact load_absolute rfl here []

theorem load_apply {path : Path} {content : ByteArray} (there : tree.read here path = .ok content) :
    (load (access here) path tree).1 = ofBytes path content := by
  rw [load, access_read_bind there]
  rfl

/-- The settings of a project hold wherever one stands in it.

From every directory the search finds the file of settings of the closest directory at or above it
that holds one, and nothing if there is none.  A text in such a file is refused exactly for its
first mistake and otherwise says the settings, unless the reader gives it up for the length of a
number or the depth of a nesting.  So the same settings, or the same faults, come from any two
directories with the same closest file. -/
theorem nearest_settings_hold (tree : FileTree) :
    (∀ {here place : List String} {start : Path}, Starts tree here start place →
      ∃ found?, (find? (access here) start tree).1 = .ok found? ∧
        (found? = none ↔ ∀ directory, directory <+: place → ¬HeldIn tree directory) ∧
        ∀ path, found? = some path ↔ ∃ directory, IsNearest tree place directory ∧
          path = ⟨(Path.join ⟨.root, here⟩ start).anchor, directory ++ [fileName]⟩) ∧
    (∀ {here : List String} {path : Path} {content : ByteArray} {text : String},
      tree.read here path = .ok content → String.fromUTF8? content = some text →
        (∀ cause, (load (access here) path tree).1 = .error (.refused cause) ↔
          Flawed path (Toml.read text.toList) cause) ∧
        (∀ settings, (load (access here) path tree).1 = .ok settings ↔
          Says path (Toml.read text.toList) settings) ∧
        ((∀ fault, Toml.read text.toList = .error fault → fault = .malformed) →
          (∃ settings, (load (access here) path tree).1 = .ok settings) ∨
            ∃ cause, (load (access here) path tree).1 = .error (.refused cause))) ∧
    ∀ {here other : List String}, Starts tree here ⟨.relative, []⟩ here →
      Starts tree other ⟨.relative, []⟩ other →
      (∀ directory, IsNearest tree here directory ↔ IsNearest tree other directory) →
        (current (access here) tree).1 = (current (access other) tree).1 := by
  refine ⟨?search, ?content, ?independence⟩
  case search =>
    intro here place start starts
    obtain ⟨found, found_eq, found_at⟩ := starts.exists_find?_eq
    refine ⟨_, found_eq, ?_, fun path => ?_⟩
    · rw [Option.map_eq_none_iff, found_at.eq_none_iff]
    · rw [Option.map_eq_some_iff]
      simp only [found_at.eq_some_iff, eq_comm]
  case content =>
    intro here path content text there decoded
    rw [load_apply there]
    refine ⟨fun cause => ofBytes_eq_refused_iff decoded, fun settings => ofBytes_eq_ok_iff decoded,
      fun legible => ?_⟩
    have answers : LoadFault.Answers (ofBytes path content) :=
      answers_ofBytes_iff.mpr ((LoadFault.legible_map_iff Data.table).mpr ⟨text, decoded, legible⟩)
    exact LoadFault.answers_iff.mp answers
  case independence =>
    intro here other here_starts other_starts same
    obtain ⟨found, current_eq, found_at⟩ := exists_current_eq here_starts
    obtain ⟨other_found, other_eq, other_at⟩ := exists_current_eq other_starts
    have same_found : found = other_found := by
      ext directory
      rw [found_at.eq_some_iff, other_at.eq_some_iff, same]
    rw [current_eq, other_eq, same_found]

end Loading

/-- Settings that name a formula. -/
def projectText : String :=
  "[tool.payformula]\nformula = \"docente.json\"\n"

/-- A project below which a directory has the name of a file of settings. -/
def projectTree : FileTree where
  files := [(["nomina", "pyproject.toml"], projectText.toUTF8)]
  directories := [["nomina", "src", "pyproject.toml"]]

theorem project_nearest {place : List String} (within : ["nomina"] <+: place)
    (lowest : place <+: ["nomina", "src"]) (other : List String) :
    IsNearest projectTree place other ↔ other = ["nomina"] := by
  have closest : ∀ one ∈ ["nomina", "src"].inits, HeldIn projectTree one → one = ["nomina"] := by
    decide +kernel
  constructor
  · rintro ⟨above, held, -⟩
    exact closest other ((List.mem_inits _ _).mpr (above.trans lowest)) held
  · rintro rfl
    refine ⟨within, by decide +kernel, fun one above held => ?_⟩
    rw [closest one ((List.mem_inits _ _).mpr (above.trans lowest)) held]

/-- Path of the file of settings of the project. -/
def projectPath : Path := ⟨.root, ["nomina", "pyproject.toml"]⟩

/-- Settings of the project. -/
def projectSettings : Settings :=
  ⟨some ⟨.root, ["nomina", "docente.json"]⟩, none, none, some ⟨.root, ["nomina"]⟩⟩

attribute [local instance] Host.usual

/-- The settings of the project hold in the directory below. -/
theorem project_settings_hold :
    (find? (access ["nomina", "src"]) ⟨.relative, []⟩ projectTree).1 = .ok (some projectPath) ∧
      Says projectPath (Toml.read projectText.toList) projectSettings ∧
      (current (access ["nomina", "src"]) projectTree).1 =
        (current (access ["nomina"]) projectTree).1 := by
  obtain ⟨search, content, independence⟩ := nearest_settings_hold projectTree
  have below_starts : Starts projectTree ["nomina", "src"] ⟨.relative, []⟩ ["nomina", "src"] :=
    ⟨rfl, rfl, by decide +kernel, by decide +kernel⟩
  have root_starts : Starts projectTree ["nomina"] ⟨.relative, []⟩ ["nomina"] :=
    ⟨rfl, rfl, by decide +kernel, by decide +kernel⟩
  refine ⟨?_, ?_, independence below_starts root_starts fun directory => ?_⟩
  · obtain ⟨found, found_eq, -, found_iff⟩ := search below_starts
    rw [found_eq, (found_iff projectPath).mpr
      ⟨["nomina"], (project_nearest (by decide) (by decide) _).mpr rfl, rfl⟩]
  · have there : projectTree.read [] projectPath = .ok projectText.toUTF8 := rfl
    obtain ⟨-, says_iff, -⟩ := content there (fromUTF8?_toUTF8 projectText)
    exact (says_iff projectSettings).mp (Except.eq_ok_of_toOption (by decide +kernel))
  · rw [project_nearest (by decide) (by decide), project_nearest (by decide) (by decide)]

/-- A file of settings with so many lists, one within the other. -/
def nestedText (count : Nat) : String :=
  String.ofList ('x' :: ' ' :: '=' :: ' ' ::
    (List.replicate count '[' ++ List.replicate count ']'))

theorem read_nestedText [Host] {count : Nat} (deep : Stack.toml < 2 * count) :
    Toml.read (nestedText count).toList = .error .nesting := by
  have plain : '\r' ∉ 'x' :: ' ' :: '=' :: ' ' ::
      (List.replicate count '[' ++ List.replicate count ']') := by
    simp [List.mem_replicate]
  rw [Toml.read, nestedText, String.toList_ofList, Toml.unifyBreaks_eq_self plain]
  generalize List.length _ = fuel
  have given_up : Toml.value (fuel + 1) Stack.toml
      (List.replicate count '[' ++ List.replicate count ']') = .error .nesting :=
    Toml.value_of_deep deep (List.replicate count ']')
  obtain ⟨others, rfl⟩ : ∃ others, count = others + 1 := ⟨count - 1, by omega⟩
  rw [List.replicate_succ, List.cons_append] at given_up ⊢
  generalize List.replicate others '[' ++ _ = following at given_up ⊢
  let input := 'x' :: ' ' :: '=' :: ' ' :: '[' :: following
  have key_read : Toml.keyParts (fuel + 1) [] input = .ok (["x"], '=' :: ' ' :: '[' :: following) :=
    rfl
  have assigned : Toml.assignment (fuel + 1) (Toml.value (fuel + 1) Stack.toml) input =
      .error .nesting := by
    have blank_skipped : Toml.skipBlanks (' ' :: '[' :: following) = '[' :: following := rfl
    rw [Toml.assignment, key_read]
    simp only [blank_skipped, given_up]
    rfl
  have stated : Toml.statement (fuel + 1) {} input = .error .nesting := by
    rw [Toml.statement.eq_def]
    simp only [input, assigned]
    rfl
  have unskipped : Toml.skipBlanks input = input := rfl
  rw [Toml.lines, unskipped, stated]

/-- Six hundred lists are neither refused nor do they give settings. -/
theorem nested_settings_given_up :
    String.fromUTF8? (nestedText 600).toUTF8 = some (nestedText 600) ∧
      (load (access []) ⟨.root, [fileName]⟩ ⟨[([fileName], (nestedText 600).toUTF8)], []⟩).1 =
        .error .nesting := by
  have decoded := fromUTF8?_toUTF8 (nestedText 600)
  refine ⟨decoded, ?_⟩
  have there (content : ByteArray) :
      FileTree.read ⟨[([fileName], content)], []⟩ [] ⟨.root, [fileName]⟩ = .ok content := rfl
  rw [load_apply (there _), ofBytes_of_text decoded, read_nestedText (by decide)]
  rfl

end Settings
end PayGraph

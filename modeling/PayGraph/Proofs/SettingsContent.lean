import PayGraph.Proofs.Outcomes
import PayGraph.Settings

/-!
# What a file of settings says

A file of settings names its paths in a table within a table, and each table and each path may be
missing.  Where one is there but of another kind, the file is refused for the first mistake;
otherwise its settings hold.
-/

namespace PayGraph
namespace Settings

/-- Keys of the paths, in the order in which they are checked. -/
def pathKeys : List String :=
  ["formula", "inputs", "output"]

/-- The table that entries hold under a key; a missing one is empty. -/
inductive TableAt (entries : Entries) (key : String) : Entries → Prop
  | missing : entries.lookup key = none → TableAt entries key []
  | given {inner : Entries} : entries.lookup key = some (.table inner) → TableAt entries key inner

/-- The path that entries name under a key: an absolute one as it is written, and any other below
the root of the project. -/
inductive PathAt (root : Path) (entries : Entries) (key : String) : Option Path → Prop
  | missing : entries.lookup key = none → PathAt root entries key none
  | absolute {written : String} : entries.lookup key = some (.text written) →
      written.toList.head? = some '/' → PathAt root entries key (some (.ofText written))
  | relative {written : String} : entries.lookup key = some (.text written) →
      written.toList.head? ≠ some '/' →
      PathAt root entries key
        (some ⟨root.anchor, root.names ++ Path.namesOf written.toList⟩)

/-- Entries hold something else than a table under a key. -/
def NoTableAt (entries : Entries) (key : String) : Prop :=
  ∃ data, entries.lookup key = some data ∧ ∀ inner, data ≠ .table inner

/-- Entries hold something else than a text under a key. -/
def NoPathAt (entries : Entries) (key : String) : Prop :=
  ∃ data, entries.lookup key = some data ∧ ∀ written, data ≠ .text written

/-- The first of some keys under which entries hold something else than a text. -/
inductive FirstNoPath (entries : Entries) : List String → String → Prop
  | here {key : String} {rest : List String} :
      NoPathAt entries key → FirstNoPath entries (key :: rest) key
  | later {first key : String} {rest : List String} : ¬NoPathAt entries first →
      FirstNoPath entries rest key → FirstNoPath entries (first :: rest) key

/-- The first mistake in what is read from a file of settings. -/
inductive Flawed (path : Path) : Except ParseFault Entries → SettingsError → Prop
  | notToml : Flawed path (.error .malformed) (.notToml path)
  | noToolTable {entries : Entries} :
      NoTableAt entries "tool" → Flawed path (.ok entries) .noToolTable
  | noOwnTable {entries tools : Entries} : TableAt entries "tool" tools →
      NoTableAt tools "payformula" → Flawed path (.ok entries) .noOwnTable
  | noPath {entries tools own : Entries} {key : String} : TableAt entries "tool" tools →
      TableAt tools "payformula" own → FirstNoPath own pathKeys key →
      Flawed path (.ok entries) (.noPath key)

/-- What is read from a file of settings says that these hold below its directory. -/
inductive Says (path : Path) : Except ParseFault Entries → Settings → Prop
  | intro {entries tools own : Entries} {formula? inputs? output? : Option Path} :
      TableAt entries "tool" tools → TableAt tools "payformula" own →
      PathAt path.parent own "formula" formula? → PathAt path.parent own "inputs" inputs? →
      PathAt path.parent own "output" output? →
      Says path (.ok entries) ⟨formula?, inputs?, output?, some path.parent⟩

variable {path root : Path} {entries : Entries} {key : String}

theorem table_eq_ok_iff {mistake : SettingsError} {inner : Entries} :
    table key mistake entries = .ok inner ↔ TableAt entries key inner := by
  rw [table]
  constructor
  · intro found
    split at found
    · cases found
      exact .missing ‹_›
    · cases found
      exact .given ‹_›
    · cases found
  · rintro (missing | given)
    · rw [missing]
    · rw [given]

theorem table_eq_error_iff {mistake cause : SettingsError} :
    table key mistake entries = .error cause ↔ NoTableAt entries key ∧ mistake = cause := by
  rw [table, NoTableAt]
  cases entries.lookup key with
  | none => simp
  | some data => cases data <;> simp

theorem isAbsolute_ofText (written : String) :
    (Path.ofText written).isAbsolute = true ↔ written.toList.head? = some '/' := by
  rw [Path.isAbsolute, Path.ofText]
  generalize written.toList = characters
  unfold Path.anchorOf
  split
  · simp
  · simp
  · simp
  · rename_i unanchored
    cases characters with
    | nil => simp
    | cons first rest => simpa using unanchored rest

theorem path?_eq_ok_iff {found : Option Path} :
    path? root key entries = .ok found ↔ PathAt root entries key found := by
  rw [path?]
  constructor
  · intro resolved
    split at resolved
    · cases resolved
      exact .missing ‹_›
    · rename_i written given
      cases resolved
      rw [Path.join]
      split
      · exact .absolute given ((isAbsolute_ofText written).mp ‹_›)
      · exact .relative given (mt (isAbsolute_ofText written).mpr ‹_›)
    · cases resolved
  · rintro (missing | ⟨given, anchored⟩ | ⟨given, unanchored⟩)
    · rw [missing]
    · simp only [given, Path.join, if_pos ((isAbsolute_ofText _).mpr anchored)]
    · simp only [given, Path.join, if_neg (mt (isAbsolute_ofText _).mp unanchored)]
      rfl

theorem path?_eq_error_iff {cause : SettingsError} :
    path? root key entries = .error cause ↔ NoPathAt entries key ∧ .noPath key = cause := by
  rw [path?, NoPathAt]
  cases entries.lookup key with
  | none => simp
  | some data => cases data <;> simp

theorem exists_path?_iff (root : Path) :
    (∃ found, path? root key entries = .ok found) ↔ ¬NoPathAt entries key := by
  cases resolved : path? root key entries with
  | ok found =>
      refine iff_of_true ⟨found, rfl⟩ fun flawed => ?_
      have refused : path? root key entries = .error (.noPath key) :=
        path?_eq_error_iff.mpr ⟨flawed, rfl⟩
      rw [resolved] at refused
      cases refused
  | error cause =>
      exact iff_of_false (by simp) (not_not_intro (path?_eq_error_iff.mp resolved).1)

/-- Settings are found exactly if the entries say so. -/
theorem ofEntries_eq_ok_iff {settings : Settings} :
    ofEntries path.parent entries = .ok settings ↔ Says path (.ok entries) settings := by
  rw [ofEntries]
  simp only [Except.bind_eq_ok_iff, table_eq_ok_iff, path?_eq_ok_iff]
  constructor
  · rintro ⟨tools, tool, own, payformula, formula?, formula, inputs?, inputs, output?, output, made⟩
    cases made
    exact .intro tool payformula formula inputs output
  · rintro (⟨tool, payformula, formula, inputs, output⟩)
    exact ⟨_, tool, _, payformula, _, formula, _, inputs, _, output, rfl⟩

/-- Entries are refused exactly for their first mistake. -/
theorem ofEntries_eq_error_iff {cause : SettingsError} :
    ofEntries path.parent entries = .error cause ↔ Flawed path (.ok entries) cause := by
  rw [ofEntries]
  simp only [Except.bind_eq_error_iff, table_eq_error_iff, path?_eq_error_iff, table_eq_ok_iff]
  constructor
  · rintro (⟨flawed, rfl⟩ | ⟨tools, tool, ⟨flawed, rfl⟩ | ⟨own, payformula, refused⟩⟩)
    · exact .noToolTable flawed
    · exact .noOwnTable tool flawed
    · rcases refused with ⟨flawed, rfl⟩ | ⟨formula?, formula, refused⟩
      · exact .noPath tool payformula (.here flawed)
      have formula_kept := (exists_path?_iff _).mp ⟨_, formula⟩
      rcases refused with ⟨flawed, rfl⟩ | ⟨inputs?, inputs, refused⟩
      · exact .noPath tool payformula (.later formula_kept (.here flawed))
      have inputs_kept := (exists_path?_iff _).mp ⟨_, inputs⟩
      rcases refused with ⟨flawed, rfl⟩ | ⟨output?, output, made⟩
      · exact .noPath tool payformula (.later formula_kept (.later inputs_kept (.here flawed)))
      cases made
  · intro flawed
    cases flawed with
    | noToolTable flawed => exact Or.inl ⟨flawed, rfl⟩
    | noOwnTable tool flawed => exact Or.inr ⟨_, tool, Or.inl ⟨flawed, rfl⟩⟩
    | @noPath _ tools own key tool payformula first =>
        refine Or.inr ⟨tools, tool, Or.inr ⟨own, payformula, ?_⟩⟩
        rcases first with flawed | ⟨formula_kept, flawed | ⟨inputs_kept, flawed | ⟨_, ⟨⟩⟩⟩⟩
        · exact Or.inl ⟨flawed, rfl⟩
        · obtain ⟨formula?, formula⟩ := (exists_path?_iff path.parent).mpr formula_kept
          exact Or.inr ⟨formula?, formula, Or.inl ⟨flawed, rfl⟩⟩
        · obtain ⟨formula?, formula⟩ := (exists_path?_iff path.parent).mpr formula_kept
          obtain ⟨inputs?, inputs⟩ := (exists_path?_iff path.parent).mpr inputs_kept
          exact Or.inr ⟨formula?, formula, Or.inr ⟨inputs?, inputs, Or.inl ⟨flawed, rfl⟩⟩⟩

section Bytes

variable [Host] {content : ByteArray} {text : String}

theorem ofBytes_of_text (decoded : String.fromUTF8? content = some text) :
    ofBytes path content = ((Toml.read text.toList).mapError (.ofParse (.notToml path)) >>=
      fun entries => (ofEntries path.parent entries).mapError .refused) := by
  rw [ofBytes, readContent, decoded]

/-- A text gives settings exactly if the table that is read from it says so. -/
theorem ofBytes_eq_ok_iff (decoded : String.fromUTF8? content = some text) {settings : Settings} :
    ofBytes path content = .ok settings ↔ Says path (Toml.read text.toList) settings := by
  rw [ofBytes_of_text decoded]
  cases Toml.read text.toList with
  | ok entries =>
      rw [← ofEntries_eq_ok_iff]
      constructor
      · exact Except.eq_ok_of_mapError_eq_ok
      · intro made
        change (ofEntries path.parent entries).mapError LoadFault.refused = _
        rw [made]
        rfl
  | error fault =>
      constructor
      · intro made
        cases made
      · intro stated
        cases stated

/-- A text is refused exactly for the first mistake in what is read from it. -/
theorem ofBytes_eq_refused_iff (decoded : String.fromUTF8? content = some text)
    {cause : SettingsError} :
    ofBytes path content = .error (.refused cause) ↔ Flawed path (Toml.read text.toList) cause := by
  rw [ofBytes_of_text decoded]
  cases Toml.read text.toList with
  | ok entries =>
      rw [← ofEntries_eq_error_iff]
      constructor
      · intro refused
        obtain ⟨mistake, made, same⟩ := Except.exists_of_mapError_eq_error refused
        rw [made, LoadFault.refused.inj same]
      · intro made
        change (ofEntries path.parent entries).mapError LoadFault.refused = _
        rw [made]
        rfl
  | error fault =>
      constructor
      · intro refused
        cases fault with
        | malformed =>
            cases refused
            exact .notToml
        | digits => cases refused
        | nesting => cases refused
      · intro flawed
        cases flawed
        rfl

end Bytes

end Settings
end PayGraph

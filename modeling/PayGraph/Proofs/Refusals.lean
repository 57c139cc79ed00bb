import PayGraph.Proofs.Document.Loading
import PayGraph.Proofs.FileTree
import PayGraph.Proofs.Json.Nesting
import PayGraph.Proofs.Toml.Grounds

/-!
# Files that are loaded or refused

A loader answers for a file if it returns what the file holds or refuses it with a message.  It
fails to answer for bytes that are no text and for texts that the reader gives up for the length of
a number or the depth of a nesting.  Checks of what was read answer too, except over an operator
that is nested too deeply for a warning.
-/

namespace PayGraph

theorem rebroken_unifyBreaks (text : List Char) : Rebroken text (unifyBreaks text) := by
  fun_induction unifyBreaks text with
  | case1 rest induction => exact .paired induction
  | case2 rest others induction => exact .lone induction
  | case3 character rest others notAlone induction => exact .keep character induction
  | case4 => exact .nil

theorem openings_unifyBreaks (text : List Char) : openings (unifyBreaks text) = openings text :=
  (rebroken_unifyBreaks text).openings_eq

/-- The text asks for no more depth than there is, as far as opening brackets tell. -/
structure IsShallow [Host] (text : List Char) : Prop where
  json : openings text ≤ Stack.json
  toml : 3 * openings text ≤ Stack.toml
  shown : openings text ≤ Stack.shown

theorem Grounds.eq_malformed {cost room : Nat} {text : List Char} {fault : ParseFault}
    (grounds : Grounds cost room text fault) (short : ¬HasLongRun text)
    (shallow : cost * openings text ≤ room) : fault = .malformed := by
  cases fault with
  | malformed => rfl
  | digits cause => exact absurd grounds short
  | nesting => exact absurd grounds (Nat.not_lt.mpr shallow)

section Reading

variable [Host] {text : List Char}

theorem eq_malformed_of_ofText_error (short : ¬HasLongRun text) (shallow : IsShallow text)
    {format : Format} {fault : ParseFault} (refused : Data.ofText format text = .error fault) :
    fault = .malformed := by
  cases format with
  | json =>
      have grounds := (rebroken_unifyBreaks text).grounds (Json.grounds_of_read_error refused)
      exact grounds.eq_malformed short ((Nat.one_mul _).trans_le shallow.json)
  | toml =>
      have grounds := Toml.grounds_of_read_error (Except.eq_error_of_map_eq_error refused)
      exact grounds.eq_malformed short shallow.toml

theorem nesting_of_ofText {data : Data} (read : Data.ofText .json text = .ok data) :
    data.nesting ≤ openings text := by
  rw [← openings_unifyBreaks]
  exact Json.nesting_of_read read

end Reading

theorem NodeEntry.nesting_lt_of_holds {item : Data} {entry : NodeEntry}
    (holds : NodeEntry.Holds item entry) {key : String} {value : Data}
    (given : entry.data.lookup key = some value) : value.nesting < item.nesting := by
  cases holds with
  | table id_given type_given data_given =>
      rcases data_given with data_given | ⟨-, rfl⟩
      · exact (Data.nesting_lt_of_lookup given).trans (Data.nesting_lt_of_lookup data_given)
      · cases given

namespace Document

theorem nesting_lt_of_holds {data : Data} {document : Document} (holds : Holds data document)
    {entry : NodeEntry} (entry_mem : entry ∈ document.nodes) {key : String} {value : Data}
    (given : entry.data.lookup key = some value) : value.nesting < data.nesting := by
  cases holds with
  | table id_given id_fits name_given description_given nodes_given nodes_hold =>
      refine Nat.lt_trans ?_ (Data.nesting_lt_of_lookup nodes_given)
      obtain ⟨index, short, rfl⟩ := List.getElem_of_mem entry_mem
      have same_length := nodes_hold.length_eq
      exact (NodeEntry.nesting_lt_of_holds (nodes_hold.get (same_length ▸ short) short) given).trans
        (Data.nesting_lt_of_mem (List.get_mem _ _))

/-- Data gives up a document only if it is nested too deeply itself. -/
theorem not_givesUp_of_nesting [Host] {data : Data} (shallow : data.nesting ≤ Stack.shown) :
    ¬GivesUp data := by
  rintro ⟨document, before, entry, after, holds, nodes_eq, -, key, value, -, given, deep⟩
  have entry_mem : entry ∈ document.nodes := by
    rw [nodes_eq]
    exact List.mem_append_right before List.mem_cons_self
  have smaller := nesting_lt_of_holds holds entry_mem given
  omega

end Document

namespace LoadFault

/-- Loading ended with a result or with a refusal. -/
def Answers {Refusal Value : Type} : Except (LoadFault Refusal) Value → Prop
  | .ok _ => True
  | .error (.refused _) => True
  | .error _ => False

/-- The bytes are a text, and a reader finds a document in it or something malformed. -/
def Legible {Value : Type} (reader : List Char → Except ParseFault Value) (content : ByteArray) :
    Prop :=
  ∃ text, String.fromUTF8? content = some text ∧
    ∀ fault, reader text.toList = .error fault → fault = .malformed

/-- The bytes are a text in which a reader finds a value. -/
def Contains {Value : Type} (reader : List Char → Except ParseFault Value) (content : ByteArray)
    (value : Value) : Prop :=
  ∃ text, String.fromUTF8? content = some text ∧ reader text.toList = .ok value

/-- The bytes are a text without numbers and nestings beyond all bounds, as far as digits and
opening brackets tell. -/
def Plain [Host] (content : ByteArray) : Prop :=
  ∃ text, String.fromUTF8? content = some text ∧ ¬HasLongRun text.toList ∧ IsShallow text.toList

section

variable {Refusal Value Found : Type}

theorem answers_iff {outcome : Except (LoadFault Refusal) Value} :
    Answers outcome ↔
      (∃ value, outcome = .ok value) ∨ ∃ cause, outcome = .error (.refused cause) := by
  rcases outcome with (cause | cause | _ | cause | _) | value <;> simp [Answers]

theorem answers_mapError_refused {Faults : Type} (refusal : Faults → Refusal)
    (checked : Except Faults Value) :
    Answers (checked.mapError fun faults => refused (refusal faults)) := by
  cases checked <;> trivial

theorem answers_error_iff {fault : LoadFault Refusal} :
    Answers (.error fault : Except (LoadFault Refusal) Found) ↔
      Answers (.error fault : Except (LoadFault Refusal) Value) := by
  cases fault <;> exact Iff.rfl

/-- Checks that answer leave it to the reader whether the loader does. -/
theorem answers_bind_iff {outcome : Except (LoadFault Refusal) Value}
    {next : Value → Except (LoadFault Refusal) Found} (answers : ∀ value, Answers (next value)) :
    Answers (outcome >>= next) ↔ Answers outcome := by
  cases outcome with
  | ok value => exact iff_of_true (answers value) trivial
  | error fault => exact answers_error_iff

theorem answers_readContent_iff {reader : List Char → Except ParseFault Value}
    {malformed : Refusal} {content : ByteArray} :
    Answers (readContent reader malformed content) ↔ Legible reader content := by
  rw [readContent, Legible]
  cases String.fromUTF8? content with
  | none => simp [Answers]
  | some text =>
      cases read : reader text.toList with
      | ok value => simp [Answers, Except.mapError, read]
      | error fault => cases fault <;> simp [Answers, Except.mapError, ofParse, read]

theorem legible_map_iff {reader : List Char → Except ParseFault Value} (make : Value → Found)
    {content : ByteArray} :
    Legible (fun text => (reader text).map make) content ↔ Legible reader content := by
  have faults_alike : ∀ text fault,
      (reader text).map make = .error fault ↔ reader text = .error fault := by
    intro text fault
    cases reader text <;> simp [Except.map]
  simp only [Legible, faults_alike]

/-- A reader has a result exactly for what the bytes contain. -/
theorem readContent_eq_ok_iff {reader : List Char → Except ParseFault Value} {malformed : Refusal}
    {content : ByteArray} {value : Value} :
    readContent reader malformed content = .ok value ↔ Contains reader content value := by
  constructor
  · fun_cases readContent reader malformed content with
    | case1 text decoded => exact fun read => ⟨text, decoded, Except.eq_ok_of_mapError_eq_ok read⟩
    | case2 => nofun
  · rintro ⟨text, decoded, read⟩
    rw [readContent, decoded]
    exact congrArg (Except.mapError _) read

end

section Plainly

variable [Host] {content : ByteArray}

theorem legible_of_plain (plain : Plain content) (format : Format) :
    Legible (Data.ofText format) content := by
  obtain ⟨text, decoded, short, shallow⟩ := plain
  exact ⟨text, decoded, fun fault => eq_malformed_of_ofText_error short shallow⟩

theorem not_givesUp_of_plain (plain : Plain content) {data : Data}
    (contains : Contains (Data.ofText .json) content data) : ¬Document.GivesUp data := by
  obtain ⟨text, decoded, -, shallow⟩ := plain
  obtain ⟨alike, decoded_alike, read⟩ := contains
  cases decoded.symm.trans decoded_alike
  exact Document.not_givesUp_of_nesting ((nesting_of_ofText read).trans shallow.shown)

end Plainly

end LoadFault

open LoadFault

section Loaders

variable {path : Path} {content : ByteArray} {tree : FileTree} {here : List String}

/-- What follows the reading of a file that is there gets its content. -/
theorem access_read_bind {Value : Type} {next : Except FileError ByteArray → StateM FileTree Value}
    (there : tree.read here path = .ok content) :
    ((FileTree.access here).read path >>= next) tree = next (.ok content) tree := by
  rw [bind_apply, FileTree.read_apply, there]

variable [Host]

theorem answers_ofDocument_iff {data : Data} :
    Answers ((Formula.ofData data).2.mapError LoadFault.ofDocument) ↔ ¬Document.GivesUp data := by
  rw [← Document.givesUp_iff]
  rcases (Formula.ofData data).2 with (cause | _) | formula
  · exact iff_of_true trivial nofun
  · exact iff_of_false id fun given_up => given_up rfl
  · exact iff_of_true trivial nofun

theorem Formula.answers_ofBytes_iff :
    Answers (Formula.ofBytes path content).2 ↔ Legible (Data.ofText .json) content ∧
      ∀ data, Contains (Data.ofText .json) content data → ¬Document.GivesUp data := by
  have reading : Answers (readContent (Data.ofText .json) (LoadError.notJson path) content) ↔ _ :=
    answers_readContent_iff
  have found_iff (data : Data) :
      Contains (Data.ofText .json) content data ↔
        readContent (Data.ofText .json) (LoadError.notJson path) content = .ok data :=
    readContent_eq_ok_iff.symm
  simp only [← reading, found_iff]
  fun_cases Formula.ofBytes path content with
  | case1 fault unread =>
      rw [unread]
      exact answers_error_iff.trans (and_iff_left nofun).symm
  | case2 data read warnings found made =>
      have found_eq : found = (Formula.ofData data).2 := (congrArg Prod.snd made).symm
      rw [read, found_eq]
      refine answers_ofDocument_iff.trans ⟨fun kept => ⟨trivial, ?_⟩, fun kept => kept.2 data rfl⟩
      rintro other ⟨⟩
      exact kept

theorem Inputs.answers_ofBytes_iff :
    Answers (Inputs.ofBytes path content) ↔ Legible (Data.ofText (.ofPath path)) content :=
  (answers_bind_iff fun _ => answers_mapError_refused _ _).trans answers_readContent_iff

theorem Settings.answers_ofBytes_iff :
    Answers (Settings.ofBytes path content) ↔ Legible (Data.ofText .toml) content :=
  (answers_bind_iff fun _ => answers_mapError_refused id _).trans
    (answers_readContent_iff.trans (legible_map_iff Data.table).symm)

/-- The loaders answer exactly for the files that are legible to them, but that of formulas gives up
those with an operator that is nested too deeply for a warning.  They answer for plain files. -/
theorem loading_answers_iff (there : tree.read here path = .ok content) :
    (Answers (Formula.load (FileTree.access here) path tree).1.2 ↔
        Legible (Data.ofText .json) content ∧
          ∀ data, Contains (Data.ofText .json) content data → ¬Document.GivesUp data) ∧
      (Answers (Inputs.load (FileTree.access here) path tree).1 ↔
        Legible (Data.ofText (.ofPath path)) content) ∧
      (Answers (Settings.load (FileTree.access here) path tree).1 ↔
        Legible (Data.ofText .toml) content) ∧
      (Plain content → (∀ format, Legible (Data.ofText format) content) ∧
        ∀ data, Contains (Data.ofText .json) content data → ¬Document.GivesUp data) := by
  refine ⟨?_, ?_, ?_, fun plain => ⟨legible_of_plain plain, fun _ => not_givesUp_of_plain plain⟩⟩
  · rw [Formula.load, access_read_bind there]
    exact Formula.answers_ofBytes_iff
  · rw [Inputs.load, access_read_bind there]
    exact Inputs.answers_ofBytes_iff
  · rw [Settings.load, access_read_bind there]
    exact Settings.answers_ofBytes_iff

end Loaders

/-- The file `clase.toml` in the current directory. -/
def classPath : Path :=
  ⟨.relative, ["clase.toml"]⟩

/-- Metrics in ASCII. -/
def classContent : ByteArray :=
  ⟨#[0x72, 0x20, 0x3D, 0x20, 0x32, 0x35, 0x0A]⟩

section

attribute [local instance] Host.usual

theorem classPath_answered :
    FileTree.read ⟨[(["clase.toml"], classContent)], []⟩ [] classPath = .ok classContent ∧
      Plain classContent ∧
      Answers (Inputs.load (FileTree.access []) classPath
        ⟨[(["clase.toml"], classContent)], []⟩).1 := by
  have there : FileTree.read ⟨[(["clase.toml"], classContent)], []⟩ [] classPath =
      .ok classContent := by
    rfl
  have decoded : String.fromUTF8? classContent = some "r = 25\n" := by
    decide +kernel
  have plain : Plain classContent := by
    refine ⟨_, decoded, ?_, by decide, by decide, by decide⟩
    intro long
    exact absurd long.lt_length (by decide)
  obtain ⟨_, answers_iff, _, answered⟩ := loading_answers_iff there
  refine ⟨there, plain, ?_⟩
  rw [answers_iff]
  exact (answered plain).1 (.ofPath classPath)

/-- Metrics with a comment in Latin-1, `r = 25 # añadidas`. -/
def latinContent : ByteArray :=
  ⟨#[0x72, 0x20, 0x3D, 0x20, 0x32, 0x35, 0x20, 0x23, 0x20, 0x61, 0xF1, 0x61, 0x64, 0x69, 0x64, 0x61,
    0x73, 0x0A]⟩

theorem latinContent_unanswered :
    FileTree.read ⟨[(["clase.toml"], latinContent)], []⟩ [] classPath = .ok latinContent ∧
      ¬ Answers (Inputs.load (FileTree.access []) classPath
        ⟨[(["clase.toml"], latinContent)], []⟩).1 := by
  have there : FileTree.read ⟨[(["clase.toml"], latinContent)], []⟩ [] classPath =
      .ok latinContent := by
    rfl
  have undecodable : String.fromUTF8? latinContent = none := by
    decide +kernel
  refine ⟨there, ?_⟩
  rw [Inputs.load, access_read_bind there]
  intro answers
  obtain ⟨text, decoded, _⟩ := Inputs.answers_ofBytes_iff.mp answers
  rw [undecodable] at decoded
  cases decoded

end

end PayGraph

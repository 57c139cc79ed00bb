import Mathlib
import PayGraph.Proofs.Document.Fields

/-!
# What documents hold

A value passes the check of a document if its fields have their places and kinds, and the document
then holds what stands in them.  Else the faults that the check lists are those of the fields: of
the document, of its nodes and of its connections.
-/

namespace PayGraph

namespace Data

variable {data : Data} {fault : FieldFault}

/-- The value is a text. -/
def IsText (data : Data) : Prop :=
  ∃ content, data = .text content

/-- The value is a table. -/
def IsTable (data : Data) : Prop :=
  ∃ entries, data = .table entries

/-- The value is a list. -/
def IsList (data : Data) : Prop :=
  ∃ items, data = .list items

/-- The value may stand for an identifier. -/
def IsIdentifier (data : Data) : Prop :=
  data.IsText ∨ (∃ value, data = .whole value) ∨ ∃ value, data = .boolean value

/-- The value stands for an identifier, which is its text. -/
inductive Identifies : Data → String → Prop
  | text (content : String) : Identifies (.text content) content
  | whole (value : Int) : Identifies (.whole value) (String.ofList (wholeText value))
  | boolean (value : Bool) : Identifies (.boolean value) (if value then "True" else "False")

theorem asText_eq_ok_iff {content : String} : data.asText = .ok content ↔ data = .text content := by
  cases data <;> simp [asText, Checked.fault]

theorem mem_faults_asText : fault ∈ data.asText.faults ↔
    ¬ data.IsText ∧ fault = ⟨[], .notText⟩ := by
  cases data <;> simp [asText, IsText, Checked.fault, Checked.faults]

theorem asTable_eq_ok_iff {entries : Entries} :
    data.asTable = .ok entries ↔ data = .table entries := by
  cases data <;> simp [asTable, Checked.fault]

theorem mem_faults_asTable : fault ∈ data.asTable.faults ↔
    ¬ data.IsTable ∧ fault = ⟨[], .notTable⟩ := by
  cases data <;> simp [asTable, IsTable, Checked.fault, Checked.faults]

theorem asNullableText_eq_ok_iff {content? : Option String} :
    data.asNullableText = .ok content? ↔ data = .null ∧ content? = none ∨
      ∃ content, data = .text content ∧ content? = some content := by
  cases data <;> simp [asNullableText, Checked.fault, eq_comm]

theorem mem_faults_asNullableText : fault ∈ data.asNullableText.faults ↔
    (data ≠ .null ∧ ¬ data.IsText) ∧ fault = ⟨[], .notText⟩ := by
  cases data <;> simp [asNullableText, IsText, Checked.fault, Checked.faults]

theorem checkId_eq_ok_iff {id : String} :
    Document.checkId data = .ok id ↔ data.Identifies id := by
  constructor
  · intro checked
    cases data <;> cases checked <;> constructor
  · rintro (_ | _ | _) <;> rfl

theorem mem_faults_checkId : fault ∈ (Document.checkId data).faults ↔
    ¬ data.IsIdentifier ∧ fault = ⟨[], .notText⟩ := by
  cases data <;>
    simp [Document.checkId, IsIdentifier, IsText, asText, Checked.fault, Checked.faults]

variable {Value : Type} {check : Data → Checked Value}

theorem asList_eq_ok_iff {values : List Value} : asList check data = .ok values ↔
    ∃ items, data = .list items ∧
      List.Forall₂ (fun item value => check item = .ok value) items values := by
  cases data <;> simp [asList, Checked.fault, Checked.each_eq_ok_iff]

theorem mem_faults_asList : fault ∈ (asList check data).faults ↔
    ¬ data.IsList ∧ fault = ⟨[], .notList⟩ ∨
      ∃ items, data = .list items ∧ ∃ index item, items[index]? = some item ∧
        ∃ inner ∈ (check item).faults, inner.under (.position index) = fault := by
  cases data with
  | list items => simp [asList, IsList, Checked.mem_faults_each]
  | _ => simp [asList, IsList, Checked.faults_fault]

end Data

namespace Entries

variable (entries : Entries) (key : String)

/-- A text stands under a key, or nothing does and the text is empty. -/
def TextOrEmpty (content : String) : Prop :=
  entries.lookup key = some (.text content) ∨ entries.lookup key = none ∧ content = ""

/-- A text stands under a key, or nothing or null does and there is no text. -/
def TextOrNone (content? : Option String) : Prop :=
  (∃ content, entries.lookup key = some (.text content) ∧ content? = some content) ∨
    (entries.lookup key = some .null ∨ entries.lookup key = none) ∧ content? = none

/-- The items of a list stand under a key, or nothing does and there are none. -/
def ListOrEmpty {Value : Type} (holds : Data → Value → Prop) (values : List Value) : Prop :=
  (∃ items, entries.lookup key = some (.list items) ∧ List.Forall₂ holds items values) ∨
    entries.lookup key = none ∧ values = []

theorem optional_asText_eq_ok_iff {content : String} :
    Checked.optional key "" Data.asText entries = .ok content ↔
      entries.TextOrEmpty key content := by
  simp only [Checked.optional_eq_ok_iff, Data.asText_eq_ok_iff, exists_eq_right, TextOrEmpty]

theorem optional_asNullableText_eq_ok_iff {content? : Option String} :
    Checked.optional key none Data.asNullableText entries = .ok content? ↔
      entries.TextOrNone key content? := by
  simp only [Checked.optional_eq_ok_iff, Data.asNullableText_eq_ok_iff, TextOrNone]
  constructor
  · rintro (⟨item, found, ⟨rfl, none_given⟩ | ⟨content, rfl, given⟩⟩ | ⟨absent, none_given⟩)
    · exact Or.inr ⟨Or.inl found, none_given⟩
    · exact Or.inl ⟨content, found, given⟩
    · exact Or.inr ⟨Or.inr absent, none_given⟩
  · rintro (⟨content, found, given⟩ | ⟨found | absent, none_given⟩)
    · exact Or.inl ⟨_, found, Or.inr ⟨content, rfl, given⟩⟩
    · exact Or.inl ⟨_, found, Or.inl ⟨rfl, none_given⟩⟩
    · exact Or.inr ⟨absent, none_given⟩

theorem optional_asList_eq_ok_iff {Value : Type} {check : Data → Checked Value}
    {values : List Value} : Checked.optional key [] (Data.asList check) entries = .ok values ↔
      entries.ListOrEmpty key (fun item value => check item = .ok value) values := by
  simp only [Checked.optional_eq_ok_iff, Data.asList_eq_ok_iff, ListOrEmpty]
  refine or_congr_left ⟨?_, ?_⟩
  · rintro ⟨_, found, items, rfl, checked⟩
    exact ⟨items, found, checked⟩
  · rintro ⟨items, found, checked⟩
    exact ⟨_, found, items, rfl, checked⟩

end Entries

namespace NodeEntry

/-- A value holds a node; without data of its own the node has none. -/
inductive Holds : Data → NodeEntry → Prop
  | table {entries : Entries} {id type : String} {data : Entries}
      (id_given : entries.lookup "id" = some (.text id))
      (type_given : entries.lookup "tipo" = some (.text type))
      (data_given : entries.lookup "datos" = some (.table data) ∨
        entries.lookup "datos" = none ∧ data = []) :
      Holds (.table entries) ⟨id, type, data⟩

theorem check_eq_ok_iff {item : Data} {node : NodeEntry} :
    check item = .ok node ↔ Holds item node := by
  cases item with
  | table entries =>
      simp only [check, Checked.apply_eq_ok_iff, Checked.required_eq_ok_iff,
        Checked.optional_eq_ok_iff, Data.asText_eq_ok_iff, Data.asTable_eq_ok_iff, Checked.value,
        exists_eq_right]
      constructor
      · rintro ⟨_, data, ⟨_, type, ⟨_, id, ⟨⟩, id_given, rfl⟩, type_given, rfl⟩, data_given, rfl⟩
        exact .table id_given type_given data_given
      · rintro ⟨id_given, type_given, data_given⟩
        exact ⟨_, _, ⟨_, _, ⟨_, _, rfl, id_given, rfl⟩, type_given, rfl⟩, data_given, rfl⟩
  | _ => constructor <;> rintro ⟨⟩

/-- What may be wrong with a node. -/
inductive Faulty : Data → FieldFault → Prop
  | noTable {item : Data} (other : ¬ item.IsTable) : Faulty item ⟨[], .notModel⟩
  | missing {entries : Entries} {key : String} (needed : key ∈ ["id", "tipo"])
      (absent : entries.lookup key = none) : Faulty (.table entries) ⟨[.key key], .missing⟩
  | notText {entries : Entries} {key : String} {item : Data} (textual : key ∈ ["id", "tipo"])
      (found : entries.lookup key = some item) (other : ¬ item.IsText) :
      Faulty (.table entries) ⟨[.key key], .notText⟩
  | notTable {entries : Entries} {item : Data} (found : entries.lookup "datos" = some item)
      (other : ¬ item.IsTable) : Faulty (.table entries) ⟨[.key "datos"], .notTable⟩

theorem mem_faults_check {item : Data} {fault : FieldFault} :
    fault ∈ (check item).faults ↔ Faulty item fault := by
  cases item with
  | table entries =>
      simp only [check, Checked.faults_apply, List.mem_append, or_assoc,
        Checked.mem_faults_required, Checked.mem_faults_optional, Checked.FaultWithin,
        Data.mem_faults_asText, Data.mem_faults_asTable]
      constructor
      · rintro (faulty | ⟨absent, rfl⟩ | ⟨_, found, _, ⟨other, rfl⟩, rfl⟩ |
          ⟨absent, rfl⟩ | ⟨_, found, _, ⟨other, rfl⟩, rfl⟩ | ⟨_, found, _, ⟨other, rfl⟩, rfl⟩)
        · cases faulty
        · exact .missing (by simp) absent
        · exact .notText (by simp) found other
        · exact .missing (by simp) absent
        · exact .notText (by simp) found other
        · exact .notTable found other
      · intro faulty
        cases faulty with
        | noTable other => exact absurd ⟨entries, rfl⟩ other
        | missing needed absent =>
            simp only [List.mem_cons, List.not_mem_nil, or_false] at needed
            rcases needed with rfl | rfl <;> simp [absent]
        | notText textual found other =>
            simp only [List.mem_cons, List.not_mem_nil, or_false] at textual
            rcases textual with rfl | rfl <;> simp [found, other, FieldFault.under]
        | notTable found other => simp [found, other, FieldFault.under]
  | _ =>
      simp only [check, Checked.faults_fault, List.mem_singleton]
      constructor
      · rintro rfl
        refine .noTable ?_
        rintro ⟨_, ⟨⟩⟩
      · rintro ⟨⟩
        rfl

end NodeEntry

namespace Connection

/-- A value holds a connection; slots that it does not name are empty. -/
inductive Holds : Data → Connection → Prop
  | table {entries : Entries} {id source target outlet slot : String}
      (id_given : entries.lookup "id" = some (.text id))
      (source_given : entries.lookup "origen" = some (.text source))
      (target_given : entries.lookup "destino" = some (.text target))
      (outlet_given : entries.TextOrEmpty "puntoSalida" outlet)
      (slot_given : entries.TextOrEmpty "puntoEntrada" slot) :
      Holds (.table entries) ⟨id, source, target, outlet, slot⟩

theorem check_eq_ok_iff {item : Data} {connection : Connection} :
    check item = .ok connection ↔ Holds item connection := by
  cases item with
  | table entries =>
      simp only [check, Checked.apply_eq_ok_iff, Checked.required_eq_ok_iff,
        Entries.optional_asText_eq_ok_iff, Data.asText_eq_ok_iff, Checked.value, exists_eq_right]
      constructor
      · rintro ⟨_, slot, ⟨_, outlet, ⟨_, target, ⟨_, source, ⟨_, id, ⟨⟩, id_given, rfl⟩,
          source_given, rfl⟩, target_given, rfl⟩, outlet_given, rfl⟩, slot_given, rfl⟩
        exact .table id_given source_given target_given outlet_given slot_given
      · rintro ⟨id_given, source_given, target_given, outlet_given, slot_given⟩
        exact ⟨_, _, ⟨_, _, ⟨_, _, ⟨_, _, ⟨_, _, rfl, id_given, rfl⟩, source_given, rfl⟩,
          target_given, rfl⟩, outlet_given, rfl⟩, slot_given, rfl⟩
  | _ => constructor <;> rintro ⟨⟩

/-- What may be wrong with a connection. -/
inductive Faulty : Data → FieldFault → Prop
  | noTable {item : Data} (other : ¬ item.IsTable) : Faulty item ⟨[], .notModel⟩
  | missing {entries : Entries} {key : String} (needed : key ∈ ["id", "origen", "destino"])
      (absent : entries.lookup key = none) : Faulty (.table entries) ⟨[.key key], .missing⟩
  | notText {entries : Entries} {key : String} {item : Data}
      (textual : key ∈ ["id", "origen", "destino", "puntoSalida", "puntoEntrada"])
      (found : entries.lookup key = some item) (other : ¬ item.IsText) :
      Faulty (.table entries) ⟨[.key key], .notText⟩

theorem mem_faults_check {item : Data} {fault : FieldFault} :
    fault ∈ (check item).faults ↔ Faulty item fault := by
  cases item with
  | table entries =>
      simp only [check, Checked.faults_apply, List.mem_append, or_assoc,
        Checked.mem_faults_required, Checked.mem_faults_optional, Checked.FaultWithin,
        Data.mem_faults_asText]
      constructor
      · rintro (faulty | ⟨absent, rfl⟩ | ⟨_, found, _, ⟨other, rfl⟩, rfl⟩ |
          ⟨absent, rfl⟩ | ⟨_, found, _, ⟨other, rfl⟩, rfl⟩ |
          ⟨absent, rfl⟩ | ⟨_, found, _, ⟨other, rfl⟩, rfl⟩ |
          ⟨_, found, _, ⟨other, rfl⟩, rfl⟩ | ⟨_, found, _, ⟨other, rfl⟩, rfl⟩)
        · cases faulty
        all_goals first
          | exact .missing (by simp) absent
          | exact .notText (by simp) found other
      · intro faulty
        cases faulty with
        | noTable other => exact absurd ⟨entries, rfl⟩ other
        | missing needed absent =>
            simp only [List.mem_cons, List.not_mem_nil, or_false] at needed
            rcases needed with rfl | rfl | rfl <;> simp [absent]
        | notText textual found other =>
            simp only [List.mem_cons, List.not_mem_nil, or_false] at textual
            rcases textual with rfl | rfl | rfl | rfl | rfl <;>
              simp [found, other, FieldFault.under]
  | _ =>
      simp only [check, Checked.faults_fault, List.mem_singleton]
      constructor
      · rintro rfl
        refine .noTable ?_
        rintro ⟨_, ⟨⟩⟩
      · rintro ⟨⟩
        rfl

end Connection

namespace Document

/-- A value holds a document; what it leaves out is empty or absent there too. -/
inductive Holds : Data → Document → Prop
  | table {entries : Entries} {identifier : Data} {id name : String}
      {description? result? : Option String} {nodes : List NodeEntry}
      {connections : List Connection} {items : List Data}
      (id_given : entries.lookup "id" = some identifier) (id_fits : identifier.Identifies id)
      (name_given : entries.TextOrEmpty "nombre" name)
      (description_given : entries.TextOrNone "descripcion" description?)
      (nodes_given : entries.lookup "nodos" = some (.list items))
      (nodes_hold : List.Forall₂ NodeEntry.Holds items nodes)
      (connections_given : entries.ListOrEmpty "conexiones" Connection.Holds connections)
      (result_given : entries.TextOrNone "nodoResultado" result?) :
      Holds (.table entries) ⟨id, name, description?, nodes, connections, result?⟩

theorem check_eq_ok_iff {data : Data} {document : Document} :
    check data = .ok document ↔ Holds data document := by
  cases data with
  | table entries =>
      simp only [check, Checked.apply_eq_ok_iff, Checked.required_eq_ok_iff,
        Entries.optional_asText_eq_ok_iff, Entries.optional_asNullableText_eq_ok_iff,
        Entries.optional_asList_eq_ok_iff, Data.checkId_eq_ok_iff, Data.asList_eq_ok_iff,
        NodeEntry.check_eq_ok_iff, Connection.check_eq_ok_iff, Checked.value]
      constructor
      · rintro ⟨_, result?, ⟨_, connections, ⟨_, nodes, ⟨_, description?, ⟨_, name,
          ⟨_, id, ⟨⟩, ⟨identifier, id_given, id_fits⟩, rfl⟩, name_given, rfl⟩,
          description_given, rfl⟩, ⟨_, nodes_given, items, rfl, nodes_hold⟩, rfl⟩,
          connections_given, rfl⟩, result_given, rfl⟩
        exact .table id_given id_fits name_given description_given nodes_given nodes_hold
          connections_given result_given
      · rintro ⟨id_given, id_fits, name_given, description_given, nodes_given, nodes_hold,
          connections_given, result_given⟩
        exact ⟨_, _, ⟨_, _, ⟨_, _, ⟨_, _, ⟨_, _, ⟨_, _, rfl, ⟨_, id_given, id_fits⟩, rfl⟩,
          name_given, rfl⟩, description_given, rfl⟩, ⟨_, nodes_given, _, rfl, nodes_hold⟩, rfl⟩,
          connections_given, rfl⟩, result_given, rfl⟩
  | _ => constructor <;> rintro ⟨⟩

/-- What may be wrong with a document, in itself or in one of its nodes or connections. -/
inductive Faulty : Data → FieldFault → Prop
  | noTable {data : Data} (other : ¬ data.IsTable) : Faulty data ⟨[], .notModel⟩
  | missing {entries : Entries} {key : String} (needed : key ∈ ["id", "nodos"])
      (absent : entries.lookup key = none) : Faulty (.table entries) ⟨[.key key], .missing⟩
  | noIdentifier {entries : Entries} {item : Data} (found : entries.lookup "id" = some item)
      (other : ¬ item.IsIdentifier) : Faulty (.table entries) ⟨[.key "id"], .notText⟩
  | notText {entries : Entries} {key : String} {item : Data}
      (textual : key ∈ ["nombre", "descripcion", "nodoResultado"])
      (found : entries.lookup key = some item) (other : ¬ item.IsText)
      (strict : item = .null → key = "nombre") : Faulty (.table entries) ⟨[.key key], .notText⟩
  | notList {entries : Entries} {key : String} {item : Data}
      (listing : key ∈ ["nodos", "conexiones"]) (found : entries.lookup key = some item)
      (other : ¬ item.IsList) : Faulty (.table entries) ⟨[.key key], .notList⟩
  | node {entries : Entries} {items : List Data} {index : Nat} {item : Data} {inner : FieldFault}
      (found : entries.lookup "nodos" = some (.list items)) (listed : items[index]? = some item)
      (faulty : NodeEntry.Faulty item inner) :
      Faulty (.table entries) ((inner.under (.position index)).under (.key "nodos"))
  | connection {entries : Entries} {items : List Data} {index : Nat} {item : Data}
      {inner : FieldFault} (found : entries.lookup "conexiones" = some (.list items))
      (listed : items[index]? = some item) (faulty : Connection.Faulty item inner) :
      Faulty (.table entries) ((inner.under (.position index)).under (.key "conexiones"))

theorem mem_faults_check {data : Data} {fault : FieldFault} :
    fault ∈ (check data).faults ↔ Faulty data fault := by
  cases data with
  | table entries =>
      simp only [check, Checked.faults_apply, List.mem_append, or_assoc,
        Checked.mem_faults_required, Checked.mem_faults_optional, Checked.FaultWithin,
        Data.mem_faults_asText, Data.mem_faults_asNullableText, Data.mem_faults_checkId,
        Data.mem_faults_asList, NodeEntry.mem_faults_check, Connection.mem_faults_check]
      constructor
      · rintro (faulty | ⟨absent, rfl⟩ | ⟨_, found, _, ⟨other, rfl⟩, rfl⟩ |
          ⟨_, found, _, ⟨other, rfl⟩, rfl⟩ | ⟨_, found, _, ⟨⟨not_null, other⟩, rfl⟩, rfl⟩ |
          ⟨absent, rfl⟩ |
          ⟨_, found, _, ⟨other, rfl⟩ | ⟨items, rfl, index, item, listed, inner, faulty, rfl⟩, rfl⟩ |
          ⟨_, found, _, ⟨other, rfl⟩ | ⟨items, rfl, index, item, listed, inner, faulty, rfl⟩, rfl⟩ |
          ⟨_, found, _, ⟨⟨not_null, other⟩, rfl⟩, rfl⟩)
        · cases faulty
        · exact .missing (by simp) absent
        · exact .noIdentifier found other
        · exact .notText (by simp) found other fun _ => rfl
        · exact .notText (by simp) found other fun null => absurd null not_null
        · exact .missing (by simp) absent
        · exact .notList (by simp) found other
        · exact .node found listed faulty
        · exact .notList (by simp) found other
        · exact .connection found listed faulty
        · exact .notText (by simp) found other fun null => absurd null not_null
      · intro faulty
        cases faulty with
        | noTable other => exact absurd ⟨entries, rfl⟩ other
        | missing needed absent =>
            simp only [List.mem_cons, List.not_mem_nil, or_false] at needed
            rcases needed with rfl | rfl <;> simp [absent]
        | noIdentifier found other => simp [found, other, FieldFault.under]
        | notText textual found other strict =>
            simp only [List.mem_cons, List.not_mem_nil, or_false] at textual
            rcases textual with rfl | rfl | rfl
            · simp [found, other, FieldFault.under]
            · simp [found, other, mt strict, FieldFault.under]
            · simp [found, other, mt strict, FieldFault.under]
        | notList listing found other =>
            simp only [List.mem_cons, List.not_mem_nil, or_false] at listing
            rcases listing with rfl | rfl <;> simp [found, other, FieldFault.under]
        | node found listed faulty =>
            -- The faults stand in the order of the fields; those of the nodes are the seventh sort.
            iterate 6 refine Or.inr ?_
            exact Or.inl ⟨_, found, _, Or.inr ⟨_, rfl, _, _, listed, _, faulty, rfl⟩, rfl⟩
        | connection found listed faulty =>
            iterate 7 refine Or.inr ?_
            exact Or.inl ⟨_, found, _, Or.inr ⟨_, rfl, _, _, listed, _, faulty, rfl⟩, rfl⟩
  | _ =>
      simp only [check, Checked.faults_fault, List.mem_singleton]
      constructor
      · rintro rfl
        refine .noTable ?_
        rintro ⟨_, ⟨⟩⟩
      · rintro ⟨⟩
        rfl

end Document
end PayGraph

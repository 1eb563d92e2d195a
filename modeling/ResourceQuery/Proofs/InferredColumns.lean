import ResourceQuery.Proofs.RelationClosure
import ResourceQuery.Proofs.RepeatedKeys
import ResourceQuery.Proofs.ServedDocuments

/-! Columns that a document is given. They are gathered cell by cell and completed once all rows are
known; what comes out can be told from the rows alone, column by column. -/

namespace ResourceQuery.Proofs.InferredColumns
open InferredTables OrderedJson RelationClosure RepeatedKeys ServedDocuments WrittenDefinitions

/-- The keys of the rows, each once, in the order of first occurrence. -/
def columnNames (rows : List Row) : List String :=
  (rows.flatten.map (·.1)).eraseDups

/-- The type of a value. Null has none. -/
inductive HasType : Json → String → Prop where
  | bool (value : Bool) : HasType (.bool value) "boolean"
  | integer {value : Int} (fits : Json.FitsInteger value) :
    HasType (.number (.integer value fits)) "integer"
  | real (value : Number.Binary64) : HasType (.number (.real value)) "number"
  | string (value : String) : HasType (.string value) "text"
  | array (items : List Json) : HasType (.array items) "json"
  | object (fields : Fields) : HasType (.object fields) "json"

/-- The type of the first value in a column that is not null; a column without such a value holds text. -/
inductive FirstType (rows : List Row) (name : String) : String → Prop where
  | value {before after : List Row} {row : Row} {value : Json} {type : String}
    (split : rows = before ++ row :: after)
    (nothing : ∀ earlier ∈ before, earlier.get? name = none ∨ earlier.get? name = some .null)
    (found : row.get? name = some value) (typed : HasType value type) : FirstType rows name type
  | nothing (all : ∀ row ∈ rows, row.get? name = none ∨ row.get? name = some .null) :
    FirstType rows name "text"

/-- A column as the rows show it. -/
structure Describes (rows : List Row) (column : ColumnDefinition) : Prop where
  type : FirstType rows column.name column.declaredType
  nullable : column.nullable = true ↔
    ∃ row ∈ rows, row.get? column.name = none ∨ row.get? column.name = some .null
  unmarked : column.primaryKey = false

private theorem hasType_iff {value : Json} {type : String} :
    suggestedType? value = some type ↔ HasType value type := by
  constructor
  · intro suggested
    cases value with
    | null => cases suggested
    | number number => cases number <;> cases suggested <;> constructor
    | _ => cases suggested; constructor
  · intro typed
    cases typed <;> rfl

private theorem suggestedType?_get_eq_none {row : Row} {name : String} :
    suggestedType? (row.get name) = none ↔ row.get? name = none ∨ row.get? name = some .null := by
  rw [Fields.get]
  cases found : row.get? name with
  | none => simp [suggestedType?]
  | some value =>
    cases value with
    | number number => cases number <;> simp [suggestedType?]
    | _ => simp [suggestedType?]

/-- The rows leave no choice for the type of a column. -/
private theorem firstType_iff {rows : List Row} {name type : String} :
    FirstType rows name type ↔
      type = (rows.findSome? fun row => suggestedType? (row.get name)).getD "text" := by
  constructor
  · intro first
    cases first with
    | value split nothing found typed =>
      have before := List.findSome?_eq_none_iff.mpr fun earlier member =>
        suggestedType?_get_eq_none.mpr (nothing earlier member)
      rw [split, List.findSome?_append, before, Option.none_or, List.findSome?_cons, Fields.get, found,
        Option.getD_some, hasType_iff.mpr typed]
      rfl
    | nothing all =>
      have none := List.findSome?_eq_none_iff.mpr fun row member =>
        suggestedType?_get_eq_none.mpr (all row member)
      simp [none]
  · rintro rfl
    cases suggested : rows.findSome? fun row => suggestedType? (row.get name) with
    | none =>
      rw [List.findSome?_eq_none_iff] at suggested
      exact .nothing fun row member => suggestedType?_get_eq_none.mp (suggested row member)
    | some type =>
      obtain ⟨before, row, after, split, found, nothing⟩ := List.findSome?_eq_some_iff.mp suggested
      have given : row.get? name ≠ none := by
        intro absent
        rw [suggestedType?_get_eq_none.mpr (.inl absent)] at found
        cases found
      obtain ⟨value, held⟩ := Option.ne_none_iff_exists'.mp given
      rw [Fields.get, held, Option.getD_some] at found
      exact .value split (fun earlier member => suggestedType?_get_eq_none.mp (nothing earlier member))
        held (hasType_iff.mp found)

private theorem names_observe (columns : List ObservedColumn) (cell : String × Json) :
    (ObservedColumn.observe columns cell).map (·.name) =
      if cell.1 ∈ columns.map (·.name) then columns.map (·.name)
      else columns.map (·.name) ++ [cell.1] := by
  induction columns with
  | nil => rfl
  | cons column rest ih =>
    rw [ObservedColumn.observe]
    by_cases same : column.name = cell.1
    · simp [same, ObservedColumn.see]
    · rw [if_neg same, List.map_cons, ih]
      by_cases known : cell.1 ∈ rest.map (·.name) <;> simp [known, Ne.symm same]

private theorem names_ofRows (rows : List Row) :
    (ObservedColumn.ofRows rows).map (·.name) = columnNames rows := by
  have folded (cells : List (String × Json)) :
      (cells.foldl ObservedColumn.observe []).map (·.name) = (cells.map (·.1)).eraseDups := by
    induction cells using List.reverseRecOn with
    | nil => rfl
    | append_singleton cells cell ih =>
      rw [List.foldl_append, List.foldl_cons, List.foldl_nil, names_observe, ih, List.map_append,
        List.map_singleton, eraseDups_concat]
      simp only [List.mem_eraseDups]
  rw [ObservedColumn.ofRows, ← List.foldl_flatten, folded]
  rfl

private theorem distinct_ofRows (rows : List Row) : ((ObservedColumn.ofRows rows).map (·.name)).Nodup := by
  rw [names_ofRows]
  exact nodup_eraseDups _

def sawNull (columns : List ObservedColumn) (name : String) : Bool :=
  columns.any fun column => column.name = name && column.sawNull

private theorem sawNull_observe (columns : List ObservedColumn) (cell : String × Json) (name : String) :
    sawNull (ObservedColumn.observe columns cell) name =
      (sawNull columns name || (cell.1 = name && cell.2.isNull)) := by
  induction columns with
  | nil => simp [sawNull, ObservedColumn.observe, ObservedColumn.ofCell]
  | cons column rest ih =>
    simp only [sawNull] at ih
    rw [ObservedColumn.observe]
    by_cases seen : column.name = cell.1
    · by_cases same : cell.1 = name <;>
        simp [sawNull, ObservedColumn.see, seen, same, Bool.or_assoc, Bool.or_comm, Bool.or_left_comm]
    · simp [sawNull, seen, ih, Bool.or_assoc]

private theorem sawNull_ofRows (rows : List Row) (name : String) :
    sawNull (ObservedColumn.ofRows rows) name =
      rows.flatten.any fun cell => cell.1 = name && cell.2.isNull := by
  have folded (cells : List (String × Json)) (columns : List ObservedColumn) :
      sawNull (cells.foldl ObservedColumn.observe columns) name =
        (sawNull columns name || cells.any fun cell => cell.1 = name && cell.2.isNull) := by
    induction cells generalizing columns with
    | nil => simp
    | cons cell rest ih =>
      rw [List.foldl_cons, ih, sawNull_observe, List.any_cons, Bool.or_assoc]
  rw [ObservedColumn.ofRows, ← List.foldl_flatten, folded]
  rfl

private theorem sawNull_iff {rows : List Row} (distinct : ∀ row ∈ rows, (row.map (·.1)).Nodup) (name : String) :
    sawNull (ObservedColumn.ofRows rows) name = true ↔ ∃ row ∈ rows, row.get? name = some .null := by
  rw [sawNull_ofRows, List.any_eq_true]
  constructor
  · rintro ⟨⟨key, value⟩, member, null⟩
    obtain ⟨row, listed, member⟩ := List.mem_flatten.mp member
    rw [Bool.and_eq_true, decide_eq_true_eq] at null
    obtain ⟨rfl, null⟩ := null
    cases value <;> cases null
    exact ⟨row, listed, get?_of_mem (distinct row listed) member⟩
  · rintro ⟨row, listed, found⟩
    exact ⟨_, List.mem_flatten.mpr ⟨row, listed, mem_of_get? found⟩, by simp [Json.isNull]⟩

private theorem filter_ofRows {rows : List Row} {column : ObservedColumn}
    (member : column ∈ ObservedColumn.ofRows rows) :
    (ObservedColumn.ofRows rows).filter (·.name = column.name) = [column] := by
  apply filter_eq_singleton (distinct_ofRows rows) member
  · simp
  · intro other _ same
    simpa using same

private theorem describes_define {rows : List Row} (distinct : ∀ row ∈ rows, (row.map (·.1)).Nodup)
    {column : ObservedColumn} (member : column ∈ ObservedColumn.ofRows rows) :
    Describes rows (column.define rows) := by
  have type : column.type = rows.findSome? fun row => suggestedType? (row.get column.name) := by
    rw [← knownType?_ofRows distinct, knownType?, ← List.head?_filter, filter_ofRows member]
    rfl
  have null : column.sawNull = true ↔ ∃ row ∈ rows, row.get? column.name = some .null := by
    rw [← sawNull_iff distinct, sawNull, ← List.any_filter, filter_ofRows member]
    simp
  constructor
  · rw [firstType_iff, ObservedColumn.define, type]
  · simp only [ObservedColumn.define, Bool.or_eq_true, null, List.any_eq_true, Option.isNone_iff_eq_none]
    constructor
    · rintro (⟨row, listed, null⟩ | ⟨row, listed, absent⟩)
      · exact ⟨row, listed, .inr null⟩
      · exact ⟨row, listed, .inl absent⟩
    · rintro ⟨row, listed, absent | null⟩
      · exact .inr ⟨row, listed, absent⟩
      · exact .inl ⟨row, listed, null⟩
  · rfl

private theorem insert_last {fields : Fields} {key : String}
    (last : ∀ field ∈ fields, Text.order field.1 key = .lt) (value : Json) :
    fields.insert key value = fields ++ [(key, value)] := by
  induction fields with
  | nil => rfl
  | cons field rest ih =>
    obtain ⟨first, later⟩ := List.forall_mem_cons.mp last
    rw [Fields.insert, Std.OrientedCmp.gt_of_lt first]
    exact congrArg (field :: ·) (ih later)

def described? (field : String × Json) : Option (String × TableDefinition) :=
  field.2.items?.map fun items => (field.1, TableDefinition.infer field.1 (rowsOf items))

private theorem entries_infer {collections : Fields} (sorted : Sorted collections) :
    (SchemaDefinition.infer (.object collections)).entries =
      (collections.filterMap described?).map fun (name, table) => (name, table.toJson) := by
  induction collections using List.reverseRecOn with
  | nil => rfl
  | append_singleton before field ih =>
    obtain ⟨name, value⟩ := field
    obtain ⟨sorted, -, last⟩ := List.pairwise_append.mp sorted
    have kept := ih sorted
    simp only [SchemaDefinition.infer] at kept ⊢
    rw [List.foldl_append, List.filterMap_append, List.map_append, ← kept]
    cases value with
    | array items =>
      apply insert_last
      rw [kept]
      intro entry member
      obtain ⟨⟨other, table⟩, listed, rfl⟩ := List.mem_map.mp member
      obtain ⟨field, stored, shown⟩ := List.mem_filterMap.mp listed
      obtain ⟨items, -, shown⟩ := Option.map_eq_some_iff.mp shown
      cases shown
      exact last field stored (name, _) (List.mem_singleton.mpr rfl)
    | _ => simp [described?, Json.items?]

private theorem names_described (collections : Fields) :
    (collections.filterMap described?).map (·.1) =
      (collections.filter (·.2.items?.isSome)).map (·.1) := by
  induction collections with
  | nil => rfl
  | cons field rest ih =>
    obtain ⟨name, value⟩ := field
    cases value with
    | array items => exact congrArg (name :: ·) ih
    | _ => exact ih

private theorem tables_infer {collections : Fields} (sorted : Sorted collections) :
    (SchemaDefinition.infer (.object collections)).tables = collections.filterMap described? :=
  tables_of_written (entries_infer sorted)

private theorem sorted_rowsOf {collections : Fields} (ordered : Ordered (.object collections)) {name : String}
    {items : List Json} (listed : (name, .array items) ∈ collections) :
    ∀ row ∈ rowsOf items, Sorted row := by
  intro row member
  cases ordered with
  | object _ each =>
    cases each _ listed with
    | array each =>
      cases each _ (mem_rowsOf.mp member) with
      | object sorted _ => exact sorted

/-- A list without the elements that are no objects; anything else as it is. -/
def withoutOthers (field : String × Json) : String × Json :=
  match field with
  | (name, .array items) => (name, .array (objectsOf items))
  | field => field

private theorem rowsOf_objectsOf (items : List Json) : rowsOf (objectsOf items) = rowsOf items := by
  induction items with
  | nil => rfl
  | cons item rest ih =>
    cases item with
    | object fields => exact congrArg (fields :: ·) ih
    | _ => exact ih

private theorem infer_withoutOthers (collections : Fields) :
    SchemaDefinition.infer (.object (collections.map withoutOthers)) =
      SchemaDefinition.infer (.object collections) := by
  simp only [SchemaDefinition.infer, List.foldl_map]
  congr 1
  funext definition field
  obtain ⟨name, value⟩ := field
  cases value with
  | array items => simp only [withoutOthers, rowsOf_objectsOf]
  | _ => rfl

/-- A document is described by its lists and by nothing else: each list is an entry, read back as a table
of its name, whose columns are the keys of the objects in the list, each as these show it. What else stands
in a list does not count. -/
theorem lists_are_described_by_their_objects {collections : Fields}
    (ordered : Ordered (.object collections)) :
    let definition := SchemaDefinition.infer (.object collections)
    definition.entries.map (·.1) = (collections.filter (·.2.items?.isSome)).map (·.1) ∧
      definition.tables.map (·.1) = definition.entries.map (·.1) ∧
      (∀ name items, (name, .array items) ∈ collections →
        (∀ row ∈ rowsOf items, Sorted row) ∧
        ∃ columns, (name, TableDefinition.toJson ⟨name, .list columns⟩) ∈ definition.entries ∧
          (name, ⟨name, .list columns⟩) ∈ definition.tables ∧
          columns.map (·.name) = columnNames (rowsOf items) ∧
          ∀ column ∈ columns, Describes (rowsOf items) column) ∧
      SchemaDefinition.infer (.object (collections.map withoutOthers)) = definition := by
  intro definition
  have sorted : Sorted collections := by
    cases ordered with
    | object sorted _ => exact sorted
  have entries := entries_infer sorted
  have tables := tables_infer sorted
  refine ⟨?_, ?_, ?_, infer_withoutOthers collections⟩
  · rw [entries, List.map_map]
    exact names_described collections
  · rw [entries, tables, List.map_map]
    rfl
  · intro name items listed
    have rows := sorted_rowsOf ordered listed
    have described : (name, TableDefinition.infer name (rowsOf items)) ∈
        collections.filterMap described? := List.mem_filterMap.mpr ⟨_, listed, rfl⟩
    refine ⟨rows, (ObservedColumn.ofRows (rowsOf items)).map (·.define (rowsOf items)), ?_, ?_, ?_, ?_⟩
    · rw [entries]
      exact List.mem_map.mpr ⟨_, described, rfl⟩
    · rw [tables]
      exact described
    · rw [← names_ofRows, List.map_map]
      rfl
    · intro column member
      obtain ⟨observed, seen, rfl⟩ := List.mem_map.mp member
      exact describes_define (fun row member => (rows row member).nodup) seen

/-- Rows that leave out keys or have null there, and a text between them. -/
def surveys : String :=
  "\x7b\"owner\":\x7b\"id\":7\x7d,\"surveys\":[\x7b\"id\":1,\"note\":null,\"rate\":null\x7d,\"late\",
    \x7b\"at\":\"noon\",\"rate\":2.5\x7d,\x7b\"id\":3,\"note\":null,\"rate\":4\x7d]\x7d"

theorem surveys_are_described :
    ∃ collections items, Json.parse? surveys = some (.object collections) ∧
      Ordered (.object collections) ∧ ("surveys", .array items) ∈ collections ∧ items.length = 4 ∧
      (SchemaDefinition.infer (.object collections)).entries.map (·.1) = ["surveys"] ∧
      ∃ columns, ("surveys", ⟨"surveys", .list columns⟩) ∈
          (SchemaDefinition.infer (.object collections)).tables ∧
        columns.map (·.name) = ["id", "note", "rate", "at"] ∧
        (∀ column ∈ columns, Describes (rowsOf items) column) ∧
        ∃ rate ∈ columns, rate.name = "rate" ∧ rate.declaredType = "number" ∧ rate.nullable = true := by
  have fit : ∃ document ∈ Json.parse? surveys, ∃ collections ∈ document.fields?,
      (collections.filter (·.2.items?.isSome)).map (·.1) = ["surveys"] ∧
      ∃ items ∈ (collections.get? "surveys").bind Json.items?, items.length = 4 ∧
        columnNames (rowsOf items) = ["id", "note", "rate", "at"] ∧
        ((rowsOf items).findSome? fun row => suggestedType? (row.get "rate")) = some "number" ∧
        ∃ row ∈ rowsOf items, (row.get? "rate").map Json.isNull = some true := by
    decide +kernel
  obtain ⟨document, parsed, collections, object, lists, items, held, size, names, typed, row, listed,
    null⟩ := fit
  obtain rfl : document = .object collections := by
    cases document <;> cases object
    rfl
  have ordered := ordered_of_parse? parsed
  have stored : ("surveys", .array items) ∈ collections := by
    obtain ⟨value, found, held⟩ := Option.bind_eq_some_iff.mp held
    cases value <;> cases held
    exact mem_of_get? found
  obtain ⟨entries, -, described, -⟩ := lists_are_described_by_their_objects ordered
  obtain ⟨-, columns, -, member, shown, each⟩ := described "surveys" items stored
  rw [names] at shown
  have known : "rate" ∈ columns.map (·.name) := by simp [shown]
  obtain ⟨rate, listed', called⟩ := List.mem_map.mp known
  obtain ⟨first, nullable, -⟩ := each rate listed'
  rw [called] at first nullable
  rw [firstType_iff, typed] at first
  refine ⟨collections, items, parsed, ordered, stored, size, entries.trans lists, columns, member, shown,
    each, rate, listed', called, first, nullable.mpr ⟨row, listed, .inr ?_⟩⟩
  obtain ⟨value, found, null⟩ := Option.map_eq_some_iff.mp null
  cases value <;> cases null
  exact found

end ResourceQuery.Proofs.InferredColumns

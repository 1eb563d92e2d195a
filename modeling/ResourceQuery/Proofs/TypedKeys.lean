import ResourceQuery.Proofs.JoinedRows
import ResourceQuery.Proofs.ReferredRows

/-! Single related rows as a nested-loop join. The related rows are asked for by the values that the foreign
keys spell, and then looked up by their texts. As long as the keys of a table are compared by their texts, or
none of them is a text, asking loses no row that is looked up. -/

namespace ResourceQuery.Proofs.TypedKeys
open AddedProperties AttachedRows ConverseEmbeds JoinedRows LinkedTables MemoryAnswers OwnTexts ReferredRows

/-- The keys of a table are compared by their texts, or none of them is a text. -/
def KeysApart (memory : Memory) (related : Table) : Prop :=
  related.typeOf related.primaryKey = .text ∨ related.typeOf related.primaryKey = .json ∨
    ∀ other ∈ memory.rows related, (other.get related.primaryKey).string? = none

instance (memory : Memory) (related : Table) : Decidable (KeysApart memory related) :=
  inferInstanceAs (Decidable (_ ∨ _ ∨ _))

section

variable {catalog : Catalog} {memory : Memory} {relation : Relation} {related : Table} {row : Row}
  {key : String}

private theorem own_of_untyped {type : ColumnType} (untyped : type = .text ∨ type = .json) (cell : Json) :
    OwnText type cell := by
  cases cell with
  | string text => rcases untyped with rfl | rfl <;> exact trivial
  | _ => trivial

private theorem own_key (apart : KeysApart memory related) {other : Row} (member : other ∈ memory.rows related) :
    OwnText (related.typeOf related.primaryKey) (other.get related.primaryKey) := by
  rcases apart with text | json | unquoted
  · exact own_of_untyped (.inl text) _
  · exact own_of_untyped (.inr json) _
  · exact own_of_unquoted (unquoted other member)

private theorem spelledAs_eq (apart : KeysApart memory related) (primary : relation.theirKey = related.primaryKey)
    (keyed : Embed.joinKey? relation.ourKey row = some key) :
    spelledAs memory related key = (joined memory related relation row).head? := by
  rw [spelledAs, finds, ← List.head?_filter, List.filter_filter, joined, primary]
  congr 1
  refine List.filter_congr fun other member => ?_
  rw [Bool.eq_iff_iff, Bool.and_eq_true, decide_eq_true_eq, decide_eq_true_eq, decide_eq_true_eq, keyed]
  constructor
  · rintro ⟨spelled, -⟩
    refine ⟨?_, spelled⟩
    rw [← Bool.not_eq_true, ← joinKey?_eq_none_iff, spelled]
    simp
  · rintro ⟨-, spelled⟩
    exact ⟨spelled, found_by_cellText (own_key apart member) spelled⟩

private theorem attachments_first (found : catalog.table? relation.relatedTable = some related)
    (kind : relation.kind = .belongsTo) (primary : relation.theirKey = related.primaryKey)
    (apart : KeysApart memory related) (rows : List Row) :
    resultOf memory (Embed.attachments catalog relation rows) =
      rows.map fun row => (joined memory related relation row).head?.elim .null .object := by
  rw [attachments_result memory found]
  refine List.map_congr_left fun row member => ?_
  simp only [Embed.attachment, kind, Embed.referred]
  cases keyed : Embed.joinKey? relation.ourKey row with
  | none => rw [joined_without_key (joinKey?_eq_none_iff.mp keyed)]; rfl
  | some key =>
    have asked : key ∈ Embed.distinctKeys relation.ourKey rows :=
      List.mem_eraseDups.mpr (List.mem_filterMap.mpr ⟨row, member, keyed⟩)
    simp only [find?_filtered kind primary asked, spelledAs_eq apart primary keyed]
    cases (joined memory related relation row).head? <;> rfl

end

/-- A foreign key attaches the first row of the join: for every row, in order, the first of the related
rows, as they stand in the document, whose key has the same text as the foreign key, and null if the row has
no foreign key or no row meets it. This holds as long as the keys of the related rows are compared by their
texts, or none of them is a text. A request that names the relation by one of its keys shows this under the
key, whatever it embeds beside it. -/
theorem foreign_keys_attach_first_joined_rows (naming : Naming) (definition : SchemaDefinition)
    (memory : Memory) (table : Table) (relation : Relation) (distinct : Distinct definition)
    (extracted : table ∈ (extractTables naming definition).tables)
    (listed : relation ∈ table.relations) (kind : relation.kind = .belongsTo) :
    let catalog := (extractTables naming definition).catalog
    ∃ related, catalog.table? relation.relatedTable = some related ∧
      relation.theirKey = related.primaryKey ∧
      (KeysApart memory related → ∀ rows,
        resultOf memory (Embed.attachments catalog relation rows) =
            rows.map (fun row => (joined memory related relation row).head?.elim .null .object) ∧
          (∀ row, (row.get relation.ourKey).isNull = true → joined memory related relation row = []) ∧
          ∀ keys key, attached? catalog naming table keys key = some relation → ∃ shown : Row → Row,
            resultOf memory (Embed.resolve catalog naming table rows keys) = rows.map shown ∧
              ∀ row ∈ rows, (shown row).get? key =
                some ((joined memory related relation row).head?.elim .null .object)) := by
  intro catalog
  obtain ⟨related, -, found, primary, -⟩ := converse_relation distinct extracted listed kind
  refine ⟨related, found, primary, fun apart rows => ?_⟩
  have attaches := attachments_first found kind primary apart rows
  exact ⟨attaches, fun _ => joined_without_key, fun _ _ => resolve_shows attaches⟩

def posts : String :=
  "\x7b\"posts\":[\x7b\"id\":1,\"userId\":\"7\"\x7d,\x7b\"id\":2,\"userId\":\"07\"\x7d,\x7b\"id\":3\x7d]," ++
    "\"users\":[\x7b\"id\":1\x7d,\x7b\"id\":7.0\x7d,\x7b\"id\":7,\"name\":\"first\"\x7d,\x7b\"id\":7\x7d]\x7d"

/-- Three users have the number that a post refers to, two of them with the same text. -/
theorem first_users_attached : ∃ document memory table relation related shown,
    Json.parse? posts = some document ∧ Memory.ofDocument document = .ok memory ∧
    let catalog := (extractTables .regular (.infer document)).catalog
    table ∈ catalog.tables ∧ relation ∈ table.relations ∧ relation.kind = .belongsTo ∧
      catalog.table? relation.relatedTable = some related ∧
      related.typeOf related.primaryKey = .integer ∧
      (memory.rows table).map (fun row =>
          (joined memory related relation row).map fun other => (other.get "name").plainText) =
        [["first", "null"], [], []] ∧
      resultOf memory (Embed.attachments catalog relation (memory.rows table)) =
        (memory.rows table).map
          (fun row => (joined memory related relation row).head?.elim .null .object) ∧
      resultOf memory (Embed.resolve catalog .regular table (memory.rows table) ["users", "user"]) =
        (memory.rows table).map shown ∧
      ∀ row ∈ memory.rows table, (shown row).get? "user" =
        some ((joined memory related relation row).head?.elim .null .object) := by
  have fit : ∃ document ∈ Json.parse? posts, ∃ memory ∈ (Memory.ofDocument document).toOption,
      let catalog := (extractTables .regular (.infer document)).catalog
      Distinct (.infer document) ∧
      ∃ table ∈ catalog.tables, ∃ relation ∈ table.relations, relation.kind = .belongsTo ∧
        attached? catalog .regular table ["users", "user"] "user" = some relation ∧
        ∃ related ∈ catalog.table? relation.relatedTable, KeysApart memory related ∧
          related.typeOf related.primaryKey = .integer ∧
          (memory.rows table).map (fun row =>
              (joined memory related relation row).map fun other => (other.get "name").plainText) =
            [["first", "null"], [], []] := by
    decide +kernel
  obtain ⟨document, parsed, memory, loaded, distinct, table, extracted, relation, listed, kind, named,
    related, found, apart, typed, names⟩ := fit
  obtain ⟨related', found', -, attaches⟩ := foreign_keys_attach_first_joined_rows .regular
    (.infer document) memory table relation distinct extracted listed kind
  obtain rfl : related = related' := Option.some.inj (found.symm.trans found')
  obtain ⟨attached, -, shows⟩ := attaches apart (memory.rows table)
  obtain ⟨shown, resolved, under⟩ := shows ["users", "user"] "user" named
  exact ⟨document, memory, table, relation, related, shown, parsed, eq_ok_of_mem_toOption loaded,
    extracted, listed, kind, found, typed, names, attached, resolved, under⟩

end ResourceQuery.Proofs.TypedKeys

import ResourceQuery.Proofs.AttachedRows
import ResourceQuery.Proofs.OwnTexts

/-! Reading a row by its key. The text of a key finds the first row with the same key, which is the row
itself unless another form of the key stands before it. -/

namespace ResourceQuery.Proofs.KeyReads
open AttachedRows Filtering MemoryAnswers NumericBounds OwnTexts

section

variable {service : Service} {memory : Memory} {resource : String} {table : Table}

theorem retrievalOf_holds_iff {id : String} {row : Row} :
    (Service.retrievalOf table id).predicates.all (·.holds row) = true ↔
      Asks (row.get table.primaryKey) (table.typeOf table.primaryKey) id .eq := by
  rw [← holds_iff]
  simp [Service.retrievalOf, Predicate.operandOf]

private theorem fetched_by_key {id : String} {before after : List Row} {first : Row}
    (split : memory.rows table = before ++ first :: after)
    (missed : ∀ other ∈ before,
      ¬ Asks (other.get table.primaryKey) (table.typeOf table.primaryKey) id .eq)
    (hit : Asks (first.get table.primaryKey) (table.typeOf table.primaryKey) id .eq) :
    memory.answer (.fetch table (Service.retrievalOf table id)) = [first] := by
  have none : before.filter (fun row => (Service.retrievalOf table id).predicates.all (·.holds row)) =
      [] := by
    rw [List.filter_eq_nil_iff]
    intro other member
    rw [retrievalOf_holds_iff]
    exact missed other member
  have filtered : ∃ others, memory.filtered table (Service.retrievalOf table id).predicates =
      first :: others := by
    rw [Memory.filtered, split, List.filter_append, none, List.nil_append]
    exact ⟨_, List.filter_cons_of_pos (retrievalOf_holds_iff.mpr hit)⟩
  obtain ⟨others, filtered⟩ := filtered
  change Window.take ⟨0, some 1⟩ (memory.filtered table _) = _
  rw [filtered]
  rfl

private theorem read_first (found : service.catalog.table? resource = some table) {id : String}
    {before after : List Row} {first : Row} (split : memory.rows table = before ++ first :: after)
    (missed : ∀ other ∈ before,
      ¬ Asks (other.get table.primaryKey) (table.typeOf table.primaryKey) id .eq)
    (hit : Asks (first.get table.primaryKey) (table.typeOf table.primaryKey) id .eq)
    (parameters : Parameters) :
    ∃ shown, resultOf memory (service.read resource id parameters) = .ok shown ∧
      ∀ column ∉ (Intent.parse parameters).embed, shown.get column = first.get column := by
  have fetched := fetched_by_key split missed hit
  have answered : resultOf memory (service.read resource id parameters) =
      .ok ((resultOf memory (Embed.resolve service.catalog service.naming table [first]
        (Intent.parse parameters).embed)).headD first) := by
    simp only [Service.read, found, resultOf_bind]
    rw [show resultOf memory (Program.fetch table (Service.retrievalOf table id)) = [first] from fetched]
    simp only [resultOf_bind]
    rfl
  refine ⟨_, answered, fun column other => ?_⟩
  have kept : (resultOf memory (Embed.resolve service.catalog service.naming table [first]
      (Intent.parse parameters).embed)).map (·.get column) = [first].map (·.get column) :=
    resolve_keeps memory service.naming table other
  obtain ⟨shown, alone, same⟩ := List.map_eq_singleton_iff.mp kept
  rw [alone]
  exact same

end

/-- A row that has a key with a text of its own is read by this text: the answer is the first row with
the same key, the row itself or one before it, and shows all its cells but those that others are
attached under. -/
theorem keys_find_first_rows (service : Service) (memory : Memory) (resource : String) (table : Table)
    (row : Row) (found : service.catalog.table? resource = some table)
    (listed : row ∈ memory.rows table) (keyed : (row.get table.primaryKey).isNull = false)
    (own : OwnText (table.typeOf table.primaryKey) (row.get table.primaryKey))
    (parameters : Parameters) :
    let type := table.typeOf table.primaryKey
    let key := row.get table.primaryKey
    ∃ before first after shown, memory.rows table = before ++ first :: after ∧ row ∈ first :: after ∧
      (∀ other ∈ before, ¬ SameKey type key (other.get table.primaryKey)) ∧
      SameKey type key (first.get table.primaryKey) ∧
      resultOf memory (service.read resource key.plainText parameters) = .ok shown ∧
      ∀ column ∉ (Intent.parse parameters).embed, shown.get column = first.get column := by
  intro type key
  classical
  have self : SameKey type key key := sameKey_self keyed own
  have some : ((memory.rows table).find? fun row =>
      decide (SameKey type key (row.get table.primaryKey))).isSome :=
    List.find?_isSome.mpr ⟨row, listed, decide_eq_true self⟩
  obtain ⟨first, chosen⟩ := Option.isSome_iff_exists.mp some
  obtain ⟨same, before, after, split, missed⟩ := List.find?_eq_some_iff_append.mp chosen
  have same : SameKey type key (first.get table.primaryKey) := of_decide_eq_true same
  have missed : ∀ other ∈ before, ¬ SameKey type key (other.get table.primaryKey) := by
    simpa using missed
  have reached : row ∈ first :: after := by
    rw [split] at listed
    exact (List.mem_append.mp listed).resolve_left fun earlier => missed row earlier self
  obtain ⟨shown, answered, kept⟩ := read_first found split
    (fun other member => mt (finds_iff own).mp (missed other member)) ((finds_iff own).mpr same)
    parameters
  exact ⟨before, first, after, shown, split, reached, missed, same, answered, kept⟩

def lengths : String :=
  "\x7b\"items\":[\x7b\"id\":0.5\x7d,\x7b\"id\":\"1e+21\"\x7d,\x7b\"id\":1e21,\"name\":\"far\"\x7d]\x7d"

theorem length_read_by_its_key : ∃ service memory table row,
    serve? .regular lengths = some (service, memory) ∧
    service.catalog.table? "items" = some table ∧ row ∈ memory.rows table ∧
    (row.get "name").plainText = "far" ∧ (row.get table.primaryKey).plainText = "1e+21" ∧
    OwnText (table.typeOf table.primaryKey) (row.get table.primaryKey) ∧
    ∃ before first after shown, memory.rows table = before ++ first :: after ∧ row ∈ first :: after ∧
      (∀ other ∈ before, ¬ SameKey (table.typeOf table.primaryKey) (row.get table.primaryKey)
        (other.get table.primaryKey)) ∧
      SameKey (table.typeOf table.primaryKey) (row.get table.primaryKey) (first.get table.primaryKey) ∧
      resultOf memory (service.read "items" "1e+21" (.ofPairs [("_embed", "parts")])) = .ok shown ∧
      ∀ column ∉ ["parts"], shown.get column = first.get column := by
  have fit : ∃ served ∈ serve? .regular lengths, ∃ table ∈ served.1.catalog.table? "items",
      ∃ row ∈ served.2.rows table, (row.get "name").plainText = "far" ∧
        (row.get table.primaryKey).plainText = "1e+21" ∧
        (row.get table.primaryKey).isNull = false ∧ (row.get table.primaryKey).string? = none := by
    decide +kernel
  obtain ⟨⟨service, memory⟩, served, table, found, row, listed, named, key, keyed, unquoted⟩ := fit
  have own : OwnText (table.typeOf table.primaryKey) (row.get table.primaryKey) :=
    own_of_unquoted unquoted
  have read := keys_find_first_rows service memory "items" table row found listed keyed own
    (.ofPairs [("_embed", "parts")])
  have attached : (Intent.parse (.ofPairs [("_embed", "parts")])).embed = ["parts"] := by decide
  simp only [key, attached] at read
  exact ⟨service, memory, table, row, served, found, listed, named, key, own, read⟩

/-- Every row of a document that has a key is answered to the text of this key, as far as the text of
the answer's key can tell. -/
def ReadsOwnKeys (definition : Json → SchemaDefinition) (text : String) : Prop :=
  ∀ document memory, Json.parse? text = some document → Memory.ofDocument document = .ok memory →
    let service : Service := ⟨(extractTables .regular (definition document)).catalog, .regular⟩
    ∀ table ∈ service.catalog.tables, ∀ row ∈ memory.rows table,
      (row.get table.primaryKey).isNull = false →
        ∃ shown, resultOf memory (service.read table.resource (row.get table.primaryKey).plainText .empty) =
            .ok shown ∧
          (shown.get table.primaryKey).plainText = (row.get table.primaryKey).plainText

private theorem not_readsOwnKeys {definition : Json → SchemaDefinition} {text : String}
    (misread : ∃ document ∈ Json.parse? text, ∃ memory ∈ (Memory.ofDocument document).toOption,
      let service : Service := ⟨(extractTables .regular (definition document)).catalog, .regular⟩
      ∃ table ∈ service.catalog.tables, ∃ row ∈ memory.rows table,
        (row.get table.primaryKey).isNull = false ∧
          (resultOf memory (service.read table.resource (row.get table.primaryKey).plainText
            .empty)).toOption.all fun shown =>
              (shown.get table.primaryKey).plainText != (row.get table.primaryKey).plainText) :
    ¬ ReadsOwnKeys definition text := by
  obtain ⟨document, parsed, memory, loaded, table, extracted, row, listed, keyed, differs⟩ := misread
  intro reads
  obtain ⟨shown, answered, same⟩ := reads document memory parsed (eq_ok_of_mem_toOption loaded) table
    extracted row listed keyed
  rw [answered] at differs
  simp [Except.toOption, same] at differs

def dated (_ : Json) : SchemaDefinition :=
  SchemaDefinition.empty.insert "items" ⟨"items", .list [⟨⟨"timestamp", true, true⟩, "id"⟩]⟩

/-- Another row is answered, or none, where a text is not spelled as the value that it is read as, and
where an earlier row has another form of the same key. -/
theorem rows_are_not_read_by_own_keys :
    ¬ ReadsOwnKeys .infer "\x7b\"items\":[\x7b\"id\":1\x7d,\x7b\"id\":\"007\"\x7d]\x7d" ∧
    ¬ ReadsOwnKeys .infer "\x7b\"items\":[\x7b\"id\":7\x7d,\x7b\"id\":\"007\"\x7d]\x7d" ∧
    ¬ ReadsOwnKeys .infer "\x7b\"items\":[\x7b\"id\":1\x7d,\x7b\"id\":7.0\x7d,\x7b\"id\":7\x7d]\x7d" ∧
    ¬ ReadsOwnKeys .infer "\x7b\"items\":[\x7b\"id\":0.5\x7d,\x7b\"id\":\"1.0\"\x7d]\x7d" ∧
    ¬ ReadsOwnKeys .infer "\x7b\"items\":[\x7b\"id\":0.5\x7d,\x7b\"id\":\"1\"\x7d,\x7b\"id\":1.0\x7d]\x7d" ∧
    ¬ ReadsOwnKeys .infer
      "\x7b\"items\":[\x7b\"id\":0.5\x7d,\x7b\"id\":9007199254740992\x7d,\x7b\"id\":9007199254740993\x7d]\x7d" ∧
    ¬ ReadsOwnKeys .infer "\x7b\"items\":[\x7b\"id\":true\x7d,\x7b\"id\":\"TRUE\"\x7d]\x7d" ∧
    ¬ ReadsOwnKeys dated
      "\x7b\"items\":[\x7b\"id\":\"2024-01-01\"\x7d,\x7b\"id\":\"2024-01-01T00:00:00Z\"\x7d]\x7d" ∧
    ¬ ReadsOwnKeys dated "\x7b\"items\":[\x7b\"id\":\"2024-01-01 \"\x7d]\x7d" := by
  refine ⟨?_, ?_, ?_, ?_, ?_, ?_, ?_, ?_, ?_⟩ <;> exact not_readsOwnKeys (by decide +kernel)

end ResourceQuery.Proofs.KeyReads

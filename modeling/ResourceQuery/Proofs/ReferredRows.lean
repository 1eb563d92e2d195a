import ResourceQuery.Proofs.ConverseEmbeds
import ResourceQuery.Proofs.KeyReads

/-! Rows attached under a foreign key, and the rows that are read by it. Reading takes the first row whose
key is equal to the text as a value of its type; attaching takes the first of these whose key also has this
text. -/

namespace ResourceQuery.Proofs.ReferredRows
open AttachedRows ConverseEmbeds KeyReads LinkedTables MemoryAnswers OwnTexts

def finds (memory : Memory) (table : Table) (text : String) : List Row :=
  (memory.rows table).filter fun row =>
    (row.get table.primaryKey).orderOperand? (.coerce (table.typeOf table.primaryKey) text) = some .eq

def spelledAs (memory : Memory) (table : Table) (text : String) : Option Row :=
  (finds memory table text).find? fun row => Embed.joinKey? table.primaryKey row = some text

private theorem joinKey?_spelledAs {memory : Memory} {table : Table} {text : String} {row : Row}
    (chosen : spelledAs memory table text = some row) :
    Embed.joinKey? table.primaryKey row = some text := by
  simpa using List.find?_some chosen

private theorem spelledAs_eq_first {memory : Memory} {table : Table} {text : String} {first : Row}
    {others : List Row} (found : finds memory table text = first :: others) :
    spelledAs memory table text = some first ↔ Embed.joinKey? table.primaryKey first = some text := by
  constructor
  · exact joinKey?_spelledAs
  · intro keyed
    simp [spelledAs, found, keyed]

private theorem read_found {service : Service} {resource : String} {table : Table}
    (found : service.catalog.table? resource = some table) (memory : Memory) (id : String)
    {parameters : Parameters} (unattached : (Intent.parse parameters).embed = []) :
    resultOf memory (service.read resource id parameters) =
      (finds memory table id).head?.elim (.error ⟨resource ++ "/" ++ id⟩) .ok := by
  have fetched : resultOf memory (Program.fetch table (Service.retrievalOf table id)) =
      (finds memory table id).take 1 := by
    have filtered : memory.filtered table (Service.retrievalOf table id).predicates =
        finds memory table id := by
      refine List.filter_congr fun row _ => ?_
      rw [Bool.eq_iff_iff, retrievalOf_holds_iff, decide_eq_true_eq]
      rfl
    change Window.take ⟨0, some 1⟩ (memory.filtered table _) = _
    rw [filtered]
    rfl
  simp only [Service.read, found, resultOf_bind, fetched, unattached]
  cases finds memory table id with
  | nil => rfl
  | cons first others => rfl

section

variable {catalog : Catalog} {memory : Memory} {relation : Relation} {related : Table} {rows : List Row}
  {row : Row} {key : String}

/-- Whatever other keys are asked for, what is found and has the text of a key is found by this key. -/
theorem find?_filtered (kind : relation.kind = .belongsTo) (primary : relation.theirKey = related.primaryKey)
    {keys : List String} (asked : key ∈ keys) :
    ((memory.filtered related (Embed.relatedPredicates related relation keys)).find? fun other =>
        Embed.joinKey? relation.theirKey other = some key) = spelledAs memory related key := by
  rw [spelledAs, finds, Memory.filtered, ← List.head?_filter, ← List.head?_filter, List.filter_filter,
    List.filter_filter, primary]
  congr 1
  refine List.filter_congr fun other _ => ?_
  rw [Bool.eq_iff_iff, Bool.and_eq_true, Bool.and_eq_true, decide_eq_true_eq, decide_eq_true_eq,
    ← primary]
  refine and_congr_right fun spelled => ?_
  simp only [Embed.relatedPredicates, kind, Predicate.holds, List.all_cons, List.all_nil, Bool.and_true,
    List.any_map, List.any_eq_true, Function.comp_apply, beq_iff_eq]
  constructor
  · rintro ⟨asked, -, found⟩
    exact found_by_cellText (own_of_found found) spelled
  · intro found
    exact ⟨key, asked, found⟩

private theorem attached_iff_spelledAs (found : catalog.table? relation.relatedTable = some related)
    (kind : relation.kind = .belongsTo) (primary : relation.theirKey = related.primaryKey)
    (member : row ∈ rows) (keyed : Embed.joinKey? relation.ourKey row = some key) {value : Json} :
    Attached catalog memory relation rows row value ↔
      value = (spelledAs memory related key).elim .null .object := by
  have asked : key ∈ Embed.distinctKeys relation.ourKey rows :=
    List.mem_eraseDups.mpr (List.mem_filterMap.mpr ⟨row, member, keyed⟩)
  rw [Attached, attachments_result memory found, mem_zip_map]
  simp only [member, true_and, Embed.attachment, kind, Embed.referred, keyed,
    find?_filtered kind primary asked]
  cases spelledAs memory related key with
  | none => exact eq_comm
  | some other => exact eq_comm

end

/-- A foreign key attaches the first row that it finds with its own text. This is the row that is read by
the key, if that one has this text, and null if none is read. -/
theorem attached_rows_are_read_if_spelled_alike (naming : Naming) (definition : SchemaDefinition)
    (memory : Memory) (table : Table) (relation : Relation) (distinct : Distinct definition)
    (extracted : table ∈ (extractTables naming definition).tables)
    (listed : relation ∈ table.relations) (kind : relation.kind = .belongsTo) :
    let service : Service := ⟨(extractTables naming definition).catalog, naming⟩
    ∃ related, service.catalog.table? relation.relatedTable = some related ∧
      relation.theirKey = related.primaryKey ∧
      ∀ rows, ∀ row ∈ rows, ∀ key parameters, Embed.joinKey? relation.ourKey row = some key →
        (Intent.parse parameters).embed = [] →
        let answer := resultOf memory (service.read relation.relatedTable key parameters)
        answer =
            (finds memory related key).head?.elim (.error ⟨relation.relatedTable ++ "/" ++ key⟩) .ok ∧
          (∀ value, Attached service.catalog memory relation rows row value ↔
            value = (spelledAs memory related key).elim .null .object) ∧
          (∀ failure, answer = .error failure → Attached service.catalog memory relation rows row .null) ∧
          ∀ first, answer = .ok first → (Attached service.catalog memory relation rows row (.object first) ↔
            Embed.joinKey? related.primaryKey first = some key) := by
  intro service
  obtain ⟨related, -, found, primary, -⟩ := converse_relation distinct extracted listed kind
  refine ⟨related, found, primary, ?_⟩
  intro rows row member key parameters keyed unattached answer
  have answered : answer = (finds memory related key).head?.elim
      (.error ⟨relation.relatedTable ++ "/" ++ key⟩) .ok := read_found found memory key unattached
  have attached (value : Json) : Attached service.catalog memory relation rows row value ↔
      value = (spelledAs memory related key).elim .null .object :=
    attached_iff_spelledAs found kind primary member keyed
  refine ⟨answered, attached, ?_, ?_⟩
  · intro failure failed
    cases list : finds memory related key with
    | nil => simp [attached, spelledAs, list]
    | cons first others =>
      rw [answered, list] at failed
      cases failed
  · intro first read
    cases list : finds memory related key with
    | nil =>
      rw [answered, list] at read
      cases read
    | cons other others =>
      rw [answered, list] at read
      cases read
      rw [attached, ← spelledAs_eq_first list]
      cases spelledAs memory related key with
      | none => simp
      | some chosen => simp [eq_comm]

def sevens : String :=
  "\x7b\"posts\":[\x7b\"id\":1,\"userId\":7\x7d]," ++
    "\"users\":[\x7b\"id\":7.0\x7d,\x7b\"id\":7,\"name\":\"second\"\x7d]\x7d"

/-- The first of two users with the same number as their key is read, and the second one is attached. -/
theorem second_user_attached : ∃ document memory table relation related row, ∃ first second : Row,
    Json.parse? sevens = some document ∧ Memory.ofDocument document = .ok memory ∧
    let service : Service := ⟨(extractTables .regular (.infer document)).catalog, .regular⟩
    table ∈ service.catalog.tables ∧ relation ∈ table.relations ∧ relation.kind = .belongsTo ∧
      service.catalog.table? relation.relatedTable = some related ∧ row ∈ memory.rows table ∧
      Embed.joinKey? "userId" row = some "7" ∧
      Embed.joinKey? related.primaryKey first = some "7.0" ∧ (second.get "name").plainText = "second" ∧
      resultOf memory (service.read relation.relatedTable "7" .empty) = .ok first ∧
      ¬ Attached service.catalog memory relation (memory.rows table) row (.object first) ∧
      Attached service.catalog memory relation (memory.rows table) row (.object second) := by
  have fit : ∃ document ∈ Json.parse? sevens, ∃ memory ∈ (Memory.ofDocument document).toOption,
      Distinct (.infer document) ∧
      ∃ table ∈ (extractTables .regular (.infer document)).tables, ∃ relation ∈ table.relations,
        relation.kind = .belongsTo ∧ relation.ourKey = "userId" ∧
        ∃ related ∈ (extractTables .regular (.infer document)).catalog.table? relation.relatedTable,
        ∃ row ∈ memory.rows table, Embed.joinKey? "userId" row = some "7" ∧
        (finds memory related "7").head?.bind (Embed.joinKey? related.primaryKey) = some "7.0" ∧
        (spelledAs memory related "7").map (fun second => (second.get "name").plainText) =
          some "second" := by
    decide +kernel
  obtain ⟨document, parsed, memory, loaded, distinct, table, extracted, relation, listed, kind, column,
    related, found, row, member, key, apart, named⟩ := fit
  obtain ⟨first, read, apart⟩ := Option.bind_eq_some_iff.mp apart
  obtain ⟨second, chosen, named⟩ := Option.map_eq_some_iff.mp named
  obtain ⟨related', found', -, both⟩ := attached_rows_are_read_if_spelled_alike .regular (.infer document)
    memory table relation distinct extracted listed kind
  obtain rfl : related = related' := Option.some.inj (found.symm.trans found')
  obtain ⟨answered, attached, -, same⟩ := both _ row member "7" .empty (by rw [column]; exact key) (by decide)
  rw [read, Option.elim_some] at answered
  refine ⟨document, memory, table, relation, related, row, first, second, parsed,
    eq_ok_of_mem_toOption loaded, extracted, listed, kind, found, member, key, apart, named, answered, ?_,
    ?_⟩
  · rw [same first answered, apart]
    decide
  · rw [attached, chosen]
    rfl

/-- What is attached is what is read without anything attached, and null if and only if nothing is read,
for all foreign keys of a document. -/
def AttachesWhatIsRead (text : String) : Prop :=
  ∀ document memory, Json.parse? text = some document → Memory.ofDocument document = .ok memory →
    let service : Service := ⟨(extractTables .regular (.infer document)).catalog, .regular⟩
    ∀ table ∈ service.catalog.tables, ∀ relation ∈ table.relations, relation.kind = .belongsTo →
      ∀ row ∈ memory.rows table, ∀ key, Embed.joinKey? relation.ourKey row = some key →
      let answer := resultOf memory (service.read relation.relatedTable key .empty)
      ∀ value, Attached service.catalog memory relation (memory.rows table) row value →
        (∀ shown, answer = .ok shown → value = .object shown) ∧
          (value = .null ↔ ∃ failure, answer = .error failure)

private theorem not_attachesWhatIsRead {text : String}
    (apart : ∃ document ∈ Json.parse? text, ∃ memory ∈ (Memory.ofDocument document).toOption,
      Distinct (.infer document) ∧
      ∃ table ∈ (extractTables .regular (.infer document)).catalog.tables,
        ∃ relation ∈ table.relations, relation.kind = .belongsTo ∧
        ∃ related ∈ (extractTables .regular (.infer document)).catalog.table? relation.relatedTable,
        ∃ row ∈ memory.rows table, ∃ key ∈ Embed.joinKey? relation.ourKey row,
        ∃ first ∈ (finds memory related key).head?,
          Embed.joinKey? related.primaryKey first ≠ some key) :
    ¬ AttachesWhatIsRead text := by
  obtain ⟨document, parsed, memory, loaded, distinct, table, extracted, relation, listed, kind, related,
    found, row, member, key, keyed, first, read, other⟩ := apart
  obtain ⟨related', -, found', primary, -⟩ := converse_relation distinct extracted listed kind
  obtain rfl : related = related' := Option.some.inj (found.symm.trans found')
  intro attaches
  have answered := @read_found ⟨_, .regular⟩ _ _ found memory key .empty (by decide)
  rw [Option.mem_def.mp read, Option.elim_some] at answered
  obtain ⟨same, -⟩ := attaches document memory parsed (eq_ok_of_mem_toOption loaded) table extracted relation
    listed kind row member key keyed _ ((attached_iff_spelledAs found kind primary member keyed).mpr rfl)
  have same := same first answered
  cases chosen : spelledAs memory related key with
  | none =>
    rw [chosen] at same
    cases same
  | some spelled =>
    rw [chosen] at same
    cases same
    exact other (joinKey?_spelledAs chosen)

/-- The number 1.0 is found by the key 1, and read, but not attached; of two users with the same number as
their key one is read, the other attached. -/
theorem numbers_of_another_form_are_not_attached :
    ¬ AttachesWhatIsRead
      "\x7b\"posts\":[\x7b\"id\":1,\"userId\":1\x7d],\"users\":[\x7b\"id\":1.0\x7d]\x7d" ∧
    ¬ AttachesWhatIsRead sevens := by
  constructor <;> exact not_attachesWhatIsRead (by decide +kernel)

end ResourceQuery.Proofs.ReferredRows

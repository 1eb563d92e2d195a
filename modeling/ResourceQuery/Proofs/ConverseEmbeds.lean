import Mathlib.Data.List.Pairwise
import ResourceQuery.Proofs.AttachedRows
import ResourceQuery.Proofs.LinkedTables
import ResourceQuery.Proofs.OwnTexts

/-! Attaching in both directions. A row that is attached to another under a foreign key has the other
one in its list under the converse relation; the other way round this holds as long as the key of the
row is spelled as the value that it is read as. -/

namespace ResourceQuery.Proofs.ConverseEmbeds
open AttachedRows LinkedTables MemoryAnswers OwnTexts

theorem mem_zip_map {First Second : Type} {value : First → Second} {list : List First} {first : First}
    {second : Second} :
    (first, second) ∈ list.zip (list.map value) ↔ first ∈ list ∧ value first = second := by
  rw [← List.map_prod_left_eq_zip]
  constructor
  · intro member
    obtain ⟨held, listed, same⟩ := List.mem_map.mp member
    cases same
    exact ⟨listed, rfl⟩
  · rintro ⟨listed, rfl⟩
    exact List.mem_map.mpr ⟨first, listed, rfl⟩

private theorem eq_of_nodup_filterMap {First Second : Type} {key : First → Option Second} {list : List First}
    (distinct : (list.filterMap key).Nodup) {first other : First} {found : Second}
    (member : first ∈ list) (member' : other ∈ list) (has : key first = some found)
    (has' : key other = some found) : first = other := by
  let Differ (first other : First) := ∀ found ∈ key first, ∀ found' ∈ key other, found ≠ found'
  have differ : list.Pairwise Differ := List.pairwise_filterMap.mp distinct
  have : Std.Symm Differ :=
    ⟨fun _ _ differ found has found' has' => (differ found' has' found has).symm⟩
  by_contra apart
  exact differ.forall member member' apart found has found has' rfl

section

variable {relation : Relation} {related : List Row} {row other : Row}

private theorem referred_iff (distinct : (related.filterMap (Embed.joinKey? relation.theirKey)).Nodup) :
    Embed.referred relation related row = .object other ↔
      ∃ key, Embed.joinKey? relation.ourKey row = some key ∧ other ∈ related ∧
        Embed.joinKey? relation.theirKey other = some key := by
  unfold Embed.referred
  cases Embed.joinKey? relation.ourKey row with
  | none => simp
  | some key =>
    simp only [Option.some.injEq, exists_eq_left']
    cases found : related.find? fun other => Embed.joinKey? relation.theirKey other = some key with
    | none =>
      simp only [reduceCtorEq, false_iff, not_and]
      intro member has
      have missed := List.find?_eq_none.mp found other member
      simp [has] at missed
    | some first =>
      have member := List.mem_of_find?_eq_some found
      have has : Embed.joinKey? relation.theirKey first = some key := by
        simpa using List.find?_some found
      simp only [Json.object.injEq]
      constructor
      · rintro rfl
        exact ⟨member, has⟩
      · rintro ⟨member', has'⟩
        exact eq_of_nodup_filterMap distinct member member' has has'

private theorem mem_referring_iff :
    (∃ list, Embed.referring relation related row = .array list ∧ .object other ∈ list) ↔
      ∃ key, Embed.joinKey? relation.ourKey row = some key ∧ other ∈ related ∧
        Embed.joinKey? relation.foreignKey other = some key := by
  unfold Embed.referring
  cases Embed.joinKey? relation.ourKey row with
  | none => simp
  | some key => simp

end

/-- Embedding puts a value at a row. -/
def Attached (catalog : Catalog) (memory : Memory) (relation : Relation) (rows : List Row) (row : Row)
    (value : Json) : Prop :=
  (row, value) ∈ rows.zip (resultOf memory (Embed.attachments catalog relation rows))

/-- Embedding puts a list at a row in which another row is. -/
def Lists (catalog : Catalog) (memory : Memory) (relation : Relation) (rows : List Row)
    (row other : Row) : Prop :=
  ∃ list, Attached catalog memory relation rows row (.array list) ∧ .object other ∈ list

/-- The relation of the other table that is joined on the same two columns. -/
structure Converse (table : Table) (relation converse : Relation) : Prop where
  kind : converse.kind = .hasMany
  relatedTable : converse.relatedTable = table.resource
  ourKey : converse.ourKey = relation.theirKey
  theirKey : converse.theirKey = relation.ourKey

section

variable {catalog : Catalog} {memory : Memory} {relation : Relation} {table related : Table}
  {rows : List Row} {row other : Row}

private theorem mem_filtered_iff (kind : relation.kind = .belongsTo) {keys : List String} :
    other ∈ memory.filtered related (Embed.relatedPredicates related relation keys) ↔
      other ∈ memory.rows related ∧ ∃ key ∈ keys, (other.get relation.theirKey).orderOperand?
        (.coerce (related.typeOf relation.theirKey) key) = some .eq := by
  simp [Memory.filtered, Embed.relatedPredicates, kind, Predicate.holds]

private theorem attached_iff (found : catalog.table? relation.relatedTable = some related)
    (kind : relation.kind = .belongsTo)
    (distinct : ((memory.rows related).filterMap (Embed.joinKey? relation.theirKey)).Nodup) :
    Attached catalog memory relation rows row (.object other) ↔
      row ∈ rows ∧ ∃ key, Embed.joinKey? relation.ourKey row = some key ∧
        Embed.joinKey? relation.theirKey other = some key ∧ other ∈ memory.rows related ∧
        ∃ asked ∈ Embed.distinctKeys relation.ourKey rows, (other.get relation.theirKey).orderOperand?
          (.coerce (related.typeOf relation.theirKey) asked) = some .eq := by
  rw [Attached, attachments_result memory found, mem_zip_map]
  refine and_congr_right fun _ => ?_
  simp only [Embed.attachment, kind]
  have fetched (predicates : List Predicate) :
      ((memory.filtered related predicates).filterMap (Embed.joinKey? relation.theirKey)).Nodup :=
    distinct.sublist (List.filter_sublist.filterMap _)
  rw [referred_iff (fetched _)]
  refine exists_congr fun key => and_congr_right fun _ => ?_
  rw [mem_filtered_iff kind]
  exact and_comm

private theorem lists_iff {converse : Relation} (found : catalog.table? converse.relatedTable = some table)
    (kind : converse.kind = .hasMany) :
    Lists catalog memory converse rows other row ↔
      other ∈ rows ∧ ∃ key, Embed.joinKey? converse.ourKey other = some key ∧ row ∈ memory.rows table ∧
        Embed.joinKey? converse.theirKey row = some key := by
  simp only [Lists, Attached, attachments_result memory found, mem_zip_map, filtered_of_hasMany kind,
    Embed.attachment, kind, and_assoc, exists_and_left]
  rw [mem_referring_iff, foreignKey_of_hasMany kind]

end

/-- A foreign key and its converse, over all rows of both tables: what is attached under the one is
listed under the other, and what is listed is attached if its key is spelled as it is read. -/
theorem foreign_keys_attach_both_ways (naming : Naming) (definition : SchemaDefinition) (memory : Memory)
    (table : Table) (relation : Relation) (distinct : Distinct definition)
    (extracted : table ∈ (extractTables naming definition).tables)
    (listed : relation ∈ table.relations) (kind : relation.kind = .belongsTo) :
    let catalog := (extractTables naming definition).catalog
    ∃ related, catalog.table? relation.relatedTable = some related ∧
      relation.theirKey = related.primaryKey ∧
      (∃ converse ∈ related.relations, Converse table relation converse) ∧
      (((memory.rows related).filterMap (Embed.joinKey? related.primaryKey)).Nodup →
        ∀ converse ∈ related.relations, Converse table relation converse →
        ∀ rows others, rows ⊆ memory.rows table → others ⊆ memory.rows related →
        ∀ row ∈ rows, ∀ other ∈ others,
          (Attached catalog memory relation rows row (.object other) →
            Lists catalog memory converse others other row) ∧
          (OwnText (related.typeOf related.primaryKey) (other.get related.primaryKey) →
            Lists catalog memory converse others other row →
            Attached catalog memory relation rows row (.object other))) := by
  intro catalog
  obtain ⟨related, -, found, primary, converse, shared, hasMany, tables, ours, theirs⟩ :=
    converse_relation distinct extracted listed kind
  refine ⟨related, found, primary,
    ⟨converse, shared, hasMany, tables, ours.trans primary.symm, theirs⟩, ?_⟩
  intro apart converse _ opposite rows others inside inside' row member other member'
  have source : catalog.table? converse.relatedTable = some table := by
    rw [opposite.relatedTable]
    exact table?_of_mem distinct extracted
  rw [← primary] at apart ⊢
  rw [attached_iff found kind apart, lists_iff source opposite.kind, opposite.ourKey, opposite.theirKey]
  constructor
  · rintro ⟨-, key, ours, theirs, -⟩
    exact ⟨member', key, theirs, inside member, ours⟩
  · rintro own ⟨-, key, theirs, -, ours⟩
    have asked : key ∈ Embed.distinctKeys relation.ourKey rows :=
      List.mem_eraseDups.mpr (List.mem_filterMap.mpr ⟨row, member, ours⟩)
    obtain ⟨keyed, text⟩ : (other.get relation.theirKey).isNull = false ∧
        (other.get relation.theirKey).plainText = key := by
      simpa [Embed.joinKey?, Json.cellText?] using theirs
    have equal := (finds_iff own).mpr (sameKey_self keyed own)
    rw [text] at equal
    exact ⟨member, key, ours, theirs, inside' member', key, asked, equal⟩

def posts : String :=
  "\x7b\"posts\":[\x7b\"id\":1,\"userId\":\"7.5\"\x7d,\x7b\"id\":2,\"userId\":null\x7d]," ++
    "\"users\":[\x7b\"id\":\"a\"\x7d,\x7b\"id\":7.5\x7d]\x7d"

theorem post_of_user_both_ways :
    ∃ document memory table relation related converse row other,
      Json.parse? posts = some document ∧ Memory.ofDocument document = .ok memory ∧
      let catalog := (extractTables .regular (.infer document)).catalog
      table ∈ catalog.tables ∧ relation ∈ table.relations ∧ relation.kind = .belongsTo ∧
        catalog.table? relation.relatedTable = some related ∧ Converse table relation converse ∧
        Embed.joinKey? "userId" row = some "7.5" ∧ Embed.joinKey? "id" other = some "7.5" ∧
        (Attached catalog memory relation (memory.rows table) row (.object other) →
          Lists catalog memory converse (memory.rows related) other row) ∧
        (Lists catalog memory converse (memory.rows related) other row →
          Attached catalog memory relation (memory.rows table) row (.object other)) := by
  have fit : ∃ document ∈ Json.parse? posts, ∃ memory ∈ (Memory.ofDocument document).toOption,
      Distinct (.infer document) ∧
      ∃ table ∈ (extractTables .regular (.infer document)).tables, ∃ relation ∈ table.relations,
        relation.kind = .belongsTo ∧
        ∃ related ∈ (extractTables .regular (.infer document)).catalog.table? relation.relatedTable,
          ((memory.rows related).filterMap (Embed.joinKey? related.primaryKey)).Nodup ∧
          (∃ row ∈ memory.rows table, Embed.joinKey? "userId" row = some "7.5") ∧
          ∃ other ∈ memory.rows related, Embed.joinKey? "id" other = some "7.5" ∧
            (other.get related.primaryKey).string? = none := by
    decide +kernel
  obtain ⟨document, parsed, memory, loaded, distinct, table, extracted, relation, listed, kind, related,
    found, apart, ⟨row, member, key⟩, other, member', key', unquoted⟩ := fit
  obtain ⟨related', found', -, ⟨converse, shared, opposite⟩, both⟩ :=
    foreign_keys_attach_both_ways .regular (.infer document) memory table relation distinct extracted
      listed kind
  obtain rfl : related = related' := Option.some.inj (found.symm.trans found')
  obtain ⟨forth, back⟩ := both apart converse shared opposite _ _ (List.Subset.refl _)
    (List.Subset.refl _) row member other member'
  exact ⟨document, memory, table, relation, related, converse, row, other, parsed,
    eq_ok_of_mem_toOption loaded, extracted, listed, kind, found, opposite, key, key', forth,
    back (own_of_unquoted unquoted)⟩

/-- Attaching is the same in both directions, for all foreign keys of a document. -/
def AttachesBothWays (text : String) : Prop :=
  ∀ document memory, Json.parse? text = some document → Memory.ofDocument document = .ok memory →
    let catalog := (extractTables .regular (.infer document)).catalog
    ∀ table ∈ catalog.tables, ∀ relation ∈ table.relations, relation.kind = .belongsTo →
      ∀ related, catalog.table? relation.relatedTable = some related →
      ((memory.rows related).filterMap (Embed.joinKey? related.primaryKey)).Nodup →
      ∀ converse ∈ related.relations, Converse table relation converse →
      ∀ row ∈ memory.rows table, ∀ other ∈ memory.rows related,
        Attached catalog memory relation (memory.rows table) row (.object other) ↔
          Lists catalog memory converse (memory.rows related) other row

def padded : String :=
  "\x7b\"posts\":[\x7b\"id\":1,\"userId\":\"007\"\x7d],\"users\":[\x7b\"id\":1\x7d,\x7b\"id\":\"007\"\x7d]\x7d"

/-- A post is listed at its user but the user is not attached to the post: the key is asked for as a
number, which the text of the user's key is not. -/
theorem padded_keys_attach_one_way : ¬ AttachesBothWays padded := by
  intro both
  have fit : ∃ document ∈ Json.parse? padded, ∃ memory ∈ (Memory.ofDocument document).toOption,
      Distinct (.infer document) ∧
      ∃ table ∈ (extractTables .regular (.infer document)).catalog.tables,
        ∃ relation ∈ table.relations, relation.kind = .belongsTo ∧
        ∃ related ∈ (extractTables .regular (.infer document)).catalog.table? relation.relatedTable,
          relation.theirKey = related.primaryKey ∧
          ((memory.rows related).filterMap (Embed.joinKey? related.primaryKey)).Nodup ∧
          ∃ row ∈ memory.rows table, Embed.joinKey? relation.ourKey row = some "007" ∧
          ∃ other ∈ memory.rows related, Embed.joinKey? relation.theirKey other = some "007" ∧
            ∀ asked ∈ Embed.distinctKeys relation.ourKey (memory.rows table),
              (other.get relation.theirKey).orderOperand?
                (.coerce (related.typeOf relation.theirKey) asked) ≠ some .eq := by
    decide +kernel
  obtain ⟨document, parsed, memory, loaded, distinct, table, extracted, relation, listed, kind, related,
    found, primary, apart, row, member, key, other, member', key', missed⟩ := fit
  obtain ⟨related', -, found', -, converse, shared, hasMany, tables, ours, theirs⟩ :=
    converse_relation distinct extracted listed kind
  obtain rfl : related = related' := Option.some.inj (found.symm.trans found')
  have opposite : Converse table relation converse := ⟨hasMany, tables, ours.trans primary.symm, theirs⟩
  have source : (extractTables .regular (.infer document)).catalog.table? converse.relatedTable =
      some table := by
    rw [tables]
    exact table?_of_mem distinct extracted
  have same := both document memory parsed (eq_ok_of_mem_toOption loaded) table extracted relation listed
    kind related found apart converse shared opposite row member other member'
  rw [← primary] at apart
  rw [attached_iff found kind apart, lists_iff source hasMany, opposite.ourKey, opposite.theirKey] at same
  obtain ⟨-, -, -, -, -, asked, known, equal⟩ := same.mpr ⟨member', "007", key', member, key⟩
  exact missed asked known equal

end ResourceQuery.Proofs.ConverseEmbeds

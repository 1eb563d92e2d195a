import Mathlib.Data.List.Induction
import ResourceQuery.Proofs.RelationClosure
import ResourceQuery.Proofs.ServedDocuments

/-! Tables that are accepted. A definition's tables are divided, in the order of their resources, into those
with one primary key and those that are rejected for having none or several. Of several columns with one name
the first is the one that counts, for the key as for the rest. What is rejected leaves no trace in the tables
that are accepted. -/

namespace ResourceQuery.Proofs.AcceptedTables
open LinkedTables OrderedJson RelationClosure ServedDocuments

/-- The first of the columns declared under each name, in the order of declaration. -/
def firsts (declared : List ColumnDefinition) : List ColumnDefinition :=
  (declared.map (·.name)).eraseDups.filterMap fun name => declared.find? (·.name = name)

private theorem find?_concat {declared : List ColumnDefinition} {name : String}
    (known : name ∈ declared.map (·.name)) (last : ColumnDefinition) :
    (declared ++ [last]).find? (·.name = name) = declared.find? (·.name = name) := by
  obtain ⟨column, member, same⟩ := List.mem_map.mp known
  have found : (declared.find? (·.name = name)).isSome :=
    List.find?_isSome.mpr ⟨column, member, by simpa using same⟩
  obtain ⟨first, found⟩ := Option.isSome_iff_exists.mp found
  rw [List.find?_append, found, Option.some_or]

private theorem firsts_concat (declared : List ColumnDefinition) (last : ColumnDefinition) :
    firsts (declared ++ [last]) =
      if last.name ∈ declared.map (·.name) then firsts declared else firsts declared ++ [last] := by
  have before : (declared.map (·.name)).eraseDups.filterMap (fun name =>
      (declared ++ [last]).find? (·.name = name)) = firsts declared := by
    refine List.filterMap_congr fun name member => ?_
    exact find?_concat (List.mem_eraseDups.mp member) last
  rw [firsts, List.map_append, List.map_singleton, List.eraseDups_append, List.filterMap_append, before]
  by_cases known : last.name ∈ declared.map (·.name)
  · rw [if_pos known]
    have none : [last.name].removeAll (declared.map (·.name)) = [] := by simpa [List.removeAll] using known
    simp [none]
  · rw [if_neg known]
    have absent : declared.find? (·.name = last.name) = none := by simpa using known
    have new : [last.name].removeAll (declared.map (·.name)) = [last.name] := by
      simpa [List.removeAll] using known
    simp [new, absent, List.eraseDups_cons]

private theorem ofDefinitions_eq (declared : List ColumnDefinition) :
    Column.ofDefinitions declared = (firsts declared).map Column.ofDefinition := by
  induction declared using List.reverseRecOn with
  | nil => rfl
  | append_singleton declared last ih =>
    have step : Column.ofDefinitions (declared ++ [last]) =
        Column.addNew (Column.ofDefinitions declared) (.ofDefinition last) := by
      simp [Column.ofDefinitions]
    have name : (Column.ofDefinition last).name = last.name := rfl
    rw [step, firsts_concat, Column.addNew, name]
    by_cases known : last.name ∈ declared.map (·.name)
    · rw [if_pos known, if_pos (any_ofDefinitions.mpr known), ih]
    · rw [if_neg known, if_neg (mt any_ofDefinitions.mp known), ih, List.map_append, List.map_singleton]

/-- The names of the columns that are marked as the primary key, of those that count. -/
def marked (described : TableDefinition) : List String :=
  ((firsts described.columns.toList).filter (·.primaryKey)).map (·.name)

private theorem marked_eq (described : TableDefinition) :
    ((Column.ofDefinitions described.columns.toList).filter (·.isPrimaryKey)).map (·.name) =
      marked described := by
  rw [ofDefinitions_eq, List.filter_map, List.map_map, marked]
  exact List.map_congr_left fun _ _ => rfl

/-- Why a table is rejected, if it is: it has no primary key, or several. -/
def rejection? (described : TableDefinition) : Option SchemaError :=
  if marked described = [] ∧ "id" ∉ described.columns.toList.map (·.name) then
    some (.missingPrimaryKey described.name)
  else if 2 ≤ (marked described).length then
    some (.compositePrimaryKey described.name (marked described))
  else none

/-- An accepted table is as it was described. It has the first column of every name and no other, and just one
of them is marked: the one that was marked from the first, or else the one called `id`. -/
structure Accepted (resource : String) (described : TableDefinition) (table : Table) : Prop where
  name : table.name = described.name
  resource : table.resource = resource
  columns : table.columns.map (fun column => (column.name, column.type, column.nullable)) =
    (firsts described.columns.toList).map fun column =>
      (column.name, ColumnType.ofDeclared column.declaredType, column.nullable)
  distinct : (table.columns.map (·.name)).Nodup
  single : (table.columns.filter (·.isPrimaryKey)).map (·.name) = [table.primaryKey]
  primaryKey : table.primaryKey = (marked described).headD "id"

private theorem shown_columns (described : TableDefinition) :
    (Column.ofDefinitions described.columns.toList).map
        (fun column => (column.name, column.type, column.nullable)) =
      (firsts described.columns.toList).map fun column =>
        (column.name, ColumnType.ofDeclared column.declaredType, column.nullable) := by
  simp only [ofDefinitions_eq, List.map_map, Function.comp_def, Column.ofDefinition]

private theorem map_adoptPrimaryKey {View : Type} {view : Column → View}
    (kept : ∀ column, view { column with isPrimaryKey := true } = view column) (name : String)
    (columns : List Column) : (adoptPrimaryKey name columns).map view = columns.map view := by
  rw [adoptPrimaryKey, List.map_map]
  refine List.map_congr_left fun column _ => ?_
  rw [Function.comp_apply]
  split
  · exact kept column
  · rfl

def keyedColumns (described : TableDefinition) : List Column :=
  if marked described = [] then adoptPrimaryKey "id" (Column.ofDefinitions described.columns.toList)
  else Column.ofDefinitions described.columns.toList

private theorem map_keyedColumns {View : Type} {view : Column → View}
    (kept : ∀ column, view { column with isPrimaryKey := true } = view column)
    (described : TableDefinition) :
    (keyedColumns described).map view = (Column.ofDefinitions described.columns.toList).map view := by
  rw [keyedColumns]
  split
  · exact map_adoptPrimaryKey kept "id" _
  · rfl

def ownTable (resource : String) (described : TableDefinition) : Table where
  name := described.name
  resource := resource
  columns := keyedColumns described
  primaryKey := (marked described).headD "id"
  relations := []

private theorem extractTable_eq (resource : String) (described : TableDefinition) :
    extractTable resource described =
      match rejection? described with
      | some reason => .error reason
      | none => .ok (ownTable resource described) := by
  have named := @any_ofDefinitions described.columns.toList "id"
  match marks : marked described with
  | [] =>
    by_cases present : "id" ∈ described.columns.toList.map (·.name)
    · simp [extractTable, marked_eq, rejection?, ownTable, keyedColumns, marks, named.mpr present, present]
    · simp [extractTable, marked_eq, rejection?, marks, mt named.mp present, present]
  | [single] => simp [extractTable, marked_eq, rejection?, ownTable, keyedColumns, marks]
  | first :: second :: others => simp [extractTable, marked_eq, rejection?, marks]

private theorem primaryKey_mem {described : TableDefinition} (kept : rejection? described = none) :
    (marked described).headD "id" ∈ (keyedColumns described).map (·.name) := by
  rw [map_keyedColumns (fun _ => rfl)]
  cases marks : marked described with
  | nil =>
    have present : "id" ∈ described.columns.toList.map (·.name) := by
      by_contra absent
      rw [rejection?, if_pos ⟨marks, absent⟩] at kept
      cases kept
    simpa using any_ofDefinitions.mpr present
  | cons first others =>
    have listed : first ∈ marked described := by simp [marks]
    rw [← marked_eq] at listed
    exact List.map_subset _ (List.filter_subset_self _) listed

private theorem single_of_fresh {table : Table} (fresh : Fresh table)
    (present : table.primaryKey ∈ table.columns.map (·.name)) :
    (table.columns.filter (·.isPrimaryKey)).map (·.name) = [table.primaryKey] := by
  obtain ⟨column, member, same⟩ := List.mem_map.mp present
  rw [filter_eq_singleton fresh.distinct member ((fresh.keyed column member).mpr same), List.map_singleton,
    same]
  intro other listed held
  rw [(fresh.keyed other listed).mp held, same]

private theorem accepted_ownTable (resource : String) {described : TableDefinition}
    (kept : rejection? described = none) : Accepted resource described (ownTable resource described) := by
  have fresh : Fresh (ownTable resource described) :=
    fresh_of_extractTable (by rw [extractTable_eq, kept])
  refine ⟨rfl, rfl, ?_, fresh.distinct, single_of_fresh fresh (primaryKey_mem kept), rfl⟩
  exact (map_keyedColumns (fun _ => rfl) described).trans (shown_columns described)

private theorem refer_eq (links : List Link) (resource : String) (column : Column) :
    ∃ reference, Link.refer links resource column = { column with reference } := by
  unfold Link.refer
  split
  · exact ⟨_, rfl⟩
  · exact ⟨column.reference, rfl⟩

/-- Linking changes nothing but references and relations. -/
theorem Accepted.apply {resource : String} {described : TableDefinition} {table : Table}
    (accepted : Accepted resource described table) (links : List Link) :
    Accepted resource described (Link.apply links table) := by
  have kept {View : Type} {view : Column → View}
      (same : ∀ column reference, view { column with reference } = view column) (columns : List Column) :
      (columns.map (Link.refer links table.resource)).map view = columns.map view := by
    rw [List.map_map]
    refine List.map_congr_left fun column _ => ?_
    obtain ⟨reference, referred⟩ := refer_eq links table.resource column
    rw [Function.comp_apply, referred, same]
  refine ⟨accepted.name, accepted.resource, (kept (fun _ _ => rfl) _).trans accepted.columns, ?_, ?_,
    accepted.primaryKey⟩
  · have names := accepted.distinct
    rwa [← kept (fun _ _ => rfl)] at names
  · have marks : (table.columns.map (Link.refer links table.resource)).filter (·.isPrimaryKey) =
        (table.columns.filter (·.isPrimaryKey)).map (Link.refer links table.resource) := by
      rw [List.filter_map]
      congr 1
      refine List.filter_congr fun column _ => ?_
      exact (refer_same links table.resource column).2
    exact (congrArg _ marks).trans ((kept (fun _ _ => rfl) _).trans accepted.single)

private theorem unlinkedTables_eq (definition : SchemaDefinition) :
    unlinkedTables definition =
      (definition.tables.filter fun entry => rejection? entry.2 = none).map fun entry =>
        ownTable entry.1 entry.2 := by
  rw [unlinkedTables, acceptedTables, List.filterMap_map, ← List.filterMap_eq_map, List.filterMap_filter]
  refine List.filterMap_congr fun entry _ => ?_
  simp only [Function.comp_apply, extractTable_eq]
  cases rejection? entry.2 <;> rfl

private theorem rejected_eq (naming : Naming) (definition : SchemaDefinition) :
    (extractTables naming definition).rejected =
      definition.tables.filterMap fun entry => rejection? entry.2 := by
  simp only [extractTables, rejections, List.filterMap_map]
  refine List.filterMap_congr fun entry _ => ?_
  simp only [Function.comp_apply, extractTable_eq]
  cases rejection? entry.2 <;> rfl

def only (keep : String → Bool) (definition : SchemaDefinition) : SchemaDefinition :=
  ⟨definition.entries.filter fun entry => keep entry.1⟩

private theorem tables_only (keep : String → Bool) (definition : SchemaDefinition) :
    (only keep definition).tables = definition.tables.filter fun entry => keep entry.1 := by
  simp only [SchemaDefinition.tables, only]
  induction definition.entries with
  | nil => rfl
  | cons entry rest ih =>
    cases recognized : TableDefinition.recognize? entry.2 <;> cases kept : keep entry.1 <;>
      simp [recognized, kept, ih]

private theorem unlinkedTables_only {keep : String → Bool} {definition : SchemaDefinition}
    (kept : ∀ entry ∈ definition.tables, rejection? entry.2 = none → keep entry.1 = true) :
    unlinkedTables (only keep definition) = unlinkedTables definition := by
  rw [unlinkedTables_eq, unlinkedTables_eq, tables_only, List.filter_filter]
  congr 1
  refine List.filter_congr fun entry member => ?_
  simpa using kept entry member

/-- The tables of a definition come in the order of their resources, as its entries do. Those with one
primary key are accepted as they were described, and the others rejected, for having none or several; and
the accepted ones, with their links, are the same if any of the others are left out. -/
theorem tables_are_accepted_or_rejected (naming : Naming) (definition : SchemaDefinition) :
    let extraction := extractTables naming definition
    (Sorted definition.entries →
        definition.tables.Pairwise fun entry later => Text.order entry.1 later.1 = .lt) ∧
      List.Forall₂ (fun entry table => Accepted entry.1 entry.2 table)
        (definition.tables.filter fun entry => rejection? entry.2 = none) extraction.tables ∧
      extraction.rejected = (definition.tables.filterMap fun entry => rejection? entry.2) ∧
      ∀ keep : String → Bool,
        (∀ entry ∈ definition.tables, rejection? entry.2 = none → keep entry.1 = true) →
        (extractTables naming (only keep definition)).tables = extraction.tables := by
  intro extraction
  refine ⟨fun sorted => ?_, ?_, rejected_eq naming definition, ?_⟩
  · refine List.pairwise_filterMap.mpr (sorted.imp ?_)
    rintro ⟨resource, entry⟩ ⟨resource', entry'⟩ before described chosen described' chosen'
    obtain ⟨_, -, rfl⟩ := Option.map_eq_some_iff.mp chosen
    obtain ⟨_, -, rfl⟩ := Option.map_eq_some_iff.mp chosen'
    exact before
  · rw [show extraction.tables = _ from extractTables_eq naming definition, unlinkedTables_eq, List.map_map,
      List.forall₂_map_right_iff, List.forall₂_same]
    intro entry member
    have kept : rejection? entry.2 = none := by simpa using (List.mem_filter.mp member).2
    exact (accepted_ownTable entry.1 kept).apply _
  · intro keep kept
    rw [extractTables_eq, links, unlinkedTables_only kept]
    rfl

/-- Names of people twice, once as the key; notes with an identifier; and tables without a key or with two. -/
def archive : SchemaDefinition :=
  let text : ColumnSpec := ⟨"text", true, false⟩
  let key : ColumnSpec := ⟨"text", false, true⟩
  let people : TableDefinition := ⟨"people", .list [⟨key, "name"⟩, ⟨text, "id"⟩, ⟨text, "name"⟩]⟩
  let notes : TableDefinition := ⟨"notes", .keyed [("id", text), ("said", text)]⟩
  let logs : TableDefinition := ⟨"audit_logs", .list [⟨text, "message"⟩]⟩
  let pairs : TableDefinition := ⟨"pairs", .list [⟨key, "a"⟩, ⟨text, "id"⟩, ⟨key, "b"⟩]⟩
  (((SchemaDefinition.empty.insert "people" people).insert "notes" notes).insert "logs" logs).insert
    "pairs" pairs

theorem people_and_notes_are_accepted :
    Sorted archive.entries ∧
      archive.tables.Pairwise (fun entry later => Text.order entry.1 later.1 = .lt) ∧
      (extractTables .regular archive).rejected =
        [.missingPrimaryKey "audit_logs", .compositePrimaryKey "pairs" ["a", "b"]] ∧
      ∃ notes people, (extractTables .regular archive).tables = [notes, people] ∧
        notes.primaryKey = "id" ∧ people.primaryKey = "name" ∧
        people.columns.map (fun column => (column.name, column.type, column.nullable)) =
          [("name", .text, false), ("id", .text, true)] := by
  have sorted : Sorted archive.entries := by
    simp only [archive, SchemaDefinition.insert]
    exact (((Sorted.insert .nil _ _).insert _ _).insert _ _).insert _ _
  obtain ⟨ordered, accepted, rejected, -⟩ := tables_are_accepted_or_rejected .regular archive
  have fit : ∃ notes ∈ archive.tables, ∃ people ∈ archive.tables,
      archive.tables.filter (fun entry => rejection? entry.2 = none) = [notes, people] ∧
        (marked notes.2).headD "id" = "id" ∧ (marked people.2).headD "id" = "name" ∧
        (firsts people.2.columns.toList).map (fun column =>
          (column.name, ColumnType.ofDeclared column.declaredType, column.nullable)) =
            [("name", .text, false), ("id", .text, true)] := by
    decide +kernel
  obtain ⟨notes, -, people, -, divided, adopted, single, columns⟩ := fit
  rw [divided] at accepted
  obtain ⟨table, _, first, rest, tables⟩ := List.forall₂_cons_left_iff.mp accepted
  obtain ⟨other, _, second, none, rfl⟩ := List.forall₂_cons_left_iff.mp rest
  obtain rfl := List.forall₂_nil_left_iff.mp none
  exact ⟨sorted, ordered sorted, rejected.trans (by decide +kernel), table, other, tables, first.primaryKey.trans adopted,
    second.primaryKey.trans single, second.columns.trans columns⟩

end ResourceQuery.Proofs.AcceptedTables

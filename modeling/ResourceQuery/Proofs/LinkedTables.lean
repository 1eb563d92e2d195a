import ResourceQuery.Schema.Extraction

/-! Linked tables. Each table has a resource of its own, and its relations are those that the links give
it; every link joins a column of one table to the primary key of another, and gives each of the two a
relation that is the converse of the other's. -/

namespace ResourceQuery.Proofs.LinkedTables

def Distinct (definition : SchemaDefinition) : Prop :=
  (definition.entries.map (·.1)).Nodup

instance (definition : SchemaDefinition) : Decidable (Distinct definition) :=
  inferInstanceAs (Decidable (List.Nodup _))

def unlinkedTables (definition : SchemaDefinition) : List Table :=
  acceptedTables (definition.tables.map fun (resource, table) => extractTable resource table)

def links (naming : Naming) (definition : SchemaDefinition) : List Link :=
  Link.all naming (unlinkedTables definition)

theorem extractTables_eq (naming : Naming) (definition : SchemaDefinition) :
    (extractTables naming definition).tables =
      (unlinkedTables definition).map (Link.apply (links naming definition)) := rfl

theorem extractTable_fresh {resource : String} {definition : TableDefinition} {table : Table}
    (extracted : extractTable resource definition = .ok table) :
    table.resource = resource ∧ table.relations = [] := by
  unfold extractTable at extracted
  simp only at extracted
  split at extracted
  next => cases extracted; exact ⟨rfl, rfl⟩
  next =>
    split at extracted
    next => cases extracted; exact ⟨rfl, rfl⟩
    next => cases extracted
  next => cases extracted

variable {naming : Naming} {definition : SchemaDefinition}

theorem mem_unlinkedTables {table : Table} : table ∈ unlinkedTables definition ↔
    ∃ resource described, (resource, described) ∈ definition.tables ∧
      extractTable resource described = .ok table := by
  simp only [unlinkedTables, acceptedTables, List.mem_filterMap, List.mem_map]
  constructor
  · rintro ⟨result, ⟨⟨resource, described⟩, member, rfl⟩, accepted⟩
    cases extracted : extractTable resource described with
    | error reason => rw [extracted] at accepted; cases accepted
    | ok found =>
      rw [extracted] at accepted
      cases accepted
      exact ⟨resource, described, member, extracted⟩
  · rintro ⟨resource, described, member, extracted⟩
    exact ⟨_, ⟨⟨resource, described⟩, member, rfl⟩, by rw [extracted]⟩

theorem relations_unlinked {table : Table} (member : table ∈ unlinkedTables definition) :
    table.relations = [] := by
  obtain ⟨resource, described, -, extracted⟩ := mem_unlinkedTables.mp member
  exact (extractTable_fresh extracted).2

theorem sublist_filterMap {First Second Name : Type} {choose : First → Option Second}
    {name : First → Name} {named : Second → Name}
    (kept : ∀ first second, choose first = some second → named second = name first)
    (list : List First) : ((list.filterMap choose).map named).Sublist (list.map name) := by
  induction list with
  | nil => exact .slnil
  | cons first rest ih =>
    cases chosen : choose first with
    | none =>
      rw [List.filterMap_cons_none chosen]
      exact ih.cons _
    | some second =>
      rw [List.filterMap_cons_some chosen, List.map_cons, kept first second chosen]
      exact ih.cons_cons _

theorem nodup_unlinked (distinct : Distinct definition) :
    ((unlinkedTables definition).map (·.resource)).Nodup := by
  have accepted : ((unlinkedTables definition).map (·.resource)).Sublist
      (definition.tables.map (·.1)) := by
    rw [unlinkedTables, acceptedTables, List.filterMap_map]
    apply sublist_filterMap
    rintro ⟨resource, described⟩ table chosen
    simp only [Function.comp_apply] at chosen
    split at chosen
    next extracted => cases chosen; exact (extractTable_fresh extracted).1
    next => cases chosen
  have recognized : (definition.tables.map (·.1)).Sublist (definition.entries.map (·.1)) := by
    apply sublist_filterMap
    rintro ⟨resource, entry⟩ table chosen
    obtain ⟨described, -, rfl⟩ := Option.map_eq_some_iff.mp chosen
    rfl
  exact distinct.sublist (accepted.trans recognized)

theorem resources_eq (naming : Naming) (definition : SchemaDefinition) :
    (extractTables naming definition).catalog.resources =
      (unlinkedTables definition).map (·.resource) := by
  simp only [Catalog.resources, Extraction.catalog, extractTables_eq, List.map_map]
  rfl

/-- A table is found under its resource, as long as resources are named apart. -/
theorem table?_of_mem (distinct : Distinct definition) {table : Table}
    (member : table ∈ (extractTables naming definition).tables) :
    (extractTables naming definition).catalog.table? table.resource = some table := by
  have nodup : ((extractTables naming definition).tables.map (·.resource)).Nodup := by
    have resources := resources_eq naming definition
    rw [Catalog.resources, Extraction.catalog] at resources
    rw [resources]
    exact nodup_unlinked distinct
  rw [Catalog.table?, Extraction.catalog]
  generalize (extractTables naming definition).tables = tables at member nodup
  induction tables with
  | nil => cases member
  | cons first rest ih =>
    obtain ⟨absent, nodup⟩ := List.nodup_cons.mp nodup
    rcases List.mem_cons.mp member with rfl | member
    · simp
    · have other : first.resource ≠ table.resource := by
        intro same
        exact absent (List.mem_map.mpr ⟨table, member, same.symm⟩)
      rw [List.find?_cons_of_neg (by simpa using other)]
      exact ih member nodup

theorem inferReference?_target {tables : List Table} {column : String} {target : Reference}
    (inferred : inferReference? naming tables column = some target) :
    ∃ table ∈ tables, target = ⟨table.resource, table.primaryKey⟩ := by
  obtain ⟨base, -, found⟩ := Option.bind_eq_some_iff.mp inferred
  obtain ⟨candidate, -, found⟩ := List.exists_of_findSome?_eq_some found
  obtain ⟨table, chosen, same⟩ := Option.map_eq_some_iff.mp found
  exact ⟨table, List.mem_of_find?_eq_some chosen, same.symm⟩

/-- A link leads from a column that is no primary key to the primary key of a table. -/
theorem mem_links {link : Link} : link ∈ links naming definition ↔
    ∃ source ∈ unlinkedTables definition, ∃ column ∈ source.columns, column.isPrimaryKey = false ∧
      inferReference? naming (unlinkedTables definition) column.name = some link.target ∧
      link.source = source.resource ∧ link.column = column.name := by
  simp only [links, Link.all, Link.ofTable, List.mem_flatMap, List.mem_filterMap]
  constructor
  · rintro ⟨source, member, column, listed, linked⟩
    split at linked
    next => cases linked
    next free =>
      obtain ⟨target, inferred, rfl⟩ := Option.map_eq_some_iff.mp linked
      exact ⟨source, member, column, listed, by simpa using free, inferred, rfl, rfl⟩
  · rintro ⟨source, member, column, listed, free, inferred, named, keyed⟩
    refine ⟨source, member, column, listed, ?_⟩
    rw [if_neg (by simp [free]), inferred, Option.map_some, ← named, ← keyed]

theorem mem_relations {table : Table} (member : table ∈ (extractTables naming definition).tables)
    {relation : Relation} : relation ∈ table.relations ↔ ∃ link ∈ links naming definition,
      link.source = table.resource ∧ relation = link.belongsTo ∨
        link.target.table = table.resource ∧ relation = link.hasMany := by
  rw [extractTables_eq] at member
  obtain ⟨unlinked, listed, rfl⟩ := List.mem_map.mp member
  simp only [Link.apply, relations_unlinked listed, List.nil_append, List.mem_flatMap,
    Link.relationsOf, List.mem_append, List.mem_ite_nil_right, List.mem_singleton]

/-- A relation to a table that a column refers to leads to its primary key, and that table has the
converse relation. -/
theorem converse_relation (distinct : Distinct definition) {table : Table} {relation : Relation}
    (member : table ∈ (extractTables naming definition).tables) (related : relation ∈ table.relations)
    (kind : relation.kind = .belongsTo) :
    ∃ other ∈ (extractTables naming definition).tables,
      (extractTables naming definition).catalog.table? relation.relatedTable = some other ∧
        relation.theirKey = other.primaryKey ∧
        ∃ converse ∈ other.relations, converse.kind = .hasMany ∧
          converse.relatedTable = table.resource ∧ converse.ourKey = other.primaryKey ∧
          converse.theirKey = relation.ourKey := by
  obtain ⟨link, linked, ⟨sourced, rfl⟩ | ⟨-, rfl⟩⟩ := (mem_relations member).mp related
  · obtain ⟨-, -, column, -, -, inferred, -⟩ := mem_links.mp linked
    obtain ⟨unlinked, listed, target⟩ := inferReference?_target inferred
    have extracted : Link.apply (links naming definition) unlinked ∈
        (extractTables naming definition).tables := List.mem_map_of_mem listed
    have resource : link.target.table = (Link.apply (links naming definition) unlinked).resource := by
      rw [target]
      rfl
    have primary : link.target.column = (Link.apply (links naming definition) unlinked).primaryKey := by
      rw [target]
      rfl
    refine ⟨_, extracted, ?_, primary, link.hasMany,
      (mem_relations extracted).mpr ⟨link, linked, .inr ⟨resource, rfl⟩⟩, rfl, sourced, primary, rfl⟩
    rw [← table?_of_mem distinct extracted, ← resource]
    rfl
  · cases kind

end ResourceQuery.Proofs.LinkedTables

import Mathlib.Data.List.Nodup
import ResourceQuery.Proofs.LinkedTables

/-! References and relations of linked tables. A column that refers to a table gives its own table one
relation and the other table the converse one, and there are no other relations. This rests on names that
are told apart: those of resources by the definition, and those of a table's columns by its extraction. -/

namespace ResourceQuery.Proofs.RelationClosure
open LinkedTables

/-- Of elements with distinct keys, one is left by a condition that no other key satisfies. -/
theorem filter_eq_singleton {Element Key : Type} {key : Element → Key} {list : List Element}
    (distinct : (list.map key).Nodup) {element : Element} (member : element ∈ list)
    {holds : Element → Bool} (held : holds element = true)
    (only : ∀ other ∈ list, holds other = true → key other = key element) :
    list.filter holds = [element] := by
  induction list with
  | nil => cases member
  | cons first rest ih =>
    obtain ⟨absent, distinct⟩ := List.nodup_cons.mp distinct
    obtain ⟨onlyFirst, onlyRest⟩ := List.forall_mem_cons.mp only
    rcases List.mem_cons.mp member with rfl | inside
    · have others : rest.filter holds = [] := by
        rw [List.filter_eq_nil_iff]
        intro other listed also
        exact absent (List.mem_map.mpr ⟨other, listed, onlyRest other listed also⟩)
      rw [List.filter_cons_of_pos held, others]
    · have fails : ¬ holds first = true := by
        intro also
        exact absent (List.mem_map.mpr ⟨element, inside, (onlyFirst also).symm⟩)
      rw [List.filter_cons_of_neg fails, ih distinct inside onlyRest]

private theorem flatMap_ite {First Second : Type} (holds : First → Prop) [DecidablePred holds]
    (make : First → Second) (list : List First) :
    (list.flatMap fun first => if holds first then [make first] else []) =
      (list.filter (holds ·)).map make := by
  induction list with
  | nil => rfl
  | cons first rest ih =>
    rw [List.flatMap_cons, ih]
    by_cases held : holds first <;> simp [held]

/-- A table as it is extracted: its columns have names of their own, only the primary key is marked as
such, and no column refers to anything yet. -/
structure Fresh (table : Table) : Prop where
  distinct : (table.columns.map (·.name)).Nodup
  keyed : ∀ column ∈ table.columns, column.isPrimaryKey = true ↔ column.name = table.primaryKey
  unlinked : ∀ column ∈ table.columns, column.reference = none

private theorem ofDefinitions_columns (definitions : List ColumnDefinition) :
    ((Column.ofDefinitions definitions).map (·.name)).Nodup ∧
      ∀ column ∈ Column.ofDefinitions definitions, column.reference = none := by
  refine List.foldlRecOn (motive := fun (columns : List Column) =>
    (columns.map (·.name)).Nodup ∧ ∀ column ∈ columns, column.reference = none)
    (definitions.map Column.ofDefinition) Column.addNew ?_ ?_
  · exact ⟨List.nodup_nil, List.forall_mem_nil _⟩
  · rintro columns ⟨distinct, unlinked⟩ added member
    obtain ⟨definition, -, rfl⟩ := List.mem_map.mp member
    rw [Column.addNew]
    split
    next => exact ⟨distinct, unlinked⟩
    next new =>
      constructor
      · rw [List.map_append, List.map_singleton]
        refine distinct.append (List.nodup_singleton _) (List.disjoint_singleton.mpr ?_)
        intro known
        obtain ⟨other, listed, same⟩ := List.mem_map.mp known
        exact new (List.any_eq_true.mpr ⟨other, listed, by simpa using same⟩)
      · intro column member
        rcases List.mem_append.mp member with member | member
        · exact unlinked column member
        · rw [List.mem_singleton.mp member]
          rfl

theorem fresh_of_extractTable {resource : String} {definition : TableDefinition} {table : Table}
    (extracted : extractTable resource definition = .ok table) : Fresh table := by
  obtain ⟨distinct, unlinked⟩ := ofDefinitions_columns definition.columns.toList
  unfold extractTable at extracted
  generalize Column.ofDefinitions definition.columns.toList = columns at *
  simp only at extracted
  split at extracted
  next single flagged =>
    cases extracted
    refine ⟨distinct, ?_, unlinked⟩
    intro column member
    constructor
    · intro marked
      have listed : column.name ∈ (columns.filter (·.isPrimaryKey)).map (·.name) :=
        List.mem_map_of_mem (List.mem_filter.mpr ⟨member, marked⟩)
      rw [flagged] at listed
      exact List.mem_singleton.mp listed
    · rintro rfl
      have listed : column.name ∈ (columns.filter (·.isPrimaryKey)).map (·.name) := by simp [flagged]
      obtain ⟨other, kept, same⟩ := List.mem_map.mp listed
      obtain ⟨known, marked⟩ := List.mem_filter.mp kept
      rwa [← List.inj_on_of_nodup_map distinct known member same]
  next none =>
    split at extracted
    next =>
      cases extracted
      have names : (adoptPrimaryKey "id" columns).map (·.name) = columns.map (·.name) := by
        rw [adoptPrimaryKey, List.map_map]
        apply List.map_congr_left
        intro column _
        simp only [Function.comp_apply]
        split <;> rfl
      refine ⟨names ▸ distinct, ?_, ?_⟩
      · intro column member
        obtain ⟨declared, listed, rfl⟩ := List.mem_map.mp member
        have unmarked : declared.isPrimaryKey = false := by
          have marked := List.filter_eq_nil_iff.mp (List.map_eq_nil_iff.mp none) declared listed
          simpa using marked
        split
        next named => simp [named]
        next other => simp [other, unmarked]
      · intro column member
        obtain ⟨declared, listed, rfl⟩ := List.mem_map.mp member
        split <;> exact unlinked declared listed
    next => cases extracted
  next => cases extracted

section Links

variable {naming : Naming} {definition : SchemaDefinition} {table related : Table} {column : Column}

private theorem fresh_of_mem (member : table ∈ unlinkedTables definition) : Fresh table := by
  obtain ⟨resource, described, -, extracted⟩ := mem_unlinkedTables.mp member
  exact fresh_of_extractTable extracted

def placed (tables : List Table) : List (Table × Column) :=
  tables.flatMap fun table => table.columns.map (table, ·)

def place (placed : Table × Column) : String × String :=
  (placed.1.resource, placed.2.name)

private theorem mem_placed {tables : List Table} {table : Table} {column : Column} :
    (table, column) ∈ placed tables ↔ table ∈ tables ∧ column ∈ table.columns := by
  simp [placed]

private theorem nodup_placed {tables : List Table} (resources : (tables.map (·.resource)).Nodup)
    (columns : ∀ table ∈ tables, (table.columns.map (·.name)).Nodup) :
    ((placed tables).map place).Nodup := by
  rw [placed, List.map_flatMap, List.nodup_flatMap]
  constructor
  · intro table member
    have paired : (table.columns.map (table, ·)).map place =
        (table.columns.map (·.name)).map (table.resource, ·) := by simp [place, Function.comp_def]
    rw [paired]
    exact (columns table member).map fun _ _ same => (Prod.mk.inj same).2
  · refine (List.pairwise_map.mp resources).imp ?_
    intro table other apart
    apply List.disjoint_left.mpr
    intro key here there
    simp only [List.mem_map, exists_exists_and_eq_and, place] at here there
    obtain ⟨column, -, rfl⟩ := here
    obtain ⟨column', -, same⟩ := there
    exact apart (Prod.mk.inj same).1.symm

private theorem links_eq : links naming definition = (placed (unlinkedTables definition)).filterMap
    fun (table, column) =>
      if column.isPrimaryKey then none
      else (inferReference? naming (unlinkedTables definition) column.name).map fun target =>
        ⟨table.resource, column.name, target⟩ := by
  simp only [links, Link.all, placed, List.filterMap_flatMap, List.filterMap_map]
  rfl

private theorem nodup_links (distinct : Distinct definition) :
    ((links naming definition).map fun link => (link.source, link.column)).Nodup := by
  have nodup := nodup_placed (nodup_unlinked distinct) fun table member => (fresh_of_mem member).distinct
  rw [links_eq]
  refine nodup.sublist (sublist_filterMap ?_ _)
  rintro ⟨table, column⟩ link chosen
  simp only at chosen
  split at chosen
  next => cases chosen
  next =>
    obtain ⟨target, -, rfl⟩ := Option.map_eq_some_iff.mp chosen
    rfl

private theorem filter_links (distinct : Distinct definition) {link : Link}
    (linked : link ∈ links naming definition) {holds : Link → Bool} (held : holds link = true)
    (only : ∀ other, holds other = true → other.source = link.source ∧ other.column = link.column) :
    (links naming definition).filter holds = [link] := by
  apply filter_eq_singleton (nodup_links distinct) linked held
  intro other _ also
  obtain ⟨source, column⟩ := only other also
  rw [source, column]

theorem refer_same (links : List Link) (resource : String) (column : Column) :
    (Link.refer links resource column).name = column.name ∧
      (Link.refer links resource column).isPrimaryKey = column.isPrimaryKey := by
  unfold Link.refer
  split <;> exact ⟨rfl, rfl⟩

private theorem reference_refer (distinct : Distinct definition) (unlinked : column.reference = none)
    {target : Reference} {resource : String} :
    (Link.refer (links naming definition) resource column).reference = some target ↔
      ⟨resource, column.name, target⟩ ∈ links naming definition := by
  unfold Link.refer
  constructor
  · intro refers
    split at refers
    next link found =>
      have linked := List.mem_of_find?_eq_some found
      have same := List.find?_some found
      simp only [decide_eq_true_eq] at same
      cases refers
      rwa [← same.1, ← same.2]
    next =>
      rw [unlinked] at refers
      cases refers
  · intro linked
    have only : (links naming definition).filter (fun link =>
        link.source = resource ∧ link.column = column.name) = [⟨resource, column.name, target⟩] :=
      filter_links distinct linked (by simp) (by simp)
    rw [← List.head?_filter, only]
    rfl

end Links

def ownRelations (table : Table) (column : String) : List Relation :=
  table.relations.filter fun relation => relation.kind = .belongsTo ∧ relation.ourKey = column

def converseRelations (table : Table) (source column : String) : List Relation :=
  table.relations.filter fun relation =>
    relation.kind = .hasMany ∧ relation.relatedTable = source ∧ relation.theirKey = column

/-- The columns that refer to a table, as a relation of theirs or of that table says. -/
def origins (tables : List Table) (table : Table) (relation : Relation) : List (Table × Column) :=
  (placed tables).filter fun (source, column) =>
    match relation.kind with
    | .belongsTo => source.resource = table.resource ∧ column.name = relation.ourKey ∧
        column.reference = some ⟨relation.relatedTable, relation.theirKey⟩
    | .hasMany => source.resource = relation.relatedTable ∧ column.name = relation.theirKey ∧
        column.reference = some ⟨table.resource, relation.ourKey⟩

section Relations

variable {naming : Naming} {definition : SchemaDefinition} {table : Table} {column : Column}

private theorem ownRelations_eq (member : table ∈ (extractTables naming definition).tables) (column : String) :
    ownRelations table column = ((links naming definition).filter fun link =>
      link.source = table.resource ∧ link.column = column).map Link.belongsTo := by
  rw [extractTables_eq] at member
  obtain ⟨unlinked, listed, rfl⟩ := List.mem_map.mp member
  simp only [ownRelations, Link.apply, relations_unlinked listed, List.nil_append, List.filter_flatMap,
    ← flatMap_ite]
  congr 1
  funext link
  by_cases here : link.source = unlinked.resource <;>
    by_cases there : link.target.table = unlinked.resource <;>
    simp [Link.relationsOf, Link.belongsTo, Link.hasMany, here, there, List.filter_cons]

private theorem converseRelations_eq (member : table ∈ (extractTables naming definition).tables)
    (source column : String) :
    converseRelations table source column = ((links naming definition).filter fun link =>
      link.target.table = table.resource ∧ link.source = source ∧ link.column = column).map
        Link.hasMany := by
  rw [extractTables_eq] at member
  obtain ⟨unlinked, listed, rfl⟩ := List.mem_map.mp member
  simp only [converseRelations, Link.apply, relations_unlinked listed, List.nil_append,
    List.filter_flatMap, ← flatMap_ite]
  congr 1
  funext link
  by_cases here : link.source = unlinked.resource <;>
    by_cases there : link.target.table = unlinked.resource <;>
    simp [Link.relationsOf, Link.belongsTo, Link.hasMany, here, there, List.filter_cons]

private theorem nodup_extracted (distinct : Distinct definition) :
    ((placed (extractTables naming definition).tables).map place).Nodup := by
  apply nodup_placed
  · have resources := resources_eq naming definition
    rw [Catalog.resources, Extraction.catalog] at resources
    rw [resources]
    exact nodup_unlinked distinct
  · intro table member
    rw [extractTables_eq] at member
    obtain ⟨unlinked, listed, rfl⟩ := List.mem_map.mp member
    have names : ((Link.apply (links naming definition) unlinked).columns.map (·.name)) =
        unlinked.columns.map (·.name) := by
      simp only [Link.apply, List.map_map]
      apply List.map_congr_left
      intro column _
      exact (refer_same _ _ column).1
    rw [names]
    exact (fresh_of_mem listed).distinct

private theorem refers_iff (distinct : Distinct definition)
    (member : table ∈ (extractTables naming definition).tables) (listed : column ∈ table.columns)
    {target : Reference} : column.reference = some target ↔
      ⟨table.resource, column.name, target⟩ ∈ links naming definition := by
  rw [extractTables_eq] at member
  obtain ⟨unlinked, extracted, rfl⟩ := List.mem_map.mp member
  obtain ⟨declared, known, rfl⟩ := List.mem_map.mp listed
  rw [(refer_same _ _ declared).1]
  exact reference_refer distinct ((fresh_of_mem extracted).unlinked declared known)

private theorem source_of_link (distinct : Distinct definition) {link : Link}
    (linked : link ∈ links naming definition) :
    ∃ source ∈ (extractTables naming definition).tables, ∃ column ∈ source.columns,
      source.resource = link.source ∧ column.name = link.column ∧
        column.reference = some link.target ∧ column.isPrimaryKey = false ∧
        column.name ≠ source.primaryKey := by
  obtain ⟨unlinked, extracted, declared, known, free, -, source, name⟩ := mem_links.mp linked
  have member : Link.apply (links naming definition) unlinked ∈
      (extractTables naming definition).tables := List.mem_map_of_mem extracted
  have listed : Link.refer (links naming definition) unlinked.resource declared ∈
      (Link.apply (links naming definition) unlinked).columns := List.mem_map_of_mem known
  obtain ⟨same, marked⟩ := refer_same (links naming definition) unlinked.resource declared
  refine ⟨_, member, _, listed, source.symm, same.trans name.symm, ?_, marked.trans free, ?_⟩
  · rw [refers_iff distinct member listed, same, ← name]
    exact source ▸ linked
  · rw [same]
    intro primary
    have marked := ((fresh_of_mem extracted).keyed declared known).mpr primary
    rw [free] at marked
    cases marked

/-- And it ends at the primary key of a table. -/
theorem target_of_link {link : Link} (linked : link ∈ links naming definition) :
    ∃ related ∈ (extractTables naming definition).tables,
      related.resource = link.target.table ∧ related.primaryKey = link.target.column := by
  obtain ⟨-, -, column, -, -, inferred, -⟩ := mem_links.mp linked
  obtain ⟨unlinked, listed, target⟩ := inferReference?_target inferred
  refine ⟨Link.apply (links naming definition) unlinked, ?_, ?_, ?_⟩
  · rw [extractTables_eq]
    exact List.mem_map_of_mem listed
  · rw [target]
    rfl
  · rw [target]
    rfl

end Relations

/-- Every column that refers to a table gives its own table exactly one relation to that table, and that
table, which may be its own, exactly one relation back; and every relation comes from exactly one such
column. Only accepted tables take part, and no primary keys but as what is referred to. -/
theorem references_are_relations (naming : Naming) {definition : SchemaDefinition}
    (distinct : Distinct definition) :
    let tables := (extractTables naming definition).tables
    (∀ table ∈ tables, ∀ column ∈ table.columns, ∀ target, column.reference = some target →
      column.isPrimaryKey = false ∧ column.name ≠ table.primaryKey ∧
      ∃ related ∈ tables, related.resource = target.table ∧ related.primaryKey = target.column ∧
        (target.table = table.resource → related = table) ∧
        ownRelations table column.name =
          [{ kind := .belongsTo
             name := (foreignKeyBase? column.name).getD column.name
             relatedTable := related.resource
             ourKey := column.name
             theirKey := related.primaryKey }] ∧
        converseRelations related table.resource column.name =
          [{ kind := .hasMany
             name := table.resource
             relatedTable := table.resource
             ourKey := related.primaryKey
             theirKey := column.name }]) ∧
    ∀ table ∈ tables, ∀ relation ∈ table.relations,
      (∃ related ∈ tables, related.resource = relation.relatedTable) ∧
      ∃ origin, origins tables table relation = [origin] := by
  intro tables
  have unique {table other : Table} (member : table ∈ tables) (member' : other ∈ tables)
      (same : table.resource = other.resource) : table = other := by
    have found : (extractTables naming definition).catalog.table? table.resource = some table :=
      table?_of_mem distinct member
    rw [same, table?_of_mem distinct member'] at found
    exact (Option.some.inj found).symm
  constructor
  · intro table member column listed target refers
    have linked := (refers_iff distinct member listed).mp refers
    obtain ⟨source, known, start, inside, resource, name, -, free, unmarked⟩ :=
      source_of_link distinct linked
    have same : (source, start) = (table, column) :=
      List.inj_on_of_nodup_map (nodup_extracted distinct) (mem_placed.mpr ⟨known, inside⟩)
        (mem_placed.mpr ⟨member, listed⟩) (Prod.ext resource name)
    cases same
    obtain ⟨related, member', resource', primary⟩ := target_of_link linked
    refine ⟨free, unmarked, related, member', resource', primary, ?_, ?_, ?_⟩
    · intro itself
      exact unique member' member (resource'.trans itself)
    · rw [ownRelations_eq member, filter_links distinct linked (by simp) (by simp)]
      simp [Link.belongsTo, resource', primary]
    · rw [converseRelations_eq member', filter_links distinct linked (by simp [resource'])]
      · simp [Link.hasMany, primary]
      · intro other also
        exact (of_decide_eq_true also).2
  · intro table member relation related
    obtain ⟨link, linked, known⟩ := (mem_relations member).mp related
    obtain ⟨source, member', column, listed, resource, name, refers, -⟩ := source_of_link distinct linked
    obtain ⟨target, member'', resource', primary⟩ := target_of_link linked
    have single {holds : Table × Column → Bool} (held : holds (source, column) = true)
        (only : ∀ other, holds other = true → other.1.resource = link.source ∧ other.2.name = link.column) :
        (placed tables).filter holds = [(source, column)] := by
      apply filter_eq_singleton (nodup_extracted distinct) (mem_placed.mpr ⟨member', listed⟩) held
      intro other _ also
      obtain ⟨here, there⟩ := only other also
      exact Prod.ext (here.trans resource.symm) (there.trans name.symm)
    rcases known with ⟨own, rfl⟩ | ⟨own, rfl⟩
    · refine ⟨⟨target, member'', resource'⟩, (source, column), single ?_ ?_⟩
      · simp [Link.belongsTo, own, resource, name, refers]
      · intro other also
        obtain ⟨here, there, -⟩ := of_decide_eq_true also
        exact ⟨here.trans own.symm, there⟩
    · refine ⟨⟨source, member', resource⟩, (source, column), single ?_ ?_⟩
      · simp [Link.hasMany, resource, name, refers, ← own]
      · intro other also
        obtain ⟨here, there, -⟩ := of_decide_eq_true also
        exact ⟨here, there⟩

def staff : SchemaDefinition :=
  let column (name : String) : ColumnDefinition := ⟨⟨"integer", true, false⟩, name⟩
  let table (name : String) (columns : List String) : TableDefinition :=
    ⟨name, .list (columns.map column)⟩
  ((SchemaDefinition.empty.insert "users" (table "users" ["id", "userId", "postId"])).insert
    "posts" (table "posts" ["id", "userId", "user_id", "noteId"])).insert "notes" (table "notes" ["text"])

/-- A table that refers to itself has both relations. -/
theorem users_refer_to_users :
    Distinct staff ∧ ∃ users ∈ (extractTables .regular staff).tables, ∃ column ∈ users.columns,
      column.reference = some ⟨"users", "id"⟩ ∧
      ownRelations users "userId" = [⟨.belongsTo, "user", "users", "userId", "id"⟩] ∧
      converseRelations users "users" "userId" = [⟨.hasMany, "users", "users", "id", "userId"⟩] := by
  have distinct : Distinct staff := by decide +kernel
  have fit : ∃ users ∈ (extractTables .regular staff).tables, users.resource = "users" ∧
      ∃ column ∈ users.columns, column.name = "userId" ∧
        foreignKeyBase? column.name = some "user" ∧ column.reference = some ⟨"users", "id"⟩ := by
    decide +kernel
  obtain ⟨users, member, resource, column, listed, name, base, refers⟩ := fit
  obtain ⟨-, -, related, -, named, primary, itself, own, converse⟩ :=
    (references_are_relations .regular distinct).1 users member column listed _ refers
  obtain rfl := itself resource.symm
  rw [base, named, primary, name] at own
  rw [resource, primary, name] at converse
  exact ⟨distinct, related, member, column, listed, refers, own, converse⟩

end ResourceQuery.Proofs.RelationClosure

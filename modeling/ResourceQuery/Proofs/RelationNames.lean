import ResourceQuery.Embed
import ResourceQuery.Proofs.RelationClosure

/-! Names of relations. A relation of ours is called after its foreign key, a relation of theirs after the
table that refers to us, and nothing keeps two relations of a table from having one name. The first of them
then answers to it. -/

namespace ResourceQuery.Proofs.RelationNames
open LinkedTables RelationClosure

/-- What a relation is called: by the base of our foreign key, or by the table whose foreign key it is. -/
def Named (relation : Relation) : Prop :=
  match relation.kind with
  | .belongsTo => foreignKeyBase? relation.ourKey = some relation.name
  | .hasMany => relation.name = relation.relatedTable

def SameButKey (relation other : Relation) : Prop :=
  match relation.kind with
  | .belongsTo => other = { relation with ourKey := other.ourKey }
  | .hasMany => other = { relation with theirKey := other.theirKey }

section Relations

variable {naming : Naming} {definition : SchemaDefinition} {table : Table} {relation other : Relation}

private theorem base_of_link {link : Link} (linked : link ∈ links naming definition) :
    ∃ base, foreignKeyBase? link.column = some base ∧
      inferReference? naming (unlinkedTables definition) link.column = some link.target := by
  obtain ⟨-, -, column, -, -, inferred, -, name⟩ := mem_links.mp linked
  obtain ⟨base, stripped, -⟩ := Option.bind_eq_some_iff.mp inferred
  rw [name]
  exact ⟨base, stripped, inferred⟩

private theorem target_eq_of_base {link link' : Link} (linked : link ∈ links naming definition)
    (linked' : link' ∈ links naming definition)
    (same : foreignKeyBase? link'.column = foreignKeyBase? link.column) :
    link'.target = link.target := by
  obtain ⟨-, -, inferred⟩ := base_of_link linked
  obtain ⟨-, -, inferred'⟩ := base_of_link linked'
  rw [inferReference?] at inferred inferred'
  rw [same, inferred] at inferred'
  exact (Option.some.inj inferred').symm

private theorem primaryKey_of_link (distinct : Distinct definition)
    (member : table ∈ (extractTables naming definition).tables) {link : Link}
    (linked : link ∈ links naming definition) (target : link.target.table = table.resource) :
    link.target.column = table.primaryKey := by
  obtain ⟨related, member', resource, primary⟩ := target_of_link linked
  have found := table?_of_mem distinct member'
  rw [resource, target, table?_of_mem distinct member] at found
  cases found
  exact primary.symm

private theorem named_of_mem (member : table ∈ (extractTables naming definition).tables)
    (related : relation ∈ table.relations) : Named relation := by
  obtain ⟨link, linked, ⟨-, rfl⟩ | ⟨-, rfl⟩⟩ := (mem_relations member).mp related
  · obtain ⟨base, stripped, -⟩ := base_of_link linked
    simp [Named, Link.belongsTo, stripped]
  · rfl

private theorem sameButKey_of_name (distinct : Distinct definition)
    (member : table ∈ (extractTables naming definition).tables) (related : relation ∈ table.relations)
    (related' : other ∈ table.relations) (name : other.name = relation.name)
    (kind : other.kind = relation.kind) : SameButKey relation other := by
  have named := named_of_mem member related
  have named' := named_of_mem member related'
  obtain ⟨link, linked, ⟨-, rfl⟩ | ⟨target, rfl⟩⟩ := (mem_relations member).mp related
  · obtain ⟨link', linked', ⟨-, rfl⟩ | ⟨-, rfl⟩⟩ := (mem_relations member).mp related'
    · have base : foreignKeyBase? link'.column = foreignKeyBase? link.column :=
        named'.trans ((congrArg some name).trans named.symm)
      have target := target_eq_of_base linked linked' base
      simp only [Link.belongsTo] at name
      simp [SameButKey, Link.belongsTo, target, name]
    · cases kind
  · obtain ⟨link', linked', ⟨-, rfl⟩ | ⟨target', rfl⟩⟩ := (mem_relations member).mp related'
    · cases kind
    · have key := primaryKey_of_link distinct member linked target
      have key' := primaryKey_of_link distinct member linked' target'
      have source : link'.source = link.source := name
      simp [SameButKey, Link.hasMany, source, key, key']

end Relations

def First (relation : Relation) (relations : List Relation) : Prop :=
  ∃ before after, relations = before ++ relation :: after ∧ ∀ other ∈ before, other.name ≠ relation.name

private theorem first_iff {relation : Relation} {relations : List Relation} :
    relations.find? (·.name = relation.name) = some relation ↔ First relation relations := by
  rw [List.find?_eq_some_iff_append]
  simp [First]

private theorem findRelation?_name (naming : Naming) (catalog : Catalog) {table : Table} {relation : Relation}
    (related : relation ∈ table.relations) :
    ∃ found ∈ table.relations, found.name = relation.name ∧ First found table.relations ∧
      Embed.findRelation? catalog naming table relation.name = some found := by
  have named : (table.relations.find? (·.name = relation.name)).isSome :=
    List.find?_isSome.mpr ⟨relation, related, by simp⟩
  obtain ⟨found, chosen⟩ := Option.isSome_iff_exists.mp named
  have name : found.name = relation.name := by simpa using List.find?_some chosen
  refine ⟨found, List.mem_of_find?_eq_some chosen, name, ?_, ?_⟩
  · rw [← first_iff, name]
    exact chosen
  · rw [Embed.findRelation?, chosen]

/-- A relation's name finds a relation of that name, which is this one exactly if it is the first. What is
found instead differs in the foreign key alone, or is of the other kind: then a foreign key of ours is
called as the table that refers to us. -/
theorem names_find_first_relations (naming : Naming) {definition : SchemaDefinition}
    (distinct : Distinct definition) :
    let extraction := extractTables naming definition
    ∀ table ∈ extraction.tables, ∀ relation ∈ table.relations, Named relation ∧
      ∃ found ∈ table.relations,
        Embed.findRelation? extraction.catalog naming table relation.name = some found ∧
        found.name = relation.name ∧ (found = relation ↔ First relation table.relations) ∧
        (found.kind = relation.kind → SameButKey relation found) := by
  intro extraction table member relation related
  obtain ⟨found, related', name, first, answered⟩ :=
    findRelation?_name naming extraction.catalog related
  refine ⟨named_of_mem member related, found, related', answered, name, ?_,
    sameButKey_of_name distinct member related related' name⟩
  constructor
  · rintro rfl
    exact first
  · intro first'
    rw [← first_iff] at first first'
    rw [name, first'] at first
    exact (Option.some.inj first).symm

/-- Every relation is found by its name, and no other one instead. -/
def FindsEach (naming : Naming) (definition : SchemaDefinition) : Prop :=
  let extraction := extractTables naming definition
  ∀ table ∈ extraction.tables, ∀ relation ∈ table.relations,
    Embed.findRelation? extraction.catalog naming table relation.name = some relation

instance (naming : Naming) (definition : SchemaDefinition) : Decidable (FindsEach naming definition) :=
  inferInstanceAs (Decidable (∀ table ∈ _, ∀ relation ∈ _, _))

def described (tables : List (String × List String)) : SchemaDefinition :=
  tables.foldl
    (fun definition (name, columns) => definition.insert name
      ⟨name, .list (columns.map fun column => ⟨⟨"integer", true, false⟩, column⟩)⟩)
    .empty

/-- Two foreign keys that are written in two ways, a node that refers to a node, and a foreign key that is
called as the table that refers to its own. -/
theorem relations_hide_others_of_their_name :
    ¬ FindsEach .regular (described [("posts", ["id", "userId", "user_id"]), ("users", ["id"])]) ∧
    ¬ FindsEach .regular (described [("node", ["id", "nodeId"])]) ∧
    ¬ FindsEach .regular (described [("posts", ["id", "userId"]), ("users", ["id", "postsId"])]) := by
  decide +kernel

/-- The user of a post is found by the first of its two foreign keys. -/
theorem first_of_two_users_is_found :
    let definition := described [("posts", ["id", "userId", "user_id"]), ("users", ["id"])]
    let extraction := extractTables .regular definition
    let first : Relation := ⟨.belongsTo, "user", "users", "userId", "id"⟩
    let second : Relation := ⟨.belongsTo, "user", "users", "user_id", "id"⟩
    Distinct definition ∧ ∃ posts ∈ extraction.tables, posts.relations = [first, second] ∧
      Embed.findRelation? extraction.catalog .regular posts "user" = some first ∧
      SameButKey second first := by
  intro definition extraction first second
  have distinct : Distinct definition := by decide +kernel
  have fit : ∃ posts ∈ extraction.tables, posts.relations = [first, second] := by decide +kernel
  obtain ⟨posts, member, relations⟩ := fit
  have related : second ∈ posts.relations := by simp [relations]
  obtain ⟨-, found, related', answered, -, same, alike⟩ :=
    names_find_first_relations .regular distinct posts member second related
  have hidden : ¬ First second posts.relations := by
    rw [← first_iff, relations]
    decide
  rw [relations] at related'
  rcases List.mem_pair.mp related' with rfl | rfl
  · exact ⟨distinct, posts, member, relations, answered, alike rfl⟩
  · exact absurd (same.mp rfl) hidden

end ResourceQuery.Proofs.RelationNames

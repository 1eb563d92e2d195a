import ResourceQuery.Proofs.RelationNames
import ResourceQuery.Proofs.WordForms

/-! Keys for a related table. A key that is no relation's name is looked up by its own forms, which are the
word, its plural and its singular, among the names of the related tables. So a form of a table's name finds
the table only if the name is a form of that form in turn. -/

namespace ResourceQuery.Proofs.RelatedForms
open RelationNames WordForms

def tableNames (catalog : Catalog) (relation : Relation) : List String :=
  Text.lower relation.relatedTable ::
    ((catalog.table? relation.relatedTable).map fun table => Text.lower table.name).toList

def Finds (catalog : Catalog) (naming : Naming) (table : Table) (key : String) : Prop :=
  (Embed.findRelation? catalog naming table key).isSome

/-- The key is the name of a relation of the table, or a form of it other than the name is one of a related
table. -/
def FindsOther (catalog : Catalog) (naming : Naming) (table : Table) (key name : String) : Prop :=
  ∃ relation ∈ table.relations, relation.name = key ∨
    ∃ form ∈ naming.variants key, form ≠ name ∧ form ∈ tableNames catalog relation

instance (catalog : Catalog) (naming : Naming) (table : Table) (key : String) :
    Decidable (Finds catalog naming table key) :=
  inferInstanceAs (Decidable (_ = true))

instance (catalog : Catalog) (naming : Naming) (table : Table) (key name : String) :
    Decidable (FindsOther catalog naming table key name) :=
  inferInstanceAs (Decidable (∃ relation ∈ table.relations, _ ∨ ∃ form ∈ naming.variants key, _))

section Keys

variable {catalog : Catalog} {naming : Naming} {table : Table} {relation : Relation} {key : String}

theorem finds_iff :
    Finds catalog naming table key ↔ ∃ relation ∈ table.relations,
      relation.name = key ∨ ∃ form ∈ naming.variants key, form ∈ tableNames catalog relation := by
  have named (relation : Relation) (form : String) :
      (form = Text.lower relation.relatedTable ∨
        some form = (catalog.table? relation.relatedTable).map fun table => Text.lower table.name) ↔
      form ∈ tableNames catalog relation := by
    rw [tableNames, List.mem_cons, Option.mem_toList, eq_comm (a := some form)]
  rw [Finds, Embed.findRelation?]
  split
  case h_1 found chosen =>
    refine iff_of_true rfl ⟨found, List.mem_of_find?_eq_some chosen, .inl ?_⟩
    simpa using List.find?_some chosen
  case h_2 missed =>
    have other : ∀ relation ∈ table.relations, relation.name ≠ key := by simpa using missed
    rw [List.find?_isSome]
    refine exists_congr fun relation => and_congr_right fun member => ?_
    rw [or_iff_right (other relation member)]
    simp only [List.any_eq_true, decide_eq_true_eq, named]

private theorem finds_iff_of_name (related : relation ∈ table.relations)
    (lower : Text.lower relation.relatedTable = relation.relatedTable) :
    Finds catalog naming table key ↔
      relation.relatedTable ∈ naming.variants key ∨
        FindsOther catalog naming table key relation.relatedTable := by
  have named : relation.relatedTable ∈ tableNames catalog relation := by
    rw [tableNames, lower]
    exact List.mem_cons_self ..
  rw [finds_iff]
  constructor
  · rintro ⟨other, member, name | ⟨form, member', found⟩⟩
    · exact .inr ⟨other, member, .inl name⟩
    · by_cases same : form = relation.relatedTable
      · exact .inl (same ▸ member')
      · exact .inr ⟨other, member, .inr ⟨form, member', same, found⟩⟩
  · rintro (member | ⟨other, member, name | ⟨form, member', -, found⟩⟩)
    · exact ⟨relation, related, .inr ⟨_, member, named⟩⟩
    · exact ⟨other, member, .inl name⟩
    · exact ⟨other, member, .inr ⟨form, member', found⟩⟩

end Keys

/-- A related table is found by its name, and by the plural and the singular of its name exactly if the name
is a form of these in turn or they are another relation's. A regular name is a form of them but for the
endings that lead elsewhere and for irregular words among them; an irregular name is one where no other word
has its partner. -/
theorem related_tables_are_found_by_forms_that_lead_back (pairs : List (String × String))
    (catalog : Catalog) (table : Table) (relation : Relation) (related : relation ∈ table.relations)
    (lower : Text.lower relation.relatedTable = relation.relatedTable) :
    let naming := Naming.ofPairs pairs
    let name := relation.relatedTable
    let plural := naming.pluralize name
    let singular := naming.singularize name
    Finds catalog naming table name ∧
    (Finds catalog naming table plural ↔
      name ∈ naming.variants plural ∨ FindsOther catalog naming table plural name) ∧
    (Finds catalog naming table singular ↔
      name ∈ naming.variants singular ∨ FindsOther catalog naming table singular name) ∧
    (¬ Registered naming name →
      (name ∈ naming.variants plural ↔ ¬ Registered naming plural ∧ ¬ LosesPlural name) ∧
      (name ∈ naming.variants singular ↔ ¬ Registered naming singular ∧ ¬ LosesSingular name)) ∧
    (Registered naming name →
      (OwnPlurals naming → name ∈ naming.variants plural) ∧
      (OwnSingulars naming → name ∈ naming.variants singular)) := by
  intro naming name plural singular
  have itself : name ∈ naming.variants name := (mem_variants lower).mpr (.inl rfl)
  refine ⟨(finds_iff_of_name related lower).mpr (.inl itself), finds_iff_of_name related lower,
    finds_iff_of_name related lower, ?_, ?_⟩
  · intro regular
    exact ⟨mem_variants_pluralize_iff lower regular, mem_variants_singularize_iff lower regular⟩
  · intro registered
    exact ⟨mem_variants_pluralize registered, mem_variants_singularize registered⟩

/-- Every related table with a name in lower case is found by this name, its plural and its singular. -/
def AcceptsForms (naming : Naming) (definition : SchemaDefinition) : Prop :=
  let extraction := extractTables naming definition
  ∀ table ∈ extraction.tables, ∀ relation ∈ table.relations,
    let name := relation.relatedTable
    Text.lower name = name →
      ∀ key ∈ [name, naming.pluralize name, naming.singularize name],
        Finds extraction.catalog naming table key

instance (naming : Naming) (definition : SchemaDefinition) : Decidable (AcceptsForms naming definition) :=
  inferInstanceAs (Decidable (∀ table ∈ _, ∀ relation ∈ _, _ → ∀ key ∈ _, _))

/-- Houses are looked up as the plural of a `hous`, an epoch as that of `epoches`, and people as those of a
person. -/
theorem forms_lead_astray :
    ¬ AcceptsForms .regular (described [("rooms", ["id", "houseId"]), ("house", ["id"])]) ∧
    ¬ AcceptsForms .regular (described [("epochs", ["id", "planetId"]), ("planet", ["id"])]) ∧
    ¬ AcceptsForms (.ofPairs [("person", "people"), ("human", "people")])
      (described [("posts", ["id", "humanId"]), ("human", ["id"])]) := by
  decide +kernel

/-- The user of a post is found by all forms, the house of a room by its own name but not by the plural. -/
theorem users_are_found_and_houses_are_not :
    let naming := Naming.ofPairs [("person", "people")]
    let extraction := extractTables naming (described [("posts", ["id", "userId", "personId"]),
      ("users", ["id"]), ("people", ["id"]), ("rooms", ["id", "houseId"]), ("house", ["id"])])
    (∃ posts ∈ extraction.tables, posts.resource = "posts" ∧
      ∀ key ∈ ["users", "userses", "user", "people", "person"],
        Finds extraction.catalog naming posts key) ∧
    ∃ rooms ∈ extraction.tables, rooms.resource = "rooms" ∧
      Finds extraction.catalog naming rooms "house" ∧
      ¬ Finds extraction.catalog naming rooms "houses" := by
  intro naming extraction
  have fit : (∃ posts ∈ extraction.tables, posts.resource = "posts" ∧
        (∃ users ∈ posts.relations, users.relatedTable = "users") ∧
        ∃ people ∈ posts.relations, people.relatedTable = "people") ∧
      ∃ rooms ∈ extraction.tables, rooms.resource = "rooms" ∧ ∃ house ∈ rooms.relations,
        house.relatedTable = "house" ∧ ¬ FindsOther extraction.catalog naming rooms "houses" "house" := by
    decide +kernel
  obtain ⟨⟨posts, member, resource, ⟨users, related, named⟩, people, related', named'⟩,
    rooms, member', resource', house, related'', named'', other⟩ := fit
  have forms : naming.pluralize "users" = "userses" ∧ naming.singularize "users" = "user" ∧
      naming.singularize "people" = "person" ∧ naming.pluralize "house" = "houses" := by decide +kernel
  obtain ⟨userses, user, person, houses⟩ := forms
  refine ⟨⟨posts, member, resource, ?_⟩, rooms, member', resource', ?_⟩
  · have found := related_tables_are_found_by_forms_that_lead_back [("person", "people")]
      extraction.catalog posts users related (by rw [named]; decide +kernel)
    have found' := related_tables_are_found_by_forms_that_lead_back [("person", "people")]
      extraction.catalog posts people related' (by rw [named']; decide +kernel)
    simp only [named] at found
    simp only [named'] at found'
    obtain ⟨itself, plural, singular, regular, -⟩ := found
    obtain ⟨itself', -, singular', -, irregular⟩ := found'
    obtain ⟨plural_iff, singular_iff⟩ := regular (by decide +kernel)
    have leads := plural_iff.mpr ⟨by decide +kernel, by decide⟩
    have leads' := singular_iff.mpr ⟨by decide +kernel, fun loses => absurd loses.ends (by decide)⟩
    have leads'' := (irregular (by decide +kernel)).2 (by decide +kernel)
    rw [userses] at plural leads
    rw [user] at singular leads'
    rw [person] at singular' leads''
    simp only [List.forall_mem_cons]
    exact ⟨itself, plural.mpr (.inl leads), singular.mpr (.inl leads'), itself',
      singular'.mpr (.inl leads''), List.forall_mem_nil _⟩
  · have found := related_tables_are_found_by_forms_that_lead_back [("person", "people")]
      extraction.catalog rooms house related'' (by rw [named'']; decide +kernel)
    simp only [named''] at found
    obtain ⟨itself, plural, -, regular, -⟩ := found
    have lost : ¬ ("house" ∈ naming.variants "houses" ∨
        FindsOther extraction.catalog naming rooms "houses" "house") := by
      rintro (leads | other')
      · rw [← houses] at leads
        exact ((regular (by decide +kernel)).1.mp leads).2 (.inr (.inl (by decide)))
      · exact other other'
    rw [houses] at plural
    exact ⟨itself, fun found => lost (plural.mp found)⟩

end ResourceQuery.Proofs.RelatedForms

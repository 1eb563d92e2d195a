import ResourceQuery.Naming
import ResourceQuery.Store.Cell
import ResourceQuery.Store.Program

/-!
Attaching related rows. Every key of a request that names a relation adds one property to each row: a
related row or null for a foreign key of ours, a list of rows for a foreign key of theirs. Each key is
resolved against the rows as they were fetched, so keys never see what others attach.
-/

namespace ResourceQuery.Embed

/-- The relation that a key names: by its own name, or else by a form of the related table's name. -/
def findRelation? (catalog : Catalog) (naming : Naming) (table : Table) (key : String) :
    Option Relation :=
  match table.relations.find? (·.name = key) with
  | some relation => some relation
  | none =>
    let variants := naming.variants key
    table.relations.find? fun relation =>
      let logical := (catalog.table? relation.relatedTable).map fun table => Text.lower table.name
      variants.any fun variant =>
        variant = Text.lower relation.relatedTable ∨ some variant = logical

def joinKey? (column : String) (row : Row) : Option String :=
  (row.get column).cellText?

def distinctKeys (column : String) (rows : List Row) : List String :=
  (rows.filterMap (joinKey? column)).eraseDups

def referred (relation : Relation) (related : List Row) (row : Row) : Json :=
  match joinKey? relation.ourKey row with
  | none => .null
  | some key =>
    match related.find? fun other => joinKey? relation.theirKey other = some key with
    | some other => .object other
    | none => .null

def referring (relation : Relation) (related : List Row) (row : Row) : Json :=
  match joinKey? relation.ourKey row with
  | none => .array []
  | some key =>
    .array ((related.filter fun other => joinKey? relation.foreignKey other = some key).map .object)

def attachment (relation : Relation) (related : List Row) (row : Row) : Json :=
  match relation.kind with
  | .belongsTo => referred relation related row
  | .hasMany => referring relation related row

/-- The condition on the related rows: for a foreign key of ours, that their key is among ours. -/
def relatedPredicates (related : Table) (relation : Relation) (keys : List String) :
    List Predicate :=
  match relation.kind with
  | .belongsTo =>
    [⟨relation.theirKey, .isIn, keys.map (.coerce (related.typeOf relation.theirKey))⟩]
  | .hasMany => []

/-- What a relation attaches to each of the rows. The related table is asked once, and only if it
exists and some row has a key. -/
def attachments (catalog : Catalog) (relation : Relation) (rows : List Row) :
    Program (List Json) :=
  let nothing := Program.done (rows.map (attachment relation []))
  match catalog.table? relation.relatedTable with
  | none => nothing
  | some related =>
    match distinctKeys relation.ourKey rows with
    | [] => nothing
    | keys => do
      let fetched ← Program.fetchRelated related (relatedPredicates related relation keys)
      return rows.map (attachment relation fetched)

def collect (catalog : Catalog) (naming : Naming) (table : Table) (rows : List Row) :
    List String → Program (List (String × List Json))
  | [] => return []
  | key :: rest =>
    match findRelation? catalog naming table key with
    | none => collect catalog naming table rows rest
    | some relation => do
      let values ← attachments catalog relation rows
      return (key, values) :: (← collect catalog naming table rows rest)

def attach (rows : List Row) (attached : String × List Json) : List Row :=
  List.zipWith (fun row value => row.insert attached.1 value) rows attached.2

def resolve (catalog : Catalog) (naming : Naming) (table : Table) (rows : List Row)
    (keys : List String) : Program (List Row) := do
  return (← collect catalog naming table rows keys).foldl attach rows

end ResourceQuery.Embed

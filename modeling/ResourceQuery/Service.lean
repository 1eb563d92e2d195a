import ResourceQuery.Embed

/-!
Answering requests: a list of rows with the total that its filters leave, or a single row. A list asks
the store for the rows, then for their number, then for what is to be attached.
-/

namespace ResourceQuery

structure ListResult where
  rows : List Row
  total : Nat
  window : Window
  mode : Mode

/-- The resource or the row that was asked for does not exist. -/
structure NotFound where
  what : String
  deriving DecidableEq, Repr

def NotFound.message (missing : NotFound) : String :=
  "not found: " ++ missing.what

structure Service where
  catalog : Catalog
  naming : Naming

namespace Service

def list (service : Service) (resource : String) (parameters : Parameters) :
    Program (Except NotFound ListResult) :=
  match service.catalog.table? resource with
  | none => return .error ⟨resource⟩
  | some table => do
    let intent := Intent.parse parameters
    let plan := Plan.ofIntent table intent
    let fetched ← Program.fetch table plan.retrieval
    let total ← Program.count table plan.countPredicates
    let rows ← Embed.resolve service.catalog service.naming table fetched intent.embed
    return .ok { rows, total, window := plan.retrieval.window, mode := plan.mode }

/-- The first row whose primary key equals the text, as a value of the key's type. -/
def retrievalOf (table : Table) (id : String) : Retrieval where
  predicates := [⟨table.primaryKey, .eq, [.coerce (table.typeOf table.primaryKey) id]⟩]
  sort := []
  window := ⟨0, some 1⟩

/-- One row by its primary key. Of the parameters only what is to be attached counts. -/
def read (service : Service) (resource id : String) (parameters : Parameters) :
    Program (Except NotFound Row) :=
  match service.catalog.table? resource with
  | none => return .error ⟨resource⟩
  | some table => do
    let fetched ← Program.fetch table (retrievalOf table id)
    match fetched with
    | [] => return .error ⟨resource ++ "/" ++ id⟩
    | first :: others =>
      let keys := (Intent.parse parameters).embed
      let rows ← Embed.resolve service.catalog service.naming table (first :: others) keys
      return .ok (rows.headD first)

end Service

end ResourceQuery

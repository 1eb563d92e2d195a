import ResourceQuery.Filter.Predicate
import ResourceQuery.Request.Window

/-!
Plans: the rows to fetch, and the rows to count, which are the same but for order and window.
-/

namespace ResourceQuery

/-- Which rows to fetch, in which order, and the window of them to keep. -/
structure Retrieval where
  predicates : List Predicate
  sort : List SortField
  window : Window
  deriving DecidableEq

inductive Mode where
  | page (page perPage : Nat)
  | range
  deriving DecidableEq, Repr

structure Plan where
  retrieval : Retrieval
  mode : Mode
  deriving DecidableEq

namespace Plan

def countPredicates (plan : Plan) : List Predicate :=
  plan.retrieval.predicates

def modeOf (pagination : Pagination) : Mode :=
  if pagination.isRange then .range else .page pagination.page pagination.perPage

/-- The plan of a request; columns that the table does not have are not sorted by. -/
def ofIntent (table : Table) (intent : Intent) : Plan where
  retrieval :=
    { predicates := Predicate.ofFilters table intent.filters
      sort := intent.sort.filter fun field => table.hasColumn field.column
      window := .ofPagination intent.pagination }
  mode := modeOf intent.pagination

end Plan

end ResourceQuery

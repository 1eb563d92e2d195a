import ResourceQuery.Store.Cell
import ResourceQuery.Store.Program

/-!
A store in memory, over a document that maps names to lists of rows. Unsorted rows come in document
order. Sorting keeps that order among rows that tie, as long as the rows are in a total preorder; what
a sort makes of other rows is left to the sort.
-/

namespace ResourceQuery

structure Memory where
  collections : List (String × List Row)

namespace Memory

/-- The rows of a collection: those elements that are objects. -/
def collection? (field : String × Json) : Option (String × List Row) :=
  field.2.items?.map fun items => (field.1, items.filterMap Json.fields?)

def ofDocument (document : Json) : Except StoreFailure Memory :=
  match document with
  | .object fields => .ok ⟨fields.filterMap collection?⟩
  | _ => .error (.document "expected a JSON object of collections")

def named? (memory : Memory) (name : String) : Option (List Row) :=
  (memory.collections.find? (·.1 = name)).map (·.2)

/-- The rows of a table, under its own name or else under that of its resource. -/
def rows (memory : Memory) (table : Table) : List Row :=
  (memory.named? table.name <|> memory.named? table.resource).getD []

def filtered (memory : Memory) (table : Table) (predicates : List Predicate) : List Row :=
  (memory.rows table).filter fun row => predicates.all (·.holds row)

end Memory

namespace SortField

def order (field : SortField) (left right : Row) : Ordering :=
  let ascending := (left.get field.column).order (right.get field.column)
  match field.direction with
  | .ascending => ascending
  | .descending => ascending.swap

/-- Rows in the order of the first field in which they differ. -/
def orderAll (fields : List SortField) (left right : Row) : Ordering :=
  match fields with
  | [] => .eq
  | field :: rest => (field.order left right).then (orderAll rest left right)

end SortField

/-- A sort of rows by an order. Where the order is no total preorder of the rows, it may give up. -/
abbrev RowSort (Outcome : Type → Type) := (Row → Row → Ordering) → List Row → Outcome (List Row)

/-- Puts a row into rows given last first, behind all that do not come after it. -/
def insertRow (order : Row → Row → Ordering) (row : Row) : List Row → List Row
  | [] => [row]
  | last :: earlier =>
    if (order row last).isLT then last :: insertRow order row earlier else row :: last :: earlier

def insertRows (order : Row → Row → Ordering) (rows : List Row) : List Row :=
  (rows.foldl (fun sorted row => insertRow order row sorted) []).reverse

section Sorting

variable {Outcome : Type → Type} [Monad Outcome]

/-- Inserts one row after the other, and never gives up. -/
def insertion : RowSort Outcome := fun order rows => pure (insertRows order rows)

/-- Rows sorted by fields. Without fields there is nothing to sort. -/
def sortBy (sort : RowSort Outcome) (fields : List SortField) (rows : List Row) :
    Outcome (List Row) :=
  match fields with
  | [] => pure rows
  | _ :: _ => sort (SortField.orderAll fields) rows

end Sorting

/-- The rows in the order of fields, as insertion sorts them. This is their one order in which those
that tie stay as they were, if the fields put the rows in a total preorder. -/
def sortRows (fields : List SortField) (rows : List Row) : List Row :=
  Id.run (sortBy insertion fields rows)

namespace Window

def take (window : Window) (rows : List Row) : List Row :=
  match window.limit with
  | some limit => (rows.drop window.start).take limit
  | none => rows.drop window.start

end Window

namespace Memory

/-- Answers any call. Only the sort can fail. -/
def answerBy {Outcome : Type → Type} [Monad Outcome] (sort : RowSort Outcome) (memory : Memory) :
    (call : Call) → Outcome call.Answer
  | .fetch table retrieval => do
    let sorted ← sortBy sort retrieval.sort (memory.filtered table retrieval.predicates)
    return retrieval.window.take sorted
  | .count table predicates => return (memory.filtered table predicates).length
  | .fetchRelated table predicates => return memory.filtered table predicates
  | .ping => return ()

/-- Answers any call, sorting by insertion. -/
def answer (memory : Memory) (call : Call) : call.Answer :=
  Id.run (memory.answerBy insertion call)

end Memory

end ResourceQuery

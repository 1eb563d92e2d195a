import ResourceQuery.Postgres.Reply
import ResourceQuery.Schema.Extraction
import ResourceQuery.Sql.Statement

/-!
Definitions read from the database itself. The server lists the columns of all tables of a schema;
each table is then exposed under its own name, with its columns in the order in which they were
listed.
-/

namespace ResourceQuery.Postgres

/-- Lists the columns of the base tables of a schema: table, column, type, whether it may be null, and
whether it is part of the primary key. -/
def columnsStatement (schema : String) : Sql.Statement :=
  [.words "SELECT c.table_name, c.column_name, c.data_type, c.is_nullable = 'YES' AS nullable, ",
    .words "EXISTS (SELECT 1 FROM information_schema.table_constraints tc ",
    .words "JOIN information_schema.key_column_usage k ",
    .words "ON k.constraint_name = tc.constraint_name AND k.table_schema = tc.table_schema ",
    .words "AND k.table_name = tc.table_name WHERE tc.constraint_type = 'PRIMARY KEY' ",
    .words "AND tc.table_schema = c.table_schema AND tc.table_name = c.table_name ",
    .words "AND k.column_name = c.column_name) AS is_pk FROM information_schema.columns c ",
    .words "JOIN information_schema.tables t ON t.table_schema = c.table_schema ",
    .words "AND t.table_name = c.table_name WHERE c.table_schema = ", .bound (.text schema),
    .words " AND t.table_type = 'BASE TABLE' ORDER BY c.table_name, c.ordinal_position"]

structure ListedColumn where
  table : String
  definition : ColumnDefinition
  deriving DecidableEq, Repr

namespace ListedColumn

def ofCells (columns : List ReplyColumn) (cells : List Json) :
    Except DatabaseFault ListedColumn := do
  let table ← Wanted.text.read columns cells 0
  let name ← Wanted.text.read columns cells 1
  let declaredType ← Wanted.text.read columns cells 2
  let nullable ← Wanted.boolean.read columns cells 3
  let primaryKey ← Wanted.boolean.read columns cells 4
  return { table, definition := { name, declaredType, nullable, primaryKey } }

def tableDefinition (listed : List ListedColumn) (table : String) : TableDefinition where
  name := table
  columns := .list ((listed.filter (·.table = table)).map (·.definition))

def schemaDefinition (listed : List ListedColumn) : SchemaDefinition :=
  (listed.map (·.table)).eraseDups.foldl
    (fun definition table => definition.insert table (tableDefinition listed table)) .empty

end ListedColumn

def Reply.decodeDefinition (reply : Reply) : Except DatabaseFault SchemaDefinition :=
  (reply.rows.mapM (ListedColumn.ofCells reply.columns)).map ListedColumn.schemaDefinition

variable {Outcome : Type → Type} [Monad Outcome]

def introspect (connection : Sql.Statement → Outcome (Except DatabaseFault Reply))
    (schema : String) : Outcome (Except SchemaError SchemaDefinition) := do
  let reply ← connection (columnsStatement schema)
  return (reply.bind Reply.decodeDefinition).mapError fun fault => .load fault.message

end ResourceQuery.Postgres

import ResourceQuery.Json.Reader
import ResourceQuery.Postgres.Epoch
import ResourceQuery.Store.Program

/-!
Replies of the server: columns with their types, and rows of cells. A cell comes as a plain value,
with dates and times as counts from the epoch and JSON as its text; the type of its column says what
it means. A cell of a type that is not known here becomes null.
-/

namespace ResourceQuery.Postgres

inductive CellType where
  | integer
  | single
  | double
  | boolean
  | text
  | json
  | date
  | timestamp
  | timestamptz
  | other
  deriving DecidableEq, Repr

def CellType.ofName (name : String) : CellType :=
  match name with
  | "int2" | "int4" | "int8" => integer
  | "float4" => single
  | "float8" => double
  | "bool" => boolean
  | "text" | "varchar" | "bpchar" | "name" | "unknown" | "citext" | "uuid" => text
  | "json" | "jsonb" => json
  | "date" => date
  | "timestamp" => timestamp
  | "timestamptz" => timestamptz
  | _ => other

structure ReplyColumn where
  name : String
  typeName : String
  deriving DecidableEq, Repr

structure Reply where
  columns : List ReplyColumn
  rows : List (List Json)

def Reply.empty : Reply := ⟨[], []⟩

/-- A floating-point cell. Only finite numbers have a JSON form. -/
def realCell (value : Option Number.Binary64) : Json :=
  match value with
  | some value => .number (.real value)
  | none => .null

/-- The JSON form of a cell; a cell that does not agree with the type of its column has none. -/
def decodeCell (type : CellType) (cell : Json) : Json :=
  match type, cell with
  | .integer, .number value => .number value
  | .single, .number value => realCell value.toBinary64.toSingle?
  | .double, .number value => realCell (some value.toBinary64)
  | .boolean, .bool value => .bool value
  | .text, .string value => .string value
  | .json, .string value => (Json.parse? value).getD .null
  | .date, .number (.integer days _) => .string (dateOf days).text
  | .timestamp, .number (.integer count _) => .string (instantOf count).localText
  | .timestamptz, .number (.integer count _) => .string (instantOf count).text
  | _, _ => .null

namespace Reply

/-- A row as an object. Of two columns with one name the later counts. -/
def decodeRow (columns : List ReplyColumn) (cells : List Json) : Row :=
  .ofList <| List.zipWith (fun column cell =>
    (column.name, decodeCell (.ofName column.typeName) cell)) columns cells

def decodeRows (reply : Reply) : List Row :=
  reply.rows.map (decodeRow reply.columns)

def shownType (name : String) : String :=
  if name = "bpchar" then "CHAR" else name.map Char.toUpper

end Reply

/-- A kind of value that a place in a row has to hold, with its name and that of its type for
messages. -/
structure Wanted (Value : Type) where
  name : String
  type : String
  accepts : String → Bool
  read? : Json → Option Value

namespace Wanted

def bigint : Wanted Int where
  name := "i64"
  type := "INT8"
  accepts := (· == "int8")
  read?
    | .number number => number.signed?
    | _ => none

def text : Wanted String where
  name := "alloc::string::String"
  type := "TEXT"
  accepts name := name ∈ ["text", "varchar", "bpchar", "name", "unknown", "citext"]
  read? := Json.string?

def boolean : Wanted Bool where
  name := "bool"
  type := "BOOL"
  accepts := (· == "bool")
  read? := Json.bool?

/-- Reads one place of a row: there has to be such a column, its cell must not be null, and its type
has to be the wanted one. -/
def read {Value : Type} (wanted : Wanted Value) (columns : List ReplyColumn) (cells : List Json)
    (index : Nat) : Except DatabaseFault Value :=
  match columns[index]?, cells[index]? with
  | some column, some cell =>
    if cell.isNull then .error (.unexpectedNull index)
    else if !wanted.accepts column.typeName then
      .error (.mismatchedType index wanted.name wanted.type (Reply.shownType column.typeName))
    else match wanted.read? cell with
      | some value => .ok value
      | none => .error (.unexpectedNull index)
  | _, _ => .error (.noSuchColumn index columns.length)

end Wanted

/-- The number in the first place of the first row; a negative one counts as zero. -/
def Reply.decodeCount (reply : Reply) : Except DatabaseFault Nat :=
  match reply.rows with
  | [] => .error .noRows
  | cells :: _ => (Wanted.bigint.read reply.columns cells 0).map Int.toNat

end ResourceQuery.Postgres

import ResourceQuery.Naming
import ResourceQuery.Number.Numeral
import ResourceQuery.Text.Blank

/-!
Settings of a server, read from named values such as the process environment. A value that is
missing or blank leaves its default; values are trimmed.
-/

namespace ResourceQuery

structure Settings where
  /-- The database to connect to; without one the rows are kept in memory. -/
  databaseUrl : Option String := none
  documentPath : String := "db.json"
  schemaPath : Option String := none
  schemaName : String := "public"
  address : String := "0.0.0.0:3000"
  maxConnections : Nat := 5
  naming : Naming := .regular

namespace Settings

/-- A whole number of 32 bits; a plus sign may stand before it. -/
def word32? (text : String) : Option Nat :=
  let digits := match text.toList with
    | '+' :: rest => rest
    | characters => characters
  (Number.natural? digits).filter (· < 0x100000000)

/-- Reads `person:people, child:children`; pairs without a colon or with an empty side are passed
over. -/
def irregularPlurals (text : String) : Naming :=
  .ofPairs <| (Text.split ',' text).filterMap fun pair =>
    (Text.splitFirst? ':' pair).bind fun (singular, plural) =>
      let singular := Text.trim singular
      let plural := Text.trim plural
      if singular = "" ∨ plural = "" then none else some (singular, plural)

def ofLookup (lookup : String → Option String) : Settings :=
  let value? (name : String) : Option String := ((lookup name).map Text.trim).filter (· != "")
  let defaults : Settings := { }
  { databaseUrl := value? "DATABASE_URL"
    documentPath := (value? "DB_PATH").getD defaults.documentPath
    schemaPath := value? "SCHEMA_PATH"
    schemaName := (value? "PG_SCHEMA").getD defaults.schemaName
    address := (value? "BIND_ADDR").getD defaults.address
    maxConnections :=
      (((value? "MAX_CONNECTIONS").bind word32?).filter (0 < ·)).getD defaults.maxConnections
    naming := ((value? "IRREGULAR_PLURALS").map irregularPlurals).getD defaults.naming }

end Settings

end ResourceQuery

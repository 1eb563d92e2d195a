import ResourceQuery.Text.Basic
import ResourceQuery.Text.Blank
import ResourceQuery.Text.Lower

/-!
Column types. Databases and definitions name the same types in many ways; only six kinds of values
are told apart here, and an unknown name stands for text.
-/

namespace ResourceQuery

inductive ColumnType where
  | integer
  | number
  | boolean
  | text
  | timestamp
  | json
  deriving DecidableEq, Repr

namespace ColumnType

def integerNames : List String :=
  ["int", "tinyint", "int2", "int4", "int8", "integer", "smallint", "bigint", "serial", "bigserial",
    "smallserial"]

def numberNames : List String :=
  ["number", "numeric", "decimal", "real", "float", "float4", "float8", "double",
    "double precision"]

def booleanNames : List String := ["bool", "boolean"]

def jsonNames : List String := ["json", "jsonb", "array", "object"]

def dateNames : List String := ["date", "datetime"]

/-- The part of a declared name that counts: lower case, without parameters in brackets. -/
def baseName (declared : String) : String :=
  Text.trim ((Text.split '(' (Text.lower (Text.trim declared))).headD "")

def ofDeclared (declared : String) : ColumnType :=
  let base := baseName declared
  if base ∈ integerNames then integer
  else if base ∈ numberNames then number
  else if base ∈ booleanNames then boolean
  else if base ∈ jsonNames then json
  else if base ∈ dateNames ∨ (Text.dropOpening? "timestamp" base).isSome then timestamp
  else text

end ColumnType

end ResourceQuery

import ResourceQuery.Request.Parameters
import ResourceQuery.Number.Binary64
import ResourceQuery.Text.Basic
import ResourceQuery.Text.Blank

/-!
What a request asks for: a page or a range of rows, an order, related rows to attach, and filters.
A handful of reserved keys say the first three; every other key is a filter. Nothing here fails: what
cannot be read counts as absent.
-/

namespace ResourceQuery

open ResourceQuery.Number

inductive Direction where
  | ascending
  | descending
  deriving DecidableEq, Repr

structure SortField where
  column : String
  direction : Direction
  deriving DecidableEq, Repr

/-- The place in the rows that is asked for, as read: a page of rows, and bounds that override it. -/
structure Pagination where
  page : Nat := 1
  perPage : Nat := 10
  start : Option Int := none
  stop : Option Int := none
  limit : Option Int := none
  deriving DecidableEq, Repr

def Pagination.isRange (pagination : Pagination) : Bool :=
  pagination.start.isSome || pagination.stop.isSome || pagination.limit.isSome

structure Filter where
  key : String
  value : ParameterValue
  deriving DecidableEq, Repr

structure Intent where
  pagination : Pagination
  sort : List SortField
  embed : List String
  filters : List Filter
  deriving DecidableEq, Repr

namespace Intent

def maxWord : Int := 0x7FFFFFFFFFFFFFFF

def minWord : Int := -0x8000000000000000

def IsWord (value : Int) : Prop :=
  minWord ≤ value ∧ value ≤ maxWord

instance (value : Int) : Decidable (IsWord value) :=
  inferInstanceAs (Decidable (_ ∧ _))

def saturate (value : Int) : Int :=
  max minWord (min value maxWord)

def word? (text : String) : Option Int :=
  (integer? text.toList).filter fun value => decide (IsWord value)

/-- An integer as it stands; any other decimal number rounded to binary64 and then cut to its whole
part. -/
def coerceInteger (text : String) : Option Int :=
  let trimmed := Text.trim text
  word? trimmed <|>
    (Binary64.ofNumeral? trimmed.toList).map fun number => saturate number.truncate

def reserved : List String :=
  ["_page", "_per_page", "_start", "_end", "_limit", "_sort", "_embed"]

def maxPerPage : Int := 100

/-- The trimmed parts of all values, split at commas; blank parts are still there. -/
def tokens (value : ParameterValue) : List String :=
  (value.values.flatMap (Text.split ',')).map Text.trim

/-- A column to sort by: a leading minus reverses the direction, and no column is no field. -/
def sortField? (token : String) : Option SortField :=
  match Text.dropOpening? "-" token with
  | some rest =>
    let column := Text.trim rest
    if column = "" then none else some ⟨column, .descending⟩
  | none => if token = "" then none else some ⟨token, .ascending⟩

def parseSort (value : ParameterValue) : List SortField :=
  (tokens value).filterMap sortField?

/-- The keys of related rows, each once, in the order of first occurrence. -/
def parseEmbed (value : ParameterValue) : List String :=
  ((tokens value).filter (· != "")).eraseDups

def parsePagination (parameters : Parameters) : Pagination :=
  let number (key : String) : Option Int :=
    (parameters.get? key).bind fun value => coerceInteger value.first
  { page := ((number "_page").map fun value => (max value 1).toNat).getD 1
    perPage := ((number "_per_page").map fun value => (max 1 (min value maxPerPage)).toNat).getD 10
    start := number "_start"
    stop := number "_end"
    limit := number "_limit" }

def parse (parameters : Parameters) : Intent where
  pagination := parsePagination parameters
  sort := ((parameters.get? "_sort").map parseSort).getD []
  embed := ((parameters.get? "_embed").map parseEmbed).getD []
  filters := (parameters.entries.filter fun (key, _) => key ∉ reserved).map fun (key, value) =>
    ⟨key, value⟩

end Intent

end ResourceQuery

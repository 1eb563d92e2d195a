import ResourceQuery.Json.Number
import ResourceQuery.Text.Basic

/-!
JSON values. An object is a list of fields; fields are put in by key order, and the first field of
a key is the one that counts, so putting a field in changes that key and no other.
-/

namespace ResourceQuery

inductive Json where
  | null
  | bool (value : Bool)
  | number (value : Json.Number)
  | string (value : String)
  | array (items : List Json)
  | object (fields : List (String × Json))

abbrev Fields := List (String × Json)

namespace Json

instance : Inhabited Json := ⟨null⟩

def isNull : Json → Bool
  | null => true
  | _ => false

def items? : Json → Option (List Json)
  | array items => some items
  | _ => none

def fields? : Json → Option Fields
  | object fields => some fields
  | _ => none

def string? : Json → Option String
  | string value => some value
  | _ => none

def bool? : Json → Option Bool
  | bool value => some value
  | _ => none

def ofInt (value : Int) : Json :=
  number (.ofInt value)

end Json

namespace Fields

def get? (fields : Fields) (key : String) : Option Json :=
  match fields with
  | [] => none
  | (first, value) :: rest => if first = key then some value else get? rest key

def get (fields : Fields) (key : String) : Json :=
  (fields.get? key).getD .null

/-- Puts a field in its place, over the field of the same key if there is one. -/
def insert (fields : Fields) (key : String) (value : Json) : Fields :=
  match fields with
  | [] => [(key, value)]
  | (first, old) :: rest =>
    match Text.order key first with
    | .lt => (key, value) :: (first, old) :: rest
    | .eq => (key, value) :: rest
    | .gt => (first, old) :: insert rest key value

/-- The fields in key order; of two with one key the later counts. -/
def ofList (fields : List (String × Json)) : Fields :=
  fields.foldl (fun sorted (key, value) => insert sorted key value) []

theorem get?_insert (fields : Fields) (key other : String) (value : Json) :
    (fields.insert key value).get? other = if key = other then some value else fields.get? other := by
  induction fields with
  | nil => simp [insert, get?]
  | cons field rest ih =>
    obtain ⟨first, old⟩ := field
    simp only [insert]
    split
    case h_1 => simp [get?]
    case h_2 found =>
      have := Text.order_eq_iff.mp found
      subst this
      simp only [get?]
      split <;> rfl
    case h_3 found =>
      have apart : key ≠ first := by
        rintro rfl
        simp [Text.order_eq_iff.mpr rfl] at found
      simp only [get?, ih]
      split
      case isTrue same => simp [same ▸ apart]
      case isFalse => rfl

private theorem insert_comm_of_lt (fields : Fields) {key other : String} (less : Text.order key other = .lt)
    (value otherValue : Json) :
    (fields.insert key value).insert other otherValue =
      (fields.insert other otherValue).insert key value := by
  have greater : Text.order other key = .gt := Std.OrientedCmp.gt_of_lt less
  induction fields with
  | nil => simp [insert, less, greater]
  | cons field rest ih =>
    obtain ⟨first, old⟩ := field
    cases place : Text.order other first with
    | lt =>
      have before : Text.order key first = .lt := Std.TransCmp.lt_trans less place
      simp [insert, place, before, less, greater]
    | eq =>
      obtain rfl := Text.order_eq_iff.mp place
      simp [insert, place, less, greater]
    | gt => cases found : Text.order key first <;> simp [insert, place, found, greater, ih]

/-- Fields of different keys can be put in in any order. -/
theorem insert_comm (fields : Fields) {key other : String} (apart : key ≠ other)
    (value otherValue : Json) :
    (fields.insert key value).insert other otherValue =
      (fields.insert other otherValue).insert key value := by
  cases found : Text.order key other with
  | lt => exact insert_comm_of_lt fields found value otherValue
  | eq => exact absurd (Text.order_eq_iff.mp found) apart
  | gt => exact (insert_comm_of_lt fields (Std.OrientedCmp.lt_of_gt found) otherValue value).symm

end Fields

end ResourceQuery

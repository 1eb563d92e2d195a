/-!
Query parameters. A key keeps its place of first occurrence, and all its values in the order they
arrived; a key that occurred once is told apart from one that was repeated.
-/

namespace ResourceQuery

inductive ParameterValue where
  | one (value : String)
  | many (values : List String)
  deriving DecidableEq, Repr

namespace ParameterValue

def values : ParameterValue → List String
  | one value => [value]
  | many values => values

/-- The value that counts where only one can. -/
def first (value : ParameterValue) : String :=
  value.values.headD ""

def push (value : ParameterValue) (next : String) : ParameterValue :=
  many (value.values ++ [next])

end ParameterValue

/-- Keys with their values, in the order of first occurrence. -/
structure Parameters where
  entries : List (String × ParameterValue)
  deriving DecidableEq, Repr

namespace Parameters

def empty : Parameters := ⟨[]⟩

def isEmpty (parameters : Parameters) : Bool :=
  parameters.entries.isEmpty

def get? (parameters : Parameters) (key : String) : Option ParameterValue :=
  (parameters.entries.find? (·.1 = key)).map (·.2)

/-- Adds a value to its key's, or the key at the end when it is new. -/
def pushEntry (key value : String) : List (String × ParameterValue) → List (String × ParameterValue)
  | [] => [(key, .one value)]
  | (first, values) :: rest =>
    if first = key then (first, values.push value) :: rest
    else (first, values) :: pushEntry key value rest

def push (parameters : Parameters) (key value : String) : Parameters :=
  ⟨pushEntry key value parameters.entries⟩

def ofPairs (pairs : List (String × String)) : Parameters :=
  pairs.foldl (fun parameters (key, value) => parameters.push key value) empty

end Parameters

end ResourceQuery

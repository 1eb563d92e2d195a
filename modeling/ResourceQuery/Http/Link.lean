import ResourceQuery.Number.Numeral
import ResourceQuery.Text.Basic

/-!
Links from a page of a list to others: the first, the last, and the neighbours that exist. A link
repeats the request's path and query as they were written, with the page keys replaced.
-/

namespace ResourceQuery.Http

/-- The number of the last page. There always is a first page, so it is at least one. -/
def lastPage (total perPage : Nat) : Nat :=
  if perPage = 0 then 1 else max ((total + perPage - 1) / perPage) 1

def pageKeys : List String := ["_page", "_per_page"]

def rawKey (piece : String) : String :=
  String.ofList (piece.toList.takeWhile (· != '='))

def keptPairs (query : String) : List String :=
  (Text.split '&' query).filter fun piece => piece != "" && rawKey piece ∉ pageKeys

def pageTarget (path query : String) (perPage page : Nat) : String :=
  let pairs := keptPairs query ++
    ["_page=" ++ Number.integerText page, "_per_page=" ++ Number.integerText perPage]
  path ++ "?" ++ Text.join "&" pairs

def linkedPages (page last : Nat) : List (String × Nat) :=
  [("first", 1)] ++ (if 1 < page then [("prev", min (page - 1) last)] else []) ++
    (if page < last then [("next", page + 1)] else []) ++ [("last", last)]

def linkText (path query : String) (page perPage total : Nat) : String :=
  Text.join ", " <| (linkedPages page (lastPage total perPage)).map fun (name, linked) =>
    "<" ++ pageTarget path query perPage linked ++ ">; rel=\"" ++ name ++ "\""

end ResourceQuery.Http

import ResourceQuery.Http.Link
import ResourceQuery.Json.Writer
import ResourceQuery.Service

/-!
Responses to requests. Bodies are JSON, but for a path that cannot be decoded; a list carries its
total, and a page carries links to other pages.
-/

namespace ResourceQuery.Http

structure Response where
  status : Nat
  contentType : Option String := none
  totalCount : Option Nat := none
  link : Option String := none
  allow : Option String := none
  body : String := ""
  deriving DecidableEq, Repr

def isHeaderValue (text : String) : Bool :=
  text.toList.all fun character =>
    character == '\t' || (0x20 ≤ character.toNat && character.toNat != 0x7F)

/-- The links of a list, when it was asked for as a page. -/
def listLink (path : String) (query : Option String) (mode : Mode) (total : Nat) : Option String :=
  match mode with
  | .page page perPage => some (linkText path (query.getD "") page perPage total)
  | .range => none

namespace Response

def json (status : Nat) (value : Json) : Response :=
  { status, contentType := some "application/json", body := value.text }

/-- Links that are no legal header are left out. -/
def list (rows : List Row) (total : Nat) (link : Option String) : Response :=
  { json 200 (.array (rows.map .object)) with
    totalCount := some total
    link := link.filter isHeaderValue }

def row (row : Row) : Response :=
  json 200 (.object row)

def error (status : Nat) (code message : String) : Response :=
  json status (.object [("error", .object [("code", .string code), ("message", .string message)])])

def notFound (missing : NotFound) : Response :=
  error 404 "not_found" missing.message

def storeFailure (failure : StoreFailure) : Response :=
  error 500 "store_error" failure.message

def undecodable (parameter : String) : Response where
  status := 400
  contentType := some "text/plain; charset=utf-8"
  body := "Invalid URL: Invalid UTF-8 in `" ++ parameter ++ "`"

def health : Response :=
  json 200 (.object [("status", .string "ok")])

def version : Response :=
  json 200 (.object [("name", .string "relay-rest"), ("version", .string "0.1.0")])

def ready (resources : Nat) : Response :=
  json 200 (.object [("status", .string "ok"), ("store", .string "ok"),
    ("resources", .ofInt resources)])

def degraded (resources : Nat) : Response :=
  json 503 (.object [("status", .string "degraded"), ("store", .string "unavailable"),
    ("resources", .ofInt resources)])

def noRoute : Response where
  status := 404

def wrongMethod : Response where
  status := 405
  allow := some "GET,HEAD"

def withoutBody (response : Response) : Response :=
  { response with body := "" }

end Response

end ResourceQuery.Http

import ResourceQuery.Http.Percent
import ResourceQuery.Http.Response
import ResourceQuery.Http.Target

/-!
The routes of the server and what they answer. A failing store makes a request for rows fail as a
whole; only the readiness check reports it in its own way.
-/

namespace ResourceQuery.Http

inductive Route where
  | health
  | ready
  | version
  /-- The rows of a resource; the segment is still encoded. -/
  | list (resource : String)
  | read (resource id : String)
  deriving DecidableEq, Repr

/-- The route of a path. The fixed routes win over a resource of the same name. The last segment has
at least one character, but the resource of a row may be without a name. -/
def Route.ofPath? (path : String) : Option Route :=
  match Text.split '/' path with
  | ["", "health"] => some health
  | ["", "ready"] => some ready
  | ["", "version"] => some version
  | ["", resource] => if resource = "" then none else some (list resource)
  | ["", resource, id] => if id = "" then none else some (read resource id)
  | _ => none

/-- Runs a program against a store whose calls can fail, up to the first failure. -/
def attempt {Outcome : Type → Type} [Monad Outcome] {Result : Type}
    (store : (call : Call) → Outcome (Except StoreFailure call.Answer)) (program : Program Result) :
    Outcome (Except StoreFailure Result) :=
  (program.run fun call => ExceptT.mk (store call) : ExceptT StoreFailure Outcome Result).run

def listResponse (target : Target) : Except StoreFailure (Except NotFound ListResult) → Response
  | .ok (.ok result) =>
    .list result.rows result.total (listLink target.path target.query result.mode result.total)
  | .ok (.error missing) => .notFound missing
  | .error failure => .storeFailure failure

def readResponse : Except StoreFailure (Except NotFound Row) → Response
  | .ok (.ok row) => .row row
  | .ok (.error missing) => .notFound missing
  | .error failure => .storeFailure failure

def readyResponse (resources : Nat) : Except StoreFailure Unit → Response
  | .ok _ => .ready resources
  | .error _ => .degraded resources

variable {Outcome : Type → Type} [Monad Outcome]

def answerRoute (service : Service)
    (store : (call : Call) → Outcome (Except StoreFailure call.Answer)) (target : Target)
    (route : Route) : Outcome Response :=
  let parameters := Parameters.ofPairs (decodeQuery (target.query.getD ""))
  match route with
  | .health => return .health
  | .version => return .version
  | .ready => return readyResponse service.catalog.tables.length (← attempt store Program.ping)
  | .list resource =>
    match decodeSegment? resource with
    | none => return .undecodable "resource"
    | some resource =>
      return listResponse target (← attempt store (service.list resource parameters))
  | .read resource id =>
    match decodeSegment? resource, decodeSegment? id with
    | none, _ => return .undecodable "resource"
    | _, none => return .undecodable "id"
    | some resource, some id =>
      return readResponse (← attempt store (service.read resource id parameters))

/-- The answer to a request. A request for the headers is answered as one for the whole, without the
body. -/
def answer (service : Service)
    (store : (call : Call) → Outcome (Except StoreFailure call.Answer)) (method : String)
    (target : Target) : Outcome Response :=
  match Route.ofPath? target.path with
  | none => return .noRoute
  | some route =>
    if method = "GET" then answerRoute service store target route
    else if method = "HEAD" then return (← answerRoute service store target route).withoutBody
    else return .wrongMethod

end ResourceQuery.Http

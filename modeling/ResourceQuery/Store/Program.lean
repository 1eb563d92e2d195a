import ResourceQuery.Json.Value
import ResourceQuery.Plan

/-!
Programs that ask a store. A program either is done or makes one call and goes on with the answer, so
what a request does to a store can be seen apart from any store. A store answers calls one after
another; the first failure ends the program.
-/

namespace ResourceQuery

/-- A row: the names of its columns with their cells. -/
abbrev Row := Fields

inductive DatabaseFault where
  | closedPool
  | server (text : String)
  | noRows
  | noSuchColumn (index count : Nat)
  | mismatchedType (index : Nat) (wantedType wanted found : String)
  | unexpectedNull (index : Nat)
  deriving DecidableEq, Repr

inductive StoreFailure where
  | database (fault : DatabaseFault)
  | document (reason : String)
  deriving DecidableEq, Repr

def DatabaseFault.message : DatabaseFault → String
  | closedPool => "attempted to acquire a connection on a closed pool"
  | server text => "error returned from database: " ++ text
  | noRows => "no rows returned by a query that expected to return at least one row"
  | noSuchColumn index count =>
    "column index out of bounds: the len is " ++ Number.integerText count ++
      ", but the index is " ++ Number.integerText index
  | mismatchedType index wantedType wanted found =>
    "error occurred while decoding column " ++ Number.integerText index ++
      ": mismatched types; Rust type `" ++ wantedType ++ "` (as SQL type `" ++ wanted ++
      "`) is not compatible with SQL type `" ++ found ++ "`"
  | unexpectedNull index =>
    "error occurred while decoding column " ++ Number.integerText index ++
      ": unexpected null; try decoding as an `Option`"

def StoreFailure.message : StoreFailure → String
  | database fault => "database: " ++ fault.message
  | document reason => "document: " ++ reason

inductive Call where
  /-- The rows of a plan. -/
  | fetch (table : Table) (retrieval : Retrieval)
  | count (table : Table) (predicates : List Predicate)
  /-- All rows that satisfy the predicates, to be attached to others. -/
  | fetchRelated (table : Table) (predicates : List Predicate)
  | ping
  deriving DecidableEq

abbrev Call.Answer : Call → Type
  | fetch _ _ | fetchRelated _ _ => List Row
  | count _ _ => Nat
  | ping => Unit

inductive Program (Result : Type) where
  | done (result : Result)
  | ask (call : Call) (next : call.Answer → Program Result)

namespace Program

variable {First Second : Type}

def bind (program : Program First) (next : First → Program Second) : Program Second :=
  match program with
  | done result => next result
  | ask call rest => ask call fun answer => (rest answer).bind next

instance : Monad Program where
  pure := done
  bind := bind

def fetch (table : Table) (retrieval : Retrieval) : Program (List Row) :=
  ask (.fetch table retrieval) done

def count (table : Table) (predicates : List Predicate) : Program Nat :=
  ask (.count table predicates) done

def fetchRelated (table : Table) (predicates : List Predicate) : Program (List Row) :=
  ask (.fetchRelated table predicates) done

def ping : Program Unit :=
  ask .ping done

/-- Runs a program against a store, which answers in any monad: one with failures, with a state, or
with a record of the calls. -/
def run {Outcome : Type → Type} [Monad Outcome] (store : (call : Call) → Outcome call.Answer) :
    Program First → Outcome First
  | done result => pure result
  | ask call next => do run store (next (← store call))

end Program

end ResourceQuery

import ResourceQuery.Postgres.Parameter
import ResourceQuery.Postgres.Reply
import ResourceQuery.Sql.Query

/-!
A store over a database connection. Every call is one statement, and its answer is read from the
reply to that statement alone.
-/

namespace ResourceQuery.Postgres

/-- The statement that asks the database what a call asks the store. -/
def statementOf (schema : String) : Call → Sql.Statement
  | .fetch table retrieval => Sql.select schema table retrieval
  | .count table predicates => Sql.count schema table predicates
  | .fetchRelated table predicates => Sql.selectFiltered schema table predicates
  | .ping => [.words "SELECT 1"]

def parametersOf (statement : Sql.Statement) : List Parameter :=
  statement.operands.map .ofOperand

def decodeAnswer : (call : Call) → Reply → Except DatabaseFault call.Answer
  | .fetch _ _, reply | .fetchRelated _ _, reply => .ok reply.decodeRows
  | .count _ _, reply => reply.decodeCount
  | .ping, _ => .ok ()

variable {Outcome : Type → Type} [Monad Outcome]

/-- Answers calls over a connection, which takes statements and fails when the server does. -/
def answer (connection : Sql.Statement → Outcome (Except DatabaseFault Reply)) (schema : String)
    (call : Call) : Outcome (Except StoreFailure call.Answer) := do
  let reply ← connection (statementOf schema call)
  return (reply.bind (decodeAnswer call)).mapError .database

end ResourceQuery.Postgres

import ResourceQuery.Json.Reader

/-!
Documents: JSON texts that hold an object. Definitions and collections of rows are kept in files of
this form.
-/

namespace ResourceQuery

inductive DocumentFailure where
  | unreadable
  | invalidJson
  | notAnObject
  deriving DecidableEq, Repr

/-- The fields of a document, from its text if that can be read. -/
def readDocument (text : Option String) : Except DocumentFailure Fields :=
  match text with
  | none => .error .unreadable
  | some text =>
    match Json.parse? text with
    | none => .error .invalidJson
    | some (.object fields) => .ok fields
    | some _ => .error .notAnObject

end ResourceQuery

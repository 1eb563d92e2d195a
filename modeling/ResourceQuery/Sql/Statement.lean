import ResourceQuery.Filter.Operand

/-!
SQL statements as pieces: fixed words, names, and bound operands. Only the words are written as they
stand. A name is written in quotes, and an operand never appears in the text: its place is taken by a
numbered placeholder, and the operands are handed over in the order of the numbers.
-/

namespace ResourceQuery.Sql

inductive Piece where
  | words (text : String)
  | name (identifier : String)
  | bound (operand : Operand)
  deriving DecidableEq

abbrev Statement := List Piece

/-- A name in quotes; a quote inside it is written twice. -/
def quoted (identifier : String) : List Char :=
  '"' :: identifier.toList.flatMap (fun letter => if letter = '"' then ['"', '"'] else [letter]) ++
    ['"']

namespace Statement

/-- The text of the pieces, with placeholders numbered from the given number on. -/
def charactersFrom (next : Nat) : Statement → List Char
  | [] => []
  | .words text :: rest => text.toList ++ charactersFrom next rest
  | .name identifier :: rest => quoted identifier ++ charactersFrom next rest
  | .bound _ :: rest => '$' :: Number.digits next ++ charactersFrom (next + 1) rest

def text (statement : Statement) : String :=
  String.ofList (statement.charactersFrom 1)

def operands (statement : Statement) : List Operand :=
  statement.filterMap fun
    | .bound operand => some operand
    | _ => none

end Statement

end ResourceQuery.Sql

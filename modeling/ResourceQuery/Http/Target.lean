/-!
Request targets: a path with a query, possibly after a scheme and an authority, or an authority alone.
Only the path and the query matter here, but whatever else is there has to be well formed. A fragment
is dropped.
-/

namespace ResourceQuery.Http

structure Target where
  path : String
  query : Option String
  deriving DecidableEq, Repr

namespace Target

def isPathCharacter (character : Char) : Bool :=
  let code := character.toNat
  code == 0x21 || code == 0x22 || (0x24 ≤ code && code ≤ 0x3B) || code == 0x3D ||
    (0x40 ≤ code && code ≤ 0x5F) || (0x61 ≤ code && code != 0x7F)

def isQueryCharacter (character : Char) : Bool :=
  let code := character.toNat
  code == 0x21 || (0x24 ≤ code && code ≤ 0x3B) || code == 0x3D || (0x3F ≤ code && code != 0x7F)

def isAuthorityCharacter (character : Char) : Bool :=
  character.isAlphanum || character ∈
    ['!', '$', '&', '\'', '(', ')', '*', '+', ',', '-', '.', ';', '=', '_', '~']

/-- What has been seen of an authority. Whatever an at sign or a closing bracket ends is forgotten. -/
structure AuthorityScan where
  colons : Nat := 0
  opened : Bool := false
  closed : Bool := false
  percent : Bool := false
  endsInAt : Bool := false

def AuthorityScan.step? (scan : AuthorityScan) (character : Char) : Option AuthorityScan :=
  match character with
  | ':' => if 8 ≤ scan.colons then none
    else some { scan with colons := scan.colons + 1, endsInAt := false }
  | '[' => if scan.percent || scan.opened then none
    else some { scan with opened := true, endsInAt := false }
  | ']' => if !scan.opened || scan.closed then none
    else some { scan with closed := true, colons := 0, percent := false, endsInAt := false }
  | '@' => some { scan with colons := 0, percent := false, endsInAt := true }
  | '%' => some { scan with percent := true, endsInAt := false }
  | _ => if isAuthorityCharacter character then some { scan with endsInAt := false } else none

def AuthorityScan.accepts (scan : AuthorityScan) : Bool :=
  scan.opened == scan.closed && scan.colons ≤ 1 && !scan.endsInAt && !scan.percent

def isAuthority (characters : List Char) : Bool :=
  match characters.foldlM AuthorityScan.step? { } with
  | some scan => scan.accepts
  | none => false

def endsAuthority (character : Char) : Bool :=
  character == '/' || character == '?' || character == '#'

def isSchemeCharacter (character : Char) : Bool :=
  character.isAlphanum || character ∈ ['+', '-', '.', '~']

def afterScheme? (characters : List Char) : Option (List Char) :=
  if characters.length ≤ 3 then none
  else match characters.dropWhile isSchemeCharacter with
    | ':' :: '/' :: '/' :: rest => some rest
    | _ => none

def maxScheme : Nat := 64

def maxLength : Nat := 65534

/-- A path and a query. A path without any character is the root. -/
def pathAndQuery? (characters : List Char) : Option Target :=
  let kept := characters.takeWhile (· != '#')
  let path := kept.takeWhile (· != '?')
  let queried := kept.dropWhile (· != '?')
  if path.all isPathCharacter && (queried.drop 1).all isQueryCharacter then
    some ⟨if path.isEmpty then "/" else String.ofList path,
      if queried.isEmpty then none else some (String.ofList (queried.drop 1))⟩
  else none

def absolute? (characters : List Char) : Option Target :=
  match afterScheme? characters with
  | none => if isAuthority characters then some ⟨"", none⟩ else none
  | some rest =>
    let authority := rest.takeWhile (!endsAuthority ·)
    if (characters.takeWhile isSchemeCharacter).length ≤ maxScheme && !authority.isEmpty &&
        isAuthority authority then
      pathAndQuery? (rest.dropWhile (!endsAuthority ·))
    else none

def parse? (text : String) : Option Target :=
  if maxLength < text.utf8ByteSize then none
  else match text.toList with
    | [] => none
    | ['*'] => some ⟨"*", none⟩
    | '/' :: rest => pathAndQuery? ('/' :: rest)
    | characters => absolute? characters

end Target

end ResourceQuery.Http

import ResourceQuery.Text.Basic
import ResourceQuery.Text.Lower

/-!
Names in the singular and the plural. Regular words follow the endings of English; irregular pairs
have to be registered, and nothing is guessed for them. All names come out in lower case.
-/

namespace ResourceQuery

/-- The irregular words, as pairs of a singular and a plural, both in lower case. -/
structure Naming where
  irregular : List (String × String)

namespace Naming

def regular : Naming := ⟨[]⟩

def withIrregular (naming : Naming) (singular plural : String) : Naming :=
  ⟨naming.irregular ++ [(Text.lower singular, Text.lower plural)]⟩

def ofPairs (pairs : List (String × String)) : Naming :=
  pairs.foldl (fun naming (singular, plural) => naming.withIrregular singular plural) regular

def isVowel (letter : Char) : Bool :=
  letter ∈ ['a', 'e', 'i', 'o', 'u']

def endsInConsonant (word : String) : Bool :=
  match word.toList.getLast? with
  | some letter => !isVowel letter
  | none => false

/-- What stands before a final `y` that follows a consonant. -/
def consonantStem? (word : String) : Option String :=
  (Text.dropEnding? "y" word).filter endsInConsonant

def sibilants : List String := ["s", "x", "z", "ch", "sh"]

def regularPlural (word : String) : String :=
  match consonantStem? word with
  | some stem => stem ++ "ies"
  | none => if sibilants.any (Text.endsWith word) then word ++ "es" else word ++ "s"

def pluralize (naming : Naming) (word : String) : String :=
  let lower := Text.lower word
  match naming.irregular.find? (·.1 == lower) with
  | some (_, plural) => plural
  | none => if naming.irregular.any (·.2 == lower) then lower else regularPlural lower

def sibilantPlurals : List String := ["ses", "xes", "zes", "ches", "shes"]

def regularSingular (word : String) : String :=
  match (Text.dropEnding? "ies" word).filter (· != "") with
  | some stem => stem ++ "y"
  | none =>
    if sibilantPlurals.any (Text.endsWith word) then (Text.dropEnding? "es" word).getD word
    else if Text.endsWith word "ss" then word
    else match Text.dropEnding? "s" word with
      | some stem => if stem = "" then word else stem
      | none => word

def singularize (naming : Naming) (word : String) : String :=
  let lower := Text.lower word
  match naming.irregular.find? (·.2 == lower) with
  | some (singular, _) => singular
  | none => if naming.irregular.any (·.1 == lower) then lower else regularSingular lower

def variants (naming : Naming) (word : String) : List String :=
  [Text.lower word, naming.pluralize word, naming.singularize word].eraseDups

end Naming

/-- The name that a foreign-key column refers to: what stands before `_id` or `Id`, in lower case.
A column that is nothing but this ending refers to nothing. -/
def foreignKeyBase? (column : String) : Option String :=
  ((Text.dropEnding? "_id" column <|> Text.dropEnding? "Id" column).filter (· != "")).map Text.lower

end ResourceQuery

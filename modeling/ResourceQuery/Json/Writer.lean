import ResourceQuery.Json.Value
import ResourceQuery.Text.Hex

/-!
JSON texts, without any space. Quotes, backslashes and control characters are escaped, and nothing
else is.
-/

namespace ResourceQuery.Json

def escaped (character : Char) : List Char :=
  match character with
  | '"' => ['\\', '"']
  | '\\' => ['\\', '\\']
  | '\n' => ['\\', 'n']
  | '\r' => ['\\', 'r']
  | '\t' => ['\\', 't']
  | '\x08' => ['\\', 'b']
  | '\x0c' => ['\\', 'f']
  | _ =>
    let code := character.toNat
    if code < 0x20 then ['\\', 'u', '0', '0', Text.hexDigit (code / 16),
      Text.hexDigit (code % 16)]
    else [character]

def quoted (value : String) : List Char :=
  '"' :: value.toList.flatMap escaped ++ ['"']

mutual

def characters : Json → List Char
  | null => "null".toList
  | bool value => (if value then "true" else "false").toList
  | number value => value.text.toList
  | string value => quoted value
  | array items => '[' :: itemCharacters items ++ [']']
  | object fields => '\x7b' :: fieldCharacters fields ++ ['\x7d']

def itemCharacters : List Json → List Char
  | [] => []
  | [item] => characters item
  | item :: rest => characters item ++ ',' :: itemCharacters rest

def fieldCharacters : List (String × Json) → List Char
  | [] => []
  | [(key, value)] => quoted key ++ ':' :: characters value
  | (key, value) :: rest => quoted key ++ ':' :: characters value ++ ',' :: fieldCharacters rest

end

def text (value : Json) : String :=
  String.ofList (characters value)

end ResourceQuery.Json

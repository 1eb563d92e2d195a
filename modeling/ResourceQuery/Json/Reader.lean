import ResourceQuery.Json.Value
import ResourceQuery.Text.Hex

/-!
Reading JSON. The characters are gathered into tokens one at a time, and a machine with a stack of
open arrays and objects assembles the tokens into one value. Both steps are folds over their input.
-/

namespace ResourceQuery.Json

inductive Token where
  | openArray
  | closeArray
  | openObject
  | closeObject
  | comma
  | colon
  | value (leaf : Json)

/-- Where the gathering of a token stands; gathered characters are kept last first. -/
inductive Gathering where
  | between
  | word (gathered : List Char)
  | quoted (gathered : List Char)
  | escape (gathered : List Char)
  /-- After a backslash and `u`, with the digits so far; a high surrogate waits for its partner. -/
  | unicode (gathered : List Char) (high : Option Nat) (places code : Nat)
  /-- A high surrogate has been read, and a backslash must follow. -/
  | partner (gathered : List Char) (high : Nat)
  /-- A high surrogate and a backslash have been read, and the letter `u` must follow. -/
  | partnerMark (gathered : List Char) (high : Nat)

def isSpace (character : Char) : Bool :=
  character == ' ' || character == '\t' || character == '\n' || character == '\r'

def mark? : Char → Option Token
  | '[' => some .openArray
  | ']' => some .closeArray
  | '\x7b' => some .openObject
  | '\x7d' => some .closeObject
  | ',' => some .comma
  | ':' => some .colon
  | _ => none

def ofWord? (word : List Char) : Option Json :=
  if word = "null".toList then some null
  else if word = "true".toList then some (bool true)
  else if word = "false".toList then some (bool false)
  else (Number.ofWord? word).map number

def unescape? : Char → Option Char
  | '"' => some '"'
  | '\\' => some '\\'
  | '/' => some '/'
  | 'b' => some '\x08'
  | 'f' => some '\x0c'
  | 'n' => some '\n'
  | 'r' => some '\r'
  | 't' => some '\t'
  | _ => none

def isHighSurrogate (code : Nat) : Bool :=
  0xD800 ≤ code && code < 0xDC00

def isLowSurrogate (code : Nat) : Bool :=
  0xDC00 ≤ code && code < 0xE000

/-- What follows a complete `u` escape. Surrogates count only as a pair, the high one first. -/
def closeUnicode? (gathered : List Char) : Option Nat → Nat → Option Gathering
  | none, code =>
    if isHighSurrogate code then some (.partner gathered code)
    else if isLowSurrogate code then none
    else some (.quoted (Char.ofNat code :: gathered))
  | some high, low =>
    if isLowSurrogate low then
      some (.quoted (Char.ofNat (0x10000 + (high - 0xD800) * 0x400 + (low - 0xDC00)) :: gathered))
    else none

/-- The tokens so far, last first, and the token being gathered. -/
structure Scan where
  tokens : List Token
  gathering : Gathering

/-- A character that belongs to no quoted text, with no word open. -/
def Scan.outside? (tokens : List Token) (character : Char) : Option Scan :=
  if isSpace character then some ⟨tokens, .between⟩
  else if character = '"' then some ⟨tokens, .quoted []⟩
  else match mark? character with
    | some token => some ⟨token :: tokens, .between⟩
    | none => some ⟨tokens, .word [character]⟩

def Scan.step? (scan : Scan) (character : Char) : Option Scan :=
  match scan.gathering with
  | .between => Scan.outside? scan.tokens character
  | .word gathered =>
    if isSpace character || character == '"' || (mark? character).isSome then
      (ofWord? gathered.reverse).bind fun leaf =>
        Scan.outside? (.value leaf :: scan.tokens) character
    else some { scan with gathering := .word (character :: gathered) }
  | .quoted gathered =>
    if character = '"' then
      some ⟨.value (string (String.ofList gathered.reverse)) :: scan.tokens, .between⟩
    else if character = '\\' then some { scan with gathering := .escape gathered }
    else if character.toNat < 0x20 then none
    else some { scan with gathering := .quoted (character :: gathered) }
  | .escape gathered =>
    if character = 'u' then some { scan with gathering := .unicode gathered none 0 0 }
    else (unescape? character).map fun meant =>
      { scan with gathering := .quoted (meant :: gathered) }
  | .unicode gathered high places code =>
    (Text.hexValue? character).bind fun digit =>
      let longer := code * 16 + digit
      if places = 3 then
        (closeUnicode? gathered high longer).map fun gathering => { scan with gathering }
      else some { scan with gathering := .unicode gathered high (places + 1) longer }
  | .partner gathered high =>
    if character = '\\' then some { scan with gathering := .partnerMark gathered high } else none
  | .partnerMark gathered high =>
    if character = 'u' then some { scan with gathering := .unicode gathered (some high) 0 0 }
    else none

def Scan.finish? (scan : Scan) : Option (List Token) :=
  match scan.gathering with
  | .between => some scan.tokens.reverse
  | .word gathered =>
    (ofWord? gathered.reverse).map fun leaf => (.value leaf :: scan.tokens).reverse
  | _ => none

def tokens? (characters : List Char) : Option (List Token) :=
  (characters.foldlM Scan.step? ⟨[], .between⟩).bind Scan.finish?

/-- An array or object that is still open: what it holds so far, items last first. -/
inductive Frame where
  | array (items : List Json)
  | object (fields : Fields) (key : String)

inductive Expectation where
  | value
  /-- The first item of an array, or its end. -/
  | firstItem
  /-- The first key of an object, or its end. -/
  | firstKey (fields : Fields)
  | key (fields : Fields)
  | colon (fields : Fields) (key : String)
  /-- A complete value, and then a comma or the end of what holds it. -/
  | after (value : Json)

structure Assembly where
  frames : List Frame
  expectation : Expectation

/-- Opens what a value may begin with, or takes a whole leaf; nesting beyond the limit is refused. -/
def Assembly.begin? (limit : Nat) (frames : List Frame) : Token → Option Assembly
  | .value leaf => some ⟨frames, .after leaf⟩
  | .openArray => if frames.length < limit then some ⟨.array [] :: frames, .firstItem⟩ else none
  | .openObject =>
    if frames.length < limit then some ⟨.object [] "" :: frames, .firstKey []⟩ else none
  | _ => none

def Assembly.step? (limit : Nat) (assembly : Assembly) (token : Token) : Option Assembly :=
  match assembly.expectation, token, assembly.frames with
  | .value, token, frames => begin? limit frames token
  | .firstItem, .closeArray, .array _ :: frames => some ⟨frames, .after (array [])⟩
  | .firstItem, token, frames => begin? limit frames token
  | .firstKey _, .closeObject, .object _ _ :: frames => some ⟨frames, .after (object [])⟩
  | .firstKey fields, .value (string key), frames => some ⟨frames, .colon fields key⟩
  | .key fields, .value (string key), frames => some ⟨frames, .colon fields key⟩
  | .colon fields key, .colon, .object _ _ :: frames => some ⟨.object fields key :: frames, .value⟩
  | .after value, .comma, .array items :: frames => some ⟨.array (value :: items) :: frames, .value⟩
  | .after value, .closeArray, .array items :: frames =>
    some ⟨frames, .after (array (value :: items).reverse)⟩
  | .after value, .comma, .object fields key :: frames =>
    some ⟨.object [] "" :: frames, .key (fields.insert key value)⟩
  | .after value, .closeObject, .object fields key :: frames =>
    some ⟨frames, .after (object (fields.insert key value))⟩
  | _, _, _ => none

def Assembly.finish? (assembly : Assembly) : Option Json :=
  match assembly.expectation, assembly.frames with
  | .after value, [] => some value
  | _, _ => none

def depthLimit : Nat := 127

def parseWithin? (limit : Nat) (text : String) : Option Json :=
  (tokens? text.toList).bind fun tokens =>
    (tokens.foldlM (Assembly.step? limit) ⟨[], .value⟩).bind Assembly.finish?

def parse? (text : String) : Option Json :=
  parseWithin? depthLimit text

end ResourceQuery.Json

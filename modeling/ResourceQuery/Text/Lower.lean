import ResourceQuery.Text.CaseData

/-!
Lower-casing of whole texts. Every character has its lower-case partner; the dotted capital I has
two, and a capital sigma that ends a word becomes the final form of the letter.
-/

namespace ResourceQuery.Text

def inRanges (ranges : List (Nat × Nat)) (code : Nat) : Bool :=
  ranges.any fun (first, last) => first ≤ code && code ≤ last

def isCased (character : Char) : Bool :=
  inRanges casedRanges character.toNat

def isCaseIgnorable (character : Char) : Bool :=
  inRanges caseIgnorableRanges character.toNat

def CaseRun.covers (run : CaseRun) (code : Nat) : Bool :=
  run.first ≤ code && code ≤ run.last && (code - run.first) % run.step == 0

def lowerAlone (character : Char) : List Char :=
  let code := character.toNat
  if code < 0x80 then [character.toLower]
  else if code = 0x130 then ['i', Char.ofNat 0x307]
  else match lowerRuns.find? (·.covers code) with
    | some run => [Char.ofNat (code + run.distance).toNat]
    | none => [character]

def meetsCased (neighbours : List Char) : Bool :=
  match neighbours.dropWhile isCaseIgnorable with
  | [] => false
  | character :: _ => isCased character

/-- Lower-cases what follows the characters already passed, the nearest of them first. -/
def lowerAfter (passed : List Char) : List Char → List Char
  | [] => []
  | character :: rest =>
    let lowered :=
      if character.toNat = 0x3A3 then
        if meetsCased passed && !meetsCased rest then [Char.ofNat 0x3C2] else [Char.ofNat 0x3C3]
      else lowerAlone character
    lowered ++ lowerAfter (character :: passed) rest

def lower (text : String) : String :=
  String.ofList (lowerAfter [] text.toList)

end ResourceQuery.Text

/-!
Text and its parts. A text is read as a list of characters, so every operation here is a list
operation with the list's laws; texts are ordered by code point, which is also the order of their
UTF-8 bytes.
-/

namespace ResourceQuery.Text

def order (left right : String) : Ordering :=
  List.compareLex compare left.toList right.toList

/-- The pieces between the marks; a text without the mark is its only piece. -/
def split (mark : Char) (text : String) : List String :=
  (text.toList.splitOn mark).map String.ofList

def splitFirst? (mark : Char) (text : String) : Option (String × String) :=
  match text.toList.dropWhile (· != mark) with
  | [] => none
  | _ :: rest => some (String.ofList (text.toList.takeWhile (· != mark)), String.ofList rest)

/-- Whether one text occurs in another as a run of neighbouring characters. -/
def contains (text part : String) : Bool :=
  @decide (part.toList <:+: text.toList) (List.instDecidableIsInfixOfDecidableEq ..)

def endsWith (text ending : String) : Bool :=
  decide (ending.toList <:+ text.toList)

def dropEnding? (ending text : String) : Option String :=
  if ending.toList <:+ text.toList then
    some (String.ofList (text.toList.take (text.toList.length - ending.toList.length)))
  else none

def dropOpening? (opening text : String) : Option String :=
  if opening.toList <+: text.toList then
    some (String.ofList (text.toList.drop opening.toList.length))
  else none

def spell (letter : Char → List Char) (text : String) : String :=
  String.ofList (text.toList.flatMap letter)

def join (separator : String) (pieces : List String) : String :=
  String.ofList (separator.toList.intercalate (pieces.map String.toList))

private abbrev characterOrder : List Char → List Char → Ordering := List.compareLex compare

instance : Std.TransCmp order where
  eq_swap := by
    intro left right
    exact @Std.OrientedCmp.eq_swap _ characterOrder _ left.toList right.toList
  isLE_trans := by
    intro first second third
    exact @Std.TransCmp.isLE_trans _ characterOrder _ first.toList second.toList third.toList

theorem order_eq_iff {left right : String} : order left right = .eq ↔ left = right := by
  rw [← String.toList_inj]
  exact @Std.LawfulEqCmp.compare_eq_iff_eq _ characterOrder _ _ _

theorem dropEnding?_eq_some_iff {ending text rest : String} :
    dropEnding? ending text = some rest ↔ text = rest ++ ending := by
  unfold dropEnding?
  rw [← String.toList_inj, String.toList_append]
  split
  case isTrue found =>
    obtain ⟨before, same⟩ := found
    rw [← same]
    simp [← String.toList_inj, eq_comm]
  case isFalse missing =>
    simp only [reduceCtorEq, false_iff]
    intro same
    exact missing ⟨rest.toList, same.symm⟩

theorem dropOpening?_eq_some_iff {opening text rest : String} :
    dropOpening? opening text = some rest ↔ text = opening ++ rest := by
  unfold dropOpening?
  rw [← String.toList_inj, String.toList_append]
  split
  case isTrue found =>
    obtain ⟨after, same⟩ := found
    rw [← same]
    simp [← String.toList_inj, eq_comm]
  case isFalse missing =>
    simp only [reduceCtorEq, false_iff]
    intro same
    exact missing ⟨rest.toList, same.symm⟩

end ResourceQuery.Text

import Mathlib.Data.List.Infix
import ResourceQuery.Proofs.PlannedStatements

/-! Patterns of searches. A pattern is read as SQL reads it, one part after another, and matched with all
ways to skip characters. The pattern that stands for a text asks for its characters one by one with
anything around them, whatever these characters mean in patterns, so it matches exactly the texts in
which the text occurs. -/

namespace ResourceQuery.Proofs.SearchPatterns
open Filtering PlannedStatements Sql

inductive Part where
  /-- Any characters, or none. -/
  | any
  /-- Any one character. -/
  | one
  | letter (letter : Char)

/-- What a character of a pattern stands for, unless it is escaped. -/
def Part.ofMark (mark : Char) : Part :=
  if mark = '%' then any else if mark = '_' then one else letter mark

/-- The parts of a pattern. A backslash makes the character behind it stand for itself, and there has to
be one. -/
def parts? : List Char → Option (List Part)
  | [] => some []
  | ['\\'] => none
  | '\\' :: escaped :: rest => (parts? rest).map (.letter escaped :: ·)
  | mark :: rest => (parts? rest).map (.ofMark mark :: ·)

/-- A text made of what the parts ask for. -/
inductive Fits : List Part → List Char → Prop where
  | nil : Fits [] []
  | any {parts : List Part} {rest : List Char} (skipped : List Char) (after : Fits parts rest) :
    Fits (.any :: parts) (skipped ++ rest)
  | one {parts : List Part} {rest : List Char} (skipped : Char) (after : Fits parts rest) :
    Fits (.one :: parts) (skipped :: rest)
  | letter {parts : List Part} {rest : List Char} (letter : Char) (after : Fits parts rest) :
    Fits (.letter letter :: parts) (letter :: rest)

/-- Whether a text matches a pattern. A pattern that cannot be read matches nothing. -/
def Like (pattern text : String) : Prop :=
  ∃ parts, parts? pattern.toList = some parts ∧ Fits parts text.toList

/-- Matches from left to right. Where anything may be skipped, all ways to go on are tried. -/
def fits : List Part → List Char → Bool
  | [], text => text.isEmpty
  | .any :: parts, text => text.tails.any (fits parts)
  | .one :: _, [] => false
  | .one :: parts, _ :: rest => fits parts rest
  | .letter _ :: _, [] => false
  | .letter letter :: parts, first :: rest => decide (first = letter) && fits parts rest

private theorem fits_iff (parts : List Part) (text : List Char) : fits parts text = true ↔ Fits parts text := by
  induction parts generalizing text with
  | nil =>
    rw [fits, List.isEmpty_iff]
    constructor
    · rintro rfl
      exact .nil
    · intro empty
      cases empty
      rfl
  | cons part parts ih =>
    cases part with
    | any =>
      simp only [fits, List.any_eq_true, List.mem_tails, ih]
      constructor
      · rintro ⟨rest, ⟨skipped, rfl⟩, after⟩
        exact .any skipped after
      · intro matched
        cases matched with
        | any skipped after => exact ⟨_, List.suffix_append skipped _, after⟩
    | one =>
      cases text with
      | nil => exact iff_of_false Bool.false_ne_true nofun
      | cons first rest =>
        rw [fits, ih]
        constructor
        · exact .one first
        · intro matched
          cases matched with
          | one _ after => exact after
    | letter letter =>
      cases text with
      | nil => exact iff_of_false Bool.false_ne_true nofun
      | cons first rest =>
        rw [fits, Bool.and_eq_true, decide_eq_true_eq, ih]
        constructor
        · rintro ⟨rfl, after⟩
          exact .letter first after
        · intro matched
          cases matched with
          | letter _ after => exact ⟨rfl, after⟩

instance (parts : List Part) (text : List Char) : Decidable (Fits parts text) :=
  decidable_of_iff _ (fits_iff parts text)

instance (pattern text : String) : Decidable (Like pattern text) :=
  match read : parts? pattern.toList with
  | none => .isFalse fun ⟨_, same, _⟩ => by rw [read] at same; cases same
  | some parts => decidable_of_iff (Fits parts text.toList)
      ⟨fun matched => ⟨parts, read, matched⟩, fun ⟨_, same, matched⟩ => by
        rw [read] at same
        cases same
        exact matched⟩

section

variable {parts : List Part} {text : List Char}

private theorem fits_letters (letters : List Char) :
    Fits (letters.map .letter ++ parts) text ↔ ∃ rest, text = letters ++ rest ∧ Fits parts rest := by
  induction letters generalizing text with
  | nil => simp
  | cons letter letters ih =>
    rw [List.map_cons, List.cons_append]
    constructor
    · intro matched
      cases matched with
      | letter _ others =>
        obtain ⟨rest, rfl, after⟩ := ih.mp others
        exact ⟨rest, rfl, after⟩
    · rintro ⟨rest, rfl, after⟩
      apply Fits.letter
      exact ih.mpr ⟨rest, rfl, after⟩

private theorem fits_any (text : List Char) : Fits [.any] text := by
  rw [← List.append_nil text]
  exact .any text .nil

private theorem fits_surrounded (letters : List Char) :
    Fits (.any :: (letters.map .letter ++ [.any])) text ↔ letters <:+: text := by
  constructor
  · intro matched
    cases matched with
    | any skipped after =>
      obtain ⟨rest, rfl, -⟩ := (fits_letters letters).mp after
      exact ⟨skipped, rest, List.append_assoc _ _ _⟩
  · rintro ⟨skipped, rest, rfl⟩
    rw [List.append_assoc]
    apply Fits.any
    exact (fits_letters letters).mpr ⟨rest, rfl, fits_any rest⟩

end

def escape (letter : Char) : List Char :=
  if letter = '\\' ∨ letter = '%' ∨ letter = '_' then ['\\', letter] else [letter]

private theorem parts?_escape (letter : Char) (rest : List Char) :
    parts? (escape letter ++ rest) = (parts? rest).map (.letter letter :: ·) := by
  unfold escape
  split
  next => rfl
  next plain =>
    simp only [not_or] at plain
    obtain ⟨backslash, percent, underscore⟩ := plain
    have mark : Part.ofMark letter = .letter letter := by
      rw [Part.ofMark, if_neg percent, if_neg underscore]
    rw [List.singleton_append, parts?, mark]
    · exact fun same => absurd same backslash
    · exact fun _ _ same => absurd same backslash

private theorem parts?_escaped (text rest : List Char) :
    parts? (text.flatMap escape ++ rest) = (parts? rest).map (text.map .letter ++ ·) := by
  induction text with
  | nil => simp
  | cons letter text ih =>
    rw [List.flatMap_cons, List.append_assoc, parts?_escape, ih, Option.map_map]
    rfl

private theorem parts?_likePattern (searched : String) : parts? (likePattern searched).toList =
    some (.any :: (searched.toList.map .letter ++ [.any])) := by
  have written : (likePattern searched).toList = '%' :: (searched.toList.flatMap escape ++ ['%']) :=
    String.toList_ofList
  have opened (rest : List Char) : parts? ('%' :: rest) = (parts? rest).map (.any :: ·) := rfl
  rw [written, opened, parts?_escaped]
  rfl

private theorem like_likePattern (searched text : String) :
    Like (likePattern searched) text ↔ searched.toList <:+: text.toList := by
  rw [Like, parts?_likePattern]
  simp only [Option.some.injEq, exists_eq_left']
  exact fits_surrounded searched.toList

def replace (mark : Char) (replacement text : List Char) : List Char :=
  text.flatMap fun letter => if letter = mark then replacement else [letter]

/-- Characters can be escaped one kind after another, as long as the backslash is the first. -/
private theorem flatMap_escape (text : List Char) : text.flatMap escape =
    replace '_' ['\\', '_'] (replace '%' ['\\', '%'] (replace '\\' ['\\', '\\'] text)) := by
  have each (letter : Char) : escape letter =
      replace '_' ['\\', '_'] (replace '%' ['\\', '%'] (replace '\\' ['\\', '\\'] [letter])) := by
    by_cases backslash : letter = '\\'
    · subst backslash
      rfl
    by_cases percent : letter = '%'
    · subst percent
      rfl
    by_cases underscore : letter = '_'
    · subst underscore
      rfl
    simp [escape, replace, backslash, percent, underscore]
  induction text with
  | nil => rfl
  | cons letter text ih =>
    have apart (mark : Char) (replacement first second : List Char) : replace mark replacement
        (first ++ second) = replace mark replacement first ++ replace mark replacement second :=
      List.flatMap_append
    rw [List.flatMap_cons, ih, each, ← apart, ← apart, ← apart, List.singleton_append]

private theorem condition?_like {table : Table} {predicate : Predicate} (searching : predicate.operator = .like)
    {operand : Operand} (given : predicate.operands.head? = some operand)
    (known : table.hasColumn predicate.column = true) :
    condition? table predicate = some (leftSide false predicate.column ++
      comparison .like [.text (likePattern operand.asText)]) := by
  obtain ⟨column, found⟩ := Option.isSome_iff_exists.mp known
  simp only [condition?, found, Option.bind_some, searching, given, Option.map_some]
  rfl

private theorem holds_like {predicate : Predicate} (searching : predicate.operator = .like) {operand : Operand}
    (given : predicate.operands.head? = some operand) {row : Row} {text : String}
    (shown : (row.get predicate.column).cellText? = some text) :
    predicate.holds row = true ↔ operand.asText.toList <:+: text.toList := by
  simp only [Predicate.holds, searching, Predicate.searches, shown, given, Text.contains, decide_eq_true_eq]

/-- The pattern of a text, which escapes the characters that mean something in patterns one kind after
another, matches exactly the texts in which the text occurs. It is the pattern that a search for the text
binds, and memory searches for the text itself, so both find the same cells. -/
theorem stores_search_alike (searched text : String) :
    (likePattern searched).toList = '%' :: (replace '_' ['\\', '_'] (replace '%' ['\\', '%']
      (replace '\\' ['\\', '\\'] searched.toList)) ++ ['%']) ∧
    (Like (likePattern searched) text ↔ searched.toList <:+: text.toList) ∧
    ∀ (table : Table) (predicate : Predicate) (operand : Operand) (row : Row),
      predicate.operator = .like → predicate.operands.head? = some operand →
      operand.asText = searched → table.hasColumn predicate.column = true →
      (row.get predicate.column).cellText? = some text →
      condition? table predicate = some (leftSide false predicate.column ++
          comparison .like [.text (likePattern searched)]) ∧
        (predicate.holds row = true ↔ Like (likePattern searched) text) := by
  refine ⟨?_, like_likePattern searched text, ?_⟩
  · rw [← flatMap_escape]
    exact String.toList_ofList
  · rintro table predicate operand row searching given rfl known shown
    refine ⟨condition?_like searching given known, ?_⟩
    rw [like_likePattern]
    exact holds_like searching given shown

/-- Marks of patterns are searched for as the characters that they are. -/
theorem marks_are_searched_for_alike :
    let predicate : Predicate := ⟨"name", .like, [.text "5%_\\"]⟩
    let found : Row := [("id", .ofInt 1), ("name", .string "at 5%_\\ off")]
    let missed : Row := [("id", .ofInt 2), ("name", .string "at 5 %_\\")]
    (people.hasColumn "name" = true ∧ (found.get "name").cellText? = some "at 5%_\\ off" ∧
        (missed.get "name").cellText? = some "at 5 %_\\") ∧
      condition? people predicate =
        some (leftSide false "name" ++ comparison .like [.text "%5\\%\\_\\\\%"]) ∧
      predicate.holds found = true ∧ ¬ predicate.holds missed = true := by
  intro predicate found missed
  have known : people.hasColumn "name" = true := rfl
  have shown : (found.get "name").cellText? = some "at 5%_\\ off" := rfl
  have shown' : (missed.get "name").cellText? = some "at 5 %_\\" := rfl
  obtain ⟨-, -, alike⟩ := stores_search_alike "5%_\\" "at 5%_\\ off"
  obtain ⟨-, -, alike'⟩ := stores_search_alike "5%_\\" "at 5 %_\\"
  obtain ⟨bound, holds⟩ := alike people predicate _ found rfl rfl rfl known shown
  obtain ⟨-, holds'⟩ := alike' people predicate _ missed rfl rfl rfl known shown'
  refine ⟨⟨known, shown, shown'⟩, bound, holds.mpr (by decide), ?_⟩
  rw [holds']
  decide

end ResourceQuery.Proofs.SearchPatterns

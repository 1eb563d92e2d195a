import Mathlib.Data.List.DropRight
import ResourceQuery.Text.Blank

/-! Texts with blanks around them. What is left of a text when it is trimmed is the one text without blanks at
its ends that it pads. -/

namespace ResourceQuery.Proofs.PaddedTexts

def Blank (text : String) : Prop :=
  ∀ character ∈ text.toList, Text.isBlank character = true

instance (text : String) : Decidable (Blank text) :=
  decidable_of_iff (text.toList.all Text.isBlank = true) List.all_eq_true

def Padded (text token : String) : Prop :=
  ∃ before after, Blank before ∧ Blank after ∧ token = before ++ text ++ after

structure Solid (text : String) : Prop where
  first : ∀ character ∈ text.toList.head?, Text.isBlank character = false
  last : ∀ character ∈ text.toList.getLast?, Text.isBlank character = false

theorem blank_empty : Blank "" := by simp [Blank]

theorem Blank.append {first second : String} (blank : Blank first) (blank' : Blank second) :
    Blank (first ++ second) := by
  intro character member
  rw [String.toList_append] at member
  exact (List.mem_append.mp member).elim (blank character) (blank' character)

theorem Blank.notMem {text : String} (blank : Blank text) {mark : Char}
    (shown : Text.isBlank mark = false) : mark ∉ text.toList := fun member => by
  simp [blank mark member] at shown

theorem Padded.notMem {text token : String} (padded : Padded text token) {mark : Char}
    (absent : mark ∉ token.toList) : mark ∉ text.toList := by
  obtain ⟨before, after, -, -, rfl⟩ := padded
  simp only [String.toList_append, List.mem_append, not_or] at absent
  exact absent.1.2

theorem Padded.notMem_of_text {text token : String} (padded : Padded text token) {mark : Char}
    (shown : Text.isBlank mark = false) (absent : mark ∉ text.toList) : mark ∉ token.toList := by
  obtain ⟨before, after, blank, blank', rfl⟩ := padded
  simp [blank.notMem shown, blank'.notMem shown, absent]

theorem solid_empty : Solid "" := ⟨by simp, by simp⟩

theorem padded_empty_iff {token : String} : Padded "" token ↔ Blank token := by
  constructor
  · rintro ⟨before, after, blank, blank', rfl⟩
    exact (blank.append blank_empty).append blank'
  · intro blank
    exact ⟨token, "", blank, blank_empty, by simp⟩

private theorem trimmed_append {before text after : List Char}
    (blank : ∀ character ∈ before, Text.isBlank character = true)
    (blank' : ∀ character ∈ after, Text.isBlank character = true)
    (first : ∀ character ∈ text.head?, Text.isBlank character = false)
    (last : ∀ character ∈ text.getLast?, Text.isBlank character = false) :
    Text.trimmed (before ++ text ++ after) = text := by
  have front : (text ++ after).dropWhile Text.isBlank = if text = [] then [] else text ++ after := by
    cases text with
    | nil => simpa using blank'
    | cons head rest => simp [first head rfl]
  have back : (after.reverse ++ text.reverse).dropWhile Text.isBlank = text.reverse := by
    rw [List.dropWhile_append_of_pos (by simpa using blank')]
    cases shown : text.reverse with
    | nil => rfl
    | cons end' rest =>
      have ends : text.getLast? = some end' := by rw [List.getLast?_eq_head?_reverse, shown]; rfl
      simp [last end' ends]
  rw [Text.trimmed, List.append_assoc, List.dropWhile_append_of_pos blank, front]
  split
  next none => simp [none]
  next => rw [List.reverse_append, back, List.reverse_reverse]

theorem solid_trim (token : String) : Solid (Text.trim token) := by
  have same : (Text.trim token).toList =
      (token.toList.dropWhile Text.isBlank).rdropWhile Text.isBlank := String.toList_ofList
  constructor
  · intro character first
    obtain ⟨tail, split⟩ := List.rdropWhile_prefix Text.isBlank (token.toList.dropWhile Text.isBlank)
    have head : (token.toList.dropWhile Text.isBlank).head? = some character := by
      rw [← split, List.head?_append, ← same, first]
      rfl
    have solid := List.head?_dropWhile_not Text.isBlank token.toList
    rwa [head] at solid
  · intro character last
    rw [same] at last
    obtain ⟨some, rfl⟩ := List.mem_getLast?_eq_getLast last
    simpa using List.rdropWhile_last_not Text.isBlank _ some

theorem padded_trim (token : String) : Padded (Text.trim token) token := by
  refine ⟨.ofList (token.toList.takeWhile Text.isBlank),
    .ofList ((token.toList.dropWhile Text.isBlank).rtakeWhile Text.isBlank), ?_, ?_, ?_⟩
  · simpa [Blank] using fun _ => List.mem_takeWhile_imp
  · simpa [Blank] using fun _ => List.mem_rtakeWhile_imp
  · have back : Text.trimmed token.toList ++
        (token.toList.dropWhile Text.isBlank).rtakeWhile Text.isBlank =
          token.toList.dropWhile Text.isBlank := List.rdropWhile_append_rtakeWhile ..
    rw [← String.toList_inj, String.toList_append, String.toList_append, Text.trim, String.toList_ofList,
      String.toList_ofList, String.toList_ofList, List.append_assoc, back,
      List.takeWhile_append_dropWhile]

theorem trim_eq_iff {text token : String} : Text.trim token = text ↔ Solid text ∧ Padded text token := by
  constructor
  · rintro rfl
    exact ⟨solid_trim token, padded_trim token⟩
  · rintro ⟨solid, before, after, blank, blank', rfl⟩
    rw [Text.trim, String.toList_append, String.toList_append,
      trimmed_append blank blank' solid.first solid.last, String.ofList_toList]

end ResourceQuery.Proofs.PaddedTexts

import ResourceQuery.Proofs.WordForms

/-! The singular of a regular word's plural. It is the word again, unless the word ends in an `e` that the
plural's ending takes along. Endings are cut off by their bytes, which never divides a character, as an ending
that was found is whole characters. -/

namespace ResourceQuery.Proofs.SingularsOfPlurals
open Naming WordForms

/-! Cutting by bytes -/

/-- The text without its last bytes. There is none where the text has fewer bytes, or where the cut is inside
a character. -/
def cut? (text : String) (bytes : Nat) : Option String :=
  if fits : bytes ≤ text.utf8ByteSize ∧ (⟨text.utf8ByteSize - bytes⟩ : String.Pos.Raw).IsValid text then
    some (text.sliceTo ⟨_, fits.2⟩).copy
  else none

private theorem cut?_eq_some_iff {text stem : String} {bytes : Nat} :
    cut? text bytes = some stem ↔ ∃ ending, text = stem ++ ending ∧ ending.utf8ByteSize = bytes := by
  rw [cut?]
  constructor
  · intro found
    split at found
    case isTrue fits =>
      obtain rfl := Option.some.inj found
      have parts := (⟨_, fits.2⟩ : text.Pos).splits
      have size := congrArg String.utf8ByteSize parts.eq_append
      have place := congrArg String.Pos.Raw.byteIdx parts.offset_eq_rawEndPos
      simp only [String.utf8ByteSize_append, String.byteIdx_rawEndPos] at size place
      exact ⟨_, parts.eq_append, by omega⟩
    case isFalse => cases found
  · rintro ⟨ending, rfl, rfl⟩
    have place : (stem ++ ending).utf8ByteSize - ending.utf8ByteSize = stem.utf8ByteSize := by
      rw [String.utf8ByteSize_append, Nat.add_sub_cancel]
    have valid : (⟨(stem ++ ending).utf8ByteSize - ending.utf8ByteSize⟩ : String.Pos.Raw).IsValid
        (stem ++ ending) :=
      String.Pos.Raw.isValid_iff_exists_append.mpr
        ⟨stem, ending, rfl, congrArg String.Pos.Raw.mk place⟩
    have enough : ending.utf8ByteSize ≤ (stem ++ ending).utf8ByteSize := by
      rw [String.utf8ByteSize_append]
      exact Nat.le_add_left _ _
    have parts : (⟨_, valid⟩ : (stem ++ ending).Pos).Splits stem ending :=
      ⟨rfl, congrArg String.Pos.Raw.mk place⟩
    rw [dif_pos ⟨enough, valid⟩]
    exact congrArg some parts.copy_sliceTo_eq

example : cut? "bé" 2 = some "b" ∧ cut? "bé" 1 = none := by decide

/-- The singular of a regular word, cut out of its bytes. -/
def cutSingular? (word : String) : Option String :=
  match (Text.dropEnding? "ies" word).filter (· != "") with
  | some stem => some (stem ++ "y")
  | none =>
    if Ends sibilantPlurals word then cut? word 2
    else if Ends ["s"] word ∧ ¬ Ends ["ss"] word ∧ 1 < word.utf8ByteSize then cut? word 1
    else some word

/-- The singular of any word, which is cut out of its bytes if the word is regular. -/
def cutSingularize? (naming : Naming) (word : String) : Option String :=
  let lower := Text.lower word
  match naming.irregular.find? (·.2 == lower) with
  | some (singular, _) => some singular
  | none => if naming.irregular.any (·.1 == lower) then some lower else cutSingular? lower

private theorem cutSingular?_eq (word : String) : cutSingular? word = some (regularSingular word) := by
  by_cases ies : ∀ stem, word = stem ++ "ies" → stem = ""
  case neg =>
    obtain ⟨stem, rfl, nonempty⟩ : ∃ stem, word = stem ++ "ies" ∧ stem ≠ "" := by simpa using ies
    rw [cutSingular?, (Singular.ies nonempty).eq, iesStem?_eq_some_iff.mpr ⟨rfl, nonempty⟩]
  rw [cutSingular?, regularSingular_of_not_ies ies, iesStem?_eq_none ies]
  by_cases plural : Ends sibilantPlurals word
  case pos =>
    obtain ⟨stem, -, rfl⟩ := (ends_map_append sibilants "es").mp plural
    rw [Text.dropEnding?_eq_some_iff.mpr rfl]
    simp only [if_pos plural, Option.getD_some]
    exact cut?_eq_some_iff.mpr ⟨"es", rfl, rfl⟩
  simp only [if_neg plural]
  by_cases double : Ends ["ss"] word
  case pos => simp only [double, not_true_eq_false, false_and, and_false, if_true, if_false]
  simp only [if_neg double]
  by_cases last : Ends ["s"] word
  case neg => simp only [last, false_and, if_false, dropEnding?_eq_none last]
  obtain ⟨stem, rfl⟩ := ends_singleton.mp last
  have found : Text.dropEnding? "s" (stem ++ "s") = some stem := Text.dropEnding?_eq_some_iff.mpr rfl
  by_cases empty : stem = ""
  case pos =>
    subst empty
    rfl
  -- What is left is one `s` after other letters, which takes a byte of at least two.
  have some : stem.utf8ByteSize ≠ 0 := fun none => empty (String.utf8ByteSize_eq_zero_iff.mp none)
  have size : (stem ++ "s").utf8ByteSize = stem.utf8ByteSize + 1 := String.utf8ByteSize_append
  have longer : 1 < (stem ++ "s").utf8ByteSize := by omega
  simp only [found, if_neg empty]
  rw [if_pos ⟨last, double, longer⟩]
  exact cut?_eq_some_iff.mpr ⟨"s", rfl, rfl⟩

private theorem cutSingularize?_eq (naming : Naming) (word : String) :
    cutSingularize? naming word = some (naming.singularize word) := by
  simp only [cutSingularize?, singularize, cutSingular?_eq]
  cases naming.irregular.find? (·.2 == Text.lower word) with
  | some pair => rfl
  | none => exact (apply_ite some _ _ _).symm

/-! There and back -/

private theorem regularPlural_of_ends_e {word : String} (last : Ends ["e"] word) : regularPlural word = word ++ "s" := by
  refine (Plural.s (not_ends last (by decide)) ?_).eq
  rintro stem rfl
  exact absurd (ends_append stem "y") (not_ends last (by decide))

private theorem not_losesPlural_iff {word : String} (nonempty : word ≠ "") :
    ¬ LosesPlural word ↔
      ¬ Ends ["se", "xe", "ze", "che", "she"] word ∧ (Ends ["ie"] word → word = "ie") := by
  simp [LosesPlural, nonempty]

/-- The singular of a plural is the word, unless the word ends in a sibilant and an `e`, which falls away
with the `s`, or in `ie` after other letters, for which a `y` is put. Cutting by bytes gives this singular, and
never fails. -/
theorem plurals_lead_back_but_from_e (naming : Naming) (regular : naming.irregular = []) (word : String)
    (nonempty : word ≠ "") (lower : Text.lower word = word) :
    let singular := naming.singularize (naming.pluralize word)
    (singular = word ↔
      ¬ Ends ["se", "xe", "ze", "che", "she"] word ∧ (Ends ["ie"] word → word = "ie")) ∧
    (∀ stem, Ends ["s", "x", "z", "ch", "sh"] stem → word = stem ++ "e" → singular = stem) ∧
    (∀ stem, stem ≠ "" → word = stem ++ "ie" → singular = stem ++ "y") ∧
    ∀ text, cutSingularize? naming text = some (naming.singularize text) := by
  intro singular
  have unregistered (form : String) : ¬ Registered naming form := by simp [Registered, regular]
  have made : singular = regularSingular (regularPlural word) := by
    have lower' := lower_regularPlural lower
    rw [← singularize_of_not_registered lower' (unregistered _),
      ← pluralize_of_not_registered lower (unregistered word)]
  rw [made]
  refine ⟨?_, ?_, ?_, cutSingularize?_eq naming⟩
  · rw [regularSingular_plural_iff (plural_regularPlural word), not_losesPlural_iff nonempty]
  · rintro stem sibilant rfl
    rw [regularPlural_of_ends_e (ends_append stem "e"), String.append_assoc]
    exact (Singular.es sibilant).eq
  · rintro stem before rfl
    have last : Ends ["e"] (stem ++ "ie") := ends_of_ends (ends_append stem "ie") (by decide)
    rw [regularPlural_of_ends_e last, String.append_assoc]
    exact (Singular.ies before).eq

/-- A `buße` comes back, a `house` as a `hous` and a `movie` as a `movy`. -/
theorem house_is_cut_to_hous :
    let back (word : String) := Naming.regular.singularize (Naming.regular.pluralize word)
    back "buße" = "buße" ∧ back "house" = "hous" ∧ back "movie" = "movy" := by
  intro back
  have lead {word : String} (nonempty : word ≠ "") (lower : Text.lower word = word) :=
    plurals_lead_back_but_from_e .regular rfl word nonempty lower
  refine ⟨?_, ?_, ?_⟩
  · exact (lead (by decide) (by decide +kernel)).1.mpr ⟨by decide, fun ie => absurd ie (by decide)⟩
  · exact (lead (by decide) (by decide +kernel)).2.1 "hous" (by decide) (by decide)
  · exact (lead (by decide) (by decide +kernel)).2.2.1 "mov" (by decide) (by decide)

end ResourceQuery.Proofs.SingularsOfPlurals

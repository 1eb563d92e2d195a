import Mathlib.Data.List.Nodup
import ResourceQuery.Naming
import ResourceQuery.Proofs.LowerCase

/-! Words in the singular and the plural. Both directions follow endings of the word at hand, so that they
undo each other only where the ending that one writes is the ending that the other reads. -/

namespace ResourceQuery.Proofs.WordForms
open Naming LowerCase

/-! Endings -/

def Ends (endings : List String) (word : String) : Prop :=
  endings.any (Text.endsWith word) = true

instance (endings : List String) (word : String) : Decidable (Ends endings word) :=
  inferInstanceAs (Decidable (_ = true))

private theorem endsWith_iff {word ending : String} :
    Text.endsWith word ending = true ↔ ∃ stem, word = stem ++ ending := by
  rw [Text.endsWith, decide_eq_true_eq]
  constructor
  · rintro ⟨front, same⟩
    refine ⟨String.ofList front, ?_⟩
    rw [← String.toList_inj, String.toList_append, String.toList_ofList, same]
  · rintro ⟨stem, rfl⟩
    rw [String.toList_append]
    exact List.suffix_append _ _

private theorem ends_iff {endings : List String} {word : String} :
    Ends endings word ↔ ∃ ending ∈ endings, ∃ stem, word = stem ++ ending := by
  simp only [Ends, List.any_eq_true, endsWith_iff]

theorem ends_singleton {ending word : String} : Ends [ending] word ↔ ∃ stem, word = stem ++ ending := by
  simp [ends_iff]

theorem ends_append (stem ending : String) : Ends [ending] (stem ++ ending) :=
  ends_singleton.mpr ⟨stem, rfl⟩

theorem dropEnding?_eq_none {ending word : String} (missing : ¬ Ends [ending] word) :
    Text.dropEnding? ending word = none := by
  rw [Option.eq_none_iff_forall_ne_some]
  intro stem found
  exact missing (ends_singleton.mpr ⟨stem, Text.dropEnding?_eq_some_iff.mp found⟩)

/-- Endings that go on in the same way are endings of what stands before. -/
theorem ends_map_append (endings : List String) (tail : String) {word : String} :
    Ends (endings.map (· ++ tail)) word ↔ ∃ stem, Ends endings stem ∧ word = stem ++ tail := by
  simp only [ends_iff, List.mem_map]
  constructor
  · rintro ⟨-, ⟨ending, member, rfl⟩, stem, rfl⟩
    exact ⟨stem ++ ending, ⟨ending, member, stem, rfl⟩, (String.append_assoc).symm⟩
  · rintro ⟨-, ⟨ending, member, stem, rfl⟩, rfl⟩
    exact ⟨ending ++ tail, ⟨ending, member, rfl⟩, stem, String.append_assoc⟩

def apart (first second : List String) : Bool :=
  first.all fun ending => second.all fun other =>
    !Text.endsWith ending other && !Text.endsWith other ending

theorem not_ends {first second : List String} {word : String} (ends : Ends first word)
    (distinct : apart first second = true) : ¬ Ends second word := by
  intro ends'
  obtain ⟨ending, member, found⟩ := List.any_eq_true.mp ends
  obtain ⟨other, member', found'⟩ := List.any_eq_true.mp ends'
  simp only [apart, List.all_eq_true, Bool.and_eq_true, Bool.not_eq_true'] at distinct
  obtain ⟨outside, outside'⟩ := distinct ending member other member'
  simp only [Text.endsWith, decide_eq_true_eq, decide_eq_false_iff_not] at found found' outside outside'
  rcases List.suffix_or_suffix_of_suffix found found' with inside | inside
  · exact outside' inside
  · exact outside inside

private theorem ends_append_iff (endings : List String) {stem tail : String} :
    Ends (endings.map (· ++ tail)) (stem ++ tail) ↔ Ends endings stem := by
  rw [ends_map_append]
  constructor
  · rintro ⟨stem', ends, same⟩
    rwa [(String.append_left_inj tail).mp same]
  · intro ends
    exact ⟨stem, ends, rfl⟩

/-- An ending of an ending is an ending of the word. -/
theorem ends_of_ends {first second : List String} {word : String} (ends : Ends first word)
    (within : first.all (fun ending => Ends second ending) = true) : Ends second word := by
  obtain ⟨ending, member, stem, rfl⟩ := ends_iff.mp ends
  have inner : Ends second ending := by simpa using List.all_eq_true.mp within ending member
  obtain ⟨other, member', front, rfl⟩ := ends_iff.mp inner
  exact ends_iff.mpr ⟨other, member', stem ++ front, (String.append_assoc).symm⟩

/-! The rules -/

inductive Plural : String → String → Prop
  | y {stem : String} (consonant : endsInConsonant stem = true) : Plural (stem ++ "y") (stem ++ "ies")
  | es {word : String} (sibilant : Ends sibilants word) : Plural word (word ++ "es")
  | s {word : String} (sibilant : ¬ Ends sibilants word)
      (vowel : ∀ stem, word = stem ++ "y" → endsInConsonant stem = false) : Plural word (word ++ "s")

inductive Singular : String → String → Prop
  | ies {stem : String} (nonempty : stem ≠ "") : Singular (stem ++ "ies") (stem ++ "y")
  | es {stem : String} (sibilant : Ends sibilants stem) : Singular (stem ++ "es") stem
  | s {stem : String} (nonempty : stem ≠ "") (ie : ∀ front, stem = front ++ "ie" → front = "")
      (sibilant : ¬ Ends (sibilants.map (· ++ "e")) stem) (double : ¬ Ends ["s"] stem) :
      Singular (stem ++ "s") stem
  | same {word : String} (kept : Ends ["ss"] word ∨ word = "s" ∨ ¬ Ends ["s"] word) : Singular word word

private theorem consonantStem?_eq_some_iff {word stem : String} :
    consonantStem? word = some stem ↔ word = stem ++ "y" ∧ endsInConsonant stem = true := by
  rw [consonantStem?, Option.filter_eq_some_iff, Text.dropEnding?_eq_some_iff]

private theorem consonantStem?_eq_none {word : String}
    (vowel : ∀ stem, word = stem ++ "y" → endsInConsonant stem = false) : consonantStem? word = none := by
  rw [Option.eq_none_iff_forall_ne_some]
  intro stem found
  obtain ⟨same, consonant⟩ := consonantStem?_eq_some_iff.mp found
  rw [vowel stem same] at consonant
  cases consonant

theorem Plural.eq {word form : String} (rule : Plural word form) : regularPlural word = form := by
  cases rule with
  | y consonant => rw [regularPlural, consonantStem?_eq_some_iff.mpr ⟨rfl, consonant⟩]
  | es sibilant =>
    have vowel : ∀ stem, word = stem ++ "y" → endsInConsonant stem = false := by
      rintro stem rfl
      exact absurd sibilant (not_ends (ends_append stem "y") (by decide))
    rw [regularPlural, consonantStem?_eq_none vowel]
    exact if_pos sibilant
  | s sibilant vowel =>
    rw [regularPlural, consonantStem?_eq_none vowel]
    exact if_neg sibilant

theorem plural_regularPlural (word : String) : Plural word (regularPlural word) := by
  have rule : ∃ form, Plural word form := by
    by_cases vowel : ∀ stem, word = stem ++ "y" → endsInConsonant stem = false
    case neg =>
      obtain ⟨stem, rfl, consonant⟩ : ∃ stem, word = stem ++ "y" ∧ endsInConsonant stem = true := by
        simpa using vowel
      exact ⟨_, .y consonant⟩
    by_cases sibilant : Ends sibilants word
    case pos => exact ⟨_, .es sibilant⟩
    case neg => exact ⟨_, .s sibilant vowel⟩
  obtain ⟨form, rule⟩ := rule
  rwa [rule.eq]

theorem iesStem?_eq_some_iff {word stem : String} :
    (Text.dropEnding? "ies" word).filter (· != "") = some stem ↔ word = stem ++ "ies" ∧ stem ≠ "" := by
  rw [Option.filter_eq_some_iff, Text.dropEnding?_eq_some_iff, bne_iff_ne]

theorem iesStem?_eq_none {word : String} (other : ∀ stem, word = stem ++ "ies" → stem = "") :
    (Text.dropEnding? "ies" word).filter (· != "") = none := by
  rw [Option.eq_none_iff_forall_ne_some]
  intro stem found
  obtain ⟨same, nonempty⟩ := iesStem?_eq_some_iff.mp found
  exact nonempty (other stem same)

theorem regularSingular_of_not_ies {word : String} (other : ∀ stem, word = stem ++ "ies" → stem = "") :
    regularSingular word =
      if Ends sibilantPlurals word then (Text.dropEnding? "es" word).getD word
      else if Ends ["ss"] word then word
      else match Text.dropEnding? "s" word with
        | some stem => if stem = "" then word else stem
        | none => word := by
  have double : Text.endsWith word "ss" = ["ss"].any (Text.endsWith word) := (Bool.or_false _).symm
  rw [regularSingular, iesStem?_eq_none other, double]
  rfl

private theorem not_ies_of_ends {endings : List String} {word : String} (ends : Ends endings word)
    (distinct : apart endings ["ies"] = true) : ∀ stem, word = stem ++ "ies" → stem = "" := by
  rintro stem rfl
  exact absurd (ends_append stem "ies") (not_ends ends distinct)

theorem Singular.eq {word form : String} (rule : Singular word form) : regularSingular word = form := by
  cases rule with
  | ies nonempty => rw [regularSingular, iesStem?_eq_some_iff.mpr ⟨rfl, nonempty⟩]
  | es sibilant =>
    have plural : Ends sibilantPlurals (form ++ "es") := (ends_append_iff sibilants).mpr sibilant
    rw [regularSingular_of_not_ies (not_ies_of_ends plural (by decide)), if_pos plural,
      Text.dropEnding?_eq_some_iff.mpr rfl, Option.getD_some]
  | s nonempty ie sibilant double =>
    have other : ∀ stem, form ++ "s" = stem ++ "ies" → stem = "" := by
      intro stem same
      refine ie stem ((String.append_left_inj "s").mp (same.trans ?_))
      rw [String.append_assoc]
      rfl
    have plural : ¬ Ends sibilantPlurals (form ++ "s") :=
      (ends_append_iff (sibilants.map (· ++ "e"))).not.mpr sibilant
    have double' : ¬ Ends ["ss"] (form ++ "s") :=
      (ends_append_iff ["s"]).not.mpr double
    rw [regularSingular_of_not_ies other, if_neg plural, if_neg double',
      Text.dropEnding?_eq_some_iff.mpr rfl]
    exact if_neg nonempty
  | same kept =>
    rcases kept with double | rfl | missing
    · rw [regularSingular_of_not_ies (not_ies_of_ends double (by decide)),
        if_neg (not_ends double (by decide)), if_pos double]
    · rfl
    · have other {endings : List String} (within : endings.all (fun ending => Ends ["s"] ending) = true) :
          ¬ Ends endings word := fun ends => missing (ends_of_ends ends within)
      have ies : ∀ stem, word = stem ++ "ies" → stem = "" := by
        rintro stem rfl
        exact absurd (ends_append stem "ies") (other (by decide))
      rw [regularSingular_of_not_ies ies, if_neg (other (by decide)), if_neg (other (by decide)),
        dropEnding?_eq_none missing]

private theorem singular_regularSingular (word : String) : Singular word (regularSingular word) := by
  have rule : ∃ form, Singular word form := by
    by_cases ies : ∀ stem, word = stem ++ "ies" → stem = ""
    case neg =>
      obtain ⟨stem, rfl, nonempty⟩ : ∃ stem, word = stem ++ "ies" ∧ stem ≠ "" := by simpa using ies
      exact ⟨_, .ies nonempty⟩
    by_cases plural : Ends sibilantPlurals word
    case pos =>
      obtain ⟨stem, sibilant, rfl⟩ := (ends_map_append sibilants "es").mp plural
      exact ⟨_, .es sibilant⟩
    by_cases double : Ends ["ss"] word
    case pos => exact ⟨_, .same (.inl double)⟩
    by_cases last : Ends ["s"] word
    case neg => exact ⟨_, .same (.inr (.inr last))⟩
    obtain ⟨stem, rfl⟩ := ends_singleton.mp last
    by_cases nonempty : stem = ""
    case pos =>
      subst nonempty
      exact ⟨_, .same (.inr (.inl rfl))⟩
    refine ⟨_, .s nonempty ?_ ?_ ?_⟩
    · rintro front rfl
      exact ies front (String.append_assoc)
    · exact (ends_append_iff (sibilants.map (· ++ "e"))).not.mp plural
    · exact (ends_append_iff ["s"]).not.mp double
  obtain ⟨form, rule⟩ := rule
  rwa [rule.eq]

/-! There and back -/

/-- Words that are not the singular of their plural. -/
def LosesPlural (word : String) : Prop :=
  word = "" ∨ Ends ["se", "xe", "ze", "che", "she"] word ∨ Ends ["ie"] word ∧ word ≠ "ie"

instance (word : String) : Decidable (LosesPlural word) :=
  inferInstanceAs (Decidable (_ ∨ _ ∨ _))

/-- Words that are neither their singular nor a form of it: a final `ies` stands for a `y` after a
consonant, `ys` for one after a vowel, and after the sibilants `s` takes an `e`. -/
def LosesSingular (word : String) : Prop :=
  (∃ stem, word = stem ++ "ies" ∧ stem ≠ "" ∧ endsInConsonant stem = false) ∨
  (∃ stem, word = stem ++ "ys" ∧ endsInConsonant stem = true) ∨
  Ends ["xs", "zs", "chs", "shs"] word

theorem LosesPlural.ends {word : String} (loses : LosesPlural word) (nonempty : word ≠ "") :
    Ends ["e"] word := by
  rcases loses with empty | sibilant | ⟨ie, -⟩
  · exact absurd empty nonempty
  · exact ends_of_ends sibilant (by decide)
  · exact ends_of_ends ie (by decide)

theorem LosesSingular.ends {word : String} (loses : LosesSingular word) :
    Ends ["ies", "ys", "xs", "zs", "chs", "shs"] word := by
  rcases loses with ⟨stem, rfl, -⟩ | ⟨stem, rfl, -⟩ | sibilant
  · exact ends_of_ends (ends_append stem "ies") (by decide)
  · exact ends_of_ends (ends_append stem "ys") (by decide)
  · exact ends_of_ends sibilant (by decide)

private theorem append_left_ne {stem ending : String} (nonempty : ending ≠ "") : stem ≠ stem ++ ending := by
  intro same
  exact nonempty (String.append_eq_left_iff.mp same.symm)

private theorem stem_ne_empty {stem : String} (consonant : endsInConsonant stem = true) : stem ≠ "" := by
  rintro rfl
  cases consonant

/-- The singular of its plural is the word, unless the plural reads as that of another word. -/
theorem regularSingular_plural_iff {word form : String} (rule : Plural word form) :
    regularSingular form = word ↔ ¬ LosesPlural word := by
  cases rule with
  | @y stem consonant =>
    have last := ends_append stem "y"
    have nonempty : stem ++ "y" ≠ "" := by
      intro empty
      exact absurd (empty ▸ last) (by decide)
    refine iff_of_true (Singular.ies (stem_ne_empty consonant)).eq fun loses => ?_
    exact not_ends last (by decide) (loses.ends nonempty)
  | es sibilant =>
    have nonempty : word ≠ "" := by
      rintro rfl
      exact absurd sibilant (by decide)
    refine iff_of_true (Singular.es sibilant).eq fun loses => ?_
    exact not_ends sibilant (by decide) (loses.ends nonempty)
  | s sibilant vowel =>
    constructor
    · rintro same (rfl | hissing | ⟨ie, more⟩)
      · exact absurd same (by decide)
      · obtain ⟨stem, sibilant', rfl⟩ := (ends_map_append sibilants "e").mp hissing
        rw [String.append_assoc] at same
        exact append_left_ne (by decide) ((Singular.es sibilant').eq.symm.trans same)
      · obtain ⟨stem, rfl⟩ := ends_singleton.mp ie
        have nonempty : stem ≠ "" := by
          rintro rfl
          exact more rfl
        rw [String.append_assoc] at same
        have letters := (Singular.ies nonempty).eq.symm.trans same
        exact absurd ((String.append_right_inj stem).mp letters) (by decide)
    · intro kept
      refine (Singular.s ?_ ?_ ?_ ?_).eq
      · exact fun empty => kept (.inl empty)
      · rintro front rfl
        by_contra nonempty
        refine kept (.inr (.inr ⟨ends_append front "ie", fun same => nonempty ?_⟩))
        exact (String.append_left_inj "ie").mp same
      · exact fun hissing => kept (.inr (.inl hissing))
      · exact fun double => sibilant (ends_of_ends double (by decide))

private theorem Plural.length_lt {word form : String} (rule : Plural word form) : word.length < form.length := by
  cases rule with
  | y _ =>
    rw [String.length_append, String.length_append]
    exact Nat.add_lt_add_left (by decide) _
  | es _ =>
    rw [String.length_append]
    exact Nat.lt_add_of_pos_right (by decide)
  | s _ _ =>
    rw [String.length_append]
    exact Nat.lt_add_of_pos_right (by decide)

private theorem Singular.length_le {word form : String} (rule : Singular word form) :
    form.length ≤ word.length := by
  cases rule with
  | ies _ =>
    rw [String.length_append, String.length_append]
    exact Nat.add_le_add_left (by decide) _
  | es _ =>
    rw [String.length_append]
    exact Nat.le_add_right _ _
  | s _ _ _ _ =>
    rw [String.length_append]
    exact Nat.le_add_right _ _
  | same _ => exact Nat.le_refl _

private theorem regularPlural_eq_append_iff {form : String} (ie : ∀ front, form = front ++ "ie" → front = "")
    (double : ¬ Ends ["s"] form) :
    regularPlural form = form ++ "s" ↔ ¬ LosesSingular (form ++ "s") := by
  generalize made : regularPlural form = plural
  cases made ▸ plural_regularPlural form with
  | @y stem consonant =>
    rw [String.append_assoc]
    have other : stem ++ "ies" ≠ stem ++ "ys" :=
      fun same => absurd ((String.append_right_inj stem).mp same) (by decide)
    exact iff_of_false other (not_not_intro (.inr (.inl ⟨stem, rfl, consonant⟩)))
  | es sibilant =>
    have other : form ++ "es" ≠ form ++ "s" :=
      fun same => absurd ((String.append_right_inj form).mp same) (by decide)
    have hissing : Ends ["x", "z", "ch", "sh"] form := by
      rcases (Bool.or_eq_true _ _).mp sibilant with last | hissing
      · exact absurd (by simpa [Ends] using last) double
      · exact hissing
    exact iff_of_false other (not_not_intro (.inr (.inr ((ends_append_iff _).mpr hissing))))
  | s sibilant vowel =>
    refine iff_of_true rfl ?_
    rintro (⟨stem, same, nonempty, -⟩ | ⟨stem, same, consonant⟩ | hissing)
    · have split : form ++ "s" = stem ++ "ie" ++ "s" := by rw [same, String.append_assoc]; rfl
      exact nonempty (ie stem ((String.append_left_inj "s").mp split))
    · have split : form ++ "s" = stem ++ "y" ++ "s" := by rw [same, String.append_assoc]; rfl
      rw [vowel stem ((String.append_left_inj "s").mp split)] at consonant
      cases consonant
    · have hissing := (ends_append_iff ["x", "z", "ch", "sh"]).mp hissing
      exact sibilant (ends_of_ends hissing (by decide))

private theorem regularPlural_y_iff {stem : String} (nonempty : stem ≠ "") :
    regularPlural (stem ++ "y") = stem ++ "ies" ↔ ¬ LosesSingular (stem ++ "ies") := by
  cases consonant : endsInConsonant stem with
  | true =>
    refine iff_of_true (Plural.y consonant).eq ?_
    rintro (⟨stem', same, -, vowel⟩ | ⟨stem', same, -⟩ | hissing)
    · rw [← (String.append_left_inj "ies").mp same, consonant] at vowel
      cases vowel
    · exact not_ends (ends_append stem' "ys") (by decide) (same ▸ ends_append stem "ies")
    · exact not_ends (ends_append stem "ies") (by decide) hissing
  | false =>
    have sibilant : ¬ Ends sibilants (stem ++ "y") := not_ends (ends_append stem "y") (by decide)
    have vowel : ∀ stem', stem ++ "y" = stem' ++ "y" → endsInConsonant stem' = false := by
      intro stem' same
      rwa [← (String.append_left_inj "y").mp same]
    rw [(Plural.s sibilant vowel).eq, String.append_assoc]
    have other : stem ++ "ys" ≠ stem ++ "ies" :=
      fun same => absurd ((String.append_right_inj stem).mp same) (by decide)
    exact iff_of_false other (not_not_intro (.inl ⟨stem, rfl, nonempty, consonant⟩))

/-- The word is a form of its singular, unless the singular is one that is made plural otherwise. -/
private theorem mem_forms_iff {word form : String} (rule : Singular word form) :
    word ∈ [form, regularPlural form, regularSingular form] ↔ ¬ LosesSingular word := by
  have shorter (singular : form.length < word.length) :
      word ∈ [form, regularPlural form, regularSingular form] ↔ regularPlural form = word := by
    have length := (singular_regularSingular form).length_le
    have other : word ≠ form := by rintro rfl; omega
    have other' : word ≠ regularSingular form := by rintro rfl; omega
    simp [other, other', eq_comm]
  cases rule with
  | @ies stem nonempty =>
    rw [shorter, regularPlural_y_iff nonempty]
    rw [String.length_append, String.length_append]
    exact Nat.add_lt_add_left (by decide) _
  | es sibilant =>
    have plural : Ends sibilantPlurals (form ++ "es") := (ends_append_iff sibilants).mpr sibilant
    refine iff_of_true ?_ fun loses => not_ends plural (by decide) loses.ends
    simp [(Plural.es sibilant).eq]
  | s nonempty ie sibilant double =>
    rw [shorter, regularPlural_eq_append_iff ie double]
    rw [String.length_append]
    exact Nat.lt_add_of_pos_right (by decide)
  | same kept =>
    refine iff_of_true (List.mem_cons_self ..) fun loses => ?_
    rcases kept with double | rfl | missing
    · exact not_ends double (by decide) loses.ends
    · exact absurd loses.ends (by decide)
    · exact missing (ends_of_ends loses.ends (by decide))

/-! Lower case -/

theorem lower_regularPlural {word : String} (lower : Text.lower word = word) :
    Text.lower (regularPlural word) = regularPlural word := by
  generalize made : regularPlural word = plural
  cases made ▸ plural_regularPlural word with
  | y _ => exact lower_append_eq_self_iff.mpr ⟨(lower_append_eq_self_iff.mp lower).1, by decide +kernel⟩
  | es _ => exact lower_append_eq_self_iff.mpr ⟨lower, by decide +kernel⟩
  | s _ _ => exact lower_append_eq_self_iff.mpr ⟨lower, by decide +kernel⟩

private theorem lower_regularSingular {word : String} (lower : Text.lower word = word) :
    Text.lower (regularSingular word) = regularSingular word := by
  generalize made : regularSingular word = singular
  cases made ▸ singular_regularSingular word with
  | ies _ => exact lower_append_eq_self_iff.mpr ⟨(lower_append_eq_self_iff.mp lower).1, by decide +kernel⟩
  | es _ => exact (lower_append_eq_self_iff.mp lower).1
  | s _ _ _ _ => exact (lower_append_eq_self_iff.mp lower).1
  | same _ => exact lower

/-! Irregular pairs -/

/-- What pairs of words make of a word, from one half of a pair to the other. -/
def changed (pairs : List (String × String)) (key value : String × String → String)
    (regular : String → String) (word : String) : String :=
  match pairs.find? (key · == word) with
  | some pair => value pair
  | none => if pairs.any (value · == word) then word else regular word

section Pairs

private theorem changed_cases (pairs : List (String × String)) (key value : String × String → String)
    (regular : String → String) (word : String) :
    (∃ pair ∈ pairs, key pair = word ∧ changed pairs key value regular word = value pair) ∨
    (∀ pair ∈ pairs, key pair ≠ word) ∧
      ((∃ pair ∈ pairs, value pair = word) ∧ changed pairs key value regular word = word ∨
        (∀ pair ∈ pairs, value pair ≠ word) ∧
          changed pairs key value regular word = regular word) := by
  rw [changed]
  split
  case h_1 pair found =>
    exact .inl ⟨pair, List.mem_of_find?_eq_some found, by simpa using List.find?_some found, rfl⟩
  case h_2 missed =>
    refine .inr ⟨by simpa using missed, ?_⟩
    split
    case isTrue found => exact .inl ⟨by simpa using found, rfl⟩
    case isFalse other => exact .inr ⟨by simpa using other, rfl⟩

variable {pairs : List (String × String)} {key value : String × String → String}
  {regular regular' : String → String} {word : String}

private theorem changed_of_missing (missing : ∀ pair ∈ pairs, key pair ≠ word ∧ value pair ≠ word) :
    changed pairs key value regular word = regular word := by
  obtain ⟨pair, member, same, -⟩ | ⟨-, ⟨⟨pair, member, same⟩, -⟩ | ⟨-, result⟩⟩ :=
    changed_cases pairs key value regular word
  · exact absurd same (missing pair member).1
  · exact absurd same (missing pair member).2
  · exact result

private theorem changed_of_found (found : ∃ pair ∈ pairs, key pair = word ∨ value pair = word) :
    ∃ pair ∈ pairs, key pair = changed pairs key value regular word ∨
      value pair = changed pairs key value regular word := by
  obtain ⟨pair, member, -, result⟩ | ⟨missing, ⟨-, result⟩ | ⟨missing', -⟩⟩ :=
    changed_cases pairs key value regular word
  · exact ⟨pair, member, .inr result.symm⟩
  · rwa [result]
  · obtain ⟨pair, member, same | same⟩ := found
    · exact absurd same (missing pair member)
    · exact absurd same (missing' pair member)

private theorem changed_back (values : (pairs.map value).Nodup)
    (found : ∃ pair ∈ pairs, key pair = word ∨ value pair = word) :
    changed pairs key value regular word = word ∨
      changed pairs value key regular' (changed pairs key value regular word) = word := by
  obtain ⟨pair, member, same, result⟩ | ⟨missing, ⟨-, result⟩ | ⟨missing', -⟩⟩ :=
    changed_cases pairs key value regular word
  · right
    rw [result]
    obtain ⟨pair', member', same', back⟩ | ⟨missing, -⟩ :=
      changed_cases pairs value key regular' (value pair)
    · rw [back, List.inj_on_of_nodup_map values member' member same', same]
    · exact absurd rfl (missing pair member)
  · exact .inl result
  · obtain ⟨pair, member, same | same⟩ := found
    · exact absurd same (missing pair member)
    · exact absurd same (missing' pair member)

end Pairs

def Registered (naming : Naming) (word : String) : Prop :=
  ∃ pair ∈ naming.irregular, pair.1 = word ∨ pair.2 = word

instance (naming : Naming) (word : String) : Decidable (Registered naming word) :=
  inferInstanceAs (Decidable (∃ pair ∈ naming.irregular, _))

/-- No two pairs have one plural. -/
def OwnPlurals (naming : Naming) : Prop :=
  (naming.irregular.map Prod.snd).Nodup

/-- No two pairs have one singular. -/
def OwnSingulars (naming : Naming) : Prop :=
  (naming.irregular.map Prod.fst).Nodup

instance (naming : Naming) : Decidable (OwnPlurals naming) :=
  inferInstanceAs (Decidable (List.Nodup _))

instance (naming : Naming) : Decidable (OwnSingulars naming) :=
  inferInstanceAs (Decidable (List.Nodup _))

private theorem irregular_ofPairs (pairs : List (String × String)) :
    (Naming.ofPairs pairs).irregular = pairs.map (Prod.map Text.lower Text.lower) := by
  have grown : ∀ naming : Naming,
      (pairs.foldl (fun naming pair => naming.withIrregular pair.1 pair.2) naming).irregular =
        naming.irregular ++ pairs.map (Prod.map Text.lower Text.lower) := by
    induction pairs with
    | nil => simp
    | cons pair pairs ih =>
      intro naming
      rw [List.foldl_cons, ih]
      simp [withIrregular, Prod.map]
  exact grown regular

private theorem lower_of_registered {pairs : List (String × String)} {word : String}
    (registered : Registered (Naming.ofPairs pairs) word) : Text.lower word = word := by
  obtain ⟨pair, member, half⟩ := registered
  rw [irregular_ofPairs, List.mem_map] at member
  obtain ⟨written, -, rfl⟩ := member
  rcases half with rfl | rfl
  · exact lower_lower written.1
  · exact lower_lower written.2

section Naming

variable {naming : Naming} {word form : String}

private theorem pluralize_eq (lower : Text.lower word = word) :
    naming.pluralize word = changed naming.irregular Prod.fst Prod.snd regularPlural word := by
  rw [pluralize, changed, lower]
  cases naming.irregular.find? (·.1 == word) <;> rfl

private theorem singularize_eq (lower : Text.lower word = word) :
    naming.singularize word = changed naming.irregular Prod.snd Prod.fst regularSingular word := by
  rw [singularize, changed, lower]
  cases naming.irregular.find? (·.2 == word) <;> rfl

theorem mem_variants (lower : Text.lower word = word) :
    form ∈ naming.variants word ↔
      form = word ∨ form = naming.pluralize word ∨ form = naming.singularize word := by
  simp [variants, lower]

private theorem registered_pluralize (lower : Text.lower word = word) (registered : Registered naming word) :
    Registered naming (naming.pluralize word) := by
  rw [pluralize_eq lower]
  exact changed_of_found registered

private theorem registered_singularize (lower : Text.lower word = word) (registered : Registered naming word) :
    Registered naming (naming.singularize word) := by
  rw [singularize_eq lower]
  obtain ⟨pair, member, half⟩ := registered
  obtain ⟨pair, member, half⟩ := changed_of_found ⟨pair, member, half.symm⟩
  exact ⟨pair, member, half.symm⟩

theorem pluralize_of_not_registered (lower : Text.lower word = word) (other : ¬ Registered naming word) :
    naming.pluralize word = regularPlural word := by
  rw [pluralize_eq lower]
  exact changed_of_missing fun pair member =>
    ⟨fun same => other ⟨pair, member, .inl same⟩, fun same => other ⟨pair, member, .inr same⟩⟩

theorem singularize_of_not_registered (lower : Text.lower word = word) (other : ¬ Registered naming word) :
    naming.singularize word = regularSingular word := by
  rw [singularize_eq lower]
  exact changed_of_missing fun pair member =>
    ⟨fun same => other ⟨pair, member, .inr same⟩, fun same => other ⟨pair, member, .inl same⟩⟩

private theorem registered_of_mem_variants (lower : Text.lower word = word) (registered : Registered naming word)
    (member : form ∈ naming.variants word) : Registered naming form := by
  rcases (mem_variants lower).mp member with rfl | rfl | rfl
  · exact registered
  · exact registered_pluralize lower registered
  · exact registered_singularize lower registered

/-- A regular word is a form of its plural, unless the plural is irregular or another word's. -/
theorem mem_variants_pluralize_iff (lower : Text.lower word = word) (other : ¬ Registered naming word) :
    word ∈ naming.variants (naming.pluralize word) ↔
      ¬ Registered naming (naming.pluralize word) ∧ ¬ LosesPlural word := by
  rw [pluralize_of_not_registered lower other]
  have lower' := lower_regularPlural lower
  by_cases registered : Registered naming (regularPlural word)
  · refine iff_of_false ?_ fun kept => kept.1 registered
    exact fun member => other (registered_of_mem_variants lower' registered member)
  · have rule := plural_regularPlural word
    have longer := rule.length_lt
    have longest := (plural_regularPlural (regularPlural word)).length_lt
    have differs : word ≠ regularPlural word := by
      intro same
      rw [← same] at longer
      omega
    have differs' : word ≠ regularPlural (regularPlural word) := by
      intro same
      rw [← same] at longest
      omega
    rw [mem_variants lower', pluralize_of_not_registered lower' registered,
      singularize_of_not_registered lower' registered, ← regularSingular_plural_iff rule]
    simp [differs, differs', registered, eq_comm]

/-- A regular word is a form of its singular, unless the singular is irregular or another word's. -/
theorem mem_variants_singularize_iff (lower : Text.lower word = word) (other : ¬ Registered naming word) :
    word ∈ naming.variants (naming.singularize word) ↔
      ¬ Registered naming (naming.singularize word) ∧ ¬ LosesSingular word := by
  rw [singularize_of_not_registered lower other]
  have lower' := lower_regularSingular lower
  by_cases registered : Registered naming (regularSingular word)
  · refine iff_of_false ?_ fun kept => kept.1 registered
    exact fun member => other (registered_of_mem_variants lower' registered member)
  · rw [mem_variants lower', pluralize_of_not_registered lower' registered,
      singularize_of_not_registered lower' registered, ← mem_forms_iff (singular_regularSingular word)]
    simp [registered]

end Naming

section Registered

variable {pairs : List (String × String)} {word : String}

/-- An irregular word is a form of its plural, if no two words have one plural. -/
theorem mem_variants_pluralize (registered : Registered (Naming.ofPairs pairs) word)
    (own : OwnPlurals (Naming.ofPairs pairs)) :
    word ∈ (Naming.ofPairs pairs).variants ((Naming.ofPairs pairs).pluralize word) := by
  have lower := lower_of_registered registered
  have lower' := lower_of_registered (registered_pluralize lower registered)
  rw [mem_variants lower', singularize_eq lower', pluralize_eq lower]
  rcases changed_back own registered with same | back
  · exact .inl same.symm
  · exact .inr (.inr back.symm)

/-- An irregular word is a form of its singular, if no word has two plurals. -/
theorem mem_variants_singularize (registered : Registered (Naming.ofPairs pairs) word)
    (own : OwnSingulars (Naming.ofPairs pairs)) :
    word ∈ (Naming.ofPairs pairs).variants ((Naming.ofPairs pairs).singularize word) := by
  have lower := lower_of_registered registered
  have lower' := lower_of_registered (registered_singularize lower registered)
  rw [mem_variants lower', pluralize_eq lower', singularize_eq lower]
  obtain ⟨pair, member, half⟩ := registered
  rcases changed_back own ⟨pair, member, half.symm⟩ with same | back
  · exact .inl same.symm
  · exact .inr (.inl back.symm)

end Registered

end ResourceQuery.Proofs.WordForms

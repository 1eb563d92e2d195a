import Mathlib.Data.List.Basic
import ResourceQuery.Text.Lower

/-! Lower case. A text is in lower case exactly if each of its characters is, whatever stands around it;
and what lower-casing writes is in lower case, as the table leads to no character that it covers. -/

namespace ResourceQuery.Proofs.LowerCase
open Text

/-- Characters that lower-casing leaves alone. Of a capital sigma the neighbours decide what becomes. -/
def IsLower (character : Char) : Prop :=
  character.toNat ≠ 0x3A3 ∧ lowerAlone character = [character]

instance (character : Char) : Decidable (IsLower character) :=
  inferInstanceAs (Decidable (_ ∧ _))

/-! The table -/

/-- Where a run leads a character to. -/
def partner (run : CaseRun) (code : Nat) : Nat :=
  (code + run.distance).toNat

/-- Whether the run covers nothing from `low` to `high`, in steps of `step`. Runs through the same letters
are kept apart by their steps, which are over capitals here and over small letters there. -/
def misses (run : CaseRun) (low high step : Nat) : Bool :=
  Nat.blt high run.first || Nat.blt run.last low ||
    (Nat.beq run.step 2 && Nat.beq ((low + run.first) % 2) 1 && (Nat.beq step 2 || Nat.beq low high))

/-- Whether all that the run leads to are characters that no run covers. -/
def settles (run : CaseRun) : Bool :=
  let low := partner run run.first
  let high := partner run run.last
  0 ≤ run.first + run.distance && Nat.blt 'Z'.toNat low &&
    (Nat.blt high 0xD800 || Nat.blt 0xDFFF low && Nat.blt high 0x110000) &&
    (Nat.blt high 0x130 || Nat.blt 0x130 low) && (Nat.blt high 0x3A3 || Nat.blt 0x3A3 low) &&
    lowerRuns.all fun other => misses other low high run.step

private theorem runs_settle : lowerRuns.all settles = true := by
  decide +kernel

private theorem misses_covers {run : CaseRun} {low high step code : Nat} (missed : misses run low high step = true)
    (bounds : low ≤ code ∧ code ≤ high) (steps : step = 2 → (code - low) % 2 = 0) :
    run.covers code = false := by
  rw [Bool.eq_false_iff]
  intro covered
  simp only [misses, Bool.or_eq_true, Bool.and_eq_true, Nat.blt_eq, Nat.beq_eq] at missed
  simp only [CaseRun.covers, Bool.and_eq_true, decide_eq_true_eq, beq_iff_eq] at covered
  obtain ⟨⟨from_first, to_last⟩, remainder⟩ := covered
  rcases missed with (before | after) | ⟨⟨width, odd⟩, even⟩
  · omega
  · omega
  · have places : (code - low) % 2 = 0 := by
      rcases even with even | single
      · exact steps even
      · omega
    rw [width] at remainder
    omega

private theorem partner_between {run : CaseRun} {code : Nat} (covered : run.covers code = true)
    (natural : 0 ≤ run.first + run.distance) :
    partner run run.first ≤ partner run code ∧ partner run code ≤ partner run run.last ∧
      (run.step = 2 → (partner run code - partner run run.first) % 2 = 0) := by
  simp only [CaseRun.covers, Bool.and_eq_true, decide_eq_true_eq, beq_iff_eq] at covered
  obtain ⟨⟨from_first, to_last⟩, remainder⟩ := covered
  simp only [partner]
  refine ⟨by omega, by omega, ?_⟩
  intro width
  rw [width] at remainder
  omega

private theorem toNat_ofNat {code : Nat} (valid : code.isValidChar) : (Char.ofNat code).toNat = code := by
  rw [Char.ofNat, dif_pos valid]
  rfl

private theorem lowerAlone_of_missed {character : Char} (beyond : 0x80 ≤ character.toNat)
    (dotted : character.toNat ≠ 0x130)
    (missed : ∀ run ∈ lowerRuns, run.covers character.toNat = false) :
    lowerAlone character = [character] := by
  have none : lowerRuns.find? (·.covers character.toNat) = none := by
    rw [List.find?_eq_none]
    intro run member
    simp [missed run member]
  simp only [lowerAlone, none]
  rw [if_neg (by omega), if_neg dotted]

private theorem isLower_ascii : ∀ code < 0x80, IsLower (Char.ofNat code).toLower ∧
    ('Z'.toNat < code → IsLower (Char.ofNat code)) := by
  decide +kernel

private theorem isLower_partner {run : CaseRun} (member : run ∈ lowerRuns) {code : Nat}
    (covered : run.covers code = true) : IsLower (Char.ofNat (partner run code)) := by
  have settled := List.all_eq_true.mp runs_settle run member
  simp only [settles, Bool.and_eq_true, Bool.or_eq_true, decide_eq_true_eq, Nat.blt_eq,
    List.all_eq_true] at settled
  obtain ⟨⟨⟨⟨⟨natural, small⟩, valid⟩, dotted⟩, sigma⟩, missed⟩ := settled
  obtain ⟨above, below, steps⟩ := partner_between covered natural
  have number : (Char.ofNat (partner run code)).toNat = partner run code := by
    apply toNat_ofNat
    simp only [Nat.isValidChar]
    omega
  rcases Nat.lt_or_ge (partner run code) 0x80 with ascii | beyond
  · exact (isLower_ascii _ ascii).2 (by omega)
  · refine ⟨by omega, lowerAlone_of_missed (by omega) (by omega) ?_⟩
    intro other member'
    rw [number]
    exact misses_covers (missed other member') ⟨above, below⟩ steps

/-! Characters -/

private theorem lowerAlone_ne_nil (character : Char) : lowerAlone character ≠ [] := by
  simp only [lowerAlone]
  split
  · simp
  · split
    · simp
    · split <;> simp

private theorem isLower_of_mem_lowerAlone {character letter : Char} (sigma : character.toNat ≠ 0x3A3)
    (member : letter ∈ lowerAlone character) : IsLower letter := by
  have alone : lowerAlone character = [character] → IsLower letter := by
    intro same
    rw [same, List.mem_singleton] at member
    rw [member]
    exact ⟨sigma, same⟩
  simp only [lowerAlone] at member alone
  split at member
  case isTrue ascii =>
    have lowered := (isLower_ascii _ ascii).1
    rwa [Char.ofNat_toNat, ← List.mem_singleton.mp member] at lowered
  case isFalse beyond =>
    split at member
    case isTrue dotted =>
      rcases List.mem_pair.mp member with rfl | rfl <;> decide
    case isFalse dotted =>
      split at member
      case h_1 run found =>
        rw [List.mem_singleton.mp member]
        exact isLower_partner (List.mem_of_find?_eq_some found) (by simpa using List.find?_some found)
      case h_2 missed =>
        refine alone ?_
        rw [if_neg beyond, if_neg dotted, missed]

/-- What the character becomes between those passed and those that follow. -/
def lowered (passed : List Char) (character : Char) (rest : List Char) : List Char :=
  if character.toNat = 0x3A3 then
    if meetsCased passed && !meetsCased rest then [Char.ofNat 0x3C2] else [Char.ofNat 0x3C3]
  else lowerAlone character

private theorem lowerAfter_cons (passed : List Char) (character : Char) (rest : List Char) :
    lowerAfter passed (character :: rest) =
      lowered passed character rest ++ lowerAfter (character :: passed) rest :=
  rfl

private theorem lowered_ne_nil (passed : List Char) (character : Char) (rest : List Char) :
    lowered passed character rest ≠ [] := by
  unfold lowered
  split
  · split <;> simp
  · exact lowerAlone_ne_nil character

private theorem isLower_of_mem_lowered {passed rest : List Char} {character letter : Char}
    (member : letter ∈ lowered passed character rest) : IsLower letter := by
  unfold lowered at member
  split at member
  case isTrue sigma =>
    split at member
    · rw [List.mem_singleton.mp member]
      decide
    · rw [List.mem_singleton.mp member]
      decide
  case isFalse other => exact isLower_of_mem_lowerAlone other member

private theorem lowered_eq_self_iff {passed rest : List Char} {character : Char} :
    lowered passed character rest = [character] ↔ IsLower character := by
  constructor
  · intro same
    exact isLower_of_mem_lowered (same ▸ List.mem_singleton_self character)
  · rintro ⟨sigma, same⟩
    rw [lowered, if_neg sigma, same]

/-! Texts -/

private theorem length_le_lowerAfter (passed letters : List Char) :
    letters.length ≤ (lowerAfter passed letters).length := by
  induction letters generalizing passed with
  | nil => simp
  | cons character rest ih =>
    have some := List.length_pos_iff.mpr (lowered_ne_nil passed character rest)
    have others := ih (character :: passed)
    rw [lowerAfter_cons, List.length_append, List.length_cons]
    omega

/-- Every character becomes one at least, so that a text of the same length has each in its place. -/
private theorem lowerAfter_eq_self_iff {passed letters : List Char} :
    lowerAfter passed letters = letters ↔ ∀ letter ∈ letters, IsLower letter := by
  induction letters generalizing passed with
  | nil => simp [lowerAfter]
  | cons character rest ih =>
    have others := length_le_lowerAfter (character :: passed) rest
    have some := List.length_pos_iff.mpr (lowered_ne_nil passed character rest)
    rw [lowerAfter_cons, List.forall_mem_cons, ← @lowered_eq_self_iff passed rest character,
      ← @ih (character :: passed)]
    constructor
    · intro same
      have length := congrArg List.length same
      rw [List.length_append, List.length_cons] at length
      exact List.append_inj same (by rw [List.length_singleton]; omega)
    · rintro ⟨first, following⟩
      rw [first, following]
      rfl

private theorem isLower_of_mem_lowerAfter {passed letters : List Char} :
    ∀ letter ∈ lowerAfter passed letters, IsLower letter := by
  induction letters generalizing passed with
  | nil => simp [lowerAfter]
  | cons character rest ih =>
    rw [lowerAfter_cons, List.forall_mem_append]
    exact ⟨fun _ => isLower_of_mem_lowered, ih⟩

private theorem lower_eq_self_iff {text : String} :
    lower text = text ↔ ∀ letter ∈ text.toList, IsLower letter := by
  rw [lower, ← String.toList_inj, String.toList_ofList, lowerAfter_eq_self_iff]

theorem lower_lower (text : String) : lower (lower text) = lower text := by
  rw [lower_eq_self_iff, lower, String.toList_ofList]
  exact isLower_of_mem_lowerAfter

theorem lower_append_eq_self_iff {first second : String} :
    lower (first ++ second) = first ++ second ↔ lower first = first ∧ lower second = second := by
  simp only [lower_eq_self_iff, String.toList_append, List.forall_mem_append]

end ResourceQuery.Proofs.LowerCase

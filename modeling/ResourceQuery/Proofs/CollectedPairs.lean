import Mathlib.Algebra.BigOperators.Group.List.Lemmas
import Mathlib.Algebra.GroupWithZero.Nat
import ResourceQuery.Proofs.RepeatedKeys

/-! Parameters and the pairs they are made of. Each key stands where it occurred first, with the values it was
paired with: a lone one by itself, several in a list. No other parameters are made of the same pairs. -/

namespace ResourceQuery.Proofs.CollectedPairs
open RepeatedKeys

inductive Kept : List String → ParameterValue → Prop
  | one (value : String) : Kept [value] (.one value)
  | many {values : List String} (several : 2 ≤ values.length) : Kept values (.many values)

private theorem kept_iff {values : List String} {value : ParameterValue} :
    Kept values value ↔ values ≠ [] ∧ value = collapsed values := by
  constructor
  · rintro (single | several)
    · exact ⟨List.cons_ne_nil _ _, rfl⟩
    · match values, several with
      | _ :: _ :: _, _ => exact ⟨List.cons_ne_nil _ _, rfl⟩
  · rintro ⟨some, rfl⟩
    match values, some with
    | [single], _ => exact .one single
    | _ :: _ :: _, _ => exact .many (by simp)

def Before (pairs : List (String × String)) (first second : String) : Prop :=
  (pairs.map (·.1)).idxOf first < (pairs.map (·.1)).idxOf second

def keys (parameters : Parameters) : List String :=
  parameters.entries.map (·.1)

/-- The parameters hold the pairs and nothing else. -/
structure Collects (parameters : Parameters) (pairs : List (String × String)) : Prop where
  distinct : (keys parameters).Nodup
  ordered : (keys parameters).Pairwise (Before pairs)
  occurring : ∀ key, key ∈ keys parameters ↔ key ∈ pairs.map (·.1)
  kept : ∀ entry ∈ parameters.entries, Kept (valuesOf pairs entry.1) entry.2
  total : (parameters.entries.map fun entry => entry.2.values.length).sum = pairs.length
  found : ∀ key, (∃ value ∈ parameters.get? key, Kept (valuesOf pairs key) value) ↔
    key ∈ pairs.map (·.1)
  missed : ∀ key, parameters.get? key = none ↔ key ∉ pairs.map (·.1)

private theorem mem_keysOf {pairs : List (String × String)} {key : String} :
    key ∈ keysOf pairs ↔ key ∈ pairs.map (·.1) :=
  List.mem_eraseDups

private theorem kept_collapsed {pairs : List (String × String)} {key : String} (known : key ∈ keysOf pairs) :
    Kept (valuesOf pairs key) (collapsed (valuesOf pairs key)) :=
  kept_iff.mpr ⟨mem_keysOf_iff.mp known, rfl⟩

private theorem pairwise_keysOf (pairs : List (String × String)) : (keysOf pairs).Pairwise (Before pairs) := by
  induction pairs using List.reverseRecOn with
  | nil => exact .nil
  | append_singleton pairs pair ih =>
    obtain ⟨key, value⟩ := pair
    have place {other : String} (known : other ∈ keysOf pairs) :
        ((pairs ++ [(key, value)]).map (·.1)).idxOf other = (pairs.map (·.1)).idxOf other := by
      rw [List.map_append, List.idxOf_append_of_mem (mem_keysOf.mp known)]
    have earlier : (keysOf pairs).Pairwise (Before (pairs ++ [(key, value)])) := by
      refine ih.imp_of_mem fun {first second} known known' before => ?_
      rwa [Before, place known, place known']
    rw [keysOf_concat]
    split
    next => exact earlier
    next new =>
      refine List.pairwise_append.mpr ⟨earlier, List.pairwise_singleton _ _, ?_⟩
      intro other known last member
      obtain rfl := List.mem_singleton.mp member
      have inside := List.idxOf_lt_length_of_mem (mem_keysOf.mp known)
      rw [Before, place known, List.map_append,
        List.idxOf_append_of_notMem fun member => new (mem_keysOf.mpr member)]
      exact inside.trans_le (Nat.le_add_right _ _)

private theorem length_valuesOf (pairs : List (String × String)) (key : String) :
    (valuesOf pairs key).length = (pairs.map (·.1)).count key := by
  rw [valuesOf, List.length_map, ← List.countP_eq_length_filter, List.count, List.countP_map]
  rfl

theorem keysOf_perm (pairs : List (String × String)) :
    (keysOf pairs).Perm (pairs.map (·.1)).dedup := by
  apply (List.perm_ext_iff_of_nodup (nodup_keysOf pairs) (List.nodup_dedup _)).mpr
  intro key
  rw [mem_keysOf, List.mem_dedup]

private theorem sum_valuesOf (pairs : List (String × String)) :
    ((keysOf pairs).map fun key => (valuesOf pairs key).length).sum = pairs.length := by
  simp only [length_valuesOf]
  rw [((keysOf_perm pairs).map _).sum_eq, List.sum_map_count_dedup_eq_length, List.length_map]

private theorem keys_ofPairs (pairs : List (String × String)) : keys (.ofPairs pairs) = keysOf pairs := by
  rw [keys, entries_ofPairs, List.map_map]
  exact List.map_id _

private theorem get?_ofPairs_eq_none_iff {pairs : List (String × String)} {key : String} :
    (Parameters.ofPairs pairs).get? key = none ↔ key ∉ pairs.map (·.1) := by
  rw [get?_ofPairs, ← mem_keysOf]
  by_cases known : key ∈ keysOf pairs <;> simp [known]

private theorem collects_ofPairs (pairs : List (String × String)) : Collects (.ofPairs pairs) pairs where
  distinct := keys_ofPairs pairs ▸ nodup_keysOf pairs
  ordered := keys_ofPairs pairs ▸ pairwise_keysOf pairs
  occurring _ := keys_ofPairs pairs ▸ mem_keysOf
  kept := by
    rw [entries_ofPairs]
    intro entry member
    obtain ⟨key, known, rfl⟩ := List.mem_map.mp member
    exact kept_collapsed known
  total := by
    simp only [entries_ofPairs, List.map_map, Function.comp_def, collapsed_values, sum_valuesOf]
  found key := by
    constructor
    · rintro ⟨value, found, -⟩
      by_contra unknown
      rw [get?_ofPairs_eq_none_iff.mpr unknown] at found
      cases found
    · intro known
      refine ⟨_, ?_, kept_collapsed (mem_keysOf.mpr known)⟩
      rw [get?_ofPairs, if_pos (mem_keysOf.mpr known)]
      rfl
  missed _ := get?_ofPairs_eq_none_iff

/-- Order and occurrence leave no choice of keys, and each key none of its value. -/
private theorem Collects.eq_ofPairs {parameters : Parameters} {pairs : List (String × String)}
    (collects : Collects parameters pairs) : parameters = .ofPairs pairs := by
  have perm : (keys parameters).Perm (keysOf pairs) := by
    apply (List.perm_ext_iff_of_nodup collects.distinct (nodup_keysOf pairs)).mpr
    intro key
    rw [collects.occurring, mem_keysOf]
  have same : keys parameters = keysOf pairs :=
    perm.eq_of_pairwise (fun _ _ _ _ before after => absurd before (Nat.lt_asymm after))
      collects.ordered (pairwise_keysOf pairs)
  have entries : parameters.entries = (Parameters.ofPairs pairs).entries := by
    rw [entries_ofPairs, ← same, keys, List.map_map]
    conv_lhs => rw [← List.map_id parameters.entries]
    apply List.map_congr_left
    intro entry member
    exact Prod.ext rfl (kept_iff.mp (collects.kept entry member)).2
  cases parameters
  exact congrArg Parameters.mk entries

/-- Exactly the parameters made of pairs hold them: nothing is lost, repeated or reordered within a key. -/
theorem parameters_hold_their_pairs (pairs : List (String × String)) (parameters : Parameters) :
    parameters = .ofPairs pairs ↔ Collects parameters pairs := by
  constructor
  · rintro rfl
    exact collects_ofPairs pairs
  · exact Collects.eq_ofPairs

example : (Parameters.ofPairs [("tag", "a"), ("page", "1"), ("tag", "b")]).entries =
    [("tag", .many ["a", "b"]), ("page", .one "1")] := by decide

end ResourceQuery.Proofs.CollectedPairs

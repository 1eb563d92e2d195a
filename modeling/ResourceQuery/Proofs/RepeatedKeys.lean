import Mathlib.Data.List.Induction
import ResourceQuery.Http.Link
import ResourceQuery.Request.Intent

/-! Parameters made of pairs: which keys there are, which values each key has, and what a request
reads from them. -/

namespace ResourceQuery.Proofs.RepeatedKeys

def keysOf (pairs : List (String × String)) : List String :=
  (pairs.map (·.1)).eraseDups

def valuesOf (pairs : List (String × String)) (key : String) : List String :=
  (pairs.filter (·.1 = key)).map (·.2)

def collapsed : List String → ParameterValue
  | [value] => .one value
  | values => .many values

theorem collapsed_values (values : List String) : (collapsed values).values = values := by
  unfold collapsed
  split <;> rfl

theorem mem_keysOf_iff {pairs : List (String × String)} {key : String} :
    key ∈ keysOf pairs ↔ valuesOf pairs key ≠ [] := by
  simp [keysOf, valuesOf, List.mem_eraseDups]

private theorem collapsed_push {values : List String} (some : values ≠ []) (value : String) :
    (collapsed values).push value = collapsed (values ++ [value]) := by
  rw [ParameterValue.push, collapsed_values]
  cases values with
  | nil => exact (some rfl).elim
  | cons first rest => cases rest <;> rfl

theorem nodup_eraseDups (texts : List String) : texts.eraseDups.Nodup := by
  induction h : texts.length using Nat.strongRecOn generalizing texts with
  | ind size ih =>
    cases texts with
    | nil => exact .nil
    | cons first rest =>
      rw [List.eraseDups_cons, List.nodup_cons]
      refine ⟨?_, ih _ ?_ _ rfl⟩
      · simp [List.mem_eraseDups]
      · have shorter := List.length_filter_le (fun text => !text == first) rest
        rw [← h, List.length_cons]
        omega

theorem nodup_keysOf (pairs : List (String × String)) : (keysOf pairs).Nodup :=
  nodup_eraseDups _

private theorem pushEntry_map {keys : List String} (distinct : keys.Nodup) {key : String}
    (known : key ∈ keys) (value : String) (entry : String → ParameterValue) :
    Parameters.pushEntry key value (keys.map fun other => (other, entry other)) =
      keys.map fun other => (other, if other = key then (entry other).push value else entry other) := by
  induction keys with
  | nil => cases known
  | cons first rest ih =>
    obtain ⟨absent, distinct⟩ := List.nodup_cons.mp distinct
    simp only [List.map_cons, Parameters.pushEntry]
    by_cases same : first = key
    · subst same
      simp only [↓reduceIte, List.cons.injEq, true_and]
      apply List.map_congr_left
      intro other member
      rw [if_neg]
      rintro rfl
      exact absent member
    · have known := (List.mem_cons.mp known).resolve_left (Ne.symm same)
      simp only [same, ↓reduceIte, ih distinct known]

private theorem pushEntry_new {entries : List (String × ParameterValue)} {key : String}
    (new : key ∉ entries.map (·.1)) (value : String) :
    Parameters.pushEntry key value entries = entries ++ [(key, .one value)] := by
  induction entries with
  | nil => rfl
  | cons entry rest ih =>
    simp only [List.map_cons, List.mem_cons, not_or] at new
    simp only [Parameters.pushEntry, Ne.symm new.1, ↓reduceIte, ih new.2, List.cons_append]

/-- A text that comes last is new exactly if it did not occur before. -/
theorem eraseDups_concat (texts : List String) (text : String) :
    (texts ++ [text]).eraseDups =
      if text ∈ texts then texts.eraseDups else texts.eraseDups ++ [text] := by
  by_cases known : text ∈ texts
  · simp [List.eraseDups_append, List.removeAll, known]
  · simp [List.eraseDups_append, List.removeAll, known, List.eraseDups_cons]

theorem keysOf_concat (pairs : List (String × String)) (key value : String) :
    keysOf (pairs ++ [(key, value)]) =
      if key ∈ keysOf pairs then keysOf pairs else keysOf pairs ++ [key] := by
  rw [keysOf, List.map_append, List.map_singleton, eraseDups_concat]
  simp only [keysOf, List.mem_eraseDups]

theorem valuesOf_concat_same (pairs : List (String × String)) (key value : String) :
    valuesOf (pairs ++ [(key, value)]) key = valuesOf pairs key ++ [value] := by
  simp [valuesOf]

theorem valuesOf_concat_other (pairs : List (String × String)) {key other : String} (value : String)
    (apart : other ≠ key) : valuesOf (pairs ++ [(key, value)]) other = valuesOf pairs other := by
  simp [valuesOf, apart.symm]

/-- Nothing is lost, repeated or reordered within a key. -/
theorem entries_ofPairs (pairs : List (String × String)) :
    (Parameters.ofPairs pairs).entries =
      (keysOf pairs).map fun key => (key, collapsed (valuesOf pairs key)) := by
  induction pairs using List.reverseRecOn with
  | nil => rfl
  | append_singleton pairs pair ih =>
    obtain ⟨key, value⟩ := pair
    have step : (Parameters.ofPairs (pairs ++ [(key, value)])).entries =
        Parameters.pushEntry key value (Parameters.ofPairs pairs).entries := by
      simp [Parameters.ofPairs, Parameters.push]
    rw [step, ih, keysOf_concat]
    by_cases known : key ∈ keysOf pairs
    · rw [pushEntry_map (nodup_keysOf pairs) known, if_pos known]
      apply List.map_congr_left
      intro other member
      by_cases same : other = key
      · subst same
        rw [if_pos rfl, collapsed_push (mem_keysOf_iff.mp member), valuesOf_concat_same]
      · rw [if_neg same, valuesOf_concat_other pairs value same]
    · rw [pushEntry_new (by simpa using known), if_neg known, List.map_append]
      congr 1
      · apply List.map_congr_left
        intro other member
        rw [valuesOf_concat_other]
        rintro rfl
        exact known member
      · have empty := Decidable.not_not.mp (mt mem_keysOf_iff.mpr known)
        simp [valuesOf_concat_same, empty, collapsed]

/-- A key is found exactly when it occurred, with all its values. -/
theorem get?_ofPairs (pairs : List (String × String)) (key : String) :
    (Parameters.ofPairs pairs).get? key =
      if key ∈ keysOf pairs then some (collapsed (valuesOf pairs key)) else none := by
  rw [Parameters.get?, entries_ofPairs]
  induction keysOf pairs with
  | nil => rfl
  | cons first rest ih =>
    simp only [List.map_cons, List.find?_cons, List.mem_cons]
    by_cases same : first = key
    · simp [same]
    · simp only [decide_eq_false same, ih, Ne.symm same, false_or]

/-- Every key that is not reserved is a filter with all its values. -/
theorem filters_parse (pairs : List (String × String)) :
    (Intent.parse (.ofPairs pairs)).filters =
      ((keysOf pairs).filter (· ∉ Intent.reserved)).map fun key =>
        ⟨key, collapsed (valuesOf pairs key)⟩ := by
  simp only [Intent.parse, entries_ofPairs, List.filter_map, List.map_map]
  rfl

def number? (pairs : List (String × String)) (key : String) : Option Int :=
  (valuesOf pairs key).head?.bind Intent.coerceInteger

private theorem number?_eq (pairs : List (String × String)) (key : String) :
    ((Parameters.ofPairs pairs).get? key).bind (fun value => Intent.coerceInteger value.first) =
      number? pairs key := by
  rw [get?_ofPairs, number?]
  by_cases known : key ∈ keysOf pairs
  · obtain ⟨first, rest, values⟩ := List.exists_cons_of_ne_nil (mem_keysOf_iff.mp known)
    simp [known, ParameterValue.first, collapsed_values, values]
  · have empty := Decidable.not_not.mp (mt mem_keysOf_iff.mpr known)
    simp [known, empty]

theorem pagination_parse (pairs : List (String × String)) :
    (Intent.parse (.ofPairs pairs)).pagination =
      { page := ((number? pairs "_page").map fun value => (max value 1).toNat).getD 1
        perPage := ((number? pairs "_per_page").map fun value =>
          (max 1 (min value Intent.maxPerPage)).toNat).getD 10
        start := number? pairs "_start"
        stop := number? pairs "_end"
        limit := number? pairs "_limit" } := by
  simp only [Intent.parse, Intent.parsePagination, number?_eq]

/-- Pieces without the mark are what their join is split into. -/
theorem split_join {mark : Char} {separator : String} (single : separator.toList = [mark])
    {pieces : List String} (clean : ∀ piece ∈ pieces, mark ∉ piece.toList) (some : pieces ≠ []) :
    Text.split mark (Text.join separator pieces) = pieces := by
  have marked : ∀ piece ∈ pieces.map String.toList, mark ∉ piece := List.forall_mem_map.mpr clean
  rw [Text.split, Text.join, String.toList_ofList, single,
    List.splitOn_intercalate mark marked (by simpa using some), List.map_map]
  simp

/-- The trimmed parts of all values that pairs give a key, in order. -/
def tokensOf (pairs : List (String × String)) (key : String) : List String :=
  ((valuesOf pairs key).flatMap (Text.split ',')).map Text.trim

private theorem tokens_get? {Value : Type} (read : List String → List Value) (none : read [] = [])
    (pairs : List (String × String)) (key : String) :
    (((Parameters.ofPairs pairs).get? key).map fun value => read (Intent.tokens value)).getD [] =
      read (tokensOf pairs key) := by
  rw [get?_ofPairs]
  by_cases known : key ∈ keysOf pairs
  · simp only [if_pos known, Option.map_some, Option.getD_some, Intent.tokens, collapsed_values, tokensOf]
  · have empty := Decidable.not_not.mp (mt mem_keysOf_iff.mpr known)
    simp only [if_neg known, Option.map_none, Option.getD_none, tokensOf, empty, List.flatMap_nil,
      List.map_nil, none]

theorem sort_parse (pairs : List (String × String)) :
    (Intent.parse (.ofPairs pairs)).sort = (tokensOf pairs "_sort").filterMap Intent.sortField? :=
  tokens_get? (List.filterMap Intent.sortField?) rfl pairs "_sort"

theorem embed_parse (pairs : List (String × String)) :
    (Intent.parse (.ofPairs pairs)).embed = ((tokensOf pairs "_embed").filter (· != "")).eraseDups :=
  tokens_get? (fun tokens => (tokens.filter (· != "")).eraseDups) rfl pairs "_embed"

theorem valuesOf_append (first second : List (String × String)) (key : String) :
    valuesOf (first ++ second) key = valuesOf first key ++ valuesOf second key := by
  simp [valuesOf]

theorem eraseDups_filter (keep : String → Bool) (keys : List String) :
    (keys.filter keep).eraseDups = keys.eraseDups.filter keep := by
  induction keys using List.reverseRecOn with
  | nil => rfl
  | append_singleton keys key ih =>
    by_cases kept : keep key = true <;> by_cases known : key ∈ keys <;>
      simp [List.eraseDups_append, List.removeAll, List.eraseDups_cons, ih, kept, known]

theorem keysOf_filter (keep : String → Bool) (pairs : List (String × String)) :
    keysOf (pairs.filter fun pair => keep pair.1) = (keysOf pairs).filter keep := by
  rw [keysOf, keysOf, ← eraseDups_filter, List.filter_map]
  rfl

theorem valuesOf_filter {keep : String → Bool} {key : String} (kept : keep key = true)
    (pairs : List (String × String)) :
    valuesOf (pairs.filter fun pair => keep pair.1) key = valuesOf pairs key := by
  rw [valuesOf, List.filter_filter, valuesOf]
  congr 1
  apply List.filter_congr
  intro pair _
  by_cases same : pair.1 = key <;> simp [same, kept]

/-- The pairs of a request without those that say which page it is for. -/
def unpaged (pairs : List (String × String)) : List (String × String) :=
  pairs.filter fun pair => pair.1 ∉ Http.pageKeys

private theorem keysOf_unpaged (pairs : List (String × String)) :
    keysOf (unpaged pairs) = (keysOf pairs).filter (· ∉ Http.pageKeys) :=
  keysOf_filter (fun key => decide (key ∉ Http.pageKeys)) pairs

private theorem valuesOf_unpaged {key : String} (other : key ∉ Http.pageKeys)
    (pairs : List (String × String)) : valuesOf (unpaged pairs) key = valuesOf pairs key :=
  @valuesOf_filter (fun key => decide (key ∉ Http.pageKeys)) key (decide_eq_true other) pairs

private theorem get?_unpaged {key : String} (other : key ∉ Http.pageKeys) (pairs : List (String × String)) :
    (Parameters.ofPairs (unpaged pairs)).get? key = (Parameters.ofPairs pairs).get? key := by
  simp only [get?_ofPairs, mem_keysOf_iff, valuesOf_unpaged other]

/-- The page keys are the only ones that say anything of the page, and they say nothing else. -/
private theorem parse_unpaged (pairs : List (String × String)) :
    let asked := Intent.parse (.ofPairs pairs)
    Intent.parse (.ofPairs (unpaged pairs)) =
      { asked with pagination := { asked.pagination with page := 1, perPage := 10 } } := by
  have none : ∀ key ∈ Http.pageKeys, number? (unpaged pairs) key = .none := by
    intro key paging
    have values : valuesOf (unpaged pairs) key = [] := by
      simp only [valuesOf, unpaged, List.map_eq_nil_iff, List.filter_filter, List.filter_eq_nil_iff]
      rintro pair - both
      obtain ⟨rfl, other⟩ : pair.1 = key ∧ pair.1 ∉ Http.pageKeys := by simpa using both
      exact other paging
    simp [number?, values]
  have number {key : String} (other : key ∉ Http.pageKeys) :
      number? (unpaged pairs) key = number? pairs key := by
    rw [number?, number?, valuesOf_unpaged other]
  have pagination : (Intent.parse (.ofPairs (unpaged pairs))).pagination =
      { (Intent.parse (.ofPairs pairs)).pagination with page := 1, perPage := 10 } := by
    rw [pagination_parse, pagination_parse, none "_page" (by decide), none "_per_page" (by decide),
      number (by decide), number (by decide), number (by decide)]
    rfl
  have sort : (Intent.parse (.ofPairs (unpaged pairs))).sort =
      (Intent.parse (.ofPairs pairs)).sort := by
    simp only [Intent.parse, get?_unpaged (show "_sort" ∉ Http.pageKeys by decide)]
  have embed : (Intent.parse (.ofPairs (unpaged pairs))).embed =
      (Intent.parse (.ofPairs pairs)).embed := by
    simp only [Intent.parse, get?_unpaged (show "_embed" ∉ Http.pageKeys by decide)]
  have filters : (Intent.parse (.ofPairs (unpaged pairs))).filters =
      (Intent.parse (.ofPairs pairs)).filters := by
    have reserved : ∀ key ∈ Http.pageKeys, key ∈ Intent.reserved := by decide
    have free : ∀ key, key ∉ Intent.reserved → key ∉ Http.pageKeys := fun key => mt (reserved key)
    rw [filters_parse, filters_parse, keysOf_unpaged, List.filter_filter]
    rw [List.filter_congr (q := fun key => decide (key ∉ Intent.reserved))]
    · apply List.map_congr_left
      intro key member
      rw [valuesOf_unpaged (free key (by simpa using (List.mem_filter.mp member).2))]
    · intro key _
      by_cases known : key ∈ Intent.reserved
      · simp [known]
      · simp [known, free key known]
  exact (Intent.mk.injEq ..).mpr ⟨pagination, sort, embed, filters⟩

/-- Pairs that differ only in their page keys make the same request, but for the page. -/
theorem parse_of_unpaged_eq {first second : List (String × String)}
    (same : unpaged first = unpaged second) :
    let asked := Intent.parse (.ofPairs first)
    let other := Intent.parse (.ofPairs second)
    other = { asked with pagination := { asked.pagination with
      page := other.pagination.page, perPage := other.pagination.perPage } } := by
  intro asked other
  have common := parse_unpaged first
  rw [same, parse_unpaged second] at common
  simp only [Intent.mk.injEq, Pagination.mk.injEq] at common
  obtain ⟨⟨-, -, start, stop, limit⟩, sort, embed, filters⟩ := common
  exact (Intent.mk.injEq ..).mpr ⟨(Pagination.mk.injEq ..).mpr ⟨rfl, rfl, start, stop, limit⟩,
    sort, embed, filters⟩

end ResourceQuery.Proofs.RepeatedKeys

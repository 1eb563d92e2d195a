import ResourceQuery.Proofs.NumericBounds

/-! Parameters in another order. A request stays the same as long as the values of each key keep their
order: only its filters change places, and they hold together in whatever order. -/

namespace ResourceQuery.Proofs.ReorderedParameters
open MemoryAnswers NumericBounds RepeatedKeys

/-- The same pairs in another order, but for pairs of one key, which keep theirs. -/
structure Reordered (first second : List (String × String)) : Prop where
  perm : first.Perm second
  inOrder : ∀ key ∈ first.map (·.1), valuesOf first key = valuesOf second key

instance (first second : List (String × String)) : Decidable (Reordered first second) :=
  decidable_of_iff
    (first.Perm second ∧ ∀ key ∈ first.map (·.1), valuesOf first key = valuesOf second key)
    ⟨fun ⟨perm, inOrder⟩ => ⟨perm, inOrder⟩, fun ⟨perm, inOrder⟩ => ⟨perm, inOrder⟩⟩

section

variable {first second : List (String × String)}

theorem Reordered.valuesOf_eq (reordered : Reordered first second) (key : String) :
    valuesOf first key = valuesOf second key := by
  by_cases known : key ∈ keysOf first
  · exact reordered.inOrder key (List.mem_eraseDups.mp known)
  · have unknown : key ∉ keysOf second := by
      rwa [keysOf, List.mem_eraseDups, ← (reordered.perm.map (·.1)).mem_iff, ← List.mem_eraseDups]
    rw [Decidable.not_not.mp (mt mem_keysOf_iff.mpr known),
      Decidable.not_not.mp (mt mem_keysOf_iff.mpr unknown)]

theorem Reordered.keysOf_perm (reordered : Reordered first second) :
    (keysOf first).Perm (keysOf second) := by
  apply (List.perm_ext_iff_of_nodup (nodup_keysOf first) (nodup_keysOf second)).mpr
  intro key
  rw [mem_keysOf_iff, mem_keysOf_iff, reordered.valuesOf_eq]

theorem Reordered.tokensOf_eq (reordered : Reordered first second) (key : String) :
    tokensOf first key = tokensOf second key := by
  rw [tokensOf, tokensOf, reordered.valuesOf_eq]

private theorem Reordered.pagination_eq (reordered : Reordered first second) :
    (Intent.parse (.ofPairs first)).pagination = (Intent.parse (.ofPairs second)).pagination := by
  simp only [pagination_parse, number?, reordered.valuesOf_eq]

private theorem Reordered.filters_perm (reordered : Reordered first second) :
    (Intent.parse (.ofPairs first)).filters.Perm (Intent.parse (.ofPairs second)).filters := by
  simp only [filters_parse, reordered.valuesOf_eq]
  exact (reordered.keysOf_perm.filter _).map _

end

private theorem filtered_perm (memory : Memory) (table : Table) {first second : List Predicate}
    (perm : first.Perm second) : memory.filtered table first = memory.filtered table second := by
  apply List.filter_congr
  intro row _
  exact perm.all_eq

/-- A list from memory does not depend on the order of the parameters, except among those of one
key. -/
theorem order_of_keys_is_immaterial (service : Service) (memory : Memory) (resource : String)
    (first second : List (String × String)) (reordered : Reordered first second) :
    resultOf memory (service.list resource (.ofPairs first)) =
      resultOf memory (service.list resource (.ofPairs second)) := by
  cases found : service.catalog.table? resource with
  | none => simp only [Service.list, found]
  | some table =>
    have filtered : memory.filtered table (Predicate.ofFilters table (Intent.parse (.ofPairs first)).filters) =
        memory.filtered table (Predicate.ofFilters table (Intent.parse (.ofPairs second)).filters) :=
      filtered_perm memory table (reordered.filters_perm.flatMap_right _)
    simp only [list_result service memory found, Memory.answer, Memory.answerBy, Plan.ofIntent, filtered,
      reordered.pagination_eq, sort_parse, embed_parse, reordered.tokensOf_eq]

def shelf : String :=
  "\x7b\"books\":[\x7b\"id\":1,\"year\":1999\x7d,\x7b\"id\":2,\"year\":1980\x7d," ++
    "\x7b\"id\":3,\"year\":1999\x7d,\x7b\"id\":4,\"year\":2001\x7d]\x7d"

theorem books_in_either_order :
    let first := [("year_gte", "1990"), ("id", "4"), ("_sort", "-year"), ("id", "1,2,3"), ("_page", "2"),
      ("_sort", "-id"), ("_per_page", "2")]
    let second := [("_sort", "-year"), ("_per_page", "2"), ("_sort", "-id"), ("id", "4"),
      ("id", "1,2,3"), ("year_gte", "1990"), ("_page", "2")]
    ∃ service memory, serve? .regular shelf = some (service, memory) ∧ Reordered first second ∧
      resultOf memory (service.list "books" (.ofPairs first)) =
        resultOf memory (service.list "books" (.ofPairs second)) ∧
      ∃ listed, resultOf memory (service.list "books" (.ofPairs second)) = .ok listed ∧
        listed.total = 3 ∧ listed.rows.map (fun row => (row.get "id").plainText) = ["1"] := by
  intro first second
  have fit : ∃ served ∈ serve? .regular shelf,
      ∃ listed ∈ (resultOf served.2 (served.1.list "books" (.ofPairs second))).toOption,
        listed.total = 3 ∧ listed.rows.map (fun row => (row.get "id").plainText) = ["1"] := by
    decide +kernel
  have reordered : Reordered first second := by decide
  obtain ⟨⟨service, memory⟩, served, listed, answered, total, rows⟩ := fit
  exact ⟨service, memory, served, reordered,
    order_of_keys_is_immaterial service memory "books" first second reordered,
    listed, eq_ok_of_mem_toOption answered, total, rows⟩

end ResourceQuery.Proofs.ReorderedParameters

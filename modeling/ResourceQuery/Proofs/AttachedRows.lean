import ResourceQuery.Proofs.MemoryAnswers
import ResourceQuery.Proofs.RequestCalls

/-! Rows with others attached, from memory. What a relation attaches is read off the related rows in
memory, and attaching changes no cell under another name. -/

namespace ResourceQuery.Proofs.AttachedRows
open MemoryAnswers RequestCalls

variable {catalog : Catalog} {relation : Relation} {rows : List Row}

theorem joinKey?_eq_none_iff {column : String} {row : Row} :
    Embed.joinKey? column row = none ↔ (row.get column).isNull = true := by
  simp [Embed.joinKey?, Json.cellText?]

private theorem attachment_without_key {row : Row} (none : (row.get relation.ourKey).isNull = true)
    (related others : List Row) :
    Embed.attachment relation related row = Embed.attachment relation others row := by
  simp only [Embed.attachment, Embed.referred, Embed.referring, joinKey?_eq_none_iff.mpr none]

theorem foreignKey_of_hasMany (kind : relation.kind = .hasMany) :
    relation.foreignKey = relation.theirKey := by
  simp [Relation.foreignKey, kind]

/-- For a foreign key of theirs nothing is asked of the related rows, so all of them are given. -/
theorem filtered_of_hasMany (kind : relation.kind = .hasMany) {memory : Memory} {related : Table}
    (keys : List String) :
    memory.filtered related (Embed.relatedPredicates related relation keys) = memory.rows related := by
  simp [Memory.filtered, Embed.relatedPredicates, kind]

/-- What a relation attaches is found among the related rows that satisfy its condition. -/
theorem attachments_result (memory : Memory) {related : Table}
    (found : catalog.table? relation.relatedTable = some related) :
    resultOf memory (Embed.attachments catalog relation rows) =
      rows.map (Embed.attachment relation (memory.filtered related
        (Embed.relatedPredicates related relation (Embed.distinctKeys relation.ourKey rows)))) := by
  simp only [Embed.attachments, found]
  split
  next none =>
    apply List.map_congr_left
    intro row member
    cases keyed : (row.get relation.ourKey).isNull with
    | true => exact attachment_without_key keyed _ _
    | false => exact absurd ⟨row, member, keyed⟩ ((distinctKeys_eq_nil_iff _ _).mp none)
  next => rfl

private theorem length_attachments (memory : Memory) :
    (resultOf memory (Embed.attachments catalog relation rows)).length = rows.length := by
  cases found : catalog.table? relation.relatedTable with
  | none =>
    have nothing : resultOf memory (Embed.attachments catalog relation rows) =
        rows.map (Embed.attachment relation []) := by
      simp only [Embed.attachments, found]
      rfl
    rw [nothing, List.length_map]
  | some related => rw [attachments_result memory found, List.length_map]

private theorem collect_keeps (memory : Memory) (naming : Naming) (table : Table) (keys : List String) :
    ∀ attached ∈ resultOf memory (Embed.collect catalog naming table rows keys),
      attached.1 ∈ keys ∧ attached.2.length = rows.length := by
  induction keys with
  | nil =>
    intro attached none
    cases none
  | cons key rest ih =>
    intro attached member
    rw [Embed.collect] at member
    split at member
    next =>
      obtain ⟨known, length⟩ := ih attached member
      exact ⟨List.mem_cons_of_mem _ known, length⟩
    next relation =>
      simp only [resultOf_bind] at member
      rcases List.mem_cons.mp member with rfl | member
      · exact ⟨List.mem_cons_self, length_attachments memory⟩
      · obtain ⟨known, length⟩ := ih attached member
        exact ⟨List.mem_cons_of_mem _ known, length⟩

private theorem attach_keeps {attached : String × List Json} {column : String} (other : column ≠ attached.1)
    (length : attached.2.length = rows.length) :
    (Embed.attach rows attached).map (·.get column) = rows.map (·.get column) := by
  obtain ⟨key, values⟩ := attached
  simp only [Embed.attach] at other length ⊢
  induction rows generalizing values with
  | nil => simp
  | cons row rest ih =>
    match values, length with
    | value :: values, length =>
      have kept : (row.insert key value).get column = row.get column := by
        rw [Fields.get, Fields.get?_insert, if_neg (Ne.symm other), Fields.get]
      simp only [List.zipWith_cons_cons, List.map_cons, kept]
      rw [ih values (Nat.succ.inj length)]

/-- Whatever is attached, the rows stay as many, and their other cells as they are. -/
theorem resolve_keeps (memory : Memory) (naming : Naming) (table : Table) {keys : List String}
    {column : String} (other : column ∉ keys) :
    (resultOf memory (Embed.resolve catalog naming table rows keys)).map (·.get column) =
      rows.map (·.get column) := by
  have collected : ∀ attached ∈ resultOf memory (Embed.collect catalog naming table rows keys),
      attached.1 ∈ keys ∧ attached.2.length = rows.length := collect_keeps memory naming table keys
  have resolved : resultOf memory (Embed.resolve catalog naming table rows keys) =
      (resultOf memory (Embed.collect catalog naming table rows keys)).foldl Embed.attach rows := by
    simp only [Embed.resolve, resultOf_bind]
    rfl
  rw [resolved]
  generalize resultOf memory (Embed.collect catalog naming table rows keys) = attachments at collected
  have folded (shown : List Row) (length : shown.length = rows.length) :
      (attachments.foldl Embed.attach shown).map (·.get column) = shown.map (·.get column) := by
    induction attachments generalizing shown with
    | nil => rfl
    | cons attached rest ih =>
      obtain ⟨⟨known, held⟩, collected⟩ := List.forall_mem_cons.mp collected
      have apart : column ≠ attached.1 := by
        rintro rfl
        exact other known
      have kept := attach_keeps apart (held.trans length.symm)
      have same : (Embed.attach shown attached).length = shown.length := by
        simpa using congrArg List.length kept
      rw [List.foldl_cons, ih collected _ (same.trans length), kept]
  exact folded rows rfl

end ResourceQuery.Proofs.AttachedRows

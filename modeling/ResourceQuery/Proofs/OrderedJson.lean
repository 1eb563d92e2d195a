import ResourceQuery.Json.Reader

/-! Objects that were read. Their fields stand in the order of their keys, so no key occurs twice, at
whatever depth. -/

namespace ResourceQuery.Proofs.OrderedJson
open Json

def Sorted (fields : Fields) : Prop :=
  fields.Pairwise fun left right => Text.order left.1 right.1 = .lt

/-- Every object in a value has its fields in order. -/
inductive Ordered : Json → Prop where
  | null : Ordered null
  | bool (value : Bool) : Ordered (bool value)
  | number (value : Json.Number) : Ordered (number value)
  | string (value : String) : Ordered (string value)
  | array {items : List Json} (each : ∀ item ∈ items, Ordered item) : Ordered (array items)
  | object {fields : Fields} (sorted : Sorted fields) (each : ∀ field ∈ fields, Ordered field.2) :
    Ordered (object fields)

theorem mem_of_mem_insert {fields : Fields} {key : String} {value : Json} {field : String × Json}
    (member : field ∈ fields.insert key value) : field = (key, value) ∨ field ∈ fields := by
  induction fields with
  | nil => exact .inl (List.mem_singleton.mp member)
  | cons first rest ih =>
    obtain ⟨other, old⟩ := first
    simp only [Fields.insert] at member
    split at member
    · exact (List.mem_cons.mp member).imp_right id
    · exact (List.mem_cons.mp member).imp_right (List.mem_cons_of_mem _)
    · rcases List.mem_cons.mp member with rfl | member
      · exact .inr List.mem_cons_self
      · exact (ih member).imp_right (List.mem_cons_of_mem _)

theorem Sorted.insert {fields : Fields} (sorted : Sorted fields) (key : String) (value : Json) :
    Sorted (fields.insert key value) := by
  induction fields with
  | nil => exact List.pairwise_singleton _ _
  | cons first rest ih =>
    obtain ⟨other, old⟩ := first
    obtain ⟨before, sorted'⟩ := List.pairwise_cons.mp sorted
    simp only [Fields.insert]
    split
    next less =>
      refine List.pairwise_cons.mpr ⟨?_, sorted⟩
      intro field member
      rcases List.mem_cons.mp member with rfl | member
      · exact less
      · exact Std.TransCmp.lt_trans less (before field member)
    next equal =>
      obtain rfl := Text.order_eq_iff.mp equal
      exact List.pairwise_cons.mpr ⟨before, sorted'⟩
    next greater =>
      refine List.pairwise_cons.mpr ⟨?_, ih sorted'⟩
      intro field member
      rcases mem_of_mem_insert member with rfl | member
      · exact Std.OrientedCmp.lt_of_gt greater
      · exact before field member

theorem Sorted.nodup {fields : Fields} (sorted : Sorted fields) : (fields.map (·.1)).Nodup := by
  refine List.pairwise_map.mpr (sorted.imp fun less same => ?_)
  rw [same, Text.order_eq_iff.mpr rfl] at less
  cases less

theorem mem_of_get? {fields : Fields} {key : String} {value : Json}
    (found : fields.get? key = some value) : (key, value) ∈ fields := by
  induction fields with
  | nil => cases found
  | cons field rest ih =>
    obtain ⟨first, held⟩ := field
    rw [Fields.get?] at found
    split at found
    next same => cases found; subst same; exact List.mem_cons_self
    next => exact List.mem_cons_of_mem _ (ih found)

theorem get?_of_mem {fields : Fields} (distinct : (fields.map (·.1)).Nodup) {key : String} {value : Json}
    (member : (key, value) ∈ fields) : fields.get? key = some value := by
  induction fields with
  | nil => cases member
  | cons field rest ih =>
    obtain ⟨first, held⟩ := field
    obtain ⟨absent, distinct⟩ := List.nodup_cons.mp distinct
    rw [Fields.get?]
    rcases List.mem_cons.mp member with same | member
    · cases same
      exact if_pos rfl
    · have other : first ≠ key := by
        rintro rfl
        exact absent (List.mem_map.mpr ⟨_, member, rfl⟩)
      rw [if_neg other]
      exact ih distinct member

theorem isSome_get?_iff {fields : Fields} {key : String} :
    (fields.get? key).isSome ↔ key ∈ fields.map (·.1) := by
  induction fields with
  | nil => simp [Fields.get?]
  | cons field rest ih =>
    obtain ⟨first, held⟩ := field
    rw [Fields.get?, List.map_cons, List.mem_cons, ← ih]
    by_cases same : first = key
    · simp [same]
    · simp [same, Ne.symm same]

private theorem foldlM_keeps {State Input : Type} {step : State → Input → Option State}
    {holds : State → Prop} {fine : Input → Prop}
    (keeps : ∀ state input next, holds state → fine input → step state input = some next → holds next)
    {state final : State} {inputs : List Input} (first : holds state)
    (all : ∀ input ∈ inputs, fine input) (folded : inputs.foldlM step state = some final) :
    holds final := by
  induction inputs generalizing state with
  | nil =>
    cases folded
    exact first
  | cons input rest ih =>
    obtain ⟨next, stepped, folded⟩ := Option.bind_eq_some_iff.mp folded
    exact ih (keeps state input next first (all input List.mem_cons_self) stepped)
      (fun other member => all other (List.mem_cons_of_mem _ member)) folded

def Fine (token : Token) : Prop :=
  ∀ leaf, token = .value leaf → Ordered leaf

private theorem ordered_of_ofWord? {word : List Char} {leaf : Json} (read : ofWord? word = some leaf) :
    Ordered leaf := by
  unfold ofWord? at read
  split at read
  · cases read
    exact .null
  split at read
  · cases read
    exact .bool true
  split at read
  · cases read
    exact .bool false
  obtain ⟨value, -, rfl⟩ := Option.map_eq_some_iff.mp read
  exact .number value

private theorem fine_mark {character : Char} {token : Token} (mark : mark? character = some token) :
    Fine token := by
  rintro leaf rfl
  unfold mark? at mark
  split at mark <;> cases mark

def ScanFine (scan : Scan) : Prop :=
  ∀ token ∈ scan.tokens, Fine token

theorem ScanFine.outside? {tokens : List Token} (fine : ∀ token ∈ tokens, Fine token)
    {character : Char} {next : Scan} (stepped : Scan.outside? tokens character = some next) :
    ScanFine next := by
  unfold Scan.outside? at stepped
  split at stepped
  · cases stepped
    exact fine
  split at stepped
  · cases stepped
    exact fine
  split at stepped
  next token mark =>
    cases stepped
    exact List.forall_mem_cons.mpr ⟨fine_mark mark, fine⟩
  next =>
    cases stepped
    exact fine

private theorem fine_value {leaf : Json} (ordered : Ordered leaf) : Fine (.value leaf) := by
  rintro other ⟨⟩
  exact ordered

theorem ScanFine.same {scan next : Scan} (fine : ScanFine scan) (kept : next.tokens = scan.tokens) :
    ScanFine next := by
  intro token member
  rw [kept] at member
  exact fine token member

theorem ScanFine.step? {scan next : Scan} {character : Char} (fine : ScanFine scan)
    (stepped : scan.step? character = some next) : ScanFine next := by
  unfold Scan.step? at stepped
  split at stepped
  next => exact ScanFine.outside? fine stepped
  next gathered _ =>
    split at stepped
    next =>
      obtain ⟨leaf, read, stepped⟩ := Option.bind_eq_some_iff.mp stepped
      have fine := List.forall_mem_cons.mpr ⟨fine_value (ordered_of_ofWord? read), fine⟩
      exact ScanFine.outside? fine stepped
    next => cases stepped; exact fine.same rfl
  next gathered _ =>
    split at stepped
    next => cases stepped; exact List.forall_mem_cons.mpr ⟨fine_value (.string _), fine⟩
    next =>
      split at stepped
      next => cases stepped; exact fine.same rfl
      next =>
        split at stepped
        next => cases stepped
        next => cases stepped; exact fine.same rfl
  next =>
    split at stepped
    next => cases stepped; exact fine.same rfl
    next =>
      obtain ⟨meant, -, rfl⟩ := Option.map_eq_some_iff.mp stepped
      exact fine.same rfl
  next =>
    obtain ⟨digit, -, stepped⟩ := Option.bind_eq_some_iff.mp stepped
    simp only at stepped
    split at stepped
    next =>
      obtain ⟨gathering, -, rfl⟩ := Option.map_eq_some_iff.mp stepped
      exact fine.same rfl
    next => cases stepped; exact fine.same rfl
  next =>
    split at stepped
    next => cases stepped; exact fine.same rfl
    next => cases stepped
  next =>
    split at stepped
    next => cases stepped; exact fine.same rfl
    next => cases stepped

private theorem fine_tokens {characters : List Char} {tokens : List Token}
    (read : tokens? characters = some tokens) : ∀ token ∈ tokens, Fine token := by
  obtain ⟨scan, folded, finished⟩ := Option.bind_eq_some_iff.mp read
  have start : ScanFine ⟨[], .between⟩ := fun token member => by cases member
  have fine : ScanFine scan :=
    foldlM_keeps (fun _ _ _ holds _ stepped => ScanFine.step? holds stepped) start
      (fun _ _ => trivial) folded
  intro token member
  unfold Scan.finish? at finished
  split at finished
  next =>
    cases finished
    exact fine token (List.mem_reverse.mp member)
  next =>
    obtain ⟨leaf, word, rfl⟩ := Option.map_eq_some_iff.mp finished
    rcases List.mem_cons.mp (List.mem_reverse.mp member) with rfl | member
    · exact fine_value (ordered_of_ofWord? word)
    · exact fine token member
  next => cases finished

def FieldsOrdered (fields : Fields) : Prop :=
  Ordered (object fields)

theorem FieldsOrdered.insert {fields : Fields} (ordered : FieldsOrdered fields) (key : String)
    {value : Json} (fine : Ordered value) : FieldsOrdered (fields.insert key value) := by
  cases ordered with
  | object sorted each =>
    refine .object (sorted.insert key value) fun field member => ?_
    rcases mem_of_mem_insert member with rfl | member
    · exact fine
    · exact each field member

def FrameOrdered : Frame → Prop
  | .array items => ∀ item ∈ items, Ordered item
  | .object fields _ => FieldsOrdered fields

def ExpectationOrdered : Expectation → Prop
  | .value | .firstItem => True
  | .firstKey fields | .key fields | .colon fields _ => FieldsOrdered fields
  | .after value => Ordered value

structure AssemblyOrdered (assembly : Assembly) : Prop where
  frames : ∀ frame ∈ assembly.frames, FrameOrdered frame
  expectation : ExpectationOrdered assembly.expectation

private theorem empty_ordered : FieldsOrdered [] :=
  .object .nil fun _ member => by cases member

theorem AssemblyOrdered.begin? {limit : Nat} {frames : List Frame} {token : Token} {next : Assembly}
    (ordered : ∀ frame ∈ frames, FrameOrdered frame) (fine : Fine token)
    (stepped : Assembly.begin? limit frames token = some next) : AssemblyOrdered next := by
  unfold Assembly.begin? at stepped
  split at stepped
  next leaf => cases stepped; exact ⟨ordered, fine leaf rfl⟩
  next =>
    split at stepped
    next =>
      cases stepped
      exact ⟨List.forall_mem_cons.mpr ⟨fun _ member => (by cases member), ordered⟩, trivial⟩
    next => cases stepped
  next =>
    split at stepped
    next =>
      cases stepped
      exact ⟨List.forall_mem_cons.mpr ⟨empty_ordered, ordered⟩, empty_ordered⟩
    next => cases stepped
  next => cases stepped

theorem AssemblyOrdered.step? {limit : Nat} {assembly next : Assembly} {token : Token}
    (ordered : AssemblyOrdered assembly) (fine : Fine token)
    (stepped : assembly.step? limit token = some next) : AssemblyOrdered next := by
  obtain ⟨frames, expectation⟩ := assembly
  obtain ⟨held, expected⟩ := ordered
  unfold Assembly.step? at stepped
  simp only at stepped held expected
  split at stepped
  next => exact .begin? held fine stepped
  next =>
    cases stepped
    exact ⟨(List.forall_mem_cons.mp held).2, .array fun _ member => (by cases member)⟩
  next => exact .begin? held fine stepped
  next => cases stepped; exact ⟨(List.forall_mem_cons.mp held).2, empty_ordered⟩
  next => cases stepped; exact ⟨held, expected⟩
  next => cases stepped; exact ⟨held, expected⟩
  next =>
    cases stepped
    exact ⟨List.forall_mem_cons.mpr ⟨expected, (List.forall_mem_cons.mp held).2⟩, trivial⟩
  next =>
    obtain ⟨items, frames⟩ := List.forall_mem_cons.mp held
    cases stepped
    exact ⟨List.forall_mem_cons.mpr ⟨List.forall_mem_cons.mpr ⟨expected, items⟩, frames⟩, trivial⟩
  next =>
    obtain ⟨items, frames⟩ := List.forall_mem_cons.mp held
    cases stepped
    refine ⟨frames, .array fun item member => ?_⟩
    rcases List.mem_cons.mp (List.mem_reverse.mp member) with rfl | member
    · exact expected
    · exact items item member
  next =>
    obtain ⟨fields, frames⟩ := List.forall_mem_cons.mp held
    cases stepped
    exact ⟨List.forall_mem_cons.mpr ⟨empty_ordered, frames⟩, FieldsOrdered.insert fields _ expected⟩
  next =>
    obtain ⟨fields, frames⟩ := List.forall_mem_cons.mp held
    cases stepped
    exact ⟨frames, FieldsOrdered.insert fields _ expected⟩
  next => cases stepped

/-- What is read from a text is ordered. -/
theorem ordered_of_parse? {text : String} {value : Json} (read : parse? text = some value) :
    Ordered value := by
  obtain ⟨tokens, scanned, assembled⟩ := Option.bind_eq_some_iff.mp read
  obtain ⟨assembly, folded, finished⟩ := Option.bind_eq_some_iff.mp assembled
  have start : AssemblyOrdered ⟨[], .value⟩ := ⟨fun _ member => (by cases member), trivial⟩
  have ordered : AssemblyOrdered assembly :=
    foldlM_keeps (fun _ _ _ holds fine stepped => AssemblyOrdered.step? holds fine stepped) start
      (fine_tokens scanned) folded
  unfold Assembly.finish? at finished
  split at finished
  next expectation _ =>
    cases finished
    have last := ordered.expectation
    rw [expectation] at last
    exact last
  next => cases finished

end ResourceQuery.Proofs.OrderedJson

import ResourceQuery.Proofs.IgnoredInput
import ResourceQuery.Proofs.LinkReading
import ResourceQuery.Proofs.PaddedTexts

/-! Lists under the sort key and the embed key. Tokens stand between commas, in one value or in several, with
blanks around them, and each is a field or a key, or idle. A request is read as what its tokens list, and as
nothing else. -/

namespace ResourceQuery.Proofs.TokenLists
open IgnoredInput LinkReading PaddedTexts RepeatedKeys

/-! Tokens -/

/-- A name that a token can be: not empty, without commas and without blanks at its ends. -/
structure Name (name : String) : Prop where
  nonempty : name ≠ ""
  whole : ',' ∉ name.toList
  solid : Solid name

/-- A field that a token can be: a minus at the front of a column would reverse its direction. -/
structure Writable (field : SortField) : Prop where
  name : Name field.column
  unsigned : field.direction = .ascending → Text.dropOpening? "-" field.column = none

/-- A field as a token, with something between the minus and the column. -/
def written (field : SortField) (between : String) : String :=
  match field.direction with
  | .ascending => field.column
  | .descending => "-" ++ (between ++ field.column)

def ShowsField (field : SortField) (token : String) : Prop :=
  Writable field ∧ ∃ between, Blank between ∧ Padded (written field between) token

def IdleField (token : String) : Prop :=
  Blank token ∨ Padded "-" token

def ShowsKey (key token : String) : Prop :=
  Name key ∧ Padded key token

def key? (token : String) : Option String :=
  if token = "" then none else some token

section

variable {token : String}

private theorem solid_minus {text : String} (some : text ≠ "") (solid : Solid text) {between : String} :
    Solid ("-" ++ (between ++ text)) := by
  constructor
  · simp [Text.isBlank]
  · have more : text.toList ≠ [] := by simpa using some
    rw [String.toList_append, String.toList_append, ← List.append_assoc,
      List.getLast?_append_of_ne_nil _ more]
    exact solid.last

private theorem key?_eq_none_iff : key? (Text.trim token) = none ↔ Blank token := by
  rw [key?, ite_eq_left_iff, ← padded_empty_iff]
  simp only [reduceCtorEq, imp_false, not_not, trim_eq_iff, solid_empty, true_and]

private theorem key?_eq_some_iff (whole : ',' ∉ token.toList) {key : String} :
    key? (Text.trim token) = some key ↔ ShowsKey key token := by
  simp only [key?, Option.ite_none_left_eq_some, Option.some.injEq]
  constructor
  · rintro ⟨some, rfl⟩
    have padded := padded_trim token
    exact ⟨⟨some, padded.notMem whole, solid_trim token⟩, padded⟩
  · rintro ⟨name, padded⟩
    have same := trim_eq_iff.mpr ⟨name.solid, padded⟩
    exact ⟨same ▸ name.nonempty, same⟩

private theorem blank_of_trim (empty : Text.trim token = "") : Blank token :=
  padded_empty_iff.mp (trim_eq_iff.mp empty).2

private theorem sortField?_eq_none_iff : Intent.sortField? (Text.trim token) = none ↔ IdleField token := by
  constructor
  · intro unread
    unfold Intent.sortField? at unread
    split at unread
    next rest opened =>
      rw [Text.dropOpening?_eq_some_iff] at opened
      have blank : Blank rest := blank_of_trim (by simpa using unread)
      obtain ⟨before, after, front, back, same⟩ := padded_trim token
      refine .inr ⟨before, rest ++ after, front, blank.append back, ?_⟩
      rw [same, opened]
      simp only [String.append_assoc]
    next => exact .inl (blank_of_trim (by simpa using unread))
  · rintro (blank | minus)
    · rw [trim_eq_iff.mpr ⟨solid_empty, padded_empty_iff.mpr blank⟩]
      decide
    · have solid : Solid "-" := ⟨by simp [Text.isBlank], by simp [Text.isBlank]⟩
      rw [trim_eq_iff.mpr ⟨solid, minus⟩]
      decide

private theorem showsField_of_sortField? (whole : ',' ∉ token.toList) {field : SortField}
    (read : Intent.sortField? (Text.trim token) = some field) : ShowsField field token := by
  have padded := padded_trim token
  unfold Intent.sortField? at read
  split at read
  next rest opened =>
    simp only [Option.ite_none_left_eq_some, Option.some.injEq] at read
    obtain ⟨some, rfl⟩ := read
    rw [Text.dropOpening?_eq_some_iff] at opened
    obtain ⟨between, behind, blank, blank', column⟩ := padded_trim rest
    obtain ⟨before, after, front, back, same⟩ := padded
    have shown : Padded ("-" ++ (between ++ Text.trim rest)) token := by
      refine ⟨before, behind ++ after, front, blank'.append back, ?_⟩
      rw [same, opened]
      conv_lhs => rw [column]
      simp only [String.append_assoc]
    have inside : ',' ∉ (Text.trim rest).toList := fun member =>
      shown.notMem whole (by simp [member])
    exact ⟨⟨⟨some, inside, solid_trim rest⟩, nofun⟩, between, blank, shown⟩
  next opened =>
    simp only [Option.ite_none_left_eq_some, Option.some.injEq] at read
    obtain ⟨some, rfl⟩ := read
    exact ⟨⟨⟨some, padded.notMem whole, solid_trim token⟩, fun _ => opened⟩, "", blank_empty, padded⟩

private theorem sortField?_of_showsField {field : SortField} (shows : ShowsField field token) :
    Intent.sortField? (Text.trim token) = some field := by
  obtain ⟨writable, between, blank, padded⟩ := shows
  obtain ⟨column, direction⟩ := field
  have some : column ≠ "" := writable.name.nonempty
  have solid : Solid column := writable.name.solid
  cases direction with
  | ascending =>
    have shown : Text.trim token = column := trim_eq_iff.mpr ⟨solid, padded⟩
    rw [shown, Intent.sortField?, writable.unsigned rfl]
    simp [some]
  | descending =>
    have opened : Text.dropOpening? "-" ("-" ++ (between ++ column)) = .some (between ++ column) :=
      Text.dropOpening?_eq_some_iff.mpr rfl
    have behind : Text.trim (between ++ column) = column :=
      trim_eq_iff.mpr ⟨solid, between, "", blank, blank_empty, by simp⟩
    have shown : Text.trim token = "-" ++ (between ++ column) :=
      trim_eq_iff.mpr ⟨solid_minus some solid, padded⟩
    rw [shown, Intent.sortField?, opened]
    simp [behind, some]

private theorem sortField?_eq_some_iff (whole : ',' ∉ token.toList) {field : SortField} :
    Intent.sortField? (Text.trim token) = some field ↔ ShowsField field token :=
  ⟨showsField_of_sortField? whole, sortField?_of_showsField⟩

end

/-! Lists -/

/-- Tokens that show items in order, with idle ones among them. -/
inductive Lists {Item : Type} (Shows : Item → String → Prop) (Idle : String → Prop) :
    List Item → List String → Prop
  | nil : Lists Shows Idle [] []
  | idle {items : List Item} {token : String} {tokens : List String} (idle : Idle token)
      (rest : Lists Shows Idle items tokens) : Lists Shows Idle items (token :: tokens)
  | item {item : Item} {items : List Item} {token : String} {tokens : List String}
      (shows : Shows item token) (rest : Lists Shows Idle items tokens) :
      Lists Shows Idle (item :: items) (token :: tokens)

/-- The values of a key are the tokens, with commas between those of one value. -/
def Spread (pairs : List (String × String)) (key : String) (tokens : List String) : Prop :=
  ∃ groups : List (List String), [] ∉ groups ∧ groups.flatten = tokens ∧
    valuesOf pairs key = groups.map (Text.join ",")

/-- A reader of trimmed tokens tells the tokens that show an item from the idle ones. -/
structure Tells {Item : Type} (read : String → Option Item) (Shows : Item → String → Prop)
    (Idle : String → Prop) : Prop where
  none_iff : ∀ token, read (Text.trim token) = none ↔ Idle token
  some_iff : ∀ token, ',' ∉ token.toList → ∀ item,
    read (Text.trim token) = some item ↔ Shows item token
  idle : ∀ token, Idle token → ',' ∉ token.toList
  shows : ∀ item token, Shows item token → ',' ∉ token.toList

section

variable {Item : Type} {read : String → Option Item} {Shows : Item → String → Prop}
  {Idle : String → Prop}

theorem Lists.whole {items : List Item} {tokens : List String} (lists : Lists Shows Idle items tokens)
    (tells : Tells read Shows Idle) : Whole tokens := by
  induction lists with
  | nil => exact List.forall_mem_nil _
  | idle idle rest ih => exact List.forall_mem_cons.mpr ⟨tells.idle _ idle, ih⟩
  | item shows rest ih => exact List.forall_mem_cons.mpr ⟨tells.shows _ _ shows, ih⟩

private theorem filterMap_eq_iff (tells : Tells read Shows Idle) {items : List Item} {tokens : List String}
    (whole : Whole tokens) :
    (tokens.map Text.trim).filterMap read = items ↔ Lists Shows Idle items tokens := by
  induction tokens generalizing items with
  | nil =>
    constructor
    · rintro rfl
      exact .nil
    · rintro ⟨⟩
      rfl
  | cons token rest ih =>
    obtain ⟨clean, whole⟩ := List.forall_mem_cons.mp whole
    rw [List.map_cons, List.filterMap_cons]
    cases found : read (Text.trim token) with
    | none =>
      simp only [ih whole]
      constructor
      · exact .idle ((tells.none_iff token).mp found)
      · intro lists
        cases lists with
        | idle _ rest => exact rest
        | item shows _ =>
          rw [(tells.some_iff token clean _).mpr shows] at found
          cases found
    | some item =>
      constructor
      · rintro rfl
        exact .item ((tells.some_iff token clean item).mp found) ((ih whole).mp rfl)
      · intro lists
        cases lists with
        | idle idle _ =>
          rw [(tells.none_iff token).mpr idle] at found
          cases found
        | item shows rest =>
          rw [(tells.some_iff token clean _).mpr shows, Option.some.injEq] at found
          rw [found, (ih whole).mpr rest]

theorem Spread.tokensOf_eq {pairs : List (String × String)} {key : String} {tokens : List String}
    (spread : Spread pairs key tokens) (whole : Whole tokens) :
    tokensOf pairs key = tokens.map Text.trim := by
  obtain ⟨groups, some, rfl, values⟩ := spread
  have split : ∀ group ∈ groups, Text.split ',' (Text.join "," group) = group := by
    intro group member
    refine split_join rfl (fun token inside => ?_) (fun none => some (none ▸ member))
    exact whole token (List.mem_flatten.mpr ⟨group, member, inside⟩)
  rw [tokensOf, values, List.flatMap_map, List.flatMap_congr split, List.flatMap_id']

private theorem spread_split (pairs : List (String × String)) (key : String) :
    Spread pairs key ((valuesOf pairs key).flatMap (Text.split ',')) := by
  refine ⟨(valuesOf pairs key).map (Text.split ','), ?_, List.flatMap_def.symm, ?_⟩
  · simp [Text.split]
  · have joined (value : String) : Text.join "," (Text.split ',' value) = value := by
      rw [Text.join, Text.split, List.map_map]
      simp [Function.comp_def, List.intercalate_splitOn]
    simp [Function.comp_def, joined]

private theorem whole_split (values : List String) : Whole (values.flatMap (Text.split ',')) := by
  intro token member
  obtain ⟨value, -, inside⟩ := List.mem_flatMap.mp member
  obtain ⟨piece, found, rfl⟩ := List.mem_map.mp inside
  rw [String.toList_ofList]
  exact notMem_of_mem_splitOn found

private theorem read_eq_iff (tells : Tells read Shows Idle) (pairs : List (String × String)) (key : String)
    (items : List Item) :
    (tokensOf pairs key).filterMap read = items ↔
      ∃ tokens, Spread pairs key tokens ∧ Lists Shows Idle items tokens := by
  constructor
  · intro found
    exact ⟨_, spread_split pairs key, (filterMap_eq_iff tells (whole_split _)).mp found⟩
  · rintro ⟨tokens, spread, lists⟩
    have whole := lists.whole tells
    rw [spread.tokensOf_eq whole, filterMap_eq_iff tells whole]
    exact lists

end

private theorem tells_fields : Tells Intent.sortField? ShowsField IdleField where
  none_iff _ := sortField?_eq_none_iff
  some_iff _ whole _ := sortField?_eq_some_iff whole
  idle token idle := by
    rcases idle with blank | minus
    · exact blank.notMem (by decide)
    · exact minus.notMem_of_text (by decide) (by decide)
  shows field token shows := by
    obtain ⟨writable, between, blank, padded⟩ := shows
    refine padded.notMem_of_text (by decide) ?_
    unfold written
    split
    · exact writable.name.whole
    · have blanks : ',' ∉ between.toList := blank.notMem (by decide)
      simp [blanks, writable.name.whole]

private theorem tells_keys : Tells key? ShowsKey Blank where
  none_iff _ := key?_eq_none_iff
  some_iff _ whole _ := key?_eq_some_iff whole
  idle _ blank := blank.notMem (by decide)
  shows _ _ shows := shows.2.notMem_of_text (by decide) shows.1.whole

/-! Repeated keys and joined values -/

theorem splitOn_intercalate {mark : Char} {lists : List (List Char)} (some : lists ≠ []) :
    ([mark].intercalate lists).splitOn mark = lists.flatMap (List.splitOn mark) := by
  induction lists with
  | nil => exact absurd rfl some
  | cons first rest ih =>
    cases rest with
    | nil => simp
    | cons second others =>
      have joined : [mark].intercalate (first :: second :: others) =
          first ++ mark :: [mark].intercalate (second :: others) := by simp
      rw [joined, List.splitOn_append_cons_self, ih (List.cons_ne_nil _ _)]
      rfl

private theorem split_joined {values : List String} (some : values ≠ []) :
    Text.split ',' (Text.join "," values) = values.flatMap (Text.split ',') := by
  have lists : values.map String.toList ≠ [] := by simpa using some
  have comma : ",".toList = [','] := rfl
  rw [Text.join, Text.split, String.toList_ofList, comma, splitOn_intercalate lists, List.flatMap_map,
    List.map_flatMap]
  rfl

section

variable {key : String} {joined pairs : List (String × String)}

private theorem namedUnder_joined (single : valuesOf joined key = [Text.join "," (valuesOf pairs key)]) :
    namedUnder joined key = namedUnder pairs key := by
  rw [namedUnder, namedUnder, tokensOf, tokensOf, single]
  by_cases none : valuesOf pairs key = []
  · rw [none]
    decide
  · rw [List.flatMap_singleton, split_joined none]

private theorem filters_eq (same : SameBut key joined pairs) (reserved : key ∈ Intent.reserved) :
    (Intent.parse (.ofPairs joined)).filters = (Intent.parse (.ofPairs pairs)).filters := by
  have keys (pairs : List (String × String)) : (keysOf pairs).filter (· ∉ Intent.reserved) =
      (keysOf (pairs.filter (·.1 ≠ key))).filter (· ∉ Intent.reserved) := by
    have others : keysOf (pairs.filter (·.1 ≠ key)) = (keysOf pairs).filter (· ≠ key) :=
      keysOf_filter (fun other => decide (other ≠ key)) pairs
    rw [others, List.filter_filter]
    apply List.filter_congr
    intro other _
    by_cases equal : other = key
    · simp [equal, reserved]
    · simp [equal]
  rw [filters_parse, filters_parse, keys joined, same, ← keys pairs]
  apply List.map_congr_left
  intro other member
  have free : other ∉ Intent.reserved := by simpa using (List.mem_filter.mp member).2
  have apart : other ≠ key := fun equal => free (equal ▸ reserved)
  rw [same.valuesOf_eq apart]

private theorem parse_joined (listing : key ∈ ["_sort", "_embed"]) (same : SameBut key joined pairs)
    (single : valuesOf joined key = [Text.join "," (valuesOf pairs key)]) :
    Intent.parse (.ofPairs joined) = Intent.parse (.ofPairs pairs) := by
  have named (other : String) : namedUnder joined other = namedUnder pairs other := by
    by_cases equal : other = key
    · rw [equal, namedUnder_joined single]
    · rw [namedUnder, namedUnder, tokensOf, tokensOf, same.valuesOf_eq equal]
  have unlisted : ∀ other ∈ ["_page", "_per_page", "_start", "_end", "_limit"],
      number? joined other = number? pairs other := by
    intro other member
    have apart : ∀ other ∈ ["_page", "_per_page", "_start", "_end", "_limit"],
        ∀ key ∈ ["_sort", "_embed"], other ≠ key := by decide
    rw [number?, number?, same.valuesOf_eq (apart other member key listing)]
  have reserved : key ∈ Intent.reserved := by
    have listings : ∀ other ∈ ["_sort", "_embed"], other ∈ Intent.reserved := by decide
    exact listings key listing
  simp only [List.forall_mem_cons, List.not_mem_nil] at unlisted
  obtain ⟨page, perPage, start, stop, limit, -⟩ := unlisted
  have pagination : (Intent.parse (.ofPairs joined)).pagination =
      (Intent.parse (.ofPairs pairs)).pagination := by
    rw [pagination_parse, pagination_parse, page, perPage, start, stop, limit]
  have sort : (Intent.parse (.ofPairs joined)).sort = (Intent.parse (.ofPairs pairs)).sort := by
    rw [sort_named, sort_named, named]
  have embed : (Intent.parse (.ofPairs joined)).embed = (Intent.parse (.ofPairs pairs)).embed := by
    rw [embed_named, embed_named, named]
  exact (Intent.mk.injEq ..).mpr ⟨pagination, sort, embed, filters_eq same reserved⟩

end

private theorem embed_keys (pairs : List (String × String)) :
    (Intent.parse (.ofPairs pairs)).embed = ((tokensOf pairs "_embed").filterMap key?).eraseDups := by
  rw [embed_parse]
  congr 1
  induction tokensOf pairs "_embed" with
  | nil => rfl
  | cons token rest ih => by_cases empty : token = "" <;> simp [key?, empty, ih]

/-- The order and the keys of a request are read as what the tokens under their keys list, and as nothing
else: fields with a minus in front of those that descend, and keys of which only the first of its name
counts, written with blanks and idle tokens and over as many values as one likes. All values of either key,
joined in one, make the same request. -/
theorem listed_tokens_are_read (pairs : List (String × String)) :
    (∀ fields, (Intent.parse (.ofPairs pairs)).sort = fields ↔
      ∃ tokens, Spread pairs "_sort" tokens ∧ Lists ShowsField IdleField fields tokens) ∧
    (∀ attached, (Intent.parse (.ofPairs pairs)).embed = attached ↔
      ∃ keys tokens, Spread pairs "_embed" tokens ∧ Lists ShowsKey Blank keys tokens ∧
        attached = keys.eraseDups) ∧
    ∀ key ∈ ["_sort", "_embed"], ∀ joined, SameBut key joined pairs →
      valuesOf joined key = [Text.join "," (valuesOf pairs key)] →
        Intent.parse (.ofPairs joined) = Intent.parse (.ofPairs pairs) := by
  refine ⟨fun fields => ?_, fun attached => ?_, fun key listing joined same single =>
    parse_joined listing same single⟩
  · rw [sort_parse]
    exact read_eq_iff tells_fields pairs "_sort" fields
  · rw [embed_keys]
    constructor
    · rintro rfl
      obtain ⟨tokens, spread, lists⟩ := (read_eq_iff tells_keys pairs "_embed" _).mp rfl
      exact ⟨_, tokens, spread, lists, rfl⟩
    · rintro ⟨keys, tokens, spread, lists, rfl⟩
      rw [(read_eq_iff tells_keys pairs "_embed" keys).mpr ⟨tokens, spread, lists⟩]

/-- A descending name and an ascending age in one value, a lone minus and a descending birth in another. -/
theorem three_fields_in_two_values :
    let pairs := [("_sort", " -name, ,age"), ("_embed", "user, tags"), ("_sort", "-,- born"), ("_embed", "user")]
    let joined := [("_sort", " -name, ,age,-,- born"), ("_embed", "user, tags"), ("_embed", "user")]
    (Intent.parse (.ofPairs pairs)).sort =
        [⟨"name", .descending⟩, ⟨"age", .ascending⟩, ⟨"born", .descending⟩] ∧
      (Intent.parse (.ofPairs pairs)).embed = ["user", "tags"] ∧
      Intent.parse (.ofPairs joined) = Intent.parse (.ofPairs pairs) := by
  intro pairs joined
  obtain ⟨fields, keys, values⟩ := listed_tokens_are_read pairs
  refine ⟨(fields _).mpr ⟨_, ⟨[[" -name", " ", "age"], ["-", "- born"]], by decide, rfl, by decide⟩, ?_⟩,
    (keys _).mpr ⟨["user", "tags", "user"], _,
      ⟨[["user", " tags"], ["user"]], by decide, rfl, by decide⟩, ?_, by decide⟩,
    values "_sort" (by decide) joined rfl (by decide)⟩
  · exact .item (showsField_of_sortField? (by decide) (by decide)) <|
      .idle (.inl (blank_of_trim (by decide))) <|
        .item (showsField_of_sortField? (by decide) (by decide)) <|
          .idle (.inr (padded_trim "-")) <|
            .item (showsField_of_sortField? (by decide) (by decide)) .nil
  · have shows {key token : String} (whole : ',' ∉ token.toList) (read : key? (Text.trim token) = some key) :
        ShowsKey key token := (key?_eq_some_iff whole).mp read
    exact .item (shows (by decide) (by decide)) <| .item (shows (by decide) (by decide)) <|
      .item (shows (by decide) (by decide)) .nil

end ResourceQuery.Proofs.TokenLists

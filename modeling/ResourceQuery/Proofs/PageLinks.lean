import ResourceQuery.Http.Percent
import ResourceQuery.Proofs.OwnTexts
import ResourceQuery.Proofs.Paging

/-! The links of a page, followed. A link repeats the query as it was written but for its page keys, so
it makes the same request for the page that it names, unless the query spells a page key with escapes:
such a key is read but not taken for one, and stays in front of the link's own. -/

namespace ResourceQuery.Proofs.PageLinks
open Http Number LinkReading Numerals Paging RepeatedKeys Rounding

def byteOf (character : Char) : UInt8 :=
  UInt8.ofNat character.toNat

private theorem toNat_byteOf {character : Char} (ascii : character.toNat < 0x80) :
    (byteOf character).toNat = character.toNat := by
  rw [byteOf, UInt8.toNat_ofNat']
  omega

private theorem utf8EncodeChar_of_lt {character : Char} (ascii : character.toNat < 0x80) :
    String.utf8EncodeChar character = [byteOf character] :=
  if_pos (Nat.le_of_lt_succ ascii)

private theorem percentDecode_of_notMem {bytes : List UInt8} (clean : 0x25 ∉ bytes) :
    percentDecode bytes = bytes := by
  fun_induction percentDecode bytes with
  | case1 | case2 => simp at clean
  | case3 percent high low rest other ih => rw [ih (List.not_mem_of_not_mem_cons clean)]
  | case4 => rfl

private theorem decodePieces_ascii {characters : List Char}
    (ascii : ∀ character ∈ characters, character.toNat < 0x80) :
    Text.decodePieces (characters.map byteOf) = characters.map some := by
  induction characters with
  | nil => simp [Text.decodePieces]
  | cons first rest ih =>
    obtain ⟨low, ascii⟩ := List.forall_mem_cons.mp ascii
    have read : Text.front (byteOf first) (rest.map byteOf) = .character first (rest.map byteOf) := by
      have small : byteOf first < 0x80 := by
        rw [UInt8.lt_iff_toNat_lt, toNat_byteOf low]
        exact low
      rw [Text.front, if_pos small, toNat_byteOf low, Char.ofNat_toNat]
    rw [List.map_cons, Text.decodePieces]
    split
    next found =>
      rw [read] at found
      cases found
      rw [ih ascii, List.map_cons]
    next found =>
      rw [read] at found
      cases found

/-- A text that is written in a query as it is. -/
def Verbatim (text : String) : Prop :=
  ∀ character ∈ text.toList, character.toNat < 0x80 ∧ character ≠ '%' ∧ character ≠ '+'

private theorem Verbatim.decode {text : String} (verbatim : Verbatim text) : decodeComponent text = text := by
  have letters : text.toList.flatMap (fun letter => if letter = '+' then [' '] else [letter]) =
      text.toList := by
    conv_rhs => rw [← List.flatMap_singleton' text.toList]
    apply List.flatMap_congr
    intro letter member
    rw [if_neg (verbatim letter member).2.2]
  have bytes : Text.utf8 text = text.toList.map byteOf := by
    rw [Text.utf8, List.map_eq_flatMap]
    apply List.flatMap_congr
    intro letter member
    exact utf8EncodeChar_of_lt (verbatim letter member).1
  have clean : 0x25 ∉ text.toList.map byteOf := by
    intro escaped
    obtain ⟨letter, member, same⟩ := List.mem_map.mp escaped
    have number := congrArg UInt8.toNat same
    rw [toNat_byteOf (verbatim letter member).1] at number
    exact (verbatim letter member).2.1 (Char.toNat_inj.mp number)
  have pieces := decodePieces_ascii fun letter member => (verbatim letter member).1
  simp only [decodeComponent, Text.spell, letters, String.ofList_toList, bytes,
    percentDecode_of_notMem clean, Text.decodeLossy, pieces, List.map_map]
  simp [Function.comp_def]

private theorem verbatim_pageKeys : ∀ key ∈ pageKeys, Verbatim key := by
  simp [pageKeys, Verbatim]

private theorem verbatim_integerText (value : Nat) : Verbatim (integerText value) := by
  intro character member
  rw [digits_of_integerText] at member
  have digit := isDigit_of_mem_digits member
  have bounds := Char.isDigit_iff_toNat.mp digit
  simp only [Char.reduceToNat] at bounds
  refine ⟨by omega, ?_, ?_⟩ <;> rintro rfl <;> simp at digit

private theorem decodePair_fst (piece : String) : (decodePair piece).1 = decodeComponent (rawKey piece) := by
  unfold decodePair rawKey Text.splitFirst?
  cases found : piece.toList.dropWhile (· != '=') with
  | cons mark rest => rfl
  | nil =>
    have whole := List.takeWhile_append_dropWhile (p := (· != '=')) (l := piece.toList)
    rw [found, List.append_nil] at whole
    simp only [whole, String.ofList_toList]

private theorem decodePair_append {key : String} (clean : '=' ∉ key.toList) (verbatim : Verbatim key)
    (page : Nat) : decodePair (key ++ "=" ++ integerText page) = (key, integerText page) := by
  have split : Text.splitFirst? '=' (key ++ "=" ++ integerText page) = some (key, integerText page) :=
    splitFirst?_append clean _
  simp only [decodePair, split, verbatim.decode, (verbatim_integerText page).decode]

def kept (query : String) : List (String × String) :=
  (keptPairs query).map decodePair

private theorem decodeQuery_linkPairs (query : String) (perPage page : Nat) :
    decodeQuery (Text.join "&" (linkPairs query perPage page)) =
      kept query ++ [("_page", integerText page), ("_per_page", integerText perPage)] := by
  have whole : (linkPairs query perPage page).filter (· != "") = linkPairs query perPage page := by
    rw [List.filter_eq_self]
    intro piece member
    rcases List.mem_append.mp member with old | added
    · have both := (List.mem_filter.mp old).2
      exact (Bool.and_eq_true _ _ ▸ both).1
    · simp only [List.mem_cons, List.not_mem_nil, or_false] at added
      rcases added with rfl | rfl <;> simp [← String.toList_inj]
  have first : decodePair ("_page=" ++ integerText page) = ("_page", integerText page) := by
    rw [show "_page=" = "_page" ++ "=" from rfl]
    exact decodePair_append (by decide) (verbatim_pageKeys _ (by decide)) page
  have second : decodePair ("_per_page=" ++ integerText perPage) =
      ("_per_page", integerText perPage) := by
    rw [show "_per_page=" = "_per_page" ++ "=" from rfl]
    exact decodePair_append (by decide) (verbatim_pageKeys _ (by decide)) perPage
  rw [decodeQuery, split_linkPairs, whole, linkPairs, List.map_append]
  simp only [List.map_cons, List.map_nil, first, second, kept]

private theorem decoded_of_rawKey {piece : String} (paging : rawKey piece ∈ pageKeys) :
    (decodePair piece).1 = rawKey piece := by
  rw [decodePair_fst, (verbatim_pageKeys _ paging).decode]

private theorem unpaged_linkPairs (query : String) (perPage page : Nat) :
    unpaged (decodeQuery (Text.join "&" (linkPairs query perPage page))) =
      unpaged (decodeQuery query) := by
  have added : unpaged [("_page", integerText page), ("_per_page", integerText perPage)] = [] := by
    simp [unpaged, pageKeys]
  have old : unpaged (kept query) = unpaged (decodeQuery query) := by
    simp only [unpaged, kept, keptPairs, decodeQuery, List.filter_map, List.filter_filter]
    refine congrArg (List.map decodePair) (List.filter_congr ?_)
    intro piece _
    by_cases paging : rawKey piece ∈ pageKeys
    · simp [decoded_of_rawKey paging, paging]
    · simp [paging]
  rw [decodeQuery_linkPairs, unpaged, List.filter_append]
  refine (congrArg _ added).trans ?_
  rw [List.append_nil]
  exact old

/-- A key is written as it is wherever a query has it. -/
def Spelled (query key : String) : Prop :=
  ∀ piece ∈ Text.split '&' query, (decodePair piece).1 = key → rawKey piece = key

instance (query key : String) : Decidable (Spelled query key) :=
  inferInstanceAs (Decidable (∀ piece ∈ Text.split '&' query, _))

/-- A link keeps a page key exactly when it is written in another way somewhere. -/
private theorem valuesOf_kept_eq_nil_iff {key : String} (paging : key ∈ pageKeys) (query : String) :
    valuesOf (kept query) key = [] ↔ Spelled query key := by
  have named : key ≠ "" := by
    rintro rfl
    revert paging
    decide
  simp only [valuesOf, kept, keptPairs, List.map_eq_nil_iff, List.filter_eq_nil_iff, List.mem_map,
    List.mem_filter, Bool.and_eq_true, bne_iff_ne, decide_eq_true_eq, Spelled]
  constructor
  · intro none piece member read
    by_contra other
    have some : piece ≠ "" := by
      rintro rfl
      exact named (read.symm.trans (by decide +kernel))
    refine none _ ⟨piece, ⟨member, some, fun known => ?_⟩, rfl⟩ read
    exact other ((decoded_of_rawKey known).symm.trans read)
  · rintro spelled _ ⟨piece, ⟨member, -, other⟩, rfl⟩ read
    exact other (spelled piece member read ▸ paging)

private theorem truncate_le {low high : Binary64} (positive : 0 < low.key) (ordered : low.key ≤ high.key) :
    low.truncate ≤ high.truncate := by
  obtain ⟨lowNegative, low, lowFinite⟩ := low
  obtain ⟨highNegative, high, highFinite⟩ := high
  cases lowNegative <;> cases highNegative <;>
    simp only [Binary64.key, Binary64.truncate, ↓reduceIte, Bool.false_eq_true] at positive ordered ⊢
  · have units : rankUnits low ≤ rankUnits high := Ranks.rankUnits_strictMono.monotone (by omega)
    exact Int.ofNat_le.mpr (Nat.div_le_div_right units)
  all_goals omega

private theorem coerceInteger_long {page : Nat} (long : Window.maxOffset < page)
    (unsigned : page ≤ Window.maxUnsigned) :
    Intent.coerceInteger (integerText page) = some Intent.maxWord := by
  have offset : Window.maxOffset = 2 ^ 63 - 1 := rfl
  have greatest : Window.maxUnsigned = 2 ^ 64 - 1 := rfl
  have unread : Intent.word? (integerText page) = none := by
    have beyond : ¬ Intent.IsWord page := fun word => by
      have high := word.2
      simp only [Intent.maxWord] at high
      omega
    simp [Intent.word?, integer?_integerText, beyond]
  obtain ⟨rounded, read, rounds⟩ := OwnTexts.ofNumeral?_number
    (.integer page ⟨by omega, by omega⟩)
  have above : (Binary64.ofInt (2 ^ 63)).key ≤ rounded.key := by
    apply (roundsTo_ofInt (by decide)).key_le rounds
    simp only [NumericBounds.numberValue]
    exact_mod_cast (show 2 ^ 63 ≤ page by omega)
  have whole := truncate_le (by decide +kernel) above
  have bound : (Binary64.ofInt (2 ^ 63)).truncate = 2 ^ 63 := by decide +kernel
  have saturated : Intent.saturate rounded.truncate = Intent.maxWord := by
    simp only [Intent.saturate, Intent.minWord, Intent.maxWord]
    omega
  change Binary64.ofNumeral? (integerText page).toList = some rounded at read
  simp [Intent.coerceInteger, trim_integerText, unread, read, saturated]

private theorem coerceInteger_page {page : Nat} (unsigned : page ≤ Window.maxUnsigned) :
    Intent.coerceInteger (integerText page) = some ((min page Window.maxOffset : Nat) : Int) := by
  have same : Intent.maxWord = Window.maxOffset := rfl
  by_cases long : Window.maxOffset < page
  · rw [coerceInteger_long long unsigned, same, Nat.min_eq_right (by omega)]
  · have word : Intent.IsWord page := by
      constructor
      · simp only [Intent.minWord]
        omega
      · omega
    rw [coerceInteger_integerText word, Nat.min_eq_left (by omega)]

private theorem number?_append (first second : List (String × String)) (key : String) :
    number? (first ++ second) key =
      if valuesOf first key = [] then number? second key else number? first key := by
  rw [number?, number?, number?, valuesOf_append]
  cases valuesOf first key <;> rfl

def intentOf (query : String) : Intent :=
  .parse (.ofPairs (decodeQuery query))

private theorem linkedPages_bounds {page last : Nat} (first : 1 ≤ page) (some : 1 ≤ last) :
    ∀ link ∈ linkedPages page last,
      link ∈ [("first", 1), ("prev", min (page - 1) last), ("next", page + 1), ("last", last)] ∧
        1 ≤ link.2 ∧ link.2 ≤ last := by
  intro link member
  simp only [linkedPages, List.mem_append, List.mem_cons, List.not_mem_nil, or_false] at member
  rcases member with ((rfl | member) | member) | rfl
  · exact ⟨by simp, Nat.le_refl 1, some⟩
  · split at member
    next later =>
      obtain rfl := List.mem_singleton.mp member
      exact ⟨by simp, by simp only; omega, by simp only; omega⟩
    next => cases member
  · split at member
    next before =>
      obtain rfl := List.mem_singleton.mp member
      exact ⟨by simp, by simp only; omega, by simp only; omega⟩
    next => cases member
  · exact ⟨by simp, some, Nat.le_refl last⟩

/-- What it comes to when a link for a page is followed. The link's own page and size count where the
query spells the key as it is, and otherwise those of the pairs that the link keeps. -/
structure Leads (query : String) (page : Nat) (again : String) : Prop where
  otherwise_same : intentOf again = { intentOf query with
    pagination := { (intentOf query).pagination with
      page := (intentOf again).pagination.page, perPage := (intentOf again).pagination.perPage } }
  page_spelled : Spelled query "_page" →
    (intentOf again).pagination.page = min page Window.maxOffset
  page_kept : ¬ Spelled query "_page" →
    (intentOf again).pagination.page = (Intent.parse (.ofPairs (kept query))).pagination.page
  size_spelled : Spelled query "_per_page" →
    (intentOf again).pagination.perPage = (intentOf query).pagination.perPage
  size_kept : ¬ Spelled query "_per_page" →
    (intentOf again).pagination.perPage = (Intent.parse (.ofPairs (kept query))).pagination.perPage

private theorem Leads.intent_eq {query again : String} {page : Nat} (leads : Leads query page again)
    (spelled : ∀ key ∈ pageKeys, Spelled query key) (word : page ≤ Window.maxOffset) :
    intentOf again = { intentOf query with
      pagination := { (intentOf query).pagination with page } } := by
  have same := leads.otherwise_same
  rw [leads.page_spelled (spelled _ (by decide)), leads.size_spelled (spelled _ (by decide)),
    Nat.min_eq_left word] at same
  exact same

private theorem leads_linkPairs {query : String} {page : Nat} (first : 1 ≤ page)
    (unsigned : page ≤ Window.maxUnsigned) :
    Leads query page
      (Text.join "&" (linkPairs query (intentOf query).pagination.perPage page)) := by
  let size := (intentOf query).pagination.perPage
  obtain ⟨least, greatest⟩ : 1 ≤ size ∧ size ≤ 100 := perPage_bounds _
  have wide : 100 ≤ Window.maxOffset ∧ Window.maxOffset ≤ Window.maxUnsigned := by decide
  let added := [("_page", integerText page), ("_per_page", integerText size)]
  have pageAdded : number? added "_page" = some ((min page Window.maxOffset : Nat) : Int) := by
    rw [← coerceInteger_page unsigned]
    simp [added, number?, valuesOf]
  have sizeAdded : number? added "_per_page" = some ((min size Window.maxOffset : Nat) : Int) := by
    rw [← coerceInteger_page (Nat.le_trans greatest (Nat.le_trans wide.1 wide.2))]
    simp [added, number?, valuesOf]
  have decoded : decodeQuery (Text.join "&" (linkPairs query size page)) = kept query ++ added :=
    decodeQuery_linkPairs query size page
  have spelled_iff {key : String} (paging : key ∈ pageKeys) := valuesOf_kept_eq_nil_iff paging query
  constructor
  · exact parse_of_unpaged_eq (unpaged_linkPairs query size page).symm
  · intro spelled
    rw [intentOf, decoded, pagination_parse, number?_append,
      if_pos ((spelled_iff (by decide)).mpr spelled), pageAdded]
    simp only [Option.map_some, Option.getD_some]
    omega
  · intro other
    rw [intentOf, decoded, pagination_parse, number?_append,
      if_neg (mt (spelled_iff (by decide)).mp other), pagination_parse]
  · intro spelled
    rw [intentOf, decoded, pagination_parse, number?_append _ _ "_per_page",
      if_pos ((spelled_iff (by decide)).mpr spelled), sizeAdded]
    simp only [Option.map_some, Option.getD_some, Intent.maxPerPage]
    omega
  · intro other
    rw [intentOf, decoded, pagination_parse, number?_append _ _ "_per_page",
      if_neg (mt (spelled_iff (by decide)).mp other), pagination_parse]

/-- The header of a page has a link to each of its neighbours. A link is for the page that its name
stands for, and when it is followed it makes the same request for that page, as far as the request
spells its page keys without escapes. -/
theorem links_make_the_request_for_their_pages {address : String} {target : Target} {total : Nat}
    {header : String} (read : Target.parse? address = some target)
    (unsigned : total ≤ Window.maxUnsigned)
    (linked : listLink target.path target.query
      (Plan.modeOf (intentOf (target.query.getD "")).pagination) total = some header) :
    let query := target.query.getD ""
    let asked := (intentOf query).pagination
    let last := lastPage total asked.perPage
    (readLinks header).map (·.1) = (linkedPages asked.page last).map (·.1) ∧
    ∀ link ∈ readLinks header, ∃ page again,
      (link.1, page) ∈
          [("first", 1), ("prev", min (asked.page - 1) last), ("next", asked.page + 1), ("last", last)] ∧
        Text.splitFirst? '?' link.2 = some (target.path, again) ∧ Leads query page again := by
  intro query asked last
  have readable := readable_of_parse? read
  have clean : '?' ∉ target.path.toList := readable.path_plain '?' (by decide)
  have text : header = linkText target.path query asked.page asked.perPage total := by
    unfold Plan.modeOf at linked
    split at linked
    next => cases linked
    next => exact (Option.some.inj linked).symm
  have links := readLinks_linkText readable asked.page asked.perPage total
  rw [← text] at links
  have positive : 1 ≤ asked.perPage := (perPage_bounds _).1
  have reached : last ≤ Window.maxUnsigned :=
    Nat.le_trans (lastPage_le total positive) (Nat.max_le.mpr ⟨unsigned, by decide⟩)
  have some : 1 ≤ last := by
    simp only [last, lastPage]
    split <;> omega
  rw [links]
  refine ⟨by simp [last], fun link member => ?_⟩
  obtain ⟨entry, listed, rfl⟩ := List.mem_map.mp member
  obtain ⟨named, first, bounded⟩ := linkedPages_bounds (page_pos _) some entry listed
  exact ⟨entry.2, _, named, splitFirst?_pageTarget clean query _ _,
    leads_linkPairs first (Nat.le_trans bounded reached)⟩

theorem second_page_leads_on :
    ∃ header, Target.parse? "/items?_page=2&n=%31&_per_page=1" =
        some ⟨"/items", some "_page=2&n=%31&_per_page=1"⟩ ∧
      let asked := intentOf "_page=2&n=%31&_per_page=1"
      listLink "/items" (some "_page=2&n=%31&_per_page=1") (Plan.modeOf asked.pagination) 3 = some header ∧
      ∀ link ∈ readLinks header, ∃ page again,
        (link.1, page) ∈ [("first", 1), ("prev", 1), ("next", 3), ("last", 3)] ∧
        Text.splitFirst? '?' link.2 = some ("/items", again) ∧
        intentOf again = { asked with pagination := { asked.pagination with page } } := by
  have read : Target.parse? "/items?_page=2&n=%31&_per_page=1" =
      some ⟨"/items", some "_page=2&n=%31&_per_page=1"⟩ := by
    decide +kernel
  have asked : intentOf "_page=2&n=%31&_per_page=1" =
      ⟨{ page := 2, perPage := 1 }, [], [], [⟨"n", .one "1"⟩]⟩ := by
    decide +kernel
  have spelled : ∀ key ∈ pageKeys, Spelled "_page=2&n=%31&_per_page=1" key := by decide +kernel
  have linked : listLink "/items" (some "_page=2&n=%31&_per_page=1")
      (Plan.modeOf (intentOf "_page=2&n=%31&_per_page=1").pagination) 3 =
        some (linkText "/items" "_page=2&n=%31&_per_page=1" 2 1 3) := by
    rw [asked]
    rfl
  obtain ⟨-, follow⟩ := links_make_the_request_for_their_pages read (by decide) linked
  refine ⟨_, read, linked, fun link member => ?_⟩
  obtain ⟨page, again, named, split, leads⟩ := follow link member
  simp only [Option.getD_some, asked] at named
  have bounded : ∀ entry ∈ [("first", 1), ("prev", min (2 - 1) (lastPage 3 1)), ("next", 2 + 1),
      ("last", lastPage 3 1)], entry.2 ≤ Window.maxOffset := by
    decide
  exact ⟨page, again, named, split, leads.intent_eq spelled (bounded _ named)⟩

/-- Every link of a page makes the same request, for the page that it stands for. -/
def LinksLead (address : String) (total : Nat) : Prop :=
  ∀ target header, Target.parse? address = some target →
    let asked := intentOf (target.query.getD "")
    let last := lastPage total asked.pagination.perPage
    listLink target.path target.query (Plan.modeOf asked.pagination) total = some header →
    ∀ link ∈ readLinks header, ∀ page again,
      (link.1, page) ∈ [("first", 1), ("prev", min (asked.pagination.page - 1) last),
        ("next", asked.pagination.page + 1), ("last", last)] →
      Text.splitFirst? '?' link.2 = some (target.path, again) →
      intentOf again = { asked with pagination := { asked.pagination with page } }

/-- The page key is written with an escape, so the links keep it, and the one to the next page leads
back to the same page. -/
theorem escaped_page_leads_nowhere : ¬ LinksLead "/items?_per_page=1&%5Fpage=2" 3 := by
  intro lead
  have read : Target.parse? "/items?_per_page=1&%5Fpage=2" =
      some ⟨"/items", some "_per_page=1&%5Fpage=2"⟩ := by
    decide +kernel
  have asked : intentOf "_per_page=1&%5Fpage=2" = ⟨{ page := 2, perPage := 1 }, [], [], []⟩ := by
    decide +kernel
  have answered : intentOf "%5Fpage=2&_page=3&_per_page=1" =
      ⟨{ page := 2, perPage := 1 }, [], [], []⟩ := by
    decide +kernel
  have linked : listLink "/items" (some "_per_page=1&%5Fpage=2")
      (Plan.modeOf (intentOf "_per_page=1&%5Fpage=2").pagination) 3 =
        some (linkText "/items" "_per_page=1&%5Fpage=2" 2 1 3) := by
    rw [asked]
    rfl
  have member : ("next", "/items?%5Fpage=2&_page=3&_per_page=1") ∈
      readLinks (linkText "/items" "_per_page=1&%5Fpage=2" 2 1 3) := by
    have readable : Readable "/items" "_per_page=1&%5Fpage=2" := readable_of_parse? read
    rw [readLinks_linkText readable]
    decide +kernel
  have leads := lead _ _ read linked _ member 3 "%5Fpage=2&_page=3&_per_page=1"
    (by simp [asked]) (by decide +kernel)
  simp only [Option.getD_some, asked, answered] at leads
  exact absurd leads (by decide)

end ResourceQuery.Proofs.PageLinks

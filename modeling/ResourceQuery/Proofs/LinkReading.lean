import ResourceQuery.Http.Link
import ResourceQuery.Http.Target
import ResourceQuery.Proofs.Numerals

/-! Links are read back. The header of a list names each link and its target, and each target names its
page, whatever path and query the request had. -/

namespace ResourceQuery.Proofs.LinkReading
open Http Number Numerals

/-- A link's name and target, from what follows its opening bracket: the target ends at the closing
bracket, and the name stands in quotes. -/
def readLink? (piece : String) : Option (String × String) :=
  (Text.splitFirst? '>' piece).bind fun (target, rest) =>
    ((Text.split '"' rest)[1]?).map fun name => (name, target)

def readLinks (header : String) : List (String × String) :=
  ((Text.split '<' header).drop 1).filterMap readLink?

/-- The page of a target: the number under the page key of its query, as it is written. -/
def targetPage? (target : String) : Option Nat :=
  (Text.splitFirst? '?' target).bind fun (_, query) =>
    ((Text.split '&' query).find? fun pair => rawKey pair = "_page").bind fun pair =>
      (Text.splitFirst? '=' pair).bind fun (_, value) => natural? value.toList

/-- The page of the link with a name, if the header has one. -/
def namedPage? (name header : String) : Option Nat :=
  ((readLinks header).lookup name).bind targetPage?

private theorem splitOn_append_of_notMem {mark : Char} {before : List Char} (clean : mark ∉ before)
    (rest : List Char) :
    (before ++ rest).splitOn mark = (rest.splitOn mark).modifyHead (before ++ ·) := by
  induction before with
  | nil => cases split : rest.splitOn mark <;> simp [split]
  | cons first others ih =>
    simp only [List.mem_cons, not_or] at clean
    rw [List.cons_append, List.splitOn_cons_eq_if_modifyHead, ih clean.2,
      if_neg (by simpa using Ne.symm clean.1), List.modifyHead_modifyHead]
    rfl

theorem notMem_of_mem_splitOn {mark : Char} {characters piece : List Char}
    (member : piece ∈ characters.splitOn mark) : mark ∉ piece := by
  induction characters generalizing piece with
  | nil =>
    rw [List.splitOn_nil, List.mem_singleton] at member
    simp [member]
  | cons first rest ih =>
    rw [List.splitOn_cons_eq_if_modifyHead] at member
    split at member
    next =>
      rcases List.mem_cons.mp member with rfl | member
      · simp
      · exact ih member
    next apart =>
      obtain ⟨head, others, same⟩ := List.exists_cons_of_ne_nil (List.splitOn_ne_nil mark rest)
      rw [same, List.modifyHead_cons] at member
      rcases List.mem_cons.mp member with rfl | member
      · have clean : mark ∉ head := ih (by simp [same])
        simpa [clean] using Ne.symm (by simpa using apart)
      · exact ih (by simp [same, member])

theorem splitFirst?_append {mark : Char} {before : String} (clean : mark ∉ before.toList)
    (after : String) :
    Text.splitFirst? mark (before ++ String.singleton mark ++ after) = some (before, after) := by
  have other : ∀ character ∈ before.toList, (character != mark) = true := by
    intro character member
    simp only [bne_iff_ne]
    rintro rfl
    exact clean member
  simp [Text.splitFirst?, List.takeWhile_append_of_pos other, List.dropWhile_append_of_pos other]

def written (link : String × String) : String :=
  "<" ++ link.2 ++ ">; rel=\"" ++ link.1 ++ "\""

def linkBody (name target : String) : List Char :=
  target.toList ++ ">; rel=\"".toList ++ name.toList ++ ['"']

/-- Names and targets that cannot be mistaken for what stands around them. -/
def Plain (links : List (String × String)) : Prop :=
  ∀ link ∈ links, '<' ∉ link.1.toList ∧ '"' ∉ link.1.toList ∧
    '<' ∉ link.2.toList ∧ '>' ∉ link.2.toList

private theorem read_linkBody {name target : String} (quoted : '"' ∉ name.toList)
    (bracketed : '>' ∉ target.toList) (rest : List Char) :
    readLink? (String.ofList (linkBody name target ++ rest)) = some (name, target) := by
  have whole : String.ofList (linkBody name target ++ rest) =
      target ++ String.singleton '>' ++
        String.ofList ("; rel=".toList ++ '"' :: (name.toList ++ '"' :: rest)) := by
    simp [linkBody, ← String.toList_inj]
  rw [whole, readLink?, splitFirst?_append bracketed]
  simp only [Option.bind_some, Text.split, String.toList_ofList]
  rw [List.splitOn_append_cons_self_of_not_mem (by decide),
    List.splitOn_append_cons_self_of_not_mem quoted]
  simp

private theorem split_links {links : List (String × String)} (plain : Plain links) (some : links ≠ []) :
    ∃ pieces, (", ".toList.intercalate
        (links.map fun link => '<' :: linkBody link.1 link.2)).splitOn '<' = [] :: pieces ∧
      pieces.filterMap (fun piece => readLink? (String.ofList piece)) = links := by
  induction links with
  | nil => exact (some rfl).elim
  | cons link rest ih =>
    obtain ⟨nameClean, quoted, targetClean, bracketed⟩ := plain link List.mem_cons_self
    have clean : '<' ∉ linkBody link.1 link.2 := by
      simp [linkBody, nameClean, targetClean]
    have opened (after : List Char) :
        ('<' :: (linkBody link.1 link.2 ++ after)).splitOn '<' =
          [] :: (after.splitOn '<').modifyHead (linkBody link.1 link.2 ++ ·) := by
      rw [List.splitOn_cons_eq_if_modifyHead, if_pos (by decide), splitOn_append_of_notMem clean]
    have read (after : List Char) : readLink? (String.ofList (linkBody link.1 link.2 ++ after)) =
        .some link := read_linkBody quoted bracketed after
    cases rest with
    | nil =>
      have single := opened []
      rw [List.append_nil, List.splitOn_nil, List.modifyHead_cons, List.append_nil] at single
      have found := read []
      rw [List.append_nil] at found
      exact ⟨[linkBody link.1 link.2], by simpa using single, by simp [found]⟩
    | cons next others =>
      obtain ⟨pieces, split, found⟩ :=
        ih (fun link member => plain link (List.mem_cons_of_mem _ member)) (List.cons_ne_nil _ _)
      refine ⟨(linkBody link.1 link.2 ++ ", ".toList) :: pieces, ?_, ?_⟩
      · have separated := opened (", ".toList ++ ", ".toList.intercalate
          ((next :: others).map fun link => '<' :: linkBody link.1 link.2))
        rw [splitOn_append_of_notMem (by decide), split] at separated
        simpa using separated
      · simp only [List.filterMap_cons, read, found]

private theorem readLinks_join {links : List (String × String)} (plain : Plain links) :
    readLinks (Text.join ", " (links.map written)) = links := by
  have rendered : (links.map written).map String.toList =
      links.map fun link => '<' :: linkBody link.1 link.2 := by
    simp [linkBody, written, Function.comp_def]
  by_cases none : links = []
  · subst none
    decide
  · obtain ⟨pieces, split, found⟩ := split_links plain none
    rw [readLinks, Text.split, Text.join, rendered, String.toList_ofList, split]
    simpa [List.filterMap_map, Function.comp_def] using found

private theorem rawKey_append {key : String} (clean : '=' ∉ key.toList) (value : String) :
    rawKey (key ++ "=" ++ value) = key := by
  have other : ∀ character ∈ key.toList, (character != '=') = true := by
    intro character member
    simp only [bne_iff_ne]
    rintro rfl
    exact clean member
  simp [rawKey, List.takeWhile_append_of_pos other]

def linkPairs (query : String) (perPage page : Nat) : List String :=
  keptPairs query ++ ["_page=" ++ integerText page, "_per_page=" ++ integerText perPage]

theorem splitFirst?_pageTarget {path : String} (clean : '?' ∉ path.toList) (query : String)
    (perPage page : Nat) :
    Text.splitFirst? '?' (pageTarget path query perPage page) =
      some (path, Text.join "&" (linkPairs query perPage page)) := by
  have whole : pageTarget path query perPage page =
      path ++ String.singleton '?' ++ Text.join "&" (linkPairs query perPage page) := by
    simp [pageTarget, linkPairs]
  rw [whole, splitFirst?_append clean]

theorem split_linkPairs (query : String) (perPage page : Nat) :
    Text.split '&' (Text.join "&" (linkPairs query perPage page)) = linkPairs query perPage page := by
  have unmarked : ∀ pair ∈ (linkPairs query perPage page).map String.toList, '&' ∉ pair := by
    simp only [linkPairs, List.map_append, List.mem_append, List.mem_map]
    rintro _ (⟨pair, kept, rfl⟩ | ⟨pair, added, rfl⟩)
    · have member := (List.mem_filter.mp kept).1
      simp only [Text.split, List.mem_map] at member
      obtain ⟨characters, member, rfl⟩ := member
      rw [String.toList_ofList]
      exact notMem_of_mem_splitOn member
    · have written := notMem_integerText (show '&'.isDigit = false from rfl)
      simp only [List.mem_cons, List.not_mem_nil, or_false] at added
      rcases added with rfl | rfl <;> simp [written]
  have back := List.splitOn_intercalate '&' unmarked (by simp [linkPairs])
  have mark : "&".toList = ['&'] := rfl
  rw [Text.split, Text.join, String.toList_ofList, mark, back]
  simp

private theorem targetPage?_pageTarget {path : String} (clean : '?' ∉ path.toList) (query : String)
    (perPage page : Nat) : targetPage? (pageTarget path query perPage page) = some page := by
  have found : (linkPairs query perPage page).find? (fun pair => rawKey pair = "_page") =
      some ("_page=" ++ integerText page) := by
    have key : rawKey ("_page=" ++ integerText page) = "_page" :=
      rawKey_append (show '=' ∉ "_page".toList by decide) _
    have kept : (keptPairs query).find? (fun pair => rawKey pair = "_page") = none := by
      rw [List.find?_eq_none]
      intro pair member same
      have other := (List.mem_filter.mp member).2
      simp [pageKeys, of_decide_eq_true same] at other
    simp [linkPairs, kept, key]
  have value : Text.splitFirst? '=' ("_page=" ++ integerText page) =
      some ("_page", integerText page) :=
    splitFirst?_append (show '=' ∉ "_page".toList by decide) _
  rw [targetPage?, splitFirst?_pageTarget clean, Option.bind_some]
  simp only [split_linkPairs, found, value, Option.bind_some, digits_of_integerText, natural?_digits]

/-- What a path and a query have to leave out, for their links to be read back. -/
structure Readable (path query : String) : Prop where
  path_plain : ∀ mark ∈ ['<', '>', '?'], mark ∉ path.toList
  query_plain : ∀ mark ∈ ['<', '>'], mark ∉ query.toList

private theorem mem_intercalate {mark : Char} {separator : List Char} {pieces : List (List Char)}
    (member : mark ∈ separator.intercalate pieces) :
    mark ∈ separator ∨ ∃ piece ∈ pieces, mark ∈ piece := by
  induction pieces with
  | nil => cases member
  | cons first rest ih =>
    cases rest with
    | nil => exact .inr ⟨first, List.mem_cons_self, by simpa using member⟩
    | cons second others =>
      rw [List.intercalate_cons_cons, List.append_assoc, List.mem_append, List.mem_append] at member
      rcases member with member | member | member
      · exact .inr ⟨first, List.mem_cons_self, member⟩
      · exact .inl member
      · rcases ih member with inside | ⟨piece, listed, inside⟩
        · exact .inl inside
        · exact .inr ⟨piece, List.mem_cons_of_mem _ listed, inside⟩

private theorem mem_of_mem_splitOn {mark cut : Char} {characters piece : List Char}
    (member : piece ∈ characters.splitOn cut) (inside : mark ∈ piece) : mark ∈ characters := by
  have pieces (list : List (List Char)) (listed : piece ∈ list) :
      mark ∈ [cut].intercalate list := by
    induction list with
    | nil => cases listed
    | cons first rest ih =>
      cases rest with
      | nil =>
        obtain rfl := List.mem_singleton.mp listed
        simpa using inside
      | cons second others =>
        rw [List.intercalate_cons_cons, List.append_assoc]
        rcases List.mem_cons.mp listed with rfl | listed
        · exact List.mem_append_left _ inside
        · exact List.mem_append_right _ (List.mem_append_right _ (ih listed))
  have whole : [cut].intercalate (characters.splitOn cut) = characters := List.intercalate_splitOn cut
  rw [← whole]
  exact pieces _ member

private theorem notMem_keptPairs {mark : Char} {query pair : String} (clean : mark ∉ query.toList)
    (kept : pair ∈ keptPairs query) : mark ∉ pair.toList := by
  have member := (List.mem_filter.mp kept).1
  simp only [Text.split, List.mem_map] at member
  obtain ⟨characters, member, rfl⟩ := member
  rw [String.toList_ofList]
  exact fun inside => clean (mem_of_mem_splitOn member inside)

private theorem notMem_pageTarget {path query : String} (readable : Readable path query) {mark : Char}
    (bracket : mark ∈ ['<', '>']) (perPage page : Nat) :
    mark ∉ (pageTarget path query perPage page).toList := by
  have inPath : mark ∉ path.toList := readable.path_plain mark (List.mem_append_left ['?'] bracket)
  have inQuery : mark ∉ query.toList := readable.query_plain mark bracket
  have other : ∀ mark ∈ ['<', '>'], mark.isDigit = false := by simp
  have apart : ∀ mark ∈ ['<', '>'], mark ∉ "?&_page=_per_page=".toList := by simp
  have written (number : Nat) := notMem_integerText (other mark bracket) number
  have constant := apart mark bracket
  simp only [String.reduceToList, List.mem_cons, List.not_mem_nil, or_false, not_or] at constant
  intro member
  simp only [pageTarget, Text.join, String.toList_append, String.toList_ofList, List.mem_append] at member
  rcases member with (inside | inside) | inside
  · exact inPath inside
  · simp [constant] at inside
  · rcases mem_intercalate inside with inside | ⟨piece, listed, inside⟩
    · simp [constant] at inside
    · simp only [List.map_append, List.mem_append, List.mem_map] at listed
      rcases listed with ⟨pair, kept, rfl⟩ | ⟨pair, added, rfl⟩
      · exact notMem_keptPairs inQuery kept inside
      · simp only [List.mem_cons, List.not_mem_nil, or_false] at added
        rcases added with rfl | rfl <;> simp [constant, written] at inside

private theorem lookup_map {First Second : Type} (make : First → Second) (entries : List (String × First))
    (name : String) :
    (entries.map fun entry => (entry.1, make entry.2)).lookup name =
      (entries.lookup name).map make := by
  induction entries with
  | nil => rfl
  | cons entry rest ih =>
    obtain ⟨key, value⟩ := entry
    simp only [List.map_cons, List.lookup_cons, ih]
    split <;> rfl

private theorem linked_names (page last : Nat) :
    ∀ link ∈ linkedPages page last, link.1 ∈ ["first", "prev", "next", "last"] := by
  intro link member
  simp only [linkedPages, List.mem_append, List.mem_cons, List.not_mem_nil, or_false] at member
  rcases member with ((rfl | member) | member) | rfl
  · decide
  · split at member <;> simp_all
  · split at member <;> simp_all
  · simp

/-- The links of a page are read back, each with its name and target. -/
theorem readLinks_linkText {path query : String} (readable : Readable path query)
    (page perPage total : Nat) :
    readLinks (linkText path query page perPage total) =
      (linkedPages page (lastPage total perPage)).map fun linked =>
        (linked.1, pageTarget path query perPage linked.2) := by
  let links := (linkedPages page (lastPage total perPage)).map fun linked =>
    (linked.1, pageTarget path query perPage linked.2)
  have plain : Plain links := by
    intro link member
    obtain ⟨linked, listed, rfl⟩ := List.mem_map.mp member
    have names : ∀ name ∈ ["first", "prev", "next", "last"],
        '<' ∉ name.toList ∧ '"' ∉ name.toList := by decide
    obtain ⟨nameClean, quoted⟩ := names _ (linked_names page _ linked listed)
    exact ⟨nameClean, quoted, notMem_pageTarget readable (by decide) perPage linked.2,
      notMem_pageTarget readable (by decide) perPage linked.2⟩
  have text : linkText path query page perPage total = Text.join ", " (links.map written) := by
    simp [linkText, links, written, Function.comp_def]
  rw [text, readLinks_join plain]

/-- Each link of a page is found under its name, with the page it leads to. -/
theorem namedPage?_linkText {path query : String} (readable : Readable path query) (name : String)
    (page perPage total : Nat) :
    namedPage? name (linkText path query page perPage total) =
      (linkedPages page (lastPage total perPage)).lookup name := by
  have clean : '?' ∉ path.toList := readable.path_plain '?' (by decide)
  rw [namedPage?, readLinks_linkText readable, lookup_map]
  cases (linkedPages page (lastPage total perPage)).lookup name with
  | none => rfl
  | some linked => exact targetPage?_pageTarget clean query perPage linked

private theorem readable_of_pathAndQuery? {characters : List Char} {target : Target}
    (read : Target.pathAndQuery? characters = some target) :
    Readable target.path (target.query.getD "") := by
  have pathMarks : ∀ mark ∈ ['<', '>', '?'], Target.isPathCharacter mark = false := by
    simp [Target.isPathCharacter]
  have queryMarks : ∀ mark ∈ ['<', '>'], Target.isQueryCharacter mark = false := by
    simp [Target.isQueryCharacter]
  simp only [Target.pathAndQuery?] at read
  split at read
  next legal =>
    cases read
    rw [Bool.and_eq_true, List.all_eq_true, List.all_eq_true] at legal
    constructor
    · intro mark bracket inside
      have root : ∀ mark ∈ ['<', '>', '?'], mark ∉ "/".toList := by simp
      simp only at inside
      split at inside
      next => exact root mark bracket inside
      next =>
        rw [String.toList_ofList] at inside
        have accepted := legal.1 mark inside
        simp [pathMarks mark bracket] at accepted
    · intro mark bracket inside
      simp only at inside
      split at inside
      next => cases inside
      next =>
        rw [Option.getD_some, String.toList_ofList] at inside
        have accepted := legal.2 mark inside
        simp [queryMarks mark bracket] at accepted
  next => cases read

/-- The target of a request can be linked to, and the links are read back. -/
theorem readable_of_parse? {text : String} {target : Target} (read : Target.parse? text = some target) :
    Readable target.path (target.query.getD "") := by
  simp only [Target.parse?] at read
  split at read
  next => cases read
  next =>
    split at read
    next => cases read
    next => cases read; constructor <;> simp
    next => exact readable_of_pathAndQuery? read
    next =>
      simp only [Target.absolute?] at read
      split at read
      next =>
        split at read
        next => cases read; constructor <;> simp
        next => cases read
      next =>
        split at read
        next => exact readable_of_pathAndQuery? read
        next => cases read

end ResourceQuery.Proofs.LinkReading

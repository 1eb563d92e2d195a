import Mathlib.Data.List.Induction
import ResourceQuery.Store.Memory

/-! Stable sorts. A sort is known by what it makes of rows that its order is a total preorder of: they
come out in order, and those that tie as they stood. There is only one such list, so all stable sorts come
to the same, insertion among them. Of any other rows it is known only that a sort loses none. -/

namespace ResourceQuery.Proofs.StableSorts

variable {order : Row → Row → Ordering} {rows sorted : List Row} {row earlier later : Row}

/-- Among some rows an order is a total preorder. -/
def Coherent (order : Row → Row → Ordering) (rows : List Row) : Prop :=
  Std.TransCmp fun left right : { row // row ∈ rows } => order left right

namespace Coherent

variable {left right first second third : Row}

theorem swap (coherent : Coherent order rows) (member : left ∈ rows) (member' : right ∈ rows) :
    order left right = (order right left).swap :=
  have : Std.TransCmp fun left right : { row // row ∈ rows } => order left right := coherent
  @Std.OrientedCmp.eq_swap _ (fun left right : { row // row ∈ rows } => order left right) _
    ⟨left, member⟩ ⟨right, member'⟩

theorem self (coherent : Coherent order rows) (member : row ∈ rows) : order row row = .eq := by
  have swapped := coherent.swap member member
  revert swapped
  cases order row row <;> decide

theorem trans (coherent : Coherent order rows) (member : first ∈ rows) (member' : second ∈ rows)
    (member'' : third ∈ rows) (before : (order first second).isLE)
    (after : (order second third).isLE) : (order first third).isLE :=
  have : Std.TransCmp fun left right : { row // row ∈ rows } => order left right := coherent
  @Std.TransCmp.isLE_trans _ (fun left right : { row // row ∈ rows } => order left right) _
    ⟨first, member⟩ ⟨second, member'⟩ ⟨third, member''⟩ before after

theorem tied (coherent : Coherent order rows) (member : left ∈ rows) (member' : right ∈ rows)
    (before : (order left right).isLE) (after : (order right left).isLE) : order left right = .eq := by
  rw [coherent.swap member' member] at after
  revert before after
  cases order left right <;> decide

private theorem tied_trans (coherent : Coherent order rows) (member : first ∈ rows) (member' : second ∈ rows)
    (member'' : third ∈ rows) (same : order second first = .eq) (same' : order second third = .eq) :
    order first third = .eq := by
  have before : (order first second).isLE := by simp [coherent.swap member member', same]
  have after : (order third second).isLE := by simp [coherent.swap member'' member', same']
  exact coherent.tied member member'' (coherent.trans member member' member'' before (by simp [same']))
    (coherent.trans member'' member' member after (by simp [same]))

private theorem mono (coherent : Coherent order rows) {some : List Row} (inside : ∀ row ∈ some, row ∈ rows) :
    Coherent order some := by
  refine @Std.TransCmp.mk _ _ ⟨?_⟩ ?_
  · intro left right
    exact coherent.swap (inside _ left.2) (inside _ right.2)
  · intro first second third before after
    exact coherent.trans (inside _ first.2) (inside _ second.2) (inside _ third.2) before after

end Coherent

/-- What a stable sort makes of rows that are in a total preorder. -/
structure Arranged (order : Row → Row → Ordering) (rows sorted : List Row) : Prop where
  perm : sorted.Perm rows
  ordered : sorted.Pairwise fun earlier later => (order earlier later).isLE
  /-- Rows that tie with each other stay as they stood. -/
  tied : ∀ chosen : Row → Bool,
    (∀ left ∈ rows, ∀ right ∈ rows, chosen left → chosen right → order left right = .eq) →
    sorted.filter chosen = rows.filter chosen

/-- All that is known of a sort. On rows that are in no total preorder it may give up, and otherwise it
leaves them in any order. -/
structure Stable (sort : RowSort Option) : Prop where
  arranges {order : Row → Row → Ordering} {rows : List Row} (coherent : Coherent order rows) :
    ∃ sorted, sort order rows = some sorted ∧ Arranged order rows sorted
  keeps {order : Row → Row → Ordering} {rows sorted : List Row} (ended : sort order rows = some sorted) :
    sorted.Perm rows

section Uniqueness

private theorem eq_of_ordered {left right : List Row} (coherent : Coherent order rows)
    (inside : ∀ row ∈ left, row ∈ rows) (same : left.Perm right)
    (ordered : left.Pairwise fun earlier later => (order earlier later).isLE)
    (ordered' : right.Pairwise fun earlier later => (order earlier later).isLE)
    (tied : ∀ row ∈ rows,
      left.filter (fun other => order row other = .eq) =
        right.filter (fun other => order row other = .eq)) :
    left = right := by
  induction left generalizing right with
  | nil => exact same.nil_eq
  | cons first rest ih =>
    obtain ⟨other, others, rfl⟩ : ∃ other others, right = other :: others :=
      List.exists_cons_of_ne_nil fun none => by simp [none] at same
    obtain ⟨known, inside'⟩ := List.forall_mem_cons.mp inside
    have known' : other ∈ rows := inside other (same.mem_iff.mpr List.mem_cons_self)
    obtain ⟨least, behind⟩ := List.pairwise_cons.mp ordered
    obtain ⟨least', behind'⟩ := List.pairwise_cons.mp ordered'
    -- Each of the two first rows is among the rows that the other comes before.
    have level : order first other = .eq := by
      refine coherent.tied known known' ?_ ?_
      · rcases List.mem_cons.mp (same.mem_iff.mpr List.mem_cons_self) with rfl | member
        · simp [coherent.self known]
        · exact least other member
      · rcases List.mem_cons.mp (same.mem_iff.mp List.mem_cons_self) with rfl | member
        · simp [coherent.self known]
        · exact least' first member
    obtain rfl : first = other := by
      have heads := tied first known
      simp only [List.filter_cons, coherent.self known, level, decide_true, if_true] at heads
      exact (List.cons.inj heads).1
    rw [ih inside' (List.Perm.cons_inv same) behind behind']
    intro row member
    have both := tied row member
    rw [List.filter_cons, List.filter_cons] at both
    split at both
    · exact (List.cons.inj both).2
    · exact both

/-- There is one way to arrange rows. -/
theorem Arranged.unique {left right : List Row} (coherent : Coherent order rows)
    (arranged : Arranged order rows left) (arranged' : Arranged order rows right) : left = right := by
  refine eq_of_ordered coherent (fun row => arranged.perm.mem_iff.mp)
    (arranged.perm.trans arranged'.perm.symm) arranged.ordered arranged'.ordered ?_
  intro row member
  have level : ∀ left ∈ rows, ∀ right ∈ rows, decide (order row left = .eq) →
      decide (order row right = .eq) → order left right = .eq := by
    intro left member' right member'' same same'
    exact coherent.tied_trans member' member member'' (of_decide_eq_true same) (of_decide_eq_true same')
  exact (arranged.tied _ level).trans (arranged'.tied _ level).symm

end Uniqueness

/-- Rows that are in order stay as they stood. -/
theorem Arranged.keeps (coherent : Coherent order rows) (arranged : Arranged order rows sorted)
    (before : [earlier, later].Sublist rows) (notAfter : order later earlier ≠ .lt) :
    [earlier, later].Sublist sorted := by
  have member : earlier ∈ rows := before.subset (by simp)
  have member' : later ∈ rows := before.subset (by simp)
  have swapped := coherent.swap member' member
  by_cases same : order earlier later = .eq
  · have kept := arranged.tied (fun row => order earlier row = .eq)
      fun left inside right inside' same same' => coherent.tied_trans inside member inside'
        (of_decide_eq_true same) (of_decide_eq_true same')
    have chosen := before.filter fun row => order earlier row = .eq
    rw [← kept] at chosen
    simp only [List.filter_cons, coherent.self member, same, decide_true, if_true, List.filter_nil]
      at chosen
    exact chosen.trans List.filter_sublist
  · have after : ¬ (order later earlier).isLE := by
      rw [swapped] at notAfter ⊢
      revert same notAfter
      cases order earlier later <;> decide
    obtain ⟨front, back, rfl⟩ := List.append_of_mem (arranged.perm.mem_iff.mpr member)
    obtain ⟨-, -, crossing⟩ := List.pairwise_append.mp arranged.ordered
    rcases List.mem_append.mp (arranged.perm.mem_iff.mpr member') with inside | inside
    · exact absurd (crossing later inside earlier List.mem_cons_self) after
    · rcases List.mem_cons.mp inside with rfl | inside
      · exact absurd (coherent.self member) same
      · exact ((List.singleton_sublist.mpr inside).cons_cons earlier).trans
          (List.sublist_append_right _ _)

section Insertion

private theorem insertRow_perm (order : Row → Row → Ordering) (row : Row) (rows : List Row) :
    (insertRow order row rows).Perm (row :: rows) := by
  induction rows with
  | nil => exact .refl _
  | cons last earlier ih =>
    simp only [insertRow]
    split
    · exact (ih.cons last).trans (.swap row last earlier)
    · exact .refl _

private theorem insertRows_concat (order : Row → Row → Ordering) (rows : List Row) (row : Row) :
    insertRows order (rows ++ [row]) =
      (insertRow order row (insertRows order rows).reverse).reverse := by
  simp [insertRows]

private theorem insertRows_perm (order : Row → Row → Ordering) (rows : List Row) :
    (insertRows order rows).Perm rows := by
  induction rows using List.reverseRecOn with
  | nil => exact .refl _
  | append_singleton rows row ih =>
    rw [insertRows_concat]
    calc (insertRow order row (insertRows order rows).reverse).reverse
      List.Perm _ (insertRow order row (insertRows order rows).reverse) := List.reverse_perm _
      List.Perm _ (row :: (insertRows order rows).reverse) := insertRow_perm _ _ _
      List.Perm _ (row :: rows) := ((List.reverse_perm _).trans ih).cons row
      List.Perm _ (rows ++ [row]) := (List.perm_append_singleton row rows).symm

private theorem insertRow_ordered (coherent : Coherent order rows) (inside : row ∈ rows)
    (all : ∀ other ∈ sorted, other ∈ rows)
    (ordered : sorted.Pairwise fun later earlier => (order earlier later).isLE) :
    (insertRow order row sorted).Pairwise fun later earlier => (order earlier later).isLE := by
  induction sorted with
  | nil => exact List.pairwise_singleton _ _
  | cons last others ih =>
    obtain ⟨known, all⟩ := List.forall_mem_cons.mp all
    obtain ⟨behind, ordered'⟩ := List.pairwise_cons.mp ordered
    rw [insertRow]
    split
    next before =>
      refine List.pairwise_cons.mpr ⟨?_, ih all ordered'⟩
      intro other member
      rcases List.mem_cons.mp ((insertRow_perm order row others).mem_iff.mp member) with rfl | member
      · exact Ordering.isLE_of_eq_lt (Ordering.isLT_iff_eq_lt.mp before)
      · exact behind other member
    next notBefore =>
      have follows : (order last row).isLE := by
        rw [coherent.swap known inside, Ordering.isLE_swap, Ordering.isGE_iff_ne_lt]
        simpa using notBefore
      refine List.pairwise_cons.mpr ⟨?_, ordered⟩
      intro other member
      rcases List.mem_cons.mp member with rfl | member
      · exact follows
      · exact coherent.trans (all other member) known inside (behind other member) follows

private theorem filter_insertRow {chosen : Row → Bool}
    (level : chosen row → ∀ other ∈ sorted, chosen other → order row other ≠ .lt) :
    (insertRow order row sorted).filter chosen = (row :: sorted).filter chosen := by
  induction sorted with
  | nil => rfl
  | cons last earlier ih =>
    have rest := ih fun picked other member => level picked other (List.mem_cons_of_mem _ member)
    rw [insertRow]
    split
    next after =>
      by_cases picked : chosen row
      · have skipped : ¬ chosen last := fun both =>
          level picked last List.mem_cons_self both (by simpa using after)
        simp [rest, picked, skipped]
      · simp [List.filter_cons, rest, picked]
    next => rfl

/-- One more row is put in its place among arranged ones. -/
theorem Arranged.insert (coherent : Coherent order (rows ++ [row])) (arranged : Arranged order rows sorted) :
    Arranged order (rows ++ [row]) (insertRow order row sorted.reverse).reverse := by
  have known : ∀ other ∈ sorted.reverse, other ∈ rows ++ [row] := fun other member =>
    List.mem_append_left _ (arranged.perm.mem_iff.mp (List.mem_reverse.mp member))
  refine ⟨?_, ?_, fun chosen level => ?_⟩
  · calc (insertRow order row sorted.reverse).reverse
      List.Perm _ (insertRow order row sorted.reverse) := List.reverse_perm _
      List.Perm _ (row :: sorted.reverse) := insertRow_perm _ _ _
      List.Perm _ (row :: rows) := ((List.reverse_perm _).trans arranged.perm).cons row
      List.Perm _ (rows ++ [row]) := (List.perm_append_singleton row rows).symm
  · rw [List.pairwise_reverse]
    exact insertRow_ordered coherent (by simp) known (List.pairwise_reverse.mpr arranged.ordered)
  · have behind : chosen row → ∀ other ∈ sorted.reverse, chosen other → order row other ≠ .lt := by
      intro picked other member picked'
      rw [level row (by simp) other (known other member) picked picked']
      decide
    have others := arranged.tied chosen fun left member right member' =>
      level left (List.mem_append_left _ member) right (List.mem_append_left _ member')
    rw [List.filter_reverse, filter_insertRow behind, ← List.filter_reverse, List.reverse_cons,
      List.reverse_reverse, List.filter_append, List.filter_append, others]

private theorem arranged_insertRows (coherent : Coherent order rows) :
    Arranged order rows (insertRows order rows) := by
  induction rows using List.reverseRecOn with
  | nil => exact ⟨.refl _, .nil, fun _ _ => rfl⟩
  | append_singleton rows row ih =>
    rw [insertRows_concat]
    exact (ih (coherent.mono fun row => List.mem_append_left _)).insert coherent

theorem stable_insertion : Stable insertion where
  arranges {order rows} coherent := ⟨insertRows order rows, rfl, arranged_insertRows coherent⟩
  keeps {order rows} _ ended := Option.some.inj ended ▸ insertRows_perm order rows

end Insertion

section Fields

variable {sort : RowSort Option} {fields : List SortField}

/-- Without fields all rows tie. -/
theorem coherent_unsorted (rows : List Row) : Coherent (SortField.orderAll []) rows :=
  @Std.TransCmp.mk _ _ ⟨rfl⟩ fun _ _ => rfl

private theorem Arranged.unsorted (rows : List Row) : Arranged (SortField.orderAll []) rows rows :=
  ⟨.refl _, List.pairwise_of_forall fun _ _ => rfl, fun _ _ => rfl⟩

theorem arranged_sortRows (coherent : Coherent (SortField.orderAll fields) rows) :
    Arranged (SortField.orderAll fields) rows (sortRows fields rows) := by
  cases fields with
  | nil => exact .unsorted rows
  | cons field rest => exact arranged_insertRows coherent

/-- Stable sorts come to the same rows, in one order. -/
theorem sortBy_eq (stable : Stable sort) (coherent : Coherent (SortField.orderAll fields) rows) :
    sortBy sort fields rows = some (sortRows fields rows) := by
  cases fields with
  | nil => rfl
  | cons field rest =>
    obtain ⟨sorted, ended, arranged⟩ := stable.arranges coherent
    rw [sortBy, ended, arranged.unique coherent (arranged_sortRows coherent)]

theorem sortBy_perm (stable : Stable sort) (ended : sortBy sort fields rows = some sorted) :
    sorted.Perm rows := by
  cases fields with
  | nil => exact Option.some.inj ended ▸ .refl _
  | cons field rest => exact stable.keeps ended

end Fields

end ResourceQuery.Proofs.StableSorts

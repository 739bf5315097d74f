/-
Comparisons a stable sort may be given, and the arrangement it promises.

A comparison is only asked about the items of one list, so its laws are stated
for them.
-/
import Mathlib.Data.List.Nodup
import Mathlib.Data.List.Perm.Basic

namespace StableOrder

variable {α : Type} {before : α → α → Bool} {items : List α}

def Incomparable (before : α → α → Bool) (left right : α) : Prop :=
  before left right = false ∧ before right left = false

structure StrictWeak (before : α → α → Bool) (items : List α) : Prop where
  irreflexive : ∀ item ∈ items, before item item = false
  transitive : ∀ left ∈ items, ∀ middle ∈ items, ∀ right ∈ items,
    before left middle = true → before middle right = true →
      before left right = true
  incomparable : ∀ left ∈ items, ∀ middle ∈ items, ∀ right ∈ items,
    Incomparable before left middle → Incomparable before middle right →
      Incomparable before left right

/-- What a stable sort promises: no item stands behind one it has to precede,
and the order of the list decides between the others. -/
structure Arranged (before : α → α → Bool) (items ordered : List α) : Prop where
  perm : ordered.Perm items
  sorted : ordered.Pairwise fun left right => before right left = false
  stable : ordered.Pairwise fun left right =>
    before left right = true ∨ [left, right].Sublist items

/-! ### Pairs of a list without repetitions -/

theorem pair_total {left right : α} (inLeft : left ∈ items) (inRight : right ∈ items)
    (differ : left ≠ right) :
    [left, right].Sublist items ∨ [right, left].Sublist items := by
  induction items with
  | nil =>
      cases inLeft
  | cons item items ih =>
      rcases List.mem_cons.mp inLeft with rfl | leftLater
      · rcases List.mem_cons.mp inRight with rfl | rightLater
        · exact absurd rfl differ
        · exact Or.inl ((List.singleton_sublist.mpr rightLater).cons_cons left)
      · rcases List.mem_cons.mp inRight with rfl | rightLater
        · exact Or.inr ((List.singleton_sublist.mpr leftLater).cons_cons right)
        · rcases ih leftLater rightLater with first | second
          · exact Or.inl (first.cons item)
          · exact Or.inr (second.cons item)

theorem pair_asymm {left right : α} (distinct : items.Nodup)
    (one : [left, right].Sublist items) : ¬ [right, left].Sublist items := by
  intro other
  induction items with
  | nil =>
      cases one
  | cons item items ih =>
      obtain ⟨fresh, rest⟩ := List.nodup_cons.mp distinct
      cases one with
      | cons _ inside =>
          cases other with
          | cons _ also =>
              exact ih rest inside also
          | cons_cons _ _ =>
              exact fresh (inside.subset (List.mem_cons_of_mem left List.mem_cons_self))
      | cons_cons _ inside =>
          have rightLater := List.singleton_sublist.mp inside
          cases other with
          | cons _ also =>
              exact fresh (also.subset (List.mem_cons_of_mem right List.mem_cons_self))
          | cons_cons _ _ =>
              exact fresh rightLater

/-! ### The arrangement -/

theorem Arranged.unique {left right : List α} (distinct : items.Nodup)
    (one : Arranged before items left) (other : Arranged before items right) :
    left = right := by
  refine List.Perm.eq_of_pairwise ?_ (one.sorted.and one.stable)
    (other.sorted.and other.stable) (one.perm.trans other.perm.symm)
  rintro a b _ _ ⟨notBack, forward⟩ ⟨notForward, back⟩
  rcases forward with earlier | first
  · rw [notForward] at earlier
    cases earlier
  · rcases back with earlier | second
    · rw [notBack] at earlier
      cases earlier
    · exact absurd second (pair_asymm distinct first)

/-- A strict weak ordering gives an arrangement: sort by "does not have to
stand behind". -/
theorem StrictWeak.arranged (order : StrictWeak before items) (distinct : items.Nodup) :
    ∃ ordered, Arranged before items ordered := by
  let le : {item // item ∈ items} → {item // item ∈ items} → Bool :=
    fun left right => !before right.1 left.1
  have le_iff (left right : {item // item ∈ items}) :
      le left right = true ↔ before right.1 left.1 = false :=
    iff_of_eq (Bool.not_eq_true' _)
  have asymm (left right : {item // item ∈ items})
      (first : before left.1 right.1 = true) : before right.1 left.1 = false := by
    cases second : before right.1 left.1 with
    | false =>
        rfl
    | true =>
        rw [← order.irreflexive left.1 left.2]
        exact (order.transitive left.1 left.2 right.1 right.2 left.1 left.2 first
          second).symm
  have total (left right : {item // item ∈ items}) :
      (le left right || le right left) = true := by
    rw [Bool.or_eq_true, le_iff, le_iff]
    cases first : before left.1 right.1 with
    | false =>
        exact Or.inr rfl
    | true =>
        exact Or.inl (asymm left right first)
  have trans (left middle right : {item // item ∈ items})
      (one : le left middle = true) (two : le middle right = true) :
      le left right = true := by
    rw [le_iff] at one two ⊢
    cases back : before right.1 left.1 with
    | false =>
        rfl
    | true =>
        exfalso
        cases first : before left.1 middle.1 with
        | true =>
            have across := order.transitive right.1 right.2 left.1 left.2 middle.1
              middle.2 back first
            rw [two] at across
            cases across
        | false =>
            cases second : before middle.1 right.1 with
            | true =>
                have across := order.transitive middle.1 middle.2 right.1 right.2
                  left.1 left.2 second back
                rw [one] at across
                cases across
            | false =>
                have apart := order.incomparable left.1 left.2 middle.1 middle.2
                  right.1 right.2 ⟨first, one⟩ ⟨second, two⟩
                rw [apart.2] at back
                cases back
  have onItems (pair : List {item // item ∈ items}) :
      pair.Sublist items.attach → (pair.map Subtype.val).Sublist items := by
    intro inside
    have mapped := inside.map Subtype.val
    rwa [List.attach_map_subtype_val] at mapped
  let ordered := items.attach.mergeSort le
  have distinctOrdered : ordered.Nodup :=
    (List.mergeSort_perm items.attach le).nodup_iff.mpr (List.nodup_attach.mpr distinct)
  refine ⟨ordered.map Subtype.val, ?_, ?_, ?_⟩
  · have mapped := (List.mergeSort_perm items.attach le).map Subtype.val
    rwa [List.attach_map_subtype_val] at mapped
  · rw [List.pairwise_map]
    exact (List.pairwise_mergeSort trans total items.attach).imp (le_iff _ _).mp
  · rw [List.pairwise_map, List.pairwise_iff_forall_sublist]
    intro left right inOrder
    cases first : before left.1 right.1 with
    | true =>
        exact Or.inl rfl
    | false =>
        refine Or.inr ?_
        have differ : left ≠ right := by
          rintro rfl
          have twice := distinctOrdered.sublist inOrder
          exact (List.nodup_cons.mp twice).1 List.mem_cons_self
        rcases pair_total (List.mem_attach items left) (List.mem_attach items right)
            differ with kept | swapped
        · exact onItems _ kept
        · exact absurd (List.pair_sublist_mergeSort trans total
            ((le_iff right left).mpr first) swapped) (pair_asymm distinctOrdered inOrder)

theorem StrictWeak.existsUnique (order : StrictWeak before items)
    (distinct : items.Nodup) : ∃! ordered, Arranged before items ordered := by
  obtain ⟨ordered, arranged⟩ := order.arranged distinct
  exact ⟨ordered, arranged, fun _ other => other.unique distinct arranged⟩

end StableOrder

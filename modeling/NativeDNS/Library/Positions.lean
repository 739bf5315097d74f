/-
Positions of a list as the iterators of a sequence: the place of the first item
that is looked for, and what setting, erasing, inserting and swapping there do.
-/
import Mathlib.Data.List.Basic

namespace Positions

variable {α : Type} {before behind : List α} {item next : α}

theorem getElem?_split : (before ++ item :: behind)[before.length]? = some item := by
  rw [List.getElem?_append_right (Nat.le_refl _), Nat.sub_self]
  rfl

theorem getElem?_next {second : α} :
    (before ++ item :: second :: behind)[before.length + 1]? = some second := by
  rw [List.getElem?_append_right (Nat.le_succ _), Nat.succ_sub (Nat.le_refl _),
    Nat.sub_self]
  rfl

theorem set_split :
    (before ++ item :: behind).set before.length next = before ++ next :: behind := by
  rw [List.set_append_right _ _ (Nat.le_refl _), Nat.sub_self]
  rfl

theorem eraseIdx_split :
    (before ++ item :: behind).eraseIdx before.length = before ++ behind := by
  rw [List.eraseIdx_append_of_length_le (Nat.le_refl _), Nat.sub_self]
  rfl

theorem insertIdx_split :
    (before ++ behind).insertIdx before.length next = before ++ next :: behind := by
  induction before with
  | nil =>
      rfl
  | cons first rest ih =>
      exact congrArg (first :: ·) ih

/-! ### Searching -/

structure First (wanted : α → Bool) (items before : List α) (item : α)
    (behind : List α) : Prop where
  split : items = before ++ item :: behind
  here : wanted item = true
  earlier : ∀ other ∈ before, wanted other = false

variable {wanted : α → Bool} {items : List α}

theorem First.place (first : First wanted items before item behind) :
    items.findIdx wanted = before.length := by
  obtain ⟨split, here, earlier⟩ := first
  rw [split, List.findIdx_append, List.findIdx_eq_length_of_false earlier,
    if_neg (Nat.lt_irrefl _), List.findIdx_cons, here, cond_true, Nat.zero_add]

theorem findIdx_first (wanted : α → Bool) (items : List α) :
    items.findIdx wanted = items.length ∨
      ∃ before item behind, First wanted items before item behind := by
  by_cases present : ∃ item ∈ items, wanted item = true
  · obtain ⟨item, member, isWanted⟩ := present
    have found : items.find? wanted ≠ none := by
      intro none_found
      exact List.find?_eq_none.mp none_found item member isWanted
    obtain ⟨first, isFirst⟩ := Option.ne_none_iff_exists'.mp found
    obtain ⟨here, before, behind, split, earlier⟩ :=
      List.find?_eq_some_iff_append.mp isFirst
    refine Or.inr ⟨before, first, behind, split, here, ?_⟩
    intro other inside
    have unwanted := earlier other inside
    rwa [Bool.not_eq_true'] at unwanted
  · refine Or.inl (List.findIdx_eq_length_of_false ?_)
    intro item member
    exact Bool.eq_false_iff.mpr fun isWanted => present ⟨item, member, isWanted⟩

theorem First.inside (first : First wanted items before item behind) :
    items.findIdx wanted ≠ items.length := by
  rw [first.place, first.split, List.length_append, List.length_cons]
  omega

theorem First.deref (first : First wanted items before item behind) :
    items[items.findIdx wanted]? = some item := by
  rw [first.place, first.split]
  exact getElem?_split

/-! ### Swapping -/

def swapAt (items : List α) (left right : Nat) : Option (List α) :=
  match items[left]?, items[right]? with
  | some first, some second => some ((items.set left second).set right first)
  | _, _ => none

theorem swapAt_next {second : α} :
    swapAt (before ++ item :: second :: behind) before.length (before.length + 1) =
      some (before ++ second :: item :: behind) := by
  have shifted : before ++ second :: second :: behind =
      (before ++ [second]) ++ second :: behind := by
    rw [List.append_assoc, List.singleton_append]
  have length : before.length + 1 = (before ++ [second]).length := by
    rw [List.length_append, List.length_singleton]
  unfold swapAt
  rw [getElem?_split, getElem?_next]
  dsimp only
  rw [set_split, shifted, length, set_split, List.append_assoc,
    List.singleton_append]

theorem swapAt_previous {second : α} :
    swapAt (before ++ item :: second :: behind) (before.length + 1) before.length =
      some (before ++ second :: item :: behind) := by
  have forward := @swapAt_next α before behind item second
  unfold swapAt at forward ⊢
  split at forward
  · rename_i first later atFirst atLater
    rw [atFirst, atLater]
    dsimp only
    rw [List.set_comm _ _ (Nat.succ_ne_self _)]
    exact forward
  · cases forward

end Positions

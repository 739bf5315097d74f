/-
Lists of items numbered in increasing order, and the initial segments a reader
with a cursor takes of them.
-/
import Mathlib.Algebra.Ring.Nat
import Mathlib.Order.Lattice
import Mathlib.Data.List.Basic
import Mathlib.Data.List.Pairwise

namespace Numbered

variable {α : Type} {number : α → Nat}

def Increasing (number : α → Nat) (items : List α) : Prop :=
  items.Pairwise fun left right => number left < number right

theorem Increasing.concat {items : List α} {item : α}
    (increasing : Increasing number items)
    (greater : ∀ other ∈ items, number other < number item) :
    Increasing number (items ++ [item]) := by
  apply List.pairwise_append.mpr
  refine ⟨increasing, List.pairwise_singleton _ _, ?_⟩
  intro other member last same
  rw [List.mem_singleton.mp same]
  exact greater other member

theorem Increasing.numbers {items : List α} (increasing : Increasing number items) :
    (items.map number).Pairwise (· < ·) :=
  List.pairwise_map.mpr increasing

theorem Increasing.inj {items : List α} (increasing : Increasing number items)
    {left right : α} (leftMember : left ∈ items) (rightMember : right ∈ items)
    (same : number left = number right) : left = right := by
  induction items with
  | nil =>
      cases leftMember
  | cons first rest ih =>
      obtain ⟨later, restIncreasing⟩ := List.pairwise_cons.mp increasing
      rcases List.mem_cons.mp leftMember with leftHere | leftRest
      · rcases List.mem_cons.mp rightMember with rightHere | rightRest
        · rw [leftHere, rightHere]
        · have less := later right rightRest
          rw [leftHere] at same
          omega
      · rcases List.mem_cons.mp rightMember with rightHere | rightRest
        · have less := later left leftRest
          rw [rightHere] at same
          omega
        · exact ih restIncreasing leftRest rightRest

theorem Increasing.disjoint {front back : List α}
    (increasing : Increasing number (front ++ back)) {item : α}
    (inFront : item ∈ front) : item ∉ back := by
  intro inBack
  have less := (List.pairwise_append.mp increasing).2.2 item inFront item inBack
  exact Nat.lt_irrefl _ less

theorem Increasing.prefix_covers {items batch : List α}
    (increasing : Increasing number items) (initial : batch <+: items)
    {item reached : α} (member : item ∈ items) (inBatch : reached ∈ batch)
    (upTo : number item ≤ number reached) : item ∈ batch := by
  obtain ⟨rest, whole⟩ := initial
  rw [← whole] at increasing member
  rcases List.mem_append.mp member with inside | beyond
  · exact inside
  · have less := (List.pairwise_append.mp increasing).2.2 reached inBatch item beyond
    omega

end Numbered

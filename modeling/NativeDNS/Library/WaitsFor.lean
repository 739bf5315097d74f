/-
Threads that wait for what other threads hold.

Every resource has a rank, and a thread waits only for a resource above all that it
holds.  Along the waits the ranks then grow, so they never close a circle: behind
every thread stands one that waits for nobody.
-/
import Mathlib.Logic.Relation

namespace WaitsFor

variable {Thread Resource : Type} {waits holds : Thread → Resource → Prop}

/-- The thread waits for something that the other one holds. -/
def On (waits holds : Thread → Resource → Prop) (thread other : Thread) : Prop :=
  ∃ resource, waits thread resource ∧ holds other resource

/-- Nobody holds anything the thread waits for. -/
def Free (waits holds : Thread → Resource → Prop) (thread : Thread) : Prop :=
  ∀ other, ¬ On waits holds thread other

/-- A group in which everybody waits for a member. -/
structure Deadlocked (waits holds : Thread → Resource → Prop) (group : Thread → Prop) :
    Prop where
  nonempty : ∃ thread, group thread
  closed : ∀ thread, group thread → ∃ other, group other ∧ On waits holds thread other

structure Ranked (waits holds : Thread → Resource → Prop) (rank : Resource → Nat)
    (bound : Nat) : Prop where
  ordered : ∀ thread wanted held, waits thread wanted → holds thread held →
    rank held < rank wanted
  bounded : ∀ resource, rank resource < bound

variable {rank : Resource → Nat} {bound : Nat}

theorem Ranked.free_above (ranked : Ranked waits holds rank bound) {left : Nat} :
    ∀ {thread : Thread}, (∀ resource, waits thread resource → bound ≤ rank resource + left) →
      ∃ last, Relation.ReflTransGen (On waits holds) thread last ∧ Free waits holds last := by
  induction left with
  | zero =>
      intro thread above
      refine ⟨thread, .refl, fun other on => ?_⟩
      obtain ⟨resource, wanted, _⟩ := on
      have high := above resource wanted
      have low := ranked.bounded resource
      omega
  | succ left ih =>
      intro thread above
      by_cases free : Free waits holds thread
      · exact ⟨thread, .refl, free⟩
      · obtain ⟨other, on⟩ := Classical.not_forall.mp free
        have on := Classical.not_not.mp on
        obtain ⟨resource, wanted, held⟩ := on
        have higher : ∀ next, waits other next → bound ≤ rank next + left := by
          intro next wantedNext
          have high := above resource wanted
          have grows := ranked.ordered other next resource wantedNext held
          omega
        obtain ⟨last, path, free⟩ := ih higher
        exact ⟨last, .head ⟨resource, wanted, held⟩ path, free⟩

theorem Ranked.exists_free (ranked : Ranked waits holds rank bound) (thread : Thread) :
    ∃ last, Relation.ReflTransGen (On waits holds) thread last ∧ Free waits holds last :=
  ranked.free_above (fun _ _ => Nat.le_add_left bound _)

theorem Ranked.not_deadlocked (ranked : Ranked waits holds rank bound)
    (group : Thread → Prop) : ¬ Deadlocked waits holds group := by
  rintro ⟨⟨first, member⟩, closed⟩
  -- Only what members hold counts.
  let held : Thread → Resource → Prop := fun thread resource =>
    group thread ∧ holds thread resource
  have within : Ranked waits held rank bound :=
    { ordered := fun thread wanted resource waiting holding =>
        ranked.ordered thread wanted resource waiting holding.2
      bounded := ranked.bounded }
  obtain ⟨last, path, free⟩ := within.exists_free first
  have inside : group last := by
    cases Relation.ReflTransGen.cases_tail path with
    | inl same =>
        rwa [same]
    | inr step =>
        obtain ⟨_, _, _, _, membership, _⟩ := step
        exact membership
  obtain ⟨other, otherInside, resource, wanted, holding⟩ := closed last inside
  exact free other ⟨resource, wanted, otherInside, holding⟩

end WaitsFor

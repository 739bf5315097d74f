/-
Following a partial function.

A walk that notes every point it visits either ends at a point without a
successor, and has then visited the whole chain, or meets a point again, and
the chain is cyclic.  The points with a successor bound its length.
-/
import Mathlib.Logic.Relation
import Mathlib.Data.List.Perm.Subperm
import Mathlib.Data.List.Nodup

namespace Chain

variable {α : Type} {step : α → Option α} {start current target : α}
variable {seen : List α}

def Steps (step : α → Option α) (point next : α) : Prop :=
  step point = some next

/-- The point is reached from the start. -/
def OnChain (step : α → Option α) (start point : α) : Prop :=
  Relation.ReflTransGen (Steps step) start point

/-- The chain comes back to one of its points. -/
def Cyclic (step : α → Option α) (start : α) : Prop :=
  ∃ point, OnChain step start point ∧
    Relation.TransGen (Steps step) point point

theorem transGen_of_onChain {point other : α}
    (cycle : Relation.TransGen (Steps step) point point)
    (reached : OnChain step point other) :
    Relation.TransGen (Steps step) other other := by
  induction reached with
  | refl =>
      exact cycle
  | @tail middle last _ stepped ih =>
      obtain ⟨next, first, back⟩ := Relation.TransGen.head'_iff.mp ih
      have same : next = last := Option.some.inj (first.symm.trans stepped)
      subst same
      exact Relation.TransGen.tail' back stepped

/-- The state of a walk that has not met a point twice. -/
structure Followed (step : α → Option α) (start current : α)
    (seen : List α) : Prop where
  started : start ∈ seen
  present : current ∈ seen
  distinct : seen.Nodup
  reached : ∀ point ∈ seen, OnChain step start point
  continues : ∀ point ∈ seen, point ≠ current →
    ∃ next ∈ seen, Steps step point next
  leads : ∀ point ∈ seen, OnChain step point current

theorem Followed.begin (step : α → Option α) (start : α) :
    Followed step start start [start] where
  started := List.mem_singleton_self start
  present := List.mem_singleton_self start
  distinct := List.nodup_singleton start
  reached := by
    intro point member
    rw [List.mem_singleton.mp member]
    exact .refl
  continues := fun _ member other => absurd (List.mem_singleton.mp member) other
  leads := by
    intro point member
    rw [List.mem_singleton.mp member]
    exact .refl

theorem Followed.next (followed : Followed step start current seen)
    (found : step current = some target) (fresh : target ∉ seen) :
    Followed step start target (target :: seen) where
  started := List.mem_cons_of_mem target followed.started
  present := List.mem_cons_self
  distinct := List.nodup_cons.mpr ⟨fresh, followed.distinct⟩
  reached := by
    intro point member
    rcases List.mem_cons.mp member with rfl | earlier
    · exact (followed.reached current followed.present).tail found
    · exact followed.reached point earlier
  continues := by
    intro point member other
    have earlier := (List.mem_cons.mp member).resolve_left other
    by_cases last : point = current
    · exact ⟨target, List.mem_cons_self, last ▸ found⟩
    · obtain ⟨next, inside, stepped⟩ := followed.continues point earlier last
      exact ⟨next, List.mem_cons_of_mem target inside, stepped⟩
  leads := by
    intro point member
    rcases List.mem_cons.mp member with rfl | earlier
    · exact .refl
    · exact (followed.leads point earlier).tail found

theorem Followed.complete (followed : Followed step start current seen)
    (ended : step current = none) (point : α) :
    point ∈ seen ↔ OnChain step start point := by
  refine ⟨followed.reached point, fun reached => ?_⟩
  induction reached with
  | refl =>
      exact followed.started
  | @tail middle last _ stepped ih =>
      have notLast : middle ≠ current := by
        rintro rfl
        cases ended.symm.trans stepped
      obtain ⟨next, inside, also⟩ := followed.continues middle ih notLast
      cases stepped.symm.trans also
      exact inside

theorem Followed.acyclic (followed : Followed step start current seen)
    (ended : step current = none) : ¬ Cyclic step start := by
  rintro ⟨point, reached, cycle⟩
  have inside := (followed.complete ended point).mpr reached
  obtain ⟨next, stepped, _⟩ := Relation.TransGen.head'_iff.mp
    (transGen_of_onChain cycle (followed.leads point inside))
  cases ended.symm.trans stepped

theorem Followed.cyclic (followed : Followed step start current seen)
    (found : step current = some target) (again : target ∈ seen) :
    Cyclic step start :=
  ⟨target, followed.reached target again,
    Relation.TransGen.tail' (followed.leads target again) found⟩

theorem Followed.length_le [DecidableEq α] {keys : List α}
    (followed : Followed step start current seen)
    (covers : ∀ point next, step point = some next → point ∈ keys) :
    seen.length ≤ keys.length + 1 := by
  have inside : seen.erase current ⊆ keys := by
    intro point member
    obtain ⟨other, earlier⟩ := followed.distinct.mem_erase_iff.mp member
    obtain ⟨next, _, stepped⟩ := followed.continues point earlier other
    exact covers point next stepped
  have fewer :=
    (List.subperm_of_subset (followed.distinct.erase current) inside).length_le
  rw [List.length_erase_of_mem followed.present] at fewer
  omega

end Chain

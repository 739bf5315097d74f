/-
Values offered at ranks, each kept once at its best rank.

Going through the offers in increasing rank and keeping every value that is
new gives the only listing of the values by their best ranks.
-/
import Mathlib.Data.List.Nodup
import Mathlib.Data.List.Perm.Basic
import Mathlib.Order.Lattice

namespace RankedChoice

variable {κ α : Type} [LinearOrder κ]

def Precedes (offers : List (κ × α)) (first second : α) : Prop :=
  ∃ rank, (rank, first) ∈ offers ∧
    ∀ other, (other, second) ∈ offers → rank < other

/-- The offered values, each once, by their best ranks. -/
structure Ranking (offers : List (κ × α)) (values : List α) : Prop where
  distinct : values.Nodup
  offered : ∀ value, value ∈ values ↔ ∃ rank, (rank, value) ∈ offers
  ordered : values.Pairwise (Precedes offers)

theorem Precedes.asymm {offers : List (κ × α)} {first second : α}
    (one : Precedes offers first second) :
    ¬ Precedes offers second first := by
  rintro ⟨later, offered, after⟩
  obtain ⟨rank, member, before⟩ := one
  exact lt_asymm (before later offered) (after rank member)

theorem Ranking.unique {offers others : List (κ × α)} {left right : List α}
    (one : Ranking offers left) (other : Ranking others right)
    (same : ∀ offer, offer ∈ offers ↔ offer ∈ others) : left = right := by
  have perm : left.Perm right := by
    rw [List.perm_ext_iff_of_nodup one.distinct other.distinct]
    intro value
    rw [one.offered, other.offered]
    exact exists_congr fun rank => same (rank, value)
  have ordered : right.Pairwise (Precedes offers) := by
    refine other.ordered.imp ?_
    rintro first second ⟨rank, member, before⟩
    refine ⟨rank, (same _).mpr member, ?_⟩
    intro later offered
    exact before later ((same _).mp offered)
  refine perm.eq_of_pairwise ?_ one.ordered ordered
  intro first second _ _ forward back
  exact absurd back forward.asymm

theorem ranking_nil : Ranking ([] : List (κ × α)) [] where
  distinct := List.nodup_nil
  offered := by
    intro value
    constructor
    · intro member
      cases member
    · rintro ⟨rank, member⟩
      cases member
  ordered := List.Pairwise.nil

section Keeping

variable [DecidableEq α]

def keepNew (values : List α) (value : α) : List α :=
  if value ∈ values then values else values ++ [value]

theorem Ranking.keepNew {offers : List (κ × α)} {values : List α}
    (ranking : Ranking offers values) {rank : κ} {value : α}
    (behind : ∀ offer ∈ offers, offer.1 < rank) :
    Ranking (offers ++ [(rank, value)]) (keepNew values value) := by
  have mem_iff : ∀ other known, (other, known) ∈ offers ++ [(rank, value)] ↔
      (other, known) ∈ offers ∨ other = rank ∧ known = value := by
    intro other known
    rw [List.mem_append, List.mem_singleton, Prod.mk.injEq]
  have kept : ∀ first second, Precedes offers first second →
      Precedes (offers ++ [(rank, value)]) first second := by
    rintro first second ⟨best, member, before⟩
    refine ⟨best, (mem_iff _ _).mpr (Or.inl member), ?_⟩
    intro other present
    rcases (mem_iff _ _).mp present with earlier | ⟨last, _⟩
    · exact before other earlier
    · rw [last]
      exact behind _ member
  unfold RankedChoice.keepNew
  by_cases known : value ∈ values
  · rw [if_pos known]
    refine ⟨ranking.distinct, ?_, ranking.ordered.imp (kept _ _)⟩
    intro other
    rw [ranking.offered]
    constructor
    · rintro ⟨best, member⟩
      exact ⟨best, (mem_iff _ _).mpr (Or.inl member)⟩
    · rintro ⟨best, member⟩
      rcases (mem_iff _ _).mp member with earlier | ⟨_, last⟩
      · exact ⟨best, earlier⟩
      · rw [last]
        exact (ranking.offered value).mp known
  · rw [if_neg known]
    refine ⟨?_, ?_, ?_⟩
    · refine List.nodup_append.mpr
        ⟨ranking.distinct, List.nodup_singleton _, ?_⟩
      intro first member second last same
      rw [List.mem_singleton.mp last] at same
      rw [same] at member
      exact known member
    · intro other
      rw [List.mem_append, List.mem_singleton, ranking.offered]
      constructor
      · rintro (⟨best, member⟩ | last)
        · exact ⟨best, (mem_iff _ _).mpr (Or.inl member)⟩
        · exact ⟨rank, (mem_iff _ _).mpr (Or.inr ⟨rfl, last⟩)⟩
      · rintro ⟨best, member⟩
        rcases (mem_iff _ _).mp member with earlier | ⟨_, last⟩
        · exact Or.inl ⟨best, earlier⟩
        · exact Or.inr last
    · refine List.pairwise_append.mpr
        ⟨ranking.ordered.imp (kept _ _), List.pairwise_singleton _ _, ?_⟩
      intro first member second last
      rw [List.mem_singleton.mp last]
      obtain ⟨best, offered⟩ := (ranking.offered first).mp member
      refine ⟨best, (mem_iff _ _).mpr (Or.inl offered), ?_⟩
      intro other present
      rcases (mem_iff _ _).mp present with earlier | ⟨same, _⟩
      · exact absurd ((ranking.offered value).mpr ⟨other, earlier⟩) known
      · rw [same]
        exact behind _ offered

theorem Ranking.keepAll {later : List (κ × α)}
    (increasing : later.Pairwise fun left right => left.1 < right.1)
    {offers : List (κ × α)} {values : List α} (ranking : Ranking offers values)
    (behind : ∀ offer ∈ offers, ∀ next ∈ later, offer.1 < next.1) :
    Ranking (offers ++ later)
      (later.foldl (fun kept offer => RankedChoice.keepNew kept offer.2)
        values) := by
  induction later generalizing offers values with
  | nil =>
      rw [List.append_nil]
      exact ranking
  | cons offer rest ih =>
      obtain ⟨rank, value⟩ := offer
      obtain ⟨first, increasing⟩ := List.pairwise_cons.mp increasing
      have step : Ranking (offers ++ [(rank, value)])
          (RankedChoice.keepNew values value) :=
        ranking.keepNew fun offer member =>
          behind offer member (rank, value) List.mem_cons_self
      have rest := ih increasing step (by
        intro offer member next inRest
        rcases List.mem_append.mp member with earlier | last
        · exact behind offer earlier next (List.mem_cons_of_mem _ inRest)
        · rw [List.mem_singleton.mp last]
          exact first next inRest)
      rw [List.append_assoc] at rest
      exact rest

theorem ranking_keepAll {offers : List (κ × α)}
    (increasing : offers.Pairwise fun left right => left.1 < right.1) :
    Ranking offers
      (offers.foldl (fun kept offer => keepNew kept offer.2) []) :=
  ranking_nil.keepAll increasing fun _ impossible =>
    absurd impossible List.not_mem_nil

end Keeping

end RankedChoice

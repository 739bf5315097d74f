/-
Padding by a mark and blanks.

A padded message is the message, one mark and any number of blanks.  As the
mark is no blank, the message can be read back whatever it ends in: dropping
the blanks from the back stops at the mark.
-/
import Mathlib.Data.List.DropRight

namespace MarkedPadding

variable {α : Type} [DecidableEq α] {mark blank : α} {message padded : List α}

/-- `padded` is `message` behind which a mark and blanks stand. -/
def Padded (mark blank : α) (message padded : List α) : Prop :=
  ∃ count, padded = message ++ mark :: List.replicate count blank

abbrev content (blank : α) (padded : List α) : List α :=
  padded.rdropWhile (· == blank)

theorem content_append_blanks (count : Nat) :
    content blank (padded ++ List.replicate count blank) =
      content blank padded := by
  induction count with
  | zero =>
      rw [List.replicate_zero, List.append_nil]
  | succ count ih =>
      have isBlank : (blank == blank) = true := beq_self_eq_true blank
      rw [List.replicate_succ', ← List.append_assoc, content,
        List.rdropWhile_concat_pos (· == blank) _ blank isBlank]
      exact ih

theorem exists_content_append (blank : α) (padded : List α) :
    ∃ count, padded = content blank padded ++ List.replicate count blank := by
  have blanks : ∀ symbol ∈ padded.rtakeWhile (· == blank), symbol = blank := by
    intro symbol member
    have found := @List.mem_rtakeWhile_imp α (· == blank) padded symbol member
    exact eq_of_beq found
  refine ⟨(padded.rtakeWhile (· == blank)).length, ?_⟩
  rw [← List.eq_replicate_of_mem blanks]
  exact List.rdropWhile_append_rtakeWhile.symm

/-- A list is a padded message exactly when the message and its mark are what
stands in front of the blanks. -/
theorem padded_iff (distinct : mark ≠ blank) :
    Padded mark blank message padded ↔
      content blank padded = message ++ [mark] := by
  constructor
  · rintro ⟨count, rfl⟩
    rw [List.append_cons, content_append_blanks]
    exact List.rdropWhile_concat_neg (· == blank) _ mark
      (fun same => distinct (eq_of_beq same))
  · intro front
    obtain ⟨count, split⟩ := exists_content_append blank padded
    rw [front, ← List.append_cons] at split
    exact ⟨count, split⟩

end MarkedPadding

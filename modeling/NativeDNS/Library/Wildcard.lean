/-
Texts described by characters and wildcards.

A pattern is a sequence of items: a character, one character of any kind, or a
run of them.  Which characters are the same and which a wildcard may stand for
are parameters, so that one definition serves a reader that ignores case and an
engine whose wildcards stop at the end of a line.
-/
import Mathlib.Data.List.Infix

namespace Wildcard

inductive Item (α : Type) where
  | literal (character : α)
  | any
  | run
  deriving DecidableEq

variable {α : Type}

/-- Behind some free characters the rest of the text is taken by `next`. -/
def behindRun (free : α → Bool) (next : List α → Bool) : List α → Bool
  | [] => next []
  | first :: text => next (first :: text) || (free first && behindRun free next text)

def isInstance (same : α → α → Bool) (free : α → Bool) :
    List (Item α) → List α → Bool
  | [], text => text.isEmpty
  | .literal _ :: _, [] => false
  | .literal character :: items, first :: text =>
      same character first && isInstance same free items text
  | .any :: _, [] => false
  | .any :: items, first :: text => free first && isInstance same free items text
  | .run :: items, text => behindRun free (isInstance same free items) text

def hasInstance (same : α → α → Bool) (free : α → Bool) (items : List (Item α))
    (text : List α) : Prop :=
  ∃ front part back, text = front ++ part ++ back ∧
    isInstance same free items part = true

variable {same : α → α → Bool} {free : α → Bool}

theorem behindRun_cons (next : List α → Bool) (first : α) (text : List α) :
    behindRun free next (first :: text) =
      (next (first :: text) || (free first && behindRun free next text)) :=
  rfl

theorem isInstance_nil (text : List α) : isInstance same free [] text = text.isEmpty :=
  rfl

theorem isInstance_literal (character : α) (items : List (Item α)) (first : α)
    (text : List α) :
    isInstance same free (.literal character :: items) (first :: text) =
      (same character first && isInstance same free items text) :=
  rfl

theorem isInstance_any (items : List (Item α)) (first : α) (text : List α) :
    isInstance same free (.any :: items) (first :: text) =
      (free first && isInstance same free items text) :=
  rfl

theorem isInstance_behindRun (items : List (Item α)) (text : List α) :
    isInstance same free (.run :: items) text =
      behindRun free (isInstance same free items) text :=
  rfl

theorem hasInstance_iff {items : List (Item α)} {text : List α} :
    (text.tails.any fun tail => tail.inits.any (isInstance same free items)) = true ↔
      hasInstance same free items text := by
  simp only [List.any_eq_true, List.mem_tails, List.mem_inits]
  constructor
  · rintro ⟨tail, ⟨front, whole⟩, part, ⟨back, split⟩, found⟩
    exact ⟨front, part, back, by rw [List.append_assoc, split, whole], found⟩
  · rintro ⟨front, part, back, whole, found⟩
    refine ⟨part ++ back, ⟨front, ?_⟩, part, ⟨back, rfl⟩, found⟩
    rw [whole, List.append_assoc]

instance (items : List (Item α)) (text : List α) :
    Decidable (hasInstance same free items text) :=
  decidable_of_iff _ hasInstance_iff

theorem behindRun_congr {other : α → Bool} {next later : List α → Bool} {text : List α}
    (agree : ∀ character ∈ text, free character = other character)
    (follow : ∀ rest, rest <:+ text → next rest = later rest) :
    behindRun free next text = behindRun other later text := by
  induction text with
  | nil =>
      exact follow [] List.suffix_rfl
  | cons first text ih =>
      have rest := ih (fun c member => agree c (List.mem_cons_of_mem first member))
        (fun rest inside => follow rest (inside.trans (List.suffix_cons first text)))
      rw [behindRun_cons, behindRun_cons, agree first List.mem_cons_self,
        follow (first :: text) List.suffix_rfl, rest]

theorem isInstance_congr {other : α → Bool} {items : List (Item α)} {text : List α}
    (agree : ∀ character ∈ text, free character = other character) :
    isInstance same free items text = isInstance same other items text := by
  induction items generalizing text with
  | nil =>
      rfl
  | cons item items ih =>
      have rest : ∀ {first : α} {back : List α}, text = first :: back →
          isInstance same free items back = isInstance same other items back := by
        rintro first back rfl
        exact ih fun c member => agree c (List.mem_cons_of_mem first member)
      cases item with
      | literal character =>
          cases text with
          | nil =>
              rfl
          | cons first back =>
              rw [isInstance_literal, isInstance_literal, rest rfl]
      | any =>
          cases text with
          | nil =>
              rfl
          | cons first back =>
              rw [isInstance_any, isInstance_any, agree first List.mem_cons_self, rest rfl]
      | run =>
          exact behindRun_congr agree fun back inside =>
            ih fun c member => agree c (inside.subset member)

theorem hasInstance_congr {other : α → Bool} {items : List (Item α)} {text : List α}
    (agree : ∀ character ∈ text, free character = other character) :
    hasInstance same free items text ↔ hasInstance same other items text := by
  have parts : ∀ front part back, text = front ++ part ++ back →
      isInstance same free items part = isInstance same other items part := by
    intro front part back whole
    refine isInstance_congr fun character member => agree character ?_
    rw [whole, List.append_assoc]
    exact List.mem_append_right front (List.mem_append_left back member)
  constructor
  · rintro ⟨front, part, back, whole, found⟩
    exact ⟨front, part, back, whole, parts front part back whole ▸ found⟩
  · rintro ⟨front, part, back, whole, found⟩
    exact ⟨front, part, back, whole, (parts front part back whole).symm ▸ found⟩

/-! ### Particular patterns -/

theorem isInstance_literals {β : Type} [DecidableEq β] {kind : α → β}
    (characters text : List α) :
    isInstance (fun left right => kind left == kind right) free
        (characters.map .literal) text =
      (text.map kind == characters.map kind) := by
  induction characters generalizing text with
  | nil =>
      cases text with
      | nil =>
          rfl
      | cons first text =>
          rfl
  | cons character characters ih =>
      cases text with
      | nil =>
          rfl
      | cons first text =>
          rw [List.map_cons, isInstance_literal, ih, List.map_cons, List.map_cons,
            List.cons_beq_cons, BEq.comm]

theorem isInstance_run (text : List α) :
    isInstance same free [.run] text = text.all free := by
  rw [isInstance_behindRun]
  induction text with
  | nil =>
      rfl
  | cons first text ih =>
      rw [behindRun_cons, ih, isInstance_nil, List.isEmpty_cons, Bool.false_or, List.all_cons]

theorem isInstance_anys {count : Nat} {text : List α} :
    isInstance same free (List.replicate count .any) text = true ↔
      text.length = count ∧ text.all free = true := by
  induction count generalizing text with
  | zero =>
      rw [List.replicate_zero, isInstance_nil, List.isEmpty_iff]
      constructor
      · rintro rfl
        exact ⟨rfl, rfl⟩
      · exact fun empty => List.eq_nil_of_length_eq_zero empty.1
  | succ count ih =>
      rw [List.replicate_succ]
      cases text with
      | nil =>
          simp [isInstance]
      | cons first text =>
          rw [isInstance_any, Bool.and_eq_true, ih, List.length_cons, List.all_cons,
            Bool.and_eq_true, Nat.add_right_cancel_iff]
          tauto

/-! ### Splitting a text along a pattern -/

def Item.Covers (same : α → α → Bool) (free : α → Bool) : Item α → List α → Prop
  | .literal character, part => ∃ first, part = [first] ∧ same character first = true
  | .any, part => ∃ first, part = [first] ∧ free first = true
  | .run, part => part.all free = true

theorem behindRun_iff {next : List α → Bool} {text : List α} :
    behindRun free next text = true ↔
      ∃ front back, text = front ++ back ∧ front.all free = true ∧
        next back = true := by
  induction text with
  | nil =>
      constructor
      · exact fun found => ⟨[], [], rfl, rfl, found⟩
      · rintro ⟨front, back, whole, _, found⟩
        obtain ⟨rfl, rfl⟩ := List.append_eq_nil_iff.mp whole.symm
        exact found
  | cons first text ih =>
      rw [behindRun_cons, Bool.or_eq_true, Bool.and_eq_true, ih]
      constructor
      · rintro (found | ⟨isFree, front, back, rfl, allFree, found⟩)
        · exact ⟨[], first :: text, rfl, rfl, found⟩
        · refine ⟨first :: front, back, rfl, ?_, found⟩
          rw [List.all_cons, isFree, allFree]
          rfl
      · rintro ⟨front, back, whole, allFree, found⟩
        cases front with
        | nil =>
            exact Or.inl (whole ▸ found)
        | cons character front =>
            obtain ⟨rfl, rfl⟩ := List.cons.inj whole
            rw [List.all_cons, Bool.and_eq_true] at allFree
            exact Or.inr ⟨allFree.1, front, back, rfl, allFree.2, found⟩

theorem isInstance_iff_parts {items : List (Item α)} {text : List α} :
    isInstance same free items text = true ↔
      ∃ parts : List (List α), text = parts.flatten ∧
        List.Forall₂ (Item.Covers same free) items parts := by
  induction items generalizing text with
  | nil =>
      rw [isInstance_nil, List.isEmpty_iff]
      constructor
      · rintro rfl
        exact ⟨[], rfl, .nil⟩
      · rintro ⟨parts, rfl, covered⟩
        cases covered
        rfl
  | cons item items ih =>
      have onPart {part back : List α} (covers : item.Covers same free part)
          (rest : isInstance same free items back = true) :
          ∃ parts : List (List α), part ++ back = parts.flatten ∧
            List.Forall₂ (Item.Covers same free) (item :: items) parts := by
        obtain ⟨parts, rfl, covered⟩ := ih.mp rest
        exact ⟨part :: parts, rfl, .cons covers covered⟩
      have fromParts (parts : List (List α))
          (covered : List.Forall₂ (Item.Covers same free) (item :: items) parts) :
          ∃ part back, parts.flatten = part ++ back ∧
            item.Covers same free part ∧ isInstance same free items back = true := by
        cases covered with
        | cons covers rest =>
            exact ⟨_, _, List.flatten_cons, covers, ih.mpr ⟨_, rfl, rest⟩⟩
      cases item with
      | literal character =>
          constructor
          · intro found
            cases text with
            | nil =>
                cases found
            | cons first text =>
                rw [isInstance_literal, Bool.and_eq_true] at found
                exact @onPart [first] text ⟨first, rfl, found.1⟩ found.2
          · rintro ⟨parts, rfl, covered⟩
            obtain ⟨part, back, whole, ⟨first, rfl, agree⟩, rest⟩ :=
              fromParts parts covered
            rw [whole, List.singleton_append, isInstance_literal, agree, rest]
            rfl
      | any =>
          constructor
          · intro found
            cases text with
            | nil =>
                cases found
            | cons first text =>
                rw [isInstance_any, Bool.and_eq_true] at found
                exact @onPart [first] text ⟨first, rfl, found.1⟩ found.2
          · rintro ⟨parts, rfl, covered⟩
            obtain ⟨part, back, whole, ⟨first, rfl, isFree⟩, rest⟩ :=
              fromParts parts covered
            rw [whole, List.singleton_append, isInstance_any, isFree, rest]
            rfl
      | run =>
          rw [isInstance_behindRun, behindRun_iff]
          constructor
          · rintro ⟨front, back, rfl, allFree, rest⟩
            exact onPart allFree rest
          · rintro ⟨parts, rfl, covered⟩
            obtain ⟨part, back, whole, allFree, rest⟩ := fromParts parts covered
            exact ⟨part, back, whole, allFree, rest⟩

theorem isInstance_fixed {front items : List (Item α)} {text : List α}
    (fixed : Item.run ∉ front)
    (found : isInstance same free (front ++ items) text = true) :
    front.length ≤ text.length ∧
      isInstance same free items (text.drop front.length) = true := by
  induction front generalizing text with
  | nil =>
      exact ⟨Nat.zero_le _, found⟩
  | cons item front ih =>
      rw [List.mem_cons, not_or] at fixed
      have behind {first : α} {back : List α} (whole : text = first :: back)
          (rest : isInstance same free (front ++ items) back = true) :
          (item :: front).length ≤ text.length ∧
            isInstance same free items (text.drop (item :: front).length) =
              true := by
        subst whole
        obtain ⟨short, left⟩ := ih fixed.2 rest
        exact ⟨Nat.succ_le_succ short, left⟩
      cases text with
      | nil =>
          cases item with
          | literal character =>
              cases found
          | any =>
              cases found
          | run =>
              exact absurd rfl fixed.1
      | cons first back =>
          cases item with
          | literal character =>
              rw [List.cons_append, isInstance_literal, Bool.and_eq_true] at found
              exact behind rfl found.2
          | any =>
              rw [List.cons_append, isInstance_any, Bool.and_eq_true] at found
              exact behind rfl found.2
          | run =>
              exact absurd rfl fixed.1

theorem isInstance_empty {items : List (Item α)} :
    isInstance same free items [] = true ↔ ∀ item ∈ items, item = .run := by
  induction items with
  | nil =>
      exact ⟨fun _ item member => absurd member List.not_mem_nil, fun _ => rfl⟩
  | cons item items ih =>
      rw [List.forall_mem_cons]
      cases item with
      | literal character =>
          exact ⟨fun found => Bool.noConfusion found, fun runs => by cases runs.1⟩
      | any =>
          exact ⟨fun found => Bool.noConfusion found, fun runs => by cases runs.1⟩
      | run =>
          rw [isInstance_behindRun, behindRun, ih]
          exact ⟨fun runs => ⟨rfl, runs⟩, fun runs => runs.2⟩

end Wildcard

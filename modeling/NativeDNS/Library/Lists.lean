/-
Small facts about lists that several modules use.
-/
import NativeDNS.Library.CheckedResult
import Mathlib.Algebra.Ring.Nat
import Mathlib.Data.List.Basic
import Mathlib.Data.List.Forall2
import Mathlib.Data.List.Induction

namespace Lists

variable {α β : Type}

theorem getElem?_concat (items : List α) (item : α) (position : Nat) :
    (items ++ [item])[position]? =
      if position = items.length then some item else items[position]? := by
  rcases Nat.lt_trichotomy position items.length with inside | last | beyond
  · rw [List.getElem?_append_left inside, if_neg (Nat.ne_of_lt inside)]
  · rw [last, List.getElem?_concat_length, if_pos rfl]
  · rw [if_neg (Nat.ne_of_gt beyond), List.getElem?_eq_none (Nat.le_of_lt beyond)]
    apply List.getElem?_eq_none
    rw [List.length_append, List.length_singleton]
    exact beyond

/-- An element of a list that was extended at its end is the new one or stands in
the list before. -/
theorem snoc_split {items front back : List α} {last item : α}
    (split : items ++ [last] = front ++ item :: back) :
    (back = [] ∧ items = front ∧ last = item) ∨
      ∃ init, back = init ++ [last] ∧ items = front ++ item :: init := by
  induction back using List.reverseRecOn with
  | nil =>
      obtain ⟨whole, same⟩ := List.append_inj' split rfl
      exact .inl ⟨rfl, whole, List.singleton_inj.mp same⟩
  | append_singleton init final _ =>
      rw [← List.cons_append, ← List.append_assoc] at split
      obtain ⟨whole, same⟩ := List.append_inj' split rfl
      rw [← List.singleton_inj.mp same]
      exact .inr ⟨init, rfl, whole⟩

theorem exists_set {items : List α} {index : Nat} {old : α}
    (found : items[index]? = some old) (new : α) :
    ∃ before behind, items = before ++ old :: behind ∧
      items.set index new = before ++ new :: behind := by
  obtain ⟨inside, here⟩ := List.getElem?_eq_some_iff.mp found
  obtain ⟨before, behind, split, _, changed⟩ :=
    @List.exists_of_set _ index new items inside
  rw [here] at split
  exact ⟨before, behind, split, changed⟩

theorem filterMap_set (read : α → Option β) {items : List α} {index : Nat} {old : α}
    (found : items[index]? = some old) (new : α) :
    ((items.set index new).filterMap read ++ (read old).toList).Perm
      (items.filterMap read ++ (read new).toList) := by
  obtain ⟨before, behind, split, changed⟩ := exists_set found new
  have separated (item : α) : ((before ++ item :: behind).filterMap read).Perm
      ((before ++ behind).filterMap read ++ (read item).toList) := by
    cases seen : read item with
    | none =>
        simp [seen]
    | some value =>
        rw [List.filterMap_append, List.filterMap_cons_some seen,
          List.filterMap_append, Option.toList_some]
        exact List.perm_middle.trans (List.perm_append_singleton _ _).symm
  rw [changed, split]
  refine ((separated new).append_right _).trans (.trans ?_
    ((separated old).symm.append_right _))
  rw [List.append_assoc, List.append_assoc]
  exact List.perm_append_comm.append_left _

theorem filterMap_set_eq {read : α → Option β} {items : List α} {index : Nat} {old new : α}
    (found : items[index]? = some old) (same : read new = read old) :
    (items.set index new).filterMap read = items.filterMap read := by
  obtain ⟨before, behind, split, changed⟩ := exists_set found new
  rw [changed, split, List.filterMap_append, List.filterMap_append, List.filterMap_cons,
    List.filterMap_cons, same]

theorem sum_map_set (weight : α → Nat) {items : List α} {index : Nat} {old : α}
    (found : items[index]? = some old) (new : α) :
    ((items.set index new).map weight).sum + weight old =
      (items.map weight).sum + weight new := by
  obtain ⟨before, behind, split, changed⟩ := exists_set found new
  rw [changed, split]
  simp only [List.map_append, List.map_cons, List.sum_append, List.sum_cons]
  omega

theorem sum_map_eraseIdx (weight : α → Nat) {items : List α} {index : Nat} {old : α}
    (found : items[index]? = some old) :
    ((items.eraseIdx index).map weight).sum + weight old = (items.map weight).sum := by
  induction items generalizing index with
  | nil =>
      cases found
  | cons first rest ih =>
      cases index with
      | zero =>
          cases found
          rw [List.eraseIdx_cons_zero, List.map_cons, List.sum_cons]
          omega
      | succ index =>
          have smaller := ih found
          rw [List.eraseIdx_cons_succ, List.map_cons, List.sum_cons, List.map_cons,
            List.sum_cons]
          omega

theorem drop_takeWhile (keep : α → Bool) (items : List α) :
    items.drop (items.takeWhile keep).length = items.dropWhile keep := by
  induction items with
  | nil =>
      rfl
  | cons first rest ih =>
      by_cases kept : keep first = true
      · simp [kept, ih]
      · simp [kept]

theorem length_flatMap_le {γ : Type} {first : α → List β} {second : α → List γ}
    (shorter : ∀ item, (first item).length ≤ (second item).length)
    (items : List α) :
    (items.flatMap first).length ≤ (items.flatMap second).length := by
  induction items with
  | nil =>
      exact Nat.le_refl 0
  | cons item rest ih =>
      rw [List.flatMap_cons, List.flatMap_cons, List.length_append,
        List.length_append]
      exact Nat.add_le_add (shorter item) ih

theorem exists_of_mapM {read : α → Option β} {items : List α}
    {values : List β} (mapped : items.mapM read = some values) {item : α}
    (member : item ∈ items) : ∃ value, read item = some value := by
  induction items generalizing values with
  | nil =>
      cases member
  | cons first rest ih =>
      rw [List.mapM_cons] at mapped
      obtain ⟨value, headRead, mapped⟩ := Option.bind_eq_some_iff.mp mapped
      obtain ⟨others, tailRead, _⟩ := Option.bind_eq_some_iff.mp mapped
      rcases List.mem_cons.mp member with here | later
      · exact ⟨value, here ▸ headRead⟩
      · exact ih tailRead later

/-! ### Checking every element -/

variable {ε : Type} {check : α → Except ε β} {items : List α}

theorem mapM_eq_ok {results : List β} :
    items.mapM check = .ok results ↔
      List.Forall₂ (fun item result => check item = .ok result) items results := by
  induction items generalizing results with
  | nil =>
      rw [List.mapM_nil, List.forall₂_nil_left_iff]
      exact Except.ok.injEq [] results ▸ eq_comm
  | cons first rest ih =>
      rw [List.mapM_cons, CheckedResult.bind_eq_ok, List.forall₂_cons_left_iff]
      constructor
      · rintro ⟨result, checked, behind⟩
        obtain ⟨others, rest_checked, built⟩ := CheckedResult.bind_eq_ok.mp behind
        cases built
        exact ⟨result, others, checked, ih.mp rest_checked, rfl⟩
      · rintro ⟨result, others, checked, rest_checked, rfl⟩
        exact ⟨result, checked, CheckedResult.bind_eq_ok.mpr
          ⟨others, ih.mpr rest_checked, rfl⟩⟩

theorem mapM_eq_error :
    (∃ error, items.mapM check = .error error) ↔
      ∃ item ∈ items, ∃ error, check item = .error error := by
  induction items with
  | nil =>
      rw [List.mapM_nil]
      constructor
      · rintro ⟨error, impossible⟩
        cases impossible
      · rintro ⟨item, member, _⟩
        cases member
  | cons first rest ih =>
      rw [List.mapM_cons]
      simp only [List.mem_cons, exists_eq_or_imp, ← ih]
      cases checked : check first with
      | error error =>
          simp
      | ok result =>
          cases behind : rest.mapM check with
          | error error =>
              simp
          | ok others =>
              simp

end Lists

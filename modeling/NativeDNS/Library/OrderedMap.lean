/-
Finite maps kept as strictly increasing association lists.

The entries of a map are its iteration order, so two maps with the same
bindings are equal.  Sortedness is a field of the structure: every operation
proves it once and no later lemma repeats it.
-/
import Mathlib.Algebra.Ring.Nat
import Mathlib.Order.Lattice
import Mathlib.Order.Defs.LinearOrder
import Mathlib.Data.List.Basic
import Mathlib.Order.Basic

/-- A finite map whose entries are listed in increasing key order. -/
structure OrderedMap (κ ν : Type) [LinearOrder κ] where
  entries : List (κ × ν)
  sorted : entries.Pairwise (fun left right => left.1 < right.1)

namespace OrderedMap

variable {κ ν : Type} [LinearOrder κ]

theorem ext_entries {left right : OrderedMap κ ν}
    (same : left.entries = right.entries) : left = right := by
  cases left
  cases right
  cases same
  rfl

instance [DecidableEq ν] : DecidableEq (OrderedMap κ ν) := fun left right =>
  decidable_of_iff (left.entries = right.entries)
    ⟨ext_entries, fun same => congrArg entries same⟩

def empty : OrderedMap κ ν :=
  { entries := []
    sorted := List.Pairwise.nil }

instance : Inhabited (OrderedMap κ ν) := ⟨empty⟩

def lookup (key : κ) : List (κ × ν) → Option ν
  | [] => none
  | entry :: rest => if entry.1 = key then some entry.2 else lookup key rest

def find? (map : OrderedMap κ ν) (key : κ) : Option ν :=
  lookup key map.entries

def contains (map : OrderedMap κ ν) (key : κ) : Bool :=
  (map.find? key).isSome

def size (map : OrderedMap κ ν) : Nat :=
  map.entries.length

@[simp] theorem find?_empty (key : κ) :
    (empty : OrderedMap κ ν).find? key = none :=
  rfl

/-! ### Lookup and membership -/

theorem lookup_mem {key : κ} {value : ν} {entries : List (κ × ν)}
    (found : lookup key entries = some value) : (key, value) ∈ entries := by
  induction entries with
  | nil =>
      cases found
  | cons entry rest ih =>
      simp only [lookup] at found
      split at found
      · rename_i same
        have valueEq : entry.2 = value := Option.some.inj found
        subst same valueEq
        exact List.mem_cons_self
      · exact List.mem_cons_of_mem entry (ih found)

theorem lookup_of_mem {key : κ} {value : ν} {entries : List (κ × ν)}
    (sorted : entries.Pairwise (fun left right => left.1 < right.1))
    (member : (key, value) ∈ entries) : lookup key entries = some value := by
  induction entries with
  | nil =>
      cases member
  | cons entry rest ih =>
      have parts := List.pairwise_cons.mp sorted
      rcases List.mem_cons.mp member with same | later
      · subst same
        simp [lookup]
      · have different : entry.1 ≠ key := (parts.1 (key, value) later).ne
        simp only [lookup, if_neg different]
        exact ih parts.2 later

theorem lookup_eq_none_iff {key : κ} {entries : List (κ × ν)} :
    lookup key entries = none ↔ ∀ entry ∈ entries, entry.1 ≠ key := by
  induction entries with
  | nil =>
      simp [lookup]
  | cons entry rest ih =>
      by_cases same : entry.1 = key
      · simp [lookup, same]
      · simp [lookup, same, ih]

theorem find?_eq_some_iff {map : OrderedMap κ ν} {key : κ} {value : ν} :
    map.find? key = some value ↔ (key, value) ∈ map.entries :=
  ⟨lookup_mem, lookup_of_mem map.sorted⟩

theorem find?_eq_none_iff {map : OrderedMap κ ν} {key : κ} :
    map.find? key = none ↔ ∀ entry ∈ map.entries, entry.1 ≠ key :=
  lookup_eq_none_iff

/-! ### Insertion -/

/-- Bind a key in a list of entries, in place when it is already bound. -/
def insertEntry (key : κ) (value : ν) : List (κ × ν) → List (κ × ν)
  | [] => [(key, value)]
  | entry :: rest =>
      if key < entry.1 then (key, value) :: entry :: rest
      else if entry.1 = key then (key, value) :: rest
      else entry :: insertEntry key value rest

theorem mem_insertEntry {key : κ} {value : ν} {entries : List (κ × ν)}
    {entry : κ × ν} (member : entry ∈ insertEntry key value entries) :
    entry = (key, value) ∨ entry ∈ entries := by
  induction entries with
  | nil =>
      simp only [insertEntry, List.mem_singleton] at member
      exact Or.inl member
  | cons head rest ih =>
      simp only [insertEntry] at member
      split at member
      · exact List.mem_cons.mp member
      · split at member
        · rcases List.mem_cons.mp member with atHead | later
          · exact Or.inl atHead
          · exact Or.inr (List.mem_cons_of_mem head later)
        · rcases List.mem_cons.mp member with atHead | later
          · exact Or.inr (atHead ▸ List.mem_cons_self)
          · exact (ih later).imp_right (List.mem_cons_of_mem head)

theorem insertEntry_sorted {key : κ} {value : ν} {entries : List (κ × ν)}
    (sorted : entries.Pairwise (fun left right => left.1 < right.1)) :
    (insertEntry key value entries).Pairwise
      (fun left right => left.1 < right.1) := by
  induction entries with
  | nil =>
      exact List.pairwise_singleton _ _
  | cons entry rest ih =>
      have parts := List.pairwise_cons.mp sorted
      simp only [insertEntry]
      split
      · rename_i before
        refine List.pairwise_cons.mpr ⟨?_, sorted⟩
        intro other member
        rcases List.mem_cons.mp member with atHead | later
        · exact atHead ▸ before
        · exact before.trans (parts.1 other later)
      · rename_i notBefore
        split
        · rename_i same
          refine List.pairwise_cons.mpr ⟨?_, parts.2⟩
          intro other member
          exact same ▸ parts.1 other member
        · rename_i different
          have after : entry.1 < key :=
            lt_of_le_of_ne (not_lt.mp notBefore) different
          refine List.pairwise_cons.mpr ⟨?_, ih parts.2⟩
          intro other member
          rcases mem_insertEntry member with atKey | later
          · exact atKey ▸ after
          · exact parts.1 other later

def insert (map : OrderedMap κ ν) (key : κ) (value : ν) : OrderedMap κ ν :=
  { entries := insertEntry key value map.entries
    sorted := insertEntry_sorted map.sorted }

def emplace (map : OrderedMap κ ν) (key : κ) (value : ν) :
    Option (OrderedMap κ ν) :=
  if map.contains key then none else some (map.insert key value)

theorem insertEntry_perm {key : κ} {value : ν} {entries : List (κ × ν)}
    (unbound : ∀ entry ∈ entries, entry.1 ≠ key) :
    (insertEntry key value entries).Perm (entries ++ [(key, value)]) := by
  induction entries with
  | nil =>
      exact List.Perm.refl _
  | cons entry rest ih =>
      rw [insertEntry]
      split
      · exact @List.perm_append_comm _ [(key, value)] (entry :: rest)
      · rw [if_neg (unbound entry List.mem_cons_self)]
        exact (ih fun other later => unbound other (List.mem_cons_of_mem entry later)).cons
          entry

theorem emplace_perm {map added : OrderedMap κ ν} {key : κ} {value : ν}
    (placed : map.emplace key value = some added) :
    added.entries.Perm (map.entries ++ [(key, value)]) := by
  unfold emplace at placed
  split at placed
  · cases placed
  · rename_i unbound
    cases placed
    refine insertEntry_perm (find?_eq_none_iff.mp ?_)
    cases bound : map.find? key with
    | none =>
        rfl
    | some other =>
        exact absurd (by unfold contains; rw [bound]; rfl) unbound

theorem ext_perm {left right : OrderedMap κ ν} (same : left.entries.Perm right.entries) :
    left = right := by
  refine ext_entries (same.eq_of_pairwise ?_ left.sorted right.sorted)
  intro first second _ _ below above
  exact absurd (below.trans above) (lt_irrefl first.1)

theorem emplace_of_free {map : OrderedMap κ ν} {key : κ}
    (free : key ∉ map.entries.map Prod.fst) (value : ν) :
    ∃ added, map.emplace key value = some added := by
  have unbound : map.find? key = none := by
    rw [find?_eq_none_iff]
    intro entry member same
    exact free (same ▸ List.mem_map_of_mem member)
  refine ⟨map.insert key value, ?_⟩
  unfold emplace contains
  rw [unbound]
  rfl

theorem keys_nodup (map : OrderedMap κ ν) : (map.entries.map Prod.fst).Nodup := by
  have sorted := List.pairwise_map.mpr map.sorted
  exact sorted.imp ne_of_lt

theorem lookup_insertEntry (key other : κ) (value : ν)
    (entries : List (κ × ν)) :
    lookup other (insertEntry key value entries) =
      if key = other then some value else lookup other entries := by
  induction entries with
  | nil =>
      simp [insertEntry, lookup]
  | cons entry rest ih =>
      simp only [insertEntry]
      split
      · simp [lookup]
      · split
        · rename_i same
          by_cases hit : key = other
          · simp [lookup, hit]
          · have miss : entry.1 ≠ other := fun equal => hit (same ▸ equal)
            simp [lookup, hit, miss]
        · rename_i different
          simp only [lookup, ih]
          by_cases hit : key = other
          · have miss : entry.1 ≠ other := fun equal =>
              different (equal.trans hit.symm)
            rw [if_neg miss, if_pos hit, if_pos hit]
          · rw [if_neg hit, if_neg hit]

@[simp] theorem find?_insert (map : OrderedMap κ ν) (key other : κ)
    (value : ν) :
    (map.insert key value).find? other =
      if key = other then some value else map.find? other :=
  lookup_insertEntry key other value map.entries

/-! ### Listed entries -/

def ofList (entries : List (κ × ν)) : OrderedMap κ ν :=
  entries.foldl (fun map entry => map.insert entry.1 entry.2) empty

private theorem foldl_insert_perm {entries : List (κ × ν)} (map : OrderedMap κ ν)
    (distinct : ((map.entries ++ entries).map Prod.fst).Nodup) :
    (entries.foldl (fun map entry => map.insert entry.1 entry.2) map).entries.Perm
      (map.entries ++ entries) := by
  induction entries generalizing map with
  | nil =>
      rw [List.append_nil]
      exact List.Perm.refl _
  | cons entry rest ih =>
      have unbound : ∀ other ∈ map.entries, other.1 ≠ entry.1 := by
        intro other member same
        rw [List.map_append, List.nodup_append] at distinct
        exact distinct.2.2 other.1 (List.mem_map_of_mem member) entry.1
          List.mem_cons_self same
      have placed : (map.insert entry.1 entry.2).entries.Perm (map.entries ++ [entry]) :=
        insertEntry_perm unbound
      have moved : ((map.insert entry.1 entry.2).entries ++ rest).Perm
          (map.entries ++ entry :: rest) := by
        rw [List.append_cons]
        exact placed.append_right rest
      have still := (moved.map Prod.fst).nodup_iff.mpr distinct
      exact (ih _ still).trans moved

theorem ofList_perm {entries : List (κ × ν)} (distinct : (entries.map Prod.fst).Nodup) :
    (ofList entries).entries.Perm entries :=
  foldl_insert_perm empty distinct

theorem find?_ofList {entries : List (κ × ν)} (distinct : (entries.map Prod.fst).Nodup)
    (key : κ) : (ofList entries).find? key = lookup key entries := by
  have listed := ofList_perm distinct
  cases found : lookup key entries with
  | none =>
      rw [find?_eq_none_iff]
      intro entry member
      exact lookup_eq_none_iff.mp found entry (listed.mem_iff.mp member)
  | some value =>
      rw [find?_eq_some_iff]
      exact listed.mem_iff.mpr (lookup_mem found)

/-! ### Renamed entries -/

variable {ι : Type} [LinearOrder ι]

def insertRenamed (map : OrderedMap κ ν) (rename : ι → κ) (added : OrderedMap ι ν) :
    OrderedMap κ ν :=
  added.entries.foldl (fun map entry => map.insert (rename entry.1) entry.2) map

private theorem find?_foldl_insert {rename : ι → κ}
    (distinct : Function.Injective rename) (key : ι) {entries : List (ι × ν)}
    (sorted : entries.Pairwise (fun left right => left.1 < right.1))
    (map : OrderedMap κ ν) :
    (entries.foldl (fun map entry => map.insert (rename entry.1) entry.2) map).find?
        (rename key) =
      (lookup key entries).or (map.find? (rename key)) := by
  induction entries generalizing map with
  | nil =>
      rfl
  | cons entry rest ih =>
      have parts := List.pairwise_cons.mp sorted
      rw [List.foldl_cons, ih parts.2, find?_insert]
      by_cases same : entry.1 = key
      · have later : lookup key rest = none := by
          cases found : lookup key rest with
          | none =>
              rfl
          | some value =>
              have above := parts.1 (key, value) (lookup_mem found)
              exact absurd same (ne_of_lt above)
        rw [later, lookup, if_pos same, if_pos (congrArg rename same)]
        rfl
      · have apart : rename entry.1 ≠ rename key := fun equal => same (distinct equal)
        rw [lookup, if_neg same, if_neg apart]

theorem find?_insertRenamed {rename : ι → κ} (distinct : Function.Injective rename)
    (map : OrderedMap κ ν) (added : OrderedMap ι ν) (key : ι) :
    (map.insertRenamed rename added).find? (rename key) =
      (added.find? key).or (map.find? (rename key)) :=
  find?_foldl_insert distinct key added.sorted map

theorem find?_insertRenamed_of_ne {rename : ι → κ} {other : κ}
    (apart : ∀ key, rename key ≠ other) (map : OrderedMap κ ν)
    (added : OrderedMap ι ν) :
    (map.insertRenamed rename added).find? other = map.find? other := by
  simp only [insertRenamed]
  induction added.entries generalizing map with
  | nil =>
      rfl
  | cons entry rest ih =>
      rw [List.foldl_cons, ih, find?_insert, if_neg (apart entry.1)]

/-! ### Removal -/

def erase (map : OrderedMap κ ν) (key : κ) : OrderedMap κ ν :=
  { entries := map.entries.filter (fun entry => entry.1 ≠ key)
    sorted := map.sorted.filter _ }

def filter (map : OrderedMap κ ν) (keep : κ × ν → Bool) : OrderedMap κ ν :=
  { entries := map.entries.filter keep
    sorted := map.sorted.filter keep }

theorem find?_erase (map : OrderedMap κ ν) (key other : κ) :
    (map.erase key).find? other =
      if key = other then none else map.find? other := by
  by_cases same : key = other
  · subst same
    rw [if_pos rfl, find?_eq_none_iff]
    intro entry member
    simpa using (List.mem_filter.mp member).2
  · rw [if_neg same]
    cases found : map.find? other with
    | none =>
        rw [find?_eq_none_iff] at found ⊢
        intro entry member
        exact found entry (List.mem_filter.mp member).1
    | some value =>
        rw [find?_eq_some_iff] at found ⊢
        exact List.mem_filter.mpr ⟨found, by simpa using Ne.symm same⟩

@[simp] theorem find?_erase_self (map : OrderedMap κ ν) (key : κ) :
    (map.erase key).find? key = none := by
  rw [find?_erase, if_pos rfl]

theorem find?_erase_of_ne (map : OrderedMap κ ν) {key other : κ}
    (different : key ≠ other) :
    (map.erase key).find? other = map.find? other := by
  rw [find?_erase, if_neg different]

theorem filter_eq_self {map : OrderedMap κ ν} {keep : κ × ν → Bool}
    (keeps : ∀ entry ∈ map.entries, keep entry = true) : map.filter keep = map :=
  ext_entries (List.filter_eq_self.mpr keeps)

theorem find?_filter_of_some {map : OrderedMap κ ν} {keep : κ × ν → Bool}
    {key : κ} {value : ν}
    (found : (map.filter keep).find? key = some value) :
    map.find? key = some value := by
  rw [find?_eq_some_iff] at found ⊢
  exact (List.mem_filter.mp found).1

/-! ### Totals over the entries -/

def total (measure : κ × ν → Nat) (map : OrderedMap κ ν) : Nat :=
  (map.entries.map measure).sum

private theorem sum_filter_ne (measure : κ × ν → Nat) {key : κ} {value : ν}
    {entries : List (κ × ν)}
    (sorted : entries.Pairwise (fun left right => left.1 < right.1))
    (member : (key, value) ∈ entries) :
    ((entries.filter (fun entry => entry.1 ≠ key)).map measure).sum +
        measure (key, value) = (entries.map measure).sum := by
  induction entries with
  | nil =>
      cases member
  | cons entry rest ih =>
      have parts := List.pairwise_cons.mp sorted
      rcases List.mem_cons.mp member with atHead | later
      · subst atHead
        have untouched :
            rest.filter (fun entry => entry.1 ≠ key) = rest := by
          apply List.filter_eq_self.mpr
          intro other otherMember
          simpa using (parts.1 other otherMember).ne'
        simp only [ne_eq, decide_not, List.filter_cons, decide_true,
          Bool.not_true, Bool.false_eq_true, if_false, List.map_cons,
          List.sum_cons] at untouched ⊢
        rw [untouched]
        omega
      · have different : entry.1 ≠ key := (parts.1 (key, value) later).ne
        have tailTotal := ih parts.2 later
        simp only [ne_eq, decide_not, List.filter_cons, different,
          decide_false, Bool.not_false, if_true, List.map_cons,
          List.sum_cons] at tailTotal ⊢
        omega

theorem total_erase (measure : κ × ν → Nat) {map : OrderedMap κ ν} {key : κ}
    {value : ν} (found : map.find? key = some value) :
    (map.erase key).total measure + measure (key, value) =
      map.total measure :=
  sum_filter_ne measure map.sorted (find?_eq_some_iff.mp found)

private theorem sum_insertEntry (measure : κ × ν → Nat) {key : κ} {value : ν}
    {entries : List (κ × ν)} (free : ∀ entry ∈ entries, entry.1 ≠ key) :
    ((insertEntry key value entries).map measure).sum =
      (entries.map measure).sum + measure (key, value) := by
  induction entries with
  | nil =>
      simp [insertEntry]
  | cons entry rest ih =>
      have different : entry.1 ≠ key := free entry List.mem_cons_self
      have tailFree : ∀ other ∈ rest, other.1 ≠ key := fun other member =>
        free other (List.mem_cons_of_mem entry member)
      simp only [insertEntry, if_neg different]
      split
      · simp only [List.map_cons, List.sum_cons]
        omega
      · simp only [List.map_cons, List.sum_cons, ih tailFree]
        omega

theorem total_insert (measure : κ × ν → Nat) {map : OrderedMap κ ν} {key : κ}
    {value : ν} (free : map.find? key = none) :
    (map.insert key value).total measure =
      map.total measure + measure (key, value) :=
  sum_insertEntry measure (find?_eq_none_iff.mp free)

theorem size_eq_total (map : OrderedMap κ ν) :
    map.size = map.total (fun _ => 1) := by
  unfold size total
  induction map.entries with
  | nil =>
      rfl
  | cons entry rest ih =>
      simp only [List.length_cons, List.map_cons, List.sum_cons, ih]
      omega

theorem size_insert {map : OrderedMap κ ν} {key : κ} {value : ν}
    (free : map.find? key = none) :
    (map.insert key value).size = map.size + 1 := by
  rw [size_eq_total, size_eq_total, total_insert _ free]

private theorem length_insertEntry {key : κ} {value next : ν} {entries : List (κ × ν)}
    (sorted : entries.Pairwise (fun left right => left.1 < right.1))
    (member : (key, value) ∈ entries) :
    (insertEntry key next entries).length = entries.length := by
  induction entries with
  | nil =>
      cases member
  | cons entry rest ih =>
      have parts := List.pairwise_cons.mp sorted
      simp only [insertEntry]
      rcases List.mem_cons.mp member with atHead | later
      · subst atHead
        rw [if_neg (lt_irrefl key), if_pos rfl]
        rfl
      · have below := parts.1 (key, value) later
        rw [if_neg (lt_asymm below), if_neg (ne_of_lt below), List.length_cons,
          ih parts.2 later, List.length_cons]

theorem size_insert_of_some {map : OrderedMap κ ν} {key : κ} {value next : ν}
    (found : map.find? key = some value) : (map.insert key next).size = map.size :=
  length_insertEntry map.sorted (find?_eq_some_iff.mp found)

theorem size_erase {map : OrderedMap κ ν} {key : κ} {value : ν}
    (found : map.find? key = some value) :
    (map.erase key).size + 1 = map.size := by
  rw [size_eq_total, size_eq_total, total_erase (fun _ => 1) found]

theorem size_erase_le (map : OrderedMap κ ν) (key : κ) :
    (map.erase key).size ≤ map.size :=
  List.length_filter_le _ _

theorem size_filter_le (map : OrderedMap κ ν) (keep : κ × ν → Bool) :
    (map.filter keep).size ≤ map.size :=
  List.length_filter_le _ _

end OrderedMap

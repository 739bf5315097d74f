/-
What a decoded name depends on.

A name reads only header-free bytes below the offset it returns, however its
pointers jump.  A name that starts right after the header is never compressed:
every byte between the header and a pointer would be a label byte, so a chain
through that pointer could not end.
-/
import NativeDNS.Wire.Name

namespace NativeDNS

open ByteText (text byte joined)

/-! ### The returned offset -/

theorem NameWalk.next_of_resume {packet : Packet}
    {hops position next : Nat} {resume : Option Nat} {result decoded : Bytes}
    (walk : NameWalk packet hops position resume result decoded next) :
    ∀ {offset : Nat}, resume = some offset → next = offset := by
  induction walk with
  | finish inside zero =>
      intro offset resumed
      simp [resumed]
  | pointer inside marked header earlier rest ih =>
      intro offset resumed
      have target := ih rfl
      simpa [resumed] using target
  | label nonempty plain inside characters bounded rest ih =>
      exact ih

theorem NameWalk.lt_next {packet : Packet} {hops position next : Nat}
    {resume : Option Nat} {result decoded : Bytes}
    (walk : NameWalk packet hops position resume result decoded next) :
    resume = none → position < next := by
  induction walk with
  | finish inside zero =>
      intro unresumed
      subst unresumed
      exact Nat.lt_succ_self _
  | @pointer hops position next resume result decoded inside marked header
      earlier rest ih =>
      intro unresumed
      have nextEq := rest.next_of_resume rfl
      rw [nextEq, unresumed, Option.getD_none]
      omega
  | label nonempty plain inside characters bounded rest ih =>
      intro unresumed
      have after := ih unresumed
      omega

theorem NameWalk.next_le {packet : Packet} {hops position next : Nat}
    {resume : Option Nat} {result decoded : Bytes}
    (walk : NameWalk packet hops position resume result decoded next) :
    resume = none → next ≤ packet.length := by
  induction walk with
  | finish inside zero =>
      intro unresumed
      subst unresumed
      exact inside
  | @pointer hops position next resume result decoded inside marked header
      earlier rest ih =>
      intro unresumed
      have nextEq := rest.next_of_resume rfl
      rw [nextEq, unresumed, Option.getD_none]
      omega
  | label nonempty plain inside characters bounded rest ih =>
      exact ih

/-! ### Locality -/

/-- A label that is read after a jump ends before the pointer that was
followed first, because no label holds a pointer byte. -/
private theorem label_before_pointer {packet : Packet} {position anchor : Nat}
    (before : position ≤ anchor)
    (anchored : 192 ≤ (byteAt packet anchor).toNat)
    (plain : (byteAt packet position).toNat < 64)
    (inside : position + 1 + (byteAt packet position).toNat ≤ packet.length)
    (characters :
      (slice packet (position + 1) (byteAt packet position).toNat).all
        isNameByte = true) :
    position + 1 + (byteAt packet position).toNat ≤ anchor := by
  have different : position ≠ anchor := by
    intro same
    rw [same] at plain
    omega
  rcases Nat.lt_or_ge anchor
      (position + 1 + (byteAt packet position).toNat) with crossing | done
  · have member := byteAt_mem_slice inside (by omega : position + 1 ≤ anchor)
      crossing
    have small := isNameByte_lt (List.all_eq_true.mp characters _ member)
    omega
  · exact done

/-- A decoded name depends only on the bytes from the header to its own
end. -/
theorem NameWalk.congr {packet other : Packet} {hops position next : Nat}
    {resume : Option Nat} {result decoded : Bytes}
    (walk : NameWalk packet hops position resume result decoded next) :
    12 ≤ position →
    (∀ offset, resume = some offset →
      ∃ anchor, offset = anchor + 2 ∧ position ≤ anchor ∧
        192 ≤ (byteAt packet anchor).toNat) →
    AgreeOn other packet 12 next → next ≤ other.length →
      NameWalk other hops position resume result decoded next := by
  induction walk with
  | @finish position resume result inside zero =>
      intro start anchored agree enough
      have below : position < resume.getD (position + 1) := by
        cases resume with
        | none =>
            exact Nat.lt_succ_self _
        | some offset =>
            obtain ⟨anchor, offsetEq, before, _⟩ := anchored offset rfl
            simp only [Option.getD_some]
            omega
      exact .finish (by omega) (by rw [agree position start below]; exact zero)
  | @pointer hops position next resume result decoded inside marked header
      earlier rest ih =>
      intro start anchored agree enough
      have nextEq := rest.next_of_resume rfl
      have below : position + 1 < next := by
        rw [nextEq]
        cases resume with
        | none =>
            simp
        | some offset =>
            obtain ⟨anchor, offsetEq, before, _⟩ := anchored offset rfl
            simp only [Option.getD_some]
            omega
      have firstByte := agree position start (by omega)
      have targetEq :
          pointerTarget other position = pointerTarget packet position := by
        unfold pointerTarget
        rw [firstByte, agree (position + 1) (by omega) below]
      refine .pointer (by omega) (by rw [firstByte]; exact marked)
        (by rw [targetEq]; exact header) (by rw [targetEq]; exact earlier) ?_
      rw [targetEq]
      apply ih header _ agree enough
      intro offset resumed
      cases resume with
      | none =>
          simp only [Option.getD_none, Option.some.injEq] at resumed
          exact ⟨position, resumed.symm, by omega, marked⟩
      | some first =>
          simp only [Option.getD_some, Option.some.injEq] at resumed
          obtain ⟨anchor, offsetEq, before, pointerByte⟩ := anchored first rfl
          exact ⟨anchor, by omega, by omega, pointerByte⟩
  | @label hops position next resume result decoded nonempty plain inside
      characters bounded rest ih =>
      intro start anchored agree enough
      have stillAnchored :
          ∀ offset, resume = some offset →
            ∃ anchor, offset = anchor + 2 ∧
              position + 1 + (byteAt packet position).toNat ≤ anchor ∧
              192 ≤ (byteAt packet anchor).toNat := by
        intro offset resumed
        obtain ⟨anchor, offsetEq, before, pointerByte⟩ := anchored offset resumed
        exact ⟨anchor, offsetEq,
          label_before_pointer before pointerByte plain inside characters,
          pointerByte⟩
      have below : position + 1 + (byteAt packet position).toNat ≤ next := by
        cases resumeEq : resume with
        | none =>
            have after := rest.lt_next resumeEq
            omega
        | some offset =>
            obtain ⟨anchor, offsetEq, before, _⟩ := stillAnchored offset resumeEq
            have nextEq := rest.next_of_resume resumeEq
            omega
      have lengthEq := agree position start (by omega)
      have labelEq :
          slice other (position + 1) (byteAt packet position).toNat =
            slice packet (position + 1) (byteAt packet position).toNat :=
        slice_congr (agree.mono (by omega) below) (by omega) inside
      refine .label (by rw [lengthEq]; exact nonempty)
        (by rw [lengthEq]; exact plain) (by rw [lengthEq]; omega)
        (by rw [lengthEq, labelEq]; exact characters)
        (by rw [lengthEq, labelEq]; exact bounded) ?_
      rw [lengthEq, labelEq]
      exact ih (by omega) stillAnchored agree enough

/-- Packets that agree from the header to the end of a name decode it
alike. -/
theorem name_congr {packet other : Packet} {offset next : Nat}
    {decoded : Bytes} (decode : name packet offset = .ok (decoded, next))
    (start : 12 ≤ offset) (agree : AgreeOn other packet 12 next)
    (enough : next ≤ other.length) :
    name other offset = .ok (decoded, next) := by
  obtain ⟨hops, within, walk⟩ := name_eq_ok.mp decode
  exact name_eq_ok.mpr ⟨hops, within,
    walk.congr start (fun _ resumed => nomatch resumed) agree enough⟩

theorem name_lt_next {packet : Packet} {offset next : Nat} {decoded : Bytes}
    (decode : name packet offset = .ok (decoded, next)) : offset < next := by
  obtain ⟨hops, within, walk⟩ := name_eq_ok.mp decode
  exact walk.lt_next rfl

theorem name_next_le {packet : Packet} {offset next : Nat} {decoded : Bytes}
    (decode : name packet offset = .ok (decoded, next)) :
    next ≤ packet.length := by
  obtain ⟨hops, within, walk⟩ := name_eq_ok.mp decode
  exact walk.next_le rfl

/-! ### Uncompressed names -/

/-- A run of plain labels up to the terminator. -/
inductive LabelRun (packet : Packet) : Nat → List Bytes → Nat → Prop
  | done {position : Nat} (inside : position < packet.length)
      (zero : (byteAt packet position).toNat = 0) :
      LabelRun packet position [] (position + 1)
  | label {position next : Nat} {labels : List Bytes}
      (nonempty : 0 < (byteAt packet position).toNat)
      (plain : (byteAt packet position).toNat < 64)
      (inside :
        position + 1 + (byteAt packet position).toNat ≤ packet.length)
      (characters :
        (slice packet (position + 1) (byteAt packet position).toNat).all
          isNameByte = true)
      (rest : LabelRun packet (position + 1 + (byteAt packet position).toNat)
        labels next) :
      LabelRun packet position
        (slice packet (position + 1) (byteAt packet position).toNat :: labels)
        next

def LabelBytes (packet : Packet) (first last : Nat) : Prop :=
  ∀ offset, first ≤ offset → offset < last →
    0 < (byteAt packet offset).toNat ∧ (byteAt packet offset).toNat < 127

private theorem NameWalk.no_escape {packet : Packet} {hops position next : Nat}
    {resume : Option Nat} {result decoded : Bytes}
    (walk : NameWalk packet hops position resume result decoded next) :
    ∀ {anchor : Nat}, 12 ≤ position → position ≤ anchor →
      LabelBytes packet 12 anchor → 192 ≤ (byteAt packet anchor).toNat →
        False := by
  induction walk with
  | @finish position resume result inside zero =>
      intro anchor start before labels anchored
      rcases Nat.lt_or_eq_of_le before with less | same
      · have bounds := labels position start less
        omega
      · rw [same] at zero
        omega
  | @pointer hops position next resume result decoded inside marked header
      earlier rest ih =>
      intro anchor start before labels anchored
      exact ih header (by omega) labels anchored
  | @label hops position next resume result decoded nonempty plain inside
      characters bounded rest ih =>
      intro anchor start before labels anchored
      exact ih (by omega)
        (label_before_pointer before anchored plain inside characters) labels
        anchored

theorem LabelBytes.extend {packet : Packet} {first position : Nat}
    (labels : LabelBytes packet first position)
    (nonempty : 0 < (byteAt packet position).toNat)
    (plain : (byteAt packet position).toNat < 64)
    (inside : position + 1 + (byteAt packet position).toNat ≤ packet.length)
    (characters :
      (slice packet (position + 1) (byteAt packet position).toNat).all
        isNameByte = true) :
    LabelBytes packet first
      (position + 1 + (byteAt packet position).toNat) := by
  intro offset lower upper
  rcases Nat.lt_trichotomy offset position with before | same | after
  · exact labels offset lower before
  · subst same
    omega
  · have member := byteAt_mem_slice inside (by omega : position + 1 ≤ offset)
      upper
    have accepted := List.all_eq_true.mp characters _ member
    have small := isNameByte_lt accepted
    have large := isNameByte_gt accepted
    omega

theorem NameWalk.labelRun {packet : Packet} {hops position next : Nat}
    {resume : Option Nat} {result decoded : Bytes}
    (walk : NameWalk packet hops position resume result decoded next) :
    resume = none → 12 ≤ position → LabelBytes packet 12 position →
      result.length ≤ 253 →
        ∃ labels, LabelRun packet position labels next ∧
          hops = labels.length + 1 ∧
          decoded = labels.foldl appendLabel result ∧
          decoded.length ≤ 253 := by
  induction walk with
  | @finish position resume result inside zero =>
      intro unresumed start labels short
      subst unresumed
      exact ⟨[], .done inside zero, rfl, rfl, short⟩
  | @pointer hops position next resume result decoded inside marked header
      earlier rest ih =>
      intro unresumed start labels short
      exact (rest.no_escape header (Nat.le_of_lt earlier) labels marked).elim
  | @label hops position next resume result decoded nonempty plain inside
      characters bounded rest ih =>
      intro unresumed start labels short
      obtain ⟨others, run, hopsEq, decodedEq, decodedShort⟩ :=
        ih unresumed (by omega)
          (labels.extend nonempty plain inside characters) bounded
      exact ⟨_, .label nonempty plain inside characters run,
        by rw [hopsEq, List.length_cons], decodedEq, decodedShort⟩

private theorem appendLabel_length_le (result label : Bytes) :
    result.length ≤ (appendLabel result label).length := by
  unfold appendLabel
  rw [List.length_append]
  split
  · rename_i empty
    simp [empty]
  · rw [List.length_append]
    omega

private theorem foldl_appendLabel_length_le (labels : List Bytes) :
    ∀ result : Bytes,
      result.length ≤ (labels.foldl appendLabel result).length := by
  induction labels with
  | nil =>
      intro result
      exact Nat.le_refl _
  | cons label others ih =>
      intro result
      exact Nat.le_trans (appendLabel_length_le result label)
        (ih (appendLabel result label))

theorem LabelRun.walk {packet : Packet} {position next : Nat}
    {labels : List Bytes} (run : LabelRun packet position labels next) :
    ∀ (resume : Option Nat) (result : Bytes),
      (labels.foldl appendLabel result).length ≤ 253 →
        NameWalk packet (labels.length + 1) position resume result
          (labels.foldl appendLabel result) (resume.getD next) := by
  induction run with
  | done inside zero =>
      intro resume result short
      exact .finish inside zero
  | @label position next labels nonempty plain inside characters rest ih =>
      intro resume result short
      refine .label nonempty plain inside characters ?_ (ih resume _ short)
      exact Nat.le_trans (foldl_appendLabel_length_le labels _) short

theorem LabelRun.hops_eq {packet : Packet} {position next : Nat}
    {labels : List Bytes} (run : LabelRun packet position labels next) :
    ∀ {hops next' : Nat} {resume : Option Nat} {result decoded : Bytes},
      NameWalk packet hops position resume result decoded next' →
        hops = labels.length + 1 := by
  induction run with
  | done inside zero =>
      intro hops next' resume result decoded walk
      cases walk with
      | finish =>
          rfl
      | pointer _ marked =>
          omega
      | label nonempty =>
          omega
  | label nonempty plain inside characters rest ih =>
      intro hops next' resume result decoded walk
      cases walk with
      | finish _ zero =>
          omega
      | pointer _ marked =>
          omega
      | label _ _ _ _ _ otherRest =>
          rw [ih otherRest, List.length_cons]

private theorem LabelRun.next_after {packet : Packet} {position next : Nat}
    {labels : List Bytes} (run : LabelRun packet position labels next) :
    ∀ result : Bytes, result ≠ [] →
      next + result.length =
        position + 1 + (labels.foldl appendLabel result).length := by
  induction run with
  | done inside zero =>
      intro result begun
      rfl
  | @label position next labels nonempty plain inside characters rest ih =>
      intro result begun
      have lengthEq := slice_length inside
      have grown : (appendLabel result (slice packet (position + 1)
          (byteAt packet position).toNat)).length =
            result.length + 1 + (byteAt packet position).toNat := by
        unfold appendLabel
        rw [if_neg begun, List.length_append, List.length_append,
          List.length_map, lengthEq]
        rfl
      have named : appendLabel result (slice packet (position + 1)
          (byteAt packet position).toNat) ≠ [] := by
        intro empty
        rw [empty, List.length_nil] at grown
        omega
      have later := ih _ named
      rw [grown] at later
      rw [List.foldl_cons]
      omega

theorem LabelRun.next_eq_text {packet : Packet} {position next : Nat}
    {labels : List Bytes} (run : LabelRun packet position labels next) :
    next = position + (if labels.foldl appendLabel [] = [] then 1
      else (labels.foldl appendLabel []).length + 2) := by
  cases run with
  | done inside zero =>
      rfl
  | @label _ _ labels nonempty plain inside characters rest =>
      have lengthEq := slice_length inside
      have textEq : appendLabel [] (slice packet (position + 1)
          (byteAt packet position).toNat) =
            (slice packet (position + 1)
              (byteAt packet position).toNat).map toLower :=
        rfl
      have textLength : ((slice packet (position + 1)
          (byteAt packet position).toNat).map toLower).length =
            (byteAt packet position).toNat := by
        rw [List.length_map, lengthEq]
      have named : (slice packet (position + 1)
          (byteAt packet position).toNat).map toLower ≠ [] := by
        intro empty
        rw [empty, List.length_nil] at textLength
        omega
      have later := rest.next_after _ named
      have grown := foldl_appendLabel_length_le labels
        ((slice packet (position + 1) (byteAt packet position).toNat).map toLower)
      rw [textLength] at later grown
      rw [List.foldl_cons, textEq, if_neg (by
        intro empty
        rw [empty, List.length_nil] at grown
        omega)]
      omega

theorem LabelRun.next_le_text {packet : Packet} {position next : Nat}
    {labels : List Bytes} (run : LabelRun packet position labels next) :
    next ≤ position + 2 + (labels.foldl appendLabel []).length := by
  have exact_next := run.next_eq_text
  split at exact_next <;> omega

theorem LabelRun.unmarked {packet : Packet} {position next : Nat}
    {labels : List Bytes} (run : LabelRun packet position labels next) :
    ∀ offset, position ≤ offset → offset < next →
      (byteAt packet offset).toNat < 192 := by
  induction run with
  | done inside zero =>
      intro offset lower upper
      have same := Nat.le_antisymm (Nat.le_of_lt_succ upper) lower
      rw [same, zero]
      decide
  | @label position next labels nonempty plain inside characters rest ih =>
      intro offset lower upper
      have begun : LabelBytes packet position position :=
        fun other above below => absurd below (Nat.not_lt.mpr above)
      rcases Nat.lt_or_ge offset
          (position + 1 + (byteAt packet position).toNat) with within | beyond
      · have bounds := begun.extend nonempty plain inside characters offset lower within
        omega
      · exact ih offset beyond upper

theorem name_labelRun {packet : Packet} {next : Nat} {decoded : Bytes}
    (decode : name packet 12 = .ok (decoded, next)) :
    ∃ labels, LabelRun packet 12 labels next ∧ labels.length < maxHops ∧
      decoded = labels.foldl appendLabel [] ∧ decoded.length ≤ 253 := by
  obtain ⟨hops, within, walk⟩ := name_eq_ok.mp decode
  obtain ⟨labels, run, hopsEq, decodedEq, short⟩ :=
    walk.labelRun rfl (Nat.le_refl 12)
      (fun offset lower upper => absurd upper (by omega)) (Nat.zero_le _)
  exact ⟨labels, run, by omega, decodedEq, short⟩

end NativeDNS

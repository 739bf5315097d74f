/-
Decoded names as texts, and their canonical form.

The decoder and the textual canonicaliser were written separately.  A decoded
name is a dotted list of lowered labels of one to sixty-three printable bytes,
and the canonicaliser leaves such a name alone unless it is empty or holds a
byte reserved for patterns.
-/
import NativeDNS.Wire.NameLocality

namespace NativeDNS

open ByteText (text byte pieces joined mem_joined mem_joined_of_mem
  joined_head? joined_getLast? joined_eq_nil_iff joined_append_single)
open CheckedResult

/-! ### Labels -/

structure WireLabel (label : Bytes) : Prop where
  nonempty : label ≠ []
  short : label.length ≤ 63
  printable : ∀ character ∈ label, isNameByte character = true
  lowered : ∀ character ∈ label, toLower character = character

set_option maxRecDepth 4000 in
private theorem toLowerKinds :
    ∀ value < 256,
      toLower (toLower (UInt8.ofNat value)) = toLower (UInt8.ofNat value) ∧
        isNameByte (toLower (UInt8.ofNat value)) =
          isNameByte (UInt8.ofNat value) := by
  decide

theorem toLower_toLower (character : UInt8) :
    toLower (toLower character) = toLower character := by
  have kinds := (toLowerKinds character.toNat character.toNat_lt).1
  rwa [UInt8.ofNat_toNat] at kinds

theorem isNameByte_toLower (character : UInt8) :
    isNameByte (toLower character) = isNameByte character := by
  have kinds := (toLowerKinds character.toNat character.toNat_lt).2
  rwa [UInt8.ofNat_toNat] at kinds

theorem LabelRun.wireLabels {packet : Packet} {position next : Nat}
    {labels : List Bytes} (run : LabelRun packet position labels next) :
    ∀ label ∈ labels, WireLabel (label.map toLower) := by
  induction run with
  | done inside zero =>
      intro label member
      cases member
  | @label position next labels nonempty plain inside characters rest ih =>
      intro label member
      rcases List.mem_cons.mp member with atHead | later
      · have lengthEq := slice_length inside
        subst atHead
        refine ⟨?_, ?_, ?_, ?_⟩
        · intro empty
          have zeroLength := congrArg List.length empty
          rw [List.length_map, lengthEq, List.length_nil] at zeroLength
          omega
        · rw [List.length_map, lengthEq]
          omega
        · intro character lowered
          obtain ⟨original, originalMember, rfl⟩ := List.mem_map.mp lowered
          rw [isNameByte_toLower]
          exact List.all_eq_true.mp characters original originalMember
        · intro character lowered
          obtain ⟨original, originalMember, rfl⟩ := List.mem_map.mp lowered
          exact toLower_toLower original
      · exact ih label later

/-! ### Dotted text -/

theorem foldl_appendLabel_eq_joined (labels : List Bytes)
    (nonempty : ∀ label ∈ labels, label ≠ []) :
    labels.foldl appendLabel [] =
      joined (byte '.') (labels.map (fun label => label.map toLower)) := by
  induction labels using List.reverseRecOn with
  | nil =>
      rfl
  | append_singleton labels label ih =>
      have earlierNonempty : ∀ other ∈ labels, other ≠ [] := fun other member =>
        nonempty other (List.mem_append_left _ member)
      have loweredNonempty :
          ∀ other ∈ labels.map (fun label => label.map toLower), other ≠ [] := by
        intro other member
        obtain ⟨original, originalMember, rfl⟩ := List.mem_map.mp member
        simpa using earlierNonempty original originalMember
      rw [List.foldl_append, List.foldl_cons, List.foldl_nil,
        ih earlierNonempty, List.map_append, List.map_singleton]
      unfold appendLabel
      by_cases empty : labels = []
      · subst empty
        rfl
      · have textNonempty :
            joined (byte '.') (labels.map (fun label => label.map toLower)) ≠ [] := by
          rw [ne_eq, joined_eq_nil_iff loweredNonempty]
          simpa using empty
        rw [if_neg textNonempty, joined_append_single _ _ _ (by simpa using empty),
          List.append_assoc, List.singleton_append]

structure WireName (decoded : Bytes) : Prop where
  labels : ∃ items : List Bytes,
    (∀ item ∈ items, WireLabel item) ∧ decoded = joined (byte '.') items
  short : decoded.length ≤ 253

theorem name_wireName {packet : Packet} {next : Nat} {decoded : Bytes}
    (decode : name packet 12 = .ok (decoded, next)) : WireName decoded := by
  obtain ⟨labels, run, _, decodedEq, short⟩ := name_labelRun decode
  have wire := run.wireLabels
  refine ⟨⟨labels.map (fun label => label.map toLower), ?_, ?_⟩, short⟩
  · intro item member
    obtain ⟨label, labelMember, rfl⟩ := List.mem_map.mp member
    exact wire label labelMember
  · rw [decodedEq]
    apply foldl_appendLabel_eq_joined
    intro label member empty
    exact (wire label member).nonempty (by rw [empty]; rfl)

def labelCount (decoded : Bytes) : Nat :=
  if decoded = [] then 0 else (pieces (byte '.') decoded).length

theorem LabelRun.labelCount_eq {packet : Packet} {position next : Nat}
    {labels : List Bytes} (run : LabelRun packet position labels next) :
    labelCount (labels.foldl appendLabel []) = labels.length := by
  have wire := run.wireLabels
  have nonempty : ∀ label ∈ labels, label ≠ [] := fun label member empty =>
    (wire label member).nonempty (by rw [empty]; rfl)
  have loweredNonempty :
      ∀ item ∈ labels.map (fun label => label.map toLower), item ≠ [] := by
    intro item member
    obtain ⟨label, labelMember, rfl⟩ := List.mem_map.mp member
    exact (wire label labelMember).nonempty
  have dotFree :
      ∀ item ∈ labels.map (fun label => label.map toLower), byte '.' ∉ item := by
    intro item member dot
    obtain ⟨label, labelMember, rfl⟩ := List.mem_map.mp member
    have printable := (wire label labelMember).printable _ dot
    simp [isNameByte] at printable
  rw [foldl_appendLabel_eq_joined labels nonempty]
  unfold labelCount
  by_cases empty : labels = []
  · subst empty
    rfl
  · rw [if_neg (by rw [joined_eq_nil_iff loweredNonempty]; simpa using empty),
      ByteText.pieces_joined (by simpa using empty) dotFree, List.length_map]

/-! ### Canonical form of a decoded name -/

/-- A byte reserved for rule patterns occurs in the name. -/
def HasWildcard (decoded : Bytes) : Prop :=
  ∃ character ∈ decoded, isWildcard character = true

instance (decoded : Bytes) : Decidable (HasWildcard decoded) :=
  inferInstanceAs (Decidable (∃ character ∈ decoded, isWildcard character = true))

theorem isBlank_of_isNameByte {character : UInt8}
    (accepted : isNameByte character = true) : isBlank character = false := by
  have large := isNameByte_gt accepted
  by_contra blank
  have member : character ∈ text " \t\r\n" := by
    simpa [isBlank] using blank
  have cases : character = 32 ∨ character = 9 ∨ character = 13 ∨ character = 10 := by
    have literal : text " \t\r\n" = [32, 9, 13, 10] := by decide
    simpa [literal] using member
  rcases cases with rfl | rfl | rfl | rfl <;> revert large <;> decide

theorem dot_not_isNameByte : isNameByte (byte '.') = false := by
  decide

theorem trimBlanks_eq_self {value : Bytes}
    (headOk : ∀ character, value.head? = some character →
      isBlank character = false)
    (lastOk : ∀ character, value.getLast? = some character →
      isBlank character = false) :
    trimBlanks value = value := by
  unfold trimBlanks
  have front : value.dropWhile isBlank = value := by
    cases value with
    | nil =>
        rfl
    | cons first rest =>
        rw [List.dropWhile_cons, headOk first rfl]
        simp
  have back : value.reverse.dropWhile isBlank = value.reverse := by
    cases reversed : value.reverse with
    | nil =>
        rfl
    | cons last rest =>
        have lastEq : value.getLast? = some last := by
          rw [← List.head?_reverse, reversed]
          rfl
        rw [List.dropWhile_cons, lastOk last lastEq]
        simp
  rw [front, back, List.reverse_reverse]

/-- A wire label passes the character test unchanged when it holds no
wildcard. -/
private theorem checkNameCharacters_wire :
    ∀ {label : Bytes},
      (∀ character ∈ label, isNameByte character = true) →
      (∀ character ∈ label, toLower character = character) →
      (∀ character ∈ label, isWildcard character = false) →
        checkNameCharacters false false label = .ok label
  | [], _, _, _ => rfl
  | character :: rest, printable, lowered, plain => by
      have accepted := printable character List.mem_cons_self
      have small := isNameByte_lt accepted
      have large := isNameByte_gt accepted
      have noDot : character ≠ byte '.' := by
        rintro rfl
        rw [dot_not_isNameByte] at accepted
        cases accepted
      have step : checkNameCharacter false false character = .ok character := by
        unfold checkNameCharacter
        rw [lowered character List.mem_cons_self]
        simp only [Bool.false_and, Bool.not_false, Bool.true_and,
          plain character List.mem_cons_self, Bool.or_false]
        rw [rejectIf_of_not (by simp), ok_bind, rejectIf_of_not, ok_bind,
          pure_eq_ok]
        simp [noDot]
        omega
      have tail := checkNameCharacters_wire
        (fun other member => printable other (List.mem_cons_of_mem _ member))
        (fun other member => lowered other (List.mem_cons_of_mem _ member))
        (fun other member => plain other (List.mem_cons_of_mem _ member))
      simp only [checkNameCharacters, step, tail, ok_bind, pure_eq_ok]

private theorem checkNameCharacters_wildcard :
    ∀ {label : Bytes},
      (∀ character ∈ label, isNameByte character = true) →
      (∀ character ∈ label, toLower character = character) →
      (∃ character ∈ label, isWildcard character = true) →
        checkNameCharacters false false label =
          .error (.of "HOST" "Unsupported DNS label character")
  | [], _, _, wild => by
      obtain ⟨_, member, _⟩ := wild
      cases member
  | character :: rest, printable, lowered, wild => by
      by_cases here : isWildcard character = true
      · have step :
            checkNameCharacter false false character =
              .error (.of "HOST" "Unsupported DNS label character") := by
          simp [checkNameCharacter, lowered character List.mem_cons_self, here,
            rejectIf]
        simp only [checkNameCharacters, step, error_bind]
      · have plainHere : isWildcard character = false := by simpa using here
        have single : checkNameCharacters false false [character] =
            .ok [character] :=
          checkNameCharacters_wire
            (fun other member =>
              printable other (List.mem_cons.mpr
                (Or.inl (List.mem_singleton.mp member))))
            (fun other member =>
              lowered other (List.mem_cons.mpr
                (Or.inl (List.mem_singleton.mp member))))
            (fun other member => List.mem_singleton.mp member ▸ plainHere)
        have step : checkNameCharacter false false character = .ok character := by
          cases checked : checkNameCharacter false false character with
          | error error =>
              simp [checkNameCharacters, checked] at single
          | ok value =>
              simp [checkNameCharacters, checked] at single
              rw [single]
        obtain ⟨other, member, otherWild⟩ := wild
        have later : other ∈ rest := by
          rcases List.mem_cons.mp member with same | inRest
          · rw [same, plainHere] at otherWild
            cases otherWild
          · exact inRest
        have tail := checkNameCharacters_wildcard
          (fun other member => printable other (List.mem_cons_of_mem _ member))
          (fun other member => lowered other (List.mem_cons_of_mem _ member))
          ⟨other, later, otherWild⟩
        simp only [checkNameCharacters, step, ok_bind, tail, error_bind]

private theorem normalizeLabel_of_characters {label : Bytes}
    (wire : WireLabel label) (outcome : Checked Bytes)
    (characters : checkNameCharacters false false label = outcome) :
    normalizeLabel false false label = outcome := by
  unfold normalizeLabel
  have short := wire.short
  rw [rejectIf_of_not wire.nonempty, ok_bind, rejectIf_of_not (by omega),
    ok_bind, characters]
  cases outcome with
  | error error =>
      rfl
  | ok value =>
      rw [ok_bind, rejectIf_of_not (by simp), ok_bind, pure_eq_ok]

private theorem normalizeLabels_wire :
    ∀ {items : List Bytes}, (∀ item ∈ items, WireLabel item) →
      normalizeLabels false false items =
        if ∃ item ∈ items, HasWildcard item then
          .error (.of "HOST" "Unsupported DNS label character")
        else .ok items
  | [], _ => by simp [normalizeLabels]
  | item :: rest, wire => by
      have itemWire := wire item List.mem_cons_self
      have restWire : ∀ other ∈ rest, WireLabel other := fun other member =>
        wire other (List.mem_cons_of_mem item member)
      have tail := normalizeLabels_wire restWire
      have noTrailing : ¬ rest = [[]] := by
        rintro rfl
        exact (restWire [] (List.mem_singleton_self _)).nonempty rfl
      by_cases here : HasWildcard item
      · have step := normalizeLabel_of_characters itemWire _
          (checkNameCharacters_wildcard itemWire.printable itemWire.lowered here)
        rw [if_pos ⟨item, List.mem_cons_self, here⟩]
        simp only [normalizeLabels, step, error_bind]
      · have step := normalizeLabel_of_characters itemWire _
          (checkNameCharacters_wire itemWire.printable itemWire.lowered
            (fun character member => by
              by_contra wild
              exact here ⟨character, member, by simpa using wild⟩))
        simp only [normalizeLabels, step, ok_bind,
          rejectIf_of_not noTrailing, tail]
        by_cases later : ∃ other ∈ rest, HasWildcard other
        · obtain ⟨other, member, wild⟩ := later
          rw [if_pos ⟨other, member, wild⟩,
            if_pos ⟨other, List.mem_cons_of_mem item member, wild⟩, error_bind]
        · rw [if_neg later, if_neg, ok_bind, pure_eq_ok]
          rintro ⟨other, member, wild⟩
          rcases List.mem_cons.mp member with same | inRest
          · exact here (same ▸ wild)
          · exact later ⟨other, inRest, wild⟩

/-- The canonicaliser refuses the empty name, refuses a decoded name with a
wildcard, and leaves every other decoded name alone. -/
theorem normalizeDnsName_wire {decoded : Bytes} (wire : WireName decoded)
    (named : decoded ≠ []) :
    normalizeDnsName decoded =
      if HasWildcard decoded then
        .error (.of "HOST" "Unsupported DNS label character")
      else .ok decoded := by
  obtain ⟨items, itemsWire, decodedEq⟩ := wire.labels
  have itemsNonempty : ∀ item ∈ items, item ≠ [] := fun item member =>
    (itemsWire item member).nonempty
  have itemsNamed : items ≠ [] := by
    rintro rfl
    exact named decodedEq
  have bytesOk : ∀ item ∈ items, ∀ character ∈ item,
      isNameByte character = true := fun item member =>
    (itemsWire item member).printable
  have headByte : ∀ character, decoded.head? = some character →
      isNameByte character = true := by
    intro character headEq
    cases items with
    | nil =>
        exact absurd rfl itemsNamed
    | cons first others =>
        rw [decodedEq, joined_head? others
          (itemsNonempty first List.mem_cons_self)] at headEq
        exact bytesOk first List.mem_cons_self character
          (List.mem_of_head? headEq)
  have lastByte : ∀ character, decoded.getLast? = some character →
      isNameByte character = true := by
    intro character lastEq
    obtain ⟨item, member, sameLast⟩ :=
      joined_getLast? (byte '.') itemsNamed itemsNonempty
    rw [decodedEq, sameLast] at lastEq
    exact bytesOk item member character (List.mem_of_getLast? lastEq)
  have trimmed : trimBlanks decoded = decoded :=
    trimBlanks_eq_self
      (fun character headEq => isBlank_of_isNameByte (headByte character headEq))
      (fun character lastEq => isBlank_of_isNameByte (lastByte character lastEq))
  have noTrailingDot : decoded.getLast? ≠ some (byte '.') := by
    intro lastEq
    have accepted := lastByte (byte '.') lastEq
    rw [dot_not_isNameByte] at accepted
    cases accepted
  have cut : pieces (byte '.') decoded = items := by
    rw [decodedEq]
    apply ByteText.pieces_joined itemsNamed
    intro item member dotMember
    have accepted := bytesOk item member _ dotMember
    rw [dot_not_isNameByte] at accepted
    cases accepted
  have wildcardIff :
      HasWildcard decoded ↔ ∃ item ∈ items, HasWildcard item := by
    constructor
    · rintro ⟨character, member, wild⟩
      rw [decodedEq] at member
      rcases mem_joined member with same | ⟨item, itemMember, inside⟩
      · rw [same] at wild
        exact absurd wild (by decide)
      · exact ⟨item, itemMember, character, inside, wild⟩
    · rintro ⟨item, itemMember, character, inside, wild⟩
      have back : character ∈ decoded := by
        rw [decodedEq]
        exact mem_joined_of_mem inside itemMember
      exact ⟨character, back, wild⟩
  have short := wire.short
  unfold normalizeDnsName normalizeAsciiName
  simp only [trimmed, if_neg noTrailingDot, rejectIf_of_not named, ok_bind, cut,
    normalizeLabels_wire itemsWire, wildcardIff]
  split
  · rfl
  · rw [ok_bind, ← decodedEq, rejectIf_of_not (by omega), ok_bind, pure_eq_ok]

end NativeDNS

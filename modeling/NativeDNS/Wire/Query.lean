/-
Queries built from a textual name.

The encoder works on the canonical text, the decoder on the packet, and they
bound different quantities: labels and total length of the text on one side,
hops and expanded length on the other.  An accepted text has at most 127
labels, which together with the terminator is exactly the hop limit.
-/
import NativeDNS.Wire.Question

namespace NativeDNS

open ByteText (text byte pieces joined joined_cons)
open CheckedResult

/-- The labels of a name with their length bytes.  The encoding loop stops
when nothing is left behind a dot. -/
def encodeLabels : List Bytes → Packet
  | [] => []
  | [[]] => []
  | label :: rest =>
      UInt8.ofNat label.length :: label ++ encodeLabels rest

/-- Build a query; `id` is the random identifier. -/
def makeQuery (id : UInt16) (hostname : Bytes) (type : UInt16) :
    Checked Packet := do
  let host ← normalizeDnsName hostname
  pure
    (wordBytes id.toNat ++ wordBytes 0x0100 ++ wordBytes 1 ++ wordBytes 0 ++
      wordBytes 0 ++ wordBytes 0 ++
      (encodeLabels (pieces (byte '.') host) ++ 0 ::
        (wordBytes type.toNat ++ wordBytes 1)))

/-! ### What the canonicaliser accepts -/

set_option maxRecDepth 4000 in
private theorem loweredNameBytes :
    ∀ value < 256,
      32 < (UInt8.ofNat value).toNat → (UInt8.ofNat value).toNat < 127 →
        toLower (UInt8.ofNat value) ≠ byte '.' →
          isNameByte (toLower (UInt8.ofNat value)) = true := by
  decide

theorem checkNameCharacter_ok {original character : UInt8}
    (checked : checkNameCharacter false false original = .ok character) :
    isNameByte character = true ∧ toLower character = character := by
  simp only [checkNameCharacter, bind_eq_ok, rejectIf_eq_ok, pure_eq_ok,
    Except.ok.injEq, Bool.not_false, Bool.true_and, Bool.or_eq_true,
    decide_eq_true_eq, beq_iff_eq, not_or] at checked
  obtain ⟨_, _, _, ⟨⟨⟨visible, ascii⟩, undotted⟩, _⟩, lowered⟩ := checked
  have bytes := loweredNameBytes original.toNat original.toNat_lt
  rw [UInt8.ofNat_toNat] at bytes
  subst lowered
  exact ⟨bytes (by omega) (by omega) undotted, toLower_toLower original⟩

theorem checkNameCharacters_ok :
    ∀ {label checked : Bytes},
      checkNameCharacters false false label = .ok checked →
        checked.length = label.length ∧
          ∀ character ∈ checked,
            isNameByte character = true ∧ toLower character = character
  | [], checked, accepted => by
      cases accepted
      exact ⟨rfl, fun _ member => nomatch member⟩
  | original :: rest, checked, accepted => by
      simp only [checkNameCharacters, bind_eq_ok, pure_eq_ok,
        Except.ok.injEq] at accepted
      obtain ⟨character, here, others, later, built⟩ := accepted
      obtain ⟨lengthEq, laterOk⟩ := checkNameCharacters_ok later
      subst built
      refine ⟨by rw [List.length_cons, List.length_cons, lengthEq], ?_⟩
      intro other member
      rcases List.mem_cons.mp member with same | inRest
      · rw [same]
        exact checkNameCharacter_ok here
      · exact laterOk other inRest

theorem normalizeLabel_ok {label checked : Bytes}
    (accepted : normalizeLabel false false label = .ok checked) :
    WireLabel checked := by
  simp only [normalizeLabel, bind_eq_ok, rejectIf_eq_ok, pure_eq_ok,
    Except.ok.injEq] at accepted
  obtain ⟨_, named, _, short, other, characters, _, _, built⟩ := accepted
  subst built
  obtain ⟨lengthEq, bytesOk⟩ := checkNameCharacters_ok characters
  refine ⟨?_, by omega, fun character member => (bytesOk character member).1,
    fun character member => (bytesOk character member).2⟩
  intro empty
  rw [empty, List.length_nil] at lengthEq
  exact named (List.length_eq_zero_iff.mp lengthEq.symm)

theorem normalizeLabels_ok :
    ∀ {labels checked : List Bytes},
      normalizeLabels false false labels = .ok checked →
        checked.length = labels.length ∧ ∀ item ∈ checked, WireLabel item
  | [], checked, accepted => by
      cases accepted
      exact ⟨rfl, fun _ member => nomatch member⟩
  | label :: rest, checked, accepted => by
      simp only [normalizeLabels, bind_eq_ok, rejectIf_eq_ok, pure_eq_ok,
        Except.ok.injEq] at accepted
      obtain ⟨item, here, _, _, others, later, built⟩ := accepted
      obtain ⟨lengthEq, laterOk⟩ := normalizeLabels_ok later
      subst built
      refine ⟨by rw [List.length_cons, List.length_cons, lengthEq], ?_⟩
      intro other member
      rcases List.mem_cons.mp member with same | inRest
      · rw [same]
        exact normalizeLabel_ok here
      · exact laterOk other inRest

theorem normalizeDnsName_ok {hostname host : Bytes}
    (accepted : normalizeDnsName hostname = .ok host) :
    ∃ items : List Bytes, items ≠ [] ∧ (∀ item ∈ items, WireLabel item) ∧
      host = joined (byte '.') items ∧ host.length ≤ 253 := by
  simp only [normalizeDnsName, normalizeAsciiName, bind_eq_ok, rejectIf_eq_ok,
    pure_eq_ok, Except.ok.injEq] at accepted
  obtain ⟨_, _, _, _, items, labels, _, short, built⟩ := accepted
  obtain ⟨lengthEq, itemsOk⟩ := normalizeLabels_ok labels
  refine ⟨items, ?_, itemsOk, built.symm, by rw [← built]; omega⟩
  intro empty
  rw [empty, List.length_nil] at lengthEq
  exact ByteText.pieces_ne_nil _ _ (List.length_eq_zero_iff.mp lengthEq.symm)

theorem WireLabel.dotFree {label : Bytes} (wire : WireLabel label) :
    byte '.' ∉ label := by
  intro dot
  have printable := wire.printable _ dot
  simp [isNameByte] at printable

/-! ### The encoded labels -/

theorem encodeLabels_cons {label : Bytes} (named : label ≠ [])
    (rest : List Bytes) :
    encodeLabels (label :: rest) =
      UInt8.ofNat label.length :: label ++ encodeLabels rest := by
  cases label with
  | nil =>
      exact absurd rfl named
  | cons first others =>
      rfl

theorem joined_length_ge {items : List Bytes} (named : ∀ item ∈ items, item ≠ [])
    : 2 * items.length ≤ (joined (byte '.') items).length + 1 := by
  induction items with
  | nil =>
      exact Nat.zero_le _
  | cons item others ih =>
      have here : 0 < item.length :=
        List.length_pos_iff.mpr (named item List.mem_cons_self)
      have later := ih fun other member =>
        named other (List.mem_cons_of_mem item member)
      cases others with
      | nil =>
          simp only [joined, List.length_cons, List.length_nil]
          omega
      | cons next more =>
          rw [joined_cons _ item next more, List.length_append]
          simp only [List.length_cons] at later ⊢
          omega

theorem foldl_appendLabel_wire {items : List Bytes}
    (wire : ∀ item ∈ items, WireLabel item) :
    items.foldl appendLabel [] = joined (byte '.') items := by
  rw [foldl_appendLabel_eq_joined items fun item member =>
    (wire item member).nonempty]
  have lowered : ∀ item ∈ items, item.map toLower = id item := by
    intro item member
    rw [List.map_congr_left (wire item member).lowered, List.map_id']
    rfl
  rw [List.map_congr_left lowered, List.map_id]

theorem encodeLabels_run {items : List Bytes}
    (wire : ∀ item ∈ items, WireLabel item) :
    ∀ front back : Packet,
      LabelRun (front ++ (encodeLabels items ++ 0 :: back)) front.length items
        (front.length + (encodeLabels items).length + 1) := by
  induction items with
  | nil =>
      intro front back
      have inside : front.length <
          (front ++ (encodeLabels [] ++ 0 :: back)).length := by
        simp [encodeLabels]
      refine .done inside ?_
      rw [byteAt_append_right (Nat.le_refl _), Nat.sub_self]
      rfl
  | cons item others ih =>
      intro front back
      have itemWire := wire item List.mem_cons_self
      have named := List.length_pos_iff.mpr itemWire.nonempty
      have short := itemWire.short
      have rest := ih
        (fun other member => wire other (List.mem_cons_of_mem item member))
        (front ++ UInt8.ofNat item.length :: item) back
      have packetEq :
          front ++ (encodeLabels (item :: others) ++ 0 :: back) =
            (front ++ UInt8.ofNat item.length :: item) ++
              (encodeLabels others ++ 0 :: back) := by
        rw [encodeLabels_cons itemWire.nonempty]
        simp only [List.append_assoc, List.cons_append]
      have lastEq :
          front.length + (encodeLabels (item :: others)).length + 1 =
            (front ++ UInt8.ofNat item.length :: item).length +
              (encodeLabels others).length + 1 := by
        rw [encodeLabels_cons itemWire.nonempty]
        simp only [List.length_append, List.length_cons]
        omega
      rw [packetEq, lastEq]
      generalize backEq : encodeLabels others ++ 0 :: back = tail at rest ⊢
      have lengthByte :
          (byteAt ((front ++ UInt8.ofNat item.length :: item) ++ tail)
            front.length).toNat = item.length := by
        rw [List.append_assoc, byteAt_append_right (Nat.le_refl _),
          Nat.sub_self]
        simp only [byteAt, List.cons_append, List.getD_cons_zero,
          UInt8.toNat_ofNat']
        omega
      have labelBytes :
          slice ((front ++ UInt8.ofNat item.length :: item) ++ tail)
            (front.length + 1) item.length = item := by
        unfold slice
        have cut : (front ++ UInt8.ofNat item.length :: item) ++ tail =
            (front ++ [UInt8.ofNat item.length]) ++ (item ++ tail) := by
          simp only [List.append_assoc, List.cons_append, List.nil_append]
        rw [cut, List.drop_left' (by simp), List.take_left]
      have nextEq : (front ++ UInt8.ofNat item.length :: item).length =
          front.length + 1 + item.length := by
        simp only [List.length_append, List.length_cons]
        omega
      rw [nextEq] at rest ⊢
      have step := @LabelRun.label
        ((front ++ UInt8.ofNat item.length :: item) ++ tail) front.length
        (front.length + 1 + item.length + (encodeLabels others).length + 1)
        others
      rw [lengthByte, labelBytes] at step
      refine step named (by omega) ?_ ?_ rest
      · simp only [List.length_append, List.length_cons]
        omega
      · exact List.all_eq_true.mpr itemWire.printable

theorem encodeLabels_name {items : List Bytes}
    (wire : ∀ item ∈ items, WireLabel item)
    (short : (joined (byte '.') items).length ≤ 253) (front back : Packet) :
    name (front ++ (encodeLabels items ++ 0 :: back)) front.length =
      .ok (joined (byte '.') items,
        front.length + (encodeLabels items).length + 1) := by
  have run := encodeLabels_run wire front back
  have decoded := foldl_appendLabel_wire wire
  have count := joined_length_ge fun item member =>
    (wire item member).nonempty
  -- 127 labels and the terminator use up the hop limit
  have few : items.length + 1 ≤ maxHops := by
    unfold maxHops
    omega
  have walk := run.walk none [] (by rw [decoded]; exact short)
  rw [decoded] at walk
  exact name_eq_ok.mpr ⟨items.length + 1, few, walk⟩

theorem encodeLabels_length_le {items : List Bytes}
    (wire : ∀ item ∈ items, WireLabel item) :
    (encodeLabels items).length ≤ (joined (byte '.') items).length + 1 := by
  induction items with
  | nil =>
      exact Nat.zero_le _
  | cons item others ih =>
      have later := ih fun other member =>
        wire other (List.mem_cons_of_mem item member)
      rw [encodeLabels_cons (wire item List.mem_cons_self).nonempty]
      cases others with
      | nil =>
          simp only [encodeLabels, joined, List.append_nil, List.length_cons]
          omega
      | cons next more =>
          rw [joined_cons _ item next more]
          simp only [List.cons_append, List.length_cons, List.length_append]
          omega

/-! ### Queries decode to what they were built from -/

def queryQuestion (id : UInt16) (host : Bytes) (type : UInt16)
    (packet : Packet) : Question :=
  { id := id.toNat
    flags := 0x0100
    type := type.toNat
    klass := 1
    name := host
    «end» := packet.length }

theorem makeQuery_questionAt {id type : UInt16} {hostname host : Bytes}
    {packet : Packet} (accepted : normalizeDnsName hostname = .ok host)
    (built : makeQuery id hostname type = .ok packet) :
    QuestionAt packet (queryQuestion id host type packet) := by
  obtain ⟨items, named, wire, hostEq, short⟩ := normalizeDnsName_ok accepted
  have cut : pieces (byte '.') host = items := by
    rw [hostEq]
    exact ByteText.pieces_joined named fun item member =>
      (wire item member).dotFree
  simp only [makeQuery, accepted, ok_bind, pure_eq_ok, Except.ok.injEq,
    cut] at built
  have idSmall := id.toNat_lt
  have typeSmall := type.toNat_lt
  have decode := encodeLabels_name wire (hostEq ▸ short)
    (wordBytes id.toNat ++ wordBytes 0x0100 ++ wordBytes 1 ++ wordBytes 0 ++
      wordBytes 0 ++ wordBytes 0)
    (wordBytes type.toNat ++ wordBytes 1)
  rw [built, ← hostEq] at decode
  have frontLength : (wordBytes id.toNat ++ wordBytes 0x0100 ++ wordBytes 1 ++
      wordBytes 0 ++ wordBytes 0 ++ wordBytes 0).length = 12 := rfl
  rw [frontLength] at decode
  have encodedLength := encodeLabels_length_le wire
  rw [← hostEq] at encodedLength
  have lengthEq : packet.length = 12 + (encodeLabels items).length + 1 + 4 := by
    rw [← built, List.length_append, frontLength, List.length_append,
      List.length_cons]
    simp only [wordBytes, List.cons_append, List.nil_append, List.length_cons,
      List.length_nil]
    omega
  have behind : ∀ offset, wordAt packet
      (12 + (encodeLabels items).length + 1 + offset) =
        wordAt (wordBytes type.toNat ++ wordBytes 1) offset := by
    intro offset
    rw [← built, wordAt_append_right (by rw [frontLength]; omega), frontLength,
      wordAt_append_right (by omega)]
    have shifted : 12 + (encodeLabels items).length + 1 + offset - 12 -
        (encodeLabels items).length = offset + 1 := by
      omega
    rw [shifted]
    rfl
  refine
    { header := by omega
      bounded := by omega
      single := ?_
      idEq := ?_
      flagsEq := ?_
      standard := ?_
      nameEq := ⟨_, decode, lengthEq⟩
      typeEq := ?_
      klassEq := ?_
      fits := Nat.le_refl _ }
  · rw [← built]
    simp only [List.append_assoc]
    rw [wordAt_wordBytes_add _ 2, wordAt_wordBytes_add _ 0,
      wordAt_wordBytes (by omega)]
  · rw [← built]
    simp only [List.append_assoc]
    rw [wordAt_wordBytes (by omega)]
    rfl
  · rw [← built]
    simp only [List.append_assoc]
    rw [wordAt_wordBytes_add _ 0, wordAt_wordBytes (by omega)]
    rfl
  · rw [← built]
    simp only [List.append_assoc]
    rw [wordAt_wordBytes_add _ 0, wordAt_wordBytes (by omega)]
    rfl
  · simp only [queryQuestion]
    rw [show packet.length - 4 = 12 + (encodeLabels items).length + 1 + 0 by
      omega, behind, wordAt_wordBytes typeSmall]
  · simp only [queryQuestion]
    rw [show packet.length - 2 = 12 + (encodeLabels items).length + 1 + 2 by
      omega, behind, wordAt_wordBytes_add _ 0]
    exact (@wordAt_wordBytes 1 (by omega) []).symm

/-- A query for an accepted name decodes to its identifier, name and type and
ends with the packet; hence the question bytes of a query determine its name
and type. -/
theorem makeQuery_parse (id type : UInt16) {hostname host : Bytes}
    (accepted : normalizeDnsName hostname = .ok host) :
    ∃ packet, makeQuery id hostname type = .ok packet ∧
      parseQuestion packet =
        .ok
          { id := id.toNat
            flags := 0x0100
            type := type.toNat
            klass := 1
            name := host
            «end» := packet.length } ∧
      ∀ (id' type' : UInt16) (hostname' host' packet' : Bytes),
        normalizeDnsName hostname' = .ok host' →
          makeQuery id' hostname' type' = .ok packet' →
            slice packet 12 (packet.length - 12) =
                slice packet' 12 (packet'.length - 12) →
              host = host' ∧ type = type' := by
  obtain ⟨packet, built⟩ : ∃ packet, makeQuery id hostname type = .ok packet :=
    ⟨_, by rw [makeQuery, accepted, ok_bind, pure_eq_ok]⟩
  have parts := makeQuery_questionAt accepted built
  refine ⟨packet, built, parseQuestion_eq_ok.mpr parts, ?_⟩
  intro id' type' hostname' host' packet' accepted' built' same
  have parts' := makeQuery_questionAt accepted' built'
  have header := parts.header
  have header' := parts'.header
  have sameLength : packet.length = packet'.length := by
    have lengths := congrArg List.length same
    rw [slice_length (by omega), slice_length (by omega)] at lengths
    omega
  have agree : AgreeOn packet' packet 12 packet.length := by
    intro offset lower upper
    have here := @byteAt_slice packet 12 (packet.length - 12) (offset - 12)
      (by omega) (by omega)
    have there := @byteAt_slice packet' 12 (packet'.length - 12) (offset - 12)
      (by omega) (by omega)
    rw [Nat.add_sub_cancel' lower] at here there
    rw [← here, ← there, same]
  have moved := parts.transfer agree (by rw [← sameLength]; exact Nat.le_refl _)
    parts'.bounded parts'.single parts'.standard
  have equal := (parseQuestion_eq_ok.mpr moved).symm.trans
    (parseQuestion_eq_ok.mpr parts')
  simp only [queryQuestion, Except.ok.injEq, Question.mk.injEq] at equal
  exact ⟨equal.2.2.2.2.1, UInt16.toNat_inj.mp equal.2.2.1⟩

/-- The longest name: 127 labels in 253 bytes. -/
theorem makeQuery_parse_longest :
    ∃ packet,
      makeQuery 7 (joined (byte '.') (List.replicate 127 (text "X"))) 28 =
          .ok packet ∧
        parseQuestion packet =
          .ok
            { id := 7
              flags := 0x0100
              type := 28
              klass := 1
              name := joined (byte '.') (List.replicate 127 (text "x"))
              «end» := packet.length } := by
  have accepted :
      normalizeDnsName (joined (byte '.') (List.replicate 127 (text "X"))) =
        .ok (joined (byte '.') (List.replicate 127 (text "x"))) := by
    decide +kernel
  obtain ⟨packet, built, parsed, _⟩ := makeQuery_parse 7 28 accepted
  exact ⟨packet, built, parsed⟩

end NativeDNS

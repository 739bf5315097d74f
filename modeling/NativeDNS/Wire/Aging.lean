/-
The effect of aging on a packet.

Aging a run of records is a fold of lifetime updates, whatever the names of
the run decode to on the way.  The fold changes the lifetime fields of the
records and nothing else.
-/
import NativeDNS.Wire.Lifetime
import NativeDNS.Wire.RecordTtl

namespace NativeDNS

open CheckedResult

/-- The record after `elapsedSeconds`. -/
def Record.aged (elapsedSeconds : Nat) (record : Record) : Record :=
  if record.type = 41 then record
  else { record with ttl := record.ttl - elapsedSeconds }

@[simp] theorem Record.aged_owner (elapsedSeconds : Nat) (record : Record) :
    (record.aged elapsedSeconds).owner = record.owner := by
  unfold Record.aged
  split <;> rfl

@[simp] theorem Record.aged_header (elapsedSeconds : Nat) (record : Record) :
    (record.aged elapsedSeconds).header = record.header := by
  unfold Record.aged
  split <;> rfl

@[simp] theorem Record.aged_type (elapsedSeconds : Nat) (record : Record) :
    (record.aged elapsedSeconds).type = record.type := by
  unfold Record.aged
  split <;> rfl

@[simp] theorem Record.aged_klass (elapsedSeconds : Nat) (record : Record) :
    (record.aged elapsedSeconds).klass = record.klass := by
  unfold Record.aged
  split <;> rfl

@[simp] theorem Record.aged_length (elapsedSeconds : Nat) (record : Record) :
    (record.aged elapsedSeconds).length = record.length := by
  unfold Record.aged
  split <;> rfl

@[simp] theorem Record.aged_data (elapsedSeconds : Nat) (record : Record) :
    (record.aged elapsedSeconds).data = record.data := by
  unfold Record.data
  rw [Record.aged_header]

@[simp] theorem Record.aged_end (elapsedSeconds : Nat) (record : Record) :
    (record.aged elapsedSeconds).end = record.end := by
  unfold Record.end
  rw [Record.aged_header, Record.aged_length]

def ageRecord (elapsedSeconds : Nat) (packet : Packet) (record : Record) :
    Packet :=
  if record.type = 41 then packet
  else putDword packet (record.header + 4) (record.ttl - elapsedSeconds)

theorem ageRecord_eq (elapsedSeconds : Nat) :
    ageRecord elapsedSeconds = rewriteTtl (fun ttl => ttl - elapsedSeconds) :=
  rfl

@[simp] theorem ageRecord_length (elapsedSeconds : Nat) (packet : Packet)
    (record : Record) :
    (ageRecord elapsedSeconds packet record).length = packet.length := by
  rw [ageRecord_eq, rewriteTtl_length]

@[simp] theorem ageRecords_length (elapsedSeconds : Nat) (records : List Record)
    (packet : Packet) :
    (records.foldl (ageRecord elapsedSeconds) packet).length =
      packet.length := by
  rw [ageRecord_eq, rewriteTtls_length]

theorem byteAt_ageRecord {elapsedSeconds offset : Nat} {packet : Packet}
    {record : Record} (outside : ¬ InTtl record offset) :
    byteAt (ageRecord elapsedSeconds packet record) offset =
      byteAt packet offset := by
  rw [ageRecord_eq, byteAt_rewriteTtl outside]

theorem byteAt_ageRecords {elapsedSeconds offset : Nat} {records : List Record}
    (outside : ∀ record ∈ records, ¬ InTtl record offset) (packet : Packet) :
    byteAt (records.foldl (ageRecord elapsedSeconds) packet) offset =
      byteAt packet offset := by
  rw [ageRecord_eq, byteAt_rewriteTtls outside]

theorem byteAt_ageRecords_before {response packet : Packet}
    {elapsedSeconds position last offset : Nat} {records : List Record}
    (run : RecordRun response position records last)
    (before : offset ≤ position + 4) :
    byteAt (records.foldl (ageRecord elapsedSeconds) packet) offset =
      byteAt packet offset := by
  rw [ageRecord_eq, byteAt_rewriteTtls_before run before]

theorem dwordAt_ageRecords {response : Packet} {elapsedSeconds position last : Nat}
    {records : List Record} (run : RecordRun response position records last)
    {packet : Packet} {record : Record}
    (sameLength : packet.length = response.length) (member : record ∈ records)
    (rewritten : record.type ≠ 41) :
    dwordAt (records.foldl (ageRecord elapsedSeconds) packet)
        (record.header + 4) = record.ttl - elapsedSeconds := by
  rw [ageRecord_eq]
  exact dwordAt_rewriteTtls run
    (fun ttl small => Nat.lt_of_le_of_lt (Nat.sub_le _ _) small) sameLength
    member rewritten

/-! ### The walk -/

theorem ageStep_effect {response result : Packet}
    {elapsedSeconds index position position' : Nat} {record : Record}
    {result' : Packet} (here : RecordAt response position record)
    (sameLength : result.length = response.length)
    (agree : AgreeOn result response position response.length)
    (passed : ageStep elapsedSeconds index (position, result) =
      .ok (position', result')) :
    position' = record.end ∧ result' = ageRecord elapsedSeconds result record ∧
      ∃ owner, name result position = .ok (owner, record.header) := by
  simp only [ageStep, bind_eq_ok, rejectIf_eq_ok, word_eq_ok] at passed
  obtain ⟨⟨owner, header⟩, decode, type, ⟨_, typeEq⟩, length, ⟨_, lengthEq⟩, _,
    _, rest⟩ := passed
  have inside := here.header_le
  have headerEq : header = record.header :=
    name_next_unique here.ownerEq decode (agree.mono (Nat.le_refl _) (by omega))
  have start := here.lt_header
  dsimp only at typeEq lengthEq
  rw [headerEq] at typeEq lengthEq rest decode
  have typeSame : type = record.type := by
    rw [typeEq, wordAt_congr agree (by omega) (by omega), here.fieldsEq]
    rfl
  have lengthSame : length = record.length := by
    rw [lengthEq, wordAt_congr agree (by omega) (by omega), here.fieldsEq]
    rfl
  have ttlSame : dwordAt result (record.header + 4) = record.ttl := by
    rw [dwordAt_congr agree (by omega) (by omega), here.fieldsEq]
    rfl
  unfold ageRecord
  by_cases opt : record.type = 41
  · rw [if_neg (by rw [typeSame]; exact not_not.mpr opt)] at rest
    cases rest
    exact ⟨by rw [lengthSame]; rfl, by rw [if_pos opt], owner, decode⟩
  · rw [if_pos (by rw [typeSame]; exact opt)] at rest
    simp only [bind_eq_ok, dword_eq_ok] at rest
    obtain ⟨ttl, ⟨_, ttlEq⟩, built⟩ := rest
    cases built
    exact ⟨by rw [lengthSame]; rfl,
      by rw [if_neg opt, ttlEq, ttlSame], owner, decode⟩

/-- What two records of the same place have in common after aging: all fixed
fields but the owner, which may be compressed into a rewritten field. -/
structure AgedRecord (elapsedSeconds : Nat) (record aged : Record) : Prop where
  headerEq : aged.header = record.header
  typeEq : aged.type = record.type
  klassEq : aged.klass = record.klass
  lengthEq : aged.length = record.length
  ttlEq : aged.ttl = (record.aged elapsedSeconds).ttl

/-- A successful walk is the fold of the lifetime updates, and the aged packet
still holds a run of records at the same places. -/
theorem ageLoop_effect {response : Packet} {elapsedSeconds position last : Nat}
    {records : List Record} (run : RecordRun response position records last) :
    ∀ {index last' : Nat} {result aged : Packet}, 12 ≤ position →
      result.length = response.length →
      AgreeOn result response position response.length →
      repeatFrom (ageStep elapsedSeconds) records.length index
        (position, result) = .ok (last', aged) →
      last' = last ∧ aged = records.foldl (ageRecord elapsedSeconds) result ∧
        ∃ agedRecords, RecordRun aged position agedRecords last ∧
          List.Forall₂ (AgedRecord elapsedSeconds) records agedRecords := by
  induction run with
  | done =>
      intro index last' result aged _ _ _ loop
      cases loop
      exact ⟨rfl, rfl, [], .done, .nil⟩
  | @record position last record rest here later ih =>
      intro index last' result aged start sameLength agree loop
      rw [List.length_cons, repeatFrom_succ, bind_eq_ok] at loop
      obtain ⟨⟨position', result'⟩, passed, loop⟩ := loop
      obtain ⟨rfl, rfl, owner, decode⟩ :=
        ageStep_effect here sameLength agree passed
      have endAfter := here.lt_end
      obtain ⟨rfl, agedEq, agedRecords, agedRun, matched⟩ :=
        ih (by omega) (by rw [ageRecord_length, sameLength])
          (by rw [ageRecord_eq]; exact rewriteTtl_agree here agree) loop
      have sameLengthAged : aged.length = response.length := by
        rw [agedEq, ageRecords_length, ageRecord_length, sameLength]
      have headEnd : record.header + 10 ≤ record.end := Nat.le_add_right _ _
      have inside := here.header_le
      have headerAfter := here.lt_header
      have unchanged : ∀ offset, offset < record.end →
          ¬ InTtl record offset → byteAt aged offset = byteAt result offset := by
        intro offset below outside
        rw [agedEq, byteAt_ageRecords_before later (by omega),
          byteAt_ageRecord outside]
      have decodeAged : name aged position = .ok (owner, record.header) := by
        apply name_congr decode start
        · intro offset lower upper
          exact unchanged offset (by omega) (by unfold InTtl; omega)
        · omega
      have wordSame : ∀ offset, record.header ≤ offset →
          (offset + 2 ≤ record.header + 4 ∨ offset = record.header + 8) →
          wordAt aged offset = wordAt response offset := by
        intro offset lower upper
        refine wordAt_congr_self ?_
        intro place low high
        rw [unchanged place (by omega) (by unfold InTtl; omega),
          agree place (by omega) (by omega)]
      have typeSame : wordAt aged record.header = record.type := by
        rw [wordSame record.header (Nat.le_refl _) (by omega), here.fieldsEq]
        rfl
      have klassSame : wordAt aged (record.header + 2) = record.klass := by
        rw [wordSame (record.header + 2) (by omega) (by omega), here.fieldsEq]
        rfl
      have lengthSame : wordAt aged (record.header + 8) = record.length := by
        rw [wordSame (record.header + 8) (by omega) (by omega), here.fieldsEq]
        rfl
      have ttlAged : dwordAt aged (record.header + 4) =
          (record.aged elapsedSeconds).ttl := by
        unfold Record.aged
        by_cases opt : record.type = 41
        · rw [if_pos opt]
          have ttlSame : dwordAt response (record.header + 4) = record.ttl := by
            rw [here.fieldsEq]
            rfl
          rw [← ttlSame]
          refine dwordAt_congr_self ?_
          intro place low high
          rw [unchanged place (by omega) (by unfold InTtl; omega),
            agree place (by omega) (by omega)]
        · rw [if_neg opt, agedEq, ← List.foldl_cons]
          exact dwordAt_ageRecords (.record here later) sameLength
            List.mem_cons_self opt
      refine ⟨rfl, by rw [agedEq, List.foldl_cons],
        recordOf aged owner record.header :: agedRecords, ?_, ?_⟩
      · have endSame : (recordOf aged owner record.header).end = record.end := by
          unfold recordOf Record.end
          rw [lengthSame]
        refine .record ⟨decodeAged, rfl, ?_⟩ (endSame ▸ agedRun)
        rw [endSame, sameLengthAged]
        exact here.fits
      · exact .cons
          ⟨rfl, typeSame, klassSame, lengthSame, ttlAged⟩ matched

end NativeDNS

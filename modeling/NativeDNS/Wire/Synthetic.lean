/-
Synthetic replies are accepted by the response parser.

A synthetic reply repeats the header identifier and the question of the
request.  Its only compressed name is the owner of a zero answer, a pointer to
the question name; the pointer costs one hop more than the question itself.
-/
import NativeDNS.Wire.Response

namespace NativeDNS

open ByteText (text byte pieces joined)
open CheckedResult

/-! ### The flag word -/

private theorem rcode_bits : ∀ rcode ≤ 15,
    rcode &&& 0x8000 = 0 ∧ rcode &&& 0x7800 = 0 ∧ rcode &&& 0x0200 = 0 ∧
      rcode &&& 15 = rcode := by
  decide

theorem syntheticFlags_lt (requestFlags : Nat) {rcode : Nat}
    (range : rcode ≤ 15) : syntheticFlags requestFlags rcode < 65536 := by
  unfold syntheticFlags
  have copied : requestFlags &&& 0x0110 ≤ 0x0110 := Nat.and_le_right
  have low : 0x8080 ||| (requestFlags &&& 0x0110) < 2 ^ 16 :=
    Nat.or_lt_two_pow (by omega) (by omega)
  exact Nat.or_lt_two_pow low (by omega)

private theorem syntheticFlags_and (requestFlags rcode mask : Nat) :
    syntheticFlags requestFlags rcode &&& mask =
      (0x8080 &&& mask) ||| (requestFlags &&& (0x0110 &&& mask)) |||
        (rcode &&& mask) := by
  unfold syntheticFlags
  rw [Nat.and_or_distrib_right, Nat.and_or_distrib_right, Nat.and_assoc]

theorem syntheticFlags_bits (requestFlags : Nat) {rcode : Nat}
    (range : rcode ≤ 15) :
    syntheticFlags requestFlags rcode &&& 0x8000 ≠ 0 ∧
      syntheticFlags requestFlags rcode &&& 0x7800 = 0 ∧
      syntheticFlags requestFlags rcode &&& 0x0200 = 0 ∧
      syntheticFlags requestFlags rcode &&& 15 = rcode := by
  obtain ⟨reply, opcode, truncated, code⟩ := rcode_bits rcode range
  refine ⟨?_, ?_, ?_, ?_⟩
  · rw [syntheticFlags_and, reply]
    simp
  · rw [syntheticFlags_and, opcode]
    simp
  · rw [syntheticFlags_and, truncated]
    simp
  · rw [syntheticFlags_and, code]
    simp

/-! ### When a synthetic reply exists -/

theorem syntheticResponse_eq_ok {request response : Packet} {rcode : Nat}
    {zero : Bool} (range : rcode ≤ 15) :
    syntheticResponse request rcode zero = .ok response ↔
      ∃ question edns, parseQuestion request = .ok question ∧
        question.flags &&& 0x8000 = 0 ∧
        ednsRequest request question = .ok edns ∧
        response = syntheticPacket request question edns rcode zero := by
  simp only [syntheticResponse, bind_eq_ok, rejectIf_eq_ok, pure_eq_ok,
    Except.ok.injEq, not_not]
  constructor
  · rintro ⟨_, _, question, parsed, _, query, edns, ednsOk, built⟩
    exact ⟨question, edns, parsed, query, ednsOk, built.symm⟩
  · rintro ⟨question, edns, parsed, query, ednsOk, built⟩
    exact ⟨(), by omega, question, parsed, (), query, edns, ednsOk, built.symm⟩

/-! ### The header and the question -/

section Layout

variable {request : Packet} {question : Question} {edns : EdnsRequest}
variable {rcode : Nat} {zero : Bool}

def syntheticFront (request : Packet) (question : Question)
    (edns : EdnsRequest) (rcode : Nat) (zero : Bool) : Packet :=
  syntheticHeader request (syntheticFlags question.flags rcode)
      (answersZero zero question) edns.present ++
    slice request 12 (question.end - 12)

def syntheticRecords (question : Question) (edns : EdnsRequest)
    (zero : Bool) : Packet :=
  (if answersZero zero question then zeroRecord question.type else []) ++
    (if edns.present then optRecord edns else [])

theorem syntheticPacket_eq :
    syntheticPacket request question edns rcode zero =
      syntheticFront request question edns rcode zero ++
        syntheticRecords question edns zero := by
  unfold syntheticPacket syntheticFront syntheticRecords
  exact List.append_assoc _ _ _

theorem syntheticFront_length (parts : QuestionAt request question) :
    (syntheticFront request question edns rcode zero).length =
      question.end := by
  have fits := parts.fits
  have behind := parts.end_ge
  unfold syntheticFront
  rw [List.length_append, slice_length (by omega)]
  simp only [syntheticHeader, List.length_cons, List.length_nil]
  omega

theorem syntheticPacket_agree (parts : QuestionAt request question) :
    AgreeOn (syntheticPacket request question edns rcode zero) request 12
      question.end := by
  intro offset lower upper
  have fits := parts.fits
  have behind := parts.end_ge
  have front := @syntheticFront_length request question edns rcode zero
    parts
  rw [syntheticPacket_eq, byteAt_append_left (by omega)]
  unfold syntheticFront
  have headerLength : (syntheticHeader request
      (syntheticFlags question.flags rcode) (answersZero zero question)
      edns.present).length = 12 := rfl
  rw [byteAt_append_right (by omega), headerLength,
    byteAt_slice (by omega) (by omega), Nat.add_sub_cancel' lower]

private theorem byteAt_syntheticHeader {offset : Nat} (inside : offset < 12) :
    byteAt (syntheticPacket request question edns rcode zero) offset =
      byteAt (syntheticHeader request (syntheticFlags question.flags rcode)
        (answersZero zero question) edns.present) offset := by
  have headerLength : (syntheticHeader request
      (syntheticFlags question.flags rcode) (answersZero zero question)
      edns.present).length = 12 := rfl
  unfold syntheticPacket
  rw [List.append_assoc, List.append_assoc, byteAt_append_left (by omega)]

theorem syntheticPacket_words (range : rcode ≤ 15) :
    wordAt (syntheticPacket request question edns rcode zero) 0 =
        wordAt request 0 ∧
      wordAt (syntheticPacket request question edns rcode zero) 2 =
        syntheticFlags question.flags rcode ∧
      wordAt (syntheticPacket request question edns rcode zero) 4 = 1 ∧
      wordAt (syntheticPacket request question edns rcode zero) 6 =
        (answersZero zero question).toNat ∧
      wordAt (syntheticPacket request question edns rcode zero) 8 = 0 ∧
      wordAt (syntheticPacket request question edns rcode zero) 10 =
        edns.present.toNat := by
  have small := syntheticFlags_lt question.flags range
  refine ⟨?_, ?_, ?_, ?_, ?_, ?_⟩
  · unfold wordAt
    rw [byteAt_syntheticHeader (by omega), byteAt_syntheticHeader (by omega)]
    rfl
  · rw [wordAt_eq, byteAt_syntheticHeader (by omega),
      byteAt_syntheticHeader (by omega)]
    simp only [syntheticHeader, byteAt, List.getD_cons_succ,
      List.getD_cons_zero, UInt8.toNat_ofNat', Nat.shiftRight_eq_div_pow]
    omega
  · rw [wordAt_eq, byteAt_syntheticHeader (by omega),
      byteAt_syntheticHeader (by omega)]
    simp [syntheticHeader, byteAt]
  · rw [wordAt_eq, byteAt_syntheticHeader (by omega),
      byteAt_syntheticHeader (by omega)]
    cases answersZero zero question <;> simp [syntheticHeader, byteAt]
  · rw [wordAt_eq, byteAt_syntheticHeader (by omega),
      byteAt_syntheticHeader (by omega)]
    simp [syntheticHeader, byteAt]
  · rw [wordAt_eq, byteAt_syntheticHeader (by omega),
      byteAt_syntheticHeader (by omega)]
    cases edns.present <;> simp [syntheticHeader, byteAt]

theorem syntheticPacket_question (parts : QuestionAt request question)
    (range : rcode ≤ 15)
    (bounded : (syntheticPacket request question edns rcode zero).length ≤ 65535) :
    parseQuestion (syntheticPacket request question edns rcode zero) =
      .ok { question with flags := syntheticFlags question.flags rcode } := by
  obtain ⟨idWord, flagWord, countWord, _, _, _⟩ :=
    @syntheticPacket_words request question edns rcode zero range
  have front := @syntheticFront_length request question edns rcode zero
    parts
  have transferred := parseQuestion_eq_ok.mpr (parts.transfer
    (@syntheticPacket_agree request question edns rcode zero parts)
    (by rw [syntheticPacket_eq, List.length_append]; omega) bounded countWord
    (by rw [flagWord]; exact (syntheticFlags_bits question.flags range).2.1))
  rwa [idWord, ← parts.idEq, flagWord] at transferred

end Layout

/-! ### The records -/

theorem name_questionPointer {packet : Packet} {decoded : Bytes}
    {next position : Nat} (decode : name packet 12 = .ok (decoded, next))
    (behind : 12 < position) (inside : position + 1 < packet.length)
    (marked : byteAt packet position = 0xc0)
    (target : byteAt packet (position + 1) = 12)
    (enough : labelCount decoded + 2 ≤ maxHops) :
    name packet position = .ok (decoded, position + 2) := by
  obtain ⟨labels, run, _, decodedEq, short⟩ := name_labelRun decode
  have targetEq : pointerTarget packet position = 12 := by
    unfold pointerTarget
    rw [marked, target]
    rfl
  have countEq : labelCount decoded = labels.length := by
    rw [decodedEq]
    exact run.labelCount_eq
  refine name_eq_ok.mpr ⟨labels.length + 2, by omega, ?_⟩
  refine .pointer inside (by rw [marked]; decide) (by rw [targetEq])
    (by rw [targetEq]; exact behind) ?_
  rw [targetEq, decodedEq]
  exact run.walk (some (position + 2)) [] (decodedEq ▸ short)

theorem name_questionPointer_hops {packet : Packet} {decoded other : Bytes}
    {next next' position : Nat} (decode : name packet 12 = .ok (decoded, next))
    (marked : byteAt packet position = 0xc0)
    (target : byteAt packet (position + 1) = 12)
    (followed : name packet position = .ok (other, next')) :
    labelCount decoded + 2 ≤ maxHops := by
  obtain ⟨labels, run, _, decodedEq, _⟩ := name_labelRun decode
  have targetEq : pointerTarget packet position = 12 := by
    unfold pointerTarget
    rw [marked, target]
    rfl
  rw [decodedEq, run.labelCount_eq]
  obtain ⟨hops, within, walk⟩ := name_eq_ok.mp followed
  cases walk with
  | finish _ zero =>
      rw [marked] at zero
      exact absurd zero (by decide)
  | pointer _ _ _ _ rest =>
      rw [targetEq] at rest
      have hopsEq := run.hops_eq rest
      omega
  | label _ plain =>
      rw [marked] at plain
      exact absurd plain (by decide)

theorem QuestionAt.end_le {packet : Packet} {question : Question}
    (parts : QuestionAt packet question) : question.end ≤ 271 := by
  obtain ⟨next, decode, endEq⟩ := parts.nameEq
  obtain ⟨labels, run, _, decodedEq, short⟩ := name_labelRun decode
  have bound := run.next_le_text
  rw [← decodedEq] at bound
  omega

theorem responseStep_address (platform : Platform) {packet : Packet}
    {expected : Question} {answers authority index position : Nat}
    {record : Record} (read : readRecord packet position = .ok record)
    (requested : isRequestedAddress expected answers index record = true)
    (scan : ResponseScan) :
    responseStep platform packet expected answers authority index
        (position, scan) =
      .ok (record.end, scanLifetime expected answers index record
        { scan with
          addresses := scan.addresses ++
            [(record.owner,
              platform.formatIp (slice packet record.data record.length)
                (decide (record.type = 28)))] }) := by
  have noSoa : isNegativeSoa expected answers authority index record = false := by
    simp only [isRequestedAddress, Bool.and_eq_true, Bool.or_eq_true,
      decide_eq_true_eq] at requested
    have notSoa : record.type ≠ 6 := by omega
    simp [isNegativeSoa, notSoa]
  have data : scanData platform packet expected answers authority index record
      scan = .ok
        { scan with
          addresses := scan.addresses ++
            [(record.owner,
              platform.formatIp (slice packet record.data record.length)
                (decide (record.type = 28)))] } := by
    unfold scanData
    rw [if_pos requested]
    rfl
  apply responseStep_eq_ok.mpr
  refine ⟨record, _, read, data, ?_, rfl⟩
  unfold scanSoa
  rw [noSoa]
  rfl

theorem responseStep_opt (platform : Platform) {packet : Packet}
    {expected : Question} {answers authority index position : Nat}
    {record : Record} (read : readRecord packet position = .ok record)
    (opt : record.type = 41) (root : record.owner = [])
    (additional : answers + authority ≤ index)
    (plain : byteAt packet (record.header + 4) = 0) {scan : ResponseScan}
    (first : scan.optSeen = false) :
    responseStep platform packet expected answers authority index
        (position, scan) =
      .ok (record.end, { scan with optSeen := true }) := by
  have notRequested :
      isRequestedAddress expected answers index record = false := by
    simp [isRequestedAddress, opt]
  have notNamed : isNameRecord record = false := by
    simp [isNameRecord, opt]
  have noSoa : isNegativeSoa expected answers authority index record = false := by
    simp [isNegativeSoa, opt]
  have data : scanData platform packet expected answers authority index record
      scan = .ok { scan with optSeen := true } := by
    unfold scanData
    rw [notRequested, notNamed, if_neg Bool.false_ne_true,
      if_neg Bool.false_ne_true, if_pos opt,
      rejectIf_of_not (by rw [first, root]; simp; omega), ok_bind, plain]
    simp
  have lifetime : scanLifetime expected answers index record
      { scan with optSeen := true } = { scan with optSeen := true } := by
    simp [scanLifetime, opt]
  apply responseStep_eq_ok.mpr
  refine ⟨record, _, read, data, ?_, rfl⟩
  rw [lifetime]
  unfold scanSoa
  rw [noSoa]
  rfl

section Records

variable {request : Packet} {question : Question} {edns : EdnsRequest}
variable {rcode : Nat} {zero : Bool}

theorem zeroRecord_length (type : Nat) :
    (zeroRecord type).length = if type = 1 then 16 else 28 := by
  unfold zeroRecord
  by_cases ipv4 : type = 1
  · simp [ipv4]
  · simp [ipv4]

theorem syntheticPacket_length (parts : QuestionAt request question) :
    (syntheticPacket request question edns rcode zero).length =
      question.end + (syntheticRecords question edns zero).length := by
  rw [syntheticPacket_eq, List.length_append, syntheticFront_length parts]

theorem syntheticRecords_length_le (question : Question) (edns : EdnsRequest)
    (zero : Bool) : (syntheticRecords question edns zero).length ≤ 39 := by
  unfold syntheticRecords
  rw [List.length_append]
  have opt : (if edns.present = true then optRecord edns else []).length ≤ 11 := by
    split
    · exact Nat.le_refl 11
    · exact Nat.zero_le _
  have address : (if answersZero zero question = true then
      zeroRecord question.type else []).length ≤ 28 := by
    split
    · rw [zeroRecord_length]
      split <;> omega
    · exact Nat.zero_le _
  omega

theorem syntheticPacket_parsed (parts : QuestionAt request question)
    (range : rcode ≤ 15) :
    parseQuestion (syntheticPacket request question edns rcode zero) =
      .ok { question with flags := syntheticFlags question.flags rcode } := by
  apply syntheticPacket_question parts range
  have bound := parts.end_le
  have records := syntheticRecords_length_le question edns zero
  rw [syntheticPacket_length parts]
  omega

theorem byteAt_syntheticRecords (parts : QuestionAt request question)
    (offset : Nat) :
    byteAt (syntheticPacket request question edns rcode zero)
        (question.end + offset) =
      byteAt (syntheticRecords question edns zero) offset := by
  have front := @syntheticFront_length request question edns rcode zero
    parts
  rw [syntheticPacket_eq, byteAt_append_right (by omega), front,
    Nat.add_sub_cancel_left]

theorem wordAt_syntheticRecords (parts : QuestionAt request question)
    (offset : Nat) :
    wordAt (syntheticPacket request question edns rcode zero)
        (question.end + offset) =
      wordAt (syntheticRecords question edns zero) offset := by
  unfold wordAt
  rw [byteAt_syntheticRecords parts, Nat.add_assoc,
    byteAt_syntheticRecords parts]

theorem dwordAt_syntheticRecords (parts : QuestionAt request question)
    (offset : Nat) :
    dwordAt (syntheticPacket request question edns rcode zero)
        (question.end + offset) =
      dwordAt (syntheticRecords question edns zero) offset := by
  unfold dwordAt
  rw [byteAt_syntheticRecords parts, Nat.add_assoc, Nat.add_assoc,
    Nat.add_assoc, byteAt_syntheticRecords parts, byteAt_syntheticRecords parts,
    byteAt_syntheticRecords parts]

theorem syntheticPacket_name (parts : QuestionAt request question) :
    name (syntheticPacket request question edns rcode zero) 12 =
      .ok (question.name, question.end - 4) := by
  obtain ⟨next, decode, endEq⟩ := parts.nameEq
  have nextEq : question.end - 4 = next := by omega
  have fits := parts.fits
  rw [nextEq]
  exact name_congr decode (Nat.le_refl 12)
    ((syntheticPacket_agree parts).mono (Nat.le_refl _) (by omega))
    (by rw [syntheticPacket_length parts]; omega)

theorem answersZero_type (answer : answersZero zero question = true) :
    question.klass = 1 ∧ (question.type = 1 ∨ question.type = 28) := by
  simp only [answersZero, Bool.and_eq_true, Bool.or_eq_true,
    decide_eq_true_eq] at answer
  exact ⟨answer.1.2, answer.2⟩

private theorem syntheticRecords_of_zero
    (answer : answersZero zero question = true) :
    syntheticRecords question edns zero =
      zeroRecord question.type ++ (if edns.present then optRecord edns else []) := by
  unfold syntheticRecords
  rw [if_pos answer]

theorem zeroRecord_pointer (parts : QuestionAt request question)
    (answer : answersZero zero question = true) :
    byteAt (syntheticPacket request question edns rcode zero) question.end =
        0xc0 ∧
      byteAt (syntheticPacket request question edns rcode zero)
        (question.end + 1) = 12 := by
  constructor
  · rw [← Nat.add_zero question.end, byteAt_syntheticRecords parts,
      syntheticRecords_of_zero answer]
    rfl
  · rw [byteAt_syntheticRecords parts, syntheticRecords_of_zero answer]
    rfl

theorem zeroRecord_read (parts : QuestionAt request question)
    (answer : answersZero zero question = true)
    (enough : labelCount question.name + 2 ≤ maxHops) :
    readRecord (syntheticPacket request question edns rcode zero) question.end =
      .ok
        { owner := question.name
          header := question.end + 2
          type := question.type
          klass := 1
          ttl := 0
          length := if question.type = 1 then 4 else 16 } := by
  obtain ⟨marked, target⟩ := @zeroRecord_pointer request question edns rcode zero
    parts answer
  obtain ⟨_, typeKind⟩ := answersZero_type answer
  have behind := parts.end_ge
  have recordLength : (zeroRecord question.type).length =
      12 + (if question.type = 1 then 4 else 16) := by
    rw [zeroRecord_length]
    split <;> rfl
  have within : (syntheticPacket request question edns rcode zero).length ≥
      question.end + 12 + (if question.type = 1 then 4 else 16) := by
    rw [syntheticPacket_length parts, syntheticRecords_of_zero answer,
      List.length_append, recordLength]
    omega
  refine readRecord_eq_ok.mpr ⟨⟨?_, ?_, ?_⟩, ?_⟩
  · exact name_questionPointer (syntheticPacket_name parts) (by omega)
      (by omega) marked target enough
  · unfold recordOf
    dsimp only
    rw [wordAt_syntheticRecords parts, Nat.add_assoc, Nat.add_assoc,
      Nat.add_assoc, wordAt_syntheticRecords parts,
      dwordAt_syntheticRecords parts, wordAt_syntheticRecords parts,
      syntheticRecords_of_zero answer]
    rcases typeKind with ipv4 | ipv6
    · rw [ipv4]
      simp [zeroRecord, wordAt_eq, dwordAt_eq, byteAt]
    · rw [ipv6]
      simp [zeroRecord, wordAt_eq, dwordAt_eq, byteAt]
  · simp only [Record.end]
    omega
  · unfold Record.WellSized
    rcases typeKind with ipv4 | ipv6
    · simp [ipv4]
    · simp [ipv6]

theorem optRecord_read (parts : QuestionAt request question)
    (present : edns.present = true) :
    ∃ record,
      readRecord (syntheticPacket request question edns rcode zero)
        (question.end +
          (if answersZero zero question then zeroRecord question.type
            else []).length) = .ok record ∧
      record.type = 41 ∧ record.owner = [] ∧
      byteAt (syntheticPacket request question edns rcode zero)
        (record.header + 4) = 0 ∧
      record.end =
        (syntheticPacket request question edns rcode zero).length ∧
      record.klass = edns.payload % 65536 ∧
      byteAt (syntheticPacket request question edns rcode zero)
        (record.header + 6) = if edns.doBit then 0x80 else 0 := by
  have recordsEq : syntheticRecords question edns zero =
      (if answersZero zero question then zeroRecord question.type else []) ++
        optRecord edns := by
    unfold syntheticRecords
    rw [if_pos present]
  have total := @syntheticPacket_length request question edns rcode
    zero parts
  rw [recordsEq, List.length_append] at total
  generalize (if answersZero zero question = true then
    zeroRecord question.type else []) = front at recordsEq total ⊢
  have optLength : (optRecord edns).length = 11 := rfl
  have optByte : ∀ offset,
      byteAt (syntheticPacket request question edns rcode zero)
        (question.end + front.length + offset) =
          byteAt (optRecord edns) offset := by
    intro offset
    rw [Nat.add_assoc, byteAt_syntheticRecords parts, recordsEq,
      byteAt_append_right (by omega), Nat.add_sub_cancel_left]
  have optWord : ∀ offset,
      wordAt (syntheticPacket request question edns rcode zero)
        (question.end + front.length + offset) =
          wordAt (optRecord edns) offset := by
    intro offset
    unfold wordAt
    rw [optByte, Nat.add_assoc (question.end + front.length), optByte]
  have decode : name (syntheticPacket request question edns rcode zero)
      (question.end + front.length) =
        .ok ([], question.end + front.length + 1) := by
    refine name_eq_ok.mpr ⟨1, by decide, .finish (by omega) ?_⟩
    rw [← Nat.add_zero (question.end + front.length), optByte]
    rfl
  have typeEq : wordAt (syntheticPacket request question edns rcode zero)
      (question.end + front.length + 1) = 41 := by
    rw [optWord]
    simp [optRecord, wordAt_eq, byteAt]
  have lengthEq : wordAt (syntheticPacket request question edns rcode zero)
      (question.end + front.length + 1 + 8) = 0 := by
    rw [Nat.add_assoc (question.end + front.length), optWord]
    simp [optRecord, wordAt_eq, byteAt]
  refine ⟨recordOf (syntheticPacket request question edns rcode zero) []
    (question.end + front.length + 1),
    readRecord_eq_ok.mpr ⟨⟨decode, rfl, ?_⟩, ?_⟩, typeEq, rfl, ?_, ?_, ?_,
    ?_⟩
  · simp only [Record.end, recordOf]
    rw [lengthEq]
    omega
  · unfold Record.WellSized recordOf
    simp [typeEq]
  · simp only [recordOf]
    rw [Nat.add_assoc (question.end + front.length), optByte]
    simp [optRecord, byteAt]
  · simp only [Record.end, recordOf]
    rw [lengthEq]
    omega
  · simp only [recordOf]
    rw [Nat.add_assoc (question.end + front.length), optWord, wordAt_eq]
    simp only [optRecord, byteAt, List.getD_cons_succ, List.getD_cons_zero,
      UInt8.toNat_ofNat', Nat.shiftRight_eq_div_pow]
    omega
  · simp only [recordOf]
    rw [Nat.add_assoc (question.end + front.length), optByte]
    rfl

theorem zeroRecord_data (parts : QuestionAt request question)
    (answer : answersZero zero question = true) :
    slice (syntheticPacket request question edns rcode zero)
        (question.end + 12) (if question.type = 1 then 4 else 16) =
      List.replicate (if question.type = 1 then 4 else 16) 0 := by
  have front := @syntheticFront_length request question edns rcode zero parts
  rw [syntheticPacket_eq, syntheticRecords_of_zero answer]
  unfold slice
  rw [← front, List.drop_append]
  have shifted :
      (syntheticFront request question edns rcode zero).drop
          ((syntheticFront request question edns rcode zero).length + 12) =
        [] :=
    List.drop_eq_nil_of_le (by omega)
  rw [shifted, Nat.add_sub_cancel_left, List.nil_append]
  unfold zeroRecord
  simp only [List.append_assoc]
  rw [List.drop_left' (by rfl), List.take_left' List.length_replicate]

def syntheticScan (platform : Platform) (question : Question)
    (edns : EdnsRequest) (rcode : Nat) (zero : Bool) : ResponseScan :=
  if answersZero zero question then
    { rcode := rcode
      addresses :=
        [(question.name,
          platform.formatIp
            (List.replicate (if question.type = 1 then 4 else 16) 0)
            (decide (question.type = 28)))]
      optSeen := edns.present
      requestedAnswer := true
      positiveTtl := 0 }
  else
    { rcode := rcode
      optSeen := edns.present }

theorem optRecord_pass (platform : Platform)
    (parts : QuestionAt request question) (scan : ResponseScan) (index : Nat)
    (first : scan.optSeen = false)
    (additional : (answersZero zero question).toNat + 0 ≤ index) :
    repeatFrom
        (responseStep platform (syntheticPacket request question edns rcode zero)
          question (answersZero zero question).toNat 0)
        edns.present.toNat index
        (question.end + (if answersZero zero question = true then
          zeroRecord question.type else []).length, scan) =
      .ok ((syntheticPacket request question edns rcode zero).length,
        { scan with optSeen := edns.present }) := by
  have total := @syntheticPacket_length request question edns rcode zero parts
  cases present : edns.present with
  | false =>
      unfold syntheticRecords at total
      rw [present, if_neg Bool.false_ne_true, List.append_nil] at total
      have same : { scan with optSeen := false } = scan := by
        rw [← first]
      rw [total, same]
      rfl
  | true =>
      obtain ⟨record, read, opt, root, plain, atEnd, _⟩ :=
        @optRecord_read request question edns rcode zero parts present
      have passed :=
        @responseStep_opt platform _ question _ 0 index _ _ read opt root
          additional plain _ first
      rw [Bool.toNat_true, repeatFrom_succ, passed, ok_bind, atEnd]
      rfl

theorem scanResponse_synthetic (platform : Platform)
    (parts : QuestionAt request question) (range : rcode ≤ 15)
    (enough : answersZero zero question = true →
      labelCount question.name + 2 ≤ maxHops) :
    scanResponse platform (syntheticPacket request question edns rcode zero)
        { question with flags := syntheticFlags question.flags rcode } question =
      .ok (syntheticScan platform question edns rcode zero) := by
  obtain ⟨_, _, _, answersWord, authorityWord, additionalWord⟩ :=
    @syntheticPacket_words request question edns rcode zero range
  have total := @syntheticPacket_length request question edns rcode
    zero parts
  have header := parts.end_ge
  have code := (syntheticFlags_bits question.flags range).2.2.2
  have count : recordCount (syntheticPacket request question edns rcode zero) =
      (answersZero zero question).toNat + edns.present.toNat := by
    unfold recordCount
    rw [answersWord, authorityWord, additionalWord, Nat.add_zero]
  have few : ∀ flag : Bool, flag.toNat ≤ 1 := by decide
  have answers := few (answersZero zero question)
  have additional := few edns.present
  rw [scanResponse_eq_ok (by omega), count, answersWord, authorityWord]
  refine ⟨by omega, ?_⟩
  rw [code]
  unfold syntheticScan
  cases answer : answersZero zero question with
  | false =>
      have loop := @optRecord_pass request question edns rcode zero platform
        parts { rcode := rcode } 0 rfl (by rw [answer]; exact Nat.le_refl 0)
      rw [answer] at loop
      rw [Bool.toNat_false, Nat.zero_add]
      exact loop
  | true =>
      have read := @zeroRecord_read request question edns rcode zero parts answer
        (enough answer)
      obtain ⟨klass, typeKind⟩ := answersZero_type answer
      have passed :=
        @responseStep_address platform _ question 1 0 0 _ _ read (by
            unfold isRequestedAddress
            rcases typeKind with ipv4 | ipv6
            · simp [ipv4]
            · simp [ipv6])
          { rcode := rcode }
      have lifetime : scanLifetime question 1 0
          { owner := question.name
            header := question.end + 2
            type := question.type
            klass := 1
            ttl := 0
            length := if question.type = 1 then 4 else 16 }
          { rcode := rcode
            addresses :=
              [(question.name,
                platform.formatIp
                  (List.replicate (if question.type = 1 then 4 else 16) 0)
                  (decide (question.type = 28)))] } =
          { rcode := rcode
            addresses :=
              [(question.name,
                platform.formatIp
                  (List.replicate (if question.type = 1 then 4 else 16) 0)
                  (decide (question.type = 28)))]
            requestedAnswer := true
            positiveTtl := 0 } := by
        rcases typeKind with ipv4 | ipv6
        · simp [scanLifetime, ipv4, klass]
        · simp [scanLifetime, ipv6, klass]
      simp only [Record.data] at passed
      rw [Nat.add_assoc question.end 2 10, zeroRecord_data parts answer,
        List.nil_append, lifetime] at passed
      have loop := @optRecord_pass request question edns rcode zero platform
        parts
        { rcode := rcode
          addresses :=
            [(question.name,
              platform.formatIp
                (List.replicate (if question.type = 1 then 4 else 16) 0)
                (decide (question.type = 28)))]
          requestedAnswer := true
          positiveTtl := 0 } 1 rfl (by rw [answer]; exact Nat.le_refl 1)
      rw [answer] at loop
      rw [Bool.toNat_true, Nat.add_comm, repeatFrom_succ, passed, ok_bind]
      have endEq : Record.end
          { owner := question.name
            header := question.end + 2
            type := question.type
            klass := 1
            ttl := 0
            length := if question.type = 1 then 4 else 16 } =
          question.end + (if true = true then
            zeroRecord question.type else []).length := by
        rw [if_pos rfl, zeroRecord_length]
        simp only [Record.end]
        split <;> omega
      rw [endEq]
      exact loop

theorem parseResponse_synthetic (platform : Platform)
    (parts : QuestionAt request question) (range : rcode ≤ 15)
    (enough : answersZero zero question = true →
      labelCount question.name + 2 ≤ maxHops) :
    parseResponse platform (syntheticPacket request question edns rcode zero)
        question =
      .ok (finishAnswer question
        (decide (syntheticFlags question.flags rcode &&& 0x0020 ≠ 0))
        (syntheticScan platform question edns rcode zero) [question.name]) := by
  have parsed := @syntheticPacket_parsed request question edns rcode zero parts
    range
  have flags := syntheticFlags_bits question.flags range
  have scanned := @scanResponse_synthetic request question edns rcode zero
    platform parts range enough
  have aliases : (syntheticScan platform question edns rcode zero).aliases =
      OrderedMap.empty := by
    unfold syntheticScan
    split <;> rfl
  have answers : AnswersQuestion
      { question with flags := syntheticFlags question.flags rcode }
      question :=
    ⟨flags.1, rfl, rfl, rfl, rfl⟩
  unfold parseResponse
  rw [parsed, ok_bind, rejectIf_of_not (not_not.mpr answers), ok_bind]
  dsimp only
  rw [if_neg (not_not.mpr flags.2.2.1), scanned, ok_bind, aliases]
  rfl

/-- The parser accepts a synthetic reply for the question of the request,
unless the reply carries a zero answer whose owner pointer exceeds the hop
limit. -/
theorem syntheticPacket_accepted_iff (platform : Platform)
    (parts : QuestionAt request question) (range : rcode ≤ 15) :
    (∃ answer, parseResponse platform
        (syntheticPacket request question edns rcode zero) question =
          .ok answer) ↔
      (answersZero zero question = true →
        labelCount question.name + 2 ≤ maxHops) := by
  have parsed := @syntheticPacket_parsed request question edns rcode zero parts range
  have flags := syntheticFlags_bits question.flags range
  constructor
  · rintro ⟨answer, accepted⟩ zeroAnswer
    simp only [parseResponse, bind_eq_ok] at accepted
    obtain ⟨reply, replyParsed, _, _, rest⟩ := accepted
    rw [parsed] at replyParsed
    cases replyParsed
    rw [if_neg (not_not.mpr flags.2.2.1)] at rest
    obtain ⟨scan, scanned, _⟩ := bind_eq_ok.mp rest
    obtain ⟨_, _, _, answersWord, authorityWord, additionalWord⟩ :=
      @syntheticPacket_words request question edns rcode zero range
    have behind := parts.end_ge
    have total := @syntheticPacket_length request question edns rcode
      zero parts
    rw [scanResponse_eq_ok (by omega)] at scanned
    obtain ⟨_, loop⟩ := scanned
    have count : recordCount
        (syntheticPacket request question edns rcode zero) =
          edns.present.toNat + 1 := by
      unfold recordCount
      rw [answersWord, authorityWord, additionalWord, zeroAnswer,
        Bool.toNat_true]
      omega
    rw [count, repeatFrom_succ, bind_eq_ok] at loop
    obtain ⟨⟨position, noted⟩, passed, _⟩ := loop
    obtain ⟨record, _, read, _⟩ := responseStep_eq_ok.mp passed
    obtain ⟨marked, target⟩ := @zeroRecord_pointer request question edns rcode
      zero parts zeroAnswer
    exact name_questionPointer_hops (syntheticPacket_name parts) marked target
      (readRecord_eq_ok.mp read).1.ownerEq
  · intro enough
    exact ⟨_, parseResponse_synthetic platform parts range enough⟩

end Records

end NativeDNS

/-
Which replies keep their meaning when they are aged.

A compression pointer only has to refer to an earlier offset, so a name may
read bytes of a lifetime field.  `nameReads` lists every offset the decoder
reads; a reply whose names read no byte that aging can change parses alike
after aging.
-/
import NativeDNS.Wire.Aging

namespace NativeDNS

open ByteText (text byte)
open CheckedResult

/-! ### The bytes a name is decoded from -/

def nameReads (packet : Packet) : Nat → Nat → List Nat
  | 0, _ => []
  | hops + 1, position =>
      if position ≥ packet.length then []
      else
        let length := byteAt packet position
        if length &&& 0xc0 = 0xc0 then
          let target := pointerTarget packet position
          position :: (position + 1) ::
            if target ≥ position ∨ target < 12 then []
            else nameReads packet hops target
        else if length &&& 0xc0 ≠ 0 ∨ length = 0 then [position]
        else
          List.range' position (length.toNat + 1) ++
            nameReads packet hops (position + 1 + length.toNat)

private theorem nameLoop_congr_reads {packet other : Packet}
    (sameLength : other.length = packet.length) :
    ∀ (hops position : Nat) (resume : Option Nat) (result : Bytes),
      (∀ offset ∈ nameReads packet hops position,
        byteAt other offset = byteAt packet offset) →
      nameLoop other hops position resume result =
        nameLoop packet hops position resume result
  | 0, position, resume, result, _ => rfl
  | hops + 1, position, resume, result, agree => by
      unfold nameLoop
      unfold nameReads at agree
      rw [sameLength]
      by_cases outside : position ≥ packet.length
      · rw [if_pos outside, if_pos outside]
      rw [if_neg outside] at agree
      rw [if_neg outside, if_neg outside]
      by_cases marked : byteAt packet position &&& 0xc0 = 0xc0
      · simp only [if_pos marked, List.mem_cons, forall_eq_or_imp] at agree
        obtain ⟨first, second, rest⟩ := agree
        have targetEq :
            pointerTarget other position = pointerTarget packet position := by
          unfold pointerTarget
          rw [first, second]
        simp only [first, if_pos marked, targetEq]
        split
        · rfl
        · split
          · rfl
          · rename_i forward
            rw [if_neg forward] at rest
            exact nameLoop_congr_reads sameLength hops _ _ _ rest
      simp only [if_neg marked] at agree
      by_cases last :
          byteAt packet position &&& 0xc0 ≠ 0 ∨ byteAt packet position = 0
      · simp only [if_pos last, List.mem_singleton, forall_eq] at agree
        simp only [agree, if_neg marked]
        rcases last with unsupported | zero
        · rw [if_pos unsupported, if_pos unsupported]
        · simp only [zero, if_true]
      simp only [if_neg last, List.mem_append, List.mem_range'_1] at agree
      have first : byteAt other position = byteAt packet position :=
        agree position (Or.inl (by omega))
      simp only [not_or, not_not] at last
      simp only [first, if_neg marked]
      simp only [last.1, last.2, ne_eq, not_true, if_false]
      by_cases short :
          (byteAt packet position).toNat > packet.length - (position + 1)
      · rw [if_pos short, if_pos short]
      · rw [if_neg short, if_neg short]
        have labelEq :
            slice other (position + 1) (byteAt packet position).toNat =
              slice packet (position + 1) (byteAt packet position).toNat := by
          apply slice_congr
          · intro offset lower upper
            exact agree offset (Or.inl (by omega))
          · omega
          · omega
        rw [labelEq]
        split
        · rfl
        · split
          · rfl
          · exact nameLoop_congr_reads sameLength hops _ _ _
              (fun offset member => agree offset (Or.inr member))

theorem nameReads_ge {packet : Packet} :
    ∀ {hops position : Nat}, 12 ≤ position →
      ∀ offset ∈ nameReads packet hops position, 12 ≤ offset
  | 0, position, _, offset, member => by
      cases member
  | hops + 1, position, start, offset, member => by
      unfold nameReads at member
      split at member
      · cases member
      dsimp only at member
      split at member
      · rcases List.mem_cons.mp member with rfl | member
        · exact start
        rcases List.mem_cons.mp member with rfl | member
        · omega
        split at member
        · cases member
        · rename_i backward
          exact nameReads_ge (by omega) offset member
      split at member
      · rw [List.mem_singleton.mp member]
        exact start
      rcases List.mem_append.mp member with label | later
      · rw [List.mem_range'_1] at label
        omega
      · exact nameReads_ge (by omega) offset later

theorem name_congr_reads {packet other : Packet} {position : Nat}
    (sameLength : other.length = packet.length)
    (agree : ∀ offset ∈ nameReads packet maxHops position,
      byteAt other offset = byteAt packet offset) :
    name other position = name packet position :=
  nameLoop_congr_reads sameLength maxHops position none [] agree

/-! ### The names of a reply -/

def dataNames (packet : Packet) (expected : Question)
    (answers authority index : Nat) (record : Record) : List Nat :=
  if isNameRecord record then [record.data]
  else if isNegativeSoa expected answers authority index record then
    match name packet record.data with
    | .ok (_, next) => [record.data, next]
    | .error _ => [record.data]
  else []

/-- The offsets of all names the parser decodes in a run of records. -/
def replyNames (packet : Packet) (expected : Question)
    (answers authority : Nat) : Nat → Nat → List Record → List Nat
  | _, _, [] => []
  | index, position, record :: rest =>
      position :: dataNames packet expected answers authority index record ++
        replyNames packet expected answers authority (index + 1) record.end rest

/-- A lifetime byte that aging can change: one that is not a leading zero. -/
def LiveTtl (record : Record) (offset : Nat) : Prop :=
  InTtl record offset ∧ record.ttl / 256 ^ (record.header + 7 - offset) ≠ 0

instance (record : Record) (offset : Nat) : Decidable (LiveTtl record offset) :=
  inferInstanceAs (Decidable (_ ∧ _))

/-- No name of a run reads a lifetime byte that aging can change. -/
def RunAvoidsTtl (packet : Packet) (expected : Question) (position : Nat)
    (records : List Record) : Prop :=
  ∀ start ∈ replyNames packet expected (wordAt packet 6) (wordAt packet 8) 0
      position records,
    ∀ offset ∈ nameReads packet maxHops start,
      ∀ record ∈ records, ¬ LiveTtl record offset

instance (packet : Packet) (expected : Question) (position : Nat)
    (records : List Record) :
    Decidable (RunAvoidsTtl packet expected position records) :=
  inferInstanceAs (Decidable (∀ start ∈ _, ∀ offset ∈ _, ∀ record ∈ _, _))

/-- No name that the parser decodes in a reply reads a lifetime byte that
aging can change. -/
def NamesAvoidTtl (packet : Packet) (expected : Question) : Prop :=
  ∀ question ∈ (parseQuestion packet).toOption,
    ∀ records ∈ (replyRecords packet).toOption,
      RunAvoidsTtl packet expected question.end records

instance (packet : Packet) (expected : Question) :
    Decidable (NamesAvoidTtl packet expected) :=
  inferInstanceAs (Decidable (∀ question ∈ (_ : Option _), _))

/-! ### The lifetime bytes that stay -/

private theorem byteAt_eq_zero {packet : Packet} {offset position : Nat}
    (lower : offset ≤ position) (upper : position < offset + 4)
    (small : dwordAt packet offset / 256 ^ (offset + 3 - position) = 0) :
    byteAt packet position = 0 := by
  have first := (byteAt packet offset).toNat_lt
  have second := (byteAt packet (offset + 1)).toNat_lt
  have third := (byteAt packet (offset + 2)).toNat_lt
  have fourth := (byteAt packet (offset + 3)).toNat_lt
  rw [dwordAt_eq] at small
  have place : position = offset ∨ position = offset + 1 ∨
      position = offset + 2 ∨ position = offset + 3 := by omega
  apply UInt8.toNat_inj.mp
  rw [UInt8.toNat_zero]
  rcases place with rfl | rfl | rfl | rfl
  · rw [show position + 3 - position = 3 by omega] at small
    omega
  · rw [show offset + 3 - (offset + 1) = 2 by omega] at small
    omega
  · rw [show offset + 3 - (offset + 2) = 1 by omega] at small
    omega
  · rw [show offset + 3 - (offset + 3) = 0 by omega] at small
    omega

theorem byteAt_ageRecords_of_not_live {response packet : Packet}
    {elapsedSeconds position last offset : Nat} {records : List Record}
    (run : RecordRun response position records last)
    (sameLength : packet.length = response.length)
    (agree : AgreeOn packet response 12 response.length)
    (start : 12 ≤ position) (within : last ≤ response.length)
    (dead : ∀ record ∈ records, ¬ LiveTtl record offset) :
    byteAt (records.foldl (ageRecord elapsedSeconds) packet) offset =
      byteAt packet offset := by
  by_cases inside : ∃ record ∈ records, InTtl record offset
  · obtain ⟨record, member, rewritten, lower, upper⟩ := inside
    have small : record.ttl / 256 ^ (record.header + 7 - offset) = 0 := by
      by_contra live
      exact dead record member ⟨⟨rewritten, lower, upper⟩, live⟩
    have bounds := run.bounds member
    have headEnd : record.header + 10 ≤ record.end := Nat.le_add_right _ _
    have fields := run.fields member
    have shift : record.header + 4 + 3 - offset = record.header + 7 - offset := by
      omega
    have agedZero :
        byteAt (records.foldl (ageRecord elapsedSeconds) packet) offset = 0 := by
      apply byteAt_eq_zero lower (by omega)
      rw [dwordAt_ageRecords run sameLength member rewritten, shift]
      exact Nat.eq_zero_of_le_zero
        (Nat.le_trans (Nat.div_le_div_right (Nat.sub_le _ _))
          (Nat.le_of_eq small))
    have originalZero : byteAt packet offset = 0 := by
      apply byteAt_eq_zero lower (by omega)
      rw [dwordAt_congr agree (by omega) (by omega), ← fields, shift]
      exact small
    rw [agedZero, originalZero]
  · apply byteAt_ageRecords
    intro record member rewritten
    exact inside ⟨record, member, rewritten⟩

/-! ### Parsing the aged reply -/

/-- The fields of a scan that the delivered answer shows. -/
structure SameReply (scan aged : ResponseScan) : Prop where
  rcode : aged.rcode = scan.rcode
  addresses : aged.addresses = scan.addresses
  aliases : aged.aliases = scan.aliases
  optSeen : aged.optSeen = scan.optSeen

/-- What an aged packet has to share with the original at one record. -/
structure AgedAt (packet aged : Packet) (expected : Question)
    (elapsedSeconds answers authority index position : Nat) (record : Record) :
    Prop where
  here : RecordAt packet position record
  agedHere : RecordAt aged position (record.aged elapsedSeconds)
  names : ∀ start ∈ dataNames packet expected answers authority index record,
    name aged start = name packet start
  data : AgreeOn aged packet record.data record.end
  opt : record.type = 41 →
    byteAt aged (record.header + 4) = byteAt packet (record.header + 4)
  sameLength : aged.length = packet.length

theorem scanData_aged (id : Nat) {platform : Platform} {packet aged : Packet}
    {expected : Question}
    {elapsedSeconds answers authority index position : Nat} {record : Record}
    {scan scan' noted : ResponseScan}
    (at_ : AgedAt packet aged expected elapsedSeconds answers authority index
      position record)
    (same : SameReply scan scan')
    (passed : scanData platform packet expected answers authority index record
      scan = .ok noted) :
    ∃ noted', scanData platform aged { expected with id := id } answers
        authority index (record.aged elapsedSeconds) scan' = .ok noted' ∧
      SameReply noted noted' := by
  unfold scanData at passed ⊢
  have requestedSame : isRequestedAddress { expected with id := id } answers
      index (record.aged elapsedSeconds) =
        isRequestedAddress expected answers index record := by
    simp only [isRequestedAddress, Record.aged_type, Record.aged_klass]
  have namedSame : isNameRecord (record.aged elapsedSeconds) =
      isNameRecord record := by
    simp only [isNameRecord, Record.aged_type]
  rw [requestedSame, namedSame]
  simp only [Record.aged_type, Record.aged_klass, Record.aged_owner,
    Record.aged_header, Record.aged_length, Record.aged_data]
  by_cases requested : isRequestedAddress expected answers index record = true
  · rw [if_pos requested] at passed ⊢
    cases passed
    have fits := at_.here.fits
    have agedFits := at_.agedHere.fits
    rw [Record.aged_end] at agedFits
    have sliceSame : slice aged record.data record.length =
        slice packet record.data record.length :=
      slice_congr at_.data agedFits fits
    refine ⟨_, rfl, ⟨same.rcode, ?_, same.aliases, same.optSeen⟩⟩
    simp only [same.addresses, sliceSame]
  rw [if_neg requested] at passed ⊢
  by_cases named : isNameRecord record = true
  · rw [if_pos named] at passed ⊢
    have decodeSame : name aged record.data = name packet record.data := by
      apply at_.names
      unfold dataNames
      rw [if_pos named]
      exact List.mem_singleton_self _
    rw [decodeSame]
    simp only [bind_eq_ok, rejectIf_eq_ok] at passed ⊢
    obtain ⟨⟨target, next⟩, decode, _, atEnd, noted_⟩ := passed
    by_cases isAlias : record.type = 5 ∧ record.klass = 1 ∧ index < answers
    · rw [if_pos isAlias] at noted_
      cases noted_
      refine ⟨{ scan' with
            aliases := scan'.aliases.insert record.owner target },
        ⟨(target, next), decode, (), atEnd, by rw [if_pos isAlias]; rfl⟩,
        ⟨same.rcode, same.addresses, ?_, same.optSeen⟩⟩
      simp only [same.aliases]
    · rw [if_neg isAlias] at noted_
      cases noted_
      exact ⟨_, ⟨(target, next), decode, (), atEnd, by rw [if_neg isAlias]; rfl⟩,
        same⟩
  rw [if_neg named] at passed ⊢
  by_cases opt : record.type = 41
  · rw [if_pos opt] at passed ⊢
    simp only [bind_eq_ok, rejectIf_eq_ok] at passed ⊢
    obtain ⟨_, allowed, noted_⟩ := passed
    cases noted_
    refine ⟨_, ⟨(), by rw [same.optSeen]; exact allowed, rfl⟩,
      ⟨?_, same.addresses, same.aliases, rfl⟩⟩
    simp only [same.rcode, at_.opt opt]
  · rw [if_neg opt] at passed ⊢
    cases passed
    exact ⟨scan', rfl, same⟩

theorem scanLifetime_reply (expected : Question) (answers index : Nat)
    (record : Record) (scan : ResponseScan) :
    SameReply scan (scanLifetime expected answers index record scan) := by
  unfold scanLifetime
  constructor <;> (dsimp only; split <;> split <;> rfl)

theorem SameReply.symm {scan aged : ResponseScan} (same : SameReply scan aged) :
    SameReply aged scan :=
  ⟨same.rcode.symm, same.addresses.symm, same.aliases.symm, same.optSeen.symm⟩

theorem SameReply.trans {scan aged other : ResponseScan}
    (first : SameReply scan aged) (second : SameReply aged other) :
    SameReply scan other :=
  ⟨second.rcode.trans first.rcode, second.addresses.trans first.addresses,
    second.aliases.trans first.aliases, second.optSeen.trans first.optSeen⟩

theorem scanSoa_aged (id : Nat) {packet aged : Packet} {expected : Question}
    {elapsedSeconds answers authority index position : Nat} {record : Record}
    {scan scan' noted : ResponseScan}
    (at_ : AgedAt packet aged expected elapsedSeconds answers authority index
      position record)
    (same : SameReply scan scan')
    (passed : scanSoa packet expected answers authority index record scan =
      .ok noted) :
    ∃ noted', scanSoa aged { expected with id := id } answers authority index
        (record.aged elapsedSeconds) scan' = .ok noted' ∧
      SameReply noted noted' := by
  unfold scanSoa at passed ⊢
  have soaSame : isNegativeSoa { expected with id := id } answers authority
      index (record.aged elapsedSeconds) =
        isNegativeSoa expected answers authority index record := by
    simp only [isNegativeSoa, Record.aged_type, Record.aged_klass]
  rw [soaSame]
  simp only [Record.aged_length, Record.aged_data]
  by_cases soa : isNegativeSoa expected answers authority index record = true
  · rw [if_pos soa] at passed ⊢
    simp only [bind_eq_ok, rejectIf_eq_ok, dword_eq_ok] at passed ⊢
    obtain ⟨⟨first, middle⟩, decodeFirst, ⟨second, next⟩, decodeSecond, _,
      atEnd, minimum, ⟨inside, _⟩, built⟩ := passed
    have unnamed : isNameRecord record = false := by
      simp only [isNegativeSoa, Bool.and_eq_true, decide_eq_true_eq] at soa
      simp [isNameRecord, soa.1.1.1]
    have starts : dataNames packet expected answers authority index record =
        [record.data, middle] := by
      unfold dataNames
      rw [unnamed, if_neg Bool.false_ne_true, if_pos soa, decodeFirst]
    have sameFirst : name aged record.data = name packet record.data :=
      at_.names _ (by rw [starts]; exact List.mem_cons_self)
    have sameSecond : name aged middle = name packet middle :=
      at_.names _ (by
        rw [starts]
        exact List.mem_cons_of_mem _ (List.mem_singleton_self _))
    cases built
    refine ⟨_, ⟨(first, middle), by rw [sameFirst, decodeFirst],
      (second, next), by rw [sameSecond, decodeSecond], (), atEnd, _,
      ⟨by rw [at_.sameLength]; exact inside, rfl⟩, rfl⟩, ?_⟩
    exact ⟨same.rcode, same.addresses, same.aliases, same.optSeen⟩
  · rw [if_neg soa] at passed ⊢
    cases passed
    exact ⟨scan', rfl, same⟩

theorem responseStep_aged (id : Nat) {platform : Platform}
    {packet aged : Packet} {expected : Question}
    {elapsedSeconds answers authority index position next : Nat}
    {record : Record} {scan scan' result : ResponseScan}
    (at_ : AgedAt packet aged expected elapsedSeconds answers authority index
      position record)
    (same : SameReply scan scan')
    (passed : responseStep platform packet expected answers authority index
      (position, scan) = .ok (next, result)) :
    next = record.end ∧
      ∃ result', responseStep platform aged { expected with id := id } answers
          authority index (position, scan') = .ok (record.end, result') ∧
        SameReply result result' := by
  obtain ⟨read, noted, readOk, dataOk, soaOk, nextEq⟩ :=
    responseStep_eq_ok.mp passed
  obtain ⟨readAt, sized⟩ := readRecord_eq_ok.mp readOk
  obtain rfl := readAt.unique at_.here
  obtain ⟨noted', dataOk', sameNoted⟩ := scanData_aged id at_ same dataOk
  have sameLifetime :
      SameReply (scanLifetime expected answers index read noted)
        (scanLifetime { expected with id := id } answers index
          (read.aged elapsedSeconds) noted') :=
    ((scanLifetime_reply ..).symm.trans sameNoted).trans
      (scanLifetime_reply ..)
  obtain ⟨result', soaOk', sameResult⟩ :=
    scanSoa_aged id at_ sameLifetime soaOk
  refine ⟨nextEq, result', ?_, sameResult⟩
  rw [responseStep_eq_ok]
  refine ⟨read.aged elapsedSeconds, noted', ?_, dataOk', soaOk', by
    rw [Record.aged_end]⟩
  refine readRecord_eq_ok.mpr ⟨at_.agedHere, ?_⟩
  unfold Record.WellSized at sized ⊢
  rw [Record.aged_type, Record.aged_length]
  exact sized

/-! ### The whole reply -/

theorem byteAt_withTransactionId {packet : Packet} {id offset : Nat}
    (behind : 2 ≤ offset) :
    byteAt (withTransactionId packet id) offset = byteAt packet offset := by
  unfold withTransactionId
  rw [byteAt_set_of_ne (by omega), byteAt_set_of_ne (by omega)]

@[simp] theorem withTransactionId_length (packet : Packet) (id : Nat) :
    (withTransactionId packet id).length = packet.length := by
  unfold withTransactionId
  simp only [List.length_set]

theorem wordAt_withTransactionId {packet : Packet} {id : Nat}
    (header : 2 ≤ packet.length) (fits : id < 65536) :
    wordAt (withTransactionId packet id) 0 = id := by
  unfold withTransactionId
  rw [wordAt_eq, byteAt_set_of_ne (by omega), byteAt_set_self (by omega),
    byteAt_set_self (by rw [List.length_set]; omega)]
  simp only [UInt8.toNat_ofNat', Nat.shiftRight_eq_div_pow]
  omega

def agedPacket (packet : Packet) (id elapsedSeconds : Nat)
    (records : List Record) : Packet :=
  records.foldl (ageRecord elapsedSeconds) (withTransactionId packet id)

@[simp] theorem agedPacket_length (packet : Packet) (id elapsedSeconds : Nat)
    (records : List Record) :
    (agedPacket packet id elapsedSeconds records).length = packet.length := by
  unfold agedPacket
  rw [ageRecords_length, withTransactionId_length]

theorem byteAt_agedPacket {packet : Packet} {id elapsedSeconds offset : Nat}
    {records : List Record} (behind : 2 ≤ offset)
    (outside : ∀ record ∈ records, ¬ InTtl record offset) :
    byteAt (agedPacket packet id elapsedSeconds records) offset =
      byteAt packet offset := by
  unfold agedPacket
  rw [byteAt_ageRecords outside, byteAt_withTransactionId behind]

theorem agedPacket_append (packet : Packet) (id elapsedSeconds : Nat)
    (records : List Record) (record : Record) :
    agedPacket packet id elapsedSeconds (records ++ [record]) =
      ageRecord elapsedSeconds (agedPacket packet id elapsedSeconds records)
        record := by
  unfold agedPacket
  rw [List.foldl_append]
  rfl

theorem dwordAt_agedPacket {packet : Packet} {id elapsedSeconds position last : Nat}
    {records : List Record} {record : Record}
    (run : RecordRun packet position records last) (member : record ∈ records)
    (rewritten : record.type ≠ 41) :
    dwordAt (agedPacket packet id elapsedSeconds records) (record.header + 4) =
      record.ttl - elapsedSeconds :=
  dwordAt_ageRecords run (withTransactionId_length packet id) member rewritten

/-- A partly aged packet: the original with a new identifier and aged
lifetimes in some of its records. -/
structure PartlyAged (packet result : Packet) (records : List Record) : Prop where
  sameLength : result.length = packet.length
  agree : ∀ offset, 12 ≤ offset →
    (∀ record ∈ records, ¬ LiveTtl record offset) →
      byteAt result offset = byteAt packet offset

theorem PartlyAged.name_eq {packet result : Packet} {records : List Record}
    (aged : PartlyAged packet result records) {start : Nat} (behind : 12 ≤ start)
    (avoids : ∀ offset ∈ nameReads packet maxHops start,
      ∀ record ∈ records, ¬ LiveTtl record offset) :
    name result start = name packet start :=
  name_congr_reads aged.sameLength (fun offset member =>
    aged.agree offset (nameReads_ge behind offset member) (avoids offset member))

theorem partlyAged_fold {packet : Packet} {id elapsedSeconds position last : Nat}
    {records all : List Record} (run : RecordRun packet position records last)
    (within : last ≤ packet.length) (start : 12 ≤ position)
    (subset : ∀ record ∈ records, record ∈ all) :
    PartlyAged packet (agedPacket packet id elapsedSeconds records) all where
  sameLength := agedPacket_length ..
  agree := by
    intro offset behind dead
    unfold agedPacket
    rw [byteAt_ageRecords_of_not_live run (withTransactionId_length packet id)
      (fun place lower _ => byteAt_withTransactionId (by omega)) start within
      (fun record member => dead record (subset record member)),
      byteAt_withTransactionId (by omega)]

theorem ageStep_of_name {packet result : Packet}
    {elapsedSeconds index position : Nat} {record : Record}
    (here : RecordAt packet position record)
    (sameLength : result.length = packet.length)
    (agree : AgreeOn result packet position packet.length)
    (decode : name result position = name packet position) :
    ageStep elapsedSeconds index (position, result) =
      .ok (record.end, ageRecord elapsedSeconds result record) := by
  have start := here.lt_header
  have inside := here.header_le
  have fits := here.fits
  have typeSame : wordAt result record.header = record.type := by
    rw [wordAt_congr agree (by omega) (by omega), here.fieldsEq]
    rfl
  have lengthSame : wordAt result (record.header + 8) = record.length := by
    rw [wordAt_congr agree (by omega) (by omega), here.fieldsEq]
    rfl
  have ttlSame : dwordAt result (record.header + 4) = record.ttl := by
    rw [dwordAt_congr agree (by omega) (by omega), here.fieldsEq]
    rfl
  unfold Record.end at fits
  unfold ageStep ageRecord
  dsimp only
  rw [decode, here.ownerEq, ok_bind]
  dsimp only
  rw [word_of_le (by omega), ok_bind, word_of_le (by omega), ok_bind,
    lengthSame, typeSame, rejectIf_of_not (by omega), ok_bind]
  by_cases opt : record.type = 41
  · rw [if_neg (not_not.mpr opt), if_pos opt]
    rfl
  · rw [if_pos opt, if_neg opt, dword_of_le (by omega), ok_bind, ttlSame]
    rfl

/-- The aging walk over the rest of a run, when no name reads a live lifetime
byte.  The induction is on what is left; `passed` has been aged. -/
theorem ageLoop_total (id elapsedSeconds : Nat) {packet : Packet}
    {expected : Question} {answers authority first : Nat} {all : List Record}
    (start : 12 ≤ first) :
    ∀ {rest passed : List Record} {index position : Nat},
      all = passed ++ rest → RecordRun packet first passed position →
      RecordRun packet position rest packet.length →
      (∀ name ∈ replyNames packet expected answers authority index position rest,
        ∀ offset ∈ nameReads packet maxHops name,
          ∀ record ∈ all, ¬ LiveTtl record offset) →
      repeatFrom (ageStep elapsedSeconds) rest.length index
          (position, agedPacket packet id elapsedSeconds passed) =
        .ok (packet.length, agedPacket packet id elapsedSeconds all)
  | [], passed, index, position, split, before, after, avoids => by
      cases after
      rw [split, List.append_nil]
      rfl
  | record :: rest, passed, index, position, split, before, after, avoids => by
      cases after with
      | record here later =>
          have within : position ≤ packet.length := by
            have step := here.lt_end
            have fits := here.fits
            omega
          have behind : 12 ≤ position := Nat.le_trans start before.le
          have aged : PartlyAged packet
              (agedPacket packet id elapsedSeconds passed) all :=
            partlyAged_fold before within start (fun other member => by
              rw [split]
              exact List.mem_append_left _ member)
          have decode := aged.name_eq behind
            (avoids position List.mem_cons_self)
          have agree : AgreeOn (agedPacket packet id elapsedSeconds passed)
              packet position packet.length := by
            intro offset lower upper
            apply byteAt_agedPacket (by omega)
            intro other member inside
            have bounds := before.bounds member
            have headEnd : other.header + 10 ≤ other.end := Nat.le_add_right _ _
            unfold InTtl at inside
            omega
          rw [List.length_cons, repeatFrom_succ,
            ageStep_of_name here aged.sameLength agree decode, ok_bind,
            ← agedPacket_append]
          have restAvoids : ∀ name ∈
                replyNames packet expected answers authority (index + 1)
                  record.end rest,
              ∀ offset ∈ nameReads packet maxHops name,
                ∀ record ∈ all, ¬ LiveTtl record offset := fun name member =>
            avoids name
              (List.mem_cons_of_mem _ (List.mem_append_right _ member))
          exact ageLoop_total id elapsedSeconds start (by rw [split]; simp)
            (before.append (.record here .done)) later restAvoids

/-- The aged packet shares with the original what the parser reads at one
record of the run. -/
theorem agedAt_fold (id elapsedSeconds : Nat) {packet : Packet}
    {expected : Question} {answers authority index first position : Nat}
    {all passed rest : List Record} {record : Record} (start : 12 ≤ first)
    (split : all = passed ++ record :: rest)
    (run : RecordRun packet first all packet.length)
    (before : RecordRun packet first passed position)
    (here : RecordAt packet position record)
    (later : RecordRun packet record.end rest packet.length)
    (avoids : ∀ name ∈ replyNames packet expected answers authority index
        position (record :: rest),
      ∀ offset ∈ nameReads packet maxHops name,
        ∀ record ∈ all, ¬ LiveTtl record offset) :
    AgedAt packet (agedPacket packet id elapsedSeconds all)
      expected elapsedSeconds answers authority index position record := by
  have aged : PartlyAged packet (agedPacket packet id elapsedSeconds all) all :=
    partlyAged_fold run (Nat.le_refl _) start (fun _ member => member)
  have behind : 12 ≤ position := Nat.le_trans start before.le
  have headerAfter := here.lt_header
  have inside := here.header_le
  have headEnd : record.header + 10 ≤ record.end := Nat.le_add_right _ _
  have member : record ∈ all := by
    rw [split]
    exact List.mem_append_right _ List.mem_cons_self
  -- the lifetime fields of the other records lie outside this record
  have untouched : ∀ offset, position ≤ offset → offset < record.end →
      ¬ InTtl record offset →
        byteAt (agedPacket packet id elapsedSeconds all) offset =
          byteAt packet offset := by
    intro offset lower upper outside
    apply byteAt_agedPacket (by omega)
    intro other otherMember rewritten
    rw [split] at otherMember
    unfold InTtl at rewritten outside
    rcases List.mem_append.mp otherMember with inPassed | inRest
    · have bounds := before.bounds inPassed
      have otherEnd : other.header + 10 ≤ other.end := Nat.le_add_right _ _
      omega
    · rcases List.mem_cons.mp inRest with rfl | inLater
      · exact outside rewritten
      · have bounds := later.bounds inLater
        omega
  have ownerSame := aged.name_eq behind (avoids position List.mem_cons_self)
  have wordSame : ∀ offset, record.header ≤ offset →
      (offset + 2 ≤ record.header + 4 ∨ offset = record.header + 8) →
      wordAt (agedPacket packet id elapsedSeconds all) offset =
        wordAt packet offset := by
    intro offset lower upper
    refine wordAt_congr_self ?_
    intro place low high
    exact untouched place (by omega) (by omega) (by unfold InTtl; omega)
  have fields := here.fieldsEq
  refine
    { here := here
      agedHere := ⟨?_, ?_, ?_⟩
      names := ?_
      data := ?_
      opt := ?_
      sameLength := aged.sameLength }
  · rw [ownerSame, Record.aged_owner, Record.aged_header]
    exact here.ownerEq
  · rw [Record.aged_owner, Record.aged_header]
    unfold recordOf
    rw [wordSame _ (Nat.le_refl _) (by omega), wordSame _ (by omega) (by omega),
      wordSame _ (by omega) (by omega)]
    by_cases opt : record.type = 41
    · have ttlSame : dwordAt (agedPacket packet id elapsedSeconds all)
          (record.header + 4) = dwordAt packet (record.header + 4) := by
        refine dwordAt_congr_self ?_
        intro place low high
        exact untouched place (by omega) (by omega) (by unfold InTtl; omega)
      rw [ttlSame]
      unfold Record.aged
      rw [if_pos opt]
      exact fields
    · rw [dwordAt_agedPacket run member opt]
      unfold Record.aged
      rw [if_neg opt]
      conv_lhs => rw [fields]
      rw [fields]
      rfl
  · rw [Record.aged_end, aged.sameLength]
    exact here.fits
  · intro name_ listed
    apply aged.name_eq
    · have data : record.data = record.header + 10 := rfl
      unfold dataNames at listed
      split at listed
      · rw [List.mem_singleton.mp listed]
        omega
      · split at listed
        · split at listed
          · rename_i next decode
            have after := name_lt_next decode
            simp only [List.mem_cons, List.not_mem_nil, or_false] at listed
            omega
          · rw [List.mem_singleton.mp listed]
            omega
        · cases listed
    · exact avoids name_ (List.mem_cons_of_mem _
        (List.mem_append_left _ listed))
  · intro offset lower upper
    have data : record.data = record.header + 10 := rfl
    exact untouched offset (by omega) upper (by unfold InTtl; omega)
  · intro opt
    exact untouched _ (by omega) (by omega) (by unfold InTtl; omega)

theorem responseLoop_aged (id elapsedSeconds : Nat) {platform : Platform}
    {packet : Packet} {expected : Question} {answers authority first : Nat}
    {all : List Record} (start : 12 ≤ first)
    (run : RecordRun packet first all packet.length) :
    ∀ {rest passed : List Record} {index position last : Nat}
      {scan scan' result : ResponseScan},
      all = passed ++ rest → RecordRun packet first passed position →
      RecordRun packet position rest packet.length →
      (∀ name ∈ replyNames packet expected answers authority index position rest,
        ∀ offset ∈ nameReads packet maxHops name,
          ∀ record ∈ all, ¬ LiveTtl record offset) →
      SameReply scan scan' →
      repeatFrom (responseStep platform packet expected answers authority)
          rest.length index (position, scan) = .ok (last, result) →
      ∃ result',
        repeatFrom (responseStep platform
            (agedPacket packet id elapsedSeconds all)
            { expected with id := id } answers authority)
          rest.length index (position, scan') = .ok (last, result') ∧
        SameReply result result'
  | [], passed, index, position, last, scan, scan', result, _, _, _, _, same,
      loop => by
      cases loop
      exact ⟨scan', rfl, same⟩
  | record :: rest, passed, index, position, last, scan, scan', result, split,
      before, after, avoids, same, loop => by
      cases after with
      | record here later =>
          rw [List.length_cons, repeatFrom_succ, bind_eq_ok] at loop
          obtain ⟨⟨next, noted⟩, step, loop⟩ := loop
          have shared := agedAt_fold id elapsedSeconds start split run before
            here later avoids
          obtain ⟨rfl, noted', step', sameNoted⟩ :=
            responseStep_aged id shared same step
          obtain ⟨result', loop', sameResult⟩ :=
            responseLoop_aged id elapsedSeconds start run (by rw [split]; simp)
              (before.append (.record here .done)) later
              (fun start_ member => avoids start_
                (List.mem_cons_of_mem _ (List.mem_append_right _ member)))
              sameNoted loop
          refine ⟨result', ?_, sameResult⟩
          rw [List.length_cons, repeatFrom_succ, step', ok_bind]
          exact loop'

theorem agedPacket_run {packet : Packet} {id elapsedSeconds first : Nat}
    {all : List Record} (start : 12 ≤ first) {expected : Question}
    (run : RecordRun packet first all packet.length)
    (avoids : RunAvoidsTtl packet expected first all) :
    RecordRun (agedPacket packet id elapsedSeconds all) first
      (all.map (Record.aged elapsedSeconds)) packet.length := by
  suffices suffix : ∀ {rest passed : List Record} {index position : Nat},
      all = passed ++ rest → RecordRun packet first passed position →
      RecordRun packet position rest packet.length →
      (∀ name ∈ replyNames packet expected (wordAt packet 6) (wordAt packet 8)
          index position rest,
        ∀ offset ∈ nameReads packet maxHops name,
          ∀ record ∈ all, ¬ LiveTtl record offset) →
      RecordRun (agedPacket packet id elapsedSeconds all) position
        (rest.map (Record.aged elapsedSeconds)) packet.length from
    suffix (List.nil_append all).symm .done run avoids
  intro rest
  induction rest with
  | nil =>
      intro passed index position split before after _
      cases after
      exact .done
  | cons record rest ih =>
      intro passed index position split before after avoids
      cases after with
      | record here later =>
          have shared := agedAt_fold id elapsedSeconds start split run before
            here later avoids
          refine .record shared.agedHere ?_
          rw [Record.aged_end]
          exact ih (by rw [split]; simp) (before.append (.record here .done))
            later (fun start_ member => avoids start_
              (List.mem_cons_of_mem _ (List.mem_append_right _ member)))

theorem wordAt_agedPacket_header (id elapsedSeconds : Nat) {packet : Packet}
    {first last offset : Nat} {records : List Record}
    (run : RecordRun packet first records last) (start : 12 ≤ first)
    (behind : 2 ≤ offset) (inside : offset + 2 ≤ 12) :
    wordAt (agedPacket packet id elapsedSeconds records) offset =
      wordAt packet offset := by
  refine wordAt_congr_self ?_
  intro place lower upper
  apply byteAt_agedPacket (by omega)
  intro record member rewritten
  have bounds := run.bounds member
  unfold InTtl at rewritten
  omega

theorem parseQuestion_agedPacket {packet : Packet} {question : Question}
    {last : Nat} {records : List Record} (id elapsedSeconds : Nat)
    (fits : id < 65536)
    (parsed : parseQuestion packet = .ok question)
    (run : RecordRun packet question.end records last) :
    parseQuestion (agedPacket packet id elapsedSeconds records) =
      .ok { question with id := id } := by
  have parts := parseQuestion_eq_ok.mp parsed
  have behind := parts.end_ge
  have header := parts.header
  have before : ∀ record ∈ records, ∀ offset, offset < question.end →
      ¬ InTtl record offset := by
    intro record member offset upper rewritten
    have bounds := run.bounds member
    unfold InTtl at rewritten
    omega
  have headerWord : ∀ offset, 2 ≤ offset → offset + 2 ≤ 12 →
      wordAt (agedPacket packet id elapsedSeconds records) offset =
        wordAt packet offset := fun offset =>
    wordAt_agedPacket_header id elapsedSeconds run (by omega)
  have idSame :
      wordAt (agedPacket packet id elapsedSeconds records) 0 =
        id := by
    have header2 : 2 ≤ packet.length := by omega
    refine Eq.trans ?_ (wordAt_withTransactionId header2 fits)
    refine wordAt_congr_self ?_
    intro place _ upper
    exact byteAt_ageRecords (fun record member =>
      before record member place (by omega)) _
  have agree : AgreeOn (agedPacket packet id elapsedSeconds records) packet
      12 question.end := fun place lower upper =>
    byteAt_agedPacket (by omega) (fun record member =>
      before record member place upper)
  have transferred := parseQuestion_eq_ok.mpr (parts.transfer agree
    (by rw [agedPacket_length]; exact parts.fits)
    (by rw [agedPacket_length]; exact parts.bounded)
    (by rw [headerWord 4 (by omega) (by omega)]; exact parts.single)
    (by rw [headerWord 2 (by omega) (by omega)]; exact parts.standard))
  rwa [idSame, headerWord 2 (by omega) (by omega), ← parts.flagsEq] at transferred

/-- Aging computes the aged packet when no name reads a live lifetime byte. -/
theorem ageDnsResponse_eq {packet : Packet} {question expected : Question}
    {id elapsedSeconds : Nat} {records : List Record}
    (parsed : parseQuestion packet = .ok question)
    (reply : question.flags &&& 0x8000 ≠ 0)
    (run : RecordRun packet question.end records packet.length)
    (count : records.length = recordCount packet)
    (bounded : recordCount packet ≤ 4096)
    (avoids : RunAvoidsTtl packet expected question.end records) :
    ageDnsResponse packet id elapsedSeconds =
      .ok (agedPacket packet id elapsedSeconds records) := by
  have parts := parseQuestion_eq_ok.mp parsed
  have behind := parts.end_ge
  have header := parts.header
  have headerWord : ∀ offset, 2 ≤ offset → offset + 2 ≤ 12 →
      word (withTransactionId packet id) offset = .ok (wordAt packet offset) := by
    intro offset lower upper
    rw [word_of_le (by rw [withTransactionId_length]; omega),
      wordAt_congr_self (fun place low _ => byteAt_withTransactionId (by omega))]
  have countEq : wordAt packet 6 + wordAt packet 8 + wordAt packet 10 =
      records.length := count.symm
  have nothing : records = [] ++ records := rfl
  have loop := ageLoop_total id elapsedSeconds (by omega) nothing .done run avoids
  unfold ageDnsResponse
  rw [parsed, ok_bind, rejectIf_of_not reply, ok_bind]
  dsimp only
  rw [headerWord 6 (by omega) (by omega), ok_bind,
    headerWord 8 (by omega) (by omega), ok_bind,
    headerWord 10 (by omega) (by omega), ok_bind, countEq,
    rejectIf_of_not (by omega), ok_bind]
  unfold agedPacket at loop
  rw [List.foldl_nil] at loop
  rw [loop, ok_bind]
  dsimp only
  rw [rejectIf_of_not (by
    rw [ageRecords_length, withTransactionId_length]
    exact not_not.mpr rfl), ok_bind]
  rfl

/-- An accepted reply whose names read no live lifetime byte keeps its meaning
when it is aged: the same rcode and addresses, lifetimes shortened by the
elapsed time, and every other byte behind the identifier unchanged. -/
theorem ageDnsResponse_preserves {platform : Platform} {packet : Packet}
    {expected : Question} {answer : DnsAnswer}
    (accepted : parseResponse platform packet expected = .ok answer)
    (complete : answer.truncated = false)
    (avoids : NamesAvoidTtl packet expected) (id : UInt16)
    (elapsedSeconds : Nat) :
    ∃ records aged agedAnswer, replyRecords packet = .ok records ∧
      ageDnsResponse packet id.toNat elapsedSeconds = .ok aged ∧
      aged.length = packet.length ∧
      parseResponse platform aged { expected with id := id.toNat } =
        .ok agedAnswer ∧
      agedAnswer.rcode = answer.rcode ∧
      agedAnswer.addresses = answer.addresses ∧
      replyRecords aged = .ok (records.map (Record.aged elapsedSeconds)) ∧
      ∀ offset, 2 ≤ offset → (∀ record ∈ records, ¬ InTtl record offset) →
        byteAt aged offset = byteAt packet offset := by
  obtain ⟨question, scan, reachable, parsed, answers, untruncated, scanned,
    followed, answerEq⟩ := parseResponse_untruncated accepted complete
  have parts := parseQuestion_eq_ok.mp parsed
  have behind : 12 ≤ question.end := by
    have headerEnd := parts.end_ge
    omega
  obtain ⟨records, listed, run, count, sized⟩ :=
    replyRecords_of_scan parsed scanned
  obtain ⟨bounded, loop⟩ := (scanResponse_eq_ok parts.header).mp scanned
  have runAvoids : RunAvoidsTtl packet expected question.end records := by
    apply avoids
    · rw [parsed]
      rfl
    · rw [listed]
      rfl
  have agedParsed :=
    parseQuestion_agedPacket id.toNat elapsedSeconds id.toNat_lt parsed run
  have headerWord : ∀ offset, 2 ≤ offset → offset + 2 ≤ 12 →
      wordAt (agedPacket packet id.toNat elapsedSeconds records) offset =
        wordAt packet offset := fun offset =>
    wordAt_agedPacket_header id.toNat elapsedSeconds run behind
  have countSame : recordCount
      (agedPacket packet id.toNat elapsedSeconds records) =
        recordCount packet := by
    unfold recordCount
    rw [headerWord 6 (by omega) (by omega), headerWord 8 (by omega) (by omega),
      headerWord 10 (by omega) (by omega)]
  rw [← count] at loop
  have nothing : records = [] ++ records := rfl
  obtain ⟨agedScan, agedLoop, same⟩ :=
    responseLoop_aged id.toNat elapsedSeconds behind run nothing .done run
      runAvoids
      (⟨rfl, rfl, rfl, rfl⟩ : SameReply { rcode := question.flags &&& 15 }
        { rcode := question.flags &&& 15 }) loop
  have agedScanned : scanResponse platform
      (agedPacket packet id.toNat elapsedSeconds records)
      { question with id := id.toNat } { expected with id := id.toNat } =
        .ok agedScan := by
    rw [scanResponse_eq_ok (by rw [agedPacket_length]; exact parts.header),
      countSame, headerWord 6 (by omega) (by omega),
      headerWord 8 (by omega) (by omega), agedPacket_length, ← count]
    exact ⟨by omega, agedLoop⟩
  refine ⟨records, agedPacket packet id.toNat elapsedSeconds records,
    finishAnswer { expected with id := id.toNat }
      (decide (question.flags &&& 0x0020 ≠ 0)) agedScan reachable,
    listed, ageDnsResponse_eq parsed answers.1 run count bounded runAvoids,
    agedPacket_length .., ?_, ?_, ?_, ?_,
    fun offset lower far => byteAt_agedPacket lower far⟩
  · have agedAnswers : AnswersQuestion { question with id := id.toNat }
        { expected with id := id.toNat } :=
      ⟨answers.1, rfl, answers.2.2⟩
    unfold parseResponse
    rw [agedParsed, ok_bind, rejectIf_of_not (not_not.mpr agedAnswers), ok_bind]
    dsimp only
    rw [if_neg (not_not.mpr untruncated), agedScanned, ok_bind, same.aliases,
      followed, ok_bind]
    rfl
  · rw [answerEq]
    exact same.rcode
  · rw [answerEq]
    unfold finishAnswer
    rw [same.addresses]
  · unfold replyRecords
    rw [agedParsed, ok_bind, countSame, ← count,
      ← List.length_map (Record.aged elapsedSeconds)]
    apply walkRecords_of_run (agedPacket_run behind run runAvoids)
    intro record member
    obtain ⟨original, inRecords, rfl⟩ := List.mem_map.mp member
    have originalSized := sized original inRecords
    unfold Record.WellSized at originalSized ⊢
    rw [Record.aged_type, Record.aged_length]
    exact originalSized

/-- A reply to the address query for `a` whose records follow the question. -/
def addressReply (answers authority : UInt8) (records : Packet) : Packet :=
  [0, 7, 0x81, 0x80, 0, 1, 0, answers, 0, authority, 0, 0, 1, 97, 0, 0, 1, 0, 1]
    ++ records

def addressQuestion : Question :=
  { id := 7
    flags := 0x0100
    type := 1
    klass := 1
    name := text "a"
    «end» := 19 }

def plainReply : Packet :=
  addressReply 1 0 [0xc0, 12, 0, 1, 0, 1, 0, 0, 0, 60, 0, 4, 10, 0, 0, 1]

theorem ageDnsResponse_preserves_plainReply :
    ∃ answer records aged agedAnswer,
      parseResponse ipv4Platform plainReply addressQuestion = .ok answer ∧
      answer.truncated = false ∧ NamesAvoidTtl plainReply addressQuestion ∧
      replyRecords plainReply = .ok records ∧
      ageDnsResponse plainReply (9 : UInt16).toNat 20 = .ok aged ∧
      aged.length = plainReply.length ∧
      parseResponse ipv4Platform aged
        { addressQuestion with id := (9 : UInt16).toNat } = .ok agedAnswer ∧
      agedAnswer.rcode = answer.rcode ∧
      agedAnswer.addresses = answer.addresses ∧
      replyRecords aged = .ok (records.map (Record.aged 20)) ∧
      ∀ offset, 2 ≤ offset → (∀ record ∈ records, ¬ InTtl record offset) →
        byteAt aged offset = byteAt plainReply offset := by
  have avoids : NamesAvoidTtl plainReply addressQuestion := by decide
  have accepted : parseResponse ipv4Platform plainReply addressQuestion =
      .ok
        { addresses := [text "10.0.0.1"]
          cacheTtl := 60
          cacheable := true } := by
    rfl
  obtain ⟨records, aged, agedAnswer, facts⟩ :=
    ageDnsResponse_preserves accepted rfl avoids 9 20
  exact ⟨_, records, aged, agedAnswer, accepted, rfl, avoids, facts⟩

/-- A reply whose second owner name points into the lifetime of its first
record, where the bytes `1 97 0` spell the question name. -/
def ttlNamedReply : Packet :=
  addressReply 2 0
    [0xc0, 12, 0, 16, 0, 1, 1, 97, 0, 0, 0, 0,
      0xc0, 25, 0, 1, 0, 1, 0, 0, 0, 60, 0, 4, 10, 0, 0, 1]

/-- The parser accepts that reply with its address, and aging it by one second
fails. -/
theorem ageDnsResponse_fails_ttlNamedReply :
    (∃ answer,
      parseResponse ipv4Platform ttlNamedReply addressQuestion = .ok answer ∧
        answer.truncated = false ∧ answer.addresses = [text "10.0.0.1"]) ∧
      ageDnsResponse ttlNamedReply (9 : UInt16).toNat 1 =
        .error (.of "DNS_MALFORMED"
          "Compression pointer must refer to earlier name data") :=
  ⟨⟨_, rfl, rfl, by decide⟩, by rfl⟩

end NativeDNS

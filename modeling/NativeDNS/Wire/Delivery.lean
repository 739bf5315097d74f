/-
What a delivered packet has in common with the stored one.

Aging may fail, and the names of the result may decode differently; but
whenever it succeeds the packet carries the new identifier, asks the same
question, and holds the same run of records with their lifetimes shortened.
-/
import NativeDNS.Wire.AgedReply
import Mathlib.Data.List.Forall2

namespace NativeDNS

open CheckedResult

theorem ageDnsResponse_eq_ok {response aged : Packet}
    {transactionId elapsedSeconds : Nat} :
    ageDnsResponse response transactionId elapsedSeconds = .ok aged ↔
      ∃ question, parseQuestion response = .ok question ∧
        question.flags &&& 0x8000 ≠ 0 ∧ recordCount response ≤ 4096 ∧
        repeatFrom (ageStep elapsedSeconds) (recordCount response) 0
            (question.end, withTransactionId response transactionId) =
          .ok (aged.length, aged) := by
  have headerWord : ∀ {offset : Nat}, 12 ≤ response.length → 2 ≤ offset →
      offset + 2 ≤ 12 → word (withTransactionId response transactionId) offset =
        .ok (wordAt response offset) := by
    intro offset header lower upper
    have same : AgreeOn (withTransactionId response transactionId) response
        2 12 := fun place low _ => byteAt_withTransactionId low
    rw [word_of_le (by rw [withTransactionId_length]; omega),
      wordAt_congr same lower upper]
  unfold ageDnsResponse
  constructor
  · intro returned
    rw [bind_eq_ok] at returned
    obtain ⟨question, parsed, returned⟩ := returned
    have header := (parseQuestion_eq_ok.mp parsed).header
    rw [bind_eq_ok] at returned
    obtain ⟨_, reply, returned⟩ := returned
    dsimp only at returned
    rw [headerWord header (by omega) (by omega), ok_bind,
      headerWord header (by omega) (by omega), ok_bind,
      headerWord header (by omega) (by omega), ok_bind] at returned
    simp only [bind_eq_ok, rejectIf_eq_ok, pure_eq_ok] at returned
    obtain ⟨_, bounded, ⟨position, result⟩, loop, _, atEnd, built⟩ := returned
    cases built
    rw [not_not] at atEnd
    dsimp only at atEnd
    subst atEnd
    exact ⟨question, parsed, rejectIf_eq_ok.mp reply, Nat.le_of_not_lt bounded,
      loop⟩
  · rintro ⟨question, parsed, reply, bounded, loop⟩
    have header := (parseQuestion_eq_ok.mp parsed).header
    unfold recordCount at bounded loop
    rw [parsed, ok_bind, rejectIf_of_not reply, ok_bind]
    dsimp only
    rw [headerWord header (by omega) (by omega), ok_bind,
      headerWord header (by omega) (by omega), ok_bind,
      headerWord header (by omega) (by omega), ok_bind,
      rejectIf_of_not (Nat.not_lt.mpr bounded), ok_bind, loop, ok_bind]
    dsimp only
    rw [rejectIf_of_not (not_not.mpr rfl), ok_bind]
    rfl

theorem ageDnsResponse_nil (transactionId elapsedSeconds : Nat) :
    ∃ error, ageDnsResponse [] transactionId elapsedSeconds = .error error :=
  ⟨_, rfl⟩

theorem ageLoop_before {elapsedSeconds : Nat} :
    ∀ {count index position last : Nat} {result aged : Packet},
      repeatFrom (ageStep elapsedSeconds) count index (position, result) =
        .ok (last, aged) →
      aged.length = result.length ∧
        ∀ offset, offset < position → byteAt aged offset = byteAt result offset
  | 0, index, position, last, result, aged, loop => by
      cases loop
      exact ⟨rfl, fun _ _ => rfl⟩
  | count + 1, index, position, last, result, aged, loop => by
      rw [repeatFrom_succ, bind_eq_ok] at loop
      obtain ⟨⟨next, written⟩, passed, loop⟩ := loop
      obtain ⟨sameLength, before⟩ := ageLoop_before loop
      simp only [ageStep, bind_eq_ok, rejectIf_eq_ok, word_eq_ok] at passed
      obtain ⟨⟨owner, header⟩, decode, type, _, length, _, _, _, rest⟩ := passed
      have after := name_lt_next decode
      dsimp only at rest
      split at rest
      · simp only [bind_eq_ok, dword_eq_ok] at rest
        obtain ⟨ttl, _, built⟩ := rest
        cases built
        refine ⟨by rw [sameLength, putDword_length], ?_⟩
        intro offset below
        rw [before offset (by omega),
          byteAt_putDword_of_outside (Or.inl (by omega))]
      · cases rest
        exact ⟨sameLength, fun offset below => before offset (by omega)⟩

theorem wordAt_ageDnsResponse_id {response aged : Packet}
    {transactionId elapsedSeconds : Nat}
    (delivered : ageDnsResponse response transactionId elapsedSeconds = .ok aged)
    (fits : transactionId < 65536) : wordAt aged 0 = transactionId := by
  obtain ⟨question, parsed, _, _, loop⟩ := ageDnsResponse_eq_ok.mp delivered
  have parts := parseQuestion_eq_ok.mp parsed
  have header := parts.header
  have behind := parts.end_ge
  obtain ⟨_, before⟩ := ageLoop_before loop
  have same : AgreeOn aged (withTransactionId response transactionId) 0 2 :=
    fun offset _ upper => before offset (by omega)
  rw [wordAt_congr same (Nat.le_refl _) (Nat.le_refl _),
    wordAt_withTransactionId (by omega) fits]

/-! ### The records of the delivered packet -/

def answerRecords (packet : Packet) : Checked (List Record) := do
  let records ← replyRecords packet
  pure ((records.take (wordAt packet 6)).filter (fun record => record.type ≠ 41))

theorem answerRecords_ordinary {packet : Packet} {answers : List Record}
    (listed : answerRecords packet = .ok answers) :
    ∀ record ∈ answers, record.type ≠ 41 := by
  simp only [answerRecords, bind_eq_ok, pure_eq_ok] at listed
  obtain ⟨records, _, built⟩ := listed
  cases built
  intro record member
  exact of_decide_eq_true (List.mem_filter.mp member).2

theorem exists_of_forall₂_right {α β : Type} {related : α → β → Prop}
    {left : List α} {right : List β} (matched : List.Forall₂ related left right)
    {second : β} (member : second ∈ right) :
    ∃ first ∈ left, related first second := by
  induction matched with
  | nil =>
      cases member
  | cons here later ih =>
      rcases List.mem_cons.mp member with rfl | inRest
      · exact ⟨_, List.mem_cons_self, here⟩
      · obtain ⟨first, inLeft, same⟩ := ih inRest
        exact ⟨first, List.mem_cons_of_mem _ inLeft, same⟩

private theorem agedRecords_sized {elapsedSeconds : Nat}
    {records agedRecords : List Record}
    (matched : List.Forall₂ (AgedRecord elapsedSeconds) records agedRecords)
    (sized : ∀ record ∈ records, record.WellSized) :
    ∀ aged ∈ agedRecords, aged.WellSized := by
  intro aged member
  obtain ⟨record, inRecords, same⟩ := exists_of_forall₂_right matched member
  have original := sized record inRecords
  unfold Record.WellSized at original ⊢
  rwa [same.typeEq, same.lengthEq]

theorem answerRecords_delivered {response aged : Packet}
    {transactionId elapsedSeconds : Nat} {question : Question}
    {records : List Record}
    (delivered : ageDnsResponse response transactionId elapsedSeconds = .ok aged)
    (fits : transactionId < 65536)
    (parsed : parseQuestion response = .ok question)
    (run : RecordRun response question.end records response.length)
    (count : records.length = recordCount response)
    (sized : ∀ record ∈ records, record.WellSized) :
    ∃ before after, answerRecords response = .ok before ∧
      answerRecords aged = .ok after ∧
      List.Forall₂ (AgedRecord elapsedSeconds) before after := by
  obtain ⟨question', parsed', _, _, loop⟩ := ageDnsResponse_eq_ok.mp delivered
  rw [parsed] at parsed'
  cases parsed'
  have parts := parseQuestion_eq_ok.mp parsed
  have behind := parts.end_ge
  have agree : AgreeOn (withTransactionId response transactionId) response
      question.end response.length :=
    fun offset lower _ => byteAt_withTransactionId (by omega)
  rw [← count] at loop
  obtain ⟨_, agedEq, agedRecords, agedRun, matched⟩ :=
    ageLoop_effect run (by omega) (withTransactionId_length ..) agree loop
  subst agedEq
  have agedParsed :=
    parseQuestion_agedPacket transactionId elapsedSeconds fits parsed run
  have headerWord : ∀ offset, 2 ≤ offset → offset + 2 ≤ 12 →
      wordAt (agedPacket response transactionId elapsedSeconds records) offset =
        wordAt response offset := fun offset =>
    wordAt_agedPacket_header transactionId elapsedSeconds run (by omega)
  have agedSized := agedRecords_sized matched sized
  have sameCount : recordCount
      (agedPacket response transactionId elapsedSeconds records) =
        agedRecords.length := by
    unfold recordCount at count ⊢
    rw [headerWord 6 (by omega) (by omega), headerWord 8 (by omega) (by omega),
      headerWord 10 (by omega) (by omega), ← count, matched.length_eq]
  have listed : replyRecords response = .ok records := by
    unfold replyRecords
    rw [parsed, ok_bind, ← count]
    exact walkRecords_of_run run sized
  have agedListed : replyRecords
      (agedPacket response transactionId elapsedSeconds records) =
        .ok agedRecords := by
    unfold replyRecords
    rw [agedParsed, ok_bind, sameCount]
    exact walkRecords_of_run agedRun agedSized
  have answers : List.Forall₂ (AgedRecord elapsedSeconds)
      ((records.take (wordAt response 6)).filter (fun record => record.type ≠ 41))
      ((agedRecords.take (wordAt response 6)).filter
        (fun record => record.type ≠ 41)) := by
    refine List.rel_filter ?_ (List.forall₂_take (wordAt response 6) matched)
    intro record aged here
    simp only [here.typeEq]
  refine ⟨_, _, ?_, ?_, answers⟩
  · unfold answerRecords
    rw [listed]
    rfl
  · change answerRecords
      (agedPacket response transactionId elapsedSeconds records) = _
    unfold answerRecords
    rw [agedListed, headerWord 6 (by omega) (by omega)]
    rfl

/-! ### The lifetime of a reply -/

theorem scanData_positiveTtl {platform : Platform} {packet : Packet}
    {expected : Question} {answers authority index : Nat} {record : Record}
    {scan noted : ResponseScan}
    (passed : scanData platform packet expected answers authority index record
      scan = .ok noted) : noted.positiveTtl = scan.positiveTtl := by
  unfold scanData at passed
  split at passed
  · cases passed
    rfl
  · split at passed
    · simp only [bind_eq_ok, rejectIf_eq_ok] at passed
      obtain ⟨_, _, _, _, built⟩ := passed
      split at built <;> (cases built; rfl)
    · split at passed
      · simp only [bind_eq_ok, rejectIf_eq_ok] at passed
        obtain ⟨_, _, built⟩ := passed
        cases built
        rfl
      · cases passed
        rfl

theorem scanSoa_positiveTtl {packet : Packet} {expected : Question}
    {answers authority index : Nat} {record : Record}
    {scan noted : ResponseScan}
    (passed : scanSoa packet expected answers authority index record scan =
      .ok noted) : noted.positiveTtl = scan.positiveTtl := by
  unfold scanSoa at passed
  split at passed
  · simp only [bind_eq_ok, rejectIf_eq_ok] at passed
    obtain ⟨_, _, _, _, _, _, _, _, built⟩ := passed
    cases built
    rfl
  · cases passed
    rfl

theorem scanLifetime_positiveTtl (expected : Question) (answers index : Nat)
    (record : Record) (scan : ResponseScan) :
    (scanLifetime expected answers index record scan).positiveTtl =
      if index < answers ∧ record.type ≠ 41 then
        min scan.positiveTtl record.ttl
      else scan.positiveTtl := by
  unfold scanLifetime
  by_cases counted : index < answers ∧ record.type ≠ 41
  · rw [if_pos counted, if_pos counted]
    dsimp only
    split <;> rfl
  · rw [if_neg counted, if_neg counted]
    dsimp only
    split <;> rfl

theorem responseLoop_positiveTtl {platform : Platform} {packet : Packet}
    {expected : Question} {answers authority : Nat} :
    ∀ {records : List Record} {index position last last' : Nat}
      {scan result : ResponseScan},
      RecordRun packet position records last →
      repeatFrom (responseStep platform packet expected answers authority)
        records.length index (position, scan) = .ok (last', result) →
      result.positiveTtl ≤ scan.positiveTtl ∧
        ∀ record ∈ records.take (answers - index), record.type ≠ 41 →
          result.positiveTtl ≤ record.ttl
  | [], index, position, last, last', scan, result, run, loop => by
      cases loop
      exact ⟨Nat.le_refl _, by simp⟩
  | record :: rest, index, position, last, last', scan, result, run, loop => by
      cases run with
      | record here later =>
          rw [List.length_cons, repeatFrom_succ, bind_eq_ok] at loop
          obtain ⟨⟨next, noted⟩, passed, loop⟩ := loop
          obtain ⟨read, data, readOk, dataOk, soaOk, rfl⟩ :=
            responseStep_eq_ok.mp passed
          obtain rfl := (readRecord_eq_ok.mp readOk).1.unique here
          obtain ⟨below, each⟩ := responseLoop_positiveTtl later loop
          have notedTtl := scanSoa_positiveTtl soaOk
          rw [scanLifetime_positiveTtl, scanData_positiveTtl dataOk] at notedTtl
          refine ⟨?_, ?_⟩
          · split at notedTtl <;> omega
          · intro other member ordinary
            by_cases inside : index < answers
            · rw [show answers - index = (answers - (index + 1)) + 1 by omega,
                List.take_succ_cons] at member
              rcases List.mem_cons.mp member with rfl | inRest
              · rw [if_pos ⟨inside, ordinary⟩] at notedTtl
                omega
              · exact each other inRest ordinary
            · rw [Nat.sub_eq_zero_of_le (Nat.le_of_not_lt inside),
                List.take_zero] at member
              cases member

/-- What makes an accepted reply cacheable: its walk, its lifetime, and, unless
the reply is negative, a bound of the lifetime by every answer record. -/
structure CacheableReply (platform : Platform) (packet : Packet)
    (expected : Question) (answer : DnsAnswer) (scan : ResponseScan)
    (answers : List Record) : Prop where
  scanned : ∃ question, parseQuestion packet = .ok question ∧
    scanResponse platform packet question expected = .ok scan
  listed : answerRecords packet = .ok answers
  lifetime : answer.cacheTtl = scan.lifetime
  positive : 0 < answer.cacheTtl
  bounded : scan.negative = false →
    ∀ record ∈ answers, answer.cacheTtl ≤ record.ttl

theorem parseResponse_cacheable {platform : Platform} {packet : Packet}
    {expected : Question} {answer : DnsAnswer}
    (accepted : parseResponse platform packet expected = .ok answer)
    (cacheable : answer.cacheable = true) :
    ∃ scan answers,
      CacheableReply platform packet expected answer scan answers := by
  have complete : answer.truncated = false := by
    simp only [parseResponse, bind_eq_ok, rejectIf_eq_ok] at accepted
    obtain ⟨question, _, _, _, rest⟩ := accepted
    split at rest
    · cases rest
      cases cacheable
    · simp only [bind_eq_ok] at rest
      obtain ⟨_, _, _, _, built⟩ := rest
      cases built
      rfl
  obtain ⟨question, scan, reachable, parsed, _, _, scanned, _, rfl⟩ :=
    parseResponse_untruncated accepted complete
  obtain ⟨records, listed, run, count, _⟩ := replyRecords_of_scan parsed scanned
  obtain ⟨_, loop⟩ :=
    (scanResponse_eq_ok (parseQuestion_eq_ok.mp parsed).header).mp scanned
  rw [← count] at loop
  have flagged : scan.cacheable expected = true := cacheable
  have lifetime : (finishAnswer expected
      (decide (question.flags &&& 0x0020 ≠ 0)) scan reachable).cacheTtl =
        scan.lifetime := if_pos flagged
  refine ⟨scan,
    (records.take (wordAt packet 6)).filter (fun record => record.type ≠ 41),
    ⟨question, parsed, scanned⟩, ?_, lifetime, ?_, ?_⟩
  · unfold answerRecords
    rw [listed]
    rfl
  · rw [lifetime]
    simp only [ResponseScan.cacheable, Bool.and_eq_true, bne_iff_ne] at flagged
    omega
  · intro notNegative record member
    obtain ⟨taken, ordinary⟩ := List.mem_filter.mp member
    have bound := (responseLoop_positiveTtl run loop).2 record taken
      (of_decide_eq_true ordinary)
    rw [lifetime, ResponseScan.lifetime, notNegative, if_neg Bool.false_ne_true]
    exact bound

end NativeDNS

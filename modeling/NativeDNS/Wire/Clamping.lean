/-
Clamping the lifetimes of a reply before it is stored.

The walk that collects the offsets is unguarded; it keeps in step with the
record loop of the parser because both follow the same run of records.
-/
import NativeDNS.Wire.Lifetime
import NativeDNS.Wire.RecordTtl

namespace NativeDNS

open ByteText (text byte)
open CheckedResult

/-- RRSIG, TKEY and TSIG records. -/
def Record.Signs (record : Record) : Prop :=
  record.type = 46 ∨ record.type = 249 ∨ record.type = 250

instance (record : Record) : Decidable record.Signs :=
  inferInstanceAs (Decidable (_ ∨ _))

def clampTtl (minimum maximum ttl : Nat) : Nat :=
  max minimum (min ttl maximum)

theorem clampTtl_bounds {minimum maximum : Nat} (ordered : minimum ≤ maximum)
    (ttl : Nat) :
    minimum ≤ clampTtl minimum maximum ttl ∧
      clampTtl minimum maximum ttl ≤ maximum ∧
      (minimum ≤ ttl → ttl ≤ maximum → clampTtl minimum maximum ttl = ttl) := by
  unfold clampTtl
  omega

def ttlOffsets (records : List Record) : List Nat :=
  (records.filter (fun record => record.type ≠ 41)).map
    (fun record => record.header + 4)

/-! ### The two walks -/

/-- The walk visits the records of the run; a signature ends it without
offsets. -/
theorem clampOffsets_run {packet : Packet} {position last : Nat}
    {records : List Record} (run : RecordRun packet position records last) :
    clampOffsets packet records.length position =
      .ok (if ∃ record ∈ records, record.Signs then none
        else some (ttlOffsets records)) := by
  induction run with
  | done =>
      rfl
  | @record position last record rest here later ih =>
      have inside := here.header_le
      have typeEq : wordAt packet record.header = record.type := by
        rw [here.fieldsEq]
        rfl
      have lengthEq : wordAt packet (record.header + 8) = record.length := by
        rw [here.fieldsEq]
        rfl
      rw [List.length_cons, clampOffsets, here.ownerEq, ok_bind]
      simp only
      rw [word_of_le (by omega), ok_bind, word_of_le (by omega), ok_bind, typeEq,
        lengthEq]
      by_cases signs : record.Signs
      · have found : ∃ other ∈ record :: rest, other.Signs :=
          ⟨record, List.mem_cons_self, signs⟩
        rw [if_pos found]
        unfold Record.Signs at signs
        rw [if_pos signs, pure_eq_ok]
      · have same : (∃ other ∈ record :: rest, other.Signs) ↔
            ∃ other ∈ rest, other.Signs := by
          simp only [List.mem_cons, exists_eq_or_imp, signs, false_or]
        have stepped : clampOffsets packet rest.length
            (record.header + 10 + record.length) = _ := ih
        unfold Record.Signs at signs
        rw [if_neg signs, stepped, ok_bind, pure_eq_ok]
        by_cases later : ∃ other ∈ rest, other.Signs
        · rw [if_pos later, if_pos (same.mpr later)]
          rfl
        · rw [if_neg later, if_neg (fun found => later (same.mp found)),
            Option.map_some]
          unfold ttlOffsets
          by_cases opt : record.type = 41
          · rw [List.filter_cons_of_neg (by simpa using opt),
              if_neg (not_not.mpr opt)]
          · rw [List.filter_cons_of_pos (by simpa using opt), if_pos opt,
              List.map_cons]

theorem clampFold_run {reply : Packet} {position last minimum maximum : Nat}
    {records : List Record} (run : RecordRun reply position records last) :
    ∀ {packet : Packet}, packet.length = reply.length →
      AgreeOn packet reply position reply.length →
        (ttlOffsets records).foldlM
            (fun result offset => do
              let ttl ← dword result offset
              pure (putDword result offset (max minimum (min ttl maximum))))
            packet =
          (.ok (records.foldl (rewriteTtl (clampTtl minimum maximum)) packet) :
            Checked Packet) := by
  induction run with
  | done =>
      intro packet _ _
      rfl
  | @record position last record rest here later ih =>
      intro packet sameLength agree
      have inside := here.header_le
      have start := here.lt_header
      have agreeLater := @rewriteTtl_agree (clampTtl minimum maximum) _ _ _ _
        here agree
      have rest_ := ih (by rw [rewriteTtl_length, sameLength]) agreeLater
      have ttlEq : dwordAt packet (record.header + 4) = record.ttl := by
        rw [dwordAt_congr agree (by omega) (by omega), here.fieldsEq]
        rfl
      rw [List.foldl_cons, ← rest_]
      unfold ttlOffsets rewriteTtl
      by_cases opt : record.type = 41
      · rw [List.filter_cons_of_neg (by simpa using opt), if_pos opt]
      · rw [List.filter_cons_of_pos (by simpa using opt), if_neg opt,
          List.map_cons, List.foldlM_cons, dword_of_le (by omega), ok_bind,
          pure_eq_ok, ok_bind, ttlEq]
        rfl

/-! ### The clamped reply -/

/-- A reply of the same length in which only the lifetimes of the records
differ, each clamped. -/
structure ClampedReply (reply : Packet) (records : List Record)
    (minimum maximum : Nat) (result : Packet) : Prop where
  sameLength : result.length = reply.length
  kept : ∀ offset, (∀ record ∈ records, ¬ InTtl record offset) →
    byteAt result offset = byteAt reply offset
  clamped : ∀ record ∈ records, record.type ≠ 41 →
    dwordAt reply (record.header + 4) = record.ttl ∧
      dwordAt result (record.header + 4) = clampTtl minimum maximum record.ttl

theorem clampedReply_of_run {reply : Packet} {position last : Nat}
    {records : List Record} (run : RecordRun reply position records last)
    {minimum maximum : Nat} (ordered : minimum ≤ maximum)
    (fits : maximum < 4294967296) :
    ClampedReply reply records minimum maximum
      (records.foldl (rewriteTtl (clampTtl minimum maximum)) reply) where
  sameLength := rewriteTtls_length records reply
  kept := fun _ outside => byteAt_rewriteTtls outside reply
  clamped := by
    intro record member rewritten
    refine ⟨(run.fields member).symm, ?_⟩
    refine dwordAt_rewriteTtls run ?_ rfl member rewritten
    intro ttl _
    exact Nat.lt_of_le_of_lt (clampTtl_bounds ordered ttl).2.1 fits

/-- A reply without TC and AD that the parser accepts for its own question:
its records, and the outcome of clamping. -/
theorem clampDnsTtl_records {platform : Platform} {reply : Packet}
    {question : Question} {answer : DnsAnswer} {minimum maximum : Nat}
    (parsed : parseQuestion reply = .ok question)
    (accepted : parseResponse platform reply question = .ok answer)
    (complete : answer.truncated = false)
    (unauthenticated : answer.authenticatedData = false)
    (ordered : minimum ≤ maximum) :
    ∃ records, replyRecords reply = .ok records ∧
      RecordRun reply question.end records reply.length ∧
      records.length = recordCount reply ∧
      clampDnsTtl platform reply minimum maximum =
        .ok (if ∃ record ∈ records, record.Signs then reply
          else records.foldl (rewriteTtl (clampTtl minimum maximum)) reply) := by
  obtain ⟨_, scan, _, parsed', _, _, scanned, _, _⟩ :=
    parseResponse_untruncated accepted complete
  cases parsed.symm.trans parsed'
  obtain ⟨records, walked, run, count, _⟩ := replyRecords_of_scan parsed scanned
  refine ⟨records, walked, run, count, ?_⟩
  have header := (parseQuestion_eq_ok.mp parsed).header
  have offsets := clampOffsets_run run
  rw [count] at offsets
  unfold recordCount at offsets
  unfold clampDnsTtl
  rw [rejectIf_of_not (by omega), ok_bind, parsed, ok_bind, accepted, ok_bind,
    complete, unauthenticated, Bool.or_self, if_neg Bool.false_ne_true,
    word_of_le (by omega), ok_bind, word_of_le (by omega), ok_bind,
    word_of_le (by omega), ok_bind, offsets, ok_bind]
  by_cases signed : ∃ record ∈ records, record.Signs
  · rw [if_pos signed, if_pos signed]
    rfl
  · rw [if_neg signed, if_neg signed]
    exact clampFold_run run rfl (fun _ _ _ => rfl)

/-- A reply that is accepted for its own question comes back unchanged when it
is truncated, authenticated or signed in any section; otherwise only the
lifetimes of its records differ, each clamped between the bounds. -/
theorem clampDnsTtl_exact {platform : Platform} {reply : Packet}
    {question : Question} {answer : DnsAnswer} {minimum maximum : UInt32}
    (parsed : parseQuestion reply = .ok question)
    (accepted : parseResponse platform reply question = .ok answer)
    (ordered : minimum ≤ maximum) :
    ∃ result,
      clampDnsTtl platform reply minimum.toNat maximum.toNat = .ok result ∧
        (question.flags &&& 0x0200 ≠ 0 ∨ question.flags &&& 0x0020 ≠ 0 →
          result = reply) ∧
        (question.flags &&& 0x0200 = 0 →
          ∃ records, replyRecords reply = .ok records ∧
            RecordRun reply question.end records reply.length ∧
            records.length = recordCount reply ∧
            ((∃ record ∈ records, record.Signs) → result = reply) ∧
            (question.flags &&& 0x0020 = 0 →
              (∀ record ∈ records, ¬ record.Signs) →
                ClampedReply reply records minimum.toNat maximum.toNat
                  result)) := by
  have bounds : minimum.toNat ≤ maximum.toNat := UInt32.le_iff_toNat_le.mp ordered
  obtain ⟨cutEq, authenticEq⟩ := parseResponse_bits parsed accepted
  by_cases returned : question.flags &&& 0x0200 ≠ 0 ∨
      question.flags &&& 0x0020 ≠ 0
  · have unchanged : clampDnsTtl platform reply minimum.toNat maximum.toNat =
        .ok reply := by
      have early : (answer.truncated || answer.authenticatedData) = true := by
        rw [cutEq, authenticEq, Bool.or_eq_true, decide_eq_true_eq,
          decide_eq_true_eq]
        exact returned
      unfold clampDnsTtl
      rw [rejectIf_of_not (by omega), ok_bind, parsed, ok_bind, accepted,
        ok_bind, if_pos early, pure_eq_ok]
    refine ⟨reply, unchanged, fun _ => rfl, fun complete => ?_⟩
    obtain ⟨_, scan, _, parsed', _, _, scanned, _, _⟩ :=
      parseResponse_untruncated accepted
        (by rw [cutEq]; exact decide_eq_false (not_not.mpr complete))
    cases parsed.symm.trans parsed'
    obtain ⟨records, walked, run, count, _⟩ :=
      replyRecords_of_scan parsed scanned
    refine ⟨records, walked, run, count, fun _ => rfl, fun plain _ => ?_⟩
    rcases returned with cut | authentic
    · exact absurd complete cut
    · exact absurd plain authentic
  · rw [not_or, not_not, not_not] at returned
    obtain ⟨complete, plain⟩ := returned
    obtain ⟨records, walked, run, count, clamped⟩ :=
      clampDnsTtl_records parsed accepted
        (by rw [cutEq]; exact decide_eq_false (not_not.mpr complete))
        (by rw [authenticEq]; exact decide_eq_false (not_not.mpr plain)) bounds
    refine ⟨_, clamped, ?_, fun _ => ⟨records, walked, run, count, ?_, ?_⟩⟩
    · rintro (cut | authentic)
      · exact absurd complete cut
      · exact absurd plain authentic
    · intro signed
      rw [if_pos signed]
    · intro _ unsigned
      have none : ¬ ∃ record ∈ records, record.Signs := by
        rintro ⟨record, member, signs⟩
        exact unsigned record member signs
      rw [if_neg none]
      exact clampedReply_of_run run bounds maximum.toNat_lt

/-- An answer of ten seconds, an authority of eighteen hours and an OPT
record. -/
def mixedReply : Packet :=
  [0, 7, 0x81, 0x80, 0, 1, 0, 1, 0, 1, 0, 1, 1, 97, 0, 0, 1, 0, 1] ++
    [0xc0, 12, 0, 1, 0, 1, 0, 0, 0, 10, 0, 4, 10, 0, 0, 1] ++
    [0xc0, 12, 0, 2, 0, 1, 0, 1, 0, 0, 0, 2, 0xc0, 12] ++
    [0, 0, 41, 4, 0, 0, 0, 128, 0, 0, 0]

theorem clampDnsTtl_exact_mixed :
    ∃ result, clampDnsTtl ipv4Platform mixedReply (30 : UInt32).toNat
        (3600 : UInt32).toNat = .ok result ∧
      (0x8180 &&& 0x0200 ≠ 0 ∨ 0x8180 &&& 0x0020 ≠ 0 → result = mixedReply) ∧
      (0x8180 &&& 0x0200 = 0 →
        ∃ records, replyRecords mixedReply = .ok records ∧
          RecordRun mixedReply 19 records mixedReply.length ∧
          records.length = recordCount mixedReply ∧
          ((∃ record ∈ records, record.Signs) → result = mixedReply) ∧
          (0x8180 &&& 0x0020 = 0 → (∀ record ∈ records, ¬ record.Signs) →
            ClampedReply mixedReply records (30 : UInt32).toNat
              (3600 : UInt32).toNat result)) := by
  have parsed : parseQuestion mixedReply =
      .ok
        { id := 7
          flags := 0x8180
          type := 1
          klass := 1
          name := text "a"
          «end» := 19 } := by
    rfl
  have accepted : parseResponse ipv4Platform mixedReply
      { id := 7
        flags := 0x8180
        type := 1
        klass := 1
        name := text "a"
        «end» := 19 } =
      .ok
        { addresses := [text "10.0.0.1"]
          cacheTtl := 10
          cacheable := true } := by
    rfl
  exact clampDnsTtl_exact parsed accepted (by decide)

end NativeDNS

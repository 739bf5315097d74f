/-
The response parser.

The parser walks all records once, collecting the addresses and aliases of the
answer section and the two lifetimes, and then follows the aliases from the
question name.
-/
import NativeDNS.Wire.Records

namespace NativeDNS

open ByteText (text byte)
open CheckedResult

structure DnsAnswer where
  rcode : Nat := 0
  truncated : Bool := false
  authenticatedData : Bool := false
  addresses : List Bytes := []
  cacheTtl : Nat := 0
  cacheable : Bool := false
  deriving DecidableEq

def noTtl : Nat := 4294967295

structure ResponseScan where
  rcode : Nat := 0
  /-- Owner and text of every address record of the expected type. -/
  addresses : List (Bytes × Bytes) := []
  aliases : OrderedMap Bytes Bytes := OrderedMap.empty
  optSeen : Bool := false
  requestedAnswer : Bool := false
  transactionSigned : Bool := false
  positiveTtl : Nat := noTtl
  negativeTtl : Nat := noTtl

def malformed (message : String) : Error :=
  .of "DNS_MALFORMED" message

/-- The fixed part of a record, with the length checks that come before its
data is looked at. -/
def readRecord (packet : Packet) (position : Nat) : Checked Record := do
  let (owner, header) ← name packet position
  let type ← word packet header
  let klass ← word packet (header + 2)
  let length ← word packet (header + 8)
  let ttl ← dword packet (header + 4)
  rejectIf (packet.length - header < 10) (malformed "Short DNS record header")
  rejectIf (length > packet.length - (header + 10))
    (malformed "Short DNS record data")
  rejectIf ((type = 1 ∧ length ≠ 4) ∨ (type = 28 ∧ length ≠ 16))
    (malformed "Invalid address record length")
  pure
    { owner := owner
      header := header
      type := type
      klass := klass
      ttl := ttl
      length := length }

/-- Whether a record is an address of the answer section that was asked
for. -/
def isRequestedAddress (expected : Question) (answers index : Nat)
    (record : Record) : Bool :=
  (decide (record.type = 1) || decide (record.type = 28)) &&
    decide (record.klass = 1) && decide (index < answers) &&
    decide (record.type = expected.type)

def isNameRecord (record : Record) : Bool :=
  decide (record.type = 5) || decide (record.type = 2) ||
    decide (record.type = 12)

def scanData (platform : Platform) (packet : Packet) (expected : Question)
    (answers authority index : Nat) (record : Record) (scan : ResponseScan) :
    Checked ResponseScan :=
  if isRequestedAddress expected answers index record then
    pure
      { scan with
        addresses := scan.addresses ++
          [(record.owner,
            platform.formatIp (slice packet record.data record.length)
              (decide (record.type = 28)))] }
  else if isNameRecord record then do
    let (target, next) ← name packet record.data
    rejectIf (next ≠ record.data + record.length)
      (malformed "Invalid name record length")
    if record.type = 5 ∧ record.klass = 1 ∧ index < answers then
      pure { scan with aliases := scan.aliases.insert record.owner target }
    else pure scan
  else if record.type = 41 then do
    rejectIf
      (scan.optSeen = true ∨ record.owner ≠ [] ∨ index < answers + authority)
      (malformed "Invalid OPT record")
    pure
      { scan with
        optSeen := true
        rcode := scan.rcode |||
          (byteAt packet (record.header + 4)).toNat <<< 4 }
  else pure scan

def scanLifetime (expected : Question) (answers index : Nat) (record : Record)
    (scan : ResponseScan) : ResponseScan :=
  let scan :=
    if index < answers ∧ record.type ≠ 41 then
      { scan with
        positiveTtl := min scan.positiveTtl record.ttl
        requestedAnswer := scan.requestedAnswer ||
          (decide (record.type = expected.type) &&
            decide (record.klass = expected.klass)) }
    else scan
  if record.type = 249 ∨ record.type = 250 then
    { scan with transactionSigned := true }
  else scan

/-- Whether a record is the authority's SOA that gives a negative lifetime. -/
def isNegativeSoa (expected : Question) (answers authority index : Nat)
    (record : Record) : Bool :=
  decide (record.type = 6) && decide (answers ≤ index) &&
    decide (index < answers + authority) &&
    decide (record.klass = expected.klass)

def scanSoa (packet : Packet) (expected : Question)
    (answers authority index : Nat) (record : Record) (scan : ResponseScan) :
    Checked ResponseScan :=
  if isNegativeSoa expected answers authority index record then do
    let (_, soa) ← name packet record.data
    let (_, soa) ← name packet soa
    rejectIf
      (soa > record.data + record.length ∨
        record.data + record.length - soa ≠ 20)
      (malformed "Invalid SOA record length")
    let minimum ← dword packet (soa + 16)
    pure
      { scan with
        negativeTtl := min scan.negativeTtl (min record.ttl minimum) }
  else pure scan

def responseStep (platform : Platform) (packet : Packet) (expected : Question)
    (answers authority index : Nat) :
    Nat × ResponseScan → Checked (Nat × ResponseScan)
  | (position, scan) => do
      let record ← readRecord packet position
      let scan ←
        scanData platform packet expected answers authority index record scan
      let scan := scanLifetime expected answers index record scan
      let scan ← scanSoa packet expected answers authority index record scan
      pure (record.end, scan)

/-- The alias loop; one more pass than there are aliases is enough. -/
def followAliases (aliases : OrderedMap Bytes Bytes) :
    Nat → Bytes → List Bytes → Checked (List Bytes)
  | 0, _, reachable => pure reachable
  | left + 1, current, reachable =>
      match aliases.find? current with
      | none => pure reachable
      | some target => do
          rejectIf (target ∈ reachable) (malformed "CNAME cycle")
          followAliases aliases left target (target :: reachable)

/-- A reply whose lifetime comes from the SOA record: NXDOMAIN, or NOERROR
without a requested answer. -/
def ResponseScan.negative (scan : ResponseScan) : Bool :=
  scan.rcode == 3 ||
    (scan.rcode == 0 && !scan.requestedAnswer && scan.negativeTtl != noTtl)

def ResponseScan.lifetime (scan : ResponseScan) : Nat :=
  if scan.negative then scan.negativeTtl else scan.positiveTtl

def ResponseScan.cacheable (expected : Question) (scan : ResponseScan) : Bool :=
  !scan.transactionSigned && expected.type != 251 && expected.type != 252 &&
    (scan.rcode == 0 || scan.rcode == 3) && scan.lifetime != noTtl &&
    scan.lifetime != 0

def finishAnswer (expected : Question) (authenticatedData : Bool)
    (scan : ResponseScan) (reachable : List Bytes) : DnsAnswer :=
  { rcode := scan.rcode
    authenticatedData := authenticatedData
    addresses :=
      (scan.addresses.filter (fun address => address.1 ∈ reachable)).map (·.2)
    cacheTtl := if scan.cacheable expected then scan.lifetime else 0
    cacheable := scan.cacheable expected }

/-- Whether a decoded question is the reply to the expected one. -/
def AnswersQuestion (question expected : Question) : Prop :=
  question.flags &&& 0x8000 ≠ 0 ∧ question.id = expected.id ∧
    question.name = expected.name ∧ question.type = expected.type ∧
    question.klass = expected.klass

instance (question expected : Question) :
    Decidable (AnswersQuestion question expected) :=
  inferInstanceAs (Decidable (_ ∧ _))

/-- The walk over all records of an untruncated reply. -/
def scanResponse (platform : Platform) (packet : Packet)
    (question expected : Question) : Checked ResponseScan := do
  let answers ← word packet 6
  let authority ← word packet 8
  let additional ← word packet 10
  rejectIf (answers + authority + additional > 4096)
    (malformed "Too many DNS records")
  let (position, scan) ←
    repeatFrom (responseStep platform packet expected answers authority)
      (answers + authority + additional) 0
      (question.end, { rcode := question.flags &&& 15 })
  rejectIf (position ≠ packet.length)
    (malformed "Unexpected bytes after DNS records")
  pure scan

def parseResponse (platform : Platform) (packet : Packet)
    (expected : Question) : Checked DnsAnswer := do
  let question ← parseQuestion packet
  rejectIf (¬ AnswersQuestion question expected)
    (.of "DNS_MISMATCH" "DNS response does not match request")
  let authenticatedData := decide (question.flags &&& 0x0020 ≠ 0)
  if question.flags &&& 0x0200 ≠ 0 then
    pure
      { rcode := question.flags &&& 15
        truncated := true
        authenticatedData := authenticatedData }
  else do
    let scan ← scanResponse platform packet question expected
    let reachable ←
      followAliases scan.aliases (scan.aliases.size + 1) expected.name
        [expected.name]
    pure (finishAnswer expected authenticatedData scan reachable)

/-! ### What the walk establishes -/

def Record.WellSized (record : Record) : Prop :=
  ¬ ((record.type = 1 ∧ record.length ≠ 4) ∨
    (record.type = 28 ∧ record.length ≠ 16))

theorem readRecord_eq_ok {packet : Packet} {position : Nat} {record : Record} :
    readRecord packet position = .ok record ↔
      RecordAt packet position record ∧ record.WellSized := by
  constructor
  · intro read
    simp only [readRecord, bind_eq_ok, rejectIf_eq_ok, pure_eq_ok, word_eq_ok,
      dword_eq_ok] at read
    obtain ⟨⟨owner, header⟩, ownerEq, type, ⟨_, typeEq⟩, klass, ⟨_, klassEq⟩,
      length, ⟨within, lengthEq⟩, ttl, ⟨_, ttlEq⟩, _, _, _, fits, _, addresses,
      built⟩ := read
    cases built
    subst typeEq klassEq lengthEq ttlEq
    refine ⟨⟨ownerEq, rfl, ?_⟩, addresses⟩
    dsimp only [Record.end] at within fits ⊢
    omega
  · rintro ⟨here, addresses⟩
    have inside := here.header_le
    have fits := here.fits
    have fields := here.fieldsEq
    unfold Record.end at fits
    simp only [readRecord, bind_eq_ok, rejectIf_eq_ok, pure_eq_ok, word_eq_ok,
      dword_eq_ok]
    have typeEq : record.type = wordAt packet record.header := by
      rw [fields]
      rfl
    have lengthEq : record.length = wordAt packet (record.header + 8) := by
      rw [fields]
      rfl
    unfold Record.WellSized at addresses
    rw [typeEq, lengthEq] at addresses
    refine ⟨(record.owner, record.header), here.ownerEq, _, ⟨by omega, rfl⟩, _,
      ⟨by omega, rfl⟩, _, ⟨by omega, rfl⟩, _, ⟨by omega, rfl⟩, (), by omega, (),
      ?_, (), addresses, ?_⟩
    · rw [← lengthEq]
      omega
    · rw [Except.ok.injEq]
      exact fields.symm

theorem responseStep_eq_ok {platform : Platform} {packet : Packet}
    {expected : Question} {answers authority index position next : Nat}
    {scan result : ResponseScan} :
    responseStep platform packet expected answers authority index
        (position, scan) = .ok (next, result) ↔
      ∃ record noted, readRecord packet position = .ok record ∧
        scanData platform packet expected answers authority index record scan =
          .ok noted ∧
        scanSoa packet expected answers authority index record
          (scanLifetime expected answers index record noted) = .ok result ∧
        next = record.end := by
  simp only [responseStep, bind_eq_ok, pure_eq_ok, Except.ok.injEq,
    Prod.mk.injEq]
  constructor
  · rintro ⟨record, read, noted, data, final, soa, nextEq, rfl⟩
    exact ⟨record, noted, read, data, soa, nextEq.symm⟩
  · rintro ⟨record, noted, read, data, soa, rfl⟩
    exact ⟨record, read, noted, data, result, soa, rfl, rfl⟩

theorem responseLoop_run {platform : Platform} {packet : Packet}
    {expected : Question} {answers authority : Nat} :
    ∀ {count index position last : Nat} {scan result : ResponseScan},
      repeatFrom (responseStep platform packet expected answers authority)
        count index (position, scan) = .ok (last, result) →
      ∃ records, RecordRun packet position records last ∧
        records.length = count ∧ ∀ record ∈ records, record.WellSized
  | 0, index, position, last, scan, result, loop => by
      cases loop
      exact ⟨[], .done, rfl, by simp⟩
  | count + 1, index, position, last, scan, result, loop => by
      rw [repeatFrom_succ, bind_eq_ok] at loop
      obtain ⟨⟨next, noted⟩, passed, loop⟩ := loop
      obtain ⟨record, _, read, _, _, rfl⟩ := responseStep_eq_ok.mp passed
      obtain ⟨here, sized⟩ := readRecord_eq_ok.mp read
      obtain ⟨records, run, countEq, restSized⟩ := responseLoop_run loop
      refine ⟨record :: records, .record here run, by
        rw [List.length_cons, countEq], ?_⟩
      intro other member
      rcases List.mem_cons.mp member with rfl | inRest
      · exact sized
      · exact restSized other inRest

theorem scanResponse_eq_ok {platform : Platform} {packet : Packet}
    {question expected : Question} {scan : ResponseScan}
    (header : 12 ≤ packet.length) :
    scanResponse platform packet question expected = .ok scan ↔
      recordCount packet ≤ 4096 ∧
        repeatFrom
          (responseStep platform packet expected (wordAt packet 6)
            (wordAt packet 8))
          (recordCount packet) 0
          (question.end, { rcode := question.flags &&& 15 }) =
            .ok (packet.length, scan) := by
  unfold scanResponse
  rw [word_of_le (by omega), ok_bind, word_of_le (by omega), ok_bind,
    word_of_le (by omega), ok_bind]
  simp only [bind_eq_ok, rejectIf_eq_ok, pure_eq_ok]
  constructor
  · rintro ⟨_, count, ⟨position, found⟩, loop, _, atEnd, built⟩
    cases built
    rw [not_not] at atEnd
    subst atEnd
    exact ⟨Nat.le_of_not_lt count, loop⟩
  · rintro ⟨count, loop⟩
    exact ⟨(), Nat.not_lt.mpr count, (packet.length, scan), loop, (),
      by simp, rfl⟩

theorem parseResponse_untruncated {platform : Platform} {packet : Packet}
    {expected : Question} {answer : DnsAnswer}
    (accepted : parseResponse platform packet expected = .ok answer)
    (complete : answer.truncated = false) :
    ∃ question scan reachable, parseQuestion packet = .ok question ∧
      AnswersQuestion question expected ∧ question.flags &&& 0x0200 = 0 ∧
      scanResponse platform packet question expected = .ok scan ∧
      followAliases scan.aliases (scan.aliases.size + 1) expected.name
        [expected.name] = .ok reachable ∧
      answer = finishAnswer expected (decide (question.flags &&& 0x0020 ≠ 0))
        scan reachable := by
  simp only [parseResponse, bind_eq_ok, rejectIf_eq_ok, not_not] at accepted
  obtain ⟨question, questionOk, _, answers, accepted⟩ := accepted
  by_cases truncated : question.flags &&& 0x0200 ≠ 0
  · rw [if_pos truncated] at accepted
    cases accepted
    cases complete
  · rw [if_neg truncated] at accepted
    simp only [bind_eq_ok, pure_eq_ok, Except.ok.injEq] at accepted
    obtain ⟨scan, scanned, reachable, followed, built⟩ := accepted
    exact ⟨question, scan, reachable, questionOk, answers,
      not_not.mp truncated, scanned, followed, built.symm⟩

theorem parseResponse_bits {platform : Platform} {reply : Packet}
    {question expected : Question} {answer : DnsAnswer}
    (parsed : parseQuestion reply = .ok question)
    (accepted : parseResponse platform reply expected = .ok answer) :
    answer.truncated = decide (question.flags &&& 0x0200 ≠ 0) ∧
      answer.authenticatedData = decide (question.flags &&& 0x0020 ≠ 0) := by
  unfold parseResponse at accepted
  rw [parsed, ok_bind, bind_eq_ok] at accepted
  obtain ⟨_, _, accepted⟩ := accepted
  simp only at accepted
  by_cases cut : question.flags &&& 0x0200 ≠ 0
  · rw [if_pos cut] at accepted
    cases accepted
    exact ⟨(decide_eq_true cut).symm, rfl⟩
  · rw [if_neg cut] at accepted
    simp only [bind_eq_ok, pure_eq_ok, Except.ok.injEq] at accepted
    obtain ⟨scan, _, reachable, _, built⟩ := accepted
    rw [← built]
    exact ⟨(decide_eq_false cut).symm, rfl⟩

/-! ### The records of a reply -/

def walkRecords (packet : Packet) : Nat → Nat → Checked (List Record)
  | 0, _ => pure []
  | left + 1, position => do
      let record ← readRecord packet position
      let rest ← walkRecords packet left record.end
      pure (record :: rest)

def replyRecords (packet : Packet) : Checked (List Record) := do
  let question ← parseQuestion packet
  walkRecords packet (recordCount packet) question.end

theorem walkRecords_of_run {packet : Packet} {position last : Nat}
    {records : List Record} (run : RecordRun packet position records last)
    (sized : ∀ record ∈ records, record.WellSized) :
    walkRecords packet records.length position = .ok records := by
  induction run with
  | done =>
      rfl
  | @record position last record rest here later ih =>
      rw [List.length_cons, walkRecords,
        readRecord_eq_ok.mpr ⟨here, sized record List.mem_cons_self⟩, ok_bind,
        ih (fun other inRest => sized other (List.mem_cons_of_mem record inRest))]
      rfl

theorem replyRecords_of_scan {platform : Platform} {packet : Packet}
    {question expected : Question} {scan : ResponseScan}
    (parsed : parseQuestion packet = .ok question)
    (scanned : scanResponse platform packet question expected = .ok scan) :
    ∃ records, replyRecords packet = .ok records ∧
      RecordRun packet question.end records packet.length ∧
      records.length = recordCount packet ∧
      ∀ record ∈ records, record.WellSized := by
  obtain ⟨_, loop⟩ :=
    (scanResponse_eq_ok (parseQuestion_eq_ok.mp parsed).header).mp scanned
  obtain ⟨records, run, count, sized⟩ := responseLoop_run loop
  refine ⟨records, ?_, run, count, sized⟩
  unfold replyRecords
  rw [parsed, ok_bind, ← count]
  exact walkRecords_of_run run sized

end NativeDNS

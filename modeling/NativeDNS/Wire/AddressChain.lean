/-
The addresses of an answer.

The record loop notes the addresses and aliases of the answer section in one
pass, and a bounded loop then follows the aliases from the question name.
Together they return the addresses whose owners are on the alias chain,
wherever in the section its records stand.
-/
import NativeDNS.Library.Chain
import NativeDNS.Wire.Response

namespace NativeDNS

open ByteText (text byte)
open CheckedResult
open Chain (OnChain Cyclic Followed)

/-- What address extraction reads of a record: its owner, type and class, its
data, and the name the data decodes to. -/
structure AnswerRecord where
  owner : Bytes
  type : Nat
  klass : Nat
  data : Packet
  target : Option Bytes
  deriving DecidableEq

def answerRecord (packet : Packet) (record : Record) : AnswerRecord :=
  { owner := record.owner
    type := record.type
    klass := record.klass
    data := slice packet record.data record.length
    target := (name packet record.data).toOption.map (·.1) }

def answerSection (packet : Packet) (records : List Record) :
    List AnswerRecord :=
  (records.take (wordAt packet 6)).map (answerRecord packet)

def AnswerRecord.IsAlias (record : AnswerRecord) : Prop :=
  record.type = 5 ∧ record.klass = 1

instance (record : AnswerRecord) : Decidable record.IsAlias :=
  inferInstanceAs (Decidable (_ ∧ _))

def aliasTargets (answers : List AnswerRecord) (owner : Bytes) : List Bytes :=
  answers.filterMap (fun record =>
    if record.IsAlias ∧ record.owner = owner then record.target else none)

/-- The last CNAME of an owner wins. -/
def aliasOf (answers : List AnswerRecord) (owner : Bytes) : Option Bytes :=
  (aliasTargets answers owner).getLast?

def AnswerRecord.Requested (expected : Question) (record : AnswerRecord) :
    Prop :=
  (record.type = 1 ∨ record.type = 28) ∧ record.type = expected.type ∧
    record.klass = 1

instance (expected : Question) (record : AnswerRecord) :
    Decidable (record.Requested expected) :=
  inferInstanceAs (Decidable (_ ∧ _))

def AnswerRecord.address (platform : Platform) (record : AnswerRecord) :
    Bytes :=
  platform.formatIp record.data (decide (record.type = 28))

/-- The requested addresses of the named owners, in the order of the
section. -/
def addressesOf (platform : Platform) (expected : Question)
    (answers : List AnswerRecord) (owners : List Bytes) : List Bytes :=
  (answers.filter (fun record =>
    record.Requested expected ∧ record.owner ∈ owners)).map
    (AnswerRecord.address platform)

/-! ### The alias loop -/

/-- The loop either returns the chain or finds it cyclic; its bound is never
what ends it. -/
theorem followAliases_outcome {aliases : OrderedMap Bytes Bytes}
    {start : Bytes} :
    ∀ {left : Nat} {current : Bytes} {seen : List Bytes},
      Followed aliases.find? start current seen →
      left + seen.length = aliases.size + 2 →
        (∃ reachable, followAliases aliases left current seen = .ok reachable ∧
            (∀ owner, owner ∈ reachable ↔
              OnChain aliases.find? start owner) ∧
            ¬ Cyclic aliases.find? start) ∨
          followAliases aliases left current seen =
              .error (malformed "CNAME cycle") ∧
            Cyclic aliases.find? start := by
  intro left
  induction left with
  | zero =>
      intro current seen followed passes
      have covers : ∀ owner next, aliases.find? owner = some next →
          owner ∈ aliases.entries.map Prod.fst := by
        intro owner next found
        exact List.mem_map_of_mem (OrderedMap.find?_eq_some_iff.mp found)
      have bound := followed.length_le covers
      rw [List.length_map] at bound
      unfold OrderedMap.size at passes
      omega
  | succ left ih =>
      intro current seen followed passes
      unfold followAliases
      cases found : aliases.find? current with
      | none =>
          exact .inl ⟨seen, rfl, followed.complete found, followed.acyclic found⟩
      | some target =>
          by_cases again : target ∈ seen
          · right
            refine ⟨?_, followed.cyclic found again⟩
            simp only [rejectIf_of again]
            rfl
          · simp only [rejectIf_of_not again, ok_bind]
            apply ih (followed.next found again)
            rw [List.length_cons]
            omega

/-! ### What the record loop notes -/

def bindAlias (aliases : OrderedMap Bytes Bytes) (record : AnswerRecord) :
    OrderedMap Bytes Bytes :=
  if record.IsAlias then
    match record.target with
    | some target => aliases.insert record.owner target
    | none => aliases
  else aliases

def ownedAddresses (platform : Platform) (expected : Question)
    (answers : List AnswerRecord) : List (Bytes × Bytes) :=
  (answers.filter (fun record => record.Requested expected)).map
    (fun record => (record.owner, record.address platform))

def answerAt (packet : Packet) (answers index : Nat) (record : Record) :
    List AnswerRecord :=
  if index < answers then [answerRecord packet record] else []

/-- The scan after some records of the answer section. -/
structure Noted (platform : Platform) (expected : Question)
    (answers : List AnswerRecord) (scan result : ResponseScan) : Prop where
  addresses : result.addresses =
    scan.addresses ++ ownedAddresses platform expected answers
  aliases : result.aliases = answers.foldl bindAlias scan.aliases

theorem Noted.none (platform : Platform) (expected : Question)
    (scan : ResponseScan) : Noted platform expected [] scan scan :=
  ⟨(List.append_nil _).symm, rfl⟩

theorem Noted.append {platform : Platform} {expected : Question}
    {answers others : List AnswerRecord} {scan middle result : ResponseScan}
    (first : Noted platform expected answers scan middle)
    (second : Noted platform expected others middle result) :
    Noted platform expected (answers ++ others) scan result := by
  constructor
  · rw [second.addresses, first.addresses, List.append_assoc]
    unfold ownedAddresses
    rw [List.filter_append, List.map_append]
  · rw [second.aliases, first.aliases, List.foldl_append]

/-- A record of the answer section that is neither asked for nor an alias
leaves nothing. -/
private theorem noted_other {platform : Platform} {packet : Packet}
    {expected : Question} {answers index : Nat} {record : Record}
    {scan result : ResponseScan}
    (notRequested : index < answers →
      ¬ (answerRecord packet record).Requested expected)
    (notAlias : index < answers → ¬ (answerRecord packet record).IsAlias)
    (addresses : result.addresses = scan.addresses)
    (aliases : result.aliases = scan.aliases) :
    Noted platform expected (answerAt packet answers index record) scan
      result := by
  unfold answerAt
  by_cases inside : index < answers
  · rw [if_pos inside]
    refine ⟨?_, ?_⟩
    · rw [ownedAddresses, List.filter_cons_of_neg
        (by simpa using notRequested inside)]
      simpa using addresses
    · rw [List.foldl_cons, List.foldl_nil, bindAlias,
        if_neg (notAlias inside), aliases]
  · rw [if_neg inside]
    exact ⟨by rw [addresses]; exact (List.append_nil _).symm, aliases⟩

theorem scanData_noted {platform : Platform} {packet : Packet}
    {expected : Question} {answers authority index : Nat} {record : Record}
    {scan noted : ResponseScan}
    (passed : scanData platform packet expected answers authority index record
      scan = .ok noted) :
    Noted platform expected (answerAt packet answers index record) scan
      noted := by
  unfold scanData at passed
  by_cases requested : isRequestedAddress expected answers index record = true
  · rw [if_pos requested] at passed
    cases passed
    simp only [isRequestedAddress, Bool.and_eq_true, Bool.or_eq_true,
      decide_eq_true_eq] at requested
    obtain ⟨⟨⟨address, inClass⟩, inside⟩, asked⟩ := requested
    have isRequested : (answerRecord packet record).Requested expected :=
      ⟨address, asked, inClass⟩
    have notAlias : ¬ (answerRecord packet record).IsAlias := by
      rintro ⟨isCname, _⟩
      have same : record.type = 5 := isCname
      omega
    unfold answerAt
    rw [if_pos inside]
    refine ⟨?_, ?_⟩
    · rw [ownedAddresses, List.filter_cons_of_pos (by simpa using isRequested)]
      rfl
    · rw [List.foldl_cons, List.foldl_nil, bindAlias, if_neg notAlias]
  have notRequested : index < answers →
      ¬ (answerRecord packet record).Requested expected := by
    rintro inside ⟨address, asked, inClass⟩
    apply requested
    simp only [isRequestedAddress, Bool.and_eq_true, Bool.or_eq_true,
      decide_eq_true_eq]
    exact ⟨⟨⟨address, inClass⟩, inside⟩, asked⟩
  rw [if_neg requested] at passed
  by_cases named : isNameRecord record = true
  · rw [if_pos named] at passed
    simp only [bind_eq_ok, rejectIf_eq_ok] at passed
    obtain ⟨⟨target, next⟩, decode, _, _, noted_⟩ := passed
    by_cases isAlias : record.type = 5 ∧ record.klass = 1 ∧ index < answers
    · rw [if_pos isAlias] at noted_
      cases noted_
      obtain ⟨isCname, inClass, inside⟩ := isAlias
      have aliased : (answerRecord packet record).IsAlias := ⟨isCname, inClass⟩
      have targetEq : (answerRecord packet record).target = some target := by
        unfold answerRecord
        simp only [decode]
        rfl
      unfold answerAt
      rw [if_pos inside]
      refine ⟨?_, ?_⟩
      · rw [ownedAddresses, List.filter_cons_of_neg
          (by simpa using notRequested inside)]
        exact (List.append_nil _).symm
      · rw [List.foldl_cons, List.foldl_nil, bindAlias, if_pos aliased,
          targetEq]
        rfl
    · rw [if_neg isAlias] at noted_
      cases noted_
      exact noted_other notRequested
        (fun inside aliased => isAlias ⟨aliased.1, aliased.2, inside⟩) rfl rfl
  have notAlias : index < answers → ¬ (answerRecord packet record).IsAlias := by
    rintro _ ⟨isCname, _⟩
    apply named
    have same : record.type = 5 := isCname
    simp only [isNameRecord, same, decide_true, Bool.true_or]
  rw [if_neg named] at passed
  by_cases opt : record.type = 41
  · rw [if_pos opt] at passed
    simp only [bind_eq_ok, rejectIf_eq_ok] at passed
    obtain ⟨_, _, noted_⟩ := passed
    cases noted_
    exact noted_other notRequested notAlias rfl rfl
  · rw [if_neg opt] at passed
    cases passed
    exact noted_other notRequested notAlias rfl rfl

theorem scanLifetime_noted (expected : Question) (answers index : Nat)
    (record : Record) (scan : ResponseScan) :
    (scanLifetime expected answers index record scan).addresses =
        scan.addresses ∧
      (scanLifetime expected answers index record scan).aliases =
        scan.aliases := by
  unfold scanLifetime
  constructor <;> (split <;> split <;> rfl)

theorem scanSoa_noted {packet : Packet} {expected : Question}
    {answers authority index : Nat} {record : Record}
    {scan result : ResponseScan}
    (passed : scanSoa packet expected answers authority index record scan =
      .ok result) :
    result.addresses = scan.addresses ∧ result.aliases = scan.aliases := by
  unfold scanSoa at passed
  split at passed
  · simp only [bind_eq_ok, rejectIf_eq_ok, pure_eq_ok,
      Except.ok.injEq] at passed
    obtain ⟨_, _, _, _, _, _, _, _, built⟩ := passed
    rw [← built]
    exact ⟨rfl, rfl⟩
  · cases passed
    exact ⟨rfl, rfl⟩

theorem responseStep_noted {platform : Platform} {packet : Packet}
    {expected : Question} {answers authority index position next : Nat}
    {scan result : ResponseScan}
    (passed : responseStep platform packet expected answers authority index
      (position, scan) = .ok (next, result)) :
    ∃ record, RecordAt packet position record ∧ next = record.end ∧
      Noted platform expected (answerAt packet answers index record) scan
        result := by
  obtain ⟨record, noted, read, data, soa, nextEq⟩ :=
    responseStep_eq_ok.mp passed
  have first := scanData_noted data
  have lifetime := scanLifetime_noted expected answers index record noted
  have last := scanSoa_noted soa
  refine ⟨record, (readRecord_eq_ok.mp read).1, nextEq, ?_, ?_⟩
  · rw [last.1, lifetime.1, first.addresses]
  · rw [last.2, lifetime.2, first.aliases]

theorem responseLoop_noted {platform : Platform} {packet : Packet}
    {expected : Question} {answers authority : Nat} :
    ∀ {count index position last : Nat} {scan result : ResponseScan},
      repeatFrom (responseStep platform packet expected answers authority)
        count index (position, scan) = .ok (last, result) →
      ∃ records, RecordRun packet position records last ∧
        records.length = count ∧
        Noted platform expected
          ((records.take (answers - index)).map (answerRecord packet)) scan
          result := by
  intro count
  induction count with
  | zero =>
      intro index position last scan result loop
      cases loop
      refine ⟨[], .done, rfl, ?_⟩
      rw [List.take_nil]
      exact Noted.none platform expected scan
  | succ count ih =>
      intro index position last scan result loop
      rw [repeatFrom_succ, bind_eq_ok] at loop
      obtain ⟨⟨next, middle⟩, passed, loop⟩ := loop
      obtain ⟨record, here, rfl, first⟩ := responseStep_noted passed
      obtain ⟨records, run, countEq, rest⟩ := ih loop
      refine ⟨record :: records, .record here run,
        by rw [List.length_cons, countEq], ?_⟩
      have both := first.append rest
      unfold answerAt at both
      by_cases inside : index < answers
      · have more : answers - index = answers - (index + 1) + 1 := by omega
        rw [if_pos inside] at both
        rw [more, List.take_succ_cons, List.map_cons]
        exact both
      · have none : answers - index = 0 := by omega
        have noneLater : answers - (index + 1) = 0 := by omega
        rw [if_neg inside, noneLater] at both
        rw [none]
        exact both

theorem find?_bindAlias (answers : List AnswerRecord) :
    ∀ (aliases : OrderedMap Bytes Bytes) (owner : Bytes),
      (answers.foldl bindAlias aliases).find? owner =
        (aliasOf answers owner).or (aliases.find? owner) := by
  induction answers with
  | nil =>
      intro aliases owner
      rfl
  | cons record rest ih =>
      intro aliases owner
      rw [List.foldl_cons, ih]
      unfold aliasOf aliasTargets bindAlias
      rw [List.filterMap_cons]
      by_cases aliased : record.IsAlias
      · rw [if_pos aliased]
        cases targetEq : record.target with
        | none =>
            simp
        | some target =>
            by_cases same : record.owner = owner
            · simp only [aliased, same, and_self, if_true,
                OrderedMap.find?_insert, List.getLast?_cons]
              cases (rest.filterMap _).getLast? <;> rfl
            · simp only [same, and_false, if_false, OrderedMap.find?_insert]
      · simp only [aliased, false_and, if_false]

theorem ownedAddresses_filter (platform : Platform) (expected : Question)
    (answers : List AnswerRecord) (owners : List Bytes) :
    ((ownedAddresses platform expected answers).filter
        (fun address => address.1 ∈ owners)).map (·.2) =
      addressesOf platform expected answers owners := by
  unfold ownedAddresses addressesOf
  rw [List.filter_map, List.map_map, List.filter_filter]
  refine congrArg (List.map _) (List.filter_congr fun record _ => ?_)
  simp only [Function.comp_apply, Bool.decide_and, Bool.and_comm]

/-! ### The answer -/

/-- A complete reply whose records were accepted: the addresses on the alias
chain, or the report of its cycle. -/
theorem parseResponse_scanned {platform : Platform} {packet : Packet}
    {question expected : Question} {scan : ResponseScan}
    (parsed : parseQuestion packet = .ok question)
    (answers : AnswersQuestion question expected)
    (complete : question.flags &&& 0x0200 = 0)
    (scanned : scanResponse platform packet question expected = .ok scan) :
    ∃ records, replyRecords packet = .ok records ∧
      ((∃ answer reachable,
          parseResponse platform packet expected = .ok answer ∧
            (∀ owner, owner ∈ reachable ↔
              OnChain (aliasOf (answerSection packet records)) expected.name
                owner) ∧
            ¬ Cyclic (aliasOf (answerSection packet records)) expected.name ∧
            answer.addresses = addressesOf platform expected
              (answerSection packet records) reachable) ∨
        parseResponse platform packet expected =
            .error (malformed "CNAME cycle") ∧
          Cyclic (aliasOf (answerSection packet records)) expected.name) := by
  have header := (parseQuestion_eq_ok.mp parsed).header
  obtain ⟨records, walked, run, count, _⟩ := replyRecords_of_scan parsed scanned
  obtain ⟨records', run', count', noted⟩ :=
    responseLoop_noted ((scanResponse_eq_ok header).mp scanned).2
  obtain ⟨rfl, _⟩ := run.unique run' (count.trans count'.symm)
  rw [Nat.sub_zero] at noted
  have stepEq : scan.aliases.find? =
      aliasOf (answerSection packet records) := by
    funext owner
    have bound := find?_bindAlias (answerSection packet records)
      OrderedMap.empty owner
    rw [OrderedMap.find?_empty, Option.or_none] at bound
    rw [noted.aliases, ← bound]
    rfl
  refine ⟨records, walked, ?_⟩
  unfold parseResponse
  rw [parsed, ok_bind, rejectIf_of_not (not_not.mpr answers), ok_bind]
  simp only
  rw [if_neg (not_not.mpr complete), scanned, ok_bind]
  have outcome := followAliases_outcome
    (Followed.begin scan.aliases.find? expected.name)
    (show scan.aliases.size + 1 + 1 = _ from rfl)
  rw [stepEq] at outcome
  rcases outcome with ⟨reachable, followed, chain, acyclic⟩ | ⟨raised, cyclic⟩
  · refine .inl ⟨_, reachable, by rw [followed, ok_bind, pure_eq_ok], chain,
      acyclic, ?_⟩
    unfold finishAnswer
    simp only [noted.addresses, List.nil_append]
    exact ownedAddresses_filter platform expected _ reachable
  · exact .inr ⟨by rw [raised]; rfl, cyclic⟩

/-- The addresses depend on the order of the records only through the last
CNAME of each owner. -/
theorem addressesOf_perm {platform : Platform} {expected : Question}
    {answers others : List AnswerRecord} {owners otherOwners : List Bytes}
    (chain : ∀ owner, owner ∈ owners ↔
      OnChain (aliasOf answers) expected.name owner)
    (otherChain : ∀ owner, owner ∈ otherOwners ↔
      OnChain (aliasOf others) expected.name owner)
    (reordered : others.Perm answers)
    (sameAliases : ∀ owner, aliasOf others owner = aliasOf answers owner) :
    (addressesOf platform expected others otherOwners).Perm
      (addressesOf platform expected answers owners) := by
  have aliasEq : aliasOf others = aliasOf answers := funext sameAliases
  have ownersEq : ∀ owner, owner ∈ otherOwners ↔ owner ∈ owners := by
    intro owner
    rw [otherChain, chain, aliasEq]
  unfold addressesOf
  simp only [ownersEq]
  exact (reordered.filter _).map _

/-- Address extraction follows the alias chain and nothing else.  A complete
answer lists, in packet order, the data of the requested addresses of the
answer section whose owners the aliases of the question name lead to; a cyclic
chain is refused; and another order of the same records gives the same
addresses as long as the last CNAME of each owner stays the last. -/
theorem parseResponse_addresses (platform : Platform) (packet : Packet)
    (expected : Question) :
    (∀ answer, parseResponse platform packet expected = .ok answer →
      answer.truncated = false →
      ∃ records reachable, replyRecords packet = .ok records ∧
        (∀ owner, owner ∈ reachable ↔
          OnChain (aliasOf (answerSection packet records)) expected.name
            owner) ∧
        ¬ Cyclic (aliasOf (answerSection packet records)) expected.name ∧
        answer.addresses = addressesOf platform expected
          (answerSection packet records) reachable) ∧
      (∀ question records, parseQuestion packet = .ok question →
        question.flags &&& 0x0200 = 0 → replyRecords packet = .ok records →
        Cyclic (aliasOf (answerSection packet records)) expected.name →
        ∃ error, parseResponse platform packet expected = .error error) ∧
      ∀ other records otherRecords answer otherAnswer,
        parseResponse platform packet expected = .ok answer →
        answer.truncated = false →
        parseResponse platform other expected = .ok otherAnswer →
        otherAnswer.truncated = false →
        replyRecords packet = .ok records →
        replyRecords other = .ok otherRecords →
        (answerSection other otherRecords).Perm (answerSection packet records) →
        (∀ owner, aliasOf (answerSection other otherRecords) owner =
          aliasOf (answerSection packet records) owner) →
        otherAnswer.addresses.Perm answer.addresses := by
  have returned : ∀ (packet : Packet) (answer : DnsAnswer),
      parseResponse platform packet expected = .ok answer →
      answer.truncated = false →
      ∃ records reachable, replyRecords packet = .ok records ∧
        (∀ owner, owner ∈ reachable ↔
          OnChain (aliasOf (answerSection packet records)) expected.name
            owner) ∧
        ¬ Cyclic (aliasOf (answerSection packet records)) expected.name ∧
        answer.addresses = addressesOf platform expected
          (answerSection packet records) reachable := by
    intro packet answer accepted untruncated
    obtain ⟨question, scan, _, parsed, answers, complete, scanned, _, _⟩ :=
      parseResponse_untruncated accepted untruncated
    obtain ⟨records, walked, outcome⟩ :=
      parseResponse_scanned parsed answers complete scanned
    rcases outcome with ⟨answer', reachable, same, facts⟩ | ⟨raised, _⟩
    · cases accepted.symm.trans same
      exact ⟨records, reachable, walked, facts⟩
    · cases accepted.symm.trans raised
  refine ⟨returned packet, ?_, ?_⟩
  · intro question records parsed complete walked cyclic
    apply exists_error_of_not_ok
    intro answer accepted
    have untruncated : answer.truncated = false := by
      obtain ⟨bit, _⟩ := parseResponse_bits parsed accepted
      rw [bit]
      exact decide_eq_false (not_not.mpr complete)
    obtain ⟨records', _, walked', _, acyclic, _⟩ :=
      returned packet answer accepted untruncated
    cases walked.symm.trans walked'
    exact acyclic cyclic
  · intro other records otherRecords answer otherAnswer accepted untruncated
      otherAccepted otherUntruncated walked otherWalked reordered sameAliases
    obtain ⟨_, reachable, walked', chain, _, addresses⟩ :=
      returned packet answer accepted untruncated
    obtain ⟨_, otherReachable, otherWalked', otherChain, _, otherAddresses⟩ :=
      returned other otherAnswer otherAccepted otherUntruncated
    cases walked.symm.trans walked'
    cases otherWalked.symm.trans otherWalked'
    rw [addresses, otherAddresses]
    exact addressesOf_perm chain otherChain reordered sameAliases

/-- A reply to the address query for `a` with records in an odd order: an
address of `c`, the alias of `b`, an address of `d` and the alias of `a`. -/
def chainReply : Packet :=
  [0, 7, 0x81, 0x80, 0, 1, 0, 4, 0, 0, 0, 0, 1, 97, 0, 0, 1, 0, 1] ++
    [1, 99, 0, 0, 1, 0, 1, 0, 0, 0, 60, 0, 4, 10, 0, 0, 2] ++
    [1, 98, 0, 0, 5, 0, 1, 0, 0, 0, 60, 0, 3, 1, 99, 0] ++
    [1, 100, 0, 0, 1, 0, 1, 0, 0, 0, 60, 0, 4, 10, 0, 0, 9] ++
    [0xc0, 12, 0, 5, 0, 1, 0, 0, 0, 60, 0, 3, 1, 98, 0]

/-- A reply in which `a` and `b` are aliases of each other. -/
def cyclicReply : Packet :=
  [0, 7, 0x81, 0x80, 0, 1, 0, 2, 0, 0, 0, 0, 1, 97, 0, 0, 1, 0, 1] ++
    [1, 98, 0, 0, 5, 0, 1, 0, 0, 0, 60, 0, 2, 0xc0, 12] ++
    [0xc0, 12, 0, 5, 0, 1, 0, 0, 0, 60, 0, 3, 1, 98, 0]

def chainQuestion : Question :=
  { id := 7
    flags := 0x0100
    type := 1
    klass := 1
    name := text "a"
    «end» := 19 }

theorem parseResponse_addresses_chain :
    (∃ records reachable, replyRecords chainReply = .ok records ∧
      (∀ owner, owner ∈ reachable ↔
        OnChain (aliasOf (answerSection chainReply records)) (text "a")
          owner) ∧
      ¬ Cyclic (aliasOf (answerSection chainReply records)) (text "a") ∧
      [text "10.0.0.2"] = addressesOf ipv4Platform chainQuestion
        (answerSection chainReply records) reachable) ∧
      ∃ error, parseResponse ipv4Platform cyclicReply chainQuestion =
        .error error := by
  constructor
  · exact (parseResponse_addresses ipv4Platform chainReply chainQuestion).1
      { addresses := [text "10.0.0.2"]
        cacheTtl := 60
        cacheable := true } (by rfl) rfl
  · refine (parseResponse_addresses ipv4Platform cyclicReply
      chainQuestion).2.1 _ _ (@rfl _ (parseQuestion cyclicReply)) (by decide)
      (@rfl _ (replyRecords cyclicReply)) ?_
    exact ⟨text "a", .refl, .tail (.single (by rfl)) (by rfl)⟩

end NativeDNS

/-
How old the answers served from the cache can be.

A hit is younger than the lifetime of its entry.  For a positive reply that
lifetime is at most the lifetime of every answer record, so each record of the
delivered answer section has time left.  The lifetime of a negative reply comes
from the SOA record alone, so this holds only of the answer records (aliases)
that live at least as long.
-/
import NativeDNS.Router.CacheKey

namespace NativeDNS

open ByteText (text)
open CheckedResult

/-- The reply a run left for sharing, as the response parser sees it. -/
structure StoredReply (snapshot : Snapshot) (run : GroupRun) (packet : Packet)
    (answer : DnsAnswer) (scan : ResponseScan) (answers : List Record) :
    Prop where
  prepared : Prepares snapshot run packet answer
  cacheable : ∃ expected, parseQuestion run.demand.request = .ok expected ∧
    CacheableReply snapshot.platform packet expected answer scan answers

theorem Prepares.stored {snapshot : Snapshot} {run : GroupRun}
    {packet : Packet} {answer : DnsAnswer}
    (prepared : Prepares snapshot run packet answer)
    (cacheable : answer.cacheable = true) :
    ∃ scan answers, StoredReply snapshot run packet answer scan answers := by
  have parts := prepared
  simp only [Prepares, prepareReply, bind_eq_ok, pure_eq_ok] at parts
  obtain ⟨clamped, _, expected, asked, parsed, accepted, built⟩ := parts
  cases built
  obtain ⟨scan, answers, facts⟩ := parseResponse_cacheable accepted cacheable
  exact ⟨scan, answers, prepared, expected, asked, facts⟩

theorem StoredReply.alive {snapshot : Snapshot} {run : GroupRun}
    {packet : Packet} {answer : DnsAnswer} {scan : ResponseScan}
    {answers : List Record}
    (stored : StoredReply snapshot run packet answer scan answers)
    (positive : scan.negative = false) : ∀ record ∈ answers, 1 ≤ record.ttl := by
  obtain ⟨expected, _, facts⟩ := stored.cacheable
  intro record member
  have some := facts.positive
  have bound := facts.bounded positive record member
  omega

/-- A delivered answer section: every record that outlives the entry has time
left, and so has every record of a positive reply. -/
structure ServedFresh (snapshot : Snapshot) (world : World) (served : Packet)
    (run : GroupRun) (packet : Packet) (answer : DnsAnswer)
    (scan : ResponseScan) (stored delivered : List Record) : Prop where
  member : run ∈ world.runs
  reply : StoredReply snapshot run packet answer scan stored
  listed : answerRecords served = .ok delivered
  outliving : List.Forall₂
    (fun original record : Record => record.type = original.type ∧
      (min answer.cacheTtl maxCacheTtl ≤ original.ttl → 1 ≤ record.ttl))
    stored delivered
  alive : scan.negative = false → ∀ record ∈ delivered, 1 ≤ record.ttl

private theorem AgedRecord.alive {elapsedSeconds lifetime : Nat}
    {record aged : Record} (same : AgedRecord elapsedSeconds record aged)
    (ordinary : record.type ≠ 41) (fresh : elapsedSeconds < lifetime)
    (outlives : lifetime ≤ record.ttl) : 1 ≤ aged.ttl := by
  rw [same.ttlEq, Record.aged, if_neg ordinary]
  dsimp only
  omega

theorem hit_fresh {snapshot : Snapshot} {world : World} {run : GroupRun}
    {demand : Demand} {reply : Reply} (member : run ∈ world.runs)
    (delivered : Delivered snapshot run demand .cache reply) :
    ∃ packet answer scan stored served, ServedFresh snapshot world reply.packet
      run packet answer scan stored served := by
  cases delivered with
  | @cache packet aged answer elapsedSeconds prepared cacheable fresh copied =>
      obtain ⟨scan, stored, storedReply⟩ := prepared.stored cacheable
      obtain ⟨expected, asked, facts⟩ := storedReply.cacheable
      obtain ⟨question, parsed, scanned⟩ := facts.scanned
      obtain ⟨records, _, walk, count, sized⟩ :=
        replyRecords_of_scan parsed scanned
      obtain ⟨before, after, listedBefore, listedAfter, matched⟩ :=
        answerRecords_delivered copied (wordAt_lt _ _) parsed walk count sized
      obtain rfl : before = stored :=
        Except.ok.inj (listedBefore.symm.trans facts.listed)
      have ordinary := answerRecords_ordinary listedBefore
      have outliving : List.Forall₂
          (fun original record : Record => record.type = original.type ∧
            (min answer.cacheTtl maxCacheTtl ≤ original.ttl → 1 ≤ record.ttl))
          before after :=
        ((List.forall₂_and_left _ _).mpr ⟨ordinary, matched⟩).imp
          (fun original record both =>
            ⟨both.2.typeEq, both.2.alive both.1 fresh⟩)
      refine ⟨packet, answer, scan, before, after, member, storedReply,
        listedAfter, outliving, ?_⟩
      intro positive record inAfter
      obtain ⟨original, inBefore, _, outlives⟩ :=
        exists_of_forall₂_right outliving inAfter
      have bound := facts.bounded positive original inBefore
      exact outlives (by omega)

/-- What every state keeps: each answer served from the cache is fresh, and a
cache entry holds no expired positive answer; both rest on the lifetime that
the parser gives to any cacheable reply. -/
theorem reached_fresh {snapshot : Snapshot} {admits : Demand → Prop}
    {world : World} (reached : Reached snapshot admits world) :
    (∀ call ∈ world.calls, ∀ reply,
      call.phase = .finished .cache (.ok reply) →
      ∃ run packet answer scan stored served, ServedFresh snapshot world
        reply.packet run packet answer scan stored served) ∧
    (∀ key entry, world.state.cache.find? key = some entry →
      ∃ run ∈ world.runs, ∃ answer scan answers,
        StoredReply snapshot run entry.packet answer scan answers ∧
        (scan.negative = false → ∀ record ∈ answers, 1 ≤ record.ttl)) ∧
    ∀ packet expected answer,
      parseResponse snapshot.platform packet expected = .ok answer →
      answer.cacheable = true → ∃ scan answers,
        CacheableReply snapshot.platform packet expected answer scan answers := by
  have provenant := reached.provenant
  refine ⟨?_, ?_, fun _ _ _ => parseResponse_cacheable⟩
  · intro call member reply returned
    have phase := (provenant.calls call member).phase
    rw [returned] at phase
    obtain ⟨_, run, inRuns, _, delivered⟩ := phase reply rfl
    exact ⟨run, hit_fresh inRuns delivered⟩
  · intro key entry found
    obtain ⟨run, answer, kept⟩ := provenant.cached key entry found
    obtain ⟨scan, answers, stored⟩ := kept.prepared.stored kept.cacheable
    exact ⟨run, kept.member, answer, scan, answers, stored, stored.alive⟩

theorem reached_fresh_hit :
    ∃ world reply run packet answer scan stored served,
      Reached defaultSnapshot Demand.Clean world ∧
      ServedFresh defaultSnapshot world reply run packet answer scan stored
        served := by
  have reached := hitWorld_reached (originalDemand plainQuery)
    (originalDemand otherQuery) plainReply 1000000000 (originalDemand_clean _)
    (originalDemand_clean _) rfl rfl
  obtain ⟨call, member, _, phaseEq⟩ := hitWorld_call _ _ _ _ plainHit
  obtain ⟨run, packet, answer, scan, stored, served, fresh⟩ :=
    (reached_fresh reached).1 call member _ phaseEq
  exact ⟨_, _, run, packet, answer, scan, stored, served, reached, fresh⟩

/-- An NXDOMAIN reply with an expired alias and the lifetime of its SOA
record. -/
def expiredAlias : Packet :=
  [0, 7, 0x81, 0x83, 0, 1, 0, 1, 0, 1, 0, 0, 1, 97, 0, 0, 1, 0, 1] ++
    [0xc0, 12, 0, 5, 0, 1, 0, 0, 0, 0, 0, 3, 1, 98, 0] ++
    [0, 0, 6, 0, 1, 0, 0, 14, 16, 0, 22, 0, 0,
      0, 0, 0, 1, 0, 0, 0, 1, 0, 0, 0, 1, 0, 0, 0, 1, 0, 0, 1, 44]

/-- It is stored, and the cache serves it with its expired answer record. -/
theorem reached_fresh_fails_negative :
    ∃ world, Reached defaultSnapshot Demand.Clean world ∧
      ∃ call ∈ world.calls, ∃ reply,
        call.phase = .finished .cache (.ok reply) ∧
        ∃ answers, answerRecords reply.packet = .ok answers ∧
          ∃ record ∈ answers, record.ttl = 0 := by
  have reached := hitWorld_reached (originalDemand plainQuery)
    (originalDemand plainQuery) expiredAlias 0 (originalDemand_clean _)
    (originalDemand_clean _) rfl rfl
  have returned : (enterCall (originalDemand plainQuery) 0 0
      (hitState (originalDemand plainQuery) expiredAlias)).2 =
        .finished .cache (.ok
          { packet := expiredAlias
            usedServerId := 0 }) := by
    decide +kernel
  obtain ⟨call, member, _, phaseEq⟩ := hitWorld_call _ _ _ _ returned
  have listed : answerRecords expiredAlias =
      .ok
        [{ owner := text "a"
           header := 21
           type := 5
           klass := 1
           ttl := 0
           length := 3 }] := by
    rfl
  exact ⟨_, reached, call, member, _, phaseEq, _, listed, _,
    List.mem_cons_self, rfl⟩

end NativeDNS

/-
The cache key determines the query it was built for.

A key is a text followed by two zero bytes and the rest of the request.  The
text is read from both ends: the upstream number stands in front of the first
separator, and the numbers of the route (and the port and address of an
original server) are cut off from the right, so an interface id may hold
separators of its own.  An address may not.
-/
import NativeDNS.Router.Provenance
import NativeDNS.Rules.Totality

namespace NativeDNS

open ByteText (text byte decimal not_mem_decimal append_separator_inj
  separator_append_inj decimal_injective)
open CheckedResult

/-- Routes that differ at most in the display name of the interface. -/
structure SameRoute (left right : NetworkRoute) : Prop where
  interfaceId : left.interfaceId = right.interfaceId
  index4 : left.index4 = right.index4
  index6 : left.index6 = right.index6
  scope6 : left.scope6 = right.scope6
  generation : left.generation = right.generation

/-- Demands that ask the same question of the same upstream. -/
structure SameQuery (left right : Demand) : Prop where
  configured : left.configured = right.configured
  request : left.request.drop 2 = right.request.drop 2
  upstream :
    if left.configured then left.primary.id = right.primary.id
    else left.primary.protocol = right.primary.protocol ∧
      left.primary.ip = right.primary.ip ∧
      left.primary.port = right.primary.port
  route : SameRoute left.primary.route right.primary.route

/-- The texts of a demand hold no zero byte. -/
structure Demand.NulFree (demand : Demand) : Prop where
  interfaceId : 0 ∉ demand.primary.route.interfaceId
  ip : 0 ∉ demand.primary.ip

/-- Nor does the address hold a separator. -/
structure Demand.Clean (demand : Demand) : Prop extends demand.NulFree where
  separator : demand.configured = false → byte '|' ∉ demand.primary.ip

theorem Protocol.toNat_injective : Function.Injective Protocol.toNat := by
  intro left right same
  cases left <;> cases right <;> first | rfl | cases same

private theorem separator_decimal (value : Nat) : byte '|' ∉ decimal value :=
  not_mem_decimal (by decide) value

theorem networkRouteKey_inj {left right : NetworkRoute}
    (same : networkRouteKey left = networkRouteKey right) :
    SameRoute left right := by
  have free := separator_decimal
  unfold networkRouteKey at same
  simp only [← List.cons_append, ← List.append_assoc] at same
  obtain ⟨same, generation⟩ := separator_append_inj (free _) (free _) same
  obtain ⟨same, scope6⟩ := separator_append_inj (free _) (free _) same
  obtain ⟨same, index6⟩ := separator_append_inj (free _) (free _) same
  obtain ⟨interfaceId, index4⟩ := separator_append_inj (free _) (free _) same
  exact
    { interfaceId := interfaceId
      index4 := UInt32.toNat_inj.mp (decimal_injective index4)
      index6 := UInt32.toNat_inj.mp (decimal_injective index6)
      scope6 := UInt32.toNat_inj.mp (decimal_injective scope6)
      generation := UInt64.toNat_inj.mp (decimal_injective generation) }

def keyText (demand : Demand) : Bytes :=
  (if demand.configured then text "configured:" else text "original:") ++
    (decimal (if demand.configured then demand.primary.id.toNat
      else demand.primary.protocol.toNat) ++ byte '|' ::
    (networkRouteKey demand.primary.route ++ byte '|' ::
    (if demand.configured then []
      else demand.primary.ip ++ byte '|' ::
        (decimal demand.primary.port.toNat ++ [byte '|']))))

theorem key_eq_keyText (demand : Demand) :
    demand.key = keyText demand ++ 0 :: (0 :: demand.request.drop 2) := by
  unfold Demand.key cacheKey keyText
  simp only [List.append_assoc, List.cons_append]

theorem keyText_nulFree {demand : Demand} (free : demand.NulFree) :
    0 ∉ keyText demand := by
  have zero : ∀ value, (0 : UInt8) ∉ decimal value :=
    not_mem_decimal (by decide)
  have bar : (0 : UInt8) ≠ byte '|' := by decide
  have route : 0 ∉ networkRouteKey demand.primary.route := by
    unfold networkRouteKey
    simp [zero, bar, free.interfaceId]
  unfold keyText
  cases demand.configured with
  | true =>
      have kind : 0 ∉ text "configured:" := by decide
      simp [zero, bar, route, kind]
  | false =>
      have kind : 0 ∉ text "original:" := by decide
      simp [zero, bar, route, kind, free.ip]

theorem key_inj {left right : Demand} (leftClean : left.Clean)
    (rightClean : right.Clean) (same : left.key = right.key) :
    SameQuery left right := by
  rw [key_eq_keyText, key_eq_keyText] at same
  obtain ⟨texts, tails⟩ := append_separator_inj
    (keyText_nulFree leftClean.toNulFree) (keyText_nulFree rightClean.toNulFree)
    same
  have request := (List.cons.inj tails).2
  have free := separator_decimal
  unfold keyText at texts
  cases leftKind : left.configured with
  | true =>
      cases rightKind : right.configured with
      | false =>
          -- the kinds differ in their first byte
          rw [leftKind, rightKind] at texts
          have heads := congrArg List.head? texts
          cases heads
      | true =>
          rw [leftKind, rightKind] at texts
          simp only [if_true] at texts
          have texts := List.append_cancel_left texts
          obtain ⟨upstream, texts⟩ :=
            append_separator_inj (free _) (free _) texts
          have route := networkRouteKey_inj (List.append_cancel_right texts)
          exact ⟨leftKind.trans rightKind.symm, request, by
            rw [leftKind, if_pos rfl]
            exact UInt32.toNat_inj.mp (decimal_injective upstream), route⟩
  | false =>
      cases rightKind : right.configured with
      | true =>
          rw [leftKind, rightKind] at texts
          have heads := congrArg List.head? texts
          cases heads
      | false =>
          rw [leftKind, rightKind] at texts
          simp only [Bool.false_eq_true, if_false] at texts
          have texts := List.append_cancel_left texts
          obtain ⟨upstream, texts⟩ :=
            append_separator_inj (free _) (free _) texts
          simp only [← List.cons_append, ← List.append_assoc] at texts
          have texts := List.append_cancel_right texts
          obtain ⟨texts, port⟩ := separator_append_inj (free _) (free _) texts
          obtain ⟨routes, ip⟩ := separator_append_inj
            (leftClean.separator leftKind) (rightClean.separator rightKind) texts
          exact ⟨leftKind.trans rightKind.symm, request, by
            rw [leftKind, if_neg Bool.false_ne_true]
            exact ⟨Protocol.toNat_injective (decimal_injective upstream), ip,
              UInt16.toNat_inj.mp (decimal_injective port)⟩,
            networkRouteKey_inj routes⟩

/-! ### Answers -/

theorem prepareReply_id {snapshot : Snapshot} {demand : Demand}
    {reply packet : Packet} {answer : DnsAnswer}
    (prepared : prepareReply snapshot demand reply = .ok (packet, answer)) :
    wordAt packet 0 = wordAt demand.request 0 := by
  simp only [prepareReply, bind_eq_ok, pure_eq_ok] at prepared
  obtain ⟨clamped, _, question, asked, parsed, accepted, built⟩ := prepared
  cases built
  simp only [parseResponse, bind_eq_ok, rejectIf_eq_ok, not_not] at accepted
  obtain ⟨answered, decoded, _, answers, _⟩ := accepted
  rw [← (parseQuestion_eq_ok.mp decoded).idEq, answers.2.1,
    (parseQuestion_eq_ok.mp asked).idEq]

theorem Delivered.transactionId {snapshot : Snapshot} {run : GroupRun}
    {demand : Demand} {source : Source} {reply : Reply}
    (delivered : Delivered snapshot run demand source reply) :
    wordAt reply.packet 0 = wordAt demand.request 0 := by
  cases delivered with
  | led own prepared =>
      exact own ▸ prepareReply_id prepared
  | coalesced prepared copied =>
      exact wordAt_ageDnsResponse_id copied (wordAt_lt _ _)
  | cache prepared cacheable fresh copied =>
      exact wordAt_ageDnsResponse_id copied (wordAt_lt _ _)

theorem Delivered.used {snapshot : Snapshot} {run : GroupRun}
    {demand : Demand} {source : Source} {reply : Reply}
    (delivered : Delivered snapshot run demand source reply) :
    reply.usedServerId = run.usedServerId := by
  cases delivered <;> rfl

/-- Keys tell queries apart, and a caller's reply was produced by a group exchange
for its own query and carries its own identifier. -/
theorem reached_answers {snapshot : Snapshot} {world : World}
    (reached : Reached snapshot Demand.Clean world) {call : Call}
    (member : call ∈ world.calls) {source : Source} {reply : Reply}
    (returned : call.phase = .finished source (.ok reply)) :
    (∀ left right : Demand, left.Clean → right.Clean → left.key = right.key →
        SameQuery left right) ∧
      ∃ run ∈ world.runs, Performed snapshot run ∧
        SameQuery run.demand call.demand ∧
        Delivered snapshot run call.demand source reply ∧
        wordAt reply.packet 0 = wordAt call.demand.request 0 ∧
        reply.usedServerId = run.usedServerId := by
  have provenant := reached.provenant
  have explained := provenant.calls call member
  have phase := explained.phase
  rw [returned] at phase
  obtain ⟨_, run, inRuns, sameKey, delivered⟩ := phase reply rfl
  obtain ⟨performed, clean, _⟩ := provenant.runs run inRuns
  exact ⟨fun _ _ => key_inj, run, inRuns, performed,
    key_inj clean explained.admitted sameKey, delivered, delivered.transactionId,
    delivered.used⟩

def plainQuery : Packet :=
  addressQuery [1, 97, 0]

def otherQuery : Packet :=
  [9, 9] ++ plainQuery.drop 2

theorem originalDemand_clean (request : Packet) :
    (originalDemand request).Clean := by
  have zero : (0 : UInt8) ∉ text "10.0.0.53" := by decide
  have bar : byte '|' ∉ text "10.0.0.53" := by decide
  exact ⟨⟨List.not_mem_nil, zero⟩, fun _ => bar⟩

/-- One second after it was stored, the reply is served with one second less
to live. -/
theorem plainHit :
    (enterCall (originalDemand otherQuery) 1000000000 1000000000
      (hitState (originalDemand plainQuery) plainReply)).2 =
        .finished .cache (.ok
          { packet := [9, 9] ++ (plainReply.take 28).drop 2 ++ [59] ++
              plainReply.drop 29
            usedServerId := 0 }) := by
  decide +kernel

theorem reached_answers_hit :
    ∃ reply : Reply, ∃ run ∈
        (hitWorld (originalDemand plainQuery) (originalDemand otherQuery)
          plainReply 1000000000).runs,
      Performed defaultSnapshot run ∧
      SameQuery run.demand (originalDemand otherQuery) ∧
      Delivered defaultSnapshot run (originalDemand otherQuery) .cache reply ∧
      wordAt reply.packet 0 = wordAt otherQuery 0 ∧
      reply.usedServerId = run.usedServerId := by
  have reached := hitWorld_reached (originalDemand plainQuery)
    (originalDemand otherQuery) plainReply 1000000000 (originalDemand_clean _)
    (originalDemand_clean _) rfl rfl
  obtain ⟨call, member, demandEq, phaseEq⟩ := hitWorld_call _ _ _ _ plainHit
  obtain ⟨_, answered⟩ := reached_answers reached member phaseEq
  rw [demandEq] at answered
  exact ⟨_, answered⟩

/-- A query for the address of `b`. -/
def freshQuery : Packet :=
  addressQuery [1, 98, 0]

def freshWorld : World :=
  hitWorld (originalDemand plainQuery) (originalDemand freshQuery) plainReply 0

theorem reached_bookkeeping_hit :
    freshWorld.state.cache.size = 1 ∧ freshWorld.state.pending.size = 1 ∧
      0 < freshWorld.state.cacheBytes ∧ Bookkeeping freshWorld := by
  refine ⟨by decide +kernel, by decide +kernel, by decide +kernel, ?_⟩
  exact reached_bookkeeping (hitWorld_reached _ _ plainReply 0 (originalDemand_clean _)
    (originalDemand_clean _) rfl rfl)

def routedDemand (request : Packet) (route : NetworkRoute) (ip : Bytes) :
    Demand :=
  { request := request
    primary :=
      { protocol := .udp
        ip := ip
        port := 53
        route := route }
    configured := false }

def barredDemand : Demand :=
  routedDemand plainQuery
    { interfaceId := text "a"
      index4 := 1
      index6 := 2
      scope6 := 3
      generation := 4 }
    (text "5|6|7|8|x")

def imitatedDemand : Demand :=
  routedDemand plainQuery
    { interfaceId := text "a|1|2|3|4"
      index4 := 5
      index6 := 6
      scope6 := 7
      generation := 8 }
    (text "x")

/-- Without zero bytes alone, two routes can share a key, and then one caller
receives a reply that only the other route has produced. -/
theorem reached_answers_fails_separator :
    barredDemand.key = imitatedDemand.key ∧
      ∃ world, Reached defaultSnapshot Demand.NulFree world ∧
        ∃ call ∈ world.calls, ∃ reply,
          call.phase = .finished .cache (.ok reply) ∧
          ∀ run ∈ world.runs, ¬ SameQuery run.demand call.demand := by
  have nulFree : barredDemand.NulFree ∧ imitatedDemand.NulFree :=
    ⟨⟨by decide, by decide⟩, ⟨by decide, by decide⟩⟩
  have reached := hitWorld_reached barredDemand imitatedDemand plainReply 0
    nulFree.1 nulFree.2 rfl rfl
  have returned : (enterCall imitatedDemand 0 0
      (hitState barredDemand plainReply)).2 =
        .finished .cache (.ok
          { packet := plainReply
            usedServerId := 0 }) := by
    decide +kernel
  obtain ⟨call, member, demandEq, phaseEq⟩ := hitWorld_call _ _ _ _ returned
  refine ⟨by decide, _, reached, call, member, _, phaseEq, ?_⟩
  intro run inRuns same
  rw [demandEq, List.mem_singleton.mp inRuns] at same
  exact absurd same.route.index4 (by decide)

end NativeDNS

/-
Which captured packets are handed back to the driver unchanged.

A pass can hand back the captured packet in three places: on purpose, in the
handler before the policy is selected, and by a forwarding worker.  Every other
packet it sends differs from the captured one: a reply in the QR bit of its
payload, a reflected or reset segment in its direction.
-/
import NativeDNS.Interception.Receive
import NativeDNS.Router.Answering

namespace NativeDNS

open ByteText (text)
open CheckedResult

/-! ### What the policy lets pass -/

/-- The policy lets a query pass unanswered. -/
structure PolicyPasses (config : Config) (network : NetworkSnapshot)
    (query : Packet) (decision : RuleDecision) (rule : Rule) : Prop where
  valid : ∃ question, ValidQuery query question ∧
    evaluateRule config question.name network = .ok decision ∧
    ∃ host options, normalizeDnsName question.name = .ok host ∧
      runtimeOptions config = .ok options ∧
      LetsThrough options host network rule decision
  selected : decision.rule = some rule

/-- The policy controls a query: its rule is a Block, has a requirement that is
not met, or names a configured server outside the captive-portal exception. -/
structure PolicyControls (config : Config) (network : NetworkSnapshot)
    (query : Packet) (decision : RuleDecision) (rule : Rule) : Prop where
  valid : ∃ question, ValidQuery query question ∧
    evaluateRule config question.name network = .ok decision
  selected : decision.rule = some rule
  control :
    rule.action = .block ∨ decision.errorCode ≠ "" ∨
      rule.dnssecValidate = true ∨ rule.dnssecRejectUnsigned = true ∨
      (rule.action = .process ∧ rule.serverId ≠ 0 ∧
        decision.captiveBypass = false)

theorem PolicyControls.not_passes {config : Config} {network : NetworkSnapshot}
    {query : Packet} {decision made : RuleDecision} {rule chosen : Rule}
    (controls : PolicyControls config network query decision rule) :
    ¬ PolicyPasses config network query made chosen := by
  rintro ⟨⟨question, asked, evaluated, host, options, _, _, passes⟩, same⟩
  obtain ⟨⟨question', asked', evaluated'⟩, selected, control⟩ := controls
  have sameQuestion := asked.1.symm.trans asked'.1
  cases sameQuestion
  have sameDecision := evaluated.symm.trans evaluated'
  cases sameDecision
  have sameRule := same.symm.trans selected
  cases sameRule
  obtain ⟨noError, ⟨noValidate, noUnsigned⟩, reason⟩ := passes
  rcases control with block | failed | validates | rejects | ⟨process, named, _⟩
  · rcases reason with bypass | ⟨process, _⟩
    · rw [block] at bypass
      cases bypass
    · rw [block] at process
      cases process
  · exact failed noError
  · rw [noValidate] at validates
    cases validates
  · rw [noUnsigned] at rejects
    cases rejects
  · rename_i noCaptive
    rcases reason with bypass | ⟨_, _, ⟨captive, _⟩ | ⟨unnamed, _⟩⟩
    · rw [process] at bypass
      cases bypass
    · rw [noCaptive] at captive
      cases captive
    · exact named unnamed

/-- A decision without error that is a Bypass or the captive-portal exception
asks for reinjection. -/
theorem decideRule_reinjects {options : RuntimeOptions} {host : Bytes}
    {network : NetworkSnapshot} {rule : Rule} {decision : RuleDecision}
    (decided : decideRule options host network rule = some decision)
    (noError : decision.errorCode = "")
    (passed : decision.captiveBypass = true ∨ rule.action = .bypass) :
    decision.reinjectUdp = true := by
  have settled : ∀ {start : RuleDecision}, start.errorCode = "" →
      decision = settleRule options host network rule start →
      decision.reinjectUdp = true := by
    rintro start clean rfl
    by_cases noDnssec :
        rule.dnssecValidate = false ∧ rule.dnssecRejectUnsigned = false
    · rw [settleRule_of_noDnssec noDnssec] at passed ⊢
      simp only [Bool.or_eq_true, decide_eq_true_eq]
      exact Or.inl passed
    · rw [settleRule_of_dnssec noDnssec] at noError
      simp at noError
  rcases decideRule_cases decided with
    ⟨_, settles⟩ | ⟨info, _, settles⟩ | ⟨error, _, failed, rfl⟩
  · exact settled rfl settles
  · exact settled rfl settles
  · exact absurd noError failed

theorem policyPasses_of_reinject {config : Config} {network : NetworkSnapshot}
    {query : Packet} {question : Question} {decision : RuleDecision}
    (asked : ValidQuery query question)
    (evaluated : evaluateRule config question.name network = .ok decision)
    (reinject : decision.reinjectUdp = true) :
    ∃ rule, PolicyPasses config network query decision rule := by
  obtain ⟨host, options, rule, canonical, optionsOk, decides⟩ :=
    evaluateRule_decides evaluated
  exact ⟨rule,
    ⟨⟨question, asked, evaluated, host, options, canonical, optionsOk,
      decideRule_letsThrough decides.decided reinject⟩,
    decideRule_rule decides.decided⟩⟩

/-! ### What `route` returns -/

theorem syntheticResponse_isReply {request packet : Packet} {rcode : Nat}
    {zero : Bool} (built : syntheticResponse request rcode zero = .ok packet) :
    IsReply packet := by
  have range : rcode ≤ 15 := by
    simp only [syntheticResponse, bind_eq_ok, rejectIf_eq_ok] at built
    obtain ⟨_, range, _⟩ := built
    omega
  obtain ⟨question, edns, _, _, _, rfl⟩ := (syntheticResponse_eq_ok range).mp built
  unfold IsReply
  rw [(@syntheticPacket_words request question edns rcode zero range).2.1]
  exact (syntheticFlags_bits question.flags range).1

/-- How a call of `route` may end. -/
structure RouteEnds (snapshot : Snapshot) (around : Surroundings)
    (request : Packet) (result : RouteResult) : Prop where
  forwarded : result.disposition = .forwardOriginal →
    ∃ decision rule,
      PolicyPasses snapshot.config around.network request decision rule
  replied : result.disposition = .reply → IsReply result.packet

section RouteEnds

variable {snapshot : Snapshot} {around : Surroundings} {request : Packet}
variable {question : Question} {result caught : RouteResult} {thrown : Thrown}

theorem routeEnds_reply (disposition : result.disposition = .reply)
    (reply : IsReply result.packet) :
    RouteEnds snapshot around request result where
  forwarded := by
    intro forwarded
    rw [disposition] at forwarded
    cases forwarded
  replied := fun _ => reply

theorem routeEnds_silentDrop (disposition : result.disposition = .silentDrop) :
    RouteEnds snapshot around request result where
  forwarded := by
    intro forwarded
    rw [disposition] at forwarded
    cases forwarded
  replied := by
    intro replied
    rw [disposition] at replied
    cases replied

theorem catchRoute_ends (disposition : result.disposition = .reply)
    (caughtEq : catchRoute request true result thrown = .ok caught) :
    RouteEnds snapshot around request caught := by
  unfold catchRoute at caughtEq
  dsimp only at caughtEq
  rw [if_pos rfl] at caughtEq
  cases built : makeErrorResponse request 2 with
  | error error =>
      rw [built] at caughtEq
      cases caughtEq
  | ok packet =>
      rw [built] at caughtEq
      cases caughtEq
      exact routeEnds_reply disposition (syntheticResponse_isReply built)

theorem finishRoute_ends {reply : Reply}
    (disposition : result.disposition = .reply)
    (finished : finishRoute snapshot request question result reply =
      .ok caught) : RouteEnds snapshot around request caught := by
  unfold finishRoute at finished
  dsimp only at finished
  cases accepted : parseResponse snapshot.platform reply.packet question with
  | error error =>
      rw [accepted] at finished
      let received : RouteResult :=
        { result with
          packet := reply.packet
          serverId := reply.usedServerId }
      have unchanged : received.disposition = .reply := disposition
      exact catchRoute_ends unchanged finished
  | ok parsed =>
      rw [accepted] at finished
      have isReply : IsReply reply.packet := by
        simp only [parseResponse, bind_eq_ok, rejectIf_eq_ok, not_not]
          at accepted
        obtain ⟨answered, decoded, _, answers, _⟩ := accepted
        exact isReply_of_parse decoded answers.1
      dsimp only at finished
      split at finished
      · cases finished
        exact routeEnds_reply disposition isReply
      · cases finished
        exact routeEnds_reply disposition isReply

theorem planDecision_ends {exchanged : Demand → Except Thrown Reply}
    {original : Server} {decision : RuleDecision} {rule : Rule}
    (query : ValidQuery request question)
    (evaluated : evaluateRule snapshot.config question.name around.network =
      .ok decision)
    (selected : decision.rule = some rule)
    (planned : planRoute snapshot around request original =
      planDecision snapshot around.shared request original question decision
        rule)
    (returned : route snapshot around exchanged request original =
      .ok result) : RouteEnds snapshot around request result := by
  unfold route at returned
  rw [planned] at returned
  unfold planDecision at returned
  by_cases failed : decision.errorCode ≠ ""
  · rw [if_pos failed] at returned
    exact catchRoute_ends (ruleResult_reply rule) returned
  rw [if_neg failed] at returned
  by_cases passed : decision.captiveBypass = true ∨ rule.action = .bypass
  · rw [if_pos passed] at returned
    cases returned
    refine ⟨fun _ => ?_, fun replied => (by cases replied)⟩
    obtain ⟨host, options, chosen, _, _, decides⟩ :=
      evaluateRule_decides evaluated
    have same := (decideRule_rule decides.decided).symm.trans selected
    cases same
    exact ⟨decision, policyPasses_of_reinject query evaluated
      (decideRule_reinjects decides.decided (not_not.mp failed) passed)⟩
  rw [if_neg passed] at returned
  by_cases block : rule.action = .block
  · rw [if_pos block] at returned
    by_cases silent : rule.blockMode = .silentDrop
    · rw [if_pos silent] at returned
      cases returned
      exact routeEnds_silentDrop rfl
    · rw [if_neg silent] at returned
      cases built : makeBlockResponse request rule.blockMode with
      | error error =>
          rw [built] at returned
          exact catchRoute_ends (ruleResult_reply rule) returned
      | ok packet =>
          rw [built] at returned
          cases returned
          rw [makeBlockResponse_eq silent] at built
          exact routeEnds_reply rfl (syntheticResponse_isReply built)
  rw [if_neg block] at returned
  cases demanded : routeDemand snapshot around.shared request original decision
      rule with
  | error error =>
      rw [demanded] at returned
      exact catchRoute_ends (ruleResult_reply rule) returned
  | ok demand =>
      rw [demanded] at returned
      dsimp only at returned
      cases outcome : exchanged demand with
      | error thrown =>
          rw [outcome] at returned
          exact catchRoute_ends (ruleResult_reply rule) returned
      | ok reply =>
          rw [outcome] at returned
          exact finishRoute_ends (ruleResult_reply rule) returned

/-- Only what the policy lets pass is forwarded, and every reply has the QR
bit. -/
theorem route_ends {exchanged : Demand → Except Thrown Reply}
    {original : Server}
    (returned : route snapshot around exchanged request original =
      .ok result) : RouteEnds snapshot around request result := by
  by_cases valid : ∃ question, ValidQuery request question
  · obtain ⟨question, query⟩ := valid
    rcases route_of_query query exchanged original with
      ⟨start, thrown, disposition, _, caught⟩ |
      ⟨decision, rule, evaluated, selected, planned⟩
    · rw [caught] at returned
      exact catchRoute_ends disposition returned
    · exact planDecision_ends query evaluated selected planned returned
  · obtain ⟨dropped, drops, silent⟩ :=
      route_of_invalid snapshot around valid exchanged original
    rw [drops] at returned
    cases returned
    exact routeEnds_silentDrop silent

end RouteEnds

/-! ### The plan of a pass -/

section Plan

variable {backend : Backend} {queue : JobQueue} {packet : Packet}
variable {address : DivertAddress}

/-- Why a captured UDP packet may be handed back. -/
inductive UdpPasses (backend : Backend) (packet : Packet) : Prop
  | rejected {error : Error} (rejected : udpView packet = .error error) :
      UdpPasses backend packet
  | upstream {view : UdpView} (viewed : udpView packet = .ok view)
      (registered :
        backend.upstream false (wordAt packet view.udp) view.ipv6 = true) :
      UdpPasses backend packet
  | policy {view : UdpView} {decision : RuleDecision} {rule : Rule}
      (viewed : udpView packet = .ok view)
      (passes : PolicyPasses backend.snapshot.config backend.network
        (packet.drop view.payload) decision rule) :
      UdpPasses backend packet

/-- Why an outbound TCP segment may be handed back. -/
inductive TcpPasses (backend : Backend) (packet : Packet) : Prop
  | rejected {error : Error} (rejected : tcpView packet = .error error) :
      TcpPasses backend packet
  | elsewhere {view : TcpView} (viewed : tcpView packet = .ok view)
      (elsewhere :
        wordAt packet (view.tcp + 2) ≠ backend.interceptedTcpPort) :
      TcpPasses backend packet
  | upstream {view : TcpView} (viewed : tcpView packet = .ok view)
      (registered :
        backend.upstream true (wordAt packet view.tcp) view.ipv6 = true) :
      TcpPasses backend packet

/-- The captured packet may be handed back, by its protocol. -/
structure MayPass (backend : Backend) (packet : Packet)
    (address : DivertAddress) : Prop where
  udp : isTcpPacket packet ≠ .ok true → UdpPasses backend packet
  tcp : isTcpPacket packet = .ok true → address.outbound = true →
    TcpPasses backend packet

theorem mayPass_udp (notTcp : isTcpPacket packet = .ok false)
    (passes : UdpPasses backend packet) : MayPass backend packet address where
  udp := fun _ => passes
  tcp := by
    intro isTcp
    rw [notTcp] at isTcp
    cases isTcp

theorem mayPass_tcp (isTcp : isTcpPacket packet = .ok true)
    (passes : address.outbound = true → TcpPasses backend packet) :
    MayPass backend packet address where
  udp := fun notTcp => absurd isTcp notTcp
  tcp := fun _ => passes

theorem marked_eq_ok {α : Type} {policySelected : Bool} {outcome : Checked α}
    {value : α} :
    marked policySelected outcome = .ok value ↔ outcome = .ok value := by
  unfold marked
  cases outcome with
  | error error =>
      exact ⟨fun made => (by cases made), fun made => (by cases made)⟩
  | ok made =>
      constructor
      · intro same
        cases same
        rfl
      · intro same
        cases same
        rfl

theorem marked_eq_error {α : Type} {policySelected : Bool}
    {outcome : Checked α} {raised : Raised}
    (failed : marked policySelected outcome = .error raised) :
    raised.policySelected = policySelected := by
  unfold marked at failed
  cases outcome with
  | error error =>
      cases failed
      rfl
  | ok made =>
      cases failed

/-- A TCP plan raises only after the policy is selected, and hands back an
outbound segment for a reason. -/
structure TcpPlanned (backend : Backend) (packet : Packet)
    (address : DivertAddress) (view : TcpView)
    (plan : Except Raised Handling) : Prop where
  raised : ∀ raised, plan = .error raised → raised.policySelected = true
  injects : plan = .ok (.injects packet address) → address.outbound = true →
    wordAt packet (view.tcp + 2) ≠ backend.interceptedTcpPort ∨
      backend.upstream true (wordAt packet view.tcp) view.ipv6 = true
  offers : ∀ offered, plan ≠ .ok (.offers offered)

theorem tcpPlanned_turned {view : TcpView} {outcome : Checked Handling}
    (turned : ∀ handling, outcome = .ok handling →
      handling = .ignores ∨
        ∃ sent sentAddress, handling = .injects sent sentAddress ∧
          sentAddress.outbound = false) :
    TcpPlanned backend packet address view (marked true outcome) where
  raised := fun _ failed => marked_eq_error failed
  injects := by
    intro injected outbound
    rcases turned _ (marked_eq_ok.mp injected) with
      ignored | ⟨_, _, same, inbound⟩
    · cases ignored
    · cases same
      rw [outbound] at inbound
      cases inbound
  offers := by
    intro offered offers
    rcases turned _ (marked_eq_ok.mp offers) with
      ignored | ⟨_, _, same, _⟩
    · cases ignored
    · cases same

theorem resetTcp_turned {handling : Handling}
    (made : resetTcp packet address = .ok handling) :
    handling = .ignores ∨
      ∃ sent sentAddress, handling = .injects sent sentAddress ∧
        sentAddress.outbound = false := by
  simp only [resetTcp, bind_eq_ok] at made
  obtain ⟨reset, _, made⟩ := made
  split at made
  · cases made
    exact Or.inl rfl
  · cases made
    exact Or.inr ⟨_, _, rfl, rfl⟩

theorem reflectTcp_turned {view : TcpView} {towardProxy : Bool}
    {handling : Handling}
    (made : reflectTcp backend packet address view towardProxy =
      .ok handling) :
    handling = .ignores ∨
      ∃ sent sentAddress, handling = .injects sent sentAddress ∧
        sentAddress.outbound = false := by
  simp only [reflectTcp, bind_eq_ok] at made
  obtain ⟨_, _, reflected, _, made⟩ := made
  split at made
  · cases made
  · cases made
    exact Or.inr ⟨_, _, rfl, rfl⟩

theorem planTcp_planned (backend : Backend) (packet : Packet)
    (address : DivertAddress) (view : TcpView) :
    TcpPlanned backend packet address view
      (planTcp backend packet address view) := by
  have injecting : ∀ {reason : address.outbound = true →
      wordAt packet (view.tcp + 2) ≠ backend.interceptedTcpPort ∨
        backend.upstream true (wordAt packet view.tcp) view.ipv6 = true},
      TcpPlanned backend packet address view
        (.ok (.injects packet address)) := by
    intro reason
    exact ⟨fun _ failed => (by cases failed), fun _ => reason,
      fun _ offers => (by cases offers)⟩
  unfold planTcp
  dsimp only
  split
  · rename_i inbound
    apply injecting
    intro outbound
    rw [inbound] at outbound
    cases outbound
  · split
    · rename_i registered
      exact @injecting fun _ => Or.inr registered.2
    · split
      · exact tcpPlanned_turned fun _ => resetTcp_turned
      · split
        · rename_i elsewhere
          exact @injecting fun _ => Or.inl elsewhere.1
        · exact tcpPlanned_turned fun _ => reflectTcp_turned

/-- A UDP plan raises only after the policy is selected, hands back a packet
for a reason, and offers queries only. -/
structure UdpPlanned (backend : Backend) (packet : Packet)
    (address : DivertAddress) (view : UdpView)
    (plan : Except Raised Handling) : Prop where
  raised : ∀ raised, plan = .error raised → raised.policySelected = true
  injects : ∀ sent sentAddress, plan = .ok (.injects sent sentAddress) →
    UdpPasses backend packet
  offers : ∀ offered, plan = .ok (.offers offered) → offered = view ∧
    ∃ question, ValidQuery (packet.drop view.payload) question

theorem planUdp_planned {view : UdpView} (address : DivertAddress)
    (viewed : udpView packet = .ok view) :
    UdpPlanned backend packet address view
      (planUdp backend packet address view) := by
  unfold planUdp
  split
  · rename_i registered
    exact ⟨fun _ failed => (by cases failed),
      fun _ _ _ => .upstream viewed registered,
      fun _ offers => (by cases offers)⟩
  · have judged : ∀ {handling}, marked true (do
        let decision ← judgeQuery backend (packet.drop view.payload)
        if decision.reinjectUdp = true then
          pure (.injects packet address)
        else pure (.offers view)) = .ok handling →
        ∃ question decision,
          ValidQuery (packet.drop view.payload) question ∧
          evaluateRule backend.snapshot.config question.name backend.network =
            .ok decision ∧
          (if decision.reinjectUdp = true then
            pure (Handling.injects packet address)
          else pure (.offers view)) = (.ok handling : Checked Handling) := by
      intro handling planned
      obtain ⟨decision, judged, rest⟩ :=
        bind_eq_ok.mp (marked_eq_ok.mp planned)
      simp only [judgeQuery, bind_eq_ok, rejectIf_eq_ok, not_not] at judged
      obtain ⟨question, parsed, _, query, evaluated⟩ := judged
      exact ⟨question, decision, ⟨parsed, query⟩, evaluated, rest⟩
    refine ⟨fun _ failed => marked_eq_error failed, ?_, ?_⟩
    · intro sent sentAddress planned
      obtain ⟨question, decision, query, evaluated, rest⟩ := judged planned
      split at rest
      · rename_i reinject
        obtain ⟨rule, passes⟩ :=
          policyPasses_of_reinject query evaluated reinject
        exact .policy viewed passes
      · cases rest
    · intro offered planned
      obtain ⟨question, decision, query, _, rest⟩ := judged planned
      split at rest
      · cases rest
      · cases rest
        exact ⟨rfl, question, query⟩

/-- The whole plan: an unselected error and an injection of the captured packet
have a reason, and an offer is a query. -/
structure Planned (backend : Backend) (packet : Packet)
    (address : DivertAddress) (plan : Except Raised Handling) : Prop where
  raised : ∀ raised, plan = .error raised → raised.policySelected = false →
    MayPass backend packet address
  injects : plan = .ok (.injects packet address) →
    MayPass backend packet address
  offers : ∀ view, plan = .ok (.offers view) → udpView packet = .ok view ∧
    ∃ question, ValidQuery (packet.drop view.payload) question

theorem planPacket_planned (backend : Backend) (packet : Packet)
    (address : DivertAddress) :
    Planned backend packet address (planPacket backend packet address) := by
  have failing : ∀ {raised : Raised}, MayPass backend packet address →
      Planned backend packet address (.error raised) := fun passes =>
    ⟨fun _ _ _ => passes, fun injected => (by cases injected),
      fun _ offers => (by cases offers)⟩
  unfold planPacket
  cases kind : isTcpPacket packet with
  | error error =>
      obtain ⟨rejected, rejects⟩ := isTcpPacket_error kind
      exact failing
        { udp := fun _ => .rejected rejects
          tcp := fun isTcp => (by rw [kind] at isTcp; cases isTcp) }
  | ok tcp =>
      rw [marked_eq_ok.mpr rfl, ok_bind]
      cases tcp with
      | true =>
          rw [if_pos rfl]
          cases viewed : tcpView packet with
          | error error =>
              exact failing (mayPass_tcp kind fun _ => .rejected viewed)
          | ok view =>
              rw [marked_eq_ok.mpr rfl, ok_bind]
              have planned := planTcp_planned backend packet address view
              refine ⟨?_, ?_, ?_⟩
              · intro raised failed unselected
                rw [planned.raised raised failed] at unselected
                cases unselected
              · intro injected
                refine mayPass_tcp kind fun outbound => ?_
                rcases planned.injects injected outbound with
                  elsewhere | registered
                · exact .elsewhere viewed elsewhere
                · exact .upstream viewed registered
              · intro offered offers
                exact absurd offers (planned.offers offered)
      | false =>
          rw [if_neg Bool.false_ne_true]
          cases viewed : udpView packet with
          | error error =>
              exact failing (mayPass_udp kind (.rejected viewed))
          | ok view =>
              rw [marked_eq_ok.mpr rfl, ok_bind]
              have planned := @planUdp_planned backend packet view address viewed
              refine ⟨?_, ?_, ?_⟩
              · intro raised failed unselected
                rw [planned.raised raised failed] at unselected
                cases unselected
              · intro injected
                exact mayPass_udp kind (planned.injects _ _ injected)
              · intro offered offers
                obtain ⟨rfl, query⟩ := planned.offers offered offers
                exact ⟨viewed, query⟩

end Plan

end NativeDNS

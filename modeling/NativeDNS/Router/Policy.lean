/-
What the selected rule allows `route` to do.

A rule that does not reach the cached exchange contacts nobody and reads no
cache.  A rule that does reach it determines the servers of the whole call:
those its own leader contacts, and those of any other caller whose reply it may
be given, because equal keys name the same configured server.
-/
import NativeDNS.Router.Answering
import NativeDNS.Router.CacheKey

namespace NativeDNS

open ByteText (text byte decimal not_mem_decimal append_separator_inj
  decimal_injective)
open CheckedResult

/-- An original server that stands for one destination: it is no member of a
fallback group. -/
def Alone (original : Server) : Prop :=
  original.id = 0 ∨ original.fallbackIds = []

/-- What a call of `route` hands to the cached exchange. -/
def RoutedBy (snapshot : Snapshot) (around : Surroundings) (request : Packet)
    (original : Server) (demand : Demand) : Prop :=
  ∃ result question,
    planRoute snapshot around request original =
      .exchanges result question demand

/-- The demands of calls of `route`. -/
def Routed (snapshot : Snapshot) (demand : Demand) : Prop :=
  ∃ around request original, RoutedBy snapshot around request original demand

def Upstream (config : Config) (id : UInt32) (server : Server) : Prop :=
  Reaches config.servers id server ∧ (server.id = id ∨ server.enabled = true)

def SameEndpoint (attempt server : Server) : Prop :=
  attempt =
    { server with
      route := attempt.route
      timeoutMs := attempt.timeoutMs }

theorem SameEndpoint.refl (server : Server) : SameEndpoint server server :=
  rfl

theorem SameEndpoint.id {attempt server : Server}
    (same : SameEndpoint attempt server) : attempt.id = server.id := by
  rw [same]

theorem SameEndpoint.fallbackIds {attempt server : Server}
    (same : SameEndpoint attempt server) :
    attempt.fallbackIds = server.fallbackIds := by
  rw [same]

theorem SameEndpoint.attemptServer {candidate server : Server}
    (route : NetworkRoute) (remainingMs : Nat)
    (same : SameEndpoint candidate server) :
    SameEndpoint (attemptServer route remainingMs candidate) server := by
  unfold SameEndpoint at same ⊢
  unfold NativeDNS.attemptServer
  rw [same]

/-! ### The plan of a decision -/

structure PlansExchange (snapshot : Snapshot) (around : Surroundings)
    (request : Packet) (original : Server) (question : Question)
    (demand : Demand) (decision : RuleDecision) (rule : Rule) : Prop where
  query : ValidQuery request question
  evaluated : evaluateRule snapshot.config question.name around.network =
    .ok decision
  selected : decision.rule = some rule
  noError : decision.errorCode = ""
  notPassed : ¬ (decision.captiveBypass = true ∨ rule.action = .bypass)
  notBlocked : rule.action ≠ .block
  demanded : routeDemand snapshot around.shared request original decision
    rule = .ok demand

theorem planDecision_exchanges {snapshot : Snapshot} {shared : NetworkSnapshot}
    {request : Packet} {original : Server} {question asked : Question}
    {decision : RuleDecision} {rule : Rule} {result : RouteResult}
    {demand : Demand}
    (planned : planDecision snapshot shared request original question decision
      rule = .exchanges result asked demand) :
    asked = question ∧ decision.errorCode = "" ∧
      ¬ (decision.captiveBypass = true ∨ rule.action = .bypass) ∧
      rule.action ≠ .block ∧
      routeDemand snapshot shared request original decision rule =
        .ok demand := by
  unfold planDecision at planned
  by_cases failed : decision.errorCode ≠ ""
  · rw [if_pos failed] at planned
    cases planned
  rw [if_neg failed] at planned
  by_cases passed : decision.captiveBypass = true ∨ rule.action = .bypass
  · rw [if_pos passed] at planned
    cases planned
  rw [if_neg passed] at planned
  by_cases blocked : rule.action = .block
  · rw [if_pos blocked] at planned
    split at planned
    · cases planned
    · split at planned
      · cases planned
      · cases planned
  rw [if_neg blocked] at planned
  cases demanded : routeDemand snapshot shared request original decision rule with
  | error error =>
      rw [demanded] at planned
      cases planned
  | ok made =>
      rw [demanded] at planned
      cases planned
      exact ⟨rfl, not_not.mp failed, passed, blocked, rfl⟩

theorem planRoute_exchanges {snapshot : Snapshot} {around : Surroundings}
    {request : Packet} {original : Server} {demand : Demand}
    (routed : RoutedBy snapshot around request original demand) :
    ∃ question decision rule, PlansExchange snapshot around request original
      question demand decision rule := by
  obtain ⟨result, asked, planned⟩ := routed
  unfold planRoute at planned
  cases parsed : parseQuestion request with
  | error error =>
      rw [parsed] at planned
      cases planned
  | ok question =>
      rw [parsed] at planned
      dsimp only at planned
      by_cases reply : question.flags &&& 0x8000 ≠ 0
      · rw [if_pos reply] at planned
        cases planned
      rw [if_neg reply] at planned
      cases evaluated : evaluateRule snapshot.config question.name
          around.network with
      | error error =>
          rw [evaluated] at planned
          cases planned
      | ok decision =>
          rw [evaluated] at planned
          cases selected : decision.rule with
          | none =>
              simp only [selected] at planned
              cases planned
          | some rule =>
              simp only [selected] at planned
              obtain ⟨_, noError, notPassed, notBlocked, demanded⟩ :=
                planDecision_exchanges planned
              exact ⟨question, decision, rule, ⟨parsed, not_not.mp reply⟩,
                evaluated, selected, noError, notPassed, notBlocked, demanded⟩

theorem PlansExchange.unique {snapshot : Snapshot} {around : Surroundings}
    {request : Packet} {original : Server} {question other : Question}
    {demand : Demand} {decision made : RuleDecision} {rule chosen : Rule}
    (plans : PlansExchange snapshot around request original other demand made
      chosen)
    (query : ValidQuery request question)
    (evaluated : evaluateRule snapshot.config question.name around.network =
      .ok decision)
    (selected : decision.rule = some rule) :
    PlansExchange snapshot around request original question demand decision
      rule := by
  have sameQuestion := plans.query.1.symm.trans query.1
  cases sameQuestion
  have sameDecision := plans.evaluated.symm.trans evaluated
  cases sameDecision
  have sameRule := plans.selected.symm.trans selected
  cases sameRule
  exact plans

/-! ### The server of a demand -/

theorem withNetworkContext_endpoint (shared : NetworkSnapshot)
    (server : Server) : SameEndpoint (withNetworkContext shared server) server := by
  unfold withNetworkContext
  split
  · rfl
  · rfl

theorem routeDemand_eq_ok {snapshot : Snapshot} {shared : NetworkSnapshot}
    {request : Packet} {original : Server} {decision : RuleDecision}
    {rule : Rule} {demand : Demand} :
    routeDemand snapshot shared request original decision rule = .ok demand ↔
      ∃ server routed,
        selectServer snapshot.config.servers original rule = .ok server ∧
        bindServer decision rule server = .ok routed ∧
        demand =
          { request := request
            primary := withNetworkContext shared routed
            configured := decide (rule.serverId ≠ 0) } := by
  simp only [routeDemand, bind_eq_ok, pure_eq_ok, Except.ok.injEq]
  constructor
  · rintro ⟨server, chosen, routed, bound, built⟩
    exact ⟨server, routed, chosen, bound, built.symm⟩
  · rintro ⟨server, routed, chosen, bound, built⟩
    exact ⟨server, chosen, routed, bound, built.symm⟩

theorem routeDemand_configured {snapshot : Snapshot} {shared : NetworkSnapshot}
    {request : Packet} {original : Server} {decision : RuleDecision}
    {rule : Rule} {demand : Demand} (named : rule.serverId ≠ 0)
    (demanded : routeDemand snapshot shared request original decision rule =
      .ok demand) :
    demand.configured = true ∧ ∃ server,
      findServer snapshot.config.servers rule.serverId = some server ∧
      SameEndpoint demand.primary server := by
  obtain ⟨server, routed, chosen, bound, rfl⟩ := routeDemand_eq_ok.mp demanded
  refine ⟨decide_eq_true named, server, ?_, ?_⟩
  · unfold selectServer at chosen
    rw [if_pos named] at chosen
    split at chosen
    · rename_i found search
      cases chosen
      exact search
    · cases chosen
  · have endpoint : SameEndpoint routed server := by
      unfold bindServer at bound
      split at bound
      · cases bound
        rfl
      · cases bound
        rfl
    unfold SameEndpoint at endpoint ⊢
    rw [withNetworkContext_endpoint shared routed, endpoint]

/-- The destination of a rule without a server id: the original server, or the
first DNS server of the interface the rule is bound to, over that interface. -/
inductive OriginalTarget (around : Surroundings) (original : Server)
    (rule : Rule) : Server → Prop
  | unbound (free : interfaceSelector rule = []) :
      OriginalTarget around original rule
        (withNetworkContext around.shared original)
  | unnamed {info : InterfaceInfo} (bound : BoundInterface around.network rule info)
      (nameless : info.id = []) :
      OriginalTarget around original rule
        (withNetworkContext around.shared original)
  | bound {info : InterfaceInfo} {front : Bytes} {rest : List Bytes}
      (bound : BoundInterface around.network rule info) (named : info.id ≠ [])
      (dns : info.dnsServers = front :: rest) :
      OriginalTarget around original rule
        (withNetworkContext around.shared
          { original with
            route := (boundDecision around.network rule info).route
            ip := front
            port := 53 })

@[simp] theorem settleRule_interfaceDns (options : RuntimeOptions)
    (host : Bytes) (network : NetworkSnapshot) (rule : Rule)
    (decision : RuleDecision) :
    (settleRule options host network rule decision).interfaceDns =
      decision.interfaceDns := by
  unfold settleRule
  split
  · rfl
  · rfl

theorem evaluateRule_interface {config : Config} {hostname : Bytes}
    {network : NetworkSnapshot} {decision : RuleDecision} {rule : Rule}
    (evaluated : evaluateRule config hostname network = .ok decision)
    (selected : decision.rule = some rule) (noError : decision.errorCode = "") :
    (interfaceSelector rule = [] ∧ decision.route.interfaceId = []) ∨
      ∃ info, BoundInterface network rule info ∧
        decision.route = (boundDecision network rule info).route ∧
        decision.interfaceDns = info.dnsServers := by
  obtain ⟨host, options, chosen, _, _, decides⟩ := evaluateRule_decides evaluated
  have sameRule := (decideRule_rule decides.decided).symm.trans selected
  cases sameRule
  rcases decideRule_cases decides.decided with
    ⟨free, rfl⟩ | ⟨info, bound, rfl⟩ | ⟨error, _, failed, rfl⟩
  · exact Or.inl ⟨free, by rw [settleRule_route]⟩
  · exact Or.inr ⟨info, bound, settleRule_route .., by rw [settleRule_interfaceDns]; rfl⟩
  · exact absurd noError failed

theorem PlansExchange.originalTarget {snapshot : Snapshot}
    {around : Surroundings} {request : Packet} {original : Server}
    {question : Question} {demand : Demand} {decision : RuleDecision}
    {rule : Rule}
    (plans : PlansExchange snapshot around request original question demand
      decision rule) (unnamed : rule.serverId = 0) :
    demand.configured = false ∧
      OriginalTarget around original rule demand.primary ∧
      demand.primary.id = original.id ∧
      demand.primary.fallbackIds = original.fallbackIds := by
  obtain ⟨server, routed, chosen, bound, rfl⟩ :=
    routeDemand_eq_ok.mp plans.demanded
  have isOriginal : server = original := by
    unfold selectServer at chosen
    rw [if_neg (not_not.mpr unnamed)] at chosen
    cases chosen
    rfl
  subst isOriginal
  have kind : decide (rule.serverId ≠ 0) = false :=
    decide_eq_false (not_not.mpr unnamed)
  have context := withNetworkContext_endpoint around.shared
  unfold bindServer at bound
  rcases evaluateRule_interface plans.evaluated plans.selected plans.noError with
    ⟨free, plain⟩ | ⟨info, onInterface, onRoute, dns⟩
  · rw [if_neg (not_not.mpr plain)] at bound
    cases bound
    exact ⟨kind, .unbound free, (context server).id,
      (context server).fallbackIds⟩
  · by_cases nameless : decision.route.interfaceId = []
    · rw [if_neg (not_not.mpr nameless)] at bound
      cases bound
      rw [onRoute] at nameless
      exact ⟨kind, .unnamed onInterface nameless, (context server).id,
        (context server).fallbackIds⟩
    · rw [if_pos nameless, if_pos unnamed] at bound
      split at bound
      · cases bound
      · rename_i front rest dnsEq
        cases bound
        rw [onRoute] at nameless ⊢
        exact ⟨kind, .bound onInterface nameless (dns ▸ dnsEq), (context _).id,
          (context _).fallbackIds⟩

/-! ### The servers of an exchange -/

theorem Reaches.prepend {servers : List Server} {id start : UInt32}
    {first server : Server} (found : findServer servers start = some first)
    (listed : id ∈ first.fallbackIds) (reached : Reaches servers id server) :
    Reaches servers start server := by
  induction reached with
  | self search =>
      exact .fallback (.self found) listed search
  | fallback _ further search earlier =>
      exact .fallback earlier further search

/-- Every attempt of an exchange for a configured server is made at a server
its fallbacks lead to. -/
theorem AttemptAt.upstream {config : Config} {primary selected : Server}
    {attempt candidate : Server} {id : UInt32}
    (found : findServer config.servers id = some selected)
    (same : SameEndpoint primary selected)
    (attempted : AttemptAt config.servers primary attempt candidate) :
    ∃ server, Upstream config id server ∧ SameEndpoint attempt server ∧
      SameEndpoint candidate server := by
  have isSelected : Upstream config id selected :=
    ⟨.self found, Or.inl (findServer_some found).2⟩
  cases attempted with
  | single alone =>
      exact ⟨selected, isSelected, same, same⟩
  | candidate grouped member =>
      obtain ⟨enabled, whence⟩ := groupCandidates_mem member
      rcases whence with rfl | ⟨first, listed, reached⟩
      · exact ⟨selected, isSelected, same.attemptServer _ _, same⟩
      · rw [same.fallbackIds] at listed
        exact ⟨candidate, ⟨reached.prepend found listed, Or.inr enabled⟩,
          (SameEndpoint.refl candidate).attemptServer _ _, .refl candidate⟩

theorem AttemptAt.eq_primary {servers : List Server} {primary : Server}
    {attempt candidate : Server}
    (alone : primary.id = 0 ∨ primary.fallbackIds = [])
    (attempted : AttemptAt servers primary attempt candidate) :
    attempt = primary := by
  cases attempted with
  | single _ => rfl
  | candidate grouped _ => exact absurd alone grouped

/-- Equal keys are keys of the same kind, and name the same configured
server. -/
theorem key_upstream {left right : Demand} (same : left.key = right.key)
    (configured : left.configured = true) :
    right.configured = true ∧ left.primary.id = right.primary.id := by
  have free : ∀ value, byte '|' ∉ decimal value :=
    not_mem_decimal (by decide)
  unfold Demand.key cacheKey at same
  rw [configured] at same
  cases kind : right.configured with
  | false =>
      -- the kinds differ in their first byte
      rw [kind] at same
      have heads := congrArg List.head? same
      cases heads
  | true =>
      rw [kind] at same
      simp only [if_true] at same
      have upstream := (append_separator_inj (free _) (free _)
        (List.append_cancel_left same)).1
      exact ⟨rfl, UInt32.toNat_inj.mp (decimal_injective upstream)⟩

/-! ### Enforcement -/

/-- The reply of a call for a configured server comes from an exchange whose
transport answered for a server of that policy. -/
structure UpstreamReply (snapshot : Snapshot) (world : World)
    (demand : Demand) (id : UInt32) (source : Source) (reply : Reply)
    (run : GroupRun) (server : Server) : Prop where
  member : run ∈ world.runs
  performed : Performed snapshot run
  delivered : Delivered snapshot run demand source reply
  upstream : Upstream snapshot.config id server
  answered : SameEndpoint run.server server
  used : reply.usedServerId = server.id

/-- What the rule of a decision enforces. -/
structure Enforced (snapshot : Snapshot) (around : Surroundings)
    (request : Packet) (original : Server) (decision : RuleDecision)
    (rule : Rule) : Prop where
  failed : decision.errorCode ≠ "" →
    ∀ demand, ¬ RoutedBy snapshot around request original demand
  block : rule.action = .block →
    ∀ demand, ¬ RoutedBy snapshot around request original demand
  bypass : decision.errorCode = "" →
    decision.captiveBypass = true ∨ rule.action = .bypass →
    (∀ demand, ¬ RoutedBy snapshot around request original demand) ∧
      ∀ exchanged, route snapshot around exchanged request original =
        .ok
          { ruleResult rule with
            disposition := .forwardOriginal
            packet := request }
  unnamed : Alone original → rule.serverId = 0 → ∀ world,
    Reached snapshot (Routed snapshot) world → ∀ call ∈ world.calls,
    RoutedBy snapshot around request original call.demand →
    ∀ attempt ∈ call.contacted, OriginalTarget around original rule attempt
  named : rule.serverId ≠ 0 → ∀ world,
    Reached snapshot (Routed snapshot) world → ∀ call ∈ world.calls,
    RoutedBy snapshot around request original call.demand →
    (∀ attempt ∈ call.contacted, ∃ server,
      Upstream snapshot.config rule.serverId server ∧
        SameEndpoint attempt server) ∧
    ∀ source reply, call.phase = .finished source (.ok reply) →
      ∃ run server, UpstreamReply snapshot world call.demand rule.serverId
        source reply run server

section Calls

variable {snapshot : Snapshot} {around : Surroundings} {request : Packet}
variable {original : Server} {question : Question} {decision : RuleDecision}
variable {rule : Rule} {world : World} {call : Call}

theorem contacted_original (alone : Alone original)
    (reached : Reached snapshot (Routed snapshot) world)
    (member : call ∈ world.calls)
    (plans : PlansExchange snapshot around request original question
      call.demand decision rule) (unnamed : rule.serverId = 0) :
    ∀ attempt ∈ call.contacted, OriginalTarget around original rule attempt := by
  intro attempt contacted
  obtain ⟨candidate, attempted⟩ :=
    (reached.provenant.calls call member).contacted attempt contacted
  obtain ⟨_, target, sameId, sameFallbacks⟩ := plans.originalTarget unnamed
  have lone : call.demand.primary.id = 0 ∨
      call.demand.primary.fallbackIds = [] := by
    rw [sameId, sameFallbacks]
    exact alone
  rw [attempted.eq_primary lone]
  exact target

theorem contacted_configured
    (reached : Reached snapshot (Routed snapshot) world)
    (member : call ∈ world.calls)
    (plans : PlansExchange snapshot around request original question
      call.demand decision rule) (named : rule.serverId ≠ 0) :
    ∀ attempt ∈ call.contacted, ∃ server,
      Upstream snapshot.config rule.serverId server ∧
        SameEndpoint attempt server := by
  intro attempt contacted
  obtain ⟨candidate, attempted⟩ :=
    (reached.provenant.calls call member).contacted attempt contacted
  obtain ⟨_, selected, found, same⟩ :=
    routeDemand_configured named plans.demanded
  obtain ⟨server, upstream, endpoint, _⟩ := attempted.upstream found same
  exact ⟨server, upstream, endpoint⟩

/-- The run behind a reply was made for the same configured server, whoever
made it. -/
theorem replied_configured
    (reached : Reached snapshot (Routed snapshot) world)
    (member : call ∈ world.calls)
    (plans : PlansExchange snapshot around request original question
      call.demand decision rule) (named : rule.serverId ≠ 0)
    {source : Source} {reply : Reply}
    (returned : call.phase = .finished source (.ok reply)) :
    ∃ run server, UpstreamReply snapshot world call.demand rule.serverId
      source reply run server := by
  have provenant := reached.provenant
  have phase := (provenant.calls call member).phase
  rw [returned] at phase
  obtain ⟨_, run, inRuns, sameKey, delivered⟩ := phase reply rfl
  obtain ⟨performed, routed, _⟩ := provenant.runs run inRuns
  obtain ⟨configured, selected, found, same⟩ :=
    routeDemand_configured named plans.demanded
  obtain ⟨runConfigured, sameId⟩ := key_upstream sameKey.symm configured
  -- the run was planned by a rule that names the same server
  obtain ⟨_, _, _, runRouted⟩ := routed
  obtain ⟨_, _, runRule, runPlans⟩ := planRoute_exchanges runRouted
  have runNamed : runRule.serverId ≠ 0 := by
    intro unnamed
    rw [(runPlans.originalTarget unnamed).1] at runConfigured
    cases runConfigured
  obtain ⟨_, runSelected, runFound, runSame⟩ :=
    routeDemand_configured runNamed runPlans.demanded
  have sameServer : runRule.serverId = rule.serverId := by
    rw [← (findServer_some runFound).2, ← runSame.id, ← sameId, same.id,
      (findServer_some found).2]
  rw [sameServer] at runFound
  obtain ⟨env, before, after, exchanged, grown⟩ := performed
  obtain ⟨_, attempt, attempted, _⟩ :=
    (exchangeGroup_tried exchanged).used _ _ rfl
  obtain ⟨server, upstream, _, endpoint⟩ := attempted.upstream runFound runSame
  refine ⟨run, server, inRuns, ⟨env, before, after, exchanged, grown⟩, delivered,
    upstream, endpoint, ?_⟩
  rw [delivered.used, GroupRun.usedServerId, if_pos runConfigured, endpoint.id]

end Calls

/-- The rule that the evaluation selects is enforced, in every run of the calls
on the snapshot. -/
theorem route_enforces {snapshot : Snapshot} {around : Surroundings}
    {request : Packet} {original : Server} {question : Question}
    {decision : RuleDecision} {rule : Rule} (query : ValidQuery request question)
    (evaluated : evaluateRule snapshot.config question.name around.network =
      .ok decision)
    (selected : decision.rule = some rule) :
    Enforced snapshot around request original decision rule := by
  have plansOf : ∀ {demand},
      RoutedBy snapshot around request original demand →
      PlansExchange snapshot around request original question demand decision
        rule := by
    intro demand routed
    obtain ⟨_, _, _, plans⟩ := planRoute_exchanges routed
    exact plans.unique query evaluated selected
  refine ⟨?_, ?_, ?_, ?_, ?_⟩
  · intro failed demand routed
    exact failed (plansOf routed).noError
  · intro block demand routed
    exact (plansOf routed).notBlocked block
  · intro noError passed
    refine ⟨fun demand routed => (plansOf routed).notPassed passed, ?_⟩
    intro exchanged
    unfold route planRoute
    rw [query.1]
    dsimp only
    rw [if_neg (not_not.mpr query.2), evaluated]
    simp only [selected]
    unfold planDecision
    rw [if_neg (not_not.mpr noError), if_pos passed]
  · intro alone unnamed world reached call member routed
    exact contacted_original alone reached member (plansOf routed) unnamed
  · intro named world reached call member routed
    exact ⟨contacted_configured reached member (plansOf routed) named,
      fun _ _ returned =>
        replied_configured reached member (plansOf routed) named returned⟩

/-! ### Runs of a fallback group -/

def groupFirst : Server :=
  { id := 10
    name := text "first"
    ip := text "10.0.0.1"
    port := 53
    fallbackIds := [11] }

/-- Two servers, the first with the second as its fallback, and a Default rule
for a given server. -/
def groupConfig (serverId : UInt32) : Config :=
  { servers :=
      [groupFirst,
       { id := 11
         name := text "second"
         ip := text "10.0.0.2"
         port := 53 }]
    rules :=
      [{ id := 1
         name := text "Default"
         isDefault := true
         patterns := [text "*"]
         serverId := serverId }] }

def groupSnapshot (serverId : UInt32) : Snapshot :=
  { platform := ipv4Platform
    config := groupConfig serverId
    options := {} }

def groupDemand (configured : Bool) (primary : Server) : Demand :=
  { request := plainQuery
    primary := primary
    configured := configured }

def failingFirst : GroupEnv where
  clock := fun _ => 0
  interfere := fun _ health => health
  exchange := fun number _ =>
    if number = 0 then .error (.error (.of "TIMEOUT" "No answer"))
    else .ok plainReply
  sorting := .insertion

/-- A call for the first member is answered by the second, as the policy
allows. -/
theorem route_enforces_group :
    ∃ question decision rule,
      ValidQuery plainQuery question ∧
      evaluateRule (groupConfig 10) question.name {} = .ok decision ∧
      decision.rule = some rule ∧ rule.serverId = 10 ∧
      Enforced (groupSnapshot 10) {} plainQuery {} decision rule ∧
      ∃ world, Reached (groupSnapshot 10) (Routed (groupSnapshot 10)) world ∧
        ∃ call ∈ world.calls,
          RoutedBy (groupSnapshot 10) {} plainQuery {} call.demand ∧
          call.phase = .finished .led (.ok
            { packet := plainReply
              usedServerId := 11 }) := by
  have routed : RoutedBy (groupSnapshot 10) {} plainQuery {}
      (groupDemand true groupFirst) :=
    ⟨_, _, rfl⟩
  obtain ⟨world, reached, call, member, demandEq, _, phaseEq⟩ :=
    @exists_led_call (groupSnapshot 10) (Routed (groupSnapshot 10)) _
      ⟨_, _, _, routed⟩ (by decide) failingFirst
  refine ⟨_, _, _, ⟨rfl, by decide⟩, rfl, rfl, rfl,
    route_enforces ⟨rfl, by decide⟩ rfl rfl, world, reached, call,
    member, demandEq ▸ routed, ?_⟩
  rw [phaseEq]
  decide +kernel

/-- A configuration whose Default rule is a Bypass that also demands local
validation. -/
def validatingBypass : Config :=
  { rules :=
      [{ id := 1
         name := text "Default"
         isDefault := true
         patterns := [text "*"]
         action := .bypass
         dnssecValidate := true }] }

/-- A Bypass whose demand cannot be met is answered with an error, and an
original server that is a group member makes a Process rule without a server
contact its fallback. -/
theorem route_enforces_fails :
    (validate ipv4Platform validatingBypass = .ok () ∧
      ∃ question decision rule, ValidQuery plainQuery question ∧
        evaluateRule validatingBypass question.name {} = .ok decision ∧
        decision.rule = some rule ∧ rule.action = .bypass ∧
        ∀ exchanged original, ∃ result,
          route
              { platform := ipv4Platform
                config := validatingBypass
                options := {} } {} exchanged plainQuery original =
            .ok result ∧
          result.disposition = .reply ∧ result.packet ≠ plainQuery) ∧
    validate ipv4Platform (groupConfig 0) = .ok () ∧
      ∃ world, Reached (groupSnapshot 0)
          (RoutedBy (groupSnapshot 0) {} plainQuery groupFirst) world ∧
        ∃ call ∈ world.calls, ∃ attempt ∈ call.contacted,
          attempt.id = 11 := by
  constructor
  · refine ⟨by rfl, _, _, _, ⟨rfl, by decide⟩, rfl, rfl, rfl, ?_⟩
    intro exchanged original
    exact ⟨_, rfl, rfl, by decide⟩
  · refine ⟨by rfl, ?_⟩
    obtain ⟨world, reached, call, member, _, contactedEq, _⟩ :=
      @exists_led_call (groupSnapshot 0)
        (RoutedBy (groupSnapshot 0) {} plainQuery groupFirst)
        (groupDemand false groupFirst) ⟨_, _, rfl⟩ (by decide) failingFirst
    have second : ∃ attempt ∈ (exchangeGroup failingFirst
        (groupSnapshot 0).config.servers groupFirst
        { health := OrderedMap.empty }).2.contacted, attempt.id = 11 := by
      decide +kernel
    obtain ⟨attempt, contacted, isSecond⟩ := second
    exact ⟨world, reached, call, member, attempt, contactedEq ▸ contacted,
      isSecond⟩

end NativeDNS

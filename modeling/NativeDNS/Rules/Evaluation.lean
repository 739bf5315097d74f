/-
Rule evaluation: the policy decision shared by the router and the packet
fast path.

The network snapshot is the caller's, or the one of the shared monitor when
the caller passes none; the loop reads it at most once, so one value stands
for both.
-/
import NativeDNS.Rules.Validation
import NativeDNS.Wire.NameText
import NativeDNS.Wire.Question

namespace NativeDNS

open ByteText (text byte)
open CheckedResult

structure RuleDecision where
  rule : Option Rule := none
  reinjectUdp : Bool := false
  captiveBypass : Bool := false
  route : NetworkRoute := {}
  interfaceDns : List Bytes := []
  errorCode : String := ""
  message : Bytes := []
  deriving DecidableEq

def captiveProbeHosts : List Bytes :=
  [text "dns.msftncsi.com", text "www.msftncsi.com", text "ipv6.msftncsi.com",
    text "www.msftconnecttest.com", text "ipv6.msftconnecttest.com"]

def selectorKind (rule : Rule) : Bytes :=
  (rule.metadata.find? (text "interface_id_type")).getD (text "id")

/-- The interface text a rule is bound to; a selection by name prefers the
recorded adapter name over the identifier. -/
def interfaceSelector (rule : Rule) : Bytes :=
  if selectorKind rule = text "name" then
    match rule.metadata.find? (text "interface_name") with
    | some name => if name = [] then rule.interfaceId else name
    | none => rule.interfaceId
  else rule.interfaceId

def matchesAny (host : Bytes) : List Bytes → Checked Bool
  | [] => pure false
  | pattern :: rest => do
      let pattern ← normalizeDnsName pattern true
      if hostMatches host pattern then pure true else matchesAny host rest

/-- The clamp interval that leaves every TTL as it is. -/
def defaultTtlInterval (options : RuntimeOptions) : Bool :=
  options.ttlMin == 0 && options.ttlMax == 2147483647

/-- An unbound Process Default steps aside while a portal is detected, and for
the probes of the operating system. -/
def captivePortalBypass (options : RuntimeOptions) (host : Bytes)
    (network : NetworkSnapshot) (rule : Rule) : Bool :=
  options.captivePortalDetection && decide (rule.action = .process) &&
    rule.isDefault && decide (interfaceSelector rule = []) &&
    (network.interfaces.any (fun info => info.up && info.captivePortal) ||
      captiveProbeHosts.contains host)

/-- The part of a decision after the interface is known: the DNSSEC demand,
the captive portal and the fast path of the packet backend. -/
def settleRule (options : RuntimeOptions) (host : Bytes)
    (network : NetworkSnapshot) (rule : Rule) (decision : RuleDecision) :
    RuleDecision :=
  if rule.dnssecValidate || rule.dnssecRejectUnsigned then
    { decision with
      errorCode := "NOT_IMPLEMENTED"
      message := text "Selected rule requires local DNSSEC validation" }
  else
    { decision with
      captiveBypass := captivePortalBypass options host network rule
      reinjectUdp :=
        captivePortalBypass options host network rule ||
          decide (rule.action = .bypass) ||
          (decide (rule.action = .process) && decide (rule.serverId = 0) &&
            decide (interfaceSelector rule = []) &&
            defaultTtlInterval options) }

def failedDecision (rule : Rule) (error : Error) : RuleDecision :=
  { rule := some rule
    errorCode := error.code
    message := error.message }

def boundDecision (network : NetworkSnapshot) (rule : Rule)
    (info : InterfaceInfo) : RuleDecision :=
  { rule := some rule
    route :=
      { interfaceId := info.id
        interfaceName := info.name
        index4 := info.index4
        index6 := info.index6
        scope6 := 0
        generation := network.generation }
    interfaceDns := info.dnsServers }

/-- The decision of a matching rule, or nothing when the rule is skipped
because its interface is down. -/
def decideRule (options : RuntimeOptions) (host : Bytes)
    (network : NetworkSnapshot) (rule : Rule) : Option RuleDecision :=
  if interfaceSelector rule = [] then
    some (settleRule options host network rule { rule := some rule })
  else if network.error ≠ [] then
    some (failedDecision rule
      { code := "INTERFACE_ENUMERATION"
        message := network.error })
  else
    match findInterface network (interfaceSelector rule) (selectorKind rule) with
    | .error error => some (failedDecision rule error)
    | .ok found =>
        match found.filter (·.up) with
        | none =>
            if options.ignoreInterfaceDown && !rule.isDefault then none
            else
              some (failedDecision rule
                { code := "INTERFACE_DOWN"
                  message := text "Required interface is unavailable: " ++
                    interfaceSelector rule })
        | some info =>
            some (settleRule options host network rule
              (boundDecision network rule info))

def evaluateRules (options : RuntimeOptions) (host : Bytes)
    (network : NetworkSnapshot) : List Rule → Checked RuleDecision
  | [] => throw (.of "DEFAULT" "No usable Default rule")
  | rule :: rest =>
      if rule.enabled = false then
        evaluateRules options host network rest
      else do
        let matched ← matchesAny host rule.patterns
        if matched = false then
          evaluateRules options host network rest
        else
          match decideRule options host network rule with
          | some decision => pure decision
          | none => evaluateRules options host network rest

def evaluateRule (config : Config) (hostname : Bytes)
    (network : NetworkSnapshot) : Checked RuleDecision := do
  let host ← normalizeDnsName hostname
  let options ← runtimeOptions config
  evaluateRules options host network config.rules

/-! ### What a decision says about its rule -/

@[simp] theorem settleRule_rule (options : RuntimeOptions) (host : Bytes)
    (network : NetworkSnapshot) (rule : Rule) (decision : RuleDecision) :
    (settleRule options host network rule decision).rule = decision.rule := by
  unfold settleRule
  split
  · rfl
  · rfl

@[simp] theorem settleRule_route (options : RuntimeOptions) (host : Bytes)
    (network : NetworkSnapshot) (rule : Rule) (decision : RuleDecision) :
    (settleRule options host network rule decision).route = decision.route := by
  unfold settleRule
  split
  · rfl
  · rfl

theorem findInterface_error {network : NetworkSnapshot} {id kind : Bytes}
    {error : Error} (failed : findInterface network id kind = .error error) :
    error.code ≠ "" := by
  simp only [findInterface, bind_eq_error, rejectIf_eq_error] at failed
  rcases failed with ⟨_, rfl⟩ | ⟨_, _, ambiguous⟩
  · simp
  · split at ambiguous
    · cases ambiguous
    · cases ambiguous
    · cases ambiguous
      simp [Error.of]

structure BoundInterface (network : NetworkSnapshot) (rule : Rule)
    (info : InterfaceInfo) : Prop where
  selector : interfaceSelector rule ≠ []
  enumerated : network.error = []
  found : findInterface network (interfaceSelector rule) (selectorKind rule) =
    .ok (some info)
  up : info.up = true

/-- How a matching rule is decided: settled without an interface, settled on
its adapter that is up, or failed with a nonempty code. -/
theorem decideRule_cases {options : RuntimeOptions} {host : Bytes}
    {network : NetworkSnapshot} {rule : Rule} {decision : RuleDecision}
    (decided : decideRule options host network rule = some decision) :
    (interfaceSelector rule = [] ∧
        decision =
          settleRule options host network rule { rule := some rule }) ∨
      (∃ info, BoundInterface network rule info ∧
        decision = settleRule options host network rule
          (boundDecision network rule info)) ∨
      (∃ error : Error, interfaceSelector rule ≠ [] ∧ error.code ≠ "" ∧
        decision = failedDecision rule error) := by
  unfold decideRule at decided
  by_cases unbound : interfaceSelector rule = []
  · rw [if_pos unbound] at decided
    exact Or.inl ⟨unbound, (Option.some.inj decided).symm⟩
  rw [if_neg unbound] at decided
  by_cases enumeration : network.error ≠ []
  · rw [if_pos enumeration] at decided
    exact Or.inr (Or.inr ⟨_, unbound, by simp,
      (Option.some.inj decided).symm⟩)
  rw [if_neg enumeration] at decided
  cases search : findInterface network (interfaceSelector rule)
      (selectorKind rule) with
  | error error =>
      rw [search] at decided
      exact Or.inr (Or.inr ⟨error, unbound, findInterface_error search,
        (Option.some.inj decided).symm⟩)
  | ok found =>
      simp only [search] at decided
      cases usable : found.filter (·.up) with
      | none =>
          simp only [usable] at decided
          split at decided
          · cases decided
          · exact Or.inr (Or.inr ⟨_, unbound, by simp,
              (Option.some.inj decided).symm⟩)
      | some info =>
          simp only [usable] at decided
          obtain ⟨foundEq, up⟩ := Option.filter_eq_some_iff.mp usable
          subst foundEq
          exact Or.inr (Or.inl ⟨info, ⟨unbound, not_not.mp enumeration, search, up⟩,
            (Option.some.inj decided).symm⟩)

theorem decideRule_rule {options : RuntimeOptions} {host : Bytes}
    {network : NetworkSnapshot} {rule : Rule} {decision : RuleDecision}
    (decided : decideRule options host network rule = some decision) :
    decision.rule = some rule := by
  rcases decideRule_cases decided with
    ⟨_, rfl⟩ | ⟨info, _, rfl⟩ | ⟨error, _, _, rfl⟩
  · exact settleRule_rule ..
  · exact settleRule_rule ..
  · rfl

/-- The conditions under which a decision lets a packet pass unanswered. -/
structure LetsThrough (options : RuntimeOptions) (host : Bytes)
    (network : NetworkSnapshot) (rule : Rule) (decision : RuleDecision) :
    Prop where
  noError : decision.errorCode = ""
  noDnssec : rule.dnssecValidate = false ∧ rule.dnssecRejectUnsigned = false
  reason :
    rule.action = .bypass ∨
      (rule.action = .process ∧ interfaceSelector rule = [] ∧
        ((decision.captiveBypass = true ∧ rule.isDefault = true ∧
            options.captivePortalDetection = true ∧
            (network.interfaces.any
                (fun info => info.up && info.captivePortal) = true ∨
              host ∈ captiveProbeHosts)) ∨
          (rule.serverId = 0 ∧ defaultTtlInterval options = true)))

theorem settleRule_of_noDnssec {options : RuntimeOptions} {host : Bytes}
    {network : NetworkSnapshot} {rule : Rule} {decision : RuleDecision}
    (noDnssec : rule.dnssecValidate = false ∧ rule.dnssecRejectUnsigned = false) :
    settleRule options host network rule decision =
      { decision with
        captiveBypass := captivePortalBypass options host network rule
        reinjectUdp :=
          captivePortalBypass options host network rule ||
            decide (rule.action = .bypass) ||
            (decide (rule.action = .process) && decide (rule.serverId = 0) &&
              decide (interfaceSelector rule = []) &&
              defaultTtlInterval options) } := by
  unfold settleRule
  rw [noDnssec.1, noDnssec.2]
  rfl

theorem settleRule_of_dnssec {options : RuntimeOptions} {host : Bytes}
    {network : NetworkSnapshot} {rule : Rule} {decision : RuleDecision}
    (dnssec : ¬ (rule.dnssecValidate = false ∧
      rule.dnssecRejectUnsigned = false)) :
    settleRule options host network rule decision =
      { decision with
        errorCode := "NOT_IMPLEMENTED"
        message := text "Selected rule requires local DNSSEC validation" } := by
  unfold settleRule
  rw [if_pos]
  cases validate : rule.dnssecValidate with
  | true =>
      rfl
  | false =>
      cases unsigned : rule.dnssecRejectUnsigned with
      | true =>
          rfl
      | false =>
          exact absurd ⟨validate, unsigned⟩ dnssec

private theorem settleRule_letsThrough {options : RuntimeOptions}
    {host : Bytes} {network : NetworkSnapshot} {rule : Rule}
    {decision : RuleDecision} (clean : decision.errorCode = "")
    (unset : decision.reinjectUdp = false)
    (reinject : (settleRule options host network rule decision).reinjectUdp =
      true) :
    LetsThrough options host network rule
      (settleRule options host network rule decision) := by
  by_cases noDnssec :
      rule.dnssecValidate = false ∧ rule.dnssecRejectUnsigned = false
  · rw [settleRule_of_noDnssec noDnssec] at reinject ⊢
    refine ⟨clean, noDnssec, ?_⟩
    simp only [Bool.or_eq_true, Bool.and_eq_true, decide_eq_true_eq]
      at reinject
    rcases reinject with (captive | bypass) | original
    · have conditions := captive
      simp only [captivePortalBypass, Bool.and_eq_true, decide_eq_true_eq,
        Bool.or_eq_true, List.contains_iff_mem] at conditions
      obtain ⟨⟨⟨⟨detection, process⟩, isDefault⟩, unbound⟩, portal⟩ := conditions
      exact Or.inr ⟨process, unbound,
        Or.inl ⟨captive, isDefault, detection, portal⟩⟩
    · exact Or.inl bypass
    · obtain ⟨⟨⟨process, noServer⟩, unbound⟩, interval⟩ := original
      exact Or.inr ⟨process, unbound, Or.inr ⟨noServer, interval⟩⟩
  · rw [settleRule_of_dnssec noDnssec] at reinject
    rw [unset] at reinject
    cases reinject

/-- A decision that asks for reinjection has no error, no DNSSEC demand, and
is a Bypass, the captive-portal exception or an unconstrained original
destination. -/
theorem decideRule_letsThrough {options : RuntimeOptions} {host : Bytes}
    {network : NetworkSnapshot} {rule : Rule} {decision : RuleDecision}
    (decided : decideRule options host network rule = some decision)
    (reinject : decision.reinjectUdp = true) :
    LetsThrough options host network rule decision := by
  rcases decideRule_cases decided with
    ⟨_, rfl⟩ | ⟨info, _, rfl⟩ | ⟨error, _, _, rfl⟩
  · exact settleRule_letsThrough rfl rfl reinject
  · exact settleRule_letsThrough rfl rfl reinject
  · cases reinject

/-- A decision comes from an enabled rule of the list, one of whose patterns
matches. -/
structure Decides (options : RuntimeOptions) (host : Bytes)
    (network : NetworkSnapshot) (rules : List Rule) (rule : Rule)
    (decision : RuleDecision) : Prop where
  member : rule ∈ rules
  enabled : rule.enabled = true
  matched : matchesAny host rule.patterns = .ok true
  decided : decideRule options host network rule = some decision

theorem evaluateRules_decides {options : RuntimeOptions} {host : Bytes}
    {network : NetworkSnapshot} {decision : RuleDecision} :
    ∀ {rules : List Rule},
      evaluateRules options host network rules = .ok decision →
      ∃ rule, Decides options host network rules rule decision
  | [], evaluated => by
      cases evaluated
  | rule :: rest, evaluated => by
      have inRest (found : evaluateRules options host network rest =
          .ok decision) :
          ∃ chosen, Decides options host network (rule :: rest) chosen
            decision := by
        obtain ⟨chosen, decides⟩ := evaluateRules_decides found
        exact ⟨chosen,
          { decides with member := List.mem_cons_of_mem rule decides.member }⟩
      unfold evaluateRules at evaluated
      split at evaluated
      · exact inRest evaluated
      · rename_i enabled
        obtain ⟨matched, matches_, rest_⟩ := bind_eq_ok.mp evaluated
        split at rest_
        · exact inRest rest_
        · rename_i found
          rw [Bool.not_eq_false] at enabled found
          subst found
          split at rest_
          · rename_i settled decided
            cases rest_
            exact ⟨rule, List.mem_cons_self, enabled, matches_, decided⟩
          · exact inRest rest_

theorem evaluateRule_decides {config : Config} {hostname : Bytes}
    {network : NetworkSnapshot} {decision : RuleDecision}
    (evaluated : evaluateRule config hostname network = .ok decision) :
    ∃ host options rule, normalizeDnsName hostname = .ok host ∧
      runtimeOptions config = .ok options ∧
      Decides options host network config.rules rule decision := by
  simp only [evaluateRule, bind_eq_ok] at evaluated
  obtain ⟨host, hostOk, options, optionsOk, evaluated⟩ := evaluated
  obtain ⟨rule, decides⟩ := evaluateRules_decides evaluated
  exact ⟨host, options, rule, hostOk, optionsOk, decides⟩

end NativeDNS

/-
Which rule an evaluation selects.

`match_rule` knows nothing about interfaces.  The evaluation goes on past a
rule whose interface is missing or down when the options say so; otherwise
both take the first enabled rule with a matching pattern.
-/
import NativeDNS.Rules.Totality

namespace NativeDNS

open ByteText (text byte)
open CheckedResult

def matchRules (host : Bytes) : List Rule → Checked Rule
  | [] => throw (.of "DEFAULT" "No matching rule: invalid configuration")
  | rule :: rest =>
      if rule.enabled = false then
        matchRules host rest
      else do
        let matched ← matchesAny host rule.patterns
        if matched = false then matchRules host rest else pure rule

def matchRule (config : Config) (hostname : Bytes) : Checked Rule := do
  let host ← normalizeDnsName hostname
  matchRules host config.rules

/-! ### Matching and skipping -/

/-- Some pattern in its normalised form matches the host. -/
def MatchesHost (host : Bytes) (rule : Rule) : Prop :=
  ∃ pattern ∈ rule.patterns, ∃ normal,
    normalizeDnsName pattern true = .ok normal ∧ hostMatches host normal = true

/-- The rule is bound to an adapter that is missing or down, is not the
Default, and the options let it step aside. -/
structure Skipped (options : RuntimeOptions) (network : NetworkSnapshot)
    (rule : Rule) : Prop where
  notDefault : rule.isDefault = false
  ignored : options.ignoreInterfaceDown = true
  bound : interfaceSelector rule ≠ []
  enumerated : network.error = []
  unavailable : ∃ found,
    findInterface network (interfaceSelector rule) (selectorKind rule) = .ok found ∧
      ∀ info, found = some info → info.up = false

structure Takes (options : RuntimeOptions) (network : NetworkSnapshot) (host : Bytes)
    (rule : Rule) : Prop where
  enabled : rule.enabled = true
  matched : MatchesHost host rule
  notSkipped : ¬ Skipped options network rule

theorem matchesAny_false {host : Bytes} {patterns : List Bytes}
    (unmatched : matchesAny host patterns = .ok false) :
    ∀ pattern ∈ patterns, ∃ normal, normalizeDnsName pattern true = .ok normal ∧
      hostMatches host normal = false := by
  induction patterns with
  | nil =>
      exact fun _ member => absurd member List.not_mem_nil
  | cons pattern rest ih =>
      obtain ⟨normal, normalOk, tail⟩ := bind_eq_ok.mp unmatched
      split at tail
      · cases tail
      · rename_i miss
        exact List.forall_mem_cons.mpr
          ⟨⟨normal, normalOk, Bool.eq_false_iff.mpr miss⟩, ih tail⟩

theorem matchesAny_iff {host : Bytes} {rule : Rule} {matched : Bool}
    (run : matchesAny host rule.patterns = .ok matched) :
    matched = true ↔ MatchesHost host rule := by
  cases matched with
  | true =>
      exact iff_of_true rfl (matchesAny_true run)
  | false =>
      refine iff_of_false Bool.false_ne_true ?_
      rintro ⟨pattern, member, normal, normalOk, hit⟩
      obtain ⟨other, otherOk, miss⟩ := matchesAny_false run pattern member
      rw [normalOk] at otherOk
      cases otherOk
      rw [miss] at hit
      cases hit

theorem decideRule_none_iff {options : RuntimeOptions} {host : Bytes}
    {network : NetworkSnapshot} {rule : Rule} :
    decideRule options host network rule = none ↔ Skipped options network rule := by
  unfold decideRule
  by_cases unbound : interfaceSelector rule = []
  · rw [if_pos unbound]
    exact iff_of_false (Option.some_ne_none _) fun skipped => skipped.bound unbound
  rw [if_neg unbound]
  by_cases enumeration : network.error ≠ []
  · rw [if_pos enumeration]
    exact iff_of_false (Option.some_ne_none _) fun skipped =>
      enumeration skipped.enumerated
  rw [if_neg enumeration]
  have enumerated := not_not.mp enumeration
  cases search : findInterface network (interfaceSelector rule) (selectorKind rule) with
  | error error =>
      refine iff_of_false (Option.some_ne_none _) fun skipped => ?_
      obtain ⟨found, resolved, _⟩ := skipped.unavailable
      rw [search] at resolved
      cases resolved
  | ok found =>
      dsimp only
      cases usable : found.filter (·.up) with
      | some info =>
          obtain ⟨rfl, up⟩ := Option.filter_eq_some_iff.mp usable
          refine iff_of_false (Option.some_ne_none _) fun skipped => ?_
          obtain ⟨other, resolved, down⟩ := skipped.unavailable
          rw [search] at resolved
          cases resolved
          rw [down info rfl] at up
          cases up
      | none =>
          dsimp only
          have down : ∀ info, found = some info → info.up = false := by
            rintro info rfl
            exact Bool.eq_false_iff.mpr (Option.filter_eq_none_iff.mp usable info rfl)
          by_cases aside : (options.ignoreInterfaceDown && !rule.isDefault) = true
          · rw [if_pos aside]
            rw [Bool.and_eq_true, Bool.not_eq_true'] at aside
            exact iff_of_true rfl
              ⟨aside.2, aside.1, unbound, enumerated, found, search, down⟩
          · rw [if_neg aside]
            refine iff_of_false (Option.some_ne_none _) fun skipped => aside ?_
            rw [skipped.ignored, skipped.notDefault]
            rfl

/-! ### The decision's flags -/

theorem settleRule_failed {options : RuntimeOptions} {host : Bytes}
    {network : NetworkSnapshot} {rule : Rule} {decision : RuleDecision}
    (clean : decision.errorCode = "" ∧ decision.reinjectUdp = false ∧
      decision.captiveBypass = false)
    (failed : (settleRule options host network rule decision).errorCode ≠ "") :
    (settleRule options host network rule decision).reinjectUdp = false ∧
      (settleRule options host network rule decision).captiveBypass = false := by
  by_cases noDnssec : rule.dnssecValidate = false ∧ rule.dnssecRejectUnsigned = false
  · rw [settleRule_of_noDnssec noDnssec] at failed
    exact absurd clean.1 failed
  · rw [settleRule_of_dnssec noDnssec]
    exact clean.2

theorem decideRule_failed {options : RuntimeOptions} {host : Bytes}
    {network : NetworkSnapshot} {rule : Rule} {decision : RuleDecision}
    (decided : decideRule options host network rule = some decision)
    (failed : decision.errorCode ≠ "") :
    decision.reinjectUdp = false ∧ decision.captiveBypass = false := by
  rcases decideRule_cases decided with
    ⟨_, rfl⟩ | ⟨info, _, rfl⟩ | ⟨error, _, _, rfl⟩
  · exact settleRule_failed ⟨rfl, rfl, rfl⟩ failed
  · exact settleRule_failed ⟨rfl, rfl, rfl⟩ failed
  · exact ⟨rfl, rfl⟩

/-! ### The first rule that takes the query -/

/-- Where an evaluation of a rule list stopped. -/
structure SelectedAt (options : RuntimeOptions) (network : NetworkSnapshot)
    (host : Bytes) (front : List Rule) (rule : Rule) (decision : RuleDecision) :
    Prop where
  takes : Takes options network host rule
  first : ∀ earlier ∈ front, ¬ Takes options network host earlier
  decided : decideRule options host network rule = some decision

theorem SelectedAt.later {options : RuntimeOptions} {network : NetworkSnapshot}
    {host : Bytes} {front : List Rule} {rule chosen : Rule} {decision : RuleDecision}
    (passes : ¬ Takes options network host rule)
    (selected : SelectedAt options network host front chosen decision) :
    SelectedAt options network host (rule :: front) chosen decision where
  takes := selected.takes
  first := List.forall_mem_cons.mpr ⟨passes, selected.first⟩
  decided := selected.decided

theorem evaluateRules_selects {options : RuntimeOptions} {host : Bytes}
    {network : NetworkSnapshot} {rules : List Rule} {decision : RuleDecision}
    (evaluated : evaluateRules options host network rules = .ok decision) :
    ∃ front rule rest, rules = front ++ rule :: rest ∧
      SelectedAt options network host front rule decision ∧
      ((∀ earlier ∈ front, earlier.enabled = true → MatchesHost host earlier →
          ¬ Skipped options network earlier) →
        matchRules host rules = .ok rule) := by
  induction rules with
  | nil =>
      cases evaluated
  | cons rule rest ih =>
      unfold evaluateRules at evaluated
      by_cases disabled : rule.enabled = false
      · rw [if_pos disabled] at evaluated
        obtain ⟨front, chosen, later, split, selected, same⟩ := ih evaluated
        have passes : ¬ Takes options network host rule := fun takes => by
          rw [takes.enabled] at disabled
          cases disabled
        refine ⟨rule :: front, chosen, later, congrArg (rule :: ·) split,
          selected.later passes, fun none => ?_⟩
        rw [matchRules, if_pos disabled]
        exact same (List.forall_mem_cons.mp none).2
      rw [if_neg disabled] at evaluated
      have enabled : rule.enabled = true := Bool.not_eq_false _ ▸ disabled
      obtain ⟨matched, run, evaluated⟩ := bind_eq_ok.mp evaluated
      have asMatched := matchesAny_iff run
      by_cases miss : matched = false
      · rw [if_pos miss] at evaluated
        obtain ⟨front, chosen, later, split, selected, same⟩ := ih evaluated
        have passes : ¬ Takes options network host rule := fun takes => by
          rw [asMatched.mpr takes.matched] at miss
          cases miss
        refine ⟨rule :: front, chosen, later, congrArg (rule :: ·) split,
          selected.later passes, fun none => ?_⟩
        rw [matchRules, if_neg disabled, run, ok_bind, if_pos miss]
        exact same (List.forall_mem_cons.mp none).2
      rw [if_neg miss] at evaluated
      have hit := asMatched.mp (Bool.not_eq_false _ ▸ miss)
      cases decided : decideRule options host network rule with
      | some settled =>
          rw [decided] at evaluated
          cases evaluated
          have notSkipped : ¬ Skipped options network rule := fun skipped => by
            rw [decideRule_none_iff.mpr skipped] at decided
            cases decided
          refine ⟨[], rule, rest, rfl, ⟨⟨enabled, hit, notSkipped⟩,
            fun _ member => absurd member List.not_mem_nil, decided⟩, fun _ => ?_⟩
          rw [matchRules, if_neg disabled, run, ok_bind, if_neg miss]
          rfl
      | none =>
          rw [decided] at evaluated
          have skipped : Skipped options network rule := decideRule_none_iff.mp decided
          obtain ⟨front, chosen, later, split, selected, _⟩ := ih evaluated
          refine ⟨rule :: front, chosen, later, congrArg (rule :: ·) split,
            selected.later (fun takes => takes.notSkipped skipped), fun none => ?_⟩
          exact absurd skipped ((List.forall_mem_cons.mp none).1 enabled hit)

theorem evaluateRule_firstRule {config : Config} {hostname : Bytes}
    {network : NetworkSnapshot} {decision : RuleDecision}
    (evaluated : evaluateRule config hostname network = .ok decision) :
    ∃ host options front rule rest, normalizeDnsName hostname = .ok host ∧
      runtimeOptions config = .ok options ∧ config.rules = front ++ rule :: rest ∧
      decision.rule = some rule ∧
      SelectedAt options network host front rule decision ∧
      ((∀ earlier ∈ front, earlier.enabled = true → MatchesHost host earlier →
          ¬ Skipped options network earlier) →
        matchRule config hostname = .ok rule) := by
  simp only [evaluateRule, bind_eq_ok] at evaluated
  obtain ⟨host, hostOk, options, optionsOk, evaluated⟩ := evaluated
  obtain ⟨front, rule, rest, split, selected, same⟩ := evaluateRules_selects evaluated
  refine ⟨host, options, front, rule, rest, hostOk, optionsOk, split,
    decideRule_rule selected.decided, selected, fun none => ?_⟩
  rw [matchRule, hostOk, ok_bind]
  exact same none

/-- An evaluation returns the first rule that is enabled, matches and is not
skipped; without a skipped rule before it this is the one `match_rule` returns.
A decision with an error code asks for no reinjection and no bypass. -/
theorem evaluateRule_firstMatch {config : Config} {hostname : Bytes}
    {network : NetworkSnapshot} {decision : RuleDecision}
    (evaluated : evaluateRule config hostname network = .ok decision) :
    ∃ host options front rule rest, normalizeDnsName hostname = .ok host ∧
      runtimeOptions config = .ok options ∧ config.rules = front ++ rule :: rest ∧
      decision.rule = some rule ∧
      SelectedAt options network host front rule decision ∧
      ((∀ earlier ∈ front, earlier.enabled = true → MatchesHost host earlier →
          ¬ Skipped options network earlier) →
        matchRule config hostname = .ok rule) ∧
      (decision.errorCode ≠ "" →
        decision.reinjectUdp = false ∧ decision.captiveBypass = false) := by
  obtain ⟨host, options, front, rule, rest, hostOk, optionsOk, split, chosen, selected, same⟩ :=
    evaluateRule_firstRule evaluated
  exact ⟨host, options, front, rule, rest, hostOk, optionsOk, split, chosen, selected, same,
    decideRule_failed selected.decided⟩

def boundConfig : Config :=
  { defaultConfig with
    rules :=
      { id := 2, name := text "lan", patterns := [text "*.lan"],
        interfaceId := text "eth9" } :: defaultConfig.rules
    settings := OrderedMap.empty.insert (text "ignore_rule_if_interface_down") (text "1") }

theorem evaluateRule_firstMatch_bound :
    ∃ decision host options front rule rest,
      evaluateRule boundConfig (text "printer.lan") {} = .ok decision ∧
      decision.rule = defaultConfig.rules.head? ∧
      boundConfig.rules = front ++ rule :: rest ∧
      SelectedAt options {} host front rule decision ∧
      decision.rule = some rule := by
  have evaluated : ∃ decision,
      evaluateRule boundConfig (text "printer.lan") {} = .ok decision ∧
        decision.rule = defaultConfig.rules.head? :=
    ⟨_, rfl, rfl⟩
  obtain ⟨decision, evaluated, isDefault⟩ := evaluated
  obtain ⟨host, options, front, rule, rest, _, _, split, chosen, selected, _⟩ :=
    evaluateRule_firstMatch evaluated
  exact ⟨decision, host, options, front, rule, rest, evaluated, isDefault, split,
    selected, chosen⟩

/-! ### Questions from the wire -/

/-- The refusal of a decoded name that the rules do not take. -/
def refusedName (name : Bytes) : Error :=
  .of "HOST" (if name = [] then "Empty DNS name" else "Unsupported DNS label character")

/-- A question is decided, by the first rule that takes it, exactly when its name is not
empty and holds no wildcard character; every other name is refused. -/
theorem evaluateRule_selects_iff {platform : Platform} {config : Config}
    {packet : Packet} {question : Question} (network : NetworkSnapshot)
    (accepted : validate platform config = .ok ())
    (parsed : parseQuestion packet = .ok question) :
    ((∃ decision options front rule rest,
        evaluateRule config question.name network = .ok decision ∧
          runtimeOptions config = .ok options ∧ config.rules = front ++ rule :: rest ∧
          decision.rule = some rule ∧
          SelectedAt options network question.name front rule decision) ↔
        question.name ≠ [] ∧ ¬ HasWildcard question.name) ∧
      (¬ (question.name ≠ [] ∧ ¬ HasWildcard question.name) →
        evaluateRule config question.name network = .error (refusedName question.name)) := by
  have wire := parseQuestion_wireName parsed
  have refuses : ¬ (question.name ≠ [] ∧ ¬ HasWildcard question.name) →
      normalizeDnsName question.name = .error (refusedName question.name) := by
    intro refused
    by_cases empty : question.name = []
    · rw [empty]
      rfl
    · have canonical := normalizeDnsName_wire wire empty
      rw [if_pos (not_not.mp fun plain => refused ⟨empty, plain⟩)] at canonical
      rw [canonical, refusedName, if_neg empty]
  have refused : ¬ (question.name ≠ [] ∧ ¬ HasWildcard question.name) →
      evaluateRule config question.name network = .error (refusedName question.name) := by
    intro other
    unfold evaluateRule
    rw [refuses other, error_bind]
  refine ⟨⟨?_, ?_⟩, refused⟩
  · rintro ⟨decision, _, _, _, _, evaluated, _⟩
    by_contra other
    rw [refused other] at evaluated
    cases evaluated
  · rintro ⟨named, plain⟩
    have canonical := normalizeDnsName_wire wire named
    rw [if_neg plain] at canonical
    have headPlain : question.name.head? ≠ some (byte '*') := by
      intro star
      exact plain ⟨byte '*', List.mem_of_head? star, rfl⟩
    obtain ⟨decision, evaluated⟩ :=
      evaluateRule_total network (validate_valid accepted) canonical headPlain
    obtain ⟨host, options, front, rule, rest, hostOk, optionsOk, split, chosen, selected, _⟩ :=
      evaluateRule_firstRule evaluated
    rw [canonical] at hostOk
    cases hostOk
    exact ⟨decision, options, front, rule, rest, evaluated, optionsOk, split, chosen, selected⟩

/-- `printer.lan` in a packet. -/
def printerName : Packet :=
  7 :: text "printer" ++ 3 :: text "lan" ++ [0]

/-- The question `printer.lan` passes the bound rule and is taken by the Default rule. -/
theorem evaluateRule_selects_iff_bound :
    ∃ question, parseQuestion (addressQuery printerName) = .ok question ∧
      question.name = text "printer.lan" ∧
      ((∃ decision options front rule rest,
          evaluateRule boundConfig question.name {} = .ok decision ∧
            runtimeOptions boundConfig = .ok options ∧
            boundConfig.rules = front ++ rule :: rest ∧
            decision.rule = some rule ∧
            SelectedAt options {} question.name front rule decision) ↔
          question.name ≠ [] ∧ ¬ HasWildcard question.name) ∧
        (¬ (question.name ≠ [] ∧ ¬ HasWildcard question.name) →
          evaluateRule boundConfig question.name {} =
            .error (refusedName question.name)) := by
  have accepted : validate ipv4Platform boundConfig = .ok () := by
    rfl
  have parsed : ∃ question, parseQuestion (addressQuery printerName) = .ok question ∧
      question.name = text "printer.lan" :=
    ⟨_, rfl, by decide⟩
  obtain ⟨question, parsed, named⟩ := parsed
  exact ⟨question, parsed, named, evaluateRule_selects_iff {} accepted parsed⟩

end NativeDNS

/-
Every well-formed query is decided by some rule.

The wire decoder and the rule layer use separate name grammars.  They agree on
every nonempty decoded name except for the two wildcard characters, which the
rule layer keeps for patterns.
-/
import NativeDNS.Rules.Evaluation

namespace NativeDNS

open ByteText (text byte)
open CheckedResult

theorem matchesAny_true {host : Bytes} :
    ∀ {patterns : List Bytes}, matchesAny host patterns = .ok true →
      ∃ pattern ∈ patterns, ∃ normal,
        normalizeDnsName pattern true = .ok normal ∧
          hostMatches host normal = true
  | [], matched => by
      cases matched
  | pattern :: rest, matched => by
      obtain ⟨normal, normalOk, tail⟩ := bind_eq_ok.mp matched
      split at tail
      · rename_i hit
        exact ⟨pattern, List.mem_cons_self, normal, normalOk, hit⟩
      · obtain ⟨other, inRest, found⟩ := matchesAny_true tail
        exact ⟨other, List.mem_cons_of_mem pattern inRest, found⟩

theorem matchesAny_total (host : Bytes) :
    ∀ (patterns : List Bytes),
      (∀ pattern ∈ patterns,
        ∃ normal, normalizeDnsName pattern true = .ok normal) →
      ∃ matched, matchesAny host patterns = .ok matched
  | [], _ => ⟨false, rfl⟩
  | pattern :: rest, normal => by
      obtain ⟨canonical, canonicalOk⟩ := normal pattern List.mem_cons_self
      obtain ⟨matched, restOk⟩ :=
        matchesAny_total host rest
          (fun other inRest => normal other (List.mem_cons_of_mem pattern inRest))
      unfold matchesAny
      rw [canonicalOk, ok_bind]
      split
      · exact ⟨true, rfl⟩
      · exact ⟨matched, restOk⟩

theorem decideRule_default (options : RuntimeOptions) (host : Bytes)
    (network : NetworkSnapshot) {rule : Rule} (isDefault : rule.isDefault = true) :
    ∃ decision, decideRule options host network rule = some decision := by
  unfold decideRule
  split
  · exact ⟨_, rfl⟩
  · split
    · exact ⟨_, rfl⟩
    · split
      · exact ⟨_, rfl⟩
      · split
        · simp [isDefault]
        · exact ⟨_, rfl⟩

private theorem matchesAny_star {host : Bytes}
    (plain : host.head? ≠ some (byte '*')) :
    matchesAny host [text "*"] = .ok true := by
  have star : normalizeDnsName (text "*") true = .ok (text "*") := by decide
  unfold matchesAny
  rw [star, ok_bind, if_pos (hostMatches_star host plain)]
  rfl

/-- The rule loop cannot run past an enabled Default rule at its end. -/
theorem evaluateRules_total (options : RuntimeOptions) {host : Bytes}
    (network : NetworkSnapshot) {last : Rule}
    (plain : host.head? ≠ some (byte '*'))
    (isDefault : last.isDefault = true) (enabled : last.enabled = true)
    (star : last.patterns = [text "*"]) :
    ∀ (front : List Rule),
      (∀ rule ∈ front, ∀ pattern ∈ rule.patterns,
        ∃ normal, normalizeDnsName pattern true = .ok normal) →
      ∃ decision,
        evaluateRules options host network (front ++ [last]) = .ok decision
  | [], _ => by
      obtain ⟨decision, decided⟩ :=
        decideRule_default options host network isDefault
      refine ⟨decision, ?_⟩
      simp [evaluateRules, enabled, star, matchesAny_star plain, decided]
  | rule :: rest, normal => by
      obtain ⟨decision, restOk⟩ :=
        evaluateRules_total options network plain isDefault enabled star rest
          (fun other inRest => normal other (List.mem_cons_of_mem rule inRest))
      obtain ⟨matched, matchedOk⟩ :=
        matchesAny_total host rule.patterns (normal rule List.mem_cons_self)
      rw [List.cons_append, evaluateRules, matchedOk, ok_bind]
      split
      · exact ⟨decision, restOk⟩
      · split
        · exact ⟨decision, restOk⟩
        · split
          · exact ⟨_, rfl⟩
          · exact ⟨decision, restOk⟩

theorem evaluateRule_total {platform : Platform} {config : Config}
    {hostname host : Bytes} (network : NetworkSnapshot)
    (valid : ValidConfig platform config)
    (canonical : normalizeDnsName hostname = .ok host)
    (plain : host.head? ≠ some (byte '*')) :
    ∃ decision, evaluateRule config hostname network = .ok decision := by
  obtain ⟨options, optionsOk⟩ := valid.options
  obtain ⟨front, last, rules, isDefault, enabled, star, _⟩ := valid.default
  have normal : ∀ rule ∈ front, ∀ pattern ∈ rule.patterns,
      ∃ normal, normalizeDnsName pattern true = .ok normal := by
    intro rule inFront
    exact (valid.rules rule (by
      rw [rules]
      exact List.mem_append_left [last] inFront)).patterns
  obtain ⟨decision, evaluated⟩ :=
    evaluateRules_total options network plain isDefault enabled star front normal
  refine ⟨decision, ?_⟩
  unfold evaluateRule
  rw [canonical, ok_bind, optionsOk, ok_bind, rules]
  exact evaluated

def addressQuery (encodedName : Packet) : Packet :=
  [0, 7, 1, 0, 0, 1, 0, 0, 0, 0, 0, 0] ++ encodedName ++ [0, 1, 0, 1]

theorem defaultConfig_accepted (platform : Platform) :
    validate platform defaultConfig = .ok () := by
  rfl

/-- The root name and the name `*` are accepted as questions of queries, and
no rule is selected for them. -/
theorem evaluateRule_rejects_wire_names :
    validate ipv4Platform defaultConfig = .ok () ∧
      (∃ question, parseQuestion (addressQuery [0]) = .ok question ∧
        question.flags &&& 0x8000 = 0 ∧
        evaluateRule defaultConfig question.name {} =
          .error (.of "HOST" "Empty DNS name")) ∧
      (∃ question, parseQuestion (addressQuery [1, 42, 0]) = .ok question ∧
        question.flags &&& 0x8000 = 0 ∧
        evaluateRule defaultConfig question.name {} =
          .error (.of "HOST" "Unsupported DNS label character")) :=
  ⟨defaultConfig_accepted ipv4Platform, ⟨_, rfl, by decide, by rfl⟩,
    ⟨_, rfl, by decide, by rfl⟩⟩

end NativeDNS

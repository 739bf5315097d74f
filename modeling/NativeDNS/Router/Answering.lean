/-
When `route` answers.

Every path that does not hand a reply on builds one from the request, and the
error path does so inside a handler.  Both need the records behind the question
to be well formed, although the question alone decides how the request is
routed.  A zero answer also needs one more pointer than the question name.
-/
import NativeDNS.Router.Route

namespace NativeDNS

open ByteText (text byte decimal)
open CheckedResult

/-- An acceptable result for a valid question. -/
inductive Answered (snapshot : Snapshot) (around : Surroundings)
    (request : Packet) (question : Question) (result : RouteResult) : Prop
  | forwarded (disposition : result.disposition = .forwardOriginal)
      (packet : result.packet = request) :
      Answered snapshot around request question result
  | dropped {decision : RuleDecision} {rule : Rule}
      (disposition : result.disposition = .silentDrop)
      (evaluated : evaluateRule snapshot.config question.name around.network =
        .ok decision)
      (selected : decision.rule = some rule) (block : rule.action = .block)
      (silent : rule.blockMode = .silentDrop) :
      Answered snapshot around request question result
  | replied {answer : DnsAnswer} (disposition : result.disposition = .reply)
      (accepted : parseResponse snapshot.platform result.packet question =
        .ok answer) :
      Answered snapshot around request question result

/-- A request whose question is valid, as `route` decides it. -/
def ValidQuery (request : Packet) (question : Question) : Prop :=
  parseQuestion request = .ok question ∧ question.flags &&& 0x8000 = 0

/-- The call returns; a valid question is answered, anything else is dropped
without a reply. -/
def RouteAnswers (snapshot : Snapshot) (around : Surroundings)
    (request : Packet) (outcome : Except Thrown RouteResult) : Prop :=
  ∃ result, outcome = .ok result ∧
    (∀ question, ValidQuery request question →
      Answered snapshot around request question result) ∧
    ((∀ question, ¬ ValidQuery request question) →
      result.disposition = .silentDrop)

/-- The decision needs no reply of this host: it has no error, and is a bypass,
the captive-portal exception or a silent drop. -/
def NeedsNoReply (decision : RuleDecision) (rule : Rule) : Prop :=
  decision.errorCode = "" ∧
    (decision.captiveBypass = true ∨ rule.action = .bypass ∨
      (rule.action = .block ∧ rule.blockMode = .silentDrop))

/-- The decision asks for a zero answer to a question whose name cannot be
pointed to within the hop limit. -/
def ZeroAnswerTooDeep (decision : RuleDecision) (rule : Rule)
    (question : Question) : Prop :=
  decision.errorCode = "" ∧ decision.captiveBypass = false ∧
    rule.action = .block ∧ rule.blockMode = .zeroAddress ∧
    answersZero true question = true ∧
    maxHops < labelCount question.name + 2

/-- The condition under which a request is answered, whatever the upstreams
do. -/
def Answerable (snapshot : Snapshot) (around : Surroundings)
    (request : Packet) : Prop :=
  ∀ question, ValidQuery request question →
    ((∃ edns, ednsRequest request question = .ok edns) ∨
      ∃ decision rule, evaluateRule snapshot.config question.name
          around.network = .ok decision ∧ decision.rule = some rule ∧
        NeedsNoReply decision rule) ∧
    ∀ decision rule, evaluateRule snapshot.config question.name
        around.network = .ok decision → decision.rule = some rule →
      ¬ ZeroAnswerTooDeep decision rule question

/-! ### Replies of this host -/

section Synthetic

variable {request : Packet} {question : Question}

/-- A synthetic reply is built exactly when the records of the request can be
walked. -/
theorem syntheticResponse_of_query (rcode : Nat) (zero : Bool)
    (range : rcode ≤ 15) (query : ValidQuery request question) :
    (∃ edns, ednsRequest request question = .ok edns ∧
      syntheticResponse request rcode zero =
        .ok (syntheticPacket request question edns rcode zero)) ∨
    ((∀ edns, ednsRequest request question ≠ .ok edns) ∧
      ∃ error, syntheticResponse request rcode zero = .error error) := by
  cases walked : ednsRequest request question with
  | ok edns =>
      exact Or.inl ⟨edns, rfl, (syntheticResponse_eq_ok range).mpr
        ⟨question, edns, query.1, query.2, walked, rfl⟩⟩
  | error error =>
      refine Or.inr ⟨fun edns built => (by cases built), ?_⟩
      apply exists_error_of_not_ok
      intro response built
      obtain ⟨question', edns, parsed, _, walked', _⟩ :=
        (syntheticResponse_eq_ok range).mp built
      rw [query.1] at parsed
      cases parsed
      rw [walked] at walked'
      cases walked'

theorem makeErrorResponse_accepted (platform : Platform)
    (query : ValidQuery request question) {edns : EdnsRequest}
    (walked : ednsRequest request question = .ok edns) :
    ∃ packet answer, makeErrorResponse request 2 = .ok packet ∧
      parseResponse platform packet question = .ok answer := by
  have parts := parseQuestion_eq_ok.mp query.1
  rcases syntheticResponse_of_query 2 false (by decide) query with
    ⟨edns', _, built⟩ | ⟨never, _⟩
  · have plain : answersZero false question = true →
        labelCount question.name + 2 ≤ maxHops := by
      intro zeroAnswer
      cases zeroAnswer
    have accepted : ∃ answer, parseResponse platform
        (syntheticPacket request question edns' 2 false) question = .ok answer :=
      (syntheticPacket_accepted_iff platform parts (by decide)).mpr plain
    obtain ⟨answer, accepted⟩ := accepted
    exact ⟨_, answer, built, accepted⟩
  · exact absurd walked (never edns)

theorem makeErrorResponse_fails (query : ValidQuery request question)
    (unwalked : ∀ edns, ednsRequest request question ≠ .ok edns) :
    ∃ error, makeErrorResponse request 2 = .error error := by
  rcases syntheticResponse_of_query 2 false (by decide) query with
    ⟨edns, walked, _⟩ | ⟨_, failed⟩
  · exact absurd walked (unwalked edns)
  · exact failed

theorem blockRcode_le (mode : BlockMode) : blockRcode mode ≤ 15 := by
  unfold blockRcode
  split
  · decide
  · split <;> decide

theorem makeBlockResponse_eq {mode : BlockMode} (audible : mode ≠ .silentDrop) :
    makeBlockResponse request mode =
      syntheticResponse request (blockRcode mode) (decide (mode = .zeroAddress)) := by
  unfold makeBlockResponse
  rw [rejectIf_of_not audible, ok_bind]

theorem makeBlockResponse_built {mode : BlockMode} {edns : EdnsRequest}
    (audible : mode ≠ .silentDrop) (query : ValidQuery request question)
    (walked : ednsRequest request question = .ok edns) :
    makeBlockResponse request mode =
      .ok (syntheticPacket request question edns (blockRcode mode)
        (decide (mode = .zeroAddress))) := by
  rw [makeBlockResponse_eq audible]
  exact (syntheticResponse_eq_ok (blockRcode_le mode)).mpr
    ⟨question, edns, query.1, query.2, walked, rfl⟩

/-- A blocking reply is accepted unless it is a zero answer to a question
whose name lies too deep for a pointer. -/
theorem blockReply_accepted_iff (platform : Platform)
    (query : ValidQuery request question) (edns : EdnsRequest)
    (mode : BlockMode) :
    (∃ answer, parseResponse platform
        (syntheticPacket request question edns (blockRcode mode)
          (decide (mode = .zeroAddress))) question = .ok answer) ↔
      ¬ (mode = .zeroAddress ∧ answersZero true question = true ∧
        maxHops < labelCount question.name + 2) := by
  rw [syntheticPacket_accepted_iff platform (parseQuestion_eq_ok.mp query.1)
    (blockRcode_le mode)]
  by_cases zero : mode = .zeroAddress
  · rw [decide_eq_true zero]
    constructor
    · rintro short ⟨_, zeroAnswer, deep⟩
      have bound := short zeroAnswer
      omega
    · intro shallow zeroAnswer
      by_contra deep
      exact shallow ⟨zero, zeroAnswer, Nat.lt_of_not_le deep⟩
  · rw [decide_eq_false zero]
    constructor
    · rintro _ ⟨isZero, _⟩
      exact zero isZero
    · intro _ zeroAnswer
      cases zeroAnswer

end Synthetic

/-! ### The error path -/

section ErrorPath

variable {snapshot : Snapshot} {around : Surroundings} {request : Packet}
  {question : Question}

theorem catchRoute_answers (query : ValidQuery request question)
    {edns : EdnsRequest} (walked : ednsRequest request question = .ok edns)
    {result : RouteResult} (reply : result.disposition = .reply)
    (thrown : Thrown) :
    ∃ caught, catchRoute request true result thrown = .ok caught ∧
      Answered snapshot around request question caught := by
  obtain ⟨packet, answer, built, accepted⟩ :=
    makeErrorResponse_accepted snapshot.platform query walked
  unfold catchRoute
  dsimp only
  rw [if_pos rfl, built]
  exact ⟨_, rfl, .replied reply accepted⟩

theorem catchRoute_escapes (query : ValidQuery request question)
    (unwalked : ∀ edns, ednsRequest request question ≠ .ok edns)
    (result : RouteResult) (thrown : Thrown) :
    ∃ escaped, catchRoute request true result thrown = .error escaped := by
  obtain ⟨error, failed⟩ := makeErrorResponse_fails query unwalked
  unfold catchRoute
  dsimp only
  rw [if_pos rfl, failed]
  exact ⟨.error error, rfl⟩

theorem ruleResult_reply (rule : Rule) :
    (ruleResult rule).disposition = .reply :=
  rfl

theorem finishRoute_answers (query : ValidQuery request question)
    {edns : EdnsRequest} (walked : ednsRequest request question = .ok edns)
    {result : RouteResult} (disposition : result.disposition = .reply)
    (reply : Reply) :
    ∃ finished, finishRoute snapshot request question result reply =
        .ok finished ∧
      Answered snapshot around request question finished := by
  unfold finishRoute
  dsimp only
  cases accepted : parseResponse snapshot.platform reply.packet question with
  | error error =>
      let received : RouteResult :=
        { result with
          packet := reply.packet
          serverId := reply.usedServerId }
      have unchanged : received.disposition = .reply := disposition
      exact catchRoute_answers query walked unchanged (.error error)
  | ok parsed =>
      dsimp only
      split
      · exact ⟨_, rfl, .replied disposition accepted⟩
      · exact ⟨_, rfl, .replied disposition accepted⟩

end ErrorPath

/-! ### The decision of a valid question -/

theorem route_of_query {snapshot : Snapshot} {around : Surroundings}
    {request : Packet} {question : Question}
    (query : ValidQuery request question)
    (exchanged : Demand → Except Thrown Reply) (original : Server) :
    (∃ result thrown, result.disposition = .reply ∧
        (∀ decision, evaluateRule snapshot.config question.name
          around.network ≠ .ok decision) ∧
        route snapshot around exchanged request original =
          catchRoute request true result thrown) ∨
      ∃ decision rule, evaluateRule snapshot.config question.name
          around.network = .ok decision ∧ decision.rule = some rule ∧
        planRoute snapshot around request original =
          planDecision snapshot around.shared request original question
            decision rule := by
  cases evaluated : evaluateRule snapshot.config question.name
      around.network with
  | error error =>
      refine Or.inl ⟨{}, .error error, rfl, fun _ equal => (by cases equal), ?_⟩
      unfold route planRoute
      rw [query.1]
      dsimp only
      rw [if_neg (not_not.mpr query.2), evaluated]
  | ok decision =>
      obtain ⟨host, options, rule, _, _, decides⟩ :=
        evaluateRule_decides evaluated
      have selected := decideRule_rule decides.decided
      refine Or.inr ⟨decision, rule, rfl, selected, ?_⟩
      unfold planRoute
      rw [query.1]
      dsimp only
      rw [if_neg (not_not.mpr query.2), evaluated]
      dsimp only
      rw [selected]

theorem route_of_invalid (snapshot : Snapshot) (around : Surroundings)
    {request : Packet} (invalid : ¬ ∃ question, ValidQuery request question)
    (exchanged : Demand → Except Thrown Reply) (original : Server) :
    ∃ result, route snapshot around exchanged request original = .ok result ∧
      result.disposition = .silentDrop := by
  unfold route planRoute
  cases parsed : parseQuestion request with
  | error error =>
      exact ⟨_, rfl, rfl⟩
  | ok question =>
      have reply : question.flags &&& 0x8000 ≠ 0 := fun query =>
        invalid ⟨question, parsed, query⟩
      dsimp only
      rw [if_pos reply]
      exact ⟨_, rfl, rfl⟩

theorem planDecision_answers {snapshot : Snapshot} {around : Surroundings}
    {exchanged : Demand → Except Thrown Reply} {request : Packet}
    {question : Question} {original : Server} {decision : RuleDecision}
    {rule : Rule} (query : ValidQuery request question)
    (evaluated : evaluateRule snapshot.config question.name around.network =
      .ok decision)
    (selected : decision.rule = some rule)
    (planned : planRoute snapshot around request original =
      planDecision snapshot around.shared request original question decision
        rule)
    (answerable : (∃ edns, ednsRequest request question = .ok edns) ∨
      NeedsNoReply decision rule)
    (shallow : ¬ ZeroAnswerTooDeep decision rule question) :
    ∃ result, route snapshot around exchanged request original = .ok result ∧
      Answered snapshot around request question result := by
  unfold route
  rw [planned]
  unfold planDecision
  by_cases failed : decision.errorCode ≠ ""
  · rw [if_pos failed]
    rcases answerable with ⟨edns, walked⟩ | ⟨clean, _⟩
    · exact catchRoute_answers query walked (ruleResult_reply rule) _
    · exact absurd clean failed
  rw [if_neg failed]
  by_cases passes : decision.captiveBypass = true ∨ rule.action = .bypass
  · rw [if_pos passes]
    exact ⟨_, rfl, .forwarded rfl rfl⟩
  rw [if_neg passes]
  by_cases block : rule.action = .block
  · rw [if_pos block]
    by_cases silent : rule.blockMode = .silentDrop
    · rw [if_pos silent]
      exact ⟨_, rfl, .dropped rfl evaluated selected block silent⟩
    · rw [if_neg silent]
      rcases answerable with ⟨edns, walked⟩ | ⟨_, noReply⟩
      · have captive : decision.captiveBypass = false := by
          rw [← Bool.not_eq_true]
          exact fun captive => passes (Or.inl captive)
        have accepted := (blockReply_accepted_iff snapshot.platform query edns
          rule.blockMode).mpr (fun deep => shallow
            ⟨not_not.mp failed, captive, block, deep⟩)
        obtain ⟨answer, accepted⟩ := accepted
        rw [makeBlockResponse_built silent query walked]
        exact ⟨_, rfl, .replied rfl accepted⟩
      · rcases noReply with captive | bypass | ⟨_, drop⟩
        · exact absurd (Or.inl captive) passes
        · exact absurd (Or.inr bypass) passes
        · exact absurd drop silent
  · rw [if_neg block]
    rcases answerable with ⟨edns, walked⟩ | ⟨_, noReply⟩
    · cases demanded : routeDemand snapshot around.shared request original
          decision rule with
      | error error =>
          exact catchRoute_answers query walked (ruleResult_reply rule) _
      | ok demand =>
          dsimp only
          cases exchanged demand with
          | error thrown =>
              exact catchRoute_answers query walked (ruleResult_reply rule) _
          | ok reply =>
              exact finishRoute_answers query walked (ruleResult_reply rule) _
    · rcases noReply with captive | bypass | ⟨isBlock, _⟩
      · exact absurd (Or.inl captive) passes
      · exact absurd (Or.inr bypass) passes
      · exact absurd isBlock block

theorem planDecision_fails {snapshot : Snapshot} {around : Surroundings}
    {exchanged : Demand → Except Thrown Reply} {request : Packet}
    {question : Question} {original : Server} {decision : RuleDecision}
    {rule : Rule} (query : ValidQuery request question)
    (unwalked : ∀ edns, ednsRequest request question ≠ .ok edns)
    (replies : ¬ NeedsNoReply decision rule)
    (planned : planRoute snapshot around request original =
      planDecision snapshot around.shared request original question decision
        rule)
    (failing : ∀ demand, ∃ thrown, exchanged demand = .error thrown) :
    ∃ escaped, route snapshot around exchanged request original =
      .error escaped := by
  unfold route
  rw [planned]
  unfold planDecision
  by_cases failed : decision.errorCode ≠ ""
  · rw [if_pos failed]
    exact catchRoute_escapes query unwalked _ _
  rw [if_neg failed]
  have clean := not_not.mp failed
  by_cases passes : decision.captiveBypass = true ∨ rule.action = .bypass
  · exact absurd ⟨clean, passes.imp_right Or.inl⟩ replies
  rw [if_neg passes]
  by_cases block : rule.action = .block
  · rw [if_pos block]
    by_cases silent : rule.blockMode = .silentDrop
    · exact absurd ⟨clean, Or.inr (Or.inr ⟨block, silent⟩)⟩ replies
    · rw [if_neg silent, makeBlockResponse_eq silent]
      rcases syntheticResponse_of_query (blockRcode rule.blockMode)
        (decide (rule.blockMode = .zeroAddress)) (blockRcode_le rule.blockMode)
        query with ⟨edns, walked, _⟩ | ⟨_, error, unbuilt⟩
      · exact absurd walked (unwalked edns)
      · rw [unbuilt]
        exact catchRoute_escapes query unwalked _ _
  · rw [if_neg block]
    cases routeDemand snapshot around.shared request original decision rule with
    | error error =>
        exact catchRoute_escapes query unwalked _ _
    | ok demand =>
        obtain ⟨thrown, exchangeFailed⟩ := failing demand
        dsimp only
        rw [exchangeFailed]
        exact catchRoute_escapes query unwalked _ _

theorem planDecision_tooDeep {snapshot : Snapshot} {around : Surroundings}
    {exchanged : Demand → Except Thrown Reply} {request : Packet}
    {question : Question} {original : Server} {decision : RuleDecision}
    {rule : Rule} {edns : EdnsRequest} (query : ValidQuery request question)
    (walked : ednsRequest request question = .ok edns)
    (deep : ZeroAnswerTooDeep decision rule question)
    (planned : planRoute snapshot around request original =
      planDecision snapshot around.shared request original question decision
        rule) :
    ¬ RouteAnswers snapshot around request
      (route snapshot around exchanged request original) := by
  obtain ⟨clean, captive, block, zero, rest⟩ := deep
  have audible : rule.blockMode ≠ .silentDrop := by
    rw [zero]
    decide
  have passes : ¬ (decision.captiveBypass = true ∨ rule.action = .bypass) := by
    rw [captive, block]
    decide
  unfold route
  rw [planned]
  unfold planDecision
  rw [if_neg (not_not.mpr clean), if_neg passes, if_pos block, if_neg audible,
    makeBlockResponse_built audible query walked]
  rintro ⟨result, returned, answered, _⟩
  cases returned
  cases answered question query with
  | forwarded disposition packet =>
      cases disposition
  | dropped disposition evaluated selected isBlock silent =>
      cases disposition
  | @replied answer disposition accepted =>
      exact (blockReply_accepted_iff snapshot.platform query edns
        rule.blockMode).mp ⟨answer, accepted⟩ ⟨zero, rest⟩

/-! ### The outcomes of an exchange that fails -/

theorem exchangeGroup_throwing (servers : List Server) (primary : Server)
    (thrown : Thrown) :
    ∃ raised after, exchangeGroup (answering (.error thrown)) servers primary
      { health := OrderedMap.empty } = (.error raised, after) := by
  cases run : exchangeGroup (answering (.error thrown)) servers primary
      { health := OrderedMap.empty } with
  | mk outcome after =>
      cases outcome with
      | error raised =>
          exact ⟨raised, after, rfl⟩
      | ok answered =>
          obtain ⟨number, attempt, _, replied⟩ :=
            (exchangeGroup_tried run).used answered.1 answered.2 rfl
          cases replied

/-- Any demand can fail: its call is rejected, or leads an exchange whose
transports throw. -/
theorem possible_failure (snapshot : Snapshot) (demand : Demand) :
    ∃ thrown, Possible snapshot demand (.error thrown) := by
  by_cases short : demand.request.length < 2
  · let call : Call := { demand := demand }
    have begun : Reached snapshot (fun _ => True) { calls := [call] } :=
      .next (.start rfl) (.begin trivial)
    have rejected : (enterCall demand 0 0 {}).2 = .finished .rejected
        (.error (.error (.of "DNS_MALFORMED" "DNS request is too short"))) := by
      unfold enterCall
      rw [if_pos short]
    exact ⟨_, _, .next begun (@Step.enter _ _ { calls := [call] } 0 call 0 0 rfl
      rfl (Nat.le_refl 0) (Nat.le_refl 0)), _, List.mem_cons_self, rfl, _,
      rejected⟩
  · obtain ⟨world, reached, call, member, demandEq, _, phaseEq⟩ :=
      @exists_led_call snapshot (fun _ => True) demand trivial short
        (answering (.error (.exception [])))
    obtain ⟨raised, after, run⟩ := exchangeGroup_throwing
      snapshot.config.servers demand.primary (.exception [])
    rw [run] at phaseEq
    exact ⟨raised, world, reached, call, member, demandEq, _, phaseEq⟩

/-! ### The condition -/

theorem route_answers {snapshot : Snapshot} {around : Surroundings}
    {request : Packet} (answerable : Answerable snapshot around request)
    (exchanged : Demand → Except Thrown Reply) (original : Server) :
    RouteAnswers snapshot around request
      (route snapshot around exchanged request original) := by
  by_cases valid : ∃ question, ValidQuery request question
  · obtain ⟨question, query⟩ := valid
    obtain ⟨answers, shallow⟩ := answerable question query
    have answered : ∃ result, route snapshot around exchanged request original =
        .ok result ∧ Answered snapshot around request question result := by
      rcases route_of_query query exchanged original with
        ⟨result, raised, reply, unevaluated, caught⟩ |
        ⟨decision, rule, evaluated, selected, planned⟩
      · rcases answers with ⟨edns, walked⟩ | ⟨decision, _, evaluated, _⟩
        · rw [caught]
          exact catchRoute_answers query walked reply raised
        · exact absurd evaluated (unevaluated decision)
      · refine planDecision_answers query evaluated selected planned ?_
          (shallow decision rule evaluated selected)
        refine answers.imp_right ?_
        rintro ⟨other, otherRule, evaluated', selected', noReply⟩
        rw [evaluated] at evaluated'
        cases evaluated'
        rw [selected] at selected'
        cases selected'
        exact noReply
    obtain ⟨result, returned, facts⟩ := answered
    refine ⟨result, returned, ?_, fun none => absurd query (none question)⟩
    intro other otherQuery
    have same := query.1.symm.trans otherQuery.1
    cases same
    exact facts
  · obtain ⟨result, returned, silent⟩ :=
      route_of_invalid snapshot around valid exchanged original
    exact ⟨result, returned,
      fun question query => absurd ⟨question, query⟩ valid, fun _ => silent⟩

/-- A request whose records cannot be walked, and whose decision needs a reply,
is not answered when its exchange fails. -/
theorem route_escapes {snapshot : Snapshot} {around : Surroundings}
    {exchanged : Demand → Except Thrown Reply} {request : Packet}
    {question : Question} (query : ValidQuery request question)
    (original : Server)
    (unwalked : ∀ edns, ednsRequest request question ≠ .ok edns)
    (replies : ∀ decision rule, evaluateRule snapshot.config question.name
      around.network = .ok decision → decision.rule = some rule →
      ¬ NeedsNoReply decision rule)
    (failing : ∀ demand, ∃ thrown, exchanged demand = .error thrown) :
    ∃ escaped, route snapshot around exchanged request original =
      .error escaped := by
  rcases route_of_query query exchanged original with
    ⟨result, raised, _, _, caught⟩ |
    ⟨decision, rule, evaluated, selected, planned⟩
  · rw [caught]
    exact catchRoute_escapes query unwalked result raised
  · exact planDecision_fails query unwalked
      (replies decision rule evaluated selected) planned failing

/-- A request is answered, whatever its exchange can bring, exactly when it is
answerable: the records behind a valid question can be walked or the decision
needs no reply, and no zero answer lies too deep. -/
theorem route_answers_iff (snapshot : Snapshot) (around : Surroundings)
    (request : Packet) (original : Server) :
    (∀ exchanged : Demand → Except Thrown Reply,
      (∀ demand, Possible snapshot demand (exchanged demand)) →
      RouteAnswers snapshot around request
        (route snapshot around exchanged request original)) ↔
      Answerable snapshot around request := by
  constructor
  · intro answers question query
    choose thrown possible using possible_failure snapshot
    let exchanged : Demand → Except Thrown Reply := fun demand =>
      .error (thrown demand)
    have answered := answers exchanged possible
    have answerable : (∃ edns, ednsRequest request question = .ok edns) ∨
        ∃ decision rule, evaluateRule snapshot.config question.name
            around.network = .ok decision ∧ decision.rule = some rule ∧
          NeedsNoReply decision rule := by
      by_contra neither
      rw [not_or, not_exists] at neither
      obtain ⟨unwalked, replies⟩ := neither
      obtain ⟨escaped, escapes⟩ := route_escapes query original unwalked
        (fun decision rule evaluated selected noReply =>
          replies ⟨decision, rule, evaluated, selected, noReply⟩)
        (fun demand => (⟨thrown demand, rfl⟩ :
          ∃ raised, exchanged demand = .error raised))
      obtain ⟨result, returned, _⟩ := answered
      rw [escapes] at returned
      cases returned
    refine ⟨answerable, ?_⟩
    intro decision rule evaluated selected deep
    rcases route_of_query query exchanged original with
      ⟨_, _, _, unevaluated, _⟩ | ⟨other, otherRule, evaluated', selected', planned⟩
    · exact unevaluated decision evaluated
    · rw [evaluated] at evaluated'
      cases evaluated'
      rw [selected] at selected'
      cases selected'
      rcases answerable with ⟨edns, walked⟩ | ⟨other, otherRule, again, same, noReply⟩
      · exact planDecision_tooDeep query walked deep planned answered
      · rw [evaluated] at again
        cases again
        rw [selected] at same
        cases same
        obtain ⟨_, captive, block, zero, _⟩ := deep
        rcases noReply.2 with isCaptive | bypass | ⟨_, silent⟩
        · rw [captive] at isCaptive
          cases isCaptive
        · rw [block] at bypass
          cases bypass
        · rw [zero] at silent
          cases silent
  · intro answerable exchanged _
    exact route_answers answerable exchanged original

def blockingConfig : Config :=
  { rules :=
      [{ id := 1
         name := text "Default"
         isDefault := true
         patterns := [text "*"]
         action := .block
         blockMode := .nxdomain }] }

/-- A valid query followed by one stray byte makes the handler itself raise, and
the exception escapes whatever the upstreams do. -/
theorem route_escapes_strayByte :
    validate ipv4Platform blockingConfig = .ok () ∧
      runtimeOptions blockingConfig = .ok {} ∧
      (∃ question, ValidQuery (addressQuery [1, 97, 0] ++ [0]) question) ∧
      ∀ exchanged original,
        route
            { platform := ipv4Platform
              config := blockingConfig
              options := {} } {} exchanged (addressQuery [1, 97, 0] ++ [0])
            original =
          .error (.error (.of "DNS_MALFORMED"
            "Unexpected bytes after DNS records")) :=
  ⟨by rfl, by rfl, ⟨_, rfl, by decide⟩, fun _ _ => by rfl⟩

end NativeDNS

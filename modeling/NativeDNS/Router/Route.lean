/-
`Router::route`: from a request to a disposition.

The part in front of the cached exchange is a plan that returns, raises, or
names the exchange to make; `exchanged` supplies the outcome of that exchange.
The handlers at the end build the error reply themselves and can raise, and
then the exception leaves `route`.  Logging is left out.
-/
import NativeDNS.Router.Provenance
import NativeDNS.Rules.Totality
import NativeDNS.Wire.Synthetic

namespace NativeDNS

open ByteText (text decimal)
open CheckedResult

inductive Disposition where
  | reply
  | forwardOriginal
  | silentDrop
  deriving DecidableEq, Repr

structure RouteResult where
  disposition : Disposition := .reply
  packet : Packet := []
  ruleId : UInt32 := 0
  serverId : UInt32 := 0
  action : Action := .process
  errorCode : String := ""
  message : Bytes := []
  deriving DecidableEq

/-- What `route` does before the cached exchange.  A plan that raises says
whether the question was found valid. -/
inductive RoutePlan where
  | returns (result : RouteResult)
  | raises (validQuestion : Bool) (result : RouteResult) (thrown : Thrown)
  | exchanges (result : RouteResult) (question : Question) (demand : Demand)

/-- The networks a call sees: the snapshot the rules read, and the one of the
shared monitor when the server is given its context. -/
structure Surroundings where
  network : NetworkSnapshot := {}
  shared : NetworkSnapshot := {}

/-! ### The plan -/

def selectServer (servers : List Server) (original : Server) (rule : Rule) :
    Checked Server :=
  if rule.serverId ≠ 0 then
    match findServer servers rule.serverId with
    | some server => pure server
    | none => throw (.of "SERVER_REFERENCE" "Missing selected server")
  else pure original

def bindServer (decision : RuleDecision) (rule : Rule) (server : Server) :
    Checked Server :=
  if decision.route.interfaceId ≠ [] then
    if rule.serverId = 0 then
      match decision.interfaceDns with
      | [] =>
          throw (.of "INTERFACE_DNS" "Selected interface has no DNS resolver")
      | front :: _ =>
          pure
            { server with
              route := decision.route
              ip := front
              port := 53 }
    else pure { server with route := decision.route }
  else pure server

def routeDemand (snapshot : Snapshot) (shared : NetworkSnapshot)
    (request : Packet) (original : Server) (decision : RuleDecision)
    (rule : Rule) : Checked Demand := do
  let server ← selectServer snapshot.config.servers original rule
  let routed ← bindServer decision rule server
  pure
    { request := request
      primary := withNetworkContext shared routed
      configured := decide (rule.serverId ≠ 0) }

def ruleResult (rule : Rule) : RouteResult :=
  { ruleId := rule.id
    serverId := rule.serverId
    action := rule.action }

def planDecision (snapshot : Snapshot) (shared : NetworkSnapshot)
    (request : Packet) (original : Server) (question : Question)
    (decision : RuleDecision) (rule : Rule) : RoutePlan :=
  if decision.errorCode ≠ "" then
    .raises true (ruleResult rule)
      (.error
        { code := decision.errorCode
          message := decision.message })
  else if decision.captiveBypass = true ∨ rule.action = .bypass then
    .returns
      { ruleResult rule with
        disposition := .forwardOriginal
        packet := request }
  else if rule.action = .block then
    if rule.blockMode = .silentDrop then
      .returns { ruleResult rule with disposition := .silentDrop }
    else
      match makeBlockResponse request rule.blockMode with
      | .ok packet => .returns { ruleResult rule with packet := packet }
      | .error error => .raises true (ruleResult rule) (.error error)
  else
    match routeDemand snapshot shared request original decision rule with
    | .ok demand => .exchanges (ruleResult rule) question demand
    | .error error => .raises true (ruleResult rule) (.error error)

def planRoute (snapshot : Snapshot) (around : Surroundings)
    (request : Packet) (original : Server) : RoutePlan :=
  match parseQuestion request with
  | .error error => .raises false {} (.error error)
  | .ok question =>
      if question.flags &&& 0x8000 ≠ 0 then
        .raises false {}
          (.error (.of "DNS_MALFORMED" "Cannot route a reply as a query"))
      else
        match evaluateRule snapshot.config question.name around.network with
        | .error error => .raises true {} (.error error)
        | .ok decision =>
            match decision.rule with
            -- an evaluation that returns names its rule
            | none => .raises true {} (.exception [])
            | some rule =>
                planDecision snapshot around.shared request original question
                  decision rule

/-! ### The handlers and the whole call -/

/-- The two handlers: an error reply for a valid question, a silent drop
otherwise. -/
def catchRoute (request : Packet) (validQuestion : Bool) (result : RouteResult)
    (thrown : Thrown) : Except Thrown RouteResult :=
  let result :=
    { result with
      errorCode := (pendingError thrown).code
      message := (pendingError thrown).message }
  if validQuestion then
    match makeErrorResponse request 2 with
    | .ok packet => .ok { result with packet := packet }
    | .error error => .error (.error error)
  else .ok { result with disposition := .silentDrop }

def finishRoute (snapshot : Snapshot) (request : Packet) (question : Question)
    (result : RouteResult) (reply : Reply) : Except Thrown RouteResult :=
  let result :=
    { result with
      packet := reply.packet
      serverId := reply.usedServerId }
  match parseResponse snapshot.platform reply.packet question with
  | .error error => catchRoute request true result (.error error)
  | .ok parsed =>
      if parsed.rcode ≠ 0 then
        .ok
          { result with
            errorCode := "DNS_RCODE"
            message := text "Upstream returned RCODE " ++ decimal parsed.rcode }
      else .ok result

/-- A whole call; an error is an exception that escapes. -/
def route (snapshot : Snapshot) (around : Surroundings)
    (exchanged : Demand → Except Thrown Reply) (request : Packet)
    (original : Server) : Except Thrown RouteResult :=
  match planRoute snapshot around request original with
  | .returns result => .ok result
  | .raises validQuestion result thrown =>
      catchRoute request validQuestion result thrown
  | .exchanges result question demand =>
      match exchanged demand with
      | .error thrown => catchRoute request true result thrown
      | .ok reply => finishRoute snapshot request question result reply

/-- An outcome that some run of the calls on the snapshot gives a demand. -/
def Possible (snapshot : Snapshot) (demand : Demand)
    (result : Except Thrown Reply) : Prop :=
  ∃ world, Reached snapshot (fun _ => True) world ∧
    ∃ call ∈ world.calls, call.demand = demand ∧
      ∃ source, call.phase = .finished source result

end NativeDNS

/-
Validation of a whole configuration.

The checks run in the order of the source and stop at the first failure.  The
fallback graph is walked depth first; the walk is bounded by the number of
servers, which no chain of distinct server identifiers exceeds.
-/
import NativeDNS.Network
import NativeDNS.Rules.Options

namespace NativeDNS

open ByteText (text byte)
open CheckedResult

/-! ### Server checks -/

def isNumericIp (platform : Platform) (value : Bytes) : Bool :=
  (platform.parseIp value).isSome

def relayPort (value : Bytes) : Checked UInt16 :=
  match readUint32 value with
  | none => throw (.of "ENDPOINT" "Invalid relay port")
  | some port => do
      rejectIf (port = 0 ∨ port > 65535) (.of "ENDPOINT" "Invalid relay port")
      pure port.toUInt16

/-- The address and the port of a relay text: bracketed IPv6 with an optional
port, a host with one colon, or a bare address. -/
def relayAddress (value : Bytes) : Checked (Bytes × UInt16) := do
  rejectIf (value = [])
    (.of "ENDPOINT" "Anonymized DNSCrypt requires a relay endpoint")
  if value.head? = some (byte '[') then
    let inside := value.tail.takeWhile (· != byte ']')
    match value.tail.drop inside.length with
    | [] => throw (.of "ENDPOINT" "Invalid relay IPv6 endpoint")
    | _ :: [] => pure (inside, 443)
    | _ :: separator :: port => do
        rejectIf (separator ≠ byte ':')
          (.of "ENDPOINT" "Invalid relay endpoint")
        let port ← relayPort port
        pure (inside, port)
  else
    let address := value.takeWhile (· != byte ':')
    match value.drop address.length with
    | [] => pure (value, 443)
    | _ :: port =>
        if byte ':' ∈ port then pure (value, 443)
        else do
          let port ← relayPort port
          pure (address, port)

def relayEndpoint (platform : Platform) (server : Server) : Checked Server := do
  let (ip, port) ← relayAddress server.relay
  rejectIf (isNumericIp platform ip = false)
    (.of "ENDPOINT" "DNSCrypt relay requires a numeric IP")
  pure
    { enabled := true
      protocol := .udp
      timeoutMs := server.timeoutMs
      route := server.route
      port := port
      ip := ip }

def isHexDigit (character : UInt8) : Bool :=
  (decide (byte '0' ≤ character) && decide (character ≤ byte '9')) ||
    (decide (byte 'a' ≤ character) && decide (character ≤ byte 'f')) ||
    (decide (byte 'A' ≤ character) && decide (character ≤ byte 'F'))

def hexDigit (character : UInt8) : UInt8 :=
  if character ≤ byte '9' then character - byte '0'
  else (character ||| 32) - byte 'a' + 10

def keyDigits : Bytes → Checked Bytes
  | [] => pure []
  | character :: rest =>
      if character ∈ text ":- \t" then keyDigits rest
      else do
        rejectIf (isHexDigit character = false)
          (.of "DNSCRYPT_KEY"
            "Provider key contains a non-hexadecimal character")
        let digits ← keyDigits rest
        pure (character :: digits)

def hexPairs : Bytes → Bytes
  | high :: low :: rest => (hexDigit high <<< 4 ||| hexDigit low) :: hexPairs rest
  | _ => []

def parseDnscryptProviderKey (value : Bytes) : Checked Bytes := do
  let hex ← keyDigits value
  rejectIf (hex.length ≠ 64)
    (.of "DNSCRYPT_KEY" "Provider public key must contain 32 bytes")
  pure (hexPairs hex)

def validateDnscryptServer (platform : Platform) (server : Server) :
    Checked Unit := do
  rejectIf
    (server.protocol ≠ .dnscrypt ∧ server.protocol ≠ .anonymizedDnscrypt)
    (.of "PROTOCOL" "Expected a DNSCrypt server")
  rejectIf (server.ip = [])
    (.of "ENDPOINT" "DNSCrypt server requires a numeric IP")
  let _ ← normalizeHost server.providerName
  let _ ← parseDnscryptProviderKey server.publicKey
  if server.protocol = .anonymizedDnscrypt then
    let _ ← relayEndpoint platform server
    pure ()
  else pure ()

/-- The URL of a DNS-over-HTTPS server: scheme, no blanks or credentials, and
a host part. -/
def validateDohUrl (url : Bytes) : Checked Unit := do
  rejectIf
    ((text "https://").isPrefixOf url = false ∨
      (∃ character ∈ url, character ∈ text "\r\n\t ") ∨ byte '@' ∈ url)
    (.of "ENDPOINT" "DoH requires HTTPS URL without credentials or whitespace")
  rejectIf ((url.drop 8).takeWhile (· != byte '/') = [])
    (.of "ENDPOINT" "Empty DoH host")

/-- Fallback identifiers are nonzero, distinct and differ from the server's. -/
def validateFallbackIds (own : UInt32) : List UInt32 → List UInt32 → Checked Unit
  | _, [] => pure ()
  | seen, fallback :: rest => do
      rejectIf (fallback = 0 ∨ fallback = own ∨ fallback ∈ seen)
        (.of "SERVER_FALLBACK"
          "Fallback IDs must be nonzero, unique, and different from the primary server")
      validateFallbackIds own (fallback :: seen) rest

def validateServer (platform : Platform) (server : Server) : Checked Unit := do
  rejectIf (server.timeoutMs = 0 ∨ server.timeoutMs > 120000)
    (.of "CONFIG" "Timeout must be 1..120000 ms")
  if server.ip ≠ [] then
    let _ ← parseNumericEndpoint platform server.ip
  rejectIf
    ((server.protocol = .udp ∨ server.protocol = .tcp) ∧ server.ip = [])
    (.of "ENDPOINT" "Plain server requires IP")
  if server.protocol = .dnscrypt ∨ server.protocol = .anonymizedDnscrypt then
    validateDnscryptServer platform server
  rejectIf
    (server.allowDirectCertificateFallback = true ∧
      server.protocol ≠ .anonymizedDnscrypt)
    (.of "CONFIG"
      "Direct certificate fallback applies only to Anonymized DNSCrypt")
  if server.protocol = .dot ∨ server.protocol = .doq then
    let _ ← normalizeHost server.hostname
  if server.protocol = .doh ∨ server.protocol = .doh3 then
    validateDohUrl server.url
  validateFallbackIds server.id [] server.fallbackIds

/-- The server loop, carrying the identifiers seen so far. -/
def validateServers (platform : Platform) :
    List UInt32 → List Server → Checked (List UInt32)
  | ids, [] => pure ids
  | ids, server :: rest => do
      rejectIf (server.id = 0 ∨ server.id ∈ ids ∨ server.name = [])
        (.of "SERVER_ID" "Missing/duplicate server ID or name")
      validateServer platform server
      validateServers platform (server.id :: ids) rest

/-! ### The fallback graph -/

def findServer (servers : List Server) (id : UInt32) : Option Server :=
  servers.find? (·.id == id)

def validateFallbackTargets (servers : List Server) : Checked Unit :=
  rejectIf
    (∃ server ∈ servers, ∃ fallback ∈ server.fallbackIds,
      findServer servers fallback = none)
    (.of "SERVER_FALLBACK" "Fallback references a missing server")

def fallbackCycle : Error :=
  .of "SERVER_FALLBACK" "Fallback graph contains a cycle"

/-- The depth-first visit of one server.  `visiting` is the open chain,
`visited` the closed servers; the result is the grown set of closed ones. -/
def visitServer (servers : List Server) :
    Nat → List UInt32 → List UInt32 → UInt32 → Checked (List UInt32)
  | 0, _, _, _ => throw fallbackCycle
  | fuel + 1, visiting, visited, id =>
      if id ∈ visited then pure visited
      else if id ∈ visiting then throw fallbackCycle
      else do
        let fallbacks := ((findServer servers id).map (·.fallbackIds)).getD []
        let visited ←
          fallbacks.foldlM
            (fun closed fallback =>
              visitServer servers fuel (id :: visiting) closed fallback)
            visited
        pure (id :: visited)

def validateFallbackGraph (servers : List Server) : Checked Unit := do
  let _ ←
    (servers.map (·.id)).foldlM
      (fun closed id => visitServer servers (servers.length + 1) [] closed id) []
  pure ()

/-! ### Rules -/

def validatePatterns : List Bytes → Checked Unit
  | [] => pure ()
  | pattern :: rest => do
      let _ ← normalizeDnsName pattern true
      validatePatterns rest

/-- The checks of one rule after its identifier and name; `last` says whether
it stands at the end of the list. -/
def validateRule (servers : List UInt32) (rule : Rule) (last : Bool) :
    Checked Unit := do
  rejectIf (rule.blockMode.exceeds .silentDrop = true)
    (.of "CONFIG" "Invalid block mode")
  rejectIf (rule.isDefault ≠ last)
    (.of "DEFAULT" "Exactly one Default must be last")
  rejectIf
    (rule.isDefault = true ∧ (rule.enabled = false ∨ rule.patterns ≠ [text "*"]))
    (.of "DEFAULT" "Default must be enabled and match all")
  rejectIf (rule.patterns = [] ∨ rule.patterns.length > 4096)
    (.of "PATTERN" "Missing or excessive patterns")
  validatePatterns rule.patterns
  rejectIf
    (rule.action = .process ∧ rule.serverId ≠ 0 ∧ rule.serverId ∉ servers)
    (.of "SERVER_REFERENCE" "Rule references missing server")
  rejectIf (rule.action ≠ .process ∧ rule.serverId ≠ 0)
    (.of "SERVER_REFERENCE" "Non-Process rule cannot select server")

def validateRules (servers : List UInt32) : List UInt32 → List Rule → Checked Unit
  | _, [] => pure ()
  | ids, rule :: rest => do
      rejectIf (rule.id = 0 ∨ rule.id ∈ ids ∨ rule.name = [])
        (.of "RULE_ID" "Missing/duplicate rule ID or name")
      validateRule servers rule rest.isEmpty
      validateRules servers (rule.id :: ids) rest

def validate (platform : Platform) (config : Config) : Checked Unit := do
  let _ ← runtimeOptions config
  rejectIf (config.schemaVersion ≠ 1)
    (.of "SCHEMA" "Unsupported schema version")
  rejectIf
    (config.servers.length > 4096 ∨ config.rules = [] ∨
      config.rules.length > 4096)
    (.of "CONFIG_LIMIT" "Configuration count limit or missing Default")
  rejectIf (config.testConcurrency = 0 ∨ config.testConcurrency > 64)
    (.of "CONFIG" "Test concurrency must be 1..64")
  let _ ← normalizeHost config.testTarget
  rejectIf
    (config.logging.screen.exceeds .debug = true ∨
      config.logging.file.exceeds .debug = true)
    (.of "CONFIG" "Invalid log level")
  let ids ← validateServers platform [] config.servers
  validateFallbackTargets config.servers
  validateFallbackGraph config.servers
  validateRules ids [] config.rules

/-! ### What an accepted configuration satisfies -/

/-- The facts about one rule that the rule loop has established. -/
structure ValidRule (servers : List UInt32) (rule : Rule) : Prop where
  named : rule.id ≠ 0 ∧ rule.name ≠ []
  blockMode : rule.blockMode.exceeds .silentDrop = false
  patternCount : rule.patterns ≠ [] ∧ rule.patterns.length ≤ 4096
  patterns : ∀ pattern ∈ rule.patterns,
    ∃ normal, normalizeDnsName pattern true = .ok normal
  reference : rule.serverId ≠ 0 →
    rule.action = .process ∧ rule.serverId ∈ servers

/-- The facts about one server that the server loop has established. -/
structure ValidServer (platform : Platform) (server : Server) : Prop where
  named : server.id ≠ 0 ∧ server.name ≠ []
  checked : validateServer platform server = .ok ()

structure ValidConfig (platform : Platform) (config : Config) : Prop where
  options : ∃ options, runtimeOptions config = .ok options
  schema : config.schemaVersion = 1
  counts : config.servers.length ≤ 4096 ∧ config.rules.length ≤ 4096
  concurrency : config.testConcurrency ≠ 0 ∧ ¬ config.testConcurrency > 64
  testTarget : ∃ host, normalizeHost config.testTarget = .ok host
  levels : config.logging.screen.exceeds .debug = false ∧
    config.logging.file.exceeds .debug = false
  servers : ∀ server ∈ config.servers, ValidServer platform server
  distinct : (config.servers.map (·.id)).Nodup
  targets : ∀ server ∈ config.servers, ∀ fallback ∈ server.fallbackIds,
    findServer config.servers fallback ≠ none
  rules : ∀ rule ∈ config.rules,
    ValidRule (config.servers.map (·.id)) rule
  default : ∃ front last, config.rules = front ++ [last] ∧
    last.isDefault = true ∧ last.enabled = true ∧ last.patterns = [text "*"] ∧
    ∀ rule ∈ front, rule.isDefault = false

private theorem validateServers_eq_ok {platform : Platform} :
    ∀ {servers : List Server} {ids result : List UInt32},
      validateServers platform ids servers = .ok result →
      (∀ server ∈ servers, ValidServer platform server) ∧
        (servers.map (·.id)).Nodup ∧
        (∀ server ∈ servers, server.id ∉ ids) ∧
        (∀ id, id ∈ result ↔ id ∈ ids ∨ id ∈ servers.map (·.id))
  | [], ids, result, run => by
      cases run
      simp
  | server :: rest, ids, result, run => by
      simp only [validateServers, bind_eq_ok, rejectIf_eq_ok] at run
      obtain ⟨_, header, _, checked, tail⟩ := run
      obtain ⟨valid, distinct, fresh, members⟩ := validateServers_eq_ok tail
      have own : server.id ≠ 0 ∧ server.id ∉ ids ∧ server.name ≠ [] := by
        simpa only [not_or] using header
      have restFresh : ∀ other ∈ rest, other.id ≠ server.id ∧ other.id ∉ ids := by
        intro other member
        simpa only [List.mem_cons, not_or] using fresh other member
      refine ⟨?_, ?_, ?_, ?_⟩
      · intro other member
        rcases List.mem_cons.mp member with rfl | inRest
        · exact ⟨⟨own.1, own.2.2⟩, checked⟩
        · exact valid other inRest
      · rw [List.map_cons, List.nodup_cons]
        refine ⟨?_, distinct⟩
        rintro member
        obtain ⟨other, inRest, same⟩ := List.mem_map.mp member
        exact (restFresh other inRest).1 same
      · intro other member
        rcases List.mem_cons.mp member with rfl | inRest
        · exact own.2.1
        · exact (restFresh other inRest).2
      · intro id
        rw [members id]
        simp only [List.mem_cons, List.map_cons]
        tauto

private theorem validatePatterns_eq_ok :
    ∀ {patterns : List Bytes}, validatePatterns patterns = .ok () →
      ∀ pattern ∈ patterns, ∃ normal, normalizeDnsName pattern true = .ok normal
  | [], _ => by
      simp
  | first :: rest, run => by
      simp only [validatePatterns, bind_eq_ok] at run
      obtain ⟨normal, accepted, tail⟩ := run
      intro pattern member
      rcases List.mem_cons.mp member with rfl | inRest
      · exact ⟨normal, accepted⟩
      · exact validatePatterns_eq_ok tail pattern inRest

private theorem validateRule_eq_ok {servers : List UInt32} {rule : Rule}
    {last : Bool} (named : rule.id ≠ 0 ∧ rule.name ≠ [])
    (run : validateRule servers rule last = .ok ()) :
    ValidRule servers rule ∧ rule.isDefault = last ∧
      (last = true → rule.enabled = true ∧ rule.patterns = [text "*"]) := by
  simp only [validateRule, bind_eq_ok, rejectIf_eq_ok, not_and, not_or,
    Decidable.not_not, Bool.not_eq_true, Bool.not_eq_false] at run
  obtain ⟨_, mode, _, isLast, _, isDefault, _, count, _, patterns, _, exists_,
    absent⟩ := run
  refine ⟨⟨named, mode, ⟨count.1, Nat.le_of_not_lt count.2⟩,
    validatePatterns_eq_ok patterns, ?_⟩, isLast, ?_⟩
  · intro selected
    have process : rule.action = .process := by
      by_contra other
      exact selected (absent other)
    exact ⟨process, exists_ process selected⟩
  · intro atEnd
    exact isDefault (isLast.trans atEnd)

private theorem validateRules_eq_ok {servers : List UInt32} :
    ∀ {rules : List Rule} {ids : List UInt32},
      validateRules servers ids rules = .ok () →
      (∀ rule ∈ rules, ValidRule servers rule) ∧
        (rules ≠ [] → ∃ front last, rules = front ++ [last] ∧
          last.isDefault = true ∧ last.enabled = true ∧
          last.patterns = [text "*"] ∧ ∀ rule ∈ front, rule.isDefault = false)
  | [], _, _ => by
      simp
  | rule :: rest, ids, run => by
      simp only [validateRules, bind_eq_ok, rejectIf_eq_ok, not_or] at run
      obtain ⟨_, ⟨nonzero, _, named⟩, _, checked, tail⟩ := run
      obtain ⟨valid, isDefault, matchAll⟩ :=
        validateRule_eq_ok ⟨nonzero, named⟩ checked
      obtain ⟨validRest, shape⟩ := validateRules_eq_ok tail
      refine ⟨?_, fun _ => ?_⟩
      · intro other member
        rcases List.mem_cons.mp member with rfl | inRest
        · exact valid
        · exact validRest other inRest
      · cases rest with
        | nil =>
            have atEnd := matchAll rfl
            exact ⟨[], rule, rfl, isDefault, atEnd.1, atEnd.2, by simp⟩
        | cons next others =>
            obtain ⟨front, last, split, lastDefault, enabled, star, plain⟩ :=
              shape (List.cons_ne_nil next others)
            refine ⟨rule :: front, last, by rw [split, List.cons_append],
              lastDefault, enabled, star, ?_⟩
            intro other member
            rcases List.mem_cons.mp member with rfl | inFront
            · exact isDefault
            · exact plain other inFront

private theorem validRule_of_ids {ids others : List UInt32} {rule : Rule}
    (same : ∀ id, id ∈ ids → id ∈ others) (valid : ValidRule ids rule) :
    ValidRule others rule :=
  { valid with
    reference := fun selected =>
      ⟨(valid.reference selected).1, same _ (valid.reference selected).2⟩ }

/-- Everything the checks of a configuration establish, except for the shape
of the fallback graph. -/
theorem validate_valid {platform : Platform} {config : Config}
    (accepted : validate platform config = .ok ()) :
    ValidConfig platform config := by
  simp only [validate, bind_eq_ok, rejectIf_eq_ok, not_or, Decidable.not_not,
    Bool.not_eq_true] at accepted
  obtain ⟨options, optionsOk, _, schema, _, counts, _, concurrency, host,
    testTarget, _, levels, ids, servers, _, targets, _, _, rules⟩ := accepted
  obtain ⟨validServers, distinct, _, members⟩ := validateServers_eq_ok servers
  obtain ⟨validRules, shape⟩ := validateRules_eq_ok rules
  have known : ∀ id, id ∈ ids → id ∈ config.servers.map (·.id) := by
    intro id member
    simpa using (members id).mp member
  have targetsExist : ∀ server ∈ config.servers,
      ∀ fallback ∈ server.fallbackIds,
        findServer config.servers fallback ≠ none := by
    intro server member fallback listed missing
    rw [validateFallbackTargets, rejectIf_eq_ok] at targets
    exact targets ⟨server, member, fallback, listed, missing⟩
  exact
    { options := ⟨options, optionsOk⟩
      schema := schema
      counts := ⟨Nat.le_of_not_lt counts.1, Nat.le_of_not_lt counts.2.2⟩
      concurrency := concurrency
      testTarget := ⟨host, testTarget⟩
      levels := levels
      servers := validServers
      distinct := distinct
      targets := targetsExist
      rules := fun rule member =>
        validRule_of_ids known (validRules rule member)
      default := shape counts.2.1 }

theorem findServer_some {servers : List Server} {id : UInt32} {server : Server}
    (found : findServer servers id = some server) :
    server ∈ servers ∧ server.id = id :=
  ⟨List.mem_of_find?_eq_some found, by
    simpa using List.find?_some found⟩

end NativeDNS

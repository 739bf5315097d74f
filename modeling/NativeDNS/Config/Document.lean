/-
Configurations as XML documents: how one is read from a tree of elements and
how one is written.

Reading takes known attributes only and falls back to the defaults of the
source; writing lists every field of an element in order.  Both validate the
whole configuration.  The lists of a server and of a rule are one attribute
each, joined by semicolons.
-/
import NativeDNS.Config.Xml
import NativeDNS.Rules.Validation

namespace NativeDNS

open ByteText (text byte decimal pieces)
open CheckedResult

namespace Document

/-! ### Attribute values -/

def attr (node : Node) (key : Bytes) (fallback : Bytes := []) : Bytes :=
  (node.attrs.find? key).getD fallback

def number (value : Bytes) : Checked UInt32 :=
  match readUint32 value with
  | some result => pure result
  | none =>
      throw
        { code := "CONFIG_NUMBER"
          message := text "Invalid unsigned integer: " ++ value }

def num (node : Node) (key : Bytes) (fallback : UInt32) : Checked UInt32 :=
  number (attr node key (decimal fallback.toNat))

def flagText (value : Bool) : Bytes :=
  if value then text "1" else text "0"

def flag (node : Node) (key : Bytes) (fallback : Bool) : Checked Bool := do
  let value := attr node key (flagText fallback)
  rejectIf (value ≠ text "0" ∧ value ≠ text "1")
    { code := "CONFIG_BOOL"
      message := text "Invalid boolean: " ++ key }
  pure (value == text "1")

def protocol (name : Bytes) : Checked Protocol :=
  match Protocol.all.find? (fun candidate => name = protocolName candidate) with
  | some found => pure found
  | none =>
      if name = text "plain" then pure .udp
      else
        throw
          { code := "PROTOCOL"
            message := text "Unsupported protocol in config: " ++ name }

def action (name : Bytes) : Checked Action :=
  if name = text "process" ∨ name = text "process_server" then pure .process
  else if name = text "bypass" then pure .bypass
  else if name = text "block" then pure .block
  else
    throw
      { code := "ACTION"
        message := text "Unsupported action: " ++ name }

def known (node : Node) (keys : List Bytes) : Checked Unit :=
  match node.attrs.entries.find? (fun entry => decide (entry.1 ∉ keys)) with
  | some (key, _) =>
      throw
        { code := "CONFIG_FIELD"
          message := text "Unknown field " ++ node.name ++ byte '/' :: key }
  | none => pure ()

/-! ### Lists in one attribute -/

def join (values : List Bytes) : Bytes :=
  values.foldl
    (fun out value => (if out = [] then out else out ++ [byte ';']) ++ value) []

def split (value : Bytes) : List Bytes :=
  (pieces (byte ';') value).filter (· ≠ [])

def joinIds (values : List UInt32) : Bytes :=
  join (values.map fun value => decimal value.toNat)

def splitIds (value : Bytes) : Checked (List UInt32) :=
  (split value).mapM number

/-! ### Writing -/

def writeAll {α : Type} (write : α → Checked Bytes) : List α → Checked Bytes
  | [] => pure []
  | item :: rest => do
      let first ← write item
      let others ← writeAll write rest
      pure (first ++ others)

def escapeCharacter (c : UInt8) : Checked Bytes :=
  if c = byte '&' then pure (text "&amp;")
  else if c = byte '<' then pure (text "&lt;")
  else if c = byte '>' then pure (text "&gt;")
  else if c = byte '"' then pure (text "&quot;")
  else if c = byte '\n' then pure (text "&#10;")
  else if c = byte '\r' then pure (text "&#13;")
  else if c = byte '\t' then pure (text "&#9;")
  else do
    rejectIf (c < 32) (.of "XML" "Control character cannot be serialized")
    pure [c]

def escape (value : Bytes) : Checked Bytes := do
  let _ ← widenPoints value
  writeAll escapeCharacter value

def field (name value : Bytes) : Checked Bytes := do
  let escaped ← escape value
  pure (text " " ++ name ++ text "=\"" ++ escaped ++ text "\"")

def fields : List (Bytes × Bytes) → Checked Bytes :=
  writeAll fun (name, value) => field name value

def metaElement (entry : Bytes × Bytes) : Checked Bytes := do
  let written ← fields [(text "key", entry.1), (text "value", entry.2)]
  pure (text "    <Meta" ++ written ++ text "/>\n")

def metadata (values : Metadata) : Checked Bytes :=
  writeAll metaElement values.entries

def rootFields (config : Config) : List (Bytes × Bytes) :=
  [(text "testTarget", config.testTarget),
    (text "testConcurrency", decimal config.testConcurrency.toNat)]

def loggingFields (logging : LoggingSettings) : List (Bytes × Bytes) :=
  [(text "screen", decimal logging.screen.value.toNat),
    (text "file", decimal logging.file.value.toNat),
    (text "enabled", flagText logging.fileEnabled),
    (text "directory", logging.directory)]

def serverFields (s : Server) : List (Bytes × Bytes) :=
  [(text "id", decimal s.id.toNat),
    (text "name", s.name),
    (text "enabled", flagText s.enabled),
    (text "protocol", protocolName s.protocol),
    (text "ip", s.ip),
    (text "port", decimal s.port.toNat),
    (text "hostname", s.hostname),
    (text "url", s.url),
    (text "dnssec", flagText s.dnssecSupported),
    (text "timeout", decimal s.timeoutMs.toNat),
    (text "directCertificateFallback",
      flagText s.allowDirectCertificateFallback),
    (text "fallbacks", joinIds s.fallbackIds),
    (text "bootstrap", join s.bootstrap),
    (text "hashes", join s.hashes),
    (text "publicKey", s.publicKey),
    (text "provider", s.providerName),
    (text "relay", s.relay)]

def ruleFields (r : Rule) : List (Bytes × Bytes) :=
  [(text "id", decimal r.id.toNat),
    (text "name", r.name),
    (text "enabled", flagText r.enabled),
    (text "default", flagText r.isDefault),
    (text "patterns", join r.patterns),
    (text "action", actionName r.action),
    (text "server", decimal r.serverId.toNat),
    (text "interface", r.interfaceId),
    (text "validate", flagText r.dnssecValidate),
    (text "rejectUnsigned", flagText r.dnssecRejectUnsigned),
    (text "blockMode", decimal r.blockMode.value.toNat)]

def serverElement (s : Server) : Checked Bytes := do
  let written ← fields (serverFields s)
  let kept ← metadata s.metadata
  pure (text "  <Server" ++ written ++ text ">\n" ++ kept ++ text "  </Server>\n")

def ruleElement (r : Rule) : Checked Bytes := do
  let written ← fields (ruleFields r)
  let kept ← metadata r.metadata
  pure (text "  <Rule" ++ written ++ text ">\n" ++ kept ++ text "  </Rule>\n")

/-! ### Reading -/

def readMeta (parent : Node) (result : Metadata) (item : Node) :
    Checked Metadata := do
  rejectIf (item.name ≠ text "Meta" ∨ item.children.isEmpty = false)
    { code := "CONFIG_FIELD"
      message := text "Unexpected child of " ++ parent.name }
  known item [text "key", text "value"]
  match result.emplace (attr item (text "key")) (attr item (text "value")) with
  | some result => pure result
  | none => throw (.of "CONFIG_FIELD" "Duplicate metadata key")

def readMetadata (node : Node) : Checked Metadata :=
  node.children.foldlM (readMeta node) OrderedMap.empty

def loggingKeys : List Bytes :=
  [text "screen", text "file", text "enabled", text "directory"]

def readLogging (node : Node) : Checked LoggingSettings := do
  known node loggingKeys
  let screen ← num node (text "screen") 1
  let file ← num node (text "file") 1
  let enabled ← flag node (text "enabled") true
  pure
    { screen := ⟨screen.toBitVec⟩
      file := ⟨file.toBitVec⟩
      fileEnabled := enabled
      directory := attr node (text "directory") (text "logs") }

def serverKeys : List Bytes :=
  [text "id", text "name", text "enabled", text "protocol", text "ip",
    text "port", text "hostname", text "url", text "dnssec", text "timeout",
    text "directCertificateFallback", text "fallbacks", text "bootstrap",
    text "hashes", text "publicKey", text "provider", text "relay"]

def readServer (node : Node) : Checked Server := do
  known node serverKeys
  let id ← num node (text "id") 0
  let enabled ← flag node (text "enabled") true
  let protocol ← protocol (attr node (text "protocol"))
  let port ← num node (text "port") 0
  rejectIf (port > 65535) (.of "ENDPOINT" "Port out of range")
  let dnssec ← flag node (text "dnssec") false
  let timeout ← num node (text "timeout") 3000
  let direct ← flag node (text "directCertificateFallback") false
  let fallbacks ← splitIds (attr node (text "fallbacks"))
  let kept ← readMetadata node
  pure
    { id := id
      name := attr node (text "name")
      enabled := enabled
      protocol := protocol
      ip := attr node (text "ip")
      port := port.toUInt16
      hostname := attr node (text "hostname")
      url := attr node (text "url")
      dnssecSupported := dnssec
      timeoutMs := timeout
      allowDirectCertificateFallback := direct
      fallbackIds := fallbacks
      bootstrap := split (attr node (text "bootstrap"))
      hashes := split (attr node (text "hashes"))
      publicKey := attr node (text "publicKey")
      providerName := attr node (text "provider")
      relay := attr node (text "relay")
      metadata := kept }

def ruleKeys : List Bytes :=
  [text "id", text "name", text "enabled", text "default", text "patterns",
    text "action", text "server", text "interface", text "validate",
    text "rejectUnsigned", text "blockMode"]

def readRule (node : Node) : Checked Rule := do
  known node ruleKeys
  let id ← num node (text "id") 0
  let enabled ← flag node (text "enabled") true
  let isDefault ← flag node (text "default") false
  let action ← action (attr node (text "action"))
  let server ← num node (text "server") 0
  let validated ← flag node (text "validate") false
  let rejectUnsigned ← flag node (text "rejectUnsigned") false
  let blockMode ← num node (text "blockMode") 0
  let kept ← readMetadata node
  pure
    { id := id
      name := attr node (text "name")
      enabled := enabled
      isDefault := isDefault
      patterns := split (attr node (text "patterns"))
      action := action
      serverId := server
      interfaceId := attr node (text "interface")
      dnssecValidate := validated
      dnssecRejectUnsigned := rejectUnsigned
      blockMode := ⟨blockMode.toBitVec⟩
      metadata := kept }

/-- The configuration read so far, with the elements that may stand once. -/
structure Reading where
  config : Config
  sawSettings : Bool := false
  sawLogging : Bool := false

def readChild (reading : Reading) (node : Node) : Checked Reading :=
  let config := reading.config
  if node.name = text "Settings" then do
    known node []
    rejectIf (reading.sawSettings = true) (.of "CONFIG" "Duplicate Settings")
    let settings ← readMetadata node
    pure
      { reading with
        config := { config with settings := settings }
        sawSettings := true }
  else if node.name = text "Logging" then do
    rejectIf (reading.sawLogging = true ∨ node.children.isEmpty = false)
      (.of "CONFIG" "Invalid Logging element")
    let logging ← readLogging node
    pure
      { reading with
        config := { config with logging := logging }
        sawLogging := true }
  else if node.name = text "Server" then do
    let server ← readServer node
    pure
      { reading with
        config := { config with servers := config.servers ++ [server] } }
  else if node.name = text "Rule" then do
    let rule ← readRule node
    pure
      { reading with
        config := { config with rules := config.rules ++ [rule] } }
  else
    throw
      { code := "CONFIG_FIELD"
        message := text "Unknown element: " ++ node.name }

def rootKeys : List Bytes :=
  [text "schemaVersion", text "testTarget", text "testConcurrency"]

def readRoot (root : Node) : Checked Config := do
  rejectIf (root.name ≠ text "NativeDNS")
    (.of "CONFIG" "Expected NativeDNS root")
  known root rootKeys
  let schemaVersion ← num root (text "schemaVersion") 0
  let testConcurrency ← num root (text "testConcurrency") 15
  pure
    { schemaVersion := schemaVersion
      testTarget := attr root (text "testTarget") (text "iana.org")
      testConcurrency := testConcurrency }

end Document

open Document

def configFromRoot (platform : Platform) (root : Node) : Checked Config := do
  let config ← readRoot root
  let reading ← root.children.foldlM readChild { config := config }
  validate platform reading.config
  pure reading.config

def parseConfig (platform : Platform) (value : Bytes) : Checked Config := do
  let root ← XmlParser.parse value
  configFromRoot platform root

def configDocument (config : Config) : Checked Bytes := do
  let root ← fields (rootFields config)
  let settings ← metadata config.settings
  let logging ← fields (loggingFields config.logging)
  let servers ← writeAll serverElement config.servers
  let rules ← writeAll ruleElement config.rules
  pure
    (text "<?xml version=\"1.0\" encoding=\"UTF-8\"?>\n<NativeDNS schemaVersion=\"1\"" ++
      root ++ text ">\n" ++ text "  <Settings>\n" ++ settings ++
      text "  </Settings>\n" ++ text "  <Logging" ++ logging ++ text "/>\n" ++
      servers ++ rules ++ text "</NativeDNS>\n")

def serializeConfig (platform : Platform) (config : Config) : Checked Bytes := do
  validate platform config
  let result ← configDocument config
  rejectIf (result.length > textLimit)
    (.of "CONFIG_LIMIT" "Serialized config exceeds 4 MiB")
  pure result

end NativeDNS

/-
The import of YogaDNS profiles.

A profile is read like a configuration and translated element by element.  Each
kind of element has its own list of names that the importer knows; every other
attribute is kept as it stands, as a setting or as metadata of the server or
the rule, and all of them but those of the root are named in a warning.
-/
import NativeDNS.Library.Lists
import NativeDNS.Config.File
import NativeDNS.Rules.CanonicalNames
import NativeDNS.Rules.Editor

namespace NativeDNS

open ByteText (text byte decimal)
open CheckedResult
open Document

structure ImportResult where
  config : Config := {}
  warnings : List Bytes := []

def readXml (file : ConfigFile) : Checked Node := do
  let value ← readConfigText file
  XmlParser.parse value

namespace Yoga

/-! ### Attributes -/

def keepFields (front : String) (node : Node) (settings : Metadata) : Metadata :=
  settings.insertRenamed (text front ++ ·) node.attrs

def unmapped (message : String) (mapped : List Bytes) (node : Node) : List Bytes :=
  (node.attrs.entries.filter fun field => decide (field.1 ∉ mapped)).map
    fun field => text message ++ field.1

def settingsMessage : String :=
  "Preserved Yoga setting pending runtime support: "

def settingsMapped : List Bytes :=
  [text "clearDnsCache", text "ttlMin", text "ttlMax", text "blockTcpPort53",
    text "interceptOthers", text "captivePortalDetection",
    text "ignore_rule_if_interface_down"]

def checkerMessage : String :=
  "Preserved checker field: "

def checkerMapped : List Bytes :=
  [text "testTarget", text "testsPerTime"]

def serverMessage : String :=
  "Unmapped server field retained: "

def serverMapped : List Bytes :=
  [text "id", text "name", text "protocol", text "ip", text "af", text "port",
    text "enabled", text "dnssec_supported", text "dot_host_name",
    text "doh_host_name", text "doh_path"]

def ruleMessage : String :=
  "Unmapped rule field retained: "

def ruleMapped : List Bytes :=
  [text "name", text "enabled", text "hostnames", text "action",
    text "action_id", text "interface_id", text "interface_id_type",
    text "interface_name", text "dnssec_local_validation",
    text "dnssec_reject_unsigned"]

/-! ### Elements -/

def importChecker (result : ImportResult) (child : Node) : Checked ImportResult := do
  rejectIf (child.name ≠ text "DnsChecker" ∨ child.children.isEmpty = false)
    { code := "YOGA_FIELD"
      message := text "Unsupported Settings child: " ++ child.name }
  let testConcurrency ← num child (text "testsPerTime") 15
  pure
    { config :=
        { result.config with
          testTarget := attr child (text "testTarget") (text "iana.org")
          testConcurrency := testConcurrency
          settings := keepFields "yoga.checker." child result.config.settings }
      warnings := result.warnings ++ unmapped checkerMessage checkerMapped child }

def importSettings (result : ImportResult) (node : Node) : Checked ImportResult :=
  node.children.foldlM importChecker
    { config :=
        { result.config with
          settings := keepFields "yoga.settings." node result.config.settings }
      warnings := result.warnings ++ unmapped settingsMessage settingsMapped node }

/-- The host name of an encrypted server; the other protocols have none. -/
def serverHostname (node : Node) (protocol : Protocol) : Bytes :=
  if protocol = .doh ∨ protocol = .doh3 then attr node (text "doh_host_name")
  else if protocol = .dot then attr node (text "dot_host_name")
  else []

def serverUrl (node : Node) (protocol : Protocol) (port : UInt32) : Bytes :=
  if protocol = .doh ∨ protocol = .doh3 then
    text "https://" ++ attr node (text "doh_host_name") ++
      (if port ≠ 0 then text ":" ++ decimal port.toNat else []) ++
      attr node (text "doh_path") (text "/dns-query")
  else []

def importServer (node : Node) : Checked Server := do
  rejectIf (node.children.isEmpty = false)
    (.of "YOGA_FIELD" "Unexpected server children")
  let id ← num node (text "id") 0
  let protocol ← protocol (attr node (text "protocol"))
  let enabled ← flag node (text "enabled") true
  let dnssecSupported ← flag node (text "dnssec_supported") false
  let port ← num node (text "port") 0
  rejectIf (port > 65535) (.of "ENDPOINT" "Port out of range")
  pure
    { id := id
      name := attr node (text "name")
      protocol := protocol
      ip := attr node (text "ip")
      enabled := enabled
      dnssecSupported := dnssecSupported
      port := port.toUInt16
      hostname := serverHostname node protocol
      url := serverUrl node protocol port
      metadata := node.attrs }

def ruleWarnings (rule : Rule) (target : UInt32) : List Bytes :=
  (if rule.action ≠ .process ∧ target ≠ 0 then
    [text "Inactive action_id preserved in rule metadata: " ++ rule.name]
  else []) ++
  (if rule.interfaceId ≠ [] ∨ rule.dnssecValidate = true ∨
      rule.dnssecRejectUnsigned = true then
    [text "Rule needs runtime capability validation: " ++ rule.name]
  else [])

def importRule (id : UInt32) (node : Node) : Checked (Rule × List Bytes) := do
  rejectIf (node.children.isEmpty = false)
    (.of "YOGA_FIELD" "Unexpected rule children")
  let enabled ← flag node (text "enabled") true
  let patterns ← splitPatterns (attr node (text "hostnames"))
  let action ← action (attr node (text "action"))
  let target ← num node (text "action_id") 0
  let dnssecValidate ← flag node (text "dnssec_local_validation") false
  let dnssecRejectUnsigned ← flag node (text "dnssec_reject_unsigned") false
  let rule : Rule :=
    { id := id
      name := attr node (text "name")
      enabled := enabled
      isDefault := attr node (text "name") == text "Default"
      patterns := patterns
      action := action
      serverId := if action = .process then target else 0
      interfaceId := attr node (text "interface_id")
      dnssecValidate := dnssecValidate
      dnssecRejectUnsigned := dnssecRejectUnsigned
      metadata := node.attrs }
  pure (rule, ruleWarnings rule target ++ unmapped ruleMessage ruleMapped node)

/-! ### Profiles -/

/-- What has been read, and the number of the next rule. -/
structure Importing where
  result : ImportResult
  ruleId : UInt32 := 1

def importElement (importing : Importing) (node : Node) : Checked Importing :=
  let result := importing.result
  if node.name = text "Settings" then do
    let result ← importSettings result node
    pure { importing with result := result }
  else if node.name = text "DnsServer" then do
    let server ← importServer node
    pure
      { importing with
        result :=
          { config :=
              { result.config with servers := result.config.servers ++ [server] }
            warnings :=
              result.warnings ++ unmapped serverMessage serverMapped node } }
  else if node.name = text "Rule" then do
    let (rule, warned) ← importRule importing.ruleId node
    pure
      { result :=
          { config := { result.config with rules := result.config.rules ++ [rule] }
            warnings := result.warnings ++ warned }
        ruleId := importing.ruleId + 1 }
  else
    throw
      { code := "YOGA_FIELD"
        message := text "Unsupported Yoga element: " ++ node.name }

def defaultRule : Rule :=
  defaultConfig.rules.head (List.cons_ne_nil _ _)

def addDefault (importing : Importing) : ImportResult :=
  let result := importing.result
  if result.config.rules.any (·.isDefault) = true then result
  else
    { config :=
        { result.config with
          rules := result.config.rules ++ [{ defaultRule with id := importing.ruleId }] }
      warnings := result.warnings ++
        [text "Missing Default added as Process/original destination"] }

def importing (root : Node) : Importing :=
  { result :=
      { config := { settings := keepFields "yoga.root." root OrderedMap.empty } } }

def importRoot (platform : Platform) (root : Node) : Checked ImportResult := do
  rejectIf
    (root.name ≠ text "YogaDnsProfile" ∨ attr root (text "file_format") ≠ text "1")
    (.of "YOGA_FORMAT" "Unsupported YogaDNS profile")
  let read ← root.children.foldlM importElement (importing root)
  let result := addDefault read
  validate platform result.config
  pure result

end Yoga

def importYoga (platform : Platform) (file : ConfigFile) : Checked ImportResult := do
  let root ← readXml file
  Yoga.importRoot platform root

/-! ### What an import keeps -/

namespace Yoga

def elements (kind : String) (nodes : List Node) : List Node :=
  nodes.filter fun node => decide (node.name = text kind)

def checkers (nodes : List Node) : List Node :=
  (elements "Settings" nodes).flatMap Node.children

def lastValue (key : Bytes) (nodes : List Node) : Option Bytes :=
  (nodes.filterMap fun node => node.attrs.find? key).getLast?

structure SettingsKept (root : Node) (nodes : List Node) (settings : Metadata) :
    Prop where
  root : ∀ key, settings.find? (text "yoga.root." ++ key) = root.attrs.find? key
  elements : ∀ key, settings.find? (text "yoga.settings." ++ key) =
    lastValue key (elements "Settings" nodes)
  checkers : ∀ key, settings.find? (text "yoga.checker." ++ key) =
    lastValue key (checkers nodes)

structure ServerOf (node : Node) (server : Server) : Prop where
  translated : importServer node = .ok server
  kept : server.metadata = node.attrs

structure RuleOf (node : Node) (rule : Rule) : Prop where
  translated : ∃ id warned, importRule id node = .ok (rule, warned)
  kept : rule.metadata = node.attrs
  default : rule.isDefault = decide (attr node (text "name") = text "Default")

/-- Every attribute outside a list of names is named in a warning. -/
def Named (message : String) (mapped : List Bytes) (nodes : List Node)
    (warnings : List Bytes) : Prop :=
  ∀ node ∈ nodes, ∀ field ∈ node.attrs.entries, field.1 ∉ mapped →
    text message ++ field.1 ∈ warnings

structure UnmappedNamed (nodes : List Node) (warnings : List Bytes) : Prop where
  settings : Named settingsMessage settingsMapped (elements "Settings" nodes) warnings
  checkers : Named checkerMessage checkerMapped (checkers nodes) warnings
  servers : Named serverMessage serverMapped (elements "DnsServer" nodes) warnings
  rules : Named ruleMessage ruleMapped (elements "Rule" nodes) warnings

structure ElementsKept (root : Node) (nodes : List Node) (result : ImportResult) :
    Prop where
  settings : SettingsKept root nodes result.config.settings
  servers : List.Forall₂ ServerOf (elements "DnsServer" nodes) result.config.servers
  rules : List.Forall₂ RuleOf (elements "Rule" nodes) result.config.rules
  named : UnmappedNamed nodes result.warnings

/-! ### Lists of elements -/

section Elements

variable {kind : String} {before : List Node} {node : Node}

theorem elements_same (name : node.name = text kind) :
    elements kind (before ++ [node]) = elements kind before ++ [node] := by
  simp only [elements, List.filter_append, List.filter_cons, List.filter_nil,
    decide_eq_true name, if_true]

theorem elements_other (name : node.name ≠ text kind) :
    elements kind (before ++ [node]) = elements kind before := by
  simp only [elements, List.filter_append, List.filter_cons, List.filter_nil,
    decide_eq_false name, Bool.false_eq_true, if_false, List.append_nil]

theorem checkers_same (name : node.name = text "Settings") :
    checkers (before ++ [node]) = checkers before ++ node.children := by
  rw [checkers, elements_same name, List.flatMap_append, List.flatMap_singleton]
  rfl

theorem checkers_other (name : node.name ≠ text "Settings") :
    checkers (before ++ [node]) = checkers before := by
  rw [checkers, elements_other name]
  rfl

theorem lastValue_append (key : Bytes) (before after : List Node) :
    lastValue key (before ++ after) =
      (lastValue key after).or (lastValue key before) := by
  rw [lastValue, List.filterMap_append, List.getLast?_append]
  rfl

theorem lastValue_single (key : Bytes) (node : Node) :
    lastValue key [node] = node.attrs.find? key := by
  simp only [lastValue, List.filterMap_cons, List.filterMap_nil]
  cases node.attrs.find? key with
  | none =>
      rfl
  | some value =>
      rfl

end Elements

/-! ### Kept attributes -/

theorem fronts_apart {front other : String} (apart : ¬ text front <+: text other)
    (converse : ¬ text other <+: text front) (key otherKey : Bytes) :
    text front ++ key ≠ text other ++ otherKey := by
  intro same
  have first : text front <+: text other ++ otherKey :=
    same ▸ List.prefix_append (text front) key
  rcases List.prefix_or_prefix_of_prefix first (List.prefix_append _ _) with
    within | around
  · exact apart within
  · exact converse around

theorem find?_keepFields (front : String) (node : Node) (settings : Metadata)
    (key : Bytes) :
    (keepFields front node settings).find? (text front ++ key) =
      (node.attrs.find? key).or (settings.find? (text front ++ key)) :=
  OrderedMap.find?_insertRenamed (List.append_right_injective (text front)) settings
    node.attrs key

theorem find?_keepFields_apart {front : String} {other : Bytes}
    (apart : ∀ key, text front ++ key ≠ other) (node : Node) (settings : Metadata) :
    (keepFields front node settings).find? other = settings.find? other :=
  OrderedMap.find?_insertRenamed_of_ne apart settings node.attrs

/-! ### Warnings -/

section Naming

variable {message : String} {mapped : List Bytes} {nodes : List Node}
  {warnings : List Bytes}

theorem Named.nil : Named message mapped [] warnings := by
  intro node member
  cases member

theorem Named.append {more : List Node} {added : List Bytes}
    (named : Named message mapped nodes warnings)
    (others : Named message mapped more added) :
    Named message mapped (nodes ++ more) (warnings ++ added) := by
  intro node member field inNode outside
  rcases List.mem_append.mp member with earlier | later
  · exact List.mem_append_left added (named node earlier field inNode outside)
  · exact List.mem_append_right warnings (others node later field inNode outside)

theorem Named.before (named : Named message mapped nodes warnings)
    (added : List Bytes) : Named message mapped nodes (warnings ++ added) := by
  have extended := named.append (@Named.nil message mapped added)
  rwa [List.append_nil] at extended

theorem Named.behind (named : Named message mapped nodes warnings)
    (front : List Bytes) : Named message mapped nodes (front ++ warnings) :=
  (@Named.nil message mapped front).append named

theorem unmapped_named (message : String) (mapped : List Bytes) (node : Node) :
    Named message mapped [node] (unmapped message mapped node) := by
  intro other member field inNode outside
  rw [List.mem_singleton.mp member] at inNode
  exact List.mem_map.mpr
    ⟨field, List.mem_filter.mpr ⟨inNode, decide_eq_true outside⟩, rfl⟩

end Naming

/-! ### One element -/

/-- What the children of one Settings element add. -/
structure CheckersRead (before : ImportResult) (children : List Node)
    (after : ImportResult) : Prop where
  servers : after.config.servers = before.config.servers
  rules : after.config.rules = before.config.rules
  settings : ∀ key, after.config.settings.find? (text "yoga.checker." ++ key) =
    (lastValue key children).or
      (before.config.settings.find? (text "yoga.checker." ++ key))
  others : ∀ other, (∀ key, text "yoga.checker." ++ key ≠ other) →
    after.config.settings.find? other = before.config.settings.find? other
  warnings : ∃ added, after.warnings = before.warnings ++ added ∧
    Named checkerMessage checkerMapped children added

theorem importChecker_read {start before after : ImportResult} {children : List Node}
    {child : Node} (read : CheckersRead start children before)
    (run : importChecker before child = .ok after) :
    CheckersRead start (children ++ [child]) after := by
  simp only [importChecker, bind_eq_ok, pure_eq_ok] at run
  obtain ⟨_, _, testConcurrency, _, same⟩ := run
  cases same
  obtain ⟨added, warnings, named⟩ := read.warnings
  exact
    { servers := read.servers
      rules := read.rules
      settings := by
        intro key
        rw [find?_keepFields, read.settings, lastValue_append, lastValue_single,
          Option.or_assoc]
      others := by
        intro other apart
        rw [find?_keepFields_apart apart, read.others other apart]
      warnings := by
        refine ⟨added ++ unmapped checkerMessage checkerMapped child, ?_,
          named.append (unmapped_named _ _ child)⟩
        rw [warnings, List.append_assoc] }

theorem importCheckers_read {before after : ImportResult} {children : List Node}
    (run : children.foldlM importChecker before = .ok after) :
    CheckersRead before children after := by
  have nothing : CheckersRead before [] before :=
    { servers := rfl
      rules := rfl
      settings := fun _ => rfl
      others := fun _ _ => rfl
      warnings := ⟨[], (List.append_nil _).symm, Named.nil⟩ }
  exact foldlM_processed
    (fun _ _ _ _ read passed => importChecker_read read passed) nothing run

theorem importServer_of {node : Node} {server : Server}
    (run : importServer node = .ok server) : ServerOf node server := by
  have translated := run
  simp only [importServer, bind_eq_ok, pure_eq_ok] at run
  obtain ⟨_, _, id, _, protocol, _, enabled, _, dnssecSupported, _, port, _, _, _,
    same⟩ := run
  cases same
  exact
    { translated := translated
      kept := rfl }

theorem importRule_of {id : UInt32} {node : Node} {rule : Rule} {warned : List Bytes}
    (run : importRule id node = .ok (rule, warned)) :
    RuleOf node rule ∧ Named ruleMessage ruleMapped [node] warned := by
  have translated := run
  simp only [importRule, bind_eq_ok, pure_eq_ok] at run
  obtain ⟨_, _, enabled, _, patterns, _, action, _, target, _, dnssecValidate, _,
    dnssecRejectUnsigned, _, same⟩ := run
  cases same
  exact
    ⟨{ translated := ⟨id, _, translated⟩
       kept := rfl
       default := beq_eq_decide _ _ },
      (unmapped_named ruleMessage ruleMapped node).behind _⟩

section Step

variable {root node : Node} {before : List Node} {result after : ImportResult}

theorem SettingsKept.other {settings : Metadata}
    (kept : SettingsKept root before settings) (name : node.name ≠ text "Settings") :
    SettingsKept root (before ++ [node]) settings :=
  { root := kept.root
    elements := by
      rw [elements_other name]
      exact kept.elements
    checkers := by
      rw [checkers_other name]
      exact kept.checkers }

theorem Named.other {message kind : String} {mapped warnings : List Bytes}
    (named : Named message mapped (elements kind before) warnings)
    (name : node.name ≠ text kind) (added : List Bytes) :
    Named message mapped (elements kind (before ++ [node])) (warnings ++ added) := by
  rw [elements_other name]
  exact named.before added

theorem Named.other_checkers {message : String} {mapped warnings : List Bytes}
    (named : Named message mapped (checkers before) warnings)
    (name : node.name ≠ text "Settings") (added : List Bytes) :
    Named message mapped (checkers (before ++ [node])) (warnings ++ added) := by
  rw [checkers_other name]
  exact named.before added

theorem settings_kept (kept : ElementsKept root before result)
    (name : node.name = text "Settings")
    (run : importSettings result node = .ok after) :
    ElementsKept root (before ++ [node]) after := by
  have read := importCheckers_read run
  obtain ⟨added, warnings, named⟩ := read.warnings
  have noServer : node.name ≠ text "DnsServer" := by rw [name]; decide
  have noRule : node.name ≠ text "Rule" := by rw [name]; decide
  exact
    { settings :=
        { root := by
            intro key
            rw [read.others _ (fronts_apart (by decide) (by decide) · key),
              find?_keepFields_apart (fronts_apart (by decide) (by decide) · key),
              kept.settings.root]
          elements := by
            intro key
            rw [read.others _ (fronts_apart (by decide) (by decide) · key),
              find?_keepFields, kept.settings.elements, elements_same name,
              lastValue_append, lastValue_single]
          checkers := by
            intro key
            rw [read.settings,
              find?_keepFields_apart (fronts_apart (by decide) (by decide) · key),
              kept.settings.checkers, checkers_same name, lastValue_append] }
      servers := by
        rw [elements_other noServer, read.servers]
        exact kept.servers
      rules := by
        rw [elements_other noRule, read.rules]
        exact kept.rules
      named := by
        rw [warnings]
        exact
          { settings := by
              rw [elements_same name]
              exact (kept.named.settings.append (unmapped_named _ _ node)).before added
            checkers := by
              rw [checkers_same name]
              exact (kept.named.checkers.before _).append named
            servers := (kept.named.servers.other noServer _).before added
            rules := (kept.named.rules.other noRule _).before added } }

theorem server_kept (kept : ElementsKept root before result)
    (name : node.name = text "DnsServer") {server : Server}
    (run : importServer node = .ok server) :
    ElementsKept root (before ++ [node])
      { config :=
          { result.config with servers := result.config.servers ++ [server] }
        warnings := result.warnings ++ unmapped serverMessage serverMapped node } := by
  have noSettings : node.name ≠ text "Settings" := by rw [name]; decide
  have noRule : node.name ≠ text "Rule" := by rw [name]; decide
  exact
    { settings := kept.settings.other noSettings
      servers := by
        rw [elements_same name]
        exact List.rel_append kept.servers
          (List.Forall₂.cons (importServer_of run) List.Forall₂.nil)
      rules := by
        rw [elements_other noRule]
        exact kept.rules
      named :=
        { settings := kept.named.settings.other noSettings _
          checkers := kept.named.checkers.other_checkers noSettings _
          servers := by
            rw [elements_same name]
            exact kept.named.servers.append (unmapped_named _ _ node)
          rules := kept.named.rules.other noRule _ } }

theorem rule_kept (kept : ElementsKept root before result)
    (name : node.name = text "Rule") {id : UInt32} {rule : Rule}
    {warned : List Bytes} (run : importRule id node = .ok (rule, warned)) :
    ElementsKept root (before ++ [node])
      { config := { result.config with rules := result.config.rules ++ [rule] }
        warnings := result.warnings ++ warned } := by
  have noSettings : node.name ≠ text "Settings" := by rw [name]; decide
  have noServer : node.name ≠ text "DnsServer" := by rw [name]; decide
  obtain ⟨translated, named⟩ := importRule_of run
  exact
    { settings := kept.settings.other noSettings
      servers := by
        rw [elements_other noServer]
        exact kept.servers
      rules := by
        rw [elements_same name]
        exact List.rel_append kept.rules
          (List.Forall₂.cons translated List.Forall₂.nil)
      named :=
        { settings := kept.named.settings.other noSettings _
          checkers := kept.named.checkers.other_checkers noSettings _
          servers := kept.named.servers.other noServer _
          rules := by
            rw [elements_same name]
            exact kept.named.rules.append named } }

end Step

/-! ### A whole profile -/

theorem importElement_kept {root node : Node} {before : List Node}
    {importing next : Importing} (kept : ElementsKept root before importing.result)
    (run : importElement importing node = .ok next) :
    ElementsKept root (before ++ [node]) next.result := by
  simp only [importElement] at run
  split at run
  · rename_i name
    obtain ⟨after, read, same⟩ := bind_eq_ok.mp run
    cases same
    exact settings_kept kept name read
  · split at run
    · rename_i name
      obtain ⟨server, read, same⟩ := bind_eq_ok.mp run
      cases same
      exact server_kept kept name read
    · split at run
      · rename_i name
        obtain ⟨⟨rule, warned⟩, read, same⟩ := bind_eq_ok.mp run
        cases same
        exact rule_kept kept name read
      · cases run

theorem importing_kept (root : Node) : ElementsKept root [] (importing root).result :=
  { settings :=
      { root := by
          intro key
          simp only [importing]
          rw [find?_keepFields, OrderedMap.find?_empty, Option.or_none]
        elements := by
          intro key
          exact find?_keepFields_apart (fronts_apart (by decide) (by decide) · key)
            root OrderedMap.empty
        checkers := by
          intro key
          exact find?_keepFields_apart (fronts_apart (by decide) (by decide) · key)
            root OrderedMap.empty }
    servers := List.Forall₂.nil
    rules := List.Forall₂.nil
    named :=
      { settings := Named.nil
        checkers := Named.nil
        servers := Named.nil
        rules := Named.nil } }

def HasDefault (root : Node) : Prop :=
  ∃ node ∈ elements "Rule" root.children, attr node (text "name") = text "Default"

/-- What an import makes of the elements of a profile. -/
structure Imported (platform : Platform) (root : Node) (result : ImportResult) :
    Prop where
  valid : validate platform result.config = .ok ()
  settings : SettingsKept root root.children result.config.settings
  servers : List.Forall₂ ServerOf (elements "DnsServer" root.children)
    result.config.servers
  rules : HasDefault root →
    List.Forall₂ RuleOf (elements "Rule" root.children) result.config.rules
  added : ¬ HasDefault root →
    ∃ imported id, List.Forall₂ RuleOf (elements "Rule" root.children) imported ∧
      result.config.rules = imported ++ [{ defaultRule with id := id }]
  distinct : (result.config.rules.map (·.id)).Nodup
  named : UnmappedNamed root.children result.warnings

theorem any_default {nodes : List Node} {rules : List Rule}
    (same : List.Forall₂ RuleOf nodes rules) :
    rules.any (·.isDefault) = true ↔
      ∃ node ∈ nodes, attr node (text "name") = text "Default" := by
  induction same with
  | nil =>
      simp
  | cons ofNode others ih =>
      rw [List.any_cons, Bool.or_eq_true, ih, ofNode.default, decide_eq_true_iff]
      simp only [List.mem_cons, exists_eq_or_imp]

theorem addDefault_kept {root : Node} {read : Importing}
    (kept : ElementsKept root root.children read.result) :
    SettingsKept root root.children (addDefault read).config.settings ∧
      (addDefault read).config.servers = read.result.config.servers ∧
      UnmappedNamed root.children (addDefault read).warnings := by
  simp only [addDefault]
  split
  · exact ⟨kept.settings, rfl, kept.named⟩
  · exact
      ⟨kept.settings, rfl,
        { settings := kept.named.settings.before _
          checkers := kept.named.checkers.before _
          servers := kept.named.servers.before _
          rules := kept.named.rules.before _ }⟩

theorem importRoot_imported {platform : Platform} {root : Node}
    {result : ImportResult} (run : importRoot platform root = .ok result) :
    Imported platform root result := by
  simp only [importRoot, bind_eq_ok, pure_eq_ok] at run
  obtain ⟨_, _, read, elementsRead, _, valid, same⟩ := run
  cases same
  have pass : ∀ before node importing next, ElementsKept root before importing.result →
      importElement importing node = .ok next →
        ElementsKept root (before ++ [node]) next.result :=
    fun _ _ _ _ kept passed => importElement_kept kept passed
  have kept : ElementsKept root root.children read.result :=
    foldlM_processed pass (importing_kept root) elementsRead
  obtain ⟨settings, servers, named⟩ := addDefault_kept kept
  have present := any_default kept.rules
  exact
    { valid := valid
      settings := settings
      servers := by
        rw [servers]
        exact kept.servers
      rules := by
        intro default
        rw [addDefault, if_pos (present.mpr default)]
        exact kept.rules
      added := by
        intro missing
        refine ⟨read.result.config.rules, read.ruleId, kept.rules, ?_⟩
        rw [addDefault, if_neg (fun found => missing (present.mp found))]
      distinct := validate_ruleIds valid
      named := named }

end Yoga

/-- An imported profile is valid and has everything of the document: the
attributes of the root, of Settings and of DnsChecker as settings, servers and
rules in document order with all attributes as metadata, a Default added exactly
when there is none, and a warning for every attribute of an element that the
importer has no name for. -/
theorem importYoga_lossless {platform : Platform} {file : ConfigFile}
    {result : ImportResult} (run : importYoga platform file = .ok result) :
    ∃ root, readXml file = .ok root ∧ Yoga.Imported platform root result := by
  obtain ⟨root, read, imported⟩ := bind_eq_ok.mp run
  exact ⟨root, read, Yoga.importRoot_imported imported⟩

def sampleProfile : ConfigFile :=
  .contents (text
    ("<YogaDnsProfile file_format=\"1\" product_id=\"1\">" ++
      "<Settings clearDnsCache=\"1\" future=\"a\">" ++
      "<DnsChecker testsPerTime=\"4\" importUrls=\"u\"/></Settings>" ++
      "<Settings future=\"b\"/>" ++
      "<DnsServer id=\"7\" name=\"Home\" protocol=\"plain\" ip=\"10.0.0.53\"" ++
      " af=\"4\" note=\"n\"/>" ++
      "<Rule name=\"Work\" hostnames=\"*.example.org\"" ++
      " action=\"process_server\" action_id=\"7\" color=\"red\"/>" ++
      "</YogaDnsProfile>"))

theorem importYoga_lossless_sample :
    ∃ result root, importYoga ipv4Platform sampleProfile = .ok result ∧
      readXml sampleProfile = .ok root ∧
      Yoga.Imported ipv4Platform root result := by
  have returns : (importYoga ipv4Platform sampleProfile).isOk = true := by
    decide +kernel
  cases run : importYoga ipv4Platform sampleProfile with
  | error error =>
      rw [run] at returns
      cases returns
  | ok result =>
      obtain ⟨root, read, imported⟩ := importYoga_lossless run
      exact ⟨result, root, rfl, read, imported⟩

/-- An attribute of the root is a setting, but no warning names it. -/
theorem importYoga_rootUnnamed :
    ∃ result,
      importYoga ipv4Platform (.contents
        (text "<YogaDnsProfile file_format=\"1\" product_id=\"1\"/>")) = .ok result ∧
      result.config.settings.find? (text "yoga.root.product_id") = some (text "1") ∧
      ∀ warning ∈ result.warnings, ¬ text "product_id" <:+: warning := by
  have evaluated :
      (importYoga ipv4Platform (.contents
        (text "<YogaDnsProfile file_format=\"1\" product_id=\"1\"/>"))).toOption.map
          (fun result => (result.config.settings.find? (text "yoga.root.product_id"),
            result.warnings)) =
        some (some (text "1"),
          [text "Missing Default added as Process/original destination"]) := by
    decide +kernel
  cases run : importYoga ipv4Platform (.contents
      (text "<YogaDnsProfile file_format=\"1\" product_id=\"1\"/>")) with
  | error error =>
      rw [run] at evaluated
      cases evaluated
  | ok result =>
      rw [run] at evaluated
      obtain ⟨kept, warned⟩ := Prod.mk.inj (Option.some.inj evaluated)
      refine ⟨result, rfl, kept, ?_⟩
      rw [show result.warnings = _ from warned]
      decide +kernel

end NativeDNS

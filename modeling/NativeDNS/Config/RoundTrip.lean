/-
Reading back what was written.

The writer's document is parsed as its tree, and every field of the tree is read back
as it was written, except for the three lists that share one attribute each: they are
cut again at every semicolon and lose their empty entries.
-/
import NativeDNS.Config.Writing

namespace NativeDNS

open ByteText (text byte decimal pieces joined)
open CheckedResult

namespace Document

/-! ### Lists in one attribute -/

/-- No entry of a list is lost or cut when the list is written as one attribute. -/
def Splittable (values : List Bytes) : Prop :=
  ∀ entry ∈ values, entry ≠ [] ∧ byte ';' ∉ entry

instance : DecidablePred Splittable := fun values =>
  inferInstanceAs (Decidable (∀ entry ∈ values, entry ≠ [] ∧ byte ';' ∉ entry))

theorem split_splittable (value : Bytes) : Splittable (split value) := by
  intro entry member
  obtain ⟨piece, nonempty⟩ := List.mem_filter.mp member
  exact ⟨of_decide_eq_true nonempty, ByteText.pieces_free _ value entry piece⟩

theorem foldl_join_joined {values : List Bytes} (nonempty : ∀ entry ∈ values, entry ≠ [])
    {first : Bytes} (begun : first ≠ []) :
    values.foldl (fun out value => (if out = [] then out else out ++ [byte ';']) ++ value)
      first = joined (byte ';') (first :: values) := by
  induction values generalizing first with
  | nil =>
      rfl
  | cons value rest ih =>
      have longer : first ++ [byte ';'] ++ value ≠ [] :=
        List.append_ne_nil_of_left_ne_nil (List.append_ne_nil_of_left_ne_nil begun _) _
      have others : ∀ entry ∈ rest, entry ≠ [] := fun entry member =>
        nonempty entry (List.mem_cons_of_mem value member)
      rw [List.foldl_cons, if_neg begun, ih others longer,
        ByteText.joined_cons (byte ';') first value rest]
      cases rest with
      | nil =>
          simp only [joined, List.append_assoc, List.singleton_append]
      | cons next more =>
          rw [ByteText.joined_cons (byte ';') _ next more,
            ByteText.joined_cons (byte ';') value next more]
          simp only [List.append_assoc, List.cons_append, List.nil_append]

theorem join_joined {values : List Bytes} (nonempty : ∀ entry ∈ values, entry ≠ []) :
    join values = joined (byte ';') values := by
  cases values with
  | nil =>
      rfl
  | cons first rest =>
      exact foldl_join_joined
        (fun entry member => nonempty entry (List.mem_cons_of_mem first member))
        (nonempty first List.mem_cons_self)

/-- A list is read back exactly when its entries are neither empty nor cut. -/
theorem split_join_iff {values : List Bytes} :
    split (join values) = values ↔ Splittable values := by
  constructor
  · intro same
    rw [← same]
    exact split_splittable (join values)
  · intro splittable
    rw [join_joined fun entry member => (splittable entry member).1, split]
    cases values with
    | nil =>
        rfl
    | cons first rest =>
        rw [ByteText.pieces_joined (List.cons_ne_nil first rest) fun entry member =>
          (splittable entry member).2]
        exact List.filter_eq_self.mpr fun entry member =>
          decide_eq_true (splittable entry member).1

/-! ### Fields -/

theorem number_decimal (value : UInt32) : number (decimal value.toNat) = .ok value := by
  have within : value.toNat ≤ 4294967295 := by
    have bound := value.toNat_lt
    omega
  unfold number readUint32
  rw [ByteText.readDecimal_decimal within, Option.map_some, UInt32.ofNat_toNat]
  rfl

theorem protocol_protocolName (value : Protocol) : protocol (protocolName value) = .ok value := by
  cases value <;> decide

theorem action_actionName (value : Action) : action (actionName value) = .ok value := by
  cases value <;> decide

theorem splitIds_joinIds (ids : List UInt32) : splitIds (joinIds ids) = .ok ids := by
  have splittable : Splittable (ids.map fun id => decimal id.toNat) := by
    intro entry member
    obtain ⟨id, _, same⟩ := List.mem_map.mp member
    rw [← same]
    exact ⟨ByteText.decimal_ne_nil _, ByteText.not_mem_decimal (by decide) _⟩
  unfold splitIds joinIds
  rw [split_join_iff.mpr splittable]
  induction ids with
  | nil =>
      rfl
  | cons id rest ih =>
      have others : Splittable (rest.map fun id => decimal id.toNat) :=
        fun entry member => splittable entry (List.mem_cons_of_mem _ member)
      rw [List.map_cons, List.mapM_cons, number_decimal, ok_bind, ih others, ok_bind]
      rfl

/-! ### Elements -/

section

variable {called : Bytes} {entries : List (Bytes × Bytes)} {children : List Node}
  (names : FieldNames entries)

include names

theorem find?_element (key : Bytes) :
    (elementNode called entries children).attrs.find? key =
      OrderedMap.lookup key entries :=
  OrderedMap.find?_ofList names.distinct key

theorem attr_element {key value : Bytes} (fallback : Bytes)
    (found : OrderedMap.lookup key entries = some value) :
    attr (elementNode called entries children) key fallback = value := by
  unfold attr
  rw [find?_element names, found]
  rfl

theorem num_element {key : Bytes} {value : UInt32} (fallback : UInt32)
    (found : OrderedMap.lookup key entries = some (decimal value.toNat)) :
    num (elementNode called entries children) key fallback = .ok value := by
  unfold num
  rw [attr_element names _ found, number_decimal]

theorem flag_element {key : Bytes} {value : Bool} (fallback : Bool)
    (found : OrderedMap.lookup key entries = some (flagText value)) :
    flag (elementNode called entries children) key fallback = .ok value := by
  unfold flag
  rw [attr_element names _ found]
  cases value with
  | true =>
      rfl
  | false =>
      rfl

theorem known_element {keys : List Bytes} (listed : entries.map Prod.fst ⊆ keys) :
    known (elementNode called entries children) keys = .ok () := by
  have nothing : (elementNode called entries children).attrs.entries.find?
      (fun entry => decide (entry.1 ∉ keys)) = none := by
    rw [List.find?_eq_none]
    intro entry member unlisted
    have inside := (OrderedMap.ofList_perm names.distinct).mem_iff.mp member
    exact of_decide_eq_true unlisted (listed (List.mem_map_of_mem inside))
  unfold known
  rw [nothing]
  rfl

end

theorem metaNode_read (parent : Node) {result added : Metadata} {entry : Bytes × Bytes}
    (placed : result.emplace entry.1 entry.2 = some added) :
    readMeta parent result (metaNode entry) = .ok added := by
  have names := metaFields_names entry
  have plain : ¬ ((metaNode entry).name ≠ text "Meta" ∨
      (metaNode entry).children.isEmpty = false) := by
    rintro (other | other)
    · exact other rfl
    · cases other
  have knownKeys : known (metaNode entry) [text "key", text "value"] = .ok () :=
    known_element names (List.Subset.refl metaKeys)
  have key : attr (metaNode entry) (text "key") = entry.1 := attr_element names _ rfl
  have value : attr (metaNode entry) (text "value") = entry.2 := attr_element names _ rfl
  unfold readMeta
  rw [rejectIf_of_not plain, ok_bind, knownKeys, ok_bind, key, value, placed]
  rfl

theorem readMeta_entries (parent : Node) {entries : List (Bytes × Bytes)} {before : Metadata}
    (distinct : ((before.entries ++ entries).map Prod.fst).Nodup) :
    ∃ result, (entries.map metaNode).foldlM (readMeta parent) before = .ok result ∧
      result.entries.Perm (before.entries ++ entries) := by
  induction entries generalizing before with
  | nil =>
      exact ⟨before, rfl, by rw [List.append_nil]⟩
  | cons entry rest ih =>
      have free : entry.1 ∉ before.entries.map Prod.fst := by
        intro bound
        rw [List.map_append, List.nodup_append] at distinct
        exact distinct.2.2 entry.1 bound entry.1 List.mem_cons_self rfl
      obtain ⟨added, placed⟩ := OrderedMap.emplace_of_free free entry.2
      have moved : (added.entries ++ rest).Perm (before.entries ++ entry :: rest) := by
        rw [List.append_cons]
        exact (OrderedMap.emplace_perm placed).append_right rest
      obtain ⟨result, ran, kept⟩ := ih ((moved.map Prod.fst).nodup_iff.mpr distinct)
      refine ⟨result, ?_, kept.trans moved⟩
      rw [List.map_cons, List.foldlM_cons, metaNode_read parent placed, ok_bind, ran]

theorem readMetadata_element (called : Bytes) (entries : List (Bytes × Bytes))
    (values : Metadata) :
    readMetadata (elementNode called entries (metaNodes values)) = .ok values := by
  obtain ⟨result, ran, kept⟩ :=
    readMeta_entries (elementNode called entries (metaNodes values))
      (show ((OrderedMap.empty.entries ++ values.entries).map Prod.fst).Nodup from
        values.keys_nodup)
  rw [OrderedMap.ext_perm kept] at ran
  exact ran

/-! ### The configuration that is read back -/

end Document

open Document

/-- The server that is read back: its lists are cut again, and what is set at run time
is not written. -/
def Server.reread (s : Server) : Server :=
  { s with
    bootstrap := split (join s.bootstrap)
    hashes := split (join s.hashes)
    useSystemBootstrap := false
    route := {} }

def Rule.reread (r : Rule) : Rule :=
  { r with patterns := split (join r.patterns) }

def Config.reread (config : Config) : Config :=
  { config with
    schemaVersion := 1
    servers := config.servers.map Server.reread
    rules := config.rules.map Rule.reread }

namespace Document

theorem readLogging_written (logging : LoggingSettings) :
    readLogging (loggingNode logging) = .ok logging := by
  have names := loggingFields_names logging
  have screen : num (loggingNode logging) (text "screen") 1 =
      .ok ⟨logging.screen.value⟩ :=
    num_element names 1 rfl
  have file : num (loggingNode logging) (text "file") 1 = .ok ⟨logging.file.value⟩ :=
    num_element names 1 rfl
  have enabled : flag (loggingNode logging) (text "enabled") true = .ok logging.fileEnabled :=
    flag_element names true rfl
  have directory : attr (loggingNode logging) (text "directory") (text "logs") =
      logging.directory :=
    attr_element names _ rfl
  have knownKeys : known (loggingNode logging) loggingKeys = .ok () :=
    known_element names (List.Subset.refl loggingKeys)
  unfold readLogging
  rw [knownKeys, ok_bind, screen, ok_bind, file, ok_bind, enabled, ok_bind, directory]
  rfl

theorem readServer_written (s : Server) : readServer (serverNode s) = .ok s.reread := by
  have names := serverFields_names s
  have knownKeys : known (serverNode s) serverKeys = .ok () :=
    known_element names (List.Subset.refl serverKeys)
  have field : ∀ {key value : Bytes}, OrderedMap.lookup key (serverFields s) = some value →
      attr (serverNode s) key = value :=
    fun found => attr_element names _ found
  have id : num (serverNode s) (text "id") 0 = .ok s.id := num_element names 0 rfl
  have port : num (serverNode s) (text "port") 0 = .ok s.port.toUInt32 :=
    num_element names 0 (by rw [UInt16.toNat_toUInt32]; rfl)
  have timeout : num (serverNode s) (text "timeout") 3000 = .ok s.timeoutMs :=
    num_element names 3000 rfl
  have enabled : flag (serverNode s) (text "enabled") true = .ok s.enabled :=
    flag_element names true rfl
  have dnssec : flag (serverNode s) (text "dnssec") false = .ok s.dnssecSupported :=
    flag_element names false rfl
  have direct : flag (serverNode s) (text "directCertificateFallback") false =
      .ok s.allowDirectCertificateFallback :=
    flag_element names false rfl
  have inRange : ¬ s.port.toUInt32 > 65535 := by
    rw [gt_iff_lt, UInt32.lt_iff_toNat_lt, UInt16.toNat_toUInt32]
    have bound := s.port.toNat_lt
    have limit : (65535 : UInt32).toNat = 65535 := rfl
    omega
  unfold readServer
  rw [knownKeys, ok_bind, id, ok_bind, enabled, ok_bind, @field (text "protocol") _ rfl,
    protocol_protocolName, ok_bind, port, ok_bind, rejectIf_of_not inRange, ok_bind, dnssec,
    ok_bind, timeout, ok_bind, direct, ok_bind, @field (text "fallbacks") _ rfl, splitIds_joinIds,
    ok_bind, show readMetadata (serverNode s) = .ok s.metadata from
      readMetadata_element _ _ s.metadata, ok_bind]
  rw [@field (text "name") _ rfl, @field (text "ip") _ rfl, @field (text "hostname") _ rfl,
    @field (text "url") _ rfl, @field (text "bootstrap") _ rfl, @field (text "hashes") _ rfl,
    @field (text "publicKey") _ rfl, @field (text "provider") _ rfl,
    @field (text "relay") _ rfl]
  simp only [UInt16.toUInt16_toUInt32, pure_eq_ok, Server.reread]

theorem readRule_written (r : Rule) : readRule (ruleNode r) = .ok r.reread := by
  have names := ruleFields_names r
  have knownKeys : known (ruleNode r) ruleKeys = .ok () :=
    known_element names (List.Subset.refl ruleKeys)
  have field : ∀ {key value : Bytes}, OrderedMap.lookup key (ruleFields r) = some value →
      attr (ruleNode r) key = value :=
    fun found => attr_element names _ found
  have id : num (ruleNode r) (text "id") 0 = .ok r.id := num_element names 0 rfl
  have server : num (ruleNode r) (text "server") 0 = .ok r.serverId := num_element names 0 rfl
  have blockMode : num (ruleNode r) (text "blockMode") 0 = .ok ⟨r.blockMode.value⟩ :=
    num_element names 0 rfl
  have enabled : flag (ruleNode r) (text "enabled") true = .ok r.enabled :=
    flag_element names true rfl
  have isDefault : flag (ruleNode r) (text "default") false = .ok r.isDefault :=
    flag_element names false rfl
  have validated : flag (ruleNode r) (text "validate") false = .ok r.dnssecValidate :=
    flag_element names false rfl
  have unsigned_ : flag (ruleNode r) (text "rejectUnsigned") false =
      .ok r.dnssecRejectUnsigned :=
    flag_element names false rfl
  unfold readRule
  rw [knownKeys, ok_bind, id, ok_bind, enabled, ok_bind, isDefault, ok_bind,
    @field (text "action") _ rfl, action_actionName, ok_bind, server, ok_bind, validated,
    ok_bind, unsigned_, ok_bind, blockMode, ok_bind,
    show readMetadata (ruleNode r) = .ok r.metadata from
      readMetadata_element _ _ r.metadata, ok_bind]
  rw [@field (text "name") _ rfl, @field (text "patterns") _ rfl,
    @field (text "interface") _ rfl]
  rfl

theorem readRoot_written (config : Config) :
    readRoot (configNode config) =
      .ok
        { schemaVersion := 1
          testTarget := config.testTarget
          testConcurrency := config.testConcurrency } := by
  have names := documentFields_names config
  have called : ¬ (configNode config).name ≠ text "NativeDNS" := fun other => other rfl
  have knownKeys : known (configNode config) rootKeys = .ok () :=
    known_element names (List.Subset.refl rootKeys)
  have schemaVersion : num (configNode config) (text "schemaVersion") 0 = .ok 1 :=
    num_element names 0 rfl
  have testConcurrency : num (configNode config) (text "testConcurrency") 15 =
      .ok config.testConcurrency :=
    num_element names 15 rfl
  have testTarget : attr (configNode config) (text "testTarget") (text "iana.org") =
      config.testTarget :=
    attr_element names _ rfl
  unfold readRoot
  rw [rejectIf_of_not called, ok_bind, knownKeys, ok_bind, schemaVersion, ok_bind,
    testConcurrency, ok_bind, testTarget]
  rfl

/-! ### The whole document -/

theorem readChild_settings (reading : Reading) (config : Config)
    (fresh : reading.sawSettings = false) :
    readChild reading (settingsNode config) =
      .ok
        { reading with
          config := { reading.config with settings := config.settings }
          sawSettings := true } := by
  have names : FieldNames [] :=
    { called := fun _ member => absurd member List.not_mem_nil
      distinct := List.nodup_nil }
  have called : (settingsNode config).name = text "Settings" := rfl
  have knownKeys : known (settingsNode config) [] = .ok () :=
    known_element names (List.Subset.refl [])
  have once : ¬ reading.sawSettings = true := by
    rw [fresh]
    exact Bool.false_ne_true
  have kept : readMetadata (settingsNode config) = .ok config.settings :=
    readMetadata_element _ _ config.settings
  unfold readChild
  rw [if_pos called, knownKeys, ok_bind, rejectIf_of_not once, ok_bind, kept, ok_bind]
  rfl

theorem readChild_logging (reading : Reading) (logging : LoggingSettings)
    (fresh : reading.sawLogging = false) :
    readChild reading (loggingNode logging) =
      .ok
        { reading with
          config := { reading.config with logging := logging }
          sawLogging := true } := by
  have other : ¬ (loggingNode logging).name = text "Settings" := by
    show ¬ text "Logging" = text "Settings"
    decide
  have called : (loggingNode logging).name = text "Logging" := rfl
  have once : ¬ (reading.sawLogging = true ∨
      (loggingNode logging).children.isEmpty = false) := by
    rintro (seen | filled)
    · rw [fresh] at seen
      cases seen
    · cases filled
  unfold readChild
  rw [if_neg other, if_pos called, rejectIf_of_not once, ok_bind, readLogging_written, ok_bind]
  rfl

theorem readChild_servers (reading : Reading) (servers : List Server) :
    (servers.map serverNode).foldlM readChild reading =
      .ok
        { reading with
          config :=
            { reading.config with
              servers := reading.config.servers ++ servers.map Server.reread } } := by
  induction servers generalizing reading with
  | nil =>
      rw [List.map_nil, List.map_nil, List.append_nil]
      rfl
  | cons s rest ih =>
      have settings : ¬ (serverNode s).name = text "Settings" := by
        show ¬ text "Server" = text "Settings"
        decide
      have logging : ¬ (serverNode s).name = text "Logging" := by
        show ¬ text "Server" = text "Logging"
        decide
      have called : (serverNode s).name = text "Server" := rfl
      have first : readChild reading (serverNode s) =
          .ok
            { reading with
              config :=
                { reading.config with
                  servers := reading.config.servers ++ [s.reread] } } := by
        unfold readChild
        rw [if_neg settings, if_neg logging, if_pos called, readServer_written, ok_bind]
        rfl
      rw [List.map_cons, List.foldlM_cons, first, ok_bind, ih]
      simp only [List.map_cons, List.append_assoc, List.singleton_append]

theorem readChild_rules (reading : Reading) (rules : List Rule) :
    (rules.map ruleNode).foldlM readChild reading =
      .ok
        { reading with
          config :=
            { reading.config with
              rules := reading.config.rules ++ rules.map Rule.reread } } := by
  induction rules generalizing reading with
  | nil =>
      rw [List.map_nil, List.map_nil, List.append_nil]
      rfl
  | cons r rest ih =>
      have settings : ¬ (ruleNode r).name = text "Settings" := by
        show ¬ text "Rule" = text "Settings"
        decide
      have logging : ¬ (ruleNode r).name = text "Logging" := by
        show ¬ text "Rule" = text "Logging"
        decide
      have server : ¬ (ruleNode r).name = text "Server" := by
        show ¬ text "Rule" = text "Server"
        decide
      have called : (ruleNode r).name = text "Rule" := rfl
      have first : readChild reading (ruleNode r) =
          .ok
            { reading with
              config :=
                { reading.config with rules := reading.config.rules ++ [r.reread] } } := by
        unfold readChild
        rw [if_neg settings, if_neg logging, if_neg server, if_pos called, readRule_written,
          ok_bind]
        rfl
      rw [List.map_cons, List.foldlM_cons, first, ok_bind, ih]
      simp only [List.map_cons, List.append_assoc, List.singleton_append]

theorem configFromRoot_written (platform : Platform) (config : Config) :
    configFromRoot platform (configNode config) =
      (validate platform config.reread >>= fun _ => .ok config.reread) := by
  have children : (configNode config).children = settingsNode config ::
      loggingNode config.logging ::
        (config.servers.map serverNode ++ config.rules.map ruleNode) :=
    rfl
  unfold configFromRoot
  rw [readRoot_written, ok_bind, children, List.foldlM_cons, readChild_settings _ _ rfl,
    ok_bind, List.foldlM_cons, readChild_logging _ _ rfl, ok_bind, List.foldlM_append,
    readChild_servers, ok_bind, readChild_rules, ok_bind]
  rfl

theorem parseConfig_written (platform : Platform) {config : Config} {document : Bytes}
    (ran : configDocument config = .ok document) (short : document.length ≤ textLimit) :
    parseConfig platform document =
      (validate platform config.reread >>= fun _ => .ok config.reread) := by
  obtain ⟨inside, long⟩ := configDocument_written ran
  have limit : textLimit = 4194304 := rfl
  have parsed := inside.parsed short (configNode_height config) (by omega)
  unfold parseConfig
  rw [parsed, ok_bind, configFromRoot_written]

theorem serializeConfig_eq_ok {platform : Platform} {config : Config} {value : Bytes} :
    serializeConfig platform config = .ok value ↔
      validate platform config = .ok () ∧ configDocument config = .ok value ∧
        value.length ≤ textLimit := by
  simp only [serializeConfig, bind_eq_ok, rejectIf_eq_ok, pure_eq_ok, Except.ok.injEq,
    Nat.not_lt]
  constructor
  · rintro ⟨_, valid, document, ran, _, short, same⟩
    subst same
    exact ⟨valid, ran, short⟩
  · rintro ⟨valid, ran, short⟩
    exact ⟨(), valid, value, ran, (), short, rfl⟩

theorem map_eq_self_iff {α : Type} {change : α → α} {items : List α} :
    items.map change = items ↔ ∀ item ∈ items, change item = item :=
  calc
    items.map change = items ↔ items.map change = items.map id := by rw [List.map_id]
    _ ↔ ∀ item ∈ items, change item = item := List.map_inj_left

/-- What can be read back of a configuration is the configuration when nothing was set
at run time and no entry of a list is empty or cut. -/
theorem reread_eq_iff {config : Config} (schema : config.schemaVersion = 1)
    (atRest : ∀ s ∈ config.servers, s.useSystemBootstrap = false ∧ s.route = {}) :
    config.reread = config ↔
      (∀ s ∈ config.servers, Splittable s.bootstrap ∧ Splittable s.hashes) ∧
        ∀ r ∈ config.rules, Splittable r.patterns := by
  have server : ∀ s ∈ config.servers,
      (s.reread = s ↔ Splittable s.bootstrap ∧ Splittable s.hashes) := by
    intro s member
    obtain ⟨bootstrap, route⟩ := atRest s member
    rw [← split_join_iff, ← split_join_iff]
    constructor
    · intro same
      exact ⟨congrArg Server.bootstrap same, congrArg Server.hashes same⟩
    · rintro ⟨first, second⟩
      unfold Server.reread
      rw [first, second, ← bootstrap, ← route]
  have rule : ∀ r : Rule, r.reread = r ↔ Splittable r.patterns := by
    intro r
    rw [← split_join_iff]
    constructor
    · intro same
      exact congrArg Rule.patterns same
    · intro same
      unfold Rule.reread
      rw [same]
  have lists : config.reread = config ↔
      config.servers.map Server.reread = config.servers ∧
        config.rules.map Rule.reread = config.rules := by
    constructor
    · intro same
      exact ⟨congrArg Config.servers same, congrArg Config.rules same⟩
    · rintro ⟨servers, rules⟩
      unfold Config.reread
      rw [servers, rules, ← schema]
  rw [lists, map_eq_self_iff, map_eq_self_iff]
  exact and_congr (forall₂_congr server) (forall₂_congr fun r _ => rule r)

end Document

/-- A configuration that is written is read back as itself, in every field, exactly when
no entry of its lists of bootstrap resolvers, pinned hashes and patterns is empty or
holds a semicolon. -/
theorem config_roundTrip (platform : Platform) (config : Config) (value : Bytes)
    (atRest : ∀ s ∈ config.servers, s.useSystemBootstrap = false ∧ s.route = {})
    (written : serializeConfig platform config = .ok value) :
    parseConfig platform value = .ok config ↔
      (∀ s ∈ config.servers, Splittable s.bootstrap ∧ Splittable s.hashes) ∧
        ∀ r ∈ config.rules, Splittable r.patterns := by
  obtain ⟨valid, ran, short⟩ := serializeConfig_eq_ok.mp written
  rw [parseConfig_written platform ran short,
    ← reread_eq_iff (validate_valid valid).schema atRest]
  constructor
  · intro parsed
    obtain ⟨_, _, same⟩ := bind_eq_ok.mp parsed
    exact Except.ok.inj same
  · intro same
    rw [same, valid, ok_bind]

def listedConfig : Config :=
  { defaultConfig with
    servers :=
      [{ id := 1
         name := text "A & \"B\""
         ip := text "10.0.0.53"
         bootstrap := [text "1.1.1.1", text "8.8.8.8"] }] }

theorem config_roundTrip_listed :
    ∃ value, serializeConfig ipv4Platform listedConfig = .ok value ∧
      parseConfig ipv4Platform value = .ok listedConfig := by
  have returns : (serializeConfig ipv4Platform listedConfig).isOk = true := by
    decide +kernel
  cases ran : serializeConfig ipv4Platform listedConfig with
  | error error =>
      rw [ran] at returns
      cases returns
  | ok value =>
      refine ⟨value, rfl, (config_roundTrip ipv4Platform listedConfig value ?_ ran).mpr ?_⟩
      · decide
      · decide

/-- The bootstrap entries that the server dialog makes of `1.1.1.1; ;8.8.8.8`. -/
def blankEntryConfig : Config :=
  { listedConfig with
    servers := listedConfig.servers.map fun s =>
      { s with bootstrap := [text "1.1.1.1", [], text "8.8.8.8"] } }

/-- It is accepted and written, and read back without the entry in the middle. -/
theorem config_roundTrip_blankEntry :
    validate ipv4Platform blankEntryConfig = .ok () ∧
      (∀ s ∈ blankEntryConfig.servers, s.useSystemBootstrap = false ∧ s.route = {}) ∧
      ∃ value, serializeConfig ipv4Platform blankEntryConfig = .ok value ∧
        parseConfig ipv4Platform value = .ok listedConfig ∧
        parseConfig ipv4Platform value ≠ .ok blankEntryConfig := by
  have returns : (serializeConfig ipv4Platform blankEntryConfig).isOk = true := by
    decide +kernel
  cases ran : serializeConfig ipv4Platform blankEntryConfig with
  | error error =>
      rw [ran] at returns
      cases returns
  | ok value =>
      obtain ⟨valid, written, short⟩ := serializeConfig_eq_ok.mp ran
      have read : parseConfig ipv4Platform value = .ok listedConfig := by
        rw [parseConfig_written ipv4Platform written short]
        rfl
      refine ⟨valid, by decide, value, rfl, read, ?_⟩
      rw [read]
      decide

end NativeDNS

/-
Which loaded configurations can be saved and loaded again.

An element is written exactly when the element it was read from holds values the writer
takes only; the run over the children of the root carries this to whole documents.  A
configuration that was saved once is loaded as what can be read back of it, and saving
that keeps it.
-/
import NativeDNS.Config.Serializable
import NativeDNS.Config.File

namespace NativeDNS

open ByteText (text byte decimal pieces joined)
open CheckedResult

namespace Document

/-! ### Elements -/

def MetadataTaken (values : Metadata) : Prop :=
  ∀ entry ∈ values.entries, Escapable entry.1 ∧ Escapable entry.2

theorem metadata_ok_iff {values : Metadata} :
    (∃ written, metadata values = .ok written) ↔ MetadataTaken values := by
  have element : ∀ entry : Bytes × Bytes, (∃ written, metaElement entry = .ok written) ↔
      Escapable entry.1 ∧ Escapable entry.2 := by
    intro entry
    have pair := @fields_ok_iff (metaFields entry)
    rw [metaFields, List.forall_mem_cons, List.forall_mem_singleton] at pair
    rw [← pair]
    constructor
    · rintro ⟨written, ran⟩
      obtain ⟨inside, fieldsRan, _⟩ := bind_eq_ok.mp ran
      exact ⟨inside, fieldsRan⟩
    · rintro ⟨inside, fieldsRan⟩
      exact ⟨_, bind_eq_ok.mpr ⟨inside, fieldsRan, rfl⟩⟩
  unfold metadata MetadataTaken
  rw [writeAll_ok_iff]
  exact forall₂_congr fun entry _ => element entry

theorem readMeta_taken {parent item : Node} {values next : Metadata}
    (read : readMeta parent values item = .ok next) (short : EveryValue Short item) :
    MetadataTaken next ↔ MetadataTaken values ∧ EveryValue Serializable item := by
  obtain ⟨_, plain, read⟩ := bind_eq_ok.mp read
  obtain ⟨_, listed, read⟩ := bind_eq_ok.mp read
  have childless : item.children = [] := by
    have neither := rejectIf_eq_ok.mp plain
    cases children : item.children with
    | nil =>
        rfl
    | cons first rest =>
        exact absurd (.inr (by rw [children]; rfl)) neither
  have own := (everyValue_iff.mp short).1
  have agreed : Escapable (attr item (text "key")) ∧ Escapable (attr item (text "value")) ↔
      ∀ entry ∈ item.attrs.entries, Serializable entry.2 := by
    have fieldsAgreed := @fields_agree item metaKeys
      (metaFields (attr item (text "key"), attr item (text "value"))) listed
      (.cons (text_agrees own _) (.cons (text_agrees own _) .nil))
    rwa [metaFields, List.forall_mem_cons, List.forall_mem_singleton] at fieldsAgreed
  cases placed : values.emplace (attr item (text "key")) (attr item (text "value")) with
  | none =>
      rw [placed] at read
      cases read
  | some added =>
      rw [placed] at read
      cases read
      have moved := OrderedMap.emplace_perm placed
      unfold MetadataTaken
      rw [everyValue_iff, childless, ← agreed]
      constructor
      · intro taken
        have last := taken (attr item (text "key"), attr item (text "value"))
          (moved.mem_iff.mpr (List.mem_append_right _ List.mem_cons_self))
        refine ⟨fun entry member => taken entry ?_, last, ?_⟩
        · exact moved.mem_iff.mpr (List.mem_append_left _ member)
        · exact fun _ member => absurd member List.not_mem_nil
      · rintro ⟨before, here, _⟩ entry member
        rcases List.mem_append.mp (moved.mem_iff.mp member) with earlier | same
        · exact before entry earlier
        · rw [List.mem_singleton.mp same]
          exact here

theorem metadataTaken_empty : MetadataTaken OrderedMap.empty :=
  fun _ member => absurd member List.not_mem_nil

/-- The metadata read from the elements so far is taken exactly when they are. -/
def MetadataRead (before : List Node) (values : Metadata) : Prop :=
  (∀ child ∈ before, EveryValue Short child) →
    (MetadataTaken values ↔ ∀ child ∈ before, EveryValue Serializable child)

theorem readMeta_read (parent : Node) (before : List Node) (item : Node)
    (values next : Metadata) (kept : MetadataRead before values)
    (read : readMeta parent values item = .ok next) :
    MetadataRead (before ++ [item]) next := by
  intro short
  rw [List.forall_mem_append, List.forall_mem_singleton] at short
  rw [readMeta_taken read short.2, kept short.1, List.forall_mem_append,
    List.forall_mem_singleton]

theorem readMetadata_taken {node : Node} {values : Metadata}
    (read : readMetadata node = .ok values)
    (short : ∀ child ∈ node.children, EveryValue Short child) :
    MetadataTaken values ↔ ∀ child ∈ node.children, EveryValue Serializable child := by
  have start : MetadataRead [] OrderedMap.empty := fun _ =>
    ⟨fun _ _ member => absurd member List.not_mem_nil, fun _ => metadataTaken_empty⟩
  exact foldlM_processed (readMeta_read node) start read short

def ServerTaken (s : Server) : Prop :=
  (∀ entry ∈ serverFields s, Escapable entry.2) ∧ MetadataTaken s.metadata

def RuleTaken (r : Rule) : Prop :=
  (∀ entry ∈ ruleFields r, Escapable entry.2) ∧ MetadataTaken r.metadata

def LoggingTaken (logging : LoggingSettings) : Prop :=
  ∀ entry ∈ loggingFields logging, Escapable entry.2

theorem readLogging_taken {node : Node} {logging : LoggingSettings}
    (read : readLogging node = .ok logging)
    (short : ∀ entry ∈ node.attrs.entries, Short entry.2) :
    LoggingTaken logging ↔ ∀ entry ∈ node.attrs.entries, Serializable entry.2 := by
  simp only [readLogging, bind_eq_ok, pure_eq_ok] at read
  obtain ⟨_, listed, screen, screenRead, file, fileRead, enabled, enabledRead, same⟩ := read
  cases same
  refine fields_agree listed ?_
  exact .cons (num_agrees screenRead) (.cons (num_agrees fileRead)
    (.cons (flag_agrees enabledRead)
      (.cons (default_agrees short (by decide) (by decide)) .nil)))

theorem readServer_taken {node : Node} {s : Server} (read : readServer node = .ok s)
    (short : EveryValue Short node) :
    (ServerTaken s ↔ EveryValue Serializable node) ∧ s.reread = s := by
  simp only [readServer, bind_eq_ok, pure_eq_ok, rejectIf_eq_ok] at read
  obtain ⟨_, listed, id, idRead, enabled, enabledRead, proto, protoRead, port, portRead, _,
    inRange, dnssec, dnssecRead, timeout, timeoutRead, direct, directRead, fallbacks,
    fallbacksRead, kept, keptRead, same⟩ := read
  cases same
  obtain ⟨own, children⟩ := everyValue_iff.mp short
  have portText : port.toUInt16.toNat = port.toNat := by
    rw [UInt32.toNat_toUInt16]
    have bound : port ≤ 65535 := UInt32.not_lt.mp inRange
    have limit : port.toNat ≤ 65535 := UInt32.le_iff_toNat_le.mp bound
    exact Nat.mod_eq_of_lt (by omega)
  constructor
  · rw [everyValue_iff]
    refine and_congr (fields_agree listed ?_) (readMetadata_taken keptRead children)
    have portAgrees : Agrees node (text "port") (decimal port.toUInt16.toNat) := by
      rw [portText]
      exact num_agrees portRead
    exact .cons (num_agrees idRead) (.cons (text_agrees own _)
      (.cons (flag_agrees enabledRead) (.cons (protocol_agrees protoRead)
      (.cons (text_agrees own _) (.cons portAgrees (.cons (text_agrees own _)
      (.cons (text_agrees own _) (.cons (flag_agrees dnssecRead)
      (.cons (num_agrees timeoutRead) (.cons (flag_agrees directRead)
      (.cons (ids_agrees own fallbacksRead) (.cons (list_agrees own _)
      (.cons (list_agrees own _) (.cons (text_agrees own _) (.cons (text_agrees own _)
      (.cons (text_agrees own _) .nil))))))))))))))))
  · simp only [Server.reread, split_join_iff.mpr (split_splittable _)]

theorem readRule_taken {node : Node} {r : Rule} (read : readRule node = .ok r)
    (short : EveryValue Short node) :
    (RuleTaken r ↔ EveryValue Serializable node) ∧ r.reread = r := by
  simp only [readRule, bind_eq_ok, pure_eq_ok] at read
  obtain ⟨_, listed, id, idRead, enabled, enabledRead, isDefault, defaultRead, act, actRead,
    server, serverRead, validated, validatedRead, unsigned_, unsignedRead, blockMode,
    blockModeRead, kept, keptRead, same⟩ := read
  cases same
  obtain ⟨own, children⟩ := everyValue_iff.mp short
  constructor
  · rw [everyValue_iff]
    refine and_congr (fields_agree listed ?_) (readMetadata_taken keptRead children)
    exact .cons (num_agrees idRead) (.cons (text_agrees own _)
      (.cons (flag_agrees enabledRead) (.cons (flag_agrees defaultRead)
      (.cons (list_agrees own _) (.cons (action_agrees actRead)
      (.cons (num_agrees serverRead) (.cons (text_agrees own _)
      (.cons (flag_agrees validatedRead) (.cons (flag_agrees unsignedRead)
      (.cons (num_agrees blockModeRead) .nil))))))))))
  · simp only [Rule.reread, split_join_iff.mpr (split_splittable _)]

/-! ### Documents -/

structure ConfigTaken (config : Config) : Prop where
  root : ∀ entry ∈ rootFields config, Escapable entry.2
  settings : MetadataTaken config.settings
  logging : LoggingTaken config.logging
  servers : ∀ s ∈ config.servers, ServerTaken s
  rules : ∀ r ∈ config.rules, RuleTaken r

theorem serverElement_ok_iff {s : Server} :
    (∃ written, serverElement s = .ok written) ↔ ServerTaken s := by
  unfold ServerTaken
  rw [← fields_ok_iff, ← metadata_ok_iff]
  constructor
  · rintro ⟨written, ran⟩
    obtain ⟨inside, fieldsRan, ran⟩ := bind_eq_ok.mp ran
    obtain ⟨kept, metadataRan, _⟩ := bind_eq_ok.mp ran
    exact ⟨⟨inside, fieldsRan⟩, kept, metadataRan⟩
  · rintro ⟨⟨inside, fieldsRan⟩, kept, metadataRan⟩
    exact ⟨_, bind_eq_ok.mpr ⟨inside, fieldsRan, bind_eq_ok.mpr ⟨kept, metadataRan, rfl⟩⟩⟩

theorem ruleElement_ok_iff {r : Rule} :
    (∃ written, ruleElement r = .ok written) ↔ RuleTaken r := by
  unfold RuleTaken
  rw [← fields_ok_iff, ← metadata_ok_iff]
  constructor
  · rintro ⟨written, ran⟩
    obtain ⟨inside, fieldsRan, ran⟩ := bind_eq_ok.mp ran
    obtain ⟨kept, metadataRan, _⟩ := bind_eq_ok.mp ran
    exact ⟨⟨inside, fieldsRan⟩, kept, metadataRan⟩
  · rintro ⟨⟨inside, fieldsRan⟩, kept, metadataRan⟩
    exact ⟨_, bind_eq_ok.mpr ⟨inside, fieldsRan, bind_eq_ok.mpr ⟨kept, metadataRan, rfl⟩⟩⟩

theorem configDocument_ok_iff {config : Config} :
    (∃ document, configDocument config = .ok document) ↔ ConfigTaken config := by
  constructor
  · rintro ⟨document, ran⟩
    simp only [configDocument, bind_eq_ok] at ran
    obtain ⟨root, rootRan, settings, settingsRan, logging, loggingRan, servers, serversRan,
      rules, rulesRan, _⟩ := ran
    exact
      { root := fields_ok_iff.mp ⟨root, rootRan⟩
        settings := metadata_ok_iff.mp ⟨settings, settingsRan⟩
        logging := fields_ok_iff.mp ⟨logging, loggingRan⟩
        servers := fun s member =>
          serverElement_ok_iff.mp (writeAll_ok_iff.mp ⟨servers, serversRan⟩ s member)
        rules := fun r member =>
          ruleElement_ok_iff.mp (writeAll_ok_iff.mp ⟨rules, rulesRan⟩ r member) }
  · intro taken
    obtain ⟨root, rootRan⟩ := fields_ok_iff.mpr taken.root
    obtain ⟨settings, settingsRan⟩ := metadata_ok_iff.mpr taken.settings
    obtain ⟨logging, loggingRan⟩ := fields_ok_iff.mpr taken.logging
    obtain ⟨servers, serversRan⟩ := writeAll_ok_iff.mpr fun s member =>
      serverElement_ok_iff.mpr (taken.servers s member)
    obtain ⟨rules, rulesRan⟩ := writeAll_ok_iff.mpr fun r member =>
      ruleElement_ok_iff.mpr (taken.rules r member)
    unfold configDocument
    rw [rootRan, ok_bind, settingsRan, ok_bind, loggingRan, ok_bind, serversRan, ok_bind,
      rulesRan, ok_bind]
    exact ⟨_, rfl⟩

theorem loggingTaken_default : LoggingTaken {} := by
  have plain : ∀ entry ∈ loggingFields {}, Plain entry.2 := by
    decide
  have short : ∀ entry ∈ loggingFields {}, entry.2.length ≤ textLimit := by
    decide
  exact fun entry member => (plain entry member).escapable (short entry member)

theorem readRoot_taken {root : Node} {config : Config} (read : readRoot root = .ok config)
    (short : ∀ entry ∈ root.attrs.entries, Short entry.2) (schema : config.schemaVersion = 1) :
    ConfigTaken config ↔ ∀ entry ∈ root.attrs.entries, Serializable entry.2 := by
  simp only [readRoot, bind_eq_ok, pure_eq_ok, rejectIf_eq_ok] at read
  obtain ⟨_, _, _, listed, version, versionRead, concurrency, concurrencyRead, same⟩ := read
  cases same
  have versionAgrees : Agrees root (text "schemaVersion") (text "1") := by
    have agrees := num_agrees versionRead
    have one : decimal (1 : UInt32).toNat = text "1" := by
      decide
    rwa [show version = 1 from schema, one] at agrees
  have agreed := @fields_agree root rootKeys
    (documentFields
      { schemaVersion := version
        testTarget := attr root (text "testTarget") (text "iana.org")
        testConcurrency := concurrency }) listed
    (.cons versionAgrees
      (.cons (default_agrees short (by decide) (by decide))
        (.cons (num_agrees concurrencyRead) .nil)))
  have one : Escapable (text "1") :=
    Plain.escapable (by decide) (by decide)
  rw [← agreed, documentFields, List.forall_mem_cons]
  constructor
  · intro taken
    exact ⟨one, taken.root⟩
  · rintro ⟨_, taken⟩
    exact
      { root := taken
        settings := metadataTaken_empty
        logging := loggingTaken_default
        servers := fun _ member => absurd member List.not_mem_nil
        rules := fun _ member => absurd member List.not_mem_nil }

/-- The elements that may stand once are at their defaults until they are read. -/
structure Fresh (reading : Reading) : Prop where
  settings : reading.sawSettings = false → reading.config.settings = OrderedMap.empty
  logging : reading.sawLogging = false → reading.config.logging = {}

/-- What is true of the configuration read from some children of the root: it is taken
exactly when its root and the children are, and it is read back as itself. -/
structure ChildrenRead (root : Config) (before : List Node) (reading : Reading) : Prop where
  fresh : Fresh reading
  taken : ConfigTaken reading.config ↔
    ConfigTaken root ∧ ∀ child ∈ before, EveryValue Serializable child
  servers : ∀ s ∈ reading.config.servers, s.reread = s
  rules : ∀ r ∈ reading.config.rules, r.reread = r
  schema : reading.config.schemaVersion = root.schemaVersion

theorem readChild_cases {reading next : Reading} {child : Node}
    (read : readChild reading child = .ok next) :
    (known child [] = .ok () ∧ reading.sawSettings = false ∧ ∃ settings,
        readMetadata child = .ok settings ∧
          next =
            { reading with
              config := { reading.config with settings := settings }
              sawSettings := true }) ∨
      (child.children = [] ∧ reading.sawLogging = false ∧ ∃ logging,
        readLogging child = .ok logging ∧
          next =
            { reading with
              config := { reading.config with logging := logging }
              sawLogging := true }) ∨
      (∃ server, readServer child = .ok server ∧
        next =
          { reading with
            config := { reading.config with servers := reading.config.servers ++ [server] } }) ∨
      ∃ rule, readRule child = .ok rule ∧
        next =
          { reading with
            config := { reading.config with rules := reading.config.rules ++ [rule] } } := by
  unfold readChild at read
  split at read
  · obtain ⟨_, listed, read⟩ := bind_eq_ok.mp read
    obtain ⟨_, once, read⟩ := bind_eq_ok.mp read
    obtain ⟨settings, settingsRead, same⟩ := bind_eq_ok.mp read
    exact .inl ⟨listed, Bool.eq_false_iff.mpr (rejectIf_eq_ok.mp once), settings,
      settingsRead, (Except.ok.inj same).symm⟩
  · split at read
    · obtain ⟨_, once, read⟩ := bind_eq_ok.mp read
      obtain ⟨logging, loggingRead, same⟩ := bind_eq_ok.mp read
      have neither := rejectIf_eq_ok.mp once
      have childless : child.children = [] := by
        cases filled : child.children with
        | nil =>
            rfl
        | cons first rest =>
            exact absurd (.inr (by rw [filled]; rfl)) neither
      exact .inr (.inl ⟨childless, Bool.eq_false_iff.mpr fun seen => neither (.inl seen),
        logging, loggingRead, (Except.ok.inj same).symm⟩)
    · split at read
      · obtain ⟨server, serverRead, same⟩ := bind_eq_ok.mp read
        exact .inr (.inr (.inl ⟨server, serverRead, (Except.ok.inj same).symm⟩))
      · split at read
        · obtain ⟨rule, ruleRead, same⟩ := bind_eq_ok.mp read
          exact .inr (.inr (.inr ⟨rule, ruleRead, (Except.ok.inj same).symm⟩))
        · cases read

theorem readChild_taken {reading next : Reading} {child : Node} (fresh : Fresh reading)
    (read : readChild reading child = .ok next) (short : EveryValue Short child) :
    ConfigTaken next.config ↔
      ConfigTaken reading.config ∧ EveryValue Serializable child := by
  obtain ⟨own, children⟩ := everyValue_iff.mp short
  rcases readChild_cases read with ⟨listed, unseen, settings, settingsRead, same⟩ |
    ⟨childless, unseen, logging, loggingRead, same⟩ | ⟨server, serverRead, same⟩ |
    ⟨rule, ruleRead, same⟩
  · subst same
    have before : MetadataTaken reading.config.settings := by
      rw [fresh.settings unseen]
      exact metadataTaken_empty
    have agreed := @fields_agree child [] [] listed .nil
    have here : MetadataTaken settings ↔ EveryValue Serializable child := by
      rw [everyValue_iff, ← agreed, readMetadata_taken settingsRead children]
      exact ⟨fun taken => ⟨fun _ member => absurd member List.not_mem_nil, taken⟩, And.right⟩
    rw [← here]
    constructor
    · intro taken
      exact ⟨⟨taken.root, before, taken.logging, taken.servers, taken.rules⟩, taken.settings⟩
    · rintro ⟨taken, settingsTaken⟩
      exact ⟨taken.root, settingsTaken, taken.logging, taken.servers, taken.rules⟩
  · subst same
    have before : LoggingTaken reading.config.logging := by
      rw [fresh.logging unseen]
      exact loggingTaken_default
    have here : LoggingTaken logging ↔ EveryValue Serializable child := by
      rw [everyValue_iff, childless, ← readLogging_taken loggingRead own]
      exact ⟨fun taken => ⟨taken, fun _ member => absurd member List.not_mem_nil⟩, And.left⟩
    rw [← here]
    constructor
    · intro taken
      exact ⟨⟨taken.root, taken.settings, before, taken.servers, taken.rules⟩, taken.logging⟩
    · rintro ⟨taken, loggingTaken⟩
      exact ⟨taken.root, taken.settings, loggingTaken, taken.servers, taken.rules⟩
  · subst same
    rw [← (readServer_taken serverRead short).1]
    constructor
    · intro taken
      have both := List.forall_mem_append.mp taken.servers
      exact ⟨⟨taken.root, taken.settings, taken.logging, both.1, taken.rules⟩,
        both.2 server List.mem_cons_self⟩
    · rintro ⟨taken, serverTaken⟩
      exact ⟨taken.root, taken.settings, taken.logging,
        List.forall_mem_append.mpr ⟨taken.servers, List.forall_mem_singleton.mpr serverTaken⟩,
        taken.rules⟩
  · subst same
    rw [← (readRule_taken ruleRead short).1]
    constructor
    · intro taken
      have both := List.forall_mem_append.mp taken.rules
      exact ⟨⟨taken.root, taken.settings, taken.logging, taken.servers, both.1⟩,
        both.2 rule List.mem_cons_self⟩
    · rintro ⟨taken, ruleTaken⟩
      exact ⟨taken.root, taken.settings, taken.logging, taken.servers,
        List.forall_mem_append.mpr ⟨taken.rules, List.forall_mem_singleton.mpr ruleTaken⟩⟩

theorem readChild_read (root : Config) (before : List Node) (child : Node)
    (reading next : Reading)
    (kept : (∀ node ∈ before, EveryValue Short node) → ChildrenRead root before reading)
    (read : readChild reading child = .ok next) :
    (∀ node ∈ before ++ [child], EveryValue Short node) →
      ChildrenRead root (before ++ [child]) next := by
  intro short
  rw [List.forall_mem_append, List.forall_mem_singleton] at short
  have earlier := kept short.1
  have taken : ConfigTaken next.config ↔
      ConfigTaken root ∧ ∀ node ∈ before ++ [child], EveryValue Serializable node := by
    rw [readChild_taken earlier.fresh read short.2, earlier.taken, List.forall_mem_append,
      List.forall_mem_singleton, and_assoc]
  rcases readChild_cases read with ⟨_, _, settings, _, same⟩ | ⟨_, _, logging, _, same⟩ |
    ⟨server, serverRead, same⟩ | ⟨rule, ruleRead, same⟩
  · subst same
    exact
      { fresh :=
          { settings := fun seen => by cases seen
            logging := earlier.fresh.logging }
        taken := taken
        servers := earlier.servers
        rules := earlier.rules
        schema := earlier.schema }
  · subst same
    exact
      { fresh :=
          { settings := earlier.fresh.settings
            logging := fun seen => by cases seen }
        taken := taken
        servers := earlier.servers
        rules := earlier.rules
        schema := earlier.schema }
  · subst same
    exact
      { fresh :=
          { settings := earlier.fresh.settings
            logging := earlier.fresh.logging }
        taken := taken
        servers := List.forall_mem_append.mpr ⟨earlier.servers,
          List.forall_mem_singleton.mpr (readServer_taken serverRead short.2).2⟩
        rules := earlier.rules
        schema := earlier.schema }
  · subst same
    exact
      { fresh :=
          { settings := earlier.fresh.settings
            logging := earlier.fresh.logging }
        taken := taken
        servers := earlier.servers
        rules := List.forall_mem_append.mpr ⟨earlier.rules,
          List.forall_mem_singleton.mpr (readRule_taken ruleRead short.2).2⟩
        schema := earlier.schema }

/-- A loaded configuration is taken by the writer exactly when every value of its
document is, and what can be read back of it is all of it. -/
theorem configFromRoot_taken {platform : Platform} {root : Node} {config : Config}
    (read : configFromRoot platform root = .ok config) (short : EveryValue Short root) :
    (ConfigTaken config ↔ EveryValue Serializable root) ∧ config.reread = config ∧
      validate platform config = .ok () := by
  obtain ⟨start, rootRead, read⟩ := bind_eq_ok.mp read
  obtain ⟨reading, childrenRead, read⟩ := bind_eq_ok.mp read
  obtain ⟨_, valid, same⟩ := bind_eq_ok.mp read
  cases same
  obtain ⟨own, children⟩ := everyValue_iff.mp short
  have schema := (validate_valid valid).schema
  have fresh : (∀ node ∈ [], EveryValue Short node) →
      ChildrenRead start [] { config := start } := by
    intro _
    simp only [readRoot, bind_eq_ok, pure_eq_ok] at rootRead
    obtain ⟨_, _, _, _, _, _, _, _, same⟩ := rootRead
    cases same
    exact
      { fresh := { settings := fun _ => rfl, logging := fun _ => rfl }
        taken := ⟨fun taken => ⟨taken, fun _ member => absurd member List.not_mem_nil⟩, And.left⟩
        servers := fun _ member => absurd member List.not_mem_nil
        rules := fun _ member => absurd member List.not_mem_nil
        schema := rfl }
  have processed := foldlM_processed (readChild_read start) fresh childrenRead children
  refine ⟨?_, ?_, valid⟩
  · rw [everyValue_iff, ← readRoot_taken rootRead own (processed.schema ▸ schema)]
    exact processed.taken
  · unfold Config.reread
    rw [map_eq_self_iff.mpr processed.servers, map_eq_self_iff.mpr processed.rules, ← schema]

/-! ### Errors of the writer -/

def OtherError (error : Error) : Prop :=
  error.code ≠ "CONFIG_LIMIT"

theorem otherError_of {code : String} {message : String} (other : code ≠ "CONFIG_LIMIT") :
    OtherError (.of code message) :=
  other

theorem utf8Continue_raises (point : Nat) (bytes : Bytes) :
    RaisesOnly OtherError (utf8Continue point bytes) := by
  induction bytes generalizing point with
  | nil =>
      exact .pure point
  | cons b rest ih =>
      exact (RaisesOnly.rejectIf (otherError_of (by decide))).bind fun _ => ih _

theorem utf8Lead_raises (c : UInt8) : RaisesOnly OtherError (utf8Lead c) := by
  unfold utf8Lead
  split
  · exact .pure _
  · split
    · exact (RaisesOnly.rejectIf (otherError_of (by decide))).bind fun _ => .pure _
    · split
      · exact .pure _
      · split
        · exact .pure _
        · exact .throw (otherError_of (by decide))

theorem decodeUtf8_raises (bytes : Bytes) : RaisesOnly OtherError (decodeUtf8 bytes) := by
  induction bytes using decodeUtf8.induct with
  | case1 =>
      rw [decodeUtf8]
      exact .pure _
  | case2 c rest ih =>
      rw [decodeUtf8]
      refine (utf8Lead_raises c).bind fun lead => ?_
      refine (RaisesOnly.rejectIf (otherError_of (by decide))).bind fun _ => ?_
      refine (utf8Continue_raises _ _).bind fun cp => ?_
      refine (RaisesOnly.rejectIf (otherError_of (by decide))).bind fun _ => ?_
      exact (ih lead.2).bind fun _ => .pure _

theorem writeAll_raises {α : Type} {write : α → Checked Bytes}
    (each : ∀ item, RaisesOnly OtherError (write item)) (items : List α) :
    RaisesOnly OtherError (writeAll write items) := by
  induction items with
  | nil =>
      exact .pure []
  | cons item rest ih =>
      exact (each item).bind fun _ => ih.bind fun _ => .pure _

theorem escapeCharacter_raises (c : UInt8) : RaisesOnly OtherError (escapeCharacter c) := by
  unfold escapeCharacter
  repeat' split
  all_goals first
    | exact .pure _
    | exact (RaisesOnly.rejectIf (otherError_of (by decide))).bind fun _ => .pure _

theorem fields_raises (entries : List (Bytes × Bytes)) :
    RaisesOnly OtherError (fields entries) := by
  refine writeAll_raises (fun entry => ?_) entries
  have escaped : RaisesOnly OtherError (escape entry.2) := by
    refine RaisesOnly.bind ?_ fun _ => writeAll_raises escapeCharacter_raises _
    exact (RaisesOnly.rejectIf (otherError_of (by decide))).bind fun _ => decodeUtf8_raises _
  exact escaped.bind fun _ => .pure _

theorem metadata_raises (values : Metadata) : RaisesOnly OtherError (metadata values) :=
  writeAll_raises (fun _ => (fields_raises _).bind fun _ => .pure _) values.entries

theorem configDocument_raises (config : Config) :
    RaisesOnly OtherError (configDocument config) := by
  refine (fields_raises _).bind fun _ => (metadata_raises _).bind fun _ =>
    (fields_raises _).bind fun _ => ?_
  refine (writeAll_raises (fun s => ?_) _).bind fun _ =>
    (writeAll_raises (fun r => ?_) _).bind fun _ => .pure _
  · exact (fields_raises _).bind fun _ => (metadata_raises _).bind fun _ => .pure _
  · exact (fields_raises _).bind fun _ => (metadata_raises _).bind fun _ => .pure _

end Document

open Document

/-- The error of a document that would be too long. -/
def tooLong : Error :=
  .of "CONFIG_LIMIT" "Serialized config exceeds 4 MiB"

/-- A loaded configuration is written and read back as it was loaded, or is too long to
be written, exactly when every attribute value of the loaded document is well-formed
UTF-8 without control characters other than tab, line feed and carriage return. -/
theorem config_reload (platform : Platform) (document : Bytes) (config : Config)
    (parsed : parseConfig platform document = .ok config) :
    (serializeConfig platform config = .error tooLong ∨
      ∃ again, serializeConfig platform config = .ok again ∧
        parseConfig platform again = .ok config) ↔
    ∀ root, XmlParser.parse document = .ok root → EveryValue Serializable root := by
  obtain ⟨root, rootRead, read⟩ := bind_eq_ok.mp parsed
  have short : EveryValue Short root := fun node element => parsed_values_le rootRead element
  obtain ⟨taken, same, valid⟩ := configFromRoot_taken read short
  have onlyRoot : (∀ root, XmlParser.parse document = .ok root → EveryValue Serializable root) ↔
      ConfigTaken config := by
    rw [taken]
    refine ⟨fun every => every root rootRead, fun every other otherRead => ?_⟩
    cases rootRead.symm.trans otherRead
    exact every
  rw [onlyRoot]
  constructor
  · rintro (long | ⟨again, written, _⟩)
    · cases ran : configDocument config with
      | ok value =>
          exact configDocument_ok_iff.mp ⟨value, ran⟩
      | error error =>
          unfold serializeConfig at long
          rw [valid, ok_bind, ran] at long
          cases long
          exact absurd rfl (configDocument_raises config tooLong ran)
    · exact configDocument_ok_iff.mp ⟨again, (serializeConfig_eq_ok.mp written).2.1⟩
  · intro writable
    obtain ⟨again, ran⟩ := configDocument_ok_iff.mpr writable
    by_cases fits : again.length ≤ textLimit
    · refine .inr ⟨again, serializeConfig_eq_ok.mpr ⟨valid, ran, fits⟩, ?_⟩
      rw [parseConfig_written platform ran fits, same, valid, ok_bind]
    · left
      unfold serializeConfig
      rw [valid, ok_bind, ran, ok_bind, rejectIf_of (Nat.not_le.mp fits)]
      rfl

def lineFeedDocument : Bytes :=
  text "<NativeDNS schemaVersion='1'>" ++
    text "<Rule id='1' name='a&#10;b' default='1' patterns='*' action='process'/>" ++
    text "</NativeDNS>"

theorem config_reload_lineFeed :
    ∃ config, parseConfig ipv4Platform lineFeedDocument = .ok config ∧
      (serializeConfig ipv4Platform config = .error tooLong ∨
        ∃ again, serializeConfig ipv4Platform config = .ok again ∧
          parseConfig ipv4Platform again = .ok config) := by
  have returns : (parseConfig ipv4Platform lineFeedDocument).isOk = true := by
    decide +kernel
  have writable : (XmlParser.parse lineFeedDocument).toOption.all
      (fun root => decide (root.attrs.entries.all (fun entry => decide (Serializable entry.2)) ∧
        root.children.all fun child => child.children.isEmpty &&
          child.attrs.entries.all fun entry => decide (Serializable entry.2))) = true := by
    decide +kernel
  cases parsed : parseConfig ipv4Platform lineFeedDocument with
  | error error =>
      rw [parsed] at returns
      cases returns
  | ok config =>
      refine ⟨config, rfl, (config_reload ipv4Platform lineFeedDocument config parsed).mpr ?_⟩
      intro root rootRead
      rw [rootRead] at writable
      obtain ⟨own, children⟩ := of_decide_eq_true writable
      refine everyValue_iff.mpr ⟨fun entry inside => ?_, fun child member => ?_⟩
      · exact of_decide_eq_true (List.all_eq_true.mp own entry inside)
      · obtain ⟨leaf, values⟩ := Bool.and_eq_true_iff.mp (List.all_eq_true.mp children child member)
        refine everyValue_iff.mpr ⟨fun entry inside => ?_, fun inner below => ?_⟩
        · exact of_decide_eq_true (List.all_eq_true.mp values entry inside)
        · rw [List.isEmpty_iff.mp leaf] at below
          exact absurd below List.not_mem_nil

def controlDocument : Bytes :=
  text "<NativeDNS schemaVersion='1'>" ++
    text "<Rule id='1' name='&#1;' default='1' patterns='*' action='process'/>" ++
    text "</NativeDNS>"

/-- It is loaded, and what is loaded cannot be written. -/
theorem config_reload_control :
    ∃ config, parseConfig ipv4Platform controlDocument = .ok config ∧
      serializeConfig ipv4Platform config =
        .error (.of "XML" "Control character cannot be serialized") ∧
      ¬ (serializeConfig ipv4Platform config = .error tooLong ∨
        ∃ again, serializeConfig ipv4Platform config = .ok again ∧
          parseConfig ipv4Platform again = .ok config) := by
  have refused : (parseConfig ipv4Platform controlDocument).bind
      (serializeConfig ipv4Platform) =
        .error (.of "XML" "Control character cannot be serialized") := by
    decide +kernel
  have returns : (parseConfig ipv4Platform controlDocument).isOk = true := by
    decide +kernel
  cases parsed : parseConfig ipv4Platform controlDocument with
  | error error =>
      rw [parsed] at returns
      cases returns
  | ok config =>
      rw [parsed] at refused
      have failed : serializeConfig ipv4Platform config =
          .error (.of "XML" "Control character cannot be serialized") := refused
      refine ⟨config, rfl, failed, ?_⟩
      rw [failed]
      rintro (long | ⟨_, written, _⟩)
      · exact absurd long (by decide)
      · cases written

/-! ### Saved files -/

namespace Document

theorem joined_filter_sublist (keep : Bytes → Bool) :
    ∀ items : List Bytes,
      (joined (byte ';') (items.filter keep)).Sublist (joined (byte ';') items)
  | [] => List.Sublist.refl []
  | [only] => by
      rw [List.filter_cons]
      split
      · exact List.Sublist.refl _
      · exact List.nil_sublist _
  | first :: next :: more => by
      have behind := joined_filter_sublist keep (next :: more)
      rw [List.filter_cons, ByteText.joined_cons (byte ';') first next more]
      split
      · cases kept : (next :: more).filter keep with
        | nil =>
            exact List.sublist_append_left _ _
        | cons second others =>
            rw [kept] at behind
            rw [ByteText.joined_cons (byte ';') first second others]
            exact (List.Sublist.refl first).append (behind.cons_cons _)
      · exact behind.trans ((List.sublist_cons_self _ _).trans (List.sublist_append_right _ _))

theorem join_split_sublist (value : Bytes) : (join (split value)).Sublist value := by
  have shorter := joined_filter_sublist (fun entry => decide (entry ≠ []))
    (pieces (byte ';') value)
  rw [ByteText.joined_pieces] at shorter
  rw [join_split]
  exact shorter

theorem escaped_shorter {value fewer : Bytes} (sublist : fewer.Sublist value) :
    ∀ {written : Bytes}, writeAll escapeCharacter value = .ok written →
      ∃ shorter, writeAll escapeCharacter fewer = .ok shorter ∧
        shorter.length ≤ written.length := by
  induction sublist with
  | slnil =>
      intro written ran
      exact ⟨written, ran, Nat.le_refl _⟩
  | cons c _ ih =>
      intro written ran
      obtain ⟨first, others, _, later, same⟩ := writeAll_cons_eq_ok.mp ran
      obtain ⟨shorter, behind, short⟩ := ih later
      refine ⟨shorter, behind, ?_⟩
      rw [same, List.length_append]
      omega
  | cons_cons c _ ih =>
      intro written ran
      obtain ⟨first, others, here, later, same⟩ := writeAll_cons_eq_ok.mp ran
      obtain ⟨shorter, behind, short⟩ := ih later
      refine ⟨first ++ shorter, writeAll_cons_eq_ok.mpr ⟨first, shorter, here, behind, rfl⟩, ?_⟩
      rw [same, List.length_append, List.length_append]
      omega

/-- A field that is written again in not more characters. -/
def Shrinks (before after : Bytes × Bytes) : Prop :=
  before.1 = after.1 ∧ ∀ written, escape before.2 = .ok written →
    ∃ shorter, escape after.2 = .ok shorter ∧ shorter.length ≤ written.length

theorem shrinks_refl (entry : Bytes × Bytes) : Shrinks entry entry :=
  ⟨rfl, fun written ran => ⟨written, ran, Nat.le_refl _⟩⟩

theorem shrinks_list (key : Bytes) (values : List Bytes) :
    Shrinks (key, join values) (key, join (split (join values))) := by
  refine ⟨rfl, fun written ran => ?_⟩
  have escapable := escapable_iff.mp (escape_ok_iff.mp ⟨written, ran⟩)
  have fewer := join_split_sublist (join values)
  have again : Escapable (join (split (join values))) :=
    escapable_iff.mpr
      ⟨Nat.le_trans fewer.length_le escapable.1, serializable_join_split.mpr escapable.2⟩
  obtain ⟨_, _, characters⟩ := bind_eq_ok.mp ran
  obtain ⟨shorter, ran, short⟩ := escaped_shorter fewer characters
  obtain ⟨result, resultRan⟩ := escape_ok_iff.mpr again
  obtain ⟨_, _, resultCharacters⟩ := bind_eq_ok.mp resultRan
  cases ran.symm.trans resultCharacters
  exact ⟨shorter, resultRan, short⟩

theorem fields_shrink {before after : List (Bytes × Bytes)}
    (shrinks : List.Forall₂ Shrinks before after) :
    ∀ {written : Bytes}, fields before = .ok written →
      ∃ shorter, fields after = .ok shorter ∧ shorter.length ≤ written.length := by
  induction shrinks with
  | nil =>
      intro written ran
      exact ⟨written, ran, Nat.le_refl _⟩
  | @cons first other _ _ here _ ih =>
      intro written ran
      obtain ⟨front, others, frontRan, later, same⟩ := writeAll_cons_eq_ok.mp ran
      obtain ⟨escaped, escapedRan, parts⟩ := field_eq_ok.mp frontRan
      obtain ⟨again, againRan, short⟩ := here.2 escaped escapedRan
      obtain ⟨shorter, behind, shorterBehind⟩ := ih later
      refine ⟨_, writeAll_cons_eq_ok.mpr
        ⟨_, shorter, field_eq_ok.mpr ⟨again, againRan, rfl⟩, behind, rfl⟩, ?_⟩
      rw [same, parts, here.1]
      simp only [List.length_append]
      omega

theorem writeAll_shrink {α : Type} {write : α → Checked Bytes} {change : α → α}
    (each : ∀ item written, write item = .ok written →
      ∃ shorter, write (change item) = .ok shorter ∧ shorter.length ≤ written.length)
    (items : List α) {written : Bytes} (ran : writeAll write items = .ok written) :
    ∃ shorter, writeAll write (items.map change) = .ok shorter ∧
      shorter.length ≤ written.length := by
  induction items generalizing written with
  | nil =>
      exact ⟨written, ran, Nat.le_refl _⟩
  | cons item rest ih =>
      obtain ⟨first, others, here, later, same⟩ := writeAll_cons_eq_ok.mp ran
      obtain ⟨again, againRan, short⟩ := each item first here
      obtain ⟨shorter, behind, shorterBehind⟩ := ih later
      refine ⟨again ++ shorter,
        writeAll_cons_eq_ok.mpr ⟨again, shorter, againRan, behind, rfl⟩, ?_⟩
      rw [same, List.length_append, List.length_append]
      omega

theorem serverFields_shrink (s : Server) :
    List.Forall₂ Shrinks (serverFields s) (serverFields s.reread) :=
  .cons (shrinks_refl _) (.cons (shrinks_refl _) (.cons (shrinks_refl _)
  (.cons (shrinks_refl _) (.cons (shrinks_refl _) (.cons (shrinks_refl _)
  (.cons (shrinks_refl _) (.cons (shrinks_refl _) (.cons (shrinks_refl _)
  (.cons (shrinks_refl _) (.cons (shrinks_refl _) (.cons (shrinks_refl _)
  (.cons (shrinks_list _ _) (.cons (shrinks_list _ _) (.cons (shrinks_refl _)
  (.cons (shrinks_refl _) (.cons (shrinks_refl _) .nil))))))))))))))))

theorem ruleFields_shrink (r : Rule) :
    List.Forall₂ Shrinks (ruleFields r) (ruleFields r.reread) :=
  .cons (shrinks_refl _) (.cons (shrinks_refl _) (.cons (shrinks_refl _)
  (.cons (shrinks_refl _) (.cons (shrinks_list _ _) (.cons (shrinks_refl _)
  (.cons (shrinks_refl _) (.cons (shrinks_refl _) (.cons (shrinks_refl _)
  (.cons (shrinks_refl _) (.cons (shrinks_refl _) .nil))))))))))

theorem serverElement_shrink (s : Server) (written : Bytes)
    (ran : serverElement s = .ok written) :
    ∃ shorter, serverElement s.reread = .ok shorter ∧ shorter.length ≤ written.length := by
  obtain ⟨inside, insideRan, ran⟩ := bind_eq_ok.mp ran
  obtain ⟨kept, keptRan, same⟩ := bind_eq_ok.mp ran
  cases same
  obtain ⟨shorter, shorterRan, short⟩ := fields_shrink (serverFields_shrink s) insideRan
  refine ⟨_, bind_eq_ok.mpr ⟨shorter, shorterRan, bind_eq_ok.mpr ⟨kept, keptRan, rfl⟩⟩, ?_⟩
  simp only [List.length_append]
  omega

theorem ruleElement_shrink (r : Rule) (written : Bytes) (ran : ruleElement r = .ok written) :
    ∃ shorter, ruleElement r.reread = .ok shorter ∧ shorter.length ≤ written.length := by
  obtain ⟨inside, insideRan, ran⟩ := bind_eq_ok.mp ran
  obtain ⟨kept, keptRan, same⟩ := bind_eq_ok.mp ran
  cases same
  obtain ⟨shorter, shorterRan, short⟩ := fields_shrink (ruleFields_shrink r) insideRan
  refine ⟨_, bind_eq_ok.mpr ⟨shorter, shorterRan, bind_eq_ok.mpr ⟨kept, keptRan, rfl⟩⟩, ?_⟩
  simp only [List.length_append]
  omega

theorem configDocument_shrink {config : Config} {document : Bytes}
    (ran : configDocument config = .ok document) :
    ∃ shorter, configDocument config.reread = .ok shorter ∧
      shorter.length ≤ document.length := by
  simp only [configDocument, bind_eq_ok] at ran
  obtain ⟨root, rootRan, settings, settingsRan, logging, loggingRan, servers, serversRan,
    rules, rulesRan, same⟩ := ran
  cases same
  obtain ⟨fewerServers, fewerServersRan, serversShort⟩ :=
    writeAll_shrink serverElement_shrink _ serversRan
  obtain ⟨fewerRules, fewerRulesRan, rulesShort⟩ :=
    writeAll_shrink ruleElement_shrink _ rulesRan
  refine ⟨_, bind_eq_ok.mpr ⟨root, rootRan, bind_eq_ok.mpr ⟨settings, settingsRan,
    bind_eq_ok.mpr ⟨logging, loggingRan, bind_eq_ok.mpr ⟨fewerServers, fewerServersRan,
      bind_eq_ok.mpr ⟨fewerRules, fewerRulesRan, rfl⟩⟩⟩⟩⟩, ?_⟩
  simp only [List.length_append]
  omega

theorem reread_reread (config : Config) : config.reread.reread = config.reread := by
  have cutAgain : ∀ values, split (join (split (join values))) = split (join values) :=
    fun values => split_join_iff.mpr (split_splittable (join values))
  have server : ∀ s : Server, s.reread.reread = s.reread := by
    intro s
    simp only [Server.reread, cutAgain]
  have rule : ∀ r : Rule, r.reread.reread = r.reread := by
    intro r
    simp only [Rule.reread, cutAgain]
  have servers : (config.servers.map Server.reread).map Server.reread =
      config.servers.map Server.reread := by
    rw [List.map_map, List.map_inj_left]
    exact fun s _ => server s
  have rules : (config.rules.map Rule.reread).map Rule.reread =
      config.rules.map Rule.reread := by
    rw [List.map_map, List.map_inj_left]
    exact fun r _ => rule r
  unfold Config.reread
  rw [servers, rules]

end Document

/-- A saved file is loaded as what can be read back of the saved configuration, and from
then on saving what was loaded succeeds and is loaded as the same. -/
theorem saveConfig_again (platform : Platform) (outcome : SaveOutcome)
    (file : Option ConfigFile) (config : Config) (saved : ConfigFile)
    (ran : saveConfig platform outcome file config = .ok saved) :
    loadConfig platform saved = .ok config.reread ∧
      ∃ again, saveConfig platform {} (some saved) config.reread = .ok again ∧
        loadConfig platform again = .ok config.reread := by
  obtain ⟨data, loaded, serialized, same, loads⟩ := saveConfig_loads ran
  subst same
  have loadContents : ∀ {value : Bytes}, value.length ≤ textLimit →
      loadConfig platform (.contents value) = parseConfig platform value := by
    intro value short
    have read : readConfigText (.contents value) = .ok value :=
      bind_eq_ok.mpr ⟨(), rejectIf_of_not (Nat.not_lt.mpr short), rfl⟩
    unfold loadConfig
    rw [read, ok_bind]
  obtain ⟨_, documentRan, short⟩ := serializeConfig_eq_ok.mp serialized
  rw [loadContents short, parseConfig_written platform documentRan short] at loads
  obtain ⟨_, valid, read⟩ := bind_eq_ok.mp loads
  cases read
  have first : loadConfig platform (.contents data) = .ok config.reread := by
    rw [loadContents short, parseConfig_written platform documentRan short, valid, ok_bind]
  obtain ⟨again, againRan, shorter⟩ := configDocument_shrink documentRan
  have fits := Nat.le_trans shorter short
  have second : loadConfig platform (.contents again) = .ok config.reread := by
    rw [loadContents fits, parseConfig_written platform againRan fits, reread_reread, valid,
      ok_bind]
  have serializedAgain : serializeConfig platform config.reread = .ok again :=
    serializeConfig_eq_ok.mpr ⟨valid, againRan, fits⟩
  refine ⟨first, .contents again, ?_, second⟩
  have existing : loadExisting platform (some (.contents data)) = .ok (some config.reread) :=
    bind_eq_ok.mpr ⟨config.reread, first, rfl⟩
  exact bind_eq_ok.mpr ⟨again, congrArg raised serializedAgain,
    bind_eq_ok.mpr ⟨_, congrArg raised existing, bind_eq_ok.mpr ⟨(), rfl,
      bind_eq_ok.mpr ⟨(), rfl, bind_eq_ok.mpr ⟨_, congrArg raised second,
        bind_eq_ok.mpr ⟨(), rfl, rfl⟩⟩⟩⟩⟩⟩

theorem saveConfig_again_listed :
    ∃ saved, saveConfig ipv4Platform {} none listedConfig = .ok saved ∧
      loadConfig ipv4Platform saved = .ok listedConfig.reread := by
  have returns : (saveConfig ipv4Platform {} none listedConfig).isOk = true := by
    decide +kernel
  cases ran : saveConfig ipv4Platform {} none listedConfig with
  | error thrown =>
      rw [ran] at returns
      cases returns
  | ok saved =>
      exact ⟨saved, rfl, (saveConfig_again ipv4Platform {} none listedConfig saved ran).1⟩

end NativeDNS

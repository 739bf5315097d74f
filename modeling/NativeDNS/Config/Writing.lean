/-
The text that is written for a configuration, as a document of the grammar.

A value is escaped character by character, a list of fields becomes the attributes of
a tag, and the elements of a configuration are written on lines of their own.  The
tree the document is derived with is named here; it is what the parser returns.
-/
import NativeDNS.Config.XmlAccepted
import NativeDNS.Config.Document

namespace NativeDNS

open ByteText (text byte decimal)
open CheckedResult

namespace Document

open XmlText
open XmlParser (isSpace isNameCharacter)

/-! ### Values -/

/-- A character that is written in an attribute: no control character other than
tab, line feed and carriage return. -/
def Printable (c : UInt8) : Prop :=
  ¬ (c < 32 ∧ c ≠ byte '\n' ∧ c ≠ byte '\r' ∧ c ≠ byte '\t')

instance : DecidablePred Printable := fun c =>
  inferInstanceAs (Decidable (¬ (c < 32 ∧ c ≠ byte '\n' ∧ c ≠ byte '\r' ∧ c ≠ byte '\t')))

structure Escapable (value : Bytes) : Prop where
  short : value.length ≤ textLimit
  wellFormed : WellFormedUtf8 value
  printable : ∀ c ∈ value, Printable c

theorem escapeCharacter_written {c : UInt8} {written : Bytes}
    (ran : escapeCharacter c = .ok written) {more value : Bytes}
    (others : BodyText (byte '"') more value) :
    BodyText (byte '"') (written ++ more) (c :: value) := by
  have entity : ∀ {called decoded : Bytes}, byte ';' ∉ called →
      decodeEntity called = .ok decoded →
        BodyText (byte '"') (byte '&' :: called ++ byte ';' :: more) (decoded ++ value) :=
    fun whole stands => .entity whole stands others
  unfold escapeCharacter at ran
  split at ran
  · rename_i same
    cases ran
    subst same
    exact @entity (text "amp") (text "&") (by decide) rfl
  · split at ran
    · rename_i same
      cases ran
      subst same
      exact @entity (text "lt") (text "<") (by decide) rfl
    · split at ran
      · rename_i same
        cases ran
        subst same
        exact @entity (text "gt") (text ">") (by decide) rfl
      · split at ran
        · rename_i same
          cases ran
          subst same
          exact @entity (text "quot") [byte '"'] (by decide) rfl
        · split at ran
          · rename_i same
            cases ran
            subst same
            exact @entity (text "#10") (text "\n") (by decide) rfl
          · split at ran
            · rename_i same
              cases ran
              subst same
              exact @entity (text "#13") (text "\r") (by decide) rfl
            · split at ran
              · rename_i same
                cases ran
                subst same
                exact @entity (text "#9") (text "\t") (by decide) rfl
              · rename_i ampersand _ _ quote _ _ _
                obtain ⟨_, shown, ran⟩ := bind_eq_ok.mp ran
                cases ran
                have large : ¬ c < 32 := rejectIf_eq_ok.mp shown
                exact .character quote ampersand (fun control => large control.1) others

theorem escapeCharacter_ok_iff {c : UInt8} :
    (∃ written, escapeCharacter c = .ok written) ↔ Printable c := by
  unfold escapeCharacter Printable
  by_cases control : c < 32
  · split
    · rename_i same
      subst same
      exact absurd control (by decide)
    · split
      · rename_i same
        subst same
        exact absurd control (by decide)
      · split
        · rename_i same
          subst same
          exact absurd control (by decide)
        · split
          · rename_i same
            subst same
            exact absurd control (by decide)
          · split
            · rename_i same
              exact ⟨fun _ other => other.2.1 same, fun _ => ⟨_, rfl⟩⟩
            · split
              · rename_i same
                exact ⟨fun _ other => other.2.2.1 same, fun _ => ⟨_, rfl⟩⟩
              · split
                · rename_i same
                  exact ⟨fun _ other => other.2.2.2 same, fun _ => ⟨_, rfl⟩⟩
                · rename_i feed carriage tab
                  constructor
                  · rintro ⟨written, ran⟩
                    rw [rejectIf_of control] at ran
                    cases ran
                  · intro printable
                    exact absurd ⟨control, feed, carriage, tab⟩ printable
  · refine ⟨fun _ other => control other.1, fun _ => ?_⟩
    rw [rejectIf_of_not control]
    repeat' split
    all_goals exact ⟨_, rfl⟩

theorem writeAll_cons_eq_ok {α : Type} {write : α → Checked Bytes} {item : α}
    {rest : List α} {written : Bytes} :
    writeAll write (item :: rest) = .ok written ↔
      ∃ first others, write item = .ok first ∧ writeAll write rest = .ok others ∧
        written = first ++ others := by
  constructor
  · intro ran
    obtain ⟨first, here, ran⟩ := bind_eq_ok.mp ran
    obtain ⟨others, later, ran⟩ := bind_eq_ok.mp ran
    cases ran
    exact ⟨first, others, here, later, rfl⟩
  · rintro ⟨first, others, here, later, same⟩
    rw [writeAll, here, ok_bind, later, ok_bind, same, pure_eq_ok]

theorem writeAll_ok_iff {α : Type} {write : α → Checked Bytes} {items : List α} :
    (∃ written, writeAll write items = .ok written) ↔
      ∀ item ∈ items, ∃ written, write item = .ok written := by
  induction items with
  | nil =>
      exact ⟨fun _ _ member => absurd member List.not_mem_nil, fun _ => ⟨[], rfl⟩⟩
  | cons item rest ih =>
      rw [List.forall_mem_cons, ← ih]
      constructor
      · rintro ⟨written, ran⟩
        obtain ⟨first, others, here, later, _⟩ := writeAll_cons_eq_ok.mp ran
        exact ⟨⟨first, here⟩, others, later⟩
      · rintro ⟨⟨first, here⟩, others, later⟩
        exact ⟨first ++ others, writeAll_cons_eq_ok.mpr ⟨first, others, here, later, rfl⟩⟩

theorem escape_written {value written : Bytes} (ran : escape value = .ok written) :
    BodyText (byte '"') written value := by
  obtain ⟨_, _, ran⟩ := bind_eq_ok.mp ran
  clear * - ran
  induction value generalizing written with
  | nil =>
      cases ran
      exact .nil
  | cons c value ih =>
      obtain ⟨first, others, here, later, same⟩ := writeAll_cons_eq_ok.mp ran
      rw [same]
      exact escapeCharacter_written here (ih later)

theorem escape_ok_iff {value : Bytes} :
    (∃ written, escape value = .ok written) ↔ Escapable value := by
  unfold escape widenPoints
  constructor
  · rintro ⟨written, ran⟩
    obtain ⟨points, widened, ran⟩ := bind_eq_ok.mp ran
    obtain ⟨_, short, decoded⟩ := bind_eq_ok.mp widened
    have printable := writeAll_ok_iff.mp ⟨written, ran⟩
    exact
      { short := Nat.not_lt.mp (rejectIf_eq_ok.mp short)
        wellFormed := ⟨points, decoded⟩
        printable := fun c member => escapeCharacter_ok_iff.mp (printable c member) }
  · intro escapable
    obtain ⟨points, decoded⟩ := escapable.wellFormed
    obtain ⟨written, ran⟩ := writeAll_ok_iff.mpr fun c member =>
      escapeCharacter_ok_iff.mpr (escapable.printable c member)
    refine ⟨written, ?_⟩
    rw [rejectIf_of_not (Nat.not_lt.mpr escapable.short), ok_bind, decoded, ok_bind, ran]

/-! ### Fields -/

theorem field_eq_ok {name value written : Bytes} :
    field name value = .ok written ↔ ∃ escaped, escape value = .ok escaped ∧
      written = text " " ++ name ++ text "=\"" ++ escaped ++ text "\"" := by
  simp only [field, bind_eq_ok, pure_eq_ok, Except.ok.injEq, @eq_comm _ written]

theorem field_written {key value written fields : Bytes} {entries : List (Bytes × Bytes)}
    (called : IsName key) (ran : field key value = .ok written)
    (others : FieldsText fields entries) :
    FieldsText (written ++ fields) ((key, value) :: entries) := by
  obtain ⟨escaped, ran, same⟩ := field_eq_ok.mp ran
  have gap : Blank (text " ") := by
    intro c member
    cases member with
    | head =>
        rfl
    | tail _ later =>
        cases later
  have noGap : Blank [] := fun _ member => absurd member List.not_mem_nil
  have quoted : ValueText (byte '"' :: escaped ++ [byte '"']) value :=
    .quoted (.inl rfl) (escape_written ran)
  have stated := FieldsText.field gap called noGap noGap quoted others
  have split : text "=\"" = [byte '=', byte '"'] := rfl
  have closing : text "\"" = [byte '"'] := rfl
  rw [same, split, closing]
  simpa only [List.append_assoc, List.cons_append, List.nil_append, List.append_nil]
    using stated

structure FieldNames (entries : List (Bytes × Bytes)) : Prop where
  called : ∀ entry ∈ entries, IsName entry.1
  distinct : (entries.map Prod.fst).Nodup

theorem fields_written {entries : List (Bytes × Bytes)} {written : Bytes}
    (called : ∀ entry ∈ entries, IsName entry.1) (ran : fields entries = .ok written) :
    FieldsText written entries ∧ 5 * entries.length ≤ written.length := by
  induction entries generalizing written with
  | nil =>
      cases ran
      exact ⟨.nil, Nat.zero_le _⟩
  | cons entry rest ih =>
      obtain ⟨first, others, here, later, same⟩ := writeAll_cons_eq_ok.mp ran
      obtain ⟨inside, long⟩ :=
        ih (fun other member => called other (List.mem_cons_of_mem entry member)) later
      have stated := field_written (called entry List.mem_cons_self) here inside
      obtain ⟨escaped, _, parts⟩ := field_eq_ok.mp here
      have lengths : (text " ").length = 1 ∧ (text "=\"").length = 2 ∧
          (text "\"").length = 1 :=
        ⟨rfl, rfl, rfl⟩
      have name := List.length_pos_iff.mpr (called entry List.mem_cons_self).1
      rw [same]
      refine ⟨stated, ?_⟩
      rw [parts]
      simp only [List.length_append, List.length_cons]
      omega

theorem fields_ok_iff {entries : List (Bytes × Bytes)} :
    (∃ written, fields entries = .ok written) ↔ ∀ entry ∈ entries, Escapable entry.2 := by
  unfold fields
  rw [writeAll_ok_iff]
  refine forall₂_congr fun entry _ => ?_
  rw [← escape_ok_iff]
  constructor
  · rintro ⟨written, ran⟩
    obtain ⟨escaped, ran, _⟩ := field_eq_ok.mp ran
    exact ⟨escaped, ran⟩
  · rintro ⟨escaped, ran⟩
    exact ⟨_, field_eq_ok.mpr ⟨escaped, ran, rfl⟩⟩

/-! ### Elements -/

instance : DecidablePred IsName := fun called =>
  @instDecidableAnd (called ≠ []) _ _ (List.decidableBAll (isNameCharacter · = true) called)

def elementNode (called : Bytes) (entries : List (Bytes × Bytes)) (children : List Node) :
    Node :=
  { name := called
    attrs := OrderedMap.ofList entries
    children := children }

theorem FieldNames.of_keys {entries : List (Bytes × Bytes)} {keys : List Bytes}
    (listed : entries.map Prod.fst = keys) (called : ∀ key ∈ keys, IsName key)
    (distinct : keys.Nodup) : FieldNames entries := by
  refine { called := ?_, distinct := listed ▸ distinct }
  intro entry member
  exact called entry.1 (listed ▸ List.mem_map_of_mem member)

theorem tag_written {called written : Bytes} {entries : List (Bytes × Bytes)}
    (isName : IsName called) (names : FieldNames entries) (ran : fields entries = .ok written) :
    TagText (called ++ written) called (OrderedMap.ofList entries) := by
  have inside := (fields_written names.called ran).1
  have ends : EndsName (written ++ []) := by
    rw [List.append_nil]
    cases entries with
    | nil =>
        cases ran
        intro c first
        cases first
    | cons entry rest =>
        obtain ⟨first, others, here, _, same⟩ := writeAll_cons_eq_ok.mp ran
        obtain ⟨escaped, _, parts⟩ := field_eq_ok.mp here
        intro c isFirst
        rw [same, parts] at isFirst
        cases isFirst
        rfl
  exact
    { name := isName
      written := ⟨written, [], entries, (List.append_nil _).symm,
        fun _ member => absurd member List.not_mem_nil, ends, inside, names.distinct,
        OrderedMap.ofList_perm names.distinct⟩ }

/-- The text of elements on lines of their own, in front of any other content, with
room for them in the limit on nodes. -/
structure LinesText (lines : Bytes) (nodes : List Node) : Prop where
  ahead : ∀ {content children}, ContentText true content children →
    ContentText true (lines ++ content) (nodes ++ children)
  long : 21 * sizes nodes ≤ lines.length

theorem sizes_append (first second : List Node) :
    sizes (first ++ second) = sizes first + sizes second := by
  induction first with
  | nil =>
      exact (Nat.zero_add _).symm
  | cons node rest ih =>
      simp only [List.cons_append, sizes, ih, Nat.add_assoc]

theorem LinesText.append {first second : Bytes} {nodes others : List Node}
    (front : LinesText first nodes) (back : LinesText second others) :
    LinesText (first ++ second) (nodes ++ others) := by
  constructor
  · intro content children inside
    rw [List.append_assoc, List.append_assoc]
    exact front.ahead (back.ahead inside)
  · have frontLong := front.long
    have backLong := back.long
    rw [sizes_append, List.length_append]
    omega

theorem LinesText.element {before element behind : Bytes} {node : Node}
    (blank : Blank before) (blankBehind : Blank behind)
    (inside : ElementText true element node)
    (long : 21 * node.size ≤ (before ++ element ++ behind).length) :
    LinesText (before ++ element ++ behind) [node] := by
  constructor
  · intro content children others
    have moved := ContentText.child blank inside (others.behind blankBehind)
    rw [List.singleton_append]
    simpa only [List.append_assoc] using moved
  · exact long

theorem writeAll_lines {α : Type} {write : α → Checked Bytes} {build : α → Node}
    (line : ∀ item written, write item = .ok written → LinesText written [build item])
    {items : List α} {written : Bytes} (ran : writeAll write items = .ok written) :
    LinesText written (items.map build) := by
  induction items generalizing written with
  | nil =>
      cases ran
      exact { ahead := fun inside => inside, long := Nat.le_refl 0 }
  | cons item rest ih =>
      obtain ⟨first, others, here, later, same⟩ := writeAll_cons_eq_ok.mp ran
      rw [same]
      exact (line item first here).append (ih later)

theorem blank_of_all {gap : Bytes} (all : gap.all isSpace = true) : Blank gap :=
  fun c member => List.all_eq_true.mp all c member

theorem closed_line {indent called written : Bytes} {entries : List (Bytes × Bytes)}
    (blank : Blank indent) (isName : IsName called) (names : FieldNames entries)
    (ran : fields entries = .ok written)
    (wide : 17 ≤ indent.length + called.length + 5 * entries.length) :
    LinesText (indent ++ ([byte '<'] ++ (called ++ written) ++ text "/>") ++ text "\n")
      [elementNode called entries []] := by
  refine LinesText.element blank (blank_of_all rfl)
    (.selfClosing rfl (tag_written isName names ran)) ?_
  have long := (fields_written names.called ran).2
  have lengths : (text "/>").length = 2 ∧ (text "\n").length = 1 := ⟨rfl, rfl⟩
  have one : (elementNode called entries []).size = 1 := rfl
  rw [one]
  simp only [List.length_append, List.length_singleton]
  omega

theorem wrapped_line {called written kept : Bytes} {entries : List (Bytes × Bytes)}
    {nodes : List Node} (isName : IsName called) (names : FieldNames entries)
    (ran : fields entries = .ok written) (lines : LinesText kept nodes)
    (wide : 10 ≤ 2 * called.length + 5 * entries.length) :
    LinesText
      (text "  " ++ ([byte '<'] ++ (called ++ written) ++ [byte '>'] ++
        (text "\n" ++ (kept ++ text "  ")) ++ text "</" ++ called ++ [] ++ [byte '>']) ++
          text "\n")
      [elementNode called entries nodes] := by
  have noGap : Blank [] := fun _ member => absurd member List.not_mem_nil
  have content : ContentText true (text "\n" ++ (kept ++ text "  ")) nodes := by
    have indent : Blank (text "  ") := blank_of_all rfl
    have inside := lines.ahead (ContentText.blank indent)
    rw [List.append_nil] at inside
    exact inside.behind (blank_of_all rfl)
  refine LinesText.element (blank_of_all rfl) (blank_of_all rfl)
    (.closed (tag_written isName names ran) content noGap) ?_
  have long := (fields_written names.called ran).2
  have inner := lines.long
  have lengths : (text "  ").length = 2 ∧ (text "\n").length = 1 ∧
      (text "</").length = 2 :=
    ⟨rfl, rfl, rfl⟩
  have more : (elementNode called entries nodes).size = sizes nodes + 1 := rfl
  rw [more]
  simp only [List.length_append, List.length_singleton, List.length_nil]
  omega

/-! ### The elements of a configuration -/

def metaFields (entry : Bytes × Bytes) : List (Bytes × Bytes) :=
  [(text "key", entry.1), (text "value", entry.2)]

def metaNode (entry : Bytes × Bytes) : Node :=
  elementNode (text "Meta") (metaFields entry) []

def metaNodes (values : Metadata) : List Node :=
  values.entries.map metaNode

def settingsNode (config : Config) : Node :=
  elementNode (text "Settings") [] (metaNodes config.settings)

def loggingNode (logging : LoggingSettings) : Node :=
  elementNode (text "Logging") (loggingFields logging) []

def serverNode (s : Server) : Node :=
  elementNode (text "Server") (serverFields s) (metaNodes s.metadata)

def ruleNode (r : Rule) : Node :=
  elementNode (text "Rule") (ruleFields r) (metaNodes r.metadata)

def documentFields (config : Config) : List (Bytes × Bytes) :=
  (text "schemaVersion", text "1") :: rootFields config

def configNode (config : Config) : Node :=
  elementNode (text "NativeDNS") (documentFields config)
    (settingsNode config :: loggingNode config.logging ::
      (config.servers.map serverNode ++ config.rules.map ruleNode))

def metaKeys : List Bytes :=
  [text "key", text "value"]

theorem metaFields_names (entry : Bytes × Bytes) : FieldNames (metaFields entry) :=
  @FieldNames.of_keys _ metaKeys rfl (by decide) (by decide)

theorem loggingFields_names (logging : LoggingSettings) : FieldNames (loggingFields logging) :=
  @FieldNames.of_keys _ loggingKeys rfl (by decide) (by decide)

theorem serverFields_names (s : Server) : FieldNames (serverFields s) :=
  @FieldNames.of_keys _ serverKeys rfl (by decide) (by decide)

theorem ruleFields_names (r : Rule) : FieldNames (ruleFields r) :=
  @FieldNames.of_keys _ ruleKeys rfl (by decide) (by decide)

theorem documentFields_names (config : Config) : FieldNames (documentFields config) :=
  @FieldNames.of_keys _ rootKeys rfl (by decide) (by decide)

theorem metadata_lines {values : Metadata} {written : Bytes}
    (ran : metadata values = .ok written) : LinesText written (metaNodes values) := by
  refine writeAll_lines ?_ ran
  intro entry line ran
  obtain ⟨inside, fieldsRan, same⟩ := bind_eq_ok.mp ran
  cases same
  have indented : text "    <Meta" ++ inside ++ text "/>\n" =
      text "    " ++ ([byte '<'] ++ (text "Meta" ++ inside) ++ text "/>") ++ text "\n" := by
    have opening : text "    <Meta" = text "    " ++ ([byte '<'] ++ text "Meta") := rfl
    have closing : text "/>\n" = text "/>" ++ text "\n" := rfl
    rw [opening, closing]
    simp only [List.append_assoc]
  rw [indented]
  exact closed_line (blank_of_all rfl) (by decide) (metaFields_names entry) fieldsRan
    (show 17 ≤ 18 by decide)

theorem logging_line {logging : LoggingSettings} {written : Bytes}
    (ran : fields (loggingFields logging) = .ok written) :
    LinesText (text "  <Logging" ++ written ++ text "/>\n") [loggingNode logging] := by
  have indented : text "  <Logging" ++ written ++ text "/>\n" =
      text "  " ++ ([byte '<'] ++ (text "Logging" ++ written) ++ text "/>") ++ text "\n" := by
    have opening : text "  <Logging" = text "  " ++ ([byte '<'] ++ text "Logging") := rfl
    have closing : text "/>\n" = text "/>" ++ text "\n" := rfl
    rw [opening, closing]
    simp only [List.append_assoc]
  rw [indented]
  exact closed_line (blank_of_all rfl) (by decide) (loggingFields_names logging) ran
    (show 17 ≤ 29 by decide)

theorem element_lines {called written kept opening closing : Bytes}
    {entries : List (Bytes × Bytes)} {nodes : List Node}
    (opens : opening = text "  " ++ ([byte '<'] ++ called))
    (closes : closing = text "  " ++ (text "</" ++ (called ++ text ">\n")))
    (isName : IsName called) (names : FieldNames entries)
    (ran : fields entries = .ok written) (lines : LinesText kept nodes)
    (wide : 10 ≤ 2 * called.length + 5 * entries.length) :
    LinesText (opening ++ written ++ text ">\n" ++ kept ++ closing)
      [elementNode called entries nodes] := by
  have line := wrapped_line isName names ran lines wide
  have ends : text ">\n" = [byte '>'] ++ text "\n" := rfl
  rw [opens, closes, ends]
  simpa only [List.append_assoc, List.nil_append] using line

theorem server_lines {s : Server} {written : Bytes} (ran : serverElement s = .ok written) :
    LinesText written [serverNode s] := by
  obtain ⟨inside, fieldsRan, ran⟩ := bind_eq_ok.mp ran
  obtain ⟨kept, metadataRan, same⟩ := bind_eq_ok.mp ran
  cases same
  exact element_lines rfl rfl (by decide) (serverFields_names s) fieldsRan
    (metadata_lines metadataRan) (show 10 ≤ 97 by decide)

theorem rule_lines {r : Rule} {written : Bytes} (ran : ruleElement r = .ok written) :
    LinesText written [ruleNode r] := by
  obtain ⟨inside, fieldsRan, ran⟩ := bind_eq_ok.mp ran
  obtain ⟨kept, metadataRan, same⟩ := bind_eq_ok.mp ran
  cases same
  exact element_lines rfl rfl (by decide) (ruleFields_names r) fieldsRan
    (metadata_lines metadataRan) (show 10 ≤ 63 by decide)

theorem settings_lines {config : Config} {kept : Bytes}
    (ran : metadata config.settings = .ok kept) :
    LinesText (text "  <Settings>\n" ++ kept ++ text "  </Settings>\n")
      [settingsNode config] := by
  have names : FieldNames [] :=
    { called := fun _ member => absurd member List.not_mem_nil
      distinct := List.nodup_nil }
  have line : LinesText
      (text "  <Settings" ++ [] ++ text ">\n" ++ kept ++ text "  </Settings>\n")
      [settingsNode config] :=
    element_lines rfl rfl (by decide) names rfl (metadata_lines ran)
      (show 10 ≤ 16 by decide)
  have opening : text "  <Settings>\n" = text "  <Settings" ++ [] ++ text ">\n" := rfl
  rw [opening]
  exact line

/-! ### The document -/

theorem sectionText_of_free {c : UInt8} {rest inside : Bytes} (free : c ∉ inside)
    (once : c ∉ rest) : SectionText (c :: rest) inside := by
  intro front back same
  have counts := congrArg (List.count c) same
  simp only [List.count_append, List.count_cons_self, List.count_eq_zero_of_not_mem free,
    List.count_eq_zero_of_not_mem once] at counts
  have frontFree : c ∉ front := List.count_eq_zero.mp (by omega)
  rw [List.append_assoc, List.cons_append] at same
  have ends := (ByteText.append_separator_inj free frontFree same).2
  have lengths := congrArg List.length ends
  rw [List.length_append] at lengths
  exact List.length_eq_zero_iff.mp (by omega)

theorem documentFields_written {config : Config} {written : Bytes}
    (ran : fields (rootFields config) = .ok written) :
    fields (documentFields config) = .ok (text " schemaVersion=\"1\"" ++ written) := by
  have first : field (text "schemaVersion") (text "1") = .ok (text " schemaVersion=\"1\"") := by
    decide +kernel
  exact writeAll_cons_eq_ok.mpr ⟨_, _, first, ran, rfl⟩

theorem heights_le {limit : Nat} {nodes : List Node} (low : ∀ node ∈ nodes, node.height ≤ limit) :
    heights nodes ≤ limit := by
  induction nodes with
  | nil =>
      exact Nat.zero_le _
  | cons node rest ih =>
      exact Nat.max_le.mpr ⟨low node List.mem_cons_self,
        ih fun other member => low other (List.mem_cons_of_mem node member)⟩

theorem metaNodes_height (values : Metadata) : heights (metaNodes values) ≤ 1 := by
  refine heights_le ?_
  intro node member
  obtain ⟨entry, _, same⟩ := List.mem_map.mp member
  rw [← same]
  exact Nat.le_refl 1

theorem configNode_height (config : Config) : (configNode config).height ≤ 17 := by
  have low : ∀ (called : Bytes) (entries : List (Bytes × Bytes)) (values : Metadata),
      (elementNode called entries (metaNodes values)).height ≤ 2 :=
    fun _ _ values => Nat.succ_le_succ (metaNodes_height values)
  have children : heights (settingsNode config :: loggingNode config.logging ::
      (config.servers.map serverNode ++ config.rules.map ruleNode)) ≤ 2 := by
    refine heights_le ?_
    intro node member
    simp only [List.mem_cons, List.mem_append, List.mem_map] at member
    rcases member with same | same | ⟨s, _, same⟩ | ⟨r, _, same⟩
    · rw [same]
      exact low _ _ _
    · rw [same]
      exact (by decide : 1 ≤ 2)
    · rw [← same]
      exact low _ _ _
    · rw [← same]
      exact low _ _ _
  have whole : (configNode config).height ≤ 3 := Nat.succ_le_succ children
  omega

/-- A written configuration is a document of the grammar, small enough to be parsed
when it is short enough. -/
theorem configDocument_written {config : Config} {document : Bytes}
    (ran : configDocument config = .ok document) :
    DocumentText document (configNode config) ∧
      21 * (configNode config).size ≤ document.length := by
  obtain ⟨root, rootRan, ran⟩ := bind_eq_ok.mp ran
  obtain ⟨settings, settingsRan, ran⟩ := bind_eq_ok.mp ran
  obtain ⟨logging, loggingRan, ran⟩ := bind_eq_ok.mp ran
  obtain ⟨servers, serversRan, ran⟩ := bind_eq_ok.mp ran
  obtain ⟨rules, rulesRan, ran⟩ := bind_eq_ok.mp ran
  cases ran
  have fieldsRan := documentFields_written rootRan
  have serverLines : LinesText servers (config.servers.map serverNode) :=
    writeAll_lines (fun _ _ => server_lines) serversRan
  have ruleLines : LinesText rules (config.rules.map ruleNode) :=
    writeAll_lines (fun _ _ => rule_lines) rulesRan
  have lines := (settings_lines settingsRan).append
    ((logging_line loggingRan).append (serverLines.append ruleLines))
  have noGap : Blank [] := fun _ member => absurd member List.not_mem_nil
  have newline : Blank (text "\n") := blank_of_all rfl
  have content := (lines.ahead (ContentText.blank noGap)).behind newline
  rw [List.append_nil, List.append_nil] at content
  have called : IsName (text "NativeDNS") := by
    decide
  have root_ : ElementText true _ (configNode config) :=
    .closed (tag_written called (documentFields_names config) fieldsRan) content noGap
  have instruction : SectionText (text "?>") (text "xml version=\"1.0\" encoding=\"UTF-8\"") :=
    sectionText_of_free (by decide) (by decide)
  have front := MiscText.section_ noGap .instruction instruction (.blank newline)
  have opening : text "<?xml version=\"1.0\" encoding=\"UTF-8\"?>\n<NativeDNS schemaVersion=\"1\"" =
      text "<?" ++ text "xml version=\"1.0\" encoding=\"UTF-8\"" ++ text "?>" ++ text "\n" ++
        ([byte '<'] ++ text "NativeDNS" ++ text " schemaVersion=\"1\"") :=
    rfl
  have ends : text ">\n" = [byte '>'] ++ text "\n" := rfl
  have closing : text "</NativeDNS>\n" =
      text "</" ++ text "NativeDNS" ++ [byte '>'] ++ text "\n" :=
    rfl
  constructor
  · refine ⟨[], _, _, text "\n", ?_, .inl rfl, front, root_, .blank newline⟩
    rw [opening, ends, closing]
    simp only [List.append_assoc, List.nil_append]
  · have inner := lines.long
    have header : 21 ≤ (text
        "<?xml version=\"1.0\" encoding=\"UTF-8\"?>\n<NativeDNS schemaVersion=\"1\"").length := by
      decide
    have more : (configNode config).size = sizes (settingsNode config ::
        loggingNode config.logging ::
          (config.servers.map serverNode ++ config.rules.map ruleNode)) + 1 :=
      rfl
    rw [more]
    simp only [List.length_append, List.singleton_append] at inner ⊢
    omega

end Document

end NativeDNS

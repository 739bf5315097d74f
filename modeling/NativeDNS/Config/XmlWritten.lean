/-
What an accepted document looks like.

The scanners are first described by the bytes they leave, as tail recursions that
name no suffix.  From these descriptions a scan that returns is taken apart: its
input begins with the text of what it returns.
-/
import NativeDNS.Config.Xml

namespace NativeDNS

open ByteText (text byte)
open CheckedResult
open Scanner

namespace XmlParser

/-! ### The scanners by what they leave -/

def past {input : Bytes} (skip : Checked { rest : Bytes // rest <:+ input }) :
    Checked (Unit × Bytes) :=
  skip.map fun left => ((), left.val)

theorem past_bind {input outer : Bytes}
    {skip : Checked { rest : Bytes // rest <:+ input }}
    {next : { rest : Bytes // rest <:+ input } →
      Checked { rest : Bytes // rest <:+ outer }}
    {left : Unit × Bytes → Checked (Unit × Bytes)}
    (same : ∀ here, past (next here) = left ((), here.val)) :
    past (skip >>= next) = (past skip >>= left) := by
  cases skip with
  | error error =>
      rfl
  | ok here =>
      exact same here

theorem past_moved {input outer : Bytes}
    {skip : Checked { rest : Bytes // rest <:+ input }}
    (inside : ∀ left : { rest : Bytes // rest <:+ input }, left.val <:+ outer) :
    past (skip >>= fun left => pure ⟨left.val, inside left⟩) = past skip := by
  cases skip with
  | error error =>
      rfl
  | ok here =>
      rfl

theorem past_left {input rest : Bytes} {done : Unit}
    {skip : Checked { rest : Bytes // rest <:+ input }}
    (ran : past skip = .ok (done, rest)) : rest <:+ input := by
  cases skip with
  | error error =>
      cases ran
  | ok left =>
      cases ran
      exact left.property

theorem past_skipUntil_nil (token : Bytes) :
    past (skipUntil token []) =
      if starts token [] = true then .ok ((), [])
      else .error (.of "XML" "Unterminated XML section") := by
  unfold skipUntil
  split
  · rfl
  · rfl

theorem past_skipUntil_cons (token : Bytes) (c : UInt8) (rest : Bytes) :
    past (skipUntil token (c :: rest)) =
      if starts token (c :: rest) = true then
        .ok ((), (c :: rest).drop token.length)
      else past (skipUntil token rest) := by
  rw [skipUntil]
  split
  · rfl
  · exact past_moved _

theorem past_skipMisc (input : Bytes) :
    past (skipMisc input) =
      if starts (text "<?") (skipWs input) = true then
        past (skipUntil (text "?>") ((skipWs input).drop 2)) >>=
          fun left => past (skipMisc left.2)
      else if starts (text "<!--") (skipWs input) = true then
        past (skipUntil (text "-->") ((skipWs input).drop 4)) >>=
          fun left => past (skipMisc left.2)
      else
        rejectIf
          (starts (text "<!DOCTYPE") (skipWs input) = true ∨
            starts (text "<!ENTITY") (skipWs input) = true)
          (.of "XML" "DTD/entity declarations are prohibited") >>=
            fun _ => .ok ((), skipWs input) := by
  rw [skipMisc]
  split
  · exact past_bind fun _ => past_moved _
  · split
    · exact past_bind fun _ => past_moved _
    · by_cases prohibited : starts (text "<!DOCTYPE") (skipWs input) = true ∨
          starts (text "<!ENTITY") (skipWs input) = true
      · rw [rejectIf_of prohibited]
        rfl
      · rw [rejectIf_of_not prohibited]
        rfl

theorem seen_name (input : Bytes) :
    seen (name input) =
      (rejectIf (input.takeWhile isNameCharacter = [])
        (.of "XML" "Expected XML name") >>= fun _ =>
          .ok (input.takeWhile isNameCharacter,
            input.dropWhile isNameCharacter)) := by
  unfold name
  by_cases missing : input.takeWhile isNameCharacter = []
  · rw [dif_pos missing, rejectIf_of missing]
    rfl
  · rw [dif_neg missing, rejectIf_of_not missing]
    rfl

theorem seen_before_cons (separator : UInt8) (missing : Error) (c : UInt8)
    (rest : Bytes) :
    seen (before separator missing (c :: rest)) =
      if c = separator then .ok ([], rest)
      else seen (before separator missing rest) >>=
        fun found => .ok (c :: found.1, found.2) := by
  rw [before]
  split
  · rfl
  · exact seen_bind fun _ => rfl

theorem seen_quotedBody_cons (quote c : UInt8) (rest : Bytes) :
    seen (quotedBody quote (c :: rest)) =
      if c = quote then .ok ([], rest)
      else if c = byte '&' then
        seen (before (byte ';') (.of "XML" "Unterminated XML entity") rest) >>=
          fun entity => decodeEntity entity.1 >>= fun decoded =>
            seen (quotedBody quote entity.2) >>=
              fun others => .ok (decoded ++ others.1, others.2)
      else
        rejectIf (c < 0x20 ∧ c ≠ 9 ∧ c ≠ 13 ∧ c ≠ 10)
          (.of "XML" "Control character in XML") >>= fun _ =>
            seen (quotedBody quote rest) >>=
              fun others => .ok (c :: others.1, others.2) := by
  rw [quotedBody]
  split
  · rfl
  · split
    · refine seen_bind ?_
      intro entity
      cases decodeEntity entity.value with
      | error error =>
          rfl
      | ok decoded =>
          exact seen_bind fun _ => rfl
    · rw [seen_rejectIf]
      congr 1
      funext _
      exact seen_bind fun _ => rfl

theorem seen_quoted_cons (quote : UInt8) (rest : Bytes) :
    seen (quoted (quote :: rest)) =
      (rejectIf (quote ≠ byte '"' ∧ quote ≠ byte '\'')
        (.of "XML" "Expected quoted attribute") >>= fun _ =>
          seen (quotedBody quote rest)) := by
  rw [quoted, seen_rejectIf]
  congr 1
  funext _
  cases quotedBody quote rest with
  | error error =>
      rfl
  | ok body =>
      rfl

theorem seen_attributes (attrs : Metadata) (input : Bytes) :
    seen (attributes attrs input) =
      if starts (text "/>") (skipWs input) = true then
        .ok ((attrs, true), (skipWs input).drop 2)
      else if (skipWs input).head? = some (byte '>') then
        .ok ((attrs, false), (skipWs input).tail)
      else
        seen (name (skipWs input)) >>= fun key =>
          rejectIf ((skipWs key.2).head? ≠ some (byte '='))
            (.of "XML" "Expected '=' after attribute") >>= fun _ =>
              seen (quoted (skipWs (skipWs key.2).tail)) >>= fun value =>
                match attrs.emplace key.1 value.1 with
                | none => .error (.of "XML" "Duplicate attribute")
                | some attrs => seen (attributes attrs value.2) := by
  rw [attributes]
  split
  · rfl
  · split
    · rfl
    · refine seen_bind ?_
      intro key
      rw [seen_rejectIf]
      congr 1
      funext _
      refine seen_bind ?_
      intro value
      cases attrs.emplace key.value value.value with
      | none =>
          rfl
      | some attrs =>
          dsimp only
          cases attributes attrs value.rest with
          | error error =>
              rfl
          | ok tag =>
              rfl

theorem skipWs_head {input : Bytes} {c : UInt8}
    (first : (skipWs input).head? = some c) : isSpace c = false := by
  have stops := List.head?_dropWhile_not isSpace input
  rw [show (input.dropWhile isSpace).head? = some c from first] at stops
  exact stops

theorem skipText_error {input : Bytes} (noElement : input.head? ≠ some (byte '<'))
    (noBlank : ∀ c, input.head? = some c → isSpace c = false) :
    skipText input noElement =
      .error (.of "XML"
        (if input = [] then "Unterminated element"
        else "Unexpected text content")) := by
  cases input with
  | nil =>
      rfl
  | cons c rest =>
      have inText : (c != byte '<') = true := by
        simpa using noElement
      have stray : ((c :: rest).takeWhile (· != byte '<')).any
          (fun c => isSpace c = false) = true := by
        simp only [List.takeWhile_cons, inText, if_true, List.any_cons,
          noBlank c rfl, decide_true, Bool.true_or]
      unfold skipText
      rw [rejectIf_of stray, if_neg (List.cons_ne_nil c rest)]
      rfl

theorem seen_parseElement (depth nodes : Nat) (input : Bytes) :
    seen (parseElement depth nodes input) =
      (rejectIf (depth > 16) (.of "XML_LIMIT" "XML nesting is too deep") >>= fun _ =>
        rejectIf (nodes + 1 > 200000) (.of "XML_LIMIT" "Too many XML nodes") >>= fun _ =>
        rejectIf
          ((skipWs input).head? ≠ some (byte '<') ∨
            starts (text "</") (skipWs input) = true)
          (.of "XML" "Expected element") >>= fun _ =>
        rejectIf
          ((skipWs input).tail.head? = some (byte '!') ∨
            (skipWs input).tail.head? = some (byte '?'))
          (.of "XML" "Unexpected XML declaration") >>= fun _ =>
        seen (name (skipWs input).tail) >>= fun called =>
        seen (attributes OrderedMap.empty called.2) >>= fun tag =>
        if tag.1.2 = true then
          .ok (({ name := called.1, attrs := tag.1.1 }, nodes + 1), tag.2)
        else
          seen (parseChildren depth (nodes + 1) called.1 tag.2) >>= fun body =>
            .ok (({ name := called.1, attrs := tag.1.1, children := body.1.1 },
              body.1.2), body.2)) := by
  rw [parseElement, seen_rejectIf]
  congr 1
  funext _
  rw [seen_rejectIf]
  congr 1
  funext _
  rw [seen_rejectIf]
  congr 1
  funext _
  rw [seen_rejectIf]
  congr 1
  funext _
  refine seen_bind ?_
  intro called
  refine seen_bind ?_
  intro tag
  dsimp only
  split
  · rfl
  · exact seen_bind fun _ => rfl

theorem seen_parseChildren (depth nodes : Nat) (parent input : Bytes) :
    seen (parseChildren depth nodes parent input) =
      if starts (text "</") (skipWs input) = true then
        seen (name ((skipWs input).drop 2)) >>= fun close =>
          rejectIf ((skipWs close.2).head? ≠ some (byte '>'))
            (.of "XML" "Malformed closing tag") >>= fun _ =>
          rejectIf (close.1 ≠ parent) (.of "XML" "Mismatched closing tag") >>= fun _ =>
          .ok (([], nodes), (skipWs close.2).tail)
      else if starts (text "<!--") (skipWs input) = true then
        past (skipUntil (text "-->") ((skipWs input).drop 4)) >>= fun left =>
          seen (parseChildren depth nodes parent left.2)
      else if starts (text "<![CDATA[") (skipWs input) = true then
        .error (.of "XML" "CDATA is unsupported in NativeDNS configuration")
      else if (skipWs input).head? = some (byte '<') then
        seen (parseElement (depth + 1) nodes (skipWs input)) >>= fun child =>
          seen (parseChildren depth child.1.2 parent child.2) >>= fun others =>
            .ok ((child.1.1 :: others.1.1, others.1.2), others.2)
      else
        .error (.of "XML"
          (if skipWs input = [] then "Unterminated element"
          else "Unexpected text content")) := by
  rw [parseChildren]
  split
  · refine seen_bind ?_
    intro close
    rw [seen_rejectIf]
    congr 1
    funext _
    rw [seen_rejectIf]
    rfl
  · split
    · cases skipUntil (text "-->") ((skipWs input).drop 4) with
      | error error =>
          rfl
      | ok left =>
          cases ran : parseChildren depth nodes parent left.val with
          | error error =>
              simp only [ok_bind, past, Except.map, ran, error_bind, seen_error]
          | ok others =>
              simp only [ok_bind, past, Except.map, ran, pure_eq_ok, seen_ok,
                Scanned.within_value, Scanned.within_rest]
    · split
      · rfl
      · split
        · refine seen_bind ?_
          intro child
          exact seen_bind fun _ => rfl
        · rename_i noElement
          rw [skipText_error noElement fun _ => skipWs_head]
          rfl

def unmarked (input : Bytes) : Bytes :=
  if starts [0xEF, 0xBB, 0xBF] input = true then input.drop 3 else input

theorem parse_seen (input : Bytes) :
    parse input =
      (rejectIf (input.length > textLimit)
        (.of "CONFIG_IO" "Config exceeds 4 MiB") >>= fun _ =>
        past (skipMisc (unmarked input)) >>= fun front =>
        seen (parseElement 0 0 front.2) >>= fun root =>
        past (skipMisc root.2) >>= fun back =>
        rejectIf (skipWs back.2 ≠ []) (.of "XML" "Unexpected data after root element") >>=
          fun _ => .ok root.1.1) := by
  unfold parse unmarked
  congr 1
  funext _
  dsimp only
  generalize (if starts [0xEF, 0xBB, 0xBF] input = true then input.drop 3
    else input) = document
  cases skipMisc document with
  | error error =>
      rfl
  | ok front =>
      simp only [past, Except.map, ok_bind]
      cases parseElement 0 0 front.val with
      | error error =>
          rfl
      | ok root =>
          simp only [seen_ok, ok_bind]
          cases skipMisc root.rest with
          | error error =>
              rfl
          | ok back =>
              rfl

end XmlParser

/-! ### The grammar -/

mutual

def Node.height : Node → Nat
  | ⟨_, _, children⟩ => heights children + 1

def heights : List Node → Nat
  | [] => 0
  | node :: others => max node.height (heights others)

end

mutual

def Node.size : Node → Nat
  | ⟨_, _, children⟩ => sizes children + 1

def sizes : List Node → Nat
  | [] => 0
  | node :: others => node.size + sizes others

end

namespace XmlText

open XmlParser (isSpace isNameCharacter starts skipWs past)

def Blank (gap : Bytes) : Prop :=
  ∀ c ∈ gap, isSpace c = true

/-- A section ends where its closing token occurs first. -/
def SectionText (closing inside : Bytes) : Prop :=
  ∀ front back, inside ++ closing = front ++ closing ++ back → back = []

def IsName (called : Bytes) : Prop :=
  called ≠ [] ∧ ∀ c ∈ called, isNameCharacter c = true

def EndsName (behind : Bytes) : Prop :=
  ∀ c, behind.head? = some c → isNameCharacter c = false

inductive BodyText (quote : UInt8) : Bytes → Bytes → Prop where
  | nil : BodyText quote [] []
  | entity {entity more decoded value : Bytes} (whole : byte ';' ∉ entity)
      (stands : decodeEntity entity = .ok decoded)
      (others : BodyText quote more value) :
      BodyText quote (byte '&' :: entity ++ byte ';' :: more) (decoded ++ value)
  | character {c : UInt8} {more value : Bytes} (inside : c ≠ quote)
      (plain : c ≠ byte '&') (printable : ¬ (c < 0x20 ∧ c ≠ 9 ∧ c ≠ 13 ∧ c ≠ 10))
      (others : BodyText quote more value) :
      BodyText quote (c :: more) (c :: value)

inductive ValueText : Bytes → Bytes → Prop where
  | quoted {quote : UInt8} {body value : Bytes}
      (opens : quote = byte '"' ∨ quote = byte '\'')
      (inside : BodyText quote body value) :
      ValueText (quote :: body ++ [quote]) value

/-- The text of the attributes of a tag, with their names and values. -/
inductive FieldsText : Bytes → List (Bytes × Bytes) → Prop where
  | nil : FieldsText [] []
  | field {gap key before behind written value fields : Bytes}
      {entries : List (Bytes × Bytes)} (blank : Blank gap) (called : IsName key)
      (blankBefore : Blank before) (blankBehind : Blank behind)
      (quoted : ValueText written value) (others : FieldsText fields entries) :
      FieldsText (gap ++ key ++ before ++ [byte '='] ++ behind ++ written ++ fields)
        ((key, value) :: entries)

/-- The text of a tag from its name on, in front of `>` or `/>`: every attribute
is written once. -/
structure TagText (tag called : Bytes) (attrs : Metadata) : Prop where
  name : IsName called
  written : ∃ fields gap entries, tag = called ++ fields ++ gap ∧ Blank gap ∧
    EndsName (fields ++ gap) ∧ FieldsText fields entries ∧
    (entries.map Prod.fst).Nodup ∧ attrs.entries.Perm entries

mutual

/-- The text of an element.  `alone` tells whether a tag may close itself. -/
inductive ElementText (alone : Bool) : Bytes → Node → Prop where
  | selfClosing {tag called : Bytes} {attrs : Metadata} (admitted : alone = true)
      (opening : TagText tag called attrs) :
      ElementText alone ([byte '<'] ++ tag ++ text "/>")
        { name := called, attrs := attrs }
  | closed {tag called content behind : Bytes} {attrs : Metadata}
      {children : List Node} (opening : TagText tag called attrs)
      (inside : ContentText alone content children) (blank : Blank behind) :
      ElementText alone
        ([byte '<'] ++ tag ++ [byte '>'] ++ content ++ text "</" ++ called ++ behind ++
          [byte '>'])
        { name := called, attrs := attrs, children := children }

inductive ContentText (alone : Bool) : Bytes → List Node → Prop where
  | blank {gap : Bytes} (blank : Blank gap) : ContentText alone gap []
  | comment {gap content inside : Bytes} {children : List Node} (blank : Blank gap)
      (section_ : SectionText (text "-->") inside)
      (others : ContentText alone content children) :
      ContentText alone (gap ++ text "<!--" ++ inside ++ text "-->" ++ content) children
  | child {gap element content : Bytes} {node : Node} {children : List Node}
      (blank : Blank gap) (first : ElementText alone element node)
      (others : ContentText alone content children) :
      ContentText alone (gap ++ element ++ content) (node :: children)

end

/-! ### What the scanners have read -/

theorem skipWs_read (input : Bytes) :
    ∃ gap, Blank gap ∧ input = gap ++ skipWs input := by
  refine ⟨input.takeWhile isSpace, ?_, List.takeWhile_append_dropWhile.symm⟩
  intro c member
  exact List.mem_takeWhile_imp member

theorem starts_read {token input : Bytes} (opens : starts token input = true) :
    input = token ++ input.drop token.length := by
  obtain ⟨behind, rfl⟩ := List.isPrefixOf_iff_prefix.mp opens
  rw [List.drop_left]

theorem head_read {input : Bytes} {c : UInt8} (opens : input.head? = some c) :
    input = [c] ++ input.tail :=
  (List.cons_head?_tail opens).symm

theorem name_read {input called rest : Bytes}
    (ran : seen (XmlParser.name input) = .ok (called, rest)) :
    IsName called ∧ EndsName rest ∧ input = called ++ rest := by
  rw [XmlParser.seen_name] at ran
  obtain ⟨_, found, ran⟩ := bind_eq_ok.mp ran
  cases ran
  refine ⟨⟨rejectIf_eq_ok.mp found, ?_⟩, ?_, List.takeWhile_append_dropWhile.symm⟩
  · intro c member
    exact List.mem_takeWhile_imp member
  · intro c first
    have stops := List.head?_dropWhile_not isNameCharacter input
    rw [first] at stops
    exact stops

theorem skipUntil_read {token input rest : Bytes} {done : Unit}
    (ran : past (XmlParser.skipUntil token input) = .ok (done, rest)) :
    ∃ inside, SectionText token inside ∧ input = inside ++ token ++ rest := by
  have empty : SectionText token [] := by
    intro front back same
    have lengths := congrArg List.length same
    simp only [List.length_append, List.length_nil] at lengths
    exact List.length_eq_zero_iff.mp (by omega)
  induction input with
  | nil =>
      rw [XmlParser.past_skipUntil_nil] at ran
      split at ran
      · rename_i found
        cases ran
        refine ⟨[], empty, ?_⟩
        rw [List.nil_append, List.append_nil]
        exact (List.prefix_nil.mp (List.isPrefixOf_iff_prefix.mp found)).symm
      · cases ran
  | cons c behind ih =>
      rw [XmlParser.past_skipUntil_cons] at ran
      split at ran
      · rename_i found
        cases ran
        exact ⟨[], empty, starts_read found⟩
      · rename_i later
        obtain ⟨inside, first, same⟩ := ih ran
        refine ⟨c :: inside, ?_, congrArg (c :: ·) same⟩
        intro front back split
        cases front with
        | nil =>
            refine absurd (List.isPrefixOf_iff_prefix.mpr ⟨back ++ rest, ?_⟩) later
            rw [same, ← List.append_assoc]
            exact congrArg (· ++ rest) split.symm
        | cons d front =>
            exact first front back (List.cons.inj split).2

theorem before_read {separator : UInt8} {missing : Error} {input found rest : Bytes}
    (ran : seen (XmlParser.before separator missing input) = .ok (found, rest)) :
    separator ∉ found ∧ input = found ++ separator :: rest := by
  induction input generalizing found with
  | nil =>
      cases ran
  | cons c behind ih =>
      rw [XmlParser.seen_before_cons] at ran
      split at ran
      · rename_i same
        cases ran
        exact ⟨List.not_mem_nil, congrArg (· :: _) same⟩
      · rename_i other
        obtain ⟨⟨front, left⟩, scanned, same⟩ := bind_eq_ok.mp ran
        cases same
        obtain ⟨outside, parts⟩ := ih scanned
        refine ⟨?_, congrArg (c :: ·) parts⟩
        intro member
        rcases List.mem_cons.mp member with first | later
        · exact other first.symm
        · exact outside later

theorem quotedBody_read {quote : UInt8} :
    ∀ {input value rest : Bytes},
      seen (XmlParser.quotedBody quote input) = .ok (value, rest) →
        ∃ body, BodyText quote body value ∧ input = body ++ quote :: rest
  | [], _, _, ran => by
      rw [XmlParser.quotedBody] at ran
      cases ran
  | c :: behind, value, rest, ran => by
      rw [XmlParser.seen_quotedBody_cons] at ran
      split at ran
      · rename_i same
        cases ran
        exact ⟨[], .nil, congrArg (· :: _) same⟩
      · rename_i inside
        split at ran
        · rename_i ampersand
          obtain ⟨⟨entity, left⟩, scanned, ran⟩ := bind_eq_ok.mp ran
          obtain ⟨decoded, stands, ran⟩ := bind_eq_ok.mp ran
          obtain ⟨⟨others, further⟩, more, same⟩ := bind_eq_ok.mp ran
          cases same
          obtain ⟨whole, parts⟩ := before_read scanned
          have shorter : left.length < (c :: behind).length :=
            Nat.lt_succ_of_lt (seen_left scanned).2
          obtain ⟨body, read, split⟩ := quotedBody_read more
          have left_eq : left = body ++ quote :: further := split
          refine ⟨byte '&' :: entity ++ byte ';' :: body, .entity whole stands read, ?_⟩
          rw [ampersand, parts, left_eq]
          simp only [List.cons_append, List.append_assoc]
        · rename_i plain
          obtain ⟨_, shown, ran⟩ := bind_eq_ok.mp ran
          obtain ⟨⟨others, further⟩, more, same⟩ := bind_eq_ok.mp ran
          cases same
          obtain ⟨body, read, split⟩ := quotedBody_read more
          exact ⟨c :: body, .character inside plain (rejectIf_eq_ok.mp shown) read,
            congrArg (c :: ·) split⟩
  termination_by input => input.length

theorem quoted_read {input value rest : Bytes}
    (ran : seen (XmlParser.quoted input) = .ok (value, rest)) :
    ∃ written, ValueText written value ∧ input = written ++ rest := by
  cases input with
  | nil =>
      cases ran
  | cons quote behind =>
      rw [XmlParser.seen_quoted_cons] at ran
      obtain ⟨_, opens, ran⟩ := bind_eq_ok.mp ran
      obtain ⟨body, inside, split⟩ := quotedBody_read ran
      have mark : quote = byte '"' ∨ quote = byte '\'' := by
        have passed := rejectIf_eq_ok.mp opens
        by_cases double : quote = byte '"'
        · exact .inl double
        · by_cases single : quote = byte '\''
          · exact .inr single
          · exact absurd ⟨double, single⟩ passed
      refine ⟨quote :: body ++ [quote], .quoted mark inside, ?_⟩
      rw [split]
      simp only [List.cons_append, List.append_assoc, List.nil_append]

theorem Blank.append {front back : Bytes} (first : Blank front) (second : Blank back) :
    Blank (front ++ back) := by
  intro c member
  rcases List.mem_append.mp member with here | there
  · exact first c here
  · exact second c there

theorem attributes_read :
    ∀ {input rest : Bytes} {before attrs : Metadata} {closed : Bool},
      seen (XmlParser.attributes before input) = .ok ((attrs, closed), rest) →
        ∃ fields gap entries, FieldsText fields entries ∧ Blank gap ∧
          attrs.entries.Perm (before.entries ++ entries) ∧
          input = fields ++ gap ++ (if closed then text "/>" else [byte '>']) ++ rest
  | input, rest, before, attrs, closed, ran => by
      obtain ⟨gap, blank, parts⟩ := skipWs_read input
      rw [XmlParser.seen_attributes] at ran
      split at ran
      · rename_i closes
        cases ran
        refine ⟨[], gap, [], .nil, blank, ?_, ?_⟩
        · rw [List.append_nil]
        · rw [List.nil_append, if_pos rfl, List.append_assoc]
          exact parts.trans (congrArg (gap ++ ·) (starts_read closes))
      · split at ran
        · rename_i opens
          cases ran
          refine ⟨[], gap, [], .nil, blank, ?_, ?_⟩
          · rw [List.append_nil]
          · rw [List.nil_append, if_neg Bool.false_ne_true, List.append_assoc]
            exact parts.trans (congrArg (gap ++ ·) (head_read opens))
        · obtain ⟨⟨key, behindKey⟩, named, ran⟩ := bind_eq_ok.mp ran
          obtain ⟨_, equals, ran⟩ := bind_eq_ok.mp ran
          obtain ⟨⟨value, behindValue⟩, quoted, ran⟩ := bind_eq_ok.mp ran
          dsimp only at equals quoted ran
          have sign := head_read (Decidable.not_not.mp (rejectIf_eq_ok.mp equals))
          obtain ⟨called, _, keyParts⟩ := name_read named
          obtain ⟨blankBefore, isBlankBefore, beforeParts⟩ := skipWs_read behindKey
          obtain ⟨blankBehind, isBlankBehind, behindParts⟩ :=
            skipWs_read (skipWs behindKey).tail
          obtain ⟨written, stated, valueParts⟩ := quoted_read quoted
          have whole : input =
              gap ++ key ++ blankBefore ++ [byte '='] ++ blankBehind ++ written ++
                behindValue := by
            rw [parts, keyParts, beforeParts, sign, behindParts, valueParts]
            simp only [List.append_assoc]
          have shorter : behindValue.length < input.length := by
            rw [whole]
            simp only [List.length_append, List.length_singleton]
            omega
          cases placed : before.emplace key value with
          | none =>
              simp only [placed] at ran
              cases ran
          | some added =>
              simp only [placed] at ran
              obtain ⟨fields, last, entries, others, lastBlank, kept, rest_eq⟩ :=
                attributes_read ran
              refine ⟨_, last, (key, value) :: entries,
                .field blank called isBlankBefore isBlankBehind stated others, lastBlank,
                ?_, ?_⟩
              · refine kept.trans ?_
                rw [List.append_cons]
                exact (OrderedMap.emplace_perm placed).append_right entries
              · rw [whole, rest_eq]
                simp only [List.append_assoc]
  termination_by input => input.length

theorem EndsName.front {front back : Bytes} (ends : EndsName (front ++ back)) :
    EndsName front := by
  intro c first
  refine ends c ?_
  rw [List.head?_append, first]
  rfl

theorem opening_read {input behindName rest called : Bytes} {attrs : Metadata}
    {closed : Bool}
    (named : seen (XmlParser.name input) = .ok (called, behindName))
    (tagged : seen (XmlParser.attributes OrderedMap.empty behindName) =
      .ok ((attrs, closed), rest)) :
    ∃ tag, TagText tag called attrs ∧
      input = tag ++ (if closed then text "/>" else [byte '>']) ++ rest := by
  obtain ⟨isName, ends, parts⟩ := name_read named
  obtain ⟨fields, gap, entries, written, blank, kept, behind_eq⟩ :=
    attributes_read tagged
  have kept : attrs.entries.Perm entries := kept
  have distinct : (entries.map Prod.fst).Nodup :=
    (kept.map Prod.fst).nodup_iff.mp attrs.keys_nodup
  rw [behind_eq, List.append_assoc] at ends
  refine ⟨called ++ fields ++ gap, ?_, ?_⟩
  · exact
      { name := isName
        written := ⟨fields, gap, entries, rfl, blank, ends.front, written, distinct,
          kept⟩ }
  · rw [parts, behind_eq]
    simp only [List.append_assoc]

theorem ContentText.behind {alone : Bool} {gap content : Bytes} {children : List Node}
    (blank : Blank gap) (inside : ContentText alone content children) :
    ContentText alone (gap ++ content) children := by
  cases inside with
  | blank more =>
      exact .blank (blank.append more)
  | comment more section_ others =>
      have written := ContentText.comment (blank.append more) section_ others
      simpa only [List.append_assoc] using written
  | child more first others =>
      have written := ContentText.child (blank.append more) first others
      simpa only [List.append_assoc] using written

theorem closing_read {input rest parent : Bytes} {nodes after : Nat}
    {children : List Node} (opens : starts (text "</") input = true)
    (ran : (seen (XmlParser.name (input.drop 2)) >>= fun close =>
      rejectIf ((skipWs close.2).head? ≠ some (byte '>'))
        (.of "XML" "Malformed closing tag") >>= fun _ =>
      rejectIf (close.1 ≠ parent) (.of "XML" "Mismatched closing tag") >>= fun _ =>
      .ok ((([] : List Node), nodes), (skipWs close.2).tail)) =
        .ok ((children, after), rest)) :
    children = [] ∧ after = nodes ∧ ∃ behind, Blank behind ∧
      input = text "</" ++ parent ++ behind ++ [byte '>'] ++ rest := by
  obtain ⟨⟨close, behindName⟩, named, ran⟩ := bind_eq_ok.mp ran
  obtain ⟨_, ends, ran⟩ := bind_eq_ok.mp ran
  obtain ⟨_, same, ran⟩ := bind_eq_ok.mp ran
  cases ran
  dsimp only at ends same
  have sign := head_read (Decidable.not_not.mp (rejectIf_eq_ok.mp ends))
  have same : close = parent := Decidable.not_not.mp (rejectIf_eq_ok.mp same)
  obtain ⟨_, _, nameParts⟩ := name_read named
  obtain ⟨behind, blank, behindParts⟩ := skipWs_read behindName
  have token : input = text "</" ++ input.drop 2 := starts_read opens
  refine ⟨rfl, rfl, behind, blank, ?_⟩
  have parts : behindName = behind ++ ([byte '>'] ++ (skipWs behindName).tail) :=
    behindParts.trans (congrArg (behind ++ ·) sign)
  calc
    input = text "</" ++ (parent ++ behindName) := by
      rw [← same, ← nameParts]
      exact token
    _ = text "</" ++ (parent ++ (behind ++ ([byte '>'] ++ (skipWs behindName).tail))) :=
      congrArg (fun left => text "</" ++ (parent ++ left)) parts
    _ = text "</" ++ parent ++ behind ++ [byte '>'] ++ (skipWs behindName).tail := by
      simp only [List.append_assoc]

mutual

/-- An element that is parsed is written in front of what is left, within the
limits. -/
theorem element_read :
    ∀ {input rest : Bytes} {depth nodes after : Nat} {node : Node},
      seen (XmlParser.parseElement depth nodes input) = .ok ((node, after), rest) →
        (∃ gap element, Blank gap ∧ ElementText true element node ∧
          input = gap ++ element ++ rest) ∧
        depth + node.height ≤ 17 ∧ after = nodes + node.size ∧ after ≤ 200000
  | input, rest, depth, nodes, after, node, ran => by
      obtain ⟨gap, blank, parts⟩ := skipWs_read input
      rw [XmlParser.seen_parseElement] at ran
      obtain ⟨_, shallow, ran⟩ := bind_eq_ok.mp ran
      obtain ⟨_, few, ran⟩ := bind_eq_ok.mp ran
      have shallow := Nat.not_lt.mp (rejectIf_eq_ok.mp shallow)
      have few := Nat.not_lt.mp (rejectIf_eq_ok.mp few)
      obtain ⟨_, opens, ran⟩ := bind_eq_ok.mp ran
      obtain ⟨_, _, ran⟩ := bind_eq_ok.mp ran
      obtain ⟨⟨called, behindName⟩, named, ran⟩ := bind_eq_ok.mp ran
      obtain ⟨⟨⟨attrs, closed⟩, behindTag⟩, tagged, ran⟩ := bind_eq_ok.mp ran
      dsimp only at tagged ran
      have first : (skipWs input).head? = some (byte '<') :=
        Decidable.not_not.mp (not_or.mp (rejectIf_eq_ok.mp opens)).1
      have sign := head_read first
      obtain ⟨tag, opening, tagParts⟩ := opening_read named tagged
      split at ran
      · rename_i selfClosing
        cases ran
        refine ⟨⟨gap, _, blank, .selfClosing rfl opening, ?_⟩,
          Nat.succ_le_succ shallow, rfl, few⟩
        rw [parts, sign, tagParts, if_pos selfClosing]
        simp only [List.append_assoc]
      · rename_i open_
        obtain ⟨⟨⟨children, last⟩, behindBody⟩, body, ran⟩ := bind_eq_ok.mp ran
        cases ran
        rw [if_neg open_] at tagParts
        have whole : input = gap ++ [byte '<'] ++ tag ++ [byte '>'] ++ behindTag := by
          rw [parts, sign, tagParts]
          simp only [List.append_assoc]
        have shorter : behindTag.length < input.length := by
          rw [whole]
          simp only [List.length_append, List.length_singleton]
          omega
        obtain ⟨⟨content, behind, inside, blankBehind, bodyParts⟩, low, counted, limited⟩ :=
          content_read shallow few body
        refine ⟨⟨gap, _, blank, .closed opening inside blankBehind, ?_⟩,
          Nat.succ_le_succ low, ?_, limited⟩
        · rw [whole, bodyParts]
          simp only [List.append_assoc]
        · dsimp only [Node.size]
          omega
  termination_by input => 2 * input.length

theorem content_read :
    ∀ {input rest parent : Bytes} {depth nodes after : Nat} {children : List Node},
      depth ≤ 16 → nodes ≤ 200000 →
      seen (XmlParser.parseChildren depth nodes parent input) =
          .ok ((children, after), rest) →
        (∃ content behind, ContentText true content children ∧ Blank behind ∧
          input = content ++ text "</" ++ parent ++ behind ++ [byte '>'] ++ rest) ∧
        depth + heights children ≤ 16 ∧ after = nodes + sizes children ∧ after ≤ 200000
  | input, rest, parent, depth, nodes, after, children, shallow, few, ran => by
      obtain ⟨gap, blank, parts⟩ := skipWs_read input
      have here : (skipWs input).length ≤ input.length :=
        (XmlParser.skipWs_suffix input).length_le
      rw [XmlParser.seen_parseChildren] at ran
      split at ran
      · rename_i closes
        obtain ⟨none_, same, behind, blankBehind, closing⟩ := closing_read closes ran
        subst none_
        subst same
        refine ⟨⟨gap, behind, .blank blank, blankBehind, ?_⟩, shallow, rfl, few⟩
        rw [parts, closing]
        simp only [List.append_assoc]
      · split at ran
        · rename_i opens
          obtain ⟨⟨_, left⟩, skipped, ran⟩ := bind_eq_ok.mp ran
          dsimp only at ran
          obtain ⟨inside, section_, commentParts⟩ := skipUntil_read skipped
          have whole : input =
              gap ++ text "<!--" ++ inside ++ text "-->" ++ left := by
            have token : skipWs input = text "<!--" ++ (skipWs input).drop 4 :=
              starts_read opens
            rw [parts, token, commentParts]
            simp only [List.append_assoc]
          have token : (text "-->").length = 3 := rfl
          have shorter : left.length < input.length := by
            rw [whole]
            simp only [List.length_append]
            omega
          obtain ⟨⟨content, behind, others, blankBehind, restParts⟩, limits⟩ :=
            content_read shallow few ran
          refine ⟨⟨_, behind, .comment blank section_ others, blankBehind, ?_⟩, limits⟩
          rw [whole, restParts]
          simp only [List.append_assoc]
        · split at ran
          · cases ran
          · split at ran
            · obtain ⟨⟨⟨child, middle⟩, behindChild⟩, parsed, ran⟩ := bind_eq_ok.mp ran
              dsimp only at ran
              obtain ⟨⟨⟨others, last⟩, behindOthers⟩, further, ran⟩ := bind_eq_ok.mp ran
              cases ran
              have shorter := (seen_left parsed).2
              obtain ⟨⟨more, element, blankMore, first, childParts⟩, low, counted, limited⟩ :=
                element_read parsed
              obtain ⟨⟨content, behind, inside, blankBehind, restParts⟩, others_, total,
                  limits⟩ :=
                content_read shallow limited further
              refine ⟨⟨_, behind, .child (blank.append blankMore) first inside,
                blankBehind, ?_⟩, ?_, ?_, limits⟩
              · rw [parts, childParts, restParts]
                simp only [List.append_assoc]
              · dsimp only [heights]
                omega
              · dsimp only [sizes]
                omega
            · cases ran
  termination_by input => 2 * input.length + 1

end

theorem parse_read {input : Bytes} {root : Node}
    (parsed : XmlParser.parse input = .ok root) :
    ∃ written, written <:+: input ∧ ElementText true written root := by
  unfold XmlParser.parse at parsed
  obtain ⟨_, _, parsed⟩ := bind_eq_ok.mp parsed
  obtain ⟨front, _, parsed⟩ := bind_eq_ok.mp parsed
  obtain ⟨element, ran, parsed⟩ := bind_eq_ok.mp parsed
  obtain ⟨_, _, parsed⟩ := bind_eq_ok.mp parsed
  obtain ⟨_, _, parsed⟩ := bind_eq_ok.mp parsed
  cases parsed
  have shown := congrArg seen ran
  obtain ⟨⟨gap, written, _, inside, parts⟩, _⟩ := element_read shown
  refine ⟨written, ?_, inside⟩
  have here : written <:+: front.val := ⟨gap, element.rest, parts.symm⟩
  refine (here.trans front.property.isInfix).trans ?_
  split
  · exact (List.drop_suffix 3 input).isInfix
  · exact List.infix_rfl

/-! ### The elements of a tree -/

/-- A node stands somewhere in a tree. -/
inductive ElementOf : Node → Node → Prop where
  | self {node : Node} : ElementOf node node
  | child {node child inner : Node} (member : child ∈ node.children)
      (within : ElementOf child inner) : ElementOf node inner

theorem ContentText.child_written {alone : Bool} :
    ∀ {content : Bytes} {children : List Node}, ContentText alone content children →
      ∀ {child : Node}, child ∈ children →
        ∃ written, written <:+: content ∧ ElementText alone written child
  | _, _, .blank _, _, member => absurd member List.not_mem_nil
  | _, _, .comment _ _ others, _, member => by
      obtain ⟨written, within, inside⟩ := others.child_written member
      exact ⟨written, within.trans (List.suffix_append _ _).isInfix, inside⟩
  | _, _, .child _ first others, _, member => by
      rcases List.mem_cons.mp member with same | later
      · subst same
        exact ⟨_, ⟨_, _, rfl⟩, first⟩
      · obtain ⟨written, within, inside⟩ := others.child_written later
        exact ⟨written, within.trans (List.suffix_append _ _).isInfix, inside⟩

theorem ElementText.element_written {alone : Bool} {root node : Node}
    (element : ElementOf root node) :
    ∀ {written : Bytes}, ElementText alone written root →
      ∃ inner, inner <:+: written ∧ ElementText alone inner node := by
  induction element with
  | self =>
      intro written inside
      exact ⟨written, List.infix_rfl, inside⟩
  | child member within ih =>
      intro written inside
      cases inside with
      | selfClosing =>
          exact absurd member List.not_mem_nil
      | @closed tag called body behind _ _ opening content blank =>
          obtain ⟨text_, here, childText⟩ := content.child_written member
          obtain ⟨inner, deeper, innerText⟩ := ih childText
          refine ⟨inner, deeper.trans (here.trans ?_), innerText⟩
          refine ⟨[byte '<'] ++ tag ++ [byte '>'],
            text "</" ++ called ++ behind ++ [byte '>'], ?_⟩
          simp only [List.append_assoc]

end XmlText

end NativeDNS

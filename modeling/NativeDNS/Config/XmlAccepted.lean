/-
What the grammar of documents describes is accepted.

Each scanner is run on a text of its part of the grammar with anything behind it,
and leaves exactly what is behind.  With the other direction, the parser accepts a
text exactly when the grammar derives it within the limits on nesting and nodes.
-/
import NativeDNS.Config.XmlWritten

namespace NativeDNS

open ByteText (text byte)
open CheckedResult
open Scanner

namespace XmlText

open XmlParser (isSpace isNameCharacter starts skipWs past)

/-! ### Blanks, sections and names -/

theorem skipWs_gap {gap rest : Bytes} (blank : Blank gap)
    (stops : ∀ c, rest.head? = some c → isSpace c = false) :
    skipWs (gap ++ rest) = rest := by
  unfold skipWs
  rw [List.dropWhile_append_of_pos blank]
  cases rest with
  | nil =>
      rfl
  | cons c rest =>
      refine List.dropWhile_cons_of_neg ?_
      rw [stops c rfl]
      exact Bool.false_ne_true

theorem starts_token (token rest : Bytes) : starts token (token ++ rest) = true :=
  List.isPrefixOf_iff_prefix.mpr (List.prefix_append token rest)

theorem skipUntil_written {token inside : Bytes} (nonempty : token ≠ [])
    (section_ : SectionText token inside) (rest : Bytes) :
    past (XmlParser.skipUntil token (inside ++ token ++ rest)) = .ok ((), rest) := by
  induction inside with
  | nil =>
      rw [List.nil_append]
      have found := starts_token token rest
      have behind : (token ++ rest).drop token.length = rest := List.drop_left
      cases token with
      | nil =>
          exact absurd rfl nonempty
      | cons c token =>
          rw [List.cons_append] at found behind ⊢
          rw [XmlParser.past_skipUntil_cons, if_pos found, behind]
  | cons c inside ih =>
      have later : starts token (c :: (inside ++ token ++ rest)) ≠ true := by
        intro found
        have first : token <+: c :: inside ++ token ++ rest :=
          List.isPrefixOf_iff_prefix.mp found
        have within : token <+: c :: inside ++ token := by
          refine List.prefix_of_prefix_length_le first (List.prefix_append _ rest) ?_
          rw [List.length_append]
          exact Nat.le_add_left _ _
        obtain ⟨back, same⟩ := within
        have ended := section_ [] back same.symm
        rw [ended, List.append_nil] at same
        have lengths := congrArg List.length same
        rw [List.length_append, List.length_cons] at lengths
        omega
      have shorter : SectionText token inside := fun front back same =>
        section_ (c :: front) back (congrArg (c :: ·) same)
      rw [List.cons_append, List.cons_append, XmlParser.past_skipUntil_cons, if_neg later]
      exact ih shorter

theorem name_written {called rest : Bytes} (isName : IsName called) (ends : EndsName rest) :
    seen (XmlParser.name (called ++ rest)) = .ok (called, rest) := by
  have stops : rest.takeWhile isNameCharacter = [] ∧
      rest.dropWhile isNameCharacter = rest := by
    cases rest with
    | nil =>
        exact ⟨rfl, rfl⟩
    | cons c rest =>
        have other : ¬ isNameCharacter c = true := by
          rw [ends c rfl]
          exact Bool.false_ne_true
        exact ⟨List.takeWhile_cons_of_neg other, List.dropWhile_cons_of_neg other⟩
  have taken : (called ++ rest).takeWhile isNameCharacter = called := by
    rw [List.takeWhile_append_of_pos isName.2, stops.1, List.append_nil]
  have left : (called ++ rest).dropWhile isNameCharacter = rest := by
    rw [List.dropWhile_append_of_pos isName.2, stops.2]
  rw [XmlParser.seen_name, taken, left, rejectIf_of_not isName.1, ok_bind]

/-! ### Values -/

theorem before_written {separator : UInt8} {missing : Error} {found : Bytes}
    (outside : separator ∉ found) (rest : Bytes) :
    seen (XmlParser.before separator missing (found ++ separator :: rest)) =
      .ok (found, rest) := by
  induction found with
  | nil =>
      rw [List.nil_append, XmlParser.seen_before_cons, if_pos rfl]
  | cons c found ih =>
      have other : c ≠ separator := fun same => outside (same ▸ List.mem_cons_self)
      have further : separator ∉ found := fun member =>
        outside (List.mem_cons_of_mem c member)
      rw [List.cons_append, XmlParser.seen_before_cons, if_neg other, ih further, ok_bind]

theorem quotedBody_written {quote : UInt8} {body value : Bytes}
    (mark : byte '&' ≠ quote) (inside : BodyText quote body value) (rest : Bytes) :
    seen (XmlParser.quotedBody quote (body ++ quote :: rest)) = .ok (value, rest) := by
  induction inside with
  | nil =>
      rw [List.nil_append, XmlParser.seen_quotedBody_cons, if_pos rfl]
  | @entity entity more decoded value whole stands others ih =>
      have split : byte '&' :: entity ++ byte ';' :: more ++ quote :: rest =
          byte '&' :: (entity ++ byte ';' :: (more ++ quote :: rest)) := by
        simp only [List.cons_append, List.append_assoc]
      rw [split, XmlParser.seen_quotedBody_cons, if_neg mark, if_pos rfl,
        before_written whole, ok_bind, stands, ok_bind, ih, ok_bind]
  | @character c more value inside plain printable others ih =>
      rw [List.cons_append, XmlParser.seen_quotedBody_cons, if_neg inside, if_neg plain,
        rejectIf_of_not printable, ok_bind, ih, ok_bind]

theorem quoted_written {written value : Bytes} (stated : ValueText written value)
    (rest : Bytes) :
    seen (XmlParser.quoted (written ++ rest)) = .ok (value, rest) := by
  cases stated with
  | @quoted quote body _ opens inside =>
      have admitted : ¬ (quote ≠ byte '"' ∧ quote ≠ byte '\'') := by
        rintro ⟨double, single⟩
        rcases opens with same | same
        · exact double same
        · exact single same
      have mark : byte '&' ≠ quote := by
        rcases opens with same | same
        · rw [same]
          decide
        · rw [same]
          decide
      have split : quote :: body ++ [quote] ++ rest = quote :: (body ++ quote :: rest) := by
        simp only [List.cons_append, List.append_assoc, List.nil_append]
      rw [split, XmlParser.seen_quoted_cons, rejectIf_of_not admitted, ok_bind,
        quotedBody_written mark inside]

theorem ValueText.head {written value : Bytes} (stated : ValueText written value) :
    ∃ quote more, written = quote :: more ∧ isSpace quote = false := by
  cases stated with
  | @quoted quote body _ opens inside =>
      refine ⟨quote, body ++ [quote], rfl, ?_⟩
      rcases opens with same | same
      · rw [same]
        rfl
      · rw [same]
        rfl

/-! ### Tags -/

theorem IsName.head {called : Bytes} (isName : IsName called) :
    ∃ c more, called = c :: more ∧ isNameCharacter c = true := by
  cases called with
  | nil =>
      exact absurd rfl isName.1
  | cons c more =>
      exact ⟨c, more, rfl, isName.2 c List.mem_cons_self⟩

theorem isNameCharacter_ne {c mark : UInt8} (inName : isNameCharacter c = true)
    (outside : isNameCharacter mark = false) : c ≠ mark := by
  intro same
  rw [same, outside] at inName
  cases inName

theorem isNameCharacter_space {c : UInt8} (inName : isNameCharacter c = true) :
    isSpace c = false := by
  refine Bool.eq_false_iff.mpr ?_
  intro space
  have low : c.toNat ≤ 32 := by
    unfold isSpace at space
    simp only [Bool.or_eq_true, Bool.and_eq_true, beq_iff_eq, decide_eq_true_eq,
      UInt8.le_iff_toNat_le] at space
    rcases space with same | ⟨_, below⟩
    · rw [same]
      exact Nat.le_refl 32
    · have limit : (13 : UInt8).toNat = 13 := rfl
      omega
  have marks : (byte 'a').toNat = 97 ∧ (byte 'A').toNat = 65 ∧ (byte '0').toNat = 48 ∧
      (byte '_').toNat = 95 ∧ (byte '-').toNat = 45 ∧ (byte '.').toNat = 46 :=
    ⟨rfl, rfl, rfl, rfl, rfl, rfl⟩
  unfold isNameCharacter at inName
  simp only [Bool.or_eq_true, Bool.and_eq_true, beq_iff_eq, decide_eq_true_eq,
    UInt8.le_iff_toNat_le, ← UInt8.toNat_inj] at inName
  omega

theorem Blank.endsName {gap : Bytes} (blank : Blank gap) {c : UInt8}
    (mark : isNameCharacter c = false) (rest : Bytes) : EndsName (gap ++ c :: rest) := by
  intro first isFirst
  cases gap with
  | nil =>
      cases isFirst
      exact mark
  | cons d gap =>
      cases isFirst
      refine Bool.eq_false_iff.mpr ?_
      intro inName
      have space := blank first List.mem_cons_self
      rw [isNameCharacter_space inName] at space
      cases space

def tagEnd (closed : Bool) : Bytes :=
  if closed then text "/>" else [byte '>']

theorem attributes_written {fields : Bytes} {entries : List (Bytes × Bytes)}
    (written : FieldsText fields entries) {gap : Bytes} (blank : Blank gap)
    (closed : Bool) (rest : Bytes) :
    ∀ {before : Metadata}, ((before.entries ++ entries).map Prod.fst).Nodup →
      ∃ attrs, seen (XmlParser.attributes before (fields ++ gap ++ tagEnd closed ++ rest)) =
          .ok ((attrs, closed), rest) ∧
        attrs.entries.Perm (before.entries ++ entries) := by
  induction written with
  | nil =>
      intro before _
      have here : skipWs ([] ++ gap ++ tagEnd closed ++ rest) = tagEnd closed ++ rest := by
        rw [List.nil_append, List.append_assoc]
        refine skipWs_gap blank ?_
        intro c first
        cases closed with
        | true =>
            cases first
            rfl
        | false =>
            cases first
            rfl
      refine ⟨before, ?_, by rw [List.append_nil]⟩
      rw [XmlParser.seen_attributes, here]
      cases closed with
      | true =>
          exact if_pos (starts_token (text "/>") rest)
      | false =>
          exact (if_neg Bool.false_ne_true).trans (if_pos rfl)
  | @field gapBefore key before_ behind stated value fields entries blankGap called
      blankBefore blankBehind quoted others ih =>
      intro before distinct
      obtain ⟨c, more, keyParts, inName⟩ := called.head
      have stops : ∀ behind d, (key ++ behind).head? = some d → isSpace d = false := by
        intro behind d first
        rw [keyParts] at first
        cases first
        exact isNameCharacter_space inName
      obtain ⟨quote, body, valueParts, noBlank⟩ := quoted.head
      have whole : gapBefore ++ key ++ before_ ++ [byte '='] ++ behind ++ stated ++ fields ++
          gap ++ tagEnd closed ++ rest =
          gapBefore ++ (key ++ (before_ ++ byte '=' ::
            (behind ++ (stated ++ (fields ++ gap ++ tagEnd closed ++ rest))))) := by
        simp only [List.append_assoc, List.cons_append, List.nil_append]
      have notClosed : ∀ behind, ¬ starts (text "/>") (key ++ behind) = true := by
        intro behind found
        rw [keyParts] at found
        have within := List.isPrefixOf_iff_prefix.mp found
        exact isNameCharacter_ne inName (by decide) (List.cons_prefix_cons.mp within).1.symm
      have notEnded : ∀ behind, ¬ (key ++ behind).head? = some (byte '>') := by
        intro behind first
        rw [keyParts] at first
        exact isNameCharacter_ne inName (by decide) (Option.some.inj first)
      have sign : ∀ behind, skipWs (before_ ++ byte '=' :: behind) = byte '=' :: behind := by
        intro behind
        exact skipWs_gap blankBefore fun d first => by
          cases first
          rfl
      have opened : ∀ left, skipWs (behind ++ (stated ++ left)) = stated ++ left := by
        intro left
        refine skipWs_gap blankBehind fun d first => ?_
        rw [valueParts] at first
        cases first
        exact noBlank
      have free : key ∉ before.entries.map Prod.fst := by
        intro bound
        rw [List.map_append, List.nodup_append] at distinct
        exact distinct.2.2 key bound key List.mem_cons_self rfl
      obtain ⟨added, placed⟩ := OrderedMap.emplace_of_free free value
      have moved : (added.entries ++ entries).Perm (before.entries ++ (key, value) :: entries) := by
        rw [List.append_cons]
        exact (OrderedMap.emplace_perm placed).append_right entries
      obtain ⟨attrs, ran, kept⟩ := @ih added ((moved.map Prod.fst).nodup_iff.mpr distinct)
      refine ⟨attrs, ?_, kept.trans moved⟩
      rw [whole, XmlParser.seen_attributes, skipWs_gap blankGap (stops _),
        if_neg (notClosed _), if_neg (notEnded _),
        name_written called (blankBefore.endsName (by decide) _), ok_bind, sign,
        rejectIf_of_not (not_not.mpr List.head?_cons), ok_bind, List.tail_cons, opened,
        quoted_written quoted, ok_bind, placed]
      exact ran

theorem TagText.parsed {tag called : Bytes} {attrs : Metadata}
    (opening : TagText tag called attrs) (closed : Bool) (rest : Bytes) :
    ∃ behind, seen (XmlParser.name (tag ++ tagEnd closed ++ rest)) = .ok (called, behind) ∧
      seen (XmlParser.attributes OrderedMap.empty behind) = .ok ((attrs, closed), rest) := by
  obtain ⟨fields, gap, entries, parts, blank, ends, written, distinct, kept⟩ :=
    opening.written
  obtain ⟨read, ran, same⟩ := attributes_written written blank closed rest
    (show ((OrderedMap.empty.entries ++ entries).map Prod.fst).Nodup from distinct)
  have sameMap : read = attrs :=
    OrderedMap.ext_perm ((show read.entries.Perm entries from same).trans kept.symm)
  refine ⟨fields ++ gap ++ tagEnd closed ++ rest, ?_, sameMap ▸ ran⟩
  have split : tag ++ tagEnd closed ++ rest =
      called ++ (fields ++ gap ++ tagEnd closed ++ rest) := by
    rw [parts]
    simp only [List.append_assoc]
  rw [split]
  refine name_written opening.name ?_
  intro c first
  cases inside : fields ++ gap with
  | nil =>
      rw [inside] at first
      cases closed with
      | true =>
          cases first
          rfl
      | false =>
          cases first
          rfl
  | cons d more =>
      rw [inside] at first
      cases first
      exact ends c (by rw [inside]; rfl)

/-! ### Elements -/

theorem TagText.head {tag called : Bytes} {attrs : Metadata}
    (opening : TagText tag called attrs) :
    ∃ c more, tag = c :: more ∧ isNameCharacter c = true := by
  obtain ⟨c, more, same, inName⟩ := opening.name.head
  obtain ⟨fields, gap, _, parts, _⟩ := opening.written
  refine ⟨c, more ++ fields ++ gap, ?_, inName⟩
  rw [parts, same]
  rfl

theorem ElementText.head {alone : Bool} {element : Bytes} {node : Node}
    (inside : ElementText alone element node) :
    ∃ c more, element = byte '<' :: c :: more ∧ isNameCharacter c = true := by
  cases inside with
  | selfClosing admitted opening =>
      obtain ⟨c, more, same, inName⟩ := opening.head
      rw [same]
      exact ⟨c, _, rfl, inName⟩
  | closed opening content blank =>
      obtain ⟨c, more, same, inName⟩ := opening.head
      rw [same]
      exact ⟨c, _, rfl, inName⟩

theorem opening_written {depth nodes : Nat} {gap tag called : Bytes} {attrs : Metadata}
    (blank : Blank gap) (shallow : depth ≤ 16) (few : nodes + 1 ≤ 200000)
    (opening : TagText tag called attrs) (closed : Bool) (rest : Bytes) :
    seen (XmlParser.parseElement depth nodes
        (gap ++ ([byte '<'] ++ tag ++ tagEnd closed ++ rest))) =
      if closed = true then
        .ok (({ name := called, attrs := attrs }, nodes + 1), rest)
      else
        seen (XmlParser.parseChildren depth (nodes + 1) called rest) >>= fun body =>
          .ok (({ name := called, attrs := attrs, children := body.1.1 }, body.1.2),
            body.2) := by
  obtain ⟨c, more, same, inName⟩ := opening.head
  obtain ⟨behind, named, tagged⟩ := opening.parsed closed rest
  have split : [byte '<'] ++ tag ++ tagEnd closed ++ rest =
      byte '<' :: (tag ++ tagEnd closed ++ rest) := by
    simp only [List.cons_append, List.nil_append]
  have here : skipWs (gap ++ byte '<' :: (tag ++ tagEnd closed ++ rest)) =
      byte '<' :: (tag ++ tagEnd closed ++ rest) :=
    skipWs_gap blank fun d first => by
      cases first
      rfl
  have opens : ¬ ((byte '<' :: (tag ++ tagEnd closed ++ rest)).head? ≠ some (byte '<') ∨
      starts (text "</") (byte '<' :: (tag ++ tagEnd closed ++ rest)) = true) := by
    rintro (other | closing)
    · exact other rfl
    · rw [same] at closing
      have inner :=
        (List.cons_prefix_cons.mp (List.isPrefixOf_iff_prefix.mp closing)).2
      exact isNameCharacter_ne inName (by decide) (List.cons_prefix_cons.mp inner).1.symm
  have plain : ¬ ((byte '<' :: (tag ++ tagEnd closed ++ rest)).tail.head? =
        some (byte '!') ∨
      (byte '<' :: (tag ++ tagEnd closed ++ rest)).tail.head? = some (byte '?')) := by
    rw [same]
    rintro (mark | mark)
    · exact isNameCharacter_ne inName (by decide) (Option.some.inj mark)
    · exact isNameCharacter_ne inName (by decide) (Option.some.inj mark)
  rw [split, XmlParser.seen_parseElement, here, rejectIf_of_not (Nat.not_lt.mpr shallow),
    ok_bind, rejectIf_of_not (Nat.not_lt.mpr few), ok_bind, rejectIf_of_not opens, ok_bind,
    rejectIf_of_not plain, ok_bind, List.tail_cons, named, ok_bind, tagged, ok_bind]

theorem closing_written {depth nodes : Nat} {parent gap behind : Bytes}
    (isName : IsName parent) (blank : Blank gap) (blankBehind : Blank behind) (rest : Bytes) :
    seen (XmlParser.parseChildren depth nodes parent
        (gap ++ text "</" ++ parent ++ behind ++ [byte '>'] ++ rest)) =
      .ok (([], nodes), rest) := by
  have split : gap ++ text "</" ++ parent ++ behind ++ [byte '>'] ++ rest =
      gap ++ (text "</" ++ (parent ++ (behind ++ byte '>' :: rest))) := by
    simp only [List.append_assoc, List.cons_append, List.nil_append]
  have here : skipWs (gap ++ (text "</" ++ (parent ++ (behind ++ byte '>' :: rest)))) =
      text "</" ++ (parent ++ (behind ++ byte '>' :: rest)) :=
    skipWs_gap blank fun d first => by
      cases first
      rfl
  have named : (text "</" ++ (parent ++ (behind ++ byte '>' :: rest))).drop 2 =
      parent ++ (behind ++ byte '>' :: rest) :=
    rfl
  have sign : skipWs (behind ++ byte '>' :: rest) = byte '>' :: rest :=
    skipWs_gap blankBehind fun d first => by
      cases first
      rfl
  rw [split, XmlParser.seen_parseChildren, here, if_pos (starts_token _ _), named,
    name_written isName (blankBehind.endsName (by decide) _), ok_bind, sign,
    rejectIf_of_not (not_not.mpr List.head?_cons), ok_bind,
    rejectIf_of_not (not_not.mpr rfl), ok_bind]
  rfl

theorem comment_written {depth nodes : Nat} {parent gap inside : Bytes}
    (blank : Blank gap) (section_ : SectionText (text "-->") inside) (rest : Bytes) :
    seen (XmlParser.parseChildren depth nodes parent
        (gap ++ text "<!--" ++ inside ++ text "-->" ++ rest)) =
      seen (XmlParser.parseChildren depth nodes parent rest) := by
  have split : gap ++ text "<!--" ++ inside ++ text "-->" ++ rest =
      gap ++ (text "<!--" ++ (inside ++ text "-->" ++ rest)) := by
    simp only [List.append_assoc]
  have here : skipWs (gap ++ (text "<!--" ++ (inside ++ text "-->" ++ rest))) =
      text "<!--" ++ (inside ++ text "-->" ++ rest) :=
    skipWs_gap blank fun d first => by
      cases first
      rfl
  have open_ : ¬ starts (text "</") (text "<!--" ++ (inside ++ text "-->" ++ rest)) = true :=
    Bool.false_ne_true
  have behind : (text "<!--" ++ (inside ++ text "-->" ++ rest)).drop 4 =
      inside ++ text "-->" ++ rest :=
    rfl
  rw [split, XmlParser.seen_parseChildren, here, if_neg open_, if_pos (starts_token _ _),
    behind, skipUntil_written (by decide) section_, ok_bind]

theorem child_written {depth nodes : Nat} {parent gap element : Bytes} {alone : Bool}
    {node : Node} (blank : Blank gap) (first : ElementText alone element node)
    (rest : Bytes) :
    seen (XmlParser.parseChildren depth nodes parent (gap ++ element ++ rest)) =
      (seen (XmlParser.parseElement (depth + 1) nodes (element ++ rest)) >>= fun child =>
        seen (XmlParser.parseChildren depth child.1.2 parent child.2) >>= fun others =>
          .ok ((child.1.1 :: others.1.1, others.1.2), others.2)) := by
  obtain ⟨c, more, same, inName⟩ := first.head
  have here : skipWs (gap ++ (element ++ rest)) = element ++ rest :=
    skipWs_gap blank fun d first => by
      rw [same] at first
      cases first
      rfl
  have other : ∀ {d : UInt8} {token : Bytes}, isNameCharacter d = false →
      ¬ starts (byte '<' :: d :: token) (element ++ rest) = true := by
    intro d token mark found
    rw [same] at found
    have inner := (List.cons_prefix_cons.mp (List.isPrefixOf_iff_prefix.mp found)).2
    exact isNameCharacter_ne inName mark (List.cons_prefix_cons.mp inner).1.symm
  have opens : (element ++ rest).head? = some (byte '<') := by
    rw [same]
    rfl
  have closing : ¬ starts (text "</") (element ++ rest) = true := other (by decide)
  have comment : ¬ starts (text "<!--") (element ++ rest) = true := other (by decide)
  have data : ¬ starts (text "<![CDATA[") (element ++ rest) = true := other (by decide)
  rw [List.append_assoc, XmlParser.seen_parseChildren, here, if_neg closing,
    if_neg comment, if_neg data, if_pos opens]

mutual

theorem ElementText.parsed {alone : Bool} :
    ∀ {element : Bytes} {node : Node}, ElementText alone element node →
      ∀ {gap : Bytes} {depth nodes : Nat}, Blank gap → depth + node.height ≤ 17 →
        nodes + node.size ≤ 200000 → ∀ rest,
          seen (XmlParser.parseElement depth nodes (gap ++ element ++ rest)) =
            .ok ((node, nodes + node.size), rest)
  | _, _, @ElementText.selfClosing _ tag called attrs admitted opening, gap, depth, nodes,
      blank, shallow, few, rest => by
      have shallow : depth + 1 ≤ 17 := shallow
      have split : gap ++ ([byte '<'] ++ tag ++ text "/>") ++ rest =
          gap ++ ([byte '<'] ++ tag ++ tagEnd true ++ rest) :=
        List.append_assoc _ _ _
      rw [split, opening_written blank (by omega) few opening true rest, if_pos rfl]
      rfl
  | _, _, @ElementText.closed _ tag called content behind attrs children opening inside
      blankBehind, gap, depth, nodes, blank, shallow, few, rest => by
      have shallow : depth + (heights children + 1) ≤ 17 := shallow
      have few : nodes + (sizes children + 1) ≤ 200000 := few
      have split : gap ++ ([byte '<'] ++ tag ++ [byte '>'] ++ content ++ text "</" ++
            called ++ behind ++ [byte '>']) ++ rest =
          gap ++ ([byte '<'] ++ tag ++ tagEnd false ++
            (content ++ text "</" ++ called ++ behind ++ [byte '>'] ++ rest)) := by
        simp only [tagEnd, Bool.false_eq_true, if_false, List.append_assoc]
      have body := inside.parsed opening.name blankBehind (show depth + _ ≤ 16 by omega)
        (show nodes + 1 + _ ≤ 200000 by omega) rest
      rw [split, opening_written blank (by omega) (by omega) opening false,
        if_neg Bool.false_ne_true, body, ok_bind]
      simp only [Node.size, Nat.add_assoc, Nat.add_comm 1]

theorem ContentText.parsed {alone : Bool} :
    ∀ {content : Bytes} {children : List Node}, ContentText alone content children →
      ∀ {parent behind : Bytes} {depth nodes : Nat}, IsName parent → Blank behind →
        depth + heights children ≤ 16 → nodes + sizes children ≤ 200000 → ∀ rest,
          seen (XmlParser.parseChildren depth nodes parent
              (content ++ text "</" ++ parent ++ behind ++ [byte '>'] ++ rest)) =
            .ok ((children, nodes + sizes children), rest)
  | _, _, .blank blank, parent, behind, depth, nodes, isName, blankBehind, _, _, rest =>
      closing_written isName blank blankBehind rest
  | _, _, @ContentText.comment _ gap content inside children blank section_ others,
      parent, behind, depth, nodes, isName, blankBehind, shallow, few, rest => by
      have split : gap ++ text "<!--" ++ inside ++ text "-->" ++ content ++ text "</" ++
            parent ++ behind ++ [byte '>'] ++ rest =
          gap ++ text "<!--" ++ inside ++ text "-->" ++
            (content ++ text "</" ++ parent ++ behind ++ [byte '>'] ++ rest) := by
        simp only [List.append_assoc]
      rw [split, comment_written blank section_]
      exact others.parsed isName blankBehind shallow few rest
  | _, _, @ContentText.child _ gap element content node children blank first others,
      parent, behind, depth, nodes, isName, blankBehind, shallow, few, rest => by
      have shallow : depth + max node.height (heights children) ≤ 16 := shallow
      have few : nodes + (node.size + sizes children) ≤ 200000 := few
      have split : gap ++ element ++ content ++ text "</" ++ parent ++ behind ++
            [byte '>'] ++ rest =
          gap ++ element ++
            (content ++ text "</" ++ parent ++ behind ++ [byte '>'] ++ rest) := by
        simp only [List.append_assoc]
      have noGap : Blank [] := fun _ member => absurd member List.not_mem_nil
      have child := first.parsed noGap (show depth + 1 + node.height ≤ 17 by omega)
        (show nodes + node.size ≤ 200000 by omega)
        (content ++ text "</" ++ parent ++ behind ++ [byte '>'] ++ rest)
      have more := others.parsed isName blankBehind
        (show depth + heights children ≤ 16 by omega)
        (show nodes + node.size + sizes children ≤ 200000 by omega) rest
      rw [List.nil_append] at child
      rw [split, child_written blank first, child, ok_bind, more, ok_bind]
      simp only [sizes, Nat.add_assoc]

end

/-! ### Documents -/

inductive SectionMarks : Bytes → Bytes → Prop where
  | instruction : SectionMarks (text "<?") (text "?>")
  | comment : SectionMarks (text "<!--") (text "-->")

/-- Blanks, comments and processing instructions. -/
inductive MiscText : Bytes → Prop where
  | blank {gap : Bytes} (blank : Blank gap) : MiscText gap
  | section_ {gap opening inside closing more : Bytes} (blank : Blank gap)
      (marks : SectionMarks opening closing) (within : SectionText closing inside)
      (others : MiscText more) :
      MiscText (gap ++ opening ++ inside ++ closing ++ more)

/-- The text of a document: a byte order mark or none, and the root element among
blanks, comments and processing instructions. -/
structure DocumentText (document : Bytes) (root : Node) : Prop where
  written : ∃ mark front element back, document = mark ++ front ++ element ++ back ∧
    (mark = [] ∨ mark = [0xEF, 0xBB, 0xBF]) ∧ MiscText front ∧
    ElementText true element root ∧ MiscText back

theorem MiscText.append {front gap : Bytes} (first : MiscText front) (blank : Blank gap) :
    MiscText (front ++ gap) := by
  induction first with
  | blank more =>
      exact .blank (more.append blank)
  | section_ more marks within others ih =>
      have longer := MiscText.section_ more marks within ih
      simpa only [List.append_assoc] using longer

theorem section_read {opening closing input left : Bytes} {done : Unit}
    (nonempty : 0 < opening.length) (opens : starts opening (skipWs input) = true)
    (skipped : past (XmlParser.skipUntil closing ((skipWs input).drop opening.length)) =
      .ok (done, left)) :
    ∃ gap inside, Blank gap ∧ SectionText closing inside ∧
      input = gap ++ opening ++ inside ++ closing ++ left ∧ left.length < input.length := by
  obtain ⟨gap, blank, parts⟩ := skipWs_read input
  obtain ⟨inside, within, insideParts⟩ := skipUntil_read skipped
  have whole : input = gap ++ opening ++ inside ++ closing ++ left := by
    rw [parts, starts_read opens, insideParts]
    simp only [List.append_assoc]
  refine ⟨gap, inside, blank, within, whole, ?_⟩
  rw [whole]
  simp only [List.length_append]
  omega

theorem skipMisc_read :
    ∀ {input rest : Bytes} {done : Unit},
      past (XmlParser.skipMisc input) = .ok (done, rest) →
        ∃ misc, MiscText misc ∧ input = misc ++ rest
  | input, rest, done, ran => by
      rw [XmlParser.past_skipMisc] at ran
      split at ran
      · rename_i opens
        obtain ⟨⟨_, left⟩, skipped, ran⟩ := bind_eq_ok.mp ran
        dsimp only at ran
        obtain ⟨gap, inside, blank, within, whole, shorter⟩ :=
          section_read (by decide) opens skipped
        obtain ⟨misc, others, restParts⟩ := skipMisc_read ran
        refine ⟨_, .section_ blank .instruction within others, ?_⟩
        rw [whole, restParts]
        simp only [List.append_assoc]
      · split at ran
        · rename_i opens
          obtain ⟨⟨_, left⟩, skipped, ran⟩ := bind_eq_ok.mp ran
          dsimp only at ran
          obtain ⟨gap, inside, blank, within, whole, shorter⟩ :=
            section_read (by decide) opens skipped
          obtain ⟨misc, others, restParts⟩ := skipMisc_read ran
          refine ⟨_, .section_ blank .comment within others, ?_⟩
          rw [whole, restParts]
          simp only [List.append_assoc]
        · obtain ⟨gap, blank, parts⟩ := skipWs_read input
          obtain ⟨_, _, ran⟩ := bind_eq_ok.mp ran
          cases ran
          exact ⟨gap, .blank blank, parts⟩
  termination_by input => input.length

/-- Nothing is left to skip in front of the end or of an element. -/
def Settled (rest : Bytes) : Prop :=
  rest = [] ∨ ∃ c more, rest = byte '<' :: c :: more ∧ isNameCharacter c = true

theorem Settled.stops {rest : Bytes} (settled : Settled rest) :
    ∀ c, rest.head? = some c → isSpace c = false := by
  intro c first
  rcases settled with same | ⟨d, more, same, _⟩
  · rw [same] at first
    cases first
  · rw [same] at first
    cases first
    rfl

theorem Settled.starts {rest : Bytes} (settled : Settled rest) {d : UInt8} {token : Bytes}
    (mark : isNameCharacter d = false) : ¬ starts (byte '<' :: d :: token) rest = true := by
  intro found
  have within := List.isPrefixOf_iff_prefix.mp found
  rcases settled with same | ⟨c, more, same, inName⟩
  · rw [same] at within
    cases List.prefix_nil.mp within
  · rw [same] at within
    have inner := (List.cons_prefix_cons.mp within).2
    exact isNameCharacter_ne inName mark (List.cons_prefix_cons.mp inner).1.symm

theorem MiscText.skipped {misc rest : Bytes} (inside : MiscText misc)
    (settled : Settled rest) :
    past (XmlParser.skipMisc (misc ++ rest)) = .ok ((), rest) := by
  induction inside with
  | @blank gap blank =>
      have prohibited : ¬ (starts (text "<!DOCTYPE") rest = true ∨
          starts (text "<!ENTITY") rest = true) := by
        rintro (declaration | declaration)
        · exact settled.starts (by decide) declaration
        · exact settled.starts (by decide) declaration
      have instruction : ¬ starts (text "<?") rest = true := settled.starts (by decide)
      have comment : ¬ starts (text "<!--") rest = true := settled.starts (by decide)
      rw [XmlParser.past_skipMisc, skipWs_gap blank settled.stops, if_neg instruction,
        if_neg comment, rejectIf_of_not prohibited, ok_bind]
  | @section_ gap opening inside closing more blank marks within others ih =>
      have split : gap ++ opening ++ inside ++ closing ++ more ++ rest =
          gap ++ (opening ++ (inside ++ closing ++ (more ++ rest))) := by
        simp only [List.append_assoc]
      have here : skipWs (gap ++ (opening ++ (inside ++ closing ++ (more ++ rest)))) =
          opening ++ (inside ++ closing ++ (more ++ rest)) :=
        skipWs_gap blank fun d first => by
          cases marks <;> cases first <;> rfl
      rw [split, XmlParser.past_skipMisc, here]
      cases marks with
      | instruction =>
          have behind : (text "<?" ++ (inside ++ text "?>" ++ (more ++ rest))).drop 2 =
              inside ++ text "?>" ++ (more ++ rest) :=
            rfl
          rw [if_pos (starts_token _ _), behind, skipUntil_written (by decide) within,
            ok_bind, ih]
      | comment =>
          have instruction : ¬ starts (text "<?")
              (text "<!--" ++ (inside ++ text "-->" ++ (more ++ rest))) = true :=
            Bool.false_ne_true
          have behind : (text "<!--" ++ (inside ++ text "-->" ++ (more ++ rest))).drop 4 =
              inside ++ text "-->" ++ (more ++ rest) :=
            rfl
          rw [if_neg instruction, if_pos (starts_token _ _), behind,
            skipUntil_written (by decide) within, ok_bind, ih]

theorem unmarked_read (input : Bytes) :
    ∃ mark, (mark = [] ∨ mark = [0xEF, 0xBB, 0xBF]) ∧
      input = mark ++ XmlParser.unmarked input := by
  unfold XmlParser.unmarked
  by_cases marked : starts [0xEF, 0xBB, 0xBF] input = true
  · rw [if_pos marked]
    exact ⟨[0xEF, 0xBB, 0xBF], .inr rfl, starts_read marked⟩
  · rw [if_neg marked]
    exact ⟨[], .inl rfl, rfl⟩

/-- Neither blanks nor tags begin like a byte order mark. -/
theorem MiscText.unmarked {front rest : Bytes} (inside : MiscText front)
    (tag : ∃ more, rest = byte '<' :: more) :
    ∃ c more, front ++ rest = c :: more ∧ c ≠ 0xEF := by
  cases inside with
  | blank blank =>
      cases front with
      | nil =>
          obtain ⟨more, same⟩ := tag
          exact ⟨byte '<', more, same, by decide⟩
      | cons c more =>
          refine ⟨c, more ++ rest, rfl, ?_⟩
          intro same
          have space := blank c List.mem_cons_self
          rw [same] at space
          cases space
  | @section_ gap opening inside closing more blank marks within others =>
      have opened : ∃ token, opening = byte '<' :: token := by
        cases marks with
        | instruction =>
            exact ⟨_, rfl⟩
        | comment =>
            exact ⟨_, rfl⟩
      obtain ⟨token, same⟩ := opened
      cases gap with
      | nil =>
          rw [same]
          exact ⟨byte '<', _, rfl, by decide⟩
      | cons c gap =>
          refine ⟨c, _, rfl, ?_⟩
          intro marked
          have space := blank c List.mem_cons_self
          rw [marked] at space
          cases space

theorem unmarked_written {mark front rest : Bytes}
    (marked : mark = [] ∨ mark = [0xEF, 0xBB, 0xBF]) (inside : MiscText front)
    (tag : ∃ more, rest = byte '<' :: more) :
    XmlParser.unmarked (mark ++ (front ++ rest)) = front ++ rest := by
  unfold XmlParser.unmarked
  rcases marked with same | same
  · obtain ⟨c, more, parts, other⟩ := inside.unmarked tag
    have plain : ¬ starts [0xEF, 0xBB, 0xBF] (front ++ rest) = true := by
      rw [parts]
      intro found
      have within := List.isPrefixOf_iff_prefix.mp found
      exact other (List.cons_prefix_cons.mp within).1.symm
    rw [same, List.nil_append, if_neg plain]
  · rw [same, if_pos (starts_token _ _)]
    rfl

theorem DocumentText.of_parsed {document : Bytes} {root : Node}
    (parsed : XmlParser.parse document = .ok root) :
    DocumentText document root ∧ root.height ≤ 17 ∧ root.size ≤ 200000 := by
  rw [XmlParser.parse_seen] at parsed
  obtain ⟨_, _, parsed⟩ := bind_eq_ok.mp parsed
  obtain ⟨⟨_, behindFront⟩, skipped, parsed⟩ := bind_eq_ok.mp parsed
  obtain ⟨⟨⟨node, after⟩, behindRoot⟩, ran, parsed⟩ := bind_eq_ok.mp parsed
  obtain ⟨⟨_, behindBack⟩, ended, parsed⟩ := bind_eq_ok.mp parsed
  obtain ⟨_, nothing, parsed⟩ := bind_eq_ok.mp parsed
  cases parsed
  dsimp only at ran ended nothing
  obtain ⟨mark, marked, markParts⟩ := unmarked_read document
  obtain ⟨front, frontText, frontParts⟩ := skipMisc_read skipped
  obtain ⟨⟨gap, element, blank, elementText, elementParts⟩, low, counted, few⟩ :=
    element_read ran
  obtain ⟨back, backText, backParts⟩ := skipMisc_read ended
  obtain ⟨rest, restBlank, restParts⟩ := skipWs_read behindBack
  have nothing : skipWs behindBack = [] := not_not.mp (rejectIf_eq_ok.mp nothing)
  rw [nothing, List.append_nil] at restParts
  refine ⟨⟨mark, front ++ gap, element, back ++ behindBack, ?_, marked,
    frontText.append blank, elementText, backText.append (restParts ▸ restBlank)⟩, ?_, ?_⟩
  · rw [markParts, frontParts, elementParts, backParts]
    simp only [List.append_assoc]
  · dsimp only
    omega
  · dsimp only
    omega

theorem DocumentText.parsed {document : Bytes} {root : Node}
    (inside : DocumentText document root) (short : document.length ≤ textLimit)
    (low : root.height ≤ 17) (few : root.size ≤ 200000) :
    XmlParser.parse document = .ok root := by
  obtain ⟨mark, front, element, back, parts, marked, frontText, elementText, backText⟩ :=
    inside.written
  obtain ⟨c, more, opens, inName⟩ := elementText.head
  have tag : ∃ more, element ++ back = byte '<' :: more := by
    rw [opens]
    exact ⟨_, rfl⟩
  have settled : Settled (element ++ back) := by
    rw [opens]
    exact .inr ⟨c, _, rfl, inName⟩
  have split : document = mark ++ (front ++ (element ++ back)) := by
    rw [parts]
    simp only [List.append_assoc]
  have noGap : Blank [] := fun _ member => absurd member List.not_mem_nil
  have root_ := elementText.parsed noGap (show 0 + root.height ≤ 17 by omega)
    (show 0 + root.size ≤ 200000 by omega) back
  have ended := backText.skipped (.inl rfl)
  rw [List.nil_append] at root_
  rw [List.append_nil] at ended
  rw [XmlParser.parse_seen, rejectIf_of_not (Nat.not_lt.mpr short), ok_bind, split,
    unmarked_written marked frontText tag, frontText.skipped settled, ok_bind, root_, ok_bind,
    ended, ok_bind]
  have nothing : ¬ skipWs [] ≠ [] := not_not.mpr rfl
  rw [rejectIf_of_not nothing, ok_bind]

end XmlText

/-- The parser accepts exactly the documents of at most 4 MiB that the grammar derives
with at most 17 nested elements and at most 200000 of them, and returns the tree they
are derived with. -/
theorem xmlParser_exact (document : Bytes) (root : Node) :
    XmlParser.parse document = .ok root ↔
      document.length ≤ textLimit ∧ XmlText.DocumentText document root ∧
        root.height ≤ 17 ∧ root.size ≤ 200000 := by
  constructor
  · intro parsed
    have short : document.length ≤ textLimit := by
      rw [XmlParser.parse_seen] at parsed
      obtain ⟨_, passed, _⟩ := bind_eq_ok.mp parsed
      exact Nat.not_lt.mp (rejectIf_eq_ok.mp passed)
    exact ⟨short, XmlText.DocumentText.of_parsed parsed⟩
  · rintro ⟨short, inside, low, few⟩
    exact inside.parsed short low few

end NativeDNS

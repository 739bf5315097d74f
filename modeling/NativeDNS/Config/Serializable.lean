/-
The values the writer takes, and the attributes fields are read from.

The reader takes any byte from a numeric entity and any byte that is no control
character as it stands; the writer refuses values that are no UTF-8 and most control
characters.  A field that was read is written again exactly when the writer takes the
attribute it was read from: numbers, flags and names always, texts and lists when they
are such values.
-/
import NativeDNS.Config.RoundTrip
import NativeDNS.Library.Lists
import Mathlib.Algebra.Order.BigOperators.Group.List
import Mathlib.Algebra.Order.Group.Nat

namespace NativeDNS

open ByteText (text byte decimal pieces joined)
open CheckedResult

/-! ### Lengths of values -/

theorem appendUtf8_length_le (point : Nat) : (appendUtf8 point).length ≤ 4 := by
  unfold appendUtf8
  repeat' split
  all_goals
    simp only [List.length_cons, List.length_nil]
    decide

theorem decodeEntity_length {entity decoded : Bytes} (stands : decodeEntity entity = .ok decoded) :
    decoded.length ≤ entity.length + 2 := by
  unfold decodeEntity at stands
  split at stands
  · cases stands
    exact Nat.le_add_left _ _
  · split at stands
    · cases stands
      exact Nat.le_add_left _ _
    · split at stands
      · cases stands
        exact Nat.le_add_left _ _
      · split at stands
        · cases stands
          exact Nat.le_add_left _ _
        · split at stands
          · cases stands
            exact Nat.le_add_left _ _
          · split at stands
            · rename_i numeric
              simp only [decodeNumericEntity, bind_eq_ok] at stands
              obtain ⟨_, _, point, _, _, _, same⟩ := stands
              cases same
              have short := appendUtf8_length_le point
              omega
            · cases stands

namespace XmlText

theorem BodyText.length_le {quote : UInt8} {body value : Bytes}
    (inside : BodyText quote body value) : value.length ≤ body.length := by
  induction inside with
  | nil =>
      exact Nat.le_refl 0
  | entity whole stands others ih =>
      have short := decodeEntity_length stands
      simp only [List.length_append, List.length_cons]
      omega
  | character inside plain printable others ih =>
      exact Nat.succ_le_succ ih

theorem ValueText.length_le {written value : Bytes} (stated : ValueText written value) :
    value.length ≤ written.length := by
  cases stated with
  | quoted opens inside =>
      have short := inside.length_le
      simp only [List.length_append, List.length_cons]
      omega

theorem FieldsText.length_le {fields : Bytes} {entries : List (Bytes × Bytes)}
    (stated : FieldsText fields entries) :
    ∀ entry ∈ entries, entry.2.length ≤ fields.length := by
  induction stated with
  | nil =>
      exact fun _ member => absurd member List.not_mem_nil
  | field blank called blankBefore blankBehind quoted others ih =>
      have short := quoted.length_le
      intro entry member
      simp only [List.length_append]
      rcases List.mem_cons.mp member with same | later
      · subst same
        simp only
        omega
      · have behind := ih entry later
        omega

theorem TagText.length_le {tag called : Bytes} {attrs : Metadata}
    (stated : TagText tag called attrs) :
    ∀ entry ∈ attrs.entries, entry.2.length ≤ tag.length := by
  obtain ⟨fields, gap, entries, parts, _, _, inside, _, kept⟩ := stated.written
  intro entry member
  have short := inside.length_le entry (kept.mem_iff.mp member)
  rw [parts]
  simp only [List.length_append]
  omega

theorem ElementText.values_le {alone : Bool} {written : Bytes} {root node : Node}
    (inside : ElementText alone written root) (element : ElementOf root node) :
    ∀ entry ∈ node.attrs.entries, entry.2.length ≤ written.length := by
  intro entry member
  obtain ⟨inner, within, stated⟩ := inside.element_written element
  have outer := within.length_le
  cases stated with
  | selfClosing admitted opening =>
      have short := opening.length_le entry member
      simp only [List.length_append] at outer
      omega
  | closed opening content blank =>
      have short := opening.length_le entry member
      simp only [List.length_append] at outer
      omega

end XmlText

open XmlText in
theorem parsed_values_le {document : Bytes} {root node : Node}
    (parsed : XmlParser.parse document = .ok root) (element : ElementOf root node) :
    ∀ entry ∈ node.attrs.entries, entry.2.length ≤ textLimit := by
  obtain ⟨short, inside, _⟩ := (xmlParser_exact document root).mp parsed
  obtain ⟨mark, front, written, back, parts, _, _, stated, _⟩ := inside.written
  intro entry member
  have bound := stated.values_le element entry member
  rw [parts] at short
  simp only [List.length_append] at short
  omega

namespace Document

/-! ### Values the writer takes -/

/-- A value the writer takes when it is short enough. -/
structure Serializable (value : Bytes) : Prop where
  wellFormed : WellFormedUtf8 value
  printable : ∀ c ∈ value, Printable c

instance : DecidablePred Serializable := fun value =>
  @decidable_of_iff _ (WellFormedUtf8 value ∧ ∀ c ∈ value, Printable c)
    ⟨fun both => ⟨both.1, both.2⟩, fun taken => ⟨taken.wellFormed, taken.printable⟩⟩
    (@instDecidableAnd _ _ _ (List.decidableBAll Printable value))

theorem escapable_iff {value : Bytes} :
    Escapable value ↔ value.length ≤ textLimit ∧ Serializable value :=
  ⟨fun escapable => ⟨escapable.short, escapable.wellFormed, escapable.printable⟩,
    fun ⟨short, taken⟩ => ⟨short, taken.wellFormed, taken.printable⟩⟩

/-- A text of printable ASCII characters. -/
def Plain (value : Bytes) : Prop :=
  ∀ c ∈ value, 32 ≤ c ∧ c < 0x80

instance : DecidablePred Plain := fun value =>
  List.decidableBAll (fun c => 32 ≤ c ∧ c < 0x80) value

theorem Plain.serializable {value : Bytes} (plain : Plain value) : Serializable value where
  wellFormed := wellFormedUtf8_of_ascii fun c member => (plain c member).2
  printable := fun c member control => UInt8.not_lt.mpr (plain c member).1 control.1

theorem Plain.escapable {value : Bytes} (plain : Plain value)
    (short : value.length ≤ textLimit) : Escapable value :=
  escapable_iff.mpr ⟨short, plain.serializable⟩

theorem plain_of_digits {value : Bytes} (all : value.all ByteText.isDigit = true) :
    Plain value := by
  intro c member
  have digit := List.all_eq_true.mp all c member
  refine ⟨?_, ByteText.isDigit_ascii digit⟩
  simp only [ByteText.isDigit, Bool.and_eq_true, decide_eq_true_eq] at digit
  rw [UInt8.le_iff_toNat_le]
  exact Nat.le_trans (by decide) digit.1

theorem plain_decimal (value : Nat) : Plain (decimal value) :=
  plain_of_digits (ByteText.decimal_all_isDigit value)

theorem serializable_append {front back : Bytes} {c : UInt8} (plain : 32 ≤ c ∧ c < 0x80) :
    Serializable (front ++ c :: back) ↔ Serializable front ∧ Serializable back := by
  have printable : Printable c := fun control => UInt8.not_lt.mpr plain.1 control.1
  constructor
  · intro whole
    obtain ⟨first, second⟩ := (wellFormedUtf8_append_ascii plain.2).mp whole.wellFormed
    exact
      ⟨⟨first, fun d member => whole.printable d (List.mem_append_left _ member)⟩,
        second, fun d member =>
          whole.printable d (List.mem_append_right _ (List.mem_cons_of_mem c member))⟩
  · rintro ⟨first, second⟩
    refine ⟨(wellFormedUtf8_append_ascii plain.2).mpr ⟨first.wellFormed, second.wellFormed⟩, ?_⟩
    intro d member
    rcases List.mem_append.mp member with inFirst | inSecond
    · exact first.printable d inFirst
    · rcases List.mem_cons.mp inSecond with same | later
      · rw [same]
        exact printable
      · exact second.printable d later

theorem serializable_nil : Serializable [] :=
  ⟨wellFormedUtf8_nil, fun _ member => absurd member List.not_mem_nil⟩

theorem serializable_joined {values : List Bytes} :
    Serializable (joined (byte ';') values) ↔ ∀ entry ∈ values, Serializable entry := by
  induction values with
  | nil =>
      exact ⟨fun _ _ member => absurd member List.not_mem_nil, fun _ => serializable_nil⟩
  | cons first rest ih =>
      cases rest with
      | nil =>
          rw [List.forall_mem_singleton]
          exact Iff.rfl
      | cons next more =>
          rw [ByteText.joined_cons (byte ';') first next more,
            serializable_append (by decide), ih, ← List.forall_mem_cons]

theorem join_split (value : Bytes) :
    join (split value) = joined (byte ';') (split value) :=
  join_joined fun entry member => (split_splittable value entry member).1

theorem serializable_join_split {value : Bytes} :
    Serializable (join (split value)) ↔ Serializable value := by
  have whole := @serializable_joined (pieces (byte ';') value)
  rw [ByteText.joined_pieces] at whole
  rw [join_split, serializable_joined, whole]
  constructor
  · intro kept entry member
    by_cases empty : entry = []
    · rw [empty]
      exact serializable_nil
    · exact kept entry (List.mem_filter.mpr ⟨member, decide_eq_true empty⟩)
  · intro all entry member
    exact all entry (List.mem_filter.mp member).1

theorem joined_split_length (value : Bytes) {values : List Bytes}
    (shorter : (values.map fun entry => entry.length + 1).sum ≤
      ((split value).map fun entry => entry.length + 1).sum) :
    (joined (byte ';') values).length ≤ value.length := by
  have measured : ∀ entries : List Bytes, (joined (byte ';') entries).length =
      (entries.map fun entry => entry.length + 1).sum - 1 :=
    ByteText.length_joined (byte ';')
  have kept : ((split value).map fun entry => entry.length + 1).sum ≤
      ((pieces (byte ';') value).map fun entry => entry.length + 1).sum :=
    (List.Sublist.map _ List.filter_sublist).sum_le_sum fun _ _ => Nat.zero_le _
  calc
    (joined (byte ';') values).length
        = (values.map fun entry => entry.length + 1).sum - 1 := measured values
    _ ≤ ((pieces (byte ';') value).map fun entry => entry.length + 1).sum - 1 :=
      Nat.sub_le_sub_right (Nat.le_trans shorter kept) 1
    _ = value.length := by rw [← measured, ByteText.joined_pieces]

/-! ### Numbers and lists of numbers -/

theorem number_eq_ok {value : Bytes} {result : UInt32} (read : number value = .ok result) :
    value.all ByteText.isDigit = true ∧ (decimal result.toNat).length ≤ value.length := by
  unfold number readUint32 at read
  cases digits : ByteText.readDecimal 4294967295 value with
  | none =>
      rw [digits] at read
      cases read
  | some found =>
      rw [digits] at read
      cases read
      have all := ByteText.readDecimal_all_isDigit digits
      have bound := ByteText.readDecimal_le digits
      have nonempty : value ≠ [] ∧ ByteText.digitsValue value = found := by
        unfold ByteText.readDecimal at digits
        split at digits
        · rename_i accepted
          exact ⟨accepted.1, Option.some.inj digits⟩
        · cases digits
      have small := ByteText.digitsValue_lt all
      rw [nonempty.2] at small
      have same : (UInt32.ofNat found).toNat = found := by
        rw [UInt32.toNat_ofNat']
        exact Nat.mod_eq_of_lt (by omega)
      refine ⟨all, ?_⟩
      rw [same]
      exact ByteText.decimal_length_le (List.length_pos_iff.mpr nonempty.1) small

theorem splitIds_eq_ok {value : Bytes} {ids : List UInt32} (read : splitIds value = .ok ids) :
    (∀ entry ∈ split value, entry.all ByteText.isDigit = true) ∧
      ((ids.map fun id => decimal id.toNat).map fun entry => entry.length + 1).sum ≤
        ((split value).map fun entry => entry.length + 1).sum := by
  have numbers := Lists.mapM_eq_ok.mp read
  clear read
  generalize split value = entries at numbers ⊢
  induction numbers with
  | nil =>
      exact ⟨fun _ member => absurd member List.not_mem_nil, Nat.le_refl 0⟩
  | cons first _ ih =>
      obtain ⟨digits, short⟩ := number_eq_ok first
      obtain ⟨allDigits, shorter⟩ := ih
      refine ⟨List.forall_mem_cons.mpr ⟨digits, allDigits⟩, ?_⟩
      simp only [List.map_cons, List.sum_cons]
      omega

theorem joinIds_escapable {value : Bytes} {ids : List UInt32} (read : splitIds value = .ok ids)
    (short : value.length ≤ textLimit) : Escapable (joinIds ids) := by
  have nonempty : ∀ entry ∈ ids.map fun id => decimal id.toNat, entry ≠ [] := by
    intro entry member
    obtain ⟨id, _, same⟩ := List.mem_map.mp member
    rw [← same]
    exact ByteText.decimal_ne_nil _
  unfold joinIds
  rw [join_joined nonempty, escapable_iff, serializable_joined]
  refine ⟨Nat.le_trans (joined_split_length value (splitIds_eq_ok read).2) short, ?_⟩
  intro entry member
  obtain ⟨id, _, same⟩ := List.mem_map.mp member
  rw [← same]
  exact (plain_decimal _).serializable

/-! ### Values of a tree -/

/-- Every attribute value of a tree has a property. -/
def EveryValue (holds : Bytes → Prop) (root : Node) : Prop :=
  ∀ node, XmlText.ElementOf root node → ∀ entry ∈ node.attrs.entries, holds entry.2

theorem everyValue_iff {holds : Bytes → Prop} {root : Node} :
    EveryValue holds root ↔
      (∀ entry ∈ root.attrs.entries, holds entry.2) ∧
        ∀ child ∈ root.children, EveryValue holds child := by
  constructor
  · intro every
    exact ⟨every root .self, fun child member node within =>
      every node (.child member within)⟩
  · rintro ⟨own, others⟩ node within
    cases within with
    | self =>
        exact own
    | child member deeper =>
        exact others _ member node deeper

/-- A value that is not too long to be written. -/
def Short (value : Bytes) : Prop :=
  value.length ≤ textLimit

/-- The attribute a field was read from is one the writer takes exactly when the field
is. -/
def Agrees (node : Node) (key written : Bytes) : Prop :=
  Escapable written ↔ Serializable (attr node key)

theorem attr_fallback (node : Node) (key fallback : Bytes) :
    attr node key fallback = fallback ∧ attr node key = [] ∨
      attr node key fallback = attr node key := by
  unfold attr
  cases node.attrs.find? key with
  | none =>
      exact .inl ⟨rfl, rfl⟩
  | some value =>
      exact .inr rfl

theorem plain_nil : Plain [] :=
  fun _ member => absurd member List.not_mem_nil

theorem plain_attr {node : Node} {key fallback : Bytes}
    (plain : Plain (attr node key fallback)) : Plain (attr node key) := by
  rcases attr_fallback node key fallback with ⟨_, absent⟩ | same
  · rw [absent]
    exact plain_nil
  · rwa [← same]

theorem agrees_of_plain {node : Node} {key written : Bytes} (plain : Plain written)
    (short : written.length ≤ textLimit) (read : Plain (attr node key)) :
    Agrees node key written :=
  ⟨fun _ => read.serializable, fun _ => plain.escapable short⟩

theorem decimal_short (value : UInt32) : (decimal value.toNat).length ≤ textLimit := by
  have bound := value.toNat_lt
  have digits : (decimal value.toNat).length ≤ 10 :=
    ByteText.decimal_length_le (by decide) (by omega)
  exact Nat.le_trans digits (by decide)

theorem num_agrees {node : Node} {key : Bytes} {fallback value : UInt32}
    (read : num node key fallback = .ok value) : Agrees node key (decimal value.toNat) :=
  agrees_of_plain (plain_decimal _) (decimal_short value)
    (plain_attr (plain_of_digits (number_eq_ok read).1))

theorem flag_agrees {node : Node} {key : Bytes} {fallback value : Bool}
    (read : flag node key fallback = .ok value) : Agrees node key (flagText value) := by
  obtain ⟨_, checked, _⟩ := bind_eq_ok.mp read
  have either := rejectIf_eq_ok.mp checked
  refine agrees_of_plain ?_ ?_ (@plain_attr node key (flagText fallback) ?_)
  · cases value <;> decide
  · cases value <;> decide
  · by_cases zero : attr node key (flagText fallback) = text "0"
    · rw [zero]
      decide
    · have one : attr node key (flagText fallback) = text "1" :=
        Decidable.byContradiction fun other => either ⟨zero, other⟩
      rw [one]
      decide

theorem protocol_agrees {node : Node} {key : Bytes} {value : Protocol}
    (read : protocol (attr node key) = .ok value) :
    Agrees node key (protocolName value) := by
  refine agrees_of_plain ?_ ?_ ?_
  · cases value <;> decide
  · cases value <;> decide
  · unfold protocol at read
    split at read
    · rename_i found listed
      have same : attr node key = protocolName found := by
        simpa using List.find?_some listed
      rw [same]
      cases found <;> decide
    · split at read
      · rename_i same
        rw [same]
        decide
      · cases read

theorem action_agrees {node : Node} {key : Bytes} {value : Action}
    (read : action (attr node key) = .ok value) : Agrees node key (actionName value) := by
  refine agrees_of_plain ?_ ?_ ?_
  · cases value <;> decide
  · cases value <;> decide
  · unfold action at read
    split at read
    · rename_i either
      rcases either with same | same
      · rw [same]
        decide
      · rw [same]
        decide
    · split at read
      · rename_i same
        rw [same]
        decide
      · split at read
        · rename_i same
          rw [same]
          decide
        · cases read

section

variable {node : Node} (short : ∀ entry ∈ node.attrs.entries, Short entry.2)

include short

theorem attr_short (key : Bytes) : (attr node key).length ≤ textLimit := by
  unfold attr
  cases found : node.attrs.find? key with
  | none =>
      exact Nat.zero_le _
  | some value =>
      exact short (key, value) (OrderedMap.find?_eq_some_iff.mp found)

theorem text_agrees (key : Bytes) : Agrees node key (attr node key) :=
  ⟨fun escapable => (escapable_iff.mp escapable).2,
    fun taken => escapable_iff.mpr ⟨attr_short short key, taken⟩⟩

theorem default_agrees {key fallback : Bytes} (plain : Plain fallback)
    (small : fallback.length ≤ textLimit) : Agrees node key (attr node key fallback) := by
  rcases attr_fallback node key fallback with ⟨standing, absent⟩ | same
  · refine agrees_of_plain ?_ ?_ ?_
    · rwa [standing]
    · rwa [standing]
    · rw [absent]
      exact plain_nil
  · rw [same]
    exact text_agrees short key

theorem list_agrees (key : Bytes) : Agrees node key (join (split (attr node key))) := by
  have small : (join (split (attr node key))).length ≤ textLimit := by
    rw [join_split]
    exact Nat.le_trans (joined_split_length _ (Nat.le_refl _)) (attr_short short key)
  unfold Agrees
  rw [escapable_iff, serializable_join_split]
  exact ⟨fun both => both.2, fun taken => ⟨small, taken⟩⟩

theorem ids_agrees {key : Bytes} {ids : List UInt32}
    (read : splitIds (attr node key) = .ok ids) : Agrees node key (joinIds ids) := by
  have digits := (splitIds_eq_ok read).1
  have taken : Serializable (attr node key) := by
    rw [← serializable_join_split, join_split, serializable_joined]
    exact fun entry member => (plain_of_digits (digits entry member)).serializable
  exact ⟨fun _ => taken, fun _ => joinIds_escapable read (attr_short short key)⟩

end

/-- An element with known attributes is written exactly when the attributes it was read
from are ones the writer takes. -/
theorem fields_agree {node : Node} {keys : List Bytes} {entries : List (Bytes × Bytes)}
    (listed : known node keys = .ok ())
    (agree : List.Forall₂ (fun key entry => Agrees node key entry.2) keys entries) :
    (∀ entry ∈ entries, Escapable entry.2) ↔
      ∀ entry ∈ node.attrs.entries, Serializable entry.2 := by
  have byKey : (∀ entry ∈ entries, Escapable entry.2) ↔
      ∀ key ∈ keys, Serializable (attr node key) := by
    clear listed
    induction agree with
    | nil =>
        exact ⟨fun _ _ member => absurd member List.not_mem_nil,
          fun _ _ member => absurd member List.not_mem_nil⟩
    | cons here _ ih =>
        rw [List.forall_mem_cons, List.forall_mem_cons, ih]
        exact and_congr here Iff.rfl
  rw [byKey]
  constructor
  · intro taken entry member
    have inside : entry.1 ∈ keys := by
      unfold known at listed
      split at listed
      · cases listed
      · rename_i nothing
        have allowed := List.find?_eq_none.mp nothing entry member
        exact Decidable.byContradiction fun unlisted => allowed (decide_eq_true unlisted)
    have found : node.attrs.find? entry.1 = some entry.2 :=
      OrderedMap.find?_eq_some_iff.mpr member
    have value := taken entry.1 inside
    unfold attr at value
    rwa [found] at value
  · intro taken key _
    unfold attr
    cases found : node.attrs.find? key with
    | none =>
        exact serializable_nil
    | some value =>
        exact taken (key, value) (OrderedMap.find?_eq_some_iff.mp found)

end Document

end NativeDNS

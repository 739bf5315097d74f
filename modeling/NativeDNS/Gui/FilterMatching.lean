/-
A compiled filter evaluates its expression, and where it does not.

The pattern of a value with wildcards is the value, escaped character by
character, with an expression in place of each wildcard.  The engine's dot stops
at a line feed and its end anchor stands before a last one as well, so a filter
and its expression may differ on a record whose text has one, and only there.
-/
import NativeDNS.Gui.LogFilter
import Mathlib.Data.List.Infix

namespace NativeDNS

namespace LogFilter

open Wildcard

/-! ### The pattern of a value -/

def itemText : Item Char → UText
  | .literal c => escapeCharacter c
  | .any => ['.']
  | .run => ['.', '*']

def render (pattern : List (Item Char)) : UText :=
  pattern.flatMap itemText

/-- Replacing a pair in a text of characters and escaped characters. -/
inductive Replaces (first second : Char) (after : UText) : UText → UText → Prop
  | nil : Replaces first second after [] []
  | plain {c : Char} {rest image : UText} (other : c ≠ first) (different : c ≠ second)
      (later : Replaces first second after rest image) :
      Replaces first second after (c :: rest) (c :: image)
  | escaped {c : Char} {rest image : UText} (different : c ≠ second)
      (later : Replaces first second after rest image) :
      Replaces first second after (first :: c :: rest) (first :: c :: image)
  | replaced {rest image : UText} (later : Replaces first second after rest image) :
      Replaces first second after (first :: second :: rest) (after ++ image)

section Replacing

variable {first second : Char} {after : UText}

theorem replacePair_other {c : Char} (other : c ≠ first) (rest : UText) :
    replacePair first second after (c :: rest) =
      c :: replacePair first second after rest := by
  cases rest with
  | nil =>
      rfl
  | cons d rest =>
      rw [replacePair, if_neg fun same => other same.1]

theorem replacePair_before {rest : UText} (front : rest.head? ≠ some second) :
    replacePair first second after (first :: rest) =
      first :: replacePair first second after rest := by
  cases rest with
  | nil =>
      rfl
  | cons d rest =>
      rw [replacePair, if_neg fun same => front (congrArg some same.2)]

theorem Replaces.head {source image : UText} (distinct : first ≠ second)
    (replaces : Replaces first second after source image) :
    source.head? ≠ some second := by
  cases replaces with
  | nil =>
      exact nofun
  | plain other different later =>
      exact fun same => different (Option.some.inj same)
  | escaped different later =>
      exact fun same => distinct (Option.some.inj same)
  | replaced later =>
      exact fun same => distinct (Option.some.inj same)

theorem Replaces.eq {source image : UText} (distinct : first ≠ second)
    (replaces : Replaces first second after source image) :
    replacePair first second after source = image := by
  induction replaces with
  | nil =>
      rfl
  | plain other different later ih =>
      rw [replacePair_other other, ih]
  | @escaped c rest image different later ih =>
      have notPair : (c :: rest).head? ≠ some second :=
        fun same => different (Option.some.inj same)
      rw [replacePair_before notPair]
      -- An escaped escape character does not begin a pair either.
      by_cases twice : c = first
      · subst twice
        rw [replacePair_before (later.head distinct), ih]
      · rw [replacePair_other twice, ih]
  | replaced later ih =>
      rw [replacePair, if_pos ⟨rfl, rfl⟩, ih]

end Replacing

theorem Replaces.escapeCharacter {c second : Char} {after rest image : UText}
    (different : c ≠ second) (wild : isWordCharacter second = false)
    (later : Replaces '\\' second after rest image) :
    Replaces '\\' second after (escapeCharacter c ++ rest) (escapeCharacter c ++ image) := by
  unfold LogFilter.escapeCharacter
  split
  · refine .escaped (fun same => ?_) later
    rw [← same] at wild
    exact absurd wild (by decide)
  split
  · rename_i word
    refine .plain (fun same => ?_) different later
    rw [same] at word
    exact absurd word (by decide)
  · exact .escaped different later

def starred (value : UText) : UText :=
  value.flatMap fun c => if c = '*' then ['.', '*'] else escapeCharacter c

theorem escape_starred (value : UText) :
    Replaces '\\' '*' ['.', '*'] (escape value) (starred value) := by
  induction value with
  | nil =>
      exact .nil
  | cons c value ih =>
      rw [escape, starred, List.flatMap_cons, List.flatMap_cons]
      by_cases star : c = '*'
      · subst star
        exact .replaced ih
      · rw [if_neg star]
        exact ih.escapeCharacter star (by decide)

theorem starred_render (value : UText) :
    Replaces '\\' '?' ['.'] (starred value) (render (items value)) := by
  induction value with
  | nil =>
      exact .nil
  | cons c value ih =>
      rw [starred, List.flatMap_cons, items, List.map_cons, render, List.flatMap_cons, itemOf]
      by_cases star : c = '*'
      · subst star
        exact .plain (by decide) (by decide) (.plain (by decide) (by decide) ih)
      rw [if_neg star, if_neg star]
      by_cases question : c = '?'
      · subst question
        exact .replaced ih
      · rw [if_neg question]
        exact ih.escapeCharacter question (by decide)

theorem wildcardPattern_eq (value : UText) : wildcardPattern value = render (items value) := by
  rw [wildcardPattern, (escape_starred value).eq (by decide),
    (starred_render value).eq (by decide)]

/-! ### What is taken from Qt -/

def operators : List Char :=
  ['!', '(', ')', '&', '|', '=', '"']

def inLine (c : Char) : Bool :=
  c != '\n'

/-- Qt classifies, reads and matches as documented.  A pattern of escaped
characters, dots and runs of dots matches a part of a text; an anchored one
matches the text, or what stands before a last line feed. -/
structure FilterQtCorrect (qt : FilterQt) : Prop where
  spaces : ∀ c, qt.isSpace c = true →
    c ∉ operators ∧ c ≠ '_' ∧ qt.isLetter c = false
  letters : ∀ c, qt.isLetter c = true → c ∉ operators
  names : ∀ field : Field, (∀ c ∈ field.name, qt.isLetter c = true ∨ c = '_') ∧
    qt.toLower field.name = field.name
  lower : qt.toLower [] = []
  wildcards : ∀ c wild, wild = '*' ∨ wild = '?' → qt.fold c = qt.fold wild → c = wild
  numbers : ∀ value number, qt.toUInt value = some number → '?' ∉ value
  part : ∀ pattern text, qt.hasMatch (render pattern) text = true ↔
    hasInstance qt.same inLine pattern text
  whole : ∀ pattern text, qt.hasMatch (anchored (render pattern)) text = true ↔
    isInstance qt.same inLine pattern text = true ∨
      ∃ line, text = line ++ ['\n'] ∧ isInstance qt.same inLine pattern line = true

/-! ### Values without wildcards -/

section Matching

variable {qt : FilterQt}

theorem items_plain {value : UText} (plain : hasWildcard value = false) :
    items value = value.map .literal := by
  simp only [hasWildcard, Bool.or_eq_false_iff, List.contains_eq_mem,
    decide_eq_false_iff_not] at plain
  refine List.map_congr_left fun c member => ?_
  have star : c ≠ '*' := fun same => plain.1 (same ▸ member)
  have question : c ≠ '?' := fun same => plain.2 (same ▸ member)
  rw [itemOf, if_neg star, if_neg question]

theorem equals_iff {value : UText} (plain : hasWildcard value = false) (text : UText)
    (free : Char → Bool) :
    qt.equals text value = isInstance qt.same free (items value) text := by
  rw [items_plain plain]
  exact (isInstance_literals value text).symm

theorem contains_iff {value : UText} (plain : hasWildcard value = false) (text : UText)
    (free : Char → Bool) :
    qt.contains text value = true ↔ hasInstance qt.same free (items value) text := by
  have agrees : ∀ part, isInstance qt.same free (items value) part = true ↔
      part.map qt.fold = value.map qt.fold := by
    intro part
    rw [← equals_iff plain part free, FilterQt.equals, beq_iff_eq]
  simp only [FilterQt.contains, List.any_eq_true, List.mem_tails, List.isPrefixOf_iff_prefix]
  constructor
  · rintro ⟨tail, ⟨front, whole⟩, rest, same⟩
    obtain ⟨part, back, rfl, partSame, _⟩ := List.map_eq_append_iff.mp same.symm
    refine ⟨front, part, back, ?_, (agrees part).mpr partSame⟩
    rw [List.append_assoc, whole]
  · rintro ⟨front, part, back, whole, found⟩
    refine ⟨part ++ back, ⟨front, ?_⟩, back.map qt.fold, ?_⟩
    · rw [whole, List.append_assoc]
    · rw [List.map_append, (agrees part).mp found]

/-! ### Conditions on whole fields -/

theorem inLine_of_not_mem {text : UText} (single : '\n' ∉ text) :
    ∀ c ∈ text, inLine c = true := by
  intro c member
  exact bne_iff_ne.mpr fun same => single (same ▸ member)

theorem hasMatch_anchored (correct : FilterQtCorrect qt) {value text : UText}
    (single : '\n' ∉ text) :
    qt.hasMatch (anchored (wildcardPattern value)) text =
      isInstance qt.same (fun _ => true) (items value) text := by
  have lines : ¬ ∃ line, text = line ++ ['\n'] ∧
      isInstance qt.same inLine (items value) line = true := by
    rintro ⟨line, whole, _⟩
    exact single (whole ▸ List.mem_append_right line List.mem_cons_self)
  rw [Bool.eq_iff_iff, wildcardPattern_eq, correct.whole, or_iff_left lines,
    isInstance_congr (inLine_of_not_mem single)]

theorem hasMatch_part (correct : FilterQtCorrect qt) {value text : UText}
    (single : '\n' ∉ text) :
    qt.hasMatch (wildcardPattern value) text = true ↔
      hasInstance qt.same (fun _ => true) (items value) text := by
  rw [wildcardPattern_eq, correct.part,
    hasInstance_congr (inLine_of_not_mem single)]

theorem field_matches (correct : FilterQtCorrect qt) {field : Field} (other : field ≠ .err)
    {value text : UText} (single : '\n' ∉ text) :
    (match patternOf field value with
      | some pattern => qt.hasMatch pattern text
      | none => qt.equals text value) =
      isInstance qt.same (fun _ => true) (items value) text := by
  unfold patternOf
  by_cases wild : hasWildcard value = true
  · rw [if_pos wild, if_neg other]
    exact hasMatch_anchored correct single
  · rw [if_neg wild]
    exact equals_iff (Bool.eq_false_iff.mpr wild) text _

/-- The value `*` fails only where a line feed is not the last character. -/
theorem star_matches (correct : FilterQtCorrect qt) (text : UText) :
    qt.hasMatch (anchored (wildcardPattern ['*'])) text = true ↔ '\n' ∉ text.dropLast := by
  have runs : ∀ line : UText,
      isInstance qt.same inLine (items ['*']) line = true ↔ '\n' ∉ line := by
    intro line
    rw [show items ['*'] = [.run] from rfl, isInstance_run, List.all_eq_true]
    exact ⟨fun free member => absurd (free '\n' member) (by decide), inLine_of_not_mem⟩
  rw [wildcardPattern_eq, correct.whole, runs]
  simp only [runs]
  constructor
  · rintro (single | ⟨line, rfl, single⟩)
    · exact fun member => single (List.mem_of_mem_dropLast member)
    · rwa [List.dropLast_concat]
  · intro single
    rcases List.eq_nil_or_concat text with rfl | ⟨line, last, rfl⟩
    · exact .inl List.not_mem_nil
    rw [List.concat_eq_append, List.dropLast_concat] at single
    by_cases feed : last = '\n'
    · exact .inr ⟨line, by rw [List.concat_eq_append, feed], single⟩
    · refine .inl fun member => ?_
      rcases List.mem_append.mp (List.concat_eq_append ▸ member) with front | back
      · exact single front
      · exact feed (List.mem_singleton.mp back).symm

theorem actionName_plain (correct : FilterQtCorrect qt) {name value : UText}
    (known : name ∈ actionNames) (same : qt.equals value name = true) :
    hasWildcard value = false := by
  have free : ∀ wild, wild = '*' ∨ wild = '?' → wild ∉ value := by
    intro wild kind member
    have folded : qt.fold wild ∈ name.map qt.fold := by
      rw [← beq_iff_eq.mp same]
      exact List.mem_map_of_mem member
    obtain ⟨c, inside, equal⟩ := List.mem_map.mp folded
    have wildInside : wild ∈ name := correct.wildcards c wild kind equal ▸ inside
    have plain : ∀ name ∈ actionNames, '*' ∉ name ∧ '?' ∉ name := by decide
    rcases kind with rfl | rfl
    · exact (plain name known).1 wildInside
    · exact (plain name known).2 wildInside
  simp only [hasWildcard, Bool.or_eq_false_iff, List.contains_eq_mem,
    decide_eq_false_iff_not]
  exact ⟨free '*' (.inl rfl), free '?' (.inr rfl)⟩

/-! ### Records in lines -/

/-- The fields a filter compares as a whole are single lines, except that an
action may end its line, and so is what an error says. -/
structure Record.OneLine (record : Record) : Prop where
  address : '\n' ∉ record.address
  dnsType : '\n' ∉ record.dnsType
  rule : '\n' ∉ record.rule
  action : '\n' ∉ record.action.dropLast
  error : record.error = true → '\n' ∉ record.errorText

variable {record : Record}

theorem Node.matches_err (value : UText) (pattern : Option UText) :
    (Node.predicate .err value pattern).matches qt record =
      (record.error &&
        (value == [] || value == ['*'] ||
          match pattern with
          | some pattern => qt.hasMatch pattern record.errorText
          | none => qt.contains record.errorText value)) :=
  rfl

theorem Node.matches_field {field : Field} (other : field ≠ .err) (value : UText)
    (pattern : Option UText) :
    (Node.predicate field value pattern).matches qt record =
      (record.fieldText field != [] &&
        match pattern with
        | some pattern => qt.hasMatch pattern (record.fieldText field)
        | none => qt.equals (record.fieldText field) value) := by
  cases field with
  | err =>
      exact absurd rfl other
  | addr | dnsType | rule | action =>
      rfl

theorem holds_field {field : Field} (other : field ≠ .err) (value : UText) :
    holds qt record field value ↔
      record.fieldText field ≠ [] ∧
        isInstance qt.same (fun _ => true) (items (standsFor qt field value))
          (record.fieldText field) = true := by
  cases field with
  | err =>
      exact absurd rfl other
  | addr | dnsType | rule | action =>
      rfl

theorem err_matches (correct : FilterQtCorrect qt) (lines : record.OneLine)
    (value : UText) :
    ((Condition.predicate .err value).node qt).matches qt record = true ↔
      holds qt record .err value := by
  rw [Condition.node, show standsFor qt .err value = value from rfl, Node.matches_err, holds,
    Bool.and_eq_true]
  refine and_congr_right fun failed => ?_
  have single := lines.error failed
  -- An empty value and a single run describe the empty part.
  have everywhere : isInstance qt.same (fun _ => true) (items value) [] = true →
      hasInstance qt.same (fun _ => true) (items value) record.errorText :=
    fun empty => ⟨[], [], record.errorText, rfl, empty⟩
  rw [Bool.or_eq_true, Bool.or_eq_true, beq_iff_eq, beq_iff_eq]
  by_cases blank : value = []
  · subst blank
    exact ⟨fun _ => everywhere rfl, fun _ => .inl (.inl rfl)⟩
  by_cases star : value = ['*']
  · subst star
    exact ⟨fun _ => everywhere rfl, fun _ => .inl (.inr rfl)⟩
  rw [or_iff_right (not_or.mpr ⟨blank, star⟩), patternOf]
  by_cases wild : hasWildcard value = true
  · rw [if_pos wild, if_pos rfl]
    exact hasMatch_part correct single
  · rw [if_neg wild]
    exact contains_iff (Bool.eq_false_iff.mpr wild) record.errorText _

theorem line_matches (correct : FilterQtCorrect qt) {field : Field} (other : field ≠ .err)
    (single : '\n' ∉ record.fieldText field) (value : UText) :
    ((Condition.predicate field value).node qt).matches qt record = true ↔
      holds qt record field value := by
  rw [Condition.node, Node.matches_field other, holds_field other, Bool.and_eq_true,
    bne_iff_ne, field_matches correct other single]

theorem action_matches (correct : FilterQtCorrect qt)
    (single : '\n' ∉ record.action.dropLast) {value : UText}
    (valid : ValidValue qt .action value) :
    ((Condition.predicate .action value).node qt).matches qt record = true ↔
      holds qt record .action value := by
  have other : Field.action ≠ .err := by decide
  rw [Condition.node, Node.matches_field other, holds_field other, Bool.and_eq_true,
    bne_iff_ne, show standsFor qt .action value = value from rfl]
  refine and_congr_right fun _ => ?_
  rcases valid.action rfl with ⟨name, known, same⟩ | rfl
  · have plain := actionName_plain correct known same
    rw [patternOf, if_neg (Bool.eq_false_iff.mp plain),
      ← equals_iff plain (record.fieldText .action)]
  · have wild : hasWildcard ['*'] = true := by decide
    rw [patternOf, if_pos wild, if_neg other]
    have all : isInstance qt.same (fun _ => true) (items ['*'])
        (record.fieldText .action) = true := by
      rw [show items ['*'] = [.run] from rfl, isInstance_run, List.all_eq_true]
      exact fun _ _ => rfl
    exact iff_of_true ((star_matches correct record.action).mpr single) all

theorem predicate_matches (correct : FilterQtCorrect qt) (lines : record.OneLine)
    {field : Field} {value : UText} (valid : ValidValue qt field value) :
    ((Condition.predicate field value).node qt).matches qt record = true ↔
      holds qt record field value := by
  cases field with
  | addr =>
      exact line_matches correct (by decide : Field.addr ≠ .err) lines.address value
  | dnsType =>
      exact line_matches correct (by decide : Field.dnsType ≠ .err) lines.dnsType value
  | rule =>
      exact line_matches correct (by decide : Field.rule ≠ .err) lines.rule value
  | err =>
      exact err_matches correct lines value
  | action =>
      exact action_matches correct lines.action valid

theorem Condition.matches_iff (correct : FilterQtCorrect qt) (lines : record.OneLine)
    {condition : Condition} (valid : condition.Valid qt) :
    (condition.node qt).matches qt record = true ↔ condition.Holds qt record := by
  induction condition with
  | predicate field value =>
      exact predicate_matches correct lines valid
  | conjunction left right leftIh rightIh =>
      rw [Condition.node, Node.matches, Bool.and_eq_true, leftIh valid.1, rightIh valid.2,
        Condition.Holds]
  | disjunction left right leftIh rightIh =>
      rw [Condition.node, Node.matches, Bool.or_eq_true, leftIh valid.1, rightIh valid.2,
        Condition.Holds]
  | negation inner ih =>
      rw [Condition.node, Node.matches, Bool.not_eq_true', ← Bool.not_eq_true, ih valid,
        Condition.Holds]

/-! ### Records that are not -/

def questionMarks (text : UText) : UText :=
  List.replicate text.length '?'

theorem questionMarks_items (text : UText) :
    items (questionMarks text) = List.replicate text.length .any := by
  rw [items, questionMarks, List.map_replicate]
  rfl

theorem questionMarks_wild {text : UText} (given : text ≠ []) :
    hasWildcard (questionMarks text) = true := by
  have listed : '?' ∈ questionMarks text :=
    List.mem_replicate.mpr ⟨fun none => given (List.eq_nil_of_length_eq_zero none), rfl⟩
  rw [hasWildcard, Bool.or_eq_true, List.contains_iff_mem, List.contains_iff_mem]
  exact .inr listed

theorem questionMarks_describe (text : UText) :
    isInstance qt.same (fun _ => true) (items (questionMarks text)) text = true := by
  rw [questionMarks_items, isInstance_anys]
  exact ⟨rfl, List.all_eq_true.mpr fun _ _ => rfl⟩

theorem single_of_marks {text part : UText} (size : text.length ≤ part.length)
    (inside : part <:+: text)
    (found : isInstance qt.same inLine (items (questionMarks text)) part = true) :
    '\n' ∉ text := by
  rw [questionMarks_items, isInstance_anys] at found
  have whole : part = text := inside.eq_of_length_le size
  rw [← whole]
  exact fun member => absurd (List.all_eq_true.mp found.2 '\n' member) (by decide)

theorem single_of_anchored (correct : FilterQtCorrect qt) {text : UText}
    (found : qt.hasMatch (anchored (wildcardPattern (questionMarks text))) text = true) :
    '\n' ∉ text := by
  rw [wildcardPattern_eq, correct.whole] at found
  rcases found with whole | ⟨line, ended, short⟩
  · exact single_of_marks (Nat.le_refl _) List.infix_rfl whole
  · rw [questionMarks_items, isInstance_anys] at short
    have longer := congrArg List.length ended
    rw [List.length_append, List.length_singleton] at longer
    omega

theorem single_of_part (correct : FilterQtCorrect qt) {text : UText}
    (found : qt.hasMatch (wildcardPattern (questionMarks text)) text = true) :
    '\n' ∉ text := by
  rw [wildcardPattern_eq, correct.part] at found
  obtain ⟨front, part, back, whole, found⟩ := found
  have size := found
  rw [questionMarks_items, isInstance_anys] at size
  exact single_of_marks (Nat.le_of_eq size.1.symm) ⟨front, back, whole.symm⟩ found

theorem questionMarks_valid (correct : FilterQtCorrect qt) {field : Field}
    (free : field ≠ .action) {text : UText} (given : text ≠ []) :
    ValidValue qt field (questionMarks text) := by
  have listed : '?' ∈ questionMarks text :=
    List.mem_replicate.mpr ⟨fun none => given (List.eq_nil_of_length_eq_zero none), rfl⟩
  exact
    { given := fun _ => List.ne_nil_of_mem listed
      action := fun same => absurd same free
      type := fun _ number read => absurd listed (correct.numbers _ number read) }

theorem questionMarks_standFor (correct : FilterQtCorrect qt) (field : Field) {text : UText}
    (given : text ≠ []) : standsFor qt field (questionMarks text) = questionMarks text := by
  unfold standsFor
  split
  · cases read : qt.toUInt (questionMarks text) with
    | none =>
        rfl
    | some number =>
        have listed : '?' ∈ questionMarks text :=
          List.mem_replicate.mpr
            ⟨fun none => given (List.eq_nil_of_length_eq_zero none), rfl⟩
        exact absurd listed (correct.numbers _ number read)
  · rfl

def tellingValue (record : Record) : Field → UText
  | .action => ['*']
  | field => questionMarks (record.fieldText field)

def TellsTruth (qt : FilterQt) (record : Record) : Prop :=
  ∀ field, record.fieldText field ≠ [] →
    ValidValue qt field (tellingValue record field) →
    (((Condition.predicate field (tellingValue record field)).node qt).matches qt record =
      true ↔ holds qt record field (tellingValue record field))

theorem field_single (correct : FilterQtCorrect qt) (truth : TellsTruth qt record)
    (field : Field) (other : field ≠ .err) (free : field ≠ .action) :
    '\n' ∉ record.fieldText field := by
  by_cases given : record.fieldText field = []
  · rw [given]
    exact List.not_mem_nil
  have marks : tellingValue record field = questionMarks (record.fieldText field) := by
    cases field with
    | err =>
        exact absurd rfl other
    | action =>
        exact absurd rfl free
    | addr | dnsType | rule =>
        rfl
  have agreed := truth field given (marks ▸ questionMarks_valid correct free given)
  rw [marks] at agreed
  have described : holds qt record field (questionMarks (record.fieldText field)) := by
    rw [holds_field other, questionMarks_standFor correct field given]
    exact ⟨given, questionMarks_describe _⟩
  have matched := agreed.mpr described
  rw [Condition.node, Node.matches_field other, questionMarks_standFor correct field given,
    Bool.and_eq_true, patternOf, if_pos (questionMarks_wild given), if_neg other] at matched
  exact single_of_anchored correct matched.2

theorem action_single (correct : FilterQtCorrect qt) (truth : TellsTruth qt record) :
    '\n' ∉ record.action.dropLast := by
  by_cases given : record.action = []
  · rw [given]
    exact List.not_mem_nil
  have other : Field.action ≠ .err := by decide
  have valid : ValidValue qt .action ['*'] :=
    { given := fun _ => List.cons_ne_nil _ _
      action := fun _ => .inr rfl
      type := nofun }
  have described : holds qt record .action ['*'] := by
    rw [holds_field other]
    refine ⟨given, ?_⟩
    rw [show items (standsFor qt .action ['*']) = [.run] from rfl, isInstance_run,
      List.all_eq_true]
    exact fun _ _ => rfl
  have matched := (truth .action given valid).mpr described
  have wild : hasWildcard ['*'] = true := by decide
  rw [Condition.node, Node.matches_field other,
    show standsFor qt .action (tellingValue record .action) = ['*'] from rfl,
    Bool.and_eq_true, patternOf, if_pos wild, if_neg other] at matched
  exact (star_matches correct record.action).mp matched.2

theorem err_single (correct : FilterQtCorrect qt) (failed : record.error = true)
    (truth : TellsTruth qt record) : '\n' ∉ record.errorText := by
  have given : record.errorText ≠ [] :=
    fun none => List.cons_ne_nil _ _ (List.append_eq_nil_iff.mp none).2
  by_contra feed
  have described : holds qt record .err (questionMarks record.errorText) :=
    ⟨failed, [], record.errorText, [], by simp, questionMarks_describe _⟩
  have matched :=
    (truth .err given (questionMarks_valid correct (by decide) given)).mpr described
  have wild := questionMarks_wild given
  rw [Condition.node,
    show standsFor qt .err (tellingValue record .err) = questionMarks record.errorText from rfl,
    Node.matches_err, patternOf, if_pos wild, if_pos rfl, Bool.and_eq_true,
    Bool.or_eq_true, Bool.or_eq_true, beq_iff_eq, beq_iff_eq] at matched
  rcases matched.2 with (blank | star) | found
  · rw [blank] at wild
    exact absurd wild (by decide)
  · have listed : '*' ∈ questionMarks record.errorText := star ▸ List.mem_cons_self
    exact absurd (List.eq_of_mem_replicate listed) (by decide)
  · exact single_of_part correct found feed

theorem TellsTruth.oneLine (correct : FilterQtCorrect qt) (truth : TellsTruth qt record) :
    record.OneLine :=
  { address := field_single correct truth .addr nofun nofun
    dnsType := field_single correct truth .dnsType nofun nofun
    rule := field_single correct truth .rule nofun nofun
    action := action_single correct truth
    error := fun failed => err_single correct failed truth }

end Matching

end LogFilter

end NativeDNS

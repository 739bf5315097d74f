/-
What the parser accepts, and the language of the log filters as a whole.

Every step of the parser that succeeds has read a printing: the text it took is
the printing of a condition followed by blanks, and the node is that condition's
own.
-/
import NativeDNS.Gui.FilterEngine
import NativeDNS.Gui.FilterPrinting

namespace NativeDNS

namespace LogFilter

open CheckedResult Wildcard

section Accepting

variable {qt : FilterQt}

/-! ### Tokens that were read -/

theorem skip_split (qt : FilterQt) (rest : UText) :
    ∃ blanks, Blank qt blanks ∧ rest = blanks ++ skip qt rest :=
  ⟨rest.takeWhile qt.isSpace, fun _ member => List.mem_takeWhile_imp member,
    List.takeWhile_append_dropWhile.symm⟩

theorem consume_split {token rest after : UText} {found : Bool}
    (read : consume qt token rest = (found, after)) :
    ∃ blanks, Blank qt blanks ∧
      rest = blanks ++ ((if found = true then token else []) ++ after) := by
  obtain ⟨blanks, blank, whole⟩ := skip_split qt rest
  refine ⟨blanks, blank, ?_⟩
  unfold consume at read
  by_cases present : token.isPrefixOf (skip qt rest) = true
  · rw [if_pos present] at read
    cases read
    obtain ⟨back, shape⟩ := List.isPrefixOf_iff_prefix.mp present
    rw [if_pos rfl, ← shape, List.drop_left, shape]
    exact whole
  · rw [if_neg present] at read
    cases read
    exact whole

theorem Blank.append {first second : UText} (one : Blank qt first) (two : Blank qt second) :
    Blank qt (first ++ second) := by
  intro c member
  rcases List.mem_append.mp member with front | back
  · exact one c front
  · exact two c back

theorem Prints.prepend {level : Level} {room : Nat} {condition : Condition}
    {printed blanks : UText} (prints : Prints qt level room condition printed)
    (blank : Blank qt blanks) : Prints qt level room condition (blanks ++ printed) := by
  induction prints with
  | predicate first spells second third =>
      simpa only [List.append_assoc] using
        Prints.predicate (blank.append first) spells second third
  | negation first prints ih =>
      simpa only [List.append_assoc] using Prints.negation (blank.append first) prints
  | group first prints second ih =>
      simpa only [List.append_assoc] using Prints.group (blank.append first) prints second
  | operand prints ih =>
      exact .operand ih
  | conjunction left between right leftIh rightIh =>
      simpa only [List.append_assoc] using Prints.conjunction leftIh between right
  | alternative prints ih =>
      exact .alternative ih
  | disjunction left between right leftIh rightIh =>
      simpa only [List.append_assoc] using Prints.disjunction leftIh between right

theorem readValue_accepts {rest value after : UText}
    (read : readValue rest = .ok (value, after)) :
    rest = escaped value ++ '"' :: after := by
  induction rest using readValue.induct generalizing value after with
  | case1 =>
      cases read
  | case2 rest =>
      cases read
      rfl
  | case3 =>
      cases read
  | case4 c rest special ih =>
      rw [readValue, if_pos special] at read
      obtain ⟨⟨inner, behind⟩, found, built⟩ := bind_eq_ok.mp read
      cases built
      rw [ih found, escaped_special special]
      rfl
  | case5 c rest plain =>
      rw [readValue, if_neg plain] at read
      cases read
  | case6 c rest quote last escape ih =>
      have notEscape : c ≠ '\\' := by
        rintro rfl
        cases rest with
        | nil =>
            exact last rfl rfl
        | cons d rest =>
            exact escape d rest rfl rfl
      rw [readValue_plain quote notEscape] at read
      obtain ⟨⟨inner, behind⟩, found, built⟩ := bind_eq_ok.mp read
      cases built
      rw [ih found, escaped_plain quote notEscape]
      rfl

/-! ### Steps of the parser -/

/-- The parser has read a printing of this level and blanks behind it. -/
def Accepted (qt : FilterQt) (level : Level) (room : Nat) (start : Scan) (node : Node)
    (after : Scan) : Prop :=
  ∃ condition printed blanks, start.rest = printed ++ blanks ++ after.rest ∧
    Blank qt blanks ∧ Prints qt level room condition printed ∧ condition.Valid qt ∧
    node = condition.node qt ∧ after.nodes = start.nodes + condition.size ∧
    after.nodes ≤ maxNodes

def Accepts (qt : FilterQt) (level : Level) (room : Nat) (operand : Scan → Parsed) : Prop :=
  ∀ start node after, operand start = .ok (node, after) →
    Accepted qt level room start node after

theorem addNode_accepts {node whole : Node} {scan after : Scan}
    (added : addNode node scan = .ok (whole, after)) :
    whole = node ∧ after = { scan with nodes := scan.nodes + 1 } ∧
      scan.nodes + 1 ≤ maxNodes := by
  unfold addNode at added
  by_cases full : maxNodes < scan.nodes + 1
  · rw [if_pos full] at added
    cases added
  · rw [if_neg full] at added
    cases added
    exact ⟨rfl, rfl, Nat.le_of_not_lt full⟩

theorem checkValue_accepts {field : Field} {value rest : UText} {done : Unit}
    (checked : checkValue qt field value rest = .ok done) : ValidValue qt field value :=
  (checkValue_ok rest).mp checked

theorem predicate_accepts (correct : FilterQtCorrect qt) (room : Nat) :
    Accepts qt .primary room (predicate qt) := by
  intro start node after ran
  obtain ⟨first, firstBlank, whole⟩ := skip_split qt start.rest
  rw [predicate] at ran
  generalize taken : (skip qt start.rest).takeWhile (isFieldCharacter qt) = name at ran
  generalize dropped : (skip qt start.rest).dropWhile (isFieldCharacter qt) = rest at ran
  have split : skip qt start.rest = name ++ rest := by
    rw [← taken, ← dropped, List.takeWhile_append_dropWhile]
  cases found : fieldOf qt name with
  | none =>
      simp only [found] at ran
      cases ran
  | some field =>
      rcases equal : consume qt ['='] rest with ⟨hasEqual, behindEqual⟩
      rcases quote : consume qt ['"'] behindEqual with ⟨hasQuote, behindQuote⟩
      simp only [found, equal, quote, bind_eq_ok, rejectIf_eq_ok, Bool.not_eq_false] at ran
      obtain ⟨_, isEqual, _, isQuote, ⟨value, behind⟩, read, _, checked, added⟩ := ran
      subst isEqual
      subst isQuote
      obtain ⟨rfl, rfl, fits⟩ := addNode_accepts added
      obtain ⟨second, secondBlank, afterName⟩ := consume_split equal
      obtain ⟨third, thirdBlank, afterEqual⟩ := consume_split quote
      have inside := readValue_accepts read
      refine ⟨.predicate field value, first ++ name ++ second ++ '=' :: third ++
        '"' :: escaped value ++ ['"'], [], ?_, blank_nil,
        .predicate firstBlank ⟨?_, ?_, fieldOf_eq.mp found⟩ secondBlank thirdBlank,
        checkValue_accepts checked, rfl, rfl, fits⟩
      · rw [whole, split, afterName, afterEqual, inside]
        simp only [if_true, List.append_assoc, List.cons_append, List.nil_append]
      · rintro rfl
        have lower := fieldOf_eq.mp found
        rw [correct.lower] at lower
        cases field with
        | addr | dnsType | rule | err | action =>
            cases lower
      · rw [← taken]
        exact fun c member => List.mem_takeWhile_imp member

/-- Where a level takes the operands of an operator. -/
structure Joins (operator : Operator qt) (inner outer : Level) (room : Nat) : Prop where
  lifts : ∀ {condition printed}, Prints qt inner room condition printed →
    Prints qt outer room condition printed
  joins : ∀ {left right front back blanks}, Prints qt outer room left front →
    Blank qt blanks → Prints qt inner room right back →
    Prints qt outer room (operator.both left right)
      (front ++ blanks ++ operator.token ++ back)
  valid : ∀ {left right : Condition}, left.Valid qt → right.Valid qt →
    (operator.both left right).Valid qt

theorem chain_accepts {operator : Operator qt} {inner outer : Level} {room : Nat}
    (level : Joins operator inner outer room) {operand : Scan → Parsed}
    (operands : Accepts qt inner room operand) {start after : Scan} {whole : Node}
    (fuel : Nat) {node : Node} {scan : Scan}
    (begun : Accepted qt outer room start node scan)
    (ran : chain qt operator.token operator.join operand fuel node scan =
      .ok (whole, after)) :
    Accepted qt outer room start whole after := by
  -- Where the loop stops, only blanks have been passed.
  have stopped : ∀ {found : Bool} {rest : UText} {node : Node} {scan : Scan},
      Accepted qt outer room start node scan →
      consume qt operator.token scan.rest = (found, rest) → found = false →
      Accepted qt outer room start node { scan with rest := rest } := by
    rintro found rest node scan ⟨condition, printed, blanks, split, blank, accepted⟩ read rfl
    obtain ⟨more, moreBlank, behind⟩ := consume_split read
    refine ⟨condition, printed, blanks ++ more, ?_, blank.append moreBlank, accepted⟩
    rw [split, behind]
    simp only [Bool.false_eq_true, if_false, List.nil_append, List.append_assoc]
  induction fuel generalizing node scan with
  | zero =>
      cases ran
      obtain ⟨condition, printed, blanks, split, blank, accepted⟩ := begun
      obtain ⟨more, moreBlank, behind⟩ := skip_split qt scan.rest
      refine ⟨condition, printed, blanks ++ more, ?_, blank.append moreBlank, accepted⟩
      rw [split, List.append_assoc, List.append_assoc, List.append_assoc, ← behind]
  | succ fuel ih =>
      rcases read : consume qt operator.token scan.rest with ⟨found, rest⟩
      simp only [chain, read] at ran
      cases present : found with
      | false =>
          rw [present, if_neg Bool.false_ne_true] at ran
          cases ran
          exact stopped begun read present
      | true =>
          rw [present, if_pos rfl] at ran
          obtain ⟨⟨right, middle⟩, second, ran⟩ := bind_eq_ok.mp ran
          obtain ⟨⟨joint, next⟩, added, ran⟩ := bind_eq_ok.mp ran
          obtain ⟨rfl, rfl, fits⟩ := addNode_accepts added
          refine ih ?_ ran
          obtain ⟨left, front, blanks, split, blank, prints, valid, rfl, count, _⟩ := begun
          obtain ⟨rightCondition, back, last, rightSplit, lastBlank, rightPrints, rightValid,
            rfl, rightCount, _⟩ := operands _ right middle second
          obtain ⟨more, moreBlank, behind⟩ := consume_split read
          rw [present, if_pos rfl] at behind
          refine ⟨operator.both left rightCondition,
            front ++ (blanks ++ more) ++ operator.token ++ back, last, ?_, lastBlank,
            level.joins prints (blank.append moreBlank) rightPrints,
            level.valid valid rightValid, (operator.nodes _ _).symm, ?_, fits⟩
          · have whole : rest = back ++ last ++ middle.rest := rightSplit
            rw [split, behind, whole]
            simp only [List.append_assoc]
          · have counted : middle.nodes = scan.nodes + rightCondition.size := rightCount
            change middle.nodes + 1 = start.nodes + (operator.both left rightCondition).size
            rw [operator.sizes, counted, count]
            omega

theorem joined_accepts {operator : Operator qt} {inner outer : Level} {room : Nat}
    (level : Joins operator inner outer room) {operand : Scan → Parsed}
    (operands : Accepts qt inner room operand) :
    Accepts qt outer room (joined qt operator.token operator.join operand) := by
  intro start node after ran
  obtain ⟨⟨first, scan⟩, read, ran⟩ := bind_eq_ok.mp ran
  obtain ⟨condition, printed, blanks, split, blank, prints, accepted⟩ := operands _ _ _ read
  exact chain_accepts level operands scan.rest.length
    ⟨condition, printed, blanks, split, blank, level.lifts prints, accepted⟩ ran

theorem conjunction_joins (correct : FilterQtCorrect qt) (room : Nat) :
    Joins (conjunctionOperator correct) .primary .all room where
  lifts := .operand
  joins first blank second := by
    rw [List.append_assoc _ (conjunctionOperator correct).token]
    exact .conjunction first blank (.operand second)
  valid := And.intro

theorem disjunction_joins (correct : FilterQtCorrect qt) (room : Nat) :
    Joins (disjunctionOperator correct) .all .any room where
  lifts := .alternative
  joins first blank second := by
    rw [List.append_assoc _ (disjunctionOperator correct).token]
    exact .disjunction first blank (.alternative second)
  valid := And.intro

theorem disjunctionOf_accepts (correct : FilterQtCorrect qt) {room : Nat}
    {operand : Scan → Parsed} (operands : Accepts qt .primary room operand) :
    Accepts qt .any room (disjunctionOf qt operand) :=
  joined_accepts (disjunction_joins correct room)
    (joined_accepts (conjunction_joins correct room) operands)

theorem primary_zero (scan : Scan) {read : Node × Scan} : primary qt 0 scan ≠ .ok read :=
  nofun

theorem disjunctionOf_zero (scan : Scan) {read : Node × Scan} :
    disjunctionOf qt (primary qt 0) scan ≠ .ok read :=
  nofun

theorem negation_accepts {room : Nat} (inside : Accepts qt .primary room (primary qt (room + 1)))
    {start after : Scan} {node : Node} {rest : UText}
    (negated : consume qt ['!'] start.rest = (true, rest))
    (ran : primary qt (room + 2) start = .ok (node, after)) :
    Accepted qt .primary (room + 1) start node after := by
  rw [primary_negation negated] at ran
  obtain ⟨⟨inner, scan⟩, read, added⟩ := bind_eq_ok.mp ran
  obtain ⟨rfl, rfl, fits⟩ := addNode_accepts added
  obtain ⟨first, firstBlank, split⟩ := consume_split negated
  obtain ⟨condition, printed, blanks, whole, blank, prints, valid, rfl, count, _⟩ :=
    inside _ _ _ read
  refine ⟨.negation condition, first ++ '!' :: printed, blanks, ?_, blank,
    .negation firstBlank prints, valid, rfl, ?_, fits⟩
  · have behind : rest = printed ++ blanks ++ scan.rest := whole
    rw [split, if_pos rfl, behind]
    simp only [List.append_assoc, List.cons_append, List.nil_append]
  · have counted : scan.nodes = start.nodes + condition.size := count
    change scan.nodes + 1 = start.nodes + (condition.size + 1)
    rw [counted, Nat.add_assoc]

theorem group_accepts (correct : FilterQtCorrect qt) {room : Nat}
    (inside : Accepts qt .primary room (primary qt (room + 1)))
    {start after : Scan} {node : Node} {middle rest : UText}
    (plain : consume qt ['!'] start.rest = (false, middle))
    (opened : consume qt ['('] middle = (true, rest))
    (ran : primary qt (room + 2) start = .ok (node, after)) :
    Accepted qt .primary (room + 1) start node after := by
  rw [primary_group plain opened] at ran
  obtain ⟨⟨inner, scan⟩, read, closing⟩ := bind_eq_ok.mp ran
  obtain ⟨first, firstBlank, split⟩ := consume_split plain
  obtain ⟨second, secondBlank, middleSplit⟩ := consume_split opened
  obtain ⟨condition, printed, blanks, whole, blank, prints, valid, rfl, count, fits⟩ :=
    disjunctionOf_accepts correct inside _ _ _ read
  rcases closed : consume qt [')'] scan.rest with ⟨found, last⟩
  simp only [closeGroup, closed] at closing
  cases present : found with
  | false =>
      rw [present, if_neg Bool.false_ne_true] at closing
      cases closing
  | true =>
      rw [present, if_pos rfl] at closing
      cases closing
      obtain ⟨more, moreBlank, behind⟩ := consume_split closed
      rw [present, if_pos rfl] at behind
      refine ⟨condition, (first ++ second) ++ '(' :: printed ++ (blanks ++ more) ++ [')'], [],
        ?_, blank_nil,
        .group (firstBlank.append secondBlank) prints (blank.append moreBlank), valid, rfl,
        count, fits⟩
      have shape : rest = printed ++ blanks ++ scan.rest := whole
      rw [split, if_neg Bool.false_ne_true, middleSplit, if_pos rfl, shape, behind]
      simp only [List.append_assoc, List.cons_append, List.nil_append]

theorem single_accepts (correct : FilterQtCorrect qt) (room : Nat) {start after : Scan}
    {node : Node} {middle rest : UText}
    (plain : consume qt ['!'] start.rest = (false, middle))
    (single : consume qt ['('] middle = (false, rest))
    (ran : primary qt (room + 1) start = .ok (node, after)) :
    Accepted qt .primary room start node after := by
  rw [primary_predicate plain single] at ran
  obtain ⟨first, firstBlank, split⟩ := consume_split plain
  obtain ⟨second, secondBlank, middleSplit⟩ := consume_split single
  obtain ⟨condition, printed, blanks, whole, blank, prints, accepted⟩ :=
    predicate_accepts correct room _ _ _ ran
  refine ⟨condition, (first ++ second) ++ printed, blanks, ?_, blank,
    prints.prepend (firstBlank.append secondBlank), accepted⟩
  have shape : rest = printed ++ blanks ++ after.rest := whole
  rw [split, if_neg Bool.false_ne_true, middleSplit, if_neg Bool.false_ne_true, shape]
  simp only [List.append_assoc, List.nil_append]

theorem primary_accepts (correct : FilterQtCorrect qt) (room : Nat) :
    Accepts qt .primary room (primary qt (room + 1)) := by
  induction room with
  | zero =>
      intro start node after ran
      rcases negated : consume qt ['!'] start.rest with ⟨found, middle⟩
      cases found with
      | true =>
          rw [primary_negation negated] at ran
          obtain ⟨_, read, _⟩ := bind_eq_ok.mp ran
          exact absurd read (primary_zero _)
      | false =>
          rcases opened : consume qt ['('] middle with ⟨group, rest⟩
          cases group with
          | true =>
              rw [primary_group negated opened] at ran
              obtain ⟨_, read, _⟩ := bind_eq_ok.mp ran
              exact absurd read (disjunctionOf_zero _)
          | false =>
              exact single_accepts correct 0 negated opened ran
  | succ room ih =>
      intro start node after ran
      rcases negated : consume qt ['!'] start.rest with ⟨found, middle⟩
      cases found with
      | true =>
          exact negation_accepts ih negated ran
      | false =>
          rcases opened : consume qt ['('] middle with ⟨group, rest⟩
          cases group with
          | true =>
              exact group_accepts correct ih negated opened ran
          | false =>
              exact single_accepts correct (room + 1) negated opened ran

/-! ### Whole expressions -/

theorem skip_nil {rest : UText} (blank : skip qt rest = []) : Blank qt rest := by
  obtain ⟨blanks, seen, whole⟩ := skip_split qt rest
  rw [blank, List.append_nil] at whole
  exact whole ▸ seen

/-- What an expression is when it is accepted: blanks, for a filter that shows
everything, or the printing of a condition. -/
inductive Language (qt : FilterQt) (expression : UText) : Option Node → Prop
  | blank (empty : Blank qt expression) : Language qt expression none
  | printed {condition : Condition} (valid : condition.Valid qt)
      (small : condition.size ≤ maxNodes) (printed : Printed qt condition expression) :
      Language qt expression (some (condition.node qt))

theorem parse_accepts (correct : FilterQtCorrect qt) {expression : UText}
    {filter : Option Node} (ran : parse qt expression = .ok filter) :
    unitCount expression ≤ maxLength ∧ Language qt expression filter := by
  obtain ⟨_, short, ran⟩ := bind_eq_ok.mp ran
  rw [rejectIf_eq_ok, Nat.not_lt] at short
  refine ⟨short, ?_⟩
  obtain ⟨before, first, whole⟩ := skip_split qt expression
  by_cases nothing : skip qt expression = []
  · rw [if_pos nothing] at ran
    cases ran
    exact .blank (skip_nil nothing)
  · rw [if_neg nothing] at ran
    obtain ⟨⟨node, scan⟩, read, ran⟩ := bind_eq_ok.mp ran
    obtain ⟨_, done, ran⟩ := bind_eq_ok.mp ran
    rw [rejectIf_eq_ok, ne_eq, not_not] at done
    cases ran
    obtain ⟨condition, printed, blanks, split, blank, prints, valid, rfl, count, fits⟩ :=
      disjunctionOf_accepts correct (primary_accepts correct maxDepth) _ _ _ read
    have text : skip qt expression = printed ++ blanks ++ scan.rest := split
    have counted : scan.nodes = 0 + condition.size := count
    refine .printed valid (by omega)
      ⟨before, printed, blanks ++ scan.rest, ?_, first, prints, blank.append (skip_nil done)⟩
    rw [whole, text]
    simp only [List.append_assoc]

theorem compile_eq_ok {expression : UText} {filter : Option Node} :
    compile qt expression = .ok filter ↔ parse qt expression = .ok filter := by
  unfold compile
  cases parse qt expression with
  | ok read =>
      exact ⟨fun same => by cases same; rfl, fun same => by cases same; rfl⟩
  | error failure =>
      exact ⟨nofun, nofun⟩

/-- A condition and a printing of it within the limits of the parser. -/
structure Within (qt : FilterQt) (condition : Condition) (expression : UText) : Prop where
  valid : condition.Valid qt
  small : condition.size ≤ maxNodes
  printed : Printed qt condition expression
  short : unitCount expression ≤ maxLength

/-- On this record the filter of every printing gives the value of its
condition. -/
def Evaluates (qt : FilterQt) (record : Record) : Prop :=
  ∀ condition expression filter, Within qt condition expression →
    compile qt expression = .ok filter →
    (matchesFilter qt record filter = true ↔ condition.Holds qt record)

theorem Record.OneLine.evaluates (correct : FilterQtCorrect qt) {record : Record}
    (lines : record.OneLine) : Evaluates qt record := by
  intro condition expression filter within ran
  obtain ⟨node, compiled, means⟩ :=
    compile_printed correct within.printed within.valid within.small within.short
  rw [compiled] at ran
  cases ran
  rw [matchesFilter, means record]
  exact Condition.matches_iff correct lines within.valid

/-! ### A condition on one field, printed -/

def plainPrinting (field : Field) (value : UText) : UText :=
  field.name ++ '=' :: '"' :: escaped value ++ ['"']

theorem plainPrinting_printed (correct : FilterQtCorrect qt) (field : Field) (value : UText) :
    Printed qt (.predicate field value) (plainPrinting field value) := by
  have spells : Spells qt field.name field :=
    { given := by cases field <;> exact List.cons_ne_nil _ _
      characters := by
        intro c member
        rw [isFieldCharacter, Bool.or_eq_true, beq_iff_eq]
        exact (correct.names field).1 c member
      lower := (correct.names field).2 }
  have printed : Prints qt .primary maxDepth (.predicate field value)
      ([] ++ field.name ++ [] ++ '=' :: [] ++ '"' :: escaped value ++ ['"']) :=
    .predicate blank_nil spells blank_nil blank_nil
  refine ⟨[], _, [], ?_, blank_nil, .alternative (.operand printed), blank_nil⟩
  simp only [plainPrinting, List.nil_append, List.append_nil, List.append_assoc,
    List.cons_append]

theorem unitCount_append (front back : UText) :
    unitCount (front ++ back) = unitCount front + unitCount back := by
  rw [unitCount, List.map_append, List.sum_append]
  rfl

theorem escaped_wild {value : UText} (plain : ∀ c ∈ value, c = '*' ∨ c = '?') :
    escaped value = value ∧ unitCount value = value.length := by
  induction value with
  | nil =>
      exact ⟨rfl, rfl⟩
  | cons c value ih =>
      obtain ⟨same, counted⟩ := ih fun d member => plain d (List.mem_cons_of_mem c member)
      have single : unitCount (c :: value) = 1 + unitCount value := by
        rcases plain c List.mem_cons_self with rfl | rfl <;> rfl
      have kept : escaped (c :: value) = c :: escaped value := by
        rcases plain c List.mem_cons_self with rfl | rfl <;> rfl
      rw [kept, same, single, counted, List.length_cons, Nat.add_comm]
      exact ⟨rfl, rfl⟩

/-- The texts of a record that a filter reads are short enough to be described
character by character. -/
def Record.Short (record : Record) : Prop :=
  ∀ field, (record.fieldText field).length + 11 ≤ maxLength

theorem tellingValue_wild (record : Record) (field : Field) :
    ∀ c ∈ tellingValue record field, c = '*' ∨ c = '?' := by
  intro c member
  cases field with
  | action =>
      exact .inl (List.mem_singleton.mp member)
  | addr | dnsType | rule | err =>
      exact .inr (List.eq_of_mem_replicate member)

theorem tellingValue_length {record : Record} {field : Field}
    (given : record.fieldText field ≠ []) :
    (tellingValue record field).length ≤ (record.fieldText field).length := by
  cases field with
  | action =>
      exact List.length_pos_iff.mpr given
  | addr | dnsType | rule | err =>
      exact Nat.le_of_eq List.length_replicate

theorem telling_within (correct : FilterQtCorrect qt) {record : Record} (short : record.Short)
    {field : Field} (given : record.fieldText field ≠ [])
    (valid : ValidValue qt field (tellingValue record field)) :
    Within qt (.predicate field (tellingValue record field))
      (plainPrinting field (tellingValue record field)) where
  valid := valid
  small := by
    change 1 ≤ maxNodes
    decide
  printed := plainPrinting_printed correct field _
  short := by
    obtain ⟨same, counted⟩ := escaped_wild (tellingValue_wild record field)
    have name : unitCount field.name ≤ 8 := by
      cases field <;> decide
    have signs : ∀ rest, unitCount ('=' :: '"' :: rest) = 2 + unitCount rest := by
      intro rest
      rw [show '=' :: '"' :: rest = ['=', '"'] ++ rest from rfl, unitCount_append]
      rfl
    have quote : unitCount ['"'] = 1 := rfl
    have fits := short field
    have size := tellingValue_length given
    rw [plainPrinting, unitCount_append, unitCount_append, signs, same, counted, quote]
    omega

theorem Evaluates.tellsTruth (correct : FilterQtCorrect qt) {record : Record}
    (short : record.Short) (evaluates : Evaluates qt record) : TellsTruth qt record := by
  intro field given valid
  have within := telling_within correct short given valid
  obtain ⟨node, compiled, means⟩ :=
    compile_printed correct within.printed within.valid within.small within.short
  rw [← means record]
  exact evaluates _ _ _ within compiled

end Accepting

end LogFilter

open LogFilter

/-- The language of the log filters: every printing of a condition within the
limits is compiled, and nothing else but blanks.  A filter gives the value of its
condition on the records in lines, and on no other record whose texts have room in
an expression. -/
theorem logFilter_language (qt : FilterQt) (correct : FilterQtCorrect qt) :
    (∀ condition expression, Within qt condition expression →
      ∃ node, compile qt expression = .ok (some node)) ∧
    (∀ expression filter, compile qt expression = .ok filter →
      unitCount expression ≤ maxLength ∧ Language qt expression filter) ∧
    ∀ record : Record, (record.OneLine → Evaluates qt record) ∧
      (record.Short → Evaluates qt record → record.OneLine) := by
  refine ⟨?_, ?_, ?_⟩
  · intro condition expression within
    obtain ⟨node, compiled, _⟩ :=
      compile_printed correct within.printed within.valid within.small within.short
    exact ⟨node, compiled⟩
  · intro expression filter compiled
    exact parse_accepts correct (compile_eq_ok.mp compiled)
  · intro record
    exact ⟨fun lines => lines.evaluates correct,
      fun short evaluates => (evaluates.tellsTruth correct short).oneLine correct⟩

def queryRecord : Record where
  code := "DNS_RULE".toList
  address := "example.com".toList
  dnsType := "A".toList
  rule := "Default".toList
  action := "process".toList

theorem logFilter_language_query : Evaluates asciiQt queryRecord :=
  ((logFilter_language asciiQt asciiQt_correct).2.2 queryRecord).1
    { address := by decide
      dnsType := by decide
      rule := by decide
      action := by decide
      error := nofun }

/-- A record in two lines; the panel keeps none, it joins the lines of a message before
it asks the filter. -/
def brokenRecord : Record where
  message := "Invalid unsigned integer: 1\n2".toList
  error := true

/-- The run of `err="integer*2"` does not pass the line feed. -/
theorem logFilter_language_lineFeed :
    Within asciiQt (.predicate .err "integer*2".toList)
      (plainPrinting .err "integer*2".toList) ∧
    (Condition.predicate .err "integer*2".toList).Holds asciiQt brokenRecord ∧
    (compile asciiQt (plainPrinting .err "integer*2".toList)).toOption.map
      (matchesFilter asciiQt brokenRecord) = some false := by
  refine ⟨⟨?_, ?_, ?_, ?_⟩, ⟨rfl, ?_⟩, ?_⟩
  · exact
      { given := fun other => absurd rfl other
        action := nofun
        type := nofun }
  · decide
  · exact plainPrinting_printed asciiQt_correct .err _
  · decide
  · decide +kernel
  · decide +kernel

end NativeDNS

/-
The printings of a filter expression, and that the parser reads each of them.

A printing has blanks before every token, parentheses where the precedence of
the operators wants them and wherever else they are put, and the name of a field
in any case.  Operands of one operator may be grouped in any way; the parser
groups them from the left, so it builds a node that means the same.
-/
import NativeDNS.Gui.FilterMatching
import NativeDNS.Gui.FilterParser

namespace NativeDNS

namespace LogFilter

open CheckedResult

def Blank (qt : FilterQt) (blanks : UText) : Prop :=
  ∀ c ∈ blanks, qt.isSpace c = true

theorem blank_nil {qt : FilterQt} : Blank qt [] :=
  fun _ inside => absurd inside List.not_mem_nil

def isEscaped (c : Char) : Bool :=
  c == '"' || c == '\\'

def escaped (value : UText) : UText :=
  value.flatMap fun c => if isEscaped c = true then ['\\', c] else [c]

structure Spells (qt : FilterQt) (name : UText) (field : Field) : Prop where
  given : name ≠ []
  characters : ∀ c ∈ name, isFieldCharacter qt c = true
  lower : qt.toLower name = field.name

/-- What binds an operand: nothing, `&&` or `||`. -/
inductive Level where
  | primary
  | all
  | any

/-- The printings of a condition with so many parentheses and negations around
a predicate at most. -/
inductive Prints (qt : FilterQt) : Level → Nat → Condition → UText → Prop
  | predicate {room : Nat} {field : Field} {value before name between behind : UText}
      (first : Blank qt before) (spells : Spells qt name field)
      (second : Blank qt between) (third : Blank qt behind) :
      Prints qt .primary room (.predicate field value)
        (before ++ name ++ between ++ '=' :: behind ++ '"' :: escaped value ++ ['"'])
  | negation {room : Nat} {inner : Condition} {before text : UText}
      (first : Blank qt before) (printed : Prints qt .primary room inner text) :
      Prints qt .primary (room + 1) (.negation inner) (before ++ '!' :: text)
  | group {room : Nat} {inner : Condition} {before text behind : UText}
      (first : Blank qt before) (printed : Prints qt .any room inner text)
      (second : Blank qt behind) :
      Prints qt .primary (room + 1) inner (before ++ '(' :: text ++ behind ++ [')'])
  | operand {room : Nat} {condition : Condition} {text : UText}
      (printed : Prints qt .primary room condition text) :
      Prints qt .all room condition text
  | conjunction {room : Nat} {left right : Condition} {front back between : UText}
      (first : Prints qt .all room left front) (blank : Blank qt between)
      (second : Prints qt .all room right back) :
      Prints qt .all room (.conjunction left right) (front ++ between ++ '&' :: '&' :: back)
  | alternative {room : Nat} {condition : Condition} {text : UText}
      (printed : Prints qt .all room condition text) :
      Prints qt .any room condition text
  | disjunction {room : Nat} {left right : Condition} {front back between : UText}
      (first : Prints qt .any room left front) (blank : Blank qt between)
      (second : Prints qt .any room right back) :
      Prints qt .any room (.disjunction left right) (front ++ between ++ '|' :: '|' :: back)

/-- A whole expression; its nesting is at most that of the parser. -/
def Printed (qt : FilterQt) (condition : Condition) (expression : UText) : Prop :=
  ∃ before text behind, expression = before ++ text ++ behind ∧ Blank qt before ∧
    Prints qt .any maxDepth condition text ∧ Blank qt behind

/-! ### Tokens -/

section Tokens

variable {qt : FilterQt}

theorem skip_blanks {blanks : UText} (blank : Blank qt blanks) (rest : UText) :
    skip qt (blanks ++ rest) = skip qt rest := by
  unfold skip
  rw [List.dropWhile_append_of_pos blank]

theorem skip_of_head {c : Char} (solid : qt.isSpace c = false) (rest : UText) :
    skip qt (c :: rest) = c :: rest := by
  rw [skip, List.dropWhile_cons_of_neg (by rw [solid]; exact Bool.false_ne_true)]

theorem skip_skip (rest : UText) : skip qt (skip qt rest) = skip qt rest := by
  cases shape : skip qt rest with
  | nil =>
      rfl
  | cons c back =>
      have solid : qt.isSpace c = false := by
        have first := List.head?_dropWhile_not qt.isSpace rest
        rw [show rest.dropWhile qt.isSpace = c :: back from shape] at first
        exact first
      exact skip_of_head solid back

theorem skip_length (qt : FilterQt) (rest : UText) : (skip qt rest).length ≤ rest.length :=
  (List.dropWhile_suffix qt.isSpace).length_le

theorem consume_congr {token rest other : UText} (same : skip qt rest = skip qt other) :
    consume qt token rest = consume qt token other := by
  rw [consume, consume, same]

theorem consume_token {c : Char} {token blanks : UText} (blank : Blank qt blanks)
    (solid : qt.isSpace c = false) (rest : UText) :
    consume qt (c :: token) (blanks ++ c :: token ++ rest) = (true, rest) := by
  have skipped : skip qt (blanks ++ c :: token ++ rest) = c :: token ++ rest := by
    rw [List.append_assoc, skip_blanks blank, List.cons_append, skip_of_head solid]
  have prefixed : (c :: token).isPrefixOf (c :: token ++ rest) = true :=
    List.isPrefixOf_iff_prefix.mpr (List.prefix_append _ _)
  rw [consume, skipped, if_pos prefixed, List.drop_left]

theorem consume_sign {c : Char} {blanks : UText} (blank : Blank qt blanks)
    (solid : qt.isSpace c = false) (rest : UText) :
    consume qt [c] (blanks ++ c :: rest) = (true, rest) := by
  rw [← consume_token blank solid rest, List.append_assoc, List.cons_append, List.nil_append]

theorem consume_other {c d : Char} {token blanks : UText} (blank : Blank qt blanks)
    (solid : qt.isSpace d = false) (different : d ≠ c) (rest : UText) :
    consume qt (c :: token) (blanks ++ d :: rest) = (false, d :: rest) := by
  have skipped : skip qt (blanks ++ d :: rest) = d :: rest := by
    rw [skip_blanks blank, skip_of_head solid]
  have distinct : ¬ (c :: token).isPrefixOf (d :: rest) = true := by
    rw [List.isPrefixOf_iff_prefix]
    exact fun inside => different (List.cons_prefix_cons.mp inside).1.symm
  rw [consume, skipped, if_neg distinct]

end Tokens

/-! ### Operators -/

def Means (qt : FilterQt) (node : Node) (condition : Condition) : Prop :=
  ∀ record, node.matches qt record = (condition.node qt).matches qt record

/-- An operand is read up to blanks, before a rest that `ends` admits. -/
def ReadsOperand (qt : FilterQt) (operand : Scan → Parsed) (ends : UText → Prop)
    (condition : Condition) (printed : UText) : Prop :=
  ∀ rest nodes, ends rest → nodes + condition.size ≤ maxNodes →
    ∃ node behind, Means qt node condition ∧ skip qt behind = skip qt rest ∧
      operand { rest := printed ++ rest, nodes := nodes } =
        .ok (node, { rest := behind, nodes := nodes + condition.size })

/-- A binary operator: its sign, its node, its condition and its value. -/
structure Operator (qt : FilterQt) where
  sign : Char
  join : Node → Node → Node
  both : Condition → Condition → Condition
  value : Bool → Bool → Bool
  solid : qt.isSpace sign = false
  sizes : ∀ left right, (both left right).size = left.size + right.size + 1
  nodes : ∀ left right, (both left right).node qt = join (left.node qt) (right.node qt)
  values : ∀ record left right,
    (join left right).matches qt record =
      value (left.matches qt record) (right.matches qt record)
  assoc : ∀ a b c, value (value a b) c = value a (value b c)

namespace Operator

variable {qt : FilterQt} (operator : Operator qt)

def token : UText :=
  [operator.sign, operator.sign]

/-- Operands joined by an operator are read: at the beginning of an expression,
and behind what has been read before the operator. -/
structure Reads (operand : Scan → Parsed) (ends : UText → Prop) (condition : Condition)
    (printed : UText) : Prop where
  begins : ∀ rest nodes, ends rest → nodes + condition.size ≤ maxNodes →
    ∃ node fuel, Means qt node condition ∧ (skip qt rest).length ≤ fuel ∧
      joined qt operator.token operator.join operand
          { rest := printed ++ rest, nodes := nodes } =
        chain qt operator.token operator.join operand fuel node
          { rest := rest, nodes := nodes + condition.size }
  continues : ∀ node before rest nodes fuel, ends rest → Blank qt before →
    (operator.token ++ printed ++ rest).length ≤ fuel →
    nodes + condition.size + 1 ≤ maxNodes →
    ∃ whole left, (∀ record, whole.matches qt record =
        operator.value (node.matches qt record)
          ((condition.node qt).matches qt record)) ∧
      (skip qt rest).length ≤ left ∧
      chain qt operator.token operator.join operand fuel node
          { rest := before ++ operator.token ++ printed ++ rest, nodes := nodes } =
        chain qt operator.token operator.join operand left whole
          { rest := rest, nodes := nodes + condition.size + 1 }

variable {operator} {operand : Scan → Parsed} {ends : UText → Prop}

theorem chain_congr {rest other : UText} (same : skip qt rest = skip qt other)
    (fuel : Nat) (node : Node) (nodes : Nat) :
    chain qt operator.token operator.join operand fuel node
        { rest := rest, nodes := nodes } =
      chain qt operator.token operator.join operand fuel node
        { rest := other, nodes := nodes } := by
  cases fuel with
  | zero =>
      rw [chain, chain, same]
  | succ fuel =>
      rw [chain, chain, consume_congr same]

theorem addNode_ok {node : Node} {scan : Scan} (room : scan.nodes + 1 ≤ maxNodes) :
    addNode node scan = .ok (node, { scan with nodes := scan.nodes + 1 }) := by
  rw [addNode, if_neg (Nat.not_lt.mpr room)]

theorem Reads.single {condition : Condition} {printed : UText}
    (reads : ReadsOperand qt operand ends condition printed) :
    operator.Reads operand ends condition printed where
  begins := by
    intro rest nodes ended room
    obtain ⟨node, behind, means, same, ran⟩ := reads rest nodes ended room
    refine ⟨node, behind.length, means, ?_, ?_⟩
    · rw [← same]
      exact skip_length qt behind
    · rw [joined, ran]
      exact chain_congr same _ _ _
  continues := by
    intro node before rest nodes fuel ended blank enough room
    obtain ⟨right, behind, means, same, ran⟩ := reads rest nodes ended (by omega)
    obtain ⟨fuel, rfl⟩ : ∃ left, fuel = left + 1 := by
      refine ⟨fuel - 1, ?_⟩
      rw [token, List.append_assoc, List.length_append, List.length_cons] at enough
      omega
    refine ⟨operator.join node right, fuel, ?_, ?_, ?_⟩
    · intro record
      rw [operator.values, means record]
    · have shorter := skip_length qt rest
      rw [token, List.length_append, List.length_append, List.length_cons] at enough
      omega
    · have found : consume qt operator.token
          (before ++ operator.token ++ printed ++ rest) = (true, printed ++ rest) := by
        rw [List.append_assoc]
        exact consume_token blank operator.solid _
      rw [chain, found]
      change (operand { rest := printed ++ rest, nodes := nodes } >>= _) = _
      rw [ran, ok_bind]
      change (addNode (operator.join node right)
        { rest := behind, nodes := nodes + condition.size } >>= _) = _
      rw [addNode_ok room, ok_bind]
      exact chain_congr same _ _ _

theorem skip_token {blanks : UText} (blank : Blank qt blanks) (rest : UText) :
    skip qt (blanks ++ operator.token ++ rest) = operator.token ++ rest := by
  rw [List.append_assoc, skip_blanks blank]
  exact skip_of_head operator.solid _

theorem Reads.both {left right : Condition} {front back between : UText}
    (first : operator.Reads operand ends left front)
    (second : operator.Reads operand ends right back) (blank : Blank qt between)
    (follows : ∀ rest, ends (between ++ operator.token ++ rest)) :
    operator.Reads operand ends (operator.both left right)
      (front ++ between ++ operator.token ++ back) where
  begins := by
    intro rest nodes ended room
    rw [operator.sizes] at room ⊢
    obtain ⟨node, fuel, means, enough, ran⟩ := first.begins
      (between ++ operator.token ++ (back ++ rest)) nodes (follows _) (by omega)
    rw [skip_token blank, ← List.append_assoc] at enough
    obtain ⟨whole, left', value, enough', continued⟩ :=
      second.continues node between rest (nodes + left.size) fuel ended blank enough
        (by omega)
    refine ⟨whole, left', ?_, enough', ?_⟩
    · intro record
      rw [value, means, operator.nodes, operator.values]
    · rw [show front ++ between ++ operator.token ++ back ++ rest =
          front ++ (between ++ operator.token ++ (back ++ rest)) by simp only [List.append_assoc],
        ran, ← List.append_assoc, continued,
        show nodes + (left.size + right.size + 1) = nodes + left.size + right.size + 1 by omega]
  continues := by
    intro node before rest nodes fuel ended blanks enough room
    rw [operator.sizes] at room ⊢
    obtain ⟨middle, fuel', value, enough', ran⟩ := first.continues node before
      (between ++ operator.token ++ (back ++ rest)) nodes fuel (follows _) blanks
      (by simpa only [List.append_assoc] using enough) (by omega)
    rw [skip_token blank, ← List.append_assoc] at enough'
    obtain ⟨whole, left', values, enough'', continued⟩ :=
      second.continues middle between rest (nodes + left.size + 1) fuel' ended blank
        enough' (by omega)
    refine ⟨whole, left', ?_, enough'', ?_⟩
    · intro record
      rw [values, value, operator.assoc, operator.nodes, operator.values]
    · rw [show before ++ operator.token ++ (front ++ between ++ operator.token ++ back) ++ rest =
          before ++ operator.token ++ front ++
            (between ++ operator.token ++ (back ++ rest)) by simp only [List.append_assoc],
        ran, ← List.append_assoc, continued,
        show nodes + (left.size + right.size + 1) + 1 =
          nodes + left.size + 1 + right.size + 1 by omega]

def Stops (operator : Operator qt) (rest : UText) : Prop :=
  (consume qt operator.token rest).1 = false

theorem consume_rest (token rest : UText) (absent : (consume qt token rest).1 = false) :
    consume qt token rest = (false, skip qt rest) := by
  unfold consume at absent ⊢
  by_cases found : token.isPrefixOf (skip qt rest) = true
  · rw [if_pos found] at absent
    cases absent
  · rw [if_neg found]

theorem Reads.done {condition : Condition} {printed : UText}
    (reads : operator.Reads operand ends condition printed) :
    ReadsOperand qt (joined qt operator.token operator.join operand)
      (fun rest => ends rest ∧ operator.Stops rest) condition printed := by
  rintro rest nodes ⟨ended, stops⟩ room
  obtain ⟨node, fuel, means, enough, ran⟩ := reads.begins rest nodes ended room
  refine ⟨node, skip qt rest, means, skip_skip rest, ?_⟩
  rw [ran]
  cases fuel with
  | zero =>
      rfl
  | succ fuel =>
      rw [chain, consume_rest _ _ stops]
      rfl

end Operator

/-! ### The two operators -/

section Operators

variable {qt : FilterQt}

theorem operator_solid (correct : FilterQtCorrect qt) {c : Char} (known : c ∈ operators) :
    qt.isSpace c = false := by
  cases solid : qt.isSpace c with
  | false =>
      rfl
  | true =>
      exact absurd known (correct.spaces c solid).1

def conjunctionOperator (correct : FilterQtCorrect qt) : Operator qt where
  sign := '&'
  join := .conjunction
  both := .conjunction
  value := and
  solid := operator_solid correct (by decide)
  sizes _ _ := rfl
  nodes _ _ := rfl
  values _ _ _ := rfl
  assoc := Bool.and_assoc

def disjunctionOperator (correct : FilterQtCorrect qt) : Operator qt where
  sign := '|'
  join := .disjunction
  both := .disjunction
  value := or
  solid := operator_solid correct (by decide)
  sizes _ _ := rfl
  nodes _ _ := rfl
  values _ _ _ := rfl
  assoc := Bool.or_assoc

/-! ### Conditions on a field -/

theorem fieldCharacter_solid (correct : FilterQtCorrect qt) {c : Char}
    (inName : isFieldCharacter qt c = true) : qt.isSpace c = false := by
  cases solid : qt.isSpace c with
  | false =>
      rfl
  | true =>
      obtain ⟨_, notLine, noLetter⟩ := correct.spaces c solid
      rw [isFieldCharacter, noLetter, Bool.false_or, beq_iff_eq] at inName
      exact absurd inName notLine

theorem fieldCharacter_other (correct : FilterQtCorrect qt) {c : Char}
    (inName : isFieldCharacter qt c = true) : c ∉ operators := by
  rw [isFieldCharacter, Bool.or_eq_true, beq_iff_eq] at inName
  rcases inName with letter | rfl
  · exact correct.letters c letter
  · decide

theorem name_ends (correct : FilterQtCorrect qt) {between : UText}
    (blank : Blank qt between) (rest : UText) :
    ∀ c, (between ++ '=' :: rest).head? = some c → isFieldCharacter qt c = false := by
  intro c first
  cases inName : isFieldCharacter qt c with
  | false =>
      rfl
  | true =>
      have solid := fieldCharacter_solid correct inName
      cases between with
      | nil =>
          cases first
          exact absurd (by decide) (fieldCharacter_other correct inName)
      | cons b between =>
          cases first
          rw [blank c List.mem_cons_self] at solid
          cases solid

theorem takeWhile_name {keep : Char → Bool} {name rest : UText}
    (kept : ∀ c ∈ name, keep c = true) (ended : ∀ c, rest.head? = some c → keep c = false) :
    (name ++ rest).takeWhile keep = name ∧ (name ++ rest).dropWhile keep = rest := by
  rw [List.takeWhile_append_of_pos kept, List.dropWhile_append_of_pos kept]
  cases rest with
  | nil =>
      exact ⟨List.append_nil name, rfl⟩
  | cons c rest =>
      have stop : ¬ keep c = true := by
        rw [ended c rfl]
        exact Bool.false_ne_true
      rw [List.takeWhile_cons_of_neg stop, List.dropWhile_cons_of_neg stop]
      exact ⟨List.append_nil name, rfl⟩

theorem fieldOf_eq {name : UText} {field : Field} :
    fieldOf qt name = some field ↔ qt.toLower name = field.name := by
  constructor
  · intro found
    unfold fieldOf at found
    have same := List.find?_some found
    exact beq_iff_eq.mp same
  · intro same
    simp only [fieldOf, same]
    cases field with
    | addr | dnsType | rule | err | action =>
        rfl

theorem readValue_plain {c : Char} (quote : c ≠ '"') (escape : c ≠ '\\') (rest : UText) :
    readValue (c :: rest) =
      (readValue rest >>= fun read => pure (c :: read.1, read.2)) := by
  rw [readValue]
  · exact fun same => quote same
  · exact fun same _ => escape same
  · exact fun _ _ same _ => escape same

theorem escaped_special {c : Char} (special : c = '"' ∨ c = '\\') (value : UText) :
    escaped (c :: value) = '\\' :: c :: escaped value := by
  have mark : isEscaped c = true := by
    rw [isEscaped, Bool.or_eq_true, beq_iff_eq, beq_iff_eq]
    exact special
  rw [escaped, List.flatMap_cons, if_pos mark]
  rfl

theorem escaped_plain {c : Char} (quote : c ≠ '"') (escape : c ≠ '\\') (value : UText) :
    escaped (c :: value) = c :: escaped value := by
  have plain : ¬ isEscaped c = true := by
    rw [isEscaped, Bool.or_eq_true, beq_iff_eq, beq_iff_eq, not_or]
    exact ⟨quote, escape⟩
  rw [escaped, List.flatMap_cons, if_neg plain]
  rfl

theorem readValue_escaped (value rest : UText) :
    readValue (escaped value ++ '"' :: rest) = .ok (value, rest) := by
  induction value with
  | nil =>
      rfl
  | cons c value ih =>
      by_cases special : c = '"' ∨ c = '\\'
      · rw [escaped_special special, List.cons_append, List.cons_append, readValue,
          if_pos special, ih]
        rfl
      · obtain ⟨quote, escape⟩ := not_or.mp special
        rw [escaped_plain quote escape, List.cons_append, readValue_plain quote escape, ih]
        rfl

theorem checkValue_ok {field : Field} {value : UText} (rest : UText) :
    checkValue qt field value rest = .ok () ↔ ValidValue qt field value := by
  simp only [checkValue, bind_eq_ok, rejectIf_eq_ok, not_and, not_lt]
  constructor
  · rintro ⟨_, given, _, action, type⟩
    refine ⟨given, fun same => ?_, fun same number read => ?_⟩
    · by_contra neither
      rw [not_or] at neither
      refine action same (fun name known => ?_) neither.2
      exact Bool.eq_false_iff.mpr fun equal => neither.1 ⟨name, known, equal⟩
    · have bound := type same
      rwa [read] at bound
  · intro valid
    refine ⟨(), valid.given, (), fun same others star => ?_, fun same => ?_⟩
    · rcases valid.action same with ⟨name, known, equal⟩ | only
      · rw [others name known] at equal
        cases equal
      · exact star only
    · cases read : qt.toUInt value with
      | none =>
          exact Nat.zero_le _
      | some number =>
          exact valid.type same number read

theorem predicate_reads (correct : FilterQtCorrect qt) {field : Field}
    {value name between behind : UText} (spells : Spells qt name field)
    (second : Blank qt between) (third : Blank qt behind)
    (valid : ValidValue qt field value) (rest : UText) {nodes : Nat}
    (room : nodes + 1 ≤ maxNodes) :
    predicate qt
        { rest := name ++ (between ++ '=' :: (behind ++ '"' :: (escaped value ++ '"' :: rest)))
          nodes := nodes } =
      .ok ((Condition.predicate field value).node qt, { rest := rest, nodes := nodes + 1 }) := by
  obtain ⟨c, tail, rfl⟩ := List.exists_cons_of_ne_nil spells.given
  have solid := fieldCharacter_solid correct (spells.characters c List.mem_cons_self)
  obtain ⟨taken, dropped⟩ := takeWhile_name spells.characters
    (name_ends correct second (behind ++ '"' :: (escaped value ++ '"' :: rest)))
  have equal := consume_sign second (operator_solid correct (by decide : '=' ∈ operators))
    (behind ++ '"' :: (escaped value ++ '"' :: rest))
  have quote := consume_sign third (operator_solid correct (by decide : '"' ∈ operators))
    (escaped value ++ '"' :: rest)
  rw [predicate, List.cons_append, skip_of_head solid, ← List.cons_append]
  simp only [taken, dropped, fieldOf_eq.mpr spells.lower, equal, quote,
    readValue_escaped, (checkValue_ok rest).mpr valid, ok_bind, Bool.true_eq_false,
    rejectIf_of_not not_false]
  exact Operator.addNode_ok room

/-! ### All printings -/

def ReadsLevel (correct : FilterQtCorrect qt) :
    Level → Nat → Condition → UText → Prop
  | .primary, room =>
      ReadsOperand qt (primary qt (room + 1)) (fun _ => True)
  | .all, room =>
      (conjunctionOperator correct).Reads (primary qt (room + 1)) (fun _ => True)
  | .any, room =>
      (disjunctionOperator correct).Reads (conjunctionOf qt (primary qt (room + 1)))
        (fun rest => True ∧ (conjunctionOperator correct).Stops rest)

theorem stops_before (correct : FilterQtCorrect qt) (operator : Operator qt)
    {blanks : UText} (blank : Blank qt blanks) {c : Char} (known : c ∈ operators)
    (different : c ≠ operator.sign) (rest : UText) :
    operator.Stops (blanks ++ c :: rest) := by
  unfold Operator.Stops Operator.token
  rw [consume_other blank (operator_solid correct known) different]

theorem printed_reads (correct : FilterQtCorrect qt) {level : Level} {room : Nat}
    {condition : Condition} {printed : UText}
    (prints : Prints qt level room condition printed) (valid : condition.Valid qt) :
    ReadsLevel correct level room condition printed := by
  induction prints with
  | @predicate room field value before name between behind first spells second third =>
      intro rest nodes _ fits
      refine ⟨_, rest, fun _ => rfl, rfl, ?_⟩
      obtain ⟨c, tail, rfl⟩ := List.exists_cons_of_ne_nil spells.given
      have inName := spells.characters c List.mem_cons_self
      have solid := fieldCharacter_solid correct inName
      have others := fieldCharacter_other correct inName
      have notNot : c ≠ '!' := fun same => others (same ▸ by decide)
      have notGroup : c ≠ '(' := fun same => others (same ▸ by decide)
      have shape : before ++ (c :: tail) ++ between ++ '=' :: behind ++
            '"' :: escaped value ++ ['"'] ++ rest =
          before ++ c :: (tail ++ (between ++ '=' ::
            (behind ++ '"' :: (escaped value ++ '"' :: rest)))) := by
        simp only [List.append_assoc, List.cons_append, List.nil_append]
      rw [shape, primary_predicate (consume_other first solid notNot _)
        (consume_other blank_nil solid notGroup _)]
      exact predicate_reads correct spells second third valid rest fits
  | @negation room inner before printed first prints ih =>
      intro rest nodes _ fits
      rw [Condition.size] at fits ⊢
      have negated := consume_sign first (operator_solid correct (by decide : '!' ∈ operators))
        (printed ++ rest)
      obtain ⟨node, behind, means, same, ran⟩ := ih valid rest nodes trivial (by omega)
      refine ⟨.negation node, behind, fun record => ?_, same, ?_⟩
      · exact congrArg not (means record)
      · rw [List.append_assoc, List.cons_append, primary_negation negated, ran, ok_bind]
        exact Operator.addNode_ok fits
  | @group room inner before printed behind first prints second ih =>
      intro rest nodes _ fits
      have solid := operator_solid correct (by decide : '(' ∈ operators)
      have closing := operator_solid correct (by decide : ')' ∈ operators)
      have stops : ∀ operator : Operator qt, ')' ≠ operator.sign →
          operator.Stops (behind ++ ')' :: rest) := fun operator different =>
        stops_before correct operator second (by decide : ')' ∈ operators) different rest
      obtain ⟨node, left, means, same, ran⟩ := (ih valid).done (behind ++ ')' :: rest) nodes
        ⟨⟨trivial, stops (conjunctionOperator correct) (show ')' ≠ '&' by decide)⟩,
          stops (disjunctionOperator correct) (show ')' ≠ '|' by decide)⟩ fits
      refine ⟨node, rest, means, rfl, ?_⟩
      have shape : before ++ '(' :: printed ++ behind ++ [')'] ++ rest =
          before ++ '(' :: (printed ++ (behind ++ ')' :: rest)) := by
        simp only [List.append_assoc, List.cons_append, List.nil_append]
      have closed : consume qt [')'] left = (true, rest) := by
        rw [consume_congr same]
        exact consume_sign second closing rest
      rw [shape, primary_group (consume_other first solid (by decide) _)
        (consume_sign blank_nil solid _)]
      change (joined qt (disjunctionOperator correct).token _ _ _ >>= _) = _
      rw [show (Node.disjunction) = (disjunctionOperator correct).join from rfl, ran, ok_bind,
        closeGroup, closed]
      rfl
  | operand printed ih =>
      exact Operator.Reads.single (ih valid)
  | @conjunction room left right front back between first blank second leftIh rightIh =>
      have both := (leftIh valid.1).both (rightIh valid.2) blank fun _ => trivial
      rw [show front ++ between ++ '&' :: '&' :: back =
        front ++ between ++ (conjunctionOperator correct).token ++ back from
          (List.append_assoc _ ['&', '&'] back).symm]
      exact both
  | alternative printed ih =>
      exact Operator.Reads.single (ih valid).done
  | @disjunction room left right front back between first blank second leftIh rightIh =>
      have stops : ∀ rest, (conjunctionOperator correct).Stops
          (between ++ (disjunctionOperator correct).token ++ rest) := by
        intro rest
        rw [List.append_assoc]
        exact stops_before correct _ blank (by decide : '|' ∈ operators)
          (show '|' ≠ '&' by decide) _
      have both := (leftIh valid.1).both (rightIh valid.2) blank
        fun rest => ⟨trivial, stops rest⟩
      rw [show front ++ between ++ '|' :: '|' :: back =
        front ++ between ++ (disjunctionOperator correct).token ++ back from
          (List.append_assoc _ ['|', '|'] back).symm]
      exact both

theorem Prints.begins (correct : FilterQtCorrect qt) {level : Level} {room : Nat}
    {condition : Condition} {printed : UText}
    (prints : Prints qt level room condition printed) (rest : UText) :
    skip qt (printed ++ rest) ≠ [] := by
  have token : ∀ {before : UText} {c : Char}, Blank qt before → qt.isSpace c = false →
      ∀ rest, skip qt (before ++ c :: rest) ≠ [] := by
    intro before c blank solid rest
    rw [skip_blanks blank, skip_of_head solid]
    exact List.cons_ne_nil c rest
  induction prints generalizing rest with
  | @predicate room field value before name between behind first spells second third =>
      obtain ⟨c, tail, rfl⟩ := List.exists_cons_of_ne_nil spells.given
      have solid := fieldCharacter_solid correct (spells.characters c List.mem_cons_self)
      simp only [List.append_assoc, List.cons_append]
      exact token first solid _
  | negation first prints ih =>
      rw [List.append_assoc, List.cons_append]
      exact token first (operator_solid correct (by decide : '!' ∈ operators)) _
  | group first prints second ih =>
      simp only [List.append_assoc, List.cons_append]
      exact token first (operator_solid correct (by decide : '(' ∈ operators)) _
  | operand prints ih =>
      exact ih rest
  | conjunction left blank right leftIh rightIh =>
      rw [List.append_assoc, List.append_assoc]
      exact leftIh _
  | alternative prints ih =>
      exact ih rest
  | disjunction left blank right leftIh rightIh =>
      rw [List.append_assoc, List.append_assoc]
      exact leftIh _

theorem disjunction_congr {levels nodes : Nat} {rest other : UText}
    (same : skip qt rest = skip qt other) :
    disjunctionOf qt (primary qt (levels + 1)) { rest := rest, nodes := nodes } =
      disjunctionOf qt (primary qt (levels + 1)) { rest := other, nodes := nodes } := by
  unfold disjunctionOf conjunctionOf joined
  rw [show primary qt (levels + 1) { rest := rest, nodes := nodes } =
    primary qt (levels + 1) { rest := other, nodes := nodes } by
      rw [primary, primary, consume_congr same]]

theorem stops_blank (operator : Operator qt) {blanks : UText} (blank : Blank qt blanks) :
    operator.Stops blanks := by
  have skipped : skip qt blanks = [] := by
    have whole := skip_blanks blank []
    rwa [List.append_nil] at whole
  unfold Operator.Stops Operator.token consume
  rw [skipped]
  rfl

/-- Every printing of a valid condition within the limits is compiled to a
filter that means the same. -/
theorem compile_printed (correct : FilterQtCorrect qt) {condition : Condition}
    {expression : UText} (printed : Printed qt condition expression)
    (valid : condition.Valid qt) (small : condition.size ≤ maxNodes)
    (short : unitCount expression ≤ maxLength) :
    ∃ node, compile qt expression = .ok (some node) ∧ Means qt node condition := by
  obtain ⟨before, text, behind, rfl, first, prints, last⟩ := printed
  have skipped : skip qt (before ++ text ++ behind) = skip qt (text ++ behind) := by
    rw [List.append_assoc, skip_blanks first]
  obtain ⟨node, left, means, same, ran⟩ := (printed_reads correct prints valid).done behind 0
    ⟨⟨trivial, stops_blank _ last⟩, stops_blank _ last⟩ (by omega)
  have read : disjunctionOf qt (primary qt (maxDepth + 1))
      { rest := skip qt (before ++ text ++ behind), nodes := 0 } =
        .ok (node, { rest := left, nodes := 0 + condition.size }) := by
    have again : skip qt (skip qt (before ++ text ++ behind)) = skip qt (text ++ behind) := by
      rw [skip_skip, skipped]
    exact (disjunction_congr again).trans ran
  have finished : skip qt left = [] := by
    have whole := skip_blanks last []
    rw [List.append_nil] at whole
    rw [same, whole]
    rfl
  refine ⟨node, ?_, means⟩
  rw [compile, parse, rejectIf_of_not (Nat.not_lt.mpr short), ok_bind,
    if_neg (skipped ▸ prints.begins correct behind), read, ok_bind]
  simp only [finished, ne_eq, not_true_eq_false, rejectIf_of_not not_false, ok_bind]
  rfl

end Operators

end LogFilter

end NativeDNS

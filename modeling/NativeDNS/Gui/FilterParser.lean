/-
The parser of filter expressions.

The position of the source is given by the text that is left.  `primary` counts
the levels of parentheses and negations that are left, so it is recursive on
their number; the two loops end with the text, so they are recursive on its
length.  A failure keeps the text it was found at.
-/
import NativeDNS.Gui.LogFilter
import NativeDNS.Library.CheckedResult

namespace NativeDNS

namespace LogFilter

open CheckedResult

structure Failure where
  message : String
  rest : UText
  deriving DecidableEq

/-- What is left to read, and how many nodes have been built. -/
structure Scan where
  rest : UText
  nodes : Nat
  deriving DecidableEq

abbrev Parsed := Except Failure (Node × Scan)

def maxNodes : Nat := 128

def maxDepth : Nat := 32

/-! ### Tokens -/

section Parser

variable (qt : FilterQt)

def skip (rest : UText) : UText :=
  rest.dropWhile qt.isSpace

/-- Blanks are skipped whether the token follows or not. -/
def consume (token rest : UText) : Bool × UText :=
  let rest := skip qt rest
  if token.isPrefixOf rest = true then (true, rest.drop token.length)
  else (false, rest)

def tooMany : String := "Too many filter conditions (maximum 128)."

def addNode (node : Node) (scan : Scan) : Parsed :=
  if maxNodes < scan.nodes + 1 then
    .error
      { message := tooMany
        rest := scan.rest }
  else .ok (node, { scan with nodes := scan.nodes + 1 })

def readValue : UText → Except Failure (UText × UText)
  | [] =>
      .error
        { message := "Expected a closing double quote."
          rest := [] }
  | '"' :: rest => .ok ([], rest)
  | ['\\'] =>
      .error
        { message := "Incomplete escape sequence."
          rest := [] }
  | '\\' :: c :: rest =>
      if c = '"' ∨ c = '\\' then do
        let (value, rest) ← readValue rest
        pure (c :: value, rest)
      else
        .error
          { message := "Only double quotes and backslashes can be escaped."
            rest := rest }
  | c :: rest => do
      let (value, rest) ← readValue rest
      pure (c :: value, rest)

def isFieldCharacter (c : Char) : Bool :=
  qt.isLetter c || c == '_'

def fieldOf (name : UText) : Option Field :=
  Field.all.find? fun field => qt.toLower name == field.name

/-- The checks of a value; the order is that of the source. -/
def checkValue (field : Field) (value rest : UText) : Except Failure Unit := do
  rejectIf (field ≠ .err ∧ value = [])
    { message := "The field value must not be empty."
      rest := rest }
  rejectIf
    (field = .action ∧ (∀ name ∈ actionNames, qt.equals value name = false) ∧
      value ≠ ['*'])
    { message := "Action must be process, block or bypass."
      rest := rest }
  rejectIf (field = .dnsType ∧ 65535 < (qt.toUInt value).getD 0)
    { message := "DNS type number must be 0..65535."
      rest := rest }

def predicate (scan : Scan) : Parsed := do
  let start := skip qt scan.rest
  let name := start.takeWhile (isFieldCharacter qt)
  let rest := start.dropWhile (isFieldCharacter qt)
  match fieldOf qt name with
  | none =>
      .error
        { message := "Unknown field. Use addr, dns_type, rule, err or action."
          rest := rest }
  | some field => do
      let (equal, rest) := consume qt ['='] rest
      rejectIf (equal = false)
        { message := "Expected = after the field name."
          rest := rest }
      let (quoted, rest) := consume qt ['"'] rest
      rejectIf (quoted = false)
        { message := "Put the value in double quotes."
          rest := rest }
      let (value, rest) ← readValue rest
      checkValue qt field value rest
      let value := standsFor qt field value
      addNode (.predicate field value (patternOf field value))
        { scan with rest := rest }

/-! ### Operators -/

def chain (token : UText) (join : Node → Node → Node) (operand : Scan → Parsed) :
    Nat → Node → Scan → Parsed
  | 0, node, scan => .ok (node, { scan with rest := skip qt scan.rest })
  | fuel + 1, node, scan => do
      let (found, rest) := consume qt token scan.rest
      if found = true then
        let (right, scan) ← operand { scan with rest := rest }
        let (node, scan) ← addNode (join node right) scan
        chain token join operand fuel node scan
      else .ok (node, { scan with rest := rest })

def joined (token : UText) (join : Node → Node → Node) (operand : Scan → Parsed)
    (scan : Scan) : Parsed := do
  let (first, scan) ← operand scan
  chain qt token join operand scan.rest.length first scan

def conjunctionOf (operand : Scan → Parsed) : Scan → Parsed :=
  joined qt ['&', '&'] .conjunction operand

def disjunctionOf (operand : Scan → Parsed) : Scan → Parsed :=
  joined qt ['|', '|'] .disjunction (conjunctionOf qt operand)

def closeGroup (inner : Node) (scan : Scan) : Parsed :=
  let (closed, rest) := consume qt [')'] scan.rest
  if closed = true then .ok (inner, { scan with rest := rest })
  else
    .error
      { message := "Expected a closing parenthesis."
        rest := rest }

/-- A condition, a negation or a group, with so many levels left. -/
def primary : Nat → Scan → Parsed
  | 0, scan =>
      .error
        { message := "Filter nesting is too deep (maximum 32)."
          rest := scan.rest }
  | levels + 1, scan => do
      let (negated, rest) := consume qt ['!'] scan.rest
      if negated = true then
        let (inner, scan) ← primary levels { scan with rest := rest }
        addNode (.negation inner) scan
      else
        let (opened, rest) := consume qt ['('] rest
        if opened = true then
          let (inner, scan) ← disjunctionOf qt (primary levels) { scan with rest := rest }
          closeGroup qt inner scan
        else predicate qt { scan with rest := rest }

section Branches

variable {qt} {levels : Nat} {scan : Scan} {middle rest : UText}

theorem primary_negation (negated : consume qt ['!'] scan.rest = (true, rest)) :
    primary qt (levels + 1) scan =
      (primary qt levels { scan with rest := rest } >>=
        fun read => addNode (.negation read.1) read.2) := by
  rw [primary, negated]
  rfl

theorem primary_group (plain : consume qt ['!'] scan.rest = (false, middle))
    (opened : consume qt ['('] middle = (true, rest)) :
    primary qt (levels + 1) scan =
      (disjunctionOf qt (primary qt levels) { scan with rest := rest } >>=
        fun read => closeGroup qt read.1 read.2) := by
  rw [primary, plain]
  simp only [opened]
  rfl

theorem primary_predicate (plain : consume qt ['!'] scan.rest = (false, middle))
    (single : consume qt ['('] middle = (false, rest)) :
    primary qt (levels + 1) scan = predicate qt { scan with rest := rest } := by
  rw [primary, plain]
  simp only [single]
  rfl

end Branches

/-! ### Filters -/

def unitCount (text : UText) : Nat :=
  (text.map fun c => if c.toNat < 0x10000 then 1 else 2).sum

def maxLength : Nat := 4096

def parse (expression : UText) : Except Failure (Option Node) := do
  rejectIf (maxLength < unitCount expression)
    { message := "Filter is too long (maximum 4096 characters)."
      rest := expression }
  let rest := skip qt expression
  if rest = [] then pure none
  else
    let (node, scan) ← disjunctionOf qt (primary qt (maxDepth + 1))
      { rest := rest
        nodes := 0 }
    let rest := skip qt scan.rest
    rejectIf (rest ≠ [])
      { message := "Expected && or || between conditions."
        rest := rest }
    pure (some node)

def compile (expression : UText) : Except (String × Nat) (Option Node) :=
  match parse qt expression with
  | .ok filter => .ok filter
  | .error failure =>
      .error (failure.message, unitCount expression - unitCount failure.rest + 1)

/-- An empty filter shows every record. -/
def matchesFilter (record : Record) : Option Node → Bool
  | none => true
  | some node => node.matches qt record

end Parser

end LogFilter

end NativeDNS

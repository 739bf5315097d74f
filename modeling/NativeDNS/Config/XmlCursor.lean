/-
The configuration parser as the source runs it: one cursor into the whole text,
moved by every scanner, and a count of the nodes.

A read behind the end and a loop without an end are faults of a run.  A run also
keeps a record of where it put the cursor, of the iterations that went on, and of
the elements it entered, left and built.
-/
import NativeDNS.Config.Xml
import NativeDNS.Library.GuardedAccess
import NativeDNS.Library.Throwing

namespace NativeDNS

open ByteText (text byte)
open CheckedResult
open GuardedAccess
open Throwing

namespace XmlCursor

/-! ### The state of a run -/

inductive Event where
  | moved (pos : Nat)
  /-- A loop that began an iteration at `before` begins another one at `after`. -/
  | iteration (before after : Nat)
  /-- `parse_element`, entered at `before`, calls itself at `after`. -/
  | recursion (before after : Nat)
  /-- The call made at `before` returned at `after`. -/
  | returned (before after : Nat)
  /-- `parse_element` was called with a depth. -/
  | entered (depth : Nat)
  | built
  deriving DecidableEq

/-- `pos_`, `nodes_`, and what happened so far, latest first. -/
structure Cursor where
  pos : Nat := 0
  nodes : Nat := 0
  record : List Event := []

namespace Cursor

def noted (cursor : Cursor) (event : Event) : Cursor :=
  { cursor with record := event :: cursor.record }

def moved (cursor : Cursor) (pos : Nat) : Cursor :=
  { cursor with pos := pos, record := .moved pos :: cursor.record }

def counted (cursor : Cursor) : Cursor :=
  { cursor with nodes := cursor.nodes + 1 }

end Cursor

abbrev Scan (α : Type) := EStateM (Fault Error) Cursor α

def position : Scan Nat := do
  return (← get).pos

def note (event : Event) : Scan Unit :=
  modify fun cursor => cursor.noted event

def moveTo (pos : Nat) : Scan Unit :=
  modify fun cursor => cursor.moved pos

def advance (count : Nat) : Scan Unit := do
  moveTo ((← position) + count)

def countNode : Scan Nat := do
  modify Cursor.counted
  return (← get).nodes

def reject (condition : Prop) [Decidable condition] (error : Error) : Scan Unit :=
  attempt (rejectIf condition (Fault.raised error))

/-- Iterations of a loop until one of them leaves it, at most as many as given. -/
def loop {α β : Type} (pass : α → Scan (α ⊕ β)) : Nat → α → Scan β
  | 0, _ => throw .unfinished
  | left + 1, state => do
      let start ← position
      match ← pass state with
      | .inl next => do
          note (.iteration start (← position))
          loop pass left next
      | .inr result => pure result

/-! ### Reading the text -/

variable (text_ : Bytes)

/-- The iterations a loop is given, and the calls that may be nested. -/
def budget : Nat := text_.length + 18

/-- The byte at the cursor, read when `pos_ < text_.size()`. -/
def current : Scan (Option UInt8) := do
  let pos ← position
  if pos < text_.length then
    some <$> attempt (readAt text_ pos)
  else
    pure none

/-- `text_.compare(pos_, length, token) == 0` -/
def starts (token : Bytes) : Scan Bool := do
  let pos ← position
  if pos > text_.length then throw .outOfRange
  else pure ((text_.drop pos).take token.length == token)

/-- `text_.substr(begin, count)` -/
def substr (start count : Nat) : Scan Bytes :=
  if start > text_.length then throw .outOfRange
  else pure ((text_.drop start).take count)

def occurrence (token : Bytes) : Bytes → Option Nat
  | [] => if token = [] then some 0 else none
  | c :: rest =>
      if token.isPrefixOf (c :: rest) = true then some 0
      else (occurrence token rest).map (· + 1)

/-- `text_.find(token, start)` -/
def find (token : Bytes) (start : Nat) : Option Nat :=
  (occurrence token (text_.drop start)).map (start + ·)

/-! ### The scanners -/

def skipPass (holds : UInt8 → Bool) : Unit → Scan (Unit ⊕ Unit) := fun _ => do
  match ← current text_ with
  | none => pure (.inr ())
  | some c =>
      if holds c = true then do
        advance 1
        pure (.inl ())
      else
        pure (.inr ())

/-- `while (pos_ < text_.size() && holds(text_[pos_])) ++pos_` -/
def skipWhile (holds : UInt8 → Bool) : Scan Unit :=
  loop (skipPass text_ holds) (budget text_) ()

def skipWs : Scan Unit :=
  skipWhile text_ XmlParser.isSpace

def skipUntil (token : Bytes) : Scan Unit := do
  match find text_ token (← position) with
  | none => throw (.raised (.of "XML" "Unterminated XML section"))
  | some found => moveTo (found + token.length)

/-- An iteration of the loop of `skip_misc`. -/
def skipMiscPass : Unit → Scan (Unit ⊕ Unit) := fun _ => do
  skipWs text_
  if ← starts text_ (text "<?") then
    advance 2
    skipUntil text_ (text "?>")
    pure (.inl ())
  else if ← starts text_ (text "<!--") then
    advance 4
    skipUntil text_ (text "-->")
    pure (.inl ())
  else if ← starts text_ (text "<!DOCTYPE") <||> starts text_ (text "<!ENTITY") then
    throw (.raised (.of "XML" "DTD/entity declarations are prohibited"))
  else
    pure (.inr ())

def skipMisc : Scan Unit :=
  loop (skipMiscPass text_) (budget text_) ()

def name : Scan Bytes := do
  let start ← position
  skipWhile text_ XmlParser.isNameCharacter
  let pos ← position
  reject (start = pos) (.of "XML" "Expected XML name")
  substr text_ start (← attempt (minus pos start))

/-- An iteration of the loop of `quoted`. -/
def quotedPass (quote : UInt8) (out : Bytes) : Scan (Bytes ⊕ Bytes) := do
  match ← current text_ with
  | none => pure (.inr out)
  | some c =>
      if c = quote then pure (.inr out)
      else if c = byte '&' then do
        let pos ← position
        match find text_ [byte ';'] (pos + 1) with
        | none => throw (.raised (.of "XML" "Unterminated XML entity"))
        | some stop => do
            let upTo ← attempt (minus stop pos)
            let count ← attempt (minus upTo 1)
            let entity ← substr text_ (pos + 1) count
            let decoded ← attempt (raising (decodeEntity entity))
            moveTo (stop + 1)
            pure (.inl (out ++ decoded))
      else do
        advance 1
        reject (c < 0x20 ∧ c ≠ 9 ∧ c ≠ 13 ∧ c ≠ 10)
          (.of "XML" "Control character in XML")
        pure (.inl (out ++ [c]))

def quoted : Scan Bytes := do
  match ← current text_ with
  | none => throw (.raised (.of "XML" "Expected quoted attribute"))
  | some quote => do
      reject (quote ≠ byte '"' ∧ quote ≠ byte '\'')
        (.of "XML" "Expected quoted attribute")
      advance 1
      let out ← loop (quotedPass text_ quote) (budget text_) []
      reject ((← position) ≥ text_.length) (.of "XML" "Unterminated attribute")
      advance 1
      pure out

/-- An iteration of the first loop of `parse_element`.  The flag tells whether
the tag closes itself. -/
def attributesPass (attrs : Metadata) : Scan (Metadata ⊕ (Metadata × Bool)) := do
  skipWs text_
  if ← starts text_ (text "/>") then
    advance 2
    pure (.inr (attrs, true))
  else if (← current text_) = some (byte '>') then
    advance 1
    pure (.inr (attrs, false))
  else
    let key ← name text_
    skipWs text_
    reject ((← current text_) ≠ some (byte '='))
      (.of "XML" "Expected '=' after attribute")
    advance 1
    skipWs text_
    let value ← quoted text_
    match attrs.emplace key value with
    | none => throw (.raised (.of "XML" "Duplicate attribute"))
    | some attrs => pure (.inl attrs)

/-- The bytes between `index` and `stop`, in front of the next element. -/
def blankPass (stop : Nat) (index : Nat) : Scan (Nat ⊕ Unit) :=
  if index < stop then do
    let c ← attempt (readAt text_ index)
    reject (XmlParser.isSpace c = false) (.of "XML" "Unexpected text content")
    pure (.inl (index + 1))
  else
    pure (.inr ())

def skipText : Scan Unit := do
  let pos ← position
  let stop := (find text_ [byte '<'] pos).getD text_.length
  loop (blankPass text_ stop) (budget text_) pos
  moveTo stop
  reject (stop = text_.length) (.of "XML" "Unterminated element")

/-- An iteration of the second loop of `parse_element`, in the element `parent`.
A child is parsed by `element`. -/
def childrenPass (element : Scan Node) (parent : Bytes) (children : List Node) :
    Scan (List Node ⊕ List Node) := do
  skipWs text_
  if ← starts text_ (text "</") then
    advance 2
    let close ← name text_
    skipWs text_
    reject ((← current text_) ≠ some (byte '>')) (.of "XML" "Malformed closing tag")
    advance 1
    reject (close ≠ parent) (.of "XML" "Mismatched closing tag")
    pure (.inr children)
  else if ← starts text_ (text "<!--") then
    advance 4
    skipUntil text_ (text "-->")
    pure (.inl children)
  else if ← starts text_ (text "<![CDATA[") then
    throw (.raised (.of "XML" "CDATA is unsupported in NativeDNS configuration"))
  else if (← current text_) = some (byte '<') then
    let child ← element
    pure (.inl (children ++ [child]))
  else
    skipText text_
    pure (.inl children)

/-- A call made by an element that was entered at `entry`. -/
def recursively (entry : Nat) (element : Scan Node) : Scan Node := do
  let start ← position
  note (.recursion entry start)
  let child ← element
  note (.returned start (← position))
  pure child

/-- `parse_element`; the first argument bounds how deep its calls are nested. -/
def parseElement : Nat → Nat → Scan Node
  | 0, _ => throw .unfinished
  | calls + 1, depth => do
      let entry ← position
      note (.entered depth)
      reject (depth > 16) (.of "XML_LIMIT" "XML nesting is too deep")
      reject ((← countNode) > 200000) (.of "XML_LIMIT" "Too many XML nodes")
      skipWs text_
      reject ((← current text_) ≠ some (byte '<')) (.of "XML" "Expected element")
      reject ((← starts text_ (text "</")) = true) (.of "XML" "Expected element")
      advance 1
      let next ← current text_
      reject (next = some (byte '!') ∨ next = some (byte '?'))
        (.of "XML" "Unexpected XML declaration")
      note .built
      let called ← name text_
      let (attrs, closed) ←
        loop (attributesPass text_) (budget text_) OrderedMap.empty
      if closed then
        pure { name := called, attrs := attrs }
      else
        let children ←
          loop
            (childrenPass text_
              (recursively entry (parseElement calls (depth + 1))) called)
            (budget text_) []
        pure { name := called, attrs := attrs, children := children }

def skipMark : Scan Unit :=
  if text_.length ≥ 3 then do
    let first ← attempt (readAt text_ 0)
    let second ← attempt (readAt text_ 1)
    let third ← attempt (readAt text_ 2)
    if first = 0xEF ∧ second = 0xBB ∧ third = 0xBF then moveTo 3
    else pure ()
  else
    pure ()

def parse : Scan Node := do
  reject (text_.length > textLimit) (.of "CONFIG_IO" "Config exceeds 4 MiB")
  skipMark text_
  skipMisc text_
  let root ← parseElement text_ (budget text_) 0
  skipMisc text_
  skipWs text_
  reject ((← position) ≠ text_.length)
    (.of "XML" "Unexpected data after root element")
  pure root

end XmlCursor

end NativeDNS

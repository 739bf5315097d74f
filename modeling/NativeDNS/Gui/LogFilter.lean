/-
The display filters of the log: what a compiled filter does with a record, and
what a filter expression means.

Texts are sequences of Unicode characters; their length is counted in UTF-16
units where the source counts them.  Qt's classes of characters, its case
folding, its number reader and the regular expression engine are parameters.
Escaping and replacing are computed as documented.  An expression is a tree of
conditions with the values as they are written.
-/
import NativeDNS.Gui.LogRecords
import NativeDNS.Library.Wildcard
import NativeDNS.Wire.Question

namespace NativeDNS

open ByteText (text decimal)
open Wildcard

abbrev UText := List Char

def asciiText (value : Bytes) : UText :=
  value.map fun c => Char.ofNat c.toNat

namespace LogFilter

inductive Field where
  | addr
  | dnsType
  | rule
  | err
  | action
  deriving DecidableEq

def Field.all : List Field :=
  [.addr, .dnsType, .rule, .err, .action]

def Field.name : Field → UText
  | .addr => ['a', 'd', 'd', 'r']
  | .dnsType => ['d', 'n', 's', '_', 't', 'y', 'p', 'e']
  | .rule => ['r', 'u', 'l', 'e']
  | .err => ['e', 'r', 'r']
  | .action => ['a', 'c', 't', 'i', 'o', 'n']

/-- What the filter asks Qt for. -/
structure FilterQt where
  isSpace : Char → Bool
  isLetter : Char → Bool
  toLower : UText → UText
  fold : Char → Char
  toUInt : UText → Option Nat
  /-- Whether a case-insensitive expression matches somewhere in a text. -/
  hasMatch : UText → UText → Bool

structure Record where
  code : UText := []
  message : UText := []
  address : UText := []
  dnsType : UText := []
  rule : UText := []
  action : UText := []
  error : Bool := false

/-- The text an `err` condition looks into. -/
def Record.errorText (record : Record) : UText :=
  record.code ++ ' ' :: record.message

def Record.fieldText (record : Record) : Field → UText
  | .addr => record.address
  | .dnsType => record.dnsType
  | .rule => record.rule
  | .action => record.action
  | .err => record.errorText

/-! ### Texts -/

namespace FilterQt

/-- `QString::compare` without case. -/
def equals (qt : FilterQt) (left right : UText) : Bool :=
  left.map qt.fold == right.map qt.fold

/-- `QString::contains` without case. -/
def contains (qt : FilterQt) (whole value : UText) : Bool :=
  whole.tails.any fun tail => (value.map qt.fold).isPrefixOf (tail.map qt.fold)

end FilterQt

def isWordCharacter (c : Char) : Bool :=
  c.isAlphanum || c == '_'

def escapeCharacter (c : Char) : UText :=
  if c = '\x00' then ['\\', '0']
  else if isWordCharacter c = true then [c]
  else ['\\', c]

def escape (value : UText) : UText :=
  value.flatMap escapeCharacter

/-- `QString::replace` of a text of two characters. -/
def replacePair (first second : Char) (after : UText) : UText → UText
  | [] => []
  | [c] => [c]
  | c :: d :: rest =>
      if c = first ∧ d = second then after ++ replacePair first second after rest
      else c :: replacePair first second after (d :: rest)

/-! ### Compiled filters -/

inductive Node where
  | predicate (field : Field) (value : UText) (pattern : Option UText)
  | conjunction (left right : Node)
  | disjunction (left right : Node)
  | negation (inner : Node)
  deriving DecidableEq

def hasWildcard (value : UText) : Bool :=
  value.contains '*' || value.contains '?'

def wildcardPattern (value : UText) : UText :=
  replacePair '\\' '?' ['.'] (replacePair '\\' '*' ['.', '*'] (escape value))

def anchored (pattern : UText) : UText :=
  ['^', '(', '?', ':'] ++ pattern ++ [')', '$']

def patternOf (field : Field) (value : UText) : Option UText :=
  if hasWildcard value = true then
    some (if field = .err then wildcardPattern value else anchored (wildcardPattern value))
  else none

/-- A numeric type stands for its name. -/
def standsFor (qt : FilterQt) (field : Field) (value : UText) : UText :=
  if field = .dnsType then
    match qt.toUInt value with
    | some number => asciiText (dnsTypeName (UInt16.ofNat number))
    | none => value
  else value

def Node.matches (qt : FilterQt) (record : Record) : Node → Bool
  | .conjunction left right => left.matches qt record && right.matches qt record
  | .disjunction left right => left.matches qt record || right.matches qt record
  | .negation inner => !inner.matches qt record
  | .predicate .err value pattern =>
      record.error &&
        (value == [] || value == ['*'] ||
          match pattern with
          | some pattern => qt.hasMatch pattern record.errorText
          | none => qt.contains record.errorText value)
  | .predicate field value pattern =>
      record.fieldText field != [] &&
        match pattern with
        | some pattern => qt.hasMatch pattern (record.fieldText field)
        | none => qt.equals (record.fieldText field) value

/-! ### Conditions -/

inductive Condition where
  | predicate (field : Field) (value : UText)
  | conjunction (left right : Condition)
  | disjunction (left right : Condition)
  | negation (inner : Condition)
  deriving DecidableEq

namespace Condition

def size : Condition → Nat
  | predicate _ _ => 1
  | conjunction left right => left.size + right.size + 1
  | disjunction left right => left.size + right.size + 1
  | negation inner => inner.size + 1

def node (qt : FilterQt) : Condition → Node
  | predicate field value =>
      .predicate field (standsFor qt field value) (patternOf field (standsFor qt field value))
  | conjunction left right => .conjunction (left.node qt) (right.node qt)
  | disjunction left right => .disjunction (left.node qt) (right.node qt)
  | negation inner => .negation (inner.node qt)

end Condition

def actionNames : List UText :=
  [['p', 'r', 'o', 'c', 'e', 's', 's'], ['b', 'l', 'o', 'c', 'k'],
    ['b', 'y', 'p', 'a', 's', 's']]

structure ValidValue (qt : FilterQt) (field : Field) (value : UText) : Prop where
  given : field ≠ .err → value ≠ []
  action : field = .action →
    (∃ name ∈ actionNames, qt.equals value name = true) ∨ value = ['*']
  type : field = .dnsType → ∀ number, qt.toUInt value = some number → number ≤ 65535

def Condition.Valid (qt : FilterQt) : Condition → Prop
  | predicate field value => ValidValue qt field value
  | conjunction left right => left.Valid qt ∧ right.Valid qt
  | disjunction left right => left.Valid qt ∧ right.Valid qt
  | negation inner => inner.Valid qt

/-! ### The meaning of conditions -/

def itemOf (c : Char) : Item Char :=
  if c = '*' then .run else if c = '?' then .any else .literal c

/-- A value as a pattern: `*` is any run of characters and `?` any character. -/
def items (value : UText) : List (Item Char) :=
  value.map itemOf

def FilterQt.same (qt : FilterQt) (left right : Char) : Bool :=
  qt.fold left == qt.fold right

/-- A condition on one field holds of a record: the value describes the whole
field, and an `err` value a part of what an error says. -/
def holds (qt : FilterQt) (record : Record) (field : Field) (value : UText) : Prop :=
  match field with
  | .err =>
      record.error = true ∧
        hasInstance qt.same (fun _ => true) (items value) record.errorText
  | field =>
      record.fieldText field ≠ [] ∧
        isInstance qt.same (fun _ => true) (items (standsFor qt field value))
          (record.fieldText field) = true

def Condition.Holds (qt : FilterQt) (record : Record) : Condition → Prop
  | predicate field value => holds qt record field value
  | conjunction left right => left.Holds qt record ∧ right.Holds qt record
  | disjunction left right => left.Holds qt record ∨ right.Holds qt record
  | negation inner => ¬ inner.Holds qt record

end LogFilter

end NativeDNS

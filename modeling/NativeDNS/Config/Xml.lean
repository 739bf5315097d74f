/-
The XML subset of configuration documents: elements, attributes, comments and
processing instructions, without declarations, character data or text.

The scanners work on the unread bytes.  Each one hands back a proper suffix of
what it was given, so the mutual recursion of elements and their children ends
by the length of the input.
-/
import NativeDNS.Utf8
import NativeDNS.Library.Scanner

namespace NativeDNS

open ByteText (text byte)
open CheckedResult
open Scanner

structure Node where
  name : Bytes
  attrs : Metadata := OrderedMap.empty
  children : List Node := []

/-! ### Entities -/

def entityDigit (base : Nat) (c : UInt8) : Checked Nat :=
  if byte '0' ≤ c ∧ c ≤ byte '9' then pure (c - byte '0').toNat
  else if base = 16 ∧ byte 'a' ≤ c ∧ c ≤ byte 'f' then
    pure (10 + (c - byte 'a').toNat)
  else if base = 16 ∧ byte 'A' ≤ c ∧ c ≤ byte 'F' then
    pure (10 + (c - byte 'A').toNat)
  else throw (.of "XML" "Invalid numeric entity")

def entityNumber (base : Nat) : Nat → Bytes → Checked Nat
  | value, [] => pure value
  | value, c :: rest => do
      let digit ← entityDigit base c
      rejectIf (digit ≥ base ∨ value > (0x10FFFF - digit) / base)
        (.of "XML" "Numeric entity overflow")
      entityNumber base (value * base + digit) rest

def decodeNumericEntity (digits : Bytes) : Checked Bytes := do
  let hexadecimal :=
    digits.head? = some (byte 'x') ∨ digits.head? = some (byte 'X')
  let base := if hexadecimal then 16 else 10
  let digits := if hexadecimal then digits.tail else digits
  rejectIf (digits = []) (.of "XML" "Empty numeric entity")
  let value ← entityNumber base 0 digits
  rejectIf (value = 0 ∨ value > 0x10FFFF ∨ (0xD800 ≤ value ∧ value ≤ 0xDFFF))
    (.of "XML" "Invalid Unicode entity")
  pure (appendUtf8 value)

/-- The bytes an entity between `&` and `;` stands for. -/
def decodeEntity (entity : Bytes) : Checked Bytes :=
  if entity = text "amp" then pure (text "&")
  else if entity = text "lt" then pure (text "<")
  else if entity = text "gt" then pure (text ">")
  else if entity = text "quot" then pure [byte '"']
  else if entity = text "apos" then pure [byte '\'']
  else if entity.length > 1 ∧ entity.head? = some (byte '#') then
    decodeNumericEntity entity.tail
  else
    throw
      { code := "XML"
        message := text "Unknown XML entity: " ++ entity }

/-! ### Scanners -/

namespace XmlParser

/-- `isspace` of the C locale. -/
def isSpace (c : UInt8) : Bool :=
  c == 32 || (decide (9 ≤ c) && decide (c ≤ 13))

def isNameCharacter (c : UInt8) : Bool :=
  (decide (byte 'a' ≤ c) && decide (c ≤ byte 'z')) ||
    (decide (byte 'A' ≤ c) && decide (c ≤ byte 'Z')) ||
    (decide (byte '0' ≤ c) && decide (c ≤ byte '9')) ||
    c == byte '_' || c == byte '-' || c == byte '.'

def starts (token : Bytes) (input : Bytes) : Bool :=
  token.isPrefixOf input

def skipWs (input : Bytes) : Bytes :=
  input.dropWhile isSpace

theorem skipWs_suffix (input : Bytes) : skipWs input <:+ input :=
  List.dropWhile_suffix _

theorem starts_drop_lt {token input : Bytes} (opens : starts token input = true)
    (nonempty : 0 < token.length) :
    (input.drop token.length).length < input.length := by
  have within := (List.isPrefixOf_iff_prefix.mp opens).length_le
  rw [List.length_drop]
  omega

theorem tail_lt {input : Bytes} {c : UInt8} (opens : input.head? = some c) :
    input.tail.length < input.length := by
  cases input with
  | nil =>
      cases opens
  | cons first rest =>
      exact Nat.lt_succ_self _

def skipUntil (token : Bytes) :
    (input : Bytes) → Checked { rest : Bytes // rest <:+ input }
  | [] =>
      if starts token [] = true then pure ⟨[], List.suffix_refl []⟩
      else throw (.of "XML" "Unterminated XML section")
  | c :: rest =>
      if starts token (c :: rest) = true then
        pure ⟨(c :: rest).drop token.length, List.drop_suffix _ _⟩
      else do
        let past ← skipUntil token rest
        pure ⟨past.val, past.property.trans (List.suffix_cons c rest)⟩

/-- Blanks, comments and processing instructions around the root element. -/
def skipMisc (input : Bytes) : Checked { rest : Bytes // rest <:+ input } :=
  if _ : starts (text "<?") (skipWs input) = true then do
    let past ← skipUntil (text "?>") ((skipWs input).drop 2)
    let inside := past.property.trans
      ((List.drop_suffix _ _).trans (skipWs_suffix input))
    let done ← skipMisc past.val
    pure ⟨done.val, done.property.trans inside⟩
  else if _ : starts (text "<!--") (skipWs input) = true then do
    let past ← skipUntil (text "-->") ((skipWs input).drop 4)
    let inside := past.property.trans
      ((List.drop_suffix _ _).trans (skipWs_suffix input))
    let done ← skipMisc past.val
    pure ⟨done.val, done.property.trans inside⟩
  else do
    rejectIf
      (starts (text "<!DOCTYPE") (skipWs input) = true ∨
        starts (text "<!ENTITY") (skipWs input) = true)
      (.of "XML" "DTD/entity declarations are prohibited")
    pure ⟨skipWs input, skipWs_suffix input⟩
  termination_by input.length
  decreasing_by
    · have shorter := starts_drop_lt ‹starts (text "<?") _ = true› (by decide)
      have here := (skipWs_suffix input).length_le
      have further := past.property.length_le
      exact Nat.lt_of_le_of_lt further (Nat.lt_of_lt_of_le shorter here)
    · have shorter := starts_drop_lt ‹starts (text "<!--") _ = true› (by decide)
      have here := (skipWs_suffix input).length_le
      have further := past.property.length_le
      exact Nat.lt_of_le_of_lt further (Nat.lt_of_lt_of_le shorter here)

def name (input : Bytes) : Checked (Scanned Bytes input) :=
  if missing : input.takeWhile isNameCharacter = [] then
    throw (.of "XML" "Expected XML name")
  else
    pure
      { value := input.takeWhile isNameCharacter
        rest := input.dropWhile isNameCharacter
        suffix := List.dropWhile_suffix _
        advanced := by
          have parts := congrArg List.length
            (List.takeWhile_append_dropWhile (p := isNameCharacter) (l := input))
          have found := List.length_pos_iff.mpr missing
          rw [List.length_append] at parts
          omega }

def before (separator : UInt8) (missing : Error) :
    (input : Bytes) → Checked (Scanned Bytes input)
  | [] => throw missing
  | c :: rest =>
      if c = separator then
        pure
          { value := []
            rest := rest
            suffix := List.suffix_cons c rest
            advanced := Nat.lt_succ_self _ }
      else do
        let found ← before separator missing rest
        pure ((found.map (c :: ·)).within (List.suffix_cons c rest))

def quotedBody (quote : UInt8) : (input : Bytes) → Checked (Scanned Bytes input)
  | [] => throw (.of "XML" "Unterminated attribute")
  | c :: rest =>
      if c = quote then
        pure
          { value := []
            rest := rest
            suffix := List.suffix_cons c rest
            advanced := Nat.lt_succ_self _ }
      else if c = byte '&' then do
        let entity ← before (byte ';') (.of "XML" "Unterminated XML entity") rest
        let decoded ← decodeEntity entity.value
        let others ← quotedBody quote entity.rest
        pure (((entity.after others (List.suffix_refl _)).map
          (decoded ++ ·)).within (List.suffix_cons c rest))
      else do
        rejectIf (c < 0x20 ∧ c ≠ 9 ∧ c ≠ 13 ∧ c ≠ 10)
          (.of "XML" "Control character in XML")
        let others ← quotedBody quote rest
        pure ((others.map (c :: ·)).within (List.suffix_cons c rest))
  termination_by input => input.length
  decreasing_by
    · have further := entity.advanced
      exact Nat.lt_succ_of_lt further
    · exact Nat.lt_succ_self _

def quoted : (input : Bytes) → Checked (Scanned Bytes input)
  | [] => throw (.of "XML" "Expected quoted attribute")
  | quote :: rest => do
      rejectIf (quote ≠ byte '"' ∧ quote ≠ byte '\'')
        (.of "XML" "Expected quoted attribute")
      let body ← quotedBody quote rest
      pure (body.within (List.suffix_cons quote rest))

/-- The attributes of an opening tag.  The flag tells whether the tag closes
itself. -/
def attributes (attrs : Metadata) (input : Bytes) :
    Checked (Scanned (Metadata × Bool) input) :=
  if closes : starts (text "/>") (skipWs input) = true then
    pure
      { value := (attrs, true)
        rest := (skipWs input).drop 2
        suffix := (List.drop_suffix _ _).trans (skipWs_suffix input)
        advanced := Nat.lt_of_lt_of_le (starts_drop_lt closes (by decide))
          (skipWs_suffix input).length_le }
  else if opens : (skipWs input).head? = some (byte '>') then
    pure
      { value := (attrs, false)
        rest := (skipWs input).tail
        suffix := (List.tail_suffix _).trans (skipWs_suffix input)
        advanced := Nat.lt_of_lt_of_le (tail_lt opens)
          (skipWs_suffix input).length_le }
  else do
    let key ← name (skipWs input)
    rejectIf ((skipWs key.rest).head? ≠ some (byte '='))
      (.of "XML" "Expected '=' after attribute")
    let value ← quoted (skipWs (skipWs key.rest).tail)
    let behind := (skipWs_suffix (skipWs key.rest).tail).trans
      ((List.tail_suffix _).trans (skipWs_suffix key.rest))
    let field := (key.after value behind).within (skipWs_suffix input)
    match attrs.emplace key.value value.value with
    | none => throw (.of "XML" "Duplicate attribute")
    | some attrs => do
        let tag ← attributes attrs value.rest
        pure (field.after tag (List.suffix_refl _))
  termination_by input.length
  decreasing_by
    exact ((key.after value behind).within (skipWs_suffix input)).advanced

/-- Text between elements may only be blank, and must end in an element. -/
def skipText (input : Bytes) (noElement : input.head? ≠ some (byte '<')) :
    Checked (Scanned Unit input) := do
  rejectIf
    ((input.takeWhile (· != byte '<')).any (fun c => isSpace c = false) = true)
    (.of "XML" "Unexpected text content")
  if missing : input.dropWhile (· != byte '<') = [] then
    throw (.of "XML" "Unterminated element")
  else
    pure
      { value := ()
        rest := input.dropWhile (· != byte '<')
        suffix := List.dropWhile_suffix _
        advanced := by
          cases input with
          | nil =>
              exact absurd rfl missing
          | cons c rest =>
              have text : (c != byte '<') = true := by
                simpa using noElement
              simp only [List.dropWhile_cons, text, if_true]
              exact Nat.lt_succ_of_le (List.dropWhile_suffix _).length_le }

mutual

/-- `parse_element`: one element, with the number of nodes built so far. -/
def parseElement (depth nodes : Nat) (input : Bytes) :
    Checked (Scanned (Node × Nat) input) := do
  rejectIf (depth > 16) (.of "XML_LIMIT" "XML nesting is too deep")
  rejectIf (nodes + 1 > 200000) (.of "XML_LIMIT" "Too many XML nodes")
  rejectIf
    ((skipWs input).head? ≠ some (byte '<') ∨
      starts (text "</") (skipWs input) = true)
    (.of "XML" "Expected element")
  rejectIf
    ((skipWs input).tail.head? = some (byte '!') ∨
      (skipWs input).tail.head? = some (byte '?'))
    (.of "XML" "Unexpected XML declaration")
  let called ← name (skipWs input).tail
  let tag ← attributes OrderedMap.empty called.rest
  let opening := (called.after tag (List.suffix_refl _)).within
    ((List.tail_suffix _).trans (skipWs_suffix input))
  if tag.value.2 = true then
    pure (opening.map fun (attrs, _) =>
      ({ name := called.value, attrs := attrs }, nodes + 1))
  else do
    let body ← parseChildren depth (nodes + 1) called.value tag.rest
    pure ((opening.after body (List.suffix_refl _)).map fun (children, nodes) =>
      ({ name := called.value, attrs := tag.value.1, children := children },
        nodes))
  termination_by 2 * input.length
  decreasing_by
    have shorter := ((called.after tag (List.suffix_refl _)).within
      ((List.tail_suffix _).trans (skipWs_suffix input))).advanced
    simp only [Scanned.within_rest, Scanned.after_rest] at shorter
    omega

/-- The children of the element `parent` and its closing tag. -/
def parseChildren (depth nodes : Nat) (parent : Bytes) (input : Bytes) :
    Checked (Scanned (List Node × Nat) input) :=
  if starts (text "</") (skipWs input) = true then do
    let close ← name ((skipWs input).drop 2)
    rejectIf ((skipWs close.rest).head? ≠ some (byte '>'))
      (.of "XML" "Malformed closing tag")
    rejectIf (close.value ≠ parent) (.of "XML" "Mismatched closing tag")
    pure
      { value := ([], nodes)
        rest := (skipWs close.rest).tail
        suffix := (List.tail_suffix _).trans ((skipWs_suffix _).trans
          (close.suffix.trans ((List.drop_suffix _ _).trans
            (skipWs_suffix input))))
        advanced := (close.within ((List.drop_suffix _ _).trans
          (skipWs_suffix input))).behind_lt
            ((List.tail_suffix _).trans (skipWs_suffix _)) }
  else if _ : starts (text "<!--") (skipWs input) = true then do
    let past ← skipUntil (text "-->") ((skipWs input).drop 4)
    let others ← parseChildren depth nodes parent past.val
    pure (others.within (past.property.trans
      ((List.drop_suffix _ _).trans (skipWs_suffix input))))
  else if starts (text "<![CDATA[") (skipWs input) = true then
    throw (.of "XML" "CDATA is unsupported in NativeDNS configuration")
  else if element : (skipWs input).head? = some (byte '<') then do
    let child ← parseElement (depth + 1) nodes (skipWs input)
    let others ← parseChildren depth child.value.2 parent child.rest
    pure (((child.after others (List.suffix_refl _)).map fun (children, nodes) =>
      (child.value.1 :: children, nodes)).within (skipWs_suffix input))
  else do
    let blank ← skipText (skipWs input) element
    let others ← parseChildren depth nodes parent blank.rest
    pure ((blank.after others (List.suffix_refl _)).within (skipWs_suffix input))
  termination_by 2 * input.length + 1
  decreasing_by
    · have shorter := starts_drop_lt ‹starts (text "<!--") _ = true› (by decide)
      have here := (skipWs_suffix input).length_le
      have further := past.property.length_le
      have token : (text "<!--").length = 4 := rfl
      rw [token] at shorter
      omega
    · have here := (skipWs_suffix input).length_le
      omega
    · have here := (skipWs_suffix input).length_le
      have further := child.advanced
      omega
    · have here := (skipWs_suffix input).length_le
      have further := blank.advanced
      omega

end

def parse (input : Bytes) : Checked Node := do
  rejectIf (input.length > textLimit)
    (.of "CONFIG_IO" "Config exceeds 4 MiB")
  let input := if starts [0xEF, 0xBB, 0xBF] input = true then input.drop 3 else input
  let front ← skipMisc input
  let root ← parseElement 0 0 front.val
  let back ← skipMisc root.rest
  rejectIf (skipWs back.val ≠ [])
    (.of "XML" "Unexpected data after root element")
  pure root.value.1

end XmlParser

end NativeDNS

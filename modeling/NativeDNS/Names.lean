/-
Textual DNS names: canonicalisation and wildcard matching.

Both the pattern grammar and the host grammar go through one function with two
flags, as in the source.  Labels are checked from left to right, and the dot
that follows the last label is told apart from an empty label.
-/
import NativeDNS.Model

namespace NativeDNS

open ByteText (text byte pieces joined)
open CheckedResult

def isBlank (character : UInt8) : Bool :=
  (text " \t\r\n").contains character

def toLower (character : UInt8) : UInt8 :=
  if byte 'A' ≤ character ∧ character ≤ byte 'Z' then
    character + (byte 'a' - byte 'A')
  else character

def isWildcard (character : UInt8) : Bool :=
  character == byte '*' || character == byte '?'

def isLdh (character : UInt8) : Bool :=
  (decide (byte 'a' ≤ character) && decide (character ≤ byte 'z')) ||
    (decide (byte '0' ≤ character) && decide (character ≤ byte '9')) ||
    character == byte '-'

def trimBlanks (value : Bytes) : Bytes :=
  ((value.dropWhile isBlank).reverse.dropWhile isBlank).reverse

def checkNameCharacter (pattern hostname : Bool) (original : UInt8) :
    Checked UInt8 := do
  let character := toLower original
  let wildcard := pattern && isWildcard character
  rejectIf (hostname && !isLdh character && !wildcard)
    (.of "HOST" "Hostname must use canonical ASCII A-label syntax")
  rejectIf
    (!hostname &&
      (decide (original.toNat ≤ 32) || decide (127 ≤ original.toNat) ||
        character == byte '.' || (!pattern && isWildcard character)))
    (.of "HOST" "Unsupported DNS label character")
  pure character

def checkNameCharacters (pattern hostname : Bool) : Bytes → Checked Bytes
  | [] => pure []
  | original :: rest => do
      let character ← checkNameCharacter pattern hostname original
      let others ← checkNameCharacters pattern hostname rest
      pure (character :: others)

def normalizeLabel (pattern hostname : Bool) (label : Bytes) :
    Checked Bytes := do
  rejectIf (label = []) (.of "HOST" "Empty DNS label")
  rejectIf (label.length > 63) (.of "HOST" "DNS label exceeds 63 bytes")
  let label ← checkNameCharacters pattern hostname label
  rejectIf
    (hostname = true ∧
      (label.head? = some (byte '-') ∨ label.getLast? = some (byte '-')))
    (.of "HOST" "Hyphen at DNS label boundary")
  pure label

/-- The label loop.  A separator with nothing after it is reported as a
trailing dot before the empty label behind it is looked at. -/
def normalizeLabels (pattern hostname : Bool) :
    List Bytes → Checked (List Bytes)
  | [] => pure []
  | label :: rest => do
      let label ← normalizeLabel pattern hostname label
      rejectIf (rest = [[]]) (.of "HOST" "Multiple trailing dots")
      let others ← normalizeLabels pattern hostname rest
      pure (label :: others)

def normalizeAsciiName (value : Bytes) (pattern hostname : Bool) :
    Checked Bytes := do
  let value := trimBlanks value
  rejectIf (value = []) (.of "HOST" "Empty DNS name")
  let value := if value.getLast? = some (byte '.') then value.dropLast else value
  rejectIf (value = []) (.of "HOST" "Empty DNS name")
  let labels ← normalizeLabels pattern hostname (pieces (byte '.') value)
  let result := joined (byte '.') labels
  rejectIf (result.length > 253) (.of "HOST" "DNS name exceeds 253 bytes")
  pure result

def normalizeHost (value : Bytes) (pattern : Bool := false) : Checked Bytes :=
  normalizeAsciiName value pattern true

def normalizeDnsName (value : Bytes) (pattern : Bool := false) :
    Checked Bytes :=
  normalizeAsciiName value pattern false

/-! ### Wildcard matching -/

/-- The matching loop with its saved star.  `fuel` counts iterations; the
caller allots more than the loop can take. -/
def hostMatchesLoop (host pattern : Bytes) :
    Nat → Nat → Nat → Option Nat → Nat → Bool
  | 0, _, _, _, _ => false
  | fuel + 1, h, p, star, retry =>
      if h < host.length then
        if p < pattern.length ∧
            (pattern[p]? = some (byte '?') ∨ pattern[p]? = host[h]?) then
          hostMatchesLoop host pattern fuel (h + 1) (p + 1) star retry
        else if p < pattern.length ∧ pattern[p]? = some (byte '*') then
          hostMatchesLoop host pattern fuel h (p + 1) (some p) h
        else
          match star with
          | some position =>
              hostMatchesLoop host pattern fuel (retry + 1) (position + 1) star
                (retry + 1)
          | none => false
      else (pattern.drop p).all (· == byte '*')

def hostMatches (host pattern : Bytes) : Bool :=
  hostMatchesLoop host pattern
    ((host.length + 1) * (host.length + pattern.length + 1)) 0 0 none 0

example : hostMatches (text "a.b.example.com") (text "*.example.com") = true := by
  decide

example : hostMatches (text "example.com") (text "*.example.com") = false := by
  decide

private theorem hostMatchesLoop_star (host : Bytes) :
    ∀ fuel h, host.length < fuel + h → h ≤ host.length →
      hostMatchesLoop host (text "*") fuel h 1 (some 0) h = true
  | 0, h, enough, within => by omega
  | fuel + 1, h, enough, within => by
      unfold hostMatchesLoop
      have patternEnd : ¬ 1 < (text "*").length := by decide
      by_cases inside : h < host.length
      · simp only [inside, patternEnd, if_true, false_and, if_false]
        exact hostMatchesLoop_star host fuel (h + 1) (by omega) (by omega)
      · rw [if_neg inside]
        decide

/-- The pattern of the Default rule matches every name that does not itself
begin with a star. -/
theorem hostMatches_star (host : Bytes) (plain : host.head? ≠ some (byte '*')) :
    hostMatches host (text "*") = true := by
  unfold hostMatches
  cases host with
  | nil =>
      decide
  | cons first rest =>
      have firstPlain : first ≠ byte '*' := by
        simpa using plain
      have enough :
          (first :: rest).length + (text "*").length + 1 ≤
            ((first :: rest).length + 1) *
              ((first :: rest).length + (text "*").length + 1) :=
        Nat.le_mul_of_pos_left _ (Nat.succ_pos _)
      obtain ⟨fuel, fuelEq⟩ :
          ∃ fuel, ((first :: rest).length + 1) *
            ((first :: rest).length + (text "*").length + 1) = fuel + 1 :=
        Nat.exists_eq_succ_of_ne_zero (by omega)
      rw [fuelEq] at enough ⊢
      unfold hostMatchesLoop
      have starHead : (text "*")[0]? = some (byte '*') := by decide
      have notQuestion : byte '*' ≠ byte '?' := by decide
      have starNonempty : 0 < (text "*").length := by decide
      simp only [List.length_cons, Nat.zero_lt_succ, if_true, starHead,
        starNonempty, true_and, Option.some.injEq, notQuestion, false_or,
        List.getElem?_cons_zero, Ne.symm firstPlain, if_false]
      have starLength : (text "*").length = 1 := by decide
      exact hostMatchesLoop_star (first :: rest) fuel 0 (by omega)
        (Nat.zero_le _)

end NativeDNS

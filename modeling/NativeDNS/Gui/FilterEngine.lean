/-
A Qt for ASCII texts, as far as the filters use it.

Its expression engine reads the patterns that the filters write: escaped
characters, dots and runs of dots, anchored or not.
-/
import NativeDNS.Gui.FilterMatching

namespace NativeDNS

namespace LogFilter

open Wildcard

/-! ### Patterns read back -/

def patternItems : UText → List (Item Char)
  | [] => []
  | '.' :: '*' :: rest => .run :: patternItems rest
  | '.' :: rest => .any :: patternItems rest
  | '\\' :: c :: rest => .literal (if c = '0' then '\x00' else c) :: patternItems rest
  | c :: rest => .literal c :: patternItems rest

theorem render_cons (item : Item Char) (pattern : List (Item Char)) :
    render (item :: pattern) = itemText item ++ render pattern :=
  List.flatMap_cons

theorem escapeCharacter_head {c sign : Char} {rest : UText}
    (other : isWordCharacter sign = false) (free : sign ≠ '\\') :
    (escapeCharacter c ++ rest).head? ≠ some sign := by
  unfold escapeCharacter
  split
  · exact fun same => free (Option.some.inj same).symm
  split
  · rename_i word
    intro same
    have equal : c = sign := Option.some.inj same
    rw [equal, other] at word
    cases word
  · exact fun same => free (Option.some.inj same).symm

theorem render_head {sign : Char} (other : isWordCharacter sign = false) (free : sign ≠ '\\')
    (dot : sign ≠ '.') (pattern : List (Item Char)) :
    (render pattern).head? ≠ some sign := by
  cases pattern with
  | nil =>
      exact nofun
  | cons item pattern =>
      rw [render_cons]
      cases item with
      | literal c =>
          exact escapeCharacter_head other free
      | any | run =>
          exact fun same => dot (Option.some.inj same).symm

theorem patternItems_dot {rest : UText} (front : rest.head? ≠ some '*') :
    patternItems ('.' :: rest) = .any :: patternItems rest := by
  cases rest with
  | nil =>
      rfl
  | cons c rest =>
      have different : c ≠ '*' := fun same => front (congrArg some same)
      rw [patternItems]
      intro tail same
      exact different (List.cons.inj same).1

theorem patternItems_plain {c : Char} (dot : c ≠ '.') (escape : c ≠ '\\') (rest : UText) :
    patternItems (c :: rest) = .literal c :: patternItems rest := by
  rw [patternItems]
  · exact fun _ same _ => dot same
  · exact fun same => dot same
  · exact fun _ _ same _ => escape same

theorem patternItems_escaped (c : Char) (rest : UText) :
    patternItems (escapeCharacter c ++ rest) = .literal c :: patternItems rest := by
  unfold escapeCharacter
  split
  · rename_i zero
    rw [zero]
    rfl
  split
  · rename_i word
    refine patternItems_plain (fun same => ?_) (fun same => ?_) rest
    · rw [same] at word
      exact absurd word (by decide)
    · rw [same] at word
      exact absurd word (by decide)
  · rename_i other
    have different : c ≠ '0' := by
      rintro rfl
      exact other (by decide)
    rw [List.cons_append, List.cons_append, List.nil_append, patternItems, if_neg different]

theorem patternItems_render (pattern : List (Item Char)) :
    patternItems (render pattern) = pattern := by
  induction pattern with
  | nil =>
      rfl
  | cons item pattern ih =>
      rw [render_cons]
      cases item with
      | literal c =>
          rw [itemText, patternItems_escaped, ih]
      | any =>
          have front := render_head (by decide : isWordCharacter '*' = false) (by decide)
            (by decide) pattern
          rw [itemText, List.singleton_append, patternItems_dot front, ih]
      | run =>
          rw [itemText, List.cons_append, List.singleton_append, patternItems, ih]

/-! ### The engine -/

def asciiSame (left right : Char) : Bool :=
  left.toLower == right.toLower

def asciiMatch (pattern text : UText) : Bool :=
  match pattern with
  | '^' :: '(' :: '?' :: ':' :: inner =>
      let items := patternItems inner.dropLast.dropLast
      isInstance asciiSame inLine items text ||
        (text.getLast? == some '\n' && isInstance asciiSame inLine items text.dropLast)
  | pattern => decide (hasInstance asciiSame inLine (patternItems pattern) text)

theorem asciiMatch_part (pattern : List (Item Char)) (text : UText) :
    asciiMatch (render pattern) text = true ↔ hasInstance asciiSame inLine pattern text := by
  have front := render_head (by decide : isWordCharacter '^' = false) (by decide) (by decide)
    pattern
  unfold asciiMatch
  split
  · rename_i shape
    rw [shape] at front
    exact absurd rfl front
  · rw [decide_eq_true_eq, patternItems_render]

theorem asciiMatch_whole (pattern : List (Item Char)) (text : UText) :
    asciiMatch (anchored (render pattern)) text = true ↔
      isInstance asciiSame inLine pattern text = true ∨
        ∃ line, text = line ++ ['\n'] ∧ isInstance asciiSame inLine pattern line = true := by
  have inner : (render pattern ++ [')', '$']).dropLast.dropLast = render pattern := by
    rw [show render pattern ++ [')', '$'] = render pattern ++ [')'] ++ ['$'] by
      rw [List.append_assoc]; rfl, List.dropLast_concat, List.dropLast_concat]
  have shape : anchored (render pattern) =
      '^' :: '(' :: '?' :: ':' :: (render pattern ++ [')', '$']) := rfl
  rw [shape, asciiMatch]
  simp only [inner, patternItems_render, Bool.or_eq_true, Bool.and_eq_true, beq_iff_eq]
  refine or_congr_right ⟨?_, ?_⟩
  · rintro ⟨last, found⟩
    exact ⟨text.dropLast, (List.dropLast_append_getLast? '\n' last).symm, found⟩
  · rintro ⟨line, rfl, found⟩
    rw [List.getLast?_concat, List.dropLast_concat]
    exact ⟨rfl, found⟩

/-! ### The whole Qt -/

def asciiNumber (value : UText) : Option Nat :=
  if value ≠ [] ∧ value.all Char.isDigit = true then
    some (value.foldl (fun number c => number * 10 + (c.toNat - 48)) 0)
  else none

def asciiQt : FilterQt where
  isSpace := Char.isWhitespace
  isLetter := Char.isAlpha
  toLower := List.map Char.toLower
  fold := Char.toLower
  toUInt := asciiNumber
  hasMatch := asciiMatch

theorem toLower_sign {c sign : Char} (other : sign.isAlpha = false)
    (same : c.toLower = sign) : c = sign := by
  unfold Char.toLower at same
  split at same
  · rename_i upper
    have code : sign.val.toNat = c.val.toNat + 32 := by
      rw [← same]
      have least : c.val.toNat ≤ 90 := upper.2
      exact (UInt32.toNat_add _ _).trans (Nat.mod_eq_of_lt (by
        change c.val.toNat + 32 < 4294967296
        omega))
    have first : 65 ≤ c.val.toNat := upper.1
    have last : c.val.toNat ≤ 90 := upper.2
    have letter : sign.isLower = true := by
      change (decide (sign.val ≥ 'a'.val) && decide (sign.val ≤ 'z'.val)) = true
      rw [Bool.and_eq_true, decide_eq_true_eq, decide_eq_true_eq, ge_iff_le,
        UInt32.le_iff_toNat_le, UInt32.le_iff_toNat_le]
      have low : 'a'.val.toNat = 97 := rfl
      have high : 'z'.val.toNat = 122 := rfl
      omega
    change (sign.isUpper || sign.isLower) = false at other
    rw [letter, Bool.or_true] at other
    cases other
  · exact same

theorem asciiQt_correct : FilterQtCorrect asciiQt where
  spaces := by
    intro c space
    change c.isWhitespace = true at space
    simp only [Char.isWhitespace, Bool.or_eq_true, decide_eq_true_eq] at space
    rcases space with ((rfl | rfl) | rfl) | rfl <;> decide
  letters := by
    intro c letter member
    have signs : (operators.all fun sign => !sign.isAlpha) = true := by decide
    have plain := List.all_eq_true.mp signs c member
    rw [show asciiQt.isLetter c = c.isAlpha from rfl] at letter
    rw [letter] at plain
    cases plain
  names := by
    intro field
    have letters : (field.name.all fun c => c.isAlpha || c == '_') = true := by
      cases field <;> decide
    refine ⟨fun c member => ?_, ?_⟩
    · have found := List.all_eq_true.mp letters c member
      rwa [Bool.or_eq_true, beq_iff_eq] at found
    · cases field <;> decide
  lower := rfl
  wildcards := by
    rintro c wild (rfl | rfl) same
    · exact toLower_sign (by decide) same
    · exact toLower_sign (by decide) same
  numbers := by
    intro value number read inside
    change asciiNumber value = some number at read
    unfold asciiNumber at read
    split at read
    · rename_i digits
      exact absurd (List.all_eq_true.mp digits.2 _ inside) (by decide)
    · cases read
  part := asciiMatch_part
  whole := asciiMatch_whole

end LogFilter

end NativeDNS

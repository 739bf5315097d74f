/-
Byte strings: their order, their literals, decimal numerals and lists joined
by a separator byte.

A byte string is a list of bytes, ordered as unsigned bytes are compared.
Numerals are printed in canonical form and read back with an upper limit.
-/
import Mathlib.Algebra.Ring.Nat
import Mathlib.Order.Lattice
import Mathlib.Data.List.Lex
import Mathlib.Data.List.Induction
import Mathlib.Data.List.TakeWhile
import Mathlib.Order.Basic

abbrev ByteText := List UInt8

instance byteOrder : LinearOrder UInt8 where
  le_refl := UInt8.le_refl
  le_trans := fun _ _ _ => UInt8.le_trans
  lt_iff_le_not_ge := fun left right => by
    rw [UInt8.le_iff_toNat_le, UInt8.le_iff_toNat_le, UInt8.lt_iff_toNat_lt]
    omega
  le_antisymm := fun _ _ => UInt8.le_antisymm
  le_total := UInt8.le_total
  toDecidableLE := inferInstance

instance byteTextLawful : LawfulBEq ByteText :=
  inferInstance

namespace ByteText

def text (literal : String) : ByteText :=
  literal.toUTF8.data.toList

def byte (character : Char) : UInt8 :=
  UInt8.ofNat character.toNat

/-! ### Decimal numerals -/

def isDigit (byte : UInt8) : Bool :=
  decide (48 ≤ byte.toNat) && decide (byte.toNat ≤ 57)

def digit (value : Nat) : UInt8 :=
  UInt8.ofNat (48 + value)

def decimal (value : Nat) : ByteText :=
  (Nat.toDigits 10 value).map (fun character => UInt8.ofNat character.toNat)

def digitsValue (digits : ByteText) : Nat :=
  digits.foldl (fun value byte => value * 10 + (byte.toNat - 48)) 0

/-- Read a whole text as an unsigned numeral of at most `limit`. -/
def readDecimal (limit : Nat) (digits : ByteText) : Option Nat :=
  if digits ≠ [] ∧ digits.all isDigit = true ∧ digitsValue digits ≤ limit then
    some (digitsValue digits)
  else none

theorem digit_toNat {value : Nat} (small : value < 10) :
    (digit value).toNat = 48 + value := by
  unfold digit
  rw [UInt8.toNat_ofNat']
  omega

theorem isDigit_digit {value : Nat} (small : value < 10) :
    isDigit (digit value) = true := by
  unfold isDigit
  rw [digit_toNat small]
  simp
  omega

private theorem digitChar_byte {value : Nat} (small : value < 10) :
    UInt8.ofNat (Nat.digitChar value).toNat = digit value := by
  match value, small with
  | 0, _ | 1, _ | 2, _ | 3, _ | 4, _ | 5, _ | 6, _ | 7, _ | 8, _ | 9, _ => rfl

theorem decimal_of_lt {value : Nat} (small : value < 10) :
    decimal value = [digit value] := by
  unfold decimal
  rw [Nat.toDigits_of_lt_base small, List.map_singleton, digitChar_byte small]

theorem decimal_of_le {value : Nat} (large : 10 ≤ value) :
    decimal value = decimal (value / 10) ++ [digit (value % 10)] := by
  unfold decimal
  rw [Nat.toDigits_of_base_le (by decide) large, List.map_append,
    List.map_singleton, digitChar_byte (Nat.mod_lt value (by decide))]

theorem decimal_ne_nil (value : Nat) : decimal value ≠ [] := by
  unfold decimal
  simp

theorem decimal_all_isDigit (value : Nat) :
    (decimal value).all isDigit = true := by
  induction value using Nat.strongRecOn with
  | _ value ih =>
      rcases Nat.lt_or_ge value 10 with small | large
      · rw [decimal_of_lt small]
        simp [isDigit_digit small]
      · rw [decimal_of_le large, List.all_append,
          ih (value / 10) (by omega)]
        simp [isDigit_digit (Nat.mod_lt value (by decide : 0 < 10))]

theorem isDigit_ascii {byte : UInt8} (digit : isDigit byte = true) : byte < 0x80 := by
  have high := of_decide_eq_true (Bool.and_eq_true_iff.mp digit).2
  rw [UInt8.lt_iff_toNat_lt]
  have bound : (0x80 : UInt8).toNat = 128 := rfl
  omega

theorem decimal_ascii (value : Nat) : ∀ byte ∈ decimal value, byte < 0x80 := by
  intro byte member
  exact isDigit_ascii (List.all_eq_true.mp (decimal_all_isDigit value) byte member)

theorem decimal_length_le {digits value : Nat} (positive : 0 < digits)
    (small : value < 10 ^ digits) : (decimal value).length ≤ digits := by
  induction digits generalizing value with
  | zero =>
      cases positive
  | succ digits ih =>
      rcases Nat.lt_or_ge value 10 with single | large
      · rw [decimal_of_lt single]
        exact Nat.succ_le_of_lt positive
      · have more : 0 < digits := by
          rcases Nat.eq_zero_or_pos digits with zero | more
          · rw [zero] at small
            omega
          · exact more
        have shorter : value / 10 < 10 ^ digits := by
          apply Nat.div_lt_of_lt_mul
          rw [Nat.pow_succ, Nat.mul_comm] at small
          exact small
        rw [decimal_of_le large, List.length_append, List.length_singleton]
        exact Nat.succ_le_succ (ih more shorter)

theorem digitsValue_append (digits : ByteText) (byte : UInt8) :
    digitsValue (digits ++ [byte]) =
      digitsValue digits * 10 + (byte.toNat - 48) := by
  simp [digitsValue, List.foldl_append]

theorem digitsValue_decimal (value : Nat) :
    digitsValue (decimal value) = value := by
  induction value using Nat.strongRecOn with
  | _ value ih =>
      rcases Nat.lt_or_ge value 10 with small | large
      · rw [decimal_of_lt small]
        simp [digitsValue, digit_toNat small]
      · rw [decimal_of_le large, digitsValue_append, ih (value / 10) (by omega),
          digit_toNat (Nat.mod_lt value (by decide))]
        omega

theorem digitsValue_lt {digits : ByteText} (all : digits.all isDigit = true) :
    digitsValue digits < 10 ^ digits.length := by
  induction digits using List.reverseRecOn with
  | nil =>
      decide
  | append_singleton front byte ih =>
      rw [List.all_append, Bool.and_eq_true] at all
      have small := ih all.1
      have single : isDigit byte = true := List.all_eq_true.mp all.2 byte List.mem_cons_self
      have digit : byte.toNat ≤ 57 := by
        unfold isDigit at single
        simp only [Bool.and_eq_true, decide_eq_true_eq] at single
        exact single.2
      rw [digitsValue_append, List.length_append, List.length_singleton, Nat.pow_succ]
      omega

theorem readDecimal_decimal {limit value : Nat} (within : value ≤ limit) :
    readDecimal limit (decimal value) = some value := by
  unfold readDecimal
  rw [digitsValue_decimal, if_pos ⟨decimal_ne_nil value,
    decimal_all_isDigit value, within⟩]

theorem readDecimal_le {limit value : Nat} {digits : ByteText}
    (read : readDecimal limit digits = some value) : value ≤ limit := by
  unfold readDecimal at read
  split at read
  · rename_i accepted
    exact Option.some.inj read ▸ accepted.2.2
  · cases read

theorem readDecimal_all_isDigit {limit value : Nat} {digits : ByteText}
    (read : readDecimal limit digits = some value) :
    digits.all isDigit = true := by
  unfold readDecimal at read
  split at read
  · rename_i accepted
    exact accepted.2.1
  · cases read

theorem decimal_injective : Function.Injective decimal := by
  intro left right same
  rw [← digitsValue_decimal left, same, digitsValue_decimal]

theorem not_mem_decimal {byte : UInt8} (noDigit : isDigit byte = false)
    (value : Nat) : byte ∉ decimal value := by
  intro member
  have isOne := List.all_eq_true.mp (decimal_all_isDigit value) byte member
  rw [noDigit] at isOne
  cases isOne

/-! ### Cutting at a separator -/

/-- Two texts whose heads avoid a separator agree piece by piece when they
agree as a whole. -/
theorem append_separator_inj {separator : UInt8}
    {left right leftRest rightRest : ByteText}
    (leftFree : separator ∉ left) (rightFree : separator ∉ right)
    (same : left ++ separator :: leftRest = right ++ separator :: rightRest) :
    left = right ∧ leftRest = rightRest := by
  induction left generalizing right with
  | nil =>
      cases right with
      | nil =>
          exact ⟨rfl, (List.cons.inj same).2⟩
      | cons byte right =>
          have headEq : separator = byte := (List.cons.inj same).1
          exact absurd (headEq ▸ List.mem_cons_self) rightFree
  | cons byte left ih =>
      cases right with
      | nil =>
          have headEq : byte = separator := (List.cons.inj same).1
          exact absurd (headEq ▸ List.mem_cons_self) leftFree
      | cons other right =>
          have parts := List.cons.inj same
          have tails := ih (fun member => leftFree (List.mem_cons_of_mem _ member))
            (fun member => rightFree (List.mem_cons_of_mem _ member)) parts.2
          exact ⟨by rw [parts.1, tails.1], tails.2⟩

theorem separator_append_inj {separator : UInt8}
    {left right leftRest rightRest : ByteText}
    (leftFree : separator ∉ leftRest) (rightFree : separator ∉ rightRest)
    (same : left ++ separator :: leftRest = right ++ separator :: rightRest) :
    left = right ∧ leftRest = rightRest := by
  have reversed := congrArg List.reverse same
  simp only [List.reverse_append, List.reverse_cons, List.append_assoc,
    List.singleton_append] at reversed
  have parts := append_separator_inj (by simpa using leftFree)
    (by simpa using rightFree) reversed
  exact ⟨List.reverse_injective parts.2, List.reverse_injective parts.1⟩

theorem takeWhile_field {separator : UInt8} {field : ByteText}
    (free : separator ∉ field) (rest : ByteText) :
    (field ++ separator :: rest).takeWhile (· != separator) = field := by
  rw [List.takeWhile_append_of_pos, List.takeWhile_cons_of_neg, List.append_nil]
  · simp
  · intro byte member
    exact bne_iff_ne.mpr fun same => free (same ▸ member)

def pieces (separator : UInt8) : ByteText → List ByteText
  | [] => [[]]
  | byte :: rest =>
      if byte = separator then [] :: pieces separator rest
      else
        match pieces separator rest with
        | [] => [[byte]]
        | piece :: others => (byte :: piece) :: others

def joined (separator : UInt8) : List ByteText → ByteText
  | [] => []
  | [piece] => piece
  | piece :: others => piece ++ separator :: joined separator others

theorem joined_cons (separator : UInt8) (first second : ByteText) (more : List ByteText) :
    joined separator (first :: second :: more) =
      first ++ separator :: joined separator (second :: more) :=
  rfl

theorem pieces_ne_nil (separator : UInt8) (bytes : ByteText) :
    pieces separator bytes ≠ [] := by
  cases bytes with
  | nil =>
      simp [pieces]
  | cons byte rest =>
      simp only [pieces]
      split
      · simp
      · split <;> simp

theorem pieces_free (separator : UInt8) (bytes : ByteText) :
    ∀ piece ∈ pieces separator bytes, separator ∉ piece := by
  induction bytes with
  | nil =>
      simp [pieces]
  | cons byte rest ih =>
      intro piece member
      simp only [pieces] at member
      split at member
      · rcases List.mem_cons.mp member with atHead | later
        · simp [atHead]
        · exact ih piece later
      · rename_i different
        split at member
        · rename_i impossible
          exact absurd impossible (pieces_ne_nil separator rest)
        · rename_i first others restPieces
          rcases List.mem_cons.mp member with atHead | later
          · subst atHead
            have firstFree : separator ∉ first :=
              ih first (restPieces ▸ List.mem_cons_self)
            intro inside
            rcases List.mem_cons.mp inside with equal | inFirst
            · exact different equal.symm
            · exact firstFree inFirst
          · exact ih piece (restPieces ▸ List.mem_cons_of_mem first later)

theorem mem_pieces {separator character : UInt8} (different : character ≠ separator)
    {bytes : ByteText} (member : character ∈ bytes) :
    ∃ piece ∈ pieces separator bytes, character ∈ piece := by
  induction bytes with
  | nil =>
      cases member
  | cons byte rest ih =>
      simp only [pieces]
      rcases List.mem_cons.mp member with here | later
      · have kept : byte ≠ separator := fun same => different (here.trans same)
        rw [if_neg kept]
        split
        · exact ⟨_, List.mem_cons_self, here ▸ List.mem_cons_self⟩
        · exact ⟨_, List.mem_cons_self, here ▸ List.mem_cons_self⟩
      · obtain ⟨piece, inside, found⟩ := ih later
        split
        · exact ⟨piece, List.mem_cons_of_mem _ inside, found⟩
        · split
          · rename_i impossible
            exact absurd impossible (pieces_ne_nil separator rest)
          · rename_i first others restPieces
            rw [restPieces] at inside
            rcases List.mem_cons.mp inside with atHead | more
            · exact ⟨_, List.mem_cons_self,
                List.mem_cons_of_mem byte (atHead ▸ found)⟩
            · exact ⟨piece, List.mem_cons_of_mem _ more, found⟩

theorem pieces_of_free {separator : UInt8} {piece : ByteText}
    (free : separator ∉ piece) : pieces separator piece = [piece] := by
  induction piece with
  | nil =>
      rfl
  | cons byte rest ih =>
      have headFree : byte ≠ separator := fun equal =>
        free (equal ▸ List.mem_cons_self)
      have tailFree : separator ∉ rest := fun member =>
        free (List.mem_cons_of_mem byte member)
      simp [pieces, headFree, ih tailFree]

theorem pieces_append_separator {separator : UInt8} {piece : ByteText}
    (free : separator ∉ piece) (rest : ByteText) :
    pieces separator (piece ++ separator :: rest) =
      piece :: pieces separator rest := by
  induction piece with
  | nil =>
      simp [pieces]
  | cons byte tail ih =>
      have headFree : byte ≠ separator := fun equal =>
        free (equal ▸ List.mem_cons_self)
      have tailFree : separator ∉ tail := fun member =>
        free (List.mem_cons_of_mem byte member)
      simp [pieces, headFree, ih tailFree]

theorem nil_mem_pieces (separator : UInt8) (before after : ByteText) :
    [] ∈ (pieces separator (before ++ separator :: separator :: after)).tail := by
  induction before with
  | nil =>
      simp [pieces]
  | cons byte rest ih =>
      rw [List.cons_append, pieces]
      split
      · exact List.mem_of_mem_tail ih
      · split
        · rename_i empty
          exact absurd empty (pieces_ne_nil separator _)
        · rename_i first others cut
          rwa [cut] at ih

/-- Cutting a joined list gives the list back when no piece holds the
separator. -/
theorem pieces_joined {separator : UInt8} {items : List ByteText}
    (nonempty : items ≠ []) (free : ∀ item ∈ items, separator ∉ item) :
    pieces separator (joined separator items) = items := by
  induction items with
  | nil =>
      exact absurd rfl nonempty
  | cons item others ih =>
      have itemFree : separator ∉ item := free item List.mem_cons_self
      cases others with
      | nil =>
          exact pieces_of_free itemFree
      | cons next more =>
          have othersFree : ∀ other ∈ next :: more, separator ∉ other :=
            fun other member => free other (List.mem_cons_of_mem item member)
          rw [joined_cons separator item next more,
            pieces_append_separator itemFree, ih (by simp) othersFree]

theorem joined_pieces (separator : UInt8) (bytes : ByteText) :
    joined separator (pieces separator bytes) = bytes := by
  induction bytes with
  | nil =>
      rfl
  | cons byte rest ih =>
      rw [pieces]
      cases cut : pieces separator rest with
      | nil =>
          exact absurd cut (pieces_ne_nil separator rest)
      | cons piece others =>
          rw [cut] at ih
          split
          · rename_i same
            rw [joined_cons separator [] piece others, ih, same]
            rfl
          · cases others with
            | nil =>
                exact congrArg (byte :: ·) ih
            | cons next more =>
                rw [joined_cons separator piece next more] at ih
                exact congrArg (byte :: ·) ih

theorem length_joined (separator : UInt8) (items : List ByteText) :
    (joined separator items).length = (items.map fun item => item.length + 1).sum - 1 := by
  induction items with
  | nil =>
      rfl
  | cons item rest ih =>
      cases rest with
      | nil =>
          simp only [joined, List.map_cons, List.map_nil, List.sum_cons, List.sum_nil]
          omega
      | cons next more =>
          rw [joined_cons separator item next more, List.length_append, List.length_cons, ih]
          simp only [List.map_cons, List.sum_cons]
          omega

theorem joined_append_single (separator : UInt8) (items : List ByteText)
    (item : ByteText) (nonempty : items ≠ []) :
    joined separator (items ++ [item]) =
      joined separator items ++ separator :: item := by
  induction items with
  | nil =>
      exact absurd rfl nonempty
  | cons first others ih =>
      cases others with
      | nil =>
          rfl
      | cons second more =>
          have tail := ih (by simp)
          simp only [List.cons_append] at tail ⊢
          rw [joined_cons separator first second (more ++ [item]),
            tail, joined_cons separator first second more]
          simp

theorem joined_eq_nil_iff {separator : UInt8} {items : List ByteText}
    (nonempty : ∀ item ∈ items, item ≠ []) :
    joined separator items = [] ↔ items = [] := by
  constructor
  · intro empty
    cases items with
    | nil =>
        rfl
    | cons first others =>
        have firstNonempty := nonempty first List.mem_cons_self
        cases others with
        | nil =>
            exact absurd empty firstNonempty
        | cons second more =>
            rw [joined_cons separator first second more] at empty
            simp at empty
  · rintro rfl
    rfl

theorem mem_joined {separator character : UInt8} :
    ∀ {items : List ByteText}, character ∈ joined separator items →
      character = separator ∨ ∃ item ∈ items, character ∈ item
  | [], member => by cases member
  | [item], member => Or.inr ⟨item, List.mem_singleton_self item, member⟩
  | first :: second :: more, member => by
      rw [joined_cons separator first second more] at member
      rcases List.mem_append.mp member with inFirst | after
      · exact Or.inr ⟨first, List.mem_cons_self, inFirst⟩
      · rcases List.mem_cons.mp after with atSeparator | inRest
        · exact Or.inl atSeparator
        · rcases mem_joined inRest with same | ⟨item, itemMember, inside⟩
          · exact Or.inl same
          · exact Or.inr ⟨item, List.mem_cons_of_mem first itemMember, inside⟩

theorem mem_joined_of_mem {separator character : UInt8}
    {item : ByteText} (inside : character ∈ item) :
    ∀ {items : List ByteText}, item ∈ items → character ∈ joined separator items
  | [], member => by cases member
  | [only], member => by
      rw [List.mem_singleton.mp member] at inside
      exact inside
  | first :: second :: more, member => by
      rw [joined_cons separator first second more]
      rcases List.mem_cons.mp member with same | later
      · exact List.mem_append_left _ (same ▸ inside)
      · exact List.mem_append_right _
          (List.mem_cons_of_mem _ (mem_joined_of_mem inside later))

theorem joined_head? {separator : UInt8} {first : ByteText}
    (others : List ByteText) (nonempty : first ≠ []) :
    (joined separator (first :: others)).head? = first.head? := by
  cases others with
  | nil =>
      rfl
  | cons second more =>
      rw [joined_cons separator first second more,
        List.head?_append_of_ne_nil _ nonempty]

theorem joined_getLast? (separator : UInt8) :
    ∀ {items : List ByteText}, (nonempty : items ≠ []) →
      (∀ item ∈ items, item ≠ []) →
        ∃ item ∈ items, (joined separator items).getLast? = item.getLast?
  | [], nonempty, _ => absurd rfl nonempty
  | [item], _, _ => ⟨item, List.mem_singleton_self item, rfl⟩
  | first :: second :: more, _, each => by
      obtain ⟨item, member, lastEq⟩ :=
        joined_getLast? separator (List.cons_ne_nil second more)
          (fun item member => each item (List.mem_cons_of_mem first member))
      have restNonempty : joined separator (second :: more) ≠ [] := by
        rw [ne_eq, joined_eq_nil_iff (fun item member =>
          each item (List.mem_cons_of_mem first member))]
        simp
      refine ⟨item, List.mem_cons_of_mem first member, ?_⟩
      rw [joined_cons separator first second more, ← lastEq,
        List.getLast?_append_of_ne_nil _ (List.cons_ne_nil _ _),
        List.getLast?_cons]
      cases joinedRest : joined separator (second :: more) with
      | nil =>
          exact absurd joinedRest restNonempty
      | cons head tail =>
          simp [List.getLast?_cons]

theorem joined_append (separator : UInt8) {items : List ByteText} (nonempty : items ≠ [])
    (others : List ByteText) :
    joined separator (items ++ others) =
      joined separator items ++ others.flatMap (separator :: ·) := by
  induction others generalizing items with
  | nil =>
      rw [List.append_nil, List.flatMap_nil, List.append_nil]
  | cons item rest ih =>
      have longer : items ++ [item] ≠ [] :=
        List.append_ne_nil_of_left_ne_nil nonempty _
      rw [List.append_cons, ih longer, joined_append_single separator items item
        nonempty, List.flatMap_cons, List.append_assoc]

theorem count_joined (separator : UInt8) {items : List ByteText} (nonempty : items ≠ []) :
    (joined separator items).count separator + 1 =
      items.length + (items.map (List.count separator)).sum := by
  induction items with
  | nil =>
      exact absurd rfl nonempty
  | cons item rest ih =>
      cases rest with
      | nil =>
          simp only [joined, List.length_singleton, List.map_singleton, List.sum_singleton]
          omega
      | cons next more =>
          have tail := ih (List.cons_ne_nil next more)
          rw [joined_cons separator item next more, List.count_append,
            List.count_cons_self, List.map_cons, List.sum_cons, List.length_cons]
          omega

theorem pieces_terminated {separator : UInt8} (items : List ByteText) (rest : ByteText)
    (free : ∀ item ∈ items, separator ∉ item) :
    pieces separator (items.flatMap (· ++ [separator]) ++ rest) =
      items ++ pieces separator rest := by
  induction items with
  | nil =>
      rfl
  | cons item others ih =>
      rw [List.flatMap_cons, List.append_assoc, List.append_assoc, List.singleton_append,
        pieces_append_separator (free item List.mem_cons_self),
        ih fun other member => free other (List.mem_cons_of_mem item member),
        List.cons_append]

theorem joined_terminated (separator : UInt8) {items : List ByteText} (nonempty : items ≠ []) :
    joined separator items ++ [separator] = items.flatMap (· ++ [separator]) := by
  induction items with
  | nil =>
      exact absurd rfl nonempty
  | cons item rest ih =>
      cases rest with
      | nil =>
          rw [List.flatMap_singleton]
          rfl
      | cons next more =>
          have tail := ih (List.cons_ne_nil next more)
          rw [joined_cons separator item next more, List.append_assoc,
            List.cons_append, tail, @List.flatMap_cons _ _ item, List.append_assoc,
            List.singleton_append]

end ByteText

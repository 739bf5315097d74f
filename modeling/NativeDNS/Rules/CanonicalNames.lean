/-
The normal form of a name.

Host names and DNS names, with wildcards or without, go through one function.
What it returns is a dotted list of labels of the mode's alphabet in lower case,
and such a list it returns unchanged.  It sees neither the case of a text nor
the blanks around it nor one dot at its end.
-/
import NativeDNS.Library.Lists
import NativeDNS.Wire.NameText

namespace NativeDNS

open ByteText (text byte pieces joined mem_joined joined_head? joined_getLast?
  joined_eq_nil_iff pieces_joined pieces_free pieces_ne_nil)
open CheckedResult

/-! ### The characters of a mode -/

def hostCharacter (pattern : Bool) (character : UInt8) : Bool :=
  isLdh character || (pattern && isWildcard character)

def dnsCharacter (pattern : Bool) (character : UInt8) : Bool :=
  isNameByte character && (pattern || !isWildcard character)

def nameCharacter (pattern hostname : Bool) (character : UInt8) : Bool :=
  if hostname = true then hostCharacter pattern character
  else dnsCharacter pattern character

set_option maxRecDepth 4000 in
private theorem loweredKinds :
    ∀ value < 256,
      isBlank (toLower (UInt8.ofNat value)) = isBlank (UInt8.ofNat value) ∧
      (toLower (UInt8.ofNat value) = byte '.' ↔ UInt8.ofNat value = byte '.') ∧
      ((toLower (UInt8.ofNat value)).toNat ≤ 32 ↔
        (UInt8.ofNat value).toNat ≤ 32) ∧
      (127 ≤ (toLower (UInt8.ofNat value)).toNat ↔
        127 ≤ (UInt8.ofNat value).toNat) := by
  decide

section Lowering

variable (character : UInt8)

theorem lowered_kinds :
    isBlank (toLower character) = isBlank character ∧
      (toLower character = byte '.' ↔ character = byte '.') ∧
      ((toLower character).toNat ≤ 32 ↔ character.toNat ≤ 32) ∧
      (127 ≤ (toLower character).toNat ↔ 127 ≤ character.toNat) := by
  have kinds := loweredKinds character.toNat character.toNat_lt
  rwa [UInt8.ofNat_toNat] at kinds

theorem isBlank_toLower : isBlank (toLower character) = isBlank character :=
  (lowered_kinds character).1

theorem toLower_eq_dot : toLower character = byte '.' ↔ character = byte '.' :=
  (lowered_kinds character).2.1

end Lowering

set_option maxRecDepth 4000 in
private theorem ldhKinds :
    ∀ value < 256, isLdh (UInt8.ofNat value) = true →
      isNameByte (UInt8.ofNat value) = true := by
  decide

private theorem wildcardKinds {character : UInt8}
    (wildcard : isWildcard character = true) : isNameByte character = true := by
  unfold isWildcard at wildcard
  rcases Bool.or_eq_true_iff.mp wildcard with star | question
  · rw [beq_iff_eq.mp star]
    decide
  · rw [beq_iff_eq.mp question]
    decide

theorem isNameByte_of_nameCharacter {pattern hostname : Bool} {character : UInt8}
    (accepted : nameCharacter pattern hostname character = true) :
    isNameByte character = true := by
  unfold nameCharacter at accepted
  split at accepted
  · rcases Bool.or_eq_true_iff.mp accepted with ldh | wildcard
    · have kinds := ldhKinds character.toNat character.toNat_lt
      rw [UInt8.ofNat_toNat] at kinds
      exact kinds ldh
    · exact wildcardKinds (Bool.and_eq_true_iff.mp wildcard).2
  · exact (Bool.and_eq_true_iff.mp accepted).1

theorem checkNameCharacter_eq_ok {pattern hostname : Bool}
    {original character : UInt8} (undotted : original ≠ byte '.') :
    checkNameCharacter pattern hostname original = .ok character ↔
      nameCharacter pattern hostname (toLower original) = true ∧
        toLower original = character := by
  have kinds := lowered_kinds original
  unfold checkNameCharacter nameCharacter
  cases hostname with
  | true =>
      rw [if_pos rfl, hostCharacter]
      simp only [bind_eq_ok, rejectIf_eq_ok, pure_eq_ok, Except.ok.injEq]
      cases isLdh (toLower original) <;>
        cases pattern && isWildcard (toLower original) <;> simp
  | false =>
      have dotless : (toLower original == byte '.') = false := by
        rw [beq_eq_false_iff_ne]
        exact fun same => undotted (kinds.2.1.mp same)
      have visible : isNameByte (toLower original) =
          (!decide (original.toNat ≤ 32) && !decide (127 ≤ original.toNat)) := by
        unfold isNameByte
        rw [bne, dotless, Bool.eq_iff_iff]
        simp only [Bool.not_false, Bool.and_true, Bool.and_eq_true,
          decide_eq_true_eq, Bool.not_eq_true', decide_eq_false_iff_not]
        omega
      rw [if_neg Bool.false_ne_true, dnsCharacter, visible]
      simp only [bind_eq_ok, rejectIf_eq_ok, pure_eq_ok, Except.ok.injEq, dotless]
      cases decide (original.toNat ≤ 32) <;>
        cases decide (127 ≤ original.toNat) <;> cases pattern <;>
          cases isWildcard (toLower original) <;> simp

theorem checkNameCharacter_toLower (pattern hostname : Bool) (original : UInt8) :
    checkNameCharacter pattern hostname (toLower original) =
      checkNameCharacter pattern hostname original := by
  obtain ⟨_, _, low, high⟩ := lowered_kinds original
  unfold checkNameCharacter
  simp only [toLower_toLower, low, high]

/-! ### Labels in normal form -/

structure CanonicalLabel (pattern hostname : Bool) (label : Bytes) : Prop where
  nonempty : label ≠ []
  short : label.length ≤ 63
  alphabet : ∀ character ∈ label, nameCharacter pattern hostname character = true
  lower : ∀ character ∈ label, toLower character = character
  bounded : hostname = true →
    ¬ (label.head? = some (byte '-') ∨ label.getLast? = some (byte '-'))

section Labels

variable {pattern hostname : Bool}

theorem CanonicalLabel.printable {label : Bytes}
    (canonical : CanonicalLabel pattern hostname label) :
    ∀ character ∈ label, isNameByte character = true := fun character member =>
  isNameByte_of_nameCharacter (canonical.alphabet character member)

theorem CanonicalLabel.dotFree {label : Bytes}
    (canonical : CanonicalLabel pattern hostname label) : byte '.' ∉ label := by
  intro member
  have printable := canonical.printable _ member
  rw [dot_not_isNameByte] at printable
  cases printable

theorem checkNameCharacters_canonical {label checked : Bytes}
    (dotFree : byte '.' ∉ label)
    (accepted : checkNameCharacters pattern hostname label = .ok checked) :
    checked = label.map toLower ∧
      ∀ character ∈ checked, nameCharacter pattern hostname character = true := by
  induction label generalizing checked with
  | nil =>
      cases accepted
      exact ⟨rfl, fun _ member => absurd member List.not_mem_nil⟩
  | cons original rest ih =>
      obtain ⟨headDot, tailDots⟩ := not_or.mp (List.mem_cons.not.mp dotFree)
      simp only [checkNameCharacters, bind_eq_ok, pure_eq_ok,
        Except.ok.injEq] at accepted
      obtain ⟨character, here, others, later, built⟩ := accepted
      obtain ⟨inMode, lowered⟩ :=
        (checkNameCharacter_eq_ok (Ne.symm headDot)).mp here
      obtain ⟨othersEq, othersIn⟩ := ih tailDots later
      subst built lowered othersEq
      refine ⟨rfl, ?_⟩
      intro other member
      rcases List.mem_cons.mp member with first | behind
      · rw [first]
        exact inMode
      · exact othersIn other behind

theorem checkNameCharacters_of_canonical {label : Bytes}
    (alphabet : ∀ character ∈ label,
      nameCharacter pattern hostname character = true)
    (lower : ∀ character ∈ label, toLower character = character) :
    checkNameCharacters pattern hostname label = .ok label := by
  induction label with
  | nil =>
      rfl
  | cons first rest ih =>
      have lowered := lower first List.mem_cons_self
      have inMode := alphabet first List.mem_cons_self
      have undotted : first ≠ byte '.' := by
        intro same
        have printable := isNameByte_of_nameCharacter inMode
        rw [same, dot_not_isNameByte] at printable
        cases printable
      have passes : checkNameCharacter pattern hostname first = .ok first :=
        (checkNameCharacter_eq_ok undotted).mpr ⟨lowered.symm ▸ inMode, lowered⟩
      have behind := ih
        (fun other member => alphabet other (List.mem_cons_of_mem first member))
        (fun other member => lower other (List.mem_cons_of_mem first member))
      simp only [checkNameCharacters, passes, behind, ok_bind, pure_eq_ok]

theorem checkNameCharacters_toLower (label : Bytes) :
    checkNameCharacters pattern hostname (label.map toLower) =
      checkNameCharacters pattern hostname label := by
  induction label with
  | nil =>
      rfl
  | cons first rest ih =>
      simp only [List.map_cons, checkNameCharacters, checkNameCharacter_toLower,
        ih]

theorem normalizeLabel_canonical {label checked : Bytes}
    (dotFree : byte '.' ∉ label)
    (accepted : normalizeLabel pattern hostname label = .ok checked) :
    CanonicalLabel pattern hostname checked := by
  simp only [normalizeLabel, bind_eq_ok, rejectIf_eq_ok, pure_eq_ok,
    Except.ok.injEq] at accepted
  obtain ⟨_, named, _, short, other, characters, _, edges, built⟩ := accepted
  obtain ⟨lowered, inMode⟩ := checkNameCharacters_canonical dotFree characters
  subst built lowered
  exact
    { nonempty := fun empty => named (List.map_eq_nil_iff.mp empty)
      short := by
        rw [List.length_map]
        omega
      alphabet := inMode
      lower := by
        intro character member
        obtain ⟨original, _, same⟩ := List.mem_map.mp member
        rw [← same]
        exact toLower_toLower original
      bounded := fun host edge => edges ⟨host, edge⟩ }

theorem CanonicalLabel.normalizeLabel {label : Bytes}
    (canonical : CanonicalLabel pattern hostname label) :
    normalizeLabel pattern hostname label = .ok label := by
  have characters := checkNameCharacters_of_canonical canonical.alphabet
    canonical.lower
  simp only [NativeDNS.normalizeLabel, bind_eq_ok, rejectIf_eq_ok, pure_eq_ok,
    Except.ok.injEq]
  have short : ¬ label.length > 63 := Nat.not_lt.mpr canonical.short
  exact ⟨(), canonical.nonempty, (), short, label, characters, (),
    fun edge => canonical.bounded edge.1 edge.2, rfl⟩

theorem normalizeLabel_toLower (label : Bytes) :
    normalizeLabel pattern hostname (label.map toLower) =
      normalizeLabel pattern hostname label := by
  simp only [normalizeLabel, checkNameCharacters_toLower, List.map_eq_nil_iff,
    List.length_map]

theorem normalizeLabels_canonical {labels checked : List Bytes}
    (dotFree : ∀ label ∈ labels, byte '.' ∉ label)
    (accepted : normalizeLabels pattern hostname labels = .ok checked) :
    checked.length = labels.length ∧
      ∀ label ∈ checked, CanonicalLabel pattern hostname label := by
  induction labels generalizing checked with
  | nil =>
      cases accepted
      exact ⟨rfl, fun _ member => absurd member List.not_mem_nil⟩
  | cons first rest ih =>
      simp only [normalizeLabels, bind_eq_ok, rejectIf_eq_ok, pure_eq_ok,
        Except.ok.injEq] at accepted
      obtain ⟨label, here, _, _, others, later, built⟩ := accepted
      obtain ⟨lengths, othersCanonical⟩ := ih
        (fun other member => dotFree other (List.mem_cons_of_mem first member))
        later
      subst built
      refine ⟨by rw [List.length_cons, List.length_cons, lengths], ?_⟩
      intro other member
      rcases List.mem_cons.mp member with same | behind
      · rw [same]
        exact normalizeLabel_canonical (dotFree first List.mem_cons_self) here
      · exact othersCanonical other behind

theorem normalizeLabels_of_canonical {labels : List Bytes}
    (canonical : ∀ label ∈ labels, CanonicalLabel pattern hostname label) :
    normalizeLabels pattern hostname labels = .ok labels := by
  induction labels with
  | nil =>
      rfl
  | cons first rest ih =>
      have others : ∀ label ∈ rest, CanonicalLabel pattern hostname label :=
        fun label member => canonical label (List.mem_cons_of_mem first member)
      have notDotted : rest ≠ [[]] := by
        intro same
        have empty : ([] : Bytes) ∈ rest := by
          rw [same]
          exact List.mem_singleton_self []
        exact (others [] empty).nonempty rfl
      simp only [normalizeLabels, bind_eq_ok, rejectIf_eq_ok, pure_eq_ok,
        Except.ok.injEq]
      exact ⟨first, (canonical first List.mem_cons_self).normalizeLabel, (),
        notDotted, rest, ih others, rfl⟩

theorem normalizeLabels_toLower (labels : List Bytes) :
    normalizeLabels pattern hostname (labels.map (·.map toLower)) =
      normalizeLabels pattern hostname labels := by
  induction labels with
  | nil =>
      rfl
  | cons first rest ih =>
      have ending : rest.map (·.map toLower) = [[]] ↔ rest = [[]] := by
        constructor
        · intro same
          obtain ⟨only, rfl, emptied⟩ := List.map_eq_singleton_iff.mp same
          rw [List.map_eq_nil_iff.mp emptied]
        · intro same
          rw [same]
          rfl
      simp only [List.map_cons, normalizeLabels, normalizeLabel_toLower, ending,
        ih]

end Labels

/-! ### Blanks -/

theorem trimBlanks_toLower (value : Bytes) :
    trimBlanks (value.map toLower) = (trimBlanks value).map toLower := by
  have same : isBlank ∘ toLower = isBlank := funext isBlank_toLower
  unfold trimBlanks
  rw [List.dropWhile_map, same, ← List.map_reverse, List.dropWhile_map, same,
    List.map_reverse]

theorem trimBlanks_surrounded {before after : Bytes}
    (front : ∀ character ∈ before, isBlank character = true)
    (back : ∀ character ∈ after, isBlank character = true) (value : Bytes) :
    trimBlanks (before ++ value ++ after) = trimBlanks value := by
  have blankBack : after.dropWhile isBlank = [] :=
    List.dropWhile_eq_nil_iff.mpr back
  have turned : ∀ character ∈ after.reverse, isBlank character = true :=
    fun character member => back character (List.mem_reverse.mp member)
  unfold trimBlanks
  rw [List.append_assoc, List.dropWhile_append_of_pos front,
    List.dropWhile_append]
  split
  · rename_i empty
    rw [blankBack, List.isEmpty_iff.mp empty]
  · rw [List.reverse_append, List.dropWhile_append_of_pos turned]

/-! ### Names in normal form -/

structure CanonicalName (pattern hostname : Bool) (value : Bytes) : Prop where
  labels : ∃ items : List Bytes, items ≠ [] ∧
    (∀ item ∈ items, CanonicalLabel pattern hostname item) ∧
    value = joined (byte '.') items
  short : value.length ≤ 253

section Names

variable {pattern hostname : Bool} {value : Bytes}

structure CanonicalParts (pattern hostname : Bool) (value : Bytes) : Prop where
  named : value ≠ []
  labels : ∀ label ∈ pieces (byte '.') value,
    CanonicalLabel pattern hostname label
  whole : joined (byte '.') (pieces (byte '.') value) = value
  head : ∀ character, value.head? = some character → isNameByte character = true
  last : ∀ character, value.getLast? = some character →
    isNameByte character = true

theorem CanonicalName.parts (canonical : CanonicalName pattern hostname value) :
    CanonicalParts pattern hostname value := by
  obtain ⟨items, named, items_canonical, whole⟩ := canonical.labels
  have nonempty : ∀ item ∈ items, item ≠ [] := fun item member =>
    (items_canonical item member).nonempty
  have cut : pieces (byte '.') value = items := by
    rw [whole]
    exact pieces_joined named fun item member =>
      (items_canonical item member).dotFree
  exact
    { named := by
        rw [whole]
        exact fun empty => named ((joined_eq_nil_iff nonempty).mp empty)
      labels := by
        rw [cut]
        exact items_canonical
      whole := by
        rw [cut, whole]
      head := by
        intro character headEq
        cases items with
        | nil =>
            exact absurd rfl named
        | cons first others =>
            rw [whole, joined_head? others
              (nonempty first List.mem_cons_self)] at headEq
            exact (items_canonical first List.mem_cons_self).printable character
              (List.mem_of_head? headEq)
      last := by
        intro character lastEq
        obtain ⟨item, member, sameLast⟩ :=
          joined_getLast? (byte '.') named nonempty
        rw [whole, sameLast] at lastEq
        exact (items_canonical item member).printable character
          (List.mem_of_getLast? lastEq) }

theorem normalizeAsciiName_canonical {result : Bytes}
    (accepted : normalizeAsciiName value pattern hostname = .ok result) :
    CanonicalName pattern hostname result := by
  simp only [normalizeAsciiName, bind_eq_ok, rejectIf_eq_ok, pure_eq_ok,
    Except.ok.injEq] at accepted
  obtain ⟨_, _, _, _, items, labels, _, short, built⟩ := accepted
  obtain ⟨lengths, canonical⟩ := normalizeLabels_canonical (pieces_free _ _) labels
  subst built
  refine ⟨⟨items, ?_, canonical, rfl⟩, Nat.not_lt.mp short⟩
  intro empty
  rw [empty] at lengths
  exact pieces_ne_nil _ _ (List.length_eq_zero_iff.mp lengths.symm)

theorem CanonicalName.normalize (canonical : CanonicalName pattern hostname value)
    {original : Bytes} (named : trimBlanks original ≠ [])
    (left : (if (trimBlanks original).getLast? = some (byte '.') then
      (trimBlanks original).dropLast else trimBlanks original) = value) :
    normalizeAsciiName original pattern hostname = .ok value := by
  have parts := canonical.parts
  have labels := normalizeLabels_of_canonical parts.labels
  simp only [normalizeAsciiName, bind_eq_ok, rejectIf_eq_ok, pure_eq_ok,
    Except.ok.injEq, left]
  exact ⟨(), named, (), parts.named, pieces (byte '.') value, labels, (), by
    rw [parts.whole]
    exact Nat.not_lt.mpr canonical.short, parts.whole⟩

theorem CanonicalName.trimmed (canonical : CanonicalName pattern hostname value) :
    trimBlanks value = value :=
  trimBlanks_eq_self
    (fun character headEq => isBlank_of_isNameByte (canonical.parts.head character headEq))
    (fun character lastEq => isBlank_of_isNameByte (canonical.parts.last character lastEq))

theorem CanonicalName.undotted (canonical : CanonicalName pattern hostname value) :
    value.getLast? ≠ some (byte '.') := by
  intro lastEq
  have printable := canonical.parts.last (byte '.') lastEq
  rw [dot_not_isNameByte] at printable
  cases printable

theorem CanonicalName.unchanged
    (canonical : CanonicalName pattern hostname value) :
    normalizeAsciiName value pattern hostname = .ok value := by
  refine canonical.normalize ?_ ?_
  · rw [canonical.trimmed]
    exact canonical.parts.named
  · rw [canonical.trimmed, if_neg canonical.undotted]

theorem CanonicalName.dotted (canonical : CanonicalName pattern hostname value) :
    normalizeAsciiName (value ++ [byte '.']) pattern hostname = .ok value := by
  have trimmed : trimBlanks (value ++ [byte '.']) = value ++ [byte '.'] := by
    refine trimBlanks_eq_self ?_ ?_
    · intro character headEq
      rw [List.head?_append_of_ne_nil _ canonical.parts.named] at headEq
      exact isBlank_of_isNameByte (canonical.parts.head character headEq)
    · intro character lastEq
      rw [List.getLast?_concat] at lastEq
      rw [← Option.some.inj lastEq]
      decide
  refine canonical.normalize ?_ ?_
  · rw [trimmed]
    exact List.concat_ne_nil _ _
  · rw [trimmed, if_pos List.getLast?_concat, List.dropLast_concat]

theorem normalizeAsciiName_toLower (value : Bytes) :
    normalizeAsciiName (value.map toLower) pattern hostname =
      normalizeAsciiName value pattern hostname := by
  have cut : ∀ bytes : Bytes, pieces (byte '.') (bytes.map toLower) =
      (pieces (byte '.') bytes).map (·.map toLower) := by
    intro bytes
    induction bytes with
    | nil =>
        rfl
    | cons first rest ih =>
        simp only [List.map_cons, pieces, toLower_eq_dot, ih]
        split
        · rfl
        · cases pieces (byte '.') rest <;> rfl
  have ending : ∀ bytes : Bytes,
      (bytes.map toLower).getLast? = some (byte '.') ↔
        bytes.getLast? = some (byte '.') := by
    intro bytes
    rw [List.getLast?_map]
    cases bytes.getLast? with
    | none =>
        simp
    | some last =>
        simp only [Option.map_some, Option.some.injEq, toLower_eq_dot]
  have behind : ∀ bytes : Bytes,
      (if (bytes.map toLower).getLast? = some (byte '.') then
        (bytes.map toLower).dropLast else bytes.map toLower) =
      (if bytes.getLast? = some (byte '.') then bytes.dropLast
        else bytes).map toLower := by
    intro bytes
    simp only [ending]
    split
    · rw [List.map_dropLast]
    · rfl
  unfold normalizeAsciiName
  simp only [trimBlanks_toLower, List.map_eq_nil_iff, behind, cut,
    normalizeLabels_toLower]

theorem normalizeAsciiName_surrounded {before after : Bytes}
    (front : ∀ character ∈ before, isBlank character = true)
    (back : ∀ character ∈ after, isBlank character = true) (value : Bytes) :
    normalizeAsciiName (before ++ value ++ after) pattern hostname =
      normalizeAsciiName value pattern hostname := by
  unfold normalizeAsciiName
  rw [trimBlanks_surrounded front back]

end Names

/-- One normal form of a name: no other text of its letters, blanks around it or
dot behind it is returned. -/
structure NormalName (pattern hostname : Bool) (value : Bytes) : Prop where
  nonempty : value ≠ []
  short : value.length ≤ 253
  lower : ∀ character ∈ value, toLower character = character
  labels : ∀ label ∈ pieces (byte '.') value,
    (1 ≤ label.length ∧ label.length ≤ 63) ∧
      ∀ character ∈ label, nameCharacter pattern hostname character = true
  leading : value.head? ≠ some (byte '.')
  trailing : value.getLast? ≠ some (byte '.')
  double : ∀ before after, value ≠ before ++ byte '.' :: byte '.' :: after
  unblank : ∀ character ∈ value, isBlank character = false

theorem CanonicalName.normal {pattern hostname : Bool} {value : Bytes}
    (canonical : CanonicalName pattern hostname value) :
    NormalName pattern hostname value := by
  have parts := canonical.parts
  have inside : ∀ character ∈ value, character = byte '.' ∨
      ∃ label ∈ pieces (byte '.') value, character ∈ label := by
    intro character member
    rw [← parts.whole] at member
    exact mem_joined member
  exact
    { nonempty := parts.named
      short := canonical.short
      lower := by
        intro character member
        rcases inside character member with dot | ⟨label, cut, inLabel⟩
        · rw [dot]
          decide
        · exact (parts.labels label cut).lower character inLabel
      labels := by
        intro label cut
        have isLabel := parts.labels label cut
        exact ⟨⟨List.length_pos_iff.mpr isLabel.nonempty, isLabel.short⟩,
          isLabel.alphabet⟩
      leading := by
        intro headEq
        have printable := parts.head _ headEq
        rw [dot_not_isNameByte] at printable
        cases printable
      trailing := canonical.undotted
      double := by
        intro before after whole
        have empty := ByteText.nil_mem_pieces (byte '.') before after
        rw [← whole] at empty
        exact (parts.labels [] (List.mem_of_mem_tail empty)).nonempty rfl
      unblank := by
        intro character member
        rcases inside character member with dot | ⟨label, cut, inLabel⟩
        · rw [dot]
          decide
        · exact isBlank_of_isNameByte
            ((parts.labels label cut).printable character inLabel) }

/-- What a canonicalisation of names does: it returns normal names, leaves them as
they are, and returns the same for the variants of a text. -/
structure Canonicalises (pattern hostname : Bool)
    (normalize : Bytes → Checked Bytes) : Prop where
  normal : ∀ value name, normalize value = .ok name →
    NormalName pattern hostname name
  idempotent : ∀ value name, normalize value = .ok name →
    normalize name = .ok name
  caseless : ∀ value other, value.map toLower = other.map toLower →
    normalize value = normalize other
  surrounded : ∀ before value after,
    (∀ character ∈ before, isBlank character = true) →
    (∀ character ∈ after, isBlank character = true) →
    normalize (before ++ value ++ after) = normalize value
  dotted : ∀ value name, normalize value = .ok name →
    normalize (name ++ [byte '.']) = .ok name

theorem normalizeAsciiName_canonicalises (pattern hostname : Bool) :
    Canonicalises pattern hostname
      (fun value => normalizeAsciiName value pattern hostname) :=
  { normal := fun _ _ accepted => (normalizeAsciiName_canonical accepted).normal
    idempotent := fun _ _ accepted =>
      (normalizeAsciiName_canonical accepted).unchanged
    caseless := by
      intro value other same
      rw [← normalizeAsciiName_toLower value, same, normalizeAsciiName_toLower]
    surrounded := by
      intro before value after front back
      exact normalizeAsciiName_surrounded front back value
    dotted := fun _ _ accepted => (normalizeAsciiName_canonical accepted).dotted }

/-! ### Lists of patterns -/

def isPatternEnd (character : UInt8) : Bool :=
  (text ";\r\n").contains character

def hasPattern (value : Bytes) : Bool :=
  value.any fun character => !(text " \t").contains character

def splitPiece (value : Bytes) : Checked (List Bytes) :=
  if hasPattern value = true then do
    let name ← normalizeDnsName value true
    pure [name]
  else pure []

def splitPatterns : Bytes → Checked (List Bytes)
  | [] => pure []
  | first :: rest => do
      let result ← splitPiece ((first :: rest).takeWhile (!isPatternEnd ·))
      match _behind : (first :: rest).dropWhile (!isPatternEnd ·) with
      | [] => pure result
      | _ :: more => do
          let others ← splitPatterns more
          pure (result ++ others)
termination_by value => value.length
decreasing_by
  have shorter := (@List.dropWhile_suffix _ (first :: rest) (!isPatternEnd ·)).length_le
  rw [_behind, List.length_cons] at shorter
  exact shorter

def patternPieces (value : Bytes) : List Bytes :=
  (value.splitOnP isPatternEnd).filter hasPattern

theorem splitPatterns_last {value : Bytes}
    (free : ∀ character ∈ value, isPatternEnd character = false) :
    splitPatterns value = splitPiece value := by
  cases value with
  | nil =>
      rw [splitPatterns]
      rfl
  | cons first rest =>
      have kept : ∀ character ∈ first :: rest, (!isPatternEnd character) = true :=
        fun character member => by rw [free character member]; rfl
      have all : (first :: rest).takeWhile (!isPatternEnd ·) = first :: rest :=
        List.takeWhile_eq_self_iff.mpr kept
      have nothing : (first :: rest).dropWhile (!isPatternEnd ·) = [] :=
        List.dropWhile_eq_nil_iff.mpr kept
      rw [splitPatterns, all]
      split
      · exact bind_pure _
      · rename_i behind
        rw [nothing] at behind
        cases behind

theorem splitPatterns_piece {piece : Bytes} {separator : UInt8}
    (free : ∀ character ∈ piece, isPatternEnd character = false)
    (ends : isPatternEnd separator = true) (more : Bytes) :
    splitPatterns (piece ++ separator :: more) =
      (do
        let result ← splitPiece piece
        let others ← splitPatterns more
        pure (result ++ others)) := by
  have kept : ∀ character ∈ piece, (!isPatternEnd character) = true :=
    fun character member => by rw [free character member]; rfl
  have stops : ¬ (!isPatternEnd separator) = true := by rw [ends]; decide
  have front : (piece ++ separator :: more).takeWhile (!isPatternEnd ·) = piece := by
    rw [List.takeWhile_append_of_pos kept, List.takeWhile_cons, if_neg stops,
      List.append_nil]
  have back : (piece ++ separator :: more).dropWhile (!isPatternEnd ·) =
      separator :: more := by
    rw [List.dropWhile_append_of_pos kept, List.dropWhile_cons, if_neg stops]
  obtain ⟨first, rest, whole⟩ : ∃ first rest,
      piece ++ separator :: more = first :: rest :=
    List.exists_cons_of_ne_nil (List.append_ne_nil_of_right_ne_nil _
      (List.cons_ne_nil _ _))
  rw [whole] at front back ⊢
  rw [splitPatterns, front]
  split
  · rename_i behind
    rw [back] at behind
    cases behind
  · rename_i last others behind
    rw [back] at behind
    cases behind
    rfl

theorem patternPieces_piece {piece : Bytes} {separator : UInt8}
    (free : ∀ character ∈ piece, isPatternEnd character = false)
    (ends : isPatternEnd separator = true) (more : Bytes) :
    patternPieces (piece ++ separator :: more) =
      [piece].filter hasPattern ++ patternPieces more := by
  unfold patternPieces
  rw [List.splitOnP_append_cons_of_forall_mem free separator ends,
    ← List.filter_append, List.singleton_append]

theorem splitPatterns_eq (value : Bytes) :
    splitPatterns value =
      (patternPieces value).mapM (normalizeDnsName · true) := by
  have single : ∀ piece : Bytes, splitPiece piece =
      ([piece].filter hasPattern).mapM (normalizeDnsName · true) := by
    intro piece
    unfold splitPiece
    by_cases holds : hasPattern piece = true
    · rw [if_pos holds, List.filter_cons_of_pos holds, List.filter_nil,
        List.mapM_cons, List.mapM_nil]
      rfl
    · rw [if_neg holds, List.filter_cons_of_neg holds, List.filter_nil,
        List.mapM_nil]
  induction length : value.length using Nat.strongRecOn generalizing value with
  | _ size ih =>
      have cut := @List.takeWhile_append_dropWhile _ (!isPatternEnd ·) value
      have free : ∀ character ∈ value.takeWhile (!isPatternEnd ·),
          isPatternEnd character = false := by
        intro character member
        have kept := List.all_eq_true.mp List.all_takeWhile character member
        simpa using kept
      cases behind : value.dropWhile (!isPatternEnd ·) with
      | nil =>
          rw [behind, List.append_nil] at cut
          rw [cut] at free
          rw [splitPatterns_last free, single, patternPieces,
            List.splitOnP_eq_singleton free]
      | cons separator more =>
          have ends : isPatternEnd separator = true := by
            have stop := List.head?_dropWhile_not (!isPatternEnd ·) value
            rw [behind, List.head?_cons] at stop
            simpa using stop
          rw [behind] at cut
          have shorter : more.length < size := by
            have total := congrArg List.length cut
            rw [List.length_append, List.length_cons] at total
            omega
          rw [← cut, splitPatterns_piece free ends, ih more.length shorter more rfl,
            single, patternPieces_piece free ends, List.mapM_append]

/-- What is returned for a list of patterns. -/
structure SplitsPatterns (value : Bytes) : Prop where
  returned : ∀ names, splitPatterns value = .ok names ↔
    List.Forall₂ (fun piece name => normalizeDnsName piece true = .ok name)
      (patternPieces value) names
  failed : (∃ error, splitPatterns value = .error error) ↔
    ∃ piece ∈ patternPieces value, ∃ error,
      normalizeDnsName piece true = .error error

theorem names_canonical (pattern : Bool) (list : Bytes) :
    Canonicalises pattern true (normalizeHost · pattern) ∧
      Canonicalises pattern false (normalizeDnsName · pattern) ∧
      SplitsPatterns list := by
  refine ⟨normalizeAsciiName_canonicalises pattern true,
    normalizeAsciiName_canonicalises pattern false, ?_⟩
  exact
    { returned := by
        intro names
        rw [splitPatterns_eq, Lists.mapM_eq_ok]
      failed := by
        rw [splitPatterns_eq, Lists.mapM_eq_error] }

end NativeDNS

/-
Arguments in one line of text.

A line is cut at the blanks outside quotes.  Slashes count only in front of a quote: two
of them stand for one, and a single one takes the quote as a character of the argument.
Inside quotes a quote written twice is a character too.
-/
import Mathlib.Data.List.Forall2

namespace CommandLine

structure Signs (α : Type) where
  quote : α
  slash : α
  blank : α → Bool
  quote_ne_slash : quote ≠ slash
  blank_quote : blank quote = false
  blank_slash : blank slash = false

variable {α : Type}

def spaced (space : α) : List (List α) → List α
  | [] => []
  | [text] => text
  | text :: next :: more => text ++ space :: spaced space (next :: more)

theorem mem_spaced {character space : α} {texts : List (List α)}
    (member : character ∈ spaced space texts) :
    character = space ∨ ∃ text ∈ texts, character ∈ text := by
  induction texts with
  | nil =>
      cases member
  | cons first texts ih =>
      cases texts with
      | nil =>
          exact .inr ⟨first, List.mem_cons_self, member⟩
      | cons next more =>
          rw [spaced] at member
          rcases List.mem_append.mp member with here | rest
          · exact .inr ⟨first, List.mem_cons_self, here⟩
          · rcases List.mem_cons.mp rest with same | inside
            · exact .inl same
            · rcases ih inside with same | ⟨text, among, within⟩
              · exact .inl same
              · exact .inr ⟨text, List.mem_cons_of_mem first among, within⟩

theorem spaced_map {β : Type} (f : α → β) (space : α) :
    ∀ texts : List (List α),
      (spaced space texts).map f = spaced (f space) (texts.map (List.map f))
  | [] => rfl
  | [_] => rfl
  | text :: next :: more => by
      rw [spaced, List.map_append, List.map_cons, spaced_map f space (next :: more)]
      rfl

variable [DecidableEq α]

/-! ### Reading -/

/-- The arguments of a line, with the argument under way and the slashes seen last. -/
def splitFrom (signs : Signs α) : List α → Bool → Nat → Option (List α) → List (List α)
  | [], _, _, none => []
  | [], _, slashes, some word => [word ++ List.replicate slashes signs.slash]
  | c :: rest, quoted, slashes, word =>
      if c = signs.slash then splitFrom signs rest quoted (slashes + 1) (some (word.getD []))
      else if c = signs.quote then
        let word := word.getD [] ++ List.replicate (slashes / 2) signs.slash
        if slashes % 2 = 1 then splitFrom signs rest quoted 0 (some (word ++ [signs.quote]))
        else
          match rest with
          | [] => splitFrom signs [] (!quoted) 0 (some word)
          | next :: later =>
              if quoted = true ∧ next = signs.quote then
                splitFrom signs later quoted 0 (some (word ++ [signs.quote]))
              else splitFrom signs (next :: later) (!quoted) 0 (some word)
      else if signs.blank c = true ∧ quoted = false then
        match word with
        | none => splitFrom signs rest false 0 none
        | some word =>
            (word ++ List.replicate slashes signs.slash) :: splitFrom signs rest false 0 none
      else
        splitFrom signs rest quoted 0
          (some (word.getD [] ++ List.replicate slashes signs.slash ++ [c]))

def splitArguments (signs : Signs α) (line : List α) : List (List α) :=
  splitFrom signs line false 0 none

/-! ### Writing -/

/-- The text of an argument behind its opening quote, with slashes that may still stand in
front of a quote. -/
def quoteFrom (signs : Signs α) : List α → Nat → List α
  | [], slashes => List.replicate (slashes * 2) signs.slash ++ [signs.quote]
  | c :: rest, slashes =>
      if c = signs.slash then quoteFrom signs rest (slashes + 1)
      else if c = signs.quote then
        List.replicate (slashes * 2 + 1) signs.slash ++ signs.quote :: quoteFrom signs rest 0
      else List.replicate slashes signs.slash ++ c :: quoteFrom signs rest 0

def quoted (signs : Signs α) (argument : List α) : List α :=
  signs.quote :: quoteFrom signs argument 0

/-- The ways to write an argument: inside quotes, or as it is. -/
inductive Written (signs : Signs α) : List α → List α → Prop
  | plain {word : List α} (nonempty : word ≠ [])
      (free : ∀ c ∈ word, c ≠ signs.quote ∧ signs.blank c = false) : Written signs word word
  | quoted (argument : List α) : Written signs (CommandLine.quoted signs argument) argument

variable {signs : Signs α}

theorem quoteFrom_nil (slashes : Nat) :
    quoteFrom signs [] slashes =
      List.replicate (slashes * 2) signs.slash ++ [signs.quote] :=
  rfl

theorem quoteFrom_slash {c : α} (slash : c = signs.slash) (rest : List α) (slashes : Nat) :
    quoteFrom signs (c :: rest) slashes = quoteFrom signs rest (slashes + 1) :=
  if_pos slash

theorem quoteFrom_quote {c : α} (slash : c ≠ signs.slash) (quote : c = signs.quote)
    (rest : List α) (slashes : Nat) :
    quoteFrom signs (c :: rest) slashes =
      List.replicate (slashes * 2 + 1) signs.slash ++
        signs.quote :: quoteFrom signs rest 0 :=
  (if_neg slash).trans (if_pos quote)

theorem quoteFrom_other {c : α} (slash : c ≠ signs.slash) (quote : c ≠ signs.quote)
    (rest : List α) (slashes : Nat) :
    quoteFrom signs (c :: rest) slashes =
      List.replicate slashes signs.slash ++ c :: quoteFrom signs rest 0 :=
  (if_neg slash).trans (if_neg quote)

/-! ### What a line holds -/

theorem mem_quoteFrom {character : α} {argument : List α} {slashes : Nat}
    (member : character ∈ quoteFrom signs argument slashes) :
    character ∈ argument ∨ character = signs.quote ∨ character = signs.slash := by
  induction argument generalizing slashes with
  | nil =>
      rw [quoteFrom_nil, List.mem_append, List.mem_singleton] at member
      exact .inr (member.symm.imp_right List.eq_of_mem_replicate)
  | cons c argument ih =>
      have later : ∀ {slashes}, character ∈ quoteFrom signs argument slashes →
          character ∈ c :: argument ∨ character = signs.quote ∨ character = signs.slash :=
        fun inside => (ih inside).imp_left (List.mem_cons_of_mem c)
      by_cases slash : c = signs.slash
      · rw [quoteFrom_slash slash] at member
        exact later member
      · by_cases quote : c = signs.quote
        · rw [quoteFrom_quote slash quote] at member
          rcases List.mem_append.mp member with slash | rest
          · exact .inr (.inr (List.eq_of_mem_replicate slash))
          · rcases List.mem_cons.mp rest with same | inside
            · exact .inr (.inl same)
            · exact later inside
        · rw [quoteFrom_other slash quote] at member
          rcases List.mem_append.mp member with slash | rest
          · exact .inr (.inr (List.eq_of_mem_replicate slash))
          · rcases List.mem_cons.mp rest with same | inside
            · exact .inl (same ▸ List.mem_cons_self)
            · exact later inside

theorem mem_quoted {character : α} {argument : List α}
    (member : character ∈ quoted signs argument) :
    character ∈ argument ∨ character = signs.quote ∨ character = signs.slash := by
  rcases List.mem_cons.mp member with same | inside
  · exact .inr (.inl same)
  · exact mem_quoteFrom inside

/-- Characters may be translated before or after the quoting, when none of the argument
becomes a quote or a slash that was not one. -/
theorem quoteFrom_map {β : Type} [DecidableEq β] {target : Signs β} {f : α → β}
    (quote : f signs.quote = target.quote) (slash : f signs.slash = target.slash)
    {argument : List α}
    (reflects : ∀ c ∈ argument, (f c = target.quote → c = signs.quote) ∧
      (f c = target.slash → c = signs.slash)) (slashes : Nat) :
    (quoteFrom signs argument slashes).map f = quoteFrom target (argument.map f) slashes := by
  induction argument generalizing slashes with
  | nil =>
      rw [quoteFrom_nil, List.map_nil, quoteFrom_nil, List.map_append, List.map_replicate,
        List.map_singleton, slash, quote]
  | cons c argument ih =>
      obtain ⟨⟨asQuote, asSlash⟩, later⟩ := List.forall_mem_cons.mp reflects
      rw [List.map_cons]
      by_cases isSlash : c = signs.slash
      · rw [quoteFrom_slash isSlash, quoteFrom_slash (isSlash ▸ slash), ih later]
      · have notSlash : f c ≠ target.slash := fun same => isSlash (asSlash same)
        by_cases isQuote : c = signs.quote
        · rw [quoteFrom_quote isSlash isQuote, quoteFrom_quote notSlash (isQuote ▸ quote),
            List.map_append, List.map_replicate, List.map_cons, ih later, slash, quote]
        · rw [quoteFrom_other isSlash isQuote,
            quoteFrom_other notSlash fun same => isQuote (asQuote same), List.map_append,
            List.map_replicate, List.map_cons, ih later, slash]

theorem quoted_map {β : Type} [DecidableEq β] {target : Signs β} {f : α → β}
    (quote : f signs.quote = target.quote) (slash : f signs.slash = target.slash)
    {argument : List α}
    (reflects : ∀ c ∈ argument, (f c = target.quote → c = signs.quote) ∧
      (f c = target.slash → c = signs.slash)) :
    (quoted signs argument).map f = quoted target (argument.map f) := by
  rw [quoted, List.map_cons, quote, quoteFrom_map quote slash reflects, quoted]

/-! ### Steps of the reader -/

theorem splitFrom_slash {c : α} (slash : c = signs.slash) (rest : List α) (quoted : Bool)
    (slashes : Nat) (word : Option (List α)) :
    splitFrom signs (c :: rest) quoted slashes word =
      splitFrom signs rest quoted (slashes + 1) (some (word.getD [])) := by
  cases word <;> rw [splitFrom, if_pos slash]

theorem splitFrom_slashes (count : Nat) (rest : List α) (quoted : Bool) (slashes : Nat)
    (word : List α) :
    splitFrom signs (List.replicate count signs.slash ++ rest) quoted slashes (some word) =
      splitFrom signs rest quoted (slashes + count) (some word) := by
  induction count generalizing slashes with
  | zero =>
      rfl
  | succ count ih =>
      rw [List.replicate_succ, List.cons_append, splitFrom_slash rfl, Option.getD_some,
        ih (slashes + 1)]
      congr 1
      omega

theorem splitFrom_quote (rest : List α) (quoted : Bool) (slashes : Nat)
    (word : Option (List α)) :
    splitFrom signs (signs.quote :: rest) quoted slashes word =
      (let word := word.getD [] ++ List.replicate (slashes / 2) signs.slash
      if slashes % 2 = 1 then splitFrom signs rest quoted 0 (some (word ++ [signs.quote]))
      else
        match rest with
        | [] => splitFrom signs [] (!quoted) 0 (some word)
        | next :: later =>
            if quoted = true ∧ next = signs.quote then
              splitFrom signs later quoted 0 (some (word ++ [signs.quote]))
            else splitFrom signs (next :: later) (!quoted) 0 (some word)) := by
  cases word <;> rw [splitFrom, if_neg signs.quote_ne_slash, if_pos rfl]

theorem splitFrom_escaped (rest : List α) (quoted : Bool) (slashes : Nat) (word : List α) :
    splitFrom signs (signs.quote :: rest) quoted (slashes * 2 + 1) (some word) =
      splitFrom signs rest quoted 0
        (some (word ++ List.replicate slashes signs.slash ++ [signs.quote])) := by
  rw [splitFrom_quote]
  have half : (slashes * 2 + 1) / 2 = slashes := by omega
  have odd : (slashes * 2 + 1) % 2 = 1 := by omega
  simp only [Option.getD_some, half, odd, if_true]

theorem splitFrom_closing {rest : List α} (other : rest.head? ≠ some signs.quote)
    (slashes : Nat) (word : List α) :
    splitFrom signs (signs.quote :: rest) true (slashes * 2) (some word) =
      splitFrom signs rest false 0 (some (word ++ List.replicate slashes signs.slash)) := by
  rw [splitFrom_quote]
  have half : slashes * 2 / 2 = slashes := by omega
  have even : ¬ slashes * 2 % 2 = 1 := by omega
  simp only [Option.getD_some, half, if_neg even]
  cases rest with
  | nil =>
      rfl
  | cons next later =>
      have different : next ≠ signs.quote := fun same => other (congrArg some same)
      simp only [different, and_false, if_false, Bool.not_true]

/-- Any other character is kept inside quotes, and outside them unless it is a blank. -/
theorem splitFrom_other {c : α} {quoted : Bool} (slash : c ≠ signs.slash)
    (quote : c ≠ signs.quote) (kept : quoted = true ∨ signs.blank c = false) (rest : List α)
    (slashes : Nat) (word : List α) :
    splitFrom signs (c :: rest) quoted slashes (some word) =
      splitFrom signs rest quoted 0
        (some (word ++ List.replicate slashes signs.slash ++ [c])) := by
  have noBreak : ¬ (signs.blank c = true ∧ quoted = false) := by
    rintro ⟨blank, outside⟩
    rcases kept with inside | plain
    · exact absurd (inside.symm.trans outside) Bool.noConfusion
    · exact absurd (plain.symm.trans blank) Bool.noConfusion
  rw [splitFrom, if_neg slash, if_neg quote, if_neg noBreak, Option.getD_some]

/-! ### What is written is read -/

/-- By induction on the argument: what has been read of it stands in the word, less the
slashes that are still open. -/
theorem splitFrom_quoteFrom {rest : List α} (other : rest.head? ≠ some signs.quote)
    (argument : List α) (slashes : Nat) (word : List α) :
    splitFrom signs (quoteFrom signs argument slashes ++ rest) true 0 (some word) =
      splitFrom signs rest false 0
        (some (word ++ List.replicate slashes signs.slash ++ argument)) := by
  induction argument generalizing slashes word with
  | nil =>
      rw [quoteFrom_nil, List.append_assoc, splitFrom_slashes, Nat.zero_add, List.singleton_append,
        splitFrom_closing other, List.append_nil]
  | cons c argument ih =>
      by_cases slash : c = signs.slash
      · rw [quoteFrom_slash slash, ih, slash, List.replicate_succ']
        simp only [List.append_assoc, List.singleton_append]
      · by_cases quote : c = signs.quote
        · rw [quoteFrom_quote slash quote, List.append_assoc, splitFrom_slashes, Nat.zero_add,
            List.cons_append, splitFrom_escaped, ih, quote]
          simp only [List.append_assoc, List.singleton_append, List.replicate_zero]
        · rw [quoteFrom_other slash quote, List.append_assoc, splitFrom_slashes, Nat.zero_add,
            List.cons_append, splitFrom_other slash quote (.inl rfl), ih]
          simp only [List.append_assoc, List.singleton_append, List.replicate_zero]

theorem splitFrom_plain (rest : List α) {text : List α}
    (free : ∀ c ∈ text, c ≠ signs.quote ∧ signs.blank c = false) (slashes : Nat)
    (word : List α) :
    ∃ pending before,
      splitFrom signs (text ++ rest) false slashes (some word) =
        splitFrom signs rest false pending (some before) ∧
      before ++ List.replicate pending signs.slash =
        word ++ List.replicate slashes signs.slash ++ text := by
  induction text generalizing slashes word with
  | nil =>
      exact ⟨slashes, word, rfl, (List.append_nil _).symm⟩
  | cons c text ih =>
      have later := fun one member => free one (List.mem_cons_of_mem c member)
      by_cases slash : c = signs.slash
      · obtain ⟨pending, before, reads, same⟩ := ih later (slashes + 1) word
        refine ⟨pending, before, ?_, ?_⟩
        · rw [List.cons_append, splitFrom_slash slash, Option.getD_some, reads]
        · rw [same, slash, List.replicate_succ']
          simp only [List.append_assoc, List.singleton_append]
      · obtain ⟨quote, blank⟩ := free c List.mem_cons_self
        obtain ⟨pending, before, reads, same⟩ :=
          ih later 0 (word ++ List.replicate slashes signs.slash ++ [c])
        refine ⟨pending, before, ?_, ?_⟩
        · rw [List.cons_append, splitFrom_other slash quote (.inr blank), reads]
        · rw [same, List.replicate_zero, List.append_nil]
          simp only [List.append_assoc, List.singleton_append]

theorem splitFrom_begins {c : α} (quote : c ≠ signs.quote) (blank : signs.blank c = false)
    (rest : List α) :
    splitFrom signs (c :: rest) false 0 none = splitFrom signs (c :: rest) false 0 (some []) := by
  by_cases slash : c = signs.slash
  · rw [splitFrom_slash slash, splitFrom_slash slash]
    rfl
  · rw [splitFrom, splitFrom, if_neg slash, if_neg slash, if_neg quote, if_neg quote, blank]
    rfl

theorem splitFrom_ends {rest : List α}
    (ends : ∀ c ∈ rest.head?, signs.blank c = true) (slashes : Nat) (word : List α) :
    splitFrom signs rest false slashes (some word) =
      (word ++ List.replicate slashes signs.slash) :: splitArguments signs rest.tail := by
  cases rest with
  | nil =>
      rfl
  | cons c rest =>
      have blank := ends c rfl
      have slash : c ≠ signs.slash := fun same => by
        rw [same, signs.blank_slash] at blank
        cases blank
      have quote : c ≠ signs.quote := fun same => by
        rw [same, signs.blank_quote] at blank
        cases blank
      rw [splitFrom, if_neg slash, if_neg quote, if_pos ⟨blank, rfl⟩]
      rfl

theorem splitArguments_written {text argument rest : List α}
    (written : Written signs text argument)
    (ends : ∀ c ∈ rest.head?, signs.blank c = true) :
    splitArguments signs (text ++ rest) = argument :: splitArguments signs rest.tail := by
  cases written with
  | quoted argument =>
      have other : rest.head? ≠ some signs.quote := by
        intro same
        have blank := ends signs.quote same
        rw [signs.blank_quote] at blank
        cases blank
      have opening : splitArguments signs (quoted signs argument ++ rest) =
          splitFrom signs (quoteFrom signs argument 0 ++ rest) true 0 (some []) := by
        unfold splitArguments quoted
        rw [List.cons_append, splitFrom_quote]
        cases text : quoteFrom signs argument 0 ++ rest <;> rfl
      rw [opening, splitFrom_quoteFrom other, splitFrom_ends ends]
      simp only [List.replicate_zero, List.nil_append, List.append_nil]
  | plain nonempty free =>
      cases text with
      | nil =>
          exact absurd rfl nonempty
      | cons c text =>
          obtain ⟨quote, blank⟩ := free c List.mem_cons_self
          unfold splitArguments
          rw [List.cons_append, splitFrom_begins quote blank, ← List.cons_append]
          obtain ⟨pending, before, reads, same⟩ := @splitFrom_plain α _ signs rest _ free 0 []
          rw [reads, splitFrom_ends ends, same]
          rfl

theorem splitArguments_spaced {space : α} (blank : signs.blank space = true)
    {texts arguments : List (List α)} (written : List.Forall₂ (Written signs) texts arguments) :
    splitArguments signs (spaced space texts) = arguments := by
  induction written with
  | nil =>
      rfl
  | @cons text argument texts arguments first later ih =>
      cases texts with
      | nil =>
          cases later
          have alone := @splitArguments_written α _ signs text argument [] first
            (fun c member => by cases member)
          rw [List.append_nil] at alone
          exact alone
      | cons next more =>
          have ends : ∀ c ∈ (space :: spaced space (next :: more)).head?,
              signs.blank c = true := by
            intro c member
            rw [← Option.some.inj member]
            exact blank
          rw [spaced, splitArguments_written first ends, List.tail_cons, ih]

end CommandLine

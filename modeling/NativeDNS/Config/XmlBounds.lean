/-
The configuration parser stays inside its text.

A run with the cursor is followed beside the scanners on the unread bytes: it
returns what they return and stands where they stop, or raises what they raise.
Whatever a run records on its way keeps the bounds of `Event.Allowed`.
-/
import NativeDNS.Config.XmlCursor
import NativeDNS.Config.XmlWritten

namespace NativeDNS

open ByteText (text byte)
open CheckedResult
open GuardedAccess
open Scanner
open Throwing

namespace XmlCursor

/-! ### The bounds -/

/-- What may be recorded on a text of `size` bytes. -/
def Event.Allowed (size : Nat) : Event → Prop
  | .moved pos => pos ≤ size
  | .iteration before after => before < after
  | .recursion before after => before < after
  | .returned before after => before < after
  | .entered depth => depth ≤ 17
  | .built => True

/-- A state of a run, whether it goes on or has raised. -/
structure Bounded (text_ : Bytes) (cursor : Cursor) : Prop where
  inside : cursor.pos ≤ text_.length
  allowed : ∀ event ∈ cursor.record, event.Allowed text_.length
  built : cursor.record.count .built ≤ 200000

/-- A state of a run that goes on in front of `rest`, with a count of the nodes
and at most `most` of them built. -/
structure Stands (text_ : Bytes) (cursor : Cursor) (rest : Bytes) (nodes most : Nat) :
    Prop extends Bounded text_ cursor where
  behind : text_.drop cursor.pos = rest
  nodes : cursor.nodes = nodes
  most : cursor.record.count .built ≤ most

section

variable {text_ rest left : Bytes} {cursor after : Cursor} {nodes most : Nat}

theorem Stands.length (stands : Stands text_ cursor rest nodes most) :
    cursor.pos + rest.length = text_.length := by
  have inside := stands.inside
  rw [← stands.behind, List.length_drop]
  omega

theorem Stands.pos_lt (stands : Stands text_ cursor rest nodes most)
    {others more : Nat} (further : Stands text_ after left others more)
    (shorter : left.length < rest.length) : cursor.pos < after.pos := by
  have before := stands.length
  have behind := further.length
  omega

theorem Stands.pos_le (stands : Stands text_ cursor rest nodes most)
    {others more : Nat} (further : Stands text_ after left others more)
    (shorter : left.length ≤ rest.length) : cursor.pos ≤ after.pos := by
  have before := stands.length
  have behind := further.length
  omega

theorem Stands.noted (stands : Stands text_ cursor rest nodes most) {event : Event}
    (allowed : event.Allowed text_.length) (other : event ≠ .built) :
    Stands text_ (cursor.noted event) rest nodes most := by
  have same : (cursor.noted event).record.count .built =
      cursor.record.count .built :=
    List.count_cons_of_ne other
  exact
    { inside := stands.inside
      allowed := List.forall_mem_cons.mpr ⟨allowed, stands.allowed⟩
      built := same ▸ stands.built
      behind := stands.behind
      nodes := stands.nodes
      most := same ▸ stands.most }

theorem Stands.moved (stands : Stands text_ cursor rest nodes most) {count pos : Nat}
    (here : cursor.pos + count = pos) (fits : count ≤ rest.length) :
    Stands text_ (cursor.moved pos) (rest.drop count) nodes most := by
  subst here
  have within : cursor.pos + count ≤ text_.length := by
    have length := stands.length
    omega
  have same : (cursor.moved (cursor.pos + count)).record.count .built =
      cursor.record.count .built :=
    List.count_cons_of_ne (by intro different; cases different)
  exact
    { inside := within
      allowed := List.forall_mem_cons.mpr ⟨within, stands.allowed⟩
      built := same ▸ stands.built
      behind := by
        rw [← stands.behind, List.drop_drop]
        rfl
      nodes := stands.nodes
      most := same ▸ stands.most }

theorem Stands.read {c : UInt8} (stands : Stands text_ cursor (c :: rest) nodes most) :
    Stands text_ (cursor.moved (cursor.pos + 1)) rest nodes most :=
  stands.moved rfl (Nat.succ_le_succ (Nat.zero_le rest.length))

theorem Stands.read_head {c : UInt8} (stands : Stands text_ cursor rest nodes most)
    (first : rest.head? = some c) :
    Stands text_ (cursor.moved (cursor.pos + 1)) rest.tail nodes most := by
  rw [← List.cons_head?_tail first] at stands
  exact stands.read

theorem Stands.counted (stands : Stands text_ cursor rest nodes most) :
    Stands text_ cursor.counted rest (nodes + 1) most :=
  { inside := stands.inside
    allowed := stands.allowed
    built := stands.built
    behind := stands.behind
    nodes := congrArg (· + 1) stands.nodes
    most := stands.most }

theorem Stands.build (stands : Stands text_ cursor rest (nodes + 1) nodes)
    (few : nodes + 1 ≤ 200000) :
    Stands text_ (cursor.noted .built) rest (nodes + 1) (nodes + 1) := by
  have one : (cursor.noted .built).record.count .built =
      cursor.record.count .built + 1 :=
    List.count_cons_self
  have before := stands.most
  exact
    { inside := stands.inside
      allowed := List.forall_mem_cons.mpr ⟨trivial, stands.allowed⟩
      built := by omega
      behind := stands.behind
      nodes := stands.nodes
      most := by omega }

end

/-! ### Steps whose outcome is known -/

section

variable {text_ rest : Bytes} {cursor : Cursor} {nodes most : Nat}

theorem bind_run {α β : Type} {program : Scan α} {next : α → Scan β} {value : α}
    {middle : Cursor} (ran : program cursor = .ok value middle) :
    (program >>= next) cursor = next value middle := by
  change EStateM.bind program next cursor = _
  rw [EStateM.bind, ran]

theorem minus_run {greater less : Nat} (fits : less ≤ greater) :
    (attempt (minus greater less) : Scan Nat) cursor = .ok (greater - less) cursor := by
  rw [minus_of_le fits]
  rfl

theorem substr_run {start count : Nat} (inside : start ≤ text_.length) :
    substr text_ start count cursor = .ok ((text_.drop start).take count) cursor := by
  unfold substr
  rw [if_neg (Nat.not_lt.mpr inside)]
  rfl

theorem readAt_run {c : UInt8} (stands : Stands text_ cursor (c :: rest) nodes most) :
    (attempt (readAt text_ cursor.pos) : Scan UInt8) cursor = .ok c cursor := by
  have here : text_[cursor.pos]? = some c := by
    rw [← List.head?_drop, stands.behind]
    rfl
  unfold readAt
  rw [here]
  rfl

theorem position_run (cursor : Cursor) : position cursor = .ok cursor.pos cursor :=
  rfl

theorem note_run (event : Event) (cursor : Cursor) :
    note event cursor = .ok () (cursor.noted event) :=
  rfl

theorem moveTo_run (pos : Nat) (cursor : Cursor) :
    moveTo pos cursor = .ok () (cursor.moved pos) :=
  rfl

theorem countNode_run (cursor : Cursor) :
    countNode cursor = .ok cursor.counted.nodes cursor.counted :=
  rfl

theorem advance_run (count : Nat) :
    advance count cursor = .ok () (cursor.moved (cursor.pos + count)) :=
  rfl

theorem current_run (stands : Stands text_ cursor rest nodes most) :
    current text_ cursor = .ok rest.head? cursor := by
  have head : text_[cursor.pos]? = rest.head? := by
    rw [← stands.behind, List.head?_drop]
  have read : current text_ cursor =
      (if cursor.pos < text_.length then
        (some <$> attempt (readAt text_ cursor.pos) : Scan (Option UInt8))
      else pure none) cursor :=
    rfl
  rw [read, ← head]
  by_cases more : cursor.pos < text_.length
  · rw [if_pos more, List.getElem?_eq_getElem more]
    unfold readAt
    rw [List.getElem?_eq_getElem more]
    rfl
  · rw [if_neg more, List.getElem?_eq_none (Nat.le_of_not_lt more)]
    rfl

theorem starts_run (stands : Stands text_ cursor rest nodes most) (token : Bytes) :
    starts text_ token cursor = .ok (XmlParser.starts token rest) cursor := by
  have inside : ¬ cursor.pos > text_.length := Nat.not_lt.mpr stands.inside
  have compared : (rest.take token.length == token) =
      XmlParser.starts token rest := by
    unfold XmlParser.starts
    rw [Bool.eq_iff_iff, beq_iff_eq, List.isPrefixOf_iff_prefix,
      List.prefix_iff_eq_take]
    exact eq_comm
  have read : starts text_ token cursor =
      (if cursor.pos > text_.length then (throw .outOfRange : Scan Bool)
      else pure ((text_.drop cursor.pos).take token.length == token)) cursor :=
    rfl
  rw [read, if_neg inside, stands.behind, compared]
  rfl

end

/-! ### Following a scanner -/

def Raises {β : Type} (text_ : Bytes) (plain : Checked β) (fault : Fault Error)
    (cursor : Cursor) : Prop :=
  Bounded text_ cursor ∧ ∃ error, plain = .error error ∧ fault = .raised error

theorem Raises.bind {β γ : Type} {text_ : Bytes} {plain : Checked β} {fault : Fault Error}
    {cursor : Cursor} (others : β → Checked γ) (raised : Raises text_ plain fault cursor) :
    Raises text_ (plain >>= others) fault cursor := by
  obtain ⟨bounded, error, failed, same⟩ := raised
  exact ⟨bounded, error, by rw [failed, error_bind], same⟩

/-- A run ends beside a computation: it returns with `holds`, or raises what the
computation raises. -/
def Follows {α β : Type} (text_ : Bytes) (program : Scan α) (cursor : Cursor)
    (plain : Checked β) (holds : Checked β → α → Cursor → Prop) : Prop :=
  Ends program cursor (holds plain) (Raises text_ plain)

/-- The outcome of a run beside a scanner that shows `plain`. -/
def Arrives {α : Type} (text_ : Bytes) (nodes most : Nat) (plain : Checked (α × Bytes))
    (value : α) (cursor : Cursor) : Prop :=
  ∃ rest, plain = .ok (value, rest) ∧ Stands text_ cursor rest nodes most

namespace Follows

variable {α β γ δ : Type} {text_ : Bytes} {cursor : Cursor} {plain : Checked β}
  {holds : Checked β → α → Cursor → Prop}

theorem known {program : Scan γ} {next : γ → Scan α} {value : γ} {middle : Cursor}
    (ran : program cursor = .ok value middle)
    (rest : Follows text_ (next value) middle plain holds) :
    Follows text_ (program >>= next) cursor plain holds :=
  Ends.known ran rest

theorem bind {program : Scan γ} {next : γ → Scan α} {first : Checked δ}
    {others : δ → Checked β} {between : Checked δ → γ → Cursor → Prop}
    (front : Follows text_ program cursor first between)
    (back : ∀ value middle, between first value middle →
      Follows text_ (next value) middle (first >>= others) holds) :
    Follows text_ (program >>= next) cursor (first >>= others) holds :=
  Ends.bind_failing front (fun _ _ raised => raised.bind others) back

theorem fails {program : Scan γ} {next : γ → Scan α}
    (front : Follows text_ program cursor plain fun _ _ _ => False) :
    Follows text_ (program >>= next) cursor plain holds :=
  Ends.bind_failing front (fun _ _ raised => raised) fun _ _ never => never.elim

theorem scan {program : Scan γ} {next : γ → Scan α} {first : Checked (γ × Bytes)}
    {others : γ × Bytes → Checked β} {nodes most : Nat}
    (front : Follows text_ program cursor first (Arrives text_ nodes most))
    (back : ∀ value rest middle, first = .ok (value, rest) →
      Stands text_ middle rest nodes most →
      Follows text_ (next value) middle (others (value, rest)) holds) :
    Follows text_ (program >>= next) cursor (first >>= others) holds := by
  refine bind front ?_
  rintro value middle ⟨rest, shown, stands⟩
  rw [shown, ok_bind]
  exact back value rest middle shown stands

theorem raise {error : Error} (bounded : Bounded text_ cursor) :
    Follows text_ (throw (.raised error) : Scan α) cursor (.error error) holds :=
  ⟨bounded, error, rfl, rfl⟩

theorem rejected {condition : Prop} [Decidable condition] {error : Error}
    {next : Unit → Scan α} (bounded : Bounded text_ cursor) (held : condition) :
    Follows text_ (XmlCursor.reject condition error >>= next) cursor (.error error)
      holds := by
  refine Ends.checking ?_ ?_
  · intro fault raised
    obtain ⟨_, same⟩ := rejectIf_eq_error.mp raised
    exact ⟨bounded, error, rfl, same.symm⟩
  · intro _ passed
    exact absurd held (rejectIf_eq_ok.mp passed)

theorem passed {condition : Prop} [Decidable condition] {error : Error}
    {next : Unit → Scan α} (accepted : ¬ condition)
    (rest : Follows text_ (next ()) cursor plain holds) :
    Follows text_ (XmlCursor.reject condition error >>= next) cursor plain holds := by
  have ran : XmlCursor.reject condition error cursor = .ok () cursor := by
    unfold XmlCursor.reject
    rw [rejectIf_of_not accepted]
    rfl
  exact known ran rest

theorem reject {condition other : Prop} [Decidable condition] [Decidable other]
    {error : Error} {next : Unit → Scan α} {others : Checked β}
    (bounded : Bounded text_ cursor) (same : condition ↔ other)
    (rest : ¬ other → Follows text_ (next ()) cursor others holds) :
    Follows text_ (XmlCursor.reject condition error >>= next) cursor
      (rejectIf other error >>= fun _ => others) holds := by
  by_cases held : other
  · rw [rejectIf_of held, error_bind]
    exact rejected bounded (same.mpr held)
  · rw [rejectIf_of_not held, ok_bind]
    exact passed (fun also => held (same.mp also)) (rest held)

theorem computed {computation : Checked γ} {next : γ → Scan α} {others : γ → Checked β}
    (bounded : Bounded text_ cursor)
    (rest : ∀ value, Follows text_ (next value) cursor (others value) holds) :
    Follows text_ (attempt (raising computation) >>= next) cursor
      (computation >>= others) holds := by
  cases computation with
  | error error =>
      exact ⟨bounded, error, rfl, rfl⟩
  | ok value =>
      exact rest value

theorem through {program : Scan α} {first : Checked δ} {others : δ → Checked β}
    {between : Checked δ → α → Cursor → Prop}
    (front : Follows text_ program cursor first between)
    (onward : ∀ value after, between first value after →
      holds (first >>= others) value after) :
    Follows text_ program cursor (first >>= others) holds :=
  Ends.weaken front onward fun _ _ raised => raised.bind others

/-- One more iteration of a loop: it leaves the loop, or has moved the cursor and
the rest of the loop follows. -/
theorem again {σ : Type} {pass : σ → Scan (σ ⊕ α)} {left : Nat} {state : σ}
    (iteration : Follows text_ (pass state) cursor plain fun plain went after =>
      match went with
      | .inl next => cursor.pos < after.pos ∧
          Follows text_ (loop pass left next)
            (after.noted (.iteration cursor.pos after.pos)) plain holds
      | .inr result => holds plain result after) :
    Follows text_ (loop pass (left + 1) state) cursor plain holds := by
  unfold loop
  refine known (position_run cursor) ?_
  refine Ends.bind iteration ?_
  intro went after held
  cases went with
  | inl next =>
      exact held.2
  | inr result =>
      exact held

end Follows

theorem Follows.exists {α β : Type} {text_ : Bytes} {cursor : Cursor}
    {program : Scan α} {value : β} {holds : Checked β → α → Cursor → Prop}
    (follows : Follows text_ program cursor (.ok value) holds) :
    ∃ result after, program cursor = .ok result after ∧
      holds (.ok value) result after := by
  refine Returns.exists (Ends.weaken follows (fun _ _ held => held) ?_)
  rintro fault after ⟨_, error, raised, _⟩
  cases raised

/-! ### Searching the text -/

theorem occurrence_le {token input : Bytes} {index : Nat}
    (found : occurrence token input = some index) :
    index + token.length ≤ input.length := by
  induction input generalizing index with
  | nil =>
      unfold occurrence at found
      split at found
      · rename_i empty
        cases found
        rw [empty]
        exact Nat.le_refl 0
      · cases found
  | cons c rest ih =>
      unfold occurrence at found
      split at found
      · rename_i here
        cases found
        rw [Nat.zero_add]
        exact (List.isPrefixOf_iff_prefix.mp here).length_le
      · obtain ⟨later, foundLater, same⟩ := Option.map_eq_some_iff.mp found
        have within := ih foundLater
        rw [List.length_cons]
        omega

theorem past_skipUntil (token input : Bytes) :
    XmlParser.past (XmlParser.skipUntil token input) =
      match occurrence token input with
      | none => .error (.of "XML" "Unterminated XML section")
      | some index => .ok ((), input.drop (index + token.length)) := by
  induction input with
  | nil =>
      rw [XmlParser.past_skipUntil_nil]
      cases token with
      | nil =>
          rfl
      | cons first others =>
          rfl
  | cons c rest ih =>
      rw [XmlParser.past_skipUntil_cons]
      unfold occurrence XmlParser.starts
      by_cases here : token.isPrefixOf (c :: rest) = true
      · rw [if_pos here, if_pos here]
        simp only [Nat.zero_add]
      · rw [if_neg here, if_neg here, ih]
        cases occurrence token rest with
        | none =>
            rfl
        | some index =>
            simp only [Option.map_some, Nat.add_right_comm, List.drop_succ_cons]

theorem seen_before (separator : UInt8) (missing : Error) (input : Bytes) :
    seen (XmlParser.before separator missing input) =
      match occurrence [separator] input with
      | none => .error missing
      | some index => .ok (input.take index, input.drop (index + 1)) := by
  induction input with
  | nil =>
      rfl
  | cons c rest ih =>
      rw [XmlParser.seen_before_cons]
      unfold occurrence
      have first : [separator].isPrefixOf (c :: rest) = (separator == c) := by
        simp only [List.isPrefixOf, Bool.and_true]
      rw [first]
      by_cases here : c = separator
      · rw [if_pos here, if_pos (beq_iff_eq.mpr here.symm)]
        rfl
      · have other : ¬ (separator == c) = true := fun same =>
          here (beq_iff_eq.mp same).symm
        rw [if_neg here, if_neg other, ih]
        cases occurrence [separator] rest with
        | none =>
            rfl
        | some index =>
            rfl

/-! ### The scanners -/

section

variable {text_ rest : Bytes} {cursor : Cursor} {nodes most : Nat}

theorem Stands.within_budget (stands : Stands text_ cursor rest nodes most) :
    rest.length < budget text_ := by
  have length := stands.length
  unfold budget
  omega

theorem Stands.bounded (stands : Stands text_ cursor rest nodes most) :
    Bounded text_ cursor :=
  stands.toBounded

theorem Stands.iterated {left : Bytes} {after : Cursor}
    (stands : Stands text_ cursor rest nodes most)
    {others more : Nat} (further : Stands text_ after left others more)
    (shorter : left.length < rest.length) :
    cursor.pos < after.pos ∧
      Stands text_ (after.noted (.iteration cursor.pos after.pos)) left others more := by
  have forward := stands.pos_lt further shorter
  exact ⟨forward, further.noted forward (by intro same; cases same)⟩

theorem skipLoop_follows (holds : UInt8 → Bool) {left : Nat}
    (stands : Stands text_ cursor rest nodes most) (enough : rest.length < left) :
    Follows text_ (loop (skipPass text_ holds) left ()) cursor
      (.ok ((), rest.dropWhile holds)) (Arrives text_ nodes most) := by
  induction left generalizing cursor rest with
  | zero =>
      exact absurd enough (Nat.not_lt_zero _)
  | succ left ih =>
      refine Follows.again (Follows.known (current_run stands) ?_)
      cases rest with
      | nil =>
          exact ⟨[], rfl, stands⟩
      | cons c rest =>
          by_cases more : holds c = true
          · have moved := stands.read
            have next := stands.iterated moved (Nat.lt_succ_self rest.length)
            simp only [List.head?_cons, more, if_true, List.dropWhile_cons]
            refine Follows.known (advance_run 1) ?_
            exact ⟨next.1, ih next.2 (Nat.lt_of_succ_lt_succ enough)⟩
          · simp only [List.head?_cons, more, List.dropWhile_cons]
            exact ⟨c :: rest, rfl, stands⟩

theorem skipWhile_run (stands : Stands text_ cursor rest nodes most)
    (holds : UInt8 → Bool) :
    ∃ after, skipWhile text_ holds cursor = .ok () after ∧
      Stands text_ after (rest.dropWhile holds) nodes most := by
  obtain ⟨_, after, ran, _, same, behind⟩ :=
    (skipLoop_follows holds stands stands.within_budget).exists
  cases same
  exact ⟨after, ran, behind⟩

theorem skipWs_run (stands : Stands text_ cursor rest nodes most) :
    ∃ after, skipWs text_ cursor = .ok () after ∧
      Stands text_ after (XmlParser.skipWs rest) nodes most :=
  skipWhile_run stands XmlParser.isSpace

theorem skipUntil_follows (stands : Stands text_ cursor rest nodes most)
    (token : Bytes) :
    Follows text_ (skipUntil text_ token) cursor
      (XmlParser.past (XmlParser.skipUntil token rest)) (Arrives text_ nodes most) := by
  unfold skipUntil
  refine Follows.known (position_run cursor) ?_
  rw [past_skipUntil]
  unfold find
  rw [stands.behind]
  cases found : occurrence token rest with
  | none =>
      exact Follows.raise stands.bounded
  | some index =>
      have moved := stands.moved (Nat.add_assoc cursor.pos index token.length).symm
        (occurrence_le found)
      exact ⟨_, rfl, moved⟩

theorem section_follows {α β : Type} {opening closing : Bytes} {count : Nat}
    {next : Unit → Scan α} {others : Unit × Bytes → Checked β}
    {holds : Checked β → α → Cursor → Prop}
    (stands : Stands text_ cursor rest nodes most)
    (opens : XmlParser.starts opening rest = true) (length : opening.length = count)
    (back : ∀ left after, left.length + count ≤ rest.length →
      Stands text_ after left nodes most →
      Follows text_ (next ()) after (others ((), left)) holds) :
    Follows text_ (advance count >>= fun _ => skipUntil text_ closing >>= next) cursor
      (XmlParser.past (XmlParser.skipUntil closing (rest.drop count)) >>= others)
      holds := by
  have fits : count ≤ rest.length := by
    rw [← length]
    exact (List.isPrefixOf_iff_prefix.mp opens).length_le
  refine Follows.known (advance_run count) ?_
  refine Follows.scan (skipUntil_follows (stands.moved rfl fits) closing) ?_
  intro _ left after shown behind
  refine back left after ?_ behind
  have shorter := (XmlParser.past_left shown).length_le
  rw [List.length_drop] at shorter
  omega

theorem declaration_run (stands : Stands text_ cursor rest nodes most) :
    (starts text_ (text "<!DOCTYPE") <||> starts text_ (text "<!ENTITY")) cursor =
      .ok (XmlParser.starts (text "<!DOCTYPE") rest ||
        XmlParser.starts (text "<!ENTITY") rest) cursor := by
  unfold orM
  rw [bind_run (starts_run stands _)]
  cases XmlParser.starts (text "<!DOCTYPE") rest with
  | true =>
      rfl
  | false =>
      exact starts_run stands _

theorem skipMiscLoop_follows {left : Nat}
    (stands : Stands text_ cursor rest nodes most) (enough : rest.length < left) :
    Follows text_ (loop (skipMiscPass text_) left ()) cursor
      (XmlParser.past (XmlParser.skipMisc rest)) (Arrives text_ nodes most) := by
  induction left generalizing cursor rest with
  | zero =>
      exact absurd enough (Nat.not_lt_zero _)
  | succ left ih =>
      obtain ⟨here, blanks, standsHere⟩ := skipWs_run stands
      have shorter := (XmlParser.skipWs_suffix rest).length_le
      refine Follows.again (Follows.known blanks ?_)
      rw [XmlParser.past_skipMisc]
      refine Follows.known (starts_run standsHere _) ?_
      by_cases instruction : XmlParser.starts (text "<?") (XmlParser.skipWs rest) = true
      · rw [if_pos instruction, if_pos instruction]
        refine section_follows standsHere instruction rfl ?_
        intro further after less behind
        have fewer : further.length < left := by omega
        have next := stands.iterated behind (by omega)
        exact ⟨next.1, ih next.2 fewer⟩
      · rw [if_neg instruction, if_neg instruction]
        refine Follows.known (starts_run standsHere _) ?_
        by_cases comment : XmlParser.starts (text "<!--") (XmlParser.skipWs rest) = true
        · rw [if_pos comment, if_pos comment]
          refine section_follows standsHere comment rfl ?_
          intro further after less behind
          have fewer : further.length < left := by omega
          have next := stands.iterated behind (by omega)
          exact ⟨next.1, ih next.2 fewer⟩
        · rw [if_neg comment, if_neg comment]
          refine Follows.known (declaration_run standsHere) ?_
          by_cases prohibited :
              XmlParser.starts (text "<!DOCTYPE") (XmlParser.skipWs rest) = true ∨
                XmlParser.starts (text "<!ENTITY") (XmlParser.skipWs rest) = true
          · rw [if_pos (Bool.or_eq_true_iff.mpr prohibited), rejectIf_of prohibited]
            exact Follows.raise standsHere.bounded
          · rw [if_neg fun found => prohibited (Bool.or_eq_true_iff.mp found),
              rejectIf_of_not prohibited]
            exact ⟨_, rfl, standsHere⟩

theorem name_follows (stands : Stands text_ cursor rest nodes most) :
    Follows text_ (name text_) cursor (seen (XmlParser.name rest))
      (Arrives text_ nodes most) := by
  unfold name
  refine Follows.known (position_run cursor) ?_
  obtain ⟨after, ran, behind⟩ := skipWhile_run stands XmlParser.isNameCharacter
  refine Follows.known ran ?_
  refine Follows.known (position_run after) ?_
  have parts := congrArg List.length
    (@List.takeWhile_append_dropWhile _ XmlParser.isNameCharacter rest)
  rw [List.length_append] at parts
  have before := stands.length
  have later := behind.length
  have read : after.pos = cursor.pos + (rest.takeWhile XmlParser.isNameCharacter).length := by
    omega
  rw [XmlParser.seen_name]
  refine Follows.reject behind.bounded ?_ ?_
  · rw [← List.length_eq_zero_iff]
    omega
  · intro _
    refine Follows.known (minus_run (by omega)) ?_
    unfold Follows Ends
    rw [substr_run stands.inside, stands.behind, read, Nat.add_sub_cancel_left]
    refine ⟨rest.dropWhile XmlParser.isNameCharacter, ?_, behind⟩
    rw [← List.prefix_iff_eq_take.mp (List.takeWhile_prefix _)]

theorem skipMisc_follows (stands : Stands text_ cursor rest nodes most) :
    Follows text_ (skipMisc text_) cursor (XmlParser.past (XmlParser.skipMisc rest))
      (Arrives text_ nodes most) :=
  skipMiscLoop_follows stands stands.within_budget

/-- The body of a value, collected behind what the loop has read before, up to its
closing quote. -/
def Collects (text_ : Bytes) (nodes most : Nat) (quote : UInt8) (out : Bytes)
    (plain : Checked (Bytes × Bytes)) (value : Bytes) (cursor : Cursor) : Prop :=
  (∃ body rest, value = out ++ body ∧ plain = .ok (body, rest) ∧
      Stands text_ cursor (quote :: rest) nodes most) ∨
    plain = .error (.of "XML" "Unterminated attribute") ∧
      Stands text_ cursor [] nodes most

theorem Collects.behind {quote : UInt8} {out front value : Bytes}
    {plain : Checked (Bytes × Bytes)} {after : Cursor}
    (collects : Collects text_ nodes most quote (out ++ front) plain value after) :
    Collects text_ nodes most quote out
      (plain >>= fun others => .ok (front ++ others.1, others.2)) value after := by
  rcases collects with ⟨body, rest, rfl, shown, stands⟩ | ⟨missing, stands⟩
  · refine .inl ⟨front ++ body, rest, List.append_assoc _ _ _, ?_, stands⟩
    rw [shown, ok_bind]
  · refine .inr ⟨?_, stands⟩
    rw [missing, error_bind]

theorem quotedLoop_follows {quote : UInt8} {left : Nat} {out : Bytes}
    (stands : Stands text_ cursor rest nodes most) (enough : rest.length < left) :
    Follows text_ (loop (quotedPass text_ quote) left out) cursor
      (seen (XmlParser.quotedBody quote rest))
      (Collects text_ nodes most quote out) := by
  induction left generalizing cursor rest out with
  | zero =>
      exact absurd enough (Nat.not_lt_zero _)
  | succ left ih =>
      refine Follows.again (Follows.known (current_run stands) ?_)
      cases rest with
      | nil =>
          refine .inr ⟨?_, stands⟩
          rw [XmlParser.quotedBody]
          rfl
      | cons c rest =>
          rw [XmlParser.seen_quotedBody_cons]
          simp only [List.head?_cons]
          have fewer : rest.length < left := Nat.lt_of_succ_lt_succ enough
          by_cases ends : c = quote
          · rw [if_pos ends, if_pos ends]
            subst ends
            exact .inl ⟨[], rest, (List.append_nil out).symm, rfl, stands⟩
          · rw [if_neg ends, if_neg ends]
            by_cases ampersand : c = byte '&'
            · rw [if_pos ampersand, if_pos ampersand, seen_before]
              have behind : text_.drop (cursor.pos + 1) = rest := by
                rw [← List.drop_drop, stands.behind]
                rfl
              refine Follows.known (position_run cursor) ?_
              unfold find
              rw [behind]
              cases found : occurrence [byte ';'] rest with
              | none =>
                  exact Follows.raise stands.bounded
              | some index =>
                  have within := occurrence_le found
                  have length := stands.length
                  simp only [List.length_cons, List.length_nil] at within length
                  simp only [Option.map_some, ok_bind]
                  refine Follows.known (minus_run (by omega)) ?_
                  refine Follows.known (minus_run (by omega)) ?_
                  refine Follows.known (substr_run (by omega)) ?_
                  have count : cursor.pos + 1 + index - cursor.pos - 1 = index := by
                    omega
                  rw [behind, count]
                  refine Follows.computed stands.bounded ?_
                  intro decoded
                  have forward :
                      cursor.pos + (index + 2) = cursor.pos + 1 + index + 1 := by
                    omega
                  have moved : Stands text_ (cursor.moved (cursor.pos + 1 + index + 1))
                      (rest.drop (index + 1)) nodes most :=
                    stands.moved forward (Nat.succ_le_succ within)
                  have shorter : (rest.drop (index + 1)).length ≤ rest.length :=
                    (List.drop_suffix _ _).length_le
                  have next := stands.iterated moved (Nat.lt_succ_of_le shorter)
                  refine ⟨next.1, Follows.through (ih next.2 (by omega)) ?_⟩
                  intro value after collects
                  exact collects.behind
            · rw [if_neg ampersand, if_neg ampersand]
              have moved := stands.read
              refine Follows.known (advance_run 1) ?_
              refine Follows.reject moved.bounded Iff.rfl ?_
              intro _
              have next := stands.iterated moved (Nat.lt_succ_self rest.length)
              have onward : Follows text_ (loop (quotedPass text_ quote) left (out ++ [c])) _
                  (seen (XmlParser.quotedBody quote rest))
                  (Collects text_ nodes most quote (out ++ [c])) :=
                ih next.2 fewer
              refine ⟨next.1, Follows.through onward ?_⟩
              intro value after collects
              exact collects.behind

theorem quoted_follows (stands : Stands text_ cursor rest nodes most) :
    Follows text_ (quoted text_) cursor (seen (XmlParser.quoted rest))
      (Arrives text_ nodes most) := by
  unfold quoted
  refine Follows.known (current_run stands) ?_
  cases rest with
  | nil =>
      exact Follows.raise stands.bounded
  | cons quote rest =>
      rw [XmlParser.seen_quoted_cons]
      refine Follows.reject stands.bounded Iff.rfl ?_
      intro _
      have moved := stands.read
      refine Follows.known (advance_run 1) ?_
      refine Ends.bind_failing (quotedLoop_follows moved moved.within_budget)
        (fun _ _ raised => raised) ?_
      intro value after collects
      refine Follows.known (position_run after) ?_
      rcases collects with ⟨body, left, rfl, shown, behind⟩ | ⟨missing, behind⟩
      · have length := behind.length
        rw [List.length_cons] at length
        refine Follows.passed (by omega) ?_
        refine Follows.known (advance_run 1) ?_
        exact ⟨left, shown, behind.read⟩
      · have length := behind.length
        rw [List.length_nil] at length
        rw [missing]
        exact Follows.rejected behind.bounded (by omega)

/-! ### Elements -/

theorem attributesLoop_follows {left : Nat} {attrs : Metadata}
    (stands : Stands text_ cursor rest nodes most) (enough : rest.length < left) :
    Follows text_ (loop (attributesPass text_) left attrs) cursor
      (seen (XmlParser.attributes attrs rest)) (Arrives text_ nodes most) := by
  induction left generalizing cursor rest attrs with
  | zero =>
      exact absurd enough (Nat.not_lt_zero _)
  | succ left ih =>
      obtain ⟨here, blanks, standsHere⟩ := skipWs_run stands
      have shorter := (XmlParser.skipWs_suffix rest).length_le
      refine Follows.again (Follows.known blanks ?_)
      rw [XmlParser.seen_attributes]
      refine Follows.known (starts_run standsHere _) ?_
      by_cases closes : XmlParser.starts (text "/>") (XmlParser.skipWs rest) = true
      · rw [if_pos closes, if_pos closes]
        have fits := (List.isPrefixOf_iff_prefix.mp closes).length_le
        refine Follows.known (advance_run 2) ?_
        exact ⟨_, rfl, standsHere.moved rfl fits⟩
      · rw [if_neg closes, if_neg closes]
        refine Follows.known (current_run standsHere) ?_
        by_cases opens : (XmlParser.skipWs rest).head? = some (byte '>')
        · rw [if_pos opens, if_pos opens]
          refine Follows.known (advance_run 1) ?_
          exact ⟨_, rfl, standsHere.read_head opens⟩
        · rw [if_neg opens, if_neg opens]
          refine Follows.scan (name_follows standsHere) ?_
          intro key behindKey after named standsKey
          obtain ⟨gap, blanksKey, standsGap⟩ := skipWs_run standsKey
          refine Follows.known blanksKey ?_
          refine Follows.known (current_run standsGap) ?_
          refine Follows.reject standsGap.bounded Iff.rfl ?_
          intro equals
          have standsSign := standsGap.read_head (Decidable.not_not.mp equals)
          refine Follows.known (advance_run 1) ?_
          obtain ⟨front, blanksSign, standsFront⟩ := skipWs_run standsSign
          refine Follows.known blanksSign ?_
          refine Follows.scan (quoted_follows standsFront) ?_
          intro value behindValue last valued standsValue
          have fewer : behindValue.length < rest.length := by
            have keyShorter := (seen_left named).2
            have gapShorter := (XmlParser.skipWs_suffix behindKey).length_le
            have signShorter := (List.tail_suffix (XmlParser.skipWs behindKey)).length_le
            have frontShorter :=
              (XmlParser.skipWs_suffix (XmlParser.skipWs behindKey).tail).length_le
            have valueShorter : behindValue.length <
                (XmlParser.skipWs (XmlParser.skipWs behindKey).tail).length :=
              (seen_left valued).2
            omega
          dsimp only
          cases placed : attrs.emplace key value with
          | none =>
              exact Follows.raise standsValue.bounded
          | some added =>
              have next := stands.iterated standsValue fewer
              exact ⟨next.1, ih next.2 (Nat.lt_of_lt_of_le fewer (Nat.le_of_lt_succ enough))⟩

/-- The outcome of a run beside the parser of an element. -/
def Built (text_ : Bytes) (plain : Checked ((Node × Nat) × Bytes)) (node : Node)
    (cursor : Cursor) : Prop :=
  ∃ nodes rest, plain = .ok ((node, nodes), rest) ∧
    Stands text_ cursor rest nodes nodes

/-- The children of an element, behind those the loop has built before. -/
def Gathers (text_ : Bytes) (before : List Node)
    (plain : Checked ((List Node × Nat) × Bytes)) (children : List Node)
    (cursor : Cursor) : Prop :=
  ∃ others nodes rest, children = before ++ others ∧
    plain = .ok ((others, nodes), rest) ∧ Stands text_ cursor rest nodes nodes

/-- Text between elements is no blank when blanks have been skipped, so its loop
ends in its first iteration. -/
theorem skipText_follows {β : Type} (stands : Stands text_ cursor rest nodes most)
    (noElement : rest.head? ≠ some (byte '<'))
    (noBlank : ∀ c, rest.head? = some c → XmlParser.isSpace c = false) :
    Follows text_ (skipText text_) cursor
      (.error (.of "XML"
        (if rest = [] then "Unterminated element" else "Unexpected text content")) :
          Checked β)
      fun _ _ _ => False := by
  have length := stands.length
  unfold skipText
  refine Follows.known (position_run cursor) ?_
  dsimp only
  unfold find
  rw [stands.behind]
  cases rest with
  | nil =>
      have stop : ((occurrence [byte '<'] []).map (cursor.pos + ·)).getD text_.length =
          cursor.pos :=
        length.symm
      have ran : loop (blankPass text_ cursor.pos) (budget text_) cursor.pos cursor =
          .ok () cursor := by
        have first : blankPass text_ cursor.pos cursor.pos cursor =
            .ok (.inr ()) cursor := by
          unfold blankPass
          rw [if_neg (Nat.lt_irrefl _)]
          rfl
        unfold budget loop
        rw [bind_run (position_run cursor), bind_run first]
        rfl
      rw [stop]
      refine Follows.known ran ?_
      refine Follows.known (moveTo_run _ _) ?_
      have moved : Stands text_ (cursor.moved cursor.pos) [] nodes most :=
        stands.moved (Nat.add_zero cursor.pos) (Nat.zero_le _)
      refine Ends.attempted ?_ ?_
      · intro _ passed
        exact rejectIf_eq_ok.mp passed length
      · intro fault raised
        obtain ⟨_, same⟩ := rejectIf_eq_error.mp raised
        exact ⟨moved.bounded, _, rfl, same.symm⟩
  | cons c rest =>
      have other : ¬ [byte '<'].isPrefixOf (c :: rest) = true := by
        simpa [List.isPrefixOf] using Ne.symm noElement
      obtain ⟨stop, stop_eq, before⟩ : ∃ stop,
          ((occurrence [byte '<'] (c :: rest)).map (cursor.pos + ·)).getD text_.length =
            stop ∧ cursor.pos < stop := by
        refine ⟨_, rfl, ?_⟩
        unfold occurrence
        rw [if_neg other]
        cases occurrence [byte '<'] rest with
        | none =>
            rw [List.length_cons] at length
            exact Nat.lt_of_lt_of_le (Nat.lt_add_of_pos_right (Nat.succ_pos _)) length.le
        | some index =>
            exact Nat.lt_add_of_pos_right (Nat.succ_pos index)
      rw [stop_eq]
      refine Follows.fails (Follows.again ?_)
      unfold blankPass
      rw [if_pos before]
      refine Follows.known (readAt_run stands) ?_
      exact Follows.rejected stands.bounded (noBlank c rfl)

theorem childrenLoop_follows {element : Scan Node} {parent : Bytes}
    {entry depth left : Nat} {before : List Node}
    (child : ∀ {cursor rest nodes}, entry < cursor.pos →
      Stands text_ cursor rest nodes nodes →
      Follows text_ element cursor
        (seen (XmlParser.parseElement (depth + 1) nodes rest)) (Built text_))
    (entered : entry < cursor.pos) (stands : Stands text_ cursor rest nodes nodes)
    (enough : rest.length < left) :
    Follows text_ (loop (childrenPass text_ element parent) left before) cursor
      (seen (XmlParser.parseChildren depth nodes parent rest))
      (Gathers text_ before) := by
  induction left generalizing cursor rest nodes before with
  | zero =>
      exact absurd enough (Nat.not_lt_zero _)
  | succ left ih =>
      obtain ⟨here, blanks, standsHere⟩ := skipWs_run stands
      have shorter := (XmlParser.skipWs_suffix rest).length_le
      refine Follows.again (Follows.known blanks ?_)
      rw [XmlParser.seen_parseChildren]
      refine Follows.known (starts_run standsHere _) ?_
      by_cases closes : XmlParser.starts (text "</") (XmlParser.skipWs rest) = true
      · rw [if_pos closes, if_pos closes]
        have fits := (List.isPrefixOf_iff_prefix.mp closes).length_le
        refine Follows.known (advance_run 2) ?_
        refine Follows.scan (name_follows (standsHere.moved rfl fits)) ?_
        intro close behindName after named standsName
        obtain ⟨gap, blanksName, standsGap⟩ := skipWs_run standsName
        refine Follows.known blanksName ?_
        refine Follows.known (current_run standsGap) ?_
        refine Follows.reject standsGap.bounded Iff.rfl ?_
        intro ends
        have standsEnd := standsGap.read_head (Decidable.not_not.mp ends)
        refine Follows.known (advance_run 1) ?_
        refine Follows.reject standsEnd.bounded Iff.rfl ?_
        intro same
        exact ⟨[], nodes, _, (List.append_nil before).symm, rfl, standsEnd⟩
      · rw [if_neg closes, if_neg closes]
        refine Follows.known (starts_run standsHere _) ?_
        by_cases comment : XmlParser.starts (text "<!--") (XmlParser.skipWs rest) = true
        · rw [if_pos comment, if_pos comment]
          refine section_follows standsHere comment rfl ?_
          intro further after less behind
          have fewer : further.length < left := by omega
          have next := stands.iterated behind (by omega)
          exact ⟨next.1, ih (entered.trans next.1) next.2 fewer⟩
        · rw [if_neg comment, if_neg comment]
          refine Follows.known (starts_run standsHere _) ?_
          by_cases data :
              XmlParser.starts (text "<![CDATA[") (XmlParser.skipWs rest) = true
          · rw [if_pos data, if_pos data]
            exact Follows.raise standsHere.bounded
          · rw [if_neg data, if_neg data]
            refine Follows.known (current_run standsHere) ?_
            by_cases opens : (XmlParser.skipWs rest).head? = some (byte '<')
            · rw [if_pos opens, if_pos opens]
              have reached : entry < here.pos :=
                Nat.lt_of_lt_of_le entered (stands.pos_le standsHere shorter)
              refine Follows.bind (child reached standsHere) ?_
              rintro node after ⟨count, further, shown, behind⟩
              rw [shown, ok_bind]
              have fewer : further.length < (XmlParser.skipWs rest).length :=
                (seen_left shown).2
              have next := stands.iterated behind (by omega)
              have onward : further.length < left := by omega
              refine ⟨next.1, Follows.through (ih (entered.trans next.1) next.2 onward) ?_⟩
              rintro value last ⟨others, total, final, rfl, whole, stood⟩
              refine ⟨node :: others, total, final, ?_, ?_, stood⟩
              · exact List.append_assoc before [node] others
              · rw [whole, ok_bind]
            · rw [if_neg opens, if_neg opens]
              exact Follows.fails
                (skipText_follows standsHere opens fun _ => XmlParser.skipWs_head)

theorem recursively_follows {element : Scan Node} {entry depth : Nat}
    (child : ∀ {cursor}, Stands text_ cursor rest nodes nodes →
      Follows text_ element cursor (seen (XmlParser.parseElement depth nodes rest))
        (Built text_))
    (entered : entry < cursor.pos) (stands : Stands text_ cursor rest nodes nodes) :
    Follows text_ (recursively entry element) cursor
      (seen (XmlParser.parseElement depth nodes rest)) (Built text_) := by
  unfold recursively
  have called : Stands text_ (cursor.noted (.recursion entry cursor.pos)) rest nodes nodes :=
    stands.noted entered (by intro same; cases same)
  refine Follows.known (position_run cursor) ?_
  refine Follows.known (note_run _ _) ?_
  refine Ends.bind_failing (child called) (fun _ _ raised => raised) ?_
  rintro node after ⟨total, left, shown, behind⟩
  have forward := stands.pos_lt behind (seen_left shown).2
  refine Follows.known (position_run after) ?_
  refine Follows.known (note_run _ _) ?_
  exact ⟨total, left, shown, behind.noted forward (by intro same; cases same)⟩

/-- A call keeps beside the parser on the unread bytes when its depth is at most 17
and enough further calls may be nested in it. -/
theorem parseElement_follows :
    ∀ {calls depth nodes : Nat} {rest : Bytes} {cursor : Cursor},
      depth ≤ 17 → 18 ≤ calls + depth → Stands text_ cursor rest nodes nodes →
        Follows text_ (parseElement text_ calls depth) cursor
          (seen (XmlParser.parseElement depth nodes rest)) (Built text_)
  | 0, depth, _, _, _, shallow, enough, _ => by
      omega
  | calls + 1, depth, nodes, rest, cursor, shallow, enough, stands => by
      unfold parseElement
      rw [XmlParser.seen_parseElement]
      have entered : Stands text_ (cursor.noted (.entered depth)) rest nodes nodes :=
        stands.noted shallow (by intro same; cases same)
      refine Follows.known (position_run cursor) ?_
      refine Follows.known (note_run _ _) ?_
      refine Follows.reject entered.bounded Iff.rfl ?_
      intro depthFits
      have counted := entered.counted
      refine Follows.known (countNode_run _) ?_
      refine Follows.reject counted.bounded ?_ ?_
      · rw [counted.nodes]
      · intro few
        obtain ⟨here, blanks, standsHere⟩ := skipWs_run counted
        refine Follows.known blanks ?_
        refine Follows.known (current_run standsHere) ?_
        by_cases opens : (XmlParser.skipWs rest).head? = some (byte '<')
        · refine Follows.passed (not_not_intro opens) ?_
          refine Follows.known (starts_run standsHere _) ?_
          refine Follows.reject standsHere.bounded ?_ ?_
          · exact ⟨Or.inr, fun failed => failed.resolve_left (not_not_intro opens)⟩
          · intro _
            have standsSign := standsHere.read_head opens
            refine Follows.known (advance_run 1) ?_
            refine Follows.known (current_run standsSign) ?_
            refine Follows.reject standsSign.bounded Iff.rfl ?_
            intro _
            have built := standsSign.build (Nat.not_lt.mp few)
            refine Follows.known (note_run _ _) ?_
            refine Follows.scan (name_follows built) ?_
            intro called behindName after named standsName
            refine Follows.scan (attributesLoop_follows standsName standsName.within_budget) ?_
            rintro ⟨attrs, closed⟩ behindTag last tagged standsTag
            dsimp only
            by_cases closes : closed = true
            · rw [if_pos closes, if_pos closes]
              exact ⟨nodes + 1, behindTag, rfl, standsTag⟩
            · rw [if_neg closes, if_neg closes]
              have forward : cursor.pos < last.pos := by
                have hereShorter := (XmlParser.skipWs_suffix rest).length_le
                have signShorter := (List.tail_suffix (XmlParser.skipWs rest)).length_le
                have nameShorter := (seen_left named).2
                have tagShorter : behindTag.length < behindName.length :=
                  (seen_left tagged).2
                exact stands.pos_lt standsTag (by omega)
              have deeper : depth + 1 ≤ 17 := by omega
              have nested : 18 ≤ calls + (depth + 1) := by omega
              have children : Follows text_
                  (loop (childrenPass text_
                    (recursively cursor.pos (parseElement text_ calls (depth + 1)))
                    called) (budget text_) []) last
                  (seen (XmlParser.parseChildren depth (nodes + 1) called behindTag))
                  (Gathers text_ []) := by
                refine childrenLoop_follows ?_ forward standsTag standsTag.within_budget
                intro cursor rest nodes below standsChild
                exact recursively_follows (parseElement_follows deeper nested) below
                  standsChild
              refine Follows.bind children ?_
              rintro value final ⟨others, total, left, rfl, shown, stood⟩
              rw [shown, ok_bind]
              exact ⟨total, left, rfl, stood⟩
        · rw [rejectIf_of (.inl opens), error_bind]
          exact Follows.rejected standsHere.bounded opens

/-! ### Documents -/

theorem stands_first (text_ : Bytes) : Stands text_ {} text_ 0 0 :=
  { inside := Nat.zero_le _
    allowed := fun _ member => absurd member List.not_mem_nil
    built := Nat.zero_le _
    behind := rfl
    nodes := rfl
    most := Nat.le_refl 0 }

theorem skipMark_run (text_ : Bytes) :
    ∃ after, skipMark text_ {} = .ok () after ∧
      Stands text_ after (XmlParser.unmarked text_) 0 0 := by
  have first := stands_first text_
  unfold skipMark XmlParser.unmarked XmlParser.starts
  by_cases long : text_.length ≥ 3
  · match text_, first, long with
    | a :: b :: c :: rest, first, long =>
        have mark : [0xEF, 0xBB, 0xBF].isPrefixOf (a :: b :: c :: rest) = true ↔
            a = 0xEF ∧ b = 0xBB ∧ c = 0xBF := by
          simp only [List.isPrefixOf, Bool.and_true, Bool.and_eq_true, beq_iff_eq,
            @eq_comm _ _ a, @eq_comm _ _ b, @eq_comm _ _ c]
        have zeroth : (attempt (readAt (a :: b :: c :: rest) 0) : Scan UInt8) {} =
            .ok a {} :=
          rfl
        have next : (attempt (readAt (a :: b :: c :: rest) 1) : Scan UInt8) {} =
            .ok b {} :=
          rfl
        have last : (attempt (readAt (a :: b :: c :: rest) 2) : Scan UInt8) {} =
            .ok c {} :=
          rfl
        rw [if_pos long, bind_run zeroth, bind_run next, bind_run last]
        by_cases marked : a = 0xEF ∧ b = 0xBB ∧ c = 0xBF
        · rw [if_pos marked, if_pos (mark.mpr marked)]
          exact ⟨_, rfl, first.moved rfl long⟩
        · rw [if_neg marked, if_neg fun found => marked (mark.mp found)]
          exact ⟨_, rfl, first⟩
  · have unmarked : ¬ [0xEF, 0xBB, 0xBF].isPrefixOf text_ = true := fun found =>
      long (List.isPrefixOf_iff_prefix.mp found).length_le
    rw [if_neg long, if_neg unmarked]
    exact ⟨_, rfl, first⟩

theorem parse_follows (text_ : Bytes) :
    Follows text_ (parse text_) {} (XmlParser.parse text_)
      fun plain root after => plain = .ok root ∧ Bounded text_ after := by
  unfold parse
  rw [XmlParser.parse_seen]
  refine Follows.reject (stands_first text_).bounded Iff.rfl ?_
  intro _
  obtain ⟨start, marked, standsStart⟩ := skipMark_run text_
  refine Follows.known marked ?_
  refine Follows.scan (skipMisc_follows standsStart) ?_
  intro _ front before _ standsFront
  refine Follows.bind (parseElement_follows (Nat.zero_le 17) ?_ standsFront) ?_
  · unfold budget
    omega
  · rintro root after ⟨total, left, shown, behind⟩
    rw [shown, ok_bind]
    refine Follows.scan (skipMisc_follows behind) ?_
    intro _ back last _ standsBack
    obtain ⟨final, blanks, standsFinal⟩ := skipWs_run standsBack
    refine Follows.known blanks ?_
    refine Follows.known (position_run final) ?_
    refine Follows.reject standsFinal.bounded ?_ ?_
    · have length := standsFinal.length
      rw [← not_iff_not, Decidable.not_not, Decidable.not_not, ← List.length_eq_zero_iff]
      dsimp only
      omega
    · intro _
      exact ⟨rfl, standsFinal.bounded⟩

end

end XmlCursor

/-- A run of the configuration parser never reads outside its text and never goes on
without moving forward: its cursor stays inside the text, every iteration of a loop
and every recursive call moves it on, the depth stays below 18 and at most 200000
nodes are built.  The run ends with an error of the parser or with a tree every
element of which is written with distinct attribute names and closes itself or has
its closing tag. -/
theorem xmlParser_bounded (text_ : Bytes) :
    Throwing.Ends (XmlCursor.parse text_) {}
      (fun root final =>
        XmlCursor.Bounded text_ final ∧ XmlParser.parse text_ = .ok root ∧
          ∀ node, XmlText.ElementOf root node →
            ∃ written, written <:+: text_ ∧ XmlText.ElementText true written node)
      (fun fault final =>
        XmlCursor.Bounded text_ final ∧
          ∃ error, XmlParser.parse text_ = .error error ∧ fault = .raised error) := by
  refine Ends.weaken (XmlCursor.parse_follows text_) ?_ ?_
  · rintro root final ⟨parsed, bounded⟩
    refine ⟨bounded, parsed, ?_⟩
    intro node element
    obtain ⟨whole, within, rootText⟩ := XmlText.parse_read parsed
    obtain ⟨written, inside, nodeText⟩ := XmlText.ElementText.element_written element rootText
    exact ⟨written, inside.trans within, nodeText⟩
  · rintro fault final raised
    exact raised

/-- An element that closes itself has no closing tag. -/
theorem xmlParser_selfClosing :
    ¬ ∀ (text_ : Bytes) (root : Node) (final : XmlCursor.Cursor),
      XmlCursor.parse text_ {} = .ok root final →
        ∃ written, written <:+: text_ ∧ XmlText.ElementText false written root := by
  intro claimed
  have parsed : ∃ root, XmlParser.parse (text "<a/>") = .ok root := by
    cases ran : XmlParser.parse (text "<a/>") with
    | ok root =>
        exact ⟨root, rfl⟩
    | error error =>
        have returns : (XmlParser.parse (text "<a/>")).isOk = true := by
          decide +kernel
        rw [ran] at returns
        cases returns
  obtain ⟨root, parsed⟩ := parsed
  have follows := XmlCursor.parse_follows (text "<a/>")
  rw [parsed] at follows
  obtain ⟨node, final, ran, _, _⟩ := follows.exists
  obtain ⟨written, within, closed⟩ := claimed (text "<a/>") node final ran
  cases closed with
  | selfClosing admitted =>
      cases admitted
  | @closed tag called content behind _ _ opening inside blank =>
      have tag : text "</" <:+: text "<a/>" := by
        refine List.IsInfix.trans ?_ within
        exact ⟨[byte '<'] ++ tag ++ [byte '>'] ++ content, called ++ behind ++ [byte '>'],
          by simp only [List.append_assoc]⟩
      exact absurd tag (by decide)

end NativeDNS

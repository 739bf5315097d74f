/-
DNS messages on a TCP stream.

A message stands behind its length in two bytes.  The local proxies and the
upstream connections read such frames with loops of their own; they differ in
their errors, in the failures they retry, and in whether the stream may end
before a frame.
-/
import NativeDNS.Library.ExactTransfer
import NativeDNS.Model
import NativeDNS.Wire.Bytes

namespace NativeDNS

open ExactTransfer

def frame (body : Packet) : Packet :=
  wordBytes body.length ++ body

/-- A message that is long enough, and whose length the two bytes can hold. -/
structure Framed (body : Packet) : Prop where
  header : 12 ≤ body.length
  fits : body.length < 65536

def StartsFrame (stream : Packet) : Prop :=
  ∃ body rest, Framed body ∧ stream = frame body ++ rest

theorem length_frame (body : Packet) : (frame body).length = 2 + body.length := by
  rw [frame, List.length_append]
  rfl

theorem wordAt_frame {body : Packet} (fits : body.length < 65536) (rest : Packet) :
    wordAt (frame body ++ rest) 0 = body.length := by
  rw [frame, List.append_assoc]
  exact wordAt_wordBytes fits _

theorem wordBytes_wordAt {bytes : Packet} (two : bytes.length = 2) :
    wordBytes (wordAt bytes 0) = bytes := by
  obtain ⟨high, low, rfl⟩ := List.length_eq_two.mp two
  have value : wordAt [high, low] 0 = high.toNat * 256 + low.toNat :=
    wordAt_eq [high, low] 0
  have lowBound := low.toNat_lt
  have first : (high.toNat * 256 + low.toNat) / 2 ^ 8 = high.toNat := by omega
  have second : UInt8.ofNat (high.toNat * 256 + low.toNat) = low := by
    apply UInt8.toNat_inj.mp
    rw [UInt8.toNat_ofNat']
    omega
  rw [wordBytes, value, Nat.shiftRight_eq_div_pow, first, second, UInt8.ofNat_toNat]

theorem frame_inj {first second rest rest' : Packet} (one : Framed first)
    (other : Framed second) (same : frame first ++ rest = frame second ++ rest') :
    first = second ∧ rest = rest' := by
  have lengths : first.length = second.length := by
    rw [← wordAt_frame one.fits rest, same, wordAt_frame other.fits]
  rw [frame, frame, lengths, List.append_assoc, List.append_assoc] at same
  exact List.append_inj (List.append_cancel_left same) lengths

/-! ### The frames of a stream -/

/-- `bodies` are the messages of the longest prefix of complete frames, and
`tail` is what follows them. -/
structure Cut (stream : Packet) (bodies : List Packet) (tail : Packet) : Prop where
  whole : stream = bodies.flatMap frame ++ tail
  framed : ∀ body ∈ bodies, Framed body
  longest : ¬ StartsFrame tail

theorem Cut.next {body rest tail : Packet} {bodies : List Packet}
    (framed : Framed body) (cut : Cut rest bodies tail) :
    Cut (frame body ++ rest) (body :: bodies) tail :=
  { whole := by
      rw [cut.whole, List.flatMap_cons, List.append_assoc]
    framed := by
      intro other member
      rcases List.mem_cons.mp member with this | later
      · rw [this]
        exact framed
      · exact cut.framed other later
    longest := cut.longest }

theorem exists_cut (stream : Packet) : ∃ bodies tail, Cut stream bodies tail := by
  induction size : stream.length using Nat.strongRecOn generalizing stream with
  | _ count ih =>
      by_cases starts : StartsFrame stream
      · obtain ⟨body, rest, framed, split⟩ := starts
        have shorter : rest.length < count := by
          rw [← size, split, List.length_append, length_frame]
          omega
        obtain ⟨bodies, tail, cut⟩ := ih _ shorter rest rfl
        rw [split]
        exact ⟨body :: bodies, tail, cut.next framed⟩
      · exact ⟨[], stream,
          { whole := rfl
            framed := fun _ impossible => absurd impossible List.not_mem_nil
            longest := starts }⟩

theorem Cut.head {body rest tail : Packet} {bodies : List Packet}
    (framed : Framed body) (cut : Cut (frame body ++ rest) bodies tail) :
    ∃ later, bodies = body :: later ∧ Cut rest later tail := by
  cases bodies with
  | nil =>
      exact absurd ⟨body, rest, framed, cut.whole.symm⟩ cut.longest
  | cons first later =>
      have whole := cut.whole
      rw [List.flatMap_cons, List.append_assoc] at whole
      obtain ⟨same, rest⟩ := frame_inj framed (cut.framed first List.mem_cons_self) whole
      rw [same]
      exact ⟨later, rfl,
        { whole := rest
          framed := fun other member => cut.framed other (List.mem_cons_of_mem _ member)
          longest := cut.longest }⟩

theorem Cut.empty {stream tail : Packet} {bodies : List Packet}
    (cut : Cut stream bodies tail) (noFrame : ¬ StartsFrame stream) :
    bodies = [] ∧ tail = stream := by
  cases bodies with
  | nil =>
      exact ⟨rfl, cut.whole.symm⟩
  | cons first later =>
      refine absurd ⟨first, later.flatMap frame ++ tail,
        cut.framed first List.mem_cons_self, ?_⟩ noFrame
      rw [cut.whole, List.flatMap_cons, List.append_assoc]

theorem Cut.unique {stream tail tail' : Packet} {bodies bodies' : List Packet}
    (cut : Cut stream bodies tail) (cut' : Cut stream bodies' tail') :
    bodies = bodies' := by
  induction bodies generalizing stream bodies' with
  | nil =>
      have noFrame : ¬ StartsFrame stream := by
        rw [cut.whole]
        exact cut.longest
      exact (cut'.empty noFrame).1.symm
  | cons first later ih =>
      have framed := cut.framed first List.mem_cons_self
      have whole := cut.whole
      rw [List.flatMap_cons, List.append_assoc] at whole
      rw [whole] at cut cut'
      obtain ⟨rest, same, cut⟩ := cut.head framed
      obtain ⟨rest', same', cut'⟩ := cut'.head framed
      rw [(List.cons.inj same).2] at ih ⊢
      rw [same', ih cut cut']

/-! ### Reading a frame -/

structure FrameReader (κ : Type) where
  manner : Manner κ Thrown
  receiving : Faults Thrown
  tooShort : Error

/-- Read a frame: two bytes, and as many as they say.  Before the first of them
the stream may end where `clean` is set. -/
def readFrame {κ : Type} (reader : FrameReader κ) (clean : Bool)
    (line : Line UInt8 κ) : Except (Halt Thrown) (Option Packet) × Line UInt8 κ :=
  match receive reader.manner reader.receiving clean 2 line with
  | (.ok (some lengthBytes), line) =>
      let length := wordAt lengthBytes 0
      if length < 12 then (.error (.raised (.error reader.tooShort)), line)
      else receive reader.manner reader.receiving false length line
  | (result, line) => (result, line)

section Reading

variable {κ : Type} {reader : FrameReader κ} {clean closes : Bool}

/-- How reading a frame ends, and what is left of the stream and the passes. -/
inductive Reads (reader : FrameReader κ) (clean closes : Bool)
    (passes : List (CallPass κ)) (unread : Packet) :
    Except (Halt Thrown) (Option Packet) × Packet × List (CallPass κ) → Prop
  | frame {body rest : Packet} {later : List (CallPass κ)} (framed : Framed body)
      (split : unread = frame body ++ rest)
      (uses : Uses reader.manner passes later (frame body).length)
      (shrinks : later.length < passes.length) :
      Reads reader clean closes passes unread (.ok (some body), rest, later)
  | clean (allowed : clean = true) (nothing : unread = []) (closed : closes = true)
      (later : List (CallPass κ)) :
      Reads reader clean closes passes unread (.ok none, [], later)
  | refused {thrown : Thrown} (rest : Packet) (later : List (CallPass κ))
      (noFrame : ¬ StartsFrame unread) (torn : clean = false ∨ unread ≠ [])
      (reason : (thrown = .error reader.tooShort ∧ 2 ≤ unread.length ∧
          wordAt unread 0 < 12) ∨
        (thrown = reader.receiving.ended ∧ closes = true)) :
      Reads reader clean closes passes unread (.error (.raised thrown), rest, later)
  | blocked (noFrame : ¬ StartsFrame unread) (opened : closes = false)
      (later : List (CallPass κ)) :
      Reads reader clean closes passes unread (.error .blocked, [], later)
  | cut {part rest : Packet} (split : unread = part ++ rest)
      (spent : moves reader.manner passes ≤ part.length) :
      Reads reader clean closes passes unread (.error .cut, rest, [])

theorem not_startsFrame {stream : Packet} (few : stream.length < 14) :
    ¬ StartsFrame stream := by
  rintro ⟨body, rest, framed, split⟩
  have header := framed.header
  rw [split, List.length_append, length_frame] at few
  omega

theorem not_startsFrame_short {lengthBytes rest : Packet}
    (two : lengthBytes.length = 2) (few : rest.length < wordAt lengthBytes 0) :
    ¬ StartsFrame (lengthBytes ++ rest) := by
  rintro ⟨body, behind, framed, split⟩
  have value : wordAt (lengthBytes ++ rest) 0 = wordAt lengthBytes 0 :=
    wordAt_append_left (by omega)
  have lengths := congrArg List.length split
  rw [split, wordAt_frame framed.fits] at value
  rw [List.length_append, List.length_append, length_frame] at lengths
  omega

theorem readBody_spec (line : Line UInt8 κ) {lengthBytes unread : Packet}
    {passes : List (CallPass κ)} (calm : Calm reader.manner line.passes)
    (split : line.unread = lengthBytes ++ unread) (two : lengthBytes.length = 2)
    (long : 12 ≤ wordAt lengthBytes 0)
    (uses : Uses reader.manner line.passes passes lengthBytes.length)
    (shrinks : passes.length < line.passes.length) :
    ∃ result rest later,
      receive reader.manner reader.receiving false (wordAt lengthBytes 0)
          { line with unread := unread, passes := passes } =
        (result, { line with unread := rest, passes := later }) ∧
      Reads reader clean line.closes line.passes line.unread
        (result, rest, later) := by
  obtain ⟨result, rest, later, received, spec⟩ :=
    receive_spec reader.receiving false (wordAt lengthBytes 0)
      { line with unread := unread, passes := passes } (uses.calm calm)
  refine ⟨result, rest, later, received, ?_⟩
  rw [split]
  cases spec with
  | @all body _ _ taken full more =>
      have taken : unread = body ++ rest := taken
      have length : body.length = wordAt lengthBytes 0 := by
        rw [List.length_nil, Nat.zero_add] at full
        exact full
      have whole : lengthBytes ++ body = frame body := by
        rw [frame, length, wordBytes_wordAt two]
      have both := uses.trans more
      rw [← List.length_append, whole] at both
      have framed : Framed body :=
        { header := by
            rw [length]
            exact long
          fits := by
            rw [length]
            exact wordAt_lt lengthBytes 0 }
      rw [taken, ← List.append_assoc, whole]
      exact .frame framed rfl both (Nat.lt_of_le_of_lt more.left.length_le shrinks)
  | clean impossible nothing closed _ =>
      cases impossible
  | short closed few torn _ =>
      exact .refused [] _ (not_startsFrame_short two few)
        (.inr (List.append_ne_nil_of_left_ne_nil
          (List.ne_nil_of_length_pos (by omega)) _)) (.inr ⟨rfl, closed⟩)
  | blocked opened few _ =>
      exact .blocked (not_startsFrame_short two few) opened _
  | @cut part _ taken spent =>
      have taken : unread = part ++ rest := taken
      rw [taken, ← List.append_assoc]
      refine .cut rfl ?_
      have first := uses.spent
      have spent : moves reader.manner passes ≤ part.length := spent
      rw [List.length_append]
      omega

theorem readFrame_spec (reader : FrameReader κ) (clean : Bool) (line : Line UInt8 κ)
    (calm : Calm reader.manner line.passes) :
    ∃ result unread passes,
      readFrame reader clean line =
        (result, { line with unread := unread, passes := passes }) ∧
      Reads reader clean line.closes line.passes line.unread
        (result, unread, passes) := by
  obtain ⟨result, unread, passes, received, spec⟩ :=
    receive_spec reader.receiving clean 2 line calm
  rw [readFrame, received]
  cases spec with
  | @all lengthBytes _ _ split full uses shrinks =>
      have two : lengthBytes.length = 2 := by
        rw [List.length_nil, Nat.zero_add] at full
        exact full
      have prefixed : wordAt line.unread 0 = wordAt lengthBytes 0 := by
        rw [split]
        exact wordAt_append_left (by omega)
      rw [List.nil_append]
      by_cases tooShort : wordAt lengthBytes 0 < 12
      · simp only [tooShort, if_true]
        refine ⟨_, _, _, rfl, .refused _ _ ?_ (.inr ?_) (.inl ⟨rfl, ?_, ?_⟩)⟩
        · rintro ⟨body, rest, framed, begins⟩
          have header := framed.header
          rw [begins, wordAt_frame framed.fits] at prefixed
          omega
        · rw [split]
          exact List.append_ne_nil_of_left_ne_nil
            (List.ne_nil_of_length_pos (by omega)) _
        · rw [split, List.length_append]
          omega
        · rw [prefixed]
          exact tooShort
      · simp only [tooShort, if_false]
        exact readBody_spec line calm split two (by omega) uses
          (shrinks (by decide))
  | clean allowed nothing closed _ =>
      exact ⟨_, _, _, rfl, .clean allowed nothing closed _⟩
  | short closed few torn _ =>
      refine ⟨_, _, _, rfl, .refused [] _ (not_startsFrame ?_) torn
        (.inr ⟨rfl, closed⟩)⟩
      exact Nat.lt_of_lt_of_le few (by decide)
  | blocked opened few _ =>
      refine ⟨_, _, _, rfl, .blocked (not_startsFrame ?_) opened _⟩
      exact Nat.lt_of_lt_of_le few (by decide)
  | cut split spent =>
      exact ⟨_, _, _, rfl, .cut split spent⟩

theorem readFrame_escapes (reader : FrameReader κ) (clean : Bool) {thrown : Thrown}
    (line : Line UInt8 κ)
    (only : RaisesOnly reader.manner thrown line.passes)
    (raising : Raising reader.manner line.passes) :
    Escapes reader.manner thrown line.passes (readFrame reader clean line).1
      (readFrame reader clean line).2.passes := by
  have first := receive_escapes reader.receiving clean 2 line only raising
  rw [readFrame]
  cases received : receive reader.manner reader.receiving clean 2 line with
  | mk result rest =>
      rw [received] at first
      cases result with
      | error halt => exact first
      | ok taken =>
          have left := first.raised.resolve_left (fun same => by cases same)
          cases taken with
          | none => exact first
          | some lengthBytes =>
              by_cases tooShort : wordAt lengthBytes 0 < 12
              · simp only [tooShort, if_true]
                exact { raised := .inr left, suffix := first.suffix }
              · simp only [tooShort, if_false]
                have second := receive_escapes reader.receiving false
                  (wordAt lengthBytes 0) rest (only.suffix first.suffix) left
                exact
                  { raised := second.raised
                    suffix := second.suffix.trans first.suffix }

end Reading

end NativeDNS

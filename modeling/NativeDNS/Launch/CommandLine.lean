/-
The command line of the core on Windows.

The window and the scheduled task start the core with one line of wide characters.  Its
`main` takes narrow arguments, so that the runtime cuts the line after its conversion to
the code page of the system.  Whatever a path holds that this code page keeps, every
argument arrives as it was given.
-/
import NativeDNS.Library.ByteText
import NativeDNS.Library.CommandLine

namespace NativeDNS

open ByteText (text)

abbrev WideText := List UInt16

def wide (bytes : List UInt8) : WideText :=
  bytes.map UInt8.toUInt16

/-! ### The code page -/

/-- An ANSI code page: its characters have one byte, or two of which the first is a lead
byte, and ASCII stands for itself. -/
structure CodePage where
  lead : UInt8 → Bool
  /-- `WideCharToMultiByte`, one unit. -/
  character : UInt16 → List UInt8
  /-- `MultiByteToWideChar`, one character. -/
  unit : List UInt8 → UInt16
  shape : ∀ wide, (∃ byte, character wide = [byte] ∧ lead byte = false) ∨
    ∃ first second, character wide = [first, second] ∧ lead first = true
  ascii : ∀ byte : UInt8, byte < 0x80 →
    character byte.toUInt16 = [byte] ∧ unit [byte] = byte.toUInt16

section CodePage

variable (page : CodePage)

def CodePage.encode (line : WideText) : List UInt8 :=
  (line.map page.character).flatten

def CodePage.characters : List UInt8 → List (List UInt8)
  | [] => []
  | [byte] => [[byte]]
  | byte :: next :: rest =>
      if page.lead byte = true then [byte, next] :: CodePage.characters rest
      else [byte] :: CodePage.characters (next :: rest)

def CodePage.decode (bytes : List UInt8) : WideText :=
  (page.characters bytes).map page.unit

/-- Every unit has a character that stands for it. -/
def CodePage.Keeps (value : WideText) : Prop :=
  ∀ unit ∈ value, page.unit (page.character unit) = unit

theorem CodePage.characters_encode (line : WideText) :
    page.characters (page.encode line) = line.map page.character := by
  unfold CodePage.encode
  induction line with
  | nil =>
      rfl
  | cons unit line ih =>
      rw [List.map_cons, List.flatten_cons]
      rcases page.shape unit with ⟨byte, single, plain⟩ | ⟨first, second, double, leads⟩
      · rw [single]
        cases rest : (line.map page.character).flatten with
        | nil =>
            rw [rest] at ih
            rw [← ih]
            rfl
        | cons next more =>
            rw [rest] at ih
            rw [List.singleton_append, CodePage.characters, if_neg (by rw [plain]; decide), ih]
      · rw [double, List.cons_append, List.cons_append, List.nil_append, CodePage.characters,
          if_pos leads, ih]

theorem CodePage.decode_encode {value : WideText} (kept : page.Keeps value) :
    page.decode (page.encode value) = value := by
  unfold CodePage.decode
  rw [page.characters_encode, List.map_map]
  exact (List.map_congr_left kept).trans (List.map_id value)

theorem CodePage.character_wide {bytes : List UInt8} (ascii : ∀ byte ∈ bytes, byte < 0x80) :
    (wide bytes).map page.character = bytes.map fun byte => [byte] := by
  unfold wide
  rw [List.map_map]
  exact List.map_congr_left fun byte member => (page.ascii byte (ascii byte member)).1

theorem CodePage.encode_wide {bytes : List UInt8} (ascii : ∀ byte ∈ bytes, byte < 0x80) :
    page.encode (wide bytes) = bytes := by
  unfold CodePage.encode
  rw [page.character_wide ascii]
  induction bytes with
  | nil =>
      rfl
  | cons byte bytes ih =>
      rw [List.map_cons, List.flatten_cons, ih (List.forall_mem_cons.mp ascii).2,
        List.singleton_append]

theorem CodePage.keeps_wide {bytes : List UInt8} (ascii : ∀ byte ∈ bytes, byte < 0x80) :
    page.Keeps (wide bytes) := by
  intro unit member
  obtain ⟨byte, among, same⟩ := List.mem_map.mp member
  obtain ⟨narrow, back⟩ := page.ascii byte (ascii byte among)
  rw [← same, narrow, back]

theorem CodePage.character_eq {value : WideText} (kept : page.Keeps value) {unit : UInt16}
    (member : unit ∈ value) {byte : UInt8} (ascii : byte < 0x80)
    (written : page.character unit = [byte]) : unit = byte.toUInt16 := by
  rw [← kept unit member, written, (page.ascii byte ascii).2]

end CodePage

/-! ### Cutting the line -/

def narrowSigns : CommandLine.Signs (List UInt8) where
  quote := [34]
  slash := [92]
  blank := fun character => decide (character = [32] ∨ character = [9])
  quote_ne_slash := by decide
  blank_quote := by decide
  blank_slash := by decide

/-- A text handed over as a pointer ends in front of its first zero. -/
def terminated (line : WideText) : WideText :=
  line.takeWhile (· ≠ 0)

def programArguments (page : CodePage) (line : WideText) : List (List UInt8) :=
  (CommandLine.splitArguments narrowSigns
    (page.characters (page.encode (terminated line)))).map List.flatten

/-! ### Lines that are written -/

def wideSigns : CommandLine.Signs UInt16 where
  quote := 34
  slash := 92
  blank := fun unit => decide (unit = 32 ∨ unit = 9)
  quote_ne_slash := by decide
  blank_quote := by decide
  blank_slash := by decide

def quote (value : WideText) : WideText :=
  CommandLine.quoted wideSigns value

/-- `quote_argument` of the scheduled task. -/
def quoteArgument (value : WideText) : WideText :=
  CommandLine.quoted wideSigns value

def joinArguments (arguments : List WideText) : WideText :=
  arguments.foldl
    (fun params argument =>
      (if params = [] then params else params ++ [32]) ++ quote argument) []

def autostartArguments (config : WideText) : WideText :=
  wide (text "--config ") ++ quoteArgument config ++ wide (text " --transparent")

/-- What can be handed over: no zero, and nothing that the code page does not have. -/
structure Passes (page : CodePage) (argument : WideText) : Prop where
  unterminated : 0 ∉ argument
  kept : page.Keeps argument

theorem terminated_eq {line : WideText} (free : 0 ∉ line) : terminated line = line := by
  refine List.takeWhile_eq_self_iff.mpr fun unit member => ?_
  exact decide_eq_true fun same => free (same ▸ member)

theorem zero_not_mem_quote {value : WideText} (free : 0 ∉ value) : 0 ∉ quote value := by
  intro member
  rcases CommandLine.mem_quoted member with old | quote | slash
  · exact free old
  · exact absurd quote (by decide)
  · exact absurd slash (by decide)

theorem quote_ne_nil (value : WideText) : quote value ≠ [] :=
  List.cons_ne_nil _ _

theorem joinArguments_eq (arguments : List WideText) :
    joinArguments arguments = CommandLine.spaced 32 (arguments.map quote) := by
  have behind : ∀ (arguments : List WideText) (params : WideText), params ≠ [] →
      arguments.foldl (fun params argument =>
        (if params = [] then params else params ++ [32]) ++ quote argument) params =
      CommandLine.spaced 32 (params :: arguments.map quote) := by
    intro arguments
    induction arguments with
    | nil =>
        intro params _
        rfl
    | cons argument arguments ih =>
        intro params nonempty
        rw [List.foldl_cons, if_neg nonempty,
          ih _ (List.append_ne_nil_of_right_ne_nil _ (quote_ne_nil argument)), List.map_cons]
        cases arguments.map quote with
        | nil =>
            simp only [CommandLine.spaced, List.append_assoc, List.singleton_append]
        | cons next more =>
            simp only [CommandLine.spaced, List.append_assoc, List.cons_append, List.nil_append]
  cases arguments with
  | nil =>
      rfl
  | cons argument arguments =>
      unfold joinArguments
      rw [List.foldl_cons, if_pos rfl, List.nil_append, behind _ _ (quote_ne_nil argument),
        List.map_cons]

section Reading

variable {page : CodePage}

theorem character_quote {value : WideText} (kept : page.Keeps value) :
    (quote value).map page.character =
      CommandLine.quoted narrowSigns (value.map page.character) := by
  refine CommandLine.quoted_map (page.ascii 34 (by decide)).1 (page.ascii 92 (by decide)).1 ?_
  intro unit member
  exact ⟨page.character_eq kept member (by decide), page.character_eq kept member (by decide)⟩

theorem programArguments_spaced {texts : List WideText} {arguments : List (List (List UInt8))}
    (written : List.Forall₂ (CommandLine.Written narrowSigns)
      (texts.map (List.map page.character)) arguments)
    (free : ∀ text ∈ texts, 0 ∉ text) :
    programArguments page (CommandLine.spaced 32 texts) = arguments.map List.flatten := by
  have whole : (0 : UInt16) ∉ CommandLine.spaced 32 texts := by
    intro member
    rcases CommandLine.mem_spaced member with same | ⟨text, among, inside⟩
    · exact absurd same (by decide)
    · exact free text among inside
  have blank : page.character 32 = [32] := (page.ascii 32 (by decide)).1
  unfold programArguments
  rw [terminated_eq whole, page.characters_encode, CommandLine.spaced_map, blank,
    CommandLine.splitArguments_spaced (by decide) written]

/-- The launcher's line gives the program exactly the arguments it was made from, in the
code page, whatever quotes, slashes and blanks they hold. -/
theorem joinArguments_read {arguments : List WideText}
    (passes : ∀ argument ∈ arguments, Passes page argument) :
    programArguments page (joinArguments arguments) = arguments.map page.encode := by
  have written : List.Forall₂ (CommandLine.Written narrowSigns)
      ((arguments.map quote).map (List.map page.character))
      (arguments.map (List.map page.character)) := by
    rw [List.map_map, List.forall₂_map_left_iff, List.forall₂_map_right_iff]
    refine List.forall₂_same.mpr fun argument member => ?_
    rw [Function.comp_apply, character_quote (passes argument member).kept]
    exact .quoted _
  rw [joinArguments_eq, programArguments_spaced written, List.map_map]
  · rfl
  · intro text among
    obtain ⟨argument, member, same⟩ := List.mem_map.mp among
    exact same ▸ zero_not_mem_quote (passes argument member).unterminated

example : joinArguments [wide (text "C:\\a b\\"), [], wide (text "\\\"")] =
    wide (text "\"C:\\a b\\\\\" \"\" \"\\\\\\\"\"") := by
  decide

theorem written_wide {bytes : List UInt8} (nonempty : bytes ≠ [])
    (plain : ∀ byte ∈ bytes, 34 < byte.toNat ∧ byte < 0x80) :
    CommandLine.Written narrowSigns ((wide bytes).map page.character)
        ((wide bytes).map page.character) ∧ 0 ∉ wide bytes := by
  rw [page.character_wide fun byte member => (plain byte member).2]
  refine ⟨.plain (fun none => nonempty (List.map_eq_nil_iff.mp none)) ?_, ?_⟩
  · intro character member
    obtain ⟨byte, among, rfl⟩ := List.mem_map.mp member
    have high := (plain byte among).1
    have other : ∀ value : UInt8, value.toNat ≤ 34 → [byte] ≠ [value] := by
      rintro value low same
      rw [List.cons.inj same |>.1] at high
      omega
    refine ⟨other 34 (by decide), decide_eq_false ?_⟩
    rintro (same | same)
    · exact other 32 (by decide) same
    · exact other 9 (by decide) same
  · intro member
    obtain ⟨byte, among, same⟩ := List.mem_map.mp member
    have high := (plain byte among).1
    have zero := congrArg UInt16.toNat same
    rw [UInt8.toNat_toUInt16] at zero
    change byte.toNat = 0 at zero
    omega

theorem autostartArguments_read {config : WideText} (passes : Passes page config) :
    programArguments page (autostartArguments config) =
      [text "--config", page.encode config, text "--transparent"] := by
  have plain : ∀ name ∈ ["--config", "--transparent"], ∀ byte ∈ text name,
      34 < byte.toNat ∧ byte < 0x80 := by
    decide +kernel
  have ascii : ∀ name ∈ ["--config", "--transparent"], ∀ byte ∈ text name, byte < 0x80 :=
    fun name known byte member => (plain name known byte member).2
  obtain ⟨first, firstFree⟩ :=
    @written_wide page (text "--config") (by decide) (plain _ (by decide))
  obtain ⟨last, lastFree⟩ :=
    @written_wide page (text "--transparent") (by decide) (plain _ (by decide))
  have line : autostartArguments config = CommandLine.spaced 32
      [wide (text "--config"), quote config, wide (text "--transparent")] := by
    have opening : wide (text "--config ") = wide (text "--config") ++ [32] := by
      decide
    have closing : wide (text " --transparent") = 32 :: wide (text "--transparent") := by
      decide
    unfold autostartArguments CommandLine.spaced CommandLine.spaced CommandLine.spaced
    rw [opening, closing, List.append_assoc, List.append_assoc, List.singleton_append]
    rfl
  have written : List.Forall₂ (CommandLine.Written narrowSigns)
      ([wide (text "--config"), quote config, wide (text "--transparent")].map
        (List.map page.character))
      ([wide (text "--config"), config, wide (text "--transparent")].map
        (List.map page.character)) := by
    refine .cons first (.cons ?_ (.cons last .nil))
    rw [character_quote passes.kept]
    exact .quoted _
  rw [line, programArguments_spaced written, List.map_map]
  · change [page.encode (wide (text "--config")), page.encode config,
      page.encode (wide (text "--transparent"))] = _
    rw [page.encode_wide (ascii _ (by decide)), page.encode_wide (ascii _ (by decide))]
  · intro text among
    simp only [List.mem_cons, List.not_mem_nil, or_false] at among
    rcases among with same | same | same
    · exact same ▸ firstFree
    · exact same ▸ zero_not_mem_quote passes.unterminated
    · exact same ▸ lastFree

end Reading

end NativeDNS

/-
What the core is started for.

The window, the scheduled task and the elevated helper all start the same program, which
takes its task from its arguments.  On Windows each of the window's requests is read as
that request, whatever quotes, slashes and blanks its paths hold, as long as they can be
written in the code page.
-/
import NativeDNS.Launch.CommandLine
import NativeDNS.Library.CheckedResult
import NativeDNS.Model

namespace NativeDNS

open ByteText (text decimal readDecimal)
open CheckedResult

/-! ### The program -/

structure ProcessIdentity where
  pid : UInt32 := 0
  started : UInt64 := 0
  deriving DecidableEq

/-- What the arguments have set; a path is made of its argument by the code page. -/
structure HostArguments where
  configPath : WideText := []
  autostartConfig : WideText := []
  autostartGui : WideText := []
  transparent : Bool := false
  registerAutostart : Bool := false
  unregisterAutostart : Bool := false
  forceTarget : ProcessIdentity := {}
  port : UInt16 := 0
  deriving DecidableEq

inductive HostCommand where
  | help
  | unknown (argument : Bytes)
  | forceStop (target : ProcessIdentity)
  | registerAutostart (config gui : WideText)
  | unregisterAutostart
  | run (configPath : WideText) (transparent : Bool) (port : UInt16)
  deriving DecidableEq

inductive ArgumentsRead where
  | all (given : HostArguments)
  | stop (command : HostCommand)
  deriving DecidableEq

def invalidIdentity : Error :=
  .of "PROCESS_IDENTITY" "Invalid force-shutdown process identity"

def forceTarget (pid started : Bytes) : Checked ProcessIdentity :=
  match readDecimal 4294967295 pid, readDecimal 18446744073709551615 started with
  | some pid, some started =>
      if pid = 0 ∨ started = 0 then .error invalidIdentity
      else .ok { pid := UInt32.ofNat pid, started := UInt64.ofNat started }
  | _, _ => .error invalidIdentity

def portArgument (value : Bytes) : Checked UInt16 :=
  match readDecimal 4294967295 value with
  | some parsed =>
      if parsed = 0 ∨ parsed > 65535 then
        .error (.of "PORT" "Port must be an integer in 1..65535")
      else .ok (UInt16.ofNat parsed)
  | none => .error (.of "PORT" "Port must be an integer in 1..65535")

/-- The loop over the arguments; an option without its values is not known. -/
def readArguments (page : CodePage) : List Bytes → HostArguments → Checked ArgumentsRead
  | [], given => .ok (.all given)
  | argument :: rest, given =>
      if argument = text "--config" then
        match rest with
        | value :: rest => readArguments page rest { given with configPath := page.decode value }
        | [] => .ok (.stop (.unknown argument))
      else if argument = text "--transparent" then
        readArguments page rest { given with transparent := true }
      else if argument = text "--force-shutdown" then
        match rest with
        | pid :: started :: rest =>
            match forceTarget pid started with
            | .ok target => readArguments page rest { given with forceTarget := target }
            | .error error => .error error
        | _ => .ok (.stop (.unknown argument))
      else if argument = text "--port" then
        match rest with
        | value :: rest =>
            match portArgument value with
            | .ok port => readArguments page rest { given with port := port }
            | .error error => .error error
        | [] => .ok (.stop (.unknown argument))
      else if argument = text "--register-autostart" then
        match rest with
        | value :: rest =>
            readArguments page rest
              { given with registerAutostart := true, autostartConfig := page.decode value }
        | [] => .ok (.stop (.unknown argument))
      else if argument = text "--unregister-autostart" then
        readArguments page rest { given with unregisterAutostart := true }
      else if argument = text "--gui-executable" then
        match rest with
        | value :: rest => readArguments page rest { given with autostartGui := page.decode value }
        | [] => .ok (.stop (.unknown argument))
      else if argument = text "--help" then .ok (.stop .help)
      else .ok (.stop (.unknown argument))

def HostArguments.command (given : HostArguments) : Checked HostCommand := do
  rejectIf (given.registerAutostart = true ∧ given.unregisterAutostart = true)
    (.of "AUTOSTART" "Conflicting autostart operations")
  if given.forceTarget.pid ≠ 0 then
    rejectIf
      (given.registerAutostart = true ∨ given.unregisterAutostart = true ∨
        given.configPath ≠ [] ∨ given.transparent = true ∨ given.port ≠ 0 ∨
        given.autostartGui ≠ [])
      (.of "PROCESS_IDENTITY" "Conflicting force-shutdown operations")
    pure (.forceStop given.forceTarget)
  else if given.registerAutostart = true then
    pure (.registerAutostart given.autostartConfig given.autostartGui)
  else if given.unregisterAutostart = true then pure .unregisterAutostart
  else pure (.run given.configPath given.transparent given.port)

/-- What `main` does with its arguments, without its own name. -/
def hostMain (page : CodePage) (arguments : List Bytes) : Checked HostCommand := do
  match ← readArguments page arguments {} with
  | .stop command => pure command
  | .all given => given.command

/-! ### The requests of the window -/

/-- What the window starts the program for.  It registers the scheduled task on Windows
only. -/
inductive HostRequest where
  | start (config : WideText) (transparent : Bool)
  | registerAutostart (config gui : WideText)
  | unregisterAutostart
  | forceShutdown (target : ProcessIdentity)

def HostRequest.arguments : HostRequest → List WideText
  | .start config transparent =>
      [wide (text "--config"), config] ++
        if transparent then [wide (text "--transparent")] else []
  | .registerAutostart config gui =>
      [wide (text "--register-autostart"), config, wide (text "--gui-executable"), gui]
  | .unregisterAutostart => [wide (text "--unregister-autostart")]
  | .forceShutdown target =>
      [wide (text "--force-shutdown"), wide (decimal target.pid.toNat),
        wide (decimal target.started.toNat)]

def HostRequest.command : HostRequest → HostCommand
  | .start config transparent => .run config transparent 0
  | .registerAutostart config gui => .registerAutostart config gui
  | .unregisterAutostart => .unregisterAutostart
  | .forceShutdown target => .forceStop target

/-- Its paths can be handed over, and a process that runs has an identity. -/
def HostRequest.Possible (page : CodePage) : HostRequest → Prop
  | .start config _ => Passes page config
  | .registerAutostart config gui => Passes page config ∧ Passes page gui
  | .unregisterAutostart => True
  | .forceShutdown target => target.pid ≠ 0 ∧ target.started ≠ 0

/-! ### How they are read -/

section Reading

variable {page : CodePage}

theorem passes_wide {bytes : Bytes} (plain : ∀ byte ∈ bytes, byte ≠ 0 ∧ byte < 0x80) :
    Passes page (wide bytes) where
  unterminated := by
    intro member
    obtain ⟨byte, among, same⟩ := List.mem_map.mp member
    have value := congrArg UInt16.toNat same
    rw [UInt8.toNat_toUInt16] at value
    exact (plain byte among).1 (UInt8.toNat_inj.mp value)
  kept := page.keeps_wide fun byte member => (plain byte member).2

theorem passes_decimal (value : Nat) : Passes page (wide (decimal value)) := by
  refine passes_wide fun byte member => ⟨?_, ByteText.decimal_ascii value byte member⟩
  rintro rfl
  exact ByteText.not_mem_decimal (by decide) value member

def hostOptions : List String :=
  ["--config", "--transparent", "--register-autostart", "--gui-executable",
    "--unregister-autostart", "--force-shutdown"]

theorem hostOptions_plain : ∀ name ∈ hostOptions, ∀ byte ∈ text name,
    byte ≠ 0 ∧ byte < 0x80 := by
  decide +kernel

theorem passes_option {name : String} (known : name ∈ hostOptions) :
    Passes page (wide (text name)) :=
  passes_wide (hostOptions_plain name known)

theorem encode_option {name : String} (known : name ∈ hostOptions) :
    page.encode (wide (text name)) = text name :=
  page.encode_wide fun byte member => (hostOptions_plain name known byte member).2

theorem HostRequest.passes {request : HostRequest} (possible : request.Possible page) :
    ∀ argument ∈ request.arguments, Passes page argument := by
  cases request with
  | start config transparent =>
      refine List.forall_mem_append.mpr ⟨List.forall_mem_cons.mpr
        ⟨passes_option (by decide), List.forall_mem_singleton.mpr possible⟩, ?_⟩
      cases transparent with
      | false =>
          exact fun argument member => absurd member List.not_mem_nil
      | true =>
          exact List.forall_mem_singleton.mpr (passes_option (by decide))
  | registerAutostart config gui =>
      exact List.forall_mem_cons.mpr ⟨passes_option (by decide), List.forall_mem_cons.mpr
        ⟨possible.1, List.forall_mem_cons.mpr ⟨passes_option (by decide),
          List.forall_mem_singleton.mpr possible.2⟩⟩⟩
  | unregisterAutostart =>
      exact List.forall_mem_singleton.mpr (passes_option (by decide))
  | forceShutdown target =>
      exact List.forall_mem_cons.mpr ⟨passes_option (by decide), List.forall_mem_cons.mpr
        ⟨passes_decimal _, List.forall_mem_singleton.mpr (passes_decimal _)⟩⟩

theorem forceTarget_decimal {target : ProcessIdentity} (pid : target.pid ≠ 0)
    (started : target.started ≠ 0) :
    forceTarget (decimal target.pid.toNat) (decimal target.started.toNat) = .ok target := by
  have pidWithin : target.pid.toNat ≤ 4294967295 := Nat.le_of_lt_succ target.pid.toNat_lt
  have startedWithin : target.started.toNat ≤ 18446744073709551615 :=
    Nat.le_of_lt_succ target.started.toNat_lt
  have nonzero : ¬ (target.pid.toNat = 0 ∨ target.started.toNat = 0) := by
    rintro (none | none)
    · exact pid (UInt32.toNat_inj.mp none)
    · exact started (UInt64.toNat_inj.mp none)
  unfold forceTarget
  rw [ByteText.readDecimal_decimal pidWithin, ByteText.readDecimal_decimal startedWithin]
  simp only [if_neg nonzero, UInt32.ofNat_toNat, UInt64.ofNat_toNat]

theorem hostMain_run (config : Bytes) (transparent : Bool) :
    hostMain page ([text "--config", config] ++
        if transparent then [text "--transparent"] else []) =
      .ok (.run (page.decode config) transparent 0) := by
  cases transparent with
  | false =>
      rfl
  | true =>
      rfl

theorem hostMain_register (config gui : Bytes) :
    hostMain page [text "--register-autostart", config, text "--gui-executable", gui] =
      .ok (.registerAutostart (page.decode config) (page.decode gui)) :=
  rfl

theorem hostMain_force (target : ProcessIdentity) (pid : target.pid ≠ 0)
    (started : target.started ≠ 0) :
    hostMain page
        [text "--force-shutdown", decimal target.pid.toNat, decimal target.started.toNat] =
      .ok (.forceStop target) := by
  have reads : readArguments page
      [text "--force-shutdown", decimal target.pid.toNat, decimal target.started.toNat] {} =
        .ok (.all { forceTarget := target }) := by
    unfold readArguments
    rw [if_neg (by decide), if_neg (by decide), if_pos rfl]
    simp only [forceTarget_decimal pid started]
    rfl
  unfold hostMain
  rw [reads]
  simp [HostArguments.command, pid, rejectIf]

/-- Every request of the window is read as this request: the core runs the configuration it
was given, registers what it was given, and stops the process it was given. -/
theorem hostRequest_read (page : CodePage) (request : HostRequest)
    (possible : request.Possible page) :
    hostMain page (programArguments page (joinArguments request.arguments)) =
      .ok request.command := by
  rw [joinArguments_read (HostRequest.passes possible)]
  cases request with
  | start config transparent =>
      have arguments : (HostRequest.start config transparent).arguments.map page.encode =
          [text "--config", page.encode config] ++
            if transparent then [text "--transparent"] else [] := by
        cases transparent with
        | false =>
            exact congrArg (fun name => [name, page.encode config]) (encode_option (by decide))
        | true =>
            exact congrArg₂ (fun first last => [first, page.encode config, last])
              (encode_option (by decide)) (encode_option (by decide))
      rw [arguments, hostMain_run, page.decode_encode possible.kept]
      rfl
  | registerAutostart config gui =>
      simp only [HostRequest.arguments, List.map_cons, List.map_nil]
      rw [@encode_option page "--register-autostart" (by decide),
        @encode_option page "--gui-executable" (by decide), hostMain_register,
        page.decode_encode possible.1.kept, page.decode_encode possible.2.kept]
      rfl
  | unregisterAutostart =>
      simp only [HostRequest.arguments, List.map_cons, List.map_nil]
      rw [@encode_option page "--unregister-autostart" (by decide)]
      rfl
  | forceShutdown target =>
      simp only [HostRequest.arguments, List.map_cons, List.map_nil]
      rw [@encode_option page "--force-shutdown" (by decide),
        page.encode_wide (ByteText.decimal_ascii _), page.encode_wide (ByteText.decimal_ascii _)]
      exact hostMain_force target possible.1 possible.2

/-- The code page whose characters are the first 256. -/
def latinPage : CodePage where
  lead := fun _ => false
  character := fun unit => [if unit < 256 then unit.toUInt8 else 63]
  unit := fun character => (character.headD 0).toUInt16
  shape := fun _ => .inl ⟨_, rfl, rfl⟩
  ascii := by
    intro byte _
    have below : byte.toUInt16 < 256 := by
      rw [UInt16.lt_iff_toNat_lt, UInt8.toNat_toUInt16]
      exact byte.toNat_lt
    rw [if_pos below, UInt8.toUInt8_toUInt16]
    exact ⟨rfl, rfl⟩

/-- A path with a quote, a blank, a letter outside ASCII and a slash at its end. -/
def oddPath : WideText :=
  wide (text "C:\\a \"") ++ [0xE9] ++ wide (text "\\")

theorem oddPath_passes : Passes latinPage oddPath where
  unterminated := by decide
  kept := by
    intro unit member
    change unit ∈ [67, 58, 92, 97, 32, 34, 0xE9, 92] at member
    simp only [List.mem_cons, List.not_mem_nil, or_false] at member
    rcases member with rfl | rfl | rfl | rfl | rfl | rfl | rfl | rfl <;> rfl

theorem hostRequest_read_start :
    hostMain latinPage (programArguments latinPage
        (joinArguments (HostRequest.start oddPath true).arguments)) =
      .ok (.run oddPath true 0) :=
  hostRequest_read latinPage (.start oddPath true) oddPath_passes

/-- The task runs the core as the window would: on the registered configuration, with its
traffic taken over. -/
theorem autostartArguments_runs (page : CodePage) (config : WideText)
    (passes : Passes page config) :
    hostMain page (programArguments page (autostartArguments config)) =
      .ok (.run config true 0) := by
  rw [autostartArguments_read passes]
  refine (hostMain_run (page.encode config) true).trans ?_
  rw [page.decode_encode passes.kept]

theorem autostartArguments_runs_odd :
    hostMain latinPage (programArguments latinPage (autostartArguments oddPath)) =
      .ok (.run oddPath true 0) :=
  autostartArguments_runs latinPage oddPath oddPath_passes

end Reading

end NativeDNS

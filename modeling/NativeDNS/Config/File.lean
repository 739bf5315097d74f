/-
The configuration file: what is read from it and what a save leaves in it.

The file system is given by outcomes.  A file that cannot be measured, opened or
read through has no contents for the reader; a save is a sequence of checks and
writes of a sibling file, and only its last part replaces the file.
-/
import NativeDNS.Config.Document

namespace NativeDNS

open CheckedResult

inductive ConfigFile where
  | unsized
  | unopened
  | unread
  | contents (value : Bytes)
  deriving DecidableEq

/-- The part of `read_xml` before the parser. -/
def readConfigText : ConfigFile → Checked Bytes
  | .unsized => throw (.of "CONFIG_IO" "Cannot read config or config exceeds 4 MiB")
  | .unopened => throw (.of "CONFIG_IO" "Cannot open configuration")
  | .unread => throw (.of "CONFIG_IO" "Cannot read configuration")
  | .contents value => do
      rejectIf (value.length > textLimit)
        (.of "CONFIG_IO" "Cannot read config or config exceeds 4 MiB")
      pure value

def loadConfig (platform : Platform) (file : ConfigFile) : Checked Config := do
  let value ← readConfigText file
  parseConfig platform value

def loadExisting (platform : Platform) : Option ConfigFile → Checked (Option Config)
  | some file => do
      let config ← loadConfig platform file
      pure (some config)
  | none => pure none

/-- How the file system answers the steps of a save. -/
structure SaveOutcome where
  written : Except Thrown Unit := .ok ()
  reread : Checked Unit := .ok ()
  published : Except Thrown Unit := .ok ()

/-- The errors of the core among those a handler can receive. -/
def raised {α : Type} : Checked α → Except Thrown α
  | .ok value => .ok value
  | .error error => .error (.error error)

/-- The file after a save; a save that raises leaves the file alone. -/
def saveConfig (platform : Platform) (outcome : SaveOutcome)
    (file : Option ConfigFile) (config : Config) : Except Thrown ConfigFile := do
  let data ← raised (serializeConfig platform config)
  let _ ← raised (loadExisting platform file)
  outcome.written
  raised outcome.reread
  let _ ← raised (loadConfig platform (.contents data))
  outcome.published
  pure (.contents data)

/-! ### Saved files -/

theorem saveConfig_loads {platform : Platform} {outcome : SaveOutcome}
    {file : Option ConfigFile} {config : Config} {saved : ConfigFile}
    (ran : saveConfig platform outcome file config = .ok saved) :
    ∃ data loaded, serializeConfig platform config = .ok data ∧
      saved = .contents data ∧ loadConfig platform saved = .ok loaded := by
  have accepted : ∀ {α : Type} {result : Checked α} {value : α},
      raised result = .ok value → result = .ok value := by
    intro α result value returned
    cases result with
    | ok found =>
        cases returned
        rfl
    | error error =>
        cases returned
  simp only [saveConfig, bind_eq_ok, pure_eq_ok] at ran
  obtain ⟨data, serialized, _, _, _, _, _, _, loaded, reread, _, _, same⟩ := ran
  cases same
  exact ⟨data, loaded, accepted serialized, rfl, accepted reread⟩

end NativeDNS

/-
Runtime options read from the settings map.

A native key takes precedence over the imported key with the `yoga.settings.`
prefix.
-/
import NativeDNS.Names

namespace NativeDNS

open ByteText (text readDecimal)
open CheckedResult

structure RuntimeOptions where
  clearDnsCache : Bool := false
  blockTcp53 : Bool := false
  interceptOthers : Bool := false
  captivePortalDetection : Bool := false
  ignoreInterfaceDown : Bool := false
  ttlMin : Nat := 0
  ttlMax : Nat := 2147483647
  deriving DecidableEq, Repr

/-- The largest TTL a clamp setting accepts, also the default maximum. -/
def maxTtlSetting : Nat := 2147483647

def settingValue (config : Config) (key : Bytes) : Option Bytes :=
  match config.settings.find? key with
  | some value => some value
  | none => config.settings.find? (text "yoga.settings." ++ key)

def booleanSetting (config : Config) (key : Bytes) : Checked Bool :=
  match settingValue config key with
  | none => pure false
  | some value =>
      if value = text "0" ∨ value = text "false" then pure false
      else if value = text "1" ∨ value = text "true" then pure true
      else
        throw
          { code := "CONFIG_SETTING"
            message := key ++ text " must be 0 or 1" }

def numberSetting (config : Config) (key : Bytes) (fallback : Nat) :
    Checked Nat :=
  match settingValue config key with
  | none => pure fallback
  | some value =>
      match readDecimal maxTtlSetting value with
      | some result => pure result
      | none =>
          throw
            { code := "CONFIG_SETTING"
              message := key ++ text " must be 0..2147483647" }

def runtimeOptions (config : Config) : Checked RuntimeOptions := do
  let clearDnsCache ← booleanSetting config (text "clearDnsCache")
  let blockTcp53 ← booleanSetting config (text "blockTcpPort53")
  let interceptOthers ← booleanSetting config (text "interceptOthers")
  let captivePortalDetection ←
    booleanSetting config (text "captivePortalDetection")
  let ignoreInterfaceDown ←
    booleanSetting config (text "ignore_rule_if_interface_down")
  let ttlMin ← numberSetting config (text "ttlMin") 0
  let ttlMax ← numberSetting config (text "ttlMax") 2147483647
  rejectIf (ttlMin > ttlMax)
    (.of "CONFIG_SETTING" "ttlMin must not exceed ttlMax")
  pure
    { clearDnsCache := clearDnsCache
      blockTcp53 := blockTcp53
      interceptOthers := interceptOthers
      captivePortalDetection := captivePortalDetection
      ignoreInterfaceDown := ignoreInterfaceDown
      ttlMin := ttlMin
      ttlMax := ttlMax }

private theorem numberSetting_le {config : Config} {key : Bytes}
    {fallback value : Nat} (fallbackOk : fallback ≤ maxTtlSetting)
    (read : numberSetting config key fallback = .ok value) :
    value ≤ maxTtlSetting := by
  unfold numberSetting at read
  split at read
  · cases read
    exact fallbackOk
  · split at read
    · rename_i result accepted
      cases read
      exact ByteText.readDecimal_le accepted
    · cases read

theorem runtimeOptions_ttl {config : Config} {options : RuntimeOptions}
    (read : runtimeOptions config = .ok options) :
    options.ttlMin ≤ options.ttlMax ∧ options.ttlMax ≤ maxTtlSetting := by
  simp only [runtimeOptions, bind_eq_ok, rejectIf_eq_ok, pure_eq_ok] at read
  obtain ⟨_, _, _, _, _, _, _, _, _, _, ttlMin, minRead, ttlMax, maxRead, _,
    ordered, built⟩ := read
  cases built
  exact ⟨Nat.le_of_not_lt ordered, numberSetting_le (by decide) maxRead⟩

end NativeDNS

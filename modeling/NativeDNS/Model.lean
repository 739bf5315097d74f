/-
The configuration data model and the error type of the core.

Strings are byte strings: nothing in the core restricts the bytes of a
configuration field to a character set before it is written.  Numbers have
the width of the source; scoped enumerations that the configuration reader
casts from a number keep every value of their underlying 32-bit integer.
-/
import NativeDNS.Library.ByteText
import NativeDNS.Library.OrderedMap
import NativeDNS.Library.CheckedResult

namespace NativeDNS

open ByteText (text decimal)
open CheckedResult

abbrev Bytes := ByteText

/-- The checked failure of the core: a stable code and a readable message. -/
structure Error where
  code : String
  message : Bytes
  deriving DecidableEq, Repr

abbrev Checked (α : Type) := Except Error α

def Error.of (code message : String) : Error :=
  { code := code
    message := text message }

/-- What a handler of the core can receive: a checked error or the text of
any other standard exception. -/
inductive Thrown where
  | error (error : Error)
  | exception (what : Bytes)
  deriving DecidableEq, Repr

inductive Protocol where
  | udp
  | tcp
  | doh
  | dot
  | doh3
  | doq
  | dnscrypt
  | anonymizedDnscrypt
  deriving DecidableEq, Repr

def Protocol.all : List Protocol :=
  [.udp, .tcp, .doh, .dot, .doh3, .doq, .dnscrypt, .anonymizedDnscrypt]

def Protocol.toNat : Protocol → Nat
  | .udp => 0
  | .tcp => 1
  | .doh => 2
  | .dot => 3
  | .doh3 => 4
  | .doq => 5
  | .dnscrypt => 6
  | .anonymizedDnscrypt => 7

def protocolName : Protocol → Bytes
  | .udp => text "udp"
  | .tcp => text "tcp"
  | .doh => text "doh"
  | .dot => text "dot"
  | .doh3 => text "doh3"
  | .doq => text "doq"
  | .dnscrypt => text "dnscrypt"
  | .anonymizedDnscrypt => text "anonymized_dnscrypt"

inductive Action where
  | process
  | bypass
  | block
  deriving DecidableEq, Repr

def actionName : Action → Bytes
  | .process => text "process"
  | .bypass => text "bypass"
  | .block => text "block"

/-- A scoped enumeration over `int`; the reader casts any 32-bit number. -/
structure BlockMode where
  value : BitVec 32
  deriving DecidableEq, Repr

namespace BlockMode

def zeroAddress : BlockMode := ⟨0⟩

def nxdomain : BlockMode := ⟨1⟩

def refused : BlockMode := ⟨2⟩

def silentDrop : BlockMode := ⟨3⟩

/-- The relational operator compares the underlying signed integers. -/
def exceeds (left right : BlockMode) : Bool :=
  right.value.slt left.value

end BlockMode

/-- A scoped enumeration over `int`; the reader casts any 32-bit number. -/
structure Level where
  value : BitVec 32
  deriving DecidableEq, Repr

namespace Level

def errorsOnly : Level := ⟨0⟩

def normal : Level := ⟨1⟩

def debug : Level := ⟨3⟩

/-- The relational operator compares the underlying signed integers. -/
def exceeds (left right : Level) : Bool :=
  right.value.slt left.value

end Level

structure NetworkRoute where
  interfaceId : Bytes := []
  interfaceName : Bytes := []
  index4 : UInt32 := 0
  index6 : UInt32 := 0
  scope6 : UInt32 := 0
  generation : UInt64 := 0
  deriving DecidableEq

abbrev Metadata := OrderedMap Bytes Bytes

structure Server where
  id : UInt32 := 0
  name : Bytes := []
  enabled : Bool := true
  protocol : Protocol := .udp
  ip : Bytes := []
  hostname : Bytes := []
  url : Bytes := []
  port : UInt16 := 0
  dnssecSupported : Bool := false
  timeoutMs : UInt32 := 3000
  allowDirectCertificateFallback : Bool := false
  fallbackIds : List UInt32 := []
  bootstrap : List Bytes := []
  hashes : List Bytes := []
  useSystemBootstrap : Bool := false
  route : NetworkRoute := {}
  publicKey : Bytes := []
  providerName : Bytes := []
  relay : Bytes := []
  metadata : Metadata := OrderedMap.empty
  deriving DecidableEq

structure Rule where
  id : UInt32 := 0
  name : Bytes := []
  enabled : Bool := true
  isDefault : Bool := false
  patterns : List Bytes := []
  action : Action := .process
  serverId : UInt32 := 0
  interfaceId : Bytes := []
  dnssecValidate : Bool := false
  dnssecRejectUnsigned : Bool := false
  blockMode : BlockMode := .zeroAddress
  metadata : Metadata := OrderedMap.empty
  deriving DecidableEq

structure LoggingSettings where
  screen : Level := .normal
  file : Level := .normal
  fileEnabled : Bool := true
  directory : Bytes := text "logs"
  deriving DecidableEq

structure Config where
  schemaVersion : UInt32 := 1
  servers : List Server := []
  rules : List Rule := []
  logging : LoggingSettings := {}
  testTarget : Bytes := text "iana.org"
  testConcurrency : UInt32 := 15
  settings : Metadata := OrderedMap.empty
  deriving DecidableEq

/-- The configuration of a fresh installation: one Default rule. -/
def defaultConfig : Config :=
  { rules :=
      [{ id := 1
         name := text "Default"
         isDefault := true
         patterns := [text "*"] }] }

/-- The operating-system primitives the core calls.  `parseIp` returns the
sixteen address bytes and whether the text is an IPv6 address; `formatIp`
never fails on the four or sixteen bytes it is given. -/
structure Platform where
  parseIp : Bytes → Option (Bytes × Bool)
  formatIp : Bytes → Bool → Bytes

/-- One decimal number of a dotted address, without leading zeros. -/
def dottedOctet (digits : Bytes) : Option UInt8 :=
  match ByteText.readDecimal 255 digits with
  | some value => if decimal value = digits then some (UInt8.ofNat value) else none
  | none => none

/-- The platform restricted to dotted IPv4 texts, for evaluated examples. -/
def ipv4Platform : Platform :=
  { parseIp := fun value =>
      match (ByteText.pieces (ByteText.byte '.') value).mapM dottedOctet with
      | some [a, b, c, d] => some (List.replicate 12 0 ++ [a, b, c, d], false)
      | _ => none
    formatIp := fun bytes _ =>
      ByteText.joined (ByteText.byte '.')
        (bytes.map (fun octet => decimal octet.toNat)) }

example : ipv4Platform.parseIp (text "10.0.0.53") =
    some ([0, 0, 0, 0, 0, 0, 0, 0, 0, 0, 0, 0, 10, 0, 0, 53], false) := by
  rfl

end NativeDNS

/-
Network snapshots, interface selectors and route keys.
-/
import NativeDNS.Names

namespace NativeDNS

open ByteText (text byte pieces decimal readDecimal)
open CheckedResult

structure InterfaceInfo where
  id : Bytes := []
  name : Bytes := []
  description : Bytes := []
  dnsSuffix : Bytes := []
  luid : UInt64 := 0
  index4 : UInt32 := 0
  index6 : UInt32 := 0
  metric4 : UInt32 := 0
  metric6 : UInt32 := 0
  mtu : UInt32 := 0
  up : Bool := false
  loopback : Bool := false
  captivePortal : Bool := false
  addresses : List Bytes := []
  dnsServers : List Bytes := []
  gateways : List Bytes := []
  deriving DecidableEq

structure NetworkSnapshot where
  generation : UInt64 := 0
  interfaces : List InterfaceInfo := []
  error : Bytes := []
  deriving DecidableEq

structure NumericEndpoint where
  address : Bytes
  scope6 : UInt32
  ipv6 : Bool
  deriving DecidableEq

def readUint32 (digits : Bytes) : Option UInt32 :=
  (readDecimal 4294967295 digits).map UInt32.ofNat

/-- A numeric address, with an optional `%` interface index for IPv6. -/
def parseNumericEndpoint (platform : Platform) (value : Bytes) :
    Checked NumericEndpoint := do
  let address := value.takeWhile (· != byte '%')
  match platform.parseIp address with
  | none =>
      throw (.of "ENDPOINT" "DNS endpoint requires a numeric IPv4/IPv6 address")
  | some (_, ipv6) =>
      match value.drop address.length with
      | [] => pure { address := address, scope6 := 0, ipv6 := ipv6 }
      | _ :: scope =>
          match readUint32 scope with
          | none =>
              throw (.of "ENDPOINT"
                "IPv6 scope must be a positive numeric interface index")
          | some scope6 => do
              rejectIf (ipv6 = false ∨ scope6 = 0)
                (.of "ENDPOINT"
                  "IPv6 scope must be a positive numeric interface index")
              pure { address := address, scope6 := scope6, ipv6 := ipv6 }

/-- Selector texts are compared in lower case without a `guid:` prefix. -/
def canonicalSelector (value : Bytes) : Bytes :=
  let lowered := value.map toLower
  if (text "guid:").isPrefixOf lowered then lowered.drop 5 else lowered

def selectorKinds : List Bytes :=
  [text "id", text "guid", text "index", text "name", text "suffix"]

/-- Whether an adapter answers a canonical selector of a given kind. -/
def interfaceMatches (kind needle : Bytes) (info : InterfaceInfo) : Bool :=
  if kind = text "name" then
    canonicalSelector info.name == needle ||
      canonicalSelector info.description == needle
  else if kind = text "suffix" then
    canonicalSelector info.dnsSuffix == needle
  else
    canonicalSelector info.id == needle || decimal info.index4.toNat == needle ||
      decimal info.index6.toNat == needle

def findInterface (snapshot : NetworkSnapshot) (id kind : Bytes) :
    Checked (Option InterfaceInfo) := do
  let needle := canonicalSelector id
  rejectIf (kind ∉ selectorKinds)
    { code := "NOT_IMPLEMENTED"
      message := text "Unsupported interface selector type: " ++ kind }
  match snapshot.interfaces.filter (interfaceMatches kind needle) with
  | [] => pure none
  | [info] => pure (some info)
  | _ :: _ :: _ =>
      throw (.of "INTERFACE_AMBIGUOUS"
        "Interface selector matches multiple adapters")

def networkRouteKey (route : NetworkRoute) : Bytes :=
  route.interfaceId ++ byte '|' :: (decimal route.index4.toNat ++ byte '|' ::
    (decimal route.index6.toNat ++ byte '|' ::
      (decimal route.scope6.toNat ++ byte '|' ::
        decimal route.generation.toNat)))

/-- Attach the generation of the shared monitor to a server without one. -/
def withNetworkContext (shared : NetworkSnapshot) (server : Server) : Server :=
  if server.route.generation = 0 then
    { server with
      route := { server.route with generation := shared.generation } }
  else server

end NativeDNS

/-
The pool key of the DoT and DoH transport.

The key writes the fields of a server, the key of its route and the entries of
its two lists one after another, with a bar between neighbours.  Nothing in it
tells where the bootstrap entries end and the pins begin, and nothing keeps a bar
out of a field.
-/
import NativeDNS.Network
import Mathlib.Data.List.Basic

namespace NativeDNS

open ByteText (text byte decimal joined pieces)

def bar : UInt8 := byte '|'

/-- The key computed by `SecureTransport::acquire`. -/
def securePoolKey (server : Server) : Bytes :=
  server.url ++ bar :: (server.ip ++ bar :: (decimal server.port.toNat ++ bar ::
    (server.hostname ++ bar :: (networkRouteKey server.route ++
      (server.bootstrap.flatMap (bar :: ·) ++ server.hashes.flatMap (bar :: ·))))))

/-! ### The property -/

/-- What a connection is opened for. -/
structure SameContext (left right : Server) : Prop where
  url : left.url = right.url
  ip : left.ip = right.ip
  port : left.port = right.port
  hostname : left.hostname = right.hostname
  route : left.route = right.route
  bootstrap : left.bootstrap = right.bootstrap
  hashes : left.hashes = right.hashes

/-- Routes are taken from published networks: an identifier and a generation have
one adapter, and so one name. -/
def OneAdapter (left right : NetworkRoute) : Prop :=
  left.interfaceId = right.interfaceId → left.generation = right.generation →
    left.interfaceName = right.interfaceName

/-- Only servers of the same context have the key of this one. -/
def KeySeparates (server : Server) : Prop :=
  ∀ other, OneAdapter other.route server.route →
    securePoolKey other = securePoolKey server → SameContext other server

/-- No bar in the text fields. -/
structure BarFree (server : Server) : Prop where
  url : bar ∉ server.url
  ip : bar ∉ server.ip
  hostname : bar ∉ server.hostname
  interfaceId : bar ∉ server.route.interfaceId

/-! ### The key as a joined list -/

def keyFields (server : Server) : List Bytes :=
  [server.url, server.ip, decimal server.port.toNat, server.hostname,
    server.route.interfaceId, decimal server.route.index4.toNat,
    decimal server.route.index6.toNat, decimal server.route.scope6.toNat,
    decimal server.route.generation.toNat]

theorem securePoolKey_eq (server : Server) :
    securePoolKey server =
      joined bar (keyFields server ++ (server.bootstrap ++ server.hashes)) := by
  have nonempty : keyFields server ≠ [] := List.cons_ne_nil _ _
  rw [ByteText.joined_append bar nonempty]
  simp only [securePoolKey, keyFields, networkRouteKey, joined, bar, List.append_assoc,
    List.cons_append, List.flatMap_append]

/-! ### Servers whose key is their own -/

theorem bar_decimal (value : Nat) : bar ∉ decimal value :=
  ByteText.not_mem_decimal (by decide) value

theorem BarFree.fields {server : Server} (free : BarFree server) :
    ∀ field ∈ keyFields server, bar ∉ field := by
  intro field member
  simp only [keyFields, List.mem_cons, List.not_mem_nil, or_false] at member
  rcases member with rfl | rfl | rfl | rfl | rfl | rfl | rfl | rfl | rfl
  · exact free.url
  · exact free.ip
  · exact bar_decimal _
  · exact free.hostname
  · exact free.interfaceId
  · exact bar_decimal _
  · exact bar_decimal _
  · exact bar_decimal _
  · exact bar_decimal _

theorem pieces_securePoolKey {server : Server} (fields : BarFree server)
    (entries : ∀ entry ∈ server.bootstrap ++ server.hashes, bar ∉ entry) :
    pieces bar (securePoolKey server) =
      keyFields server ++ (server.bootstrap ++ server.hashes) := by
  rw [securePoolKey_eq]
  apply ByteText.pieces_joined (List.append_ne_nil_of_left_ne_nil (List.cons_ne_nil _ _) _)
  intro item member
  rcases List.mem_append.mp member with field | entry
  · exact fields.fields item field
  · exact entries item entry

theorem keyFields_of_key {left right : Server} (leftFree : BarFree left)
    (rightFree : BarFree right) (same : securePoolKey left = securePoolKey right) :
    keyFields left = keyFields right := by
  have cut : ∀ {server : Server}, BarFree server →
      pieces bar (securePoolKey server ++ [bar]) = keyFields server ++
        pieces bar ((server.bootstrap ++ server.hashes).flatMap (· ++ [bar])) := by
    intro server free
    have nonempty : keyFields server ++ (server.bootstrap ++ server.hashes) ≠ [] :=
      List.append_ne_nil_of_left_ne_nil (List.cons_ne_nil _ _) _
    rw [securePoolKey_eq, ByteText.joined_terminated bar nonempty, List.flatMap_append]
    exact ByteText.pieces_terminated _ _ free.fields
  have equal := cut leftFree
  rw [same, cut rightFree] at equal
  exact (List.append_inj equal rfl).1.symm

theorem generation_of_key {left right : Server} (leftFree : BarFree left)
    (rightFree : BarFree right) (same : securePoolKey left = securePoolKey right) :
    left.route.generation = right.route.generation := by
  have fields := keyFields_of_key leftFree rightFree same
  simp only [keyFields, List.cons.injEq, and_true] at fields
  exact UInt64.toNat_inj.mp (ByteText.decimal_injective fields.2.2.2.2.2.2.2.2)

/-- Servers with the same fields and the same entries have one context when their
lists are cut at the same place. -/
theorem sameContext_of_fields {left right : Server}
    (adapter : OneAdapter left.route right.route)
    (fields : keyFields left = keyFields right)
    (entries : left.bootstrap ++ left.hashes = right.bootstrap ++ right.hashes)
    (cut : left.bootstrap.length = right.bootstrap.length) : SameContext left right := by
  obtain ⟨bootstrap, hashes⟩ := List.append_inj entries cut
  simp only [keyFields, List.cons.injEq, and_true] at fields
  obtain ⟨url, ip, port, hostname, interfaceId, index4, index6, scope6, generation⟩ := fields
  have sameGeneration : left.route.generation = right.route.generation :=
    UInt64.toNat_inj.mp (ByteText.decimal_injective generation)
  have route : left.route = right.route := by
    have name := adapter interfaceId sameGeneration
    have four : left.route.index4 = right.route.index4 :=
      UInt32.toNat_inj.mp (ByteText.decimal_injective index4)
    have six : left.route.index6 = right.route.index6 :=
      UInt32.toNat_inj.mp (ByteText.decimal_injective index6)
    have scope : left.route.scope6 = right.route.scope6 :=
      UInt32.toNat_inj.mp (ByteText.decimal_injective scope6)
    revert name four six scope interfaceId sameGeneration
    cases left.route
    cases right.route
    intro interfaceId sameGeneration name four six scope
    cases interfaceId
    cases name
    cases four
    cases six
    cases scope
    cases sameGeneration
    rfl
  exact
    { url := url
      ip := ip
      port := UInt16.toNat_inj.mp (ByteText.decimal_injective port)
      hostname := hostname
      route := route
      bootstrap := bootstrap
      hashes := hashes }

theorem count_plainKey {server : Server} (free : BarFree server)
    (bootstrap : server.bootstrap = []) (hashes : server.hashes = []) :
    (securePoolKey server).count bar = 8 := by
  have counted := ByteText.count_joined bar
    (List.cons_ne_nil server.url (keyFields server).tail)
  have none : ((keyFields server).map (List.count bar)).sum = 0 := by
    apply List.sum_eq_zero_iff_forall_eq_nat.mpr
    intro number member
    obtain ⟨field, inside, same⟩ := List.mem_map.mp member
    rw [← same, List.count_eq_zero]
    exact free.fields field inside
  have nine : (keyFields server).length = 9 := rfl
  change (joined bar (keyFields server)).count bar + 1 =
    (keyFields server).length + ((keyFields server).map (List.count bar)).sum at counted
  rw [securePoolKey_eq, bootstrap, hashes, List.append_nil, List.append_nil]
  omega

theorem plain_of_count {server : Server} (eight : (securePoolKey server).count bar = 8) :
    BarFree server ∧ server.bootstrap = [] ∧ server.hashes = [] := by
  have counted := ByteText.count_joined bar (List.append_ne_nil_of_left_ne_nil
    (List.cons_ne_nil server.url (keyFields server).tail)
    (server.bootstrap ++ server.hashes))
  change (joined bar (keyFields server ++ _)).count bar + 1 =
    (keyFields server ++ _).length + ((keyFields server ++ _).map (List.count bar)).sum
    at counted
  rw [← securePoolKey_eq, eight, List.length_append, List.length_append, List.map_append,
    List.sum_append] at counted
  have nine : (keyFields server).length = 9 := rfl
  have sum : ((keyFields server).map (List.count bar)).sum = 0 := by
    omega
  have each : ∀ field ∈ keyFields server, bar ∉ field := by
    intro field member
    rw [← List.count_eq_zero]
    exact List.sum_eq_zero_iff_forall_eq_nat.mp sum _ (List.mem_map_of_mem member)
  refine ⟨?_, List.eq_nil_of_length_eq_zero (by omega),
    List.eq_nil_of_length_eq_zero (by omega)⟩
  simp only [keyFields, List.forall_mem_cons] at each
  exact
    { url := each.1
      ip := each.2.1
      hostname := each.2.2.2.1
      interfaceId := each.2.2.2.2.1 }

/-! ### Servers that share a key -/

theorem OneAdapter.refl (route : NetworkRoute) : OneAdapter route route :=
  fun _ _ => rfl

theorem bootstrap_of_separates {server : Server} (separates : KeySeparates server) :
    server.bootstrap = [] := by
  rcases List.eq_nil_or_concat server.bootstrap with empty | ⟨front, last, whole⟩
  · exact empty
  · rw [List.concat_eq_append] at whole
    let other : Server :=
      { server with
        bootstrap := front
        hashes := last :: server.hashes }
    have same : securePoolKey other = securePoolKey server := by
      rw [securePoolKey_eq, securePoolKey_eq, whole, List.append_assoc]
      rfl
    have context := separates other (.refl _) same
    have lengths := congrArg List.length context.bootstrap
    rw [whole, List.length_append, List.length_singleton] at lengths
    exact absurd lengths (by simp only [other]; omega)

theorem hashes_of_separates {server : Server} (separates : KeySeparates server) :
    server.hashes = [] := by
  cases entries : server.hashes with
  | nil =>
      rfl
  | cons first rest =>
      let other : Server :=
        { server with
          bootstrap := server.bootstrap ++ [first]
          hashes := rest }
      have same : securePoolKey other = securePoolKey server := by
        rw [securePoolKey_eq, securePoolKey_eq, entries]
        simp only [other, List.append_assoc]
        rfl
      have context := separates other (.refl _) same
      have lengths := congrArg List.length context.hashes
      rw [entries, List.length_cons] at lengths
      exact absurd lengths (by simp only [other]; omega)

theorem barFree_of_separates {server : Server} (separates : KeySeparates server) :
    BarFree server := by
  constructor
  case url =>
    intro member
    obtain ⟨front, back, whole⟩ := List.append_of_mem member
    have context := separates
      { server with
        url := front
        ip := back ++ bar :: server.ip } (.refl _)
      (by simp only [securePoolKey, whole, List.append_assoc, List.cons_append])
    have lengths := congrArg List.length context.url
    simp only [whole, List.length_append, List.length_cons] at lengths
    omega
  case ip =>
    intro member
    obtain ⟨front, back, whole⟩ := List.append_of_mem member
    have context := separates
      { server with
        url := server.url ++ bar :: front
        ip := back } (.refl _)
      (by simp only [securePoolKey, whole, List.append_assoc, List.cons_append])
    have lengths := congrArg List.length context.ip
    simp only [whole, List.length_append, List.length_cons] at lengths
    omega
  case hostname =>
    intro member
    obtain ⟨front, back, whole⟩ := List.append_of_mem member
    have longer : back ++ bar :: server.route.interfaceId ≠ server.route.interfaceId := by
      intro same
      have lengths := congrArg List.length same
      simp only [List.length_append, List.length_cons] at lengths
      omega
    have context := separates
      { server with
        hostname := front
        route := { server.route with
          interfaceId := back ++ bar :: server.route.interfaceId } }
      (fun same _ => absurd same longer)
      (by simp only [securePoolKey, networkRouteKey, bar, whole, List.append_assoc,
            List.cons_append])
    exact longer (congrArg NetworkRoute.interfaceId context.route)
  case interfaceId =>
    intro member
    obtain ⟨front, back, whole⟩ := List.append_of_mem member
    have shorter : back ≠ server.route.interfaceId := by
      intro same
      have lengths := congrArg List.length same
      simp only [whole, List.length_append, List.length_cons] at lengths
      omega
    have context := separates
      { server with
        hostname := server.hostname ++ bar :: front
        route := { server.route with interfaceId := back } }
      (fun same _ => absurd same shorter)
      (by simp only [securePoolKey, networkRouteKey, bar, whole, List.append_assoc,
            List.cons_append])
    exact shorter (congrArg NetworkRoute.interfaceId context.route)

/-- A server has a key of its own exactly when both its lists are empty and no text
field holds a bar.  Among servers without bars it is the cut between the two lists
that the key does not tell. -/
theorem securePoolKey_separates (server : Server) :
    (KeySeparates server ↔
      server.bootstrap = [] ∧ server.hashes = [] ∧ BarFree server) ∧
    ∀ other, BarFree other → BarFree server →
      (∀ entry ∈ other.bootstrap ++ other.hashes, bar ∉ entry) →
      (∀ entry ∈ server.bootstrap ++ server.hashes, bar ∉ entry) →
      OneAdapter other.route server.route →
      securePoolKey other = securePoolKey server →
        (SameContext other server ↔ other.bootstrap.length = server.bootstrap.length) := by
  constructor
  · constructor
    · intro separates
      exact ⟨bootstrap_of_separates separates, hashes_of_separates separates,
        barFree_of_separates separates⟩
    · rintro ⟨bootstrap, hashes, free⟩ other adapter same
      have eight := count_plainKey free bootstrap hashes
      rw [← same] at eight
      obtain ⟨otherFree, otherBootstrap, otherHashes⟩ := plain_of_count eight
      have cut := congrArg (pieces bar) same
      rw [pieces_securePoolKey otherFree (by simp [otherBootstrap, otherHashes]),
        pieces_securePoolKey free (by simp [bootstrap, hashes]), otherBootstrap,
        otherHashes, bootstrap, hashes, List.append_nil, List.append_nil] at cut
      apply sameContext_of_fields adapter (List.append_cancel_right cut)
      · rw [otherBootstrap, otherHashes, bootstrap, hashes]
      · rw [otherBootstrap, bootstrap]
  · intro other otherFree free otherEntries entries adapter same
    constructor
    · intro context
      rw [context.bootstrap]
    · intro length
      have cut := congrArg (pieces bar) same
      rw [pieces_securePoolKey otherFree otherEntries,
        pieces_securePoolKey free entries] at cut
      obtain ⟨fields, lists⟩ := List.append_inj cut rfl
      exact sameContext_of_fields adapter fields lists length

/-- A pinned server and one without a pin whose unused bootstrap entry is that pin. -/
def pinnedServer : Server :=
  { id := 1
    name := text "pinned"
    protocol := .doh
    ip := text "192.0.2.1"
    url := text "https://dns.example/dns-query"
    hashes := [text "sha256//AAAAAAAAAAAAAAAAAAAAAAAAAAAAAAAAAAAAAAAAAAA="] }

def unpinnedServer : Server :=
  { pinnedServer with
    id := 2
    name := text "unpinned"
    bootstrap := [text "sha256//AAAAAAAAAAAAAAAAAAAAAAAAAAAAAAAAAAAAAAAAAAA="]
    hashes := [] }

theorem securePoolKey_shared :
    securePoolKey unpinnedServer = securePoolKey pinnedServer ∧
      unpinnedServer.route = pinnedServer.route ∧
      unpinnedServer.hashes ≠ pinnedServer.hashes := by
  decide +kernel

end NativeDNS

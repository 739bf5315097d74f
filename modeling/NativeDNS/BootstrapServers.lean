/-
The resolvers of the network adapters as bootstrap resolvers.

Addresses of adapters that are up are taken unless their bytes show that no
resolver of the network can be behind them.  The others are ranked by the
adapter and their position, and an address text is kept at its best rank.
-/
import NativeDNS.Library.RankedChoice
import NativeDNS.NetworkMonitor
import NativeDNS.Wire.Bytes
import Mathlib.Data.Nat.Digits.Lemmas
import Mathlib.Data.List.Sort
import Mathlib.Data.Prod.Lex

namespace NativeDNS

open ByteText (text)
open CheckedResult

structure BootstrapCandidate where
  address : Bytes
  interfaceId : Bytes
  noGateway : Bool
  metric : UInt32
  order : Nat
  deriving DecidableEq

/-! ### The bytes of an address -/

def allZero (bytes : Packet) : Bool :=
  bytes.all (· == 0)

def skippedIpv4 (bytes : Packet) : Bool :=
  byteAt bytes 12 == 0 || byteAt bytes 12 == 127 || 224 ≤ byteAt bytes 12

/-- The resolvers that Windows puts on adapters without any. -/
def placeholderIpv6 (bytes : Packet) : Bool :=
  byteAt bytes 0 == 0xfe && byteAt bytes 1 == 0xc0 &&
    allZero (slice bytes 2 4) &&
    byteAt bytes 6 == 0xff && byteAt bytes 7 == 0xff &&
    allZero (slice bytes 8 7) &&
    1 ≤ byteAt bytes 15 && byteAt bytes 15 ≤ 3

def skippedIpv6 (bytes : Packet) (scope6 : UInt32) : Bool :=
  (allZero (slice bytes 0 15) && byteAt bytes 15 ≤ 1 ||
      byteAt bytes 0 == 0xff) ||
    (placeholderIpv6 bytes ||
      byteAt bytes 0 == 0xfe && byteAt bytes 1 &&& 0xc0 == 0x80 && scope6 == 0)

section Selection

variable (platform : Platform)

def bootstrapCandidate (info : InterfaceInfo) (address : Bytes) (order : Nat) :
    Option BootstrapCandidate :=
  match parseNumericEndpoint platform address with
  | .error _ => none
  | .ok endpoint =>
      match platform.parseIp endpoint.address with
      | none => none
      | some (bytes, ipv6) =>
          if (if ipv6 then skippedIpv6 bytes endpoint.scope6
              else skippedIpv4 bytes) then none
          else
            some
              { address := address
                interfaceId := info.id
                noGateway := info.gateways.isEmpty
                metric := if ipv6 then info.metric6 else info.metric4
                order := order }

def interfaceCandidates (info : InterfaceInfo) : List BootstrapCandidate :=
  if !info.up || info.loopback then []
  else
    info.dnsServers.zipIdx.filterMap fun entry =>
      bootstrapCandidate platform info entry.1 entry.2

def bootstrapCandidates (interfaces : List InterfaceInfo) :
    List BootstrapCandidate :=
  interfaces.flatMap (interfaceCandidates platform)

end Selection

/-- What candidates are compared by, the first difference deciding. -/
abbrev BootstrapRank := Bool ×ₗ Nat ×ₗ Bytes ×ₗ Nat

def BootstrapCandidate.rank (candidate : BootstrapCandidate) : BootstrapRank :=
  toLex (candidate.noGateway, toLex (candidate.metric.toNat,
    toLex (candidate.interfaceId, candidate.order)))

def sortCandidates (candidates : List BootstrapCandidate) :
    List BootstrapCandidate :=
  candidates.insertionSort fun a b => ¬ b.rank < a.rank

def selectBootstrapDnsServers (platform : Platform)
    (interfaces : List InterfaceInfo) : List Bytes :=
  (sortCandidates (bootstrapCandidates platform interfaces)).foldl
    (fun result candidate => RankedChoice.keepNew result candidate.address) []

/-! ### What is offered -/

/-- The number that `count` bytes spell. -/
def addressValue (bytes : Packet) (offset : Nat) : Nat → Nat
  | 0 => 0
  | count + 1 =>
      addressValue bytes offset count * 256 + (byteAt bytes (offset + count)).toNat

/-- The first `bits` bits of an address of a given width. -/
def leadingBits (width bits value : Nat) : Nat :=
  value / 2 ^ (width - bits)

inductive ExcludedIpv4 (value : Nat) : Prop
  | thisNetwork (leading : leadingBits 32 8 value = 0)
  | loopback (leading : leadingBits 32 8 value = 127)
  | multicastOrReserved (leading : 224 ≤ leadingBits 32 8 value)

inductive ExcludedIpv6 (value scope : Nat) : Prop
  | unspecified (zero : value = 0)
  | loopback (one : value = 1)
  | multicast (leading : leadingBits 128 8 value = 0xff)
  | placeholder (last : Nat) (range : 1 ≤ last ∧ last ≤ 3)
      (site : value = 0xfec000000000ffff0000000000000000 + last)
  | unscopedLinkLocal (leading : leadingBits 128 10 value = 0x3fa)
      (unscoped : scope = 0)

def ExcludedResolver (endpoint : NumericEndpoint) (bytes : Packet) : Prop :=
  if endpoint.ipv6 then
    ExcludedIpv6 (addressValue bytes 0 16) endpoint.scope6.toNat
  else ExcludedIpv4 (addressValue bytes 12 4)

def resolverRank (info : InterfaceInfo) (ipv6 : Bool) (position : Nat) :
    BootstrapRank :=
  toLex (info.gateways.isEmpty,
    toLex ((if ipv6 then info.metric6 else info.metric4).toNat,
      toLex (info.id, position)))

section Offers

variable (platform : Platform) (interfaces : List InterfaceInfo)

structure ListedResolver (info : InterfaceInfo) (position : Nat)
    (address : Bytes) (endpoint : NumericEndpoint) (bytes : Packet) : Prop where
  member : info ∈ interfaces
  up : info.up = true
  outside : info.loopback = false
  listed : info.dnsServers[position]? = some address
  numeric : parseNumericEndpoint platform address = .ok endpoint
  parsed : platform.parseIp endpoint.address = some (bytes, endpoint.ipv6)
  eligible : ¬ ExcludedResolver endpoint bytes

/-- An address text is listed at a rank. -/
def OfferedResolver (rank : BootstrapRank) (address : Bytes) : Prop :=
  ∃ info position endpoint bytes,
    ListedResolver platform interfaces info position address endpoint bytes ∧
      rank = resolverRank info endpoint.ipv6 position

/-- The listed texts, each once, by their best ranks. -/
structure BootstrapSelection (selected : List Bytes) : Prop where
  distinct : selected.Nodup
  offered : ∀ address, address ∈ selected ↔
    ∃ rank, OfferedResolver platform interfaces rank address
  ordered : selected.Pairwise fun first second =>
    ∃ rank, OfferedResolver platform interfaces rank first ∧
      ∀ other, OfferedResolver platform interfaces other second → rank < other

end Offers

/-! ### The byte tests -/

section Bytes

variable {bytes : Packet}

theorem addressValue_add (offset first second : Nat) :
    addressValue bytes offset (first + second) =
      addressValue bytes offset first * 256 ^ second +
        addressValue bytes (offset + first) second := by
  induction second with
  | zero =>
      rw [Nat.add_zero, Nat.pow_zero, Nat.mul_one, addressValue, Nat.add_zero]
  | succ second ih =>
      rw [← Nat.add_assoc, addressValue, ih, addressValue, Nat.pow_succ,
        Nat.add_mul, Nat.mul_assoc, Nat.add_assoc, Nat.add_assoc]

theorem addressValue_lt (offset count : Nat) :
    addressValue bytes offset count < 256 ^ count := by
  induction count with
  | zero =>
      exact Nat.zero_lt_one
  | succ count ih =>
      have last := (byteAt bytes (offset + count)).toNat_lt
      rw [addressValue, Nat.pow_succ]
      omega

theorem addressValue_one (offset : Nat) :
    addressValue bytes offset 1 = (byteAt bytes offset).toNat := by
  rw [addressValue, addressValue, Nat.zero_mul, Nat.zero_add, Nat.add_zero]

theorem allZero_slice (offset count : Nat) :
    allZero (slice bytes offset count) = true ↔
      addressValue bytes offset count = 0 := by
  induction count with
  | zero =>
      exact ⟨fun _ => rfl, fun _ => by rw [slice, List.take_zero]; rfl⟩
  | succ count ih =>
      have last : slice bytes offset (count + 1) =
          slice bytes offset count ++ bytes[offset + count]?.toList := by
        rw [slice, slice, List.take_add_one, List.getElem?_drop]
      have byte_zero : bytes[offset + count]?.toList.all (· == 0) = true ↔
          (byteAt bytes (offset + count)).toNat = 0 := by
        rw [byteAt, List.getD_eq_getElem?_getD]
        cases bytes[offset + count]? with
        | none =>
            exact ⟨fun _ => rfl, fun _ => rfl⟩
        | some value =>
            rw [Option.toList_some, List.all_cons, List.all_nil, Bool.and_true,
              beq_iff_eq, Option.getD_some, ← UInt8.toNat_inj]
            rfl
      rw [last, allZero, List.all_append, Bool.and_eq_true, byte_zero]
      change allZero _ = true ∧ _ ↔ _
      rw [ih, addressValue]
      omega

set_option maxRecDepth 4000 in
private theorem linkLocalKinds :
    ∀ value < 256, UInt8.ofNat value &&& 0xc0 = 0x80 ↔ value / 64 = 2 := by
  decide

theorem isLinkLocal_iff (value : UInt8) :
    value &&& 0xc0 = 0x80 ↔ value.toNat / 64 = 2 := by
  have kinds := linkLocalKinds value.toNat value.toNat_lt
  rwa [UInt8.ofNat_toNat] at kinds

theorem addressValue_leading (offset first second : Nat) :
    addressValue bytes offset (first + second) / 256 ^ second =
      addressValue bytes offset first := by
  rw [addressValue_add, Nat.add_comm, Nat.add_mul_div_right _ _
    (Nat.pow_pos (by decide)), Nat.div_eq_of_lt (addressValue_lt _ _),
    Nat.zero_add]

theorem skippedIpv4_iff :
    skippedIpv4 bytes = true ↔ ExcludedIpv4 (addressValue bytes 12 4) := by
  have leading : leadingBits 32 8 (addressValue bytes 12 4) =
      (byteAt bytes 12).toNat := by
    rw [← addressValue_one]
    exact addressValue_leading 12 1 3
  unfold skippedIpv4
  simp only [Bool.or_eq_true, beq_iff_eq, decide_eq_true_eq,
    ← UInt8.toNat_inj, UInt8.le_iff_toNat_le]
  constructor
  · rintro ((zero | loopback) | reserved)
    · exact .thisNetwork (leading.trans zero)
    · exact .loopback (leading.trans loopback)
    · exact .multicastOrReserved (by rw [leading]; exact reserved)
  · intro excluded
    cases excluded with
    | thisNetwork same =>
        exact Or.inl (Or.inl (leading.symm.trans same))
    | loopback same =>
        exact Or.inl (Or.inr (leading.symm.trans same))
    | multicastOrReserved most =>
        rw [leading] at most
        exact Or.inr most

theorem placeholderIpv6_iff :
    placeholderIpv6 bytes = true ↔
      ∃ last, (1 ≤ last ∧ last ≤ 3) ∧ addressValue bytes 0 16 =
        0xfec000000000ffff0000000000000000 + last := by
  have split : addressValue bytes 0 16 =
      ((((((byteAt bytes 0).toNat * 256 + (byteAt bytes 1).toNat) * 256 ^ 4 +
        addressValue bytes 2 4) * 256 + (byteAt bytes 6).toNat) * 256 +
          (byteAt bytes 7).toNat) * 256 ^ 7 + addressValue bytes 8 7) * 256 +
            (byteAt bytes 15).toNat := by
    rw [show (16 : Nat) = 15 + 1 from rfl, addressValue,
      addressValue_add 0 8 7, show (8 : Nat) = 7 + 1 from rfl, addressValue,
      addressValue, addressValue_add 0 2 4, addressValue, addressValue_one]
  have first := (byteAt bytes 0).toNat_lt
  have second := (byteAt bytes 1).toNat_lt
  have third := @addressValue_lt bytes 2 4
  have sixth := (byteAt bytes 6).toNat_lt
  have seventh := (byteAt bytes 7).toNat_lt
  have rest := @addressValue_lt bytes 8 7
  have last := (byteAt bytes 15).toNat_lt
  unfold placeholderIpv6
  simp only [Bool.and_eq_true, beq_iff_eq, decide_eq_true_eq, allZero_slice,
    ← UInt8.toNat_inj, UInt8.le_iff_toNat_le, UInt8.reduceToNat]
  rw [split]
  constructor
  · rintro ⟨⟨⟨⟨⟨⟨⟨zeroth, one⟩, gap⟩, six⟩, seven⟩, tail⟩, low⟩, high⟩
    exact ⟨(byteAt bytes 15).toNat, ⟨low, high⟩, by omega⟩
  · rintro ⟨number, range, same⟩
    omega

theorem skippedIpv6_iff (scope6 : UInt32) :
    skippedIpv6 bytes scope6 = true ↔
      ExcludedIpv6 (addressValue bytes 0 16) scope6.toNat := by
  have multicast : leadingBits 128 8 (addressValue bytes 0 16) =
      (byteAt bytes 0).toNat := by
    rw [← addressValue_one]
    exact addressValue_leading 0 1 15
  have linkLocal : leadingBits 128 10 (addressValue bytes 0 16) =
      ((byteAt bytes 0).toNat * 256 + (byteAt bytes 1).toNat) / 64 := by
    have two : addressValue bytes 0 2 =
        (byteAt bytes 0).toNat * 256 + (byteAt bytes 1).toNat := by
      rw [addressValue, addressValue_one]
    rw [← two, ← addressValue_leading 0 2 14, Nat.div_div_eq_div_mul]
    rfl
  have small : allZero (slice bytes 0 15) = true ∧ (byteAt bytes 15).toNat ≤ 1 ↔
      addressValue bytes 0 16 = 0 ∨ addressValue bytes 0 16 = 1 := by
    have last := (byteAt bytes 15).toNat_lt
    have split : addressValue bytes 0 16 =
        addressValue bytes 0 15 * 256 + (byteAt bytes 15).toNat := rfl
    rw [allZero_slice, split]
    omega
  have unscoped_iff : scope6 = 0 ↔ scope6.toNat = 0 := by
    rw [← UInt32.toNat_inj]
    rfl
  have first := (byteAt bytes 0).toNat_lt
  have second := (byteAt bytes 1).toNat_lt
  unfold skippedIpv6
  simp only [Bool.or_eq_true, Bool.and_eq_true, beq_iff_eq, decide_eq_true_eq,
    isLinkLocal_iff, unscoped_iff, placeholderIpv6_iff]
  simp only [← UInt8.toNat_inj, UInt8.le_iff_toNat_le, UInt8.reduceToNat, small]
  constructor
  · rintro (((zero | one) | all) | ⟨number, range, site⟩ | ⟨⟨fe, kind⟩, unscoped⟩)
    · exact .unspecified zero
    · exact .loopback one
    · exact .multicast (multicast.trans all)
    · exact .placeholder number range site
    · exact .unscopedLinkLocal (by rw [linkLocal]; omega) unscoped
  · intro excluded
    cases excluded with
    | unspecified zero =>
        exact Or.inl (Or.inl (Or.inl zero))
    | loopback one =>
        exact Or.inl (Or.inl (Or.inr one))
    | multicast leading =>
        exact Or.inl (Or.inr (multicast.symm.trans leading))
    | placeholder number range site =>
        exact Or.inr (Or.inl ⟨number, range, site⟩)
    | unscopedLinkLocal leading unscoped =>
        rw [linkLocal] at leading
        exact Or.inr (Or.inr ⟨by omega, unscoped⟩)

end Bytes

/-! ### The candidates -/

section Candidates

variable {platform : Platform} {interfaces : List InterfaceInfo}

theorem parseNumericEndpoint_parsed {value : Bytes} {endpoint : NumericEndpoint}
    (numeric : parseNumericEndpoint platform value = .ok endpoint) :
    ∃ bytes, platform.parseIp endpoint.address = some (bytes, endpoint.ipv6) := by
  unfold parseNumericEndpoint at numeric
  dsimp only at numeric
  split at numeric
  · cases numeric
  · rename_i bytes ipv6 parsed
    split at numeric
    · cases numeric
      exact ⟨bytes, parsed⟩
    · split at numeric
      · cases numeric
      · rw [bind_eq_ok] at numeric
        obtain ⟨_, _, returned⟩ := numeric
        cases returned
        exact ⟨bytes, parsed⟩

theorem bootstrapCandidate_eq_some {info : InterfaceInfo} {address : Bytes}
    {order : Nat} {candidate : BootstrapCandidate} :
    bootstrapCandidate platform info address order = some candidate ↔
      ∃ endpoint bytes, parseNumericEndpoint platform address = .ok endpoint ∧
        platform.parseIp endpoint.address = some (bytes, endpoint.ipv6) ∧
        ¬ ExcludedResolver endpoint bytes ∧
        candidate =
          { address := address
            interfaceId := info.id
            noGateway := info.gateways.isEmpty
            metric := if endpoint.ipv6 then info.metric6 else info.metric4
            order := order } := by
  have skipped_iff : ∀ (endpoint : NumericEndpoint) (bytes : Packet),
      (if endpoint.ipv6 then skippedIpv6 bytes endpoint.scope6
        else skippedIpv4 bytes) = true ↔ ExcludedResolver endpoint bytes := by
    intro endpoint bytes
    unfold ExcludedResolver
    cases endpoint.ipv6 with
    | true =>
        exact skippedIpv6_iff endpoint.scope6
    | false =>
        exact skippedIpv4_iff
  unfold bootstrapCandidate
  constructor
  · intro found
    split at found
    · cases found
    · rename_i endpoint numeric
      obtain ⟨bytes, parsed⟩ := parseNumericEndpoint_parsed numeric
      rw [parsed] at found
      dsimp only at found
      by_cases excluded : ExcludedResolver endpoint bytes
      · rw [if_pos ((skipped_iff endpoint bytes).mpr excluded)] at found
        cases found
      · rw [if_neg (mt (skipped_iff endpoint bytes).mp excluded)] at found
        exact ⟨endpoint, bytes, numeric, parsed, excluded,
          (Option.some.inj found).symm⟩
  · rintro ⟨endpoint, bytes, numeric, parsed, kept, rfl⟩
    rw [numeric]
    dsimp only
    rw [parsed]
    exact if_neg fun skipped => kept ((skipped_iff endpoint bytes).mp skipped)

theorem mem_bootstrapCandidates {candidate : BootstrapCandidate} :
    candidate ∈ bootstrapCandidates platform interfaces ↔
      ∃ info position address endpoint bytes,
        ListedResolver platform interfaces info position address endpoint
            bytes ∧
          candidate =
            { address := address
              interfaceId := info.id
              noGateway := info.gateways.isEmpty
              metric := if endpoint.ipv6 then info.metric6 else info.metric4
              order := position } := by
  unfold bootstrapCandidates interfaceCandidates
  rw [List.mem_flatMap]
  constructor
  · rintro ⟨info, member, inside⟩
    split at inside
    · cases inside
    · rename_i usable
      obtain ⟨entry, listed, found⟩ := List.mem_filterMap.mp inside
      obtain ⟨endpoint, bytes, numeric, parsed, kept, same⟩ :=
        bootstrapCandidate_eq_some.mp found
      have position := List.mem_zipIdx_iff_getElem?.mp listed
      simp only [Bool.or_eq_true, Bool.not_eq_true', not_or,
        Bool.not_eq_false, Bool.not_eq_true] at usable
      exact ⟨info, entry.2, entry.1, endpoint, bytes,
        { member := member
          up := usable.1
          outside := usable.2
          listed := position
          numeric := numeric
          parsed := parsed
          eligible := kept }, same⟩
  · rintro ⟨info, position, address, endpoint, bytes, listed, same⟩
    refine ⟨info, listed.member, ?_⟩
    rw [if_neg (by rw [listed.up, listed.outside]; exact Bool.false_ne_true)]
    refine List.mem_filterMap.mpr ⟨(address, position), ?_, ?_⟩
    · exact List.mem_zipIdx_iff_getElem?.mpr listed.listed
    · exact bootstrapCandidate_eq_some.mpr ⟨endpoint, bytes, listed.numeric,
        listed.parsed, listed.eligible, same⟩

/-! ### The ranks -/

def resolverOffers (platform : Platform) (interfaces : List InterfaceInfo) :
    List (BootstrapRank × Bytes) :=
  (sortCandidates (bootstrapCandidates platform interfaces)).map
    fun candidate => (candidate.rank, candidate.address)

theorem mem_resolverOffers {rank : BootstrapRank} {address : Bytes} :
    (rank, address) ∈ resolverOffers platform interfaces ↔
      OfferedResolver platform interfaces rank address := by
  unfold resolverOffers sortCandidates
  simp only [List.mem_map, List.mem_insertionSort, Prod.mk.injEq,
    mem_bootstrapCandidates]
  constructor
  · rintro ⟨_, ⟨info, position, _, endpoint, bytes, listed, rfl⟩, rfl, rfl⟩
    exact ⟨info, position, endpoint, bytes, listed, rfl⟩
  · rintro ⟨info, position, endpoint, bytes, listed, rfl⟩
    exact ⟨_, ⟨info, position, address, endpoint, bytes, listed, rfl⟩, rfl, rfl⟩

theorem OfferedResolver.mono {others : List InterfaceInfo} {rank : BootstrapRank}
    {address : Bytes} (more : interfaces ⊆ others)
    (offered : OfferedResolver platform interfaces rank address) :
    OfferedResolver platform others rank address := by
  obtain ⟨info, position, endpoint, bytes, listed, same⟩ := offered
  exact ⟨info, position, endpoint, bytes,
    { listed with member := more listed.member }, same⟩

theorem rank_eq {left right : BootstrapCandidate} (same : left.rank = right.rank) :
    left.interfaceId = right.interfaceId ∧ left.order = right.order := by
  simp only [BootstrapCandidate.rank, toLex_inj, Prod.mk.injEq] at same
  exact same.2.2

theorem interfaceCandidates_id {info : InterfaceInfo}
    {candidate : BootstrapCandidate}
    (member : candidate ∈ interfaceCandidates platform info) :
    candidate.interfaceId = info.id := by
  unfold interfaceCandidates at member
  split at member
  · cases member
  · obtain ⟨entry, _, found⟩ := List.mem_filterMap.mp member
    obtain ⟨_, _, _, _, _, same⟩ := bootstrapCandidate_eq_some.mp found
    rw [same]

theorem interfaceCandidates_ranks (info : InterfaceInfo) :
    (interfaceCandidates platform info).Pairwise
      fun left right => left.rank ≠ right.rank := by
  unfold interfaceCandidates
  split
  · exact List.Pairwise.nil
  · rw [List.pairwise_filterMap]
    have positions : (info.dnsServers.zipIdx.map Prod.snd).Nodup := by
      rw [List.zipIdx_map_snd]
      exact List.nodup_range'
    refine (List.pairwise_map.mp positions).imp ?_
    intro first second differ left leftFound right rightFound same
    obtain ⟨_, _, _, _, _, leftSame⟩ := bootstrapCandidate_eq_some.mp leftFound
    obtain ⟨_, _, _, _, _, rightSame⟩ := bootstrapCandidate_eq_some.mp rightFound
    have order := (rank_eq same).2
    rw [leftSame, rightSame] at order
    exact differ order

theorem bootstrapCandidates_ranks (distinct : DistinctIds interfaces) :
    (bootstrapCandidates platform interfaces).Pairwise
      fun left right => left.rank ≠ right.rank := by
  unfold bootstrapCandidates
  rw [List.pairwise_flatMap]
  refine ⟨fun info _ => interfaceCandidates_ranks info, ?_⟩
  refine (List.pairwise_map.mp distinct).imp ?_
  intro first second differ left inFirst right inSecond same
  have ids := (rank_eq same).1
  rw [interfaceCandidates_id inFirst, interfaceCandidates_id inSecond] at ids
  exact differ ids

theorem resolverOffers_increasing (distinct : DistinctIds interfaces) :
    (resolverOffers platform interfaces).Pairwise
      fun left right => left.1 < right.1 := by
  unfold resolverOffers
  rw [List.pairwise_map]
  have total : Std.Total fun a b : BootstrapCandidate => ¬ b.rank < a.rank :=
    ⟨fun a b => (le_total a.rank b.rank).imp not_lt_of_ge not_lt_of_ge⟩
  have transitive :
      IsTrans BootstrapCandidate fun a b => ¬ b.rank < a.rank :=
    ⟨fun _ _ _ first second => not_lt_of_ge
      (le_trans (le_of_not_gt first) (le_of_not_gt second))⟩
  have sorted := List.pairwise_insertionSort
    (fun a b : BootstrapCandidate => ¬ b.rank < a.rank)
    (bootstrapCandidates platform interfaces)
  have apart := (bootstrapCandidates_ranks distinct).perm
    (List.perm_insertionSort (fun a b : BootstrapCandidate => ¬ b.rank < a.rank)
      (bootstrapCandidates platform interfaces)).symm (fun differ => differ.symm)
  refine (sorted.and apart).imp ?_
  rintro first second ⟨notAfter, differ⟩
  exact lt_of_le_of_ne (le_of_not_gt notAfter) differ

theorem selectBootstrapDnsServers_ranking (distinct : DistinctIds interfaces) :
    RankedChoice.Ranking (resolverOffers platform interfaces)
      (selectBootstrapDnsServers platform interfaces) := by
  have kept := RankedChoice.ranking_keepAll
    (@resolverOffers_increasing platform interfaces distinct)
  unfold resolverOffers at kept ⊢
  rw [List.foldl_map] at kept
  exact kept

end Candidates

/-- Of adapters with different identifiers, the listed address texts that may
be resolvers are selected, each once and by their best ranks, whatever the order
of the adapters. -/
theorem selectBootstrapDnsServers_selection (platform : Platform)
    {interfaces : List InterfaceInfo} (distinct : DistinctIds interfaces) :
    BootstrapSelection platform interfaces
        (selectBootstrapDnsServers platform interfaces) ∧
      ∀ shuffled, shuffled.Perm interfaces →
        selectBootstrapDnsServers platform shuffled =
          selectBootstrapDnsServers platform interfaces := by
  have ranking := @selectBootstrapDnsServers_ranking platform interfaces distinct
  refine ⟨?_, ?_⟩
  · refine ⟨ranking.distinct, ?_, ranking.ordered.imp ?_⟩
    · intro address
      rw [ranking.offered]
      exact exists_congr fun rank => mem_resolverOffers
    · rintro first second ⟨rank, offered, before⟩
      refine ⟨rank, mem_resolverOffers.mp offered, ?_⟩
      intro other listed
      exact before other (mem_resolverOffers.mpr listed)
  · intro shuffled perm
    have distinctToo : DistinctIds shuffled :=
      (perm.map InterfaceInfo.id).nodup_iff.mpr distinct
    have other := @selectBootstrapDnsServers_ranking platform shuffled distinctToo
    refine other.unique ranking ?_
    rintro ⟨rank, address⟩
    rw [mem_resolverOffers, mem_resolverOffers]
    exact ⟨OfferedResolver.mono perm.subset, OfferedResolver.mono perm.symm.subset⟩

def adapterPlatform : Platform :=
  { ipv4Platform with
    parseIp := fun value =>
      if value = text "fe80::1" then
        some ([0xfe, 0x80, 0, 0, 0, 0, 0, 0, 0, 0, 0, 0, 0, 0, 0, 1], true)
      else if value = text "fec0:0:0:ffff::3" then
        some ([0xfe, 0xc0, 0, 0, 0, 0, 0xff, 0xff, 0, 0, 0, 0, 0, 0, 0, 3], true)
      else ipv4Platform.parseIp value }

/-- A virtual adapter without a gateway, a wireless one and a tunnel. -/
def threeAdapters : List InterfaceInfo :=
  [{ id := text "virtual"
     up := true
     metric4 := 1
     dnsServers :=
      [text "fe80::1", text "fe80::1%7", text "192.0.2.53",
        text "fec0:0:0:ffff::3%7"] },
    { id := text "wifi"
      up := true
      metric4 := 25
      gateways := [text "192.168.31.1"]
      dnsServers := [text "192.168.31.1", text "127.0.0.2", text "bad-address"] },
    { id := text "vpn"
      up := true
      metric4 := 5
      gateways := [text "192.168.31.1"]
      dnsServers := [text "10.0.0.53", text "192.168.31.1", text "224.0.0.1"] }]

theorem selectBootstrapDnsServers_selection_adapters :
    selectBootstrapDnsServers adapterPlatform threeAdapters =
        [text "10.0.0.53", text "192.168.31.1", text "fe80::1%7",
          text "192.0.2.53"] ∧
      BootstrapSelection adapterPlatform threeAdapters
        (selectBootstrapDnsServers adapterPlatform threeAdapters) ∧
      ∀ shuffled, shuffled.Perm threeAdapters →
        selectBootstrapDnsServers adapterPlatform shuffled =
          selectBootstrapDnsServers adapterPlatform threeAdapters := by
  have distinct : DistinctIds threeAdapters := by
    unfold DistinctIds
    decide +kernel
  exact ⟨by decide +kernel,
    selectBootstrapDnsServers_selection adapterPlatform distinct⟩

end NativeDNS

/-
The sizes of encrypted queries.

The padding is chosen in the exchange and rounded again where the query is
built.  Both attempts accept the same requests, the two computations agree on
the size of a TCP query, and a difference that wraps is never accepted.
-/
import NativeDNS.Dnscrypt.Encryption

namespace NativeDNS

open CheckedResult

/-- `randombytes_uniform` stays below its bound. -/
def Uniform (uniform : Nat → Nat) : Prop :=
  ∀ bound, 0 < bound → uniform bound < bound

/-- A TCP padding that the protocol allows for a request. -/
structure TcpPadding (requestSize padding : Nat) : Prop where
  lower : 1 ≤ padding
  upper : padding ≤ 256
  aligned : (requestSize + padding) % 64 = 0
  bounded : queryOverhead + requestSize + padding ≤ 4096

/-- A query of the sizes the protocol asks for. -/
structure SizedQuery (requestSize target : Nat) (tcp : Bool)
    (plain query : Packet) : Prop where
  length : query.length = queryOverhead + plain.length
  aligned : plain.length % 64 = 0
  bounded : query.length ≤ 4096
  udpLeast : tcp = false → 512 ≤ query.length
  tcpTarget : tcp = true → query.length = target ∧
    ∃ padding, TcpPadding requestSize padding ∧
      plain.length = requestSize + padding

section Sizes

variable {requestSize : Nat} {uniform : Nat → Nat}

theorem subtractSize_of_le {left right : Nat} (ordered : right ≤ left)
    (small : left < 2 ^ 64) : subtractSize left right = left - right := by
  unfold subtractSize
  omega

theorem queryOverhead_eq : queryOverhead = 68 :=
  rfl

def paddingChoices (requestSize : Nat) : Nat :=
  1 + (min 256 (4028 - requestSize) - (64 - requestSize % 64)) / 64

theorem queryTarget_tcp_eq (small : requestSize ≤ 3967) :
    queryTarget uniform requestSize true =
      .ok ((queryOverhead + requestSize + (64 - requestSize % 64) +
        uniform (paddingChoices requestSize) * 64) % 2 ^ 64) := by
  have difference : subtractSize (4096 - queryOverhead) requestSize =
      4028 - requestSize :=
    subtractSize_of_le (by rw [queryOverhead_eq]; omega) (by omega)
  unfold queryTarget paddingChoices
  rw [if_pos rfl, difference]
  dsimp only
  rw [rejectIf_of_not (by omega), ok_bind, pure_eq_ok]

theorem queryTarget_tcp (draws : Uniform uniform)
    (small : requestSize ≤ 3967) :
    ∃ padding, TcpPadding requestSize padding ∧
      queryTarget uniform requestSize true =
        .ok (queryOverhead + requestSize + padding) := by
  have drawn := draws (paddingChoices requestSize) (by
    unfold paddingChoices
    omega)
  rw [queryTarget_tcp_eq small]
  generalize uniform (paddingChoices requestSize) = choice at drawn ⊢
  unfold paddingChoices at drawn
  refine ⟨64 - requestSize % 64 + choice * 64, ?_, ?_⟩
  · exact
      { lower := by omega
        upper := by omega
        aligned := by omega
        bounded := by rw [queryOverhead_eq]; omega }
  · rw [queryOverhead_eq]
    congr 1
    omega

theorem exists_uniform_of_padding {padding : Nat}
    (allowed : TcpPadding requestSize padding) :
    ∃ outcome, Uniform outcome ∧
      queryTarget outcome requestSize true =
        .ok (queryOverhead + requestSize + padding) := by
  have lower := allowed.lower
  have upper := allowed.upper
  have aligned := allowed.aligned
  have bounded := allowed.bounded
  rw [queryOverhead_eq] at bounded
  obtain ⟨choice, choiceEq⟩ : ∃ choice,
      padding = 64 - requestSize % 64 + choice * 64 :=
    ⟨(padding - (64 - requestSize % 64)) / 64, by omega⟩
  have chosen : choice < paddingChoices requestSize := by
    unfold paddingChoices
    omega
  refine ⟨fun bound => if choice < bound then choice else 0, ?_, ?_⟩
  · intro bound positive
    dsimp only
    split <;> omega
  · rw [queryTarget_tcp_eq (by omega), if_pos chosen, queryOverhead_eq]
    congr 1
    omega

theorem paddedSize_tcp {padding : Nat} (allowed : TcpPadding requestSize padding) :
    paddedSize requestSize (queryOverhead + requestSize + padding) =
      requestSize + padding := by
  have lower := allowed.lower
  have aligned := allowed.aligned
  unfold paddedSize
  rw [queryOverhead_eq, if_pos (by omega)]
  omega

theorem paddedSize_udp (small : requestSize ≤ 3967) :
    paddedSize requestSize 512 % 64 = 0 ∧ requestSize < paddedSize requestSize 512 ∧
      448 ≤ paddedSize requestSize 512 ∧ paddedSize requestSize 512 ≤ 3968 := by
  unfold paddedSize
  rw [queryOverhead_eq, if_pos (by omega)]
  omega

theorem paddedSize_large (large : 3967 < requestSize) (target : Nat) :
    4096 < paddedSize requestSize target + queryOverhead := by
  unfold paddedSize
  rw [queryOverhead_eq]
  omega

end Sizes

section Queries

variable {sodium : Sodium} {uniform : Nat → Nat} {request : Packet}
  {certificate : DnsCryptCertificate} {clientSecret clientNonce shared : Bytes}

theorem paddedRequest_length {size : Nat} (fits : request.length < size) :
    (paddedRequest request size).length = size := by
  unfold paddedRequest
  rw [List.length_append, List.length_cons, List.length_replicate]
  omega

theorem buildDnscryptQuery_eq (correct : sodium.Correct)
    (header : 12 ≤ request.length) (small : request.length ≤ 4000)
    (keyed : dnscryptSharedKey sodium clientSecret certificate = .ok shared)
    {target : Nat} (within : target ≤ 4096)
    (fits : paddedSize request.length target + queryOverhead ≤ 4096) :
    ∃ clientPublic sealed,
      buildDnscryptQuery sodium request certificate clientSecret clientNonce
          target =
        .ok (certificate.clientMagic ++ clientPublic ++ clientNonce ++ sealed) ∧
      clientPublic.length = 32 ∧
      sodium.easyAfternm (boxOf certificate.encryptionSystem.toUInt16)
          (paddedRequest request (paddedSize request.length target))
          (clientNonce ++ List.replicate 12 0) shared =
        some sealed := by
  obtain ⟨clientPublic, derived, keySize⟩ := correct.publicKey clientSecret
  obtain ⟨sealed, boxed, _⟩ := correct.seals
    (boxOf certificate.encryptionSystem.toUInt16)
    (paddedRequest request (paddedSize request.length target))
    (clientNonce ++ List.replicate 12 0) shared
  refine ⟨clientPublic, sealed, ?_, keySize, boxed⟩
  unfold buildDnscryptQuery
  rw [rejectIf_of_not (by omega), ok_bind]
  dsimp only
  rw [rejectIf_of_not (by omega), ok_bind, derived]
  dsimp only
  rw [keyed, ok_bind, boxed]
  rfl

theorem buildDnscryptQuery_large (large : 3967 < request.length)
    (target : Nat) :
    ∃ message, buildDnscryptQuery sodium request certificate clientSecret
      clientNonce target = .error (sizeError message) := by
  have tooLarge := paddedSize_large large target
  unfold buildDnscryptQuery
  by_cases outside : request.length < 12 ∨ request.length > 4000 ∨ target > 4096
  · rw [rejectIf_of outside]
    exact ⟨_, rfl⟩
  · rw [rejectIf_of_not outside, ok_bind]
    dsimp only
    rw [rejectIf_of tooLarge]
    exact ⟨_, rfl⟩

/-- Too large a request is refused in either form, whichever computation
refuses it. -/
theorem encryptedQuery_large (large : 3967 < request.length) (tcp : Bool) :
    ∃ message, encryptedQuery sodium uniform request certificate clientSecret
      clientNonce tcp = .error (sizeError message) := by
  unfold encryptedQuery
  cases chosen : queryTarget uniform request.length tcp with
  | ok target =>
      exact buildDnscryptQuery_large large target
  | error error =>
      unfold queryTarget at chosen
      cases tcp with
      | false =>
          cases chosen
      | true =>
          rw [if_pos rfl] at chosen
          rcases bind_eq_error.mp chosen with refused | ⟨_, _, returned⟩
          · obtain ⟨_, rfl⟩ := rejectIf_eq_error.mp refused
            exact ⟨_, rfl⟩
          · cases returned

theorem encryptedQuery_small (correct : sodium.Correct)
    (header : 12 ≤ request.length) (small : request.length ≤ 3967)
    (magic : certificate.clientMagic.length = 8)
    (nonceSize : clientNonce.length = 12)
    (keyed : dnscryptSharedKey sodium clientSecret certificate = .ok shared)
    {target : Nat} {tcp : Bool}
    (chosen : queryTarget uniform request.length tcp = .ok target)
    (within : target ≤ 4096)
    (fits : paddedSize request.length target + queryOverhead ≤ 4096) :
    ∃ query,
      encryptedQuery sodium uniform request certificate clientSecret
          clientNonce tcp = .ok query ∧
        sodium.easyAfternm (boxOf certificate.encryptionSystem.toUInt16)
            (paddedRequest request (paddedSize request.length target))
            (clientNonce ++ List.replicate 12 0) shared =
          some (query.drop 52) ∧
        query.length = queryOverhead + paddedSize request.length target := by
  obtain ⟨clientPublic, sealed, built, keySize, boxed⟩ :=
    @buildDnscryptQuery_eq sodium request certificate clientSecret clientNonce
      shared correct header (by omega) keyed target within fits
  obtain ⟨other, boxedOther, boxSize⟩ := correct.seals
    (boxOf certificate.encryptionSystem.toUInt16)
    (paddedRequest request (paddedSize request.length target))
    (clientNonce ++ List.replicate 12 0) shared
  rw [boxed] at boxedOther
  cases boxedOther
  have front : (certificate.clientMagic ++ clientPublic ++
      clientNonce).length = 52 := by
    rw [List.length_append, List.length_append, magic, keySize, nonceSize]
  have longer : request.length < paddedSize request.length target := by
    unfold paddedSize
    omega
  rw [paddedRequest_length longer] at boxSize
  refine ⟨certificate.clientMagic ++ clientPublic ++ clientNonce ++ sealed, ?_,
    ?_, ?_⟩
  · unfold encryptedQuery
    rw [chosen, ok_bind]
    exact built
  · rw [List.drop_append_of_le_length (Nat.le_of_eq front.symm),
      List.drop_eq_nil_of_le (Nat.le_of_eq front), List.nil_append]
    exact boxed
  · rw [List.length_append, front, boxSize, queryOverhead_eq]
    unfold macBytes
    omega

end Queries

/-- Both attempts encrypt exactly the requests of at most 3967 bytes, at sizes
within the protocol, and every padding of a TCP query can be drawn. -/
theorem encryptedQuery_sizes {sodium : Sodium} (correct : sodium.Correct)
    {uniform : Nat → Nat} (draws : Uniform uniform) {request : Packet}
    (header : 12 ≤ request.length) {certificate : DnsCryptCertificate}
    {clientSecret clientNonce shared : Bytes}
    (magic : certificate.clientMagic.length = 8)
    (nonceSize : clientNonce.length = 12)
    (keyed : dnscryptSharedKey sodium clientSecret certificate = .ok shared) :
    (∀ tcp, request.length ≤ 3967 →
      ∃ target plain query,
        queryTarget uniform request.length tcp = .ok target ∧
        encryptedQuery sodium uniform request certificate clientSecret
            clientNonce tcp = .ok query ∧
        sodium.easyAfternm (boxOf certificate.encryptionSystem.toUInt16) plain
            (clientNonce ++ List.replicate 12 0) shared =
          some (query.drop 52) ∧
        SizedQuery request.length target tcp plain query) ∧
    (∀ tcp, 3967 < request.length →
      ∃ message, encryptedQuery sodium uniform request certificate
        clientSecret clientNonce tcp = .error (sizeError message)) ∧
    (∀ padding, TcpPadding request.length padding →
      ∃ outcome, Uniform outcome ∧
        queryTarget outcome request.length true =
          .ok (queryOverhead + request.length + padding)) := by
  refine ⟨?_, fun tcp large => encryptedQuery_large large tcp,
    fun padding allowed => exists_uniform_of_padding allowed⟩
  intro tcp small
  cases tcp with
  | false =>
      obtain ⟨aligned, longer, least, most⟩ := paddedSize_udp small
      obtain ⟨query, encrypted, boxed, length⟩ :=
        @encryptedQuery_small sodium uniform request certificate clientSecret
          clientNonce shared correct header small magic nonceSize keyed 512
          false rfl (by omega) (by rw [queryOverhead_eq]; omega)
      have plainLength := paddedRequest_length longer
      rw [queryOverhead_eq] at length
      refine ⟨512, _, query, rfl, encrypted, boxed, ?_⟩
      exact
        { length := by rw [plainLength, queryOverhead_eq]; exact length
          aligned := by rw [plainLength]; exact aligned
          bounded := by omega
          udpLeast := fun _ => by omega
          tcpTarget := fun impossible => Bool.noConfusion impossible }
  | true =>
      obtain ⟨padding, allowed, chosen⟩ := queryTarget_tcp draws small
      have size := paddedSize_tcp allowed
      have bounded := allowed.bounded
      have lower := allowed.lower
      obtain ⟨query, encrypted, boxed, length⟩ :=
        @encryptedQuery_small sodium uniform request certificate clientSecret
          clientNonce shared correct header small magic nonceSize keyed _ true
          chosen bounded (by rw [size]; omega)
      have plainLength := @paddedRequest_length request
        (paddedSize request.length (queryOverhead + request.length + padding))
        (by omega)
      refine ⟨_, _, query, chosen, encrypted, boxed, ?_⟩
      exact
        { length := by rw [plainLength]; exact length
          aligned := by rw [plainLength, size]; exact allowed.aligned
          bounded := by omega
          udpLeast := fun impossible => Bool.noConfusion impossible
          tcpTarget := fun _ => ⟨by omega, padding, allowed, by omega⟩ }

/-- The query vector has the largest size that can be drawn for its request. -/
theorem encryptedQuery_sizes_vector :
    ∃ target plain query,
      queryTarget (fun bound => bound - 1) vectorQuery.length true =
          .ok target ∧
        encryptedQuery recordedSodium (fun bound => bound - 1) vectorQuery
          vectorCertificate vectorSecret vectorClientNonce true = .ok query ∧
        SizedQuery vectorQuery.length target true plain query := by
  obtain ⟨target, plain, query, chosen, encrypted, _, sized⟩ :=
    (@encryptedQuery_sizes recordedSodium recordedSodium_correct
      (fun bound => bound - 1) (fun bound positive => by dsimp only; omega)
      vectorQuery (by decide) vectorCertificate vectorSecret vectorClientNonce
      vectorShared (by decide) (by rfl) (by decide +kernel)).1 true (by decide)
  exact ⟨target, plain, query, chosen, encrypted, sized⟩

example : encryptedQuery recordedSodium (fun bound => bound - 1) vectorQuery
    vectorCertificate vectorSecret vectorClientNonce true =
      .ok (vectorCertificate.clientMagic ++ vectorPublic ++ vectorClientNonce ++
        vectorSealedQuery) := by
  decide +kernel

end NativeDNS

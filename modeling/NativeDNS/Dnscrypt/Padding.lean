/-
What a padded message of DNSCrypt stands for.

The sender puts a mark and zeros behind a request; the receiver scans back
over the zeros of a response.  Both follow one rule, so the message is read
back whatever it ends in, and the box binds it to the nonce of the query.
-/
import NativeDNS.Dnscrypt.Encryption
import NativeDNS.Library.MarkedPadding

namespace NativeDNS

open CheckedResult
open MarkedPadding (Padded content padded_iff exists_content_append)

abbrev PaddedMessage (message plain : Packet) : Prop :=
  Padded (0x80 : UInt8) 0 message plain

/-! ### The scan over the zeros -/

theorem contentEnd_append {front : Packet} (last : UInt8) :
    ∀ {bound : Nat}, bound ≤ front.length →
      contentEnd (front ++ [last]) bound = contentEnd front bound := by
  intro bound inside
  induction bound with
  | zero =>
      rfl
  | succ bound ih =>
      rw [contentEnd, contentEnd, byteAt_append_left (by omega),
        ih (by omega)]

theorem contentEnd_eq (plain : Packet) :
    contentEnd plain plain.length = (content 0 plain).length := by
  induction plain using List.reverseRecOn with
  | nil =>
      rfl
  | append_singleton front last ih =>
      have here : byteAt (front ++ [last]) front.length = last := by
        rw [byteAt_append_right (Nat.le_refl _), Nat.sub_self]
        rfl
      have length : (front ++ [last]).length = front.length + 1 := by
        rw [List.length_append, List.length_singleton]
      rw [length, contentEnd, here]
      by_cases zero : last = 0
      · rw [if_pos zero, contentEnd_append last (Nat.le_refl _), ih, content,
          content, List.rdropWhile_concat_pos (· == 0) front last
            (beq_iff_eq.mpr zero)]
      · rw [if_neg zero, content, List.rdropWhile_concat_neg (· == 0) front last
          (fun same => zero (eq_of_beq same)), length]

theorem unpadResponse_eq_ok {plain message : Packet} :
    unpadResponse plain = .ok message ↔ PaddedMessage message plain := by
  have distinct : (0x80 : UInt8) ≠ 0 := by decide
  rw [PaddedMessage, padded_iff distinct]
  obtain ⟨count, split⟩ := exists_content_append (0 : UInt8) plain
  have behind := contentEnd_eq plain
  generalize content (0 : UInt8) plain = front at split behind
  simp only [unpadResponse, bind_eq_ok, rejectIf_eq_ok, pure_eq_ok, behind]
  rcases List.eq_nil_or_concat front with empty | ⟨before, last, concat⟩
  · constructor
    · rintro ⟨_, found, _⟩
      exact absurd (Or.inl (by rw [empty]; rfl)) found
    · intro marked
      rw [empty] at marked
      have length := congrArg List.length marked
      rw [List.length_append, List.length_singleton, List.length_nil] at length
      omega
  · rw [List.concat_eq_append] at concat
    subst concat
    have length : (before ++ [last]).length - 1 = before.length := by
      rw [List.length_append, List.length_singleton]
      omega
    have final : byteAt plain before.length = last := by
      rw [split, byteAt_append_left (by
          rw [List.length_append, List.length_singleton]
          omega),
        byteAt_append_right (Nat.le_refl _), Nat.sub_self]
      rfl
    have taken : plain.take before.length = before := by
      rw [split, List.append_assoc, List.take_left]
    rw [length, final, taken]
    constructor
    · rintro ⟨_, found, same⟩
      have marked : last = 0x80 :=
        not_not.mp (fun different => found (Or.inr different))
      rw [← Except.ok.inj same, marked]
    · intro same
      obtain ⟨sameFront, sameLast⟩ := List.append_inj' same rfl
      refine ⟨(), ?_, congrArg Except.ok sameFront⟩
      intro failing
      rcases failing with emptied | different
      · rw [List.length_append, List.length_singleton] at emptied
        omega
      · exact different (List.singleton_inj.mp sameLast)

/-! ### Responses -/

/-- A response that carries a message for a query: its nonce begins with that
of the query, and its box holds the padded message. -/
structure ResponseOf (sodium : Sodium) (sharedKey clientNonce : Bytes)
    (encryptionSystem : UInt16) (message resolverNonce plain sealed response :
      Packet) : Prop where
  nonceSize : resolverNonce.length = 12
  padded : PaddedMessage message plain
  boxed : sodium.easyAfternm (boxOf encryptionSystem) plain
    (clientNonce ++ resolverNonce) sharedKey = some sealed
  layout : response = resolverMagic ++ clientNonce ++ resolverNonce ++ sealed

section Responses

variable {sodium : Sodium} {response message : Packet}
  {sharedKey clientNonce : Bytes} {encryptionSystem : UInt16}

theorem take_append_slice_append {packet : Packet} {first second : Nat} :
    packet.take first ++ slice packet first second ++
        packet.drop (first + second) = packet := by
  unfold slice
  rw [List.append_assoc, ← List.drop_drop, List.take_append_drop,
    List.take_append_drop]

theorem slices_of_layout (clientSize : clientNonce.length = 12)
    {resolverNonce sealed : Packet} (resolverSize : resolverNonce.length = 12)
    (layout : response = resolverMagic ++ clientNonce ++ resolverNonce ++ sealed) :
    response.take 8 = resolverMagic ∧ slice response 8 12 = clientNonce ∧
      slice response 8 24 = clientNonce ++ resolverNonce ∧
      response.drop 32 = sealed := by
  have magicSize : resolverMagic.length = 8 := rfl
  have behindMagic : response.drop 8 =
      (clientNonce ++ resolverNonce) ++ sealed := by
    rw [layout, List.append_assoc, List.append_assoc, ← magicSize,
      List.drop_left, List.append_assoc]
  refine ⟨?_, ?_, ?_, ?_⟩
  · rw [layout, List.append_assoc, List.append_assoc, ← magicSize,
      List.take_left]
  · unfold slice
    rw [behindMagic, List.append_assoc, ← clientSize, List.take_left]
  · have both : (clientNonce ++ resolverNonce).length = 24 := by
      rw [List.length_append, clientSize, resolverSize]
    unfold slice
    rw [behindMagic, ← both, List.take_left]
  · have both : (clientNonce ++ resolverNonce).length = 24 := by
      rw [List.length_append, clientSize, resolverSize]
    have behind : response.drop (8 + 24) = sealed := by
      rw [← List.drop_drop, behindMagic, ← both, List.drop_left]
    exact behind

/-- A response is accepted exactly when it carries a message of at least a
header for the query it is opened for, and that message is returned. -/
theorem openDnscryptResponse_eq_ok (correct : sodium.Correct)
    (clientSize : clientNonce.length = 12) :
    openDnscryptResponse sodium response sharedKey clientNonce
        encryptionSystem = .ok message ↔
      (encryptionSystem = 1 ∨ encryptionSystem = 2) ∧ 12 ≤ message.length ∧
        ∃ resolverNonce plain sealed,
          ResponseOf sodium sharedKey clientNonce encryptionSystem message
            resolverNonce plain sealed response := by
  simp only [openDnscryptResponse, bind_eq_ok, rejectIf_eq_ok]
  constructor
  · rintro ⟨_, header, _, nonce, _, supported, run⟩
    have long : 49 ≤ response.length :=
      Nat.le_of_not_lt (fun short => header (Or.inl short))
    have magic : response.take 8 = resolverMagic :=
      not_not.mp (fun different => header (Or.inr different))
    have client : slice response 8 12 = clientNonce := not_not.mp nonce
    cases opened : sodium.openEasyAfternm (boxOf encryptionSystem)
        (response.drop 32) (slice response 8 24) sharedKey with
    | none =>
        rw [opened] at run
        cases run
    | some plain =>
        rw [opened] at run
        simp only [bind_eq_ok, rejectIf_eq_ok, pure_eq_ok] at run
        obtain ⟨found, unpadded, _, size, returned⟩ := run
        cases returned
        refine ⟨(not_and_or.mp supported).imp not_not.mp not_not.mp, by omega,
          slice response 20 12, plain, response.drop 32, ?_⟩
        have nonces : slice response 8 24 =
            clientNonce ++ slice response 20 12 := by
          rw [← client]
          unfold slice
          rw [← List.take_append_drop 12 ((response.drop 8).take 24),
            List.take_take, List.drop_take, List.drop_drop]
          rfl
        have sealedBox := (correct.opens _ _ _ _ _).mp opened
        rw [nonces] at sealedBox
        refine ⟨slice_length (by omega), unpadResponse_eq_ok.mp unpadded,
          sealedBox, ?_⟩
        have parts := @take_append_slice_append response 8 24
        rw [magic, nonces, ← List.append_assoc] at parts
        exact parts.symm
  · rintro ⟨supported, size, resolverNonce, plain, sealed, carried⟩
    obtain ⟨magic, client, nonces, box⟩ :=
      slices_of_layout clientSize carried.nonceSize carried.layout
    obtain ⟨other, boxed, boxSize⟩ := correct.seals (boxOf encryptionSystem)
      plain (clientNonce ++ resolverNonce) sharedKey
    rw [carried.boxed] at boxed
    cases boxed
    obtain ⟨count, padded⟩ := carried.padded
    have plainSize := congrArg List.length padded
    rw [List.length_append, List.length_cons] at plainSize
    have length := congrArg List.length carried.layout
    have magicSize : resolverMagic.length = 8 := rfl
    rw [List.length_append, List.length_append, List.length_append, magicSize,
      clientSize, carried.nonceSize, boxSize] at length
    have macSize : macBytes = 16 := rfl
    have opened := (correct.opens _ _ _ _ _).mpr carried.boxed
    refine ⟨(), ?_, (), fun different => different client, (),
      fun neither => supported.elim neither.1 neither.2, ?_⟩
    · intro failing
      rcases failing with short | different
      · omega
      · exact different magic
    · rw [nonces, box, opened]
      simp only [bind_eq_ok, rejectIf_eq_ok, pure_eq_ok]
      exact ⟨message, unpadResponse_eq_ok.mpr carried.padded, (), by omega, rfl⟩

end Responses

/-! ### Queries -/

/-- A query that carries a request: the box of its padded plaintext under the
nonce of the query, behind the header. -/
structure QueryOf (sodium : Sodium) (certificate : DnsCryptCertificate)
    (shared clientNonce : Bytes) (request plain sealed query : Packet) :
    Prop where
  padded : PaddedMessage request plain
  unpads : unpadResponse plain = .ok request
  boxed : sodium.easyAfternm (boxOf certificate.encryptionSystem.toUInt16) plain
    (clientNonce ++ List.replicate 12 0) shared = some sealed
  layout : ∃ clientPublic,
    query = certificate.clientMagic ++ clientPublic ++ clientNonce ++ sealed

theorem buildDnscryptQuery_carries {sodium : Sodium} {request query : Packet}
    {certificate : DnsCryptCertificate} {clientSecret clientNonce : Bytes}
    {target : Nat}
    (built : buildDnscryptQuery sodium request certificate clientSecret
      clientNonce target = .ok query) :
    ∃ shared plain sealed,
      dnscryptSharedKey sodium clientSecret certificate = .ok shared ∧
        QueryOf sodium certificate shared clientNonce request plain sealed
          query := by
  have padded : PaddedMessage request
      (paddedRequest request (paddedSize request.length target)) :=
    ⟨_, rfl⟩
  simp only [buildDnscryptQuery, bind_eq_ok, rejectIf_eq_ok] at built
  obtain ⟨_, _, _, _, run⟩ := built
  cases derived : sodium.scalarmultBase clientSecret with
  | none =>
      rw [derived] at run
      cases run
  | some clientPublic =>
      rw [derived] at run
      simp only [bind_eq_ok] at run
      obtain ⟨shared, keyed, run⟩ := run
      cases boxed : sodium.easyAfternm
          (boxOf certificate.encryptionSystem.toUInt16)
          (paddedRequest request (paddedSize request.length target))
          (clientNonce ++ List.replicate 12 0) shared with
      | none =>
          rw [boxed] at run
          cases run
      | some sealed =>
          rw [boxed] at run
          cases run
          exact ⟨shared, _, sealed, keyed,
            { padded := padded
              unpads := unpadResponse_eq_ok.mpr padded
              boxed := boxed
              layout := ⟨clientPublic, rfl⟩ }⟩

/-- Padding and nonces bind a message in both directions: a response opens to
the message it was padded from, whatever is returned was padded into a box for
this query, and the plaintext of a query unpads to its request. -/
theorem dnscryptPadding_binds {sodium : Sodium} (correct : sodium.Correct)
    {clientNonce : Bytes} (clientSize : clientNonce.length = 12)
    (sharedKey : Bytes) :
    (∀ (encryptionSystem : UInt16) (message resolverNonce sealed : Packet)
        (count : Nat),
      encryptionSystem = 1 ∨ encryptionSystem = 2 → 12 ≤ message.length →
        resolverNonce.length = 12 →
        sodium.easyAfternm (boxOf encryptionSystem)
            (message ++ 0x80 :: List.replicate count 0)
            (clientNonce ++ resolverNonce) sharedKey = some sealed →
          openDnscryptResponse sodium
              (resolverMagic ++ clientNonce ++ resolverNonce ++ sealed)
              sharedKey clientNonce encryptionSystem = .ok message) ∧
    (∀ (encryptionSystem : UInt16) (response message : Packet),
      openDnscryptResponse sodium response sharedKey clientNonce
          encryptionSystem = .ok message →
        slice response 8 12 = clientNonce ∧
          ∃ count,
            sodium.openEasyAfternm (boxOf encryptionSystem) (response.drop 32)
                (slice response 8 24) sharedKey =
              some (message ++ 0x80 :: List.replicate count 0)) ∧
    (∀ (request query : Packet) (certificate : DnsCryptCertificate)
        (clientSecret : Bytes) (target : Nat),
      buildDnscryptQuery sodium request certificate clientSecret clientNonce
          target = .ok query →
        ∃ shared plain sealed,
          dnscryptSharedKey sodium clientSecret certificate = .ok shared ∧
            QueryOf sodium certificate shared clientNonce request plain sealed
              query) := by
  refine ⟨?_, ?_, fun _ _ _ _ _ built => buildDnscryptQuery_carries built⟩
  · intro encryptionSystem message resolverNonce sealed count supported size
      nonceSize boxed
    exact (openDnscryptResponse_eq_ok correct clientSize).mpr
      ⟨supported, size, resolverNonce, _, sealed,
        { nonceSize := nonceSize
          padded := ⟨count, rfl⟩
          boxed := boxed
          layout := rfl }⟩
  · intro encryptionSystem response message opened
    obtain ⟨_, _, resolverNonce, plain, sealed, carried⟩ :=
      (openDnscryptResponse_eq_ok correct clientSize).mp opened
    obtain ⟨_, client, nonces, box⟩ :=
      slices_of_layout clientSize carried.nonceSize carried.layout
    obtain ⟨count, padded⟩ := carried.padded
    have inside := (correct.opens _ _ _ _ _).mpr carried.boxed
    rw [padded] at inside
    refine ⟨client, count, ?_⟩
    rw [box, nonces]
    exact inside

/-- The response vector opens to its message. -/
theorem dnscryptPadding_binds_vector :
    openDnscryptResponse recordedSodium
        (resolverMagic ++ vectorClientNonce ++ vectorResolverNonce ++
          vectorSealed) vectorShared vectorClientNonce 2 =
      .ok vectorMessage := by
  have recorded : recordedSodium.easyAfternm (boxOf 2)
      (vectorMessage ++ 0x80 :: List.replicate 14 0)
      (vectorClientNonce ++ vectorResolverNonce) vectorShared =
        some vectorSealed :=
    congrArg some (by decide +kernel)
  exact (@dnscryptPadding_binds recordedSodium recordedSodium_correct
    vectorClientNonce (by rfl) vectorShared).1 2 vectorMessage
    vectorResolverNonce vectorSealed 14 (Or.inr rfl) (by decide) (by rfl)
    recorded

end NativeDNS
